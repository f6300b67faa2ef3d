import SymbolSearch.Proofs.Rpc.Endings
import SymbolSearch.Rpc.Source

/-!
# What a reader of frames hands out

A reader reads its source only when it has nothing to hand out, and it reads on as long as the
bytes bring no event.  All the same it hands out the events of the decoder, in order, and then
what the source says at last.

* `Piece.cuts` — the reads that a piece comes to; `Source.reads` — those of a whole source.
* `FrameReader.toCome`, `FrameReader.lastItem` — the items that a reader has yet to hand out, and
  the item that it hands out from then on.
* `FrameReader.handsOut_nextItem` — a call hands out the first item to come and leaves the others.
* `FrameReader.result_eq` — so the calls hand out the items to come, one after the other, and then
  the last item for ever.
* `FrameReader.results_deliver_events` — what this means for a reader that starts.
-/

namespace SymbolSearch

open FrameDecoder

/-! ### What a source brings -/

namespace Piece

variable {piece rest : Piece}

theorem front_of_whole (h : piece.rest? = none) : piece.front = piece.bytes := by
  have hshort : piece.bytes.size ≤ readChunkBytes := by simpa [rest?] using h
  rw [front, ← Nat.max_eq_left hshort, ByteArray.extract_zero_max_size]

theorem front_append (h : piece.rest? = some rest) : piece.front ++ rest.bytes = piece.bytes := by
  rw [rest?, Option.dite_none_right_eq_some] at h
  obtain ⟨hlong, hrest⟩ := h
  obtain rfl := Option.some.inj hrest
  rw [front, ByteArray.extract_append_extract, Nat.zero_min, ByteArray.extract_zero_max_size]

/-- The reads that a piece comes to. -/
def cuts (piece : Piece) : List ByteArray :=
  match _hrest : piece.rest? with
  | some rest => piece.front :: rest.cuts
  | none => [piece.front]
termination_by piece.bytes.size
decreasing_by exact size_of_rest? _hrest

theorem cuts_of_rest (h : piece.rest? = some rest) : piece.cuts = piece.front :: rest.cuts := by
  rw [cuts]
  split
  next later hlater => rw [Option.some.inj (h.symm.trans hlater)]
  next hnone => exact absurd (h.symm.trans hnone) (by simp)

theorem cuts_of_whole (h : piece.rest? = none) : piece.cuts = [piece.front] := by
  rw [cuts]
  split
  next later hlater => exact absurd (h.symm.trans hlater) (by simp)
  next => rfl

/-- The reads bring the bytes of the piece, each of them once and in order. -/
theorem joined_cuts (piece : Piece) : joined piece.cuts = piece.bytes := by
  fun_induction cuts piece with
  | case1 piece rest hrest ih => rw [joined_cons, ih, front_append hrest]
  | case2 piece hwhole =>
    rw [joined_cons, joined_nil, ByteArray.append_empty, front_of_whole hwhole]

end Piece

namespace Source

variable {source : Source} {chunk : ByteArray} {later : List ByteArray}

/-- The reads that bring bytes. -/
def reads (source : Source) : List ByteArray := source.pieces.flatMap Piece.cuts

/-- The bytes that the source brings. -/
def bytes (source : Source) : ByteArray := joined (source.pieces.map Piece.bytes)

theorem joined_reads (source : Source) : joined source.reads = source.bytes := by
  obtain ⟨pieces, failure⟩ := source
  unfold reads bytes
  induction pieces with
  | nil => rfl
  | cons piece rest ih =>
    rw [List.flatMap_cons, joined_append, Piece.joined_cuts, ih, List.map_cons, joined_cons]

/-- A piece comes to one read at least. -/
theorem read_of_reads_nil (h : source.reads = []) : source.read = (source.lastRead, source) := by
  obtain ⟨pieces, failure⟩ := source
  cases pieces with
  | nil => rfl
  | cons piece rest =>
    rw [reads, List.flatMap_cons, List.append_eq_nil_iff] at h
    cases hrest : piece.rest? with
    | none => simp [Piece.cuts_of_whole hrest] at h
    | some more => simp [Piece.cuts_of_rest hrest] at h

/-- One read brings the first of the reads and leaves the others. -/
theorem read_of_reads_cons (h : source.reads = chunk :: later) :
    source.read.1 = .bytes chunk ∧ source.read.2.reads = later ∧
      source.read.2.failure = source.failure := by
  obtain ⟨pieces, failure⟩ := source
  cases pieces with
  | nil => cases h
  | cons piece rest =>
    rw [reads, List.flatMap_cons] at h
    -- The first piece is used up, or its rest stands first.
    cases hrest : piece.rest? with
    | none =>
      rw [Piece.cuts_of_whole hrest] at h
      obtain ⟨rfl, rfl⟩ := List.cons.inj h
      simp [read, reads, hrest]
    | some more =>
      rw [Piece.cuts_of_rest hrest] at h
      obtain ⟨rfl, rfl⟩ := List.cons.inj h
      simp [read, reads, hrest]

/-- What a reader hands out for every read behind the last piece. -/
def lastItem (source : Source) : FrameReader.Item :=
  match source.failure with
  | none => .ended
  | some reason => .failed reason

/-- What a reader hands out when the source ends, and the decoder is inside a block. -/
def brokenOff (source : Source) (decoder : FrameDecoder) : List FrameReader.Item :=
  if source.failure = none ∧ decoder.midFrame = true then [.event (.error .unexpectedEnd)] else []

end Source

namespace FrameReader

/-! ### One call -/

/-- The items that a reader has yet to hand out before its last item. -/
def toCome (r : FrameReader) (source : Source) : List Item :=
  r.queued.map .event ++
    if r.ended then []
    else
      (r.decoder.feedAll source.reads).2.map .event ++
        source.brokenOff (r.decoder.feedAll source.reads).1

/-- The item that a reader hands out from then on. -/
def lastItem (r : FrameReader) (source : Source) : Item :=
  if r.ended then .ended else source.lastItem

variable {decoder : FrameDecoder} {source : Source}

theorem nextItem_queued (event : FrameEvent) (rest : List FrameEvent) (ended : Bool) :
    nextItem ⟨decoder, event :: rest, ended⟩ source =
      (.event event, ⟨decoder, rest, ended⟩, source) := by
  rw [nextItem]
  rfl

theorem nextItem_ended :
    nextItem ⟨decoder, [], true⟩ source = (.ended, ⟨decoder, [], true⟩, source) := by
  rw [nextItem]
  rfl

/-- A read that leads to an item, for a reader that has nothing to hand out. -/
theorem nextItem_of_some {item : Item} {next : FrameReader}
    (h : absorb ⟨decoder, [], false⟩ source.read.1 = (some item, next)) :
    nextItem ⟨decoder, [], false⟩ source = (item, next, source.read.2) := by
  rw [nextItem]
  simp only [next?, Bool.false_eq_true, if_false]
  split
  next found later hfound =>
    rw [h] at hfound
    obtain ⟨hitem, rfl⟩ := Prod.mk.inj hfound
    rw [Option.some.inj hitem]
  next later hnone => exact absurd (h.symm.trans hnone) (by simp)

/-- A read that leads to none. -/
theorem nextItem_of_none {next : FrameReader}
    (h : absorb ⟨decoder, [], false⟩ source.read.1 = (none, next)) :
    nextItem ⟨decoder, [], false⟩ source = next.nextItem source.read.2 := by
  rw [nextItem]
  simp only [next?, Bool.false_eq_true, if_false]
  split
  next found later hfound => exact absurd (h.symm.trans hfound) (by simp)
  next later hnone => rw [(Prod.mk.inj (h.symm.trans hnone)).2]

/-- A read that brings bytes leads to what the reader hands out with their events in its queue. -/
theorem nextItem_bytes {chunk : ByteArray} (h : source.read.1 = .bytes chunk) :
    nextItem ⟨decoder, [], false⟩ source =
      nextItem ⟨(decoder.feed chunk).1, (decoder.feed chunk).2, false⟩ source.read.2 := by
  have habsorb : absorb ⟨decoder, [], false⟩ source.read.1 =
      next? ⟨(decoder.feed chunk).1, (decoder.feed chunk).2, false⟩ := by
    rw [h]
    rfl
  -- Without an event the reader reads on, and with one it hands out the first.
  cases hevents : (decoder.feed chunk).2 with
  | nil =>
    rw [hevents] at habsorb
    exact nextItem_of_none habsorb
  | cons event rest =>
    rw [hevents] at habsorb
    rw [nextItem_of_some habsorb, nextItem_queued]

/-- Behind the last piece, what the source says is handed out at once. -/
theorem nextItem_failed {reason : String} (h : source.read = (.failed reason, source)) :
    nextItem ⟨decoder, [], false⟩ source = (.failed reason, ⟨decoder, [], false⟩, source) := by
  rw [nextItem_of_some (by rw [h]; rfl), h]

theorem nextItem_end (h : source.read = (.ended, source)) :
    nextItem ⟨decoder, [], false⟩ source =
      (if decoder.midFrame then .event (.error .unexpectedEnd) else .ended,
        ⟨decoder, [], true⟩, source) := by
  have habsorb : absorb ⟨decoder, [], false⟩ source.read.1 =
      (some (if decoder.midFrame then .event (.error .unexpectedEnd) else .ended),
        ⟨decoder, [], true⟩) := by
    rw [h, absorb]
    split <;> rfl
  rw [nextItem_of_some habsorb, h]

/-- A call hands out the first item to come, or the last item, and leaves the others. -/
structure HandsOut (r : FrameReader) (source : Source) (call : Item × FrameReader × Source) :
    Prop where
  item : call.1 = (r.toCome source).head?.getD (r.lastItem source)
  toCome : call.2.1.toCome call.2.2 = (r.toCome source).tail
  lastItem : call.2.1.lastItem call.2.2 = r.lastItem source

namespace HandsOut

theorem queued (event : FrameEvent) (rest : List FrameEvent) (ended : Bool) :
    HandsOut ⟨decoder, event :: rest, ended⟩ source
      (nextItem ⟨decoder, event :: rest, ended⟩ source) := by
  rw [nextItem_queued]
  exact ⟨rfl, rfl, rfl⟩

theorem ended : HandsOut ⟨decoder, [], true⟩ source (nextItem ⟨decoder, [], true⟩ source) := by
  rw [nextItem_ended]
  exact ⟨rfl, rfl, rfl⟩

theorem lastRead (h : source.reads = []) :
    HandsOut ⟨decoder, [], false⟩ source (nextItem ⟨decoder, [], false⟩ source) := by
  have hread := Source.read_of_reads_nil h
  cases hfailure : source.failure with
  | some reason =>
    rw [Source.lastRead, hfailure] at hread
    rw [nextItem_failed hread]
    constructor <;>
      simp [FrameReader.toCome, FrameReader.lastItem, h, feedAll, Source.brokenOff, hfailure,
        Source.lastItem]
  | none =>
    rw [Source.lastRead, hfailure] at hread
    rw [nextItem_end hread]
    cases hmid : decoder.midFrame <;> constructor <;>
      simp [FrameReader.toCome, FrameReader.lastItem, h, feedAll, Source.brokenOff, hfailure, hmid,
        Source.lastItem]

/-- The events of a read are handed out before those of the reads that follow. -/
theorem bytes {chunk : ByteArray} {later : List ByteArray} (h : source.reads = chunk :: later)
    (hnext : HandsOut ⟨(decoder.feed chunk).1, (decoder.feed chunk).2, false⟩ source.read.2
      (nextItem ⟨(decoder.feed chunk).1, (decoder.feed chunk).2, false⟩ source.read.2)) :
    HandsOut ⟨decoder, [], false⟩ source (nextItem ⟨decoder, [], false⟩ source) := by
  obtain ⟨hread, hlater, hfailure⟩ := Source.read_of_reads_cons h
  have hcome : FrameReader.toCome ⟨decoder, [], false⟩ source =
      FrameReader.toCome ⟨(decoder.feed chunk).1, (decoder.feed chunk).2, false⟩ source.read.2 := by
    simp [FrameReader.toCome, h, hlater, feedAll, Source.brokenOff, hfailure]
  have hlast : FrameReader.lastItem ⟨decoder, [], false⟩ source = FrameReader.lastItem
      ⟨(decoder.feed chunk).1, (decoder.feed chunk).2, false⟩ source.read.2 := by
    simp [FrameReader.lastItem, Source.lastItem, hfailure]
  rw [nextItem_bytes hread]
  exact
    { item := by rw [hcome, hlast, hnext.item]
      toCome := by rw [hcome, hnext.toCome]
      lastItem := by rw [hlast, hnext.lastItem] }

end HandsOut

/-- **A call hands out the next item**, whatever the reader has in its queue. -/
theorem handsOut_nextItem (r : FrameReader) (source : Source) :
    HandsOut r source (r.nextItem source) := by
  -- Along the reads that are left: only a reader without items takes one of them.
  generalize hreads : source.reads = reads
  induction reads generalizing r source with
  | nil =>
    match r with
    | ⟨decoder, event :: rest, ended⟩ => exact .queued event rest ended
    | ⟨decoder, [], true⟩ => exact .ended
    | ⟨decoder, [], false⟩ => exact .lastRead hreads
  | cons chunk later ih =>
    match r with
    | ⟨decoder, event :: rest, ended⟩ => exact .queued event rest ended
    | ⟨decoder, [], true⟩ => exact .ended
    | ⟨decoder, [], false⟩ =>
      exact .bytes hreads (ih _ _ (Source.read_of_reads_cons hreads).2.1)

/-! ### All calls -/

/-- The result of the call with the number `k`, from zero on. -/
def result (r : FrameReader) (source : Source) : Nat → Item
  | 0 => (r.nextItem source).1
  | k + 1 => (r.nextItem source).2.1.result (r.nextItem source).2.2 k

theorem result_eq (r : FrameReader) (source : Source) (k : Nat) :
    r.result source k = (r.toCome source)[k]?.getD (r.lastItem source) := by
  have h := handsOut_nextItem r source
  induction k generalizing r source with
  | zero => rw [result, h.item, List.head?_eq_getElem?]
  | succ k ih =>
    rw [result, ih _ _ (handsOut_nextItem _ _), h.toCome, h.lastItem, List.getElem?_tail]

/-! ### A reader that starts -/

theorem unexpectedEnd_notMem_feedAll (d : FrameDecoder) (chunks : List ByteArray) :
    FrameEvent.error .unexpectedEnd ∉ (d.feedAll chunks).2 := by
  induction chunks generalizing d with
  | nil => simp [feedAll]
  | cons chunk rest ih =>
    rw [feedAll, List.mem_append, not_or, feed_eq]
    refine ⟨?_, ih _⟩
    have hread := onlyAtEnd_notMem_read (.inr rfl) d (octets chunk)
    -- The look at the end of the chunk reports at most a line that is too long.
    cases hlong : (d.read (octets chunk)).1.hasLongLine with
    | false => rwa [settled_of_short hlong]
    | true => simpa [settled_of_long hlong] using hread

/-- What a source brings to a reader that starts: the events of its reads, in order, and the last
    item. -/
theorem result_fresh (source : Source) (k : Nat) :
    result {} source k =
      ((feedAll {} source.reads).2.map .event ++
        source.brokenOff (feedAll {} source.reads).1)[k]?.getD source.lastItem := by
  rw [result_eq]
  rfl

/-- Among items that are followed by the last item for ever, any other stands in its place. -/
theorem exists_getD_eq_iff {items : List Item} {item last : Item} (hne : item ≠ last) :
    (∃ k : Nat, items[k]?.getD last = item) ↔ item ∈ items := by
  rw [List.mem_iff_getElem?]
  refine exists_congr fun k => ?_
  cases items[k]? with
  | none => simp [hne.symm]
  | some found => simp

/-- **A reader delivers the events of the decoder and ends cleanly.**  The pieces of any source come
    in reads of at most `readChunkBytes` bytes.  If the source ends behind them, the calls hand out
    the events that one decoder finds in these reads, each once and in order, then that the stream
    has broken off, if the decoder is inside a block, and from then on the end.  If the source fails
    instead, they hand out the same events, and from then on the failure.  And if the header lines
    are not too long, the stream has broken off exactly if it is not a list of complete blocks with
    blank lines between them. -/
theorem results_deliver_events (pieces : List Piece) :
    let found := feedAll {} (pieces.flatMap Piece.cuts)
    let bytes := octets (joined (pieces.map Piece.bytes))
    FrameEvent.error .unexpectedEnd ∉ found.2 ∧
      (∀ k, result {} { pieces } k =
        (found.2.map .event ++
          if found.1.midFrame then [.event (.error .unexpectedEnd)] else [])[k]?.getD .ended) ∧
      (∀ reason k, result {} { pieces, failure := some reason } k =
          (found.2.map .event)[k]?.getD (.failed reason) ∧
        result {} { pieces, failure := some reason } k ≠ .event (.error .unexpectedEnd)) ∧
      (HeaderLinesFit bytes →
        ((∃ k, result {} { pieces } k = .event (.error .unexpectedEnd)) ↔
          ¬∃ blocks strays, bytes = stream blocks strays)) := by
  intro found bytes
  have hnot : FrameEvent.error .unexpectedEnd ∉ found.2 := unexpectedEnd_notMem_feedAll _ _
  have hended (k : Nat) : result {} { pieces } k =
      (found.2.map .event ++
        if found.1.midFrame then [.event (.error .unexpectedEnd)] else [])[k]?.getD .ended := by
    rw [result_fresh]
    simp [Source.brokenOff, Source.lastItem, Source.reads, found]
  have hfailed (reason : String) (k : Nat) : result {} { pieces, failure := some reason } k =
      (found.2.map .event)[k]?.getD (.failed reason) := by
    rw [result_fresh]
    simp [Source.brokenOff, Source.lastItem, Source.reads, found]
  have hitems : Item.event (.error .unexpectedEnd) ∉ found.2.map .event := by simpa using hnot
  refine ⟨hnot, hended, fun reason k => ⟨hfailed reason k, fun hresult => hitems ?_⟩,
    fun hfit => ?_⟩
  · rw [hfailed] at hresult
    exact (exists_getD_eq_iff (by simp)).mp ⟨k, hresult⟩
  · have hreads : bytes = octets (joined (pieces.flatMap Piece.cuts)) :=
      congrArg octets (Source.joined_reads { pieces }).symm
    have hcomplete : found.1.midFrame = false ↔ ∃ blocks strays, bytes = stream blocks strays := by
      rw [hreads] at hfit ⊢
      exact hfit.midFrame_feedAll_eq_false_iff
    simp only [hended]
    rw [exists_getD_eq_iff (by simp), ← hcomplete]
    cases found.1.midFrame <;> simp [hitems]

/-- A body of which five bytes of a hundred come, in two pieces that are cut within a line end. -/
theorem results_deliver_half_body :
    let pieces : List Piece := [⟨"Content-Length: 100\r\n\r".toUTF8, by decide⟩,
      ⟨"\nhello".toUTF8, by decide⟩]
    let bytes := octets (joined (pieces.map Piece.bytes))
    HeaderLinesFit bytes ∧ (¬∃ blocks strays, bytes = stream blocks strays) ∧
      (∃ k, result {} { pieces } k = .event (.error .unexpectedEnd)) := by
  intro pieces bytes
  have hfit : HeaderLinesFit bytes := .of_length_lt (by decide +kernel)
  have hmid : (feedAll {} (pieces.map Piece.bytes)).1.midFrame = true := by
    rw [hfit.reads.feedAll]
    decide +kernel
  have hbroken : ¬∃ blocks strays, bytes = stream blocks strays := by
    rw [← hfit.midFrame_feedAll_eq_false_iff, hmid]
    decide
  exact ⟨hfit, hbroken, ((results_deliver_events pieces).2.2.2 hfit).mpr hbroken⟩

end FrameReader
end SymbolSearch
