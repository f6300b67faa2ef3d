import Mathlib
import SymbolSearch.Proofs.Rpc.Delivery
import SymbolSearch.Proofs.Rpc.Encoding

/-!
# What a decoder keeps

Between two chunks a decoder keeps the bytes of the line or body that it is in the middle of. This
file bounds what that can be, whatever the chunks are.

* `Keeps` — what is in the buffer of a decoder, in each mode; every byte preserves it.
* `turn` — one turn of a loop that takes whole lines, bodies and oversized bodies off the front of
  the buffer, instead of one byte after the other. An empty body and the end of an oversized one
  are turns that take nothing.
* `turns_eq` — the loop ends, after no more than two turns a byte, and it finds what `feed` finds.
* `retained` — what a decoder keeps: its buffer, and the text of a length that is none.
* `buffering_bounded` — the buffer has less than `maxFrameBytes` bytes after every chunk, and so has
  all that is kept, unless some chunk has more than a quarter of that.
* `not_forall_retained_lt` — a header line that comes in one chunk with its end is never too long,
  and the text of its length is kept.
-/

namespace SymbolSearch

/-- A read brings no more than it may. -/
theorem Piece.size_le_of_mem_cuts (piece : Piece) {cut : ByteArray} (h : cut ∈ piece.cuts) :
    cut.size ≤ readChunkBytes := by
  have hfront (piece : Piece) : piece.front.size ≤ readChunkBytes := by
    rw [front, ByteArray.size_extract]
    omega
  fun_induction Piece.cuts piece with
  | case1 piece rest hrest ih =>
    rcases List.mem_cons.mp h with rfl | hlater
    · exact hfront piece
    · exact ih hlater
  | case2 piece hwhole =>
    obtain rfl := List.mem_singleton.mp h
    exact hfront piece

namespace FrameDecoder

open String (utf8Len)

variable {d : FrameDecoder}

/-! ### The buffer -/

/-- What a decoder has in its buffer: a part of a header line, a part of a body that is not too
    long, or nothing while a body is skipped. No length is known before the first header line, nor
    behind the last one. -/
inductive Keeps : FrameDecoder → Prop where
  | inHeader (buffer : ByteArray) (lines : Nat) (length : Option (Except String Nat))
      (hopen : ¬lineEnd <:+: octets buffer) (hfirst : lines = 0 → length = none) :
      Keeps ⟨.header, buffer, lines, length⟩
  | inBody (n : Nat) (buffer : ByteArray) (hmore : buffer.size < n) (hfits : n ≤ maxFrameBytes) :
      Keeps ⟨.body n, buffer, 0, none⟩
  | inSkip (n : Nat) (hmore : 0 < n) : Keeps ⟨.skip n, .empty, 0, none⟩

theorem keeps_fresh : Keeps {} := .inHeader .empty 0 none (by decide) fun _ => rfl

theorem keeps_endHeader (length : Option (Except String Nat)) : Keeps (endHeader length).1 := by
  cases length with
  | none => exact keeps_fresh
  | some found =>
    cases found with
    | error raw => exact keeps_fresh
    | ok n =>
      simp only [endHeader]
      split
      next hover => exact .inSkip n (by omega)
      next hfits =>
        split
        next => exact keeps_fresh
        next hpos => exact .inBody n .empty (by rw [ByteArray.size_empty]; omega) (by omega)

theorem keeps_takeLine (line : ByteArray) (lines : Nat) (length : Option (Except String Nat)) :
    Keeps (takeLine line lines length).1 := by
  by_cases hline : line = .empty
  · subst hline
    by_cases hlines : lines = 0
    · subst hlines
      exact keeps_fresh
    · rw [takeLine_empty hlines]
      exact keeps_endHeader length
  · rw [takeLine_of_ne_empty hline]
    exact .inHeader .empty _ _ (by decide) fun h => absurd h (by omega)

theorem Keeps.step (h : Keeps d) (byte : UInt8) : Keeps (d.step byte).1 := by
  cases h with
  | inHeader buffer lines length hopen hfirst =>
    by_cases hend : byte = 10 ∧ endsInReturn buffer = true
    · obtain ⟨rfl, hreturn⟩ := hend
      obtain ⟨line, rfl⟩ := endsInReturn_iff.mp hreturn
      rw [step_lineEnd]
      exact keeps_takeLine line lines length
    · rw [step_inLine hend]
      exact .inHeader _ _ _ (lineEnd_not_infix_push hopen hend) hfirst
  | inBody n buffer hmore hfits =>
    by_cases hend : n ≤ buffer.size + 1
    · rw [step_bodyEnd hend]
      exact keeps_fresh
    · rw [step_inBody (by omega)]
      exact .inBody n _ (by rw [ByteArray.size_push]; omega) hfits
  | inSkip n hmore =>
    by_cases hend : n ≤ 1
    · rw [step_skipEnd hend]
      exact keeps_fresh
    · rw [step_skipping (by omega)]
      exact .inSkip (n - 1) (by omega)

theorem Keeps.read (h : Keeps d) (bytes : List UInt8) : Keeps (d.read bytes).1 := by
  induction bytes generalizing d with
  | nil => exact h
  | cons byte rest ih => exact ih (h.step byte)

theorem Keeps.feed (h : Keeps d) (chunk : ByteArray) : Keeps (d.feed chunk).1 := by
  rw [feed_eq, settled]
  unfold dropLongLine
  split
  · exact keeps_fresh
  · exact h.read (octets chunk)

theorem Keeps.feedAll (h : Keeps d) (chunks : List ByteArray) : Keeps (d.feedAll chunks).1 := by
  induction chunks generalizing d with
  | nil => exact h
  | cons chunk rest ih => exact ih (h.feed chunk)

theorem hasLongLine_feedAll (h : d.hasLongLine = false) (chunks : List ByteArray) :
    (d.feedAll chunks).1.hasLongLine = false := by
  induction chunks generalizing d with
  | nil => exact h
  | cons chunk rest ih =>
    refine ih ?_
    rw [feed_eq]
    exact hasLongLine_settled _

/-- What may be in the buffer of a decoder after a chunk. -/
def WithinBounds (d : FrameDecoder) : Prop :=
  match d.mode with
  | .header => ¬lineEnd <:+: octets d.buffer ∧ d.buffer.size ≤ maxHeaderLine
  | .body n => n ≤ maxFrameBytes ∧ d.buffer.size < n
  | .skip n => d.buffer = .empty ∧ 0 < n

theorem Keeps.withinBounds (h : Keeps d) (hshort : d.hasLongLine = false) : WithinBounds d := by
  cases h with
  | inHeader buffer lines length hopen hfirst =>
    refine ⟨hopen, Nat.le_of_not_lt fun hlong => ?_⟩
    rw [hasLongLine_iff.mpr ⟨rfl, hlong⟩] at hshort
    cases hshort
  | inBody n buffer hmore hfits => exact ⟨hfits, hmore⟩
  | inSkip n hmore => exact ⟨rfl, hmore⟩

theorem WithinBounds.size_lt (h : WithinBounds d) : d.buffer.size < maxFrameBytes := by
  obtain ⟨mode, buffer, lines, length⟩ := d
  cases mode with
  | header => exact Nat.lt_of_le_of_lt h.2 (by decide)
  | body n => exact Nat.lt_of_lt_of_le h.2 h.1
  | skip n =>
    obtain ⟨rfl, -⟩ := h
    show ByteArray.empty.size < maxFrameBytes
    decide

/-! ### A loop over the buffer -/

/-- What one turn of the loop comes to: the loop goes on, or it ends. -/
inductive Turn where
  | goOn (next : FrameDecoder) (event : Option FrameEvent)
  | stop (last : FrameDecoder) (event : Option FrameEvent)

/-- The first line of some bytes, without its end, and what is behind it. -/
def splitLine? : List UInt8 → Option (List UInt8 × List UInt8)
  | [] => none
  | byte :: rest =>
    if lineEnd.isPrefixOf (byte :: rest) then some ([], rest.tail)
    else (splitLine? rest).map fun (line, behind) => (byte :: line, behind)

/-- What the blank line behind header lines leads to in the loop. A body that is to be empty begins
    like any other. -/
def beginBody (length : Option (Except String Nat)) : FrameDecoder × Option FrameEvent :=
  match length with
  | none => ({}, some (.error .missingLength))
  | some (.error raw) => ({}, some (.error (.invalidLength raw)))
  | some (.ok n) =>
    if maxFrameBytes < n then ({ mode := .skip n }, some (.error (.oversized n)))
    else ({ mode := .body n }, none)

/-- What a header line leads to in the loop. -/
def headerLine (line : ByteArray) (lines : Nat) (length : Option (Except String Nat)) :
    FrameDecoder × Option FrameEvent :=
  if line.isEmpty then if lines = 0 then ({ lines, length }, none) else beginBody length
  else ({ lines := lines + 1, length := (headerLength? line).or length }, none)

/-- One turn of the loop. -/
def turn (d : FrameDecoder) : Turn :=
  let bytes := octets d.buffer
  match d.mode with
  | .header =>
    match splitLine? bytes with
    | none =>
      if maxHeaderLine < d.buffer.size then .stop {} (some (.error .headerTooLong))
      else .stop d none
    | some (line, behind) =>
      let (next, event) := headerLine line.toByteArray d.lines d.length
      .goOn { next with buffer := behind.toByteArray } event
  | .body n =>
    if d.buffer.size < n then .stop d none
    else
      .goOn { d with mode := .header, buffer := (bytes.drop n).toByteArray }
        (some (.ofBody (bytes.take n).toByteArray))
  | .skip n =>
    let taken := min n d.buffer.size
    let behind := (bytes.drop taken).toByteArray
    if taken < n then .stop { d with mode := .skip (n - taken), buffer := behind } none
    else .goOn { d with mode := .header, buffer := behind } none

/-- The loop, with at most `limit` turns; nothing if it has not ended by then. -/
def turns : Nat → FrameDecoder → Option (FrameDecoder × List FrameEvent)
  | 0, _ => none
  | limit + 1, d =>
    match d.turn with
    | .stop last event => some (last, event.toList)
    | .goOn next event =>
      (turns limit next).map fun (last, events) => (last, event.toList ++ events)

/-- The decoder with a chunk behind what is in its buffer. -/
def pour (d : FrameDecoder) (chunk : ByteArray) : FrameDecoder :=
  { d with buffer := d.buffer ++ chunk }

/-- How far the loop has to go: a turn takes bytes, or ends a body or what is skipped. -/
def toGo (d : FrameDecoder) : Nat :=
  2 * d.buffer.size + if d.mode = .header then 0 else 1

/-! ### The loop finds what the bytes lead to -/

variable {bytes line behind : List UInt8} {lines n : Nat} {length : Option (Except String Nat)}

theorem splitLine?_eq_none_iff : splitLine? bytes = none ↔ ¬lineEnd <:+: bytes := by
  induction bytes with
  | nil => simp [splitLine?, lineEnd]
  | cons byte rest ih =>
    rw [splitLine?, List.infix_cons_iff, ← List.isPrefixOf_iff_prefix]
    split
    next hend => simp [hend]
    next hmore => simp [hmore, ih]

/-- The first line ends where a line end comes for the first time. -/
theorem splitLine?_eq_some (h : splitLine? bytes = some (line, behind)) :
    bytes = line ++ lineEnd ++ behind ∧ ¬lineEnd <:+: line := by
  induction bytes generalizing line with
  | nil => cases h
  | cons byte rest ih =>
    rw [splitLine?] at h
    split at h
    next hend =>
      obtain ⟨rfl, rfl⟩ := Prod.mk.inj (Option.some.inj h)
      obtain ⟨more, hmore⟩ := List.isPrefixOf_iff_prefix.mp hend
      refine ⟨?_, by decide⟩
      rw [← hmore]
      obtain ⟨rfl, rfl⟩ := List.cons.inj hmore
      rfl
    next hmore =>
      obtain ⟨⟨line, behind⟩, hrest, heq⟩ := Option.map_eq_some_iff.mp h
      obtain ⟨rfl, rfl⟩ := Prod.mk.inj heq
      obtain ⟨rfl, hopen⟩ := ih hrest
      refine ⟨rfl, fun hinfix => ?_⟩
      rcases List.infix_cons_iff.mp hinfix with hstart | hlater
      · apply hmore
        rw [List.isPrefixOf_iff_prefix]
        exact hstart.trans ⟨lineEnd ++ behind, by simp⟩
      · exact hopen hlater

/-- A line is read to its end. -/
theorem read_line (hopen : ¬lineEnd <:+: line) :
    read ⟨.header, .empty, lines, length⟩ (line ++ lineEnd) =
      ((takeLine line.toByteArray lines length).1,
        (takeLine line.toByteArray lines length).2.toList) := by
  have hreturn : ¬((13 : UInt8) = 10 ∧ endsInReturn line.toByteArray = true) := fun h =>
    absurd h.1 (by decide)
  rw [read_append, read_inLine _ _ _ _ (by simpa using hopen), ByteArray.empty_append, lineEnd,
    read_cons, step_inLine hreturn, read_cons, step_lineEnd]
  simp

/-- A body grows until it is complete. -/
theorem read_inBody (buffer : ByteArray) (bytes : List UInt8) (h : buffer.size + bytes.length < n) :
    read ⟨.body n, buffer, lines, length⟩ bytes =
      (⟨.body n, buffer ++ bytes.toByteArray, lines, length⟩, []) := by
  induction bytes generalizing buffer with
  | nil => simp
  | cons byte rest ih =>
    rw [List.length_cons] at h
    have hbuffer : buffer.push byte ++ rest.toByteArray = buffer ++ (byte :: rest).toByteArray :=
      octets_inj.mp (by simp)
    rw [read_cons, step_inBody (by omega), ih _ (by rw [ByteArray.size_push]; omega), hbuffer]
    rfl

/-- A body that is skipped gets shorter until it is done. -/
theorem read_skipping (bytes : List UInt8) (h : bytes.length < n) :
    read ⟨.skip n, .empty, lines, length⟩ bytes =
      (⟨.skip (n - bytes.length), .empty, lines, length⟩, []) := by
  induction bytes generalizing n with
  | nil => rfl
  | cons byte rest ih =>
    rw [List.length_cons] at h ⊢
    have hleft : n - 1 - rest.length = n - (rest.length + 1) := by omega
    rw [read_cons, step_skipping (by omega), ih (by omega), hleft]
    rfl

/-- The decoder that takes byte after byte, before it has taken any of the buffer, and what it has
    reported by then. It does not wait for an empty body. -/
def atStart (d : FrameDecoder) : FrameDecoder × List FrameEvent :=
  match d.mode with
  | .body 0 => ({}, [.ofBody .empty])
  | _ => ({ d with buffer := .empty }, [])

/-- What the bytes of the buffer lead to, one after the other. -/
def found (d : FrameDecoder) : FrameDecoder × List FrameEvent :=
  ((d.atStart.1.read (octets d.buffer)).1,
    d.atStart.2 ++ (d.atStart.1.read (octets d.buffer)).2)

/-- No length is known before the first header line, nor behind the last one. -/
def Stands (d : FrameDecoder) : Prop :=
  (d.lines = 0 → d.length = none) ∧
    match d.mode with
    | .header => True
    | .body _ => d.lines = 0
    | .skip n => d.lines = 0 ∧ 0 < n

/-- What the loop makes of a header line is what it comes to byte after byte, but for the body that
    is empty; bytes may already wait behind the line. -/
def SameStart (loop taken : FrameDecoder × Option FrameEvent) : Prop :=
  ∀ buffer : ByteArray,
    let next : FrameDecoder := { loop.1 with buffer }
    next.Stands ∧ next.atStart.1 = taken.1 ∧
      loop.2.toList ++ next.atStart.2 = taken.2.toList

theorem sameStart_beginBody (length : Option (Except String Nat)) :
    SameStart (beginBody length) (endHeader length) := by
  intro buffer
  rcases length with _ | raw | n
  · exact ⟨⟨fun _ => rfl, trivial⟩, rfl, rfl⟩
  · exact ⟨⟨fun _ => rfl, trivial⟩, rfl, rfl⟩
  · simp only [beginBody, endHeader]
    by_cases hover : maxFrameBytes < n
    · rw [if_pos hover, if_pos hover]
      exact ⟨⟨fun _ => rfl, rfl, by omega⟩, rfl, rfl⟩
    · rw [if_neg hover, if_neg hover]
      cases n with
      | zero => exact ⟨⟨fun _ => rfl, rfl⟩, rfl, rfl⟩
      | succ n => exact ⟨⟨fun _ => rfl, rfl⟩, rfl, rfl⟩

theorem sameStart_headerLine (line : ByteArray) (hlength : lines = 0 → length = none) :
    SameStart (headerLine line lines length) (takeLine line lines length) := by
  by_cases hline : line = .empty
  · subst hline
    rw [headerLine, if_pos (by rfl)]
    by_cases hlines : lines = 0
    · obtain rfl := hlength hlines
      subst hlines
      exact fun buffer => ⟨⟨fun _ => rfl, trivial⟩, rfl, rfl⟩
    · rw [takeLine_empty hlines, if_neg hlines]
      exact sameStart_beginBody length
  · have hempty : line.isEmpty = false := by
      simpa [ByteArray.isEmpty, ByteArray.size_eq_zero_iff] using hline
    rw [takeLine_of_ne_empty hline, headerLine, if_neg (by simp [hempty])]
    exact fun buffer => ⟨⟨fun h => absurd h (Nat.succ_ne_zero lines), trivial⟩, rfl, rfl⟩

/-- What a turn is to come to: with it the loop ends, or gets nearer to its end, and the rest of
    the buffer leads to what is still to be found. -/
def Turn.Fits (d : FrameDecoder) : Turn → Prop
  | .stop last event => settled d.found = (last, event.toList)
  | .goOn next event =>
    next.Stands ∧ next.toGo < d.toGo ∧
      d.found = (next.found.1, event.toList ++ next.found.2)

theorem fits_turn_header (buffer : ByteArray) (hlength : lines = 0 → length = none) :
    (turn ⟨.header, buffer, lines, length⟩).Fits ⟨.header, buffer, lines, length⟩ := by
  have hfound : found ⟨.header, buffer, lines, length⟩ =
      read ⟨.header, .empty, lines, length⟩ (octets buffer) := rfl
  simp only [turn]
  cases hsplit : splitLine? (octets buffer) with
  | none =>
    have hopen := splitLine?_eq_none_iff.mp hsplit
    rw [read_inLine _ _ _ _ (by simpa using hopen), ByteArray.empty_append,
      toByteArray_octets] at hfound
    dsimp only
    split
    next hlong =>
      show settled _ = _
      rw [hfound, settled_of_long (hasLongLine_iff.mpr ⟨rfl, hlong⟩)]
      rfl
    next hshort =>
      show settled _ = _
      rw [hfound, settled_of_short (hasLongLine_of_size_le (by simpa using hshort))]
      rfl
  | some parts =>
    obtain ⟨line, behind⟩ := parts
    obtain ⟨hbytes, hopen⟩ := splitLine?_eq_some hsplit
    obtain ⟨hstands, hstart, hevents⟩ :=
      sameStart_headerLine line.toByteArray hlength behind.toByteArray
    refine ⟨hstands, ?_, ?_⟩
    · -- A line takes two bytes at least, and a body that begins counts as one half.
      have hsize : buffer.size = line.length + 2 + behind.length := by
        rw [← length_octets, hbytes]
        simp [lineEnd]
        omega
      simp only [toGo, List.size_toByteArray]
      split <;> simp <;> omega
    · rw [hfound, hbytes, read_append, read_line hopen]
      simp only [found, octets_toByteArray, hstart]
      rw [← List.append_assoc, hevents]

theorem fits_turn_body (buffer : ByteArray) :
    (turn ⟨.body n, buffer, 0, none⟩).Fits ⟨.body n, buffer, 0, none⟩ := by
  simp only [turn]
  by_cases hmore : buffer.size < n
  · -- The body is not complete, and it is what the buffer has.
    obtain ⟨n, rfl⟩ := Nat.exists_eq_add_one_of_ne_zero (Nat.ne_zero_of_lt hmore)
    rw [if_pos hmore]
    show settled (_, _ ++ _) = _
    simp only [atStart]
    rw [read_inBody .empty _ (by simpa using hmore), ByteArray.empty_append, toByteArray_octets]
    exact settled_of_short rfl
  · rw [if_neg hmore]
    have hsize : (octets buffer).length = buffer.size := length_octets buffer
    refine ⟨⟨fun _ => rfl, trivial⟩, ?_, ?_⟩
    · simp [toGo]
    · have hrest : found ⟨.header, ((octets buffer).drop n).toByteArray, 0, none⟩ =
          read {} ((octets buffer).drop n) := by
        simp [found, atStart]
      rw [hrest]
      cases n with
      | zero => simp [found, atStart]
      | succ n =>
        have hbody := reads_body (n + 1) .empty 0 none ((octets buffer).take (n + 1))
          (by rw [← List.length_pos_iff]; simp; omega) (by simp; omega)
        rw [ByteArray.empty_append] at hbody
        simp only [found, atStart]
        conv => lhs; rw [← List.take_append_drop (n + 1) (octets buffer)]
        rw [read_append, hbody.read_eq]
        simp

theorem fits_turn_skip (buffer : ByteArray) (hn : 0 < n) :
    (turn ⟨.skip n, buffer, 0, none⟩).Fits ⟨.skip n, buffer, 0, none⟩ := by
  have hsize : (octets buffer).length = buffer.size := length_octets buffer
  have hfound : found ⟨.skip n, buffer, 0, none⟩ =
      read ⟨.skip n, .empty, 0, none⟩ (octets buffer) := rfl
  simp only [turn]
  by_cases hmore : buffer.size < n
  · have htaken : min n buffer.size = buffer.size := by omega
    have hbehind : ((octets buffer).drop buffer.size).toByteArray = .empty := by
      rw [List.drop_eq_nil_of_le (by omega)]
      rfl
    rw [htaken, if_pos hmore, hbehind]
    show settled _ = _
    rw [hfound, read_skipping _ (by omega), hsize]
    exact settled_of_short rfl
  · have htaken : min n buffer.size = n := by omega
    rw [htaken, if_neg (by omega)]
    refine ⟨⟨fun _ => rfl, trivial⟩, ?_, ?_⟩
    · simp [toGo]
    · have hrest : found ⟨.header, ((octets buffer).drop n).toByteArray, 0, none⟩ =
          read {} ((octets buffer).drop n) := by
        simp [found, atStart]
      have hskip := @reads_skip 0 none n ((octets buffer).take n)
        (by rw [← List.length_pos_iff]; simp; omega) (by simp; omega)
      rw [hrest, hfound]
      conv => lhs; rw [← List.take_append_drop n (octets buffer)]
      rw [read_append, hskip.read_eq]
      simp

/-- **A turn does what the bytes do**, whatever it stands in the middle of. -/
theorem fits_turn (h : d.Stands) : d.turn.Fits d := by
  obtain ⟨mode, buffer, lines, length⟩ := d
  obtain ⟨hlength, hmode⟩ := h
  cases mode with
  | header => exact fits_turn_header buffer hlength
  | body n =>
    obtain rfl : lines = 0 := hmode
    obtain rfl : length = none := hlength rfl
    exact fits_turn_body buffer
  | skip n =>
    obtain ⟨rfl, hn⟩ : lines = 0 ∧ 0 < n := hmode
    obtain rfl : length = none := hlength rfl
    exact fits_turn_skip buffer hn

/-- **The loop ends**, and finds what the bytes of the buffer lead to. -/
theorem turns_eq {limit : Nat} (h : d.Stands) (hlimit : d.toGo < limit) :
    turns limit d = some (settled d.found) := by
  induction limit generalizing d with
  | zero => exact absurd hlimit (Nat.not_lt_zero _)
  | succ limit ih =>
    have hfits := fits_turn h
    rw [turns]
    cases hturn : d.turn with
    | stop last event =>
      rw [hturn] at hfits
      exact congrArg some hfits.symm
    | goOn next event =>
      rw [hturn] at hfits
      obtain ⟨hnext, hless, hfound⟩ := hfits
      simp only [ih hnext (by omega), Option.map_some, hfound]
      rw [settled_append]

/-- With a chunk behind its buffer, a decoder stands where the bytes of the chunk find it. -/
theorem Keeps.found_pour (h : Keeps d) (chunk : ByteArray) :
    (d.pour chunk).Stands ∧ (d.pour chunk).found = d.read (octets chunk) := by
  cases h with
  | inHeader buffer lines length hopen hfirst =>
    refine ⟨⟨hfirst, trivial⟩, ?_⟩
    simp only [found, atStart, pour, octets_append, List.nil_append]
    rw [read_append, read_inLine .empty _ _ _ (by simpa using hopen)]
    simp [toByteArray_octets]
  | inBody n buffer hmore hfits =>
    obtain ⟨n, rfl⟩ := Nat.exists_eq_add_one_of_ne_zero (Nat.ne_zero_of_lt hmore)
    refine ⟨⟨fun _ => rfl, rfl⟩, ?_⟩
    simp only [found, atStart, pour, octets_append, List.nil_append]
    rw [read_append, read_inBody .empty _ (by simpa using hmore)]
    simp [toByteArray_octets]
  | inSkip n hmore =>
    refine ⟨⟨fun _ => rfl, rfl, hmore⟩, ?_⟩
    simp [found, atStart, pour]

/-- So the loop ends with what `feed` finds, after at most two turns a byte. -/
theorem Keeps.turns_eq_feed (h : Keeps d) (chunk : ByteArray) :
    turns (2 * (d.buffer.size + chunk.size) + 2) (d.pour chunk) = some (d.feed chunk) := by
  obtain ⟨hstands, hfound⟩ := h.found_pour chunk
  rw [turns_eq hstands, hfound, feed_eq]
  rw [toGo, pour, ByteArray.size_append]
  split <;> omega

/-! ### The text of a length -/

/-- The bytes of the text that a decoder keeps until the end of the header, if what it was given as
    a length is none. -/
def rawSize : Option (Except String Nat) → Nat
  | some (.error raw) => raw.utf8ByteSize
  | _ => 0

/-- The bytes that a decoder keeps: its buffer, and the text of a length that is none. -/
def retained (d : FrameDecoder) : Nat := d.buffer.size + rawSize d.length

/-- Each byte stands for one character at most, and a character takes four bytes at most. -/
theorem utf8Len_lossyFrom_le (bytes : ByteArray) (i : Nat) (done : List Char) :
    utf8Len (Text.lossyFrom bytes i done) ≤ utf8Len done + 4 * (bytes.size - i) := by
  fun_induction Text.lossyFrom bytes i done with
  | case1 i done h c length hhead ih =>
    have hc := c.utf8Size_le_four
    rw [String.utf8Len_cons] at ih
    omega
  | case2 i done h length hhead ih =>
    have hc := Char.utf8Size_le_four '\ufffd'
    rw [String.utf8Len_cons] at ih
    omega
  | case3 i done h =>
    rw [String.utf8Len_reverse]
    omega

theorem utf8Len_trimChars_le (cs : List Char) : utf8Len (Text.trimChars cs) ≤ utf8Len cs := by
  rw [Text.trimChars, String.utf8Len_reverse]
  refine (String.utf8Len_le_of_suffix (List.dropWhile_suffix _)).trans ?_
  rw [String.utf8Len_reverse]
  exact String.utf8Len_le_of_suffix (List.dropWhile_suffix _)

/-- The text of a length is a part of its line. -/
theorem rawSize_headerLength?_le (line : ByteArray) :
    rawSize (headerLength? line) ≤ 4 * line.size := by
  rw [headerLength?]
  cases hraw : lengthText? line with
  | none => exact Nat.zero_le _
  | some raw =>
    obtain ⟨name, value, hline, -, -, rfl⟩ := lengthText?_eq_some_iff.mp hraw
    rw [Option.map_some, lengthOf]
    split
    next => exact Nat.zero_le _
    next =>
      have hdecoded := utf8Len_lossyFrom_le line 0 []
      rw [Text.decodeLossy, String.toList_ofList] at hline
      rw [hline, String.utf8Len_append, String.utf8Len_cons, String.utf8Len_nil] at hdecoded
      have htrimmed := utf8Len_trimChars_le value
      simp only [rawSize, String.utf8ByteSize_ofList]
      omega

theorem rawSize_takeLine_le (line : ByteArray) (lines : Nat)
    (length : Option (Except String Nat)) :
    rawSize (takeLine line lines length).1.length ≤ max (rawSize length) (4 * line.size) := by
  by_cases hline : line = .empty
  · subst hline
    have hnone : (takeLine .empty lines length).1.length = none := by
      unfold takeLine endHeader
      repeat' split
      all_goals first | rfl | contradiction
    rw [hnone]
    exact Nat.zero_le _
  · rw [takeLine_of_ne_empty hline]
    have hraw := rawSize_headerLength?_le line
    cases hfound : headerLength? line with
    | none => exact Nat.le_max_left _ _
    | some found =>
      rw [hfound] at hraw
      exact hraw.trans (Nat.le_max_right _ _)

/-- The line that a decoder is in the middle of has no more than `size` bytes, and the text of a
    length is no longer than a line of `limit` bytes can make it. -/
structure Holds (size limit : Nat) (d : FrameDecoder) : Prop where
  line : d.mode = .header → d.buffer.size ≤ size
  raw : rawSize d.length ≤ 4 * limit

namespace Holds

variable {size limit : Nat}

theorem fresh : Holds size limit {} := ⟨fun _ => Nat.zero_le _, Nat.zero_le _⟩

theorem takes {byte : UInt8} {next : FrameDecoder} {event : Option FrameEvent}
    (h : Holds size limit d) (hsize : size ≤ limit) (htakes : Takes d byte next event) :
    Holds (size + 1) limit next := by
  have hsmall := h.line
  have hraw := h.raw
  cases htakes with
  | lineEnd line mode feed buffer =>
    refine ⟨fun _ => by rw [buffer_takeLine, ByteArray.size_empty]; omega, ?_⟩
    have hline := hsmall mode
    rw [buffer, ByteArray.size_push] at hline
    have hnext := rawSize_takeLine_le line d.lines d.length
    omega
  | inLine mode more =>
    refine ⟨fun _ => ?_, hraw⟩
    have hline := hsmall mode
    show (d.buffer.push byte).size ≤ size + 1
    rw [ByteArray.size_push]
    omega
  | bodyEnd | skipEnd => exact .fresh
  | inBody n mode => exact ⟨fun hheader => absurd (mode.symm.trans hheader) (by simp), hraw⟩
  | skipping n mode => exact ⟨fun hheader => absurd hheader (by simp), hraw⟩

/-- A line grows by the bytes of a chunk at most. -/
theorem read (h : Holds size limit d) (bytes : List UInt8) (hlimit : size + bytes.length ≤ limit) :
    Holds (size + bytes.length) limit (d.read bytes).1 := by
  induction bytes generalizing d size with
  | nil => exact h
  | cons byte rest ih =>
    rw [List.length_cons] at hlimit ⊢
    have hrest := ih (h.takes (by omega) (step_takes d byte)) (by omega)
    rwa [Nat.add_assoc, Nat.add_comm 1] at hrest

/-- Between two chunks a line that is too long is dropped. -/
theorem feed (h : Holds maxHeaderLine limit d) (chunk : ByteArray)
    (hlimit : maxHeaderLine + chunk.size ≤ limit) :
    Holds maxHeaderLine limit (d.feed chunk).1 := by
  have hread := h.read (octets chunk) hlimit
  rw [feed_eq]
  cases hlong : (d.read (octets chunk)).1.hasLongLine with
  | true =>
    rw [settled_of_long hlong]
    exact .fresh
  | false =>
    rw [settled_of_short hlong]
    refine ⟨fun hheader => Nat.le_of_not_lt fun hsize => ?_, hread.raw⟩
    rw [hasLongLine_iff.mpr ⟨hheader, hsize⟩] at hlong
    cases hlong

theorem feedAll (h : Holds maxHeaderLine limit d) (chunks : List ByteArray)
    (hlimit : ∀ chunk ∈ chunks, maxHeaderLine + chunk.size ≤ limit) :
    Holds maxHeaderLine limit (d.feedAll chunks).1 := by
  induction chunks generalizing d with
  | nil => exact h
  | cons chunk rest ih =>
    obtain ⟨hfirst, hrest⟩ := List.forall_mem_cons.mp hlimit
    exact ih (h.feed chunk hfirst) hrest

end Holds

/-- A length is known in a header only, so in a body nothing is kept but its bytes. -/
theorem Keeps.retained_lt (h : Keeps d) (hbounds : WithinBounds d) {limit : Nat}
    (hholds : Holds maxHeaderLine limit d) (hlimit : maxHeaderLine + 4 * limit < maxFrameBytes) :
    d.retained < maxFrameBytes := by
  have hsize := hbounds.size_lt
  obtain ⟨hline, hraw⟩ := hholds
  rw [retained]
  cases h with
  | inHeader buffer lines length hopen hfirst =>
    have hbuffer := hline rfl
    omega
  | inBody n buffer hmore hfits => exact hsize
  | inSkip n hmore => exact hsize

/-- What a fresh decoder has become when it has taken the chunks. -/
def after (chunks : List ByteArray) : FrameDecoder := (feedAll {} chunks).1

/-- From chunks that are not very large, less is kept than the longest body has. -/
theorem retained_after_lt (chunks : List ByteArray)
    (h : ∀ chunk ∈ chunks, chunk.size ≤ maxFrameBytes / 8) :
    (after chunks).retained < maxFrameBytes := by
  have hholds : Holds maxHeaderLine (maxHeaderLine + maxFrameBytes / 8) (after chunks) :=
    Holds.fresh.feedAll chunks fun chunk hchunk => Nat.add_le_add_left (h chunk hchunk) _
  have hkeeps := keeps_fresh.feedAll chunks
  exact hkeeps.retained_lt (hkeeps.withinBounds (hasLongLine_feedAll rfl chunks)) hholds
    (by decide)

/-- **Buffering is bounded, and every chunk comes to an end.**  Whatever chunks a fresh decoder has
    taken: the loop ends with any further chunk, and finds what `feed` finds; in a header the buffer
    has no line end and at most `maxHeaderLine` bytes, in a body of `n` bytes fewer than `n`, which
    is at most `maxFrameBytes`, and while bytes are skipped there are some to come and none in the
    buffer. So the buffer stays below `maxFrameBytes`, and with it all that is kept, but for the
    text of a length that is none, in a header line of a chunk that is very large itself. -/
theorem buffering_bounded (chunks : List ByteArray) (chunk : ByteArray) :
    turns (2 * ((after chunks).buffer.size + chunk.size) + 2) ((after chunks).pour chunk) =
        some ((after chunks).feed chunk) ∧
      WithinBounds (after chunks) ∧ (after chunks).buffer.size < maxFrameBytes ∧
      (maxFrameBytes ≤ (after chunks).retained →
        (∃ raw, (after chunks).length = some (.error raw)) ∧
          ∃ large ∈ chunks, maxFrameBytes / 8 < large.size) := by
  have hkeeps : Keeps (after chunks) := keeps_fresh.feedAll chunks
  have hbounds : WithinBounds (after chunks) := hkeeps.withinBounds (hasLongLine_feedAll rfl chunks)
  refine ⟨hkeeps.turns_eq_feed chunk, hbounds, hbounds.size_lt, fun hover => ⟨?_, ?_⟩⟩
  · -- Without the text only the buffer is kept.
    by_contra hnone
    have hraw : rawSize (after chunks).length = 0 := by
      unfold rawSize
      split
      next raw hlength => exact absurd ⟨raw, hlength⟩ hnone
      next => rfl
    rw [retained, hraw] at hover
    exact Nat.not_le_of_lt hbounds.size_lt hover
  · by_contra hsmall
    push Not at hsmall
    exact Nat.not_le_of_lt (retained_after_lt chunks hsmall) hover

/-- A reader takes its source in small reads, so its decoder keeps less than the longest body
    has. -/
theorem retained_reads_lt (source : Source) :
    (after source.reads).retained < maxFrameBytes := by
  apply retained_after_lt
  intro chunk hchunk
  obtain ⟨piece, -, hcut⟩ := List.mem_flatMap.mp hchunk
  exact (piece.size_le_of_mem_cuts hcut).trans (by decide)

/-! ### A line that is never too long -/

/-- A header line whose length is a number of letters. -/
def lettersLine (n : Nat) : String :=
  "Content-Length: " ++ String.ofList (List.replicate n 'x')

theorem toList_lettersLine (n : Nat) :
    (lettersLine n).toList = "Content-Length".toList ++ ':' :: ' ' :: List.replicate n 'x' := by
  have hname : "Content-Length: ".toList = "Content-Length".toList ++ [':', ' '] := rfl
  rw [lettersLine, String.toList_append, hname,
    String.toList_ofList (l := List.replicate n 'x'), List.append_assoc]
  rfl

theorem lengthText?_lettersLine (n : Nat) :
    lengthText? (lettersLine n).toUTF8 = some (String.ofList (List.replicate n 'x')) := by
  refine lengthText?_eq_some_iff.mpr ⟨"Content-Length".toList, ' ' :: List.replicate n 'x', ?_⟩
  have hblank : ∀ c ∈ List.replicate n 'x', Text.isBlank c = false := by
    intro c hc
    rw [List.eq_of_mem_replicate hc]
    decide
  rw [decodeLossy_toUTF8, toList_lettersLine, trimChars_cons_blank hblank]
  exact ⟨rfl, by decide, by decide, rfl⟩

theorem parseLength?_letters (n : Nat) :
    parseLength? (String.ofList (List.replicate (n + 1) 'x')) = none := by
  simp [parseLength?, List.replicate_succ]

theorem headerLength?_lettersLine (n : Nat) :
    headerLength? (lettersLine (n + 1)).toUTF8 =
      some (.error (String.ofList (List.replicate (n + 1) 'x'))) := by
  rw [headerLength?, lengthText?_lettersLine, Option.map_some, lengthOf, parseLength?_letters]

theorem isAscii_lettersLine (n : Nat) : IsAscii (lettersLine n).toList := by
  rw [toList_lettersLine]
  intro c hc
  rcases List.mem_append.mp hc with hname | hvalue
  · have hall : "Content-Length".toList.all (fun c => c.toNat < 128) = true := by decide
    exact of_decide_eq_true (List.all_eq_true.mp hall c hname)
  · rcases List.mem_cons.mp hvalue with rfl | hvalue
    · decide
    · rcases List.mem_cons.mp hvalue with rfl | hletter
      · decide
      · rw [List.eq_of_mem_replicate hletter]
        decide

theorem lineEnd_not_infix_lettersLine (n : Nat) :
    ¬lineEnd <:+: octets (lettersLine n).toUTF8 := by
  intro h
  have hreturn : (13 : UInt8) ∈ octets (lettersLine n).toUTF8 := h.subset (by decide)
  rw [octets_ascii (isAscii_lettersLine n), toList_lettersLine, List.map_append] at hreturn
  rcases List.mem_append.mp hreturn with hname | hvalue
  · exact absurd hname (by decide)
  · simp at hvalue

theorem lettersLine_ne_empty (n : Nat) : (lettersLine n).toUTF8 ≠ .empty := by
  intro h
  have hlength := congrArg (fun bytes => (octets bytes).length) h
  simp only [octets_ascii (isAscii_lettersLine n), toList_lettersLine, octets_empty] at hlength
  simp at hlength

/-- If its end comes with it, such a line is taken, and its letters are kept. -/
theorem retained_lettersLine (n : Nat) :
    (after [(lettersLine (n + 1)).toUTF8 ++ lineEnd.toByteArray]).retained = n + 1 := by
  have hread : read {} (octets ((lettersLine (n + 1)).toUTF8 ++ lineEnd.toByteArray)) =
      (⟨.header, .empty, 1, some (.error (String.ofList (List.replicate (n + 1) 'x')))⟩, []) := by
    rw [octets_append, octets_toByteArray, read_line (lineEnd_not_infix_lettersLine (n + 1)),
      toByteArray_octets, takeLine_of_ne_empty (lettersLine_ne_empty (n + 1)),
      headerLength?_lettersLine]
    rfl
  have hletters : String.utf8Len (List.replicate (n + 1) 'x') = n + 1 := by
    generalize n + 1 = m
    induction m with
    | zero => rfl
    | succ m ih =>
      rw [List.replicate_succ, String.utf8Len_cons, ih]
      rfl
  rw [after, feedAll, feed_eq, hread, settled_of_short (by rfl)]
  simp only [feedAll, retained, rawSize, String.utf8ByteSize_ofList, hletters,
    ByteArray.size_empty, Nat.zero_add]

/-- So not all that is kept between two chunks is bounded by the longest body. -/
theorem not_forall_retained_lt :
    ¬∀ chunks, (after chunks).retained < maxFrameBytes := by
  intro h
  obtain ⟨n, hn⟩ : ∃ n, maxFrameBytes = n + 1 := ⟨4194303, by decide⟩
  have hkept := h [(lettersLine (n + 1)).toUTF8 ++ lineEnd.toByteArray]
  rw [retained_lettersLine n, hn] at hkept
  exact absurd hkept (Nat.lt_irrefl _)

end FrameDecoder
end SymbolSearch
