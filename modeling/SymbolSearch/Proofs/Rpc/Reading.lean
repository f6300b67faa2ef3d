import SymbolSearch.Rpc.Frame

/-!
# Reading a stream

A decoder takes a stream in chunks, and only at the end of a chunk does it look whether a header
line has grown too long. This file separates the two: what the bytes do, and what the cuts do.

* `FrameDecoder.read` takes the bytes of a stream one after the other, whatever the chunks.
* `FrameDecoder.feedAll` takes a stream in chunks, as it arrives.
* `FrameDecoder.feedAll_eq` — as long as no line is too long before the last byte of the stream,
  the chunks do not matter: the decoder looks once, at the end.
* `FrameDecoder.Reads` is reading without any line that is too long; it composes over `++`.

What a decoder reports for a stream should not depend on where the stream is cut.  It does so for
some streams, and this file says for which.

* `LinesFit stream` — before its last byte the stream never stands in a header line with more than
  `maxHeaderLine` bytes.
* `forall_report_eq_iff_linesFit` — a stream comes to the same report however it is cut, exactly
  if its lines fit.
* `not_forall_report_eq` — a line that is one byte too long is refused or taken, as it is cut.
-/

namespace SymbolSearch

/-! ### Bytes as lists -/

/-- The bytes as a list. -/
def octets (bytes : ByteArray) : List UInt8 := bytes.data.toList

@[simp] theorem octets_empty : octets .empty = [] := rfl

@[simp] theorem octets_append (a b : ByteArray) : octets (a ++ b) = octets a ++ octets b := by
  simp [octets]

@[simp] theorem octets_push (a : ByteArray) (byte : UInt8) :
    octets (a.push byte) = octets a ++ [byte] := by
  simp [octets, ByteArray.data_push]

@[simp] theorem length_octets (bytes : ByteArray) : (octets bytes).length = bytes.size := rfl

theorem drop_octets {bytes : ByteArray} {i : Nat} (h : i < bytes.size) :
    (octets bytes).drop i = bytes[i] :: (octets bytes).drop (i + 1) := by
  rw [List.drop_eq_getElem_cons (by simpa using h)]
  rfl

@[simp] theorem octets_toByteArray (bytes : List UInt8) : octets bytes.toByteArray = bytes := by
  simp [octets]

theorem octets_inj {a b : ByteArray} : octets a = octets b ↔ a = b := by
  constructor
  · intro h
    exact ByteArray.ext (Array.toList_inj.mp h)
  · rintro rfl
    rfl

theorem toByteArray_octets (bytes : ByteArray) : (octets bytes).toByteArray = bytes :=
  octets_inj.mp (octets_toByteArray _)

theorem eq_push_of_ne_empty {bytes : ByteArray} (h : bytes ≠ .empty) :
    ∃ front byte, bytes = ByteArray.push front byte := by
  have hne : octets bytes ≠ [] := fun h0 => h (octets_inj.mp h0)
  refine ⟨(octets bytes).dropLast.toByteArray, (octets bytes).getLast hne, octets_inj.mp ?_⟩
  rw [octets_push, octets_toByteArray, List.dropLast_concat_getLast]

theorem extract_push (front : ByteArray) (byte : UInt8) :
    (front.push byte).extract 0 ((front.push byte).size - 1) = front := by
  apply octets_inj.mp
  simp [octets]

/-- The end of a header line. -/
def lineEnd : List UInt8 := [13, 10]

/-- The bytes of a stream that comes in chunks. -/
def joined (chunks : List ByteArray) : ByteArray := chunks.foldr (· ++ ·) .empty

@[simp] theorem joined_nil : joined [] = .empty := rfl

@[simp] theorem joined_cons (chunk : ByteArray) (chunks : List ByteArray) :
    joined (chunk :: chunks) = chunk ++ joined chunks := rfl

theorem joined_append (a b : List ByteArray) : joined (a ++ b) = joined a ++ joined b := by
  induction a with
  | nil => simp
  | cons chunk rest ih => simp [ih, ByteArray.append_assoc]

namespace FrameDecoder

variable {d : FrameDecoder}

/-! ### One byte -/

theorem endsInReturn_push (buffer : ByteArray) (byte : UInt8) :
    endsInReturn (buffer.push byte) = (byte == 13) := by
  have hsize : buffer.size < (buffer.push byte).size := by simp
  have hbyte : (buffer.push byte)[buffer.size]? = some byte := by
    rw [getElem?_pos (buffer.push byte) buffer.size hsize, ByteArray.getElem_eq_getElem_data]
    simp only [ByteArray.data_push]
    exact congrArg some Array.getElem_push_eq
  rw [endsInReturn, ByteArray.size_push, Nat.add_sub_cancel, hbyte]

theorem endsInReturn_iff {buffer : ByteArray} :
    endsInReturn buffer = true ↔ ∃ line, buffer = ByteArray.push line 13 := by
  constructor
  · intro h
    have hne : buffer ≠ .empty := by
      rintro rfl
      exact absurd h (by decide)
    obtain ⟨line, byte, rfl⟩ := eq_push_of_ne_empty hne
    rw [endsInReturn_push, beq_iff_eq] at h
    exact ⟨line, by rw [h]⟩
  · rintro ⟨line, rfl⟩
    rw [endsInReturn_push, beq_self_eq_true]

section Step

variable {byte : UInt8} {buffer : ByteArray} {lines n : Nat}
  {length : Option (Except String Nat)}

theorem step_lineEnd (line : ByteArray) :
    step ⟨.header, line.push 13, lines, length⟩ 10 = takeLine line lines length := by
  simp only [step, endsInReturn_push, extract_push, beq_self_eq_true, Bool.and_self, if_true]

theorem step_inLine (h : ¬(byte = 10 ∧ endsInReturn buffer = true)) :
    step ⟨.header, buffer, lines, length⟩ byte =
      (⟨.header, buffer.push byte, lines, length⟩, none) := by
  simp only [step]
  rw [if_neg (by simpa using h)]

theorem step_bodyEnd (h : n ≤ buffer.size + 1) :
    step ⟨.body n, buffer, lines, length⟩ byte = ({}, some (.ofBody (buffer.push byte))) := by
  simp [step, h]

theorem step_inBody (h : buffer.size + 1 < n) :
    step ⟨.body n, buffer, lines, length⟩ byte =
      (⟨.body n, buffer.push byte, lines, length⟩, none) := by
  simp [step, h]

theorem step_skipEnd (h : n ≤ 1) : step ⟨.skip n, buffer, lines, length⟩ byte = ({}, none) := by
  simp [step, h]

theorem step_skipping (h : 1 < n) :
    step ⟨.skip n, buffer, lines, length⟩ byte =
      (⟨.skip (n - 1), buffer, lines, length⟩, none) := by
  simp [step, h]

end Step

/-- A header line that ends leaves an empty buffer, and its line is nowhere kept. -/
theorem buffer_takeLine (line : ByteArray) (lines : Nat) (length : Option (Except String Nat)) :
    (takeLine line lines length).1.buffer = .empty := by
  unfold takeLine endHeader
  repeat' split
  all_goals rfl

/-- What a byte makes of a decoder, and what is reported for it. -/
inductive Takes (d : FrameDecoder) (byte : UInt8) : FrameDecoder → Option FrameEvent → Prop where
  | lineEnd (line : ByteArray) (mode : d.mode = .header) (feed : byte = 10)
      (buffer : d.buffer = line.push 13) :
      Takes d byte (takeLine line d.lines d.length).1 (takeLine line d.lines d.length).2
  | inLine (mode : d.mode = .header) (more : ¬(byte = 10 ∧ endsInReturn d.buffer = true)) :
      Takes d byte { d with buffer := d.buffer.push byte } none
  | bodyEnd (n : Nat) (mode : d.mode = .body n) :
      Takes d byte {} (some (.ofBody (d.buffer.push byte)))
  | inBody (n : Nat) (mode : d.mode = .body n) :
      Takes d byte { d with buffer := d.buffer.push byte } none
  | skipEnd (n : Nat) (mode : d.mode = .skip n) : Takes d byte {} none
  | skipping (n : Nat) (mode : d.mode = .skip n) :
      Takes d byte { d with mode := .skip (n - 1) } none

theorem step_takes (d : FrameDecoder) (byte : UInt8) :
    Takes d byte (d.step byte).1 (d.step byte).2 := by
  obtain ⟨mode, buffer, lines, length⟩ := d
  cases mode with
  | header =>
    by_cases h : byte = 10 ∧ endsInReturn buffer = true
    · obtain ⟨rfl, hreturn⟩ := h
      obtain ⟨line, rfl⟩ := endsInReturn_iff.mp hreturn
      rw [step_lineEnd]
      exact .lineEnd line rfl rfl rfl
    · rw [step_inLine h]
      exact .inLine rfl h
  | body n =>
    by_cases h : n ≤ buffer.size + 1
    · rw [step_bodyEnd h]
      exact .bodyEnd n rfl
    · rw [step_inBody (by omega)]
      exact .inBody n rfl
  | skip n =>
    by_cases h : n ≤ 1
    · rw [step_skipEnd h]
      exact .skipEnd n rfl
    · rw [step_skipping (by omega)]
      exact .skipping n rfl

/-! ### Bytes without chunks -/

/-- Takes the bytes of a stream one after the other, without a look at the length of lines. -/
def read (d : FrameDecoder) : List UInt8 → FrameDecoder × List FrameEvent
  | [] => (d, [])
  | byte :: rest =>
    let next := d.step byte
    let later := next.1.read rest
    (later.1, next.2.toList ++ later.2)

@[simp] theorem read_nil (d : FrameDecoder) : d.read [] = (d, []) := rfl

theorem read_cons (d : FrameDecoder) (byte : UInt8) (rest : List UInt8) :
    d.read (byte :: rest) =
      (((d.step byte).1.read rest).1, (d.step byte).2.toList ++ ((d.step byte).1.read rest).2) :=
  rfl

/-- Reading goes on where it has stopped. -/
theorem read_append (d : FrameDecoder) (a b : List UInt8) :
    d.read (a ++ b) = (((d.read a).1.read b).1, (d.read a).2 ++ ((d.read a).1.read b).2) := by
  induction a generalizing d with
  | nil => rfl
  | cons byte rest ih => simp only [List.cons_append, read_cons, ih, List.append_assoc]

theorem read_concat (d : FrameDecoder) (a : List UInt8) (byte : UInt8) :
    d.read (a ++ [byte]) =
      (((d.read a).1.step byte).1, (d.read a).2 ++ ((d.read a).1.step byte).2.toList) := by
  rw [read_append, read_cons, read_nil, List.append_nil]

/-- A line grows as long as no line end is in it. -/
theorem read_inLine (buffer : ByteArray) (lines : Nat) (length : Option (Except String Nat))
    (bytes : List UInt8) (h : ¬lineEnd <:+: octets buffer ++ bytes) :
    read ⟨.header, buffer, lines, length⟩ bytes =
      (⟨.header, buffer ++ bytes.toByteArray, lines, length⟩, []) := by
  induction bytes generalizing buffer with
  | nil => simp
  | cons byte rest ih =>
    -- A line feed behind a carriage return would be a line end within the bytes.
    have hmore : ¬(byte = 10 ∧ endsInReturn buffer = true) := by
      rintro ⟨rfl, hreturn⟩
      obtain ⟨line, rfl⟩ := endsInReturn_iff.mp hreturn
      exact h ⟨octets line, rest, by simp [lineEnd]⟩
    have hrest : ¬lineEnd <:+: octets (buffer.push byte) ++ rest := by simpa using h
    have hbuffer : buffer.push byte ++ rest.toByteArray = buffer ++ (byte :: rest).toByteArray :=
      octets_inj.mp (by simp)
    rw [read_cons, step_inLine hmore, ih _ hrest, hbuffer]
    rfl

/-- A decoder takes the bytes of a chunk from some place on like a list of bytes. -/
theorem stepFrom_eq (chunk : ByteArray) (i : Nat) (d : FrameDecoder) (events : Array FrameEvent) :
    stepFrom chunk i d events =
      ((d.read ((octets chunk).drop i)).1,
        events ++ (d.read ((octets chunk).drop i)).2.toArray) := by
  -- Along the loop: a byte with an event, a byte without one, and the end of the chunk.
  fun_induction stepFrom chunk i d events with
  | case1 i d events h next event hstep ih =>
    rw [drop_octets h, read_cons, hstep, ih]
    simp
  | case2 i d events h next hstep ih =>
    rw [drop_octets h, read_cons, hstep, ih]
    simp
  | case3 i d events h =>
    rw [List.drop_eq_nil_of_le (by simpa using h)]
    simp

/-! ### Chunks -/

/-- What follows when the decoder looks, at the end of a chunk, whether a line is too long. -/
def settled (found : FrameDecoder × List FrameEvent) : FrameDecoder × List FrameEvent :=
  (found.1.dropLongLine.1, found.2 ++ found.1.dropLongLine.2.toList)

theorem feed_eq (d : FrameDecoder) (chunk : ByteArray) :
    d.feed chunk = settled (d.read (octets chunk)) := by
  simp [feed, stepFrom_eq, settled]

/-- Takes a stream in chunks. -/
def feedAll (d : FrameDecoder) : List ByteArray → FrameDecoder × List FrameEvent
  | [] => (d, [])
  | chunk :: rest =>
    let next := d.feed chunk
    let later := next.1.feedAll rest
    (later.1, next.2 ++ later.2)

/-- What a fresh decoder reports for a stream in chunks, and whether it ends inside a block. -/
def report (chunks : List ByteArray) : List FrameEvent × Bool :=
  ((feedAll {} chunks).2, (feedAll {} chunks).1.midFrame)

theorem hasLongLine_iff :
    d.hasLongLine = true ↔ d.mode = .header ∧ maxHeaderLine < d.buffer.size := by
  simp [hasLongLine]

theorem dropLongLine_of_short (h : d.hasLongLine = false) : d.dropLongLine = (d, none) := by
  simp [dropLongLine, h]

theorem dropLongLine_of_long (h : d.hasLongLine = true) :
    d.dropLongLine = ({}, some (.error .headerTooLong)) := by
  simp [dropLongLine, h]

theorem settled_of_short {events : List FrameEvent} (h : d.hasLongLine = false) :
    settled (d, events) = (d, events) := by
  simp [settled, dropLongLine_of_short h]

theorem settled_of_long {events : List FrameEvent} (h : d.hasLongLine = true) :
    settled (d, events) = ({}, events ++ [.error .headerTooLong]) := by
  simp [settled, dropLongLine_of_long h]

/-- No line is too long once the decoder has looked. -/
theorem hasLongLine_settled (found : FrameDecoder × List FrameEvent) :
    (settled found).1.hasLongLine = false := by
  obtain ⟨d, events⟩ := found
  cases h : d.hasLongLine with
  | false => simp [settled_of_short h, h]
  | true =>
    rw [settled_of_long h]
    rfl

/-- What `settled` makes of events that were found before. -/
theorem settled_append (d : FrameDecoder) (before events : List FrameEvent) :
    settled (d, before ++ events) =
      ((settled (d, events)).1, before ++ (settled (d, events)).2) := by
  simp [settled]

/-- **Chunks matter only through long lines.**  If no line is too long before the last byte, the
    decoder finds what it finds when it looks only once, at the end of the stream. -/
theorem feedAll_eq (d : FrameDecoder) (chunks : List ByteArray) (hd : d.hasLongLine = false)
    (hshort : ∀ start, start <+: octets (joined chunks) → start ≠ octets (joined chunks) →
      (d.read start).1.hasLongLine = false) :
    d.feedAll chunks = settled (d.read (octets (joined chunks))) := by
  induction chunks generalizing d with
  | nil => simp [feedAll, settled_of_short hd]
  | cons chunk rest ih =>
    simp only [joined_cons, octets_append] at hshort ⊢
    by_cases hrest : octets (joined rest) = []
    · -- What follows is empty, so the look at the end of this chunk is the last that counts.
      have hlater := ih (d.feed chunk).1 (by rw [feed_eq]; exact hasLongLine_settled _) (by
        intro start hstart hne
        rw [hrest, List.prefix_nil] at hstart
        exact absurd (hstart.trans hrest.symm) hne)
      rw [feedAll, hlater, hrest, read_nil, settled_of_short (by
        rw [feed_eq]; exact hasLongLine_settled _), List.append_nil, List.append_nil, feed_eq]
    · -- More follows, so no line is too long at the end of this chunk.
      have hnow : (d.read (octets chunk)).1.hasLongLine = false :=
        hshort _ (List.prefix_append _ _) (by simpa using hrest)
      have hfeed : d.feed chunk = d.read (octets chunk) := by
        rw [feed_eq, settled_of_short hnow]
      have hlater := ih (d.read (octets chunk)).1 hnow (by
        intro start hstart hne
        have hlong := hshort (octets chunk ++ start) ((List.prefix_append_right_inj _).mpr hstart)
          (by simpa using hne)
        rwa [read_append] at hlong)
      rw [feedAll, hfeed, hlater, read_append, settled_append]

/-! ### Reading without long lines -/

/-- The decoder `d` takes the bytes without any line that is too long on the way, finds the
    events, and ends as `last`. -/
structure Reads (d : FrameDecoder) (bytes : List UInt8) (last : FrameDecoder)
    (events : List FrameEvent) : Prop where
  read_eq : d.read bytes = (last, events)
  short : ∀ start, start <+: bytes → (d.read start).1.hasLongLine = false

theorem Reads.nil (h : d.hasLongLine = false) : Reads d [] d [] where
  read_eq := rfl
  short := by
    intro start hstart
    rw [List.prefix_nil.mp hstart]
    exact h

theorem Reads.append {mid last : FrameDecoder} {a b : List UInt8} {before after : List FrameEvent}
    (ha : Reads d a mid before) (hb : Reads mid b last after) :
    Reads d (a ++ b) last (before ++ after) where
  read_eq := by rw [read_append, ha.read_eq, hb.read_eq]
  short := by
    intro start hstart
    obtain ⟨rest, hrest⟩ := hstart
    -- A start of both parts ends in the first part, or somewhere in the second.
    rcases List.append_eq_append_iff.mp hrest with ⟨more, rfl, -⟩ | ⟨more, rfl, rfl⟩
    · exact ha.short start (List.prefix_append _ _)
    · rw [read_append, ha.read_eq]
      exact hb.short more (List.prefix_append _ _)

/-- However the bytes are cut into chunks, the decoder finds the same. -/
theorem Reads.feedAll {last : FrameDecoder} {events : List FrameEvent} {chunks : List ByteArray}
    (h : Reads d (octets (joined chunks)) last events) : d.feedAll chunks = (last, events) := by
  rw [feedAll_eq d chunks (h.short [] (List.nil_prefix)) fun start hstart _ => h.short start hstart,
    h.read_eq, settled_of_short]
  have hlast := h.short _ (List.prefix_refl _)
  rwa [h.read_eq] at hlast

end FrameDecoder

/-! ### Cutting a stream into chunks -/

/-- No header line is open with more than `maxHeaderLine` bytes before the last byte of a stream.
    What the last byte leaves open counts at every cut, and does no harm. -/
def LinesFit (stream : ByteArray) : Prop :=
  ∀ start, start <+: octets stream → start ≠ octets stream →
    (FrameDecoder.read {} start).1.hasLongLine = false

namespace FrameDecoder

/-! ### Bytes for which nothing is reported -/

variable {d next last : FrameDecoder} {byte : UInt8} {bytes : List UInt8}

theorem midFrame_eq_false_iff :
    d.midFrame = false ↔ d.mode = .header ∧ d.lines = 0 ∧ d.buffer = .empty := by
  obtain ⟨mode, buffer, lines, length⟩ := d
  cases mode <;> simp [midFrame, ByteArray.isEmpty, ByteArray.size_eq_zero_iff]

/-- Only an oversized body is skipped, and that is reported. -/
theorem mode_takeLine (line : ByteArray) (lines : Nat) (length : Option (Except String Nat))
    (hquiet : (takeLine line lines length).2 = none) (n : Nat) :
    (takeLine line lines length).1.mode ≠ .skip n := by
  revert hquiet
  unfold takeLine endHeader
  repeat' split
  all_goals simp

/-- The errors that no single byte brings: that a line is too long is found at the end of a chunk,
    and that a stream breaks off at its own end. -/
def OnlyAtEnd (error : FrameError) : Prop := error = .headerTooLong ∨ error = .unexpectedEnd

theorem takeLine_ne_of_onlyAtEnd {error : FrameError} (he : OnlyAtEnd error) (line : ByteArray)
    (lines : Nat) (length : Option (Except String Nat)) :
    (takeLine line lines length).2 ≠ some (.error error) := by
  unfold takeLine endHeader FrameEvent.ofBody
  rcases he with rfl | rfl
  all_goals
    repeat' split
    all_goals simp

theorem Takes.ne_of_onlyAtEnd {error : FrameError} {event : Option FrameEvent}
    (he : OnlyAtEnd error) (h : Takes d byte next event) : event ≠ some (.error error) := by
  cases h with
  | lineEnd line => exact takeLine_ne_of_onlyAtEnd he line _ _
  | bodyEnd n => unfold FrameEvent.ofBody; rcases he with rfl | rfl <;> split <;> simp
  | inLine | inBody | skipEnd | skipping => simp

theorem onlyAtEnd_notMem_read {error : FrameError} (he : OnlyAtEnd error) (d : FrameDecoder)
    (bytes : List UInt8) : FrameEvent.error error ∉ (d.read bytes).2 := by
  induction bytes generalizing d with
  | nil => simp
  | cons byte rest ih =>
    rw [read_cons, List.mem_append, not_or, Option.mem_toList]
    exact ⟨(step_takes d byte).ne_of_onlyAtEnd he, ih _⟩

/-- A byte for which nothing is reported does not start a body that is skipped. -/
theorem Takes.mode_ne_skip (h : Takes d byte next none) (hd : ∀ n, d.mode ≠ .skip n) (n : Nat) :
    next.mode ≠ .skip n := by
  generalize hevent : (none : Option FrameEvent) = event at h
  cases h with
  | lineEnd line => exact mode_takeLine line _ _ hevent.symm n
  | inLine mode => exact hd n
  | bodyEnd => cases hevent
  | inBody => exact hd n
  | skipEnd m mode => exact absurd mode (hd m)
  | skipping m mode => exact absurd mode (hd m)

theorem mode_read_ne_skip (hd : ∀ n, d.mode ≠ .skip n) (hquiet : (d.read bytes).2 = []) (n : Nat) :
    (d.read bytes).1.mode ≠ .skip n := by
  induction bytes generalizing d with
  | nil => exact hd n
  | cons byte rest ih =>
    rw [read_cons] at hquiet ⊢
    obtain ⟨hnow, hlater⟩ := List.append_eq_nil_iff.mp hquiet
    have htakes := step_takes d byte
    rw [Option.toList_eq_nil_iff.mp hnow] at htakes
    exact ih (htakes.mode_ne_skip hd) hlater

/-- A byte for which nothing is reported, and after which a header line is open, ended the line
    before or stands at the end of this one. -/
theorem Takes.header (h : Takes d byte next none) (hd : ∀ n, d.mode ≠ .skip n)
    (hnext : next.mode = .header) :
    d.mode = .header ∧
      ((byte = 10 ∧ endsInReturn d.buffer = true ∧ next.buffer = .empty) ∨
        (¬(byte = 10 ∧ endsInReturn d.buffer = true) ∧ next.buffer = d.buffer.push byte)) := by
  generalize hevent : (none : Option FrameEvent) = event at h
  cases h with
  | lineEnd line mode feed buffer =>
    exact ⟨mode, .inl ⟨feed, endsInReturn_iff.mpr ⟨line, buffer⟩, buffer_takeLine line _ _⟩⟩
  | inLine mode more => exact ⟨mode, .inr ⟨more, rfl⟩⟩
  | bodyEnd => cases hevent
  | inBody n mode => exact absurd (mode.symm.trans hnext) (by simp)
  | skipEnd n mode => exact absurd mode (hd n)
  | skipping n mode => exact absurd mode (hd n)

/-- The last of some bytes for which nothing is reported, if a header line is open after it. -/
theorem read_concat_header (hd : ∀ n, d.mode ≠ .skip n) (hquiet : (d.read (bytes ++ [byte])).2 = [])
    (hlast : (d.read (bytes ++ [byte])).1.mode = .header) :
    (d.read bytes).2 = [] ∧ (d.read bytes).1.mode = .header ∧
      ((byte = 10 ∧ endsInReturn (d.read bytes).1.buffer = true ∧
          (d.read (bytes ++ [byte])).1.buffer = .empty) ∨
        (¬(byte = 10 ∧ endsInReturn (d.read bytes).1.buffer = true) ∧
          (d.read (bytes ++ [byte])).1.buffer = (d.read bytes).1.buffer.push byte)) := by
  rw [read_concat] at hquiet hlast ⊢
  obtain ⟨hbefore, hnow⟩ := List.append_eq_nil_iff.mp hquiet
  have htakes := step_takes (d.read bytes).1 byte
  rw [Option.toList_eq_nil_iff.mp hnow] at htakes
  exact ⟨hbefore, htakes.header (mode_read_ne_skip hd hbefore) hlast⟩

theorem mode_fresh_ne_skip (n : Nat) : ({} : FrameDecoder).mode ≠ .skip n := by simp

/-- A carriage return that a fresh decoder finds at the end of its line, any decoder finds. -/
theorem endsInReturn_read (hd : ∀ n, d.mode ≠ .skip n) (hquiet : (d.read bytes).2 = [])
    (hheader : (d.read bytes).1.mode = .header) (hfresh : (read {} bytes).2 = [])
    (hheader' : (read {} bytes).1.mode = .header)
    (hreturn : endsInReturn (read {} bytes).1.buffer = true) :
    endsInReturn (d.read bytes).1.buffer = true := by
  rcases List.eq_nil_or_concat bytes with rfl | ⟨front, byte, rfl⟩
  · exact absurd hreturn (by decide)
  rw [List.concat_eq_append] at *
  -- What stands last in a line is the byte that came last, and it is the same byte for both.
  have hbyte : byte = 13 := by
    obtain ⟨-, -, ⟨-, -, hempty⟩ | ⟨-, hpush⟩⟩ :=
      read_concat_header mode_fresh_ne_skip hfresh hheader'
    · rw [hempty] at hreturn
      exact absurd hreturn (by decide)
    · rwa [hpush, endsInReturn_push, beq_iff_eq] at hreturn
  subst hbyte
  obtain ⟨-, -, ⟨hfeed, -, -⟩ | ⟨-, hpush⟩⟩ := read_concat_header hd hquiet hheader
  · exact absurd hfeed (by decide)
  · rw [hpush, endsInReturn_push, beq_self_eq_true]

/-- A line that is too long does not end with bytes that end a block for a fresh decoder. -/
theorem hasLongLine_of_midFrame (hd : ∀ n, d.mode ≠ .skip n) (hne : bytes ≠ [])
    (hquiet : (d.read bytes).2 = []) (hfresh : (read {} bytes).2 = [])
    (hend : (read {} bytes).1.midFrame = false) : (d.read bytes).1.hasLongLine = false := by
  refine Bool.eq_false_iff.mpr fun hlong => ?_
  obtain ⟨hheader, hsize⟩ := hasLongLine_iff.mp hlong
  obtain ⟨hheader', -, hempty⟩ := midFrame_eq_false_iff.mp hend
  obtain ⟨front, byte, rfl⟩ := (List.eq_nil_or_concat bytes).resolve_left hne
  rw [List.concat_eq_append] at *
  obtain ⟨hquiet, hfront, hline⟩ := read_concat_header hd hquiet hheader
  obtain ⟨hfresh, hfront', hline'⟩ := read_concat_header mode_fresh_ne_skip hfresh hheader'
  -- The last byte ends a line for the fresh decoder, and not for the other.
  rcases hline with ⟨-, -, hnone⟩ | ⟨hmore, -⟩
  · rw [hnone] at hsize
    exact absurd hsize (by simp)
  rcases hline' with ⟨hfeed, hreturn, -⟩ | ⟨-, hpush⟩
  · exact hmore ⟨hfeed, endsInReturn_read hd hquiet hfront hfresh hfront' hreturn⟩
  · rw [hempty] at hpush
    exact absurd (congrArg ByteArray.size hpush) (by simp)

/-! ### Two ways to cut a stream -/

/-- What a look at the end of the last chunk reports, if it finds a line that is too long. -/
theorem settled_eq_nil_iff {found : FrameDecoder × List FrameEvent} :
    (settled found).2 = [] ↔ found.2 = [] ∧ found.1.hasLongLine = false := by
  obtain ⟨d, events⟩ := found
  cases h : d.hasLongLine with
  | false => simp [settled_of_short h]
  | true => simp [settled_of_long h]

theorem report_whole (stream : ByteArray) :
    report [stream] =
      ((settled (read {} (octets stream))).2, (settled (read {} (octets stream))).1.midFrame) := by
  simp [report, feedAll, feed_eq]

theorem report_of_linesFit {chunks : List ByteArray} (h : LinesFit (joined chunks)) :
    report chunks = report [joined chunks] := by
  rw [report_whole, report, feedAll_eq {} chunks rfl h]

/-- What two chunks come to, if a line is too long at the end of the first. -/
theorem report_pair_of_long {start rest : List UInt8}
    (hlong : (read {} start).1.hasLongLine = true) :
    report [start.toByteArray, rest.toByteArray] =
      ((read {} start).2 ++ .error .headerTooLong :: (settled (read {} rest)).2,
        (settled (read {} rest)).1.midFrame) := by
  have hfirst : settled (read {} start) = ({}, (read {} start).2 ++ [.error .headerTooLong]) :=
    settled_of_long hlong
  simp [report, feedAll, feed_eq, hfirst]

/-- A long line before the last byte shows: the stream in one piece is not reported like the
    stream that is cut there. -/
theorem report_ne_of_long (start rest : List UInt8) (hrest : rest ≠ [])
    (hlong : (read {} start).1.hasLongLine = true) :
    report [(start ++ rest).toByteArray] ≠ report [start.toByteArray, rest.toByteArray] := by
  intro hsame
  rw [report_pair_of_long hlong, report_whole, octets_toByteArray, read_append, settled_append,
    Prod.mk.injEq, List.append_cancel_left_eq] at hsame
  obtain ⟨hevents, hmid⟩ := hsame
  have hnot := onlyAtEnd_notMem_read (.inl rfl) (read {} start).1 rest
  cases hlater : ((read {} start).1.read rest).1.hasLongLine with
  | false =>
    -- In one piece no line is too long, and then nothing says so.
    rw [settled_of_short hlater] at hevents
    exact hnot (hevents ▸ List.mem_cons_self)
  | true =>
    -- In one piece the line is too long at the end only, so it is the one thing reported.
    rw [settled_of_long hlater] at hevents hmid
    cases hquiet : ((read {} start).1.read rest).2 with
    | cons event events =>
      rw [hquiet, List.cons_append, List.cons.injEq] at hevents
      exact hnot (by rw [hquiet, hevents.1]; exact List.mem_cons_self)
    | nil =>
      rw [hquiet, List.nil_append, List.cons.injEq] at hevents
      obtain ⟨hfresh, hshort⟩ := settled_eq_nil_iff.mp hevents.2.symm
      rw [settled_of_short hshort] at hmid
      have hheader : ∀ n, (read {} start).1.mode ≠ .skip n := by
        rw [(hasLongLine_iff.mp hlong).1]
        exact mode_fresh_ne_skip
      have hfalse := hasLongLine_of_midFrame hheader hrest hquiet hfresh hmid.symm
      exact absurd hlater (by rw [hfalse]; decide)

/-- **Where a stream is cut matters exactly through long lines.**  A stream comes to the same
    report however it is cut into chunks, exactly if its lines fit. -/
theorem forall_report_eq_iff_linesFit (stream : ByteArray) :
    (∀ chunks chunks', joined chunks = stream → joined chunks' = stream →
      report chunks = report chunks') ↔ LinesFit stream := by
  constructor
  · intro hsame start hstart hne
    obtain ⟨rest, hrest⟩ := hstart
    -- Cut where a line is too long, the stream would show it.
    refine Bool.eq_false_iff.mpr fun hlong => ?_
    have hstream : (start ++ rest).toByteArray = stream := octets_inj.mp (by simpa using hrest)
    refine report_ne_of_long start rest ?_ hlong (hsame _ _ (by simpa using hstream) ?_)
    · rintro rfl
      exact hne (by simpa using hrest)
    · simpa using hstream
  · -- Every way to cut the stream comes to what the stream in one piece comes to.
    rintro hfit chunks chunks' rfl hjoined
    have hfit' : LinesFit (joined chunks') := by rwa [hjoined]
    rw [report_of_linesFit hfit, report_of_linesFit hfit', hjoined]

/-- A line of too many letters is refused if its end comes in the next chunk, and taken if it
    comes in the same. -/
theorem report_letters_ne {n : Nat} (hn : maxHeaderLine < n) :
    report [(List.replicate n (97 : UInt8) ++ [13, 10]).toByteArray] ≠
      report [(List.replicate n 97).toByteArray, [13, 10].toByteArray] := by
  have hline : ¬lineEnd <:+: octets .empty ++ List.replicate n (97 : UInt8) := by
    intro hinfix
    have hmem : (13 : UInt8) ∈ List.replicate n 97 := hinfix.subset (by simp [lineEnd])
    exact absurd (List.eq_of_mem_replicate hmem) (by decide)
  refine report_ne_of_long _ _ (by simp) ?_
  rw [read_inLine .empty 0 none _ hline, hasLongLine_iff]
  exact ⟨rfl, by simpa using hn⟩

/-- So not every stream comes to the same report however it is cut. -/
theorem not_forall_report_eq :
    ¬∀ chunks chunks', joined chunks = joined chunks' → report chunks = report chunks' := by
  intro hsame
  have hn : maxHeaderLine < 8193 := by decide
  exact report_letters_ne hn (hsame _ _ (octets_inj.mp (by simp only [joined_cons, joined_nil,
    octets_append, octets_toByteArray, octets_empty, List.append_nil])))

end FrameDecoder

end SymbolSearch
