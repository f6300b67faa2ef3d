import Mathlib.Data.List.Induction
import SymbolSearch.Proofs.Rpc.Blocks

/-!
# Where a stream breaks off

Behind complete blocks a decoder stands between blocks.  This file shows the converse: what a
decoder has taken can be told from where it stands, so it stands between blocks only behind
complete blocks.

* `Stands start d` — behind `start`, which is complete blocks and a part of one more, the decoder
  is `d`.
* `HeaderLinesFit` — the header lines of a stream are not too long.
* `HeaderLinesFit.stands` — then a decoder stands, behind every start of the stream, where the
  blocks say.
* `midFrame_feedAll_eq_false_iff` — so the decoder ends between blocks exactly if the stream is
  complete blocks and blank lines between them, and this holds however it is cut.
-/

namespace SymbolSearch

open FrameDecoder

/-! ### Line ends -/

/-- Bytes with a line end in them begin with a line, up to the first line end. -/
theorem exists_line_of_lineEnd_infix {bytes : List UInt8} (h : lineEnd <:+: bytes) :
    ∃ line rest, bytes = line ++ lineEnd ++ rest ∧ ¬lineEnd <:+: line := by
  induction bytes with
  | nil => exact absurd (List.infix_nil.mp h) (by decide)
  | cons byte bytes ih =>
    by_cases hnow : lineEnd <+: byte :: bytes
    · obtain ⟨rest, hrest⟩ := hnow
      exact ⟨[], rest, hrest.symm, by decide⟩
    obtain ⟨line, rest, rfl, hline⟩ := ih ((List.infix_cons_iff.mp h).resolve_left hnow)
    refine ⟨byte :: line, rest, rfl, fun hinside => ?_⟩
    -- A line end that begins with the first byte would begin the whole.
    rcases List.infix_cons_iff.mp hinside with hnow' | hlater
    · exact hnow (hnow'.trans ⟨lineEnd ++ rest, by simp⟩)
    · exact hline hlater

/-- A line feed makes a line end only behind a carriage return. -/
theorem lineEnd_not_infix_push {buffer : ByteArray} {byte : UInt8}
    (hbuffer : ¬lineEnd <:+: octets buffer)
    (hmore : ¬(byte = 10 ∧ endsInReturn buffer = true)) :
    ¬lineEnd <:+: octets (buffer.push byte) := by
  rintro ⟨before, rest, h⟩
  rw [octets_push] at h
  rcases List.eq_nil_or_concat rest with rfl | ⟨front, last, rfl⟩
  · -- The line end stands last, so its line feed is the byte.
    have hsplit : before ++ [13] ++ [10] = octets buffer ++ [byte] := by
      simpa [lineEnd] using h
    obtain ⟨hreturn, hfeed⟩ := List.append_inj' hsplit rfl
    refine hmore ⟨(List.singleton_inj.mp hfeed).symm, endsInReturn_iff.mpr ?_⟩
    exact ⟨before.toByteArray, octets_inj.mp (by simpa using hreturn.symm)⟩
  · -- The line end stands before the byte.
    have hsplit : before ++ lineEnd ++ front ++ [last] = octets buffer ++ [byte] := by
      simpa using h
    exact hbuffer ⟨before, front, (List.append_inj' hsplit rfl).1⟩

/-! ### Header lines and blocks, one after the other -/

/-- A header line of a block. -/
structure HeaderLine (line : ByteArray) : Prop where
  ne_empty : line ≠ .empty
  fits : line.size < maxHeaderLine
  whole : ¬lineEnd <:+: octets line

theorem headerBytes_concat (lines : List ByteArray) (line : ByteArray) :
    Block.headerBytes (lines ++ [line]) = Block.headerBytes lines ++ octets line ++ lineEnd := by
  simp [Block.headerBytes]

/-- A header line without a length leaves the length that the lines before it give. -/
theorem lengthOfLines_concat (lines : List ByteArray) (line : ByteArray) :
    (lengthOfLines (lines ++ [line])).map lengthOf =
      (headerLength? line).or ((lengthOfLines lines).map lengthOf) := by
  rw [lengthOfLines, List.filterMap_append, headerLength?]
  cases h : lengthText? line <;> simp [h, lengthOfLines]

theorem stream_blankLine (blocks : List (Nat × Block)) (strays : Nat) :
    stream blocks (strays + 1) = stream blocks strays ++ lineEnd := by
  simp [stream, blankLines, List.replicate_succ']

/-- A stream goes on with header lines, a blank line and the body that belongs to them. -/
theorem stream_append_block (blocks : List (Nat × Block)) (strays : Nat) {lines : List ByteArray}
    {body : ByteArray} (hne : lines ≠ []) (hlines : ∀ line ∈ lines, HeaderLine line)
    (hsize : body.size = ((lengthOfLines lines).bind parseLength?).getD 0) :
    ∃ more, stream blocks strays ++ Block.headerBytes lines ++ lineEnd ++ octets body =
      stream more 0 := by
  let block : Block :=
    { lines, body
      lines_ne_nil := hne
      line_ne_empty := fun line hline => (hlines line hline).ne_empty
      line_fits := fun line hline => (hlines line hline).fits
      lineEnd_not_infix := fun line hline => (hlines line hline).whole
      size_body := hsize }
  refine ⟨blocks ++ [(strays, block)], ?_⟩
  simp [stream, Block.bytes, blankLines, block]

/-! ### Where a decoder stands -/

/-- Where a decoder stands behind a start of a stream that is complete blocks, with blank lines
    between them, and a part of one more block: in its header, in its body, or in a body that is
    too long. -/
inductive Stands : List UInt8 → FrameDecoder → Prop where
  | inHeader (blocks : List (Nat × Block)) (strays : Nat) (lines : List ByteArray)
      (buffer : ByteArray) (hlines : ∀ line ∈ lines, HeaderLine line)
      (hopen : ¬lineEnd <:+: octets buffer) :
      Stands (stream blocks strays ++ Block.headerBytes lines ++ octets buffer)
        ⟨.header, buffer, lines.length, (lengthOfLines lines).map lengthOf⟩
  | inBody (blocks : List (Nat × Block)) (strays : Nat) (lines : List ByteArray)
      (buffer : ByteArray) (n : Nat) (hne : lines ≠ []) (hlines : ∀ line ∈ lines, HeaderLine line)
      (hlength : (lengthOfLines lines).bind parseLength? = some n) (hmore : buffer.size < n) :
      Stands (stream blocks strays ++ Block.headerBytes lines ++ lineEnd ++ octets buffer)
        ⟨.body n, buffer, 0, none⟩
  | inSkip (blocks : List (Nat × Block)) (strays : Nat) (lines : List ByteArray)
      (skipped : ByteArray) (n : Nat) (hne : lines ≠ []) (hlines : ∀ line ∈ lines, HeaderLine line)
      (hlength : (lengthOfLines lines).bind parseLength? = some n) (hmore : skipped.size < n) :
      Stands (stream blocks strays ++ Block.headerBytes lines ++ lineEnd ++ octets skipped)
        ⟨.skip (n - skipped.size), .empty, 0, none⟩

namespace Stands

variable {start : List UInt8} {d : FrameDecoder}

/-- Behind complete blocks a decoder is fresh. -/
theorem fresh (blocks : List (Nat × Block)) (strays : Nat) : Stands (stream blocks strays) {} := by
  have h := inHeader blocks strays [] .empty (by simp) (by decide)
  simpa [Block.headerBytes, lengthOfLines] using h

/-- Behind the last byte of a block, too. -/
theorem behindBlock (blocks : List (Nat × Block)) (strays : Nat) {lines : List ByteArray}
    (body : ByteArray) (hne : lines ≠ []) (hlines : ∀ line ∈ lines, HeaderLine line)
    (hsize : body.size = ((lengthOfLines lines).bind parseLength?).getD 0) :
    Stands (stream blocks strays ++ Block.headerBytes lines ++ lineEnd ++ octets body) {} := by
  obtain ⟨more, hmore⟩ := stream_append_block blocks strays hne hlines hsize
  rw [hmore]
  exact fresh more 0

/-- Behind the blank line of a block: the body begins, if there is one. -/
theorem behindHeader (blocks : List (Nat × Block)) (strays : Nat) {lines : List ByteArray}
    (hne : lines ≠ []) (hlines : ∀ line ∈ lines, HeaderLine line) :
    Stands (stream blocks strays ++ Block.headerBytes lines ++ lineEnd)
      (endHeader ((lengthOfLines lines).map lengthOf)).1 := by
  -- Without a length, or with the length zero, the block ends with its header.
  have hnoBody (h : ((lengthOfLines lines).bind parseLength?).getD 0 = 0) :
      Stands (stream blocks strays ++ Block.headerBytes lines ++ lineEnd) {} := by
    simpa using behindBlock blocks strays .empty hne hlines h.symm
  cases hraw : lengthOfLines lines with
  | none => exact hnoBody (by simp [hraw])
  | some raw =>
    rw [Option.map_some, lengthOf]
    cases hn : parseLength? raw with
    | none => exact hnoBody (by simp [hraw, hn])
    | some n =>
      have hlength : (lengthOfLines lines).bind parseLength? = some n := by simp [hraw, hn]
      simp only [endHeader]
      split
      next hover =>
        simpa using inSkip blocks strays lines .empty n hne hlines hlength (by
          rw [ByteArray.size_empty]
          omega)
      next =>
        split
        next hzero => exact hnoBody (by simp [hlength, hzero])
        next hpos =>
          simpa using inBody blocks strays lines .empty n hne hlines hlength (by
            rw [ByteArray.size_empty]
            omega)

/-- A header line ends, and it may be a blank one. -/
theorem behindLine (blocks : List (Nat × Block)) (strays : Nat) {lines : List ByteArray}
    {line : ByteArray} (hlines : ∀ each ∈ lines, HeaderLine each)
    (hfits : line.size < maxHeaderLine) (hopen : ¬lineEnd <:+: octets line) :
    Stands (stream blocks strays ++ Block.headerBytes lines ++ octets line ++ lineEnd)
      (takeLine line lines.length ((lengthOfLines lines).map lengthOf)).1 := by
  by_cases hempty : line = .empty
  · subst hempty
    rw [octets_empty, List.append_nil]
    by_cases hne : lines = []
    · -- A blank line where no block has begun strays between blocks.
      subst hne
      rw [Block.headerBytes, List.flatMap_nil, List.append_nil, ← stream_blankLine]
      exact fresh blocks (strays + 1)
    · rw [takeLine_empty (by simpa using hne)]
      exact behindHeader blocks strays hne hlines
  · have hmore : ∀ each ∈ lines ++ [line], HeaderLine each :=
      List.forall_mem_append.mpr ⟨hlines, by simpa using ⟨hempty, hfits, hopen⟩⟩
    have h := inHeader blocks strays (lines ++ [line]) .empty hmore (by decide)
    rw [takeLine_of_ne_empty hempty]
    simpa [headerBytes_concat, lengthOfLines_concat] using h

/-- **Every byte moves a decoder on.**  A header line that ends must not be too long. -/
theorem step (h : Stands start d) (byte : UInt8)
    (hfits : ∀ blocks strays lines line, (∀ each ∈ lines, HeaderLine each) →
      start ++ [byte] = stream blocks strays ++ Block.headerBytes lines ++ line ++ lineEnd →
      ¬lineEnd <:+: line → line.length < maxHeaderLine) :
    Stands (start ++ [byte]) (d.step byte).1 := by
  cases h with
  | inHeader blocks strays lines buffer hlines hopen =>
    by_cases hend : byte = 10 ∧ endsInReturn buffer = true
    · obtain ⟨rfl, hreturn⟩ := hend
      obtain ⟨line, rfl⟩ := endsInReturn_iff.mp hreturn
      -- The byte is the second half of a line end, whose first half stands in the buffer.
      have hline : ¬lineEnd <:+: octets line := by
        intro hinside
        exact hopen (hinside.trans (by simpa using (List.prefix_append _ _).isInfix))
      have hbytes : stream blocks strays ++ Block.headerBytes lines ++ octets (line.push 13) ++ [10]
          = stream blocks strays ++ Block.headerBytes lines ++ octets line ++ lineEnd := by
        simp [lineEnd]
      rw [step_lineEnd, hbytes]
      exact behindLine blocks strays hlines (hfits blocks strays lines _ hlines hbytes hline) hline
    · rw [step_inLine hend, List.append_assoc, ← octets_push]
      exact inHeader blocks strays lines _ hlines (lineEnd_not_infix_push hopen hend)
  | inBody blocks strays lines buffer n hne hlines hlength hmore =>
    rw [List.append_assoc, ← octets_push]
    by_cases hend : n ≤ buffer.size + 1
    · rw [step_bodyEnd hend]
      refine behindBlock blocks strays _ hne hlines ?_
      rw [ByteArray.size_push, hlength, Option.getD_some]
      omega
    · rw [step_inBody (by omega)]
      refine inBody blocks strays lines _ n hne hlines hlength ?_
      rw [ByteArray.size_push]
      omega
  | inSkip blocks strays lines skipped n hne hlines hlength hmore =>
    rw [List.append_assoc, ← octets_push]
    by_cases hend : n - skipped.size ≤ 1
    · rw [step_skipEnd hend]
      refine behindBlock blocks strays _ hne hlines ?_
      rw [ByteArray.size_push, hlength, Option.getD_some]
      omega
    · have hleft : n - skipped.size - 1 = n - (skipped.push byte).size := by
        rw [ByteArray.size_push]
        omega
      rw [step_skipping (by omega), hleft]
      refine inSkip blocks strays lines _ n hne hlines hlength ?_
      rw [ByteArray.size_push]
      omega

/-- A decoder that stands between blocks stands behind complete blocks. -/
theorem eq_stream (h : Stands start d) (hend : d.midFrame = false) :
    ∃ blocks strays, start = stream blocks strays := by
  obtain ⟨hmode, hlines, hbuffer⟩ := midFrame_eq_false_iff.mp hend
  cases h with
  | inHeader blocks strays lines buffer =>
    refine ⟨blocks, strays, ?_⟩
    have hlines : lines = [] := List.eq_nil_of_length_eq_zero hlines
    have hbuffer : buffer = .empty := hbuffer
    simp [hlines, hbuffer, Block.headerBytes]
  | inBody => cases hmode
  | inSkip => cases hmode

end Stands

/-! ### Streams with header lines that fit -/

/-- A header line begins behind complete blocks, with blank lines between them, and behind header
    lines of one more. -/
def LineBegins (before : List UInt8) : Prop :=
  ∃ blocks strays lines, (∀ line ∈ lines, HeaderLine line) ∧
    before = stream blocks strays ++ Block.headerBytes lines

/-- The header lines of a stream are not too long: at most 8191 bytes stand before the end of a
    line.  The last line may be without its end, and then its last byte may be half of it. -/
structure HeaderLinesFit (bytes : List UInt8) : Prop where
  ended : ∀ before line rest, LineBegins before → bytes = before ++ line ++ lineEnd ++ rest →
    ¬lineEnd <:+: line → line.length < maxHeaderLine
  unended : ∀ before line, LineBegins before → bytes = before ++ line →
    ¬lineEnd <:+: line → line.length ≤ maxHeaderLine

namespace HeaderLinesFit

variable {bytes : List UInt8}

/-- No part of a line is longer than a line may be with its carriage return. -/
theorem length_le (h : HeaderLinesFit bytes) {before part : List UInt8}
    (hbegins : LineBegins before) (hpart : before ++ part <+: bytes)
    (hopen : ¬lineEnd <:+: part) : part.length ≤ maxHeaderLine := by
  obtain ⟨rest, hrest⟩ := hpart
  rw [List.append_assoc] at hrest
  by_cases hend : lineEnd <:+: part ++ rest
  · -- The line goes on to its first end, and the part reaches at most to the carriage return.
    obtain ⟨line, more, hsplit, hline⟩ := exists_line_of_lineEnd_infix hend
    have hlength := h.ended before line more hbegins (by simp [← hrest, hsplit]) hline
    refine Nat.le_of_not_lt fun hlong => ?_
    have hwhole : line ++ lineEnd <+: part := by
      refine List.prefix_of_prefix_length_le ⟨more, hsplit.symm⟩ (List.prefix_append _ _) ?_
      simp only [List.length_append, lineEnd, List.length_cons, List.length_nil]
      omega
    exact hopen ((List.suffix_append line lineEnd).isInfix.trans hwhole.isInfix)
  · have hlength := h.unended before (part ++ rest) hbegins hrest.symm hend
    rw [List.length_append] at hlength
    omega

/-- **A decoder stands where the blocks say**, behind every start of the stream. -/
theorem stands (h : HeaderLinesFit bytes) {start : List UInt8} (hstart : start <+: bytes) :
    Stands start (read {} start).1 := by
  induction start using List.reverseRecOn with
  | nil => exact Stands.fresh [] 0
  | append_singleton start byte ih =>
    rw [read_concat]
    refine (ih ((List.prefix_append _ _).trans hstart)).step byte ?_
    intro blocks strays lines line hlines hsplit hline
    obtain ⟨rest, rfl⟩ := hstart
    exact h.ended _ line rest ⟨blocks, strays, lines, hlines, rfl⟩ (by rw [hsplit]) hline

/-- So no line is too long behind any start of the stream. -/
theorem reads (h : HeaderLinesFit bytes) :
    Reads {} bytes (read {} bytes).1 (read {} bytes).2 where
  read_eq := rfl
  short := by
    intro start hstart
    generalize hd : (read {} start).1 = d
    have hstands := h.stands hstart
    rw [hd] at hstands
    cases hstands with
    | inHeader blocks strays lines buffer hlines hopen =>
      exact hasLongLine_of_size_le (h.length_le ⟨blocks, strays, lines, hlines, rfl⟩ hstart hopen)
    | inBody => rfl
    | inSkip => rfl

/-- A stream that is no longer than a line may be has no line that is too long. -/
theorem of_length_lt (h : bytes.length < maxHeaderLine) : HeaderLinesFit bytes where
  ended := by
    rintro before line rest - rfl -
    simp only [List.length_append] at h
    omega
  unended := by
    rintro before line - rfl -
    rw [List.length_append] at h
    omega

/-- **A decoder tells a complete stream from one that breaks off.**  However the stream is cut,
    the decoder ends between blocks exactly if the stream is complete blocks, with blank lines
    between them. -/
theorem midFrame_feedAll_eq_false_iff {chunks : List ByteArray}
    (h : HeaderLinesFit (octets (joined chunks))) :
    (feedAll {} chunks).1.midFrame = false ↔
      ∃ blocks strays, octets (joined chunks) = stream blocks strays := by
  rw [h.reads.feedAll]
  constructor
  · exact (h.stands (List.prefix_refl _)).eq_stream
  · rintro ⟨blocks, strays, hstream⟩
    rw [hstream, (reads_stream blocks strays).read_eq]
    rfl

end HeaderLinesFit
end SymbolSearch
