import SymbolSearch.Proofs.Rpc.Reading

/-!
# Blocks of a stream

A stream of frames is a list of blocks: header lines, a blank line, and a body of the length that
the header gives.  Blank lines may stray between blocks.

* `Block` — one block, well formed or not; `Block.event` is what it comes to by itself.
* `stream` — the bytes of a list of blocks and of the blank lines between them.
* `reads_block` — a decoder between blocks takes a block, reports its event, and is between blocks
  again.
* `report_stream` — so a decoder reports one event for each block, however the stream is cut, and
  a bad block does not change what is reported for the next.
-/

namespace SymbolSearch

open FrameDecoder

/-! ### Header lines -/

/-- A line gives `raw` as the length: before its first colon stands `Content-Length`, in any case
    and with blanks around it, and `raw` is what stands behind, without the blanks around it. -/
theorem lengthText?_eq_some_iff {line : ByteArray} {raw : String} :
    lengthText? line = some raw ↔ ∃ name value,
      (Text.decodeLossy line).toList = name ++ ':' :: value ∧ ':' ∉ name ∧
        Text.eqIgnoringAsciiCase (String.ofList (Text.trimChars name)) "content-length" = true ∧
        raw = String.ofList (Text.trimChars value) := by
  generalize hcs : (Text.decodeLossy line).toList = cs
  rw [lengthText?, hcs]
  constructor
  · intro h
    have hname : ':' ∉ cs.takeWhile (· ≠ ':') := by
      intro hmem
      exact absurd (List.all_eq_true.mp List.all_takeWhile _ hmem) (by simp)
    have hcs := (List.takeWhile_append_dropWhile (p := (· ≠ ':')) (l := cs)).symm
    dsimp only at h
    split at h
    next value hvalue =>
      split at h
      next hlength =>
        rw [hvalue] at hcs
        exact ⟨_, value, hcs, hname, hlength, (Option.some.inj h).symm⟩
      next => cases h
    next => cases h
  · rintro ⟨name, value, rfl, hname, hlength, rfl⟩
    have hne : ∀ c ∈ name, decide (c ≠ ':') = true := by
      intro c hc
      simpa using ne_of_mem_of_not_mem hc hname
    rw [List.takeWhile_append_of_pos hne, List.dropWhile_append_of_pos hne]
    simp [hlength]

/-- What the last of some header lines that give a length gives. -/
def lengthOfLines (lines : List ByteArray) : Option String := (lines.filterMap lengthText?).getLast?

/-- A block of a stream, with its parts as they came: header lines that are not too long, and the
    body that belongs to them. -/
structure Block where
  lines : List ByteArray
  body : ByteArray
  lines_ne_nil : lines ≠ []
  line_ne_empty : ∀ line ∈ lines, line ≠ .empty
  line_fits : ∀ line ∈ lines, line.size < maxHeaderLine
  lineEnd_not_infix : ∀ line ∈ lines, ¬lineEnd <:+: octets line
  size_body : body.size = ((lengthOfLines lines).bind parseLength?).getD 0

namespace Block

/-- The bytes of header lines, each with its end. -/
def headerBytes (lines : List ByteArray) : List UInt8 := lines.flatMap (octets · ++ lineEnd)

/-- The bytes of a block. -/
def bytes (block : Block) : List UInt8 := headerBytes block.lines ++ lineEnd ++ octets block.body

/-- What a body comes to behind header lines that give `raw`, or nothing, as its length. -/
def verdict (raw : Option String) (body : ByteArray) : FrameEvent :=
  match raw with
  | none => .error .missingLength
  | some raw =>
    match parseLength? raw with
    | none => .error (.invalidLength raw)
    | some n =>
      if maxFrameBytes < n then .error (.oversized n)
      else
        match Json.ofBytes? body with
        | some value => .frame ⟨body, value⟩
        | none => .error .invalidJson

/-- What is reported for a block. -/
def event (block : Block) : FrameEvent := verdict (lengthOfLines block.lines) block.body

end Block

/-- A number of blank lines. -/
def blankLines (n : Nat) : List UInt8 := (List.replicate n lineEnd).flatten

/-- The bytes of a list of blocks, with a number of blank lines before each, and some at the
    end. -/
def stream (blocks : List (Nat × Block)) (strays : Nat) : List UInt8 :=
  blocks.flatMap (fun (strays, block) => blankLines strays ++ block.bytes) ++ blankLines strays

namespace FrameDecoder

variable {d : FrameDecoder} {lines : Nat} {length : Option (Except String Nat)}

/-! ### The parts of a block -/

theorem Reads.of_step {byte : UInt8} {next : FrameDecoder} {event : Option FrameEvent}
    (h : d.step byte = (next, event)) (hd : d.hasLongLine = false)
    (hnext : next.hasLongLine = false) : Reads d [byte] next event.toList where
  read_eq := by rw [read_cons, read_nil, List.append_nil, h]
  short := by
    intro start hstart
    rcases List.prefix_cons_iff.mp hstart with rfl | ⟨rest, rfl, hrest⟩
    · exact hd
    · rwa [List.prefix_nil.mp hrest, read_cons, read_nil, h]

/-- The bytes of a line that fits are read as a line. -/
theorem reads_inLine (line : ByteArray) (lines : Nat) (length : Option (Except String Nat))
    (hwhole : ¬lineEnd <:+: octets line) (hfits : line.size < maxHeaderLine) :
    Reads ⟨.header, .empty, lines, length⟩ (octets line) ⟨.header, line, lines, length⟩ [] where
  read_eq := by
    rw [read_inLine _ _ _ _ (by simpa using hwhole), toByteArray_octets, ByteArray.empty_append]
  short := by
    intro start hstart
    have hstart' : ¬lineEnd <:+: start := fun h => hwhole (h.trans hstart.isInfix)
    rw [read_inLine _ _ _ _ (by simpa using hstart'), Bool.eq_false_iff, ne_eq, hasLongLine_iff]
    have hsize : start.length ≤ line.size := hstart.length_le
    simp only [ByteArray.empty_append, List.size_toByteArray]
    omega

theorem hasLongLine_of_size_le (h : d.buffer.size ≤ maxHeaderLine) : d.hasLongLine = false := by
  rw [Bool.eq_false_iff, ne_eq, hasLongLine_iff]
  omega

/-- A line that fits is read with its end. -/
theorem reads_line (line : ByteArray) (lines : Nat) (length : Option (Except String Nat))
    (hwhole : ¬lineEnd <:+: octets line) (hfits : line.size < maxHeaderLine) :
    Reads ⟨.header, .empty, lines, length⟩ (octets line ++ lineEnd)
      (takeLine line lines length).1 (takeLine line lines length).2.toList := by
  have hline : hasLongLine ⟨.header, line, lines, length⟩ = false :=
    hasLongLine_of_size_le (Nat.le_of_lt hfits)
  have hpushed : hasLongLine ⟨.header, line.push 13, lines, length⟩ = false :=
    hasLongLine_of_size_le (by rw [ByteArray.size_push]; exact hfits)
  have hnext : (takeLine line lines length).1.hasLongLine = false :=
    hasLongLine_of_size_le (by simp [buffer_takeLine])
  -- The carriage return is still part of the line, and there is room for it.
  have hreturn := Reads.of_step (step_inLine fun h => absurd h.1 (by decide)) hline hpushed
  have hfeed := Reads.of_step (step_lineEnd line) hpushed hnext
  exact (reads_inLine line lines length hwhole hfits).append (hreturn.append hfeed)

/-- Blank lines between blocks are skipped. -/
theorem reads_blankLines (n : Nat) : Reads {} (blankLines n) {} [] := by
  induction n with
  | zero => exact Reads.nil rfl
  | succ n ih =>
    have hblank : Reads {} lineEnd {} [] := reads_line .empty 0 none (by decide) (by decide)
    rw [blankLines, List.replicate_succ, List.flatten_cons]
    exact hblank.append ih

/-- A header line is counted, and its length is kept, if it gives one. -/
theorem takeLine_of_ne_empty {line : ByteArray} (hne : line ≠ .empty) (lines : Nat)
    (length : Option (Except String Nat)) :
    takeLine line lines length =
      (⟨.header, .empty, lines + 1, (headerLength? line).or length⟩, none) := by
  have hline : line.isEmpty = false := by
    simpa [ByteArray.isEmpty, ByteArray.size_eq_zero_iff] using hne
  rw [takeLine, if_neg (by simp [hline])]
  cases headerLength? line <;> rfl

/-- A blank line behind header lines ends them. -/
theorem takeLine_empty (hlines : lines ≠ 0) : takeLine .empty lines length = endHeader length := by
  rw [takeLine, if_pos (by rfl), if_neg hlines]

/-- The header lines of a block are counted, and the last length is kept. -/
theorem reads_headerBytes (headers : List ByteArray) (lines : Nat)
    (length : Option (Except String Nat)) (hne : ∀ line ∈ headers, line ≠ .empty)
    (hwhole : ∀ line ∈ headers, ¬lineEnd <:+: octets line)
    (hfits : ∀ line ∈ headers, line.size < maxHeaderLine) :
    Reads ⟨.header, .empty, lines, length⟩ (Block.headerBytes headers)
      ⟨.header, .empty, lines + headers.length,
        ((headers.filterMap headerLength?).getLast?).or length⟩ [] := by
  induction headers generalizing lines length with
  | nil => exact Reads.nil (hasLongLine_of_size_le (by simp))
  | cons line rest ih =>
    rw [List.forall_mem_cons] at hne hwhole hfits
    have hline := reads_line line lines length hwhole.1 hfits.1
    rw [takeLine_of_ne_empty hne.1] at hline
    have hrest := ih (lines + 1) ((headerLength? line).or length) hne.2 hwhole.2 hfits.2
    -- The last length of all lines is that of the rest, if the rest has one.
    have hlast : ((rest.filterMap headerLength?).getLast?).or ((headerLength? line).or length) =
        (((line :: rest).filterMap headerLength?).getLast?).or length := by
      rw [← Option.or_assoc, List.filterMap_cons]
      cases headerLength? line <;> simp [List.getLast?_cons, Option.or_some]
    rw [hlast, Nat.add_right_comm] at hrest
    exact hline.append hrest

/-- A body is read to its length, whatever its bytes are. -/
theorem reads_body (n : Nat) (buffer : ByteArray) (lines : Nat)
    (length : Option (Except String Nat)) (bytes : List UInt8) (hne : bytes ≠ [])
    (hlength : buffer.size + bytes.length = n) :
    Reads ⟨.body n, buffer, lines, length⟩ bytes {} [.ofBody (buffer ++ bytes.toByteArray)] := by
  induction bytes generalizing buffer with
  | nil => exact absurd rfl hne
  | cons byte rest ih =>
    rw [List.length_cons] at hlength
    have hpushed : buffer.push byte ++ rest.toByteArray = buffer ++ (byte :: rest).toByteArray :=
      octets_inj.mp (by simp)
    rw [← hpushed]
    cases rest with
    | nil =>
      rw [List.length_nil] at hlength
      simpa using Reads.of_step (step_bodyEnd (by omega)) rfl rfl
    | cons next rest =>
      rw [List.length_cons] at hlength
      have hbyte : Reads ⟨.body n, buffer, lines, length⟩ [byte]
          ⟨.body n, buffer.push byte, lines, length⟩ [] :=
        Reads.of_step (step_inBody (by omega)) rfl rfl
      exact hbyte.append (ih (buffer.push byte) (by simp) (by simp; omega))

/-- The bytes of an oversized body are skipped, whatever they are. -/
theorem reads_skip (n : Nat) (bytes : List UInt8) (hne : bytes ≠ []) (hlength : bytes.length = n) :
    Reads ⟨.skip n, .empty, lines, length⟩ bytes {} [] := by
  induction bytes generalizing n with
  | nil => exact absurd rfl hne
  | cons byte rest ih =>
    rw [List.length_cons] at hlength
    cases rest with
    | nil =>
      rw [List.length_nil] at hlength
      exact Reads.of_step (step_skipEnd (by omega)) rfl rfl
    | cons next rest =>
      rw [List.length_cons] at hlength
      have hbyte : Reads ⟨.skip n, .empty, lines, length⟩ [byte]
          ⟨.skip (n - 1), .empty, lines, length⟩ [] :=
        Reads.of_step (step_skipping (by omega)) rfl rfl
      exact hbyte.append (ih (n - 1) (by simp) (by simp; omega))

/-! ### Blocks -/

/-- What follows the blank line of a block is its body, and nothing else. -/
theorem reads_afterHeader (found : Option String) (body : ByteArray)
    (hsize : body.size = (found.bind parseLength?).getD 0) :
    ∃ events, Reads (endHeader (found.map lengthOf)).1 (octets body) {} events ∧
      (endHeader (found.map lengthOf)).2.toList ++ events = [Block.verdict found body] := by
  have hnoBody (h : body.size = 0) : octets body = [] := List.eq_nil_of_length_eq_zero h
  cases found with
  | none =>
    rw [hnoBody hsize]
    exact ⟨[], Reads.nil rfl, rfl⟩
  | some raw =>
    rw [Option.map_some, lengthOf, Block.verdict]
    rw [Option.bind_some] at hsize
    cases hraw : parseLength? raw with
    | none =>
      rw [hraw] at hsize
      rw [hnoBody hsize]
      exact ⟨[], Reads.nil rfl, rfl⟩
    | some n =>
      rw [hraw, Option.getD_some] at hsize
      simp only [endHeader]
      by_cases hover : maxFrameBytes < n
      · -- The body is skipped to its last byte.
        rw [if_pos hover, if_pos hover]
        have hne : octets body ≠ [] := by
          rw [← List.length_pos_iff, length_octets]
          omega
        exact ⟨[], reads_skip n _ hne (by simpa using hsize), rfl⟩
      rw [if_neg hover, if_neg hover]
      by_cases hzero : n = 0
      · -- The frame is complete with the blank line.
        have hbody : body = .empty := by rwa [← ByteArray.size_eq_zero_iff, hsize]
        subst hbody
        rw [if_pos hzero]
        exact ⟨[], Reads.nil rfl, rfl⟩
      · rw [if_neg hzero]
        have hne : octets body ≠ [] := by
          rw [← List.length_pos_iff, length_octets]
          omega
        refine ⟨[.ofBody body], ?_, rfl⟩
        have hread := reads_body n .empty 0 none _ hne (by simpa using hsize)
        rwa [toByteArray_octets, ByteArray.empty_append] at hread

/-- **A block starts and ends between blocks.**  Whatever is wrong with it, it is taken to its last
    byte, and reported once. -/
theorem reads_block (block : Block) : Reads {} block.bytes {} [block.event] := by
  have hheaders := reads_headerBytes block.lines 0 none block.line_ne_empty
    block.lineEnd_not_infix block.line_fits
  have hfound : ((block.lines.filterMap headerLength?).getLast?).or none =
      (lengthOfLines block.lines).map lengthOf := by
    have hmap : headerLength? = fun line => (lengthText? line).map lengthOf := rfl
    rw [Option.or_none, lengthOfLines, hmap, ← List.map_filterMap, List.getLast?_map]
  have hblank := reads_line .empty (0 + block.lines.length)
    ((lengthOfLines block.lines).map lengthOf) (by decide) (by decide)
  have hlines : block.lines.length ≠ 0 := by simpa using block.lines_ne_nil
  -- Header lines, blank line and body follow one another, and only the last two report.
  obtain ⟨events, hbody, hevents⟩ :=
    reads_afterHeader (lengthOfLines block.lines) block.body block.size_body
  rw [hfound] at hheaders
  rw [takeLine_empty (by omega)] at hblank
  have hall := (hheaders.append hblank).append hbody
  rwa [List.nil_append, hevents] at hall

theorem reads_stream (blocks : List (Nat × Block)) (strays : Nat) :
    Reads {} (stream blocks strays) {} (blocks.map (·.2.event)) := by
  induction blocks with
  | nil => exact reads_blankLines strays
  | cons first rest ih =>
    have hfirst := (reads_blankLines first.1).append (reads_block first.2)
    rw [stream, List.flatMap_cons, List.append_assoc]
    exact hfirst.append ih

/-- **One event for each block.**  However a stream of blocks is cut into chunks, a fresh decoder
    reports each block as if it came alone, in order, and ends between blocks. -/
theorem report_stream (blocks : List (Nat × Block)) (strays : Nat) (chunks : List ByteArray)
    (h : octets (joined chunks) = stream blocks strays) :
    report chunks = (blocks.map (·.2.event), false) := by
  have hreads := reads_stream blocks strays
  rw [← h] at hreads
  rw [report, hreads.feedAll]
  rfl

/-- A block whose length is no number, and behind it a frame, cut between the two bytes of a line
    end. -/
theorem report_badBlock_frame :
    report ["Content-Length: x\r\n\r".toUTF8, "\n\r\nContent-Length: 2\r\n\r\n[]".toUTF8] =
      ([.error (.invalidLength "x"), .frame ⟨"[]".toUTF8, .array []⟩], false) := by
  let bad : Block :=
    { lines := ["Content-Length: x".toUTF8], body := .empty, lines_ne_nil := by decide
      line_ne_empty := by decide, line_fits := by decide, lineEnd_not_infix := by decide
      size_body := by decide +kernel }
  let good : Block :=
    { lines := ["Content-Length: 2".toUTF8], body := "[]".toUTF8, lines_ne_nil := by decide
      line_ne_empty := by decide, line_fits := by decide, lineEnd_not_infix := by decide
      size_body := by decide +kernel }
  have hbad : bad.event = .error (.invalidLength "x") := by
    have hfound : lengthOfLines bad.lines = some "x" := by decide +kernel
    have hlength : parseLength? "x" = none := by decide +kernel
    simp only [Block.event, Block.verdict, hfound, hlength]
  have hgood : good.event = .frame ⟨"[]".toUTF8, .array []⟩ := by
    have hfound : lengthOfLines good.lines = some "2" := by decide +kernel
    have hlength : parseLength? "2" = some 2 := by decide +kernel
    have hvalue : Json.ofBytes? good.body = some (.array []) := by
      have hread : ((Json.ofBytes? good.body).bind Json.array?).map List.isEmpty = some true := by
        decide +kernel
      obtain ⟨items, hitems, hempty⟩ := Option.map_eq_some_iff.mp hread
      obtain ⟨value, hvalue, harray⟩ := Option.bind_eq_some_iff.mp hitems
      obtain rfl := List.isEmpty_iff.mp hempty
      cases value with
      | array items =>
        obtain rfl := Option.some.inj harray
        exact hvalue
      | null | bool | number | string | object => cases harray
    simp only [Block.event, Block.verdict, hfound, hlength, hvalue]
    rfl
  rw [report_stream [(0, bad), (1, good)] 0 _ (by decide +kernel)]
  simp only [List.map_cons, List.map_nil, hbad, hgood]

end FrameDecoder
end SymbolSearch
