import Mathlib
import SymbolSearch.Proofs.Scan.WholeWords

/-!
# Columns

The range that the scan gives for a name is to point at the name: between the bytes of its line at
which the columns of the range begin, there is nothing but the name. Places of a line count
characters, columns count UTF-16 units, and a text is cut at bytes, which are three counts as soon
as a character is not ASCII.

* `offsetOf_unitsOf` — the loop from columns to places undoes the count from places to columns.
* `Range.readBack?` — the bytes that a range covers in the lines of a text.
* `ShortLines` — lines whose columns have no more than 31 bits.
* `readBack?_rangeIn` — the range of some characters of a line covers these characters.
* `Scanner.ranges_readBack` — the symbols of a document follow one another line by line, and they
  and all references read back their names.
-/

namespace SymbolSearch

/-! ### From columns to places -/

namespace Text

theorem charUnits_pos (c : Char) : 0 < charUnits c := by
  unfold charUnits
  split <;> omega

@[simp] theorem unitsOf_nil : unitsOf [] = 0 := rfl

theorem foldl_charUnits (units : Nat) (cs : List Char) :
    cs.foldl (fun units c => units + charUnits c) units = units + unitsOf cs := by
  induction cs generalizing units with
  | nil => rfl
  | cons c rest ih =>
    have hfirst : unitsOf (c :: rest) = 0 + charUnits c + unitsOf rest := ih _
    rw [List.foldl_cons, ih, hfirst, Nat.zero_add, Nat.add_assoc]

@[simp] theorem unitsOf_cons (c : Char) (rest : List Char) :
    unitsOf (c :: rest) = charUnits c + unitsOf rest := by
  rw [unitsOf, List.foldl_cons, foldl_charUnits, Nat.zero_add]

@[simp] theorem unitsOf_append (first second : List Char) :
    unitsOf (first ++ second) = unitsOf first + unitsOf second := by
  rw [unitsOf, List.foldl_append, foldl_charUnits, foldl_charUnits, Nat.zero_add]

end Text

theorem offsetOf_go_unitsOf (units : Nat) (before rest : List Char) :
    offsetOf.go (units + Text.unitsOf before) units (before ++ rest) = before.length := by
  induction before generalizing units with
  | nil =>
    -- The column is reached, whether or not a character follows.
    cases rest with
    | nil => rfl
    | cons c rest => exact if_pos (Nat.le_refl units)
  | cons c before ih =>
    have hpos : 0 < Text.charUnits c := Text.charUnits_pos c
    rw [Text.unitsOf_cons, List.cons_append, offsetOf.go, if_neg (by omega), ← Nat.add_assoc, ih,
      List.length_cons, Nat.add_comm]

/-- The place at the column behind some characters is behind them. -/
theorem offsetOf_unitsOf (before rest : List Char) :
    offsetOf (before ++ rest) (Text.unitsOf before) = before.length := by
  have hgo := offsetOf_go_unitsOf 0 before rest
  rwa [Nat.zero_add] at hgo

/-! ### What a range covers -/

/-- The number of bytes of a line before a column. -/
def byteOffset (line : List Char) (column : UInt32) : Nat :=
  (String.ofList (line.take (offsetOf line column.toNat))).utf8ByteSize

/-- The bytes of a line from one column up to another. -/
def bytesBetween (line : List Char) (start stop : UInt32) : ByteArray :=
  (String.ofList line).toUTF8.extract (byteOffset line start) (byteOffset line stop)

/-- The bytes that a range covers in the lines of a text, if it is a range of one of them. -/
def Range.readBack? (range : Range) (lines : List (List Char)) : Option ByteArray :=
  if range.start.line = range.stop.line then
    lines[range.start.line.toNat]?.map fun line =>
      bytesBetween line range.start.character range.stop.character
  else none

/-- Whether every line of a text has less than 2^31 UTF-16 units. -/
def ShortLines (lines : List (List Char)) : Prop :=
  ∀ line ∈ lines, Text.unitsOf line < 2 ^ 31

instance (lines : List (List Char)) : Decidable (ShortLines lines) :=
  inferInstanceAs (Decidable (∀ line ∈ lines, Text.unitsOf line < 2 ^ 31))

theorem byteOffset_unitsOf {before rest : List Char} (h : Text.unitsOf before < 2 ^ 32) :
    byteOffset (before ++ rest) (.ofNat (Text.unitsOf before)) =
      (String.ofList before).utf8ByteSize := by
  rw [byteOffset, UInt32.toNat_ofNat_of_lt' h, offsetOf_unitsOf, List.take_left]

theorem bytesBetween_unitsOf {before middle rest : List Char}
    (h : Text.unitsOf (before ++ middle) < 2 ^ 32) :
    bytesBetween (before ++ middle ++ rest) (.ofNat (Text.unitsOf before))
      (.ofNat (Text.unitsOf (before ++ middle))) = (String.ofList middle).toUTF8 := by
  have hbefore : Text.unitsOf before < 2 ^ 32 := by
    rw [Text.unitsOf_append] at h
    omega
  have hstart : byteOffset (before ++ middle ++ rest) (.ofNat (Text.unitsOf before)) =
      (String.ofList before).toByteArray.size + 0 := by
    rw [List.append_assoc, byteOffset_unitsOf hbefore, String.size_toByteArray, Nat.add_zero]
  have hstop : byteOffset (before ++ middle ++ rest) (.ofNat (Text.unitsOf (before ++ middle))) =
      (String.ofList before).toByteArray.size + (String.ofList middle).toByteArray.size := by
    rw [byteOffset_unitsOf h, String.ofList_append, String.utf8ByteSize_append,
      String.size_toByteArray, String.size_toByteArray]
  have hbytes : (String.ofList (before ++ middle ++ rest)).toUTF8 =
      (String.ofList before).toByteArray ++
        ((String.ofList middle).toByteArray ++ (String.ofList rest).toByteArray) := by
    rw [String.toUTF8, List.append_assoc, String.ofList_append, String.toByteArray_append,
      String.ofList_append, String.toByteArray_append]
  -- What comes before is cut off, and then what comes behind.
  rw [bytesBetween, hstart, hstop, hbytes, ByteArray.extract_append_size_add,
    ByteArray.extract_append_eq_left rfl]
  rfl

/-- Some characters of a line stand behind those before them. -/
theorem exists_append_slice (line : List Char) (start stop : Nat) :
    ∃ rest, line = line.take start ++ (line.take stop).drop start ++ rest := by
  rcases Nat.le_total start stop with hle | hle
  · refine ⟨line.drop stop, ?_⟩
    have hstart : line.take start = (line.take stop).take start := by
      rw [List.take_take, Nat.min_eq_left hle]
    rw [hstart, List.take_append_drop, List.take_append_drop]
  · -- There are no characters between the two places.
    refine ⟨line.drop start, ?_⟩
    have hnone : (line.take stop).drop start = [] := by
      apply List.drop_eq_nil_of_le
      rw [List.length_take]
      omega
    rw [hnone, List.append_nil, List.take_append_drop]

namespace Scanner

/-- The range of some characters of a line covers these characters. -/
theorem readBack?_rangeIn {lines : List (List Char)} {line : List Char} {number : Nat}
    (hline : lines[number]? = some line) (hnumber : number < UInt32.size)
    (hshort : Text.unitsOf line < 2 ^ 31) (start stop : Nat) :
    (rangeIn number line start stop).readBack? lines =
      some (String.ofList ((line.take stop).drop start)).toUTF8 := by
  obtain ⟨rest, hsplit⟩ := exists_append_slice line start stop
  generalize hbefore : line.take start = before at hsplit
  generalize hmiddle : (line.take stop).drop start = middle at hsplit
  have hunits : Text.unitsOf (before ++ middle) < 2 ^ 31 := by
    rw [hsplit, Text.unitsOf_append] at hshort
    omega
  have hstop : UInt32.ofNat (Text.unitsOf before) + UInt32.ofNat (Text.unitsOf middle) =
      .ofNat (Text.unitsOf (before ++ middle)) := by
    rw [Text.unitsOf_append, UInt32.ofNat_add]
  have hfound : lines[(UInt32.ofNat number).toNat]? = some line := by
    rw [UInt32.toNat_ofNat_of_lt' hnumber, hline]
  rw [rangeIn, Range.onLine, Range.readBack?, if_pos rfl, hbefore, hmiddle, hstop, hfound,
    Option.map_some, hsplit, bytesBetween_unitsOf (by omega)]

/-! ### Numbered lines -/

variable {text : String} {line : List Char} {number : Nat}

theorem of_mem_numbered (h : (line, number) ∈ (Text.linesOf text.toList).zipIdx) :
    (Text.linesOf text.toList)[number]? = some line ∧ number < UInt32.size := by
  have hline : (Text.linesOf text.toList)[number]? = some line := List.mem_zipIdx_iff_getElem?.mp h
  obtain ⟨hnumber, -⟩ := List.getElem?_eq_some_iff.mp hline
  exact ⟨hline, Nat.lt_of_lt_of_le hnumber (List.length_take_le _ _)⟩

theorem readBack?_numbered (h : (line, number) ∈ (Text.linesOf text.toList).zipIdx)
    (hshort : ShortLines (Text.linesOf text.toList)) (start stop : Nat) :
    (rangeIn number line start stop).readBack? (Text.linesOf text.toList) =
      some (String.ofList ((line.take stop).drop start)).toUTF8 := by
  obtain ⟨hline, hnumber⟩ := of_mem_numbered h
  exact readBack?_rangeIn hline hnumber (hshort line (List.mem_of_getElem? hline)) start stop

/-! ### Symbols -/

variable {scanner : Scanner} {tree : Tree} {path : Path}

theorem exists_of_declaration? {rules : List DeclarationRule} {uri : String} {symbol : SymbolRecord}
    (h : declaration? rules uri number line = some symbol) :
    ∃ start stop, symbol.name = String.ofList ((line.take stop).drop start) ∧
      symbol.location = ⟨uri, rangeIn number line start stop⟩ := by
  obtain ⟨rule, -, hrule⟩ := List.exists_of_findSome?_eq_some h
  obtain ⟨⟨start, stop⟩, -, hsymbol⟩ := Option.bind_eq_some_iff.mp hrule
  cases hsymbol
  exact ⟨start, stop, rfl, rfl⟩

/-- Each line declares one symbol at most, and lines come in the order of their numbers. -/
theorem symbolsIn_ascending (scanner : Scanner) (path : Path) (text : String) :
    (scanner.symbolsIn path text).Pairwise fun first second =>
      first.location.range.start.line < second.location.range.start.line := by
  unfold symbolsIn
  cases fileUri? path with
  | none => exact .nil
  | some uri =>
    have hnumbers : (Text.linesOf text.toList).zipIdx.Pairwise fun a b => a.2 < b.2 := by
      rw [← List.pairwise_map, List.zipIdx_map_snd]
      exact List.pairwise_lt_range'
    apply List.pairwise_filterMap.mpr
    refine hnumbers.imp_of_mem ?_
    rintro ⟨line, number⟩ ⟨other, next⟩ hline hother hlt first hfirst second hsecond
    obtain ⟨_, _, -, hlocation⟩ := exists_of_declaration? hfirst
    obtain ⟨_, _, -, hnext⟩ := exists_of_declaration? hsecond
    rw [hlocation, hnext, UInt32.lt_iff_toNat_lt]
    show (UInt32.ofNat number).toNat < (UInt32.ofNat next).toNat
    rw [UInt32.toNat_ofNat_of_lt' (of_mem_numbered hline).2,
      UInt32.toNat_ofNat_of_lt' (of_mem_numbered hother).2]
    exact hlt

theorem document_ascending (scanner : Scanner) (tree : Tree) (path : Path) :
    (scanner.document tree path).Pairwise fun first second =>
      first.location.range.start.line < second.location.range.start.line := by
  unfold document
  cases tree.readText path with
  | error failure => exact .nil
  | ok text => exact symbolsIn_ascending scanner path text

theorem readBack?_of_mem_symbolsIn {symbol : SymbolRecord}
    (hshort : ShortLines (Text.linesOf text.toList)) (h : symbol ∈ scanner.symbolsIn path text) :
    fileUri? path = some symbol.location.uri ∧
      symbol.location.range.readBack? (Text.linesOf text.toList) = some symbol.name.toUTF8 := by
  unfold symbolsIn at h
  cases huri : fileUri? path with
  | none =>
    rw [huri] at h
    exact absurd h List.not_mem_nil
  | some uri =>
    rw [huri] at h
    obtain ⟨⟨line, number⟩, hline, hdeclared⟩ := List.mem_filterMap.mp h
    obtain ⟨start, stop, hname, hlocation⟩ := exists_of_declaration? hdeclared
    rw [hlocation, hname]
    exact ⟨rfl, readBack?_numbered hline hshort start stop⟩

/-! ### References -/

variable {identifier : List Char} {position : Position} {declarations : Bool}

theorem slice_of_standsAt {start : Nat} (h : standsAt identifier line start = true) :
    (line.take (start + identifier.length)).drop start = identifier := by
  obtain ⟨rest, hrest⟩ := List.isPrefixOf_iff_prefix.mp h
  rw [List.drop_take, ← hrest, Nat.add_sub_cancel_left, List.take_left]

theorem readBack?_of_mem_occurrences {range : Range}
    (hshort : ShortLines (Text.linesOf text.toList)) (h : range ∈ occurrences identifier text) :
    range.readBack? (Text.linesOf text.toList) = some (String.ofList identifier).toUTF8 := by
  obtain ⟨⟨line, number⟩, hline, hfound⟩ := List.mem_flatMap.mp h
  obtain ⟨⟨start, stop⟩, hpiece, rfl⟩ := List.mem_map.mp hfound
  rw [findAll_wordPattern] at hpiece
  obtain ⟨_, hstart, heq⟩ := List.mem_map.mp hpiece
  cases heq
  -- The pattern finds a place only if the identifier stands there.
  have hword := (List.mem_filter.mp (mem_of_mem_apart hstart)).2
  have hslice := slice_of_standsAt (standsAt_of_isWordAt hword)
  rw [readBack?_numbered hline hshort, hslice]

/-- A reference is an occurrence of the identifier at the position, in a text that was searched. -/
theorem exists_of_mem_references {location : Location}
    (h : location ∈ scanner.references tree path position declarations) :
    ∃ identifier, identifierUnder? tree path position = some identifier ∧
      ∃ text, (location.uri, Text.linesOf text.toList) ∈ scanner.candidates tree ∧
        location.range ∈ occurrences identifier text := by
  have hread : identifierUnder? tree path position =
      (tree.readText path).toOption.bind (identifierIn? · position) := rfl
  unfold references at h
  rw [← hread] at h
  cases hunder : identifierUnder? tree path position with
  | none =>
    rw [hunder] at h
    exact absurd h List.not_mem_nil
  | some identifier =>
    rw [hunder] at h
    obtain ⟨file, hfile, hlocation⟩ := List.mem_flatMap.mp h
    cases htext : Text.decodeStrict file.content with
    | none =>
      rw [htext] at hlocation
      exact absurd hlocation List.not_mem_nil
    | some text =>
      cases huri : fileUri? file.path with
      | none =>
        rw [htext, huri] at hlocation
        exact absurd hlocation List.not_mem_nil
      | some uri =>
        rw [htext, huri] at hlocation
        obtain ⟨range, hrange, rfl⟩ := List.mem_map.mp hlocation
        refine ⟨identifier, rfl, text, ?_, (List.mem_filter.mp hrange).1⟩
        exact List.mem_filterMap.mpr ⟨file, hfile, by rw [htext, huri]⟩

/-! ### The scan -/

/-- The symbols of a document stand in lines of their own, from top to bottom, and their ranges
    cover their names. The ranges of references cover the identifier that was asked for. -/
theorem ranges_readBack (scanner : Scanner) (tree : Tree) (path : Path) :
    ((scanner.document tree path).Pairwise fun first second =>
        first.location.range.start.line < second.location.range.start.line) ∧
      (∀ text, tree.readText path = .ok text → ShortLines (Text.linesOf text.toList) →
        ∀ symbol ∈ scanner.document tree path,
          fileUri? path = some symbol.location.uri ∧
            symbol.location.range.readBack? (Text.linesOf text.toList) =
              some symbol.name.toUTF8) ∧
      ((∀ candidate ∈ scanner.candidates tree, ShortLines candidate.2) →
        ∀ position declarations, ∀ location ∈ scanner.references tree path position declarations,
          ∃ identifier, identifierUnder? tree path position = some identifier ∧
            ∃ lines, (location.uri, lines) ∈ scanner.candidates tree ∧
              location.range.readBack? lines = some (String.ofList identifier).toUTF8) := by
  refine ⟨?ascending, ?symbols, ?references⟩
  case ascending => exact document_ascending scanner tree path
  case symbols =>
    intro text hread hshort symbol hsymbol
    rw [document, hread] at hsymbol
    exact readBack?_of_mem_symbolsIn hshort hsymbol
  case references =>
    intro hshort position declarations location hlocation
    obtain ⟨identifier, hunder, text, hcandidate, hrange⟩ := exists_of_mem_references hlocation
    have hread := readBack?_of_mem_occurrences (hshort _ hcandidate) hrange
    exact ⟨identifier, hunder, _, hcandidate, hread⟩

/-- A wide blank of three bytes and one unit, a character of four bytes and two units, and an
    accented letter of two bytes and one unit, each of them before a name. -/
def wideText : String := "\u3000class Foo\r\n// 😀é Foo\n"

theorem ranges_readBack_wide :
    (singleDocument wideText).readText "/ws/a.ts" = .ok wideText ∧
      ((documentScanner.document (singleDocument wideText) "/ws/a.ts").map fun symbol =>
          (symbol.name, symbol.location.range)) = [("Foo", ⟨⟨0, 7⟩, ⟨0, 10⟩⟩)] ∧
      documentScanner.references (singleDocument wideText) "/ws/a.ts" ⟨0, 7⟩ true =
        [⟨"file:///ws/a.ts", ⟨⟨0, 7⟩, ⟨0, 10⟩⟩⟩, ⟨"file:///ws/a.ts", ⟨⟨1, 7⟩, ⟨1, 10⟩⟩⟩] ∧
      (∀ symbol ∈ documentScanner.document (singleDocument wideText) "/ws/a.ts",
        symbol.location.range.readBack? (Text.linesOf wideText.toList) =
          some symbol.name.toUTF8) ∧
      ∀ location ∈ documentScanner.references (singleDocument wideText) "/ws/a.ts" ⟨0, 7⟩ true,
        ∃ identifier, identifierUnder? (singleDocument wideText) "/ws/a.ts" ⟨0, 7⟩ =
            some identifier ∧
          ∃ lines, (location.uri, lines) ∈ documentScanner.candidates (singleDocument wideText) ∧
            location.range.readBack? lines = some (String.ofList identifier).toUTF8 := by
  have hread : (singleDocument wideText).readText "/ws/a.ts" = .ok wideText := by decide +kernel
  have hshort : ShortLines (Text.linesOf wideText.toList) := by decide +kernel
  have hcandidates : ∀ candidate ∈ documentScanner.candidates (singleDocument wideText),
      ShortLines candidate.2 := by decide +kernel
  obtain ⟨-, hsymbols, hreferences⟩ :=
    ranges_readBack documentScanner (singleDocument wideText) "/ws/a.ts"
  refine ⟨hread, by decide +kernel, by decide +kernel, fun symbol hsymbol => ?_, ?_⟩
  · exact (hsymbols wideText hread hshort symbol hsymbol).2
  · exact hreferences hcandidates ⟨0, 7⟩ true

end Scanner
end SymbolSearch
