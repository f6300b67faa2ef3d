import Mathlib.Data.List.Basic
import Mathlib.Data.List.TakeWhile
import SymbolSearch.Scan.Scanner

/-!
# Whole words

References of an identifier are to be the places where it stands as a whole: neither before it nor
behind it is a character that belongs to identifiers. The scan looks for it between edges of words
instead, and not all characters of identifiers belong to words, nor the other way round.

* `standsAt`, `isWholeAt` and `isWordAt` — whether a text stands at a place of a line, as a whole
  identifier, or between edges of words.
* `Scanner.wholeStarts` and `Scanner.wordStarts` — where it does; `Scanner.located` takes such
  places to locations in all files that the scan looks at.
* `findAll_wordPattern` — what the pattern of the scan finds in a line.
* `Tree.InPathOrder` — files in the order in which the scan looks at them.
* `Scanner.references_words` — what the scan finds, and on which lines it finds exactly the whole
  identifiers.
* `Scanner.not_forall_references_whole` — it does not find a name that begins with a dollar sign.
-/

namespace SymbolSearch

open Text (Pattern Cursor isWord)

/-! ### Places of a line -/

/-- The character before a place of a line. -/
def charBefore? (line : List Char) (place : Nat) : Option Char := (line.take place).getLast?

/-- The character behind a place of a line. -/
def charBehind? (line : List Char) (place : Nat) : Option Char := (line.drop place).head?

/-- Whether the identifier stands at a place of a line, in whatever surroundings. -/
def standsAt (identifier line : List Char) (start : Nat) : Bool :=
  identifier.isPrefixOf (line.drop start)

/-- Whether the identifier stands at a place of a line and is not part of a longer one. -/
def isWholeAt (identifier line : List Char) (start : Nat) : Bool :=
  standsAt identifier line start && !(charBefore? line start).any isIdentifierChar &&
    !(charBehind? line (start + identifier.length)).any isIdentifierChar

/-- Whether a place of a line is the edge of a word. -/
def isWordEdge (line : List Char) (place : Nat) : Bool :=
  (charBefore? line place).any isWord != (charBehind? line place).any isWord

/-- Whether the identifier stands at a place of a line between edges of words. -/
def isWordAt (identifier line : List Char) (start : Nat) : Bool :=
  isWordEdge line start && standsAt identifier line start &&
    isWordEdge line (start + identifier.length)

variable {identifier line : List Char} {start other : Nat}

theorem getElem?_of_standsAt (h : standsAt identifier line start = true) {i : Nat}
    (hi : i < identifier.length) : (line)[start + i]? = identifier[i]? := by
  obtain ⟨rest, hrest⟩ := List.isPrefixOf_iff_prefix.mp h
  have hdrop : (line.drop start)[i]? = identifier[i]? := by
    rw [← hrest, List.getElem?_append_left hi]
  rwa [List.getElem?_drop] at hdrop

theorem lt_length_of_standsAt (hne : identifier ≠ []) (h : standsAt identifier line start = true) :
    start < line.length := by
  have hfirst := getElem?_of_standsAt h (List.length_pos_iff.mpr hne)
  rw [List.getElem?_eq_getElem (List.length_pos_iff.mpr hne)] at hfirst
  exact (List.getElem?_eq_some_iff.mp hfirst).1

theorem standsAt_of_isWholeAt (h : isWholeAt identifier line start = true) :
    standsAt identifier line start = true := by
  simp only [isWholeAt, Bool.and_eq_true] at h
  exact h.1.1

theorem standsAt_of_isWordAt (h : isWordAt identifier line start = true) :
    standsAt identifier line start = true := by
  simp only [isWordAt, Bool.and_eq_true] at h
  exact h.1.2

/-- Nothing begins inside a whole identifier and goes on behind it. -/
theorem le_of_isWholeAt (hchars : ∀ c ∈ identifier, isIdentifierChar c = true)
    (hwhole : isWholeAt identifier line start = true)
    (hstands : standsAt identifier line other = true) (hlt : start < other) :
    start + identifier.length ≤ other := by
  by_contra hinside
  -- The character behind the whole one belongs to the other one.
  have hi : start + identifier.length - other < identifier.length := by omega
  have hbehind := getElem?_of_standsAt hstands hi
  rw [List.getElem?_eq_getElem hi,
    show other + (start + identifier.length - other) = start + identifier.length by omega]
    at hbehind
  have hchar := hchars _ (List.getElem_mem hi)
  simp only [isWholeAt, charBehind?, List.head?_drop, hbehind, Option.any_some, hchar,
    Bool.not_true, Bool.and_false, Bool.false_eq_true] at hwhole

namespace Scanner

/-- Leaves out the places that lie inside one that was taken before; `free` is the first place that
    does not. -/
def apart (length free : Nat) : List Nat → List Nat
  | [] => []
  | start :: rest =>
    if start < free then apart length free rest else start :: apart length (start + length) rest

/-- Where the identifier stands in a line as a whole. -/
def wholeStarts (identifier line : List Char) : List Nat :=
  (List.range line.length).filter (isWholeAt identifier line)

/-- Where the identifier stands in a line between edges of words, and not inside a place that was
    found before. -/
def wordStarts (identifier line : List Char) : List Nat :=
  apart identifier.length 0 ((List.range line.length).filter (isWordAt identifier line))

/-! ### Places that lie apart -/

theorem mem_of_mem_apart {length free x : Nat} {starts : List Nat}
    (h : x ∈ apart length free starts) : x ∈ starts := by
  induction starts generalizing free with
  | nil => exact h
  | cons first rest ih =>
    simp only [apart] at h
    split at h
    · exact List.mem_cons_of_mem _ (ih h)
    · rcases List.mem_cons.mp h with rfl | hrest
      · exact List.mem_cons_self
      · exact List.mem_cons_of_mem _ (ih hrest)

theorem apart_eq_self {length free : Nat} {starts : List Nat}
    (hfree : ∀ x ∈ starts, free ≤ x) (hapart : starts.Pairwise fun a b => a + length ≤ b) :
    apart length free starts = starts := by
  induction starts generalizing free with
  | nil => rfl
  | cons first rest ih =>
    obtain ⟨hfirst, hrest⟩ := List.pairwise_cons.mp hapart
    rw [apart, if_neg (Nat.not_lt.mpr (hfree first List.mem_cons_self)), ih hfirst hrest]

/-- What is left out lies inside one that is not. -/
theorem mem_apart_or (length : Nat) {free x : Nat} {starts : List Nat} (hx : x ∈ starts)
    (hascending : starts.Pairwise (· < ·)) (hfree : free ≤ x) :
    x ∈ apart length free starts ∨
      ∃ found ∈ apart length free starts, found < x ∧ x < found + length := by
  induction starts generalizing free with
  | nil => exact absurd hx List.not_mem_nil
  | cons first rest ih =>
    obtain ⟨hfirst, hrest⟩ := List.pairwise_cons.mp hascending
    rw [apart]
    rcases List.mem_cons.mp hx with rfl | hmem
    · rw [if_neg (Nat.not_lt.mpr hfree)]
      exact .inl List.mem_cons_self
    · split
      · exact ih hmem hrest hfree
      · by_cases hinside : x < first + length
        · exact .inr ⟨first, List.mem_cons_self, hfirst x hmem, hinside⟩
        · refine (ih hmem hrest (Nat.le_of_not_lt hinside)).imp (List.mem_cons_of_mem _) ?_
          rintro ⟨found, hfound, hin⟩
          exact ⟨found, List.mem_cons_of_mem _ hfound, hin⟩

/-! ### Whole words on a line -/

theorem mem_wholeStarts (hne : identifier ≠ []) :
    start ∈ wholeStarts identifier line ↔ isWholeAt identifier line start = true := by
  rw [wholeStarts, List.mem_filter, List.mem_range]
  exact ⟨And.right, fun h => ⟨lt_length_of_standsAt hne (standsAt_of_isWholeAt h), h⟩⟩

/-- The whole identifiers of a line are found, and nothing else is, exactly if wherever the
    identifier stands its ends are edges of words just if it is whole. -/
theorem wordStarts_eq_iff (hne : identifier ≠ [])
    (hchars : ∀ c ∈ identifier, isIdentifierChar c = true) :
    wordStarts identifier line = wholeStarts identifier line ↔
      ∀ start, standsAt identifier line start = true →
        isWordAt identifier line start = isWholeAt identifier line start := by
  constructor
  · intro hsame start hstands
    rw [Bool.eq_iff_iff]
    constructor
    · intro hword
      have hmem : start ∈ (List.range line.length).filter (isWordAt identifier line) :=
        List.mem_filter.mpr ⟨List.mem_range.mpr (lt_length_of_standsAt hne hstands), hword⟩
      have hfound := mem_apart_or identifier.length hmem
        (List.pairwise_lt_range.filter _) (Nat.zero_le _)
      rw [← wordStarts, hsame] at hfound
      rcases hfound with hfound | ⟨found, hfound, hlt, hin⟩
      · exact (mem_wholeStarts hne).mp hfound
      · -- What it lies inside is whole, so it cannot go on behind that.
        have hwhole := (mem_wholeStarts hne).mp hfound
        exact absurd hin (Nat.not_lt.mpr (le_of_isWholeAt hchars hwhole hstands hlt))
    · intro hwhole
      have hmem : start ∈ wordStarts identifier line := hsame ▸ (mem_wholeStarts hne).mpr hwhole
      exact (List.mem_filter.mp (mem_of_mem_apart hmem)).2
  · intro hagree
    have hfilter : isWordAt identifier line = isWholeAt identifier line := by
      funext start
      cases hstands : standsAt identifier line start with
      | true => exact hagree start hstands
      | false => simp [isWordAt, isWholeAt, hstands]
    rw [wordStarts, hfilter, ← wholeStarts]
    refine apart_eq_self (fun _ _ => Nat.zero_le _) ?_
    refine (List.pairwise_lt_range.filter _).imp_of_mem fun ha hb hlt => ?_
    have hb := (List.mem_filter.mp hb).2
    exact le_of_isWholeAt hchars (List.mem_filter.mp ha).2 (standsAt_of_isWholeAt hb) hlt

/-! ### The pattern of the scan -/

variable {α : Type} {before rest : List Char}

theorem run_exactly (symbols : List Char) (cursor : Cursor Char) (next : Cursor Char → Option α) :
    (Pattern.exactly symbols).run cursor next =
      if symbols.isPrefixOf cursor.rest then
        next { cursor with
          before := symbols.getLast?.or cursor.before
          rest := cursor.rest.drop symbols.length
          position := cursor.position + symbols.length }
      else none := by
  induction symbols generalizing cursor with
  | nil => simp [Pattern.exactly, Pattern.sequence, Pattern.run]
  | cons symbol others ih =>
    have hrun : (Pattern.exactly (symbol :: others)).run cursor next =
        (Pattern.seq (.one (· = symbol)) (.exactly others)).run cursor next := rfl
    obtain ⟨last, found, position, piece⟩ := cursor
    rw [hrun, Pattern.run]
    cases found with
    | nil => simp [Pattern.run]
    | cons c found =>
      by_cases hc : c = symbol
      · subst hc
        have hlast : (c :: others).getLast?.or last = others.getLast?.or (some c) := by
          cases others <;> simp [List.getLast?_cons]
        simp [Pattern.run, ih, hlast, Nat.add_comm, Nat.add_left_comm]
      · have hne : ¬symbol = c := fun h => hc h.symm
        simp [Pattern.run, hc, hne]

/-- The place that a cursor stands at, if it comes from the start of a line. -/
theorem pieceAt?_wordPattern (identifier before rest : List Char) :
    (wordPattern identifier).pieceAt? ⟨before.getLast?, rest, before.length, none⟩ =
      if isWordAt identifier (before ++ rest) before.length then
        some (before.length, before.length + identifier.length)
      else none := by
  have hbefore : charBefore? (before ++ rest) before.length = before.getLast? := by
    rw [charBefore?, List.take_left]
  have hbehind : charBehind? (before ++ rest) before.length = rest.head? := by
    rw [charBehind?, List.drop_left]
  have hstands : standsAt identifier (before ++ rest) before.length =
      identifier.isPrefixOf rest := by
    rw [standsAt, List.drop_left]
  simp only [Pattern.pieceAt?, wordPattern, Pattern.sequence, List.foldr_cons, List.foldr_nil,
    Pattern.wordEdge, Pattern.run, run_exactly]
  by_cases hprefix : identifier.isPrefixOf rest = true
  · obtain ⟨behind, rfl⟩ := List.isPrefixOf_iff_prefix.mp hprefix
    have hend : charBefore? (before ++ (identifier ++ behind))
        (before.length + identifier.length) = identifier.getLast?.or before.getLast? := by
      rw [charBefore?, ← List.append_assoc, ← List.length_append, List.take_left,
        List.getLast?_append]
    have hafter : charBehind? (before ++ (identifier ++ behind))
        (before.length + identifier.length) = behind.head? := by
      rw [charBehind?, ← List.append_assoc, ← List.length_append, List.drop_left]
    simp only [isWordAt, isWordEdge, hbefore, hbehind, hstands, hend, hafter, hprefix, if_true,
      List.drop_left, Bool.and_true]
    generalize (before.getLast?.any isWord != (identifier ++ behind).head?.any isWord) = start
    generalize ((identifier.getLast?.or before.getLast?).any isWord !=
      behind.head?.any isWord) = stop
    cases start <;> cases stop <;> rfl
  · simp [isWordAt, hstands, hprefix]

theorem findAllFrom_wordPattern (identifier before rest : List Char) (free : Nat) :
    (wordPattern identifier).findAllFrom before.getLast? before.length free rest =
      (apart identifier.length free
        ((List.range' before.length rest.length).filter (isWordAt identifier (before ++ rest)))).map
        fun start => (start, start + identifier.length) := by
  induction rest generalizing before free with
  | nil => rfl
  | cons c rest ih =>
    have hnext (free : Nat) := ih (before ++ [c]) free
    simp only [List.getLast?_concat, List.length_append, List.length_singleton, List.append_assoc,
      List.singleton_append] at hnext
    rw [Pattern.findAllFrom, pieceAt?_wordPattern, List.length_cons, List.range'_succ,
      List.filter_cons]
    cases hword : isWordAt identifier (before ++ c :: rest) before.length with
    | false =>
      simp only [Bool.false_eq_true, if_false, ite_self]
      exact hnext free
    | true =>
      by_cases hlt : before.length < free
      · simp only [hlt, if_true, apart]
        exact hnext free
      · simp only [hlt, if_true, if_false, apart, List.map_cons]
        rw [hnext]

/-- The scan finds in a line what stands between edges of words, from left to right. -/
theorem findAll_wordPattern (identifier line : List Char) :
    (wordPattern identifier).findAll line =
      (wordStarts identifier line).map fun start => (start, start + identifier.length) := by
  have hline := findAllFrom_wordPattern identifier [] line 0
  rwa [List.nil_append, List.length_nil, ← List.range_eq_range'] at hline

/-! ### Files -/

end Scanner

theorem Path.partsBefore_iff {a b : List String} : partsBefore a b = true ↔ List.lt a b := by
  induction a generalizing b with
  | nil => cases b <;> simp [partsBefore, List.lt]
  | cons first rest ih =>
    cases b with
    | nil => simp [partsBefore, List.lt]
    | cons other others => simp [partsBefore, ih, List.lt, List.cons_lex_cons_iff]

/-- The path that names lead to from another one. -/
def Path.below (root : Path) (names : List String) : Path :=
  if names = [] then root else root.join ("/".intercalate names)

namespace Tree

/-- Whether files are in the order of their paths below another one. -/
def InPathOrder (root : Path) (files : List Found) : Prop :=
  ∃ named : List (List String × Found), named.map Prod.snd = files ∧
    (named.Pairwise fun a b => List.le a.1 b.1) ∧
      ∀ file ∈ named, file.2.path = root.below file.1

theorem InPathOrder.sublist {root : Path} {files files' : List Found} (h : InPathOrder root files)
    (hsub : files'.Sublist files) : InPathOrder root files' := by
  obtain ⟨named, rfl, horder, hpaths⟩ := h
  obtain ⟨named', hsub', rfl⟩ := List.sublist_map_iff.mp hsub
  exact ⟨named', rfl, horder.sublist hsub', fun file hmem => hpaths file (hsub'.subset hmem)⟩

theorem pairwise_entriesBelow (tree : Tree) (root : List String) :
    (tree.entriesBelow root).Pairwise fun a b => List.le a.1 b.1 := by
  have hle (a b : List String × Entry) :
      (!Path.partsBefore b.1 a.1) = true ↔ List.le a.1 b.1 := by
    rw [Bool.not_eq_true', ← Bool.not_eq_true, Path.partsBefore_iff]
    rfl
  refine (List.pairwise_mergeSort ?_ ?_ _).imp fun {a b} h => (hle a b).mp h
  · intro a b c hab hbc
    rw [hle] at hab hbc ⊢
    exact List.le_trans hab hbc
  · intro a b
    rw [Bool.or_eq_true, hle, hle]
    exact List.le_total _ _

theorem ne_nil_of_mem_entriesBelow {tree : Tree} {root : List String} {entry : List String × Entry}
    (h : entry ∈ tree.entriesBelow root) : entry.1 ≠ [] := by
  obtain ⟨⟨names, found⟩, -, hentry⟩ := List.mem_filterMap.mp (List.mem_mergeSort.mp h)
  dsimp only at hentry
  split at hentry
  next hbelow =>
    cases hentry
    simp only [Bool.and_eq_true, decide_eq_true_eq] at hbelow
    intro hnil
    have hlength := List.drop_eq_nil_iff.mp hnil
    omega
  · cases hentry

/-- The file that an entry below a directory is, with the names that lead to it. -/
def foundAt? (path : Path) (entry : List String × Entry) : Option (List String × Found) :=
  match entry.2 with
  | .file content _ => some (entry.1, ⟨path.join ("/".intercalate entry.1), content⟩)
  | _ => none

theorem of_foundAt? {path : Path} {entry : List String × Entry} {file : List String × Found}
    (h : foundAt? path entry = some file) :
    file.1 = entry.1 ∧ file.2.path = path.join ("/".intercalate entry.1) := by
  obtain ⟨names, entry⟩ := entry
  cases entry <;> cases h
  exact ⟨rfl, rfl⟩

theorem filesBelow_inPathOrder (tree : Tree) (path : Path) :
    InPathOrder path (tree.filesBelow path) := by
  unfold filesBelow
  cases tree.resolve path with
  | error error => exact ⟨[], rfl, .nil, List.forall_mem_nil _⟩
  | ok root =>
    dsimp only
    split
    next content executable _ =>
      refine ⟨[([], ⟨path, content⟩)], rfl, List.pairwise_singleton _ _, ?_⟩
      simp [Path.below]
    · -- What is left out leaves the others in order.
      generalize IgnoreRules.ofTree tree root = rules
      generalize hkept : List.filter _ _ = kept
      have hsub : kept.Sublist (tree.entriesBelow root) := hkept ▸ List.filter_sublist
      refine ⟨kept.filterMap (foundAt? path), ?_, ?_, fun file hmem => ?_⟩
      · rw [List.map_filterMap]
        refine List.filterMap_congr fun entry _ => ?_
        obtain ⟨names, entry⟩ := entry
        cases entry <;> rfl
      · refine ((tree.pairwise_entriesBelow root).sublist hsub).filterMap (foundAt? path) ?_
        intro a b hle a' ha b' hb
        rwa [(of_foundAt? ha).1, (of_foundAt? hb).1]
      · obtain ⟨entry, hentry, hfile⟩ := List.mem_filterMap.mp hmem
        have hne := ne_nil_of_mem_entriesBelow (hsub.subset hentry)
        rw [(of_foundAt? hfile).2, (of_foundAt? hfile).1, Path.below, if_neg hne]
    · exact ⟨[], rfl, .nil, List.forall_mem_nil _⟩

end Tree

namespace Scanner

theorem files_inPathOrder (scanner : Scanner) (tree : Tree) :
    Tree.InPathOrder scanner.root (scanner.files tree) :=
  (tree.filesBelow_inPathOrder scanner.root).sublist
    ((List.take_sublist _ _).trans List.filter_sublist)

/-- The texts that the scan looks at, in lines and with their URIs, in path order. -/
def candidates (scanner : Scanner) (tree : Tree) : List (String × List (List Char)) :=
  (scanner.files tree).filterMap fun file =>
    match Text.decodeStrict file.content, fileUri? file.path with
    | some text, some uri => some (uri, Text.linesOf text.toList)
    | _, _ => none

/-- The locations of an identifier, file by file and line by line, where `starts` says at which
    places of a line it is. -/
def located (scanner : Scanner) (tree : Tree) (identifier : List Char)
    (starts : List Char → List Nat) : List Location :=
  (scanner.candidates tree).flatMap fun (uri, lines) =>
    lines.zipIdx.flatMap fun (line, number) =>
      (starts line).map fun start =>
        ⟨uri, rangeIn number line start (start + identifier.length)⟩

/-- The identifier at a position of a document that can be read. -/
def identifierUnder? (tree : Tree) (path : Path) (position : Position) : Option (List Char) :=
  (tree.readText path).toOption.bind (identifierIn? · position)

variable {scanner : Scanner} {tree : Tree} {path : Path} {position : Position}

theorem occurrences_eq (identifier : List Char) (uri text : String) :
    (occurrences identifier text).map (Location.mk uri) =
      (Text.linesOf text.toList).zipIdx.flatMap fun (line, number) =>
        (wordStarts identifier line).map fun start =>
          ⟨uri, rangeIn number line start (start + identifier.length)⟩ := by
  simp only [occurrences, findAll_wordPattern, List.map_flatMap, List.map_map]
  rfl

/-- The scan finds what stands between edges of words. -/
theorem references_eq_located (h : identifierUnder? tree path position = some identifier) :
    scanner.references tree path position true =
      scanner.located tree identifier (wordStarts identifier) := by
  have hunder : (tree.readText path).toOption.bind (identifierIn? · position) = some identifier := h
  simp only [references, hunder, located, candidates]
  induction scanner.files tree with
  | nil => rfl
  | cons file files ih =>
    rw [List.flatMap_cons, ih, List.filterMap_cons]
    cases Text.decodeStrict file.content with
    | none => rfl
    | some text =>
      cases fileUri? file.path with
      | none => rfl
      | some uri =>
        rw [List.flatMap_cons, ← occurrences_eq]
        simp only [if_true, List.contains_nil, Bool.not_false, List.filter_true]

theorem identifierAt?_chars {column : Nat} (h : identifierAt? line column = some identifier) :
    identifier ≠ [] ∧ ∀ c ∈ identifier, isIdentifierChar c = true := by
  simp only [identifierAt?] at h
  generalize hbefore :
    ((line.take (offsetOf line column)).reverse.takeWhile isIdentifierChar).reverse = before at h
  generalize hbehind : (line.drop (offsetOf line column)).takeWhile isIdentifierChar = behind at h
  have hchars (c : Char) (hc : c ∈ before ++ behind) : isIdentifierChar c = true := by
    rcases List.mem_append.mp hc with hc | hc
    · rw [← hbefore, List.mem_reverse] at hc
      exact List.mem_takeWhile_imp hc
    · rw [← hbehind] at hc
      exact List.mem_takeWhile_imp hc
  split at h
  · cases h
  next first rest hfound =>
    split at h
    · cases h
    · obtain rfl := Option.some.inj h
      exact ⟨by rw [hfound]; simp, hchars⟩

theorem identifierUnder?_chars (h : identifierUnder? tree path position = some identifier) :
    identifier ≠ [] ∧ ∀ c ∈ identifier, isIdentifierChar c = true := by
  obtain ⟨text, -, hidentifier⟩ := Option.bind_eq_some_iff.mp h
  obtain ⟨line, -, hat⟩ := Option.bind_eq_some_iff.mp hidentifier
  exact identifierAt?_chars hat

/-- On a line whose characters belong to words just if they belong to identifiers, the edges of
    words tell whole identifiers. -/
theorem isWordAt_eq_isWholeAt (hne : identifier ≠ [])
    (hchars : ∀ c ∈ identifier, isIdentifierChar c = true)
    (hclasses : ∀ c ∈ line, isWord c = isIdentifierChar c)
    (hstands : standsAt identifier line start = true) :
    isWordAt identifier line start = isWholeAt identifier line start := by
  obtain ⟨rest, hrest⟩ := List.isPrefixOf_iff_prefix.mp hstands
  have hmem : ∀ c ∈ identifier, c ∈ line := fun c hc =>
    List.mem_of_mem_drop (hrest ▸ List.mem_append_left rest hc)
  have hword {c? : Option Char} (hc : ∀ c, c? = some c → c ∈ line) :
      c?.any isWord = c?.any isIdentifierChar := by
    cases c? with
    | none => rfl
    | some c => exact hclasses c (hc c rfl)
  -- At both ends the identifier itself shows a character of words.
  have hfirst : (charBehind? line start).any isWord = true := by
    obtain ⟨c, others, rfl⟩ := List.exists_cons_of_ne_nil hne
    rw [charBehind?, ← hrest, List.cons_append, List.head?_cons, Option.any_some,
      hclasses c (hmem c List.mem_cons_self), hchars c List.mem_cons_self]
  have hlast : (charBefore? line (start + identifier.length)).any isWord = true := by
    have htake : line.take (start + identifier.length) = line.take start ++ identifier := by
      rw [List.take_add, ← hrest, List.take_left]
    have hend := List.getLast_mem hne
    rw [charBefore?, htake, List.getLast?_append, List.getLast?_eq_some_getLast hne,
      Option.some_or, Option.any_some, hclasses _ (hmem _ hend), hchars _ hend]
  have hbefore : (charBefore? line start).any isWord =
      (charBefore? line start).any isIdentifierChar :=
    hword fun c hc => List.mem_of_mem_take (List.mem_of_getLast? hc)
  have hbehind : (charBehind? line (start + identifier.length)).any isWord =
      (charBehind? line (start + identifier.length)).any isIdentifierChar :=
    hword fun c hc => List.mem_of_mem_drop (List.mem_of_head? hc)
  simp only [isWordAt, isWholeAt, isWordEdge, hstands, hfirst, hlast, hbefore, hbehind]
  simp

/-- Whether the ends of an identifier are edges of words just where it is whole. -/
def EdgesTell (identifier line : List Char) : Prop :=
  ∀ start, standsAt identifier line start = true →
    isWordAt identifier line start = isWholeAt identifier line start

/-- The scan finds an identifier between edges of words: in path order, from top to bottom, and
    from left to right. On a line it finds exactly what is whole just if the edges of words tell it,
    as they do where characters belong to words just if they belong to identifiers. -/
theorem references_words (h : identifierUnder? tree path position = some identifier) :
    Tree.InPathOrder scanner.root (scanner.files tree) ∧
      scanner.references tree path position true =
        scanner.located tree identifier (wordStarts identifier) ∧
      (∀ line, wordStarts identifier line = wholeStarts identifier line ↔
        EdgesTell identifier line) ∧
      (∀ line, (∀ c ∈ line, isWord c = isIdentifierChar c) → EdgesTell identifier line) ∧
      ((∀ candidate ∈ scanner.candidates tree, ∀ line ∈ candidate.2, EdgesTell identifier line) →
        scanner.references tree path position true =
          scanner.located tree identifier (wholeStarts identifier)) := by
  obtain ⟨hne, hchars⟩ := identifierUnder?_chars h
  have hlines (line : List Char) :
      wordStarts identifier line = wholeStarts identifier line ↔ EdgesTell identifier line :=
    wordStarts_eq_iff hne hchars
  refine ⟨scanner.files_inPathOrder tree, references_eq_located h, hlines,
    fun line hclasses start => isWordAt_eq_isWholeAt hne hchars hclasses, fun htell => ?_⟩
  rw [references_eq_located h, located, located]
  refine List.flatMap_congr fun candidate hcandidate => List.flatMap_congr ?_
  rintro ⟨line, number⟩ hnumbered
  have htells := htell candidate hcandidate line (List.fst_mem_of_mem_zipIdx hnumbered)
  dsimp only
  rw [(hlines line).mpr htells]

/-- A workspace with one document. -/
def singleDocument (content : String) : Tree :=
  ⟨[(["ws"], .directory), (["ws", "a.ts"], .file content.toUTF8 false)]⟩

/-- The scan of such a workspace. -/
def documentScanner : Scanner := ⟨"/ws", .ofId "typescript", ["ts"], {}⟩

theorem references_words_foo :
    identifierUnder? (singleDocument "const foo = 1\nfoo(food)\n") "/ws/a.ts" ⟨0, 7⟩ =
        some ['f', 'o', 'o'] ∧
      documentScanner.references (singleDocument "const foo = 1\nfoo(food)\n") "/ws/a.ts" ⟨0, 7⟩
          true =
        [⟨"file:///ws/a.ts", ⟨⟨0, 6⟩, ⟨0, 9⟩⟩⟩, ⟨"file:///ws/a.ts", ⟨⟨1, 0⟩, ⟨1, 3⟩⟩⟩] := by
  have hunder : identifierUnder? (singleDocument "const foo = 1\nfoo(food)\n") "/ws/a.ts" ⟨0, 7⟩ =
      some ['f', 'o', 'o'] := by decide +kernel
  have hwords : documentScanner.references (singleDocument "const foo = 1\nfoo(food)\n")
      "/ws/a.ts" ⟨0, 7⟩ true = documentScanner.located (singleDocument "const foo = 1\nfoo(food)\n")
        ['f', 'o', 'o'] (wordStarts ['f', 'o', 'o']) := (references_words hunder).2.1
  refine ⟨hunder, ?_⟩
  rw [hwords]
  decide +kernel

/-- A name that begins with a dollar sign is not found, not even where the cursor is. -/
theorem not_forall_references_whole : ¬ ∀ (scanner : Scanner) tree path position identifier,
    identifierUnder? tree path position = some identifier →
    scanner.references tree path position true =
      scanner.located tree identifier (wholeStarts identifier) := by
  intro h
  have hunder : identifierUnder? (singleDocument "const $foo = 1\n$foo;\n") "/ws/a.ts" ⟨0, 7⟩ =
      some ['$', 'f', 'o', 'o'] := by decide +kernel
  have hnone : documentScanner.references (singleDocument "const $foo = 1\n$foo;\n") "/ws/a.ts"
      ⟨0, 7⟩ true = [] := by decide +kernel
  have hwhole : documentScanner.located (singleDocument "const $foo = 1\n$foo;\n")
      ['$', 'f', 'o', 'o'] (wholeStarts ['$', 'f', 'o', 'o']) =
        [⟨"file:///ws/a.ts", ⟨⟨0, 6⟩, ⟨0, 10⟩⟩⟩, ⟨"file:///ws/a.ts", ⟨⟨1, 0⟩, ⟨1, 4⟩⟩⟩] := by
    decide +kernel
  have hclaimed := h documentScanner _ _ _ _ hunder
  rw [hnone, hwhole] at hclaimed
  cases hclaimed

end Scanner
end SymbolSearch
