import SymbolSearch.Proofs.Scan.Names

/-!
# Identifiers under columns

A position of a document names a line and a column. The scan turns the column, which counts UTF-16
units, into a place between two characters, and looks from there in both directions for the
identifier that the place touches.

* `offsetOf_le_iff` — up to which places a column leads; that columns keep their order follows.
* `seekColumn` — the same search as a loop over the bytes of a line, with a counter of 32 bits.
  `SeeksColumns` says what it finds: places between characters, a pair of units as a whole, and
  every place from its own column.
* `IdentifierRun` — a run of identifier characters that goes on neither before nor behind. Each
  place touches one, and `identifierAt?_eq` says that it is what a column leads to.
* `cutIdentifier?` — the search with the line as bytes, in which every cut of a text may fail.
  `FindsIdentifiers` says that none fails, and that all columns of an identifier lead to it.
* `columns_find_identifiers` — both hold of every line whose columns have no more than 31 bits.
-/

namespace SymbolSearch

open String (utf8Len)

/-! ### Places -/

theorem offsetOf_go_le_iff (column units : Nat) (line : List Char) (n : Nat) :
    offsetOf.go column units line ≤ n ↔
      column ≤ units + Text.unitsOf (line.take n) ∨ line.length ≤ n := by
  induction line generalizing units n with
  | nil => simp [offsetOf.go]
  | cons c rest ih =>
    rw [offsetOf.go]
    by_cases hreached : column ≤ units
    · rw [if_pos hreached]
      exact ⟨fun _ => .inl (Nat.le_add_right_of_le hreached), fun _ => Nat.zero_le n⟩
    · rw [if_neg hreached]
      cases n with
      | zero => simp [hreached]
      | succ n =>
        rw [Nat.add_comm 1, Nat.add_le_add_iff_right, ih, List.take_succ_cons, Text.unitsOf_cons,
          List.length_cons, Nat.add_le_add_iff_right, Nat.add_assoc]

/-- A column leads no further than to a place if the units before the place reach it, or if the line
    ends there. -/
theorem offsetOf_le_iff {line : List Char} {column n : Nat} :
    offsetOf line column ≤ n ↔ column ≤ Text.unitsOf (line.take n) ∨ line.length ≤ n := by
  rw [offsetOf, offsetOf_go_le_iff, Nat.zero_add]

theorem offsetOf_le_length (line : List Char) (column : Nat) :
    offsetOf line column ≤ line.length :=
  offsetOf_le_iff.mpr (.inr (Nat.le_refl _))

theorem offsetOf_mono (line : List Char) {column next : Nat} (h : column ≤ next) :
    offsetOf line column ≤ offsetOf line next := by
  rw [offsetOf_le_iff]
  rcases offsetOf_le_iff.mp (Nat.le_refl (offsetOf line next)) with hnext | hend
  · exact .inl (Nat.le_trans h hnext)
  · exact .inr hend

/-- A column between the two units of a character leads behind the character. -/
theorem offsetOf_insidePair (before rest : List Char) {c : Char} (hwide : Text.charUnits c = 2) :
    offsetOf (before ++ c :: rest) (Text.unitsOf before + 1) = before.length + 1 := by
  apply Nat.le_antisymm
  · refine offsetOf_le_iff.mpr (.inl ?_)
    have htake : (before ++ c :: rest).take (before.length + 1) = before ++ [c] := by
      simp [List.take_append]
    rw [htake, Text.unitsOf_append, Text.unitsOf_cons, Text.unitsOf_nil]
    omega
  · -- The place before the character is not far enough, and the line does not end there.
    refine Nat.lt_of_not_le fun hle => ?_
    rcases offsetOf_le_iff.mp hle with hreached | hend
    · rw [List.take_left] at hreached
      omega
    · rw [List.length_append, List.length_cons] at hend
      omega

/-! ### Bytes -/

/-- The number of UTF-16 units of some characters, as far as 32 bits hold it. -/
def utf16Length (cs : List Char) : UInt32 := .ofNat (min (Text.unitsOf cs) (UInt32.size - 1))

/-- Looks for a column in the characters of a line, with `units` UTF-16 units and `index` bytes
    before them. The result is a number of bytes. -/
def seekColumn (column units : UInt32) (index : Nat) : List Char → Nat
  | [] => index
  | c :: rest =>
    if column ≤ units then index
    else seekColumn column (units + .ofNat (Text.charUnits c)) (index + c.utf8Size) rest

variable {line before behind front run rest : List Char} {column : UInt32}

theorem byteOffset_eq (line : List Char) (column : UInt32) :
    byteOffset line column = utf8Len (line.take (offsetOf line column.toNat)) :=
  String.utf8ByteSize_ofList _

theorem utf8Len_take_le (line : List Char) {m n : Nat} (h : m ≤ n) :
    utf8Len (line.take m) ≤ utf8Len (line.take n) :=
  String.utf8Len_le_of_prefix (List.take_prefix_take_left h)

/-- More characters have more bytes. -/
theorem length_le_of_utf8Len_le (hbefore : before <+: line) (hfront : front <+: line)
    (h : utf8Len before ≤ utf8Len front) : before.length ≤ front.length := by
  refine Nat.le_of_not_lt fun hlt => ?_
  obtain ⟨more, rfl⟩ := List.prefix_of_prefix_length_le hfront hbefore hlt.le
  have hmore : utf8Len more = 0 := by
    rw [String.utf8Len_append] at h
    omega
  rw [String.utf8Len_eq_zero.mp hmore, List.append_nil] at hlt
  exact Nat.lt_irrefl _ hlt

theorem toNat_utf16Length (h : Text.unitsOf line < UInt32.size) :
    (utf16Length line).toNat = Text.unitsOf line := by
  rw [utf16Length, Nat.min_eq_left (Nat.le_sub_one_of_lt h), UInt32.toNat_ofNat_of_lt' h]

theorem seekColumn_go (column units : UInt32) (index : Nat) (line : List Char)
    (h : units.toNat + Text.unitsOf line < UInt32.size) :
    seekColumn column units index line =
      index + utf8Len (line.take (offsetOf.go column.toNat units.toNat line)) := by
  induction line generalizing units index with
  | nil => simp [seekColumn]
  | cons c rest ih =>
    rw [Text.unitsOf_cons] at h
    rw [seekColumn, offsetOf.go]
    by_cases hreached : column ≤ units
    · rw [if_pos hreached, if_pos (UInt32.le_iff_toNat_le.mp hreached)]
      simp
    · -- The counter does not overflow, so it goes on like the number that it stands for.
      have hfits : units.toNat + Text.charUnits c < UInt32.size := by omega
      have hunits : (units + .ofNat (Text.charUnits c)).toNat =
          units.toNat + Text.charUnits c := by
        rw [UInt32.toNat_add, UInt32.toNat_ofNat_of_lt' (by omega)]
        exact Nat.mod_eq_of_lt hfits
      rw [if_neg hreached, if_neg (mt UInt32.le_iff_toNat_le.mpr hreached),
        ih _ _ (by omega), hunits, Nat.add_comm 1, List.take_succ_cons, String.utf8Len_cons]
      omega

/-- The loop with its counter of 32 bits finds the byte of the column. -/
theorem seekColumn_eq (column : UInt32) (h : Text.unitsOf line < UInt32.size) :
    seekColumn column 0 0 line = byteOffset line column := by
  rw [seekColumn_go column 0 0 line (by simpa using h), Nat.zero_add, byteOffset_eq]
  rfl

/-- Where the columns of a line lead, as numbers of bytes. -/
structure SeeksColumns (line : List Char) : Prop where
  /-- The loop over the line and the place of a column agree. -/
  agrees : ∀ column, seekColumn column 0 0 line = byteOffset line column
  /-- A column leads to a place between characters, at the end of the line at the latest. -/
  boundary : ∀ column, (⟨byteOffset line column⟩ : String.Pos.Raw).IsValid (String.ofList line)
  within : ∀ column, byteOffset line column ≤ utf8Len line
  monotone : ∀ column next, column ≤ next → byteOffset line column ≤ byteOffset line next
  /-- A column between the two units of a character leads behind the character. -/
  insidePair : ∀ before c rest, line = before ++ c :: rest → Text.charUnits c = 2 →
    byteOffset line (utf16Length before + 1) = utf8Len (before ++ [c])
  /-- The column that counts the units before a place leads to the place. -/
  inverse : ∀ before rest, line = before ++ rest →
    byteOffset line (utf16Length before) = utf8Len before

theorem seeksColumns (h : Text.unitsOf line < UInt32.size) : SeeksColumns line where
  agrees column := seekColumn_eq column h
  boundary column := by
    rw [String.Pos.Raw.isValid_ofList]
    exact ⟨offsetOf line column.toNat, rfl⟩
  within column := by
    rw [byteOffset_eq]
    exact String.utf8Len_le_of_prefix (List.take_prefix _ _)
  monotone column next hle := by
    rw [byteOffset_eq, byteOffset_eq]
    exact utf8Len_take_le line (offsetOf_mono line (UInt32.le_iff_toNat_le.mp hle))
  insidePair before c rest hline hwide := by
    have hunits : Text.unitsOf before + 2 ≤ Text.unitsOf line := by
      rw [hline, Text.unitsOf_append, Text.unitsOf_cons]
      omega
    have hfits : Text.unitsOf before + 1 < UInt32.size := by omega
    have hcolumn : (utf16Length before + 1).toNat = Text.unitsOf before + 1 := by
      rw [UInt32.toNat_add, toNat_utf16Length (by omega)]
      exact Nat.mod_eq_of_lt hfits
    have htake : (before ++ c :: rest).take (before.length + 1) = before ++ [c] := by
      simp [List.take_append]
    rw [byteOffset_eq, hcolumn, hline, offsetOf_insidePair before rest hwide, htake]
  inverse before rest hline := by
    have hunits : Text.unitsOf before ≤ Text.unitsOf line := by
      rw [hline, Text.unitsOf_append]
      exact Nat.le_add_right _ _
    rw [byteOffset_eq, toNat_utf16Length (by omega), hline, offsetOf_unitsOf, List.take_left]

/-! ### Runs of identifier characters -/

/-- The characters of a run between others belong to identifiers, and those next to it do not. -/
structure IdentifierRun (before run rest : List Char) : Prop where
  chars : ∀ c ∈ run, isIdentifierChar c = true
  before : before.getLast?.any isIdentifierChar = false
  behind : rest.head?.any isIdentifierChar = false

/-- What a run of identifier characters is taken for: an identifier, unless it is empty or starts
    with an ASCII digit. -/
def identifierOf : List Char → Option (List Char)
  | [] => none
  | first :: others => if first.isDigit then none else some (first :: others)

/-- The end of a text up to which all belongs to identifiers, and what is before it. -/
theorem takeWhile_reverse_append (hchars : ∀ c ∈ run, isIdentifierChar c = true)
    (hbefore : before.getLast?.any isIdentifierChar = false) :
    (before ++ run).reverse.takeWhile isIdentifierChar = run.reverse := by
  rw [List.reverse_append, takeWhile_append_eq_left, List.head?_reverse]
  exact ⟨fun c hc => hchars c (List.mem_reverse.mp hc), hbefore⟩

theorem head?_dropWhile_any (test : Char → Bool) (cs : List Char) :
    (cs.dropWhile test).head?.any test = false := by
  have hhead := List.head?_dropWhile_not test cs
  cases h : (cs.dropWhile test).head? with
  | none => rfl
  | some c => simpa [h] using hhead

/-- Any characters end in a run, which may be empty. -/
theorem exists_runEnd (cs : List Char) :
    ∃ before run, cs = before ++ run ∧ (∀ c ∈ run, isIdentifierChar c = true) ∧
      before.getLast?.any isIdentifierChar = false := by
  refine ⟨(cs.reverse.dropWhile isIdentifierChar).reverse,
    (cs.reverse.takeWhile isIdentifierChar).reverse, ?_, fun c hc => ?_, ?_⟩
  · rw [← List.reverse_append, List.takeWhile_append_dropWhile, List.reverse_reverse]
  · exact List.mem_takeWhile_imp (List.mem_reverse.mp hc)
  · rw [List.getLast?_reverse]
    exact head?_dropWhile_any isIdentifierChar cs.reverse

/-- Each place of a line touches a run. -/
theorem exists_identifierRun (line : List Char) (n : Nat) (hn : n ≤ line.length) :
    ∃ before run rest, line = before ++ run ++ rest ∧ IdentifierRun before run rest ∧
      before.length ≤ n ∧ n ≤ (before ++ run).length := by
  -- The run goes from the end of what is before the place to the start of what is behind it.
  obtain ⟨before, back, hfront, hback, hbefore⟩ := exists_runEnd (line.take n)
  have hlength : (before ++ back).length = n := by
    rw [← hfront, List.length_take, Nat.min_eq_left hn]
  have hline : line = before ++ (back ++ (line.drop n).takeWhile isIdentifierChar) ++
      (line.drop n).dropWhile isIdentifierChar := by
    rw [← List.append_assoc, ← hfront, List.append_assoc, List.takeWhile_append_dropWhile,
      List.take_append_drop]
  refine ⟨before, _, _, hline, ⟨fun c hc => ?_, hbefore, head?_dropWhile_any _ _⟩, ?_, ?_⟩
  · rcases List.mem_append.mp hc with hc | hc
    · exact hback c hc
    · exact List.mem_takeWhile_imp hc
  · rw [List.length_append] at hlength
    omega
  · rw [← List.append_assoc, List.length_append, hlength]
    exact Nat.le_add_right _ _

/-- A place that touches a run cuts it in two. -/
theorem exists_cut (n : Nat) (hstart : before.length ≤ n) (hstop : n ≤ (before ++ run).length) :
    ∃ front back, run = front ++ back ∧ (before ++ front).length = n := by
  refine ⟨run.take (n - before.length), run.drop (n - before.length),
    (List.take_append_drop _ _).symm, ?_⟩
  rw [List.length_append] at hstop ⊢
  rw [List.length_take]
  omega

/-- **What a column leads to** is the run that its place touches, if that is an identifier. -/
theorem identifierAt?_eq {column : Nat} (hrun : IdentifierRun before run rest)
    (hstart : before.length ≤ offsetOf (before ++ run ++ rest) column)
    (hstop : offsetOf (before ++ run ++ rest) column ≤ (before ++ run).length) :
    identifierAt? (before ++ run ++ rest) column = identifierOf run := by
  obtain ⟨front, back, rfl, hcut⟩ := exists_cut _ hstart hstop
  have hsplit : before ++ (front ++ back) ++ rest = (before ++ front) ++ (back ++ rest) := by
    simp only [List.append_assoc]
  have htake : (before ++ (front ++ back) ++ rest).take
      (offsetOf (before ++ (front ++ back) ++ rest) column) = before ++ front := by
    rw [← hcut, hsplit, List.take_left]
  have hdrop : (before ++ (front ++ back) ++ rest).drop
      (offsetOf (before ++ (front ++ back) ++ rest) column) = back ++ rest := by
    rw [← hcut, hsplit, List.drop_left]
  have hfront : ∀ c ∈ front, isIdentifierChar c = true := fun c hc =>
    hrun.chars c (List.mem_append_left back hc)
  have hback : ∀ c ∈ back, isIdentifierChar c = true := fun c hc =>
    hrun.chars c (List.mem_append_right front hc)
  rw [identifierAt?, htake, hdrop, takeWhile_reverse_append hfront hrun.before,
    takeWhile_append_eq_left.mpr ⟨hback, hrun.behind⟩, List.reverse_reverse]
  cases front ++ back with
  | nil => rfl
  | cons first others => rfl

/-! ### Cutting the bytes of a line -/

/-- The characters before a byte of a text and those from it on; nothing if the byte is inside a
    character or behind the end. -/
def cutAt? : List Char → Nat → Option (List Char × List Char)
  | cs, 0 => some ([], cs)
  | [], _ + 1 => none
  | c :: rest, n + 1 =>
    if c.utf8Size ≤ n + 1 then
      (cutAt? rest (n + 1 - c.utf8Size)).map fun (front, back) => (c :: front, back)
    else none

/-- The characters of a text from one byte up to another; nothing if one of them is no place between
    characters, or if they stand in the wrong order. -/
def piece? (cs : List Char) (start stop : Nat) : Option (List Char) := do
  let (_, back) ← cutAt? cs start
  guard (start ≤ stop)
  let (found, _) ← cutAt? back (stop - start)
  return found

/-- The characters of a text, each with the number of bytes before it. -/
def charIndices (index : Nat) : List Char → List (Nat × Char)
  | [] => []
  | c :: rest => (index, c) :: charIndices (index + c.utf8Size) rest

/-- The first byte of the run of identifier characters at the end of some characters, which `stop`
    bytes end. -/
def runStart (cs : List Char) (stop : Nat) : Nat :=
  (((charIndices 0 cs).reverse.takeWhile (isIdentifierChar ·.2)).getLast?.map (·.1)).getD stop

/-- The byte behind the run of identifier characters at the start of some characters, which begin
    at a byte `start` of a line of `size` bytes. -/
def runStop (cs : List Char) (start size : Nat) : Nat :=
  (((charIndices 0 cs).find? (!isIdentifierChar ·.2)).map (start + ·.1)).getD size

/-- The identifier under a column of a line that is cut at bytes. There is no result at all if a cut
    is not between characters. -/
def cutIdentifier? (line : List Char) (column : UInt32) : Option (Option (List Char)) := do
  let offset := seekColumn column 0 0 line
  let before ← piece? line 0 offset
  let behind ← piece? line offset (utf8Len line)
  let found ← piece? line (runStart before offset) (runStop behind offset (utf8Len line))
  return identifierOf found

theorem cutAt?_utf8Len (front back : List Char) :
    cutAt? (front ++ back) (utf8Len front) = some (front, back) := by
  induction front with
  | nil => cases back <;> rfl
  | cons c front ih =>
    have hpos : 0 < c.utf8Size := Char.utf8Size_pos c
    obtain ⟨n, hn⟩ : ∃ n, utf8Len (c :: front) = n + 1 :=
      Nat.exists_eq_add_one.mpr (by rw [String.utf8Len_cons]; omega)
    have hrest : n + 1 - c.utf8Size = utf8Len front := by
      rw [← hn, String.utf8Len_cons, Nat.add_sub_cancel]
    have hle : c.utf8Size ≤ n + 1 := by
      rw [← hn, String.utf8Len_cons]
      exact Nat.le_add_left _ _
    rw [List.cons_append, hn, cutAt?, if_pos hle, hrest, ih]
    rfl

theorem piece?_utf8Len (front middle back : List Char) :
    piece? (front ++ middle ++ back) (utf8Len front) (utf8Len (front ++ middle)) =
      some middle := by
  rw [piece?, List.append_assoc, cutAt?_utf8Len, String.utf8Len_append]
  simp [guard, cutAt?_utf8Len]

theorem charIndices_append (index : Nat) (front back : List Char) :
    charIndices index (front ++ back) =
      charIndices index front ++ charIndices (index + utf8Len front) back := by
  induction front generalizing index with
  | nil => rfl
  | cons c front ih =>
    rw [List.cons_append, charIndices, charIndices, ih, String.utf8Len_cons, List.cons_append,
      Nat.add_assoc, Nat.add_comm c.utf8Size]

theorem map_charIndices (index : Nat) (cs : List Char) :
    (charIndices index cs).map (·.2) = cs := by
  induction cs generalizing index with
  | nil => rfl
  | cons c cs ih => rw [charIndices, List.map_cons, ih]

theorem isIdentifierChar_of_mem_charIndices (hchars : ∀ c ∈ run, isIdentifierChar c = true)
    {index : Nat} {entry : Nat × Char} (hentry : entry ∈ charIndices index run) :
    isIdentifierChar entry.2 = true := by
  apply hchars
  rw [← map_charIndices index run]
  exact List.mem_map_of_mem hentry

/-- The backward loop stops at the first byte of the run. -/
theorem runStart_append (hchars : ∀ c ∈ run, isIdentifierChar c = true)
    (hbefore : before.getLast?.any isIdentifierChar = false) :
    runStart (before ++ run) (utf8Len (before ++ run)) = utf8Len before := by
  have hlast : (charIndices 0 before).reverse.takeWhile (isIdentifierChar ·.2) = [] := by
    rcases List.eq_nil_or_concat before with rfl | ⟨front, c, rfl⟩
    · rfl
    · have hc : isIdentifierChar c = false := by simpa using hbefore
      rw [List.concat_eq_append, charIndices_append, List.reverse_append]
      exact List.takeWhile_cons_of_neg (by rw [hc]; decide)
  have htaken : (charIndices 0 (before ++ run)).reverse.takeWhile (isIdentifierChar ·.2) =
      (charIndices (utf8Len before) run).reverse := by
    rw [charIndices_append, List.reverse_append, List.takeWhile_append_of_pos, hlast,
      List.append_nil, Nat.zero_add]
    intro entry hentry
    exact isIdentifierChar_of_mem_charIndices hchars (List.mem_reverse.mp hentry)
  rw [runStart, htaken, List.getLast?_reverse]
  cases run with
  | nil => simp [charIndices]
  | cons c run => rfl

/-- The forward loop stops behind the run. -/
theorem runStop_append (hchars : ∀ c ∈ run, isIdentifierChar c = true)
    (hbehind : rest.head?.any isIdentifierChar = false) (start : Nat) :
    runStop (run ++ rest) start (start + utf8Len (run ++ rest)) = start + utf8Len run := by
  have hnone : (charIndices 0 run).find? (!isIdentifierChar ·.2) = none := by
    rw [List.find?_eq_none]
    intro entry hentry
    rw [isIdentifierChar_of_mem_charIndices hchars hentry]
    decide
  rw [runStop, charIndices_append, List.find?_append, hnone, Option.none_or]
  cases rest with
  | nil => simp [charIndices]
  | cons c rest =>
    have hc : isIdentifierChar c = false := by simpa using hbehind
    rw [charIndices, List.find?_cons_of_pos (by rw [hc]; rfl), Nat.zero_add]
    rfl

/-- A run that a place touches is what the line is cut to. -/
theorem cutIdentifier?_eq (hrun : IdentifierRun before run rest)
    (hline : line = before ++ run ++ rest) (hunits : Text.unitsOf line < UInt32.size)
    (hstart : before.length ≤ offsetOf line column.toNat)
    (hstop : offsetOf line column.toNat ≤ (before ++ run).length) :
    cutIdentifier? line column = some (identifierOf run) := by
  obtain ⟨front, back, rfl, hcut⟩ := exists_cut _ hstart hstop
  have hfront : ∀ c ∈ front, isIdentifierChar c = true := fun c hc =>
    hrun.chars c (List.mem_append_left back hc)
  have hback : ∀ c ∈ back, isIdentifierChar c = true := fun c hc =>
    hrun.chars c (List.mem_append_right front hc)
  have hsplit : line = (before ++ front) ++ (back ++ rest) := by
    rw [hline]
    simp only [List.append_assoc]
  have hoffset : seekColumn column 0 0 line = utf8Len (before ++ front) := by
    rw [seekColumn_eq column hunits, byteOffset_eq, ← hcut]
    rw [hsplit, List.take_left]
  -- The four places at which the line is cut: its ends, the column, and both ends of the run.
  have hbefore : piece? line 0 (utf8Len (before ++ front)) = some (before ++ front) := by
    have hpiece := piece?_utf8Len [] (before ++ front) (back ++ rest)
    rwa [List.nil_append, ← hsplit] at hpiece
  have hbehind : piece? line (utf8Len (before ++ front)) (utf8Len line) = some (back ++ rest) := by
    have hpiece := piece?_utf8Len (before ++ front) (back ++ rest) []
    rwa [List.append_nil, ← hsplit] at hpiece
  have hfound : piece? line (utf8Len before) (utf8Len (before ++ (front ++ back))) =
      some (front ++ back) := by
    have hpiece := piece?_utf8Len before (front ++ back) rest
    rwa [← hline] at hpiece
  have hfirst := runStart_append hfront hrun.before
  have hlast : runStop (back ++ rest) (utf8Len (before ++ front)) (utf8Len line) =
      utf8Len (before ++ (front ++ back)) := by
    have hsize : utf8Len line = utf8Len (before ++ front) + utf8Len (back ++ rest) := by
      rw [hsplit, String.utf8Len_append]
    rw [hsize, runStop_append hback hrun.behind, ← String.utf8Len_append, List.append_assoc]
  rw [cutIdentifier?, hoffset, hbefore, Option.bind_eq_bind, Option.bind_some, hbehind,
    Option.bind_some, hfirst, hlast, hfound]
  rfl

/-! ### Every column -/

/-- What the columns of a line find. -/
structure FindsIdentifiers (line : List Char) : Prop where
  /-- The line is cut between characters only, and to what its characters tell. -/
  uncut : ∀ column, cutIdentifier? line column = some (identifierAt? line column.toNat)
  /-- Each column leads to a place that touches a run. -/
  touches : ∀ column, ∃ before run rest, line = before ++ run ++ rest ∧
    IdentifierRun before run rest ∧ utf8Len before ≤ byteOffset line column ∧
      byteOffset line column ≤ utf8Len (before ++ run)
  /-- The run that the place of a column touches is what is found. -/
  maximal : ∀ column before run rest, line = before ++ run ++ rest →
    IdentifierRun before run rest → utf8Len before ≤ byteOffset line column →
      byteOffset line column ≤ utf8Len (before ++ run) →
        identifierAt? line column.toNat = identifierOf run
  /-- All columns from the first character of a run to just behind its last one find the run. -/
  throughout : ∀ before run rest, line = before ++ run ++ rest → IdentifierRun before run rest →
    ∀ column, utf16Length before ≤ column → column ≤ utf16Length (before ++ run) →
      identifierAt? line column.toNat = identifierOf run

/-- The place of a column touches some characters just if its byte does. -/
theorem touches_iff (hline : line = before ++ run ++ rest) (column : UInt32) :
    utf8Len before ≤ byteOffset line column ∧ byteOffset line column ≤ utf8Len (before ++ run) ↔
      before.length ≤ offsetOf line column.toNat ∧
        offsetOf line column.toNat ≤ (before ++ run).length := by
  have hbefore : before <+: line := ⟨run ++ rest, by rw [hline, List.append_assoc]⟩
  have hrun : before ++ run <+: line := ⟨rest, hline.symm⟩
  have htake : line.take (offsetOf line column.toNat) <+: line := List.take_prefix _ _
  have hlength : (line.take (offsetOf line column.toNat)).length = offsetOf line column.toNat := by
    rw [List.length_take, Nat.min_eq_left (offsetOf_le_length line _)]
  rw [byteOffset_eq]
  constructor
  · rintro ⟨hstart, hstop⟩
    have hfirst := length_le_of_utf8Len_le hbefore htake hstart
    have hlast := length_le_of_utf8Len_le htake hrun hstop
    rw [hlength] at hfirst hlast
    exact ⟨hfirst, hlast⟩
  · rintro ⟨hstart, hstop⟩
    rw [← hlength] at hstart hstop
    exact ⟨String.utf8Len_le_of_prefix (List.prefix_of_prefix_length_le hbefore htake hstart),
      String.utf8Len_le_of_prefix (List.prefix_of_prefix_length_le htake hrun hstop)⟩

theorem findsIdentifiers (h : Text.unitsOf line < UInt32.size) : FindsIdentifiers line where
  uncut column := by
    obtain ⟨before, run, rest, hline, hrun, hstart, hstop⟩ :=
      exists_identifierRun line _ (offsetOf_le_length line column.toNat)
    rw [cutIdentifier?_eq hrun hline h hstart hstop]
    subst hline
    rw [identifierAt?_eq hrun hstart hstop]
  touches column := by
    obtain ⟨before, run, rest, hline, hrun, hplace⟩ :=
      exists_identifierRun line _ (offsetOf_le_length line column.toNat)
    exact ⟨before, run, rest, hline, hrun, (touches_iff hline column).mpr hplace⟩
  maximal column before run rest hline hrun hstart hstop := by
    obtain ⟨hfirst, hlast⟩ := (touches_iff hline column).mp ⟨hstart, hstop⟩
    subst hline
    exact identifierAt?_eq hrun hfirst hlast
  throughout before run rest hline hrun column hstart hstop := by
    have hfits : Text.unitsOf (before ++ run) < UInt32.size := by
      rw [hline, Text.unitsOf_append] at h
      exact Nat.lt_of_le_of_lt (Nat.le_add_right _ _) h
    have hfits' : Text.unitsOf before < UInt32.size := by
      rw [Text.unitsOf_append] at hfits
      exact Nat.lt_of_le_of_lt (Nat.le_add_right _ _) hfits
    -- The columns of both ends lead there, and columns keep their order.
    have hfirst : offsetOf line (Text.unitsOf before) = before.length := by
      rw [hline, List.append_assoc, offsetOf_unitsOf]
    have hlast : offsetOf line (Text.unitsOf (before ++ run)) = (before ++ run).length := by
      rw [hline, offsetOf_unitsOf]
    rw [UInt32.le_iff_toNat_le, toNat_utf16Length hfits'] at hstart
    rw [UInt32.le_iff_toNat_le, toNat_utf16Length hfits] at hstop
    have hfrom := offsetOf_mono line hstart
    have hto := offsetOf_mono line hstop
    rw [hfirst] at hfrom
    rw [hlast] at hto
    subst hline
    exact identifierAt?_eq hrun hfrom hto

/-- **Columns find identifiers.** On a line whose columns have no more than 31 bits, every column
    leads to a place between characters, in order, a pair of units counting as a whole, and every
    place has its own column. The line is never cut inside a character, and what is found is the run
    of identifier characters that contains the place or ends there, unless it is empty or starts
    with an ASCII digit. -/
theorem columns_find_identifiers (line : List Char) (h : Text.unitsOf line < 2 ^ 31) :
    SeeksColumns line ∧ FindsIdentifiers line := by
  have hunits : Text.unitsOf line < UInt32.size := Nat.lt_trans h (by decide)
  exact ⟨seeksColumns hunits, findsIdentifiers hunits⟩

/-- A line with characters of two, three and four bytes, of which the last have a pair of units. -/
def accentedLine : List Char := "é + naïve　x😀9z".toList

theorem columns_find_identifiers_accented :
    Text.unitsOf accentedLine < 2 ^ 31 ∧ byteOffset accentedLine 6 = 7 ∧
      byteOffset accentedLine 12 = 19 ∧ identifierAt? accentedLine 6 = some "naïve".toList ∧
        identifierAt? accentedLine 14 = none ∧ SeeksColumns accentedLine ∧
          FindsIdentifiers accentedLine := by
  have hshort : Text.unitsOf accentedLine < 2 ^ 31 := by decide +kernel
  exact ⟨hshort, by decide +kernel, by decide +kernel, by decide +kernel, by decide +kernel,
    columns_find_identifiers accentedLine hshort⟩

end SymbolSearch
