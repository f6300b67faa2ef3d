import SymbolSearch.Proofs.Scan.Columns
import SymbolSearch.Proofs.Text.Matching

/-!
# Declared names

The name of a symbol is to be a whole identifier. Every form of declarations has a class of its own
for the characters of names, and finds a run of these characters that cannot go on; this is a whole
identifier only where the class agrees with the characters of identifiers.

* `isSeparator` — the characters that stand before names, and behind those that must be followed by
  something.
* `NamesRun` — a pattern finds such runs; `Language.namesRun_rules` says that all forms of
  declarations do.
* `NameRun` — a name stands in a line as such a run; it is a whole identifier if its characters
  tell, which is `NamesTell`.
* `Scanner.names_whole_iff` — the names of all symbols of a document.
* `Scanner.not_forall_names_whole` — a name of Rust that ends before a letter of another alphabet.
-/

namespace SymbolSearch

open Text (Pattern Cursor isWord)
open DeclarationRule

/-! ### Classes of characters -/

/-- Whether the character may go on with the name of a declaration. -/
def Language.isNameChar : Language → Char → Bool
  | .rust, c => c.isAlphanum || c = '_'
  | .typescript, c => isWord c || c = '$'
  | _, c => isWord c

/-- Whether the character separates a name from what stands before it or behind it. -/
def isSeparator (c : Char) : Bool := Text.isBlank c || ['!', ')', ':', '=', '<', '('].contains c

/-- The codes of all separators. -/
def separatorCodes : List Nat :=
  List.range' 9 5 ++ List.range' 0x2000 11 ++
    [0x20, 0x21, 0x28, 0x29, 0x3a, 0x3c, 0x3d, 0x85, 0xa0, 0x1680, 0x2028, 0x2029, 0x202f, 0x205f,
      0x3000]

theorem mem_separatorCodes {c : Char} (h : isSeparator c = true) : c.toNat ∈ separatorCodes := by
  simp only [isSeparator, Text.isBlank, Bool.or_eq_true, Bool.and_eq_true, decide_eq_true_eq,
    beq_iff_eq, List.contains_iff_mem, List.mem_cons, List.not_mem_nil, or_false] at h
  simp only [separatorCodes, List.mem_append, List.mem_range'_1, List.mem_cons, List.not_mem_nil,
    or_false]
  rcases h with h | rfl | rfl | rfl | rfl | rfl | rfl
  · omega
  all_goals decide

theorem forall_separatorCodes : ∀ code ∈ separatorCodes,
    isIdentifierChar (Char.ofNat code) = false ∧
      ∀ language ∈ [Language.rust, .typescript, .other],
        language.isNameChar (Char.ofNat code) = false := by
  decide +kernel

/-- A separator does not belong to identifiers. -/
theorem isIdentifierChar_of_isSeparator {c : Char} (h : isSeparator c = true) :
    isIdentifierChar c = false := by
  have hcode := (forall_separatorCodes c.toNat (mem_separatorCodes h)).1
  rwa [Char.ofNat_toNat] at hcode

namespace Language

/-- A separator does not belong to names in any language. -/
theorem isNameChar_of_isSeparator (language : Language) {c : Char} (h : isSeparator c = true) :
    language.isNameChar c = false := by
  have hcode := (forall_separatorCodes c.toNat (mem_separatorCodes h)).2
  rw [Char.ofNat_toNat] at hcode
  cases language with
  | rust => exact hcode .rust (by simp)
  | typescript => exact hcode .typescript (by simp)
  | python | go | java | other => exact hcode .other (by simp)

theorem forall_asciiCodes : ∀ code < 128,
    isWord (Char.ofNat code) = ((Char.ofNat code).isAlphanum || Char.ofNat code = '_') ∧
      isIdentifierChar (Char.ofNat code) = (isWord (Char.ofNat code) || Char.ofNat code = '$') := by
  decide +kernel

/-- On ASCII, names and identifiers are made of the same characters, but for the dollar sign. -/
theorem isNameChar_of_ascii {language : Language} {c : Char} (h : c.toNat < 128)
    (hdollar : c = '$' → language = .typescript) :
    language.isNameChar c = isIdentifierChar c := by
  have hclasses := forall_asciiCodes c.toNat h
  rw [Char.ofNat_toNat] at hclasses
  obtain ⟨hword, hidentifier⟩ := hclasses
  by_cases htypescript : language = .typescript
  · rw [htypescript, hidentifier]
    rfl
  · have hplain : isIdentifierChar c = isWord c := by
      rw [hidentifier, decide_eq_false fun hc => htypescript (hdollar hc), Bool.or_false]
    rw [hplain]
    cases language with
    | rust => exact hword.symm
    | typescript => exact absurd rfl htypescript
    | python | go | java | other => rfl

end Language

/-! ### Patterns that find names -/

/-- Whether the character before a place, if there is one, is a separator. -/
def Apart (before : Option Char) : Prop := ∀ c ∈ before, isSeparator c = true

/-- A pattern finds a name behind a separator. It goes on as far as it can, or up to another
    separator. -/
structure NamesRun (isName : Char → Bool) (pattern : Pattern Char) : Prop where
  exists_parts : ∃ front start rest behind,
    pattern = .sequence (front ++ nameOf start rest :: behind) ∧
      (Pattern.sequence front).Leaves Apart ∧
      (∀ c, start c = true → isName c = true ∧ isIdentifierChar c = true ∧ c.isDigit = false) ∧
      (∀ c, rest c = true → isName c = true) ∧ (Pattern.sequence behind).unnamed = true ∧
      (behind = [] ∧ rest = isName ∨ (Pattern.sequence behind).Opens (isSeparator · = true))

/-- A name stands at a place of a line, behind a separator, as a run of characters of names that
    cannot go on. -/
structure NameRun (isName : Char → Bool) (name line : List Char) (start : Nat) : Prop where
  stands : standsAt name line start = true
  first : ∃ c rest, name = c :: rest ∧ isIdentifierChar c = true ∧ c.isDigit = false
  chars : ∀ c ∈ name, isName c = true
  before : ∀ c ∈ charBefore? line start, isSeparator c = true
  behind : ∀ c ∈ charBehind? line (start + name.length), isName c = false

theorem NamesRun.of_pieceAt? {isName : Char → Bool} {pattern : Pattern Char} {line : List Char}
    {cursor : Cursor Char} {start stop : Nat} (h : NamesRun isName pattern)
    (hseparator : ∀ c, isSeparator c = true → isName c = false) (hcursor : cursor.On line)
    (hpiece : pattern.pieceAt? cursor = some (start, stop)) :
    NameRun isName ((line.take stop).drop start) line start ∧
      stop = start + ((line.take stop).drop start).length := by
  obtain ⟨front, begins, goesOn, behind, rfl, hfront, hbegins, hgoesOn, hunnamed, hend⟩ :=
    h.exists_parts
  -- First the pattern comes to the place of the name, which is behind a separator.
  rw [Pattern.pieceAt?, Pattern.run_sequence_append] at hpiece
  obtain ⟨place, hmatch, hplace⟩ := Pattern.exists_of_run hpiece
  have hon := hmatch.on hcursor
  have hbefore := hfront _ _ hmatch
  -- Then it takes the name, and goes on to what comes behind it.
  have hparts : (nameOf begins goesOn).run place
      (fun after => (Pattern.sequence behind).run after fun after => after.piece) =
        some (start, stop) := hplace
  obtain ⟨first, taken, rest, hrest, hfirst, htaken, hnext, hmore⟩ :=
    Pattern.exists_of_run_named hparts
  obtain ⟨after, hbehind, hfound⟩ := Pattern.exists_of_run hnext
  rw [hbehind.piece_eq hunnamed] at hfound
  cases hfound
  have hname : (line.take (place.position + (first :: taken).length)).drop place.position =
      first :: taken := by
    rw [List.drop_take, ← hon.rest, hrest, Nat.add_sub_cancel_left, List.take_left]
  have hline : line.drop (place.position + (first :: taken).length) = rest := by
    rw [← List.drop_drop, ← hon.rest, hrest, List.drop_left]
  obtain ⟨hisName, hidentifier, hdigit⟩ := hbegins first hfirst
  rw [hname]
  refine ⟨⟨?_, ⟨first, taken, rfl, hidentifier, hdigit⟩, ?_, ?_, ?_⟩, rfl⟩
  · rw [standsAt, ← hon.rest, hrest]
    exact List.isPrefixOf_iff_prefix.mpr (List.prefix_append _ _)
  · exact List.forall_mem_cons.mpr ⟨hisName, fun c hc => hgoesOn c (htaken c hc)⟩
  · rw [charBefore?, ← hon.before]
    exact hbefore
  · rw [charBehind?, hline]
    intro c hc
    rcases hend with ⟨rfl, rfl⟩ | hopens
    · -- Nothing comes behind, so the name would have gone on.
      obtain ⟨more, rfl⟩ : ∃ more, rest = c :: more := List.head?_eq_some_iff.mp hc
      by_contra hc
      rw [Bool.not_eq_false] at hc
      have hnone := hmore c more rfl hc
      cases hnone
    · obtain ⟨found, hfound, hsep⟩ := hopens _ _ hbehind
      obtain rfl : found = c := Option.some.inj (hfound.symm.trans hc)
      exact hseparator found hsep

/-! ### The forms of declarations -/

/-- Whether the character may begin the name of a declaration. -/
def Language.isFirstNameChar : Language → Char → Bool
  | .typescript, c => isNameStart c || c = '$'
  | _, c => isNameStart c

/-- The name of most declarations in a language. -/
def Language.name (language : Language) : Pattern Char :=
  nameOf language.isFirstNameChar language.isNameChar

theorem Language.isFirstNameChar_iff {language : Language} {c : Char} :
    language.isFirstNameChar c = true ↔
      c.isAlpha = true ∨ c = '_' ∨ c = '$' ∧ language = .typescript := by
  cases language <;> simp [isFirstNameChar, isNameStart, or_assoc]

theorem letter_bounds {c : Char} (h : c.isAlpha = true) : 65 ≤ c.toNat ∧ c.toNat < 128 := by
  have hval : c.toNat = c.val.toNat := rfl
  simp only [Char.isAlpha, Char.isUpper, Char.isLower, Bool.or_eq_true, Bool.and_eq_true,
    decide_eq_true_eq, ge_iff_le, UInt32.le_iff_toNat_le, Char.reduceVal, UInt32.reduceToNat] at h
  omega

theorem toNat_le_of_isDigit {c : Char} (h : c.isDigit = true) : c.toNat ≤ 57 := by
  have hval : c.toNat = c.val.toNat := rfl
  simp only [Char.isDigit, Bool.and_eq_true, decide_eq_true_eq, ge_iff_le,
    UInt32.le_iff_toNat_le, Char.reduceVal, UInt32.reduceToNat] at h
  omega

theorem isDigit_eq_false_of_isAlpha {c : Char} (h : c.isAlpha = true) : c.isDigit = false := by
  rw [← Bool.not_eq_true]
  intro hdigit
  have hletter := (letter_bounds h).1
  have := toNat_le_of_isDigit hdigit
  omega

theorem isWord_of_isAlphanum {c : Char} (h : (c.isAlphanum || c = '_') = true) :
    isWord c = true := by
  have hascii : c.toNat < 128 := by
    simp only [Char.isAlphanum, Bool.or_eq_true, decide_eq_true_eq] at h
    rcases h with (hletter | hdigit) | rfl
    · exact (letter_bounds hletter).2
    · exact Nat.lt_of_le_of_lt (toNat_le_of_isDigit hdigit) (by decide)
    · decide
  rw [isWord, if_pos hascii]
  exact h

/-- What begins a name belongs to names and to identifiers, and it is no digit. -/
theorem Language.isNameChar_of_isFirstNameChar {language : Language} {c : Char}
    (h : language.isFirstNameChar c = true) :
    language.isNameChar c = true ∧ isIdentifierChar c = true ∧ c.isDigit = false := by
  -- Letters, the underscore and the dollar sign are all ASCII characters, and no digits.
  have hcases := isFirstNameChar_iff.mp h
  have hascii : c.toNat < 128 ∧ c.isDigit = false := by
    rcases hcases with hletter | rfl | ⟨rfl, -⟩
    · exact ⟨(letter_bounds hletter).2, isDigit_eq_false_of_isAlpha hletter⟩
    · decide
    · decide
  have hdollar : c = '$' → language = .typescript := by
    rintro rfl
    rcases hcases with hletter | heq | ⟨-, hlanguage⟩
    · cases hletter
    · cases heq
    · exact hlanguage
  have hidentifier : isIdentifierChar c = true := by
    simp only [isIdentifierChar, Text.isAlphanumeric, if_pos hascii.1, Char.isAlphanum]
    rcases hcases with hletter | rfl | ⟨rfl, -⟩
    · rw [hletter]
      rfl
    · rfl
    · rfl
  rw [isNameChar_of_ascii hascii.1 hdollar]
  exact ⟨hidentifier, hidentifier, hascii.2⟩

theorem apart_some {c : Char} (h : isSeparator c = true) : Apart (some c) := by
  rintro _ ⟨⟩
  exact h

theorem isSeparator_of_isBlank {c : Char} (h : Text.isBlank c = true) : isSeparator c = true := by
  rw [isSeparator, h, Bool.true_or]

section Parts

variable {isName : Char → Bool} {first second : Pattern Char}
  {front behind parts : List (Pattern Char)}

theorem leaves_gap : gap.Leaves Apart :=
  (Pattern.leaves_one fun _ hblank => apart_some (isSeparator_of_isBlank hblank)).repeated

theorem leaves_spaced (word : String) : (spaced word).Leaves Apart := leaves_gap.seq _

theorem keeps_blanks : blanks.Keeps Apart :=
  (Pattern.leaves_one fun _ hblank => apart_some (isSeparator_of_isBlank hblank)).keeps.many

theorem opens_gap : gap.Opens (isSeparator · = true) :=
  (Pattern.opens_one fun _ => isSeparator_of_isBlank).seq _

theorem passes_blanks : blanks.Passes (isSeparator · = true) :=
  (Pattern.opens_one fun _ => isSeparator_of_isBlank).passes_many

/-- Something that keeps a place behind a separator, behind something that leads to one. -/
theorem leaves_sequence (h : first.Leaves Apart) (h' : second.Keeps Apart) :
    (Pattern.sequence [first, second]).Leaves Apart :=
  h.seq_keeps (h'.seq Pattern.keeps_nothing)

/-- Blanks and a separator. -/
theorem opens_blanks (h : (Pattern.sequence behind).Opens (isSeparator · = true)) :
    (Pattern.sequence (blanks :: behind)).Opens (isSeparator · = true) :=
  h.seq_passes passes_blanks

/-- What comes before a form of declarations leaves its names as they are. -/
theorem NamesRun.cons (h : NamesRun isName (.sequence parts)) (pattern : Pattern Char) :
    NamesRun isName (.sequence (pattern :: parts)) := by
  obtain ⟨front, start, rest, behind, hparts, hfront, hrest⟩ := h.exists_parts
  refine ⟨pattern :: front, start, rest, behind, ?_, hfront.seq pattern, hrest⟩
  exact congrArg (Pattern.seq pattern) hparts

variable (language : Language)

/-- A name behind a separator, as the last part. -/
theorem namesRun_last (h : (Pattern.sequence front).Leaves Apart) :
    NamesRun language.isNameChar (.sequence (front ++ [language.name])) :=
  ⟨front, _, _, [], rfl, h, fun _ => Language.isNameChar_of_isFirstNameChar, fun _ => id, rfl,
    .inl ⟨rfl, rfl⟩⟩

/-- A name between separators. -/
theorem namesRun_before (h : (Pattern.sequence front).Leaves Apart)
    (hunnamed : (Pattern.sequence behind).unnamed = true)
    (hbehind : (Pattern.sequence behind).Opens (isSeparator · = true)) :
    NamesRun language.isNameChar (.sequence (front ++ language.name :: behind)) :=
  ⟨front, _, _, behind, rfl, h, fun _ => Language.isNameChar_of_isFirstNameChar, fun _ => id,
    hunnamed, .inr hbehind⟩

theorem namesRun_gap : NamesRun language.isNameChar (.sequence [gap, language.name]) :=
  namesRun_last language (leaves_gap.last [])

theorem namesRun_spaced (word : String) :
    NamesRun language.isNameChar (.sequence [spaced word, language.name]) :=
  namesRun_last language ((leaves_spaced word).last [])

theorem namesRun_spaced_before (word : String) (hunnamed : (Pattern.sequence behind).unnamed = true)
    (hbehind : (Pattern.sequence behind).Opens (isSeparator · = true)) :
    NamesRun language.isNameChar (.sequence (spaced word :: language.name :: behind)) :=
  namesRun_before language ((leaves_spaced word).last []) hunnamed hbehind

end Parts

namespace Language

theorem namesRun_rustRules : ∀ rule ∈ rustRules, NamesRun rust.isNameChar rule.pattern := by
  have hword : (text "macro_rules!").Leaves Apart :=
    Pattern.leaves_exactly (apart_some (by decide)) "macro_rules".toList
  have hmacro : NamesRun rust.isNameChar (.sequence [text "macro_rules!", blanks, rust.name]) :=
    namesRun_last rust (leaves_sequence hword keeps_blanks)
  have hcolon : (text ":").Opens (isSeparator · = true) := Pattern.opens_exactly (by decide) []
  have hconstant : NamesRun rust.isNameChar
      (.sequence [gap, modifier "mut", rust.name, blanks, text ":"]) :=
    namesRun_before rust (leaves_sequence leaves_gap (leaves_spaced "mut").keeps.optional) rfl
      (opens_blanks (hcolon.seq _))
  simp only [rustRules, List.forall_mem_cons, List.not_mem_nil, false_implies, implies_true,
    and_true]
  refine ⟨?_, ?_, ?_, ?_, ?_, ?_, ?_, ?_⟩
  -- What comes before the last parts is taken away one by one.
  all_goals
    repeat first
      | exact namesRun_spaced rust _
      | exact hmacro
      | exact hconstant
      | apply NamesRun.cons

theorem leaves_atStart : (Pattern.atStart : Pattern Char).Leaves Apart := by
  intro a b hmatch
  cases hmatch with
  | between hstart =>
    rw [Option.isNone_iff_eq_none.mp hstart]
    rintro _ ⟨⟩

theorem namesRun_pythonRules : ∀ rule ∈ pythonRules, NamesRun python.isNameChar rule.pattern := by
  have hequals : (text "=").Opens (isSeparator · = true) := Pattern.opens_exactly (by decide) []
  have hcolon : (text ":").Opens (isSeparator · = true) := Pattern.opens_exactly (by decide) []
  have hbehind : (Pattern.sequence [blanks,
      .optional (.seq (text ":") (.repeated (.one (· ≠ '=')))), text "="]).Opens
        (isSeparator · = true) :=
    opens_blanks ((hequals.seq _).seq_passes (hcolon.seq _).passes_optional)
  have hcapital (c : Char) (hc : c.isUpper = true) : python.isFirstNameChar c = true := by
    rw [isFirstNameChar_iff, Char.isAlpha, hc]
    exact .inl rfl
  have hrest (c : Char) (hc : (c.isUpper || c.isDigit || c = '_') = true) :
      python.isNameChar c = true := by
    refine isWord_of_isAlphanum ?_
    simp only [Char.isAlphanum, Char.isAlpha, Bool.or_eq_true] at hc ⊢
    rcases hc with (hupper | hdigit) | hunderscore
    · exact .inl (.inl (.inl hupper))
    · exact .inl (.inr hdigit)
    · exact .inr hunderscore
  have hconstant : NamesRun python.isNameChar (.sequence [.atStart, capitalName, blanks,
      .optional (.seq (text ":") (.repeated (.one (· ≠ '=')))), text "="]) :=
    ⟨[.atStart], _, _, _, rfl, leaves_atStart.last [],
      fun c hc => isNameChar_of_isFirstNameChar (hcapital c hc), hrest, rfl, .inr hbehind⟩
  simp only [pythonRules, List.forall_mem_cons, List.not_mem_nil, false_implies, implies_true,
    and_true]
  refine ⟨?_, ?_, ?_, hconstant⟩
  all_goals
    repeat first
      | exact namesRun_spaced python _
      | apply NamesRun.cons

theorem namesRun_typescriptRules :
    ∀ rule ∈ typescriptRules, NamesRun typescript.isNameChar rule.pattern := by
  have hequals : (text "=").Opens (isSeparator · = true) := Pattern.opens_exactly (by decide) []
  have hangle : (text "<").Opens (isSeparator · = true) := Pattern.opens_exactly (by decide) []
  have hvalue : (Pattern.sequence [blanks, text "="]).Opens (isSeparator · = true) :=
    opens_blanks (hequals.seq _)
  have hbehind : (Pattern.sequence [blanks,
      .optional (.sequence [text "<", .many true (.one (· ≠ '=')), text ">"]), blanks,
      text "="]).Opens (isSeparator · = true) :=
    opens_blanks (hvalue.seq_passes (hangle.seq _).passes_optional)
  have htype : NamesRun typescript.isNameChar (.sequence [spaced "type", typescript.name, blanks,
      .optional (.sequence [text "<", .many true (.one (· ≠ '=')), text ">"]), blanks, text "="]) :=
    namesRun_spaced_before typescript "type" rfl hbehind
  simp only [typescriptRules, List.forall_mem_cons, List.not_mem_nil, false_implies, implies_true,
    and_true]
  refine ⟨?_, ?_, ?_, ?_, ?_, ?_, ?_⟩
  all_goals
    repeat first
      | exact namesRun_spaced typescript _
      | exact namesRun_gap typescript
      | exact htype
      | apply NamesRun.cons

theorem namesRun_goRules : ∀ rule ∈ goRules, NamesRun go.isNameChar rule.pattern := by
  have hbracket : (text ")").Leaves Apart := Pattern.leaves_exactly (apart_some (by decide)) []
  have hmethod : NamesRun go.isNameChar (.sequence [bracketed, blanks, go.name]) :=
    namesRun_last go (leaves_sequence (hbracket.last [_, _]) keeps_blanks)
  have hkind (word : String) : (Pattern.sequence [gap, text word, .wordEdge]).Opens
      (isSeparator · = true) := opens_gap.seq _
  have hunnamed (word : String) :
      (Pattern.sequence [gap, text word, .wordEdge]).unnamed = true := by
    show (gap.unnamed && ((text word).unnamed && true)) = true
    rw [text, Pattern.unnamed_exactly]
    rfl
  have htype (word : String) : NamesRun go.isNameChar
      (.sequence [spaced "type", go.name, gap, text word, .wordEdge]) :=
    namesRun_spaced_before go "type" (hunnamed word) (hkind word)
  simp only [goRules, List.forall_mem_cons, List.not_mem_nil, false_implies, implies_true,
    and_true]
  refine ⟨?_, ?_, ?_, ?_, ?_, ?_, ?_⟩
  all_goals
    repeat first
      | exact namesRun_spaced go _
      | exact hmethod
      | exact htype _
      | apply NamesRun.cons

theorem namesRun_javaRules : ∀ rule ∈ javaRules, NamesRun java.isNameChar rule.pattern := by
  have hbracket : (text "(").Opens (isSeparator · = true) := Pattern.opens_exactly (by decide) []
  have hmethod : NamesRun java.isNameChar (.sequence [gap, java.name, blanks, text "("]) :=
    namesRun_before java (leaves_gap.last []) rfl (opens_blanks (hbracket.seq _))
  simp only [javaRules, List.forall_mem_cons, List.not_mem_nil, false_implies, implies_true,
    and_true]
  refine ⟨?_, ?_, ?_, ?_, ?_⟩
  all_goals
    repeat first
      | exact namesRun_spaced java _
      | exact hmethod
      | apply NamesRun.cons

theorem namesRun_otherRules : ∀ rule ∈ otherRules, NamesRun other.isNameChar rule.pattern := by
  simp only [otherRules, List.forall_mem_cons, List.not_mem_nil, false_implies, implies_true,
    and_true]
  refine ⟨?_, ?_⟩
  all_goals
    repeat first
      | exact namesRun_gap other
      | apply NamesRun.cons

/-- All forms of declarations find runs of characters of names. -/
theorem namesRun_rules (language : Language) :
    ∀ rule ∈ language.rules, NamesRun language.isNameChar rule.pattern := by
  cases language with
  | rust => exact namesRun_rustRules
  | python => exact namesRun_pythonRules
  | typescript => exact namesRun_typescriptRules
  | go => exact namesRun_goRules
  | java => exact namesRun_javaRules
  | other => exact namesRun_otherRules

end Language

/-! ### Whole identifiers -/

/-- Whether the characters of a name, and the one behind it, belong to names just if they belong to
    identifiers. -/
def NamesTell (isName : Char → Bool) (name line : List Char) (start : Nat) : Prop :=
  ∀ c ∈ name ++ (charBehind? line (start + name.length)).toList, isName c = isIdentifierChar c

variable {isName : Char → Bool} {name line : List Char} {start : Nat}

theorem takeWhile_eq_nil {test : Char → Bool} {cs : List Char} :
    cs.takeWhile test = [] ↔ cs.head?.any test = false := by
  cases cs with
  | nil => simp
  | cons c rest => simp [List.takeWhile_cons]

theorem takeWhile_append_eq_left {test : Char → Bool} {front back : List Char} :
    (front ++ back).takeWhile test = front ↔
      (∀ c ∈ front, test c = true) ∧ back.head?.any test = false := by
  constructor
  · intro h
    have hfront : ∀ c ∈ front, test c = true := by
      rw [← h]
      exact fun c => List.mem_takeWhile_imp
    rw [List.takeWhile_append_of_pos hfront, List.append_right_eq_self] at h
    exact ⟨hfront, takeWhile_eq_nil.mp h⟩
  · rintro ⟨hfront, hback⟩
    rw [List.takeWhile_append_of_pos hfront, takeWhile_eq_nil.mpr hback, List.append_nil]

namespace NameRun

theorem before_false (h : NameRun isName name line start) :
    (charBefore? line start).any isIdentifierChar = false := by
  rw [Option.any_eq_false]
  exact fun c hc => isIdentifierChar_of_isSeparator (h.before c hc)

/-- The characters tell just if those of the name belong to identifiers and the one behind it does
    not. -/
theorem tells_iff (h : NameRun isName name line start) :
    NamesTell isName name line start ↔
      (∀ c ∈ name, isIdentifierChar c = true) ∧
        (charBehind? line (start + name.length)).any isIdentifierChar = false := by
  rw [NamesTell, List.forall_mem_append, Option.any_eq_false]
  refine and_congr ?_ ?_
  · refine forall₂_congr fun c hc => ?_
    rw [h.chars c hc, eq_comm]
  · refine forall_congr' fun c => ?_
    rw [Option.mem_toList]
    refine forall_congr' fun hc => ?_
    rw [h.behind c hc, eq_comm]

/-- A name is a whole identifier just if its characters tell. -/
theorem whole_iff (h : NameRun isName name line start) :
    (∀ c ∈ name, isIdentifierChar c = true) ∧ isWholeAt name line start = true ↔
      NamesTell isName name line start := by
  rw [h.tells_iff, isWholeAt, h.stands, h.before_false, Bool.not_false, Bool.true_and,
    Bool.true_and, Bool.not_eq_true']

/-- A name is the identifier at its own start just if its characters tell. -/
theorem identifierAt?_iff (h : NameRun isName name line start) :
    identifierAt? line (Text.unitsOf (line.take start)) = some name ↔
      NamesTell isName name line start := by
  obtain ⟨first, others, hname, hfirst, hdigit⟩ := h.first
  obtain ⟨rest, hrest⟩ := List.isPrefixOf_iff_prefix.mp h.stands
  have hne : name ≠ [] := by
    rw [hname]
    exact List.cons_ne_nil first others
  have hlt : start < line.length := lt_length_of_standsAt hne h.stands
  -- The column leads back to the place of the name, and no identifier comes up to it.
  have hoffset : offsetOf line (Text.unitsOf (line.take start)) = start := by
    have hplace := offsetOf_unitsOf (line.take start) (line.drop start)
    rwa [List.take_append_drop, List.length_take, Nat.min_eq_left hlt.le] at hplace
  have hbefore : (line.take start).reverse.takeWhile isIdentifierChar = [] := by
    rw [takeWhile_eq_nil, List.head?_reverse]
    exact h.before_false
  have hbehind : charBehind? line (start + name.length) = rest.head? := by
    rw [charBehind?, ← List.drop_drop, ← hrest, List.drop_left]
  -- So what is found is what the line goes on with, as long as that belongs to identifiers.
  rw [h.tells_iff, hbehind, ← takeWhile_append_eq_left]
  simp only [identifierAt?, hoffset, hbefore, List.reverse_nil, List.nil_append, ← hrest]
  constructor
  · intro hfound
    split at hfound
    · cases hfound
    · split at hfound
      · cases hfound
      · exact Option.some.inj hfound
  · intro hfound
    rw [hfound, hname]
    apply if_neg
    rw [hdigit]
    exact Bool.false_ne_true

end NameRun
namespace Scanner

/-- The name of a symbol stands in its line, which is one of a text, where its range says. -/
structure NameStands (language : Language) (text : String) (symbol : SymbolRecord)
    (name line : List Char) (start : Nat) : Prop where
  named : symbol.name = String.ofList name
  ofText : (Text.linesOf text.toList)[symbol.location.range.start.line.toNat]? = some line
  range : symbol.location.range =
    rangeIn symbol.location.range.start.line.toNat line start (start + name.length)
  run : NameRun language.isNameChar name line start

theorem exists_nameRun_of_declaration? {language : Language} {uri : String} {number : Nat}
    {symbol : SymbolRecord} (h : declaration? language.rules uri number line = some symbol) :
    ∃ name start, symbol.name = String.ofList name ∧
      symbol.location = ⟨uri, rangeIn number line start (start + name.length)⟩ ∧
        NameRun language.isNameChar name line start := by
  obtain ⟨rule, hrule, hfound⟩ := List.exists_of_findSome?_eq_some h
  obtain ⟨⟨start, stop⟩, hpiece, hsymbol⟩ := Option.bind_eq_some_iff.mp hfound
  cases hsymbol
  -- The form that was found is one of the language, and it was found at a place of the line.
  obtain ⟨cursor, hcursor, hplace⟩ := Pattern.exists_of_find? hpiece
  obtain ⟨hrun, hstop⟩ := (language.namesRun_rules rule hrule).of_pieceAt?
    (fun c => language.isNameChar_of_isSeparator) hcursor hplace
  exact ⟨_, start, rfl, by rw [← hstop], hrun⟩

theorem exists_nameStands {scanner : Scanner} {path : Path} {text : String} {symbol : SymbolRecord}
    (h : symbol ∈ scanner.symbolsIn path text) :
    ∃ name line start, NameStands scanner.language text symbol name line start := by
  unfold symbolsIn at h
  split at h
  · cases h
  next uri _ =>
    obtain ⟨⟨line, number⟩, hline, hdeclared⟩ := List.mem_filterMap.mp h
    obtain ⟨name, start, hname, hlocation, hrun⟩ := exists_nameRun_of_declaration? hdeclared
    obtain ⟨hfound, hnumber⟩ := of_mem_numbered hline
    have hrow : symbol.location.range.start.line.toNat = number := by
      rw [hlocation]
      exact UInt32.toNat_ofNat_of_lt' hnumber
    refine ⟨name, line, start, hname, ?_, ?_, hrun⟩
    · rw [hrow, hfound]
    · rw [hrow, hlocation]

theorem NameStands.identifierIn?_iff {language : Language} {text : String} {symbol : SymbolRecord}
    (h : NameStands language text symbol name line start)
    (hunits : Text.unitsOf (line.take start) < UInt32.size) :
    identifierIn? text symbol.location.range.start = some name ↔
      NamesTell language.isNameChar name line start := by
  have hcolumn : symbol.location.range.start.character.toNat = Text.unitsOf (line.take start) := by
    rw [h.range]
    exact UInt32.toNat_ofNat_of_lt' hunits
  rw [identifierIn?, h.ofText, ← h.run.identifierAt?_iff, ← hcolumn]
  rfl

/-- The name of every symbol of a document stands where its range says, as a run of characters of
    names behind something that belongs to no identifier. It is a whole identifier, and the
    identifier at its own start, just if these characters, and the one behind them, belong to names
    just if they belong to identifiers. ASCII characters do, but for a dollar sign in a language
    that does not know it. -/
theorem names_whole_iff (scanner : Scanner) (tree : Tree) (path : Path) (symbol : SymbolRecord)
    (h : symbol ∈ scanner.document tree path) :
    ∃ text name line start, tree.readText path = .ok text ∧
      NameStands scanner.language text symbol name line start ∧
      ((∀ c ∈ name, isIdentifierChar c = true) ∧ isWholeAt name line start = true ↔
        NamesTell scanner.language.isNameChar name line start) ∧
      (Text.unitsOf (line.take start) < UInt32.size →
        (identifierIn? text symbol.location.range.start = some name ↔
          NamesTell scanner.language.isNameChar name line start)) ∧
      ((∀ c ∈ name ++ (charBehind? line (start + name.length)).toList,
          c.toNat < 128 ∧ (c = '$' → scanner.language = .typescript)) →
        NamesTell scanner.language.isNameChar name line start) := by
  unfold document at h
  split at h
  next text hread =>
    obtain ⟨name, line, start, hstands⟩ := exists_nameStands h
    refine ⟨text, name, line, start, hread, hstands, hstands.run.whole_iff,
      hstands.identifierIn?_iff, fun hascii c hc => ?_⟩
    exact Language.isNameChar_of_ascii (hascii c hc).1 (hascii c hc).2
  · cases h

theorem names_whole_foo :
    ∃ symbol ∈ documentScanner.document (singleDocument "const foo = 1\n") "/ws/a.ts",
      identifierIn? "const foo = 1\n" symbol.location.range.start = some symbol.name.toList := by
  have hread : (singleDocument "const foo = 1\n").readText "/ws/a.ts" = .ok "const foo = 1\n" := by
    decide +kernel
  obtain ⟨symbol, hsymbol⟩ : ∃ symbol,
      symbol ∈ documentScanner.document (singleDocument "const foo = 1\n") "/ws/a.ts" :=
    List.exists_mem_of_ne_nil _ (by decide +kernel)
  obtain ⟨text, name, line, start, hread', hstands, -, htell, hascii⟩ :=
    names_whole_iff documentScanner _ _ symbol hsymbol
  obtain rfl : "const foo = 1\n" = text := Except.ok.inj (hread.symm.trans hread')
  have hlines : Text.linesOf "const foo = 1\n".toList =
      [['c', 'o', 'n', 's', 't', ' ', 'f', 'o', 'o', ' ', '=', ' ', '1']] := by decide +kernel
  have hline : line = ['c', 'o', 'n', 's', 't', ' ', 'f', 'o', 'o', ' ', '=', ' ', '1'] := by
    have hmem := List.mem_of_getElem? hstands.ofText
    rwa [hlines, List.mem_singleton] at hmem
  have hchars : ∀ c ∈ line, c.toNat < 128 ∧ c ≠ '$' := by
    rw [hline]
    simp
  have hunits : Text.unitsOf (line.take start) < UInt32.size := by
    have hwhole : Text.unitsOf line = 13 := by
      rw [hline]
      decide
    rw [← List.take_append_drop start line, Text.unitsOf_append] at hwhole
    exact Nat.lt_of_le_of_lt (Nat.le.intro hwhole) (by decide)
  refine ⟨symbol, hsymbol, ?_⟩
  rw [hstands.named, String.toList_ofList]
  refine (htell hunits).mpr (hascii fun c hc => ?_)
  have hmem : c ∈ line := by
    rcases List.mem_append.mp hc with hname | hbehind
    · have hahead := List.isPrefixOf_iff_prefix.mp hstands.run.stands
      exact List.mem_of_mem_drop (hahead.subset hname)
    · exact List.mem_of_mem_drop (List.mem_of_mem_head? (Option.mem_toList.mp hbehind))
  exact ⟨(hchars c hmem).1, fun hdollar => absurd hdollar (hchars c hmem).2⟩

/-- A name of Rust ends before a letter of another alphabet, and the identifier at its start goes
    on. -/
theorem not_forall_names_whole : ¬ ∀ (scanner : Scanner) tree path text,
    tree.readText path = .ok text → ∀ symbol ∈ scanner.document tree path,
      identifierIn? text symbol.location.range.start = some symbol.name.toList := by
  intro h
  have hread : (singleDocument "fn naïve() {}\n").readText "/ws/a.ts" = .ok "fn naïve() {}\n" := by
    decide +kernel
  have hsymbols : (⟨"/ws", .ofId "rust", ["ts"], {}⟩ : Scanner).document
      (singleDocument "fn naïve() {}\n") "/ws/a.ts" =
        [⟨"na", .function, ⟨"file:///ws/a.ts", ⟨⟨0, 3⟩, ⟨0, 5⟩⟩⟩, none, none⟩] := by
    decide +kernel
  have hunder : identifierIn? "fn naïve() {}\n" ⟨0, 3⟩ = some "naïve".toList := by decide +kernel
  have hclaimed := h _ _ _ _ hread _ (hsymbols ▸ List.mem_singleton_self _)
  rw [hunder] at hclaimed
  revert hclaimed
  decide

end Scanner

end SymbolSearch
