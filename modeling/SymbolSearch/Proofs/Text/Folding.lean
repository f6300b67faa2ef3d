import Mathlib.Data.List.Basic
import Mathlib.Data.List.Forall2
import SymbolSearch.Text.Lower

/-!
# Lower case in surroundings

A text is put in lower case as a whole, and what a capital sigma becomes depends on what stands
around it. So a piece of a text can have another form there than it has alone.

* `lowerText_eq_of_eqIgnoringAsciiCase` — the case of ASCII letters does not matter to the form of
  a text.
* `lowerWithin` — the form that a piece has between other texts.
* `SigmasKeep` — a piece has the same form everywhere; `sigmasKeep_iff` says that it is enough to
  look at it behind a letter and before one.
* `sigmasKeep_iff_forall` — these are just the pieces whose form is found in the form of every text
  that they are found in.
-/

namespace SymbolSearch.Text

/-! ### Characters in their surroundings -/

/-- Whether a sigma between two texts, the first one in reverse, ends a word. -/
def endsWord (before after : List Char) : Bool := casedAhead before && !casedAhead after

/-- The lower-case form of a character between two texts, the first one in reverse. -/
def lowerOne (before after : List Char) (c : Char) : List Char :=
  if c = 'Σ' then [if endsWord before after then 'ς' else 'σ']
  else if c = 'İ' then ['i', '\u0307']
  else [lowerChar c]

/-- The lower-case form of a piece between two texts, the first one in reverse. -/
def lowerWithin (before after : List Char) : List Char → List Char
  | [] => []
  | c :: rest => lowerOne before (rest ++ after) c ++ lowerWithin (c :: before) after rest

variable {before after before' after' piece : List Char}

theorem lowerFrom_cons (before : List Char) (c : Char) (rest : List Char) :
    lowerFrom before (c :: rest) = lowerOne before rest c ++ lowerFrom (c :: before) rest := rfl

theorem lowerWithin_nil (before piece : List Char) :
    lowerWithin before [] piece = lowerFrom before piece := by
  induction piece generalizing before with
  | nil => rfl
  | cons c rest ih => rw [lowerWithin, lowerFrom_cons, List.append_nil, ih]

/-- The form of a text is made up of the forms that its pieces have there. -/
theorem lowerFrom_append (before piece after : List Char) :
    lowerFrom before (piece ++ after) =
      lowerWithin before after piece ++ lowerFrom (piece.reverse ++ before) after := by
  induction piece generalizing before with
  | nil => rfl
  | cons c rest ih =>
    rw [List.cons_append, lowerFrom_cons, ih, lowerWithin, List.append_assoc, List.reverse_cons,
      List.append_assoc, List.singleton_append]

theorem casedAhead_cons (c : Char) (rest : List Char) :
    casedAhead (c :: rest) = if isCaseIgnorable c then casedAhead rest else isCased c := by
  rw [casedAhead, List.dropWhile_cons]
  cases isCaseIgnorable c with
  | true => rfl
  | false => rfl

/-- What stands behind a text matters only if nothing in the text does. -/
theorem casedAhead_append (front back : List Char) :
    casedAhead (front ++ back) =
      if front.all isCaseIgnorable then casedAhead back else casedAhead front := by
  induction front with
  | nil => rfl
  | cons c rest ih =>
    rw [List.cons_append, casedAhead_cons, casedAhead_cons, ih, List.all_cons]
    cases isCaseIgnorable c with
    | true => simp
    | false => simp

theorem casedAhead_of_all {front : List Char} (h : front.all isCaseIgnorable = true) :
    casedAhead front = false := by
  have happend := casedAhead_append front []
  rw [List.append_nil, if_pos h] at happend
  exact happend

/-! ### ASCII letters -/

/-- What holds of all ASCII capitals and their partners holds of every character. -/
theorem eq_of_capitals {α : Type} {f : Char → α}
    (h : ∀ code ∈ List.range' 65 26, f (Char.ofNat code).toLower = f (Char.ofNat code)) (c : Char) :
    f c.toLower = f c := by
  by_cases hcapital : c.val ≥ 'A'.val ∧ c.val ≤ 'Z'.val
  · have hcode : c.toNat ∈ List.range' 65 26 := by
      have hval : c.toNat = c.val.toNat := rfl
      simp only [ge_iff_le, UInt32.le_iff_toNat_le, Char.reduceVal, UInt32.reduceToNat] at hcapital
      rw [List.mem_range'_1]
      omega
    have hc := h _ hcode
    rwa [Char.ofNat_toNat] at hc
  · have hsame : c.toLower = c := dif_neg hcapital
    rw [hsame]

theorem asciiLower_asciiLower (text : String) :
    asciiLower (asciiLower text) = asciiLower text := by
  have htwice (c : Char) : c.toLower.toLower = c.toLower :=
    eq_of_capitals (f := Char.toLower) (by decide) c
  simp [asciiLower, Function.comp_def, htwice]

theorem isCased_toLower (c : Char) : isCased c.toLower = isCased c :=
  eq_of_capitals (f := isCased) (by decide) c

theorem isCaseIgnorable_toLower (c : Char) : isCaseIgnorable c.toLower = isCaseIgnorable c :=
  eq_of_capitals (f := isCaseIgnorable) (by decide) c

theorem casedAhead_map_toLower (cs : List Char) :
    casedAhead (cs.map Char.toLower) = casedAhead cs := by
  induction cs with
  | nil => rfl
  | cons c rest ih =>
    rw [List.map_cons, casedAhead_cons, casedAhead_cons, isCased_toLower, isCaseIgnorable_toLower,
      ih]

theorem lowerOne_toLower (before after : List Char) (c : Char) :
    lowerOne (before.map Char.toLower) (after.map Char.toLower) c.toLower =
      lowerOne before after c := by
  have hsigma : decide (c.toLower = 'Σ') = decide (c = 'Σ') :=
    eq_of_capitals (f := fun c => decide (c = 'Σ')) (by decide) c
  have hdotted : decide (c.toLower = 'İ') = decide (c = 'İ') :=
    eq_of_capitals (f := fun c => decide (c = 'İ')) (by decide) c
  have hlower : lowerChar c.toLower = lowerChar c := eq_of_capitals (f := lowerChar) (by decide) c
  rw [decide_eq_decide] at hsigma hdotted
  rw [lowerOne, lowerOne, endsWord, casedAhead_map_toLower, casedAhead_map_toLower, hlower]
  exact if_congr hsigma rfl (if_congr hdotted rfl rfl)

theorem lowerFrom_map_toLower (before piece : List Char) :
    lowerFrom (before.map Char.toLower) (piece.map Char.toLower) = lowerFrom before piece := by
  induction piece generalizing before with
  | nil => rfl
  | cons c rest ih =>
    rw [List.map_cons, lowerFrom_cons, lowerFrom_cons, lowerOne_toLower, ← List.map_cons, ih]

/-- The case of ASCII letters does not matter to the form of a text. -/
theorem lowerText_eq_of_eqIgnoringAsciiCase {a b : String} (h : eqIgnoringAsciiCase a b = true) :
    lowerText a = lowerText b := by
  have hmap : a.toList.map Char.toLower = b.toList.map Char.toLower :=
    String.ofList_injective (beq_iff_eq.mp h)
  rw [lowerText, lowerText, ← lowerFrom_map_toLower [] a.toList, hmap, lowerFrom_map_toLower]

/-! ### Sigmas -/

theorem length_lowerOne (before after : List Char) (c : Char) :
    (lowerOne before after c).length = if c = 'İ' then 2 else 1 := by
  unfold lowerOne
  split
  next hsigma =>
    rw [hsigma]
    rfl
  next =>
    split
    · rfl
    · rfl

theorem lowerOne_eq_iff {c : Char} :
    lowerOne before after c = lowerOne before' after' c ↔
      (c = 'Σ' → endsWord before after = endsWord before' after') := by
  unfold lowerOne
  by_cases hsigma : c = 'Σ'
  · simp only [hsigma, if_true, true_implies]
    cases endsWord before after <;> cases endsWord before' after' <;> decide
  · simp [hsigma]

/-- A piece has the same form in two places if its sigmas have. -/
theorem lowerWithin_eq_iff :
    lowerWithin before after piece = lowerWithin before' after' piece ↔
      ∀ front back, piece = front ++ 'Σ' :: back →
        endsWord (front.reverse ++ before) (back ++ after) =
          endsWord (front.reverse ++ before') (back ++ after') := by
  induction piece generalizing before before' with
  | nil =>
    refine ⟨fun _ front back h => ?_, fun _ => rfl⟩
    cases front <;> cases h
  | cons c rest ih =>
    rw [lowerWithin, lowerWithin]
    constructor
    · intro h front back hpiece
      have hlength : (lowerOne before (rest ++ after) c).length =
          (lowerOne before' (rest ++ after') c).length := by
        rw [length_lowerOne, length_lowerOne]
      obtain ⟨hone, hrest⟩ := List.append_inj h hlength
      cases front with
      | nil =>
        cases hpiece
        exact lowerOne_eq_iff.mp hone rfl
      | cons first front =>
        cases hpiece
        have hsigmas := ih.mp hrest front back rfl
        rwa [List.reverse_cons, List.append_assoc, List.append_assoc]
    · intro h
      have hone : lowerOne before (rest ++ after) c = lowerOne before' (rest ++ after') c := by
        refine lowerOne_eq_iff.mpr fun hc => h [] rest ?_
        rw [hc, List.nil_append]
      refine congrArg₂ (· ++ ·) hone (ih.mpr fun front back hrest => ?_)
      have hsigmas := h (c :: front) back (by rw [hrest]; rfl)
      rwa [List.reverse_cons, List.append_assoc, List.append_assoc] at hsigmas

/-- Whether a piece has the same form in all surroundings. -/
def SigmasKeep (piece : List Char) : Prop :=
  ∀ before after, lowerWithin before after piece = lowerFrom [] piece

/-- Without capital sigmas, surroundings do not matter. -/
theorem sigmasKeep_of_notMem (h : 'Σ' ∉ piece) : SigmasKeep piece := by
  intro before after
  rw [← lowerWithin_nil, lowerWithin_eq_iff]
  rintro front back rfl
  exact absurd (List.mem_append_right _ List.mem_cons_self) h

/-- If surroundings matter at all, a letter before the piece or behind it does. -/
theorem sigmasKeep_iff :
    SigmasKeep piece ↔ lowerWithin ['A'] [] piece = lowerFrom [] piece ∧
      lowerWithin [] ['A'] piece = lowerFrom [] piece := by
  refine ⟨fun h => ⟨h _ _, h _ _⟩, fun ⟨hbefore, hafter⟩ before after => ?_⟩
  rw [← lowerWithin_nil, lowerWithin_eq_iff] at hbefore hafter ⊢
  intro front back hpiece
  have hbefore := hbefore front back hpiece
  have hafter := hafter front back hpiece
  have hletter : casedAhead ['A'] = true := rfl
  simp only [endsWord, List.append_nil, casedAhead_append, hletter] at hbefore hafter ⊢
  cases hfront : front.reverse.all isCaseIgnorable with
  | true =>
    -- Behind a letter the sigma would end a word, unless a cased character follows in the piece.
    have hcased : casedAhead back = true := by
      simpa [hfront, casedAhead_of_all hfront] using hbefore
    have hback : back.all isCaseIgnorable = false := by
      rw [← Bool.not_eq_true]
      intro hback
      rw [casedAhead_of_all hback] at hcased
      cases hcased
    simp [hback, hcased]
  | false =>
    cases hback : back.all isCaseIgnorable with
    | true =>
      -- Before a letter it would not, so nothing cased comes before it in the piece.
      have hcased : casedAhead front.reverse = false := by
        simpa [hfront, hback, casedAhead_of_all hback] using hafter
      simp [hcased]
    | false => rfl

instance (piece : List Char) : Decidable (SigmasKeep piece) := decidable_of_iff' _ sigmasKeep_iff

/-! ### Pieces of texts -/

/-- The form of a piece is found in the form of a text if the piece has its own form there. -/
theorem lowerFrom_isInfix {front back : List Char}
    (h : lowerWithin front.reverse back piece = lowerFrom [] piece) :
    lowerFrom [] piece <:+: lowerFrom [] (front ++ piece ++ back) := by
  refine ⟨lowerWithin [] (piece ++ back) front, lowerFrom (piece.reverse ++ front.reverse) back, ?_⟩
  rw [List.append_assoc front, lowerFrom_append, lowerFrom_append, List.append_nil, h,
    List.append_assoc]

/-- Wherever it stands, a piece has the same letters in its form, but for the sigmas. -/
theorem forall₂_lowerWithin (before after before' after' piece : List Char) :
    List.Forall₂ (fun c d => c = 'a' ↔ d = 'a') (lowerWithin before after piece)
      (lowerWithin before' after' piece) := by
  induction piece generalizing before before' with
  | nil => exact .nil
  | cons c rest ih =>
    refine List.rel_append ?_ (ih _ _)
    by_cases hsigma : c = 'Σ'
    · simp only [lowerOne, hsigma, if_true]
      cases endsWord before (rest ++ after) <;> cases endsWord before' (rest ++ after') <;> simp
    · rw [lowerOne_eq_iff.mpr fun hc => absurd hc hsigma]
      exact List.forall₂_same.mpr fun _ _ => Iff.rfl

/-- Two lists that have a symbol in the same places are equal if one of them comes to the other
    moved on by that symbol: then both are made of nothing else. -/
theorem eq_of_append_eq_cons {c x : Char} {form other : List Char}
    (h : List.Forall₂ (fun d e => d = c ↔ e = c) form other) (hmoved : form ++ [x] = c :: other) :
    form = other := by
  induction h with
  | nil => rfl
  | @cons d e form other hsame _ ih =>
    obtain ⟨hd, hrest⟩ := List.cons_eq_cons.mp hmoved
    have he : e = c := hsame.mp hd
    have hrest : form ++ [x] = c :: other := by
      rw [← he]
      exact hrest
    rw [ih hrest, hd, he]

theorem eq_of_isInfix_cons {c : Char} {form other : List Char}
    (h : List.Forall₂ (fun d e => d = c ↔ e = c) form other) (hinside : form <:+: c :: other) :
    form = other := by
  obtain ⟨front, back, hparts⟩ := hinside
  have hlength := congrArg List.length hparts
  simp only [List.length_append, List.length_cons, h.length_eq] at hlength
  -- One symbol is left, either before the list or behind it.
  cases front with
  | nil =>
    obtain ⟨x, rfl⟩ : ∃ x, back = [x] := List.length_eq_one_iff.mp (by
      rw [List.length_nil] at hlength
      omega)
    exact eq_of_append_eq_cons h hparts
  | cons first front =>
    rw [List.length_cons] at hlength
    obtain rfl : front = [] := List.length_eq_zero_iff.mp (by omega)
    obtain rfl : back = [] := List.length_eq_zero_iff.mp (by omega)
    rw [List.append_nil] at hparts
    exact (List.cons_eq_cons.mp hparts).2

/-- The pieces that have the same form everywhere are just those whose form is found in the form of
    every text that they are found in. -/
theorem sigmasKeep_iff_forall :
    SigmasKeep piece ↔ ∀ text, piece <:+: text → lowerFrom [] piece <:+: lowerFrom [] text := by
  constructor
  · rintro h text ⟨front, back, rfl⟩
    exact lowerFrom_isInfix (h _ _)
  · intro h
    have hsame (before after : List Char) :
        List.Forall₂ (fun c d => c = 'a' ↔ d = 'a') (lowerFrom [] piece)
          (lowerWithin before after piece) := by
      rw [← lowerWithin_nil]
      exact forall₂_lowerWithin _ _ _ _ _
    refine sigmasKeep_iff.mpr ⟨?behindLetter, ?beforeLetter⟩
    case behindLetter =>
      have hinside := h ('A' :: piece) (List.suffix_cons _ _).isInfix
      rw [lowerFrom_cons, ← lowerWithin_nil ['A']] at hinside
      exact (eq_of_isInfix_cons (hsame _ _) hinside).symm
    case beforeLetter =>
      have hinside := h (piece ++ ['A']) (List.prefix_append _ _).isInfix
      rw [lowerFrom_append, ← List.reverse_infix, List.reverse_append] at hinside
      have hreverse := eq_of_isInfix_cons (List.forall₂_reverse_iff.mpr (hsame [] ['A'])) hinside
      exact (List.reverse_injective hreverse).symm

/-! ### Searching -/

theorem occursIn_iff {part whole : List Char} : occursIn part whole = true ↔ part <:+: whole := by
  induction whole with
  | nil => rw [occursIn, List.isEmpty_iff, List.infix_nil]
  | cons c rest ih =>
    rw [occursIn, Bool.or_eq_true, ih, List.isPrefixOf_iff_prefix, List.infix_cons_iff]

end SymbolSearch.Text
