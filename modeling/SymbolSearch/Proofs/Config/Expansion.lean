import Mathlib.Data.List.Basic
import SymbolSearch.Config.Basic
import SymbolSearch.Proofs.Text.Kept

/-!
# References to the environment

A text with references to variables is read once, from left to right, whatever the variables are;
the references are then replaced where they stand.

* `Environment.Reads` — how a text falls into pieces: characters that stand for themselves, and
  references.
* `Environment.Reads.unique` and `Environment.exists_reads` — there is exactly one way to read a
  text.
* `Environment.valueOf_ofBytes` — what a reference stands for, if the values are bytes.
* `Environment.expand_reads` — what a text is replaced by: what its pieces stand for, one after the
  other. What a reference stands for is never read.
-/

namespace SymbolSearch.Environment

/-- A piece of a text: characters that stand for themselves, or a reference to a variable. -/
inductive Piece where
  | plain (text : List Char)
  | reference (name : List Char)

/-- What begins a reference. -/
def opening : List Char := ['$', '\x7b']

/-- A text falls into pieces. -/
inductive Reads : List Char → List Piece → Prop where
  /-- Nothing begins a reference. -/
  | plain (text : List Char) (plain : ¬opening <:+: text) : Reads text [.plain text]
  | reference (before name rest : List Char) (pieces : List Piece) (first : ¬opening <:+: before)
      (named : name ≠ []) (closed : '\x7d' ∉ name) (reads : Reads rest pieces) :
      Reads (before ++ (opening ++ (name ++ '\x7d' :: rest)))
        (.plain before :: .reference name :: pieces)
  /-- A reference without a name stands for itself. -/
  | unnamed (before rest : List Char) (pieces : List Piece) (first : ¬opening <:+: before)
      (reads : Reads rest pieces) :
      Reads (before ++ (opening ++ '\x7d' :: rest))
        (.plain (before ++ (opening ++ ['\x7d'])) :: pieces)
  /-- What looks like a reference but has no end stands for itself, with all that follows. -/
  | endless (before rest : List Char) (first : ¬opening <:+: before) (endless : '\x7d' ∉ rest) :
      Reads (before ++ (opening ++ rest)) [.plain (before ++ (opening ++ rest))]

/-! ### There is one way to read a text -/

section Opening

variable {before before' after after' : List Char}

/-- A text that begins a reference has a first place where it does. -/
theorem exists_first_opening {text : List Char} (h : opening <:+: text) :
    ∃ before after, text = before ++ (opening ++ after) ∧ ¬opening <:+: before := by
  induction text with
  | nil => exact absurd (List.infix_nil.mp h) nofun
  | cons c text ih =>
    by_cases hhere : opening <+: c :: text
    · obtain ⟨after, hafter⟩ := hhere
      exact ⟨[], after, hafter.symm, fun hnil => absurd (List.infix_nil.mp hnil) nofun⟩
    · obtain ⟨before, after, rfl, hfirst⟩ := ih ((List.infix_cons_iff.mp h).resolve_left hhere)
      refine ⟨c :: before, after, rfl, fun hinfix => ?_⟩
      rcases List.infix_cons_iff.mp hinfix with hbegins | hinfix
      · exact hhere (hbegins.trans (List.prefix_append (c :: before) _))
      · exact hfirst hinfix

/-- Of two places where a reference begins, the one that comes later is not the first. -/
theorem eq_of_opening_eq (heq : before ++ (opening ++ after) = before' ++ (opening ++ after'))
    (hfirst' : ¬opening <:+: before') (hle : before.length ≤ before'.length) :
    before = before' ∧ after = after' := by
  obtain ⟨between, rfl, hrest⟩ | ⟨between, rfl, hrest⟩ := List.append_eq_append_iff.mp heq
  · -- What lies between the two places is nothing, or begins with a reference.
    match between, hrest with
    | [], hrest => exact ⟨(List.append_nil _).symm, List.append_cancel_left hrest⟩
    | [c], hrest => exact absurd (List.cons.inj (List.cons.inj hrest).2).1 (by decide)
    | c :: d :: between, hrest =>
      obtain ⟨hc, hrest⟩ := List.cons.inj hrest
      obtain ⟨hd, -⟩ := List.cons.inj hrest
      exact absurd ⟨before, between, by simp [opening, ← hc, ← hd]⟩ hfirst'
  · have hnil : between = [] := by
      rw [List.length_append] at hle
      exact List.eq_nil_of_length_eq_zero (by omega)
    subst hnil
    exact ⟨List.append_nil _, (List.append_cancel_left hrest).symm⟩

theorem opening_inj (hfirst : ¬opening <:+: before) (hfirst' : ¬opening <:+: before') :
    before ++ (opening ++ after) = before' ++ (opening ++ after') ↔
      before = before' ∧ after = after' := by
  constructor
  · intro heq
    rcases Nat.le_total before.length before'.length with hle | hle
    · exact eq_of_opening_eq heq hfirst' hle
    · exact (eq_of_opening_eq heq.symm hfirst hle).imp Eq.symm Eq.symm
  · rintro ⟨rfl, rfl⟩
    rfl

end Opening

theorem ne_closing {name : List Char} (h : '\x7d' ∉ name) :
    ∀ c ∈ name, decide (c ≠ '\x7d') = true := by
  intro c hc
  rw [decide_eq_true_eq]
  rintro rfl
  exact h hc

/-- A name ends where something closes it. -/
theorem takeWhile_closed {name : List Char} (h : '\x7d' ∉ name) (rest : List Char) :
    (name ++ '\x7d' :: rest).takeWhile (· ≠ '\x7d') = name ∧
      (name ++ '\x7d' :: rest).dropWhile (· ≠ '\x7d') = '\x7d' :: rest := by
  rw [List.takeWhile_append_of_pos (ne_closing h), List.dropWhile_append_of_pos (ne_closing h)]
  simp

theorem closed_inj {name name' rest rest' : List Char} (h : '\x7d' ∉ name) (h' : '\x7d' ∉ name') :
    name ++ '\x7d' :: rest = name' ++ '\x7d' :: rest' ↔ name = name' ∧ rest = rest' := by
  constructor
  · intro heq
    obtain ⟨hname, hrest⟩ := takeWhile_closed h rest
    obtain ⟨hname', hrest'⟩ := takeWhile_closed h' rest'
    rw [heq] at hname hrest
    exact ⟨hname.symm.trans hname', (List.cons.inj (hrest.symm.trans hrest')).2⟩
  · rintro ⟨rfl, rfl⟩
    rfl

namespace Reads

variable {text before after name rest : List Char} {pieces pieces' : List Piece}

/-- A text in which no reference begins is one piece. -/
theorem eq_of_plain (h : Reads text pieces) (hplain : ¬opening <:+: text) :
    pieces = [.plain text] := by
  cases h with
  | plain => rfl
  | reference before name rest | unnamed before rest | endless before rest =>
    exact absurd ⟨before, _, List.append_assoc ..⟩ hplain

/-- What follows the first place where a reference begins decides how the text is read. -/
theorem cases_of_opening (h : Reads (before ++ (opening ++ after)) pieces)
    (hfirst : ¬opening <:+: before) :
    (∃ name rest pieces', after = name ++ '\x7d' :: rest ∧ name ≠ [] ∧ '\x7d' ∉ name ∧
        Reads rest pieces' ∧ pieces = .plain before :: .reference name :: pieces') ∨
      (∃ rest pieces', after = '\x7d' :: rest ∧ Reads rest pieces' ∧
        pieces = .plain (before ++ (opening ++ ['\x7d'])) :: pieces') ∨
      '\x7d' ∉ after ∧ pieces = [.plain (before ++ (opening ++ after))] := by
  generalize htext : before ++ (opening ++ after) = text at h
  cases h with
  | plain _ hplain => exact absurd ⟨before, after, by simp [← htext]⟩ hplain
  | reference before' name rest pieces first named closed reads =>
    obtain ⟨rfl, rfl⟩ := (opening_inj hfirst first).mp htext
    exact .inl ⟨name, rest, pieces, rfl, named, closed, reads, rfl⟩
  | unnamed before' rest pieces first reads =>
    obtain ⟨rfl, rfl⟩ := (opening_inj hfirst first).mp htext
    exact .inr (.inl ⟨rest, pieces, rfl, reads, rfl⟩)
  | endless before' rest first endless =>
    obtain ⟨rfl, rfl⟩ := (opening_inj hfirst first).mp htext
    exact .inr (.inr ⟨endless, rfl⟩)

/-- There is at most one way to read a text. -/
theorem unique (h : Reads text pieces) (h' : Reads text pieces') : pieces = pieces' := by
  induction h generalizing pieces' with
  | plain text plain => exact (h'.eq_of_plain plain).symm
  | reference before name rest pieces first named closed reads ih =>
    rcases h'.cases_of_opening first with
      ⟨name', rest', pieces', hafter, -, closed', reads', rfl⟩ | ⟨rest', pieces', hafter, -, rfl⟩ |
      ⟨hendless, -⟩
    · obtain ⟨rfl, rfl⟩ := (closed_inj closed closed').mp hafter
      rw [ih reads']
    · -- A name that is not empty does not begin with what closes it.
      cases name with
      | nil => exact absurd rfl named
      | cons c name => exact absurd ((List.cons.inj hafter).1 ▸ List.mem_cons_self) closed
    · exact absurd (List.mem_append_right _ List.mem_cons_self) hendless
  | unnamed before rest pieces first reads ih =>
    rcases h'.cases_of_opening first with
      ⟨name', rest', pieces', hafter, named', closed', -, -⟩ |
      ⟨rest', pieces', hafter, reads', rfl⟩ | ⟨hendless, -⟩
    · cases name' with
      | nil => exact absurd rfl named'
      | cons c name' => exact absurd ((List.cons.inj hafter).1 ▸ List.mem_cons_self) closed'
    · rw [ih ((List.cons.inj hafter).2 ▸ reads')]
    · exact absurd List.mem_cons_self hendless
  | endless before rest first endless =>
    rcases h'.cases_of_opening first with
      ⟨name', rest', pieces', rfl, -, -, -, -⟩ | ⟨rest', pieces', rfl, -, -⟩ | ⟨-, rfl⟩
    · exact absurd (List.mem_append_right _ List.mem_cons_self) endless
    · exact absurd List.mem_cons_self endless
    · rfl

end Reads

/-- Every text can be read. -/
theorem exists_reads (text : List Char) : ∃ pieces, Reads text pieces := by
  induction hlength : text.length using Nat.strongRecOn generalizing text with
  | ind length ih =>
    by_cases hopens : opening <:+: text
    · obtain ⟨before, after, rfl, hfirst⟩ := exists_first_opening hopens
      by_cases hclosed : '\x7d' ∈ after
      · obtain ⟨name, rest, rfl, hname⟩ := List.eq_append_cons_of_mem hclosed
        obtain ⟨pieces, hreads⟩ := ih rest.length (by simp [← hlength]; omega) rest rfl
        cases name with
        | nil => exact ⟨_, .unnamed before rest pieces hfirst hreads⟩
        | cons c name =>
          exact ⟨_, .reference before (c :: name) rest pieces hfirst nofun hname hreads⟩
      · exact ⟨_, .endless before after hfirst hclosed⟩
    · exact ⟨_, .plain text hopens⟩

/-! ### What variables stand for -/

/-- What a piece stands for. -/
def Piece.meaning (valueOf : List Char → List Char) : Piece → List Char
  | .plain text => text
  | .reference name => valueOf name

/-- The value of a variable, where all values are bytes: nothing if the variable is not set, or its
    value is not text. -/
def textOf (bindings : List (ByteArray × ByteArray)) (name : List Char) : List Char :=
  match bindings.find? (·.1.data = (String.ofList name).toUTF8.data) with
  | some (_, value) => ((Text.decodeStrict value).getD "").toList
  | none => []

theorem valueOf_ofBytes (bindings : List (ByteArray × ByteArray)) (name : List Char) :
    (ofBytes bindings).valueOf name = textOf bindings name := by
  induction bindings with
  | nil => rfl
  | cons binding bindings ih =>
    obtain ⟨key, value⟩ := binding
    by_cases hkey : key = (String.ofList name).toUTF8
    · have hdecode := decodeStrict_eq_some_iff.mpr hkey
      have hfound : ofBytes ((key, value) :: bindings) =
          (String.ofList name, (Text.decodeStrict value).getD "") :: ofBytes bindings :=
        List.filterMap_cons_some (by simp only [hdecode, Option.map_some])
      rw [valueOf, hfound, List.lookup_cons_self, textOf,
        List.find?_cons_of_pos (by simp only [hkey, decide_true])]
      rfl
    · have hother : textOf ((key, value) :: bindings) name = textOf bindings name := by
        have hdata : key.data ≠ (String.ofList name).toUTF8.data :=
          fun heq => hkey (ByteArray.ext heq)
        rw [textOf, List.find?_cons_of_neg (by simpa only [decide_eq_true_eq] using hdata), textOf]
      rw [hother, ← ih]
      cases hdecode : Text.decodeStrict key with
      | none =>
        rw [ofBytes, List.filterMap_cons_none (by simp only [hdecode, Option.map_none]), ← ofBytes]
      | some other =>
        have hne : (String.ofList name == other) = false := by
          rw [beq_eq_false_iff_ne]
          rintro rfl
          exact hkey (decodeStrict_eq_some_iff.mp hdecode)
        have hfound : ofBytes ((key, value) :: bindings) =
            (other, (Text.decodeStrict value).getD "") :: ofBytes bindings :=
          List.filterMap_cons_some (by simp only [hdecode, Option.map_some])
        rw [valueOf, hfound, List.lookup_cons, hne, valueOf]

/-- Any values that are text come from bytes. -/
theorem ofBytes_toUTF8 (environment : Environment) :
    ofBytes (environment.map fun (name, value) => (name.toUTF8, value.toUTF8)) = environment := by
  simp only [ofBytes, List.filterMap_map, Function.comp_def, decodeStrict_toUTF8, Option.map_some,
    Option.getD_some]
  exact List.filterMap_some

/-! ### Replacing references -/

section Expansion

variable {environment : Environment} {before after text rest name : List Char}
  {pieces : List Piece}

/-- Where no reference begins, everything stays as it is. -/
theorem expandChars_append (hplain : ¬opening <:+: before) (hafter : after.head? ≠ some '\x7b') :
    expandChars environment (before ++ after) = before ++ expandChars environment after := by
  induction before with
  | nil => rfl
  | cons c before ih =>
    have hrest : ¬opening <:+: before := fun hinfix => hplain (List.infix_cons hinfix)
    have hclosed (others : List Char) (hc : c = '$')
        (hothers : before ++ after = '\x7b' :: others) : False := by
      cases before with
      | nil => exact hafter (by rw [← List.nil_append after, hothers]; rfl)
      | cons d before =>
        obtain ⟨rfl, -⟩ := List.cons.inj hothers
        exact hplain (hc ▸ (List.prefix_append opening before).isInfix)
    rw [List.cons_append, expandChars, ih hrest, List.cons_append]
    exact hclosed

theorem expandChars_reference (named : name ≠ []) (closed : '\x7d' ∉ name) :
    expandChars environment (opening ++ (name ++ '\x7d' :: rest)) =
      environment.valueOf name ++ expandChars environment rest := by
  obtain ⟨hname, hrest⟩ := takeWhile_closed closed rest
  show expandChars environment ('$' :: '\x7b' :: (name ++ '\x7d' :: rest)) = _
  rw [expandChars]
  split
  next hnil => exact absurd (hrest.symm.trans hnil) (List.cons_ne_nil _ _)
  next c after hafter =>
    obtain rfl := (List.cons.inj (hrest.symm.trans hafter)).2
    -- The name may stand in the match only once it is known not to be empty.
    obtain ⟨d, others, rfl⟩ := List.exists_cons_of_ne_nil named
    rw [hname]

theorem expandChars_unnamed :
    expandChars environment (opening ++ '\x7d' :: rest) =
      opening ++ '\x7d' :: expandChars environment rest := by
  obtain ⟨hname, hrest⟩ := takeWhile_closed (List.not_mem_nil (a := '\x7d')) rest
  show expandChars environment ('$' :: '\x7b' :: '\x7d' :: rest) = _
  rw [expandChars]
  split
  next hnil => exact absurd (hrest.symm.trans hnil) (List.cons_ne_nil _ _)
  next c after hafter =>
    obtain rfl := (List.cons.inj (hrest.symm.trans hafter)).2
    rw [show ('\x7d' :: rest).takeWhile _ = [] from hname]
    rfl

theorem expandChars_endless (endless : '\x7d' ∉ rest) :
    expandChars environment (opening ++ rest) = opening ++ rest := by
  have hnil : rest.dropWhile (· ≠ '\x7d') = [] := by
    rw [← List.append_nil rest, List.dropWhile_append_of_pos (ne_closing endless)]
    rfl
  show expandChars environment ('$' :: '\x7b' :: rest) = _
  rw [expandChars]
  split
  · rfl
  next c after hafter => exact absurd (hafter.symm.trans hnil) (List.cons_ne_nil _ _)

theorem expandChars_reads (h : Reads text pieces) :
    expandChars environment text = pieces.flatMap (Piece.meaning environment.valueOf) := by
  have hopening (after : List Char) : (opening ++ after).head? ≠ some '\x7b' := by
    simp [opening]
  induction h with
  | plain text plain =>
    have hcopied : expandChars environment (text ++ []) = text ++ expandChars environment [] :=
      expandChars_append plain nofun
    rw [List.append_nil, expandChars, List.append_nil] at hcopied
    rw [hcopied]
    simp [Piece.meaning]
  | reference before name rest pieces first named closed reads ih =>
    rw [expandChars_append first (hopening _), expandChars_reference named closed, ih]
    rfl
  | unnamed before rest pieces first reads ih =>
    rw [expandChars_append first (hopening _), expandChars_unnamed, ih]
    simp [Piece.meaning]
  | endless before rest first endless =>
    rw [expandChars_append first (hopening _), expandChars_endless endless]
    simp [Piece.meaning]

/-- Every text falls into pieces in one way, whatever the variables are, and is replaced by what its
    pieces stand for. -/
theorem expand_reads (text : String) :
    ∃ pieces, (∀ pieces', Reads text.toList pieces' ↔ pieces' = pieces) ∧
      ∀ bindings, (ofBytes bindings).expand text =
        String.ofList (pieces.flatMap (Piece.meaning (textOf bindings))) := by
  obtain ⟨pieces, hreads⟩ := exists_reads text.toList
  refine ⟨pieces, fun pieces' => ⟨fun hreads' => hreads'.unique hreads, ?_⟩, fun bindings => ?_⟩
  · rintro rfl
    exact hreads
  · have hvalue : (ofBytes bindings).valueOf = textOf bindings :=
      funext (valueOf_ofBytes bindings)
    rw [expand, expandChars_reads hreads, hvalue]

/-- A value that looks like the start of a reference is no part of one. -/
example : expand [("X", "$\x7b"), ("Y", "no")] "$\x7bX\x7dY\x7d" = "$\x7bY\x7d" := by
  decide +kernel

end Expansion
end SymbolSearch.Environment
