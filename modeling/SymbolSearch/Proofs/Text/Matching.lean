import Mathlib.Data.List.Basic
import SymbolSearch.Text.Pattern

/-!
# What patterns match

The search for a match tries one way after the other, and hands every place where a pattern can end
to what comes behind it. Which places these are can be said without the order of the tries.

* `Pattern.Matches` — a pattern leads from one place to another; `exists_of_run` says that the
  search finds nothing else.
* `Pattern.Leaves` and `Pattern.Keeps` — behind a match, the symbol before the place is of some
  kind.
* `Pattern.Opens` and `Pattern.Passes` — a match begins with a symbol of some kind.
* `exists_of_run_named` — a named piece with a greedy loop in it goes on as far as what comes behind
  it lets it.
* `exists_of_find?` — what is found in a list is found at a place of it.
-/

namespace SymbolSearch.Text

/-! ### Places -/

namespace Cursor

variable {σ : Type} {symbols : List σ} {cursor : Cursor σ}

/-- The cursor is a place of a list of symbols. -/
structure On (symbols : List σ) (cursor : Cursor σ) : Prop where
  before : cursor.before = (symbols.take cursor.position).getLast?
  rest : cursor.rest = symbols.drop cursor.position
  within : cursor.position ≤ symbols.length

/-- The cursor behind some more symbols. -/
def past (cursor : Cursor σ) (taken rest : List σ) : Cursor σ :=
  { cursor with
    before := taken.getLast?.or cursor.before
    rest := rest
    position := cursor.position + taken.length }

theorem On.past (h : cursor.On symbols) {taken rest : List σ}
    (hrest : cursor.rest = taken ++ rest) : (cursor.past taken rest).On symbols := by
  have hdrop : symbols.drop cursor.position = taken ++ rest := h.rest.symm.trans hrest
  have hsymbols : symbols.take (cursor.position + taken.length) =
      symbols.take cursor.position ++ taken := by
    rw [List.take_add, hdrop, List.take_left]
  refine ⟨?_, ?_, ?_⟩
  · show taken.getLast?.or cursor.before = (symbols.take (cursor.position + taken.length)).getLast?
    rw [hsymbols, List.getLast?_append, h.before]
  · show rest = symbols.drop (cursor.position + taken.length)
    rw [← List.drop_drop, hdrop, List.drop_left]
  · have hlength := congrArg List.length hdrop
    rw [List.length_drop, List.length_append] at hlength
    show cursor.position + taken.length ≤ symbols.length
    have := h.within
    omega

end Cursor

namespace Pattern

/-! ### Matches -/

/-- The pattern leads from one place to another. -/
inductive Matches {σ : Type} : Pattern σ → Cursor σ → Cursor σ → Prop where
  | nothing {a : Cursor σ} : Matches .nothing a a
  | one {test : σ → Bool} {a : Cursor σ} {symbol : σ} {rest : List σ}
      (hrest : a.rest = symbol :: rest) (h : test symbol = true) :
      Matches (.one test) a ⟨some symbol, rest, a.position + 1, a.piece⟩
  | between {test : Option σ → Option σ → Bool} {a : Cursor σ}
      (h : test a.before a.rest.head? = true) : Matches (.between test) a a
  | seq {first second : Pattern σ} {a b c : Cursor σ} (h : Matches first a b)
      (h' : Matches second b c) : Matches (.seq first second) a c
  | left {first second : Pattern σ} {a b : Cursor σ} (h : Matches first a b) :
      Matches (.either first second) a b
  | right {first second : Pattern σ} {a b : Cursor σ} (h : Matches second a b) :
      Matches (.either first second) a b
  | done {greedy : Bool} {body : Pattern σ} {a : Cursor σ} : Matches (.many greedy body) a a
  | again {greedy : Bool} {body : Pattern σ} {a b c : Cursor σ} (h : Matches body a b)
      (h' : Matches (.many greedy body) b c) : Matches (.many greedy body) a c
  | named {body : Pattern σ} {a b : Cursor σ} (h : Matches body a b) :
      Matches (.named body) a { b with piece := some (a.position, b.position) }

variable {σ α : Type} {pattern first second body : Pattern σ} {a b c cursor : Cursor σ}
  {test : σ → Bool} {next : Cursor σ → Option α} {result : α} {greedy : Bool}

/-- A loop finds nothing but what the body leads to, any number of times. -/
theorem exists_of_repeatBody
    (hbody : ∀ {cursor : Cursor σ} {next : Cursor σ → Option α},
      body.run cursor next = some result →
        ∃ after, body.Matches cursor after ∧ next after = some result) (fuel : Nat)
    (h : repeatBody (fun cursor next => body.run cursor next) greedy fuel cursor next =
      some result) :
    ∃ after, (many greedy body).Matches cursor after ∧ next after = some result := by
  induction fuel generalizing cursor with
  | zero => exact ⟨cursor, .done, h⟩
  | succ fuel ih =>
    have hagain (h : (body.run cursor fun after =>
        if cursor.position < after.position then
          repeatBody (fun cursor next => body.run cursor next) greedy fuel after next
        else none) = some result) :
        ∃ after, (many greedy body).Matches cursor after ∧ next after = some result := by
      obtain ⟨middle, hfirst, hrest⟩ := hbody h
      split at hrest
      · obtain ⟨after, hmore, hnext⟩ := ih hrest
        exact ⟨after, .again hfirst hmore, hnext⟩
      · cases hrest
    rw [repeatBody] at h
    cases greedy with
    | true =>
      simp only [if_true] at h
      split at h
      next found hfound =>
        cases h
        exact hagain hfound
      next => exact ⟨cursor, .done, h⟩
    | false =>
      simp only [Bool.false_eq_true, if_false] at h
      split at h
      next found hfound =>
        cases h
        exact ⟨cursor, .done, hfound⟩
      next => exact hagain h

/-- The search finds nothing but matches. -/
theorem exists_of_run (h : pattern.run cursor next = some result) :
    ∃ after, pattern.Matches cursor after ∧ next after = some result := by
  induction pattern generalizing cursor next with
  | nothing => exact ⟨cursor, .nothing, h⟩
  | one test =>
    rw [run] at h
    split at h
    · cases h
    next symbol rest hrest =>
      obtain ⟨htest, hnext⟩ := Option.ite_none_right_eq_some.mp h
      exact ⟨_, .one hrest htest, hnext⟩
  | between test =>
    rw [run] at h
    obtain ⟨htest, hnext⟩ := Option.ite_none_right_eq_some.mp h
    exact ⟨cursor, .between htest, hnext⟩
  | seq first second ihfirst ihsecond =>
    rw [run] at h
    obtain ⟨middle, hfirst, hmiddle⟩ := ihfirst h
    obtain ⟨after, hsecond, hnext⟩ := ihsecond hmiddle
    exact ⟨after, .seq hfirst hsecond, hnext⟩
  | either first second ihfirst ihsecond =>
    rw [run] at h
    split at h
    next found hfound =>
      cases h
      obtain ⟨after, hfirst, hnext⟩ := ihfirst hfound
      exact ⟨after, .left hfirst, hnext⟩
    next =>
      obtain ⟨after, hsecond, hnext⟩ := ihsecond h
      exact ⟨after, .right hsecond, hnext⟩
  | many greedy body ih => exact exists_of_repeatBody ih _ h
  | named body ih =>
    rw [run] at h
    obtain ⟨after, hbody, hnext⟩ := ih h
    exact ⟨_, .named hbody, hnext⟩

/-- Matches stay within the list. -/
theorem Matches.on {symbols : List σ} (h : pattern.Matches a b) (ha : a.On symbols) :
    b.On symbols := by
  induction h with
  | nothing | between | done => exact ha
  | @one _ _ symbol rest hrest _ =>
    have hcons : _ = [symbol] ++ rest := hrest
    exact ha.past hcons
  | seq _ _ ih ih' | again _ _ ih ih' => exact ih' (ih ha)
  | left _ ih | right _ ih => exact ih ha
  | named _ ih => exact ⟨(ih ha).before, (ih ha).rest, (ih ha).within⟩

/-- Patterns one after the other are tried one after the other. -/
theorem run_sequence_append (front back : List (Pattern σ)) (cursor : Cursor σ)
    (next : Cursor σ → Option α) :
    (sequence (front ++ back)).run cursor next =
      (sequence front).run cursor fun middle => (sequence back).run middle next := by
  induction front generalizing cursor next with
  | nil => rfl
  | cons pattern front ih =>
    show (pattern.run cursor fun middle => (sequence (front ++ back)).run middle next) = _
    simp only [ih]
    rfl

/-! ### What stands before the end of a match -/

section Edges

variable {edge : Option σ → Prop}

/-- Behind a match, the symbol before the place is of some kind. -/
def Leaves (edge : Option σ → Prop) (pattern : Pattern σ) : Prop :=
  ∀ a b : Cursor σ, pattern.Matches a b → edge b.before

/-- It still is behind a match if it was before. -/
def Keeps (edge : Option σ → Prop) (pattern : Pattern σ) : Prop :=
  ∀ a b : Cursor σ, pattern.Matches a b → edge a.before → edge b.before

theorem Leaves.keeps (h : pattern.Leaves edge) : pattern.Keeps edge :=
  fun a b hmatch _ => h a b hmatch

theorem keeps_nothing : (Pattern.nothing : Pattern σ).Keeps edge := by
  intro a b h ha
  cases h
  exact ha

theorem leaves_one (h : ∀ symbol, test symbol = true → edge (some symbol)) :
    (one test).Leaves edge := by
  intro a b hmatch
  cases hmatch with
  | one _ htest => exact h _ htest

theorem Leaves.seq (h : second.Leaves edge) (first : Pattern σ) :
    (seq first second).Leaves edge := by
  intro a b hmatch
  cases hmatch with
  | seq _ hsecond => exact h _ _ hsecond

theorem Leaves.seq_keeps (h : first.Leaves edge) (h' : second.Keeps edge) :
    (Pattern.seq first second).Leaves edge := by
  intro a b hmatch
  cases hmatch with
  | seq hfirst hsecond => exact h' _ _ hsecond (h _ _ hfirst)

theorem Keeps.seq (h : first.Keeps edge) (h' : second.Keeps edge) :
    (Pattern.seq first second).Keeps edge := by
  intro a b hmatch ha
  cases hmatch with
  | seq hfirst hsecond => exact h' _ _ hsecond (h _ _ hfirst ha)

theorem Keeps.many (h : body.Keeps edge) : (many greedy body).Keeps edge := by
  intro a b hmatch ha
  generalize hloop : Pattern.many greedy body = loop at hmatch
  induction hmatch with
  | done => exact ha
  | again hbody _ _ ih =>
    cases hloop
    exact ih (h _ _ hbody ha) rfl
  | nothing | one | between | seq | left | right | named => cases hloop

theorem Leaves.repeated (h : pattern.Leaves edge) : pattern.repeated.Leaves edge :=
  h.seq_keeps h.keeps.many

theorem Keeps.optional (h : pattern.Keeps edge) : pattern.optional.Keeps edge := by
  intro a b hmatch ha
  cases hmatch with
  | left hpattern => exact h _ _ hpattern ha
  | right hnothing => exact keeps_nothing _ _ hnothing ha

/-- What the last of some patterns leaves is left by all of them. -/
theorem Leaves.last (h : pattern.Leaves edge) (front : List (Pattern σ)) :
    (Pattern.sequence (front ++ [pattern])).Leaves edge := by
  induction front with
  | nil => exact h.seq_keeps keeps_nothing
  | cons first front ih => exact ih.seq first

theorem leaves_exactly [DecidableEq σ] {symbol : σ} (h : edge (some symbol)) (front : List σ) :
    (exactly (front ++ [symbol])).Leaves edge := by
  rw [exactly, List.map_append]
  refine Leaves.last (leaves_one fun other hother => ?_) _
  rwa [of_decide_eq_true hother]

end Edges

/-! ### What a match begins with -/

section Openings

variable {opening : σ → Prop}

/-- A match begins with a symbol of some kind. -/
def Opens (opening : σ → Prop) (pattern : Pattern σ) : Prop :=
  ∀ a b : Cursor σ, pattern.Matches a b → ∃ symbol ∈ a.rest.head?, opening symbol

/-- A match begins with a symbol of some kind, or it takes nothing. -/
def Passes (opening : σ → Prop) (pattern : Pattern σ) : Prop :=
  ∀ a b : Cursor σ, pattern.Matches a b → b.rest = a.rest ∨ ∃ symbol ∈ a.rest.head?, opening symbol

theorem opens_one (h : ∀ symbol, test symbol = true → opening symbol) :
    (one test).Opens opening := by
  intro a b hmatch
  cases hmatch with
  | one hrest htest => exact ⟨_, by rw [hrest]; rfl, h _ htest⟩

theorem Opens.seq (h : first.Opens opening) (second : Pattern σ) :
    (seq first second).Opens opening := by
  intro a b hmatch
  cases hmatch with
  | seq hfirst _ => exact h _ _ hfirst

theorem opens_exactly [DecidableEq σ] {symbol : σ} (h : opening symbol) (others : List σ) :
    (exactly (symbol :: others)).Opens opening := by
  refine Opens.seq (opens_one fun other hother => ?_) _
  rwa [of_decide_eq_true hother]

theorem Opens.seq_passes (h : second.Opens opening) (h' : first.Passes opening) :
    (Pattern.seq first second).Opens opening := by
  intro a b hmatch
  cases hmatch with
  | seq hfirst hsecond =>
    rcases h' _ _ hfirst with hsame | hopens
    · rw [← hsame]
      exact h _ _ hsecond
    · exact hopens

theorem Opens.passes_many (h : body.Opens opening) : (many greedy body).Passes opening := by
  intro a b hmatch
  cases hmatch with
  | done => exact .inl rfl
  | again hbody _ => exact .inr (h _ _ hbody)

theorem Opens.passes_optional (h : pattern.Opens opening) : pattern.optional.Passes opening := by
  intro a b hmatch
  cases hmatch with
  | left hpattern => exact .inr (h _ _ hpattern)
  | right hnothing =>
    cases hnothing
    exact .inl rfl

end Openings

/-! ### Greedy loops -/

theorem past_cons (cursor : Cursor σ) (symbol : σ) (taken rest : List σ) :
    cursor.past (symbol :: taken) rest =
      Cursor.past ⟨some symbol, taken ++ rest, cursor.position + 1, cursor.piece⟩ taken rest := by
  have hbefore : (symbol :: taken).getLast?.or cursor.before = taken.getLast?.or (some symbol) := by
    cases taken <;> simp [List.getLast?_cons]
  have hposition : cursor.position + (symbol :: taken).length =
      cursor.position + 1 + taken.length := by
    rw [List.length_cons]
    omega
  rw [Cursor.past, Cursor.past, hbefore, hposition]

/-- A greedy loop finds something if what comes behind it does. -/
theorem next_of_repeatBody {fuel : Nat}
    (h : repeatBody (fun cursor next => body.run cursor next) true fuel cursor next = none) :
    next cursor = none := by
  cases fuel with
  | zero => exact h
  | succ fuel =>
    simp only [repeatBody, if_true] at h
    split at h
    · cases h
    · exact h

/-- What one more turn of a loop over single symbols comes to. -/
theorem run_one_of_rest {symbol : σ} {rest : List σ} (hrest : cursor.rest = symbol :: rest)
    (htest : test symbol = true) (fuel : Nat) :
    ((one test).run cursor fun after =>
        if cursor.position < after.position then
          repeatBody (fun cursor next => (one test).run cursor next) true fuel after next
        else none) =
      repeatBody (fun cursor next => (one test).run cursor next) true fuel
        (cursor.past [symbol] rest) next := by
  simp only [run, hrest, if_pos htest, if_pos (Nat.lt_succ_self _)]
  rfl

/-- A greedy loop over single symbols takes some of them, and what comes behind it cannot go on
    behind one symbol more. -/
theorem exists_of_repeatBody_one (fuel : Nat) (hfuel : cursor.rest.length ≤ fuel)
    (h : repeatBody (fun cursor next => (one test).run cursor next) true fuel cursor next =
      some result) :
    ∃ taken rest, cursor.rest = taken ++ rest ∧ (∀ symbol ∈ taken, test symbol = true) ∧
      next (cursor.past taken rest) = some result ∧
        ∀ symbol more, rest = symbol :: more → test symbol = true →
          next (cursor.past (taken ++ [symbol]) more) = none := by
  induction fuel generalizing cursor with
  | zero =>
    have hnil : cursor.rest = [] := List.length_eq_zero_iff.mp (Nat.le_zero.mp hfuel)
    refine ⟨[], cursor.rest, rfl, nofun, h, fun symbol more hcons => ?_⟩
    rw [hnil] at hcons
    cases hcons
  | succ fuel ih =>
    simp only [repeatBody, if_true] at h
    split at h
    next found hagain =>
      cases h
      obtain ⟨symbol, rest, hrest, htest⟩ : ∃ symbol rest, cursor.rest = symbol :: rest ∧
          test symbol = true := by
        obtain ⟨after, hmatch, -⟩ := exists_of_run hagain
        cases hmatch with
        | one hrest htest => exact ⟨_, _, hrest, htest⟩
      rw [run_one_of_rest hrest htest] at hagain
      have hlength : (cursor.past [symbol] rest).rest.length ≤ fuel := by
        rw [hrest] at hfuel
        exact Nat.le_of_succ_le_succ hfuel
      obtain ⟨taken, behind, hsplit, htaken, hnext, hmore⟩ := ih hlength hagain
      have hsplit : rest = taken ++ behind := hsplit
      subst hsplit
      have hpast (more rest : List σ) : (cursor.past [symbol] (taken ++ behind)).past more rest =
          cursor.past (symbol :: more) rest := (past_cons cursor symbol more rest).symm
      simp only [hpast] at hnext hmore
      exact ⟨symbol :: taken, behind, hrest, List.forall_mem_cons.mpr ⟨htest, htaken⟩, hnext, hmore⟩
    next hagain =>
      -- The loop has ended, although it may have tried to go on.
      refine ⟨[], cursor.rest, rfl, nofun, h, fun symbol more hrest htest => ?_⟩
      rw [run_one_of_rest hrest htest] at hagain
      exact next_of_repeatBody hagain

/-- A named piece of one symbol and a loop over more of them. -/
theorem exists_of_run_named {begins goesOn : σ → Bool}
    (h : (named (.seq (.one begins) (.many true (.one goesOn)))).run cursor next = some result) :
    ∃ symbol taken rest, cursor.rest = symbol :: taken ++ rest ∧ begins symbol = true ∧
      (∀ other ∈ taken, goesOn other = true) ∧
        let pieceUpTo (more rest : List σ) : Cursor σ :=
          { cursor.past more rest with
            piece := some (cursor.position, cursor.position + more.length) }
        next (pieceUpTo (symbol :: taken) rest) = some result ∧
          ∀ other more, rest = other :: more → goesOn other = true →
            next (pieceUpTo (symbol :: taken ++ [other]) more) = none := by
  have hbegins : (one begins).run cursor (fun second =>
      repeatBody (fun cursor next => (one goesOn).run cursor next) true second.rest.length second
        fun after => next { after with piece := some (cursor.position, after.position) }) =
      some result := h
  obtain ⟨second, hmatch, hsecond⟩ := exists_of_run hbegins
  cases hmatch with
  | @one _ _ symbol others hrest hsymbol =>
    obtain ⟨taken, rest, hsplit, htaken, hnext, hmore⟩ :=
      exists_of_repeatBody_one _ (Nat.le_refl _) hsecond
    have hsplit : others = taken ++ rest := hsplit
    subst hsplit
    have hpiece (more rest : List σ) :
        ({ Cursor.past ⟨some symbol, taken ++ rest, cursor.position + 1, cursor.piece⟩ more
              rest with
            piece := some (cursor.position, cursor.position + 1 + more.length) } : Cursor σ) =
          { cursor.past (symbol :: more) rest with
            piece := some (cursor.position, cursor.position + (symbol :: more).length) } := by
      rw [past_cons, List.length_cons, Nat.add_assoc, Nat.add_comm 1]
      rfl
    refine ⟨symbol, taken, rest, hrest, hsymbol, htaken, ?_, fun other more hother htest => ?_⟩
    · exact (congrArg next (hpiece taken rest)).symm.trans hnext
    · exact (congrArg next (hpiece (taken ++ [other]) more)).symm.trans
        (hmore other more hother htest)

/-! ### Pieces -/

/-- Whether the pattern has no named piece. -/
def unnamed : Pattern σ → Bool
  | .nothing | .one _ | .between _ => true
  | .seq first second | .either first second => first.unnamed && second.unnamed
  | .many _ body => body.unnamed
  | .named _ => false

@[simp] theorem unnamed_exactly [DecidableEq σ] (symbols : List σ) :
    (exactly symbols).unnamed = true := by
  induction symbols with
  | nil => rfl
  | cons symbol others ih => exact ih

/-- A pattern without a named piece leaves the piece that was found before. -/
theorem Matches.piece_eq (h : pattern.Matches a b) (hunnamed : pattern.unnamed = true) :
    b.piece = a.piece := by
  induction h with
  | nothing | one | between | done => rfl
  | seq _ _ ih ih' =>
    obtain ⟨hfirst, hsecond⟩ := Bool.and_eq_true_iff.mp hunnamed
    exact (ih' hsecond).trans (ih hfirst)
  | left _ ih => exact ih (Bool.and_eq_true_iff.mp hunnamed).1
  | right _ ih => exact ih (Bool.and_eq_true_iff.mp hunnamed).2
  | again _ _ ih ih' => exact (ih' hunnamed).trans (ih hunnamed)
  | named => cases hunnamed

/-! ### What is found -/

theorem exists_of_findFrom? {symbols rest : List σ} {before : Option σ} {position : Nat}
    {piece : Nat × Nat} (hcursor : Cursor.On symbols ⟨before, rest, position, none⟩)
    (h : pattern.findFrom? before position rest = some piece) :
    ∃ cursor, cursor.On symbols ∧ pattern.pieceAt? cursor = some piece := by
  induction rest generalizing before position with
  | nil => exact ⟨_, hcursor, h⟩
  | cons symbol rest ih =>
    rw [findFrom?] at h
    split at h
    next found hfound =>
      cases h
      exact ⟨_, hcursor, hfound⟩
    next =>
      have hcons : symbol :: rest = [symbol] ++ rest := rfl
      exact ih (hcursor.past hcons) h

/-- What is found in a list is found at a place of it. -/
theorem exists_of_find? {symbols : List σ} {piece : Nat × Nat}
    (h : pattern.find? symbols = some piece) :
    ∃ cursor, cursor.On symbols ∧ pattern.pieceAt? cursor = some piece :=
  exists_of_findFrom? ⟨rfl, rfl, Nat.zero_le _⟩ h

end Pattern
end SymbolSearch.Text
