import Mathlib.Data.List.GetD
import Mathlib.Data.Nat.Init
import SymbolSearch.Proofs.Sync.Crowd

/-!
# Crowds that go on forever

* `CrowdRules.along` — what the first events of an endless run lead to.
* `CrowdRules.Fair` — everyone who has not ended may go on again and again.
* `CrowdRules.Fair.exists_step` — what nobody but one can change lasts until that one goes on.
* `CrowdEvent.thenNothing` — a run in which nothing happens any more after some events;
  `CrowdRules.fair_thenNothing` says when it is fair.
-/

namespace SymbolSearch

variable {σ κ π ρ ι ε : Type}

namespace CrowdEvent

/-- The operation that is to go on with an event. -/
def index? : CrowdEvent κ ι ε → Option Nat
  | .step i _ => some i
  | _ => none

/-- Some events, one after the other, and nothing any more afterwards. -/
def thenNothing (events : List (CrowdEvent κ ι ε)) (n : Nat) : CrowdEvent κ ι ε :=
  events.getD n (.wait 0)

theorem forall_thenNothing {holds : CrowdEvent κ ι ε → Prop} {events : List (CrowdEvent κ ι ε)}
    (h : ∀ event ∈ events, holds event) (hnothing : holds (.wait 0)) (n : Nat) :
    holds (thenNothing events n) := by
  rcases Nat.lt_or_ge n events.length with hlt | hle
  · rw [thenNothing, List.getD_eq_getElem _ _ hlt]
    exact h _ (List.getElem_mem hlt)
  · rw [thenNothing, List.getD_eq_default _ _ hle]
    exact hnothing

theorem eq_step_of_index? {event : CrowdEvent κ ι ε} {i : Nat} (h : event.index? = some i) :
    ∃ input, event = .step i input := by
  cases event with
  | step j input => exact ⟨input, by rw [← Option.some.inj h]⟩
  | «begin» | giveUp | occur | wait => cases h

end CrowdEvent

namespace CrowdRules

section Runs

variable (rules : CrowdRules σ κ π ρ ι ε) (start : Crowd σ π ρ) (run : Nat → CrowdEvent κ ι ε)

/-- What the first events of a run lead to. -/
def along (n : Nat) : Crowd σ π ρ := rules.after start ((List.range n).map run)

/-- Whoever has not ended is to go on at some later time, however late it is. -/
def Fair : Prop :=
  ∀ n i point, (rules.along start run n).task? i = some point → ∃ m ≥ n, (run m).index? = some i

theorem along_succ (n : Nat) :
    rules.along start run (n + 1) = rules.next (rules.along start run n) (run n) := by
  rw [along, List.range_succ, List.map_append, List.map_singleton, after_concat]
  rfl

theorem length_along {n m : Nat} (h : n ≤ m) :
    (rules.along start run n).tasks.length ≤ (rules.along start run m).tasks.length := by
  induction m, h using Nat.le_induction with
  | base => exact Nat.le_refl _
  | succ m _ ih =>
    rw [along_succ]
    exact Nat.le_trans ih (rules.length_next _ _)

end Runs

variable {rules : CrowdRules σ κ π ρ ι ε} {start : Crowd σ π ρ} {run : Nat → CrowdEvent κ ι ε}

/-- An operation stays where it is until it goes on, unless it is given up. -/
theorem task?_next {crowd : Crowd σ π ρ} {event : CrowdEvent κ ι ε} {i : Nat} {point : π}
    (hi : crowd.task? i = some point) (hother : event.index? ≠ some i)
    (hkeeps : ¬event.GivesUp) : (rules.next crowd event).task? i = some point := by
  have hmoves := rules.next_moves crowd event
  generalize rules.next crowd event = crowd' at hmoves
  cases hmoves with
  | blocks | misses | occurs | waits => exact hi
  | begins =>
    rw [Crowd.task?_concat_of_ne (Nat.ne_of_lt (Crowd.lt_of_task? hi))]
    exact hi
  | moves j | finishes j =>
    rw [Crowd.task?_put_of_ne fun h => hother (congrArg some h)]
    exact hi
  | givesUp j => exact absurd ⟨j, rfl⟩ hkeeps

/-- What an operation finds lasts until it goes on, if nobody else can change it. -/
theorem Fair.exists_step (h : rules.Fair start run) (holds : Crowd σ π ρ → Prop) {n i : Nat}
    {point : π} (hi : (rules.along start run n).task? i = some point)
    (hnow : holds (rules.along start run n))
    (hkeeps : ∀ m ≥ n, holds (rules.along start run m) → (run m).index? ≠ some i →
      holds (rules.along start run (m + 1))) :
    ∃ m ≥ n, holds (rules.along start run m) ∧ (run m).index? = some i := by
  by_contra hnever
  have halways (m : Nat) (hm : n ≤ m) : holds (rules.along start run m) := by
    induction m, hm using Nat.le_induction with
    | base => exact hnow
    | succ m hm ih => exact hkeeps m hm ih fun hstep => hnever ⟨m, hm, ih, hstep⟩
  obtain ⟨m, hm, hstep⟩ := h n i point hi
  exact hnever ⟨m, hm, halways m hm, hstep⟩

/-! ### Runs that come to an end -/

variable {events : List (CrowdEvent κ ι ε)}

theorem along_thenNothing (n : Nat) :
    rules.along start (.thenNothing events) n = rules.after start (events.take n) := by
  induction n with
  | zero => rfl
  | succ n ih =>
    rw [along_succ, ih]
    by_cases hlt : n < events.length
    · rw [List.take_succ_eq_append_getElem hlt, after_concat, CrowdEvent.thenNothing,
        List.getD_eq_getElem _ _ hlt]
    · have hle := Nat.le_of_not_lt hlt
      rw [CrowdEvent.thenNothing, List.getD_eq_default _ _ hle, List.take_of_length_le hle,
        List.take_of_length_le (Nat.le_succ_of_le hle)]
      rfl

/-- What holds after the last events holds from then on. -/
theorem forall_along_thenNothing (holds : Crowd σ π ρ → Prop) {first : Nat}
    (hfirst : first ≤ events.length)
    (h : ∀ n ≤ events.length, first ≤ n → holds (rules.after start (events.take n))) (n : Nat)
    (hn : first ≤ n) : holds (rules.along start (.thenNothing events) n) := by
  rw [along_thenNothing, List.take_eq_take_min]
  exact h _ (Nat.min_le_right n _) (Nat.le_min.mpr ⟨hn, hfirst⟩)

/-- A run that comes to an end is fair if everyone goes on as long as he has not ended. -/
theorem fair_thenNothing
    (h : ∀ n ≤ events.length, ∀ i < (rules.after start (events.take n)).tasks.length,
      ((rules.after start (events.take n)).task? i).isSome →
        ∃ m < events.length, n ≤ m ∧ (CrowdEvent.thenNothing events m).index? = some i) :
    rules.Fair start (.thenNothing events) := by
  intro n i point hi
  have hlt := Crowd.lt_of_task? hi
  rw [along_thenNothing] at hi hlt
  rcases Nat.le_total n events.length with hle | hle
  · obtain ⟨m, -, hm, hstep⟩ := h n hle i hlt (by simp [hi])
    exact ⟨m, hm, hstep⟩
  · -- After the end nobody is left who has not ended.
    have hend := h events.length (Nat.le_refl _) i
    rw [List.take_length] at hend
    rw [List.take_of_length_le hle] at hi hlt
    obtain ⟨m, hm, hle', -⟩ := hend hlt (by simp [hi])
    exact absurd hm (Nat.not_lt_of_le hle')

end CrowdRules
end SymbolSearch
