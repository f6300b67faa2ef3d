import Mathlib.Data.List.Induction
import SymbolSearch.Sync.Progress
import SymbolSearch.Time.Duration

/-!
# Crowds

Any number of operations go on side by side on one shared state. An operation may be given up at
any point where it waits.

* `CrowdRules` — how operations begin, go on and are given up, and what else may happen.
* `Crowd` — the shared state, the operations, and the time; `CrowdRules.next` is one event.
* `CrowdMoves` and `CrowdRules.next_moves` — what an event can do.
* `CrowdRules.after` — what any list of events leads to, and `CrowdRules.history` the events with
  what they found; `CrowdRules.history_induction` is how to show something of both, and
  `CrowdRules.history_until` how to show what holds from one moment to another.
* `firstReady?` — the place of the first operation that can go on.
* `FirstMoves` and `stepFirst_moves` — what a step of several operations can do.
* `Standing.results?_eq_some_iff` — there are results once all have ended.
-/

namespace SymbolSearch

/-- How operations work on a shared state. What a step may use besides the state is its input. -/
structure CrowdRules (σ κ π ρ ι ε : Type) where
  /-- The first point of an operation that is asked for. -/
  enter : κ → π
  step : Instant → ι → π → σ → Stepped σ π ρ
  /-- Gives an operation up where it stands. -/
  cancel : π → σ → σ
  /-- What happens to the shared state besides the steps. -/
  occur : Instant → ε → σ → σ

/-- A shared state, the operations on it, and the time. One that was given up has no result. -/
structure Crowd (σ π ρ : Type) where
  shared : σ
  tasks : List (Standing π (Option ρ)) := []
  now : Instant := 0

/-- One thing that happens in a crowd. -/
inductive CrowdEvent (κ ι ε : Type) where
  | begin (call : κ)
  /-- An operation goes on, if it can. -/
  | step (index : Nat) (input : ι)
  | giveUp (index : Nat)
  | occur (event : ε)
  | wait (time : Duration)

/-- Whether an operation is given up. -/
def CrowdEvent.GivesUp {κ ι ε : Type} (event : CrowdEvent κ ι ε) : Prop :=
  ∃ index, event = .giveUp index

/-- An event with the crowd in which it happens. -/
abbrev Moment (σ κ π ρ ι ε : Type) := Crowd σ π ρ × CrowdEvent κ ι ε

variable {σ κ π ρ ι ε : Type}

/-- The point at which an operation stands that has not ended. -/
def Standing.point? : Standing π ρ → Option π
  | .waiting point => some point
  | .ended _ => none

theorem Progress.eq_finished_of_map {π' ρ' : Type} {onPoint : π → π'} {onResult : ρ → ρ'}
    {progress : Progress π ρ} {result : ρ'}
    (h : progress.map onPoint onResult = .finished result) :
    ∃ found, progress = .finished found ∧ onResult found = result := by
  cases progress with
  | blocked | moved => cases h
  | finished found => exact ⟨found, rfl, Progress.finished.inj h⟩

theorem Progress.eq_moved_of_map {π' ρ' : Type} {onPoint : π → π'} {onResult : ρ → ρ'}
    {progress : Progress π ρ} {point : π'} (h : progress.map onPoint onResult = .moved point) :
    ∃ found, progress = .moved found ∧ onPoint found = point := by
  cases progress with
  | blocked | finished => cases h
  | moved found => exact ⟨found, rfl, Progress.moved.inj h⟩

theorem Progress.eq_blocked_of_map {π' ρ' : Type} {onPoint : π → π'} {onResult : ρ → ρ'}
    {progress : Progress π ρ} (h : progress.map onPoint onResult = .blocked) :
    progress = .blocked := by
  cases progress with
  | blocked => rfl
  | moved | finished => cases h

theorem Stepped.ne_blocked_of_map {π' ρ' : Type} {onPoint : π → π'} {onResult : ρ → ρ'}
    {stepped : Stepped σ π ρ} (h : (stepped.map onPoint onResult).2 ≠ .blocked) :
    stepped.2 ≠ .blocked :=
  fun hblocked => h (congrArg (Progress.map onPoint onResult) hblocked)

namespace Crowd

/-- Where an operation stands that has not ended. -/
def task? (crowd : Crowd σ π ρ) (i : Nat) : Option π := (crowd.tasks[i]?).bind Standing.point?

/-- An operation has gone on. -/
def put (crowd : Crowd σ π ρ) (i : Nat) (shared : σ) (standing : Standing π (Option ρ)) :
    Crowd σ π ρ :=
  { crowd with shared, tasks := crowd.tasks.set i standing }

end Crowd

namespace CrowdRules

/-- What an event does. Nothing happens where it cannot. -/
def next (rules : CrowdRules σ κ π ρ ι ε) (crowd : Crowd σ π ρ) :
    CrowdEvent κ ι ε → Crowd σ π ρ
  | .begin call => { crowd with tasks := crowd.tasks ++ [.waiting (rules.enter call)] }
  | .step i input =>
    match crowd.task? i with
    | none => crowd
    | some point =>
      match rules.step crowd.now input point crowd.shared with
      | (_, .blocked) => crowd
      | (shared, .moved point) => crowd.put i shared (.waiting point)
      | (shared, .finished result) => crowd.put i shared (.ended (some result))
  | .giveUp i =>
    match crowd.task? i with
    | none => crowd
    | some point => crowd.put i (rules.cancel point crowd.shared) (.ended none)
  | .occur event => { crowd with shared := rules.occur crowd.now event crowd.shared }
  | .wait time => { crowd with now := crowd.now + time }

/-- What a list of events leads to. -/
def after (rules : CrowdRules σ κ π ρ ι ε) (start : Crowd σ π ρ)
    (events : List (CrowdEvent κ ι ε)) : Crowd σ π ρ :=
  events.foldl rules.next start

/-- The events of a list, each with the crowd that it finds. -/
def history (rules : CrowdRules σ κ π ρ ι ε) (start : Crowd σ π ρ) :
    List (CrowdEvent κ ι ε) → List (Moment σ κ π ρ ι ε)
  | [] => []
  | event :: rest => (start, event) :: rules.history (rules.next start event) rest

/-- The step of an operation at a moment: which one it is, where it stands, and what the step comes
    to. -/
def step? (rules : CrowdRules σ κ π ρ ι ε) (moment : Moment σ κ π ρ ι ε) :
    Option (Nat × π × Progress π ρ) :=
  match moment.2 with
  | .step i input => (moment.1.task? i).map fun point =>
      (i, point, (rules.step moment.1.now input point moment.1.shared).2)
  | _ => none

/-- The number of steps of an operation that count. -/
def stepsOf (rules : CrowdRules σ κ π ρ ι ε) (counts : π → Progress π ρ → Bool)
    (past : List (Moment σ κ π ρ ι ε)) (i : Nat) : Nat :=
  past.countP fun moment => (rules.step? moment).any fun (j, point, progress) =>
    j = i && counts point progress

end CrowdRules

/-- What an event can do. -/
inductive CrowdMoves (rules : CrowdRules σ κ π ρ ι ε) (crowd : Crowd σ π ρ) :
    CrowdEvent κ ι ε → Crowd σ π ρ → Prop where
  | blocks (i : Nat) (input : ι)
      (blocked : ∀ point, crowd.task? i = some point →
        (rules.step crowd.now input point crowd.shared).2 = .blocked) :
      CrowdMoves rules crowd (.step i input) crowd
  | misses (i : Nat) (stands : crowd.task? i = none) : CrowdMoves rules crowd (.giveUp i) crowd
  | begins (call : κ) :
      CrowdMoves rules crowd (.begin call)
        { crowd with tasks := crowd.tasks ++ [.waiting (rules.enter call)] }
  | moves (i : Nat) (input : ι) (point point' : π) (shared : σ)
      (stands : crowd.task? i = some point)
      (step : rules.step crowd.now input point crowd.shared = (shared, .moved point')) :
      CrowdMoves rules crowd (.step i input) (crowd.put i shared (.waiting point'))
  | finishes (i : Nat) (input : ι) (point : π) (result : ρ) (shared : σ)
      (stands : crowd.task? i = some point)
      (step : rules.step crowd.now input point crowd.shared = (shared, .finished result)) :
      CrowdMoves rules crowd (.step i input) (crowd.put i shared (.ended (some result)))
  | givesUp (i : Nat) (point : π) (stands : crowd.task? i = some point) :
      CrowdMoves rules crowd (.giveUp i)
        (crowd.put i (rules.cancel point crowd.shared) (.ended none))
  | occurs (event : ε) :
      CrowdMoves rules crowd (.occur event)
        { crowd with shared := rules.occur crowd.now event crowd.shared }
  | waits (time : Duration) :
      CrowdMoves rules crowd (.wait time) { crowd with now := crowd.now + time }

/-! ### Operations -/

namespace Crowd

variable {crowd : Crowd σ π ρ} {i j : Nat} {point : π} {shared : σ}

theorem lt_of_task? (h : crowd.task? i = some point) : i < crowd.tasks.length := by
  obtain ⟨standing, hget, -⟩ := Option.bind_eq_some_iff.mp h
  exact (List.getElem?_eq_some_iff.mp hget).1

theorem mem_of_task? (h : crowd.task? i = some point) : .waiting point ∈ crowd.tasks := by
  obtain ⟨standing, hget, hpoint⟩ := Option.bind_eq_some_iff.mp h
  cases standing with
  | waiting found =>
    obtain rfl := Option.some.inj hpoint
    exact List.mem_of_getElem? hget
  | ended => cases hpoint

theorem task?_put_self (h : crowd.task? i = some point) (standing : Standing π (Option ρ)) :
    (crowd.put i shared standing).task? i = standing.point? := by
  have hlt := lt_of_task? h
  simp only [task?, put, List.getElem?_set_self hlt, Option.bind_some]

theorem task?_put_of_ne (h : i ≠ j) (standing : Standing π (Option ρ)) :
    (crowd.put i shared standing).task? j = crowd.task? j := by
  simp only [task?, put, List.getElem?_set_ne h]

@[simp]
theorem shared_put (crowd : Crowd σ π ρ) (i : Nat) (shared : σ)
    (standing : Standing π (Option ρ)) : (crowd.put i shared standing).shared = shared := rfl

@[simp]
theorem now_put (crowd : Crowd σ π ρ) (i : Nat) (shared : σ) (standing : Standing π (Option ρ)) :
    (crowd.put i shared standing).now = crowd.now := rfl

/-- What holds of everyone still does when one has gone on of whom it holds too. -/
theorem forall_put {holds : Standing π (Option ρ) → Prop}
    (h : ∀ standing ∈ crowd.tasks, holds standing) (i : Nat) (shared : σ)
    {standing : Standing π (Option ρ)} (hnew : holds standing) :
    ∀ other ∈ (crowd.put i shared standing).tasks, holds other := by
  intro other hmem
  rcases List.mem_or_eq_of_mem_set hmem with hold | rfl
  · exact h other hold
  · exact hnew

theorem forall_concat {holds : Standing π (Option ρ) → Prop}
    (h : ∀ standing ∈ crowd.tasks, holds standing) (hnew : holds (.waiting point)) :
    ∀ other ∈ crowd.tasks ++ [.waiting point], holds other := by
  intro other hmem
  rcases List.mem_append.mp hmem with hold | hlast
  · exact h other hold
  · rw [List.mem_singleton.mp hlast]
    exact hnew

/-- The place of the operation that begins next. -/
theorem task?_length (crowd : Crowd σ π ρ) : crowd.task? crowd.tasks.length = none := by
  simp [task?]

theorem task?_concat_self (crowd : Crowd σ π ρ) (point : π) :
    ({ crowd with tasks := crowd.tasks ++ [.waiting point] } : Crowd σ π ρ).task?
      crowd.tasks.length = some point := by
  simp [task?, Standing.point?]

theorem task?_concat_of_ne (h : j ≠ crowd.tasks.length) (point : π) :
    ({ crowd with tasks := crowd.tasks ++ [.waiting point] } : Crowd σ π ρ).task? j =
      crowd.task? j := by
  rcases Nat.lt_or_gt_of_ne h with hlt | hgt
  · simp only [task?, List.getElem?_append_left hlt]
  · have hnone : crowd.tasks[j]? = none := List.getElem?_eq_none_iff.mpr (by omega)
    have hnone' : (crowd.tasks ++ [.waiting point])[j]? = none := by
      rw [List.getElem?_eq_none_iff, List.length_append, List.length_singleton]
      omega
    simp only [task?, hnone, hnone']

end Crowd

/-! ### Events -/

namespace CrowdRules

variable (rules : CrowdRules σ κ π ρ ι ε)

theorem next_moves (crowd : Crowd σ π ρ) (event : CrowdEvent κ ι ε) :
    CrowdMoves rules crowd event (rules.next crowd event) := by
  cases event with
  | «begin» call => exact .begins call
  | step i input =>
    simp only [next]
    split
    next hstands => exact .blocks i input fun point hpoint => by simp [hstands] at hpoint
    next point hstands =>
      split
      next hblocked =>
        refine .blocks i input fun found hfound => ?_
        obtain rfl : point = found := Option.some.inj (hstands.symm.trans hfound)
        rw [hblocked]
      next shared point' hstep => exact .moves i input point point' shared hstands hstep
      next shared result hstep => exact .finishes i input point result shared hstands hstep
  | giveUp i =>
    simp only [next]
    split
    next hstands => exact .misses i hstands
    next point hstands => exact .givesUp i point hstands
  | occur event => exact .occurs event
  | wait time => exact .waits time

/-- Nobody vanishes. -/
theorem length_next (crowd : Crowd σ π ρ) (event : CrowdEvent κ ι ε) :
    crowd.tasks.length ≤ (rules.next crowd event).tasks.length := by
  have hmoves := rules.next_moves crowd event
  generalize rules.next crowd event = crowd' at hmoves
  cases hmoves with
  | blocks | misses | occurs | waits => exact Nat.le_refl _
  | moves | finishes | givesUp => exact Nat.le_of_eq List.length_set.symm
  | begins =>
    rw [List.length_append]
    exact Nat.le_add_right _ _

theorem next_of_moved {crowd : Crowd σ π ρ} {i : Nat} {input : ι} {point point' : π} {shared : σ}
    (hi : crowd.task? i = some point)
    (hstep : rules.step crowd.now input point crowd.shared = (shared, .moved point')) :
    rules.next crowd (.step i input) = crowd.put i shared (.waiting point') := by
  simp only [next, hi, hstep]

theorem next_of_finished {crowd : Crowd σ π ρ} {i : Nat} {input : ι} {point : π} {result : ρ}
    {shared : σ} (hi : crowd.task? i = some point)
    (hstep : rules.step crowd.now input point crowd.shared = (shared, .finished result)) :
    rules.next crowd (.step i input) = crowd.put i shared (.ended (some result)) := by
  simp only [next, hi, hstep]

/-- The step of an operation that goes on, as the history tells it. -/
theorem step?_eq_some {crowd : Crowd σ π ρ} {event : CrowdEvent κ ι ε} {i : Nat} {point : π}
    {progress : Progress π ρ} (h : rules.step? (crowd, event) = some (i, point, progress)) :
    ∃ input, event = .step i input ∧ crowd.task? i = some point ∧
      (rules.step crowd.now input point crowd.shared).2 = progress := by
  cases event with
  | step j input =>
    simp only [step?, Option.map_eq_some_iff, Prod.mk.injEq] at h
    obtain ⟨point', hstands, rfl, rfl, hprogress⟩ := h
    exact ⟨input, rfl, hstands, hprogress⟩
  | «begin» | giveUp | occur | wait => cases h

theorem step?_step {crowd : Crowd σ π ρ} {i : Nat} {input : ι} {point : π}
    (h : crowd.task? i = some point) :
    rules.step? (crowd, .step i input) =
      some (i, point, (rules.step crowd.now input point crowd.shared).2) := by
  simp [step?, h]

/-- Nothing is heard of a step that has to wait. -/
theorem eq_blocked_of_step? {crowd : Crowd σ π ρ} {i j : Nat} {input : ι} {point : π}
    {progress : Progress π ρ}
    (blocked : ∀ point, crowd.task? i = some point →
      (rules.step crowd.now input point crowd.shared).2 = .blocked)
    (h : rules.step? (crowd, .step i input) = some (j, point, progress)) : progress = .blocked := by
  obtain ⟨input', hevent, hstands, hprogress⟩ := rules.step?_eq_some h
  cases hevent
  exact hprogress.symm.trans (blocked point hstands)

/-! ### Histories -/

theorem after_concat (start : Crowd σ π ρ) (events : List (CrowdEvent κ ι ε))
    (event : CrowdEvent κ ι ε) :
    rules.after start (events ++ [event]) = rules.next (rules.after start events) event := by
  simp [after]

theorem history_concat (start : Crowd σ π ρ) (events : List (CrowdEvent κ ι ε))
    (event : CrowdEvent κ ι ε) :
    rules.history start (events ++ [event]) =
      rules.history start events ++ [(rules.after start events, event)] := by
  induction events generalizing start with
  | nil => rfl
  | cons first rest ih =>
    show (start, first) :: rules.history (rules.next start first) (rest ++ [event]) = _
    rw [ih]
    rfl

theorem history_append (start : Crowd σ π ρ) (events more : List (CrowdEvent κ ι ε)) :
    rules.history start (events ++ more) =
      rules.history start events ++ rules.history (rules.after start events) more := by
  induction events generalizing start with
  | nil => rfl
  | cons first rest ih => exact congrArg ((start, first) :: ·) (ih (rules.next start first))

theorem map_history (start : Crowd σ π ρ) (events : List (CrowdEvent κ ι ε)) :
    (rules.history start events).map (·.2) = events := by
  induction events generalizing start with
  | nil => rfl
  | cons first rest ih => exact congrArg (first :: ·) (ih (rules.next start first))

/-- What has happened before a moment of a history is a history too, which leads to this moment. -/
theorem history_split {start : Crowd σ π ρ} {events : List (CrowdEvent κ ι ε)}
    {before later : List (Moment σ κ π ρ ι ε)} {moment : Moment σ κ π ρ ι ε}
    (h : rules.history start events = before ++ moment :: later) :
    ∃ earlier, rules.history start earlier = before ∧ rules.after start earlier = moment.1 := by
  induction before generalizing start events with
  | nil =>
    cases events with
    | nil => cases h
    | cons first rest =>
      obtain ⟨rfl, -⟩ := List.cons.inj h
      exact ⟨[], rfl, rfl⟩
  | cons found before ih =>
    cases events with
    | nil => cases h
    | cons first rest =>
      obtain ⟨rfl, htail⟩ := List.cons.inj h
      obtain ⟨earlier, hhistory, hafter⟩ := ih htail
      exact ⟨first :: earlier, congrArg ((start, first) :: ·) hhistory, hafter⟩

/-- What holds at the start, and of every next event with all that has happened before it, holds
    after any events. -/
theorem history_induction {start : Crowd σ π ρ}
    {motive : List (Moment σ κ π ρ ι ε) → Crowd σ π ρ → Prop} (hstart : motive [] start)
    (hnext : ∀ past crowd event, motive past crowd →
      motive (past ++ [(crowd, event)]) (rules.next crowd event))
    (events : List (CrowdEvent κ ι ε)) :
    motive (rules.history start events) (rules.after start events) := by
  induction events using List.reverseRecOn with
  | nil => exact hstart
  | append_singleton events event ih =>
    rw [history_concat, after_concat]
    exact hnext _ _ event ih

section StepsOf

variable {rules} {counts : π → Progress π ρ → Bool} {past : List (Moment σ κ π ρ ι ε)}
  {moment : Moment σ κ π ρ ι ε} {i : Nat} {point : π} {progress : Progress π ρ}

theorem stepsOf_concat (past : List (Moment σ κ π ρ ι ε)) (moment : Moment σ κ π ρ ι ε) (i : Nat) :
    rules.stepsOf counts (past ++ [moment]) i = rules.stepsOf counts past i +
      if (rules.step? moment).any fun (j, point, progress) => j = i && counts point progress
      then 1 else 0 := by
  rw [stepsOf, List.countP_append, List.countP_singleton]
  rfl

theorem stepsOf_of_step? (h : rules.step? moment = some (i, point, progress)) :
    rules.stepsOf counts (past ++ [moment]) i =
      rules.stepsOf counts past i + if counts point progress then 1 else 0 := by
  simp [stepsOf_concat, h]

theorem stepsOf_of_others (h : ∀ point progress, rules.step? moment ≠ some (i, point, progress)) :
    rules.stepsOf counts (past ++ [moment]) i = rules.stepsOf counts past i := by
  rw [stepsOf_concat]
  cases hstep : rules.step? moment with
  | none => rfl
  | some step =>
    obtain ⟨j, point, progress⟩ := step
    have hji : j ≠ i := by
      rintro rfl
      exact h point progress hstep
    simp [hji]

/-- Whoever has made no step has made none that counts. -/
theorem stepsOf_eq_zero
    (h : ∀ moment ∈ past, ∀ point progress, rules.step? moment ≠ some (i, point, progress)) :
    rules.stepsOf counts past i = 0 := by
  induction past using List.reverseRecOn with
  | nil => rfl
  | append_singleton past moment ih =>
    rw [stepsOf_of_others (h moment (by simp))]
    exact ih fun other hother => h other (by simp [hother])

end StepsOf

section Standing

variable {rules} {start : Crowd σ π ρ} (good : Crowd σ π ρ → Prop)
  (holds : List (Moment σ κ π ρ ι ε) → Crowd σ π ρ → Nat → π → Prop)

/-- Whoever has made a step has begun. -/
theorem lt_of_mem_history (events : List (CrowdEvent κ ι ε)) {moment : Moment σ κ π ρ ι ε}
    (hmem : moment ∈ rules.history start events) {i : Nat} {point : π} {progress : Progress π ρ}
    (hstep : rules.step? moment = some (i, point, progress)) :
    i < (rules.after start events).tasks.length := by
  refine rules.history_induction (motive := fun past crowd => ∀ moment ∈ past,
    ∀ i point progress, rules.step? moment = some (i, point, progress) → i < crowd.tasks.length)
    (by rintro _ ⟨⟩) ?_ events moment hmem i point progress hstep
  intro past crowd event ih moment hmem i point progress hstep
  rcases List.mem_append.mp hmem with hpast | hlast
  · exact Nat.lt_of_lt_of_le (ih moment hpast i point progress hstep)
      (rules.length_next crowd event)
  · obtain rfl := List.mem_singleton.mp hlast
    obtain ⟨input, rfl, stands, -⟩ := rules.step?_eq_some hstep
    exact Nat.lt_of_lt_of_le (Crowd.lt_of_task? stands) (rules.length_next crowd _)

/-- What holds of every operation when it begins, when it goes on, and while it waits, holds of
    all that have not ended. -/
theorem standing_induction (hgood : ∀ events, good (rules.after start events))
    (hnobody : ∀ i, start.task? i = none)
    (hbegins : ∀ past crowd call, good crowd → (∀ moment ∈ past, ∀ point progress,
        rules.step? moment ≠ some (crowd.tasks.length, point, progress)) →
      holds (past ++ [(crowd, .begin call)]) (rules.next crowd (.begin call)) crowd.tasks.length
        (rules.enter call))
    (hmoves : ∀ past crowd i input point point' shared, good crowd → crowd.task? i = some point →
      rules.step crowd.now input point crowd.shared = (shared, .moved point') →
      holds past crowd i point →
      holds (past ++ [(crowd, .step i input)]) (crowd.put i shared (.waiting point')) i point')
    (hblocks : ∀ past crowd i input point, crowd.task? i = some point →
      (rules.step crowd.now input point crowd.shared).2 = .blocked → holds past crowd i point →
      holds (past ++ [(crowd, .step i input)]) crowd i point)
    (hothers : ∀ past crowd event i point, good crowd → crowd.task? i = some point →
      (∀ point progress, rules.step? (crowd, event) ≠ some (i, point, progress)) →
      holds past crowd i point →
      holds (past ++ [(crowd, event)]) (rules.next crowd event) i point)
    (events : List (CrowdEvent κ ι ε)) {i : Nat} {point : π}
    (hi : (rules.after start events).task? i = some point) :
    holds (rules.history start events) (rules.after start events) i point := by
  induction events using List.reverseRecOn generalizing i point with
  | nil => exact absurd ((hnobody i).symm.trans hi) (by rintro ⟨⟩)
  | append_singleton events event ih =>
    have hcrowd := hgood events
    have hborn (moment) (hmem : moment ∈ rules.history start events) (point : π)
        (progress : Progress π ρ) :
        rules.step? moment ≠ some ((rules.after start events).tasks.length, point, progress) :=
      fun hstep => Nat.lt_irrefl _ (lt_of_mem_history events hmem hstep)
    rw [after_concat] at hi
    rw [history_concat, after_concat]
    generalize rules.history start events = past at ih hborn ⊢
    generalize rules.after start events = crowd at ih hborn hcrowd hi ⊢
    have hstays (hi : crowd.task? i = some point)
        (hother : ∀ point progress, rules.step? (crowd, event) ≠ some (i, point, progress)) :
        holds (past ++ [(crowd, event)]) (rules.next crowd event) i point :=
      hothers past crowd event i point hcrowd hi hother (ih hi)
    have helse {j : Nat} {input : ι} (hji : j ≠ i) (point : π) (progress : Progress π ρ) :
        rules.step? (crowd, .step j input) ≠ some (i, point, progress) := by
      intro hstep
      obtain ⟨_, hevent, -⟩ := rules.step?_eq_some hstep
      cases hevent
      exact hji rfl
    have hnext := rules.next_moves crowd event
    generalize rules.next crowd event = crowd' at hi hnext hstays ⊢
    cases hnext with
    | misses | occurs | waits => exact hstays hi (by rintro _ _ ⟨⟩)
    | blocks j input blocked =>
      by_cases hji : j = i
      · subst hji
        exact hblocks past crowd j input point hi (blocked point hi) (ih hi)
      · exact hstays hi (helse hji)
    | begins call =>
      by_cases hlast : i = crowd.tasks.length
      · subst hlast
        rw [Crowd.task?_concat_self] at hi
        obtain rfl := Option.some.inj hi
        exact hbegins past crowd call hcrowd hborn
      · rw [Crowd.task?_concat_of_ne hlast] at hi
        exact hstays hi (by rintro _ _ ⟨⟩)
    | moves j input found found' shared stands step =>
      by_cases hji : j = i
      · subst hji
        rw [Crowd.task?_put_self stands] at hi
        obtain rfl := Option.some.inj hi
        exact hmoves past crowd j input found found' shared hcrowd stands step (ih stands)
      · rw [Crowd.task?_put_of_ne hji] at hi
        exact hstays hi (helse hji)
    | finishes j input found result shared stands =>
      by_cases hji : j = i
      · subst hji
        rw [Crowd.task?_put_self stands] at hi
        cases hi
      · rw [Crowd.task?_put_of_ne hji] at hi
        exact hstays hi (helse hji)
    | givesUp j found stands =>
      by_cases hji : j = i
      · subst hji
        rw [Crowd.task?_put_self stands] at hi
        cases hi
      · rw [Crowd.task?_put_of_ne hji] at hi
        exact hstays hi (by rintro _ _ ⟨⟩)

end Standing

section Since

variable {rules} {start : Crowd σ π ρ} {events : List (CrowdEvent κ ι ε)}
  {good : Crowd σ π ρ → Prop} (holds : Crowd σ π ρ → Prop)
  (marks ends : Moment σ κ π ρ ι ε → Prop) {before between later : List (Moment σ κ π ρ ι ε)}
  {moment last : Moment σ κ π ρ ι ε}

/-- What a moment brings about holds afterwards, as long as no moment ends it. -/
theorem history_since (hgood : ∀ events, good (rules.after start events))
    (hmarks : ∀ crowd event, good crowd → marks (crowd, event) → holds (rules.next crowd event))
    (hkeeps : ∀ crowd event, good crowd → holds crowd → ¬ends (crowd, event) →
      holds (rules.next crowd event))
    (hpast : rules.history start events = before ++ moment :: later) (hmark : marks moment)
    (hstays : ∀ other ∈ later, ¬ends other) : holds (rules.after start events) := by
  induction events using List.reverseRecOn generalizing later with
  | nil =>
    have hlength := congrArg List.length hpast
    simp [history] at hlength
  | append_singleton events event ih =>
    rw [history_concat] at hpast
    rw [after_concat]
    rcases List.eq_nil_or_concat later with rfl | ⟨rest, last, rfl⟩
    · -- This is the moment itself.
      obtain ⟨-, hlast⟩ := List.append_inj' hpast rfl
      obtain rfl := List.singleton_inj.mp hlast
      exact hmarks _ event (hgood events) hmark
    · have hpast' : rules.history start events ++ [(rules.after start events, event)] =
          (before ++ moment :: rest) ++ [last] := by
        rw [hpast]
        simp
      obtain ⟨hbefore, hlast⟩ := List.append_inj' hpast' rfl
      obtain rfl := List.singleton_inj.mp hlast
      have hholds := ih hbefore fun other hother => hstays other (by simp [hother])
      exact hkeeps _ event (hgood events) hholds (hstays _ (by simp))

/-- So it holds at any later moment, until one ends it. -/
theorem history_until (hgood : ∀ events, good (rules.after start events))
    (hmarks : ∀ crowd event, good crowd → marks (crowd, event) → holds (rules.next crowd event))
    (hkeeps : ∀ crowd event, good crowd → holds crowd → ¬ends (crowd, event) →
      holds (rules.next crowd event))
    (hpast : rules.history start events = before ++ moment :: between ++ last :: later)
    (hmark : marks moment) (hstays : ∀ other ∈ between, ¬ends other) :
    good last.1 ∧ holds last.1 := by
  obtain ⟨earlier, hbefore, hlast⟩ := rules.history_split hpast
  rw [← hlast]
  have hholds := history_since holds marks ends hgood hmarks hkeeps hbefore hmark hstays
  exact ⟨hgood earlier, hholds⟩

end Since

end CrowdRules

end SymbolSearch

namespace SymbolSearch

/-! ### Operations of which the first goes on -/

variable {σ π ρ : Type} {step : π → σ → Stepped σ π ρ} {standings : List (Standing π ρ)} {state : σ}

/-- Whether a step of an operation comes to something. -/
def Progress.goes : Progress π ρ → Bool
  | .blocked => false
  | .moved _ | .finished _ => true

/-- Where an operation stands after a step that comes to something. -/
def Progress.standing? : Progress π ρ → Option (Standing π ρ)
  | .blocked => none
  | .moved point => some (.waiting point)
  | .finished result => some (.ended result)

/-- The result of an operation that has ended. -/
def Standing.result? : Standing π ρ → Option ρ
  | .waiting _ => none
  | .ended result => some result

/-- Whether an operation can go on. -/
def Standing.canGo (step : π → σ → Stepped σ π ρ) (state : σ) : Standing π ρ → Bool
  | .waiting point => (step point state).2.goes
  | .ended _ => false

/-- The place of the first operation that can go on. -/
def firstReady? (step : π → σ → Stepped σ π ρ) (standings : List (Standing π ρ)) (state : σ) :
    Option Nat :=
  standings.findIdx? (·.canGo step state)

/-- What a step of several operations can do. -/
inductive FirstMoves (step : π → σ → Stepped σ π ρ) (standings : List (Standing π ρ)) (state : σ) :
    Option (σ × List (Standing π ρ)) → Prop where
  | stuck (blocked : firstReady? step standings state = none) : FirstMoves step standings state none
  | goes (i : Nat) (point : π) (standing : Standing π ρ)
      (ready : firstReady? step standings state = some i)
      (stands : standings[i]? = some (.waiting point))
      (comes : (step point state).2.standing? = some standing) :
      FirstMoves step standings state
        (some ((step point state).1, standings.set i standing))

theorem stepFirst_moves (step : π → σ → Stepped σ π ρ) (standings : List (Standing π ρ))
    (state : σ) : FirstMoves step standings state (stepFirst step standings state) := by
  induction standings with
  | nil => exact .stuck rfl
  | cons standing others ih =>
    -- If the first one cannot go on, one of the others does.
    have hlater (hwaits : standing.canGo step state = false) :
        FirstMoves step (standing :: others) state
          ((stepFirst step others state).map fun found => (found.1, standing :: found.2)) := by
      have hready : firstReady? step (standing :: others) state =
          (firstReady? step others state).map (· + 1) := by
        rw [firstReady?, List.findIdx?_cons, hwaits]
        rfl
      generalize stepFirst step others state = stepped at ih
      cases ih with
      | stuck blocked =>
        refine .stuck ?_
        rw [hready, blocked]
        rfl
      | goes i point standing' ready stands comes =>
        refine .goes (i + 1) point standing' ?_ stands comes
        rw [hready, ready]
        rfl
    cases standing with
    | ended result => exact hlater rfl
    | waiting point =>
      rw [stepFirst]
      have hgoes {standing' : Standing π ρ}
          (hcomes : (step point state).2.standing? = some standing')
          (hready : (step point state).2.goes = true) :
          FirstMoves step (.waiting point :: others) state
            (some ((step point state).1, standing' :: others)) := by
        refine .goes 0 point standing' ?_ rfl hcomes
        rw [firstReady?, List.findIdx?_cons, Standing.canGo, hready]
        rfl
      cases hstep : step point state with
      | mk state' progress =>
        rw [hstep] at hgoes
        cases progress with
        | blocked =>
          refine hlater ?_
          rw [Standing.canGo, hstep]
          rfl
        | moved point' => exact hgoes rfl rfl
        | finished result => exact hgoes rfl rfl

/-- Nobody can go on exactly if everybody who has not ended has to wait. -/
theorem firstReady?_eq_none_iff : firstReady? step standings state = none ↔
    ∀ point, .waiting point ∈ standings → (step point state).2 = .blocked := by
  rw [firstReady?, List.findIdx?_eq_none_iff]
  constructor
  · intro h point hmem
    have hwaits : (step point state).2.goes = false := h _ hmem
    cases hstep : (step point state).2 with
    | blocked => rfl
    | moved | finished =>
      rw [hstep] at hwaits
      cases hwaits
  · rintro h (point | result) hmem
    · rw [Standing.canGo, h point hmem]
      rfl
    · rfl

namespace Standing

theorem results?_map_ended (results : List ρ) :
    results? (results.map (ended : ρ → Standing π ρ)) = some results := by
  induction results with
  | nil => rfl
  | cons result results ih =>
    rw [List.map_cons, results?, ih]
    rfl

/-- There are results once all operations have ended. -/
theorem results?_eq_some_iff {results : List ρ} :
    results? standings = some results ↔ standings = results.map ended := by
  refine ⟨fun h => ?_, fun h => h ▸ results?_map_ended results⟩
  induction standings generalizing results with
  | nil =>
    obtain rfl := Option.some.inj h
    rfl
  | cons standing others ih =>
    cases standing with
    | waiting point => cases h
    | ended result =>
      obtain ⟨rest, hrest, rfl⟩ := Option.map_eq_some_iff.mp h
      rw [ih hrest, List.map_cons]

/-- Otherwise somebody has not ended. -/
theorem exists_waiting_of_results? (h : results? standings = none) :
    ∃ point, .waiting point ∈ standings := by
  induction standings with
  | nil => cases h
  | cons standing others ih =>
    cases standing with
    | waiting point => exact ⟨point, List.mem_cons_self⟩
    | ended result =>
      obtain ⟨point, hmem⟩ := ih (Option.map_eq_none_iff.mp h)
      exact ⟨point, List.mem_cons_of_mem _ hmem⟩

end Standing

end SymbolSearch
