import SymbolSearch.Proofs.Monitor.Granting

/-!
# How restarts are measured out

A monitor launches its proxy anew when that has failed, but only so often and not too soon. What is
told here of its restarts holds of all that may happen to it, in any order.

* `KeeperMoment.Grants` — whether a failure has a restart granted.
* `Keeper.Numbered` — processes are known by the launches before theirs, so that the watch of a
  process that was given up is never taken for that of another one.
* `KeeperMoment.Ordered` — whether somebody has a restart granted, or forces one, and has not tried
  to launch a proxy since.
* `KeeperCourse.restarts_measured` — how many restarts are granted, how far apart they are, what
  they lead to, and what they are granted for.
-/

namespace SymbolSearch

open Upkeep (Rears)

/-! ### Moments -/

namespace KeeperMoment

/-- Whether a failure has a restart granted. -/
def Grants (moment : KeeperMoment) : Prop :=
  (after moment).shared.monitor.gate.restarts = moment.1.shared.monitor.gate.restarts + 1

instance (moment : KeeperMoment) : Decidable (Grants moment) := inferInstanceAs (Decidable (_ = _))

/-- Whether a call or the repeated questions ask about the health of the proxy in vain. -/
def FailsProbe (moment : KeeperMoment) : Prop :=
  moment.1.shared.around.answers = false ∧
    ((∃ i wall, moment.2 = .step i wall ∧ moment.1.task? i = some (.probing .asking)) ∨
      ∃ wall next, moment.2 = .occur (.works .rounds wall) ∧
        moment.1.shared.rounds = some (.probing .asking next))

/-- Whether the watch of a process finds that it has exited by itself, where the monitor has looked
    after it ever since it was launched. -/
structure FindsExit (past : List KeeperMoment) (moment : KeeperMoment) (child : Child) : Prop where
  watched : ∃ i wall, moment.2 = .occur (.works (.watch i) wall) ∧
    moment.1.shared.watches[i]? = some (.waiting (.watching child))
  exited : child.process ∈ moment.1.shared.around.exited
  spared : child.process ∉ moment.1.shared.around.killed
  current : moment.1.shared.monitor.child = some child
  ever : ∀ other ∈ past, child.process < other.1.shared.around.launched →
    other.1.shared.monitor.child = some child

end KeeperMoment

open KeeperMoment

/-- What the gate hears of those who ask about health. -/
theorem ProbePoint.signal_cases (point : ProbePoint) (upkeep : Upkeep Vicinity) :
    point.signal upkeep = .nothing ∨
      point.signal upkeep = .failure ∧ point = .asking ∧ upkeep.around.answers = false := by
  cases point with
  | starting | recovering => exact .inl rfl
  | asking => cases hanswers : upkeep.around.answers <;> simp [signal, hanswers]

theorem WatchPoint.signal_cases (point : WatchPoint) (upkeep : Upkeep Vicinity) :
    point.signal upkeep = .nothing ∨
      point.signal upkeep = .failure ∧ ∃ child, point = .watching child ∧
        child.process ∈ upkeep.around.exited ∧
        upkeep.monitor.isCurrent child.generation = true := by
  cases point with
  | recovering => exact .inl rfl
  | watching child =>
    simp only [signal]
    split
    next hfails => exact .inr ⟨rfl, child, rfl, hfails⟩
    · exact .inl rfl

theorem RoundsPoint.signal_cases (point : RoundsPoint) (upkeep : Upkeep Vicinity) :
    point.signal upkeep = .nothing ∨
      point.signal upkeep = .failure ∧ (∃ next, point = .probing .asking next) ∧
        upkeep.around.answers = false := by
  cases point with
  | resting => exact .inl rfl
  | probing probe next =>
    refine (probe.signal_cases upkeep).imp_right ?_
    rintro ⟨hsignal, rfl, hanswers⟩
    exact ⟨hsignal, ⟨next, rfl⟩, hanswers⟩

namespace KeeperMoment

variable {course : KeeperCourse} {event : KeeperCourseEvent} {moment : KeeperMoment}

/-- Whether the watch of a process that the monitor looks after finds that it has exited. -/
def WatchFails (moment : KeeperMoment) : Prop :=
  ∃ i wall child, moment.2 = .occur (.works (.watch i) wall) ∧
    moment.1.shared.watches[i]? = some (.waiting (.watching child)) ∧
    child.process ∈ moment.1.shared.around.exited ∧
    moment.1.shared.monitor.isCurrent child.generation = true

/-- What the gate hears, and of whom. -/
theorem signal_cases (moment : KeeperMoment) :
    moment.signal = .nothing ∨ moment.signal = .force ∧ Forces moment ∨
      moment.signal = .failure ∧ (FailsProbe moment ∨ WatchFails moment) := by
  obtain ⟨course, event⟩ := moment
  cases event with
  | «begin» | giveUp | wait => exact .inl rfl
  | step i wall =>
    cases hi : course.task? i with
    | none => exact .inl (by simp [signal, hi])
    | some call =>
      have hsignal : signal (course, .step i wall) = call.signal course.shared.upkeep := by
        simp [signal, hi]
      rw [hsignal]
      cases call with
      | ensuring point => exact .inl rfl
      | forcing point =>
        cases point with
        | starting => exact .inr (.inl ⟨rfl, i, wall, rfl, hi⟩)
        | launching relaunch => exact .inl rfl
      | probing point =>
        rcases point.signal_cases course.shared.upkeep with hnone | ⟨hfails, rfl, hanswers⟩
        · exact .inl hnone
        · exact .inr (.inr ⟨hfails, .inl ⟨hanswers, .inl ⟨i, wall, rfl, hi⟩⟩⟩)
  | occur event =>
    cases event with
    | startsRounds | stops | answers | refuses | exits => exact .inl rfl
    | works task wall =>
      cases task with
      | watch i =>
        cases hi : course.shared.watches[i]? with
        | none => exact .inl (by simp [signal, KeeperEvent.signal, Keeper.signal, hi])
        | some standing =>
          cases standing with
          | ended result =>
            exact .inl (by simp [signal, KeeperEvent.signal, Keeper.signal, hi, Standing.point?])
          | waiting point =>
            have hsignal : signal (course, .occur (.works (.watch i) wall)) =
                point.signal course.shared.upkeep := by
              simp [signal, KeeperEvent.signal, Keeper.signal, hi, Standing.point?]
            rw [hsignal]
            rcases point.signal_cases course.shared.upkeep with
              hnone | ⟨hfails, child, rfl, hexited, hcurrent⟩
            · exact .inl hnone
            · exact .inr (.inr ⟨hfails, .inr ⟨i, wall, child, rfl, hi, hexited, hcurrent⟩⟩)
      | rounds =>
        cases hrounds : course.shared.rounds with
        | none => exact .inl (by simp [signal, KeeperEvent.signal, Keeper.signal, hrounds])
        | some point =>
          have hsignal : signal (course, .occur (.works .rounds wall)) =
              point.signal course.shared.upkeep := by
            simp [signal, KeeperEvent.signal, Keeper.signal, hrounds]
          rw [hsignal]
          rcases point.signal_cases course.shared.upkeep with
            hnone | ⟨hfails, ⟨next, rfl⟩, hanswers⟩
          · exact .inl hnone
          · exact .inr (.inr ⟨hfails, .inl ⟨hanswers, .inr ⟨wall, next, rfl, hrounds⟩⟩⟩)

theorem signal_of_forces (h : Forces moment) : moment.signal = .force := by
  obtain ⟨course, event⟩ := moment
  obtain ⟨i, wall, hevent, hi⟩ := h
  dsimp only at hevent hi
  subst hevent
  simp [signal, hi, KeeperCall.signal]

theorem gate_after (moment : KeeperMoment) :
    (after moment).shared.monitor.gate =
      moment.1.shared.monitor.gate.heed moment.1.now moment.signal :=
  (KeeperCourse.next_rears moment.1 moment.2).gate_eq

/-- A restart is granted to a failure only, when the cooldown is over. -/
theorem Grants.gate (h : Grants moment) :
    moment.signal = .failure ∧
      moment.1.shared.monitor.gate.coolingFor? moment.1.now = none ∧
      (after moment).shared.monitor.gate =
        { moment.1.shared.monitor.gate with
          restarts := moment.1.shared.monitor.gate.restarts + 1
          last := some moment.1.now } := by
  have hgate := gate_after moment
  unfold Grants at h
  rw [hgate] at h ⊢
  cases hsignal : moment.signal with
  | nothing =>
    rw [hsignal] at h
    exact absurd h.symm (Nat.succ_ne_self _)
  | force =>
    rw [hsignal] at h
    exact absurd h.symm (Nat.succ_ne_zero _)
  | failure =>
    rw [hsignal] at h
    rcases RestartGate.acquire_cases moment.1.shared.monitor.gate moment.1.now with
      hsame | ⟨hcooled, hleft, hgranted⟩
    · have hsame' : (moment.1.shared.monitor.gate.heed moment.1.now .failure).restarts =
          moment.1.shared.monitor.gate.restarts := congrArg RestartGate.restarts hsame
      rw [hsame'] at h
      exact absurd h.symm (Nat.succ_ne_self _)
    · exact ⟨rfl, hcooled, hgranted⟩

/-- What neither grants a restart nor forces one leaves the gate alone. -/
theorem gate_after_of_not (hgrants : ¬Grants moment) (hforces : ¬Forces moment) :
    (after moment).shared.monitor.gate = moment.1.shared.monitor.gate := by
  have hgate := gate_after moment
  rcases moment.signal_cases with hsignal | ⟨-, hforced⟩ | ⟨hsignal, -⟩
  · rw [hgate, hsignal]
    rfl
  · exact absurd hforced hforces
  · rw [hsignal] at hgate
    rcases RestartGate.acquire_cases moment.1.shared.monitor.gate moment.1.now with
      hsame | ⟨-, -, hgranted⟩
    · exact hgate.trans hsame
    · exact absurd (congrArg RestartGate.restarts (hgate.trans hgranted)) hgrants

end KeeperMoment

/-! ### Numbers of processes -/

namespace Keeper

variable {keeper : Keeper Vicinity}

/-- Processes are known by the launches before theirs. -/
structure Numbered (keeper : Keeper Vicinity) : Prop where
  launched : keeper.monitor.generation = keeper.around.launched
  child : ∀ child, keeper.monitor.child = some child → child.generation = child.process + 1
  watched : ∀ child, Standing.waiting (.watching child) ∈ keeper.watches →
    child.generation = child.process + 1

/-- The process that has the number of one that is watched is this one. -/
theorem Numbered.child_of_isCurrent (h : keeper.Numbered) {child : Child}
    (hwatched : Standing.waiting (.watching child) ∈ keeper.watches)
    (hcurrent : keeper.monitor.isCurrent child.generation = true) :
    keeper.monitor.child = some child := by
  cases hfound : keeper.monitor.child with
  | none => simp [Monitor.isCurrent, hfound] at hcurrent
  | some found =>
    have hsame : found.generation = child.generation := by
      simpa [Monitor.isCurrent, hfound] using hcurrent
    have hprocess : found.process = child.process := by
      have hsucc : found.process + 1 = child.process + 1 :=
        (h.child found hfound).symm.trans (hsame.trans (h.watched child hwatched))
      exact Nat.succ.inj hsucc
    obtain ⟨generation, process⟩ := found
    obtain ⟨generation', process'⟩ := child
    dsimp only at hsame hprocess
    rw [hsame, hprocess]

/-- Nothing else matters to numbers. -/
theorem Numbered.of_rears {gate : RestartGate} {keeper' : Keeper Vicinity} (h : keeper.Numbered)
    (hrears : Rears gate keeper.upkeep keeper'.upkeep)
    (hwatches : ∀ child, Standing.waiting (.watching child) ∈ keeper'.watches →
      Standing.waiting (.watching child) ∈ keeper.watches ∨
        keeper'.monitor.child = some child) : keeper'.Numbered := by
  have hchild (child : Child) (hchild : keeper'.monitor.child = some child) :
      child.generation = child.process + 1 := by
    cases hrears with
    | keeps gate generation launched kept =>
      rcases kept with hsame | hnone
      · exact h.child child (hsame.symm.trans hchild)
      · exact absurd (hnone.symm.trans hchild) nofun
    | adopts gate generation launched adopted =>
      obtain rfl := Option.some.inj (adopted.symm.trans hchild)
      exact congrArg (· + 1) h.launched
  refine ⟨?_, hchild, fun child hwatched => ?_⟩
  · cases hrears with
    | keeps gate generation launched => exact generation.trans (h.launched.trans launched.symm)
    | adopts gate generation launched =>
      exact generation.trans ((congrArg (· + 1) h.launched).trans launched.symm)
  · exact (hwatches child hwatched).elim (h.watched child) (hchild child)

theorem watched_withUpkeep {upkeep : Upkeep Vicinity} {child : Child}
    (h : Standing.waiting (.watching child) ∈ (keeper.withUpkeep upkeep).watches) :
    Standing.waiting (.watching child) ∈ keeper.watches ∨ upkeep.monitor.child = some child := by
  refine (mem_watches_withUpkeep h).imp_right ?_
  rintro ⟨found, hfound, ⟨⟩⟩
  exact hfound

theorem Numbered.withUpkeep {gate : RestartGate} {upkeep : Upkeep Vicinity} (h : keeper.Numbered)
    (hrears : Rears gate keeper.upkeep upkeep) : (keeper.withUpkeep upkeep).Numbered := by
  rw [← upkeep_withUpkeep keeper upkeep] at hrears
  refine h.of_rears hrears fun child hwatched => ?_
  rw [monitor, upkeep_withUpkeep]
  exact watched_withUpkeep hwatched

end Keeper

namespace Keeper

variable {keeper : Keeper Vicinity} {now : Instant}

theorem Numbered.stepTask (h : keeper.Numbered) (wall : Nat) (task : KeeperTask) :
    (keeper.stepTask .free now wall task).1.Numbered := by
  refine h.of_rears (keeper.rears_stepTask wall task) fun child hwatched => ?_
  have hmoves := keeper.taskMoves now wall task
  generalize (keeper.stepTask .free now wall task).1 = keeper' at hmoves hwatched ⊢
  cases hmoves with
  | rests => exact .inl hwatched
  | watches i point upkeep progress watch stands step ends =>
    show _ ∨ (keeper.withUpkeep upkeep).upkeep.monitor.child = some child
    rw [upkeep_withUpkeep]
    rcases List.mem_or_eq_of_mem_set hwatched with hmem | hsame
    · exact watched_withUpkeep hmem
    · exact absurd hsame.symm (ends child)
  | asks point upkeep progress rounds stands step =>
    show _ ∨ (keeper.withUpkeep upkeep).upkeep.monitor.child = some child
    rw [upkeep_withUpkeep]
    exact watched_withUpkeep hwatched

theorem watches_stopRounds (keeper : Keeper Vicinity) :
    keeper.stopRounds.watches = keeper.watches := by
  unfold stopRounds
  split <;> rfl

theorem Numbered.undergo (h : keeper.Numbered) (event : KeeperEvent) :
    (keeper.undergo now event).Numbered := by
  cases event with
  | works task wall => exact h.stepTask wall task
  | startsRounds =>
    refine h.of_rears (keeper.rears_undergo now .startsRounds) fun child hwatched => ?_
    exact .inl (watches_stopRounds keeper ▸ hwatched)
  | stops =>
    refine h.of_rears (keeper.rears_undergo now .stops) fun child hwatched => ?_
    exact .inl (watches_stopRounds keeper ▸ hwatched)
  | answers isReady =>
    exact h.of_rears (keeper.rears_undergo now (.answers isReady)) fun _ => .inl
  | refuses reason =>
    exact h.of_rears (keeper.rears_undergo now (.refuses reason)) fun _ => .inl
  | exits process =>
    exact h.of_rears (keeper.rears_undergo now (.exits process)) fun _ => .inl

end Keeper

/-! ### Orders -/

namespace Errand

/-- Whether one has a restart granted or forced, and has not tried to launch a proxy since. -/
def Ordered : Errand → Prop
  | .queued _ true | .clearing _ | .spawning _ false => True
  | _ => False

end Errand

/-- Nobody is to launch another proxy unless a restart is granted or forced. -/
theorem ErrandMoves.ordered {outline outline' : Outline} {errand errand' : Errand}
    (h : ErrandMoves outline errand outline' errand') (hnew : errand'.Ordered) :
    errand.Ordered ∧ outline'.around.calls = outline.around.calls ∨ errand = .forcing ∨
      outline'.gate.restarts = outline.gate.restarts + 1 := by
  cases h with
  | stays => exact .inl ⟨hnew, rfl⟩
  | cleared => exact .inl ⟨trivial, rfl⟩
  | clears => exact .inl ⟨trivial, by rw [Outline.calls_dismiss]⟩
  | restarts errand errand' outline' now stands left begins =>
    exact .inr (.inr (by rw [begins.flags.2.2]))
  | forces => exact .inr (.inl rfl)
  | _ => exact hnew.elim

theorem Affairs.ordered_moves {affairs affairs' : Affairs} {worker? : Option KeeperWorker}
    (hmoves : AffairsMoves affairs worker? affairs') (other : KeeperWorker)
    (hnew : (affairs'.errands other).Ordered) :
    (affairs.errands other).Ordered ∧ (worker? = some other →
        affairs'.outline.around.calls = affairs.outline.around.calls) ∨
      worker? = some other ∧ (affairs.errands other = .forcing ∨
        affairs'.outline.gate.restarts = affairs.outline.gate.restarts + 1) := by
  -- Nothing happens to those who neither go on nor are given up.
  have hothers {worker : KeeperWorker} {outline : Outline} {errand : Errand}
      (hother : other ≠ worker)
      (hnew : ((affairs.put worker outline errand).errands other).Ordered) :
      (affairs.errands other).Ordered := by
    rwa [errands_put_of_ne hother] at hnew
  cases hmoves with
  | rests => exact .inl ⟨hnew, fun _ => rfl⟩
  | changes => exact .inl ⟨hnew, nofun⟩
  | begins worker errand new early =>
    by_cases hother : other = worker
    · subst hother
      rw [errands_put_self] at hnew
      rcases early with rfl | rfl <;> exact hnew.elim
    · exact .inl ⟨hothers hother hnew, nofun⟩
  | drops worker | halts worker =>
    by_cases hother : other = worker
    · subst hother
      rw [errands_put_self] at hnew
      exact hnew.elim
    · exact .inl ⟨hothers hother hnew, nofun⟩
  | works worker outline errand moves =>
    by_cases hother : other = worker
    · subst hother
      rw [errands_put_self] at hnew
      rcases moves.ordered hnew with ⟨hold, hcalls⟩ | horders
      · exact .inl ⟨hold, fun _ => hcalls⟩
      · exact .inr ⟨rfl, horders⟩
    · exact .inl ⟨hothers hother hnew, fun hsame => absurd (Option.some.inj hsame).symm hother⟩

/-- Whether somebody has had a restart granted, or has forced one, and has not tried to launch a
    proxy since. -/
def KeeperMoment.Ordered (past : List KeeperMoment) (worker : KeeperWorker) : Prop :=
  ∃ before order since, past = before ++ order :: since ∧
    KeeperWorker.of? order.2 = some worker ∧ (Grants order ∨ Forces order) ∧
    ∀ other ∈ since, KeeperWorker.of? other.2 = some worker → ¬CallsSpawner other

/-! ### Courses -/

namespace KeeperCourse

variable {course : KeeperCourse} {event : KeeperCourseEvent} {worker : KeeperWorker}

/-- A launch that is ordered was so before, unless it is ordered right now. -/
theorem ordered_next (h : (errand (keeperRules.next course event) worker).Ordered) :
    (errand course worker).Ordered ∧
        (KeeperWorker.of? event = some worker → ¬CallsSpawner (course, event)) ∨
      KeeperWorker.of? event = some worker ∧
        (Grants (course, event) ∨ Forces (course, event)) := by
  rcases Affairs.ordered_moves (next_affairs course event) worker h with
    ⟨hold, hcalls⟩ | ⟨hworker, hforcing | hgrants⟩
  · exact .inl ⟨hold, fun hworker hspawns => hspawns (hcalls hworker)⟩
  · refine .inr ⟨hworker, .inr ?_⟩
    by_contra hforces
    exact ne_forcing_of_not_forces hforces worker hworker hforcing
  · exact .inr ⟨hworker, .inl hgrants⟩

theorem ordered_after (settings : MonitorSettings) (events : List KeeperCourseEvent) :
    ∀ worker, (errand (keeperRules.after (start settings) events) worker).Ordered →
      Ordered (keeperRules.history (start settings) events) worker := by
  refine keeperRules.history_induction
    (motive := fun past course => ∀ worker, (errand course worker).Ordered → Ordered past worker)
    ?_ ?_ events
  · intro worker hordered
    have hidle : errand (start settings) worker = .idle := by
      rcases worker with i | i | _ <;> rfl
    rw [hidle] at hordered
    exact hordered.elim
  · intro past course event ih worker hordered
    rcases ordered_next hordered with ⟨hold, hnospawn⟩ | ⟨hworker, horders⟩
    · obtain ⟨before, order, since, rfl, hworker, horders, hsince⟩ := ih worker hold
      refine ⟨before, order, since ++ [(course, event)], by simp, hworker, horders, ?_⟩
      intro other hother
      rcases List.mem_append.mp hother with hother | hother
      · exact hsince other hother
      · obtain rfl := List.mem_singleton.mp hother
        exact hnospawn
    · exact ⟨past, (course, event), [], rfl, hworker, horders, List.forall_mem_nil _⟩

/-- Every attempt to launch a process is made because a proxy is asked for, or because it was
    ordered. -/
theorem accounted (settings : MonitorSettings) (events : List KeeperCourseEvent)
    (event : KeeperCourseEvent)
    (h : CallsSpawner (keeperRules.after (start settings) events, event)) :
    DemandsLaunch (keeperRules.after (start settings) events, event) ∨
      ∃ worker, KeeperWorker.of? event = some worker ∧
        Ordered (keeperRules.history (start settings) events) worker := by
  obtain ⟨worker, ticket, isDemanded, hworker, hspawning⟩ :=
    Affairs.calls_moves (next_affairs _ event) h
  cases isDemanded with
  | false =>
    refine .inr ⟨worker, hworker, ordered_after settings events worker ?_⟩
    have hordered : (errand (keeperRules.after (start settings) events) worker).Ordered := by
      rw [show errand (keeperRules.after (start settings) events) worker = _ from hspawning]
      trivial
    exact hordered
  | true =>
    obtain ⟨i, rfl, hi⟩ := exists_of_spawning hspawning
    obtain ⟨wall, rfl⟩ := KeeperWorker.exists_of_call hworker
    exact .inl ⟨i, wall, ticket, rfl, hi⟩

theorem fits_after (settings : MonitorSettings) (events : List KeeperCourseEvent) :
    (keeperRules.after (start settings) events).shared.monitor.gate.Fits settings := by
  induction events using List.reverseRecOn with
  | nil => exact ⟨rfl, rfl, Nat.zero_le _⟩
  | append_singleton events event ih =>
    rw [CrowdRules.after_concat]
    have hgate := (next_rears (keeperRules.after (start settings) events) event).gate_eq
    rw [Keeper.monitor, hgate]
    exact ih.heed _

/-- As many restarts as were granted since any moment are counted, if none was forced since. -/
theorem counted_after (settings : MonitorSettings) (events : List KeeperCourseEvent) :
    ∀ before since, keeperRules.history (start settings) events = before ++ since →
      (∀ moment ∈ since, ¬Forces moment) →
      since.countP (fun moment => Grants moment) ≤
        (keeperRules.after (start settings) events).shared.monitor.gate.restarts := by
  refine keeperRules.history_induction (motive := fun past course => ∀ before since,
    past = before ++ since → (∀ moment ∈ since, ¬Forces moment) →
    since.countP (fun moment => Grants moment) ≤ course.shared.monitor.gate.restarts) ?_ ?_ events
  · intro before since hsplit hforces
    obtain ⟨-, rfl⟩ := List.append_eq_nil_iff.mp hsplit.symm
    exact Nat.zero_le _
  · intro past course event ih before since hsplit hforces
    rcases List.eq_nil_or_concat since with rfl | ⟨rest, last, rfl⟩
    · exact Nat.zero_le _
    · rw [List.concat_eq_append] at hforces ⊢
      rw [List.concat_eq_append, ← List.append_assoc] at hsplit
      obtain ⟨hpast, hlast⟩ := List.append_inj' hsplit rfl
      obtain rfl := List.singleton_inj.mp hlast
      have hrest := ih before rest hpast fun moment hmem => hforces moment (by simp [hmem])
      rw [List.countP_append, List.countP_singleton]
      by_cases hgrants : Grants (course, event)
      · rw [show (keeperRules.next course event).shared.monitor.gate.restarts = _ from hgrants]
        simpa [hgrants] using hrest
      · have hgate := gate_after_of_not hgrants (hforces (course, event) (by simp))
        rw [show (keeperRules.next course event).shared.monitor.gate = _ from hgate]
        simpa [hgrants] using hrest

theorem numbered_next (h : course.shared.Numbered) (event : KeeperCourseEvent) :
    (keeperRules.next course event).shared.Numbered := by
  have hrears := next_rears course event
  have hnext := keeperRules.next_moves course event
  generalize keeperRules.next course event = course' at hnext hrears ⊢
  cases hnext with
  | blocks | misses | begins | waits => exact h
  | moves i wall call call' keeper stands step
  | finishes i wall call reply keeper stands step =>
    refine h.of_rears hrears fun child hwatched => ?_
    obtain ⟨stepped, -, hstep⟩ := call.comes course.now wall course.shared
    obtain ⟨rfl, -⟩ := Prod.mk.inj (hstep.symm.trans step)
    show _ ∨ (course.shared.withUpkeep stepped.1).upkeep.monitor.child = some child
    rw [Keeper.upkeep_withUpkeep]
    exact Keeper.watched_withUpkeep hwatched
  | givesUp i call stands => exact h.of_rears hrears fun _ => .inl
  | occurs event => exact h.undergo event

theorem numbered_after (settings : MonitorSettings) (events : List KeeperCourseEvent) :
    (keeperRules.after (start settings) events).shared.Numbered := by
  induction events using List.reverseRecOn with
  | nil => exact ⟨rfl, nofun, fun _ hmem => absurd hmem List.not_mem_nil⟩
  | append_singleton events event ih =>
    rw [CrowdRules.after_concat]
    exact numbered_next ih event

/-- Nothing that was launched before is as new as a process that is launched now, and the monitor
    has looked after its process ever since that was launched. -/
structure Attended (past : List KeeperMoment) (course : KeeperCourse) : Prop where
  launched : ∀ other ∈ past, other.1.shared.around.launched ≤ course.shared.around.launched
  ever : ∀ child, course.shared.monitor.child = some child → ∀ other ∈ past,
    child.process < other.1.shared.around.launched → other.1.shared.monitor.child = some child

theorem Attended.next {past : List KeeperMoment} {course : KeeperCourse} (h : Attended past course)
    (event : KeeperCourseEvent) :
    Attended (past ++ [(course, event)]) (keeperRules.next course event) := by
  have hlater : ∀ other ∈ past ++ [(course, event)],
      other.1.shared.around.launched ≤ course.shared.around.launched := by
    intro other hmem
    rcases List.mem_append.mp hmem with hmem | hmem
    · exact h.launched other hmem
    · obtain rfl := List.mem_singleton.mp hmem
      exact Nat.le_refl _
  cases next_rears course event with
  | keeps gate generation launched kept =>
    refine ⟨fun other hmem => Nat.le_trans (hlater other hmem) (Nat.le_of_eq launched.symm), ?_⟩
    intro child hchild other hmem hlt
    have hbefore : course.shared.monitor.child = some child := by
      rcases kept with hsame | hnone
      · exact hsame.symm.trans hchild
      · exact absurd (hnone.symm.trans hchild) nofun
    rcases List.mem_append.mp hmem with hmem | hmem
    · exact h.ever child hbefore other hmem hlt
    · obtain rfl := List.mem_singleton.mp hmem
      exact hbefore
  | adopts gate generation launched adopted =>
    refine ⟨fun other hmem => Nat.le_trans (hlater other hmem) (launched ▸ Nat.le_succ _), ?_⟩
    intro child hchild other hmem hlt
    obtain rfl := Option.some.inj (adopted.symm.trans hchild)
    exact absurd hlt (Nat.not_lt.mpr (hlater other hmem))

theorem attended_after (settings : MonitorSettings) (events : List KeeperCourseEvent) :
    Attended (keeperRules.history (start settings) events)
      (keeperRules.after (start settings) events) :=
  keeperRules.history_induction (motive := Attended)
    ⟨List.forall_mem_nil _, fun _ _ => List.forall_mem_nil _⟩
    (fun _ _ event h => h.next event) events

/-- The gate knows of a time that is not before any restart that was granted or forced. -/
theorem rested_after (settings : MonitorSettings) (events : List KeeperCourseEvent) :
    (∀ last, (keeperRules.after (start settings) events).shared.monitor.gate.last = some last →
        last ≤ (keeperRules.after (start settings) events).now) ∧
      ∀ other ∈ keeperRules.history (start settings) events, Grants other ∨ Forces other →
        ∃ last, (keeperRules.after (start settings) events).shared.monitor.gate.last = some last ∧
          other.1.now ≤ last := by
  refine keeperRules.history_induction (motive := fun past course =>
    (∀ last, course.shared.monitor.gate.last = some last → last ≤ course.now) ∧
      ∀ other ∈ past, Grants other ∨ Forces other →
        ∃ last, course.shared.monitor.gate.last = some last ∧ other.1.now ≤ last)
    ⟨fun _ h => (Option.some_ne_none _ h.symm).elim, List.forall_mem_nil _⟩ ?_ events
  rintro past course event ⟨hpast, hrested⟩
  have hnow : course.now ≤ (keeperRules.next course event).now := by
    have hmoves := keeperRules.next_moves course event
    generalize keeperRules.next course event = course' at hmoves
    cases hmoves with
    | waits => exact Nat.le_add_right _ _
    | _ => exact Nat.le_refl _
  by_cases horders : Grants (course, event) ∨ Forces (course, event)
  · -- From now on the gate knows of this time.
    have hlast : (keeperRules.next course event).shared.monitor.gate.last = some course.now := by
      rcases horders with hgrants | hforces
      · exact congrArg RestartGate.last hgrants.gate.2.2
      · have hgate := gate_after (course, event)
        rw [signal_of_forces hforces] at hgate
        exact congrArg RestartGate.last hgate
    refine ⟨fun last h => ?_, fun other hmem hother => ⟨course.now, hlast, ?_⟩⟩
    · obtain rfl := Option.some.inj (hlast.symm.trans h)
      exact hnow
    · rcases List.mem_append.mp hmem with hmem | hmem
      · obtain ⟨last, hlast, hle⟩ := hrested other hmem hother
        exact Nat.le_trans hle (hpast last hlast)
      · obtain rfl := List.mem_singleton.mp hmem
        exact Nat.le_refl _
  · obtain ⟨hgrants, hforces⟩ := not_or.mp horders
    have hgate : (keeperRules.next course event).shared.monitor.gate =
        course.shared.monitor.gate := gate_after_of_not hgrants hforces
    rw [hgate]
    refine ⟨fun last h => Nat.le_trans (hpast last h) hnow, fun other hmem hother => ?_⟩
    rcases List.mem_append.mp hmem with hmem | hmem
    · exact hrested other hmem hother
    · obtain rfl := List.mem_singleton.mp hmem
      exact absurd hother horders

end KeeperCourse

/-- How the restarts of a monitor are measured out. -/
structure Measured (settings : MonitorSettings) (past : List KeeperMoment) : Prop where
  /-- As long as none is forced, no more restarts are granted than the budget allows. -/
  limited : ∀ before between later, past = before ++ between ++ later →
    (∀ moment ∈ between, ¬Forces moment) →
    between.countP (fun moment => Grants moment) ≤ settings.restartBudget
  /-- The cooldown passes between a restart and the next one that is granted. -/
  spaced : ∀ before first between second later,
    past = before ++ first :: between ++ second :: later → Grants first ∨ Forces first →
    Grants second → first.1.now + settings.restartCooldown ≤ second.1.now
  /-- A process is launched because a proxy is asked for, or because a restart was granted or
      forced, which is good for one attempt. -/
  accounted : ∀ before moment later, past = before ++ moment :: later → CallsSpawner moment →
    moment.after.shared.around.calls = moment.1.shared.around.calls + 1 ∧
      (DemandsLaunch moment ∨ ∃ worker, KeeperWorker.of? moment.2 = some worker ∧
        Ordered before worker)
  /-- A restart is granted for a proxy that is silent, or for the exit of the process that the
      monitor looks after. -/
  earned : ∀ before moment later, past = before ++ moment :: later → Grants moment →
    FailsProbe moment ∨ ∃ child, FindsExit before moment child

namespace KeeperCourse

variable {settings : MonitorSettings} {events : List KeeperCourseEvent}
  {before between later : List KeeperMoment} {first second moment : KeeperMoment}

theorem limited (settings : MonitorSettings) (events : List KeeperCourseEvent)
    (hsplit : keeperRules.history (start settings) events = before ++ between)
    (hforces : ∀ moment ∈ between, ¬Forces moment) :
    between.countP (fun moment => Grants moment) ≤ settings.restartBudget := by
  have hfits := fits_after settings events
  calc between.countP (fun moment => Grants moment)
      ≤ _ := counted_after settings events before between hsplit hforces
    _ ≤ _ := hfits.within
    _ = settings.restartBudget := hfits.budget

theorem spaced (hfirst : first ∈ keeperRules.history (start settings) events)
    (horders : Grants first ∨ Forces first)
    (hgrants : Grants second) (hsecond : keeperRules.after (start settings) events = second.1) :
    first.1.now + settings.restartCooldown ≤ second.1.now := by
  have hrested := rested_after settings events
  have hcooldown := (fits_after settings events).cooldown
  rw [hsecond] at hrested hcooldown
  obtain ⟨last, hlast, hle⟩ := hrested.2 first hfirst horders
  calc first.1.now + settings.restartCooldown
      ≤ last + settings.restartCooldown := Nat.add_le_add_right hle _
    _ = last + second.1.shared.monitor.gate.cooldown := by rw [← hcooldown]
    _ ≤ second.1.now :=
      RestartGate.cooled_of_coolingFor? hgrants.gate.2.1 hlast (hrested.1 last hlast)

theorem earned (settings : MonitorSettings) (events : List KeeperCourseEvent)
    (hmoment : keeperRules.after (start settings) events = moment.1) (hgrants : Grants moment) :
    FailsProbe moment ∨
      ∃ child, FindsExit (keeperRules.history (start settings) events) moment child := by
  rcases moment.signal_cases with hsignal | ⟨hsignal, -⟩ | ⟨-, hprobe | hwatch⟩
  · exact absurd (hsignal.symm.trans hgrants.gate.1) nofun
  · exact absurd (hsignal.symm.trans hgrants.gate.1) nofun
  · exact .inl hprobe
  · obtain ⟨i, wall, child, hevent, hstands, hexited, hcurrent⟩ := hwatch
    have hnumbered := numbered_after settings events
    have hkept := (sound_after settings events).kept
    have hattended := attended_after settings events
    rw [hmoment] at hnumbered hkept hattended
    have hchild : moment.1.shared.monitor.child = some child :=
      hnumbered.child_of_isCurrent (List.mem_of_getElem? hstands) hcurrent
    exact .inr ⟨child, ⟨i, wall, hevent, hstands⟩, hexited, hkept.spared child hchild, hchild,
      hattended.ever child hchild⟩

/-- Whatever happens to a monitor, and in whatever order: between two forced launches no more
    restarts are granted than the budget allows, the cooldown passes before each of them, each is
    good for one attempt to launch a process, and only a proxy that is silent or the exit of the
    process that the monitor looks after makes for one. -/
theorem restarts_measured (settings : MonitorSettings) (events : List KeeperCourseEvent) :
    Measured settings (keeperRules.history (start settings) events) where
  limited := by
    intro before between later hsplit hforces
    cases later with
    | nil => exact limited settings events (by simpa using hsplit) hforces
    | cons moment rest =>
      obtain ⟨earlier, hbefore, -⟩ := keeperRules.history_split hsplit
      exact limited settings earlier hbefore hforces
  spaced := by
    intro before first between second later hsplit horders hgrants
    obtain ⟨earlier, hbefore, hsecond⟩ := keeperRules.history_split hsplit
    have hfirst : first ∈ keeperRules.history (start settings) earlier := by simp [hbefore]
    exact spaced hfirst horders hgrants hsecond
  accounted := by
    rintro before ⟨course, event⟩ later hsplit hcalls
    obtain ⟨earlier, rfl, rfl⟩ := keeperRules.history_split hsplit
    exact ⟨(Affairs.calls_cases (next_affairs _ event)).resolve_left hcalls |>.1,
      accounted settings earlier event hcalls⟩
  earned := by
    intro before moment later hsplit hgrants
    obtain ⟨earlier, rfl, hmoment⟩ := keeperRules.history_split hsplit
    exact earned settings earlier hmoment hgrants

end KeeperCourse

end SymbolSearch
