import SymbolSearch.Proofs.Monitor.GateHistory
import SymbolSearch.Proofs.Monitor.GivingUp

/-!
# Restarts that are granted

A failure of the proxy goes to the restart gate, which grants a restart or does not. Whatever
happens to a monitor, the gate hears of nothing else but failures and forced launches.

* `RestartGate.heed` — what the gate makes of what it hears.
* `KeeperMoment.signal` — what the gate hears at a moment.
* `Upkeep.Rears` — what a step can do to the process of the monitor, where it leads to a gate; with
  `KeeperCourse.next_rears` it is what any event can do.
* `TaskMoves` — what a step of a task of the monitor can do.
-/

namespace SymbolSearch

/-! ### The gate -/

/-- What the restart gate may hear. -/
inductive GateSignal where
  | nothing
  /-- The proxy has failed. -/
  | failure
  /-- A launch is forced. -/
  | force
  deriving DecidableEq

namespace RestartGate

variable {gate gate' : RestartGate} {now : Instant}

/-- The gate after what it hears. -/
def heed (now : Instant) (gate : RestartGate) : GateSignal → RestartGate
  | .nothing => gate
  | .failure => (gate.acquire now).2
  | .force => gate.force now

/-- A failure leaves the gate as it is, or has a restart granted. -/
theorem acquire_cases (gate : RestartGate) (now : Instant) :
    (gate.acquire now).2 = gate ∨
      gate.coolingFor? now = none ∧ gate.restarts < gate.budget ∧
        (gate.acquire now).2 =
          { gate with restarts := gate.restarts + 1, last := some now } := by
  obtain ⟨decision, gate', hacquire, hdecides⟩ := gate.exists_decides now
  rw [hacquire]
  cases hdecides with
  | cooling | exhausted => exact .inl rfl
  | allowed cooled left => exact .inr ⟨cooled_iff.mp cooled, left, rfl⟩

/-- The cooldown that is over has passed since the last restart. -/
theorem cooled_of_coolingFor? (h : gate.coolingFor? now = none) {last : Instant}
    (hlast : gate.last = some last) (hle : last ≤ now) : last + gate.cooldown ≤ now :=
  Nat.add_le_of_le_sub' hle (cooled_iff.mpr h last hlast)

/-- A gate with the budget and the cooldown of the settings, whose budget is not overdrawn. -/
structure Fits (settings : MonitorSettings) (gate : RestartGate) : Prop where
  budget : gate.budget = settings.restartBudget
  cooldown : gate.cooldown = settings.restartCooldown
  within : gate.restarts ≤ gate.budget

theorem Fits.heed {settings : MonitorSettings} (h : gate.Fits settings) (signal : GateSignal) :
    (gate.heed now signal).Fits settings := by
  cases signal with
  | nothing => exact h
  | force => exact ⟨h.budget, h.cooldown, Nat.zero_le _⟩
  | failure =>
    show ((gate.acquire now).2).Fits settings
    rcases gate.acquire_cases now with hsame | ⟨-, hleft, hgranted⟩
    · rw [hsame]
      exact h
    · rw [hgranted]
      exact ⟨h.budget, h.cooldown, hleft⟩

end RestartGate

/-! ### Steps -/

variable {now : Instant}

namespace Upkeep

/-- What a step can do to the process of a monitor, where it leads to a gate. -/
inductive Rears (gate : RestartGate) (upkeep upkeep' : Upkeep Vicinity) : Prop where
  /-- No process is launched, and the one of the monitor may be given up. -/
  | keeps (gate : upkeep'.monitor.gate = gate)
      (generation : upkeep'.monitor.generation = upkeep.monitor.generation)
      (launched : upkeep'.around.launched = upkeep.around.launched)
      (child : upkeep'.monitor.child = upkeep.monitor.child ∨ upkeep'.monitor.child = none)
  | adopts (gate : upkeep'.monitor.gate = gate)
      (generation : upkeep'.monitor.generation = upkeep.monitor.generation + 1)
      (launched : upkeep'.around.launched = upkeep.around.launched + 1)
      (child : upkeep'.monitor.child =
        some ⟨upkeep.monitor.generation + 1, upkeep.around.launched⟩)

theorem Rears.gate_eq {gate : RestartGate} {upkeep upkeep' : Upkeep Vicinity}
    (h : Rears gate upkeep upkeep') : upkeep'.monitor.gate = gate := by
  cases h <;> assumption

/-- What else is done before does not matter. -/
theorem Rears.of_start {gate : RestartGate} {first upkeep upkeep' : Upkeep Vicinity}
    (h : Rears gate upkeep upkeep')
    (hgeneration : upkeep.monitor.generation = first.monitor.generation)
    (hlaunched : upkeep.around.launched = first.around.launched)
    (hchild : upkeep.monitor.child = first.monitor.child) : Rears gate first upkeep' := by
  cases h with
  | keeps gate generation launched child =>
    exact .keeps gate (generation.trans hgeneration) (launched.trans hlaunched) (hchild ▸ child)
  | adopts gate generation launched child =>
    rw [hgeneration, hlaunched] at child
    exact .adopts gate (hgeneration ▸ generation) (hlaunched ▸ launched) child

/-- What else is done afterwards does not matter. -/
theorem Rears.of_end {gate gate' : RestartGate} {upkeep upkeep' last : Upkeep Vicinity}
    (h : Rears gate upkeep upkeep') (hgate : last.monitor.gate = gate')
    (hgeneration : last.monitor.generation = upkeep'.monitor.generation)
    (hlaunched : last.around.launched = upkeep'.around.launched)
    (hchild : last.monitor.child = upkeep'.monitor.child) : Rears gate' upkeep last := by
  cases h with
  | keeps _ generation launched child =>
    exact .keeps hgate (hgeneration.trans generation) (hlaunched.trans launched) (hchild ▸ child)
  | adopts _ generation launched child =>
    exact .adopts hgate (hgeneration.trans generation) (hlaunched.trans launched)
      (hchild.trans child)

theorem rears_self (upkeep : Upkeep Vicinity) : Rears upkeep.monitor.gate upkeep upkeep :=
  .keeps rfl rfl rfl (.inl rfl)

theorem rears_killChild (upkeep : Upkeep Vicinity) :
    Rears upkeep.monitor.gate upkeep (upkeep.killChild .free).2 := by
  cases hchild : upkeep.monitor.child <;>
    simp only [killChild, hchild] <;>
    exact .keeps rfl rfl rfl (.inr rfl)

end Upkeep

open Upkeep (Rears)

theorem LaunchPoint.rears (point : LaunchPoint) (now : Instant) (upkeep : Upkeep Vicinity) :
    Rears upkeep.monitor.gate upkeep (point.step .free now upkeep).1 := by
  cases point with
  | spawning =>
    cases hrefusal : upkeep.around.refusal with
    | some reason =>
      simp only [step, Surroundings.free, hrefusal]
      exact upkeep.rears_self.of_end rfl rfl rfl rfl
    | none =>
      simp only [step, Surroundings.free, hrefusal]
      exact .adopts rfl rfl rfl rfl
  | waiting generation deadline resume =>
    simp only [step]
    split
    · cases hanswers : upkeep.around.answers <;>
        simp only [Upkeep.probe, Surroundings.free, hanswers] <;>
        exact upkeep.rears_self.of_end rfl rfl rfl rfl
    · split
      · split
        · exact upkeep.rears_killChild
        · exact upkeep.rears_self
      · exact upkeep.rears_self

namespace RelaunchPoint

theorem rears_takeTurn (ticket : Ticket) (upkeep : Upkeep Vicinity) :
    Rears upkeep.monitor.gate upkeep (takeTurn .free now ticket upkeep).1 := by
  have hkill := Upkeep.rears_killChild (upkeep.update Monitor.forgetReadiness)
  have hturn : (takeTurn .free now ticket upkeep).1 =
      ((upkeep.update Monitor.forgetReadiness).killChild .free).2 := by
    unfold takeTurn
    split <;> simp [*]
  rw [hturn]
  exact hkill.of_start rfl rfl rfl

theorem rears_start (upkeep : Upkeep Vicinity) :
    Rears upkeep.monitor.gate upkeep (start .free now upkeep).1 := by
  by_cases hheld : upkeep.join.2.monitor.turns.holds upkeep.join.1 = true
  · have hstart : start .free now upkeep = takeTurn .free now upkeep.join.1 upkeep.join.2 :=
      if_pos hheld
    rw [hstart]
    exact (rears_takeTurn upkeep.join.1 upkeep.join.2).of_start rfl rfl rfl
  · have hstart : start .free now upkeep = (upkeep.join.2, .queued upkeep.join.1) := if_neg hheld
    rw [hstart]
    exact upkeep.rears_self.of_end rfl rfl rfl rfl

theorem rears (point : RelaunchPoint) (now : Instant) (upkeep : Upkeep Vicinity) :
    Rears upkeep.monitor.gate upkeep (point.step .free now upkeep).1 := by
  cases point with
  | queued ticket =>
    simp only [step]
    split
    · exact rears_takeTurn ticket upkeep
    · exact upkeep.rears_self
  | dismissing ticket => exact upkeep.rears_self.of_end rfl rfl rfl rfl
  | stopping ticket deadline resume =>
    simp only [step]
    split
    · cases hanswers : upkeep.around.answers <;>
        simp only [Upkeep.probe, Surroundings.free, hanswers]
      · exact upkeep.rears_self.of_end rfl rfl rfl rfl
      · split <;> exact upkeep.rears_self.of_end rfl rfl rfl rfl
    · exact upkeep.rears_self
  | launching ticket launch =>
    have hlaunch := launch.rears now upkeep
    revert hlaunch
    simp only [step]
    generalize launch.step .free now upkeep = stepped
    obtain ⟨upkeep', progress⟩ := stepped
    intro hlaunch
    cases progress with
    | blocked | moved => exact hlaunch
    | finished => exact hlaunch.of_end hlaunch.gate_eq rfl rfl rfl

end RelaunchPoint

theorem DemandPoint.rears (point : DemandPoint) (now : Instant) (upkeep : Upkeep Vicinity) :
    Rears upkeep.monitor.gate upkeep (point.step .free now upkeep).1 := by
  have hturn (ticket : Ticket) (upkeep : Upkeep Vicinity) :
      Rears upkeep.monitor.gate upkeep (takeTurn now ticket upkeep).1 := by
    unfold takeTurn
    split <;> exact upkeep.rears_self.of_end rfl rfl rfl rfl
  cases point with
  | starting =>
    simp only [step]
    split
    · exact upkeep.rears_self
    · split
      · exact (hturn upkeep.join.1 upkeep.join.2).of_start rfl rfl rfl
      · exact upkeep.rears_self.of_end rfl rfl rfl rfl
  | queued ticket =>
    simp only [step]
    split
    · exact hturn ticket upkeep
    · exact upkeep.rears_self
  | asking ticket =>
    cases hanswers : upkeep.around.answers <;>
      simp only [step, Upkeep.probe, Surroundings.free, hanswers] <;>
      exact upkeep.rears_self.of_end rfl rfl rfl rfl
  | launching ticket launch =>
    have hlaunch := launch.rears now upkeep
    revert hlaunch
    simp only [step]
    generalize launch.step .free now upkeep = stepped
    obtain ⟨upkeep', progress⟩ := stepped
    intro hlaunch
    cases progress with
    | blocked | moved => exact hlaunch
    | finished => exact hlaunch.of_end hlaunch.gate_eq rfl rfl rfl

theorem Upkeep.rears_noticeFailure (upkeep : Upkeep Vicinity) :
    Rears (upkeep.monitor.gate.acquire now).2 upkeep (upkeep.noticeFailure .free now).1 := by
  generalize hacquired : upkeep.monitor.gate.acquire now = acquired
  obtain ⟨decision, gate⟩ := acquired
  let noticed := upkeep.update fun monitor =>
    { monitor with readyUntil := none, running := false, gate }
  cases decision with
  | coolingDown remaining =>
    have hstep : (upkeep.noticeFailure .free now).1 = noticed := by
      simp only [noticeFailure, hacquired, noticed]
    rw [hstep]
    exact upkeep.rears_self.of_end rfl rfl rfl rfl
  | exhausted =>
    have hstep : (upkeep.noticeFailure .free now).1 =
        noticed.update fun monitor => { monitor with permanentlyFailed := true } := by
      simp only [noticeFailure, hacquired, noticed]
    rw [hstep]
    exact upkeep.rears_self.of_end rfl rfl rfl rfl
  | allowed attempt =>
    have hstep : (upkeep.noticeFailure .free now).1 =
        (RelaunchPoint.start .free now noticed).1 := by
      simp only [noticeFailure, hacquired, noticed]
    rw [hstep]
    exact (RelaunchPoint.rears_start noticed).of_start rfl rfl rfl

/-! ### What the gate hears -/

/-- What the gate hears of a step of asking about health. -/
def ProbePoint.signal (upkeep : Upkeep Vicinity) : ProbePoint → GateSignal
  | .asking => if upkeep.around.answers then .nothing else .failure
  | _ => .nothing

/-- What the gate hears of a step of the watch of a process. -/
def WatchPoint.signal (upkeep : Upkeep Vicinity) : WatchPoint → GateSignal
  | .watching child =>
    if child.process ∈ upkeep.around.exited ∧ upkeep.monitor.isCurrent child.generation = true then
      .failure
    else .nothing
  | .recovering _ => .nothing

/-- What the gate hears of a step of the repeated questions. -/
def RoundsPoint.signal (upkeep : Upkeep Vicinity) : RoundsPoint → GateSignal
  | .probing probe _ => probe.signal upkeep
  | .resting _ => .nothing

/-- What the gate hears of a step of an operation. -/
def KeeperCall.signal (upkeep : Upkeep Vicinity) : KeeperCall → GateSignal
  | .probing point => point.signal upkeep
  | .forcing .starting => .force
  | _ => .nothing

/-- What the gate hears of a step of a task. -/
def Keeper.signal (keeper : Keeper Vicinity) : KeeperTask → GateSignal
  | .watch i =>
    ((keeper.watches[i]?).bind Standing.point?).elim .nothing (WatchPoint.signal keeper.upkeep)
  | .rounds => keeper.rounds.elim .nothing (RoundsPoint.signal keeper.upkeep)

theorem ProbePoint.rears (point : ProbePoint) (now : Instant) (wall : Nat)
    (upkeep : Upkeep Vicinity) :
    Rears (upkeep.monitor.gate.heed now (point.signal upkeep)) upkeep
      (point.step .free now wall upkeep).1 := by
  cases point with
  | starting =>
    simp only [step]
    split <;> exact upkeep.rears_self
  | asking =>
    cases hanswers : upkeep.around.answers with
    | true =>
      simp only [step, signal, Upkeep.probe, Surroundings.free, hanswers, if_true]
      exact upkeep.rears_self.of_end rfl rfl rfl rfl
    | false =>
      let checked := upkeep.update fun monitor => monitor.recordCheck wall false
      have hstep : (ProbePoint.asking.step .free now wall upkeep).1 =
          (checked.noticeFailure .free now).1 := by
        simp [step, Upkeep.probe, Surroundings.free, hanswers, checked, Stepped.map]
      rw [hstep, signal, hanswers]
      exact checked.rears_noticeFailure.of_start rfl rfl rfl
  | recovering relaunch => exact relaunch.rears now upkeep

theorem WatchPoint.rears (point : WatchPoint) (now : Instant) (upkeep : Upkeep Vicinity) :
    Rears (upkeep.monitor.gate.heed now (point.signal upkeep)) upkeep
      (point.step .free now upkeep).1 := by
  cases point with
  | watching child =>
    simp only [step, signal, Surroundings.free, List.contains_iff_mem]
    by_cases hexited : child.process ∈ upkeep.around.exited
    · by_cases hcurrent : upkeep.monitor.isCurrent child.generation = true
      · simp only [hexited, hcurrent, and_self, if_true]
        exact Upkeep.rears_noticeFailure upkeep
      · simp only [hexited, hcurrent, and_false, if_true, Bool.false_eq_true, if_false]
        exact upkeep.rears_self
    · simp only [hexited, false_and, if_false]
      exact upkeep.rears_self
  | recovering relaunch => exact relaunch.rears now upkeep

theorem RoundsPoint.rears (point : RoundsPoint) (now : Instant) (wall : Nat)
    (upkeep : Upkeep Vicinity) :
    Rears (upkeep.monitor.gate.heed now (point.signal upkeep)) upkeep
      (point.step .free now wall upkeep).1 := by
  cases point with
  | resting resume =>
    simp only [step]
    split <;> exact upkeep.rears_self
  | probing probe next =>
    have hprobe := probe.rears now wall upkeep
    revert hprobe
    simp only [step]
    generalize probe.step .free now wall upkeep = stepped
    obtain ⟨upkeep', progress⟩ := stepped
    cases progress with
    | blocked | moved => exact id
    | finished result =>
      cases result with
      | ok outcome => exact id
      | error error => cases error <;> exact id

theorem KeeperCall.rears (call : KeeperCall) (now : Instant) (wall : Nat)
    (keeper : Keeper Vicinity) :
    Rears (keeper.monitor.gate.heed now (call.signal keeper.upkeep)) keeper.upkeep
      (call.step .free now wall keeper).1.upkeep := by
  cases call with
  | ensuring point =>
    show Rears _ _ (keeper.withUpkeep _).upkeep
    rw [Keeper.upkeep_withUpkeep]
    exact point.rears now keeper.upkeep
  | probing point =>
    show Rears _ _ (keeper.withUpkeep _).upkeep
    rw [Keeper.upkeep_withUpkeep]
    exact point.rears now wall keeper.upkeep
  | forcing point =>
    show Rears _ _ (keeper.withUpkeep _).upkeep
    rw [Keeper.upkeep_withUpkeep]
    cases point with
    | starting =>
      let forced := keeper.upkeep.update fun monitor =>
        { monitor with gate := monitor.gate.force now, permanentlyFailed := false }
      exact (RelaunchPoint.rears_start forced).of_start rfl rfl rfl
    | launching relaunch => exact relaunch.rears now keeper.upkeep

/-! ### Who has to wait -/

/-- Who notices a failure does not wait. -/
theorem Upkeep.ne_blocked_of_noticeFailure (upkeep : Upkeep Vicinity) :
    (upkeep.noticeFailure .free now).2 ≠ .blocked := by
  unfold noticeFailure
  generalize upkeep.monitor.gate.acquire now = acquired
  obtain ⟨decision, gate⟩ := acquired
  cases decision <;> exact nofun

theorem ProbePoint.signal_of_blocked {point : ProbePoint} {wall : Nat} {upkeep : Upkeep Vicinity}
    (h : (point.step .free now wall upkeep).2 = .blocked) : point.signal upkeep = .nothing := by
  cases point with
  | starting | recovering => rfl
  | asking =>
    cases hanswers : upkeep.around.answers with
    | true => simp only [signal, hanswers, if_true]
    | false =>
      simp only [step, Upkeep.probe, Surroundings.free, hanswers, Bool.false_eq_true,
        if_false] at h
      exact absurd (Progress.eq_blocked_of_map h) (Upkeep.ne_blocked_of_noticeFailure _)

theorem WatchPoint.signal_of_blocked {point : WatchPoint} {upkeep : Upkeep Vicinity}
    (h : (point.step .free now upkeep).2 = .blocked) : point.signal upkeep = .nothing := by
  cases point with
  | recovering => rfl
  | watching child =>
    simp only [step, Surroundings.free, List.contains_iff_mem] at h
    simp only [signal]
    split
    next hfails =>
      rw [if_pos hfails.1, if_pos hfails.2] at h
      exact absurd (Progress.eq_blocked_of_map h) (Upkeep.ne_blocked_of_noticeFailure _)
    · rfl

theorem RoundsPoint.signal_of_blocked {point : RoundsPoint} {wall : Nat}
    {upkeep : Upkeep Vicinity} (h : (point.step .free now wall upkeep).2 = .blocked) :
    point.signal upkeep = .nothing := by
  cases point with
  | resting => rfl
  | probing probe next =>
    have hblocked : (probe.step .free now wall upkeep).2 = .blocked := by
      revert h
      simp only [step]
      generalize probe.step .free now wall upkeep = stepped
      obtain ⟨upkeep', progress⟩ := stepped
      cases progress with
      | blocked => exact fun _ => rfl
      | moved => rintro ⟨⟩
      | finished result =>
        cases result with
        | ok outcome => rintro ⟨⟩
        | error error => cases error <;> rintro ⟨⟩
    exact probe.signal_of_blocked hblocked

theorem KeeperCall.signal_of_blocked {call : KeeperCall} {wall : Nat} {keeper : Keeper Vicinity}
    (h : (call.step .free now wall keeper).2 = .blocked) :
    call.signal keeper.upkeep = .nothing := by
  cases call with
  | ensuring => rfl
  | probing point => exact ProbePoint.signal_of_blocked (Progress.eq_blocked_of_map h)
  | forcing point =>
    cases point with
    | starting => cases h
    | launching => rfl

/-- A watch that goes on is not that of a process any longer. -/
theorem WatchPoint.ne_watching {point point' : WatchPoint} {upkeep : Upkeep Vicinity}
    (h : (point.step .free now upkeep).2 = .moved point') (child : Child) :
    point' ≠ .watching child := by
  rintro rfl
  cases point with
  | recovering relaunch => cases (Progress.eq_moved_of_map h).choose_spec.2
  | watching found =>
    simp only [step] at h
    split at h
    · split at h
      · cases (Progress.eq_moved_of_map h).choose_spec.2
      · cases h
    · cases h

/-- What a step of a task can do. -/
inductive TaskMoves (now : Instant) (wall : Nat) (keeper : Keeper Vicinity) :
    KeeperTask → Keeper Vicinity → Prop where
  | rests (task : KeeperTask) (signal : keeper.signal task = .nothing) :
      TaskMoves now wall keeper task keeper
  | watches (i : Nat) (point : WatchPoint) (upkeep : Upkeep Vicinity)
      (progress : Progress WatchPoint Unit) (watch : Standing WatchPoint Unit)
      (stands : keeper.watches[i]? = some (.waiting point))
      (step : point.step .free now keeper.upkeep = (upkeep, progress))
      (ends : ∀ child, watch ≠ .waiting (.watching child)) :
      TaskMoves now wall keeper (.watch i)
        { keeper.withUpkeep upkeep with
          watches := (keeper.withUpkeep upkeep).watches.set i watch }
  | asks (point : RoundsPoint) (upkeep : Upkeep Vicinity) (progress : Progress RoundsPoint Unit)
      (rounds : Option RoundsPoint) (stands : keeper.rounds = some point)
      (step : point.step .free now wall keeper.upkeep = (upkeep, progress)) :
      TaskMoves now wall keeper .rounds { keeper.withUpkeep upkeep with rounds }

namespace Keeper

theorem signal_watch {keeper : Keeper Vicinity} {i : Nat} {point : WatchPoint}
    (h : keeper.watches[i]? = some (.waiting point)) :
    keeper.signal (.watch i) = point.signal keeper.upkeep := by
  simp [signal, h, Standing.point?]

theorem signal_rounds {keeper : Keeper Vicinity} {point : RoundsPoint}
    (h : keeper.rounds = some point) : keeper.signal .rounds = point.signal keeper.upkeep := by
  simp [signal, h]

theorem taskMoves (now : Instant) (wall : Nat) (task : KeeperTask) (keeper : Keeper Vicinity) :
    TaskMoves now wall keeper task (keeper.stepTask .free now wall task).1 := by
  cases task with
  | watch i =>
    cases hi : keeper.watches[i]? with
    | none =>
      simp only [stepTask, hi]
      exact .rests _ (by simp [signal, hi])
    | some standing =>
      cases standing with
      | ended result =>
        simp only [stepTask, hi]
        exact .rests _ (by simp [signal, hi, Standing.point?])
      | waiting point =>
        simp only [stepTask, hi, withStep]
        generalize hstep : point.step .free now keeper.upkeep = stepped
        obtain ⟨upkeep, progress⟩ := stepped
        cases progress with
        | blocked =>
          have hsignal := point.signal_of_blocked (congrArg Prod.snd hstep)
          exact .rests _ ((signal_watch hi).trans hsignal)
        | moved point' =>
          have hne := point.ne_watching (congrArg Prod.snd hstep)
          exact .watches i point upkeep _ _ hi hstep fun child hsame =>
            hne child (Standing.waiting.inj hsame)
        | finished result =>
          refine .watches i point upkeep _ _ hi hstep fun _ hsame => ?_
          cases hsame
  | rounds =>
    cases hrounds : keeper.rounds with
    | none =>
      simp only [stepTask, hrounds]
      exact .rests _ (by simp [signal, hrounds])
    | some point =>
      simp only [stepTask, hrounds, withStep]
      generalize hstep : point.step .free now wall keeper.upkeep = stepped
      obtain ⟨upkeep, progress⟩ := stepped
      cases progress with
      | blocked =>
        have hsignal := point.signal_of_blocked (congrArg Prod.snd hstep)
        exact .rests _ ((signal_rounds hrounds).trans hsignal)
      | moved | finished => exact .asks point upkeep _ _ hrounds hstep

theorem rears_stepTask (wall : Nat) (task : KeeperTask) (keeper : Keeper Vicinity) :
    Rears (keeper.monitor.gate.heed now (keeper.signal task)) keeper.upkeep
      (keeper.stepTask .free now wall task).1.upkeep := by
  have hmoves := keeper.taskMoves now wall task
  generalize (keeper.stepTask .free now wall task).1 = keeper' at hmoves ⊢
  cases hmoves with
  | rests task signal =>
    rw [signal]
    exact keeper.upkeep.rears_self
  | watches i point upkeep progress watch stands step =>
    have hpoint := point.rears now keeper.upkeep
    rw [step] at hpoint
    rw [signal_watch stands]
    show Rears _ _ (keeper.withUpkeep upkeep).upkeep
    rwa [upkeep_withUpkeep]
  | asks point upkeep progress rounds stands step =>
    have hpoint := point.rears now wall keeper.upkeep
    rw [step] at hpoint
    rw [signal_rounds stands]
    show Rears _ _ (keeper.withUpkeep upkeep).upkeep
    rwa [upkeep_withUpkeep]

end Keeper

/-! ### Events -/

/-- What the gate hears of what happens besides the steps of operations. -/
def KeeperEvent.signal (keeper : Keeper Vicinity) : KeeperEvent → GateSignal
  | .works task _ => keeper.signal task
  | _ => .nothing

/-- What the gate hears at a moment. -/
def KeeperMoment.signal (moment : KeeperMoment) : GateSignal :=
  match moment.2 with
  | .step i _ => (moment.1.task? i).elim .nothing (KeeperCall.signal moment.1.shared.upkeep)
  | .occur event => event.signal moment.1.shared
  | _ => .nothing

/-- Who gives up the repeated questions leaves the gate and the process alone. -/
theorem Keeper.stopRounds_keeps (keeper : Keeper Vicinity) :
    keeper.stopRounds.monitor.gate = keeper.monitor.gate ∧
      keeper.stopRounds.monitor.generation = keeper.monitor.generation ∧
      keeper.stopRounds.around.launched = keeper.around.launched ∧
      keeper.stopRounds.monitor.child = keeper.monitor.child := by
  unfold stopRounds
  cases keeper.rounds with
  | none => exact ⟨rfl, rfl, rfl, rfl⟩
  | some point =>
    rcases point with resume | ⟨probe, next⟩
    · exact ⟨rfl, rfl, rfl, rfl⟩
    · cases probe <;> exact ⟨rfl, rfl, rfl, rfl⟩

theorem KeeperCall.rears_cancel (call : KeeperCall) (keeper : Keeper Vicinity) :
    Rears keeper.monitor.gate keeper.upkeep (call.cancel keeper).upkeep := by
  rcases call with point | point | point <;>
    cases point <;> exact keeper.upkeep.rears_self.of_end rfl rfl rfl rfl

theorem Keeper.rears_undergo (now : Instant) (event : KeeperEvent) (keeper : Keeper Vicinity) :
    Rears (keeper.monitor.gate.heed now (event.signal keeper)) keeper.upkeep
      (keeper.undergo now event).upkeep := by
  cases event with
  | works task wall => exact keeper.rears_stepTask wall task
  | startsRounds =>
    obtain ⟨hgate, hgeneration, hlaunched, hchild⟩ := keeper.stopRounds_keeps
    exact .keeps hgate hgeneration hlaunched (.inl hchild)
  | stops =>
    obtain ⟨hgate, hgeneration, hlaunched, hchild⟩ := keeper.stopRounds_keeps
    have hstops := Upkeep.rears_killChild (keeper.stopRounds.upkeep.update Monitor.forgetReadiness)
    have hgate' : (keeper.stop .free).upkeep.monitor.gate = keeper.monitor.gate :=
      hstops.gate_eq.trans hgate
    exact (hstops.of_end hgate' rfl rfl rfl).of_start hgeneration hlaunched hchild
  | answers isReady | refuses reason => exact keeper.upkeep.rears_self.of_end rfl rfl rfl rfl
  | exits process =>
    refine keeper.upkeep.rears_self.of_end rfl rfl ?_ rfl
    show (keeper.around.exit process).launched = keeper.around.launched
    rcases Vicinity.exit_eq process keeper.around with h | h <;> rw [h]

theorem KeeperCourse.next_rears (course : KeeperCourse) (event : KeeperCourseEvent) :
    Rears (course.shared.monitor.gate.heed course.now (KeeperMoment.signal (course, event)))
      course.shared.upkeep (keeperRules.next course event).shared.upkeep := by
  have hnext := keeperRules.next_moves course event
  generalize keeperRules.next course event = course' at hnext ⊢
  cases hnext with
  | misses | begins | waits => exact course.shared.upkeep.rears_self
  | blocks i wall blocked =>
    have hsignal : KeeperMoment.signal (course, .step i wall) = .nothing := by
      cases hi : course.task? i with
      | none => simp [KeeperMoment.signal, hi]
      | some call =>
        simp only [KeeperMoment.signal, hi, Option.elim_some]
        exact KeeperCall.signal_of_blocked (blocked call hi)
    rw [hsignal]
    exact course.shared.upkeep.rears_self
  | moves i wall call call' keeper stands step
  | finishes i wall call reply keeper stands step =>
    have hcall := call.rears course.now wall course.shared
    have hsignal : KeeperMoment.signal (course, .step i wall) =
        call.signal course.shared.upkeep := by
      simp [KeeperMoment.signal, stands]
    have hshared : (call.step .free course.now wall course.shared).1 = keeper :=
      congrArg Prod.fst step
    rwa [hsignal, Crowd.shared_put, ← hshared]
  | givesUp i call stands => exact call.rears_cancel course.shared
  | occurs event => exact course.shared.rears_undergo course.now event

end SymbolSearch
