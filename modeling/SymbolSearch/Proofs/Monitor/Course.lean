import Mathlib.Logic.Function.Basic
import SymbolSearch.Monitor.Keeping
import SymbolSearch.Proofs.Sync.Crowd
import SymbolSearch.Proofs.Sync.Line

/-!
# Courses of a monitor

In a course of a monitor any number of operations go on side by side with the tasks of the monitor
itself. Proxies exit when they like, and an answer about health may be anything.

* `Vicinity` — what is around the monitor: it does what it likes, and keeps count of launches.
* `keeperRules` — how operations on a monitor begin, go on and are given up.
* `Errand` — where whoever works on the monitor stands with the launch of a proxy.
* `ErrandMoves` — all that a step can do; `KeeperCall.comes` and its kind show that it is all.
* `AffairsMoves` and `KeeperCourse.next_affairs` — what an event can do to the monitor and to all
  who work on it.
-/

namespace SymbolSearch

/-- What is around a monitor. -/
structure Vicinity where
  /-- Whether a proxy says that it is ready when it is asked. -/
  answers : Bool := false
  /-- Why no process can be launched, if none can. -/
  refusal : Option String := none
  /-- How often the monitor has tried to launch a process. -/
  calls : Nat := 0
  /-- The number of processes that were launched. They are known by the number before theirs. -/
  launched : Nat := 0
  exited : List ProcessId := []
  killed : List ProcessId := []

/-- What a monitor does to the processes around it, where these do what they like. -/
def Surroundings.free : Surroundings Vicinity where
  probe vicinity := (vicinity.answers, vicinity)
  spawn _ vicinity :=
    let vicinity := { vicinity with calls := vicinity.calls + 1 }
    match vicinity.refusal with
    | some reason => (.error reason, vicinity)
    | none => (.ok vicinity.launched, { vicinity with launched := vicinity.launched + 1 })
  shutdown vicinity := vicinity
  kill process vicinity := { vicinity with killed := process :: vicinity.killed }
  hasExited process vicinity := vicinity.exited.contains process

/-- A process has exited, or the monitor has killed it. -/
def Vicinity.Gone (vicinity : Vicinity) (process : ProcessId) : Prop :=
  process ∈ vicinity.exited ∨ process ∈ vicinity.killed

/-- A process exits, if it was launched. -/
def Vicinity.exit (process : ProcessId) (vicinity : Vicinity) : Vicinity :=
  if process < vicinity.launched then { vicinity with exited := process :: vicinity.exited }
  else vicinity

/-- A call to a monitor. -/
inductive MonitorCall where
  | ensureRunning
  | forceRestart
  | probeOnce

/-- The first point of a call. -/
def KeeperCall.enter : MonitorCall → KeeperCall
  | .ensureRunning => .ensuring .starting
  | .forceRestart => .forcing .starting
  | .probeOnce => .probing .starting

/-- What happens to a monitor besides the steps of operations. -/
inductive KeeperEvent where
  /-- A task of the monitor goes on, if it can. -/
  | works (task : KeeperTask) (wall : Nat)
  | startsRounds
  | stops
  /-- From now on a proxy says that it is ready, or does not. -/
  | answers (isReady : Bool)
  | refuses (reason : Option String)
  | exits (process : ProcessId)

/-- What an event does to a monitor. -/
def Keeper.undergo (now : Instant) (event : KeeperEvent) (keeper : Keeper Vicinity) :
    Keeper Vicinity :=
  match event with
  | .works task wall => (keeper.stepTask .free now wall task).1
  | .startsRounds => keeper.startRounds now
  | .stops => keeper.stop .free
  | .answers isReady => keeper.updateAround fun vicinity => { vicinity with answers := isReady }
  | .refuses reason => keeper.updateAround fun vicinity => { vicinity with refusal := reason }
  | .exits process => keeper.updateAround (Vicinity.exit process)

/-- How operations on a monitor go on. A step may use the time of the wall clock. -/
def keeperRules :
    CrowdRules (Keeper Vicinity) MonitorCall KeeperCall KeeperReply Nat KeeperEvent where
  enter := KeeperCall.enter
  step now wall call keeper := call.step .free now wall keeper
  cancel := KeeperCall.cancel
  occur := Keeper.undergo

/-- A monitor, the operations on it, and the time. -/
abbrev KeeperCourse := Crowd (Keeper Vicinity) KeeperCall KeeperReply

/-- One thing that happens in a course. -/
abbrev KeeperCourseEvent := CrowdEvent MonitorCall Nat KeeperEvent

/-- An event with the course in which it happens. -/
abbrev KeeperMoment := KeeperCourse × KeeperCourseEvent

/-- A monitor that has launched nothing yet. -/
def KeeperCourse.start (settings : MonitorSettings) : KeeperCourse :=
  { shared := { upkeep := { monitor := .ofSettings settings, around := {} } } }

/-! ### Errands -/

/-- Where one who works on a monitor stands with the launch of a proxy. -/
inductive Errand where
  /-- Not concerned with a launch yet, or any longer. -/
  | idle
  /-- About to launch a proxy whatever the gate says. -/
  | forcing
  /-- Asks for the health of the proxy. -/
  | asking
  /-- Waits for the turn; `isGranted` says that the launch was granted before. -/
  | queued (ticket : Ticket) (isGranted : Bool)
  /-- Has the turn, and asks whether there is a proxy that is ready. -/
  | checking (ticket : Ticket)
  /-- Has the turn, and gets rid of the proxy there is. -/
  | clearing (ticket : Ticket)
  /-- Is to launch a proxy; `isDemanded` says that the one there is was not got rid of. -/
  | spawning (ticket : Ticket) (isDemanded : Bool)
  /-- Waits for the new proxy to say that it is ready. -/
  | greeting (ticket : Ticket)
  deriving DecidableEq

namespace Errand

/-- The turn that one has or waits for. -/
def ticket? : Errand → Option Ticket
  | .idle | .forcing | .asking => none
  | .queued ticket _ | .checking ticket | .clearing ticket | .spawning ticket _
  | .greeting ticket => some ticket

/-- Whether one has the turn. -/
def Inside : Errand → Prop
  | .idle | .forcing | .asking | .queued _ _ => False
  | .checking _ | .clearing _ | .spawning _ _ | .greeting _ => True

/-- Whether one goes on without asking again whether the monitor has given up. -/
def Committed : Errand → Prop
  | .idle | .forcing | .queued _ false => False
  | .asking | .queued _ true | .checking _ | .clearing _ | .spawning _ _ | .greeting _ => True

end Errand

/-- What matters of a monitor, with what is around it, to who launches a proxy. -/
structure Outline where
  turns : Turns
  child : Option Child
  isRunning : Bool
  hasFailed : Bool
  gate : RestartGate
  around : Vicinity

namespace Outline

/-- Someone asks for the turn. -/
def join (outline : Outline) : Outline := { outline with turns := outline.turns.join.2 }

/-- Someone gives up the turn. -/
def leave (ticket : Ticket) (outline : Outline) : Outline :=
  { outline with turns := outline.turns.leave ticket }

/-- The process of the monitor is killed, if there is one. -/
def dismiss (outline : Outline) : Outline :=
  { outline with
    isRunning := false
    child := none
    around := outline.child.elim outline.around fun child =>
      Surroundings.free.kill child.process outline.around }

/-- What becomes of the monitor when an errand is given up. -/
def drop (errand : Errand) (outline : Outline) : Outline :=
  match errand.ticket? with
  | some ticket => outline.leave ticket
  | none => outline

end Outline

/-- What matters of a monitor to who launches a proxy. -/
def Upkeep.outline (upkeep : Upkeep Vicinity) : Outline where
  turns := upkeep.monitor.turns
  child := upkeep.monitor.child
  isRunning := upkeep.monitor.running
  hasFailed := upkeep.monitor.permanentlyFailed
  gate := upkeep.monitor.gate
  around := upkeep.around

/-- How the launch of another proxy begins. Who need not wait for the turn kills the process there
    is at once. -/
inductive Restarts (outline : Outline) : Outline → Errand → Prop where
  | waits : Restarts outline outline.join (.queued outline.turns.join.1 true)
  | takesTurn (held : outline.join.turns.holder = some outline.turns.join.1) :
      Restarts outline outline.join.dismiss (.clearing outline.turns.join.1)

/-- What a step on an errand can do. -/
inductive ErrandMoves (outline : Outline) : Errand → Outline → Errand → Prop where
  | stays (errand : Errand) : ErrandMoves outline errand outline errand
  | drops (errand : Errand) : ErrandMoves outline errand (outline.drop errand) .idle
  | asks (sound : outline.hasFailed = false) : ErrandMoves outline .idle outline .asking
  | joins (sound : outline.hasFailed = false) :
      ErrandMoves outline .idle outline.join (.queued outline.turns.join.1 false)
  | joinsFirst (sound : outline.hasFailed = false)
      (held : outline.join.turns.holder = some outline.turns.join.1) :
      ErrandMoves outline .idle outline.join (.checking outline.turns.join.1)
  | checks (ticket : Ticket) (sound : outline.hasFailed = false)
      (held : outline.turns.holder = some ticket) :
      ErrandMoves outline (.queued ticket false) outline (.checking ticket)
  | clears (ticket : Ticket) (held : outline.turns.holder = some ticket) :
      ErrandMoves outline (.queued ticket true) outline.dismiss (.clearing ticket)
  /-- The proxy is healthy. -/
  | hears : ErrandMoves outline .asking { outline with isRunning := true } .idle
  /-- The proxy is ready. -/
  | meets (errand : Errand) (ticket : Ticket)
      (stands : errand = .checking ticket ∨ errand = .greeting ticket) :
      ErrandMoves outline errand (Outline.leave ticket { outline with isRunning := true }) .idle
  | demands (ticket : Ticket) :
      ErrandMoves outline (.checking ticket) outline (.spawning ticket true)
  | cleared (ticket : Ticket) :
      ErrandMoves outline (.clearing ticket) outline (.spawning ticket false)
  /-- The proxy has failed, within the cooldown of the last restart. -/
  | endures (errand : Errand) (stands : errand = .idle ∨ errand = .asking) :
      ErrandMoves outline errand { outline with isRunning := false } .idle
  /-- The proxy has failed, and the budget is spent. -/
  | givesUp (errand : Errand) (stands : errand = .idle ∨ errand = .asking)
      (spent : outline.gate.budget ≤ outline.gate.restarts) :
      ErrandMoves outline errand { outline with isRunning := false, hasFailed := true } .idle
  /-- The proxy has failed, and is to be replaced. -/
  | restarts (errand errand' : Errand) (outline' : Outline) (now : Instant)
      (stands : errand = .idle ∨ errand = .asking)
      (left : outline.gate.restarts < outline.gate.budget)
      (begins : Restarts
        { outline with
          isRunning := false
          gate := { outline.gate with restarts := outline.gate.restarts + 1, last := some now } }
        outline' errand') :
      ErrandMoves outline errand outline' errand'
  | forces (errand' : Errand) (outline' : Outline) (now : Instant)
      (begins : Restarts { outline with gate := outline.gate.force now, hasFailed := false }
        outline' errand') :
      ErrandMoves outline .forcing outline' errand'
  | refused (ticket : Ticket) (isDemanded : Bool) :
      ErrandMoves outline (.spawning ticket isDemanded)
        (Outline.leave ticket
          { outline with around := { outline.around with calls := outline.around.calls + 1 } })
        .idle
  | launches (ticket : Ticket) (isDemanded : Bool) (generation : Nat) :
      ErrandMoves outline (.spawning ticket isDemanded)
        { outline with
          child := some ⟨generation, outline.around.launched⟩
          around := { outline.around with
            calls := outline.around.calls + 1
            launched := outline.around.launched + 1 } }
        (.greeting ticket)
  /-- The new proxy takes too long. -/
  | loses (ticket : Ticket) :
      ErrandMoves outline (.greeting ticket) (outline.dismiss.leave ticket) .idle

theorem Turns.holds_iff {turns : Turns} {ticket : Ticket} :
    turns.holds ticket = true ↔ turns.holder = some ticket := by
  simp [holds]

/-! ### Operations on errands -/

namespace LaunchPoint

/-- The errand of a launch by the one who has a turn. -/
def errand (ticket : Ticket) (isDemanded : Bool) : LaunchPoint → Errand
  | .spawning => .spawning ticket isDemanded
  | .waiting _ _ _ => .greeting ticket

end LaunchPoint

/-- The errand of a launch of another proxy. -/
def RelaunchPoint.errand : RelaunchPoint → Errand
  | .queued ticket => .queued ticket true
  | .dismissing ticket => .clearing ticket
  | .stopping ticket _ _ => .clearing ticket
  | .launching ticket launch => launch.errand ticket false

/-- The errand of making a proxy run. -/
def DemandPoint.errand : DemandPoint → Errand
  | .starting => .idle
  | .queued ticket => .queued ticket false
  | .asking ticket => .checking ticket
  | .launching ticket launch => launch.errand ticket true

/-- The errand of asking for the health of the proxy. -/
def ProbePoint.errand : ProbePoint → Errand
  | .starting => .idle
  | .asking => .asking
  | .recovering relaunch => relaunch.errand

/-- The errand of waiting for a process to exit. -/
def WatchPoint.errand : WatchPoint → Errand
  | .watching _ => .idle
  | .recovering relaunch => relaunch.errand

/-- The errand of the repeated questions. -/
def RoundsPoint.errand : RoundsPoint → Errand
  | .resting _ => .idle
  | .probing probe _ => probe.errand

/-- The errand of a forced launch. -/
def ForcePoint.errand : ForcePoint → Errand
  | .starting => .forcing
  | .launching relaunch => relaunch.errand

/-- The errand of an operation. -/
def KeeperCall.errand : KeeperCall → Errand
  | .ensuring point => point.errand
  | .forcing point => point.errand
  | .probing point => point.errand

/-- A step that comes to what it comes to by a move on the errand, unless it has to wait. -/
def Comes {π ρ : Type} (errandOf : π → Errand) (outline : Outline) (errand : Errand) :
    Stepped (Upkeep Vicinity) π ρ → Prop
  | (_, .blocked) => True
  | (upkeep, .moved point) => ErrandMoves outline errand upkeep.outline (errandOf point)
  | (upkeep, .finished _) => ErrandMoves outline errand upkeep.outline .idle

section Steps

variable {π π' ρ ρ' : Type} {outline : Outline} {errand : Errand}

theorem Comes.map {errandOf : π → Errand} {errandOf' : π' → Errand} {onPoint : π → π'}
    {onResult : ρ → ρ'} {stepped : Stepped (Upkeep Vicinity) π ρ}
    (h : Comes errandOf outline errand stepped)
    (hpoint : ∀ point, errandOf' (onPoint point) = errandOf point) :
    Comes errandOf' outline errand (stepped.map onPoint onResult) := by
  obtain ⟨upkeep, progress⟩ := stepped
  cases progress with
  | blocked => trivial
  | moved point =>
    show ErrandMoves outline errand upkeep.outline (errandOf' (onPoint point))
    rw [hpoint]
    exact h
  | finished result => exact h

namespace Upkeep

theorem outline_leave (upkeep : Upkeep Vicinity) (ticket : Ticket) :
    (upkeep.leave ticket).outline = upkeep.outline.leave ticket := rfl

theorem outline_killChild (upkeep : Upkeep Vicinity) :
    (upkeep.killChild .free).2.outline = upkeep.outline.dismiss := by
  cases hchild : upkeep.monitor.child <;>
    simp [killChild, hchild, outline, Outline.dismiss, update, Monitor.retire]

end Upkeep

theorem LaunchPoint.comes (point : LaunchPoint) (now : Instant) (upkeep : Upkeep Vicinity)
    (ticket : Ticket) (isDemanded : Bool) :
    match point.step .free now upkeep with
    | (_, .blocked) => True
    | (upkeep', .moved point') => ErrandMoves upkeep.outline (point.errand ticket isDemanded)
        upkeep'.outline (point'.errand ticket isDemanded)
    | (upkeep', .finished _) => ErrandMoves upkeep.outline (point.errand ticket isDemanded)
        (upkeep'.leave ticket).outline .idle := by
  cases point with
  | spawning =>
    cases hrefusal : upkeep.around.refusal with
    | some reason =>
      have hspawn : Surroundings.free.spawn now upkeep.around =
          (.error reason, { upkeep.around with calls := upkeep.around.calls + 1 }) := by
        simp [Surroundings.free, hrefusal]
      simp only [step, hspawn]
      have hmoves : ErrandMoves upkeep.outline _ _ _ := .refused ticket isDemanded
      exact hmoves
    | none =>
      have hspawn : Surroundings.free.spawn now upkeep.around =
          (.ok upkeep.around.launched, { upkeep.around with
            calls := upkeep.around.calls + 1
            launched := upkeep.around.launched + 1 }) := by
        simp [Surroundings.free, hrefusal]
      simp only [step, hspawn]
      have hmoves : ErrandMoves upkeep.outline _ _ _ :=
        .launches ticket isDemanded (upkeep.monitor.generation + 1)
      exact hmoves
  | waiting generation deadline resume =>
    by_cases hdue : isDue resume now = true
    · cases hanswers : upkeep.around.answers with
      | true =>
        simp only [step, hdue, if_true, Upkeep.probe, Surroundings.free, hanswers]
        exact .meets _ ticket (.inr rfl)
      | false =>
        simp only [step, hdue, if_true, Upkeep.probe, Surroundings.free, hanswers]
        exact .stays _
    · by_cases hlate : deadline ≤ now
      · simp only [step, if_neg hdue, if_pos hlate]
        by_cases hcurrent : upkeep.monitor.isCurrent generation = true
        · rw [if_pos hcurrent, Upkeep.outline_leave, Upkeep.outline_killChild]
          exact .loses ticket
        · rw [if_neg hcurrent]
          exact .drops (.greeting ticket)
      · simp only [step, if_neg hdue, if_neg hlate]

theorem RelaunchPoint.outline_takeTurn (now : Instant) (ticket : Ticket)
    (upkeep : Upkeep Vicinity) :
    (takeTurn .free now ticket upkeep).1.outline = upkeep.outline.dismiss ∧
      (takeTurn .free now ticket upkeep).2.errand = .clearing ticket := by
  have hkill := Upkeep.outline_killChild (upkeep.update Monitor.forgetReadiness)
  unfold takeTurn
  split
  next killed hfound =>
    rw [hfound] at hkill
    exact ⟨hkill, rfl⟩
  next killed hfound =>
    rw [hfound] at hkill
    exact ⟨hkill, rfl⟩

theorem RelaunchPoint.restarts (now : Instant) (upkeep : Upkeep Vicinity) :
    Restarts upkeep.outline (start .free now upkeep).1.outline
      (start .free now upkeep).2.errand := by
  by_cases hheld : upkeep.join.2.monitor.turns.holds upkeep.join.1 = true
  · have hstart : start .free now upkeep = takeTurn .free now upkeep.join.1 upkeep.join.2 :=
      if_pos hheld
    rw [hstart, (outline_takeTurn ..).1, (outline_takeTurn ..).2]
    exact .takesTurn (Turns.holds_iff.mp hheld)
  · have hstart : start .free now upkeep = (upkeep.join.2, .queued upkeep.join.1) := if_neg hheld
    rw [hstart]
    exact .waits

theorem RelaunchPoint.comes (point : RelaunchPoint) (now : Instant) (upkeep : Upkeep Vicinity) :
    Comes RelaunchPoint.errand upkeep.outline point.errand (point.step .free now upkeep) := by
  cases point with
  | queued ticket =>
    by_cases hheld : upkeep.monitor.turns.holds ticket = true
    · simp only [step, if_pos hheld, Comes]
      rw [(outline_takeTurn ..).1, (outline_takeTurn ..).2]
      exact .clears ticket (Turns.holds_iff.mp hheld)
    · simp only [step, if_neg hheld, Comes]
  | dismissing ticket => exact .stays (.clearing ticket)
  | stopping ticket deadline resume =>
    by_cases hdue : isDue resume now = true
    · cases hanswers : upkeep.around.answers with
      | false =>
        simp only [step, if_pos hdue, Upkeep.probe, Surroundings.free, hanswers, Comes]
        exact .cleared ticket
      | true =>
        simp only [step, if_pos hdue, Upkeep.probe, Surroundings.free, hanswers]
        split
        · exact .cleared ticket
        · exact .stays (.clearing ticket)
    · simp only [step, if_neg hdue, Comes]
  | launching ticket launch =>
    have hlaunch := launch.comes now upkeep ticket false
    revert hlaunch
    simp only [step]
    generalize launch.step .free now upkeep = stepped
    obtain ⟨upkeep', progress⟩ := stepped
    cases progress <;> exact id

theorem DemandPoint.comes (point : DemandPoint) (now : Instant) (upkeep : Upkeep Vicinity) :
    Comes DemandPoint.errand upkeep.outline point.errand (point.step .free now upkeep) := by
  -- Who knows nothing knows that the monitor has not given up.
  have hsound {monitor : Monitor} (hknown : known? now monitor = none) :
      monitor.permanentlyFailed = false := by
    unfold known? Monitor.failure? at hknown
    cases hfailed : monitor.permanentlyFailed with
    | false => rfl
    | true => simp [hfailed] at hknown
  cases point with
  | starting =>
    cases hknown : known? now upkeep.monitor with
    | some result =>
      simp only [step, hknown, Comes]
      exact .stays .idle
    | none =>
      -- Getting in line changes nothing that is known.
      have hknown' : known? now upkeep.join.2.monitor = none := hknown
      by_cases hheld : upkeep.join.2.monitor.turns.holds upkeep.join.1 = true
      · have hstep : DemandPoint.starting.step .free now upkeep =
            (upkeep.join.2, .moved (.asking upkeep.join.1)) := by
          simp only [step, hknown]
          rw [if_pos hheld, takeTurn, hknown']
        rw [hstep]
        exact .joinsFirst (hsound hknown) (Turns.holds_iff.mp hheld)
      · have hstep : DemandPoint.starting.step .free now upkeep =
            (upkeep.join.2, .moved (.queued upkeep.join.1)) := by
          simp only [step, hknown]
          rw [if_neg hheld]
        rw [hstep]
        exact .joins (hsound hknown)
  | queued ticket =>
    by_cases hheld : upkeep.monitor.turns.holds ticket = true
    · cases hknown : known? now upkeep.monitor with
      | some result =>
        simp only [step, if_pos hheld, takeTurn, hknown, Comes]
        exact .drops (.queued ticket false)
      | none =>
        simp only [step, if_pos hheld, takeTurn, hknown, Comes]
        exact .checks ticket (hsound hknown) (Turns.holds_iff.mp hheld)
    · simp only [step, if_neg hheld, Comes]
  | asking ticket =>
    cases hanswers : upkeep.around.answers with
    | true =>
      simp only [step, Upkeep.probe, Surroundings.free, hanswers, Comes]
      exact .meets _ ticket (.inl rfl)
    | false =>
      simp only [step, Upkeep.probe, Surroundings.free, hanswers, Comes]
      exact .demands ticket
  | launching ticket launch =>
    have hlaunch := launch.comes now upkeep ticket true
    revert hlaunch
    simp only [step]
    generalize launch.step .free now upkeep = stepped
    obtain ⟨upkeep', progress⟩ := stepped
    cases progress <;> exact id

theorem Upkeep.comes_noticeFailure (now : Instant) (upkeep : Upkeep Vicinity) (errand : Errand)
    (hstands : errand = .idle ∨ errand = .asking) :
    Comes RelaunchPoint.errand upkeep.outline errand (upkeep.noticeFailure .free now) := by
  cases hcooling : upkeep.monitor.gate.coolingFor? now with
  | some remaining =>
    simp only [noticeFailure, RestartGate.acquire, hcooling, Comes]
    exact .endures errand hstands
  | none =>
    by_cases hspent : upkeep.monitor.gate.budget ≤ upkeep.monitor.gate.restarts
    · simp only [noticeFailure, RestartGate.acquire, hcooling, if_pos hspent, Comes]
      exact .givesUp errand hstands hspent
    · -- The gate has granted the restart when it begins.
      let granted := upkeep.update fun monitor => { monitor with
        readyUntil := none
        running := false
        gate := { monitor.gate with restarts := monitor.gate.restarts + 1, last := some now } }
      have hstep : upkeep.noticeFailure .free now =
          ((RelaunchPoint.start .free now granted).1,
            .moved (RelaunchPoint.start .free now granted).2) := by
        simp only [noticeFailure, RestartGate.acquire, hcooling, if_neg hspent]
        rfl
      rw [hstep]
      exact .restarts errand _ _ now hstands (Nat.lt_of_not_le hspent)
        (RelaunchPoint.restarts now granted)

theorem ProbePoint.comes (point : ProbePoint) (now : Instant) (wall : Nat)
    (upkeep : Upkeep Vicinity) :
    Comes ProbePoint.errand upkeep.outline point.errand (point.step .free now wall upkeep) := by
  cases point with
  | starting =>
    cases hfailed : upkeep.monitor.permanentlyFailed with
    | true =>
      simp only [step, Monitor.failure?, hfailed, if_true, Comes]
      exact .stays .idle
    | false =>
      simp only [step, Monitor.failure?, hfailed, Bool.false_eq_true, if_false, Comes]
      exact .asks hfailed
  | asking =>
    cases hanswers : upkeep.around.answers with
    | true =>
      simp only [step, Upkeep.probe, Surroundings.free, hanswers, if_true, Comes]
      exact .hears
    | false =>
      simp only [step, Upkeep.probe, Surroundings.free, hanswers, Bool.false_eq_true, if_false]
      exact (Upkeep.comes_noticeFailure now _ _ (.inr rfl)).map fun _ => rfl
  | recovering relaunch => exact (relaunch.comes now upkeep).map fun _ => rfl

theorem WatchPoint.comes (point : WatchPoint) (now : Instant) (upkeep : Upkeep Vicinity) :
    Comes WatchPoint.errand upkeep.outline point.errand (point.step .free now upkeep) := by
  cases point with
  | watching child =>
    simp only [step]
    split
    · split
      · exact (Upkeep.comes_noticeFailure now _ _ (.inl rfl)).map fun _ => rfl
      · exact .stays .idle
    · trivial
  | recovering relaunch => exact (relaunch.comes now upkeep).map fun _ => rfl

theorem RoundsPoint.comes (point : RoundsPoint) (now : Instant) (wall : Nat)
    (upkeep : Upkeep Vicinity) :
    Comes RoundsPoint.errand upkeep.outline point.errand (point.step .free now wall upkeep) := by
  cases point with
  | resting resume =>
    simp only [step]
    split
    · exact .stays .idle
    · trivial
  | probing probe next =>
    have hprobe := probe.comes now wall upkeep
    revert hprobe
    simp only [step]
    generalize probe.step .free now wall upkeep = stepped
    obtain ⟨upkeep', progress⟩ := stepped
    cases progress with
    | blocked | moved => exact id
    | finished result =>
      cases result with
      | ok outcome => exact id
      | error error => cases error <;> exact id

theorem ForcePoint.comes (point : ForcePoint) (now : Instant) (upkeep : Upkeep Vicinity) :
    Comes ForcePoint.errand upkeep.outline point.errand (point.step .free now upkeep) := by
  cases point with
  | starting =>
    let forced := upkeep.update fun monitor =>
      { monitor with gate := monitor.gate.force now, permanentlyFailed := false }
    have hstep : ForcePoint.starting.step .free now upkeep =
        ((RelaunchPoint.start .free now forced).1,
          .moved (.launching (RelaunchPoint.start .free now forced).2)) := rfl
    rw [hstep]
    exact .forces _ _ now (RelaunchPoint.restarts now forced)
  | launching relaunch => exact (relaunch.comes now upkeep).map fun _ => rfl

/-- An operation works on nothing but what its errand is about. -/
theorem KeeperCall.comes (call : KeeperCall) (now : Instant) (wall : Nat)
    (keeper : Keeper Vicinity) :
    ∃ stepped : Stepped (Upkeep Vicinity) KeeperCall KeeperReply,
      Comes KeeperCall.errand keeper.upkeep.outline call.errand stepped ∧
        call.step .free now wall keeper = (keeper.withUpkeep stepped.1, stepped.2) := by
  cases call with
  | ensuring point => exact ⟨_, (point.comes now keeper.upkeep).map fun _ => rfl, rfl⟩
  | forcing point => exact ⟨_, (point.comes now keeper.upkeep).map fun _ => rfl, rfl⟩
  | probing point => exact ⟨_, (point.comes now wall keeper.upkeep).map fun _ => rfl, rfl⟩

/-! ### Errands that are given up -/

theorem LaunchPoint.ticket?_errand (ticket : Ticket) (isDemanded : Bool) (point : LaunchPoint) :
    (point.errand ticket isDemanded).ticket? = some ticket := by
  cases point <;> rfl

theorem RelaunchPoint.outline_cancel (point : RelaunchPoint) (upkeep : Upkeep Vicinity) :
    (point.cancel upkeep).outline = upkeep.outline.drop point.errand := by
  cases point with
  | launching ticket launch =>
    rw [Outline.drop, errand, LaunchPoint.ticket?_errand]
    rfl
  | _ => rfl

theorem DemandPoint.outline_cancel (point : DemandPoint) (upkeep : Upkeep Vicinity) :
    (point.cancel upkeep).outline = upkeep.outline.drop point.errand := by
  cases point with
  | launching ticket launch =>
    rw [Outline.drop, errand, LaunchPoint.ticket?_errand]
    rfl
  | _ => rfl

theorem ProbePoint.outline_cancel (point : ProbePoint) (upkeep : Upkeep Vicinity) :
    (point.cancel upkeep).outline = upkeep.outline.drop point.errand := by
  cases point with
  | recovering relaunch => exact relaunch.outline_cancel upkeep
  | _ => rfl

theorem RoundsPoint.outline_cancel (point : RoundsPoint) (upkeep : Upkeep Vicinity) :
    (point.cancel upkeep).outline = upkeep.outline.drop point.errand := by
  cases point with
  | resting resume => rfl
  | probing probe next => exact probe.outline_cancel upkeep

theorem KeeperCall.outline_cancel (call : KeeperCall) (keeper : Keeper Vicinity) :
    (call.cancel keeper).upkeep.outline = keeper.upkeep.outline.drop call.errand := by
  cases call with
  | ensuring point => exact point.outline_cancel keeper.upkeep
  | probing point => exact point.outline_cancel keeper.upkeep
  | forcing point =>
    cases point with
    | starting => rfl
    | launching relaunch => exact relaunch.outline_cancel keeper.upkeep

end Steps

theorem Vicinity.exit_eq (process : ProcessId) (vicinity : Vicinity) :
    vicinity.exit process = vicinity ∨
      vicinity.exit process = { vicinity with exited := process :: vicinity.exited } := by
  unfold exit
  split
  · exact .inr rfl
  · exact .inl rfl

/-! ### Everyone's errands -/

/-- One who works on a monitor: an operation, or a task of the monitor itself. -/
inductive KeeperWorker where
  | call (index : Nat)
  | task (task : KeeperTask)
  deriving DecidableEq

/-- The one who is to go on with an event. -/
def KeeperWorker.of? : KeeperCourseEvent → Option KeeperWorker
  | .step i _ => some (.call i)
  | .occur (.works job _) => some (.task job)
  | _ => none

theorem KeeperWorker.exists_of_call {event : KeeperCourseEvent} {i : Nat}
    (h : of? event = some (.call i)) : ∃ wall, event = .step i wall := by
  cases event with
  | step j wall =>
    cases h
    exact ⟨wall, rfl⟩
  | occur event => cases event <;> cases h
  | «begin» | giveUp | wait => cases h

/-- The errand of a task. -/
def Keeper.errand (keeper : Keeper Vicinity) : KeeperTask → Errand
  | .watch i => ((keeper.watches[i]?).bind Standing.point?).elim .idle WatchPoint.errand
  | .rounds => keeper.rounds.elim .idle RoundsPoint.errand

/-- What matters of a monitor, with the errands of all who work on it. -/
structure Affairs where
  outline : Outline
  errands : KeeperWorker → Errand

/-- Someone has gone on. -/
def Affairs.put (affairs : Affairs) (worker : KeeperWorker) (outline : Outline) (errand : Errand) :
    Affairs where
  outline
  errands := Function.update affairs.errands worker errand

/-- The errand of one who works on the monitor. -/
def KeeperCourse.errand (course : KeeperCourse) : KeeperWorker → Errand
  | .call i => (course.task? i).elim .idle KeeperCall.errand
  | .task task => course.shared.errand task

@[inherit_doc Affairs]
def KeeperCourse.affairs (course : KeeperCourse) : Affairs where
  outline := course.shared.upkeep.outline
  errands := KeeperCourse.errand course

/-- What can happen to a monitor and those who work on it, where someone goes on or nobody does. -/
inductive AffairsMoves (affairs : Affairs) : Option KeeperWorker → Affairs → Prop where
  | rests (worker? : Option KeeperWorker) : AffairsMoves affairs worker? affairs
  | begins (worker : KeeperWorker) (errand : Errand) (new : affairs.errands worker = .idle)
      (early : errand = .idle ∨ errand = .forcing) :
      AffairsMoves affairs none (affairs.put worker affairs.outline errand)
  | works (worker : KeeperWorker) (outline : Outline) (errand : Errand)
      (moves : ErrandMoves affairs.outline (affairs.errands worker) outline errand) :
      AffairsMoves affairs (some worker) (affairs.put worker outline errand)
  /-- Somebody is given up. -/
  | drops (worker : KeeperWorker) :
      AffairsMoves affairs none
        (affairs.put worker (affairs.outline.drop (affairs.errands worker)) .idle)
  /-- Somebody is given up, and the process of the monitor is killed. -/
  | halts (worker : KeeperWorker) :
      AffairsMoves affairs none
        (affairs.put worker (affairs.outline.drop (affairs.errands worker)).dismiss .idle)
  | changes (around : Vicinity) (calls : around.calls = affairs.outline.around.calls)
      (launched : around.launched = affairs.outline.around.launched)
      (killed : around.killed = affairs.outline.around.killed)
      (exited : ∀ process ∈ affairs.outline.around.exited, process ∈ around.exited) :
      AffairsMoves affairs none { affairs with outline := { affairs.outline with around } }

namespace Keeper

variable {keeper : Keeper Vicinity}

theorem upkeep_withUpkeep (keeper : Keeper Vicinity) (upkeep : Upkeep Vicinity) :
    (keeper.withUpkeep upkeep).upkeep = upkeep := by
  unfold withUpkeep
  split <;> rfl

theorem rounds_withUpkeep (keeper : Keeper Vicinity) (upkeep : Upkeep Vicinity) :
    (keeper.withUpkeep upkeep).rounds = keeper.rounds := by
  unfold withUpkeep
  split <;> rfl

/-- Only the process of the monitor may be watched from now on. -/
theorem mem_watches_withUpkeep {upkeep : Upkeep Vicinity} {watch : Standing WatchPoint Unit}
    (h : watch ∈ (keeper.withUpkeep upkeep).watches) :
    watch ∈ keeper.watches ∨
      ∃ child, upkeep.monitor.child = some child ∧ watch = .waiting (.watching child) := by
  unfold withUpkeep at h
  split at h
  · refine (List.mem_append.mp h).imp_right fun hnew => ?_
    obtain ⟨child, hchild, rfl⟩ := List.mem_map.mp hnew
    exact ⟨child, Option.mem_toList.mp hchild, rfl⟩
  · exact .inl h

/-- A process that is watched from now on is of no concern yet. -/
theorem errand_withUpkeep (keeper : Keeper Vicinity) (upkeep : Upkeep Vicinity) :
    (keeper.withUpkeep upkeep).errand = keeper.errand := by
  funext task
  cases task with
  | rounds => rw [errand, errand, rounds_withUpkeep]
  | watch i =>
    unfold withUpkeep
    split
    · by_cases hlt : i < keeper.watches.length
      · simp only [errand, List.getElem?_append_left hlt]
      · have hle := Nat.le_of_not_lt hlt
        rw [errand, errand, List.getElem?_append_right hle, List.getElem?_eq_none_iff.mpr hle]
        cases hchild : upkeep.monitor.child with
        | none => rfl
        | some child => cases i - keeper.watches.length <;> rfl
    · rfl

/-- No watch is lost. -/
theorem lt_withUpkeep {i : Nat} {watch : Standing WatchPoint Unit}
    (hi : keeper.watches[i]? = some watch) (upkeep : Upkeep Vicinity) :
    i < (keeper.withUpkeep upkeep).watches.length := by
  have hlt := (List.getElem?_eq_some_iff.mp hi).1
  unfold withUpkeep
  split
  · rw [List.length_append]
    exact Nat.lt_add_right _ hlt
  · exact hlt

/-- The watches after the step of one. -/
theorem errand_setWatch {i : Nat} {watch : Standing WatchPoint Unit} {point : WatchPoint}
    (hi : keeper.watches[i]? = some (.waiting point)) (upkeep : Upkeep Vicinity) :
    ({ keeper.withUpkeep upkeep with
        watches := (keeper.withUpkeep upkeep).watches.set i watch } : Keeper Vicinity).errand =
      Function.update keeper.errand (.watch i) (watch.point?.elim .idle WatchPoint.errand) := by
  have hlt := lt_withUpkeep hi upkeep
  funext task
  by_cases htask : task = .watch i
  · subst htask
    rw [Function.update_self, errand]
    simp only [List.getElem?_set_self hlt, Option.bind_some]
  · rw [Function.update_of_ne htask, ← errand_withUpkeep keeper upkeep]
    cases task with
    | rounds => rfl
    | watch j =>
      have hij : i ≠ j := by
        rintro rfl
        exact htask rfl
      simp only [errand, List.getElem?_set_ne hij]

theorem errand_setRounds (rounds : Option RoundsPoint) (upkeep : Upkeep Vicinity) :
    ({ keeper.withUpkeep upkeep with rounds } : Keeper Vicinity).errand =
      Function.update keeper.errand .rounds (rounds.elim .idle RoundsPoint.errand) := by
  funext task
  cases task with
  | rounds => rw [Function.update_self, errand]
  | watch i =>
    rw [Function.update_of_ne (by simp), ← errand_withUpkeep keeper upkeep]
    rfl

/-- A task works on nothing but what its errand is about. -/
theorem stepTask_moves (now : Instant) (wall : Nat) (task : KeeperTask)
    (keeper : Keeper Vicinity) :
    ∃ errand', ErrandMoves keeper.upkeep.outline (keeper.errand task)
        (keeper.stepTask .free now wall task).1.upkeep.outline errand' ∧
      (keeper.stepTask .free now wall task).1.errand =
        Function.update keeper.errand task errand' := by
  have hstays : ∃ errand', ErrandMoves keeper.upkeep.outline (keeper.errand task)
      keeper.upkeep.outline errand' ∧ keeper.errand = Function.update keeper.errand task errand' :=
    ⟨_, .stays _, (Function.update_eq_self task keeper.errand).symm⟩
  cases task with
  | watch i =>
    cases hi : keeper.watches[i]? with
    | none => simpa only [stepTask, hi] using hstays
    | some standing =>
      cases standing with
      | ended result => simpa only [stepTask, hi] using hstays
      | waiting point =>
        have hcomes := point.comes now keeper.upkeep
        have herrand : keeper.errand (.watch i) = point.errand := by
          simp [errand, hi, Standing.point?]
        simp only [stepTask, hi, withStep]
        rw [herrand]
        generalize point.step .free now keeper.upkeep = stepped at hcomes ⊢
        obtain ⟨upkeep, progress⟩ := stepped
        cases progress with
        | blocked => exact herrand ▸ hstays
        | moved point' =>
          refine ⟨point'.errand, ?_, errand_setWatch hi upkeep⟩
          rw [upkeep_withUpkeep]
          exact hcomes
        | finished result =>
          refine ⟨.idle, ?_, errand_setWatch hi upkeep⟩
          rw [upkeep_withUpkeep]
          exact hcomes
  | rounds =>
    cases hrounds : keeper.rounds with
    | none => simpa only [stepTask, hrounds] using hstays
    | some point =>
      have hcomes := point.comes now wall keeper.upkeep
      have herrand : keeper.errand .rounds = point.errand := by simp [errand, hrounds]
      simp only [stepTask, hrounds, withStep]
      rw [herrand]
      generalize point.step .free now wall keeper.upkeep = stepped at hcomes ⊢
      obtain ⟨upkeep, progress⟩ := stepped
      cases progress with
      | blocked => exact herrand ▸ hstays
      | moved point' =>
        refine ⟨point'.errand, ?_, errand_setRounds _ upkeep⟩
        rw [upkeep_withUpkeep]
        exact hcomes
      | finished result =>
        refine ⟨.idle, ?_, errand_setRounds _ upkeep⟩
        rw [upkeep_withUpkeep]
        exact hcomes

/-- The repeated questions are given up where they stand. -/
theorem outline_stopRounds (keeper : Keeper Vicinity) :
    keeper.stopRounds.upkeep.outline = keeper.upkeep.outline.drop (keeper.errand .rounds) ∧
      keeper.stopRounds.errand = Function.update keeper.errand .rounds .idle := by
  unfold stopRounds
  cases hrounds : keeper.rounds with
  | none =>
    have hidle : keeper.errand .rounds = .idle := by simp [errand, hrounds]
    refine ⟨by rw [hidle]; rfl, ?_⟩
    rw [← hidle, Function.update_eq_self]
  | some point =>
    have herrand : keeper.errand .rounds = point.errand := by simp [errand, hrounds]
    refine ⟨by rw [herrand]; exact point.outline_cancel keeper.upkeep, ?_⟩
    funext task
    cases task with
    | rounds => rfl
    | watch i => rfl

theorem errand_startRounds (now : Instant) (keeper : Keeper Vicinity) :
    (keeper.startRounds now).errand = Function.update keeper.errand .rounds .idle := by
  rw [← (outline_stopRounds keeper).2]
  funext task
  cases task with
  | watch i => rfl
  | rounds =>
    rw [(outline_stopRounds keeper).2, Function.update_self]
    simp only [startRounds, errand, RoundsPoint.start?]
    split <;> rfl

theorem outline_stop (keeper : Keeper Vicinity) :
    (keeper.stop .free).upkeep.outline =
      (keeper.upkeep.outline.drop (keeper.errand .rounds)).dismiss := by
  rw [← (outline_stopRounds keeper).1]
  exact Upkeep.outline_killChild _

end Keeper

/-- Who asks for the health of a proxy may have come to launch another one. -/
theorem ProbePoint.errand_cases (point : ProbePoint) :
    point.errand = .idle ∨ point.errand = .asking ∨
      ∃ relaunch : RelaunchPoint, point.errand = relaunch.errand := by
  cases point with
  | starting => exact .inl rfl
  | asking => exact .inr (.inl rfl)
  | recovering relaunch => exact .inr (.inr ⟨relaunch, rfl⟩)

theorem Keeper.errand_cases (keeper : Keeper Vicinity) (task : KeeperTask) :
    keeper.errand task = .idle ∨ keeper.errand task = .asking ∨
      ∃ relaunch : RelaunchPoint, keeper.errand task = relaunch.errand := by
  cases task with
  | watch i =>
    cases hi : (keeper.watches[i]?).bind Standing.point? with
    | none => exact .inl (by rw [errand, hi, Option.elim_none])
    | some point =>
      rw [errand, hi, Option.elim_some]
      cases point with
      | watching child => exact .inl rfl
      | recovering relaunch => exact .inr (.inr ⟨relaunch, rfl⟩)
  | rounds =>
    cases hrounds : keeper.rounds with
    | none => exact .inl (by rw [errand, hrounds, Option.elim_none])
    | some point =>
      rw [errand, hrounds, Option.elim_some]
      cases point with
      | resting resume => exact .inl rfl
      | probing probe next => exact probe.errand_cases

namespace KeeperCourse

variable {course : KeeperCourse} {i : Nat} {call : KeeperCall}

theorem errand_call (h : course.task? i = some call) : errand course (.call i) = call.errand := by
  rw [errand, h, Option.elim_some]

theorem errand_put (h : course.task? i = some call) {keeper : Keeper Vicinity}
    (hkeeper : keeper.errand = course.shared.errand)
    (standing : Standing KeeperCall (Option KeeperReply)) :
    errand (course.put i keeper standing) =
      Function.update (errand course) (.call i) (standing.point?.elim .idle KeeperCall.errand) := by
  funext worker
  by_cases hworker : worker = .call i
  · subst hworker
    rw [Function.update_self, errand, Crowd.task?_put_self h]
  · rw [Function.update_of_ne hworker]
    cases worker with
    | task job => rw [errand, errand, Crowd.shared_put, hkeeper]
    | call j =>
      have hij : i ≠ j := by
        rintro rfl
        exact hworker rfl
      rw [errand, errand, Crowd.task?_put_of_ne hij]

theorem errand_begin (course : KeeperCourse) (point : KeeperCall) :
    errand { course with tasks := course.tasks ++ [.waiting point] } =
      Function.update (errand course) (.call course.tasks.length) point.errand := by
  funext worker
  by_cases hworker : worker = .call course.tasks.length
  · subst hworker
    rw [Function.update_self]
    exact errand_call (Crowd.task?_concat_self course point)
  · rw [Function.update_of_ne hworker]
    cases worker with
    | task job => rfl
    | call j =>
      have hj : j ≠ course.tasks.length := by
        rintro rfl
        exact hworker rfl
      rw [errand, errand, Crowd.task?_concat_of_ne hj]

/-- The errands after a change of the monitor by one of its tasks. -/
theorem errand_shared (course : KeeperCourse) {keeper : Keeper Vicinity} {job : KeeperTask}
    {errand' : Errand} (h : keeper.errand = Function.update course.shared.errand job errand') :
    errand { course with shared := keeper } =
      Function.update (errand course) (.task job) errand' := by
  funext worker
  cases worker with
  | call j =>
    rw [Function.update_of_ne (by simp)]
    rfl
  | task other =>
    rw [errand, h]
    by_cases hother : other = job
    · subst hother
      rw [Function.update_self, Function.update_self]
    · rw [Function.update_of_ne hother, Function.update_of_ne (by simpa using hother)]
      rfl

/-- What a change of what is around a monitor leaves as it was. -/
theorem affairs_updateAround (course : KeeperCourse) (change : Vicinity → Vicinity) :
    affairs { course with shared := course.shared.updateAround change } =
      { affairs course with
        outline := { (affairs course).outline with around := change course.shared.around } } := by
  have herrand : errand { course with shared := course.shared.updateAround change } =
      errand course := by
    funext worker
    cases worker with
    | call j => rfl
    | task job => cases job <;> rfl
  rw [affairs, herrand]
  rfl

/-- The affairs after a change of the monitor by one of its tasks. -/
theorem affairs_shared (course : KeeperCourse) {keeper : Keeper Vicinity} {job : KeeperTask}
    {errand' : Errand} (h : keeper.errand = Function.update course.shared.errand job errand') :
    affairs { course with shared := keeper } =
      (affairs course).put (.task job) keeper.upkeep.outline errand' := by
  rw [affairs, errand_shared course h]
  rfl

/-- A call that goes on does with its errand what it does by itself. -/
theorem works_call (stands : course.task? i = some call) {upkeep : Upkeep Vicinity}
    {standing : Standing KeeperCall (Option KeeperReply)}
    (hmoves : ErrandMoves course.shared.upkeep.outline call.errand upkeep.outline
      (standing.point?.elim .idle KeeperCall.errand)) :
    AffairsMoves (affairs course) (some (.call i))
      (affairs (course.put i (course.shared.withUpkeep upkeep) standing)) := by
  have haffairs : affairs (course.put i (course.shared.withUpkeep upkeep) standing) =
      (affairs course).put (.call i) upkeep.outline
        (standing.point?.elim .idle KeeperCall.errand) := by
    rw [affairs, errand_put stands (Keeper.errand_withUpkeep _ _), Crowd.shared_put,
      Keeper.upkeep_withUpkeep]
    rfl
  rw [haffairs]
  refine .works _ _ _ ?_
  show ErrandMoves course.shared.upkeep.outline (errand course (.call i)) _ _
  rw [errand_call stands]
  exact hmoves

theorem undergo_affairs (course : KeeperCourse) (event : KeeperEvent) :
    AffairsMoves (affairs course) (KeeperWorker.of? (.occur event))
      (affairs { course with shared := course.shared.undergo course.now event }) := by
  cases event with
  | works job wall =>
    obtain ⟨errand', hmoves, herrand⟩ := course.shared.stepTask_moves course.now wall job
    exact affairs_shared course herrand ▸ .works _ _ _ hmoves
  | startsRounds =>
    have haffairs : affairs { course with shared := course.shared.startRounds course.now } =
        (affairs course).put (.task .rounds)
          ((affairs course).outline.drop (errand course (.task .rounds))) .idle := by
      rw [affairs_shared course (course.shared.errand_startRounds course.now)]
      exact congrArg (Affairs.put _ _ · _) course.shared.outline_stopRounds.1
    exact haffairs ▸ .drops _
  | stops =>
    have herrand : (course.shared.stop .free).errand = course.shared.stopRounds.errand := by
      funext job
      cases job <;> rfl
    have haffairs : affairs { course with shared := course.shared.stop .free } =
        (affairs course).put (.task .rounds)
          ((affairs course).outline.drop (errand course (.task .rounds))).dismiss .idle := by
      rw [affairs_shared course (herrand.trans course.shared.outline_stopRounds.2)]
      exact congrArg (Affairs.put _ _ · _) course.shared.outline_stop
    exact haffairs ▸ .halts _
  | answers isReady =>
    exact affairs_updateAround course _ ▸ .changes _ rfl rfl rfl fun _ => id
  | refuses reason =>
    exact affairs_updateAround course _ ▸ .changes _ rfl rfl rfl fun _ => id
  | exits process =>
    refine affairs_updateAround course (Vicinity.exit process) ▸ ?_
    rcases Vicinity.exit_eq process course.shared.around with h | h
    · rw [h]
      exact .changes _ rfl rfl rfl fun _ => id
    · rw [h]
      exact .changes _ rfl rfl rfl fun _ => List.mem_cons_of_mem _

theorem next_affairs (course : KeeperCourse) (event : KeeperCourseEvent) :
    AffairsMoves (affairs course) (KeeperWorker.of? event)
      (affairs (keeperRules.next course event)) := by
  have hnext := keeperRules.next_moves course event
  generalize keeperRules.next course event = course' at hnext ⊢
  cases hnext with
  | blocks | misses | waits => exact .rests _
  | begins call =>
    have haffairs :
        affairs { course with tasks := course.tasks ++ [.waiting (keeperRules.enter call)] } =
        (affairs course).put (.call course.tasks.length) (affairs course).outline
          (keeperRules.enter call).errand := by
      rw [affairs, errand_begin]
      rfl
    rw [haffairs]
    refine .begins _ _ ?_ ?_
    · show errand course (.call course.tasks.length) = .idle
      rw [errand, Crowd.task?_length, Option.elim_none]
    · cases call with
      | ensureRunning | probeOnce => exact .inl rfl
      | forceRestart => exact .inr rfl
  | moves i wall call call' keeper stands step =>
    obtain ⟨⟨upkeep, progress⟩, hcomes, hstep⟩ := call.comes course.now wall course.shared
    obtain ⟨rfl, rfl⟩ := Prod.mk.inj (hstep.symm.trans step)
    exact works_call stands hcomes
  | finishes i wall call reply keeper stands step =>
    obtain ⟨⟨upkeep, progress⟩, hcomes, hstep⟩ := call.comes course.now wall course.shared
    obtain ⟨rfl, rfl⟩ := Prod.mk.inj (hstep.symm.trans step)
    exact works_call stands hcomes
  | givesUp i call stands =>
    have haffairs : affairs (course.put i (keeperRules.cancel call course.shared) (.ended none)) =
        (affairs course).put (.call i) ((affairs course).outline.drop call.errand) .idle := by
      have herrand : (keeperRules.cancel call course.shared).errand = course.shared.errand := by
        funext job
        cases job <;> rfl
      rw [affairs, errand_put stands herrand, Crowd.shared_put]
      exact congrArg (Affairs.mk · _) (call.outline_cancel course.shared)
    rw [haffairs, ← errand_call stands]
    exact .drops _
  | occurs event => exact undergo_affairs course event

/-- Everyone's errand is that of a launch of another proxy, unless it is an operation of its own
    kind. -/
theorem errand_cases (course : KeeperCourse) (worker : KeeperWorker) :
    errand course worker = .idle ∨ errand course worker = .asking ∨
      (∃ relaunch : RelaunchPoint, errand course worker = relaunch.errand) ∨
      (∃ i point, worker = .call i ∧ course.task? i = some (.ensuring point) ∧
        errand course worker = point.errand) ∨
      ∃ i, worker = .call i ∧ course.task? i = some (.forcing .starting) ∧
        errand course worker = .forcing := by
  cases worker with
  | call i =>
    cases hi : course.task? i with
    | none => exact .inl (by rw [errand, hi, Option.elim_none])
    | some call =>
      rw [errand_call hi]
      cases call with
      | ensuring point => exact .inr (.inr (.inr (.inl ⟨i, point, rfl, hi, rfl⟩)))
      | forcing point =>
        cases point with
        | starting => exact .inr (.inr (.inr (.inr ⟨i, rfl, hi, rfl⟩)))
        | launching relaunch => exact .inr (.inr (.inl ⟨relaunch, rfl⟩))
      | probing point => exact point.errand_cases.imp_right (.imp_right .inl)
  | task job => exact (course.shared.errand_cases job).imp_right (.imp_right .inl)

end KeeperCourse

/-! ### Moments -/

/-- Whether the monitor tries to launch a process. -/
def KeeperMoment.CallsSpawner (moment : KeeperMoment) : Prop :=
  (keeperRules.next moment.1 moment.2).shared.around.calls ≠ moment.1.shared.around.calls

end SymbolSearch
