import SymbolSearch.Proofs.Monitor.Offspring
import SymbolSearch.Proofs.Sync.Fairness

/-!
# Making a proxy run

While all that is asked of a monitor is to make a proxy run, and no proxy exits, nobody but those
who ask does anything to it.

* `DemandMoves` — all that a step of one who asks can do; `DemandMoves.line` is what becomes of his
  place in the line for the turn.
* `KeeperCourseEvent.Demands` — an event of such a course.
* `KeeperCourse.Flying` — what holds of such a course, and who is in line in it.
* `KeeperCourse.Flying.next_moves` — all that an event of it can do.
* `KeeperCourse.Flying.next` — it goes on as such a course.
-/

namespace SymbolSearch

/-! ### Steps -/

/-- What a step of making a proxy run can do, if the monitor has not given up. -/
inductive DemandMoves (now : Instant) (upkeep : Upkeep Vicinity) :
    DemandPoint → Upkeep Vicinity → Progress DemandPoint Launched → Prop where
  /-- The proxy is taken to be ready. -/
  | knows (ready : upkeep.monitor.isReady now = true) :
      DemandMoves now upkeep .starting upkeep (.finished (.ok ()))
  | joins (unready : upkeep.monitor.isReady now = false)
      (waits : upkeep.join.2.monitor.turns.holder ≠ some upkeep.join.1) :
      DemandMoves now upkeep .starting upkeep.join.2 (.moved (.queued upkeep.join.1))
  | joinsFirst (unready : upkeep.monitor.isReady now = false)
      (held : upkeep.join.2.monitor.turns.holder = some upkeep.join.1) :
      DemandMoves now upkeep .starting upkeep.join.2 (.moved (.asking upkeep.join.1))
  | waits (ticket : Ticket) (waits : upkeep.monitor.turns.holder ≠ some ticket) :
      DemandMoves now upkeep (.queued ticket) upkeep .blocked
  /-- The proxy is taken to be ready by now. -/
  | learns (ticket : Ticket) (held : upkeep.monitor.turns.holder = some ticket)
      (ready : upkeep.monitor.isReady now = true) :
      DemandMoves now upkeep (.queued ticket) (upkeep.leave ticket) (.finished (.ok ()))
  | checks (ticket : Ticket) (held : upkeep.monitor.turns.holder = some ticket)
      (unready : upkeep.monitor.isReady now = false) :
      DemandMoves now upkeep (.queued ticket) upkeep (.moved (.asking ticket))
  /-- There is a proxy that is ready. -/
  | meets (ticket : Ticket) (answers : upkeep.around.answers = true) :
      DemandMoves now upkeep (.asking ticket)
        ((upkeep.update fun monitor => monitor.markReady now).leave ticket) (.finished (.ok ()))
  | demands (ticket : Ticket) (silent : upkeep.around.answers = false) :
      DemandMoves now upkeep (.asking ticket) upkeep (.moved (.launching ticket .spawning))
  | refused (ticket : Ticket) (reason : String)
      (refusal : upkeep.around.refusal = some reason) :
      DemandMoves now upkeep (.launching ticket .spawning)
        (Upkeep.leave ticket
          { upkeep with around := { upkeep.around with calls := upkeep.around.calls + 1 } })
        (.finished (.error (.spawnFailed reason)))
  | launches (ticket : Ticket) :
      DemandMoves now upkeep (.launching ticket .spawning)
        { monitor := upkeep.monitor.adopt upkeep.around.launched
          around := { upkeep.around with
            calls := upkeep.around.calls + 1
            launched := upkeep.around.launched + 1 } }
        (.moved (.launching ticket (.waiting (upkeep.monitor.generation + 1)
          (now + upkeep.monitor.settings.startupTimeout) none)))
  /-- The new proxy is not ready yet. -/
  | polls (ticket : Ticket) (generation : Nat) (deadline : Instant) (resume : Option Instant)
      (due : isDue resume now = true) (silent : upkeep.around.answers = false) :
      DemandMoves now upkeep (.launching ticket (.waiting generation deadline resume)) upkeep
        (.moved (.launching ticket (.waiting generation deadline (some (now + readyPoll)))))
  /-- The new proxy is ready. -/
  | greets (ticket : Ticket) (generation : Nat) (deadline : Instant) (resume : Option Instant)
      (due : isDue resume now = true) (answers : upkeep.around.answers = true) :
      DemandMoves now upkeep (.launching ticket (.waiting generation deadline resume))
        ((upkeep.update fun monitor => monitor.markReady now).leave ticket) (.finished (.ok ()))
  | rests (ticket : Ticket) (generation : Nat) (deadline : Instant) (resume : Option Instant)
      (early : isDue resume now = false) :
      DemandMoves now upkeep (.launching ticket (.waiting generation deadline resume)) upkeep
        .blocked
  /-- The new proxy takes too long. -/
  | loses (ticket : Ticket) (generation : Nat) (deadline : Instant) (resume : Option Instant)
      (early : isDue resume now = false) (late : deadline ≤ now) :
      DemandMoves now upkeep (.launching ticket (.waiting generation deadline resume))
        ((if upkeep.monitor.isCurrent generation then (upkeep.killChild .free).2
          else upkeep).leave ticket)
        (.finished (.error (.startupTimeout upkeep.monitor.settings.startupTimeout)))

/-- Who has to wait changes nothing. -/
theorem DemandMoves.eq_of_blocked {now : Instant} {upkeep upkeep' : Upkeep Vicinity}
    {point : DemandPoint} (h : DemandMoves now upkeep point upkeep' .blocked) :
    upkeep' = upkeep := by
  cases h <;> rfl

/-- Who has to wait waits for the turn, or for the time to ask the new proxy again. -/
theorem DemandMoves.cases_of_blocked {now : Instant} {upkeep upkeep' : Upkeep Vicinity}
    {point : DemandPoint} (h : DemandMoves now upkeep point upkeep' .blocked) :
    (∃ ticket, point = .queued ticket ∧ upkeep.monitor.turns.holder ≠ some ticket) ∨
      ∃ ticket generation deadline resume,
        point = .launching ticket (.waiting generation deadline resume) ∧
          isDue resume now = false := by
  cases h with
  | waits ticket waits => exact .inl ⟨ticket, rfl, waits⟩
  | rests ticket generation deadline resume early =>
    exact .inr ⟨ticket, generation, deadline, resume, rfl, early⟩

/-- It neither gives up the monitor nor makes a proxy exit. -/
theorem DemandMoves.keeps {now : Instant} {upkeep upkeep' : Upkeep Vicinity} {point : DemandPoint}
    {progress : Progress DemandPoint Launched}
    (h : DemandMoves now upkeep point upkeep' progress) :
    upkeep'.monitor.permanentlyFailed = upkeep.monitor.permanentlyFailed ∧
      upkeep'.around.exited = upkeep.around.exited := by
  cases h with
  | loses ticket generation =>
    split
    · cases hchild : upkeep.monitor.child <;>
        simp [Upkeep.killChild, hchild, Upkeep.leave, Upkeep.update, Monitor.retire,
          Surroundings.free]
    · exact ⟨rfl, rfl⟩
  | _ => exact ⟨rfl, rfl⟩

theorem DemandMoves.generation_le {now : Instant} {upkeep upkeep' : Upkeep Vicinity}
    {point : DemandPoint} {progress : Progress DemandPoint Launched}
    (h : DemandMoves now upkeep point upkeep' progress) :
    upkeep.monitor.generation ≤ upkeep'.monitor.generation := by
  cases h with
  | launches => exact Nat.le_succ _
  | loses ticket generation =>
    split
    · cases hchild : upkeep.monitor.child <;>
        simp [Upkeep.killChild, hchild, Upkeep.leave, Upkeep.update, Monitor.retire]
    · exact Nat.le_refl _
  | _ => exact Nat.le_refl _

namespace DemandPoint

variable {now : Instant} {upkeep : Upkeep Vicinity}

theorem known?_of_sound {monitor : Monitor} (h : monitor.permanentlyFailed = false) :
    known? now monitor = if monitor.isReady now then some (.ok ()) else none := by
  simp [known?, Monitor.failure?, h]

theorem takeTurn_moves {ticket : Ticket} (hsound : upkeep.monitor.permanentlyFailed = false)
    (held : upkeep.monitor.turns.holder = some ticket) :
    DemandMoves now upkeep (.queued ticket) (takeTurn now ticket upkeep).1
      (takeTurn now ticket upkeep).2 := by
  rw [takeTurn, known?_of_sound hsound]
  cases hready : upkeep.monitor.isReady now with
  | true => exact .learns ticket held hready
  | false => exact .checks ticket held hready

theorem step_moves (point : DemandPoint) (hsound : upkeep.monitor.permanentlyFailed = false) :
    DemandMoves now upkeep point (point.step .free now upkeep).1
      (point.step .free now upkeep).2 := by
  cases point with
  | starting =>
    rw [step, known?_of_sound hsound]
    cases hready : upkeep.monitor.isReady now with
    | true => exact .knows hready
    | false =>
      dsimp only
      by_cases hheld : upkeep.join.2.monitor.turns.holds upkeep.join.1 = true
      · -- Nothing that is known has changed since.
        have hsound' : upkeep.join.2.monitor.permanentlyFailed = false := hsound
        have hready' : upkeep.join.2.monitor.isReady now = false := hready
        simp only [Bool.false_eq_true, if_false, hheld, if_true, takeTurn,
          known?_of_sound hsound', hready']
        exact .joinsFirst hready (Turns.holds_iff.mp hheld)
      · simp only [Bool.false_eq_true, if_false, hheld]
        exact .joins hready fun h => hheld (Turns.holds_iff.mpr h)
  | queued ticket =>
    rw [step]
    split
    next hheld => exact takeTurn_moves hsound (Turns.holds_iff.mp hheld)
    next hheld => exact .waits ticket fun h => hheld (Turns.holds_iff.mpr h)
  | asking ticket =>
    cases hanswers : upkeep.around.answers with
    | true =>
      simp only [step, Upkeep.probe, Surroundings.free, hanswers]
      exact .meets ticket hanswers
    | false =>
      simp only [step, Upkeep.probe, Surroundings.free, hanswers]
      exact .demands ticket hanswers
  | launching ticket launch =>
    cases launch with
    | spawning =>
      cases hrefusal : upkeep.around.refusal with
      | some reason =>
        have hspawn : Surroundings.free.spawn now upkeep.around =
            (.error reason, { upkeep.around with calls := upkeep.around.calls + 1 }) := by
          simp [Surroundings.free, hrefusal]
        simp only [step, LaunchPoint.step, hspawn]
        exact .refused ticket reason hrefusal
      | none =>
        have hspawn : Surroundings.free.spawn now upkeep.around =
            (.ok upkeep.around.launched, { upkeep.around with
              calls := upkeep.around.calls + 1
              launched := upkeep.around.launched + 1 }) := by
          simp [Surroundings.free, hrefusal]
        simp only [step, LaunchPoint.step, hspawn]
        exact .launches ticket
    | waiting generation deadline resume =>
      cases hdue : isDue resume now with
      | true =>
        cases hanswers : upkeep.around.answers with
        | true =>
          simp only [step, LaunchPoint.step, hdue, if_true, Upkeep.probe, Surroundings.free,
            hanswers]
          exact .greets ticket generation deadline resume hdue hanswers
        | false =>
          simp only [step, LaunchPoint.step, hdue, if_true, Upkeep.probe, Surroundings.free,
            hanswers]
          exact .polls ticket generation deadline resume hdue hanswers
      | false =>
        by_cases hlate : deadline ≤ now
        · simp only [step, LaunchPoint.step, hdue, Bool.false_eq_true, if_false, if_pos hlate]
          exact .loses ticket generation deadline resume hdue hlate
        · simp only [step, LaunchPoint.step, hdue, Bool.false_eq_true, if_false, if_neg hlate]
          exact .rests ticket generation deadline resume hdue

end DemandPoint

/-! ### The line -/

/-- The turn that one has or waits for. -/
def DemandPoint.ticket? (point : DemandPoint) : Option Ticket := point.errand.ticket?

/-- The turn that one has or waits for after a step, if it does not have to wait. -/
def Progress.ticket? : Progress DemandPoint Launched → Option Ticket
  | .blocked | .finished _ => none
  | .moved point => point.ticket?

/-- Who has the turn keeps it or gives it up; who has none may get in line. -/
theorem DemandMoves.line {now : Instant} {upkeep upkeep' : Upkeep Vicinity} {point : DemandPoint}
    {progress : Progress DemandPoint Launched}
    (h : DemandMoves now upkeep point upkeep' progress) (hgoes : progress ≠ .blocked)
    (hinside : point.errand.Inside → upkeep.monitor.turns.holder = point.ticket?) :
    upkeep.monitor.turns.Moves point.ticket? upkeep'.monitor.turns progress.ticket? := by
  cases h with
  | knows | checks | demands | launches | polls => exact .stays _
  | joins | joinsFirst => exact .joins
  | waits | rests => exact absurd rfl hgoes
  | learns ticket held => exact .leaves ticket held
  | meets ticket => exact .leaves ticket (hinside trivial)
  | refused ticket => exact .leaves ticket (hinside trivial)
  | greets ticket => exact .leaves ticket (hinside trivial)
  | loses ticket generation deadline =>
    -- The line is not touched when the process is killed.
    have hturns : (if upkeep.monitor.isCurrent generation then (upkeep.killChild .free).2
        else upkeep).monitor.turns = upkeep.monitor.turns := by
      split
      · exact congrArg Outline.turns upkeep.outline_killChild
      · rfl
    rw [Upkeep.leave, Upkeep.update, hturns]
    exact .leaves ticket (hinside trivial)

/-- Who is in line goes on only when the turn is his. -/
theorem DemandMoves.holder {now : Instant} {upkeep upkeep' : Upkeep Vicinity} {point : DemandPoint}
    {progress : Progress DemandPoint Launched} {ticket : Ticket}
    (h : DemandMoves now upkeep point upkeep' progress) (hgoes : progress ≠ .blocked)
    (hinside : point.errand.Inside → upkeep.monitor.turns.holder = point.ticket?)
    (hticket : point.ticket? = some ticket) : upkeep.monitor.turns.holder = some ticket := by
  cases h with
  | knows | joins | joinsFirst => cases hticket
  | waits | rests => exact absurd rfl hgoes
  | learns held hheld | checks held hheld => rwa [← Option.some.inj hticket]
  | meets | demands | refused | launches | polls | greets | loses =>
    rw [← hticket]
    exact hinside trivial

/-- Those who wait for the turn or have it, and those who work as the one who has it, among all who
    have asked the monitor for something. -/
theorem Affairs.InLine.calls {affairs : Affairs} (h : affairs.InLine) :
    affairs.outline.turns.Serves (fun i => (affairs.errands (.call i)).ticket?)
      fun i => (affairs.errands (.call i)).Inside := by
  have hnumber (i : Nat) : KeeperWorker.ofNumber (KeeperWorker.call i).number = .call i :=
    KeeperWorker.ofNumber_number _
  constructor
  · intro i j ticket hi hj
    have hsame := h.distinct (KeeperWorker.call i).number (KeeperWorker.call j).number ticket
      (by simpa only [hnumber] using hi) (by simpa only [hnumber] using hj)
    simp only [KeeperWorker.number] at hsame
    omega
  · intro i ticket hi
    exact h.lt_next (KeeperWorker.call i).number ticket (by simpa only [hnumber] using hi)
  · intro i hi
    have hholds := h.holds (KeeperWorker.call i).number (by simpa only [hnumber] using hi)
    simpa only [hnumber] using hholds

/-! ### Events -/

/-- Something happens while all that is asked of a monitor is to make a proxy run, and no proxy
    exits.  Whether proxies are ready and can be launched may change. -/
def KeeperCourseEvent.Demands : KeeperCourseEvent → Prop
  | .begin .ensureRunning | .step _ _ | .wait _ => True
  | .occur (.works _ _) | .occur (.answers _) | .occur (.refuses _) => True
  | _ => False

namespace Keeper

@[simp]
theorem monitor_withUpkeep (keeper : Keeper Vicinity) (upkeep : Upkeep Vicinity) :
    (keeper.withUpkeep upkeep).monitor = upkeep.monitor :=
  congrArg Upkeep.monitor (keeper.upkeep_withUpkeep upkeep)

@[simp]
theorem around_withUpkeep (keeper : Keeper Vicinity) (upkeep : Upkeep Vicinity) :
    (keeper.withUpkeep upkeep).around = upkeep.around :=
  congrArg Upkeep.around (keeper.upkeep_withUpkeep upkeep)

end Keeper

namespace KeeperCourse

/-- The turn that a call has or waits for. -/
def ticketOf (course : KeeperCourse) (i : Nat) : Option Ticket := (errand course (.call i)).ticket?

/-- What such an event can do. -/
inductive FlightMoves (course : KeeperCourse) : KeeperCourseEvent → KeeperCourse → Prop where
  /-- Nothing but the time goes on.  If it was a call that was to go on, it has to wait. -/
  | passes (event : KeeperCourseEvent) (now : Instant)
      (waits : ∀ i point, event.index? = some i → course.task? i = some (.ensuring point) →
        DemandMoves course.now course.shared.upkeep point course.shared.upkeep .blocked) :
      FlightMoves course event { course with now }
  | begins :
      FlightMoves course (.begin .ensureRunning)
        { course with tasks := course.tasks ++ [.waiting (.ensuring .starting)] }
  | changes (event : KeeperEvent) (change : Vicinity → Vicinity)
      (calls : ∀ vicinity, (change vicinity).calls = vicinity.calls)
      (exited : ∀ vicinity, (change vicinity).exited = vicinity.exited) :
      FlightMoves course (.occur event)
        { course with shared := course.shared.updateAround change }
  | moves (i wall : Nat) (point point' : DemandPoint) (upkeep : Upkeep Vicinity)
      (stands : course.task? i = some (.ensuring point))
      (step : DemandMoves course.now course.shared.upkeep point upkeep (.moved point')) :
      FlightMoves course (.step i wall)
        (course.put i (course.shared.withUpkeep upkeep) (.waiting (.ensuring point')))
  | finishes (i wall : Nat) (point : DemandPoint) (result : Launched) (upkeep : Upkeep Vicinity)
      (stands : course.task? i = some (.ensuring point))
      (step : DemandMoves course.now course.shared.upkeep point upkeep (.finished result)) :
      FlightMoves course (.step i wall)
        (course.put i (course.shared.withUpkeep upkeep) (.ended (some (.launched result))))

/-- Nobody does anything to a monitor but those who ask it to make a proxy run, and those who have
    the turn or wait for it are in line. -/
structure Flying (course : KeeperCourse) : Prop where
  calls : ∀ i call, course.task? i = some call → ∃ point, call = .ensuring point
  sound : course.shared.monitor.permanentlyFailed = false
  unexited : course.shared.around.exited = []
  unasked : course.shared.rounds = none
  watching : ∀ standing ∈ course.shared.watches, ∃ child, standing = .waiting (.watching child)
  affairs : (affairs course).Sound
  lists : course.shared.monitor.turns.Lists (ticketOf course)

variable {course : KeeperCourse} {i j : Nat} {call : KeeperCall} {point : DemandPoint}

theorem ticketOf_call (h : course.task? i = some (.ensuring point)) :
    ticketOf course i = point.ticket? :=
  congrArg Errand.ticket? (errand_call h)

theorem ticketOf_put_self (h : course.task? i = some call) (keeper : Keeper Vicinity)
    (standing : Standing KeeperCall (Option KeeperReply)) :
    ticketOf (course.put i keeper standing) i =
      (standing.point?.elim .idle KeeperCall.errand).ticket? := by
  rw [ticketOf, errand, Crowd.task?_put_self h]

theorem ticketOf_put_of_ne (h : j ≠ i) (keeper : Keeper Vicinity)
    (standing : Standing KeeperCall (Option KeeperReply)) :
    ticketOf (course.put i keeper standing) j = ticketOf course j := by
  rw [ticketOf, ticketOf, errand, errand, Crowd.task?_put_of_ne h.symm]

/-- Who has just come has no turn yet. -/
theorem ticketOf_begin (course : KeeperCourse) (i : Nat) :
    ticketOf { course with tasks := course.tasks ++ [.waiting (.ensuring .starting)] } i =
      ticketOf course i := by
  rw [ticketOf, errand_begin]
  by_cases hlast : i = course.tasks.length
  · subst hlast
    rw [Function.update_self, ticketOf, errand, Crowd.task?_length]
    rfl
  · rw [Function.update_of_ne fun h => hlast (KeeperWorker.call.inj h)]
    rfl

namespace Flying

theorem start (settings : MonitorSettings) : (KeeperCourse.start settings).Flying where
  calls := nofun
  sound := rfl
  unexited := rfl
  unasked := rfl
  watching := nofun
  affairs := sound_after settings []
  lists := ⟨fun _ => rfl, List.nodup_nil, fun _ => ⟨nofun, nofun⟩⟩

theorem serves (h : course.Flying) : course.shared.monitor.turns.Serves (ticketOf course)
    fun i => (errand course (.call i)).Inside :=
  h.affairs.line.calls

/-- Whoever works as the one who has the turn has it. -/
theorem holder_of_inside (h : course.Flying) (stands : course.task? i = some (.ensuring point))
    (hinside : point.errand.Inside) : course.shared.monitor.turns.holder = point.ticket? := by
  rw [← ticketOf_call stands]
  obtain ⟨ticket, hticket, hholder⟩ := h.serves.holds i (by rw [errand_call stands]; exact hinside)
  rw [hticket, hholder]

/-- Who goes on and does not have the turn is not in line yet. -/
theorem ticket?_eq_none (h : course.Flying) {lead : DemandPoint}
    (hlead : course.task? i = some (.ensuring lead))
    (hholder : course.shared.monitor.turns.holder = lead.ticket?) (hji : j ≠ i)
    (stands : course.task? j = some (.ensuring point)) {upkeep : Upkeep Vicinity}
    {progress : Progress DemandPoint Launched}
    (step : DemandMoves course.now course.shared.upkeep point upkeep progress)
    (hgoes : progress ≠ .blocked) : point.ticket? = none := by
  cases hticket : point.ticket? with
  | none => rfl
  | some ticket =>
    have hheld := step.holder hgoes (h.holder_of_inside stands) hticket
    refine absurd (h.serves.distinct j i ticket ?_ ?_) hji
    · rw [ticketOf_call stands, hticket]
    · rw [ticketOf_call hlead, ← hholder]
      exact hheld

/-- Nothing wakes the tasks of the monitor. -/
theorem stepTask_eq (h : course.Flying) (wall : Nat) (task : KeeperTask) :
    (course.shared.stepTask .free course.now wall task).1 = course.shared := by
  cases task with
  | rounds => simp only [Keeper.stepTask, h.unasked]
  | watch i =>
    cases hi : course.shared.watches[i]? with
    | none => simp only [Keeper.stepTask, hi]
    | some standing =>
      obtain ⟨child, rfl⟩ := h.watching standing (List.mem_of_getElem? hi)
      have hexited : Surroundings.free.hasExited child.process course.shared.around = false := by
        simp [Surroundings.free, h.unexited]
      have hstep : (WatchPoint.watching child).step .free course.now course.shared.upkeep =
          (course.shared.upkeep, .blocked) := by
        rw [WatchPoint.step, show course.shared.upkeep.around = course.shared.around from rfl,
          hexited]
        rfl
      simp only [Keeper.stepTask, hi, Keeper.withStep, hstep]

theorem next_moves (h : course.Flying) {event : KeeperCourseEvent} (hevent : event.Demands) :
    FlightMoves course event (keeperRules.next course event) := by
  have hmoves (point : DemandPoint) :
      DemandMoves course.now course.shared.upkeep point
        (point.step .free course.now course.shared.upkeep).1
        (point.step .free course.now course.shared.upkeep).2 :=
    point.step_moves h.sound
  have hnext := keeperRules.next_moves course event
  generalize keeperRules.next course event = course' at hnext ⊢
  cases hnext with
  | misses i stands => exact absurd hevent id
  | givesUp i point stands => exact absurd hevent id
  | waits time => exact .passes _ _ fun _ _ hstep => absurd hstep nofun
  | blocks i wall blocked =>
    refine .passes _ course.now fun j point hsame hpoint => ?_
    obtain rfl : i = j := Option.some.inj hsame
    have hblocked : (point.step .free course.now course.shared.upkeep).2 = .blocked :=
      Progress.eq_blocked_of_map (blocked _ hpoint)
    have hpoint := hmoves point
    rw [hblocked] at hpoint
    have hsame := hpoint.eq_of_blocked
    rwa [hsame] at hpoint
  | begins call =>
    cases call with
    | ensureRunning => exact .begins
    | forceRestart | probeOnce => exact absurd hevent id
  | moves i wall call call' keeper stands step =>
    obtain ⟨point, rfl⟩ := h.calls i call stands
    obtain ⟨rfl, hprogress⟩ := Prod.mk.inj step
    obtain ⟨point', hmoved, rfl⟩ := Progress.eq_moved_of_map hprogress
    have hmoved : (point.step .free course.now course.shared.upkeep).2 = .moved point' := hmoved
    exact .moves i wall point point' _ stands (hmoved ▸ hmoves point)
  | finishes i wall call reply keeper stands step =>
    obtain ⟨point, rfl⟩ := h.calls i call stands
    obtain ⟨rfl, hprogress⟩ := Prod.mk.inj step
    obtain ⟨result, hfinished, rfl⟩ := Progress.eq_finished_of_map hprogress
    have hfinished : (point.step .free course.now course.shared.upkeep).2 = .finished result :=
      hfinished
    exact .finishes i wall point result _ stands (hfinished ▸ hmoves point)
  | occurs event =>
    cases event with
    | works task wall =>
      have hidle : keeperRules.occur course.now (.works task wall) course.shared = course.shared :=
        h.stepTask_eq wall task
      rw [hidle]
      exact .passes _ course.now fun _ _ hstep => absurd hstep nofun
    | answers isReady =>
      exact .changes _ (fun vicinity => { vicinity with answers := isReady }) (fun _ => rfl)
        fun _ => rfl
    | refuses reason =>
      exact .changes _ (fun vicinity => { vicinity with refusal := reason }) (fun _ => rfl)
        fun _ => rfl
    | startsRounds | stops | exits => exact absurd hevent id

/-- A call has gone on. -/
theorem put (h : course.Flying) {upkeep : Upkeep Vicinity}
    {progress : Progress DemandPoint Launched} (stands : course.task? i = some (.ensuring point))
    (step : DemandMoves course.now course.shared.upkeep point upkeep progress)
    (hgoes : progress ≠ .blocked) {standing : Standing KeeperCall (Option KeeperReply)}
    (hcalls : ∀ call, standing.point? = some call → ∃ point, call = .ensuring point)
    (hticket : (standing.point?.elim .idle KeeperCall.errand).ticket? = progress.ticket?)
    (haffairs :
      (KeeperCourse.affairs (course.put i (course.shared.withUpkeep upkeep) standing)).Sound) :
    Flying (course.put i (course.shared.withUpkeep upkeep) standing) where
  calls := by
    intro j call hj
    by_cases hji : j = i
    · rw [hji, Crowd.task?_put_self stands] at hj
      exact hcalls call hj
    · rw [Crowd.task?_put_of_ne (Ne.symm hji)] at hj
      exact h.calls j call hj
  sound := by
    rw [Crowd.shared_put, Keeper.monitor_withUpkeep]
    exact step.keeps.1.trans h.sound
  unexited := by
    rw [Crowd.shared_put, Keeper.around_withUpkeep]
    exact step.keeps.2.trans h.unexited
  unasked := (Keeper.rounds_withUpkeep _ _).trans h.unasked
  watching := fun standing hmem =>
    (Keeper.mem_watches_withUpkeep hmem).elim (h.watching standing) fun ⟨child, _, hnew⟩ =>
      ⟨child, hnew⟩
  affairs := haffairs
  lists := by
    rw [Crowd.shared_put, Keeper.monitor_withUpkeep]
    refine h.lists.shifts (i := i) h.serves ?_ fun j hji => ticketOf_put_of_ne hji _ _
    rw [ticketOf_call stands, ticketOf_put_self stands, hticket]
    exact (step.line hgoes (h.holder_of_inside stands)).shifts

theorem next (h : course.Flying) {event : KeeperCourseEvent} (hevent : event.Demands) :
    Flying (keeperRules.next course event) := by
  have hmoves := h.next_moves hevent
  have haffairs := h.affairs.moves (next_affairs course event)
  generalize keeperRules.next course event = course' at hmoves haffairs ⊢
  cases hmoves with
  | passes => exact ⟨h.calls, h.sound, h.unexited, h.unasked, h.watching, haffairs, h.lists⟩
  | begins =>
    refine ⟨?_, h.sound, h.unexited, h.unasked, h.watching, haffairs,
      h.lists.keep (ticketOf_begin course)⟩
    intro i call hi
    by_cases hlast : i = course.tasks.length
    · rw [hlast, Crowd.task?_concat_self] at hi
      exact ⟨.starting, (Option.some.inj hi).symm⟩
    · rw [Crowd.task?_concat_of_ne hlast] at hi
      exact h.calls i call hi
  | changes event change calls exited =>
    exact ⟨h.calls, h.sound, (exited _).trans h.unexited, h.unasked, h.watching, haffairs, h.lists⟩
  | moves i wall point point' upkeep stands step =>
    exact h.put stands step nofun (fun call hcall => ⟨point', (Option.some.inj hcall).symm⟩) rfl
      haffairs
  | finishes i wall point result upkeep stands step =>
    exact h.put stands step nofun nofun rfl haffairs

theorem along (settings : MonitorSettings) {run : Nat → KeeperCourseEvent}
    (hrun : ∀ n, (run n).Demands) (n : Nat) :
    Flying (keeperRules.along (KeeperCourse.start settings) run n) := by
  induction n with
  | zero => exact .start settings
  | succ n ih =>
    rw [CrowdRules.along_succ]
    exact ih.next (hrun n)

end Flying
end KeeperCourse
end SymbolSearch
