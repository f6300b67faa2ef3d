import SymbolSearch.Proofs.Monitor.Offspring

/-!
# Stopping for good

A monitor that has been stopped is to launch nothing any more, and to leave no process behind, as
long as nothing is asked of it.

* `Errand.IsDue` — who is to launch a proxy, at once or when the turn comes.
* `Affairs.Listed` — the line for the turn is one of those who work on the monitor.
* `KeeperCourse.Halted` — a monitor without a process, whose tasks are not to launch any;
  `Halted.next`, it stays like this.
* `KeeperCourse.Relapses` — a monitor that may launch a process although nothing is asked of it;
  `relapses_of_isDue`, it may as soon as one of its watches is to.
* `KeeperCourse.final_iff` — so a stop is final exactly if no watch is to launch a proxy then.
* `KeeperCourse.not_forall_final` — one may be, if its process has exited before the stop.
-/

namespace SymbolSearch

/-! ### Errands -/

namespace Errand

/-- Whether one is to launch a proxy, at once or when the turn comes. -/
def IsDue : Errand → Prop
  | .queued _ true | .clearing _ | .spawning _ _ => True
  | .queued _ false | .idle | .forcing | .asking | .checking _ | .greeting _ => False

instance : DecidablePred IsDue := fun errand => by
  rcases errand with _ | _ | _ | ⟨_, _ | _⟩ | _ | _ | _ | _ <;> unfold IsDue <;> infer_instance

theorem exists_ticket_of_isDue {errand : Errand} (h : errand.IsDue) :
    ∃ ticket, errand.ticket? = some ticket := by
  cases errand with
  | queued ticket | clearing ticket | spawning ticket => exact ⟨ticket, rfl⟩
  | idle | forcing | asking | checking | greeting => exact h.elim

end Errand

theorem RelaunchPoint.ticket?_errand (point : RelaunchPoint) :
    point.errand.ticket? = some point.ticket := by
  cases point with
  | launching ticket launch => exact launch.ticket?_errand ticket false
  | _ => rfl

/-- Who launches another proxy is to do so until it is launched. -/
theorem RelaunchPoint.errand_of_not_isDue {point : RelaunchPoint} (h : ¬point.errand.IsDue) :
    point.errand = .greeting point.ticket := by
  cases point with
  | launching ticket launch =>
    cases launch with
    | spawning => exact absurd trivial h
    | waiting => rfl
  | _ => exact absurd trivial h

/-- Whoever waits for a new proxy that the monitor does not look after any longer can do nothing to
    processes. -/
theorem ErrandMoves.of_greeting {outline outline' : Outline} {ticket : Ticket} {errand' : Errand}
    (h : ErrandMoves outline (.greeting ticket) outline' errand') (hchild : outline.child = none) :
    outline'.child = none ∧ outline'.around = outline.around ∧ ¬errand'.IsDue := by
  cases h with
  | stays => exact ⟨hchild, rfl, id⟩
  | drops => exact ⟨hchild, rfl, id⟩
  | meets _ _ stands => exact ⟨hchild, rfl, id⟩
  | loses =>
    rw [Outline.dismiss_of_none hchild]
    exact ⟨hchild, rfl, id⟩
  | endures _ stands | givesUp _ stands => rcases stands with h | h <;> cases h
  | restarts _ _ _ _ stands => rcases stands with h | h <;> cases h

/-! ### The line for the turn -/

theorem ErrandMoves.shifts {outline outline' : Outline} {errand errand' : Errand}
    (h : ErrandMoves outline errand outline' errand') :
    outline.turns.Shifts errand.ticket? outline'.turns errand'.ticket? := by
  have hbegins {begun : Outline} (hbegins : Restarts begun outline' errand')
      (hturns : begun.turns = outline.turns) :
      outline.turns.Shifts none outline'.turns errand'.ticket? := by
    rw [← hturns]
    cases hbegins with
    | waits | takesTurn => exact .joins
  cases h with
  | stays | asks | checks | clears | hears | demands | cleared | launches => exact .stays _
  | joins | joinsFirst => exact .joins
  | drops errand =>
    unfold Outline.drop
    cases errand.ticket? with
    | none => exact .stays none
    | some ticket => exact .leaves ticket
  | meets _ ticket stands => rcases stands with rfl | rfl <;> exact .leaves ticket
  | endures _ stands | givesUp _ stands => rcases stands with rfl | rfl <;> exact .stays none
  | restarts _ _ _ _ stands _ begins => rcases stands with rfl | rfl <;> exact hbegins begins rfl
  | forces _ _ _ begins => exact hbegins begins rfl
  | refused ticket | loses ticket => exact .leaves ticket

namespace Affairs

variable {affairs affairs' : Affairs} {worker : KeeperWorker} {outline : Outline} {errand : Errand}

/-- Those in line for the turn are those who have a ticket. -/
def Listed (affairs : Affairs) : Prop :=
  affairs.outline.turns.Lists fun n => (affairs.errands (.ofNumber n)).ticket?

theorem Listed.put (h : affairs.Listed) (hline : affairs.InLine)
    (hshifts : affairs.outline.turns.Shifts (affairs.errands worker).ticket? outline.turns
      errand.ticket?) : (affairs.put worker outline errand).Listed := by
  refine Turns.Lists.shifts (i := worker.number) h hline ?_ fun n hn => ?_
  · simpa using hshifts
  · rw [errands_put_of_ne (InLine.ne_of_ne_number hn)]

theorem Listed.moves {worker? : Option KeeperWorker} (h : affairs.Listed) (hline : affairs.InLine)
    (hmoves : AffairsMoves affairs worker? affairs') : affairs'.Listed := by
  cases hmoves with
  | rests | changes => exact h
  | begins worker errand new early =>
    have hticket : errand.ticket? = (affairs.errands worker).ticket? := by
      rw [new]
      rcases early with rfl | rfl <;> rfl
    exact h.put hline (hticket ▸ .stays _)
  | works worker outline errand moves => exact h.put hline moves.shifts
  | drops worker | halts worker =>
    have hdrops : ErrandMoves affairs.outline (affairs.errands worker) _ _ := .drops _
    exact h.put hline hdrops.shifts

/-- If anybody has a ticket, somebody has the turn. -/
theorem Listed.exists_holder (h : affairs.Listed) {ticket : Ticket}
    (hticket : (affairs.errands worker).ticket? = some ticket) :
    ∃ holder held, affairs.outline.turns.holder = some held ∧
      (affairs.errands holder).ticket? = some held := by
  -- Whoever is in line knows of a holder, and who holds the turn is in line.
  have hmem : ticket ∈ affairs.outline.turns.line :=
    (h.mem_iff ticket).mpr ⟨worker.number, by simpa using hticket⟩
  obtain ⟨held, hheld⟩ := Turns.Lists.exists_holder h hmem
  have hfirst : held ∈ affairs.outline.turns.line := by simp [Turns.line, hheld]
  obtain ⟨n, hn⟩ := (h.mem_iff held).mp hfirst
  exact ⟨.ofNumber n, held, hheld, hn⟩

end Affairs

/-! ### Processes -/

namespace Vicinity

variable {vicinity vicinity' vicinity'' : Vicinity}

/-- Between these, no process is launched or killed, though some may exit. -/
structure Spared (vicinity vicinity' : Vicinity) : Prop where
  calls : vicinity'.calls = vicinity.calls
  launched : vicinity'.launched = vicinity.launched
  killed : vicinity'.killed = vicinity.killed
  exited : ∀ process ∈ vicinity.exited, process ∈ vicinity'.exited

namespace Spared

theorem refl (vicinity : Vicinity) : vicinity.Spared vicinity := ⟨rfl, rfl, rfl, fun _ => id⟩

theorem of_eq (h : vicinity = vicinity') : vicinity.Spared vicinity' := h ▸ refl vicinity

theorem trans (h : vicinity.Spared vicinity') (h' : vicinity'.Spared vicinity'') :
    vicinity.Spared vicinity'' :=
  ⟨h'.calls.trans h.calls, h'.launched.trans h.launched, h'.killed.trans h.killed,
    fun process hmem => h'.exited process (h.exited process hmem)⟩

theorem exit (process : ProcessId) (vicinity : Vicinity) :
    vicinity.Spared (vicinity.exit process) := by
  rcases vicinity.exit_eq process with h | h
  · exact .of_eq h.symm
  · rw [h]
    exact ⟨rfl, rfl, rfl, fun _ => List.mem_cons_of_mem _⟩

theorem gone (h : vicinity.Spared vicinity') {process : ProcessId} (hgone : vicinity.Gone process) :
    vicinity'.Gone process :=
  hgone.imp (h.exited process) fun hkilled => h.killed ▸ hkilled

end Spared
end Vicinity

namespace Outline

variable {outline outline' : Outline} {errand : Errand}

/-- Only what was launched has exited. -/
def Known (outline : Outline) : Prop :=
  ∀ process ∈ outline.around.exited, process < outline.around.launched

theorem Known.dismiss (h : outline.Known) : outline.dismiss.Known := by
  cases hchild : outline.child with
  | none =>
    rw [dismiss_of_none hchild]
    exact h
  | some child =>
    rw [dismiss_of_some hchild]
    exact h

theorem Known.drop (h : outline.Known) (errand : Errand) : (outline.drop errand).Known := by
  unfold Known
  rw [(outline.processes_drop errand).2]
  exact h

theorem Known.moves (h : outline.Known) (hmoves : ProcessMoves outline errand outline') :
    outline'.Known := by
  unfold Known
  cases hmoves with
  | nothing _ _ _ around | refused _ _ _ _ around =>
    rw [around]
    exact h
  | kills _ _ _ around =>
    rw [around]
    exact h.dismiss
  | launches _ _ _ _ _ around =>
    rw [around]
    exact fun process hmem => Nat.lt_succ_of_lt (h process hmem)

end Outline

/-! ### Watches -/

/-- Nothing comes of the watch of a process that the monitor does not look after, nor of one that
    has launched its proxy. -/
theorem WatchPoint.step_of_not_isDue {point : WatchPoint} {now : Instant}
    {upkeep upkeep' : Upkeep Vicinity} {progress : Progress WatchPoint Unit}
    (hchild : upkeep.monitor.child = none) (hdue : ¬point.errand.IsDue)
    (hstep : point.step .free now upkeep = (upkeep', progress)) :
    progress = .blocked ∨ upkeep'.monitor.child = none ∧ upkeep'.around = upkeep.around ∧
      ∃ watch, progress.standing? = some watch ∧
        ¬(watch.point?.elim .idle WatchPoint.errand).IsDue := by
  cases point with
  | watching child =>
    have hcurrent : upkeep.monitor.isCurrent child.generation = false := by
      simp [Monitor.isCurrent, hchild]
    simp only [step, hcurrent, Bool.false_eq_true, if_false] at hstep
    split at hstep
    · obtain ⟨rfl, rfl⟩ := Prod.mk.inj hstep
      exact .inr ⟨hchild, rfl, .ended (), rfl, id⟩
    · exact .inl (Prod.mk.inj hstep).2.symm
  | recovering relaunch =>
    have hgreets : (WatchPoint.recovering relaunch).errand = .greeting relaunch.ticket :=
      RelaunchPoint.errand_of_not_isDue hdue
    have hcomes := (WatchPoint.recovering relaunch).comes now upkeep
    rw [hstep, hgreets] at hcomes
    cases progress with
    | blocked => exact .inl rfl
    | moved point' =>
      obtain ⟨hchild', haround, hdue'⟩ := ErrandMoves.of_greeting hcomes hchild
      exact .inr ⟨hchild', haround, .waiting point', rfl, hdue'⟩
    | finished result =>
      obtain ⟨hchild', haround, -⟩ := ErrandMoves.of_greeting hcomes hchild
      exact .inr ⟨hchild', haround, .ended result, rfl, id⟩

namespace Keeper

variable {keeper : Keeper Vicinity} {now : Instant} {wall i : Nat} {point : WatchPoint}
  {upkeep : Upkeep Vicinity} {progress : Progress WatchPoint Unit}
  {watch : Standing WatchPoint Unit}

theorem stepTask_watch (wall : Nat) (hi : keeper.watches[i]? = some (.waiting point))
    (hstep : point.step .free now keeper.upkeep = (upkeep, progress))
    (hgoes : progress.standing? = some watch) :
    (keeper.stepTask .free now wall (.watch i)).1 = { keeper.withUpkeep upkeep with
      watches := (keeper.withUpkeep upkeep).watches.set i watch } := by
  cases progress with
  | blocked => cases hgoes
  | moved | finished =>
    obtain rfl := Option.some.inj hgoes
    simp only [stepTask, hi, withStep, hstep]

/-- No process is launched by a watch that is not to launch any. -/
theorem stepTask_of_not_isDue (now : Instant) (wall : Nat) (hchild : keeper.monitor.child = none)
    (hdue : ¬(keeper.errand (.watch i)).IsDue) :
    (keeper.stepTask .free now wall (.watch i)).1.monitor.child = none ∧
      (keeper.stepTask .free now wall (.watch i)).1.around = keeper.around ∧
      (keeper.stepTask .free now wall (.watch i)).1.rounds = keeper.rounds ∧
      ∃ errand', ¬errand'.IsDue ∧ (keeper.stepTask .free now wall (.watch i)).1.errand =
        Function.update keeper.errand (.watch i) errand' := by
  have hstays : keeper.monitor.child = none ∧ keeper.around = keeper.around ∧
      keeper.rounds = keeper.rounds ∧ ∃ errand', ¬errand'.IsDue ∧
        keeper.errand = Function.update keeper.errand (.watch i) errand' :=
    ⟨hchild, rfl, rfl, _, hdue, (Function.update_eq_self _ _).symm⟩
  cases hi : keeper.watches[i]? with
  | none => simpa only [stepTask, hi] using hstays
  | some standing =>
    cases standing with
    | ended result => simpa only [stepTask, hi] using hstays
    | waiting point =>
      have herrand : keeper.errand (.watch i) = point.errand := by
        simp [errand, hi, Standing.point?]
      generalize hstep : point.step .free now keeper.upkeep = stepped
      obtain ⟨upkeep, progress⟩ := stepped
      rcases WatchPoint.step_of_not_isDue hchild (herrand ▸ hdue) hstep with
        rfl | ⟨hchild', haround, watch, hgoes, hdue'⟩
      · simpa only [stepTask, hi, withStep, hstep] using hstays
      · rw [stepTask_watch wall hi hstep hgoes]
        refine ⟨?_, ?_, rounds_withUpkeep keeper upkeep, _, hdue', errand_setWatch hi upkeep⟩
        · exact (congrArg (·.monitor.child) (upkeep_withUpkeep keeper upkeep)).trans hchild'
        · exact (congrArg (·.around) (upkeep_withUpkeep keeper upkeep)).trans haround

end Keeper

/-! ### Courses -/

namespace KeeperCourse

/-- Whether an event asks something of the monitor. -/
def Asks : KeeperCourseEvent → Prop
  | .begin _ | .occur .startsRounds => True
  | _ => False

instance : DecidablePred Asks := fun event => by
  rcases event with _ | _ | _ | event | _
  case occur => cases event <;> unfold Asks <;> infer_instance
  all_goals unfold Asks; infer_instance

variable {course : KeeperCourse} {event : KeeperCourseEvent} {i j : Nat}
  {settings : MonitorSettings} {events : List KeeperCourseEvent}

theorem listed_after (settings : MonitorSettings) (events : List KeeperCourseEvent) :
    (affairs (keeperRules.after (start settings) events)).Listed := by
  induction events using List.reverseRecOn with
  | nil =>
    have hidle (worker : KeeperWorker) : errand (start settings) worker = .idle := by
      rcases worker with i | i | _ <;> rfl
    refine ⟨fun _ => rfl, List.nodup_nil, fun ticket => ⟨nofun, ?_⟩⟩
    rintro ⟨n, hn⟩
    have hnone : (errand (start settings) (.ofNumber n)).ticket? = some ticket := hn
    rw [hidle] at hnone
    cases hnone
  | append_singleton events event ih =>
    rw [CrowdRules.after_concat]
    exact ih.moves (sound_after settings events).line (next_affairs _ event)

/-! ### Stopping -/

/-- The monitor stops. -/
def stopped (course : KeeperCourse) : KeeperCourse := keeperRules.next course (.occur .stops)

theorem errand_stopped (course : KeeperCourse) (i : Nat) :
    errand course.stopped (.task (.watch i)) = errand course (.task (.watch i)) := by
  show course.shared.stopRounds.errand (.watch i) = course.shared.errand (.watch i)
  rw [course.shared.outline_stopRounds.2]
  exact Function.update_of_ne (by simp) ..

theorem rounds_stopped (course : KeeperCourse) : course.stopped.shared.rounds = none := by
  show course.shared.stopRounds.rounds = none
  unfold Keeper.stopRounds
  split
  next hrounds => exact hrounds
  · rfl

/-- The process of the monitor is killed, and the repeated questions may leave the line. -/
theorem exists_outline_stopped (course : KeeperCourse) :
    ∃ rest : Outline, rest.child = course.shared.monitor.child ∧
      rest.around = course.shared.around ∧ course.stopped.shared.upkeep.outline = rest.dismiss := by
  obtain ⟨hchild, haround⟩ :=
    course.shared.upkeep.outline.processes_drop (course.shared.errand .rounds)
  exact ⟨_, hchild, haround, course.shared.outline_stop⟩

theorem childless_stopped (course : KeeperCourse) : course.stopped.shared.monitor.child = none := by
  obtain ⟨rest, -, -, houtline⟩ := exists_outline_stopped course
  exact congrArg Outline.child houtline

/-- Who has no process kills none. -/
theorem around_stopped (hchild : course.shared.monitor.child = none) :
    course.stopped.shared.around = course.shared.around := by
  obtain ⟨rest, hrest, haround, houtline⟩ := exists_outline_stopped course
  rw [Outline.dismiss_of_none (hrest.trans hchild)] at houtline
  exact (congrArg Outline.around houtline).trans haround

/-- The process that the monitor looks after is killed, and no other one. -/
theorem allGone_stopped_iff (course : KeeperCourse) :
    AllGone course.stopped ↔ AllSupervised course := by
  obtain ⟨rest, hrest, haround, houtline⟩ := exists_outline_stopped course
  have hstopped : course.stopped.shared.around = rest.dismiss.around :=
    congrArg Outline.around houtline
  unfold AllGone AllSupervised Vicinity.Gone
  rw [hstopped, ← hrest, ← haround]
  cases hchild : rest.child with
  | none => simp [Outline.dismiss_of_none hchild]
  | some child =>
    simp only [Outline.dismiss_of_some hchild, List.mem_cons, Option.some.injEq, exists_eq_left']
    -- That a process is killed now is that it is the one the monitor looks after.
    have hswap (process : ProcessId) :
        (process ∈ rest.around.exited ∨ process = child.process ∨ process ∈ rest.around.killed) ↔
          (process ∈ rest.around.exited ∨ process ∈ rest.around.killed) ∨
            child.process = process := by
      rw [or_assoc, or_comm (a := process = child.process), eq_comm (a := process)]
    simp only [hswap]

/-! ### A monitor that stays stopped -/

/-- A monitor without a process of which nothing is asked, and whose tasks are not to launch any. -/
structure Halted (course : KeeperCourse) : Prop where
  nobody : ∀ i, course.task? i = none
  unasked : course.shared.rounds = none
  childless : course.shared.monitor.child = none
  undue : ∀ i, ¬(errand course (.task (.watch i))).IsDue

/-- Nothing that is done to one that is halted launches a process. -/
theorem Halted.next (h : course.Halted) (hasks : ¬Asks event) :
    Halted (keeperRules.next course event) ∧
      course.shared.around.Spared (keeperRules.next course event).shared.around := by
  have hsame {course' : KeeperCourse} (hrest : course' = course) :
      Halted course' ∧ course.shared.around.Spared course'.shared.around := by
    subst hrest
    exact ⟨h, .refl _⟩
  cases event with
  | «begin» call => exact absurd trivial hasks
  -- No call is there to go on or to be given up.
  | step i wall =>
    have hrest : keeperRules.next course (.step i wall) = course := by
      simp only [CrowdRules.next, h.nobody i]
    exact hsame hrest
  | giveUp i =>
    have hrest : keeperRules.next course (.giveUp i) = course := by
      simp only [CrowdRules.next, h.nobody i]
    exact hsame hrest
  | wait time => exact ⟨⟨h.nobody, h.unasked, h.childless, h.undue⟩, .refl _⟩
  | occur event =>
    cases event with
    | startsRounds => exact absurd trivial hasks
    | answers | refuses =>
      exact ⟨⟨h.nobody, h.unasked, h.childless, h.undue⟩, rfl, rfl, rfl, fun _ => id⟩
    | exits process =>
      exact ⟨⟨h.nobody, h.unasked, h.childless, h.undue⟩, .exit process _⟩
    | stops =>
      refine ⟨⟨h.nobody, rounds_stopped course, childless_stopped course, fun i => ?_⟩,
        .of_eq (around_stopped h.childless).symm⟩
      show ¬(errand course.stopped (.task (.watch i))).IsDue
      rw [errand_stopped]
      exact h.undue i
    | works task wall =>
      cases task with
      | rounds =>
        have hrest : course.shared.stepTask .free course.now wall .rounds =
            (course.shared, false) := by
          simp only [Keeper.stepTask, h.unasked]
        exact hsame (congrArg (fun stepped => { course with shared := stepped.1 }) hrest)
      | watch i =>
        obtain ⟨hchild, haround, hrounds, errand', hdue, herrand⟩ :=
          Keeper.stepTask_of_not_isDue course.now wall h.childless (h.undue i)
        refine ⟨⟨h.nobody, hrounds.trans h.unasked, hchild, fun j => ?_⟩, .of_eq haround.symm⟩
        -- The other watches stand where they stood.
        show ¬((course.shared.stepTask .free course.now wall (.watch i)).1.errand
          (.watch j)).IsDue
        rw [herrand]
        by_cases hji : KeeperTask.watch j = .watch i
        · rw [hji, Function.update_self]
          exact hdue
        · rw [Function.update_of_ne hji]
          exact h.undue j

theorem Halted.after (h : course.Halted) (hasks : ∀ event ∈ events, ¬Asks event) :
    course.shared.around.Spared (keeperRules.after course events).shared.around := by
  induction events generalizing course with
  | nil => exact .refl _
  | cons event events ih =>
    obtain ⟨hnext, hspared⟩ := h.next (hasks event List.mem_cons_self)
    exact hspared.trans (ih hnext fun other hother => hasks other (List.mem_cons_of_mem _ hother))

/-! ### A monitor that launches again -/

/-- A process is launched, and goes on. -/
theorem RelaunchPoint.step_spawning (ticket : Ticket) (now : Instant) (upkeep : Upkeep Vicinity)
    (hwilling : upkeep.around.refusal = none) :
    ∃ upkeep' launch, (RelaunchPoint.launching ticket .spawning).step .free now upkeep =
        (upkeep', .moved (.launching ticket launch)) ∧
      upkeep'.around = { upkeep.around with
        calls := upkeep.around.calls + 1
        launched := upkeep.around.launched + 1 } := by
  have hspawn : Surroundings.free.spawn now upkeep.around =
      (.ok upkeep.around.launched, { upkeep.around with
        calls := upkeep.around.calls + 1
        launched := upkeep.around.launched + 1 }) := by
    simp only [Surroundings.free, hwilling]
  simp only [RelaunchPoint.step, LaunchPoint.step, hspawn]
  exact ⟨_, _, rfl, rfl⟩

/-- Whoever waits until a time need not wait after it. -/
theorem isDue_add_getD (resume : Option Instant) (now : Instant) :
    isDue resume (now + resume.getD 0) = true := by
  cases resume with
  | none => rfl
  | some time => simp [isDue]

/-- Whether a course can come about. -/
def IsReached (course : KeeperCourse) : Prop :=
  ∃ settings events, keeperRules.after (start settings) events = course

/-- Whether the monitor may launch a process that lives on, although nothing is asked of it. -/
def Relapses (course : KeeperCourse) : Prop :=
  ∃ later, (∀ event ∈ later, ¬Asks event) ∧
    (keeperRules.after course later).shared.around.calls ≠ course.shared.around.calls ∧
    ¬AllGone (keeperRules.after course later)

theorem known_next (h : course.shared.upkeep.outline.Known) (event : KeeperCourseEvent) :
    (keeperRules.next course event).shared.upkeep.outline.Known := by
  have hnext := keeperRules.next_moves course event
  generalize keeperRules.next course event = course' at hnext ⊢
  cases hnext with
  | blocks | misses | begins | waits => exact h
  | moves i wall call call' keeper stands step
  | finishes i wall call reply keeper stands step =>
    obtain ⟨⟨upkeep, progress⟩, hcomes, hstep⟩ := call.comes course.now wall course.shared
    obtain ⟨rfl, rfl⟩ := Prod.mk.inj (hstep.symm.trans step)
    rw [Crowd.shared_put, Keeper.upkeep_withUpkeep]
    exact h.moves hcomes.processes
  | givesUp i call stands =>
    have hcancel : (call.cancel course.shared).upkeep.outline = _ := call.outline_cancel _
    show (call.cancel course.shared).upkeep.outline.Known
    rw [hcancel]
    exact h.drop _
  | occurs event =>
    cases event with
    | works task wall =>
      obtain ⟨errand', hmoves, -⟩ := course.shared.stepTask_moves course.now wall task
      exact h.moves hmoves.processes
    | startsRounds =>
      show course.shared.stopRounds.upkeep.outline.Known
      rw [course.shared.outline_stopRounds.1]
      exact h.drop _
    | stops =>
      show (course.shared.stop .free).upkeep.outline.Known
      rw [course.shared.outline_stop]
      exact (h.drop _).dismiss
    | answers | refuses => exact h
    | exits process =>
      show ∀ other ∈ (course.shared.around.exit process).exited,
        other < (course.shared.around.exit process).launched
      unfold Vicinity.exit
      split
      next hlt => exact List.forall_mem_cons.mpr ⟨hlt, h⟩
      · exact h

theorem known_after (settings : MonitorSettings) (events : List KeeperCourseEvent) :
    (keeperRules.after (start settings) events).shared.upkeep.outline.Known := by
  induction events using List.reverseRecOn with
  | nil => exact nofun
  | append_singleton events event ih =>
    rw [CrowdRules.after_concat]
    exact known_next ih event

namespace IsReached

theorem after (h : course.IsReached) (events : List KeeperCourseEvent) :
    IsReached (keeperRules.after course events) := by
  obtain ⟨settings, earlier, rfl⟩ := h
  exact ⟨settings, earlier ++ events, List.foldl_append ..⟩

/-- Only what was launched is gone. -/
theorem lt_launched (h : course.IsReached) {process : ProcessId}
    (hgone : course.shared.around.Gone process) : process < course.shared.around.launched := by
  obtain ⟨settings, events, rfl⟩ := h
  exact hgone.elim (known_after settings events process)
    ((sound_after settings events).kept.known process)

theorem listed (h : course.IsReached) : (affairs course).Listed := by
  obtain ⟨settings, events, rfl⟩ := h
  exact listed_after settings events

theorem inLine (h : course.IsReached) : (affairs course).InLine := by
  obtain ⟨settings, events, rfl⟩ := h
  exact (sound_after settings events).line

end IsReached

/-- It does not matter what else happens before, as long as nothing is asked and launched. -/
theorem Relapses.of_after (h : Relapses (keeperRules.after course events))
    (hasks : ∀ event ∈ events, ¬Asks event)
    (hcalls : (keeperRules.after course events).shared.around.calls = course.shared.around.calls) :
    course.Relapses := by
  obtain ⟨later, hlater, hlaunches, hlives⟩ := h
  have hsplit : keeperRules.after course (events ++ later) =
      keeperRules.after (keeperRules.after course events) later := List.foldl_append ..
  refine ⟨events ++ later, List.forall_mem_append.mpr ⟨hasks, hlater⟩, ?_, ?_⟩
  · rw [hsplit, ← hcalls]
    exact hlaunches
  · rw [hsplit]
    exact hlives

/-- The event that a watch goes on. -/
def watchWorks (i : Nat) : KeeperCourseEvent := .occur (.works (.watch i) 0)

/-- Whether the watch of a process is about to launch another one, and where it stands. -/
def Recovers (course : KeeperCourse) (i : Nat) (relaunch : RelaunchPoint) : Prop :=
  course.shared.watches[i]? = some (.waiting (.recovering relaunch))

namespace Recovers

variable {relaunch relaunch' : RelaunchPoint} {upkeep : Upkeep Vicinity} {result : Launched}

theorem errand_eq (h : course.Recovers i relaunch) :
    errand course (.task (.watch i)) = relaunch.errand := by
  show course.shared.errand (.watch i) = _
  rw [Keeper.errand, show course.shared.watches[i]? = _ from h]
  rfl

theorem moves (h : course.Recovers i relaunch)
    (hstep : relaunch.step .free course.now course.shared.upkeep = (upkeep, .moved relaunch')) :
    Recovers (keeperRules.next course (watchWorks i)) i relaunch' ∧
      (keeperRules.next course (watchWorks i)).shared.upkeep = upkeep := by
  have hwatch : (WatchPoint.recovering relaunch).step .free course.now course.shared.upkeep =
      (upkeep, .moved (.recovering relaunch')) := by
    show Stepped.map _ _ (relaunch.step .free course.now course.shared.upkeep) = _
    rw [hstep]
    rfl
  have hnext : (keeperRules.next course (watchWorks i)).shared = _ :=
    Keeper.stepTask_watch 0 h hwatch rfl
  have hlt := Keeper.lt_withUpkeep h upkeep
  constructor
  · unfold Recovers
    rw [hnext]
    exact List.getElem?_set_self hlt
  · rw [hnext]
    exact Keeper.upkeep_withUpkeep _ _

theorem finishes (h : course.Recovers i relaunch)
    (hstep : relaunch.step .free course.now course.shared.upkeep = (upkeep, .finished result)) :
    (keeperRules.next course (watchWorks i)).shared.upkeep = upkeep ∧
      (keeperRules.next course (watchWorks i)).shared.rounds = course.shared.rounds ∧
      errand (keeperRules.next course (watchWorks i)) =
        Function.update (errand course) (.task (.watch i)) .idle := by
  have hwatch : (WatchPoint.recovering relaunch).step .free course.now course.shared.upkeep =
      (upkeep, .finished ()) := by
    show Stepped.map _ _ (relaunch.step .free course.now course.shared.upkeep) = _
    rw [hstep]
    rfl
  have hnext : (keeperRules.next course (watchWorks i)).shared = _ :=
    Keeper.stepTask_watch 0 h hwatch rfl
  refine ⟨?_, ?_, ?_⟩
  · rw [hnext]
    exact Keeper.upkeep_withUpkeep _ _
  · rw [hnext]
    exact Keeper.rounds_withUpkeep _ _
  · have hself : keeperRules.next course (watchWorks i) =
        { course with shared := (keeperRules.next course (watchWorks i)).shared } := rfl
    rw [hself, hnext]
    exact errand_shared course (Keeper.errand_setWatch h upkeep)

/-- Who is to launch a process does so if that is possible, and it lives. -/
theorem relapses_of_spawning {ticket : Ticket} (h : course.IsReached)
    (hwatch : course.Recovers i (.launching ticket .spawning)) : course.Relapses := by
  let willing : KeeperCourse := keeperRules.next course (.occur (.refuses none))
  have hwilling : willing.Recovers i (.launching ticket .spawning) := hwatch
  obtain ⟨upkeep, launch, hstep, haround⟩ :=
    RelaunchPoint.step_spawning ticket willing.now willing.shared.upkeep rfl
  have hupkeep := (hwilling.moves hstep).2
  refine ⟨[.occur (.refuses none), watchWorks i], ?_, ?_, ?_⟩
  · simp [Asks, watchWorks]
  · show (keeperRules.next willing (watchWorks i)).shared.upkeep.around.calls ≠ _
    rw [hupkeep, haround]
    exact Nat.succ_ne_self _
  · -- The new process is the one whose number is that of the launches before.
    intro hgone
    have hnew : (keeperRules.next willing (watchWorks i)).shared.upkeep.around.Gone
        course.shared.around.launched := by
      refine hgone _ ?_
      show _ < (keeperRules.next willing (watchWorks i)).shared.upkeep.around.launched
      rw [hupkeep, haround]
      exact Nat.lt_succ_self _
    rw [hupkeep, haround] at hnew
    exact Nat.lt_irrefl _ (h.lt_launched hnew)

/-- Who waits for the proxy there was launches another one when that does not answer. -/
theorem relapses_of_stopping {ticket : Ticket} {deadline : Instant} {resume : Option Instant}
    (h : course.IsReached) (hwatch : course.Recovers i (.stopping ticket deadline resume)) :
    course.Relapses := by
  let events : List KeeperCourseEvent := [.occur (.answers false), .wait (resume.getD 0)]
  let silent : KeeperCourse := keeperRules.after course events
  have hsilent : silent.Recovers i (.stopping ticket deadline resume) := hwatch
  have hdue : isDue resume silent.now = true := isDue_add_getD resume course.now
  have hstep : (RelaunchPoint.stopping ticket deadline resume).step .free silent.now
      silent.shared.upkeep = (silent.shared.upkeep, .moved (.launching ticket .spawning)) := by
    simp only [RelaunchPoint.step, if_pos hdue]
    rfl
  obtain ⟨hspawns, hupkeep⟩ := hsilent.moves hstep
  have hspawning := relapses_of_spawning (h.after (events ++ [watchWorks i])) hspawns
  refine Relapses.of_after hspawning ?_ ?_
  · simp [events, Asks, watchWorks]
  · show (keeperRules.next silent (watchWorks i)).shared.upkeep.around.calls = _
    rw [hupkeep]
    rfl

/-- Who gets rid of a proxy launches another one then. -/
theorem relapses_of_clearing (h : course.IsReached) (hwatch : course.Recovers i relaunch)
    {ticket : Ticket} (hclears : relaunch.errand = .clearing ticket) : course.Relapses := by
  cases relaunch with
  | queued ticket => cases hclears
  | launching ticket launch => cases launch <;> cases hclears
  | stopping ticket deadline resume => exact relapses_of_stopping h hwatch
  | dismissing ticket =>
    obtain ⟨hstops, hupkeep⟩ := hwatch.moves rfl
    refine Relapses.of_after (relapses_of_stopping (h.after [watchWorks i]) hstops) ?_ ?_
    · simp [Asks, watchWorks]
    · show (keeperRules.next course (watchWorks i)).shared.upkeep.around.calls = _
      rw [hupkeep]
      rfl

/-- Who has the turn and is to launch a proxy can do so. -/
theorem relapses_of_isDue (h : course.IsReached) (hwatch : course.Recovers i relaunch)
    (hdue : relaunch.errand.IsDue)
    (hheld : course.shared.monitor.turns.holder = some relaunch.ticket) : course.Relapses := by
  cases relaunch with
  | dismissing | stopping => exact relapses_of_clearing h hwatch rfl
  | launching ticket launch =>
    cases launch with
    | spawning => exact relapses_of_spawning h hwatch
    | waiting => exact hdue.elim
  | queued ticket =>
    have hholds : course.shared.upkeep.monitor.turns.holds ticket = true :=
      Turns.holds_iff.mpr hheld
    have hstep : (RelaunchPoint.queued ticket).step .free course.now course.shared.upkeep =
        ((RelaunchPoint.takeTurn .free course.now ticket course.shared.upkeep).1,
          .moved (RelaunchPoint.takeTurn .free course.now ticket course.shared.upkeep).2) := by
      simp only [RelaunchPoint.step, if_pos hholds]
    obtain ⟨houtline, hclears⟩ :=
      RelaunchPoint.outline_takeTurn course.now ticket course.shared.upkeep
    obtain ⟨htakes, hupkeep⟩ := hwatch.moves hstep
    refine Relapses.of_after (relapses_of_clearing (h.after [watchWorks i]) htakes hclears) ?_ ?_
    · simp [Asks, watchWorks]
    · show (keeperRules.next course (watchWorks i)).shared.upkeep.outline.around.calls = _
      rw [hupkeep, houtline, Outline.calls_dismiss]
      rfl

/-- Who waits for a new proxy can be done with it. -/
theorem exists_greeted {ticket : Ticket} (hwatch : course.Recovers i relaunch)
    (hgreets : relaunch.errand = .greeting ticket) :
    ∃ events, (∀ event ∈ events, ¬Asks event) ∧
      let course' := keeperRules.after course events
      course'.shared.around.calls = course.shared.around.calls ∧
        course'.shared.rounds = course.shared.rounds ∧ course'.tasks = course.tasks ∧
        errand course' = Function.update (errand course) (.task (.watch i)) .idle := by
  cases relaunch with
  | queued | dismissing | stopping => cases hgreets
  | launching held launch =>
    cases launch with
    | spawning => cases hgreets
    | waiting generation deadline resume =>
      let events : List KeeperCourseEvent := [.occur (.answers true), .wait (resume.getD 0)]
      let ready : KeeperCourse := keeperRules.after course events
      have hready : ready.Recovers i (.launching held (.waiting generation deadline resume)) :=
        hwatch
      have hdue : isDue resume ready.now = true := isDue_add_getD resume course.now
      have hstep : (RelaunchPoint.launching held (.waiting generation deadline resume)).step .free
          ready.now ready.shared.upkeep =
          ((ready.shared.upkeep.update fun monitor => monitor.markReady ready.now).leave held,
            .finished (.ok ())) := by
        simp only [RelaunchPoint.step, LaunchPoint.step, if_pos hdue]
        rfl
      obtain ⟨hupkeep, hrounds, herrand⟩ := hready.finishes hstep
      refine ⟨events ++ [watchWorks i], ?_, ?_, hrounds, rfl, ?_⟩
      · simp [events, Asks, watchWorks]
      · show (keeperRules.next ready (watchWorks i)).shared.upkeep.around.calls = _
        rw [hupkeep]
        rfl
      · refine herrand.trans (congrArg (Function.update · _ _) ?_)
        funext worker
        rcases worker with _ | ⟨_ | _⟩ <;> rfl

end Recovers

/-- If nobody has called and a watch is in line, then a watch has the turn. -/
theorem IsReached.exists_leader {ticket : Ticket} (h : course.IsReached)
    (hnobody : ∀ i, course.task? i = none) (hrounds : course.shared.rounds = none)
    (hticket : (errand course (.task (.watch i))).ticket? = some ticket) :
    ∃ j relaunch, course.Recovers j relaunch ∧
      course.shared.monitor.turns.holder = some relaunch.ticket := by
  have hlisted : ((affairs course).errands (.task (.watch i))).ticket? = some ticket := hticket
  obtain ⟨holder, held, hholder, hheld⟩ := h.listed.exists_holder hlisted
  have hheld : (errand course holder).ticket? = some held := hheld
  cases holder with
  | call j =>
    rw [errand, hnobody j] at hheld
    cases hheld
  | task task =>
    cases task with
    | rounds =>
      rw [errand, Keeper.errand, hrounds] at hheld
      cases hheld
    | watch j =>
      rw [errand, Keeper.errand] at hheld
      cases hj : course.shared.watches[j]? with
      | none =>
        rw [hj] at hheld
        cases hheld
      | some standing =>
        rw [hj] at hheld
        rcases standing with (_ | relaunch) | _
        · cases hheld
        · have hmine : relaunch.errand.ticket? = some held := hheld
          rw [relaunch.ticket?_errand] at hmine
          exact ⟨j, relaunch, hj, hholder.trans hmine.symm⟩
        · cases hheld

/-- If nobody has called and a watch is to launch a proxy, then a proxy may be launched. -/
theorem relapses_of_isDue (h : course.IsReached) (hnobody : ∀ i, course.task? i = none)
    (hrounds : course.shared.rounds = none) (hdue : (errand course (.task (.watch i))).IsDue) :
    course.Relapses := by
  obtain ⟨ticket, hticket⟩ := Errand.exists_ticket_of_isDue hdue
  obtain ⟨j, relaunch, hwatch, hheld⟩ := h.exists_leader hnobody hrounds hticket
  by_cases hleads : relaunch.errand.IsDue
  · exact hwatch.relapses_of_isDue h hleads hheld
  · -- The one who has the turn waits for a new proxy: as soon as it is ready, the next one has the
    -- turn, and that one is to launch a proxy.
    have hgreets := RelaunchPoint.errand_of_not_isDue hleads
    have hj := hwatch.errand_eq.trans hgreets
    have hij : KeeperWorker.task (.watch i) ≠ .task (.watch j) := by
      intro hij
      rw [hij, hj] at hdue
      exact hdue
    obtain ⟨events, hasks, hcalls, hrounds', htasks, herrand⟩ := hwatch.exists_greeted hgreets
    have hreached := h.after events
    generalize hafter : keeperRules.after course events = course' at *
    have hnobody' (k : Nat) : course'.task? k = none := by
      rw [Crowd.task?, htasks]
      exact hnobody k
    have hticket' : (errand course' (.task (.watch i))).ticket? = some ticket := by
      rw [herrand, Function.update_of_ne hij]
      exact hticket
    obtain ⟨k, relaunch', hwatch', hheld'⟩ :=
      hreached.exists_leader hnobody' (hrounds'.trans hrounds) hticket'
    suffices hrelapses : Relapses course' from
      Relapses.of_after (hafter ▸ hrelapses) hasks (hafter ▸ hcalls)
    refine hwatch'.relapses_of_isDue hreached ?_ hheld'
    -- That one does not wait for a new proxy as well, since only one at a time has the turn.
    by_contra hgreets'
    have hk := hwatch'.errand_eq.trans (RelaunchPoint.errand_of_not_isDue hgreets')
    rw [herrand] at hk
    by_cases hkj : KeeperWorker.task (.watch k) = .task (.watch j)
    · rw [hkj, Function.update_self] at hk
      cases hk
    · rw [Function.update_of_ne hkj] at hk
      have hkinside : (errand course (.task (.watch k))).Inside := by
        rw [hk]
        trivial
      have hjinside : (errand course (.task (.watch j))).Inside := by
        rw [hj]
        trivial
      exact hkj (h.inLine.eq_of_inside hkinside hjinside)

/-! ### Stopping for good -/

/-- Whether the monitor launches nothing as long as nothing is asked of it. -/
def StaysIdle (course : KeeperCourse) : Prop :=
  ∀ later, (∀ event ∈ later, ¬Asks event) →
    (keeperRules.after course later).shared.around.calls = course.shared.around.calls

/-- Whether all processes that the monitor has launched are gone, as long as nothing is asked of
    it. -/
def StaysEmpty (course : KeeperCourse) : Prop :=
  ∀ later, (∀ event ∈ later, ¬Asks event) → AllGone (keeperRules.after course later)

/-- Whether the watch of some process is to launch another one. -/
def WatchIsDue (course : KeeperCourse) : Prop := ∃ i, (errand course (.task (.watch i))).IsDue

/-- A monitor that is stopped with no watch about to launch anything stays stopped. -/
theorem halted_stopped (hnobody : ∀ i, course.task? i = none) (hdue : ¬course.WatchIsDue) :
    course.stopped.Halted where
  nobody := hnobody
  unasked := rounds_stopped course
  childless := childless_stopped course
  undue i hwatch := hdue ⟨i, errand_stopped course i ▸ hwatch⟩

/-- If nobody else is at work on a monitor, then to stop it is final exactly if no watch is to
    launch a proxy then: nothing is launched afterwards, and no process is left behind if the
    monitor has looked after all of them. -/
theorem final_iff (settings : MonitorSettings) (events : List KeeperCourseEvent)
    (hnobody : ∀ i, (keeperRules.after (start settings) events).task? i = none) :
    let course : KeeperCourse := keeperRules.after (start settings) events
    (course.stopped.StaysIdle ↔ ¬course.WatchIsDue) ∧
      (course.stopped.StaysEmpty ↔ course.AllSupervised ∧ ¬course.WatchIsDue) := by
  intro course
  have hreached : course.stopped.IsReached :=
    IsReached.after ⟨settings, events, rfl⟩ [.occur .stops]
  have hrelapses (hdue : course.WatchIsDue) : course.stopped.Relapses := by
    obtain ⟨i, hwatch⟩ := hdue
    refine relapses_of_isDue (i := i) hreached hnobody (rounds_stopped course) ?_
    rw [errand_stopped]
    exact hwatch
  constructor
  · constructor
    · intro hidle hdue
      obtain ⟨later, hasks, hlaunches, -⟩ := hrelapses hdue
      exact hlaunches (hidle later hasks)
    · intro hdue later hasks
      exact ((halted_stopped hnobody hdue).after hasks).calls
  · rw [← allGone_stopped_iff]
    constructor
    · intro hempty
      -- All are gone at once, and so the monitor has looked after all that were not.
      refine ⟨hempty [] nofun, fun hdue => ?_⟩
      obtain ⟨later, hasks, -, hlives⟩ := hrelapses hdue
      exact hlives (hempty later hasks)
    · rintro ⟨hgone, hdue⟩ later hasks process hlt
      have hspared := (halted_stopped hnobody hdue).after hasks
      rw [hspared.launched] at hlt
      exact hspared.gone (hgone process hlt)

/-! ### A process that exits before the stop -/

/-- A proxy is launched, and says that it is ready. Then its process exits, and its watch gets rid
    of what is left of it. -/
def recoveringEvents : List KeeperCourseEvent :=
  [.begin .ensureRunning, .step 0 0, .step 0 0, .step 0 0, .occur (.answers true), .step 0 0,
    .occur (.answers false), .occur (.exits 0), watchWorks 0]

theorem nobody_recovering (i : Nat) :
    (keeperRules.after (start {}) recoveringEvents).task? i = none := by
  have hended : (keeperRules.after (start {}) recoveringEvents).tasks.all
      (fun standing => standing.point?.isNone) = true := by decide +kernel
  rw [Crowd.task?, Option.bind_eq_none_iff]
  intro standing hstanding
  have hnone := List.all_eq_true.mp hended standing (List.mem_of_getElem? hstanding)
  exact Option.isNone_iff_eq_none.mp hnone

theorem final_iff_recovering :
    let course : KeeperCourse := keeperRules.after (start {}) recoveringEvents
    (∀ i, course.task? i = none) ∧ ¬course.stopped.StaysIdle ∧ ¬course.stopped.StaysEmpty := by
  have hdue : WatchIsDue (keeperRules.after (start {}) recoveringEvents) := ⟨0, by decide +kernel⟩
  obtain ⟨hidle, hempty⟩ := final_iff {} recoveringEvents nobody_recovering
  exact ⟨nobody_recovering, fun h => hidle.mp h hdue, fun h => (hempty.mp h).2 hdue⟩

/-- The watch goes on after the stop, and another process is launched. -/
theorem not_forall_final : ¬ ∀ (settings : MonitorSettings) (events : List KeeperCourseEvent),
    let course : KeeperCourse := keeperRules.after (start settings) events
    (∀ i, course.task? i = none) → course.stopped.StaysIdle ∧ course.stopped.StaysEmpty := by
  intro h
  have hcalls := (h {} recoveringEvents nobody_recovering).1 [watchWorks 0, watchWorks 0]
    (by decide +kernel)
  revert hcalls
  decide +kernel

end KeeperCourse
end SymbolSearch
