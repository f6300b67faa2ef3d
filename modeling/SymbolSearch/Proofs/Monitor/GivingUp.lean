import SymbolSearch.Proofs.Monitor.Offspring

/-!
# A monitor that has given up

A monitor whose budget of restarts is spent gives up, and is to leave the proxy alone until a launch
is forced.

* `Errand.Committed` — who goes on without asking again whether the monitor has given up.
* `Affairs.committed_moves` — from then on nobody else becomes one of these.
* `KeeperCourse.quiet_iff` — the monitor stays quiet exactly if none of those who were committed
  when it gave up launches a proxy or finds one that is ready.
* `KeeperCourse.not_forall_quiet` — a restart that was granted before is carried out.
-/

namespace SymbolSearch

/-- Who waits for the turn to replace a proxy, or does it, does not ask again. -/
theorem RelaunchPoint.committed (point : RelaunchPoint) : point.errand.Committed := by
  cases point with
  | launching ticket launch => cases launch <;> trivial
  | _ => trivial

namespace Outline

/-- The budget of a monitor that has given up is spent. -/
def Spent (outline : Outline) : Prop :=
  outline.hasFailed = true → outline.gate.budget ≤ outline.gate.restarts

end Outline

/-! ### Moves -/

section Moves

variable {outline outline' begun : Outline} {errand errand' : Errand}

theorem Outline.flags_drop (outline : Outline) (errand : Errand) :
    (outline.drop errand).isRunning = outline.isRunning ∧
      (outline.drop errand).hasFailed = outline.hasFailed ∧
      (outline.drop errand).gate = outline.gate := by
  unfold drop
  split <;> exact ⟨rfl, rfl, rfl⟩

theorem Restarts.flags (h : Restarts begun outline' errand') :
    (outline'.isRunning = true → begun.isRunning = true) ∧ outline'.hasFailed = begun.hasFailed ∧
      outline'.gate = begun.gate := by
  cases h with
  | waits => exact ⟨id, rfl, rfl⟩
  | takesTurn => exact ⟨nofun, rfl, rfl⟩

namespace ErrandMoves

theorem spent (h : ErrandMoves outline errand outline' errand') (hspent : outline.Spent) :
    outline'.Spent := by
  unfold Outline.Spent at hspent ⊢
  cases h with
  | drops errand =>
    obtain ⟨-, hfailed, hgate⟩ := outline.flags_drop errand
    rwa [hfailed, hgate]
  | givesUp errand stands budget => exact fun _ => budget
  | restarts errand errand' outline' now stands left begins =>
    obtain ⟨-, hfailed, hgate⟩ := begins.flags
    rw [hfailed]
    intro hold
    exact absurd left (Nat.not_lt.mpr (hspent hold))
  | forces errand' outline' now begins =>
    obtain ⟨-, hfailed, hgate⟩ := begins.flags
    rw [hfailed]
    exact nofun
  | _ => exact hspent

/-- A monitor that has given up does so until a launch is forced. -/
theorem hasFailed (h : ErrandMoves outline errand outline' errand') (hforced : errand ≠ .forcing)
    (hfailed : outline.hasFailed = true) : outline'.hasFailed = true := by
  cases h with
  | drops errand => rw [(outline.flags_drop errand).2.1, hfailed]
  | givesUp => rfl
  | restarts errand errand' outline' now stands left begins => exact begins.flags.2.1.trans hfailed
  | forces => exact absurd rfl hforced
  | _ => exact hfailed

/-- Nobody goes on with a monitor that has given up, unless it was settled before. -/
theorem committed (h : ErrandMoves outline errand outline' errand') (hforced : errand ≠ .forcing)
    (hspent : outline.Spent) (hfailed : outline.hasFailed = true) (hnew : errand'.Committed) :
    errand.Committed := by
  cases h with
  | stays => exact hnew
  | asks sound | joinsFirst sound | checks ticket sound =>
    rw [hfailed] at sound
    cases sound
  | clears | demands | cleared | launches => trivial
  | restarts errand errand' outline' now stands left begins =>
    exact absurd left (Nat.not_lt.mpr (hspent hfailed))
  | forces => exact absurd rfl hforced
  | _ => exact hnew.elim

/-- The proxy is found to be up by somebody who was settled before. -/
theorem isRunning (h : ErrandMoves outline errand outline' errand')
    (hrunning : outline'.isRunning = true) : outline.isRunning = true ∨ errand.Committed := by
  cases h with
  | drops errand => exact .inl ((outline.flags_drop errand).1 ▸ hrunning)
  | clears | hears | loses | launches | refused => exact .inr trivial
  | meets errand ticket stands => rcases stands with rfl | rfl <;> exact .inr trivial
  | endures | givesUp => cases hrunning
  | restarts errand errand' outline' now stands left begins =>
    exact absurd (begins.flags.1 hrunning) (by simp)
  | forces errand' outline' now begins => exact .inl (begins.flags.1 hrunning)
  | _ => exact .inl hrunning

/-- Whoever finds that the budget is spent leaves all processes alone. -/
theorem fails (h : ErrandMoves outline errand outline' errand') (hsound : outline.hasFailed = false)
    (hfailed : outline'.hasFailed = true) :
    outline'.isRunning = false ∧ outline'.around = outline.around := by
  have hsame (hfailed : outline.hasFailed = true) :
      outline'.isRunning = false ∧ outline'.around = outline.around := by
    rw [hsound] at hfailed
    cases hfailed
  cases h with
  | drops errand => exact hsame ((outline.flags_drop errand).2.1 ▸ hfailed)
  | givesUp => exact ⟨rfl, rfl⟩
  | restarts errand errand' outline' now stands left begins =>
    exact hsame (begins.flags.2.1 ▸ hfailed)
  | forces errand' outline' now begins => exact absurd (begins.flags.2.1 ▸ hfailed) (by simp)
  | _ => exact hsame hfailed

end ErrandMoves
end Moves

namespace Affairs

variable {affairs affairs' : Affairs} {worker? : Option KeeperWorker}

theorem spent_moves (hmoves : AffairsMoves affairs worker? affairs')
    (hspent : affairs.outline.Spent) : affairs'.outline.Spent := by
  cases hmoves with
  | rests | begins | changes => exact hspent
  | works worker outline errand moves => exact moves.spent hspent
  | drops worker | halts worker => exact (ErrandMoves.drops (affairs.errands worker)).spent hspent

theorem hasFailed_moves (hmoves : AffairsMoves affairs worker? affairs')
    (hforced : ∀ worker, worker? = some worker → affairs.errands worker ≠ .forcing)
    (hfailed : affairs.outline.hasFailed = true) : affairs'.outline.hasFailed = true := by
  cases hmoves with
  | rests | begins | changes => exact hfailed
  | works worker outline errand moves => exact moves.hasFailed (hforced worker rfl) hfailed
  | drops worker | halts worker => exact (affairs.outline.flags_drop _).2.1.trans hfailed

/-- With a monitor that has given up, only those go on who were settled before. -/
theorem committed_moves (hmoves : AffairsMoves affairs worker? affairs')
    (hforced : ∀ worker, worker? = some worker → affairs.errands worker ≠ .forcing)
    (hspent : affairs.outline.Spent) (hfailed : affairs.outline.hasFailed = true)
    (other : KeeperWorker) (hnew : (affairs'.errands other).Committed) :
    (affairs.errands other).Committed := by
  -- Who is put at another errand was settled before, if anyone is there.
  have hput {worker : KeeperWorker} {outline : Outline} {errand : Errand}
      (hworker : errand.Committed → (affairs.errands worker).Committed)
      (hnew : ((affairs.put worker outline errand).errands other).Committed) :
      (affairs.errands other).Committed := by
    by_cases hself : other = worker
    · subst hself
      rw [errands_put_self] at hnew
      exact hworker hnew
    · rwa [errands_put_of_ne hself] at hnew
  cases hmoves with
  | rests | changes => exact hnew
  | begins worker errand new early =>
    refine hput (fun hearly => ?_) hnew
    rcases early with rfl | rfl <;> exact hearly.elim
  | works worker outline errand moves =>
    exact hput (moves.committed (hforced worker rfl) hspent hfailed) hnew
  | drops worker | halts worker => exact hput False.elim hnew

theorem isRunning_moves (hmoves : AffairsMoves affairs worker? affairs')
    (hrunning : affairs'.outline.isRunning = true) :
    affairs.outline.isRunning = true ∨
      ∃ worker, worker? = some worker ∧ (affairs.errands worker).Committed := by
  cases hmoves with
  | rests | begins | changes => exact .inl hrunning
  | works worker outline errand moves =>
    exact (moves.isRunning hrunning).imp_right fun hcommitted => ⟨worker, rfl, hcommitted⟩
  | drops worker => exact .inl ((affairs.outline.flags_drop _).1 ▸ hrunning)
  | halts worker => cases hrunning

theorem fails_moves (hmoves : AffairsMoves affairs worker? affairs')
    (hsound : affairs.outline.hasFailed = false) (hfailed : affairs'.outline.hasFailed = true) :
    affairs'.outline.isRunning = false ∧ affairs'.outline.around = affairs.outline.around := by
  have hcontra {flag : Bool} (hflag : flag = affairs.outline.hasFailed) (htrue : flag = true) :
      False := by
    rw [hflag, hsound] at htrue
    cases htrue
  cases hmoves with
  | rests | begins | changes => exact (hcontra rfl hfailed).elim
  | works worker outline errand moves => exact moves.fails hsound hfailed
  | drops worker | halts worker => exact (hcontra (affairs.outline.flags_drop _).2.1 hfailed).elim

end Affairs

/-! ### Courses -/

namespace KeeperMoment

/-- The course after a moment. -/
def after (moment : KeeperMoment) : KeeperCourse := keeperRules.next moment.1 moment.2

/-- Whether the monitor gives up. -/
def Fails (moment : KeeperMoment) : Prop :=
  moment.1.shared.monitor.permanentlyFailed = false ∧
    (after moment).shared.monitor.permanentlyFailed = true

/-- Whether a launch is forced. -/
def Forces (moment : KeeperMoment) : Prop :=
  ∃ i wall, moment.2 = .step i wall ∧ moment.1.task? i = some (.forcing .starting)

/-- Whether nobody launches a proxy, and none is up afterwards if the monitor has given up. -/
def Quiet (moment : KeeperMoment) : Prop :=
  ¬CallsSpawner moment ∧ ¬((after moment).shared.monitor.running = true ∧
    (after moment).shared.monitor.permanentlyFailed = true)

/-- Whether somebody launches a proxy, or finds that there is one although none was up. -/
def Acts (moment : KeeperMoment) : Prop :=
  CallsSpawner moment ∨ moment.1.shared.monitor.running = false ∧
    (after moment).shared.monitor.running = true

end KeeperMoment

namespace KeeperCourse

open KeeperMoment

variable {course : KeeperCourse} {event : KeeperCourseEvent} {settings : MonitorSettings}
  {events : List KeeperCourseEvent} {failing : KeeperMoment} {before since : List KeeperMoment}

/-- The budget of a monitor that has given up is spent. -/
def Spent (course : KeeperCourse) : Prop := (affairs course).outline.Spent

theorem spent_after (settings : MonitorSettings) (events : List KeeperCourseEvent) :
    Spent (keeperRules.after (start settings) events) := by
  induction events using List.reverseRecOn with
  | nil => exact nofun
  | append_singleton events event ih =>
    rw [CrowdRules.after_concat]
    exact Affairs.spent_moves (next_affairs _ event) ih

/-- Only a call to force a launch is about to. -/
theorem ne_forcing_of_not_forces (h : ¬Forces (course, event)) (worker : KeeperWorker)
    (hworker : KeeperWorker.of? event = some worker) : errand course worker ≠ .forcing := by
  intro hforcing
  rcases errand_cases course worker with
    hold | hold | ⟨relaunch, hold⟩ | ⟨i, point, hi, hstands, hold⟩ | ⟨i, rfl, hstands, hold⟩
  · rw [hforcing] at hold
    cases hold
  · rw [hforcing] at hold
    cases hold
  · have hcommitted := relaunch.committed
    rw [← hold, hforcing] at hcommitted
    exact hcommitted
  · rw [hforcing] at hold
    cases point with
    | launching ticket launch => cases launch <;> cases hold
    | _ => cases hold
  · obtain ⟨wall, rfl⟩ := KeeperWorker.exists_of_call hworker
    exact h ⟨i, wall, rfl, hstands⟩

/-- A monitor that gave up at a moment, where nothing has come of what was settled before. -/
structure Subdued (failing : KeeperMoment) (course : KeeperCourse) : Prop where
  failed : course.shared.monitor.permanentlyFailed = true
  down : course.shared.monitor.running = false
  settled : ∀ worker, (errand course worker).Committed → (errand failing.after worker).Committed

theorem subdued_of_fails (h : Fails failing) :
    Subdued failing failing.after ∧ ¬CallsSpawner failing := by
  obtain ⟨hdown, haround⟩ := Affairs.fails_moves (next_affairs failing.1 failing.2) h.1 h.2
  exact ⟨⟨h.2, hdown, fun _ => id⟩, fun hcalls => hcalls (congrArg Vicinity.calls haround)⟩

/-- It stays so as long as no launch is forced and nobody acts whose errand was settled before. -/
theorem Subdued.next (h : Subdued failing course) (hspent : Spent course)
    (hforced : ¬Forces (course, event))
    (hnobody : ∀ worker, KeeperWorker.of? event = some worker →
      (errand failing.after worker).Committed → ¬Acts (course, event)) :
    Subdued failing (keeperRules.next course event) ∧ ¬CallsSpawner (course, event) := by
  have hmoves := next_affairs course event
  have hne := ne_forcing_of_not_forces hforced
  have hcalls : ¬CallsSpawner (course, event) := by
    intro hcalls
    obtain ⟨worker, ticket, isDemanded, hworker, hspawning⟩ := Affairs.calls_moves hmoves hcalls
    have hcommitted : (errand course worker).Committed := by
      rw [show errand course worker = _ from hspawning]
      trivial
    exact hnobody worker hworker (h.settled worker hcommitted) (.inl hcalls)
  refine ⟨⟨Affairs.hasFailed_moves hmoves hne h.failed, ?_, fun worker hcommitted => ?_⟩, hcalls⟩
  · by_contra hup
    have hup : (keeperRules.next course event).shared.monitor.running = true := by
      simpa using hup
    rcases Affairs.isRunning_moves hmoves hup with hbefore | ⟨worker, hworker, hcommitted⟩
    · exact absurd (h.down.symm.trans hbefore) (by simp)
    · exact hnobody worker hworker (h.settled worker hcommitted) (.inr ⟨h.down, hup⟩)
  · exact h.settled worker (Affairs.committed_moves hmoves hne hspent h.failed worker hcommitted)

section Since

variable {moment : KeeperMoment}
  (hsplit : keeperRules.history (start settings) events = before ++ failing :: since)
  (hfails : Fails failing) (hforced : ∀ moment ∈ since, ¬Forces moment)

include hsplit hfails hforced

/-- A monitor that gave up has still given up when no launch was forced since then. -/
theorem failed_since (hmem : moment ∈ since) :
    moment.1.shared.monitor.permanentlyFailed = true := by
  obtain ⟨between, later, rfl⟩ := List.append_of_mem hmem
  have hpast : keeperRules.history (start settings) events =
      before ++ failing :: between ++ moment :: later := by simp [hsplit]
  refine (CrowdRules.history_until (fun course => course.shared.monitor.permanentlyFailed = true)
    Fails Forces (fun _ => trivial) (fun _ _ _ hmark => hmark.2)
    (fun course event (_ : True) hfailed hforced => ?_) hpast hfails
    fun other hother => hforced other (List.mem_append_left _ hother)).2
  exact Affairs.hasFailed_moves (next_affairs course event)
    (ne_forcing_of_not_forces hforced) hfailed

theorem subdued_since
    (hnobody : ∀ moment ∈ since, ∀ worker, KeeperWorker.of? moment.2 = some worker →
      (errand failing.after worker).Committed → ¬Acts moment)
    (hmem : moment ∈ since) : Subdued failing moment.1 ∧ Spent moment.1 := by
  obtain ⟨between, later, rfl⟩ := List.append_of_mem hmem
  have hpast : keeperRules.history (start settings) events =
      before ++ failing :: between ++ moment :: later := by simp [hsplit]
  let ends (moment : KeeperMoment) : Prop :=
    Forces moment ∨ ∃ worker, KeeperWorker.of? moment.2 = some worker ∧
      (errand failing.after worker).Committed ∧ Acts moment
  have hmarks (course : KeeperCourse) (event : KeeperCourseEvent) (_ : Spent course)
      (hmark : (course, event) = failing) : Subdued failing (keeperRules.next course event) :=
    hmark ▸ (subdued_of_fails hfails).1
  have hkeeps (course : KeeperCourse) (event : KeeperCourseEvent) (hspent : Spent course)
      (hsubdued : Subdued failing course) (hends : ¬ends (course, event)) :
      Subdued failing (keeperRules.next course event) := by
    obtain ⟨hforced, hnobody⟩ := not_or.mp hends
    refine (hsubdued.next hspent hforced fun worker hworker hcommitted hacts => ?_).1
    exact hnobody ⟨worker, hworker, hcommitted, hacts⟩
  have hstays (other : KeeperMoment) (hother : other ∈ between) : ¬ends other := by
    have hother := List.mem_append_left (moment :: later) hother
    rintro (hends | ⟨worker, hworker, hcommitted, hacts⟩)
    · exact hforced other hother hends
    · exact hnobody other hother worker hworker hcommitted hacts
  exact (CrowdRules.history_until (Subdued failing) (· = failing) ends (spent_after settings)
    hmarks hkeeps hpast rfl hstays).symm

end Since

/-- From the moment at which a monitor gives up until a launch is forced, nobody launches a proxy
    and none is up, exactly if no one acts who was committed at that moment: who had a restart
    granted, had the turn to make a proxy run, or was asking for the health of the proxy. -/
theorem quiet_iff
    (hsplit : keeperRules.history (start settings) events = before ++ failing :: since)
    (hfails : Fails failing) (hforced : ∀ moment ∈ since, ¬Forces moment) :
    (∀ moment ∈ failing :: since, Quiet moment) ↔
      ∀ moment ∈ since, ∀ worker, KeeperWorker.of? moment.2 = some worker →
        (errand failing.after worker).Committed → ¬Acts moment := by
  constructor
  · rintro hquiet ⟨course, event⟩ hmem worker - - hacts
    obtain ⟨hcalls, hup⟩ := hquiet _ (List.mem_cons_of_mem _ hmem)
    rcases hacts with hacts | ⟨-, hrunning⟩
    · exact hcalls hacts
    · have hfailed : course.shared.monitor.permanentlyFailed = true :=
        failed_since hsplit hfails hforced hmem
      exact hup ⟨hrunning, Affairs.hasFailed_moves (next_affairs course event)
        (ne_forcing_of_not_forces (hforced _ hmem)) hfailed⟩
  · intro hnobody moment hmem
    have hquiet (h : Subdued failing moment.after ∧ ¬CallsSpawner moment) : Quiet moment := by
      refine ⟨h.2, fun hup => ?_⟩
      exact absurd (h.1.down.symm.trans hup.1) (by simp)
    rcases List.mem_cons.mp hmem with rfl | hmem
    · exact hquiet (subdued_of_fails hfails)
    · obtain ⟨hsubdued, hspent⟩ := subdued_since hsplit hfails hforced hnobody hmem
      exact hquiet (hsubdued.next hspent (hforced _ hmem) (hnobody _ hmem))

/-! ### A restart that was granted before -/

theorem forces_iff (moment : KeeperMoment) : Forces moment ↔
    (KeeperWorker.of? moment.2).any (fun worker => errand moment.1 worker = .forcing) = true := by
  obtain ⟨course, event⟩ := moment
  constructor
  · rintro ⟨i, wall, hevent, hstands⟩
    dsimp only at hevent hstands
    subst hevent
    exact decide_eq_true (errand_call hstands)
  · intro hany
    by_contra hforces
    cases hworker : KeeperWorker.of? event with
    | none => simp [hworker] at hany
    | some worker =>
      refine ne_forcing_of_not_forces hforces worker hworker ?_
      simpa [hworker] using hany

instance (moment : KeeperMoment) : Decidable (Forces moment) :=
  decidable_of_iff _ (forces_iff moment).symm

instance (moment : KeeperMoment) : Decidable (Fails moment) :=
  inferInstanceAs (Decidable (_ ∧ _))

instance (moment : KeeperMoment) : Decidable (CallsSpawner moment) :=
  inferInstanceAs (Decidable (_ ≠ _))

instance (moment : KeeperMoment) : Decidable (Quiet moment) :=
  inferInstanceAs (Decidable (_ ∧ _))

/-- A monitor with a single restart. -/
def singleRestart : MonitorSettings := { restartBudget := 1, restartCooldown := 0 }

/-- A proxy runs. Two ask for its health at the same time, it is silent, and the first of them has
    the restart granted. -/
def grantedEvents : List KeeperCourseEvent :=
  [.begin .ensureRunning, .step 0 0, .step 0 0, .step 0 0, .occur (.answers true), .step 0 0,
    .begin .probeOnce, .step 1 0, .begin .probeOnce, .step 2 0, .occur (.answers false), .step 1 0]

/-- The first goes on after the second has found that the budget is spent. -/
def carriedOutEvents : List KeeperCourseEvent :=
  [.step 1 0, .step 1 0, .occur (.answers true), .step 1 0]

/-- The moment at which the second finds that the budget is spent. -/
def spentMoment : KeeperMoment := (keeperRules.after (start singleRestart) grantedEvents, .step 2 0)

theorem history_carriedOut : keeperRules.history (start singleRestart)
      (grantedEvents ++ .step 2 0 :: carriedOutEvents) =
    keeperRules.history (start singleRestart) grantedEvents ++
      spentMoment :: keeperRules.history spentMoment.after carriedOutEvents :=
  keeperRules.history_append ..

theorem quiet_iff_carriedOut :
    ∃ moment ∈ keeperRules.history spentMoment.after carriedOutEvents, ∃ worker,
      KeeperWorker.of? moment.2 = some worker ∧ (errand spentMoment.after worker).Committed ∧
        Acts moment := by
  have hquiet : ¬∀ moment ∈ spentMoment :: keeperRules.history spentMoment.after carriedOutEvents,
      Quiet moment := by decide +kernel
  rw [quiet_iff history_carriedOut (by decide +kernel) (by decide +kernel)] at hquiet
  push Not at hquiet
  exact hquiet

theorem not_forall_quiet : ¬ ∀ settings events before failing since,
    keeperRules.history (start settings) events = before ++ failing :: since → Fails failing →
    (∀ moment ∈ since, ¬Forces moment) → ∀ moment ∈ failing :: since, Quiet moment := by
  intro h
  have hquiet : ¬∀ moment ∈ spentMoment :: keeperRules.history spentMoment.after carriedOutEvents,
      Quiet moment := by decide +kernel
  exact hquiet (h _ _ _ _ _ history_carriedOut (by decide +kernel) (by decide +kernel))

end KeeperCourse
end SymbolSearch
