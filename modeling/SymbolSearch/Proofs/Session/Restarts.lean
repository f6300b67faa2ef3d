import Mathlib.Data.List.DropRight
import SymbolSearch.Proofs.Session.Account

/-!
# Bounded restarts

How often a session may be launched, and how soon after a crash, in any course and whoever is given
up on the way.

* `CourseMoment.launcher?`, `CourseMoment.resets` and `CourseMoment.crashTime?` — what a moment of a
  course is for the account of launches; `sinceReset` is what has happened since the last reset.
* `Counted` — what holds of a course and its past; `Counted.next` shows that every event keeps it.
* `SessionCourse.restarts_bounded_after` — any course.
-/

namespace SymbolSearch

open Session

/-! ### Moments of a course -/

namespace CourseMoment

/-- The operation that asks for a launch, if one does. -/
def launcher? (moment : CourseMoment) : Option Nat :=
  (sessionRules.step? moment).bind fun (i, task, progress) =>
    if task.asksForLaunch progress then some i else none

/-- Whether a reset succeeds. -/
def resets (moment : CourseMoment) : Bool :=
  (sessionRules.step? moment).any fun (_, _, progress) => SessionTask.hasReset progress

/-- The time at which the session is marked as crashed, if it is. -/
def crashTime? (moment : CourseMoment) : Option Instant :=
  let before := moment.1.shared
  let after := (sessionRules.next moment.1 moment.2).shared
  if after.state = .crashed ∧ (before.state ≠ .crashed ∨ after.crashedAt ≠ before.crashedAt) then
    some moment.1.now
  else none

end CourseMoment

/-- What has happened since the last successful reset, or else from the start. -/
def sinceReset (past : List CourseMoment) : List CourseMoment :=
  past.rtakeWhile fun moment => !moment.resets

/-- The number of launches that were asked for. -/
def launchCount (period : List CourseMoment) : Nat :=
  period.countP fun moment => moment.launcher?.isSome

/-- The last time at which the session was marked as crashed. -/
def lastCrash? (period : List CourseMoment) : Option Instant :=
  (period.filterMap CourseMoment.crashTime?).getLast?

section Periods

variable {past : List CourseMoment} {moment : CourseMoment}

theorem sinceReset_of_resets (h : moment.resets = true) : sinceReset (past ++ [moment]) = [] := by
  rw [sinceReset, List.rtakeWhile_concat, if_neg (by simp [h])]

theorem sinceReset_concat (h : moment.resets = false) :
    sinceReset (past ++ [moment]) = sinceReset past ++ [moment] := by
  rw [sinceReset, List.rtakeWhile_concat, if_pos (by simp [h])]
  rfl

theorem launchCount_concat (period : List CourseMoment) (moment : CourseMoment) :
    launchCount (period ++ [moment]) =
      launchCount period + if moment.launcher?.isSome then 1 else 0 := by
  rw [launchCount, List.countP_append, List.countP_singleton]
  rfl

theorem lastCrash?_concat (period : List CourseMoment) (moment : CourseMoment) :
    lastCrash? (period ++ [moment]) = moment.crashTime?.or (lastCrash? period) := by
  rw [lastCrash?, List.filterMap_append, List.getLast?_append]
  cases h : moment.crashTime? with
  | none => simp [h, lastCrash?]
  | some time => simp [h]

end Periods

namespace CourseMoment

variable {course : SessionCourse} {event : CourseEvent} {i : Nat} {task : SessionTask}
  {progress : Progress SessionTask SessionReply}

theorem step?_of_launcher? (h : launcher? (course, event) = some i) :
    ∃ task progress, sessionRules.step? (course, event) = some (i, task, progress) ∧
      task.asksForLaunch progress = true := by
  obtain ⟨⟨j, task, progress⟩, hstep, hasks⟩ := Option.bind_eq_some_iff.mp h
  simp only [Option.ite_none_right_eq_some, Option.some.injEq] at hasks
  obtain ⟨hasks, rfl⟩ := hasks
  exact ⟨task, progress, hstep, hasks⟩

theorem launcher?_of_step? (h : sessionRules.step? (course, event) = some (i, task, progress)) :
    launcher? (course, event) = if task.asksForLaunch progress then some i else none := by
  rw [launcher?, h]
  rfl

theorem resets_of_step? (h : sessionRules.step? (course, event) = some (i, task, progress)) :
    resets (course, event) = SessionTask.hasReset progress := by
  rw [resets, h]
  rfl

/-- Nothing is launched or reset at a moment at which no operation goes on. -/
theorem no_launch (h : ∀ i task progress,
      sessionRules.step? (course, event) = some (i, task, progress) → progress = .blocked) :
    launcher? (course, event) = none ∧ resets (course, event) = false := by
  cases hstep : sessionRules.step? (course, event) with
  | none => simp [launcher?, resets, hstep]
  | some step =>
    obtain ⟨i, task, progress⟩ := step
    obtain rfl := h i task progress hstep
    rw [launcher?_of_step? hstep, resets_of_step? hstep]
    refine ⟨if_neg fun hasks => ?_, rfl⟩
    obtain ⟨_, _, -, hmoved⟩ := SessionTask.eq_of_asksForLaunch hasks
    cases hmoved

end CourseMoment

/-- What holds of a course and of what has happened in it. -/
structure Counted (settings : SessionSettings) (past : List CourseMoment)
    (course : SessionCourse) : Prop where
  settings : course.shared.settings = settings
  line : course.InLine
  accounts : Accounts course.shared (launchCount (sinceReset past)) (lastCrash? (sinceReset past))
  /-- Whoever is starting a server has launched it since the last reset. -/
  starting : ∀ i task, course.task? i = some task → task.starts = true →
    launchCount (sinceReset past) ≠ 0
  /-- Whoever has asked for a launch is starting a server until it ends. -/
  launched : ∀ moment ∈ past, ∀ i, CourseMoment.launcher? moment = some i →
    i < course.tasks.length ∧ ∀ task, course.task? i = some task → task.starts = true

namespace Counted

variable {settings : SessionSettings} {past : List CourseMoment} {course course' : SessionCourse}
  {event : CourseEvent} {i : Nat} {task : SessionTask} {shared : Session}

/-- An event without a launch or a reset. -/
theorem effect (h : Counted settings past course) (hcourse' : sessionRules.next course event = course')
    (hlaunch : CourseMoment.launcher? (course, event) = none)
    (hreset : CourseMoment.resets (course, event) = false) {starting : Prop}
    (heffect : Effect course.now starting course.shared course'.shared)
    (hstarting : starting → ∃ i task, course.task? i = some task ∧ task.starts = true)
    (htasks : ∀ i task', course'.task? i = some task' →
      (∃ task, course.task? i = some task ∧ task'.starts = task.starts) ∨
        i = course.tasks.length ∧ task'.starts = false)
    (hlength : course.tasks.length ≤ course'.tasks.length) :
    Counted settings (past ++ [(course, event)]) course' := by
  have hcount : launchCount (sinceReset (past ++ [(course, event)])) =
      launchCount (sinceReset past) := by
    rw [sinceReset_concat hreset, launchCount_concat, hlaunch]
    rfl
  have hsettings : course'.shared.settings = course.shared.settings := by
    cases heffect with
    | shifts account | crashes account => exact (congrArg Account.settings account :)
  constructor
  · exact hsettings.trans h.settings
  · exact hcourse' ▸ h.line.next event
  · rw [hcount, sinceReset_concat hreset, lastCrash?_concat, CourseMoment.crashTime?, hcourse']
    refine h.accounts.effect heffect fun hstarts => ?_
    obtain ⟨i, task, hi, htask⟩ := hstarting hstarts
    exact h.starting i task hi htask
  · intro i task' hi hstarts
    rw [hcount]
    rcases htasks i task' hi with ⟨task, hbefore, hsame⟩ | ⟨-, hnew⟩
    · exact h.starting i task hbefore (hsame ▸ hstarts)
    · rw [hnew] at hstarts
      cases hstarts
  · intro moment hmem i hlauncher
    rcases List.mem_append.mp hmem with hmem | hmem
    · obtain ⟨hlt, hstarts⟩ := h.launched moment hmem i hlauncher
      refine ⟨Nat.lt_of_lt_of_le hlt hlength, fun task' hi => ?_⟩
      rcases htasks i task' hi with ⟨task, hbefore, hsame⟩ | ⟨hnew, -⟩
      · exact hsame.trans (hstarts task hbefore)
      · exact absurd hnew (Nat.ne_of_lt hlt)
    · rw [List.mem_singleton.mp hmem, hlaunch] at hlauncher
      cases hlauncher

/-- A step that asks for a launch. -/
theorem launch (h : Counted settings past course) (hi : course.task? i = some task)
    {task' : SessionTask} (hstep : sessionRules.step? (course, event) = some (i, task, .moved task'))
    (hcourse' : sessionRules.next course event = course.put i shared (.waiting task'))
    (hasks : task.asksForLaunch (.moved task') = true)
    (hlaunches : Launches course.now course.shared shared) :
    Counted settings (past ++ [(course, event)]) (course.put i shared (.waiting task')) := by
  have hlauncher : CourseMoment.launcher? (course, event) = some i := by
    rw [CourseMoment.launcher?_of_step? hstep, if_pos hasks]
  have hreset : CourseMoment.resets (course, event) = false := CourseMoment.resets_of_step? hstep
  have hstarts : task'.starts = true := by
    obtain ⟨_, _, -, hmoved⟩ := SessionTask.eq_of_asksForLaunch hasks
    cases hmoved
    rfl
  have hcount : launchCount (sinceReset (past ++ [(course, event)])) =
      launchCount (sinceReset past) + 1 := by
    rw [sinceReset_concat hreset, launchCount_concat, hlauncher]
    rfl
  have hstate : shared.state = .spawning := by
    cases hlaunches with
    | first _ account | again _ _ _ account => exact (congrArg Account.state account :)
  have hunmarked : CourseMoment.crashTime? (course, event) = none := by
    rw [CourseMoment.crashTime?, hcourse']
    refine if_neg ?_
    rintro ⟨hcrashed, -⟩
    rw [Crowd.shared_put, hstate] at hcrashed
    cases hcrashed
  have hself : (course.put i shared (.waiting task')).task? i = some task' :=
    Crowd.task?_put_self hi _
  constructor
  · cases hlaunches with
    | first _ account | again _ _ _ account =>
      exact (congrArg Account.settings account :).trans h.settings
  · exact hcourse' ▸ h.line.next event
  · rw [hcount, sinceReset_concat hreset, lastCrash?_concat, hunmarked]
    exact h.accounts.launch hlaunches
  · intro _ _ _ _
    rw [hcount]
    exact Nat.succ_ne_zero _
  · intro moment hmem j hj
    have hlength : (course.put i shared (.waiting task')).tasks.length = course.tasks.length :=
      List.length_set
    rw [hlength]
    by_cases hji : j = i
    · subst hji
      refine ⟨Crowd.lt_of_task? hi, fun found hfound => ?_⟩
      rw [hself] at hfound
      obtain rfl := Option.some.inj hfound
      exact hstarts
    · rcases List.mem_append.mp hmem with hmem | hmem
      · rw [Crowd.task?_put_of_ne (Ne.symm hji)]
        exact h.launched moment hmem j hj
      · rw [List.mem_singleton.mp hmem, hlauncher] at hj
        exact absurd (Option.some.inj hj).symm hji

/-- A step that resets the session. Nobody else is at work then. -/
theorem reset (h : Counted settings past course) (hi : course.task? i = some task)
    {result : SessionReply}
    (hstep : sessionRules.step? (course, event) = some (i, task, .finished result))
    (hcourse' : sessionRules.next course event = course.put i shared (.ended (some result)))
    (hreset : SessionTask.hasReset (.finished result) = true) {ticket : Ticket}
    (hticket : task.ticket? = some ticket) (hholds : course.shared.turns.holder = some ticket)
    (haccount : shared.account = ⟨course.shared.settings, .idle, 0, none⟩) :
    Counted settings (past ++ [(course, event)]) (course.put i shared (.ended (some result))) := by
  have hresets : CourseMoment.resets (course, event) = true :=
    (CourseMoment.resets_of_step? hstep).trans hreset
  have hlauncher : CourseMoment.launcher? (course, event) = none := by
    rw [CourseMoment.launcher?_of_step? hstep]
    refine if_neg fun hasks => ?_
    obtain ⟨_, _, -, hmoved⟩ := SessionTask.eq_of_asksForLaunch hasks
    cases hmoved
  -- Whoever starts a server has the guard, and so does the one who resets.
  have hnobody (j : Nat) (task' : SessionTask)
      (hj : (course.put i shared (.ended (some result))).task? j = some task') :
      j ≠ i ∧ course.task? j = some task' ∧ task'.starts = false := by
    have hji : j ≠ i := by
      rintro rfl
      rw [Crowd.task?_put_self hi] at hj
      cases hj
    rw [Crowd.task?_put_of_ne hji.symm] at hj
    refine ⟨hji, hj, Bool.eq_false_iff.mpr fun hstarts => ?_⟩
    obtain ⟨held, hentered⟩ := SessionTask.entered_of_starts hstarts
    have hown : course.ticketOf i = some ticket := by
      rw [SessionCourse.ticketOf, hi]
      exact hticket
    have hsame : i = j :=
      Turns.Serves.eq_of_holder h.line hown hholds ⟨task', held, hj, hentered⟩
    exact hji hsame.symm
  constructor
  · exact (congrArg Account.settings haccount :).trans h.settings
  · exact hcourse' ▸ h.line.next event
  · rw [sinceReset_of_resets hresets]
    exact .reset _ haccount
  · intro j task' hj hstarts
    rw [(hnobody j task' hj).2.2] at hstarts
    cases hstarts
  · intro moment hmem j hj
    rcases List.mem_append.mp hmem with hmem | hmem
    · obtain ⟨hlt, hstarts⟩ := h.launched moment hmem j hj
      refine ⟨Nat.lt_of_lt_of_eq hlt List.length_set.symm, fun task' hfound => ?_⟩
      exact hstarts task' (hnobody j task' hfound).2.1
    · rw [List.mem_singleton.mp hmem, hlauncher] at hj
      cases hj

/-- Every event keeps what is counted. -/
theorem next (h : Counted settings past course) (event : CourseEvent) :
    Counted settings (past ++ [(course, event)]) (sessionRules.next course event) := by
  have hmoves := sessionRules.next_moves course event
  generalize hcourse' : sessionRules.next course event = course' at hmoves
  have hnobody : False → ∃ i task, course.task? i = some task ∧ task.starts = true := False.elim
  -- An event in which no operation goes on.
  have hquiet {event : CourseEvent} (hcourse' : sessionRules.next course event = course')
      (hno : ∀ i task progress, sessionRules.step? (course, event) = some (i, task, progress) →
        progress = .blocked)
      (heffect : Effect course.now False course.shared course'.shared)
      (htasks : ∀ i task', course'.task? i = some task' →
        (∃ task, course.task? i = some task ∧ task'.starts = task.starts) ∨
          i = course.tasks.length ∧ task'.starts = false)
      (hlength : course.tasks.length ≤ course'.tasks.length) :
      Counted settings (past ++ [(course, event)]) course' := by
    obtain ⟨hlaunch, hreset⟩ := CourseMoment.no_launch hno
    exact h.effect hcourse' hlaunch hreset heffect hnobody htasks hlength
  cases hmoves with
  | blocks i input blocked =>
    exact hquiet hcourse' (fun _ _ _ hstep => sessionRules.eq_blocked_of_step? blocked hstep)
      (.of_account rfl) (fun i task hi => .inl ⟨task, hi, rfl⟩) (Nat.le_refl _)
  | misses i stands =>
    exact hquiet hcourse' (by rintro _ _ _ ⟨⟩) (.of_account rfl)
      (fun i task hi => .inl ⟨task, hi, rfl⟩) (Nat.le_refl _)
  | begins call =>
    refine hquiet hcourse' (by rintro _ _ _ ⟨⟩) (.of_account rfl) (fun i task' hi => ?_) ?_
    · by_cases hlast : i = course.tasks.length
      · rw [hlast, Crowd.task?_concat_self] at hi
        obtain rfl := Option.some.inj hi
        exact .inr ⟨hlast, by cases call <;> rfl⟩
      · rw [Crowd.task?_concat_of_ne hlast] at hi
        exact .inl ⟨task', hi, rfl⟩
    · rw [List.length_append]
      exact Nat.le_add_right _ _
  | moves i input task task' shared stands step =>
    have hstep : sessionRules.step? (course, .step i input) = some (i, task, .moved task') := by
      rw [sessionRules.step?_step stands, step]
    have haccounted := task.accounted_step course.now course.shared
    rw [show task.step course.now course.shared = (shared, .moved task') from step] at haccounted
    cases haccounted (by rintro ⟨⟩) with
    | launches _ _ asks not_reset launches => exact h.launch stands hstep hcourse' asks launches
    | resets _ _ _ _ reset => cases reset
    | effects _ _ asks not_reset effect starts =>
      refine h.effect hcourse' ?_ (CourseMoment.resets_of_step? hstep) effect
        (fun hstarts => ⟨i, task, stands, hstarts⟩) (fun j found hj => ?_) ?_
      · rw [CourseMoment.launcher?_of_step? hstep, asks]
        rfl
      · by_cases hji : i = j
        · rw [← hji, Crowd.task?_put_self stands] at hj
          obtain rfl := Option.some.inj hj
          exact .inl ⟨task, hji ▸ stands, starts task' rfl⟩
        · rw [Crowd.task?_put_of_ne hji] at hj
          exact .inl ⟨found, hj, rfl⟩
      · exact Nat.le_of_eq List.length_set.symm
  | finishes i input task result shared stands step =>
    have hstep : sessionRules.step? (course, .step i input) = some (i, task, .finished result) := by
      rw [sessionRules.step?_step stands, step]
    have haccounted := task.accounted_step course.now course.shared
    rw [show task.step course.now course.shared = (shared, .finished result) from step] at haccounted
    cases haccounted (by rintro ⟨⟩) with
    | launches _ _ asks =>
      obtain ⟨_, _, -, hmoved⟩ := SessionTask.eq_of_asksForLaunch asks
      cases hmoved
    | resets _ _ ticket asks reset ticket_eq holds account =>
      exact h.reset stands hstep hcourse' reset ticket_eq holds account
    | effects _ _ asks not_reset effect starts =>
      refine h.effect hcourse' ?_ ((CourseMoment.resets_of_step? hstep).trans not_reset) effect
        (fun hstarts => ⟨i, task, stands, hstarts⟩) (fun j found hj => ?_) ?_
      · rw [CourseMoment.launcher?_of_step? hstep, asks]
        rfl
      · by_cases hji : i = j
        · rw [← hji, Crowd.task?_put_self stands] at hj
          cases hj
        · rw [Crowd.task?_put_of_ne hji] at hj
          exact .inl ⟨found, hj, rfl⟩
      · exact Nat.le_of_eq List.length_set.symm
  | givesUp i task stands =>
    refine hquiet hcourse' (by rintro _ _ _ ⟨⟩) (.of_account (task.account_cancel _))
      (fun j found hj => ?_) (Nat.le_of_eq List.length_set.symm)
    by_cases hji : i = j
    · rw [← hji, Crowd.task?_put_self stands] at hj
      cases hj
    · rw [Crowd.task?_put_of_ne hji] at hj
      exact .inl ⟨found, hj, rfl⟩
  | occurs event =>
    exact hquiet hcourse' (by rintro _ _ _ ⟨⟩) (shifts_undergo course.now event _).effect
      (fun i task hi => .inl ⟨task, hi, rfl⟩) (Nat.le_refl _)
  | waits time =>
    exact hquiet hcourse' (by rintro _ _ _ ⟨⟩) (.of_account rfl)
      (fun i task hi => .inl ⟨task, hi, rfl⟩) (Nat.le_refl _)

/-- A new session has been launched by nobody. -/
theorem start (settings : SessionSettings) (hello : Except String ClientHello) :
    Counted settings [] (SessionCourse.start settings hello) where
  settings := rfl
  line := SessionCourse.inLine_start settings hello
  accounts := .reset settings rfl
  starting := by rintro i task ⟨⟩
  launched := by rintro moment ⟨⟩

theorem after (settings : SessionSettings) (hello : Except String ClientHello)
    (events : List CourseEvent) :
    Counted settings (sessionRules.history (SessionCourse.start settings hello) events)
      (sessionRules.after (SessionCourse.start settings hello) events) :=
  sessionRules.history_induction (start settings hello) (fun _ _ event h => h.next event) events

end Counted

/-! ### Any course -/

namespace SessionCourse

variable {settings : SessionSettings} {past : List CourseMoment} {course : SessionCourse}

/-- Whether an operation is starting a server. -/
def Starts (course : SessionCourse) (i : Nat) : Prop :=
  ∃ task, course.task? i = some task ∧ task.starts = true

theorem inside_of_starts {i : Nat} (h : course.Starts i) : course.Inside i := by
  obtain ⟨task, hi, hstarts⟩ := h
  obtain ⟨ticket, hentered⟩ := SessionTask.entered_of_starts hstarts
  exact ⟨task, ticket, hi, hentered⟩

end SessionCourse

namespace Counted

variable {settings : SessionSettings} {past : List CourseMoment} {course : SessionCourse}
  {event : CourseEvent} {i : Nat}

theorem launchCount_le (h : Counted settings past course) :
    launchCount (sinceReset past) ≤ 1 + settings.maxRestarts := by
  have hbudget : course.shared.restarts ≤ settings.maxRestarts := h.settings ▸ h.accounts.budget
  by_cases hzero : launchCount (sinceReset past) = 0
  · omega
  · have hcounted := h.accounts.counted hzero
    omega

/-- A launch after the first one waits for the end of the cooldown after the last crash. -/
theorem cooled (h : Counted settings past course) (hagain : launchCount (sinceReset past) ≠ 0)
    (hlaunch : CourseMoment.launcher? (course, event) = some i) :
    ∃ crash, lastCrash? (sinceReset past) = some crash ∧
      crash + settings.restartCooldown ≤ course.now := by
  obtain ⟨task, progress, hstep, hasks⟩ := CourseMoment.step?_of_launcher? hlaunch
  obtain ⟨input, rfl, stands, hprogress⟩ := sessionRules.step?_eq_some hstep
  have hsame : (task.step course.now course.shared).2 = progress := hprogress
  have hmoved : (task.step course.now course.shared).2 ≠ .blocked := by
    obtain ⟨_, _, -, hmoved⟩ := SessionTask.eq_of_asksForLaunch hasks
    rw [hsame, hmoved]
    rintro ⟨⟩
  have haccounted := task.accounted_step course.now course.shared hmoved
  generalize task.step course.now course.shared = stepped at haccounted hsame
  cases haccounted with
  | launches s' _ _ _ launches =>
    cases launches with
    | first idle => exact absurd (h.accounts.idle idle) hagain
    | again crashed budget cooled account =>
      obtain ⟨hsome, hlast⟩ := h.accounts.crashed crashed
      obtain ⟨crash, hcrash⟩ := Option.ne_none_iff_exists'.mp hsome
      refine ⟨crash, hlast.symm.trans hcrash, ?_⟩
      rw [← h.settings]
      exact cooled crash hcrash
  | resets _ _ _ asks | effects _ _ asks =>
    obtain rfl := hsame
    rw [hasks] at asks
    cases asks

/-- The budget is reported as exhausted when it is, by one who has launched nothing, or else by the
    launcher. -/
theorem exhausted (h : Counted settings past course) {point : EnsurePoint} {restarts : Nat}
    (hstep : sessionRules.step? (course, event) = some (i, .ensure point,
      .finished (.ensured (.error (.restartBudgetExhausted restarts))))) :
    restarts = course.shared.restarts ∧ restarts = settings.maxRestarts ∧
        (∀ moment ∈ past, CourseMoment.launcher? moment ≠ some i) ∨
      course.shared.launch = .finished (.error (.restartBudgetExhausted restarts)) := by
  obtain ⟨input, rfl, stands, hprogress⟩ := sessionRules.step?_eq_some hstep
  have hmoves := point.step_moves course.now course.shared
  have hresult : (point.step course.now course.shared).2 =
      .finished (.error (.restartBudgetExhausted restarts)) := by
    have hmapped : (point.step course.now course.shared).2.map SessionTask.ensure
        SessionReply.ensured = .finished (.ensured (.error (.restartBudgetExhausted restarts))) :=
      hprogress
    cases hpoint : (point.step course.now course.shared).2 with
    | blocked | moved =>
      rw [hpoint] at hmapped
      cases hmapped
    | finished result =>
      rw [hpoint] at hmapped
      cases hmapped
      rfl
  generalize point.step course.now course.shared = stepped at hmoves hresult
  cases hmoves with
  | answers ticket result holds exhausted =>
    cases hresult
    obtain ⟨-, hspent, hsame⟩ := exhausted restarts rfl
    have hbudget := h.accounts.budget
    refine .inl ⟨hsame, ?_, fun moment hmem hlaunched => ?_⟩
    · rw [hsame, ← h.settings]
      exact Nat.le_antisymm hbudget hspent
    · -- Whoever has launched is starting a server, and waits in no line.
      have hstarts := (h.launched moment hmem i hlaunched).2 _ stands
      cases hstarts
  | fails ticket error launched =>
    cases hresult
    exact .inr launched
  | crashes _ ticket m error before quiet greeting =>
    cases hresult
    exact absurd rfl (greeting restarts)
  | blocks | joins | wakes | cools | launches | relaunches | links | greets | succeeds =>
    cases hresult

end Counted

namespace SessionCourse

/-- **Bounded, spaced restarts.**  In any course of a session, whatever its servers do, whoever
    calls it and whoever gives up: since the last successful reset there was at most one launch more
    than the settings allow restarts; after the first launch the session counts all but that one; no
    two operations start a server at the same time; every launch but the first comes when the
    cooldown is over since the last crash; and a budget is reported as exhausted only when it is, by
    an operation that has launched nothing, unless this is what the launcher itself reports. -/
theorem restarts_bounded_after (settings : SessionSettings) (hello : Except String ClientHello)
    (events : List CourseEvent) :
    let past := sessionRules.history (start settings hello) events
    let course : SessionCourse := sessionRules.after (start settings hello) events
    launchCount (sinceReset past) ≤ 1 + settings.maxRestarts ∧
    (launchCount (sinceReset past) ≠ 0 →
      course.shared.restarts + 1 = launchCount (sinceReset past)) ∧
    (∀ i j, course.Starts i → course.Starts j → i = j) ∧
    (∀ event i, CourseMoment.launcher? (course, event) = some i →
      launchCount (sinceReset past) ≠ 0 →
        ∃ crash, lastCrash? (sinceReset past) = some crash ∧
          crash + settings.restartCooldown ≤ course.now) ∧
    ∀ event i point restarts, sessionRules.step? (course, event) = some (i, .ensure point,
        .finished (.ensured (.error (.restartBudgetExhausted restarts)))) →
      restarts = course.shared.restarts ∧ restarts = settings.maxRestarts ∧
          (∀ moment ∈ past, CourseMoment.launcher? moment ≠ some i) ∨
        course.shared.launch = .finished (.error (.restartBudgetExhausted restarts)) := by
  intro past course
  have h : Counted settings past course := Counted.after settings hello events
  refine ⟨h.launchCount_le, h.accounts.counted, fun i j hi hj => ?_, ?_, ?_⟩
  · exact Turns.Serves.exclusive h.line (inside_of_starts hi) (inside_of_starts hj)
  · exact fun event i hlaunch hagain => h.cooled hagain hlaunch
  · exact fun event i point restarts hstep => h.exhausted hstep

end SessionCourse
end SymbolSearch
