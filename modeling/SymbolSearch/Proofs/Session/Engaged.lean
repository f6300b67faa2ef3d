import SymbolSearch.Proofs.Session.Course

/-!
# Who is at work

How far the operation has come that is at work with the guard says what the session looks like, also
in a course in which others were given up on the way.

* `Session.Aside` — what those can do who do not have the guard; `SessionTask.aside_step` and
  `SessionTask.aside_cancel` show it.
* `Engaged` — what the session looks like to the one at work; `SessionTask.engaged_step`.
* `SessionCourse.Engages` — this holds of whoever is at work in a course, `engages_after`.

Links only become more, and messages go through the newest one, if through any.

* `Session.Renews` — what anything can do to the writer of a session and the number of its links;
  `SessionTask.renews_step`, `SessionTask.renews_cancel` and `Session.drift_undergo` say that nothing
  does more.
* `Session.Newest` — the link of the writer is the newest one; `Session.Newest.renews` keeps it so.
-/

namespace SymbolSearch

/-- What happens aside from the one who has the guard. -/
structure Session.Aside (s s' : Session) : Prop where
  state : StateDrift s s'
  connection : s'.connection = s.connection
  writer : s'.writer = s.writer ∨ s'.writer = none

/-- Whether the session that is being closed has given its writer up. -/
def StopPoint.released : StopPoint → Bool
  | .finishing _ _ | .reaping _ _ _ | .killing _ _ | .draining _ _ _ => true
  | _ => false

/-- What a session looks like to the operation that is at work with the guard. -/
inductive Engaged (s : Session) : SessionTask → Prop where
  | launching (ticket : Ticket) (state : s.state = .spawning ∨ s.state = .crashed) :
      Engaged s (.ensure (.launching ticket))
  | greeting (point : EnsurePoint) (ticket : Ticket) (greets : point.Greets ticket)
      (state : s.state = .handshaking ∨ s.state = .crashed) : Engaged s (.ensure point)
  | closing (point : StopPoint) (ticket : Ticket) (closes : point.Closes ticket)
      (state : s.state = .closing) (released : point.released = true → s.writer = none)
      (taken : point.link? ≠ none → s.connection = none) : Engaged s (.stop point)

open Session

variable {s m s' : Session} {now : Instant} {ticket : Ticket} {task : SessionTask}

/-! ### Aside from the one at work -/

namespace Session

theorem Aside.refl (s : Session) : Aside s s := ⟨.stays rfl, rfl, .inl rfl⟩

theorem Drift.aside (h : Drift s s') : Aside s s' := ⟨h.state, h.connection, h.writer⟩

theorem Quiet.aside (h : Quiet s s') : Aside s s' := h.drift.aside

theorem writer_dropConnection (s : Session) : s.dropConnection.writer = s.writer := by
  unfold dropConnection
  split <;> rfl

theorem Aside.writer_eq_none (h : Aside s s') (hnone : s.writer = none) : s'.writer = none := by
  rcases h.writer with hsame | hnone'
  · exact hsame.trans hnone
  · exact hnone'

end Session

theorem Engaged.aside (h : Engaged s task) (haside : Aside s s') : Engaged s' task := by
  have hstate := haside.state
  cases h with
  | launching ticket state =>
    refine .launching ticket ?_
    cases hstate with
    | stays hstays => rwa [hstays]
    | degraded hready => simp [hready] at state
    | recovered hdegraded => simp [hdegraded] at state
    | lost _ hcrashed => exact .inr hcrashed
  | greeting point ticket greets state =>
    refine .greeting point ticket greets ?_
    cases hstate with
    | stays hstays => rwa [hstays]
    | degraded hready => simp [hready] at state
    | recovered hdegraded => simp [hdegraded] at state
    | lost _ hcrashed => exact .inr hcrashed
  | closing point ticket closes state released taken =>
    refine .closing point ticket closes ?_ (fun h => haside.writer_eq_none (released h))
      fun h => haside.connection.trans (taken h)
    cases hstate with
    | stays hstays => exact hstays.trans state
    | degraded hready => simp [hready] at state
    | recovered hdegraded => simp [hdegraded] at state
    | lost hbefore => simp [state] at hbefore

namespace SessionTask

/-- A step of someone who does not have the guard. -/
theorem aside_step (now : Instant) (task : SessionTask) (s : Session)
    (hidle : ∀ ticket, ¬task.Entered ticket)
    (hwaits : ∀ ticket, task.ticket? = some ticket → s.turns.holder ≠ some ticket)
    (hblocked : (task.step now s).2 ≠ .blocked) : Aside s (task.step now s).1 := by
  have hguard {ρ : Type} {act : Session → Session × ρ} {make : GuardPoint → SessionTask}
      {point : GuardPoint} {stepped : Stepped Session GuardPoint ρ}
      (hmoves : GuardMoves act s point stepped)
      (hwaits : ∀ ticket, (make point).ticket? = some ticket → s.turns.holder ≠ some ticket)
      (hqueued : ∀ ticket, (make (.queued ticket)).ticket? = some ticket) : Aside s stepped.1 := by
    cases hmoves with
    | blocks => exact .refl s
    | joins => exact ⟨.stays rfl, rfl, .inl rfl⟩
    | acts ticket holds => exact absurd holds (hwaits ticket (hqueued ticket))
  cases task with
  | ensure point =>
    have hmoves := point.step_moves now s
    have hstep : (point.step now s).2 ≠ .blocked := Stepped.ne_blocked_of_map hblocked
    show Aside s (point.step now s).1
    generalize point.step now s = stepped at hmoves hstep
    cases hmoves with
    | blocks => exact absurd rfl hstep
    | joins => exact ⟨.stays rfl, rfl, .inl rfl⟩
    | wakes => exact .refl s
    | answers ticket _ holds | cools ticket _ holds | launches ticket holds
    | relaunches ticket holds => exact absurd holds (hwaits ticket rfl)
    | fails ticket | links ticket => exact absurd rfl (hidle ticket)
    | greets _ _ ticket _ before | crashes _ ticket _ _ before | succeeds _ ticket _ _ before =>
      exact absurd (entered_of_greets before) (hidle ticket)
  | ask point => exact (point.drift_step now s).aside
  | notify point => exact (point.quiet_step s).aside
  | stop point =>
    have hmoves := point.step_moves now s
    have hstep : (point.step now s).2 ≠ .blocked := Stepped.ne_blocked_of_map hblocked
    show Aside s (point.step now s).1
    generalize point.step now s = stepped at hmoves hstep
    cases hmoves with
    | blocks => exact absurd rfl hstep
    | joins => exact ⟨.stays rfl, rfl, .inl rfl⟩
    | leaves ticket holds | parts ticket _ holds => exact absurd holds (hwaits ticket rfl)
    | goesOn _ _ ticket _ before | takes _ _ ticket _ _ before | finishes _ ticket _ before
    | drains _ ticket _ before => exact absurd (entered_of_closes before) (hidle ticket)
  | reset point => exact hguard (point.step_moves resetNow s) hwaits fun _ => rfl
  | checkAlive point =>
    have hlook (point : GuardPoint)
        (hwaits : ∀ ticket, (checkAlive point).ticket? = some ticket →
          s.turns.holder ≠ some ticket) :
        Aside s (point.step (fun s => (s, s.hasLiveConnection)) s).1 :=
      hguard (GuardPoint.step_moves _ _ s) hwaits fun _ => rfl
    show Aside s (s.stepAlive point).1
    unfold stepAlive
    split
    · split
      · exact hlook .asking hwaits
      · exact .refl s
    next ticket => exact hlook (.queued ticket) hwaits

/-- Someone who is not at work is given up. -/
theorem aside_cancel (task : SessionTask) (s : Session) (hidle : ∀ ticket, ¬task.Entered ticket) :
    Aside s (task.cancel s) := by
  cases task with
  | ensure point =>
    cases point with
    | asking | cooling => exact .refl s
    | queued ticket => exact ⟨.stays rfl, rfl, .inl rfl⟩
    | launching ticket | linked ticket | greeting ticket | confirming ticket =>
      exact absurd rfl (hidle ticket)
  | ask point =>
    cases point with
    | starting query => exact .refl s
    | calling query call => exact (call.quiet_cancel s).aside
  | notify point =>
    cases point with
    | starting notice => exact .refl s
    | sending send => exact (send.quiet_cancel s).aside
  | stop point =>
    cases point with
    | asking => exact .refl s
    | queued ticket => exact ⟨.stays rfl, rfl, .inl rfl⟩
    | parting ticket | farewell ticket | exiting ticket | finishing ticket | reaping ticket
    | killing ticket | draining ticket => exact absurd rfl (hidle ticket)
  | reset point | checkAlive point =>
    cases point with
    | asking => exact .refl s
    | queued ticket => exact ⟨.stays rfl, rfl, .inl rfl⟩

end SessionTask

/-! ### The writer of a session that is being closed -/

namespace StopPoint

/-- Whoever closes a session gives its writer up before the last part, and before the end. -/
def Lets (stepped : Stopped) : Prop :=
  match stepped.2 with
  | .blocked => True
  | .moved point => point.released = true → stepped.1.writer = none
  | .finished _ => stepped.1.writer = none

theorem lets_close (h : m.writer = none) : Lets (close now ticket m) := by
  unfold close
  split
  · exact h
  · dsimp only
    split
    · exact fun _ => h
    · exact fun _ => h

theorem lets_finishOutbox (now : Instant) (ticket : Ticket) (m : Session) :
    Lets (finishOutbox now ticket m) := by
  unfold finishOutbox
  split
  next h => exact lets_close h
  next =>
    split
    · exact fun _ => writer_releaseWriter _
    · exact lets_close (writer_releaseWriter _)

theorem lets_sendExit (now : Instant) (ticket : Ticket) (m : Session) :
    Lets (sendExit now ticket m) := by
  unfold sendExit
  split
  · exact lets_finishOutbox now ticket m
  next =>
    split
    · exact fun h => by cases h
    · exact lets_finishOutbox now ticket _

theorem lets_afterFarewell (now : Instant) (ticket : Ticket)
    (stepped : Stepped Session CallPoint (Except SessionError Json)) :
    Lets (afterFarewell now ticket stepped) := by
  obtain ⟨m, progress⟩ := stepped
  cases progress with
  | blocked => trivial
  | moved call => exact fun h => by cases h
  | finished result => exact lets_sendExit now ticket m

theorem lets_step (now : Instant) {point : StopPoint} (s : Session) (hcloses : point.Closes ticket)
    (h : point.released = true → s.writer = none) : Lets (point.step now s) := by
  cases point with
  | asking | queued => exact hcloses.elim
  | parting ticket asked =>
    simp only [step, part]
    split
    · exact lets_afterFarewell now ticket _
    · exact lets_finishOutbox now ticket s
  | farewell ticket call => exact lets_afterFarewell now ticket _
  | exiting ticket send =>
    simp only [step]
    split
    · exact fun h => by cases h
    · exact lets_finishOutbox now ticket _
    · trivial
  | finishing ticket send =>
    have hwriter := (send.quiet_step s).writer_eq_none (h rfl)
    simp only [step]
    split
    next hstep =>
      rw [hstep] at hwriter
      exact fun _ => hwriter
    next hstep =>
      rw [hstep] at hwriter
      exact lets_close hwriter
    next => trivial
  | reaping ticket link deadline =>
    simp only [step]
    split
    · split
      · exact fun _ => h rfl
      · trivial
    · exact fun _ => h rfl
  | killing ticket link =>
    simp only [step]
    split
    · trivial
    · exact fun _ => h rfl
  | draining ticket link deadline =>
    simp only [step]
    split
    · exact h rfl
    · trivial

end StopPoint

/-! ### The one at work -/

namespace SessionTask

theorem engaged_ensure {point : EnsurePoint} {stepped : EnsurePoint.Ensured}
    (hmoves : EnsureMoves now s point stepped)
    (hengaged : ∀ ticket, (ensure point).Entered ticket → Engaged s (.ensure point))
    {point' : EnsurePoint} (hmoved : stepped.2 = .moved point')
    (hentered : (ensure point').Entered ticket) : Engaged stepped.1 (.ensure point') := by
  cases hmoves with
  | blocks | answers | fails | crashes | succeeds => cases hmoved
  | joins | wakes | cools =>
    cases hmoved
    exact hentered.elim
  | launches held | relaunches held =>
    cases hmoved
    exact .launching held (.inl rfl)
  | links held process =>
    cases hmoved
    exact .greeting _ held rfl (.inl rfl)
  | greets _ _ held m before quiet after =>
    cases hmoved
    have hstate : s.state = .handshaking ∨ s.state = .crashed := by
      cases hengaged held (entered_of_greets before) with
      | launching => exact before.elim
      | greeting _ _ _ state => exact state
    exact .greeting _ held after (by rwa [quiet.state])

theorem engaged_stop {point point' : StopPoint}
    (hengaged : ∀ ticket, (stop point).Entered ticket → Engaged s (.stop point))
    (hmoved : (point.step now s).2 = .moved point') (hentered : (stop point').Entered ticket) :
    Engaged (point.step now s).1 (.stop point') := by
  have hmoves := point.step_moves now s
  have hlets (held : Ticket) (hcloses : point.Closes held) : StopPoint.Lets (point.step now s) := by
    refine StopPoint.lets_step now s hcloses fun hreleased => ?_
    cases hengaged held hcloses with
    | closing _ _ _ _ released => exact released hreleased
  generalize point.step now s = stepped at hmoves hmoved hlets
  cases hmoves with
  | blocks | leaves | finishes | drains => cases hmoved
  | joins =>
    cases hmoved
    exact hentered.elim
  | parts held asked =>
    cases hmoved
    exact .closing _ held rfl rfl (by rintro ⟨⟩) fun h => absurd rfl h
  | goesOn _ _ held m before quiet after link =>
    cases hmoved
    cases hengaged held before with
    | closing _ _ _ state _ taken =>
      refine .closing _ held after (quiet.state.trans state) (hlets held before) fun hlink => ?_
      exact quiet.connection.trans (taken (link ▸ hlink))
  | takes _ _ held m link before quiet connection after taken =>
    cases hmoved
    cases hengaged held before with
    | closing _ _ _ state =>
      exact .closing _ held after (quiet.state.trans state) (hlets held before) fun _ => rfl

/-- A step of the one at work, or of one who goes to work with it. -/
theorem engaged_step (now : Instant) {task task' : SessionTask} {s : Session}
    (hengaged : ∀ ticket, task.Entered ticket → Engaged s task)
    (hmoved : (task.step now s).2 = .moved task') (hentered : task'.Entered ticket) :
    Engaged (task.step now s).1 task' := by
  cases task with
  | ensure point =>
    obtain ⟨point', hpoint, rfl⟩ := Progress.eq_moved_of_map hmoved
    exact engaged_ensure (point.step_moves now s) hengaged hpoint hentered
  | stop point =>
    obtain ⟨point', hpoint, rfl⟩ := Progress.eq_moved_of_map hmoved
    exact engaged_stop hengaged hpoint hentered
  | ask point | notify point | reset point | checkAlive point =>
    obtain ⟨point', -, rfl⟩ := Progress.eq_moved_of_map hmoved
    exact hentered.elim

end SessionTask

/-! ### Courses -/

namespace SessionCourse

/-- What holds of whoever is at work in a course. -/
structure Engages (course : SessionCourse) : Prop where
  line : course.InLine
  engaged : ∀ i task ticket, course.task? i = some task → task.Entered ticket →
    Engaged course.shared task

variable {course course' : SessionCourse} {i j : Nat} {task' : SessionTask}

/-- While someone is at work, whoever else goes on does not have the guard. -/
theorem InLine.waits (h : course.InLine) (hi : course.task? i = some task) (hj : course.Inside j)
    (hne : i ≠ j) : (∀ ticket, ¬task.Entered ticket) ∧
      ∀ ticket, task.ticket? = some ticket → course.shared.turns.holder ≠ some ticket := by
  refine ⟨fun ticket hentered => ?_, fun ticket hticket hholder => ?_⟩
  · exact hne (Turns.Serves.exclusive h ⟨task, ticket, hi, hentered⟩ hj)
  · have hown : course.ticketOf i = some ticket := by
      rw [ticketOf, hi]
      exact hticket
    exact hne (Turns.Serves.eq_of_holder h hown hholder hj)

/-- An operation goes on, and whoever is at work afterwards is this one or was so before. -/
theorem engaged_put (h : course.Engages) (hi : course.task? i = some task)
    {standing : Standing SessionTask (Option SessionReply)}
    (hself : ∀ task' ticket, standing.point? = some task' → task'.Entered ticket →
      Engaged s' task')
    (hother : (∀ ticket, ¬task.Entered ticket) →
      (∀ ticket, task.ticket? = some ticket → course.shared.turns.holder ≠ some ticket) →
      Aside course.shared s') (hj : Crowd.task? (course.put i s' standing) j = some task')
    (hentered : task'.Entered ticket) : Engaged s' task' := by
  by_cases hji : i = j
  · subst hji
    rw [Crowd.task?_put_self hi] at hj
    exact hself task' ticket hj hentered
  · rw [Crowd.task?_put_of_ne hji] at hj
    obtain ⟨hidle, hwaits⟩ := h.line.waits hi ⟨task', ticket, hj, hentered⟩ hji
    exact (h.engaged j task' ticket hj hentered).aside (hother hidle hwaits)

theorem Engages.next (h : course.Engages) (event : CourseEvent) :
    Engages (sessionRules.next course event) := by
  refine ⟨h.line.next event, ?_⟩
  have hmoves := sessionRules.next_moves course event
  generalize sessionRules.next course event = course' at hmoves
  cases hmoves with
  | blocks | misses | waits => exact h.engaged
  | begins call =>
    intro j task ticket hj hentered
    by_cases hlast : j = course.tasks.length
    · -- Nobody begins at work.
      rw [hlast, Crowd.task?_concat_self] at hj
      obtain rfl := Option.some.inj hj
      exact absurd hentered (SessionTask.not_entered_of_ticket (ticket?_task call) ticket)
    · rw [Crowd.task?_concat_of_ne hlast] at hj
      exact h.engaged j task ticket hj hentered
  | moves i input task task' shared stands step =>
    have hstep : task.step course.now course.shared = (shared, .moved task') := step
    have haside := task.aside_step course.now course.shared
    have hself {ticket : Ticket} (hentered : task'.Entered ticket) : Engaged shared task' := by
      have hengaged := SessionTask.engaged_step course.now
        (fun ticket hticket => h.engaged i task ticket stands hticket)
        (congrArg (·.2) hstep) hentered
      rwa [hstep] at hengaged
    rw [hstep] at haside
    refine fun j other ticket => engaged_put h stands (fun other ticket hother hentered => ?_)
      fun hidle hwaits => haside hidle hwaits (by rintro ⟨⟩)
    obtain rfl := Option.some.inj hother
    exact hself hentered
  | finishes i input task result shared stands step =>
    have hstep : task.step course.now course.shared = (shared, .finished result) := step
    have haside := task.aside_step course.now course.shared
    rw [hstep] at haside
    exact fun j other ticket => engaged_put h stands (by rintro _ _ ⟨⟩)
      fun hidle hwaits => haside hidle hwaits (by rintro ⟨⟩)
  | givesUp i task stands =>
    exact fun j other ticket => engaged_put h stands (by rintro _ _ ⟨⟩)
      fun hidle _ => task.aside_cancel course.shared hidle
  | occurs event =>
    intro j task ticket hj hentered
    exact (h.engaged j task ticket hj hentered).aside
      (drift_undergo course.now event course.shared).aside

theorem engages_after (settings : SessionSettings) (hello : Except String ClientHello)
    (events : List CourseEvent) : Engages (sessionRules.after (start settings hello) events) :=
  sessionRules.history_induction (motive := fun _ course => SessionCourse.Engages course)
    ⟨inLine_start settings hello, by rintro i task ticket ⟨⟩⟩ (fun _ _ event h => h.next event)
    events

end SessionCourse

end SymbolSearch

namespace SymbolSearch

/-! ### The newest link -/

namespace Session

/-- No link is added and no writer comes back, or a new link gets the writer. -/
inductive Renews (s s' : Session) : Prop where
  | keeps (length : s'.links.length = s.links.length) (writer : s'.writer = s.writer ∨ s'.writer = none)
  | adds (length : s'.links.length = s.links.length + 1) (writer : s'.writer = some s.links.length)

/-- Messages go through the newest link, if through any. -/
def Newest (s : Session) : Prop := ∀ k, s.writer = some k → k + 1 = s.links.length

variable {s m s' : Session}

theorem Keeps.renews (h : Keeps s s') : Renews s s' := .keeps h.length h.writer

/-- Nothing else matters. -/
theorem Renews.congr (h : Renews s m) (length : s'.links.length = m.links.length)
    (writer : s'.writer = m.writer) : Renews s s' := by
  cases h with
  | keeps hlength hwriter => exact .keeps (length.trans hlength) (by rwa [writer])
  | adds hlength hwriter => exact .adds (length.trans hlength) (writer.trans hwriter)

theorem Renews.refl (s : Session) : Renews s s := .keeps rfl (.inl rfl)

theorem Renews.length_le (h : Renews s s') : s.links.length ≤ s'.links.length := by
  cases h with
  | keeps length => exact Nat.le_of_eq length.symm
  | adds length => exact Nat.le_of_lt (Nat.lt_of_succ_le (Nat.le_of_eq length.symm))

theorem Newest.renews (h : s.Newest) (hrenews : Renews s s') : s'.Newest := by
  intro k hk
  cases hrenews with
  | keeps length writer =>
    rcases writer with hsame | hnone
    · rw [length]
      exact h k (hsame.symm.trans hk)
    · rw [hnone] at hk
      cases hk
  | adds length writer =>
    obtain rfl := Option.some.inj (writer.symm.trans hk)
    exact length.symm

theorem length_dropConnection (s : Session) : s.dropConnection.links.length = s.links.length := by
  unfold dropConnection
  split
  · exact List.length_modify _ _ _
  · rfl

theorem Renews.dropConnection (h : Renews s m) : Renews s m.dropConnection :=
  h.congr (length_dropConnection m) (writer_dropConnection m)

end Session

open Session

/-- A step of bringing a session up. -/
theorem EnsurePoint.renews_step (now : Instant) (point : EnsurePoint) (s : Session)
    (hblocked : (point.step now s).2 ≠ .blocked) : Renews s (point.step now s).1 := by
  have hmoves := point.step_moves now s
  generalize point.step now s = stepped at hmoves hblocked ⊢
  cases hmoves with
  | blocks => exact absurd rfl hblocked
  | joins | wakes | answers | cools => exact (Renews.refl s).congr rfl rfl
  | launches ticket => exact (Renews.refl s).dropConnection.congr rfl rfl
  | relaunches ticket =>
    have hcounted : Renews s { s with restarts := s.restarts + 1 } := (Renews.refl s).congr rfl rfl
    exact hcounted.dropConnection.congr rfl rfl
  | fails ticket => exact (Keeps.markCrashed s now).renews.congr rfl rfl
  | links ticket process => exact .adds (by simp [link, addLink]) rfl
  | greets _ _ ticket m before quiet => exact quiet.toKeeps.renews
  | crashes _ ticket m error before quiet =>
    have hcrashed := (quiet.toKeeps.trans (Keeps.markCrashed m now)).renews
    exact hcrashed.dropConnection.congr rfl rfl
  | succeeds _ ticket m capabilities before quiet => exact quiet.toKeeps.renews.congr rfl rfl

/-- A step of closing a session. -/
theorem StopPoint.renews_step (now : Instant) (point : StopPoint) (s : Session)
    (hblocked : (point.step now s).2 ≠ .blocked) : Renews s (point.step now s).1 := by
  have hmoves := point.step_moves now s
  generalize point.step now s = stepped at hmoves hblocked ⊢
  cases hmoves with
  | blocks => exact absurd rfl hblocked
  | joins | leaves | parts => exact (Renews.refl s).congr rfl rfl
  | goesOn _ _ ticket m before quiet => exact quiet.toKeeps.renews
  | takes _ _ ticket m link before quiet => exact quiet.toKeeps.renews.congr rfl rfl
  | finishes _ ticket m before quiet => exact quiet.toKeeps.renews.congr rfl rfl
  | drains _ ticket link before =>
    exact (Renews.refl s).congr (List.length_modify _ _ _) rfl

theorem Session.renews_resetNow (s : Session) : Renews s s.resetNow.1 := by
  have hdrop : Renews s s.dropConnection.releaseWriter :=
    .keeps ((quiet_releaseWriter _).length.trans (length_dropConnection s))
      (.inr (writer_releaseWriter _))
  unfold resetNow
  split
  · exact hdrop.congr rfl rfl
  · exact hdrop.congr rfl rfl
  · exact .refl s

namespace SessionTask

/-- A step of any operation on a session. -/
theorem renews_step (now : Instant) (task : SessionTask) (s : Session)
    (hblocked : (task.step now s).2 ≠ .blocked) : Renews s (task.step now s).1 := by
  cases task with
  | ensure point => exact point.renews_step now s (Stepped.ne_blocked_of_map hblocked)
  | ask point => exact (point.drift_step now s).toKeeps.renews
  | notify point => exact (point.quiet_step s).toKeeps.renews
  | stop point => exact point.renews_step now s (Stepped.ne_blocked_of_map hblocked)
  | reset point =>
    have hmoves := point.step_moves resetNow s
    show Renews s (point.step resetNow s).1
    generalize point.step resetNow s = stepped at hmoves
    cases hmoves with
    | blocks => exact .refl s
    | joins => exact (Renews.refl s).congr rfl rfl
    | acts ticket => exact s.renews_resetNow.congr rfl rfl
  | checkAlive point =>
    obtain ⟨turns, hturns⟩ := s.exists_stepAlive point
    show Renews s (s.stepAlive point).1
    rw [hturns]
    exact (Renews.refl s).congr rfl rfl

theorem renews_cancel (task : SessionTask) (s : Session) : Renews s (task.cancel s) := by
  have hdrop (link : LinkId) : Renews s (s.updateLink link Link.drop) :=
    (Renews.refl s).congr (List.length_modify _ _ _) rfl
  cases task with
  | ensure point =>
    cases point with
    | asking | cooling => exact .refl s
    | queued | launching | linked => exact (Renews.refl s).congr rfl rfl
    | greeting ticket call => exact (call.quiet_cancel s).toKeeps.renews.congr rfl rfl
    | confirming ticket send => exact (send.quiet_cancel s).toKeeps.renews.congr rfl rfl
  | ask point =>
    cases point with
    | starting => exact .refl s
    | calling query call => exact (call.quiet_cancel s).toKeeps.renews
  | notify point =>
    cases point with
    | starting => exact .refl s
    | sending send => exact (send.quiet_cancel s).toKeeps.renews
  | stop point =>
    cases point with
    | asking => exact .refl s
    | queued | parting => exact (Renews.refl s).congr rfl rfl
    | farewell ticket call => exact (call.quiet_cancel s).toKeeps.renews.congr rfl rfl
    | exiting ticket send | finishing ticket send =>
      exact (send.quiet_cancel s).toKeeps.renews.congr rfl rfl
    | reaping ticket link | killing ticket link | draining ticket link =>
      exact (hdrop link).congr rfl rfl
  | reset point | checkAlive point =>
    cases point with
    | asking => exact .refl s
    | queued => exact (Renews.refl s).congr rfl rfl

end SessionTask

end SymbolSearch
