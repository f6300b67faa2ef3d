import SymbolSearch.Proofs.Files.Roots
import SymbolSearch.Proofs.Proxy.Limits
import SymbolSearch.Proofs.Proxy.Requests

/-!
# Passes over the sessions of a proxy

A pass that nobody disturbs looks at the sessions of the workspace that should be up, and touches
nothing else.

* `ProxyMoment.SparesOthers` — a step changes nothing but what belongs to one chosen ecosystem;
  `ProxyCourse.Underway.spares` shows it for every step of the pass.
* `ProxyCourse.Underway.awaits` — a pass that has to wait does not wait for anyone else.
* `ProxyCourse.LooksAfter` — what is promised of a pass, and `ProxyCourse.looksAfter` keeps it.
-/

namespace SymbolSearch

variable {start : Proxy} {chosen done : List Ecosystem} {cachedOf : Ecosystem → Cached}
  {past : List ProxyMoment} {course : ProxyCourse} {i : Nat} {input : ProxyInput}
  {new : List (Ecosystem × Api.HealthRecord)}

/-- Whether a moment changes nothing of a proxy but the session of one chosen ecosystem, with its
    slot, its key and its record. -/
def ProxyMoment.SparesOthers (chosen : List Ecosystem) (cachedOf : Ecosystem → Cached)
    (moment : ProxyMoment) : Prop :=
  (proxyRules.next moment.1 moment.2).shared = moment.1.shared ∨
    ∃ e ∈ chosen,
      moment.1.shared.cache.ChangesOnly (cachedOf e).belongings
        (proxyRules.next moment.1 moment.2).shared.cache ∧
      (proxyRules.next moment.1 moment.2).shared.health.filter (fun entry => entry.1 ≠ e) =
        moment.1.shared.health.filter fun entry => entry.1 ≠ e

/-- Whoever has to have the guard to go on has a ticket. -/
theorem SessionTask.ticket?_of_queued? {task : SessionTask} {ticket : Ticket}
    (h : task.queued? = some ticket) : task.ticket? = some ticket := by
  cases task with
  | ask | notify => cases h
  | ensure point | stop point | reset point | checkAlive point =>
    cases point <;> first | exact h | cases h

namespace ProxyCourse

/-! ### What a pass touches -/

/-- A step of a pass touches nothing else. -/
theorem Underway.spares (h : Underway start chosen cachedOf i past course new done)
    (hchooses : start.Chooses chosen cachedOf)
    (hevent : ProxyEvent.LeavesAlone i start.workspace (.step i input)) :
    ProxyMoment.SparesOthers chosen cachedOf (course, .step i input) := by
  have hproceeds := h.alone.proceeds h.lt_length hevent.cache
  rw [ProxyMoment.SparesOthers]
  generalize proxyRules.next course (.step i input) = course' at hproceeds
  cases hproceeds with
  | others _ _ other => exact absurd rfl (other input)
  | stays => exact .inl rfl
  | moves _ task task' shared stands step =>
    obtain ⟨point, rfl, -, hpoint, -⟩ := h.exists_point stands
    obtain ⟨point', hstep, rfl⟩ := exists_moved_check step
    have hadvances := h.advances hchooses hpoint hevent
    rw [hstep] at hadvances
    cases hadvances with
    | goesOn cache _ e choice changes => exact .inr ⟨e, choice, changes, rfl⟩
    | concludes cache e record rest split changes =>
      refine .inr ⟨e, by simp [split], changes, ?_⟩
      show ((e, record) :: course.shared.health.filter fun entry => entry.1 ≠ e).filter _ = _
      simp
  | finishes _ task result shared stands step =>
    obtain ⟨point, rfl, -, hpoint, -⟩ := h.exists_point stands
    obtain ⟨count, hstep, rfl⟩ := exists_finished_check step
    have hadvances := h.advances hchooses hpoint hevent
    rw [hstep] at hadvances
    cases hadvances with
    | finishes => exact .inl rfl

/-! ### What a pass waits for -/

/-- Nobody else waits for a slot or for a session. -/
theorem IsAlone.stanceOf {j : Nat} (h : course.IsAlone i) (hj : j ≠ i) :
    course.stanceOf j = .has [] := by
  cases htask : course.task? j with
  | none =>
    rw [ProxyCourse.stanceOf, htask]
    rfl
  | some task =>
    obtain ⟨a, point, rfl⟩ := h j task hj htask
    exact stanceOf_of_task? htask

theorem IsAlone.ticketsAt {j : Nat} (h : course.IsAlone i) (hj : j ≠ i) (a : AdapterId) :
    course.ticketsAt a j = none := by
  rw [ProxyCourse.ticketsAt, jobsAt]
  cases htask : course.task? j with
  | none =>
    rw [jobOf, htask]
    rfl
  | some task =>
    obtain ⟨b, point, rfl⟩ := h j task hj htask
    rw [jobOf_of_task? htask]
    show (jobOn (some (b, AdapterTask.inquiry point)) a).bind _ = none
    by_cases hab : b = a
    · rw [hab, jobOn_self]
      rfl
    · rw [jobOn_of_ne hab]
      rfl

/-- It is the turn of a pass wherever it is in line. -/
theorem IsAlone.holds_slot (h : course.IsAlone i) (horder : course.InOrder) {point : CheckPoint}
    {seat : Seat} {claims : List (CacheKey × SlotId)}
    (hstands : course.task? i = some (.check point)) (hstance : point.stance = .queued seat claims) :
    (course.shared.cache.slotAt seat.slot).turns.holds seat.ticket = true := by
  refine (horder.lines seat.slot).holds_of_alone (i := i) ?_ fun j hj => ?_
  · rw [stanceOf_of_task? hstands]
    show point.stance.ticketAt seat.slot = _
    rw [hstance]
    exact Stance.ticketAt_of_seat? rfl
  · rw [h.stanceOf hj]
    rfl

theorem IsAlone.holds_session (h : course.IsAlone i) (hinLine : course.InLine) {point : CheckPoint}
    {a : AdapterId} {task : SessionTask} {s : Session} {ticket : Ticket}
    (hstands : course.task? i = some (.check point))
    (hjob : point.job? = some (a, .onSession task))
    (hs : course.shared.cache.session? a = some s) (hqueued : task.queued? = some ticket) :
    s.turns.holds ticket = true := by
  have hline := (hinLine a).lists
  rw [sessionAt_of_session? hs] at hline
  refine hline.holds_of_alone (i := i) ?_ fun j hj => h.ticketsAt hj a
  rw [ProxyCourse.ticketsAt, jobsAt, jobOf_of_task? hstands]
  show (jobOn point.job? a).bind _ = _
  rw [hjob, jobOn_self]
  exact SessionTask.ticket?_of_queued? hqueued

/-- A pass that has to wait waits for the files, for a time, or for what happens to a session. -/
theorem Underway.awaits (h : Underway start chosen cachedOf i past course new done)
    (hchooses : start.Chooses chosen cachedOf) (hreached : course.IsReached) {point : CheckPoint}
    (hstands : course.task? i = some (.check point))
    (hevent : ProxyEvent.LeavesAlone i start.workspace (.step i input))
    (hquiet : ¬ProxyMoment.Goes i (course, .step i input)) :
    point.Awaits course.now input.files course.shared := by
  obtain ⟨found, hfound, -, hpoint, -⟩ := h.exists_point hstands
  obtain rfl := ProxyTask.check.inj hfound
  have hadvances := h.advances hchooses hpoint hevent
  have hblocked : (point.step course.now input.wall input.files course.shared).2 = .blocked := by
    by_contra hgoes
    refine hquiet ⟨_, _, proxyRules.step?_step hstands, fun hnot => hgoes ?_⟩
    exact Progress.eq_blocked_of_map hnot
  generalize point.step course.now input.wall input.files course.shared = stepped
    at hadvances hblocked
  cases hadvances with
  | goesOn | concludes | finishes => cases hblocked
  | waits after stuck =>
    refine stuck.awaits hpoint (fun seat claims hstance => ?_)
      fun a task s ticket hjob hs hqueued => ?_
    · exact h.alone.holds_slot hreached.inOrder hstands hstance
    · exact h.alone.holds_session hreached.inLine hstands hjob hs hqueued

/-! ### What is promised -/

/-- What is promised of a pass at a place of a course that begins to look after the sessions of the
    workspace, when `past` has happened since then. -/
structure LooksAfter (begun : ProxyCourse) (i : Nat) (cachedOf : Ecosystem → Cached)
    (past : List ProxyMoment) (course : ProxyCourse) : Prop where
  /-- The pass looks at each session that is kept for the workspace and should be up. -/
  chooses : begun.shared.Chooses begun.shared.concerned cachedOf
  /-- No other session has its slot or its adapter together with one of them. -/
  apart : ∀ own : Cached, own.IsIn begun.shared.cache →
    (∀ e ∈ begun.shared.concerned, own.key ≠ (cachedOf e).key) →
      ∀ e ∈ begun.shared.concerned,
        own.slot ≠ (cachedOf e).slot ∧ own.adapter ≠ (cachedOf e).adapter
  /-- The pass goes on, or has ended with their number. -/
  ends : (∃ point, course.task? i = some (.check point)) ∨
    course.tasks[i]? = some (.ended (some (.checked begun.shared.concerned.length)))
  /-- No step of the pass changes anything but one of them, with its slot, its key and its record, and
      besides only questions of others are served. -/
  spares : ∀ moment ∈ past, (∃ input, moment.2 = .step i input) →
    moment.SparesOthers begun.shared.concerned cachedOf
  keeps : begun.shared.cache.ChangesOnly (chosenBelongings begun.shared.concerned cachedOf)
    course.shared.cache
  /-- When the pass has ended, there is one new record for each of them instead of the old one, which
      says whether the server was healthy, and every other record is as it was. -/
  records : course.task? i = none → ∃ new : List (Ecosystem × Api.HealthRecord),
    new.map (·.1) = begun.shared.concerned.reverse ∧
      course.shared.health = new ++ begun.shared.health.filter (·.1 ∉ begun.shared.concerned) ∧
      ∀ entry ∈ new, (entry.2.ok = true ↔ Healthy past i entry.1)
  /-- A response that comes while the pass waits for it is in time, if nobody lets the pass sleep. -/
  timely : (∀ moment ∈ past, moment.IsPunctual i) → ∀ e reply outcome, ∀ moment ∈ past,
    ProxyMoment.Answers i e reply outcome moment → InTime past i e reply moment.1.now
  /-- The pass waits until a request has left the table or one of the limits is over. -/
  patient : ∀ e a wanted reply link deadline rest checked s,
    course.task? i = some (.check
      (.probing e a (.calling wanted (.waiting reply link)) deadline rest checked)) →
    course.shared.cache.session? a = some s → s.pending.Has reply.id →
    course.now < deadline → course.now < reply.deadline →
      ∀ input, ¬ProxyMoment.Goes i (course, .step i input)
  /-- When the pass has ended, no request that it has made is in any table. -/
  requests : course.task? i = none → ∀ moment ∈ past, ∀ a id, moment.Makes i a id →
    ¬(course.sessionAt a).pending.Has id
  /-- The pass makes only so many steps, and does not wait for anyone else. -/
  steps : passSteps past i ≤
    begun.shared.concerned.length * CheckPoint.stepsEach begun.shared.cache + 1
  awaits : ∀ point input, course.task? i = some (.check point) →
    ProxyEvent.KeepsRoot i begun.shared.workspace (.step i input) →
    ¬ProxyMoment.Goes i (course, .step i input) →
      point.Awaits course.now input.files course.shared

/-- What every event keeps of a pass that has begun. -/
structure Passes (before : List ProxyMoment) (start : Proxy) (chosen : List Ecosystem)
    (cachedOf : Ecosystem → Cached) (i : Nat) (past : List ProxyMoment) (course : ProxyCourse) :
    Prop where
  reached : course.IsReached
  table : TableKept (before ++ past) course
  underway : ∃ new done, Underway start chosen cachedOf i past course new done
  judged : Judged before past i chosen course
  timed : Timed past i course
  owned : Owned past i course
  spares : ∀ moment ∈ past, (∃ input, moment.2 = .step i input) →
    moment.SparesOthers chosen cachedOf

/-- When a pass has chosen, it has not yet looked at anything. -/
theorem Underway.begins {begun : ProxyCourse} (hstands : begun.task? i = some (.check .starting))
    (halone : begun.IsAlone i) (hchooses : begun.shared.Chooses begun.shared.concerned cachedOf) :
    Underway begun.shared begun.shared.concerned cachedOf i []
      (begun.put i begun.shared (.waiting (.check (.passing begun.shared.concerned 0)))) [] [] where
  alone := by
    intro j task hj hfound
    rw [Crowd.task?_put_of_ne (Ne.symm hj)] at hfound
    exact halone j task hj hfound
  shared := rfl
  changes := .refl _
  stands := ⟨.waiting (.check (.passing begun.shared.concerned 0)),
    List.getElem?_set_self (Crowd.lt_of_task? hstands),
    .goesOn _ (.passes _ rfl hchooses.kept), Nat.le_of_eq (Nat.zero_add _)⟩
  records := rfl
  health := by simp

namespace Passes

variable {before : List ProxyMoment} {event : ProxyEvent} {begun : ProxyCourse}

theorem next (h : Passes before start chosen cachedOf i past course)
    (hchooses : start.Chooses chosen cachedOf)
    (hevent : ProxyEvent.LeavesAlone i start.workspace event) :
    Passes before start chosen cachedOf i (past ++ [(course, event)])
      (proxyRules.next course event) := by
  obtain ⟨new, done, hunderway⟩ := h.underway
  refine ⟨h.reached.next event, ?_, hunderway.next hchooses hevent,
    h.judged.next h.table hunderway hchooses hevent,
    h.timed.next h.judged.tells hunderway hevent, h.owned.next h.table event, ?_⟩
  · rw [← List.append_assoc]
    exact h.table.next event
  · intro moment hmem hstep
    rcases List.mem_append.mp hmem with hold | hnew
    · exact h.spares moment hold hstep
    · obtain rfl := List.mem_singleton.mp hnew
      obtain ⟨input, rfl⟩ := hstep
      exact hunderway.spares hchooses hevent

/-- What a pass has chosen is all that it is about. -/
theorem begins (hreached : begun.IsReached) (hstands : begun.task? i = some (.check .starting))
    (halone : begun.IsAlone i) (hchooses : begun.shared.Chooses begun.shared.concerned cachedOf)
    (input : ProxyInput) :
    ∃ before, Passes before begun.shared begun.shared.concerned cachedOf i []
      (proxyRules.next begun (.step i input)) := by
  have hnext : proxyRules.next begun (.step i input) =
      begun.put i begun.shared (.waiting (.check (.passing begun.shared.concerned 0))) :=
    proxyRules.next_of_moved hstands rfl
  have htask : Crowd.task? (begun.put i begun.shared
      (.waiting (.check (.passing begun.shared.concerned 0)))) i =
        some (.check (.passing begun.shared.concerned 0)) := Crowd.task?_put_self hstands _
  have hreached' := hreached.next (.step i input)
  rw [hnext] at hreached' ⊢
  obtain ⟨before, htable⟩ := hreached'.tableKept
  refine ⟨before, hreached', ?_, ⟨[], [], .begins hstands halone hchooses⟩, ?_, ?_, ?_, ?_⟩
  · rw [List.append_nil]
    exact htable
  · constructor
    · intro point hpoint
      cases htask.symm.trans hpoint
      exact .passes _ 0 fun e he => nofun
    · intro e he hdone
      exact absurd he (hdone _ htask)
  · refine ⟨nofun, fun e a query deadline rest checked hfound => ?_, fun _ _ _ _ => nofun⟩
    cases htask.symm.trans hfound
  · exact fun _ _ => nofun
  · exact nofun

/-- What every event keeps is what is promised. -/
theorem promised (h : Passes before begun.shared begun.shared.concerned cachedOf i past course)
    (hreached : begun.IsReached)
    (hchooses : begun.shared.Chooses begun.shared.concerned cachedOf) :
    LooksAfter begun i cachedOf past course := by
  obtain ⟨new, done, hunderway⟩ := h.underway
  obtain ⟨standing, hstanding, hpass, hsteps⟩ := hunderway.stands
  refine ⟨hchooses, ?_, ?_, h.spares, hunderway.changes, fun hnone => ?_, h.timed.answers, ?_, ?_, ?_,
    ?_⟩
  · intro own hown hother e he
    obtain ⟨count, htidy⟩ := hreached.inOrder.tidy
    have hkept := hchooses.kept e he
    exact ⟨fun hsame => hother e he (hown.key_of_slot htidy hkept hsame),
      fun hsame => hother e he (hown.key_of_adapter htidy hkept hsame)⟩
  · cases hpass with
    | goesOn point => exact .inl ⟨point, task?_of_getElem? hstanding⟩
    | ended => exact .inr hstanding
  · cases hpass with
    | goesOn point =>
      rw [task?_of_getElem? hstanding] at hnone
      cases hnone
    | ended all =>
      subst all
      refine ⟨new, hunderway.records, hunderway.health, fun entry hentry => ?_⟩
      refine h.judged.verdicts entry.1 ?_ (fun point hpoint => ?_) entry.2 ?_
      · rw [← List.mem_reverse, ← hunderway.records]
        exact List.mem_map_of_mem hentry
      · rw [hnone] at hpoint
        cases hpoint
      · rw [hunderway.health]
        exact List.mem_append_left _ hentry
  · intro e a wanted reply link deadline rest checked s hstands hs hhas hlimit hdeadline
    exact blocked_of_waiting h.table hstands hs hhas hlimit hdeadline
  · intro hnone moment hmem a id hmakes
    exact h.owned.not_has h.table hnone hmem hmakes
  · exact (Nat.le_add_right _ _).trans hsteps
  · intro point input hstands hroot hquiet
    exact hunderway.awaits hchooses h.reached hstands ⟨trivial, hroot⟩ hquiet

end Passes

/-- What is promised of passes holds of every one that nobody disturbs, as long as its workspace
    leads to no other place. -/
theorem looksAfter {begun : ProxyCourse} {events : List ProxyEvent} (hreached : begun.IsReached)
    (hroot : ∃ (tree : Tree) (path : Path), tree.canonical path = .ok begun.shared.workspace)
    (hstands : begun.task? i = some (.check .starting)) (halone : begun.IsAlone i)
    (hcache : ∀ event ∈ events, ProxyEvent.LeavesCache i event)
    (hkeeps : ∀ event ∈ events, ProxyEvent.KeepsRoot i begun.shared.workspace event) :
    ∃ cachedOf, LooksAfter begun i cachedOf
      (proxyRules.history (proxyRules.next begun (.step i input)) events)
      (proxyRules.after (proxyRules.next begun (.step i input)) events) := by
  obtain ⟨tree, path, hcanonical⟩ := hroot
  obtain ⟨cachedOf, hchooses⟩ := hreached.chooses (Tree.isRoot_canonical hcanonical)
  obtain ⟨before, hbegins⟩ := Passes.begins hreached hstands halone hchooses input
  have hpasses := proxyRules.history_induction
    (motive := fun past course => (∀ event ∈ past.map (·.2),
        ProxyEvent.LeavesAlone i begun.shared.workspace event) →
      Passes before begun.shared begun.shared.concerned cachedOf i past course)
    (fun _ => hbegins) (fun past course event ih halone => ?_) events
  · refine ⟨cachedOf, (hpasses ?_).promised hreached hchooses⟩
    rw [proxyRules.map_history]
    exact fun event hevent => ⟨hcache event hevent, hkeeps event hevent⟩
  · rw [List.map_append, List.forall_mem_append] at halone
    exact (ih halone.1).next hchooses (halone.2 event List.mem_cons_self)

/-! ### A workspace that becomes a link -/

/-- A step without the files. -/
def blindly : ProxyInput := ⟨0, none⟩

/-- A session that has no restarts has failed to start, and a pass begins. -/
def failedSession : ProxyCourse :=
  proxyRules.after (ProxyCourse.start "/w" [(default, default)] {
      session := { maxRestarts := 0, restartCooldown := 0 }
      cache := { reconnectAttempts := 2, reconnectDelay := 0 } })
    [.begin (.onCache (.ensure default "/w")), .step 0 blindly,
      .step 0 ⟨0, some ⟨[(["w"], .directory)]⟩⟩, .step 0 blindly, .step 0 blindly,
      .occur ⟨0, .launched (.error (.spawnFailed "" ""))⟩, .step 0 blindly, .step 0 blindly,
      .step 0 blindly, .begin .check]

/-- The pass goes on, and finds some files. -/
def passingOver (tree : Tree) : List ProxyEvent :=
  [.step 1 blindly, .step 1 blindly, .step 1 ⟨0, some tree⟩, .step 1 blindly, .step 1 blindly,
    .step 1 blindly]

theorem isReached_failedSession : failedSession.IsReached := ⟨_, _, _, _, rfl⟩

theorem workspace_failedSession : failedSession.shared.workspace = "/w" := by decide +kernel

theorem canonical_failedSession :
    (⟨[(["w"], .directory)]⟩ : Tree).canonical "/w" = .ok failedSession.shared.workspace := by
  rw [workspace_failedSession]
  decide +kernel

theorem starting_failedSession : failedSession.task? 1 = some (.check .starting) := rfl

theorem isAlone_failedSession : failedSession.IsAlone 1 := by
  have hlength : failedSession.tasks.length = 2 := by decide +kernel
  have hended : (failedSession.task? 0).isNone = true := by decide +kernel
  intro j task hj hfound
  have hlt := Crowd.lt_of_task? hfound
  obtain rfl : j = 0 := by omega
  rw [hfound] at hended
  cases hended

theorem leavesCache_passingOver (tree : Tree) :
    ∀ event ∈ passingOver tree, ProxyEvent.LeavesCache 1 event := by
  simp [passingOver, ProxyEvent.LeavesCache]

/-- The session stays as it is, and its server is found not to be well. -/
theorem looksAfter_failedSession :
    failedSession.IsReached ∧
      (∃ (tree : Tree) (path : Path), tree.canonical path = .ok failedSession.shared.workspace) ∧
      failedSession.task? 1 = some (.check .starting) ∧ failedSession.IsAlone 1 ∧
      (∀ event ∈ passingOver ⟨[(["w"], .directory)]⟩, ProxyEvent.LeavesCache 1 event) ∧
      (∀ event ∈ passingOver ⟨[(["w"], .directory)]⟩,
        ProxyEvent.KeepsRoot 1 failedSession.shared.workspace event) ∧
      (∃ cachedOf, LooksAfter failedSession 1 cachedOf
        (proxyRules.history (proxyRules.next failedSession (.step 1 blindly))
          (passingOver ⟨[(["w"], .directory)]⟩))
        (proxyRules.after (proxyRules.next failedSession (.step 1 blindly))
          (passingOver ⟨[(["w"], .directory)]⟩))) ∧
      (proxyRules.after (proxyRules.next failedSession (.step 1 blindly))
        (passingOver ⟨[(["w"], .directory)]⟩)).shared.health.map (·.2.ok) = [false] := by
  have hkeeps : ∀ event ∈ passingOver ⟨[(["w"], .directory)]⟩,
      ProxyEvent.KeepsRoot 1 failedSession.shared.workspace event := by
    simp only [passingOver, blindly, List.forall_mem_cons, ProxyEvent.KeepsRoot]
    refine ⟨nofun, nofun, ?_, nofun, nofun, nofun, nofun⟩
    rintro - tree root ⟨⟩ hroot
    rw [workspace_failedSession, canonical_failedSession] at hroot
    exact (Except.ok.inj hroot).symm
  exact ⟨isReached_failedSession, ⟨_, _, canonical_failedSession⟩, starting_failedSession,
    isAlone_failedSession, leavesCache_passingOver _, hkeeps,
    looksAfter isReached_failedSession ⟨_, _, canonical_failedSession⟩ starting_failedSession
      isAlone_failedSession (leavesCache_passingOver _) hkeeps, by decide +kernel⟩

/-- When the workspace has become a link, the pass makes a session for the place that it leads to. -/
theorem not_forall_looksAfter :
    ¬∀ (begun : ProxyCourse) (i : Nat) (input : ProxyInput) (events : List ProxyEvent),
      begun.IsReached →
      (∃ (tree : Tree) (path : Path), tree.canonical path = .ok begun.shared.workspace) →
      begun.task? i = some (.check .starting) → begun.IsAlone i →
      (∀ event ∈ events, ProxyEvent.LeavesCache i event) →
      ∃ cachedOf, LooksAfter begun i cachedOf
        (proxyRules.history (proxyRules.next begun (.step i input)) events)
        (proxyRules.after (proxyRules.next begun (.step i input)) events) := by
  intro hall
  obtain ⟨cachedOf, hpromise⟩ := hall failedSession 1 blindly
    (passingOver ⟨[(["w"], .link "/v"), (["v"], .directory)]⟩) isReached_failedSession
    ⟨_, _, canonical_failedSession⟩ starting_failedSession isAlone_failedSession
    (leavesCache_passingOver _)
  have hbefore : failedSession.shared.cache.adapters.length = 1 := by decide +kernel
  have hafter : (proxyRules.after (proxyRules.next failedSession (.step 1 blindly))
      (passingOver ⟨[(["w"], .link "/v"), (["v"], .directory)]⟩)).shared.cache.adapters.length =
        2 := by decide +kernel
  have hmade := hpromise.keeps.made
  omega

end ProxyCourse
end SymbolSearch
