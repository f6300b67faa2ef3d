import SymbolSearch.Proofs.Session.Deadlines

/-!
# What operations wait for

An operation on a session makes a limited number of steps, if its session does not come into a worse
state meanwhile, and whenever it has to wait it waits for something else than another operation, as
long as it is its turn.

* `SessionTask.Awaits` — a time, a launch, room in an outbox, or the end of a process;
  `SessionTask.awaits_of_blocked` shows that there is nothing else.
* `EnsurePoint.stepsLeft`, `StopPoint.stepsLeft` and `QueryPoint.stepsLeft` — how many steps may be
  left, and `EnsurePoint.stepsLeft_step`, `StopPoint.stepsLeft_step` and `QueryPoint.stepsLeft_step`
  that every step makes them fewer.
-/

namespace SymbolSearch

variable {now : Instant} {s : Session}

/-! ### Reasons to wait -/

/-- The place of an operation in the line for the guard, if it has to have the guard to go on. -/
def SessionTask.queued? : SessionTask → Option Ticket
  | .ensure (.queued ticket) | .stop (.queued ticket) | .reset (.queued ticket)
  | .checkAlive (.queued ticket) => some ticket
  | _ => none

/-- What an operation waits for: a time, a launch, room in an outbox that is open, or the end of a
    process that is to be killed. -/
inductive SessionTask.Awaits (now : Instant) (s : Session) : SessionTask → Prop where
  | time (task : SessionTask) (t : Instant) (deadline : task.deadline? = some t) (early : now < t) :
      Awaits now s task
  | launch (ticket : Ticket) (pending : ∀ result, s.launch ≠ .finished result) :
      Awaits now s (.ensure (.launching ticket))
  | room (task : SessionTask) (send : SendPoint) (sends : task.send? = some send)
      (isOpen : (s.mailbox send.link).outbox.isOpen = true)
      (ungranted : send.ticket ∉ (s.mailbox send.link).outbox.granted) : Awaits now s task
  | exit (ticket : Ticket) (link : LinkId) (running : s.processOf link = .running) :
      Awaits now s (.stop (.killing ticket link))

namespace SessionTask

/-- Whoever has to wait with an item waits for room. -/
theorem awaits_room {task : SessionTask} {send : SendPoint} (hsend : task.send? = some send)
    (h : (send.step s).2 = .blocked) : task.Awaits now s := by
  obtain ⟨hopen, hungranted⟩ := SendPoint.waits_of_blocked h
  exact .room task send hsend hopen hungranted

/-- Whoever has to wait with a request waits for room, or for the deadline of the request. -/
theorem awaits_call {task : SessionTask} {call : CallPoint} (hcall : task.callAt? = some call)
    (hdeadline : ∀ reply link, call = .waiting reply link → now < reply.deadline →
      ∃ t, task.deadline? = some t ∧ now < t)
    (h : (call.step now s).2 = .blocked) : task.Awaits now s := by
  rcases CallPoint.blocked_cases h with ⟨reply, send, rfl, hblocked⟩ | ⟨reply, link, rfl, hearly⟩
  · exact awaits_room (task.send?_of_callAt hcall) hblocked
  · obtain ⟨t, ht, hlt⟩ := hdeadline reply link rfl hearly
    exact .time task t ht hlt

end SessionTask

theorem EnsurePoint.decide_ne_blocked (now : Instant) (ticket : Ticket) (s : Session) :
    (decide now ticket s).2 ≠ .blocked := by
  unfold decide
  split
  all_goals first | rintro ⟨⟩ | skip
  split
  · rintro ⟨⟩
  · dsimp only
    split <;> rintro ⟨⟩

theorem EnsurePoint.ne_blocked_afterCall {ticket : Ticket} {deadline : Instant}
    {stepped : Stepped Session CallPoint (Except SessionError Json)} (h : stepped.2 ≠ .blocked) :
    (afterCall now ticket deadline stepped).2 ≠ .blocked := by
  obtain ⟨m, progress⟩ := stepped
  cases progress with
  | blocked => exact absurd rfl h
  | moved call => rintro ⟨⟩
  | finished result =>
    cases result with
    | error error => cases error <;> rintro ⟨⟩
    | ok answer =>
      simp only [afterCall, confirm]
      split
      · rintro ⟨⟩
      · split
        · rintro ⟨⟩
        · split <;> rintro ⟨⟩

/-- A request that begins need not wait. -/
theorem CallPoint.starting_ne_blocked (now : Instant) (call : Call) (timeout : Duration)
    (s : Session) : ((starting call timeout).step now s).2 ≠ .blocked := by
  intro h
  rcases CallPoint.blocked_cases h with ⟨reply, send, hcall, -⟩ | ⟨reply, link, hcall, -⟩ <;>
    cases hcall

namespace EnsurePoint

/-- Whoever brings a session up waits for a time or a launch, if it is his turn. -/
theorem awaits_of_blocked {point : EnsurePoint} (h : (point.step now s).2 = .blocked)
    (hturn : ∀ ticket, point = .queued ticket → s.turns.holds ticket = true) :
    (SessionTask.ensure point).Awaits now s := by
  cases point with
  | asking => cases h
  | queued ticket =>
    rw [step, if_pos (hturn ticket rfl)] at h
    exact absurd h (decide_ne_blocked now ticket s)
  | cooling resume =>
    simp only [step] at h
    split at h
    · cases h
    next hearly => exact .time _ resume rfl (Nat.lt_of_not_le hearly)
  | launching ticket =>
    refine .launch ticket fun result hlaunch => ?_
    simp only [step, hlaunch] at h
    cases result <;> cases h
  | linked ticket deadline =>
    simp only [step, greet] at h
    split at h
    · cases h
    · exact absurd h (ne_blocked_afterCall (CallPoint.starting_ne_blocked now _ _ s))
  | greeting ticket call deadline =>
    obtain ⟨hcall, hearly⟩ := blocked_greeting h
    have hcallAt : (SessionTask.ensure (.greeting ticket call deadline)).callAt? = some call := rfl
    refine SessionTask.awaits_call hcallAt (fun reply link hwaiting hlt => ?_) hcall
    rw [hwaiting]
    exact ⟨min deadline reply.deadline, rfl, Nat.lt_min.mpr ⟨hearly, hlt⟩⟩
  | confirming ticket send deadline capabilities =>
    exact SessionTask.awaits_room rfl (blocked_confirming h)

end EnsurePoint

namespace StopPoint

/-- Whoever closes a session waits for a time, for room or for the end of its process, if it is his
    turn. -/
theorem awaits_of_blocked {point : StopPoint} (h : (point.step now s).2 = .blocked)
    (hturn : ∀ ticket, point = .queued ticket → s.turns.holds ticket = true) :
    (SessionTask.stop point).Awaits now s := by
  have hlater (t : Instant) (hdeadline : point.deadline? = some t) (hlt : ¬t ≤ now) :
      (SessionTask.stop point).Awaits now s := .time _ t hdeadline (Nat.lt_of_not_le hlt)
  cases point with
  | asking => cases h
  | queued ticket =>
    rw [step, if_pos (hturn ticket rfl), decide] at h
    split at h <;> cases h
  | parting ticket asked =>
    simp only [step, part] at h
    split at h
    · exact absurd (blocked_of_afterFarewell h) (CallPoint.starting_ne_blocked now _ _ s)
    · exact absurd h (finishOutbox_ne_blocked now ticket s)
  | farewell ticket call =>
    have hcallAt : (SessionTask.stop (.farewell ticket call)).callAt? = some call := rfl
    refine SessionTask.awaits_call hcallAt (fun reply link hwaiting hlt => ?_)
      (blocked_of_afterFarewell h)
    rw [hwaiting]
    exact ⟨reply.deadline, rfl, hlt⟩
  | exiting ticket send => exact SessionTask.awaits_room rfl (blocked_of_send rfl rfl h)
  | finishing ticket send => exact SessionTask.awaits_room rfl (blocked_of_send rfl rfl h)
  | reaping ticket link deadline =>
    simp only [step] at h
    split at h
    · split at h
      · cases h
      next hearly => exact hlater deadline rfl hearly
    · cases h
  | killing ticket link =>
    simp only [step] at h
    split at h
    next hrunning => exact .exit ticket link hrunning
    next => cases h
  | draining ticket link deadline =>
    simp only [step] at h
    split at h
    · cases h
    next hwaits =>
      refine hlater deadline rfl fun hover => hwaits ?_
      rw [Bool.or_eq_true, decide_eq_true_iff]
      exact .inr hover

end StopPoint

/-- Whoever looks whether a session is alive need not wait when it is his turn. -/
theorem Session.stepAlive_ne_blocked {point : GuardPoint}
    (hturn : ∀ ticket, point = .queued ticket → s.turns.holds ticket = true) :
    (s.stepAlive point).2 ≠ .blocked := by
  cases point with
  | asking =>
    simp only [stepAlive]
    split <;> rintro ⟨⟩
  | queued ticket =>
    simp only [stepAlive, GuardPoint.step, if_pos (hturn ticket rfl)]
    rintro ⟨⟩

/-- A question waits for room or for its deadline. -/
theorem QueryPoint.awaits_of_blocked {point : QueryPoint} (h : (point.step now s).2 = .blocked) :
    (SessionTask.ask point).Awaits now s := by
  cases point with
  | starting query =>
    exfalso
    simp only [step] at h
    split at h
    · have hstarts := CallPoint.starting_ne_blocked now (.query query) s.settings.requestTimeout s
      generalize CallPoint.step now _ s = stepped at h hstarts
      obtain ⟨m, progress⟩ := stepped
      cases progress with
      | blocked => exact hstarts rfl
      | moved call => cases h
      | finished result =>
        simp only [afterCall, finish] at h
        split at h <;> cases h
    · cases h
  | calling query call =>
    have hcallAt : (SessionTask.ask (.calling query call)).callAt? = some call := rfl
    have hblocked : ((SessionTask.ask (.calling query call)).step now s).2 = .blocked :=
      congrArg (Progress.map _ _) h
    refine SessionTask.awaits_call hcallAt (fun reply link hwaiting hlt => ?_)
      (SessionTask.blocked_call hblocked hcallAt)
    rw [hwaiting]
    exact ⟨reply.deadline, rfl, hlt⟩

namespace SessionTask

/-- An operation waits for nothing else, if it is its turn. -/
theorem awaits_of_blocked {task : SessionTask} (h : (task.step now s).2 = .blocked)
    (hturn : ∀ ticket, task.queued? = some ticket → s.turns.holds ticket = true) :
    task.Awaits now s := by
  cases task with
  | ensure point =>
    refine EnsurePoint.awaits_of_blocked (Progress.eq_blocked_of_map h) ?_
    rintro ticket rfl
    exact hturn ticket rfl
  | ask point => exact QueryPoint.awaits_of_blocked (Progress.eq_blocked_of_map h)
  | notify point =>
    cases point with
    | starting notice =>
      have hpoint : ((NoticePoint.starting notice).step s).2 = .blocked :=
        Progress.eq_blocked_of_map h
      simp only [NoticePoint.step] at hpoint
      split at hpoint
      · split at hpoint
        · cases hpoint
        · split at hpoint
          · cases hpoint
          · cases hpoint
          next hbegin => exact absurd (congrArg Prod.snd hbegin) (SendPoint.begin_ne_blocked _ _ _)
      · cases hpoint
    | sending send => exact awaits_room rfl (blocked_send h rfl)
  | stop point =>
    refine StopPoint.awaits_of_blocked (Progress.eq_blocked_of_map h) ?_
    rintro ticket rfl
    exact hturn ticket rfl
  | reset point =>
    have hpoint : (s.stepReset point).2 = .blocked := Progress.eq_blocked_of_map h
    cases point with
    | asking => cases hpoint
    | queued ticket =>
      rw [Session.stepReset, GuardPoint.step, if_pos (hturn ticket rfl)] at hpoint
      cases hpoint
  | checkAlive point =>
    refine absurd (Progress.eq_blocked_of_map h) (Session.stepAlive_ne_blocked ?_)
    rintro ticket rfl
    exact hturn ticket rfl

end SessionTask

/-! ### Steps that are left -/

/-- Whoever waits for room waits where he is. -/
theorem SendPoint.step_ne_moved (send : SendPoint) (s : Session) (send' : SendPoint) :
    (send.step s).2 ≠ .moved send' := by
  unfold step
  split
  · rintro ⟨⟩
  · split <;> rintro ⟨⟩

namespace CallPoint

/-- How many steps a request may still go on. -/
def stepsLeft : CallPoint → Nat
  | .starting _ _ => 3
  | .sending _ _ => 2
  | .waiting _ _ => 1

theorem stepsLeft_pos (call : CallPoint) : 0 < call.stepsLeft := by
  cases call <;> simp [stepsLeft]

theorem stepsLeft_step {call call' : CallPoint} (h : (call.step now s).2 = .moved call') :
    call'.stepsLeft < call.stepsLeft := by
  cases call with
  | starting asked timeout =>
    simp only [step] at h
    split at h
    · cases h
    · split at h <;> cases h <;> simp [stepsLeft]
  | sending reply send =>
    simp only [step] at h
    split at h
    next => cases h; simp [stepsLeft]
    next => cases h
    next hmoved => exact absurd (congrArg Prod.snd hmoved) (send.step_ne_moved s _)
    next => cases h
  | waiting reply link =>
    simp only [step] at h
    split at h <;> cases h

end CallPoint

/-- How many steps a question may still go on. -/
def QueryPoint.stepsLeft : QueryPoint → Nat
  | .starting _ => 4
  | .calling _ call => call.stepsLeft

theorem QueryPoint.stepsLeft_pos (point : QueryPoint) : 0 < point.stepsLeft := by
  cases point with
  | starting => exact Nat.succ_pos 3
  | calling query call => exact call.stepsLeft_pos

theorem QueryPoint.stepsLeft_step {point point' : QueryPoint}
    (h : (point.step now s).2 = .moved point') : point'.stepsLeft < point.stepsLeft := by
  have hcall (query : Query) (call : CallPoint)
      (h : (afterCall query (call.step now s)).2 = .moved point') :
      point'.stepsLeft < call.stepsLeft := by
    cases hstep : call.step now s with
    | mk m progress =>
      rw [hstep] at h
      cases progress with
      | blocked => cases h
      | moved call' =>
        cases h
        exact CallPoint.stepsLeft_step (congrArg Prod.snd hstep)
      | finished result =>
        simp only [afterCall, finish] at h
        split at h <;> cases h
  cases point with
  | starting query =>
    simp only [step] at h
    split at h
    · exact Nat.lt_succ_of_lt (hcall query _ h)
    · cases h
  | calling query call => exact hcall query call h

namespace StopPoint

/-- How many steps closing a session may still go on. -/
def stepsLeft : StopPoint → Nat
  | .asking => 11
  | .queued _ => 10
  | .parting _ _ => 9
  | .farewell _ call => call.stepsLeft + 5
  | .exiting _ _ => 5
  | .finishing _ _ => 4
  | .reaping _ _ _ => 3
  | .killing _ _ => 2
  | .draining _ _ _ => 1

variable {point point' : StopPoint} {ticket : Ticket}

theorem stepsLeft_close (h : (close now ticket s).2 = .moved point') : point'.stepsLeft ≤ 3 := by
  simp only [close] at h
  split at h
  · cases h
  · split at h <;> cases h <;> simp [stepsLeft]

theorem stepsLeft_finishOutbox (h : (finishOutbox now ticket s).2 = .moved point') :
    point'.stepsLeft ≤ 4 := by
  simp only [finishOutbox] at h
  split at h
  · exact Nat.le_succ_of_le (stepsLeft_close h)
  · split at h
    · cases h
      simp [stepsLeft]
    · exact Nat.le_succ_of_le (stepsLeft_close h)

theorem stepsLeft_sendExit (h : (sendExit now ticket s).2 = .moved point') :
    point'.stepsLeft ≤ 5 := by
  simp only [sendExit] at h
  split at h
  · exact Nat.le_succ_of_le (stepsLeft_finishOutbox h)
  · split at h
    · cases h
      simp [stepsLeft]
    · exact Nat.le_succ_of_le (stepsLeft_finishOutbox h)

theorem stepsLeft_afterFarewell {call : CallPoint}
    (h : (afterFarewell now ticket (call.step now s)).2 = .moved point') :
    point'.stepsLeft < call.stepsLeft + 5 := by
  cases hstep : call.step now s with
  | mk m progress =>
    rw [hstep] at h
    cases progress with
    | blocked => cases h
    | moved call' =>
      cases h
      exact Nat.add_lt_add_right (CallPoint.stepsLeft_step (congrArg Prod.snd hstep)) 5
    | finished result =>
      have hle := stepsLeft_sendExit h
      have hpos := call.stepsLeft_pos
      omega

theorem stepsLeft_step (h : (point.step now s).2 = .moved point') :
    point'.stepsLeft < point.stepsLeft := by
  cases point with
  | asking =>
    cases h
    simp [stepsLeft]
  | queued ticket =>
    simp only [step, decide] at h
    split at h
    · split at h
      · cases h
      · cases h
        simp [stepsLeft]
    · cases h
  | parting ticket asked =>
    simp only [step, part] at h
    split at h
    · exact Nat.lt_succ_of_lt (stepsLeft_afterFarewell h)
    · exact Nat.lt_of_le_of_lt (stepsLeft_finishOutbox h) (by simp [stepsLeft])
  | farewell ticket call => exact stepsLeft_afterFarewell h
  | exiting ticket send =>
    simp only [step] at h
    split at h
    next hmoved => exact absurd (congrArg Prod.snd hmoved) (send.step_ne_moved s _)
    next => exact Nat.lt_succ_of_le (stepsLeft_finishOutbox h)
    next => cases h
  | finishing ticket send =>
    simp only [step] at h
    split at h
    next hmoved => exact absurd (congrArg Prod.snd hmoved) (send.step_ne_moved s _)
    next => exact Nat.lt_succ_of_le (stepsLeft_close h)
    next => cases h
  | reaping ticket link deadline =>
    simp only [step, drain] at h
    split at h
    · split at h <;> cases h
      simp [stepsLeft]
    · cases h
      simp [stepsLeft]
  | killing ticket link =>
    simp only [step, drain] at h
    split at h <;> cases h
    simp [stepsLeft]
  | draining ticket link deadline =>
    simp only [step, finish] at h
    split at h <;> cases h

end StopPoint

/-! ### Bringing a session up -/

namespace Session

/-- The time at which a session may be launched again after its crash. -/
def cooledAt (s : Session) : Instant :=
  (s.crashedAt.map (· + s.settings.restartCooldown)).getD 0

/-- Whether a session has crashed, and may be launched again. -/
def isCool (now : Instant) (s : Session) : Bool := s.state = .crashed && s.cooledAt ≤ now

/-- Whether a session has crashed, and may be launched again at a time. -/
def CoolsUntil (s : Session) (resume : Instant) : Prop :=
  s.state = .crashed ∧ s.cooledAt = resume

/-- Only those with the guard bring a session back that has crashed. -/
theorem Shifts.account_of_crashed {s' : Session} (h : s.Shifts now s') (hcrashed : s.state = .crashed) :
    s'.state = .crashed ∧ s'.cooledAt = s.cooledAt := by
  have hcore {m : Session} (hstate : m.state = .crashed) (hcooled : m.cooledAt = s.cooledAt)
      (heq : s'.core = m.core) : s'.state = .crashed ∧ s'.cooledAt = s.cooledAt := by
    refine ⟨((congrArg Session.state heq :)).trans hstate, ?_⟩
    rw [← hcooled]
    exact (congrArg Session.cooledAt heq :)
  cases h with
  | stays core => exact hcore hcrashed rfl core
  | fails core =>
    refine hcore (m := s.recordFailure) ?_ rfl core
    simp [recordFailure, hcrashed]
  | succeeds core =>
    refine hcore (m := s.recordSuccess) ?_ rfl core
    simp [recordSuccess, hcrashed]
  | lost up =>
    rw [hcrashed] at up
    cases up

theorem Shifts.coolsUntil {s' : Session} {resume : Instant} (h : s.Shifts now s')
    (hcools : s.CoolsUntil resume) : s'.CoolsUntil resume := by
  obtain ⟨hstate, hcooled⟩ := h.account_of_crashed hcools.1
  exact ⟨hstate, hcooled.trans hcools.2⟩

theorem Shifts.isCool {s' : Session} {later : Instant} (h : s.Shifts now s')
    (hcool : s.isCool later = true) : s'.isCool later = true := by
  simp only [Session.isCool, Bool.and_eq_true, decide_eq_true_iff] at hcool ⊢
  obtain ⟨hstate, hcooled⟩ := h.account_of_crashed hcool.1
  exact ⟨hstate, hcooled ▸ hcool.2⟩

theorem isCool_later {later : Instant} (hle : now ≤ later) (h : s.isCool now = true) :
    s.isCool later = true := by
  simp only [isCool, Bool.and_eq_true, decide_eq_true_iff] at h ⊢
  exact ⟨h.1, Nat.le_trans h.2 hle⟩

theorem CoolsUntil.isCool {resume : Instant} (h : s.CoolsUntil resume) (hle : resume ≤ now) :
    s.isCool now = true := by
  simp only [Session.isCool, Bool.and_eq_true, decide_eq_true_iff]
  exact ⟨h.1, h.2.trans_le hle⟩

end Session

namespace EnsurePoint

/-- How many steps bringing a session up may still go on. If the session has to cool down, one
    comes back to the line once. -/
def stepsLeft (now : Instant) (s : Session) : EnsurePoint → Nat
  | .asking => if s.isCool now then 8 else 11
  | .queued _ => if s.isCool now then 7 else 10
  | .cooling _ => 9
  | .launching _ => 6
  | .linked _ _ => 5
  | .greeting _ call _ => call.stepsLeft + 1
  | .confirming _ _ _ _ => 1

variable {point point' : EnsurePoint} {ticket : Ticket} {deadline : Instant}

theorem stepsLeft_le (now : Instant) (s : Session) (point : EnsurePoint) :
    point.stepsLeft now s ≤ 11 := by
  cases point with
  | asking | queued =>
    simp only [stepsLeft]
    split <;> decide
  | greeting _ call => cases call <;> simp only [stepsLeft, CallPoint.stepsLeft] <;> decide
  | cooling | launching | linked | confirming => simp only [stepsLeft]; decide

theorem stepsLeft_pos (now : Instant) (s : Session) (point : EnsurePoint) :
    0 < point.stepsLeft now s := by
  cases point with
  | asking | queued =>
    simp only [stepsLeft]
    split <;> decide
  | greeting _ call => exact Nat.succ_pos _
  | cooling | launching | linked | confirming => simp only [stepsLeft]; decide

/-- It matters only whether the session may be launched again. -/
theorem stepsLeft_mono {s' : Session} {later : Instant}
    (h : s.isCool now = true → s'.isCool later = true) :
    point.stepsLeft later s' ≤ point.stepsLeft now s := by
  cases point with
  | asking | queued =>
    simp only [stepsLeft]
    by_cases hcool : s.isCool now = true
    · rw [if_pos hcool, if_pos (h hcool)]
    · rw [if_neg hcool]
      split <;> decide
  | greeting | cooling | launching | linked | confirming => exact Nat.le_refl _

/-- A request that goes on takes the handshake with it, and only its end confirms the handshake. -/
theorem stepsLeft_afterCall {call : CallPoint} {m : Session}
    (h : (afterCall now ticket deadline (call.step now s)).2 = .moved point') :
    point'.stepsLeft now m < call.stepsLeft + 1 ∧ ∀ resume, point' ≠ .cooling resume := by
  cases hstep : call.step now s with
  | mk after progress =>
    rw [hstep] at h
    cases progress with
    | blocked => cases h
    | moved call' =>
      cases h
      refine ⟨Nat.succ_lt_succ (CallPoint.stepsLeft_step (congrArg Prod.snd hstep)), ?_⟩
      rintro resume ⟨⟩
    | finished result =>
      cases result with
      | error error => cases error <;> cases h
      | ok answer =>
        simp only [afterCall, confirm] at h
        split at h
        · cases h
        · split at h
          · cases h
          · split at h
            · cases h
            · cases h
              refine ⟨Nat.succ_lt_succ call.stepsLeft_pos, ?_⟩
              rintro resume ⟨⟩
            · cases h

theorem stepsLeft_decide (h : (decide now ticket s).2 = .moved point') :
    point'.stepsLeft now (decide now ticket s).1 < (queued ticket).stepsLeft now s ∧
      ∀ resume, point' = .cooling resume → (decide now ticket s).1.CoolsUntil resume := by
  have hlaunching (m : Session) :
      (launching ticket).stepsLeft now m < (queued ticket).stepsLeft now s := by
    simp only [stepsLeft]
    split <;> decide
  simp only [decide] at h ⊢
  split at h
  case h_7 =>
    cases h
    exact ⟨hlaunching _, nofun⟩
  case h_8 hcrashed =>
    split at h
    · cases h
    next hbudget =>
      rw [if_neg hbudget]
      split at h
      next hearly =>
        rw [if_pos hearly]
        have hhot : s.isCool now = false := by
          rw [Session.isCool, Bool.and_eq_false_iff]
          exact .inr (decide_eq_false (Nat.not_le_of_lt hearly))
        cases h
        refine ⟨?_, ?_⟩
        · simp only [stepsLeft, hhot]
          decide
        · rintro resume ⟨⟩
          exact ⟨hcrashed, rfl⟩
      next hlate =>
        rw [if_neg hlate]
        cases h
        exact ⟨hlaunching _, nofun⟩
  all_goals cases h

/-- Every step makes the number of those that are left smaller. -/
theorem stepsLeft_step (hcools : ∀ resume, point = .cooling resume → s.CoolsUntil resume)
    (h : (point.step now s).2 = .moved point') :
    point'.stepsLeft now (point.step now s).1 < point.stepsLeft now s ∧
      ∀ resume, point' = .cooling resume → (point.step now s).1.CoolsUntil resume := by
  cases point with
  | asking =>
    cases h
    refine ⟨?_, ?_⟩
    · show (if s.isCool now then 7 else 10) < if s.isCool now then 8 else 11
      split <;> decide
    · rintro resume ⟨⟩
  | queued ticket =>
    simp only [step] at h ⊢
    split at h
    next hholds =>
      rw [if_pos hholds]
      exact stepsLeft_decide h
    next => cases h
  | cooling resume =>
    simp only [step] at h ⊢
    split at h
    next hover =>
      cases h
      rw [if_pos hover]
      refine ⟨?_, ?_⟩
      · simp only [stepsLeft, (hcools resume rfl).isCool hover]
        decide
      · rintro later ⟨⟩
    next => cases h
  | launching ticket =>
    simp only [step] at h ⊢
    split at h
    · cases h
      refine ⟨Nat.lt_succ_self 5, ?_⟩
      rintro resume ⟨⟩
    · cases h
    · cases h
  | linked ticket deadline =>
    simp only [step, greet] at h ⊢
    split at h
    · cases h
    · obtain ⟨hlt, hnot⟩ := stepsLeft_afterCall (m := _) h
      exact ⟨Nat.lt_succ_of_lt hlt, fun resume heq => absurd heq (hnot resume)⟩
  | greeting ticket call deadline =>
    have hgoes : (afterCall now ticket deadline (call.step now s)).2 = .moved point' := by
      simp only [step] at h
      split at h
      next hblocked =>
        split at h <;> cases h
      next => exact h
    obtain ⟨hlt, hnot⟩ := stepsLeft_afterCall (m := _) hgoes
    exact ⟨hlt, fun resume heq => absurd heq (hnot resume)⟩
  | confirming ticket send deadline capabilities =>
    simp only [step] at h
    split at h
    next hmoved => exact absurd (congrArg Prod.snd hmoved) (send.step_ne_moved s _)
    next => cases h
    next => cases h
    next => split at h <;> cases h

end EnsurePoint

end SymbolSearch
