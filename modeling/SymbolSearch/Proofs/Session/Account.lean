import SymbolSearch.Proofs.Session.Course

/-!
# The account of launches

What the steps of operations and the end of connections do to the restarts that a session counts and
to the time of its last crash.

* `SessionTask.starts` — whether an operation is starting a server.
* `SessionTask.Accounted` and `SessionTask.accounted_step` — a step asks for a launch, or is a reset,
  or has no more than an `Session.Effect` on the account.
* `Accounts` — what the account says about the number of launches and the last crash.
-/

namespace SymbolSearch

open Session

/-! ### Launches and resets -/

/-- Whether the operation is starting a server: it has asked for a launch, or is in the middle of
    the handshake. -/
def EnsurePoint.starts : EnsurePoint → Bool
  | .launching _ | .linked _ _ | .greeting _ _ _ | .confirming _ _ _ _ => true
  | _ => false

/-- Whether an operation is starting a server. -/
def SessionTask.starts : SessionTask → Bool
  | .ensure point => point.starts
  | _ => false

/-- Whether a step asks for a launch. -/
def SessionTask.asksForLaunch : SessionTask → Progress SessionTask SessionReply → Bool
  | .ensure (.queued _), .moved (.ensure (.launching _)) => true
  | _, _ => false

/-- Whether a step is a reset that succeeds. -/
def SessionTask.hasReset : Progress SessionTask SessionReply → Bool
  | .finished (.wasReset true) => true
  | _ => false

theorem SessionTask.eq_of_asksForLaunch {task : SessionTask}
    {progress : Progress SessionTask SessionReply} (h : task.asksForLaunch progress = true) :
    ∃ ticket ticket', task = .ensure (.queued ticket) ∧
      progress = .moved (.ensure (.launching ticket')) := by
  unfold asksForLaunch at h
  split at h
  next ticket ticket' => exact ⟨ticket, ticket', rfl, rfl⟩
  next => cases h

theorem SessionTask.entered_of_starts {task : SessionTask} (h : task.starts = true) :
    ∃ ticket, task.Entered ticket := by
  cases task with
  | ensure point =>
    cases point with
    | launching held | linked held | greeting held | confirming held => exact ⟨held, rfl⟩
    | asking | queued | cooling => cases h
  | ask | notify | stop | reset | checkAlive => cases h

/-! ### What else happens to the account -/

/-- What decides about launches. -/
structure Account where
  settings : SessionSettings
  state : SessionState
  restarts : Nat
  crashedAt : Option Instant

namespace Session

/-- What a session knows about its launches. -/
def account (s : Session) : Account := ⟨s.settings, s.state, s.restarts, s.crashedAt⟩

/-- What everything else than a launch or a reset does to the account. Whoever makes the step may be
    starting a server. -/
inductive Effect (now : Instant) (starting : Prop) (s s' : Session) : Prop where
  | shifts (account : s'.account = { s.account with state := s'.state })
      (crashed : s'.state = .crashed → s.state = .crashed)
      (idle : s'.state = .idle → s.state = .idle)
      (up : s'.state.isUp = true → s.state.isUp = true ∨ starting)
  | crashes (account : s'.account = { s.account with state := .crashed, crashedAt := some now })
      (up : s.state.isUp = true ∨ starting)

/-- What a launch does to it. -/
inductive Launches (now : Instant) (s s' : Session) : Prop where
  | first (idle : s.state = .idle) (account : s'.account = { s.account with state := .spawning })
  | again (crashed : s.state = .crashed) (budget : s.restarts < s.settings.maxRestarts)
      (cooled : ∀ time, s.crashedAt = some time → time + s.settings.restartCooldown ≤ now)
      (account : s'.account =
        { s.account with state := .spawning, restarts := s.restarts + 1 })

variable {s m s' : Session} {now : Instant} {starting : Prop}

theorem Quiet.account (h : Quiet s s') : s'.account = s.account :=
  (congrArg Session.account h.core :)

theorem account_dropConnection (s : Session) : s.dropConnection.account = s.account := by
  unfold dropConnection
  split <;> rfl

theorem account_markCrashed (s : Session) (now : Instant) :
    (s.markCrashed now).account = { s.account with state := .crashed, crashedAt := some now } :=
  (congrArg Session.account (core_markCrashed s now) :)

/-- A session that stays in its state, or stays up. -/
theorem Effect.of_state (account : s'.account = { s.account with state := s'.state })
    (state : s'.state = s.state ∨ s'.state.isUp = true ∧ s.state.isUp = true) :
    Effect now starting s s' := by
  rcases state with hstate | ⟨hup', hup⟩
  · exact .shifts account (fun h => hstate ▸ h) (fun h => hstate ▸ h) fun h => .inl (hstate ▸ h)
  · refine .shifts account (fun h => ?_) (fun h => ?_) fun _ => .inl hup
    · rw [h] at hup'
      cases hup'
    · rw [h] at hup'
      cases hup'

theorem Effect.of_account (account : s'.account = s.account) : Effect now starting s s' := by
  have hstate : s'.state = s.state := (congrArg Account.state account :)
  refine .of_state ?_ (.inl hstate)
  rw [account, hstate]
  rfl

/-- A session that goes to a state in which there is no server. -/
theorem Effect.of_down (account : s'.account = { s.account with state := s'.state })
    (down : s'.state = .closing ∨ s'.state = .closed) : Effect now starting s s' := by
  rcases down with h | h
  all_goals
    rw [h] at account
    exact .shifts (h ▸ account) (by simp [h]) (by simp [h]) (by simp [h, SessionState.isUp])

/-- A session that goes on to be up while a server is being started. -/
theorem Effect.of_starting (account : s'.account = { s.account with state := s'.state })
    (up : s'.state.isUp = true) (hstarting : starting) : Effect now starting s s' := by
  refine .shifts account (fun h => ?_) (fun h => ?_) fun _ => .inr hstarting
  · rw [h] at up
    cases up
  · rw [h] at up
    cases up

theorem Shifts.effect (h : Shifts now s s') : Effect now starting s s' := by
  cases h with
  | stays core => exact .of_account (congrArg Session.account core :)
  | fails core =>
    have haccount : s'.account = s.recordFailure.account := (congrArg Session.account core :)
    have hstate : s'.state = s.recordFailure.state := (congrArg Session.state core :)
    refine .of_state (by rw [haccount, hstate]; rfl) ?_
    rw [hstate]
    by_cases hlimit : s.settings.degradedAfter ≤ s.failures + 1 ∧ s.state = .ready
    · exact .inr ⟨by simp [recordFailure, hlimit, SessionState.isUp], by rw [hlimit.2]; rfl⟩
    · exact .inl (by simpa [recordFailure] using fun h h' => absurd ⟨h, h'⟩ hlimit)
  | succeeds core =>
    have haccount : s'.account = s.recordSuccess.account := (congrArg Session.account core :)
    have hstate : s'.state = s.recordSuccess.state := (congrArg Session.state core :)
    refine .of_state (by rw [haccount, hstate]; rfl) ?_
    rw [hstate]
    by_cases hdegraded : s.state = .degraded
    · exact .inr ⟨by simp [recordSuccess, hdegraded, SessionState.isUp], by rw [hdegraded]; rfl⟩
    · exact .inl (by simp [recordSuccess, hdegraded])
  | lost up core => exact .crashes (congrArg Session.account core :) (.inl up)

end Session

/-! ### The steps of operations -/

variable {s : Session} {now : Instant}

theorem EnsurePoint.starts_of_greets {point : EnsurePoint} {ticket : Ticket}
    (h : point.Greets ticket) : point.starts = true := by
  cases point <;> first | rfl | exact h.elim

/-- What a step is for the account. -/
inductive SessionTask.Accounted (now : Instant) (s : Session) (task : SessionTask) :
    Stepped Session SessionTask SessionReply → Prop where
  | launches (s' : Session) (progress : Progress SessionTask SessionReply)
      (asks : task.asksForLaunch progress = true) (not_reset : hasReset progress = false)
      (launches : Launches now s s') : Accounted now s task (s', progress)
  | resets (s' : Session) (progress : Progress SessionTask SessionReply) (ticket : Ticket)
      (asks : task.asksForLaunch progress = false) (reset : hasReset progress = true)
      (ticket_eq : task.ticket? = some ticket) (holds : s.turns.holder = some ticket)
      (account : s'.account = ⟨s.settings, .idle, 0, none⟩) :
      Accounted now s task (s', progress)
  | effects (s' : Session) (progress : Progress SessionTask SessionReply)
      (asks : task.asksForLaunch progress = false) (not_reset : hasReset progress = false)
      (effect : Effect now (task.starts = true) s s')
      (starts : ∀ task', progress = .moved task' → task'.starts = task.starts) :
      Accounted now s task (s', progress)

namespace SessionTask

theorem accounted_ensure {point : EnsurePoint} {stepped : EnsurePoint.Ensured}
    (hmoves : EnsureMoves now s point stepped) (hblocked : stepped.2 ≠ .blocked) :
    Accounted now s (.ensure point) (stepped.map .ensure .ensured) := by
  cases hmoves with
  | blocks => exact absurd rfl hblocked
  | joins => exact .effects _ _ rfl rfl (.of_account rfl) (by rintro _ ⟨⟩; rfl)
  | wakes resume => exact .effects _ _ rfl rfl (.of_account rfl) (by rintro _ ⟨⟩; rfl)
  | answers ticket result holds => exact .effects _ _ rfl rfl (.of_account rfl) (by rintro _ ⟨⟩)
  | cools ticket resume holds =>
    exact .effects _ _ rfl rfl (.of_account rfl) (by rintro _ ⟨⟩; rfl)
  | launches ticket holds idle =>
    refine .launches _ _ rfl rfl (.first idle ?_)
    show { s.dropConnection.account with state := .spawning } = _
    rw [account_dropConnection]
  | relaunches ticket holds crashed budget cooled =>
    refine .launches _ _ rfl rfl (.again crashed budget cooled ?_)
    show { ({ s with restarts := s.restarts + 1 } : Session).dropConnection.account with
      state := .spawning } = _
    rw [account_dropConnection]
    rfl
  | fails ticket error =>
    exact .effects _ _ rfl rfl (.crashes (account_markCrashed s now) (.inr rfl)) (by rintro _ ⟨⟩)
  | links ticket process =>
    exact .effects _ _ rfl rfl (.of_starting rfl rfl rfl) (by rintro _ ⟨⟩; rfl)
  | greets _ point' ticket m before quiet after =>
    have hstarts := EnsurePoint.starts_of_greets before
    refine .effects _ _ ?_ rfl (.of_account quiet.account) ?_
    · cases point <;> first | rfl | exact before.elim
    · rintro _ ⟨⟩
      exact (EnsurePoint.starts_of_greets after).trans hstarts.symm
  | crashes _ ticket m error before quiet =>
    refine .effects _ _ ?_ rfl (.crashes ?_ (.inr (EnsurePoint.starts_of_greets before)))
      (by rintro _ ⟨⟩)
    · cases point <;> rfl
    · show (m.markCrashed now).dropConnection.account = _
      rw [account_dropConnection, account_markCrashed, quiet.account]
  | succeeds _ ticket m capabilities before quiet sent =>
    refine .effects _ _ ?_ rfl (.of_starting ?_ rfl (EnsurePoint.starts_of_greets before))
      (by rintro _ ⟨⟩)
    · cases point <;> rfl
    · show { m.account with state := .ready } = _
      rw [quiet.account]
      rfl

theorem effect_stop {point : StopPoint} {stepped : StopPoint.Stopped} {starting : Prop}
    (hmoves : StopMoves s point stepped) (hblocked : stepped.2 ≠ .blocked) :
    Effect now starting s stepped.1 := by
  cases hmoves with
  | blocks => exact absurd rfl hblocked
  | joins => exact .of_account rfl
  | leaves ticket holds closed => exact .of_account rfl
  | parts ticket asked holds closed => exact .of_down rfl (.inl rfl)
  | goesOn _ point' ticket m before quiet => exact .of_account quiet.account
  | takes _ point' ticket m link before quiet => exact .of_account quiet.account
  | finishes _ ticket m before quiet =>
    refine .of_down ?_ (.inr rfl)
    show { m.account with state := .closed } = _
    rw [quiet.account]
    rfl
  | drains _ ticket link => exact .of_down rfl (.inr rfl)

theorem accounted_reset {point : GuardPoint} {stepped : Stepped Session GuardPoint Bool}
    (hmoves : GuardMoves resetNow s point stepped) (hblocked : stepped.2 ≠ .blocked) :
    Accounted now s (.reset point) (stepped.map .reset .wasReset) := by
  cases hmoves with
  | blocks => exact absurd rfl hblocked
  | joins => exact .effects _ _ rfl rfl (.of_account rfl) (by rintro _ ⟨⟩; rfl)
  | acts ticket holds =>
    have hsettings : s.dropConnection.releaseWriter.settings = s.settings :=
      (settings_of_core (quiet_releaseWriter _).core).trans
        (congrArg Account.settings (account_dropConnection s))
    have hreset (s' : Session) (hs' : s'.account = ⟨s.settings, .idle, 0, none⟩) :
        Accounted now s (.reset (.queued ticket)) (s', .finished (.wasReset true)) :=
      .resets s' _ ticket rfl rfl rfl holds hs'
    show Accounted now s _ ({ s.resetNow.1 with turns := _ }, .finished (.wasReset s.resetNow.2))
    unfold resetNow
    split
    · exact hreset _ (by rw [← hsettings]; rfl)
    · exact hreset _ (by rw [← hsettings]; rfl)
    · exact .effects _ _ rfl rfl (.of_account rfl) (by rintro _ ⟨⟩)

theorem account_stepAlive (point : GuardPoint) (s : Session) :
    (s.stepAlive point).1.account = s.account := by
  obtain ⟨turns, hturns⟩ := s.exists_stepAlive point
  rw [hturns]
  rfl

/-- A step of an operation that neither launches nor resets. -/
theorem accounted_map {task : SessionTask} {π ρ : Type} {make : π → SessionTask}
    {reply : ρ → SessionReply} {stepped : Stepped Session π ρ}
    (hasks : ∀ progress, task.asksForLaunch progress = false)
    (hreset : ∀ result, hasReset (.finished (reply result)) = false)
    (hstarts : ∀ point, (make point).starts = task.starts)
    (heffect : Effect now (task.starts = true) s stepped.1) :
    Accounted now s task (stepped.map make reply) := by
  refine .effects _ _ (hasks _) ?_ heffect ?_
  · obtain ⟨s', progress⟩ := stepped
    cases progress with
    | blocked | moved => rfl
    | finished result => exact hreset result
  · obtain ⟨s', progress⟩ := stepped
    cases progress with
    | blocked | finished => rintro _ ⟨⟩
    | moved point =>
      rintro _ ⟨⟩
      exact hstarts point

/-- A step of any operation, unless it has to wait. -/
theorem accounted_step (now : Instant) (task : SessionTask) (s : Session)
    (hblocked : (task.step now s).2 ≠ .blocked) : Accounted now s task (task.step now s) := by
  cases task with
  | ensure point =>
    exact accounted_ensure (point.step_moves now s) (Stepped.ne_blocked_of_map hblocked)
  | ask point =>
    exact accounted_map (fun _ => rfl) (fun _ => rfl) (fun _ => rfl) (point.shifts_step now s).effect
  | notify point =>
    exact accounted_map (fun _ => rfl) (fun _ => rfl) (fun _ => rfl)
      (.of_account (point.quiet_step s).account)
  | stop point =>
    exact accounted_map (fun _ => rfl) (fun _ => rfl) (fun _ => rfl)
      (effect_stop (point.step_moves now s) (Stepped.ne_blocked_of_map hblocked))
  | reset point =>
    exact accounted_reset (point.step_moves resetNow s) (Stepped.ne_blocked_of_map hblocked)
  | checkAlive point =>
    exact accounted_map (fun _ => rfl) (fun _ => rfl) (fun _ => rfl)
      (.of_account (account_stepAlive point s))

/-- Giving an operation up leaves the account alone. -/
theorem account_cancel (task : SessionTask) (s : Session) :
    (task.cancel s).account = s.account := by
  cases task with
  | ensure point =>
    cases point with
    | greeting ticket call => exact (call.quiet_cancel s).account
    | confirming ticket send => exact (send.quiet_cancel s).account
    | asking | cooling | queued | launching | linked => rfl
  | ask point =>
    cases point with
    | starting query => rfl
    | calling query call => exact (call.quiet_cancel s).account
  | notify point =>
    cases point with
    | starting notice => rfl
    | sending send => exact (send.quiet_cancel s).account
  | stop point =>
    cases point with
    | farewell ticket call => exact (call.quiet_cancel s).account
    | exiting ticket send => exact (send.quiet_cancel s).account
    | finishing ticket send => exact (send.quiet_cancel s).account
    | asking | queued | parting | reaping | killing | draining => rfl
  | reset point | checkAlive point => cases point <;> rfl

end SessionTask

/-! ### What the account says -/

/-- What a session says about the launches since the last reset, and the last crash since then. -/
structure Accounts (s : Session) (launches : Nat) (crash? : Option Instant) : Prop where
  budget : s.restarts ≤ s.settings.maxRestarts
  counted : launches ≠ 0 → s.restarts + 1 = launches
  unused : launches = 0 → s.restarts = 0 ∧ s.state ≠ .crashed ∧ s.state.isUp = false
  idle : s.state = .idle → launches = 0
  crashed : s.state = .crashed → s.crashedAt ≠ none ∧ s.crashedAt = crash?

namespace Accounts

variable {s' : Session} {launches : Nat} {crash? : Option Instant} {starting : Prop}

/-- Neither a launch nor a reset. -/
theorem effect (h : Accounts s launches crash?) (heffect : Effect now starting s s')
    (hstarting : starting → launches ≠ 0) :
    Accounts s' launches ((if s'.state = .crashed ∧ (s.state ≠ .crashed ∨
      s'.crashedAt ≠ s.crashedAt) then some now else none).or crash?) := by
  cases heffect with
  | shifts account crashed idle up =>
    have hsettings : s'.settings = s.settings := (congrArg Account.settings account :)
    have hrestarts : s'.restarts = s.restarts := (congrArg Account.restarts account :)
    have hcrashedAt : s'.crashedAt = s.crashedAt := (congrArg Account.crashedAt account :)
    have hunmarked : ¬(s'.state = .crashed ∧ (s.state ≠ .crashed ∨ s'.crashedAt ≠ s.crashedAt)) := by
      rintro ⟨hstate, hne | hne⟩
      · exact hne (crashed hstate)
      · exact hne hcrashedAt
    rw [if_neg hunmarked, Option.none_or]
    constructor
    · rw [hsettings, hrestarts]
      exact h.budget
    · rw [hrestarts]
      exact h.counted
    · intro hzero
      obtain ⟨hno, hstate, hdown⟩ := h.unused hzero
      refine ⟨hrestarts.trans hno, fun h' => hstate (crashed h'), ?_⟩
      -- A server is up only if it was up before, or one was being started.
      refine Bool.eq_false_iff.mpr fun hup => ?_
      rcases up hup with hbefore | hstarts
      · rw [hdown] at hbefore
        cases hbefore
      · exact hstarting hstarts hzero
    · exact fun h' => h.idle (idle h')
    · rw [hcrashedAt]
      exact fun h' => h.crashed (crashed h')
  | crashes account up =>
    have hsettings : s'.settings = s.settings := (congrArg Account.settings account :)
    have hstate : s'.state = .crashed := (congrArg Account.state account :)
    have hrestarts : s'.restarts = s.restarts := (congrArg Account.restarts account :)
    have hcrashedAt : s'.crashedAt = some now := (congrArg Account.crashedAt account :)
    have hlaunched : launches ≠ 0 := by
      intro hzero
      rcases up with hup | hstarts
      · rw [(h.unused hzero).2.2] at hup
        cases hup
      · exact hstarting hstarts hzero
    constructor
    · rw [hsettings, hrestarts]
      exact h.budget
    · rw [hrestarts]
      exact h.counted
    · exact fun hzero => absurd hzero hlaunched
    · intro hidle
      rw [hstate] at hidle
      cases hidle
    · intro _
      refine ⟨by simp [hcrashedAt], ?_⟩
      by_cases hmarked : s'.state = .crashed ∧ (s.state ≠ .crashed ∨ s'.crashedAt ≠ s.crashedAt)
      · rw [if_pos hmarked, hcrashedAt]
        rfl
      · -- It was marked at the same time before.
        rw [if_neg hmarked, Option.none_or]
        have hbefore : s.state = .crashed ∧ s'.crashedAt = s.crashedAt := by
          simpa [hstate] using hmarked
        rw [hbefore.2]
        exact (h.crashed hbefore.1).2

theorem launch (h : Accounts s launches crash?) (hlaunches : Launches now s s') :
    Accounts s' (launches + 1) crash? := by
  cases hlaunches with
  | first idle account =>
    have hsettings : s'.settings = s.settings := (congrArg Account.settings account :)
    have hstate : s'.state = .spawning := (congrArg Account.state account :)
    have hrestarts : s'.restarts = s.restarts := (congrArg Account.restarts account :)
    have hzero := h.idle idle
    constructor
    · rw [hsettings, hrestarts]
      exact h.budget
    · intro _
      rw [hrestarts, (h.unused hzero).1, hzero]
    · exact fun hzero => absurd hzero (Nat.succ_ne_zero _)
    · intro hidle
      rw [hstate] at hidle
      cases hidle
    · intro hcrashed
      rw [hstate] at hcrashed
      cases hcrashed
  | again crashed budget cooled account =>
    have hsettings : s'.settings = s.settings := (congrArg Account.settings account :)
    have hstate : s'.state = .spawning := (congrArg Account.state account :)
    have hrestarts : s'.restarts = s.restarts + 1 := (congrArg Account.restarts account :)
    have hlaunched : launches ≠ 0 := fun hzero => (h.unused hzero).2.1 crashed
    constructor
    · rw [hsettings, hrestarts]
      exact budget
    · intro _
      rw [hrestarts, h.counted hlaunched]
    · exact fun hzero => absurd hzero (Nat.succ_ne_zero _)
    · intro hidle
      rw [hstate] at hidle
      cases hidle
    · intro hcrashed
      rw [hstate] at hcrashed
      cases hcrashed

theorem reset (settings : SessionSettings) (account : s.account = ⟨settings, .idle, 0, none⟩) :
    Accounts s 0 none := by
  have hstate : s.state = .idle := (congrArg Account.state account :)
  have hrestarts : s.restarts = 0 := (congrArg Account.restarts account :)
  constructor
  · rw [hrestarts]
    exact Nat.zero_le _
  · exact fun hne => absurd rfl hne
  · intro _
    rw [hrestarts, hstate]
    exact ⟨rfl, by decide, rfl⟩
  · exact fun _ => rfl
  · intro hcrashed
    rw [hstate] at hcrashed
    cases hcrashed

end Accounts

end SymbolSearch
