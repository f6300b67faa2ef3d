import SymbolSearch.Proofs.Session.Holder

/-!
# Order is kept

Every event of a run keeps what `SessionRun.Orderly` says, so it holds after any events.

* `SessionRun.Orderly.ensure`, `SessionRun.Orderly.stop` and `SessionRun.Orderly.guard` — one step
  of an operation that takes the guard.
* `SessionRun.orderly_after` — any run.
* `StateChange` — the changes of the state of a session that are meant.
* `SessionRun.allows_next_iff` — an event of a run makes one of them or keeps the state, unless it
  is the last message of a handshake that goes out after the connection was lost
  (`SessionRun.ConfirmsLate`). Then the session is ready without a server.
-/

namespace SymbolSearch

namespace SessionRun

open Session

variable {run : SessionRun} {i : Nat} {task : SessionTask} {ticket : Ticket} {s' : Session}

/-- An operation that is not in line for the guard goes on. -/
theorem Orderly.drift_setTask (h : run.Orderly) (hi : run.Runs i task)
    (hticket : task.ticket? = none) (hdrift : run.session.Drift s')
    {standing : Standing SessionTask SessionReply}
    (hstanding : ∀ task', standing = .waiting task' → task'.ticket? = none) :
    (run.setTask i s' standing).Orderly := by
  refine h.drift hdrift fun j other held hheld => ?_
  rw [runs_setTask hi]
  constructor
  · rintro (⟨-, hwaiting⟩ | ⟨-, hj⟩)
    · rw [hstanding other hwaiting] at hheld
      cases hheld
    · exact hj
  · intro hj
    refine .inr ⟨?_, hj⟩
    rintro rfl
    rw [← eq_of_runs hi hj, hticket] at hheld
    cases hheld

/-- While an operation is at work, readers belong to the connection or to the link it has taken. -/
theorem Orderly.owner_of_readerAlive (h : run.Orderly) (hi : run.Runs i task)
    (hentered : task.Entered ticket) {k : LinkId} (hk : run.session.ReaderAlive k) :
    k + 1 = run.session.links.length ∧
      (run.session.connection = some k ∨ task.link? = some k) := by
  obtain ⟨hlast, hconnection | ⟨j, other, hj, hlink⟩⟩ := h.reader k hk
  · exact ⟨hlast, .inl hconnection⟩
  · obtain ⟨held, hother⟩ := SessionTask.entered_of_link hlink
    have hholder := h.holds i task ticket hi hentered
    obtain rfl := h.eq_of_holder hi hentered.ticket_eq hholder hj hother
    exact ⟨hlast, .inr (eq_of_runs hi hj ▸ hlink)⟩

/-- A step of bringing the session up. -/
theorem Orderly.ensure (h : run.Orderly) {point : EnsurePoint} (hi : run.Runs i (.ensure point))
    {stepped : EnsurePoint.Ensured} (hmoves : EnsureMoves run.now run.session point stepped) :
    (run.goOn i (stepped.map .ensure .ensured)).Orderly := by
  cases hmoves with
  | blocks => exact h
  | joins => exact h.join hi rfl rfl fun _ => id
  | wakes resume => exact h.drift_setTask hi rfl (Quiet.refl _).drift (by rintro _ ⟨⟩; rfl)
  | answers ticket result holds =>
    have hfree := h.free hi rfl holds fun _ => id
    exact h.leave hi rfl holds rfl (by rintro _ ⟨⟩) { hfree with }
  | cools ticket resume holds =>
    have hfree := h.free hi rfl holds fun _ => id
    exact h.leave hi rfl holds rfl (by rintro _ ⟨⟩; rfl) { hfree with }
  | launches ticket holds idle =>
    have hfree := h.free hi rfl holds fun _ => id
    exact h.keep hi rfl holds (turns_dropConnection _) rfl
      (.launching rfl (connection_dropConnection _)) fun k hk =>
        absurd hk (hfree.not_readerAlive k)
  | relaunches ticket holds crashed budget =>
    have hfree := h.free hi rfl holds fun _ => id
    let again : Session := { run.session with restarts := run.session.restarts + 1 }
    have hagain : again.Free := { hfree with }
    exact h.keep hi rfl holds (turns_dropConnection again) rfl
      (.launching rfl (connection_dropConnection again)) fun k hk =>
        absurd hk (hagain.not_readerAlive k)
  | fails ticket error =>
    have hentered : (SessionTask.ensure (.launching ticket)).Entered ticket := rfl
    cases h.busy i _ ticket hi hentered with
    | greeting _ greets => exact greets.elim
    | launching state connection =>
      have hkeeps := Keeps.markCrashed run.session run.now
      refine h.leave hi rfl (h.holds i _ ticket hi hentered) (by rw [← hkeeps.turns]; rfl)
        (by rintro _ ⟨⟩) ⟨(by decide : SessionState.crashed ≠ .spawning),
          (by decide : SessionState.crashed ≠ .handshaking), ?_⟩
      intro k hk
      exact absurd (hkeeps.readers k hk) (h.not_readerAlive state k)
  | links ticket process =>
    have hentered : (SessionTask.ensure (.launching ticket)).Entered ticket := rfl
    cases h.busy i _ ticket hi hentered with
    | greeting _ greets => exact greets.elim
    | launching state connection =>
      have hlength : (run.session.addLink process).links.length = run.session.links.length + 1 :=
        List.length_append
      refine h.keep hi rfl (h.holds i _ ticket hi hentered) rfl
        (SessionTask.entered_of_greets rfl) (.greeting _ rfl (.inl rfl)) ?_
      intro k hk
      -- The new link is the last one, and no reader of another is left.
      rcases readerAlive_addLink (s := run.session) hk with rfl | hk
      · exact ⟨hlength.symm, .inl rfl⟩
      · exact absurd hk (h.not_readerAlive state k)
  | greets _ point' ticket m before quiet after =>
    have hentered := SessionTask.entered_of_greets before
    have hbusy := h.busy i _ ticket hi hentered
    refine h.keep hi hentered.ticket_eq (h.holds i _ ticket hi hentered) quiet.turns
      (SessionTask.entered_of_greets after) (.greeting _ after ?_) ?_
    · -- A session that has crashed meanwhile stays so, for no writer comes back.
      cases hbusy with
      | launching => exact before.elim
      | greeting _ _ state =>
        rcases state with hhandshaking | ⟨hcrashed, hnone⟩
        · exact .inl (quiet.state.trans hhandshaking)
        · exact .inr ⟨quiet.state.trans hcrashed, quiet.writer_eq_none hnone⟩
    · intro k hk
      rw [quiet.length, quiet.connection]
      obtain ⟨hlast, hconnection | hlink⟩ :=
        h.owner_of_readerAlive hi hentered (quiet.readers k hk)
      · exact ⟨hlast, .inl hconnection⟩
      · cases hlink
  | crashes _ ticket m error before quiet =>
    have hentered := SessionTask.entered_of_greets before
    have hkeeps := Keeps.markCrashed m run.now
    have hstate : (m.markCrashed run.now).dropConnection.state = .crashed :=
      state_dropConnection _
    have hturns : (m.markCrashed run.now).dropConnection.turns = run.session.turns :=
      (turns_dropConnection _).trans (hkeeps.turns.trans quiet.turns)
    refine h.leave hi hentered.ticket_eq (h.holds i _ ticket hi hentered)
      (congrArg (·.leave ticket) hturns) (by rintro _ ⟨⟩)
      ⟨fun hspawning => absurd (hstate.symm.trans hspawning) (by decide),
        fun hhandshaking => absurd (hstate.symm.trans hhandshaking) (by decide), ?_⟩
    intro k hk
    -- The readers that were left belong to the connection, which is given up.
    obtain ⟨halive, hne⟩ := readerAlive_dropConnection (s := m.markCrashed run.now) hk
    obtain ⟨-, hconnection | hlink⟩ :=
      h.owner_of_readerAlive hi hentered (quiet.readers k (hkeeps.readers k halive))
    · rw [hkeeps.connection, quiet.connection, hconnection] at hne
      exact absurd rfl hne
    · cases hlink
  | succeeds _ ticket m capabilities before quiet sent =>
    have hentered := SessionTask.entered_of_greets before
    refine h.leave hi hentered.ticket_eq (h.holds i _ ticket hi hentered)
      (congrArg (·.leave ticket) quiet.turns) (by rintro _ ⟨⟩)
      ⟨(by decide : SessionState.ready ≠ .spawning),
        (by decide : SessionState.ready ≠ .handshaking), ?_⟩
    intro k hk
    obtain ⟨hlast, hconnection | hlink⟩ :=
      h.owner_of_readerAlive hi hentered (quiet.readers k hk)
    · exact ⟨hlast.trans quiet.length.symm, quiet.connection.trans hconnection⟩
    · cases hlink

/-- A step of closing the session. -/
theorem Orderly.stop (h : run.Orderly) {point : StopPoint} (hi : run.Runs i (.stop point))
    {stepped : StopPoint.Stopped} (hmoves : StopMoves run.session point stepped) :
    (run.goOn i (stepped.map .stop fun _ => .stopped)).Orderly := by
  have hclosing {ticket : Ticket} (before : point.Closes ticket) :
      run.session.state = .closing ∧ (point.link? ≠ none → run.session.connection = none) := by
    cases h.busy i _ ticket hi before with
    | closing _ _ state taken => exact ⟨state, taken⟩
  have hticket {ticket : Ticket} (before : point.Closes ticket) :
      (SessionTask.stop point).ticket? = some ticket :=
    (SessionTask.entered_of_closes before).ticket_eq
  cases hmoves with
  | blocks => exact h
  | joins => exact h.join hi rfl rfl fun _ => id
  | leaves ticket holds closed =>
    have hfree := h.free hi rfl holds fun _ => id
    exact h.leave hi rfl holds rfl (by rintro _ ⟨⟩) { hfree with }
  | parts ticket asked holds closed =>
    have hfree := h.free hi rfl holds fun _ => id
    refine h.keep hi rfl holds rfl rfl (.closing _ rfl rfl fun hlink => absurd rfl hlink) ?_
    intro k hk
    obtain ⟨hlast, hconnection⟩ := hfree.reader k hk
    exact ⟨hlast, .inl hconnection⟩
  | goesOn _ point' ticket m before quiet after link =>
    obtain ⟨hstate, htaken⟩ := hclosing before
    refine h.keep hi (hticket before) (h.holds i _ ticket hi before) quiet.turns after
      (.closing _ after (quiet.state.trans hstate) ?_) ?_
    · intro hlink
      rw [quiet.connection]
      exact htaken (link ▸ hlink)
    · intro k hk
      rw [quiet.length, quiet.connection, SessionTask.link?, link]
      exact h.owner_of_readerAlive hi before (quiet.readers k hk)
  | takes _ point' ticket m link before quiet connection after taken =>
    obtain ⟨hstate, htaken⟩ := hclosing before
    refine h.keep hi (hticket before) (h.holds i _ ticket hi before) quiet.turns after
      (.closing _ after (quiet.state.trans hstate) fun _ => rfl) ?_
    intro k hk
    -- The reader of the connection belongs to the operation from now on.
    obtain ⟨hlast, hconnection | hlink⟩ := h.owner_of_readerAlive hi before (quiet.readers k hk)
    · rw [← quiet.connection, connection] at hconnection
      exact ⟨hlast.trans quiet.length.symm, .inr (taken.trans hconnection)⟩
    · have hnone := htaken (by rw [show point.link? = some k from hlink]; simp)
      rw [← quiet.connection, connection] at hnone
      cases hnone
  | finishes _ ticket m before quiet connection link =>
    refine h.leave hi (hticket before) (h.holds i _ ticket hi before)
      (congrArg (·.leave ticket) quiet.turns) (by rintro _ ⟨⟩)
      ⟨(by decide : SessionState.closed ≠ .spawning),
        (by decide : SessionState.closed ≠ .handshaking), ?_⟩
    intro k hk
    obtain ⟨-, hconnection | hlink⟩ := h.owner_of_readerAlive hi before (quiet.readers k hk)
    · rw [← quiet.connection, connection] at hconnection
      cases hconnection
    · rw [SessionTask.link?, link] at hlink
      cases hlink
  | drains _ ticket link before taken =>
    refine h.leave hi (hticket before) (h.holds i _ ticket hi before) rfl (by rintro _ ⟨⟩)
      ⟨(by decide : SessionState.closed ≠ .spawning),
        (by decide : SessionState.closed ≠ .handshaking), ?_⟩
    intro k hk
    -- There is no connection any more, and the link that was taken is given up.
    obtain ⟨halive, hne⟩ := readerAlive_drop (s := run.session) hk
    obtain ⟨-, hconnection | hlink⟩ := h.owner_of_readerAlive hi before halive
    · rw [(hclosing before).2 (by rw [taken]; simp)] at hconnection
      cases hconnection
    · rw [SessionTask.link?, taken] at hlink
      exact absurd (Option.some.inj hlink).symm hne

/-- A step of an operation that does a single thing. -/
theorem Orderly.guard (h : run.Orderly) {ρ : Type} {act : Session → Session × ρ}
    (hturns : (act run.session).1.turns = run.session.turns)
    (hact : run.session.Free → (act run.session).1.Free) {make : GuardPoint → SessionTask}
    {reply : ρ → SessionReply} (hasking : (make .asking).ticket? = none)
    (hqueued : ∀ ticket, (make (.queued ticket)).ticket? = some ticket)
    (hidle : ∀ ticket held, ¬(make (.queued ticket)).Entered held) {point : GuardPoint}
    (hi : run.Runs i (make point)) {stepped : Stepped Session GuardPoint ρ}
    (hmoves : GuardMoves act run.session point stepped) :
    (run.goOn i (stepped.map make reply)).Orderly := by
  cases hmoves with
  | blocks => exact h
  | joins => exact h.join hi hasking (hqueued _) (hidle _)
  | acts ticket holds =>
    have hfree := hact (h.free hi (hqueued ticket) holds (hidle ticket))
    exact h.leave hi (hqueued ticket) holds (congrArg (·.leave ticket) hturns) (by rintro _ ⟨⟩)
      { hfree with }

/-! ### Any event -/

/-- A step of an operation that never waits for the guard. -/
theorem Orderly.goOn_drift (h : run.Orderly) (hi : run.Runs i task) (hticket : task.ticket? = none)
    {π ρ : Type} {make : π → SessionTask} {reply : ρ → SessionReply} {stepped : Stepped Session π ρ}
    (hmake : ∀ point, (make point).ticket? = none) (hdrift : run.session.Drift stepped.1) :
    (run.goOn i (stepped.map make reply)).Orderly := by
  obtain ⟨s', progress⟩ := stepped
  cases progress with
  | blocked => exact h
  | moved point => exact h.drift_setTask hi hticket hdrift (by rintro _ ⟨⟩; exact hmake point)
  | finished result => exact h.drift_setTask hi hticket hdrift (by rintro _ ⟨⟩)

/-- A step of any operation. -/
theorem Orderly.step (h : run.Orderly) (hi : run.Runs i task) :
    (run.goOn i (task.step run.now run.session)).Orderly := by
  cases task with
  | ensure point => exact h.ensure hi (point.step_moves run.now run.session)
  | ask point => exact h.goOn_drift hi rfl (fun _ => rfl) (point.drift_step run.now run.session)
  | notify point => exact h.goOn_drift hi rfl (fun _ => rfl) (point.quiet_step run.session).drift
  | stop point => exact h.stop hi (point.step_moves run.now run.session)
  | reset point =>
    exact h.guard (turns_resetNow _) Free.resetNow rfl (fun _ => rfl) (fun _ _ => id) hi
      (point.step_moves resetNow run.session)
  | checkAlive point =>
    have hlook (point : GuardPoint) (hi : run.Runs i (.checkAlive point)) :
        (run.goOn i ((point.step (fun s => (s, s.hasLiveConnection)) run.session).map
          .checkAlive .isAlive)).Orderly :=
      h.guard rfl id rfl (fun _ => rfl) (fun _ _ => id) hi
        (point.step_moves (fun s => (s, s.hasLiveConnection)) run.session)
    cases point with
    | asking =>
      simp only [SessionTask.step, stepAlive]
      split
      · exact hlook .asking hi
      · exact h.drift_setTask hi rfl (Quiet.refl _).drift (by rintro _ ⟨⟩)
    | queued ticket => exact hlook (.queued ticket) hi

/-- An event that is no step of an operation changes the session as anyone may. -/
theorem drift_next (run : SessionRun) {event : SessionEvent} (h : ∀ i, event ≠ .step i) :
    run.session.Drift (run.next event).session := by
  cases event with
  | «begin» call => exact (Quiet.refl _).drift
  | step i => exact absurd rfl (h i)
  | launched result =>
    simp only [SessionRun.next]
    split
    · exact Quiet.drift { Quiet.refl run.session with }
    · exact (Quiet.refl _).drift
  | hear link said => exact drift_hear run.session link run.now said
  | read link => exact drift_stepReader run.session link run.now
  | write link => exact (quiet_stepWriter run.session link).drift
  | written link count =>
    refine (quiet_updateLink run.session link _ fun found _ hdone => ?_).drift
    rwa [Link.readerDone, reader_written] at hdone
  | writeFails link =>
    refine (quiet_updateLink run.session link _ fun _ _ hdone => ?_).drift
    exact hdone
  | processEnds link =>
    refine (quiet_updateLink run.session link _ fun _ _ hdone => ?_).drift
    exact hdone
  | wait time => exact (Quiet.refl _).drift

/-- It may add an operation, which is not in line for the guard yet. -/
theorem runs_next {event : SessionEvent} (h : ∀ i, event ≠ .step i)
    (hticket : task.ticket? = some ticket) : (run.next event).Runs i task ↔ run.Runs i task := by
  cases event with
  | «begin» call =>
    have hcall : call.task ≠ task := by
      rintro rfl
      cases call <;> cases hticket
    show (run.tasks ++ [.waiting call.task])[i]? = _ ↔ _
    rw [List.getElem?_append]
    split
    · exact Iff.rfl
    next hge =>
      have hnone : ¬run.Runs i task := fun hi => hge (List.getElem?_eq_some_iff.mp hi).1
      refine iff_of_false (fun hi => ?_) hnone
      exact hcall (Standing.waiting.inj (List.mem_singleton.mp (List.mem_of_getElem? hi))).symm
  | step i => exact absurd rfl (h i)
  | launched result =>
    simp only [SessionRun.next]
    split <;> exact Iff.rfl
  | hear | read | write | written | writeFails | processEnds | wait => exact Iff.rfl

theorem Orderly.next (h : run.Orderly) (event : SessionEvent) : (run.next event).Orderly := by
  by_cases hstep : ∃ i, event = .step i
  · obtain ⟨i, rfl⟩ := hstep
    simp only [SessionRun.next]
    split
    next task hi => exact h.step hi
    next => exact h
  · -- Everything else leaves the guard and the line for it alone.
    have hevent (i : Nat) : event ≠ .step i := fun heq => hstep ⟨i, heq⟩
    exact h.drift (run.drift_next hevent) fun i task ticket hticket => runs_next hevent hticket

/-- A new session is orderly, and stays so whatever happens. -/
theorem orderly_after (settings : SessionSettings) (hello : Except String ClientHello)
    (events : List SessionEvent) : (after settings hello events).Orderly := by
  refine after_induction settings hello events ?_ fun run event h => h.next event
  have hnone {i : Nat} {task : SessionTask} (hi : (start settings hello).Runs i task) : False := by
    cases hi
  exact {
    distinct := fun _ _ _ _ _ hi => (hnone hi).elim
    lt_next := fun _ _ _ hi => (hnone hi).elim
    holds := fun _ _ _ hi => (hnone hi).elim
    busy := fun _ _ _ hi => (hnone hi).elim
    spawning := by rintro ⟨⟩
    handshaking := by rintro ⟨⟩
    reader := by rintro k ⟨link, ⟨⟩, -⟩ }

end SessionRun

/-! ### Changes of the state -/

/-- The changes of the state that are meant, made by an event of a run. -/
inductive StateChange (run : SessionRun) (event : SessionEvent) :
    SessionState → SessionState → Prop where
  | launch : StateChange run event .idle .spawning
  | relaunch (budget : run.session.restarts < run.session.settings.maxRestarts) :
      StateChange run event .crashed .spawning
  | link : StateChange run event .spawning .handshaking
  | launchFails : StateChange run event .spawning .crashed
  | greet : StateChange run event .handshaking .ready
  | greetingFails : StateChange run event .handshaking .crashed
  | degrade : StateChange run event .ready .degraded
  | recover : StateChange run event .degraded .ready
  | lose (before : SessionState) (h : before ∈ [.ready, .degraded]) :
      StateChange run event before .crashed
  | part (before : SessionState) (h : before ∈ [.idle, .ready, .degraded, .crashed]) :
      StateChange run event before .closing
  | close : StateChange run event .closing .closed
  | reset (before : SessionState) (h : before ∈ [.crashed, .closed]) (i : Nat) (point : GuardPoint)
      (step : event = .step i) (runs : run.Runs i (.reset point)) :
      StateChange run event before .idle

/-- The link that an event is about. -/
def SessionEvent.link? : SessionEvent → Option LinkId
  | .hear link _ | .read link | .write link | .written link _ | .writeFails link
  | .processEnds link => some link
  | _ => none

namespace SessionRun

open Session

variable {run : SessionRun} {event : SessionEvent} {i : Nat} {task : SessionTask} {s' : Session}

/-- Whether an event may lead from the session of a run to another one. -/
def Allows (run : SessionRun) (event : SessionEvent) (s' : Session) : Prop :=
  s'.state = run.session.state ∨ StateChange run event run.session.state s'.state

/-- The last message of a handshake goes out although the session has crashed meanwhile. -/
def ConfirmsLate (run : SessionRun) (event : SessionEvent) : Prop :=
  run.session.state = .crashed ∧ ∃ i point ticket, event = .step i ∧
    run.Runs i (.ensure point) ∧ point.Confirms run.session ticket

/-- A change as it is meant. -/
theorem allows_of_change {before after : SessionState} (hbefore : run.session.state = before)
    (hafter : s'.state = after) (h : StateChange run event before after) : run.Allows event s' := by
  rw [Allows, hbefore, hafter]
  exact .inr h

/-! ### Without the guard -/

theorem allows_drift (h : run.session.Drift s') : run.Allows event s' := by
  cases h.state with
  | stays hstays => exact .inl hstays
  | degraded hready hdegraded => exact allows_of_change hready hdegraded .degrade
  | recovered hdegraded hready => exact allows_of_change hdegraded hready .recover
  | lost hbefore hcrashed =>
    simp only [List.mem_cons, List.not_mem_nil, or_false] at hbefore
    rcases hbefore with hspawning | hhandshaking | hready | hdegraded
    · exact allows_of_change hspawning hcrashed .launchFails
    · exact allows_of_change hhandshaking hcrashed .greetingFails
    · exact allows_of_change hready hcrashed (.lose _ (by simp))
    · exact allows_of_change hdegraded hcrashed (.lose _ (by simp))

/-! ### With the guard -/

/-- A step of bringing the session up. -/
theorem Orderly.allows_ensure (h : run.Orderly) {point : EnsurePoint}
    (hi : run.Runs i (.ensure point)) {stepped : EnsurePoint.Ensured}
    (hmoves : EnsureMoves run.now run.session point stepped)
    (hlate : ¬run.ConfirmsLate (.step i)) :
    run.Allows (.step i) (run.goOn i (stepped.map .ensure .ensured)).session := by
  cases hmoves with
  | blocks => exact .inl rfl
  | joins => exact .inl rfl
  | wakes resume => exact .inl rfl
  | answers ticket result holds => exact .inl rfl
  | cools ticket resume holds => exact .inl rfl
  | launches ticket holds idle => exact allows_of_change idle rfl .launch
  | relaunches ticket holds crashed budget => exact allows_of_change crashed rfl (.relaunch budget)
  | fails ticket error =>
    cases h.busy i _ ticket hi rfl with
    | greeting _ greets => exact greets.elim
    | launching state => exact allows_of_change state rfl .launchFails
  | links ticket process =>
    cases h.busy i _ ticket hi rfl with
    | greeting _ greets => exact greets.elim
    | launching state => exact allows_of_change state rfl .link
  | greets _ point' ticket m before quiet after => exact .inl quiet.state
  | crashes _ ticket m error before quiet =>
    have hcrashed : (m.markCrashed run.now).dropConnection.state = .crashed :=
      state_dropConnection _
    cases h.busy i _ ticket hi (SessionTask.entered_of_greets before) with
    | launching => exact before.elim
    | greeting _ _ state =>
      rcases state with hhandshaking | ⟨hstate, -⟩
      · exact allows_of_change hhandshaking hcrashed .greetingFails
      · exact .inl (hcrashed.trans hstate.symm)
  | succeeds _ ticket m capabilities before quiet sent =>
    cases h.busy i _ ticket hi (SessionTask.entered_of_greets before) with
    | launching => exact before.elim
    | greeting _ _ state =>
      rcases state with hhandshaking | ⟨hstate, hwriter⟩
      · exact allows_of_change hhandshaking rfl .greet
      · -- The connection was lost, and no message but one that already waited can go out.
        rcases sent with hsome | hconfirms
        · exact absurd hwriter hsome
        · exact absurd ⟨hstate, i, point, ticket, rfl, hi, hconfirms⟩ hlate

/-- A step of closing the session. -/
theorem Orderly.allows_stop (h : run.Orderly) {point : StopPoint} (hi : run.Runs i (.stop point))
    {stepped : StopPoint.Stopped} (hmoves : StopMoves run.session point stepped) :
    run.Allows event (run.goOn i (stepped.map .stop fun _ => .stopped)).session := by
  have hclosed {ticket : Ticket} {s' : Session} (before : point.Closes ticket)
      (hstate : s'.state = .closed) : run.Allows event s' := by
    cases h.busy i _ ticket hi before with
    | closing _ _ state => exact allows_of_change state hstate .close
  cases hmoves with
  | blocks => exact .inl rfl
  | joins => exact .inl rfl
  | leaves ticket holds closed => exact .inl rfl
  | parts ticket asked holds closed =>
    have hfree := h.free hi rfl holds fun _ => id
    cases hstate : run.session.state with
    | idle | ready | degraded | crashed =>
      exact allows_of_change hstate rfl (.part _ (by simp))
    | spawning => exact absurd hstate hfree.not_spawning
    | handshaking => exact absurd hstate hfree.not_handshaking
    | closing => exact .inl hstate.symm
    | closed => exact absurd hstate closed
  | goesOn _ point' ticket m before quiet after link => exact .inl quiet.state
  | takes _ point' ticket m link before quiet connection after taken => exact .inl quiet.state
  | finishes _ ticket m before quiet connection link => exact hclosed before rfl
  | drains _ ticket link before taken => exact hclosed before rfl

/-- A step of resetting the session. -/
theorem allows_reset {point : GuardPoint} (hi : run.Runs i (.reset point))
    {stepped : Stepped Session GuardPoint Bool}
    (hmoves : GuardMoves resetNow run.session point stepped) :
    run.Allows (.step i) (run.goOn i (stepped.map .reset .wasReset)).session := by
  cases hmoves with
  | blocks => exact .inl rfl
  | joins => exact .inl rfl
  | acts ticket holds =>
    show run.Allows _ { run.session.resetNow.1 with turns := _ }
    unfold resetNow
    split
    next hcrashed => exact allows_of_change hcrashed rfl (.reset _ (by simp) i _ rfl hi)
    next hclosed => exact allows_of_change hclosed rfl (.reset _ (by simp) i _ rfl hi)
    next => exact .inl rfl

theorem state_stepAlive (point : GuardPoint) (s : Session) :
    (s.stepAlive point).1.state = s.state := by
  obtain ⟨turns, hturns⟩ := s.exists_stepAlive point
  rw [hturns]

/-- A step of any operation. -/
theorem Orderly.allows_step (h : run.Orderly) (hi : run.Runs i task)
    (hlate : ¬run.ConfirmsLate (.step i)) :
    run.Allows (.step i) (run.goOn i (task.step run.now run.session)).session := by
  have hgoOn {π ρ : Type} {make : π → SessionTask} {reply : ρ → SessionReply}
      (stepped : Stepped Session π ρ) (hallows : run.Allows (.step i) stepped.1) :
      run.Allows (.step i) (run.goOn i (stepped.map make reply)).session := by
    obtain ⟨s', progress⟩ := stepped
    cases progress with
    | blocked => exact .inl rfl
    | moved | finished => exact hallows
  cases task with
  | ensure point => exact h.allows_ensure hi (point.step_moves run.now run.session) hlate
  | ask point => exact hgoOn _ (allows_drift (point.drift_step run.now run.session))
  | notify point => exact hgoOn _ (allows_drift (point.quiet_step run.session).drift)
  | stop point => exact h.allows_stop hi (point.step_moves run.now run.session)
  | reset point => exact allows_reset hi (point.step_moves resetNow run.session)
  | checkAlive point => exact hgoOn _ (.inl (state_stepAlive point run.session))

/-! ### Any event -/

/-- A handshake that is confirmed late leaves the session ready. -/
theorem ConfirmsLate.not_allows (h : run.ConfirmsLate event) :
    ¬run.Allows event (run.next event).session := by
  obtain ⟨hcrashed, i, point, ticket, rfl, hi, send, deadline, capabilities, rfl, hsent⟩ := h
  have hready : (run.next (.step i)).session.state = .ready := by
    have hstep : send.step run.session = ((send.step run.session).1, .finished true) :=
      Prod.ext rfl hsent
    simp only [SessionRun.next, show run.tasks[i]? = _ from hi, SessionTask.step, EnsurePoint.step]
    rw [hstep]
    rfl
  rw [Allows, hcrashed, hready]
  rintro (heq | hchange)
  · cases heq
  · cases hchange

theorem Orderly.allows_next_iff (h : run.Orderly) (event : SessionEvent) :
    run.Allows event (run.next event).session ↔ ¬run.ConfirmsLate event := by
  refine ⟨fun hallows hlate => hlate.not_allows hallows, fun hlate => ?_⟩
  by_cases hstep : ∃ i, event = .step i
  · obtain ⟨i, rfl⟩ := hstep
    simp only [SessionRun.next]
    split
    next task hi => exact h.allows_step hi hlate
    next => exact .inl rfl
  · exact allows_drift (run.drift_next fun i heq => hstep ⟨i, heq⟩)

/-- Whatever happens to a link changes no more than that link, once its reader has ended. -/
theorem next_eq_updateLink {k : LinkId} (hlink : event.link? = some k)
    (hdone : ¬run.session.ReaderAlive k) :
    ∃ change, run.next event = run.withSession (·.updateLink k change) := by
  have hsame : run = run.withSession (·.updateLink k id) := by
    rw [withSession, updateLink, List.modify_id]
  cases event with
  | hear link said =>
    obtain rfl := Option.some.inj hlink
    refine ⟨id, Eq.trans ?_ hsame⟩
    rw [SessionRun.next, withSession, hear_eq_self _ _ hdone]
  | read link =>
    obtain rfl := Option.some.inj hlink
    refine ⟨id, Eq.trans ?_ hsame⟩
    rw [SessionRun.next, withSession, stepReader_eq_self _ hdone]
  | write link =>
    obtain rfl := Option.some.inj hlink
    cases hfound : run.session.links[link]? with
    | none =>
      refine ⟨id, Eq.trans ?_ hsame⟩
      simp only [SessionRun.next, withSession, stepWriter, hfound]
    | some found =>
      refine ⟨fun _ => found.stepWriter.1, ?_⟩
      simp only [SessionRun.next, withSession, stepWriter, hfound]
  | written link count =>
    obtain rfl := Option.some.inj hlink
    exact ⟨_, rfl⟩
  | writeFails link =>
    obtain rfl := Option.some.inj hlink
    exact ⟨_, rfl⟩
  | processEnds link =>
    obtain rfl := Option.some.inj hlink
    exact ⟨_, rfl⟩
  | «begin» | step | launched | wait => cases hlink

/-- While nobody has the guard, no server is being started. -/
theorem Orderly.not_starting (h : run.Orderly) (hnobody : run.session.turns.holder = none) :
    run.session.state ≠ .spawning ∧ run.session.state ≠ .handshaking := by
  have hidle {i : Nat} {task : SessionTask} {ticket : Ticket} (hi : run.Runs i task)
      (hentered : task.Entered ticket) : False := by
    have hholder := h.holds i task ticket hi hentered
    rw [hnobody] at hholder
    cases hholder
  constructor
  · intro hstate
    obtain ⟨i, ticket, hi⟩ := h.spawning hstate
    exact hidle hi (show ticket = ticket from rfl)
  · intro hstate
    obtain ⟨i, point, ticket, hi, hgreets⟩ := h.handshaking hstate
    exact hidle hi (SessionTask.entered_of_greets hgreets)

/-- Any run of a session. An event changes the state as it is meant exactly if it does not confirm
    a handshake late. A link that another one has followed is a matter of its own, and nothing is
    heard from it. While nobody has the guard, no server is being started. -/
theorem allows_next_after_iff (settings : SessionSettings) (hello : Except String ClientHello)
    (events : List SessionEvent) :
    let run := after settings hello events
    (∀ event, run.Allows event (run.next event).session ↔ ¬run.ConfirmsLate event) ∧
    (∀ k, k + 1 < run.session.links.length →
      (∀ said, run.next (.hear k said) = run) ∧ run.next (.read k) = run ∧
      ∀ event : SessionEvent, event.link? = some k →
        ∃ change, run.next event = run.withSession (·.updateLink k change)) ∧
    (run.session.turns.holder = none →
      run.session.state ≠ .spawning ∧ run.session.state ≠ .handshaking) := by
  intro run
  have h : run.Orderly := orderly_after settings hello events
  refine ⟨h.allows_next_iff, fun k hlt => ?_, h.not_starting⟩
  -- Readers belong to the last link.
  have hdone : ¬run.session.ReaderAlive k := fun hk => Nat.ne_of_lt hlt (h.reader k hk).1
  refine ⟨fun said => ?_, ?_, fun event hlink => next_eq_updateLink hlink hdone⟩
  · rw [SessionRun.next, withSession, hear_eq_self _ _ hdone]
  · rw [SessionRun.next, withSession, stepReader_eq_self _ hdone]

/-! ### A handshake that is confirmed late -/

/-- A frame of a server around a text. -/
def said (text : String) : SourceRead := .bytes (frameBytes text.toUTF8)

/-- The server fills the outbox with replies to its own requests, answers the first request and
    falls silent for good. Only then the writer takes the first message. -/
def silentServer : List SessionEvent :=
  [.begin .ensure, .step 0, .step 0, .launched (.ok .absent), .step 0, .step 0] ++
    List.replicate 63 (.hear 0 (said "\x7b\"id\":2,\"method\":\"m\"\x7d")) ++
    [.hear 0 (said "\x7b\"id\":1,\"result\":\x7b\"capabilities\":\x7b\x7d\x7d\x7d"), .step 0,
      .hear 0 .ended, .write 0]

/-- A crashed session becomes ready without a new server. -/
theorem not_forall_allows_next :
    ¬∀ settings hello events event, (after settings hello events).Allows event
      ((after settings hello events).next event).session := by
  intro h
  have hlate := h {} (.ok ⟨"file:///ws", "ws"⟩) silentServer (.step 0)
  have hcrashed : (after {} (.ok ⟨"file:///ws", "ws"⟩) silentServer).session.state = .crashed := by
    decide +kernel
  have hready : ((after {} (.ok ⟨"file:///ws", "ws"⟩) silentServer).next (.step 0)).session.state =
      .ready := by
    decide +kernel
  rw [Allows, hcrashed, hready] at hlate
  rcases hlate with heq | hchange
  · cases heq
  · cases hchange

end SessionRun

end SymbolSearch
