import SymbolSearch.Proofs.Session.Unguarded

/-!
# What the holder of the guard does

Bringing a session up, closing it and resetting it take the guard first.  This file says once, for
each of them, what a step can do.

* `EnsureMoves` and `EnsurePoint.step_moves` — the steps of bringing a session up.
* `StopMoves` and `StopPoint.step_moves` — the steps of closing it.
* `GuardMoves` and `GuardPoint.step_moves` — the steps of an operation that does a single thing.
-/

namespace SymbolSearch

open Session

variable {s m : Session} {now : Instant} {ticket : Ticket}

/-! ### Links that are given up -/

namespace Session

variable {k id : LinkId}

theorem readerAlive_drop (h : (s.updateLink id Link.drop).ReaderAlive k) :
    s.ReaderAlive k ∧ k ≠ id := by
  have hdone (link : Link) : (Link.drop link).readerDone = true := readerDone_stopReader link
  have hquiet : Quiet s (s.updateLink id Link.drop) := by
    refine quiet_updateLink s id _ fun link _ hlink => ?_
    rw [hdone] at hlink
    cases hlink
  refine ⟨hquiet.readers k h, ?_⟩
  rintro rfl
  obtain ⟨link, hlink, halive⟩ := h
  simp only [updateLink, List.getElem?_modify, if_true] at hlink
  cases hfound : s.links[k]? with
  | none => simp [hfound] at hlink
  | some found =>
    obtain rfl : Link.drop found = link := by simpa [hfound] using hlink
    rw [hdone] at halive
    cases halive

theorem readerAlive_dropConnection (h : s.dropConnection.ReaderAlive k) :
    s.ReaderAlive k ∧ s.connection ≠ some k := by
  unfold dropConnection at h
  split at h
  next id hconnection =>
    obtain ⟨halive, hne⟩ := readerAlive_drop (s := s) h
    refine ⟨halive, ?_⟩
    rw [hconnection, ne_eq, Option.some.injEq]
    exact Ne.symm hne
  next hconnection => exact ⟨h, by simp [hconnection]⟩

theorem connection_dropConnection (s : Session) : s.dropConnection.connection = none := by
  unfold dropConnection
  split
  · rfl
  · assumption

theorem turns_dropConnection (s : Session) : s.dropConnection.turns = s.turns := by
  unfold dropConnection
  split <;> rfl

theorem state_dropConnection (s : Session) : s.dropConnection.state = s.state := by
  unfold dropConnection
  split <;> rfl

theorem readerAlive_addLink {process : ServerProcess} (h : (s.addLink process).ReaderAlive k) :
    k = s.links.length ∨ s.ReaderAlive k := by
  obtain ⟨link, hlink, halive⟩ := h
  simp only [addLink, List.getElem?_append] at hlink
  split at hlink
  · exact .inr ⟨link, hlink, halive⟩
  next hge =>
    -- Behind the old links there is only the new one.
    have hlt : k - s.links.length < 1 := (List.getElem?_eq_some_iff.mp hlink).1
    have hle : k ≤ s.links.length := Nat.le_of_sub_eq_zero (Nat.lt_one_iff.mp hlt)
    exact .inl (Nat.le_antisymm hle (Nat.le_of_not_lt hge))

end Session

/-! ### Bringing a session up -/

namespace EnsurePoint

/-- Whether the operation is in the middle of a handshake, as the holder of a ticket. -/
def Greets (ticket : Ticket) : EnsurePoint → Prop
  | .linked held _ | .greeting held _ _ | .confirming held _ _ _ => held = ticket
  | _ => False

/-- Whether the last message of the handshake goes out with the next step. -/
def Confirms (s : Session) (ticket : Ticket) (point : EnsurePoint) : Prop :=
  ∃ send deadline capabilities, point = .confirming ticket send deadline capabilities ∧
    (send.step s).2 = .finished true

end EnsurePoint

open EnsurePoint in
/-- What a step of bringing a session up can do. -/
inductive EnsureMoves (now : Instant) (s : Session) : EnsurePoint → Ensured → Prop where
  | blocks (point : EnsurePoint) (m : Session) : EnsureMoves now s point (m, .blocked)
  | joins : EnsureMoves now s .asking
      ({ s with turns := s.turns.join.2 }, .moved (.queued s.turns.join.1))
  | wakes (resume : Instant) : EnsureMoves now s (.cooling resume) (s, .moved .asking)
  | answers (ticket : Ticket) (result : Except SessionError Unit)
      (holds : s.turns.holder = some ticket)
      (exhausted : ∀ restarts, result = .error (.restartBudgetExhausted restarts) →
        s.state = .crashed ∧ s.settings.maxRestarts ≤ s.restarts ∧ restarts = s.restarts) :
      EnsureMoves now s (.queued ticket) (finish ticket s result)
  | cools (ticket : Ticket) (resume : Instant) (holds : s.turns.holder = some ticket) :
      EnsureMoves now s (.queued ticket)
        ({ s with turns := s.turns.leave ticket }, .moved (.cooling resume))
  | launches (ticket : Ticket) (holds : s.turns.holder = some ticket) (idle : s.state = .idle) :
      EnsureMoves now s (.queued ticket) (launch ticket s)
  | relaunches (ticket : Ticket) (holds : s.turns.holder = some ticket)
      (crashed : s.state = .crashed) (budget : s.restarts < s.settings.maxRestarts)
      (cooled : ∀ time, s.crashedAt = some time → time + s.settings.restartCooldown ≤ now) :
      EnsureMoves now s (.queued ticket) (launch ticket { s with restarts := s.restarts + 1 })
  | fails (ticket : Ticket) (error : SessionError) (launched : s.launch = .finished (.error error)) :
      EnsureMoves now s (.launching ticket)
        (finish ticket { s.markCrashed now with launch := .none } (.error error))
  | links (ticket : Ticket) (process : ServerProcess) :
      EnsureMoves now s (.launching ticket) (link now ticket s process)
  | greets (point point' : EnsurePoint) (ticket : Ticket) (m : Session)
      (before : point.Greets ticket) (quiet : Quiet s m) (after : point'.Greets ticket) :
      EnsureMoves now s point (m, .moved point')
  | crashes (point : EnsurePoint) (ticket : Ticket) (m : Session) (error : SessionError)
      (before : point.Greets ticket) (quiet : Quiet s m)
      (greeting : ∀ restarts, error ≠ .restartBudgetExhausted restarts) :
      EnsureMoves now s point (crash now ticket m error)
  | succeeds (point : EnsurePoint) (ticket : Ticket) (m : Session)
      (capabilities : ServerCapabilities) (before : point.Greets ticket) (quiet : Quiet s m)
      (sent : s.writer ≠ none ∨ point.Confirms s ticket) :
      EnsureMoves now s point (succeed ticket m capabilities)

namespace EnsurePoint

variable {point : EnsurePoint}

theorem decide_moves (now : Instant) (s : Session) (holds : s.turns.holder = some ticket) :
    EnsureMoves now s (.queued ticket) (decide now ticket s) := by
  unfold decide
  split
  · exact .answers ticket _ holds (by rintro _ ⟨⟩)
  · exact .answers ticket _ holds (by rintro _ ⟨⟩)
  · exact .answers ticket _ holds (by rintro _ ⟨⟩)
  · exact .answers ticket _ holds (by rintro _ ⟨⟩)
  · exact .answers ticket _ holds (by rintro _ ⟨⟩)
  · exact .answers ticket _ holds (by rintro _ ⟨⟩)
  next hidle => exact .launches ticket holds hidle
  next hcrashed =>
    split
    next hspent => exact .answers ticket _ holds (by rintro _ ⟨⟩; exact ⟨hcrashed, hspent, rfl⟩)
    next hbudget =>
      dsimp only
      split
      · exact .cools ticket _ holds
      next hresume =>
        refine .relaunches ticket holds hcrashed (Nat.lt_of_not_le hbudget) fun time htime => ?_
        rw [htime] at hresume
        exact Nat.le_of_not_lt hresume

theorem fail_moves (before : point.Greets ticket) (quiet : Quiet s m) (error : SessionError) :
    EnsureMoves now s point (fail now ticket m error) := by
  unfold fail
  split
  · exact .crashes point ticket m _ before quiet (by rintro _ ⟨⟩)
  · exact .crashes point ticket m _ before quiet (by rintro _ ⟨⟩)

theorem confirm_moves (before : point.Greets ticket) (quiet : Quiet s m) (deadline : Instant)
    (answer : Json) : EnsureMoves now s point (confirm now ticket deadline m answer) := by
  unfold confirm
  split
  · exact fail_moves before quiet _
  next hello _ =>
    split
    · exact fail_moves before quiet _
    next link hwriter =>
      -- Nothing on the way gives the session a writer, so it had this one before.
      have hwriter' : s.writer ≠ none := by
        intro hnone
        rw [quiet.writer_eq_none hnone] at hwriter
        cases hwriter
      have hsend := quiet.trans (SendPoint.quiet_begin m link (.notice .initialized))
      split
      next hbegin =>
        rw [hbegin] at hsend
        exact .succeeds point ticket _ _ before hsend (.inl hwriter')
      next hbegin =>
        rw [hbegin] at hsend
        exact .greets point _ ticket _ before hsend rfl
      next hbegin =>
        rw [hbegin] at hsend
        exact fail_moves before hsend _

theorem afterCall_moves (before : point.Greets ticket) (deadline : Instant)
    (stepped : Stepped Session CallPoint (Except SessionError Json)) (quiet : Quiet s stepped.1) :
    EnsureMoves now s point (afterCall now ticket deadline stepped) := by
  obtain ⟨m, progress⟩ := stepped
  cases progress with
  | blocked => exact .blocks point m
  | moved call => exact .greets point _ ticket m before quiet rfl
  | finished result =>
    cases result with
    | ok answer => exact confirm_moves before quiet deadline answer
    | error error => exact fail_moves before quiet error

theorem step_moves (now : Instant) (point : EnsurePoint) (s : Session) :
    EnsureMoves now s point (point.step now s) := by
  cases point with
  | asking => exact .joins
  | queued ticket =>
    simp only [step]
    split
    next holds => exact decide_moves now s (by simpa [Turns.holds] using holds)
    next => exact .blocks _ s
  | cooling resume =>
    simp only [step]
    split
    · exact .wakes resume
    · exact .blocks _ s
  | launching ticket =>
    simp only [step]
    split
    · exact .links ticket _
    next hlaunch => exact .fails ticket _ hlaunch
    · exact .blocks _ s
  | linked ticket deadline =>
    have hgreets : (linked ticket deadline).Greets ticket := rfl
    simp only [step, greet]
    split
    · exact fail_moves hgreets (.refl s) _
    · exact afterCall_moves hgreets deadline _ (CallPoint.quiet_step now _ s)
  | greeting ticket call deadline =>
    have hgreets : (greeting ticket call deadline).Greets ticket := rfl
    have hcall := call.quiet_step now s
    simp only [step]
    split
    next m hstep =>
      rw [hstep] at hcall
      split
      · exact .crashes _ ticket _ _ hgreets (hcall.trans (call.quiet_cancel m)) (by rintro _ ⟨⟩)
      · exact .blocks _ m
    · exact afterCall_moves hgreets deadline _ hcall
  | confirming ticket send deadline capabilities =>
    have hgreets : (confirming ticket send deadline capabilities).Greets ticket := rfl
    have hsend := send.quiet_step s
    simp only [step]
    split
    next hstep =>
      rw [hstep] at hsend
      exact .greets _ _ ticket _ hgreets hsend rfl
    next hstep =>
      rw [hstep] at hsend
      exact .succeeds _ ticket _ capabilities hgreets hsend
        (.inr ⟨send, deadline, capabilities, rfl, by rw [hstep]⟩)
    next hstep =>
      rw [hstep] at hsend
      exact fail_moves hgreets hsend _
    next m hstep =>
      rw [hstep] at hsend
      split
      · exact .crashes _ ticket _ _ hgreets (hsend.trans (send.quiet_cancel m)) (by rintro _ ⟨⟩)
      · exact .blocks _ m

end EnsurePoint

/-! ### Closing a session -/

namespace StopPoint

/-- Whether the operation is closing the session, as the holder of a ticket. -/
def Closes (ticket : Ticket) : StopPoint → Prop
  | .parting held _ | .farewell held _ | .exiting held _ | .finishing held _ | .reaping held _ _
  | .killing held _ | .draining held _ _ => held = ticket
  | _ => False

/-- The link that the operation has taken from the session. -/
def link? : StopPoint → Option LinkId
  | .reaping _ link _ | .killing _ link | .draining _ link _ => some link
  | _ => none

end StopPoint

open StopPoint in
/-- What a step of closing a session can do. -/
inductive StopMoves (s : Session) : StopPoint → Stopped → Prop where
  | blocks (point : StopPoint) (m : Session) : StopMoves s point (m, .blocked)
  | joins : StopMoves s .asking
      ({ s with turns := s.turns.join.2 }, .moved (.queued s.turns.join.1))
  | leaves (ticket : Ticket) (holds : s.turns.holder = some ticket) (closed : s.state = .closed) :
      StopMoves s (.queued ticket) ({ s with turns := s.turns.leave ticket }, .finished ())
  | parts (ticket : Ticket) (asked : Bool) (holds : s.turns.holder = some ticket)
      (closed : s.state ≠ .closed) :
      StopMoves s (.queued ticket) ({ s with state := .closing }, .moved (.parting ticket asked))
  | goesOn (point point' : StopPoint) (ticket : Ticket) (m : Session) (before : point.Closes ticket)
      (quiet : Quiet s m) (after : point'.Closes ticket) (link : point'.link? = point.link?) :
      StopMoves s point (m, .moved point')
  | takes (point point' : StopPoint) (ticket : Ticket) (m : Session) (link : LinkId)
      (before : point.Closes ticket) (quiet : Quiet s m) (connection : m.connection = some link)
      (after : point'.Closes ticket) (taken : point'.link? = some link) :
      StopMoves s point ({ m with connection := none }, .moved point')
  | finishes (point : StopPoint) (ticket : Ticket) (m : Session) (before : point.Closes ticket)
      (quiet : Quiet s m) (connection : m.connection = none) (link : point.link? = none) :
      StopMoves s point (finish ticket m)
  | drains (point : StopPoint) (ticket : Ticket) (link : LinkId) (before : point.Closes ticket)
      (taken : point.link? = some link) :
      StopMoves s point (finish ticket (s.updateLink link Link.drop))

namespace StopPoint

variable {point : StopPoint}

theorem close_moves (before : point.Closes ticket) (quiet : Quiet s m)
    (hlink : point.link? = none) : StopMoves s point (close now ticket m) := by
  unfold close
  split
  next hconnection => exact .finishes point ticket m before quiet hconnection hlink
  next link hconnection =>
    dsimp only
    split
    · exact .takes point _ ticket m link before quiet hconnection rfl rfl
    · exact .takes point _ ticket m link before quiet hconnection rfl rfl

theorem finishOutbox_moves (before : point.Closes ticket) (quiet : Quiet s m)
    (hlink : point.link? = none) : StopMoves s point (finishOutbox now ticket m) := by
  unfold finishOutbox
  split
  · exact close_moves before quiet hlink
  next link _ =>
    have hsend := quiet.trans (SendPoint.quiet_begin m link .finish)
    split
    next hbegin =>
      rw [hbegin] at hsend
      exact .goesOn point _ ticket _ before (hsend.trans (quiet_releaseWriter _)) rfl hlink.symm
    next hbegin =>
      rw [hbegin] at hsend
      exact close_moves before (hsend.trans (quiet_releaseWriter _)) hlink

theorem sendExit_moves (before : point.Closes ticket) (quiet : Quiet s m)
    (hlink : point.link? = none) : StopMoves s point (sendExit now ticket m) := by
  unfold sendExit
  split
  · exact finishOutbox_moves before quiet hlink
  next link _ =>
    have hsend := quiet.trans (SendPoint.quiet_begin m link (.notice .exit))
    split
    next hbegin =>
      rw [hbegin] at hsend
      exact .goesOn point _ ticket _ before hsend rfl hlink.symm
    next hbegin =>
      rw [hbegin] at hsend
      exact finishOutbox_moves before hsend hlink

theorem afterFarewell_moves (before : point.Closes ticket) (hlink : point.link? = none)
    (stepped : Stepped Session CallPoint (Except SessionError Json)) (quiet : Quiet s stepped.1) :
    StopMoves s point (afterFarewell now ticket stepped) := by
  obtain ⟨m, progress⟩ := stepped
  cases progress with
  | blocked => exact .blocks point m
  | moved call => exact .goesOn point _ ticket m before quiet rfl hlink.symm
  | finished result => exact sendExit_moves before quiet hlink

theorem step_moves (now : Instant) (point : StopPoint) (s : Session) :
    StopMoves s point (point.step now s) := by
  cases point with
  | asking => exact .joins
  | queued ticket =>
    simp only [step]
    split
    next holds =>
      have hholder : s.turns.holder = some ticket := by simpa [Turns.holds] using holds
      unfold decide
      split
      next hclosed => exact .leaves ticket hholder hclosed
      next hclosed => exact .parts ticket _ hholder hclosed
    next => exact .blocks _ s
  | parting ticket asked =>
    have hcloses : (parting ticket asked).Closes ticket := rfl
    simp only [step, part]
    split
    · exact afterFarewell_moves hcloses rfl _ (CallPoint.quiet_step now _ s)
    · exact finishOutbox_moves hcloses (.refl s) rfl
  | farewell ticket call =>
    have hcloses : (farewell ticket call).Closes ticket := rfl
    exact afterFarewell_moves hcloses rfl _ (call.quiet_step now s)
  | exiting ticket send =>
    have hcloses : (exiting ticket send).Closes ticket := rfl
    have hsend := send.quiet_step s
    simp only [step]
    split
    next hstep =>
      rw [hstep] at hsend
      exact .goesOn _ _ ticket _ hcloses hsend rfl rfl
    next hstep =>
      rw [hstep] at hsend
      exact finishOutbox_moves hcloses hsend rfl
    next => exact .blocks _ _
  | finishing ticket send =>
    have hcloses : (finishing ticket send).Closes ticket := rfl
    have hsend := send.quiet_step s
    simp only [step]
    split
    next hstep =>
      rw [hstep] at hsend
      exact .goesOn _ _ ticket _ hcloses hsend rfl rfl
    next hstep =>
      rw [hstep] at hsend
      exact close_moves hcloses hsend rfl
    next => exact .blocks _ _
  | reaping ticket link deadline =>
    have hcloses : (reaping ticket link deadline).Closes ticket := rfl
    simp only [step]
    split
    · split
      · exact .goesOn _ _ ticket _ hcloses (quiet_updateLink s link _ fun _ _ h => h) rfl rfl
      · exact .blocks _ s
    · exact .goesOn _ _ ticket s hcloses (.refl s) rfl rfl
  | killing ticket link =>
    have hcloses : (killing ticket link).Closes ticket := rfl
    simp only [step]
    split
    · exact .blocks _ s
    · exact .goesOn _ _ ticket s hcloses (.refl s) rfl rfl
  | draining ticket link deadline =>
    have hcloses : (draining ticket link deadline).Closes ticket := rfl
    simp only [step]
    split
    · exact .drains _ ticket link hcloses rfl
    · exact .blocks _ s

end StopPoint

/-! ### Doing a single thing -/

/-- What a step of an operation that does a single thing can do. -/
inductive GuardMoves {ρ : Type} (act : Session → Session × ρ) (s : Session) :
    GuardPoint → Stepped Session GuardPoint ρ → Prop where
  | blocks (point : GuardPoint) : GuardMoves act s point (s, .blocked)
  | joins : GuardMoves act s .asking
      ({ s with turns := s.turns.join.2 }, .moved (.queued s.turns.join.1))
  | acts (ticket : Ticket) (holds : s.turns.holder = some ticket) :
      GuardMoves act s (.queued ticket)
        ({ (act s).1 with turns := (act s).1.turns.leave ticket }, .finished (act s).2)

theorem GuardPoint.step_moves {ρ : Type} (act : Session → Session × ρ) (point : GuardPoint)
    (s : Session) : GuardMoves act s point (point.step act s) := by
  cases point with
  | asking => exact .joins
  | queued ticket =>
    simp only [step]
    split
    next holds => exact .acts ticket (by simpa [Turns.holds] using holds)
    next => exact .blocks _

/-- To look whether a session is alive changes nothing but the line for the guard. -/
theorem Session.exists_stepAlive (point : GuardPoint) (s : Session) :
    ∃ turns, (s.stepAlive point).1 = { s with turns } := by
  have hlook (point : GuardPoint) :
      ∃ turns, (point.step (fun s => (s, s.hasLiveConnection)) s).1 = { s with turns } := by
    have hmoves := point.step_moves (fun s => (s, s.hasLiveConnection)) s
    generalize point.step (fun s => (s, s.hasLiveConnection)) s = stepped at hmoves
    cases hmoves with
    | blocks => exact ⟨s.turns, rfl⟩
    | joins | acts => exact ⟨_, rfl⟩
  unfold stepAlive
  split
  · split
    · exact hlook .asking
    · exact ⟨s.turns, rfl⟩
  next ticket => exact hlook (.queued ticket)

end SymbolSearch
