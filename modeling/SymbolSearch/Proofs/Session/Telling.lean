import SymbolSearch.Proofs.Session.Voices

/-!
# What the holder of the guard says

The greeting, its confirmation, the farewell and the exit are said by whoever is at work with the
guard, and each comes when the one before has been said on the same link.

* `Works` — what a step of someone at work says, and what it relies on afterwards;
  `EnsurePoint.works_step` and `StopPoint.works_step`.
* `SessionTask.proceeds_step` — a step of any operation says what may come next.
* `SessionTask.hush_cancel` — whoever is given up says nothing more.
-/

namespace SymbolSearch

open Session

variable {phases : Phases} {s m m' : Session} {k link : LinkId} {word : Utterance}
  {phase phase' : Phase} {now : Instant} {ticket : Ticket} {task : SessionTask}
  {said : Option (LinkId × Utterance)}

/-! ### Whoever is at work with the guard -/

/-- What a step of someone at work with the guard says, and what he relies on afterwards. -/
structure Works {π ρ : Type} (phases : Phases) (s : Session) (make : π → SessionTask)
    (stepped : Stepped Session π ρ) (said : Option (LinkId × Utterance)) : Prop where
  speaks : s.Speaks stepped.1 said
  inTurn : ∀ k word, said = some (k, word) →
    word ≠ .work ∧ ∃ phase, (phases k).bind (·.next? word) = some phase
  fits : ∀ point, stepped.2 = .moved point →
    (make point).Fits (phases.after said) stepped.1.writer
  welcomes : ∀ result, stepped.2 = .finished result → Welcomes (phases.after said) stepped.1

namespace Works

variable {π ρ : Type} {make : π → SessionTask} {point : π} {result : ρ}
  {stepped : Stepped Session π ρ}

theorem of_still (h : Still s m) (hworks : Works phases m make stepped said) :
    Works phases s make stepped said where
  speaks := by
    cases hworks.speaks with
    | hush hhush => exact .hush (h.hush.trans hhush)
    | word k word htells => exact .word k word (h.trans_tells htells)
  inTurn := hworks.inTurn
  fits := hworks.fits
  welcomes := hworks.welcomes

theorem blocked (h : Hush s m) : Works phases s make ((m, .blocked) : Stepped Session π ρ) none :=
  ⟨.hush h, by rintro _ _ ⟨⟩, by rintro _ ⟨⟩, by rintro _ ⟨⟩⟩

theorem moved (h : Hush s m) (hfits : (make point).Fits phases m.writer) :
    Works phases s make ((m, .moved point) : Stepped Session π ρ) none :=
  ⟨.hush h, by rintro _ _ ⟨⟩, by rintro _ ⟨⟩; exact hfits, by rintro _ ⟨⟩⟩

theorem finished (h : Hush s m) (hrefuses : m.state.acceptsRequests = false) :
    Works phases s make ((m, .finished result) : Stepped Session π ρ) none :=
  ⟨.hush h, by rintro _ _ ⟨⟩, by rintro _ ⟨⟩, fun _ _ => welcomes_of_refuses hrefuses⟩

/-- A word is said that may come now. -/
theorem tells (h : Tells k word s stepped.1) (hword : word ≠ .work)
    (hphase : phases k = some phase) (hnext : phase.next? word = some phase')
    (hfits : ∀ point, stepped.2 = .moved point → ∀ phases' : Phases, phases' k = some phase' →
      (make point).Fits phases' stepped.1.writer)
    (hwelcomes : ∀ result, stepped.2 = .finished result → ∀ phases' : Phases,
      phases' k = some phase' → Welcomes phases' stepped.1) :
    Works phases s make stepped (some (k, word)) := by
  have hself := Phases.after_self hphase hnext
  refine ⟨.word k word h, ?_, fun point hpoint => hfits point hpoint _ hself,
    fun result hresult => hwelcomes result hresult _ hself⟩
  rintro _ _ ⟨⟩
  exact ⟨hword, phase', by rw [hphase]; exact hnext⟩

end Works

/-! ### Bringing a session up -/

namespace EnsurePoint

/-- The end of a handshake that failed. -/
theorem works_crash (now : Instant) (ticket : Ticket) (m : Session) (error : SessionError) :
    Works phases m .ensure (crash now ticket m error) none := by
  refine .finished ?_ ?_
  · exact (still_markCrashed m now).hush.trans
      ((hush_dropConnection _).trans (hush_of_links rfl))
  · exact congrArg SessionState.acceptsRequests (state_dropConnection (m.markCrashed now))

theorem works_fail (now : Instant) (ticket : Ticket) (m : Session) (error : SessionError) :
    Works phases m .ensure (fail now ticket m error) none := by
  unfold fail
  split
  · exact works_crash now ticket m _
  · exact works_crash now ticket m _

/-- The handshake is confirmed, and whoever is asked from now on is at work. -/
theorem works_succeed {capabilities : ServerCapabilities} (htells : Tells link .confirmation s m)
    (hphase : phases link = some .greeted) (hsole : ∀ k, m.writer = some k → k = link) :
    Works phases s .ensure (succeed ticket m capabilities) (some (link, .confirmation)) := by
  refine .tells (htells.trans_still (still_of_links rfl)) (by rintro ⟨⟩) hphase rfl
    (by rintro _ ⟨⟩) ?_
  intro _ _ phases' hworking _ k hk
  rw [hsole k hk]
  exact hworking

theorem works_confirm (now : Instant) (ticket : Ticket) (deadline : Instant) (answer : Json)
    (hphase : phases link = some .greeted) (hsole : ∀ k, m.writer = some k → k = link) :
    ∃ said, Works phases m .ensure (confirm now ticket deadline m answer) said := by
  unfold confirm
  split
  · exact ⟨_, works_fail now ticket m _⟩
  next hello _ =>
    split
    · exact ⟨_, works_fail now ticket m _⟩
    next k hwriter =>
      obtain rfl : k = link := hsole k hwriter
      have hquiet := SendPoint.quiet_begin m k (.notice .initialized)
      have hmoves := SendPoint.begin_moves m k (.notice .initialized)
      generalize SendPoint.begin m k (.notice .initialized) = stepped at hquiet hmoves
      have hsole' (j : LinkId) : stepped.1.writer = some j → j = k :=
        sole_of_writer hsole hquiet.writer
      cases hmoves with
      | sent m' puts => exact ⟨_, works_succeed (puts.tells rfl) hphase hsole'⟩
      | refused m' still closed => exact ⟨_, (works_fail now ticket m' _).of_still still⟩
      | waits m' send still isOpen link_eq item_eq =>
        refine ⟨none, .moved still.hush ⟨?_, ?_, ?_⟩⟩
        · rw [item_eq]
          rfl
        · rw [link_eq]
          exact hphase
        · rw [link_eq]
          exact hsole'
      | blocks => exact ⟨_, works_fail now ticket m _⟩

/-- The time for the handshake may be over. -/
theorem works_blocked (now : Instant) (ticket : Ticket) (deadline : Instant) (hstill : Still s m)
    (hcancel : Still m m') : Works phases s .ensure
      (if deadline ≤ now then expire now ticket m' else (m, .blocked)) none := by
  split
  · exact (works_crash now ticket m' _).of_still (hstill.trans hcancel)
  · exact .blocked hstill.hush

theorem works_linked (now : Instant) (ticket : Ticket) (deadline : Instant)
    (hphase : ∀ k, s.writer = some k → phases k = some .silent) :
    ∃ said, Works phases s .ensure (greet now ticket deadline s) said := by
  unfold greet
  split
  · exact ⟨_, works_fail now ticket s _⟩
  next hello _ =>
    cases hwriter : s.writer with
    | none =>
      have hstep : CallPoint.step now (.starting (.hello hello) s.settings.handshakeTimeout) s =
          (s, .finished (.error .processExit)) := by simp only [CallPoint.step, hwriter]
      rw [hstep]
      exact ⟨_, works_fail now ticket s .processExit⟩
    | some link =>
      have hquiet :=
        CallPoint.quiet_step now (.starting (.hello hello) s.settings.handshakeTimeout) s
      have hmoves := CallPoint.starting_moves now (.hello hello) s.settings.handshakeTimeout hwriter
      generalize CallPoint.step now (.starting (.hello hello) s.settings.handshakeTimeout) s =
        stepped at hquiet hmoves
      have hsole (k : LinkId) : stepped.1.writer = some k → k = link :=
        sole_of_writer (fun _ hk => Option.some.inj (hk.symm.trans hwriter)) hquiet.writer
      cases hmoves with
      | sent m reply tells =>
        refine ⟨_, .tells tells (by rintro ⟨⟩) (hphase link hwriter) rfl ?_ (by rintro _ ⟨⟩)⟩
        rintro _ ⟨⟩ phases' hgreeted
        exact ⟨hgreeted, hsole⟩
      | waits m reply send still link_eq word_eq =>
        exact ⟨none, .moved still.hush
          ⟨word_eq, link_eq ▸ hphase link hwriter, link_eq ▸ hsole⟩⟩
      | refused m still closed => exact ⟨_, (works_fail now ticket m .processExit).of_still still⟩
      | blocks m still => exact ⟨none, .blocked still.hush⟩

theorem works_greeting (now : Instant) (ticket : Ticket) (call : CallPoint) (deadline : Instant)
    (hfits : call.Fits phases s.writer .hello .silent .greeted) :
    ∃ said,
      Works phases s .ensure (EnsurePoint.step now (.greeting ticket call deadline) s) said := by
  have hquiet := call.quiet_step now s
  cases call with
  | starting call timeout => exact hfits.elim
  | sending reply send =>
    obtain ⟨hword, hphase, hsole⟩ := hfits
    have hmoves := CallPoint.sending_moves now reply hword s
    simp only [EnsurePoint.step]
    generalize CallPoint.step now (.sending reply send) s = stepped at hquiet hmoves
    have hsole' (k : LinkId) : stepped.1.writer = some k → k = send.link :=
      sole_of_writer hsole hquiet.writer
    cases hmoves with
    | sent m reply' tells =>
      refine ⟨_, .tells tells (by rintro ⟨⟩) hphase rfl ?_ (by rintro _ ⟨⟩)⟩
      rintro _ ⟨⟩ phases' hgreeted
      exact ⟨hgreeted, hsole'⟩
    | waits m reply' send' still link_eq word_eq =>
      exact ⟨none, .moved still.hush ⟨word_eq, link_eq ▸ hphase, link_eq ▸ hsole'⟩⟩
    | refused m still closed => exact ⟨_, (works_fail now ticket m .processExit).of_still still⟩
    | blocks m still =>
      exact ⟨none, works_blocked now ticket deadline still (CallPoint.still_cancel _ m)⟩
  | waiting reply link =>
    obtain ⟨hphase, hsole⟩ := hfits
    have hstill := CallPoint.still_waiting now reply link s
    simp only [EnsurePoint.step]
    generalize hcall : CallPoint.step now (.waiting reply link) s = stepped at hquiet hstill
    obtain ⟨m, progress⟩ := stepped
    have hsole' (k : LinkId) : m.writer = some k → k = link := sole_of_writer hsole hquiet.writer
    cases progress with
    | blocked =>
      exact ⟨none, works_blocked now ticket deadline hstill (CallPoint.still_cancel _ m)⟩
    | moved call =>
      simp only [CallPoint.step] at hcall
      split at hcall <;> cases hcall
    | finished result =>
      cases result with
      | error error => exact ⟨_, (works_fail now ticket m error).of_still hstill⟩
      | ok answer =>
        obtain ⟨said, hworks⟩ := works_confirm now ticket deadline answer hphase hsole'
        exact ⟨said, hworks.of_still hstill⟩

theorem works_confirming (now : Instant) (ticket : Ticket) (send : SendPoint) (deadline : Instant)
    (capabilities : ServerCapabilities)
    (hfits : send.Waits phases s.writer .confirmation .greeted) :
    ∃ said, Works phases s .ensure
      (EnsurePoint.step now (.confirming ticket send deadline capabilities) s) said := by
  obtain ⟨hword, hphase, hsole⟩ := hfits
  have hquiet := send.quiet_step s
  have hmoves := send.step_moves s
  simp only [EnsurePoint.step]
  generalize send.step s = stepped at hquiet hmoves
  have hsole' (k : LinkId) : stepped.1.writer = some k → k = send.link :=
    sole_of_writer hsole hquiet.writer
  cases hmoves with
  | sent m puts => exact ⟨_, works_succeed (puts.tells hword) hphase hsole'⟩
  | refused m still closed => exact ⟨_, (works_fail now ticket m _).of_still still⟩
  | waits m send' still isOpen link_eq item_eq =>
    exact ⟨none, .moved still.hush ⟨item_eq ▸ hword, link_eq ▸ hphase, link_eq ▸ hsole'⟩⟩
  | blocks => exact ⟨none, works_blocked now ticket deadline (.refl s) (send.still_cancel s)⟩

end EnsurePoint

/-! ### Closing a session -/

namespace StopPoint

/-- Nothing is said any more, and what is left to do relies on nothing. -/
structure Winds (s : Session) (stepped : Stopped) : Prop where
  still : Still s stepped.1
  fits : ∀ point, stepped.2 = .moved point → ∀ (phases : Phases) (writer : Option LinkId),
    (SessionTask.stop point).Fits phases writer
  refuses : ∀ result, stepped.2 = .finished result → stepped.1.state.acceptsRequests = false

theorem Winds.works {stepped : Stopped} (h : Winds s stepped) :
    Works phases s .stop stepped none :=
  ⟨.hush h.still.hush, by rintro _ _ ⟨⟩, fun point hpoint => h.fits point hpoint _ _,
    fun result hresult => welcomes_of_refuses (h.refuses result hresult)⟩

theorem Winds.of_still {stepped : Stopped} (hstill : Still s m) (h : Winds m stepped) :
    Winds s stepped := ⟨hstill.trans h.still, h.fits, h.refuses⟩

theorem winds_close (now : Instant) (ticket : Ticket) (m : Session) :
    Winds m (close now ticket m) := by
  unfold close
  split
  · exact ⟨still_of_links rfl, by rintro _ ⟨⟩, fun _ _ => rfl⟩
  · dsimp only
    split
    · exact ⟨still_of_links rfl, by rintro _ ⟨⟩ _ _; trivial, by rintro _ ⟨⟩⟩
    · exact ⟨still_of_links rfl, by rintro _ ⟨⟩ _ _; trivial, by rintro _ ⟨⟩⟩

theorem winds_finishOutbox (now : Instant) (ticket : Ticket) (m : Session) :
    Winds m (finishOutbox now ticket m) := by
  unfold finishOutbox
  split
  · exact winds_close now ticket m
  next link _ =>
    have hmoves := SendPoint.begin_moves m link .finish
    generalize SendPoint.begin m link .finish = stepped at hmoves
    cases hmoves with
    | sent m' puts =>
      exact (winds_close now ticket _).of_still ((puts.still rfl).trans (still_releaseWriter m'))
    | refused m' still closed =>
      exact (winds_close now ticket _).of_still (still.trans (still_releaseWriter m'))
    | waits m' send still isOpen link_eq item_eq =>
      refine ⟨still.trans (still_releaseWriter m'), ?_, by rintro _ ⟨⟩⟩
      rintro _ ⟨⟩ _ _
      exact congrArg Outgoing.utterance? item_eq
    | blocks => exact (winds_close now ticket _).of_still (still_releaseWriter m)

/-- The exit is said, and nothing after it. -/
theorem works_exit {stepped : Stopped} (htells : Tells link .exit s m)
    (hphase : phases link = some .parting) (hwinds : Winds m stepped) :
    Works phases s .stop stepped (some (link, .exit)) :=
  .tells (htells.trans_still hwinds.still) (by rintro ⟨⟩) hphase rfl
    (fun point hpoint _ _ => hwinds.fits point hpoint _ _)
    fun result hresult _ _ => welcomes_of_refuses (hwinds.refuses result hresult)

/-- An exit comes only behind the farewell: a link that has not heard one is closed. -/
theorem works_sendExit (now : Instant) (ticket : Ticket)
    (hparting : ∀ k, m.writer = some k →
      phases k = some .parting ∨ (m.voice k).isOpen = false) :
    ∃ said, Works phases m .stop (sendExit now ticket m) said := by
  unfold sendExit
  split
  · exact ⟨_, (winds_finishOutbox now ticket m).works⟩
  next link hwriter =>
    have hopen (h : (m.voice link).isOpen = true) : phases link = some .parting := by
      rcases hparting link hwriter with hphase | hclosed
      · exact hphase
      · rw [hclosed] at h
        cases h
    have hquiet := SendPoint.quiet_begin m link (.notice .exit)
    have hmoves := SendPoint.begin_moves m link (.notice .exit)
    generalize SendPoint.begin m link (.notice .exit) = stepped at hquiet hmoves
    cases hmoves with
    | sent m' puts =>
      have htells : Tells link .exit m m' := puts.tells rfl
      exact ⟨_, works_exit htells (hopen htells.isOpen) (winds_finishOutbox now ticket m')⟩
    | refused m' still closed =>
      exact ⟨_, ((winds_finishOutbox now ticket m').of_still still).works⟩
    | waits m' send still isOpen link_eq item_eq =>
      refine ⟨none, .moved still.hush ⟨?_, ?_, fun k => ?_⟩⟩
      · rw [item_eq]
        rfl
      · rw [link_eq]
        exact hopen isOpen
      · rw [link_eq]
        exact sole_of_writer (fun k hk => Option.some.inj (hk.symm.trans hwriter)) hquiet.writer
    | blocks => exact ⟨_, (winds_finishOutbox now ticket m).works⟩

/-- The server is asked to shut down, or there is nobody to ask. -/
theorem works_parting (now : Instant) (ticket : Ticket) (asked : Bool)
    (hfits : (SessionTask.stop (.parting ticket asked)).Fits phases s.writer) :
    ∃ said, Works phases s .stop (part now ticket asked s) said := by
  cases asked with
  | false => exact ⟨_, (winds_finishOutbox now ticket s).works⟩
  | true =>
    show ∃ said, Works phases s .stop (afterFarewell now ticket
      (CallPoint.step now (.starting .shutdown s.settings.shutdownTimeout) s)) said
    cases hwriter : s.writer with
    | none =>
      have hstep : CallPoint.step now (.starting .shutdown s.settings.shutdownTimeout) s =
          (s, .finished (.error .processExit)) := by simp only [CallPoint.step, hwriter]
      rw [hstep]
      exact works_sendExit now ticket fun k hk => by rw [hwriter] at hk; cases hk
    | some link =>
      have hphase : phases link = some .working := hfits link hwriter
      have hquiet := CallPoint.quiet_step now (.starting .shutdown s.settings.shutdownTimeout) s
      have hmoves := CallPoint.starting_moves now .shutdown s.settings.shutdownTimeout hwriter
      generalize CallPoint.step now (.starting .shutdown s.settings.shutdownTimeout) s =
        stepped at hquiet hmoves
      have hsole (k : LinkId) : stepped.1.writer = some k → k = link :=
        sole_of_writer (fun _ hk => Option.some.inj (hk.symm.trans hwriter)) hquiet.writer
      cases hmoves with
      | sent m reply tells =>
        refine ⟨_, .tells tells (by rintro ⟨⟩) hphase rfl ?_ (by rintro _ ⟨⟩)⟩
        rintro _ ⟨⟩ phases' hparting
        exact ⟨hparting, hsole⟩
      | waits m reply send still link_eq word_eq =>
        exact ⟨none, .moved still.hush ⟨word_eq, link_eq ▸ hphase, link_eq ▸ hsole⟩⟩
      | refused m still closed =>
        have hparting (k : LinkId) (hk : m.writer = some k) :
            phases k = some .parting ∨ (m.voice k).isOpen = false := by
          rw [hsole k hk, still.voice]
          exact .inr closed
        obtain ⟨said, hworks⟩ := works_sendExit now ticket hparting
        exact ⟨said, hworks.of_still still⟩
      | blocks m still => exact ⟨none, .blocked still.hush⟩

theorem works_farewell (now : Instant) (ticket : Ticket) (call : CallPoint)
    (hfits : call.Fits phases s.writer .farewell .working .parting) :
    ∃ said, Works phases s .stop (afterFarewell now ticket (call.step now s)) said := by
  have hquiet := call.quiet_step now s
  cases call with
  | starting call timeout => exact hfits.elim
  | sending reply send =>
    obtain ⟨hword, hphase, hsole⟩ := hfits
    have hmoves := CallPoint.sending_moves now reply hword s
    generalize CallPoint.step now (.sending reply send) s = stepped at hquiet hmoves
    have hsole' (k : LinkId) : stepped.1.writer = some k → k = send.link :=
      sole_of_writer hsole hquiet.writer
    cases hmoves with
    | sent m reply' tells =>
      refine ⟨_, .tells tells (by rintro ⟨⟩) hphase rfl ?_ (by rintro _ ⟨⟩)⟩
      rintro _ ⟨⟩ phases' hparting
      exact ⟨hparting, hsole'⟩
    | waits m reply' send' still link_eq word_eq =>
      exact ⟨none, .moved still.hush ⟨word_eq, link_eq ▸ hphase, link_eq ▸ hsole'⟩⟩
    | refused m still closed =>
      have hparting (k : LinkId) (hk : m.writer = some k) :
          phases k = some .parting ∨ (m.voice k).isOpen = false := by
        rw [hsole' k hk, still.voice]
        exact .inr closed
      obtain ⟨said, hworks⟩ := works_sendExit now ticket hparting
      exact ⟨said, hworks.of_still still⟩
    | blocks m still => exact ⟨none, .blocked still.hush⟩
  | waiting reply link =>
    obtain ⟨hphase, hsole⟩ := hfits
    have hstill := CallPoint.still_waiting now reply link s
    generalize hcall : CallPoint.step now (.waiting reply link) s = stepped at hquiet hstill
    obtain ⟨m, progress⟩ := stepped
    cases progress with
    | blocked => exact ⟨none, .blocked hstill.hush⟩
    | moved call =>
      simp only [CallPoint.step] at hcall
      split at hcall <;> cases hcall
    | finished result =>
      have hparting (k : LinkId) (hk : m.writer = some k) :
          phases k = some .parting ∨ (m.voice k).isOpen = false := by
        rw [sole_of_writer hsole hquiet.writer hk]
        exact .inl hphase
      obtain ⟨said, hworks⟩ := works_sendExit now ticket hparting
      exact ⟨said, hworks.of_still hstill⟩

theorem works_exiting (now : Instant) (ticket : Ticket) (send : SendPoint)
    (hfits : send.Waits phases s.writer .exit .parting) :
    ∃ said, Works phases s .stop (StopPoint.step now (.exiting ticket send) s) said := by
  obtain ⟨hword, hphase, hsole⟩ := hfits
  have hquiet := send.quiet_step s
  have hmoves := send.step_moves s
  simp only [StopPoint.step]
  generalize send.step s = stepped at hquiet hmoves
  cases hmoves with
  | sent m puts =>
    exact ⟨_, works_exit (puts.tells hword) hphase (winds_finishOutbox now ticket m)⟩
  | refused m still closed =>
    exact ⟨_, ((winds_finishOutbox now ticket m).of_still still).works⟩
  | waits m send' still isOpen link_eq item_eq =>
    refine ⟨none, .moved still.hush ⟨item_eq ▸ hword, link_eq ▸ hphase, fun k => ?_⟩⟩
    rw [link_eq]
    exact sole_of_writer hsole hquiet.writer
  | blocks => exact ⟨none, .blocked (.refl s)⟩

theorem works_finishing (now : Instant) (ticket : Ticket) (send : SendPoint)
    (hword : send.item.utterance? = none) :
    Works phases s .stop (StopPoint.step now (.finishing ticket send) s) none := by
  have hmoves := send.step_moves s
  simp only [StopPoint.step]
  generalize send.step s = stepped at hmoves
  cases hmoves with
  | sent m puts => exact ((winds_close now ticket m).of_still (puts.still hword)).works
  | refused m still closed => exact ((winds_close now ticket m).of_still still).works
  | waits m send' still isOpen link_eq item_eq =>
    exact .moved still.hush (congrArg Outgoing.utterance? item_eq |>.trans hword)
  | blocks => exact .blocked (.refl s)

/-- Whoever has taken the connection says nothing any more. -/
theorem works_taken (now : Instant) {point : StopPoint} (s : Session)
    (htaken : point.link? ≠ none) : Works phases s .stop (point.step now s) none := by
  cases point with
  | asking | queued | parting | farewell | exiting | finishing => exact absurd rfl htaken
  | reaping ticket link deadline =>
    simp only [StopPoint.step]
    split
    · split
      · exact .moved (hush_updateLink s link fun _ _ => .inl rfl) trivial
      · exact .blocked (.refl s)
    · exact .moved (.refl s) trivial
  | killing ticket link =>
    simp only [StopPoint.step]
    split
    · exact .blocked (.refl s)
    · exact .moved (.refl s) trivial
  | draining ticket link deadline =>
    simp only [StopPoint.step]
    split
    · exact .finished ((hush_drop s link).trans (hush_of_links rfl)) rfl
    · exact .blocked (.refl s)

theorem works_step (now : Instant) {point : StopPoint} (hcloses : point.Closes ticket)
    (hfits : (SessionTask.stop point).Fits phases s.writer) :
    ∃ said, Works phases s .stop (point.step now s) said := by
  cases point with
  | asking | queued => exact hcloses.elim
  | parting ticket asked => exact works_parting now ticket asked hfits
  | farewell ticket call => exact works_farewell now ticket call hfits
  | exiting ticket send => exact works_exiting now ticket send hfits
  | finishing ticket send => exact ⟨_, works_finishing now ticket send hfits⟩
  | reaping | killing | draining => exact ⟨_, works_taken now s (by rintro ⟨⟩)⟩

end StopPoint

theorem EnsurePoint.works_step (now : Instant) {point : EnsurePoint} (hgreets : point.Greets ticket)
    (hfits : (SessionTask.ensure point).Fits phases s.writer) :
    ∃ said, Works phases s .ensure (point.step now s) said := by
  cases point with
  | asking | queued | cooling | launching => exact hgreets.elim
  | linked ticket deadline => exact works_linked now ticket deadline hfits
  | greeting ticket call deadline => exact works_greeting now ticket call deadline hfits
  | confirming ticket send deadline capabilities =>
    exact works_confirming now ticket send deadline capabilities hfits

/-! ### Any operation -/

theorem Engaged.refuses (h : Engaged s task) : s.state.acceptsRequests = false := by
  cases h with
  | launching ticket state => rcases state with h | h <;> rw [h] <;> rfl
  | greeting point ticket greets state => rcases state with h | h <;> rw [h] <;> rfl
  | closing point ticket closes state => rw [state]; rfl

theorem Works.proceeds {π ρ : Type} {make : π → SessionTask} {stepped : Stepped Session π ρ}
    (h : Works phases s make stepped said) (hentered : task.Entered ticket)
    (hlate : task.late? = none) (hblocked : stepped.2 ≠ .blocked)
    (hrefuses : ∀ point, stepped.2 = .moved point → stepped.1.state.acceptsRequests = false) :
    Proceeds phases s task stepped.1 (stepped.2.point?.map make) said where
  speaks := h.speaks
  inTurn := fun k word hsaid => (h.inTurn k word hsaid).2
  fits := by
    intro task' htask'
    have hfits := h.fits
    obtain ⟨s', progress⟩ := stepped
    cases progress with
    | blocked | finished => cases htask'
    | moved point =>
      obtain rfl := Option.some.inj htask'
      exact hfits point rfl
  welcomes := by
    have hwelcomes := h.welcomes
    obtain ⟨s', progress⟩ := stepped
    cases progress with
    | blocked => exact absurd rfl hblocked
    | moved point => exact welcomes_of_refuses (hrefuses point rfl)
    | finished result => exact hwelcomes result rfl
  late := fun k _ hsaid => absurd rfl (h.inTurn k .work hsaid).1
  getsIn := fun k hgets => absurd hgets (SessionTask.not_getsIn hlate s k)
  aside := fun hidle => absurd hentered (hidle ticket)

namespace SessionTask

theorem proceeds_ensure (now : Instant) {point : EnsurePoint}
    (hfits : (ensure point).Fits phases s.writer) (hwelcomes : Welcomes phases s)
    (hunborn : ∀ k, s.links.length ≤ k → phases k = some .silent)
    (hengaged : ∀ ticket, (ensure point).Entered ticket → Engaged s (.ensure point))
    (hblocked : (point.step now s).2 ≠ .blocked) : ∃ said, Proceeds phases s (.ensure point)
      (point.step now s).1 ((point.step now s).2.point?.map ensure) said := by
  have hnever (k : LinkId) : ¬(ensure point).GetsIn s k := not_getsIn rfl s k
  have hmoves := point.step_moves now s
  by_cases hgreets : ∃ ticket, point.Greets ticket
  · obtain ⟨ticket, hgreets⟩ := hgreets
    have hentered : (ensure point).Entered ticket := entered_of_greets hgreets
    obtain ⟨said, hworks⟩ := EnsurePoint.works_step now hgreets hfits
    refine ⟨said, hworks.proceeds hentered rfl hblocked fun point' hmoved => ?_⟩
    have hrefuses := (hengaged ticket hentered).refuses
    generalize point.step now s = stepped at hmoves hmoved
    cases hmoves with
    | blocks | answers | fails | crashes | succeeds => cases hmoved
    | joins | wakes | cools | launches | relaunches | links => exact hgreets.elim
    | greets _ _ _ _ _ quiet => rwa [quiet.state]
  · generalize point.step now s = stepped at hmoves hblocked
    cases hmoves with
    | blocks => exact absurd rfl hblocked
    | joins | wakes | cools =>
      exact ⟨none, .hush (hush_of_links rfl) hwelcomes (by rintro _ ⟨⟩; trivial) hnever
        fun _ => .inl rfl⟩
    | answers =>
      exact ⟨none, .hush (hush_of_links rfl) hwelcomes (by rintro _ ⟨⟩) hnever fun _ => .inl rfl⟩
    | launches =>
      exact ⟨none, .hush ((hush_dropConnection s).trans (hush_of_links rfl))
        (welcomes_of_refuses rfl) (by rintro _ ⟨⟩; trivial) hnever
        fun _ => .inl (writer_dropConnection s)⟩
    | relaunches =>
      have hcounted : Hush s { s with restarts := s.restarts + 1 } := hush_of_links rfl
      exact ⟨none, .hush (hcounted.trans ((hush_dropConnection _).trans (hush_of_links rfl)))
        (welcomes_of_refuses rfl) (by rintro _ ⟨⟩; trivial) hnever
        fun _ => .inl (writer_dropConnection _)⟩
    | fails =>
      exact ⟨none, .hush ((still_markCrashed s now).hush.trans (hush_of_links rfl))
        (welcomes_of_refuses rfl) (by rintro _ ⟨⟩) hnever fun _ => .inr (writer_releaseWriter s)⟩
    | links ticket process =>
      refine ⟨none, .hush ((hush_addLink s process).trans (hush_of_links rfl))
        (welcomes_of_refuses rfl) ?_ hnever fun hidle => absurd rfl (hidle ticket)⟩
      -- The new link has heard nothing yet.
      rintro _ ⟨⟩ k hk
      obtain rfl := Option.some.inj hk
      exact hunborn _ (Nat.le_refl _)
    | greets _ _ ticket _ before | crashes _ ticket _ _ before | succeeds _ ticket _ _ before =>
      exact absurd ⟨ticket, before⟩ hgreets

theorem proceeds_stop (now : Instant) {point : StopPoint}
    (hfits : (stop point).Fits phases s.writer) (hwelcomes : Welcomes phases s)
    (hengaged : ∀ ticket, (stop point).Entered ticket → Engaged s (.stop point))
    (hblocked : (point.step now s).2 ≠ .blocked) : ∃ said, Proceeds phases s (.stop point)
      (point.step now s).1 ((point.step now s).2.point?.map stop) said := by
  have hnever (k : LinkId) : ¬(stop point).GetsIn s k := not_getsIn rfl s k
  by_cases hcloses : ∃ ticket, point.Closes ticket
  · obtain ⟨ticket, hcloses⟩ := hcloses
    have hmoves := point.step_moves now s
    obtain ⟨said, hworks⟩ := StopPoint.works_step now hcloses hfits
    refine ⟨said, hworks.proceeds hcloses rfl hblocked fun point' hmoved => ?_⟩
    have hrefuses := (hengaged ticket hcloses).refuses
    generalize point.step now s = stepped at hmoves hmoved
    cases hmoves with
    | blocks | leaves | finishes | drains => cases hmoved
    | joins | parts => exact hcloses.elim
    | goesOn _ _ _ _ _ quiet | takes _ _ _ _ _ _ quiet => rwa [quiet.state]
  · cases point with
    | asking =>
      exact ⟨none, .hush (hush_of_links rfl) hwelcomes (by rintro _ ⟨⟩; trivial) hnever
        fun _ => .inl rfl⟩
    | queued ticket =>
      simp only [StopPoint.step] at hblocked ⊢
      split at hblocked
      next holds =>
        rw [if_pos holds]
        unfold StopPoint.decide
        split
        · exact ⟨none, .hush (hush_of_links rfl) hwelcomes (by rintro _ ⟨⟩) hnever
            fun _ => .inl rfl⟩
        · refine ⟨none, .hush (hush_of_links rfl) (welcomes_of_refuses rfl) ?_ hnever
            fun _ => .inl rfl⟩
          rintro _ ⟨⟩
          -- Only a session that took requests is asked to shut down.
          cases haccepts : s.state.acceptsRequests with
          | true => exact hwelcomes haccepts
          | false => trivial
      next => exact absurd rfl hblocked
    | parting ticket | farewell ticket | exiting ticket | finishing ticket | reaping ticket
    | killing ticket | draining ticket => exact absurd ⟨ticket, rfl⟩ hcloses

theorem proceeds_guard {ρ : Type} {act : Session → Session × ρ} {make : GuardPoint → SessionTask}
    {point : GuardPoint} {stepped : Stepped Session GuardPoint ρ}
    (hmoves : GuardMoves act s point stepped) (hblocked : stepped.2 ≠ .blocked)
    (hact : Hush s (act s).1) (hwriter : (act s).1.writer = s.writer ∨ (act s).1.writer = none)
    (hwelcomes : Welcomes phases s) (hafter : Welcomes phases (act s).1)
    (hfits : ∀ ticket, (make (.queued ticket)).Fits phases s.writer)
    (hlate : (make point).late? = none) :
    ∃ said, Proceeds phases s (make point) stepped.1 (stepped.2.point?.map make) said := by
  have hnever (k : LinkId) : ¬(make point).GetsIn s k := not_getsIn hlate s k
  cases hmoves with
  | blocks => exact absurd rfl hblocked
  | joins =>
    refine ⟨none, .hush (hush_of_links rfl) hwelcomes ?_ hnever fun _ => .inl rfl⟩
    intro task' htask'
    obtain rfl := Option.some.inj htask'
    exact hfits _
  | acts ticket holds =>
    exact ⟨none, .hush (hact.trans (hush_of_links rfl)) hafter (by rintro _ ⟨⟩) hnever
      fun _ => hwriter⟩

theorem proceeds_reset (point : GuardPoint) (hwelcomes : Welcomes phases s)
    (hblocked : (s.stepReset point).2 ≠ .blocked) : ∃ said, Proceeds phases s (.reset point)
      (s.stepReset point).1 ((s.stepReset point).2.point?.map reset) said := by
  have hidle : Hush s { s.dropConnection.releaseWriter with
      crashedAt := none, restarts := 0, failures := 0, state := .idle } :=
    (hush_dropConnection s).trans ((still_releaseWriter _).hush.trans (hush_of_links rfl))
  have hreset : Hush s s.resetNow.1 ∧
      (s.resetNow.1.writer = s.writer ∨ s.resetNow.1.writer = none) ∧
      Welcomes phases s.resetNow.1 := by
    unfold Session.resetNow
    split
    · exact ⟨hidle, .inr (writer_releaseWriter _), welcomes_of_refuses rfl⟩
    · exact ⟨hidle, .inr (writer_releaseWriter _), welcomes_of_refuses rfl⟩
    · exact ⟨.refl s, .inl rfl, hwelcomes⟩
  exact proceeds_guard (point.step_moves resetNow s) hblocked hreset.1 hreset.2.1 hwelcomes
    hreset.2.2 (fun _ => trivial) rfl

theorem proceeds_checkAlive (point : GuardPoint) (hwelcomes : Welcomes phases s)
    (hblocked : (s.stepAlive point).2 ≠ .blocked) : ∃ said, Proceeds phases s (.checkAlive point)
      (s.stepAlive point).1 ((s.stepAlive point).2.point?.map checkAlive) said := by
  have hlook (point : GuardPoint)
      (hblocked : (point.step (fun s => (s, s.hasLiveConnection)) s).2 ≠ .blocked) :
      ∃ said, Proceeds phases s (.checkAlive point)
        (point.step (fun s => (s, s.hasLiveConnection)) s).1
        ((point.step (fun s => (s, s.hasLiveConnection)) s).2.point?.map checkAlive) said :=
    proceeds_guard (GuardPoint.step_moves _ point s) hblocked (.refl s) (.inl rfl) hwelcomes
      hwelcomes (fun _ => trivial) rfl
  cases point with
  | asking =>
    by_cases haccepts : s.state.acceptsRequests = true
    · simp only [stepAlive, if_pos haccepts] at hblocked ⊢
      exact hlook .asking hblocked
    · simp only [stepAlive, if_neg haccepts]
      exact ⟨none, .hush (.refl s) hwelcomes (by rintro _ ⟨⟩) (not_getsIn rfl s) fun _ => .inl rfl⟩
  | queued ticket => exact hlook (.queued ticket) hblocked

/-- A step of any operation, unless it has to wait. -/
theorem proceeds_step (now : Instant) (task : SessionTask) (hfits : task.Fits phases s.writer)
    (hwelcomes : Welcomes phases s) (hunborn : ∀ k, s.links.length ≤ k → phases k = some .silent)
    (hengaged : ∀ ticket, task.Entered ticket → Engaged s task)
    (hblocked : (task.step now s).2 ≠ .blocked) :
    ∃ said, Proceeds phases s task (task.step now s).1 (task.step now s).2.point? said := by
  have hmap {π ρ : Type} {make : π → SessionTask} {reply : ρ → SessionReply}
      (stepped : Stepped Session π ρ) :
      (stepped.map make reply).2.point? = stepped.2.point?.map make := by
    obtain ⟨s', progress⟩ := stepped
    cases progress <;> rfl
  cases task with
  | ensure point =>
    rw [step, hmap]
    exact proceeds_ensure now hfits hwelcomes hunborn hengaged (Stepped.ne_blocked_of_map hblocked)
  | ask point =>
    rw [step, hmap]
    exact proceeds_ask now hfits hwelcomes
  | notify point =>
    rw [step, hmap]
    exact proceeds_notify point hfits hwelcomes
  | stop point =>
    rw [step, hmap]
    exact proceeds_stop now hfits hwelcomes hengaged (Stepped.ne_blocked_of_map hblocked)
  | reset point =>
    rw [step, hmap]
    exact proceeds_reset point hwelcomes (Stepped.ne_blocked_of_map hblocked)
  | checkAlive point =>
    rw [step, hmap]
    exact proceeds_checkAlive point hwelcomes (Stepped.ne_blocked_of_map hblocked)

/-- An operation that is given up says nothing more. -/
theorem hush_cancel (task : SessionTask) (s : Session) :
    Hush s (task.cancel s) ∧ (task.cancel s).state = s.state ∧
      (task.cancel s).writer = s.writer := by
  have hleaves {m : Session} (hhush : Hush s m) (ticket : Ticket) :
      Hush s ({ m with turns := m.turns.leave ticket } : Session) := hhush.trans (hush_of_links rfl)
  cases task with
  | ensure point =>
    cases point with
    | asking | cooling => exact ⟨.refl s, rfl, rfl⟩
    | queued ticket | linked ticket => exact ⟨hleaves (.refl s) ticket, rfl, rfl⟩
    | launching ticket => exact ⟨hush_of_links rfl, rfl, rfl⟩
    | greeting ticket call =>
      refine ⟨hleaves (call.still_cancel s).hush ticket, (call.quiet_cancel s).state, ?_⟩
      cases call <;> rfl
    | confirming ticket send => exact ⟨hleaves (send.still_cancel s).hush ticket, rfl, rfl⟩
  | ask point =>
    cases point with
    | starting query => exact ⟨.refl s, rfl, rfl⟩
    | calling query call =>
      refine ⟨(call.still_cancel s).hush, (call.quiet_cancel s).state, ?_⟩
      cases call <;> rfl
  | notify point =>
    cases point with
    | starting notice => exact ⟨.refl s, rfl, rfl⟩
    | sending send => exact ⟨(send.still_cancel s).hush, rfl, rfl⟩
  | stop point =>
    cases point with
    | asking => exact ⟨.refl s, rfl, rfl⟩
    | queued ticket | parting ticket => exact ⟨hleaves (.refl s) ticket, rfl, rfl⟩
    | farewell ticket call =>
      refine ⟨hleaves (call.still_cancel s).hush ticket, (call.quiet_cancel s).state, ?_⟩
      cases call <;> rfl
    | exiting ticket send | finishing ticket send =>
      exact ⟨hleaves (send.still_cancel s).hush ticket, rfl, rfl⟩
    | reaping ticket link | killing ticket link | draining ticket link =>
      exact ⟨hleaves (hush_drop s link) ticket, rfl, rfl⟩
  | reset point | checkAlive point =>
    cases point with
    | asking => exact ⟨.refl s, rfl, rfl⟩
    | queued ticket => exact ⟨hleaves (.refl s) ticket, rfl, rfl⟩

end SessionTask
end SymbolSearch
