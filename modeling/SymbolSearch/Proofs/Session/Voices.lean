import Mathlib.Logic.Function.Basic
import SymbolSearch.Proofs.Session.Engaged
import SymbolSearch.Proofs.Session.Speech

/-!
# What operations rely on

Every operation says what may come next on its link. What it needs for that depends on how far it
has come, and nothing that others do takes it away.

* `Phases` — how far each link has come, and `Phases.after` a word more.
* `SessionTask.Fits` — what an operation that stands somewhere relies on.
* `SessionTask.GetsIn` — work that waited for room and gets it.
* `Proceeds` — what a step says, and what is relied on afterwards; `SessionTask.proceeds_ask` and
  `SessionTask.proceeds_notify` show it of those that do not take the guard.
-/

namespace SymbolSearch

/-- How far each link has come. -/
abbrev Phases := LinkId → Option Phase

/-- One word more is said, or none. -/
def Phases.after (phases : Phases) : Option (LinkId × Utterance) → Phases
  | none => phases
  | some (k, word) => Function.update phases k ((phases k).bind (·.next? word))

variable {phases phases' : Phases} {writer writer' : Option LinkId} {k link : LinkId}
  {word : Utterance} {phase phase' : Phase}

theorem Phases.after_self (hphase : phases k = some phase)
    (hnext : phase.next? word = some phase') : phases.after (some (k, word)) k = some phase' := by
  simp [after, hphase, hnext]

/-- Work does not lead any further. -/
theorem Phases.after_work (hphase : phases k = some phase) (hwork : phase.isAtWork = true) :
    phases.after (some (k, .work)) = phases := by
  have hnext : phase.next? .work = some phase := by
    cases phase <;> first | rfl | cases hwork
  rw [after, hphase, Option.bind_some, hnext, ← hphase, Function.update_eq_self]

/-! ### What operations rely on -/

/-- A guarded operation waits to say a word on a link that has come so far. -/
def SendPoint.Waits (phases : Phases) (writer : Option LinkId) (word : Utterance) (phase : Phase)
    (send : SendPoint) : Prop :=
  send.item.utterance? = some word ∧ phases send.link = some phase ∧
    ∀ k, writer = some k → k = send.link

/-- Work waits for room on a link. -/
def SendPoint.Works (phases : Phases) (send : SendPoint) : Prop :=
  send.item.utterance? = some .work ∧ ∃ phase, phases send.link = some phase ∧ phase.isAtWork = true

/-- The request of a guarded operation, which leads its link from one phase to another. -/
def CallPoint.Fits (phases : Phases) (writer : Option LinkId) (word : Utterance)
    (phase phase' : Phase) : CallPoint → Prop
  | .starting _ _ => False
  | .sending _ send => send.Waits phases writer word phase
  | .waiting _ link => phases link = some phase' ∧ ∀ k, writer = some k → k = link

/-- What an operation relies on where it stands. -/
def SessionTask.Fits (phases : Phases) (writer : Option LinkId) : SessionTask → Prop
  | .ensure (.linked _ _) => ∀ k, writer = some k → phases k = some .silent
  | .ensure (.greeting _ call _) => call.Fits phases writer .hello .silent .greeted
  | .ensure (.confirming _ send _ _) => send.Waits phases writer .confirmation .greeted
  | .ask (.calling _ (.starting _ _)) => False
  | .ask (.calling _ (.sending _ send)) => send.Works phases
  | .notify (.starting notice) => (Outgoing.notice notice).utterance? = some .work
  | .notify (.sending send) => send.Works phases
  | .stop (.parting _ true) => ∀ k, writer = some k → phases k = some .working
  | .stop (.farewell _ call) => call.Fits phases writer .farewell .working .parting
  | .stop (.exiting _ send) => send.Waits phases writer .exit .parting
  | .stop (.finishing _ send) => send.item.utterance? = none
  | _ => True

/-- Work that waits for room, if this is where an operation stands. -/
def SessionTask.late? : SessionTask → Option SendPoint
  | .ask (.calling _ (.sending _ send)) | .notify (.sending send) => some send
  | _ => none

/-- Work that has waited for room on a link gets in. -/
def SessionTask.GetsIn (s : Session) (k : LinkId) (task : SessionTask) : Prop :=
  ∃ send, task.late? = some send ∧ send.link = k ∧ (send.step s).2 = .finished true

/-- Whoever is asked through the writer is at work. -/
def Session.Welcomes (phases : Phases) (s : Session) : Prop :=
  s.state.acceptsRequests = true → ∀ k, s.writer = some k → phases k = some .working

open Session

variable {s m s' : Session} {now : Instant} {ticket : Ticket} {task : SessionTask}
  {said : Option (LinkId × Utterance)}

/-- A writer that has become another one, or none. -/
theorem sole_of_writer (h : ∀ k, writer = some k → k = link)
    (hwriter : writer' = writer ∨ writer' = none) (hk : writer' = some k) : k = link := by
  rcases hwriter with rfl | rfl
  · exact h k hk
  · cases hk

theorem SendPoint.Waits.mono {send : SendPoint} (h : send.Waits phases writer word phase)
    (hwriter : writer' = writer ∨ writer' = none) : send.Waits phases writer' word phase :=
  ⟨h.1, h.2.1, fun _ => sole_of_writer h.2.2 hwriter⟩

theorem CallPoint.Fits.mono {call : CallPoint} (h : call.Fits phases writer word phase phase')
    (hwriter : writer' = writer ∨ writer' = none) : call.Fits phases writer' word phase phase' := by
  cases call with
  | starting => exact h
  | sending reply send => exact SendPoint.Waits.mono h hwriter
  | waiting reply link => exact ⟨h.1, fun _ => sole_of_writer h.2 hwriter⟩

namespace SessionTask

/-- The session may give its writer up. -/
theorem Fits.mono (h : task.Fits phases writer) (hwriter : writer' = writer ∨ writer' = none) :
    task.Fits phases writer' := by
  have hphase {phase : Phase} (h : ∀ k, writer = some k → phases k = some phase) (k : LinkId)
      (hk : writer' = some k) : phases k = some phase := by
    rcases hwriter with rfl | rfl
    · exact h k hk
    · cases hk
  cases task with
  | ensure point =>
    cases point with
    | linked => exact hphase h
    | greeting ticket call => exact CallPoint.Fits.mono h hwriter
    | confirming ticket send => exact SendPoint.Waits.mono h hwriter
    | asking | queued | cooling | launching => trivial
  | ask point =>
    cases point with
    | starting => trivial
    | calling query call => cases call <;> exact h
  | notify point => cases point <;> exact h
  | stop point =>
    cases point with
    | parting ticket asked =>
      cases asked with
      | true => exact hphase h
      | false => trivial
    | farewell ticket call => exact CallPoint.Fits.mono h hwriter
    | exiting ticket send => exact SendPoint.Waits.mono h hwriter
    | finishing => exact h
    | asking | queued | reaping | killing | draining => trivial
  | reset | checkAlive => trivial

/-- Whoever is not at work relies on nothing but that the handshake is over. -/
theorem Fits.aside (h : task.Fits phases writer) (hidle : ∀ ticket, ¬task.Entered ticket)
    (hwork : ∀ k phase, phases k = some phase → phase.isAtWork = true →
      ∃ phase', phases' k = some phase' ∧ phase'.isAtWork = true) :
    task.Fits phases' writer' := by
  have hworks {send : SendPoint} (h : send.Works phases) : send.Works phases' := by
    obtain ⟨hword, phase, hphase, hatWork⟩ := h
    exact ⟨hword, hwork _ phase hphase hatWork⟩
  cases task with
  | ensure point =>
    cases point with
    | linked ticket | greeting ticket | confirming ticket => exact absurd rfl (hidle ticket)
    | asking | queued | cooling | launching => trivial
  | ask point =>
    cases point with
    | starting => trivial
    | calling query call =>
      cases call with
      | starting => exact h
      | sending => exact hworks h
      | waiting => trivial
  | notify point =>
    cases point with
    | starting => exact h
    | sending => exact hworks h
  | stop point =>
    cases point with
    | parting ticket | farewell ticket | exiting ticket | finishing ticket =>
      exact absurd rfl (hidle ticket)
    | asking | queued | reaping | killing | draining => trivial
  | reset | checkAlive => trivial

end SessionTask

theorem Session.Welcomes.aside (h : Welcomes phases s) (haside : Aside s s') :
    Welcomes phases s' := by
  intro haccepts k hk
  have hbefore : s.state.acceptsRequests = true := by
    cases haside.state with
    | stays hstays => exact hstays ▸ haccepts
    | degraded hready => rw [hready]; rfl
    | recovered hdegraded => rw [hdegraded]; rfl
    | lost _ hcrashed => rw [hcrashed] at haccepts; cases haccepts
  rcases haside.writer with hsame | hnone
  · exact h hbefore k (hsame ▸ hk)
  · rw [hnone] at hk
    cases hk

theorem Session.welcomes_of_refuses (h : s.state.acceptsRequests = false) : Welcomes phases s := by
  intro haccepts
  rw [h] at haccepts
  cases haccepts

/-! ### Steps -/

/-- One word is said, or none. -/
inductive Session.Speaks (s s' : Session) : Option (LinkId × Utterance) → Prop where
  | hush (h : Hush s s') : Speaks s s' none
  | word (k : LinkId) (word : Utterance) (h : Tells k word s s') : Speaks s s' (some (k, word))

/-- What a step of an operation says, and what it relies on afterwards. -/
structure Proceeds (phases : Phases) (s : Session) (task : SessionTask) (s' : Session)
    (after : Option SessionTask) (said : Option (LinkId × Utterance)) : Prop where
  speaks : s.Speaks s' said
  inTurn : ∀ k word, said = some (k, word) → ∃ phase, (phases k).bind (·.next? word) = some phase
  fits : ∀ task', after = some task' → task'.Fits (phases.after said) s'.writer
  welcomes : Welcomes (phases.after said) s'
  /-- Work comes late only if it has waited. -/
  late : ∀ k phase, said = some (k, .work) → phases k = some phase → phase.isOver = true →
    task.GetsIn s k
  getsIn : ∀ k, task.GetsIn s k → said = some (k, .work)
  aside : (∀ ticket, ¬task.Entered ticket) →
    phases.after said = phases ∧ (s'.writer = s.writer ∨ s'.writer = none)

theorem SessionTask.not_getsIn (h : task.late? = none) (s : Session) (k : LinkId) :
    ¬task.GetsIn s k := by
  rintro ⟨send, hlate, -⟩
  rw [h] at hlate
  cases hlate

theorem SessionTask.getsIn_iff_of_late {send : SendPoint} (h : task.late? = some send) :
    task.GetsIn s k ↔ send.link = k ∧ (send.step s).2 = .finished true := by
  constructor
  · rintro ⟨found, hfound, hgets⟩
    obtain rfl : send = found := Option.some.inj (h.symm.trans hfound)
    exact hgets
  · intro hgets
    exact ⟨send, h, hgets⟩

/-- Nothing is said. -/
theorem Proceeds.hush {after : Option SessionTask} (hhush : Hush s s')
    (hwelcomes : Welcomes phases s') (hfits : ∀ task', after = some task' →
      task'.Fits phases s'.writer) (hlate : ∀ k, ¬task.GetsIn s k)
    (hwriter : (∀ ticket, ¬task.Entered ticket) → s'.writer = s.writer ∨ s'.writer = none) :
    Proceeds phases s task s' after none where
  speaks := .hush hhush
  inTurn := by rintro _ _ ⟨⟩
  fits := hfits
  welcomes := hwelcomes
  late := by rintro _ _ ⟨⟩
  getsIn := fun k hgets => absurd hgets (hlate k)
  aside := fun hidle => ⟨rfl, hwriter hidle⟩

/-! ### Questions and notifications -/

/-- Someone who has nothing to do with the guard says nothing. -/
theorem Proceeds.still {after : Option SessionTask} (hwelcomes : Welcomes phases s)
    (hstill : Still s s') (haside : Aside s s') (hfits : ∀ task', after = some task' →
      task'.Fits phases s'.writer) (hlate : ∀ k, ¬task.GetsIn s k) :
    Proceeds phases s task s' after none :=
  .hush hstill.hush (hwelcomes.aside haside) hfits hlate fun _ => haside.writer

/-- Someone who has nothing to do with the guard says a word of work. -/
theorem Proceeds.work {after : Option SessionTask} (hwelcomes : Welcomes phases s)
    (htells : Tells link .work s s') (haside : Aside s s') (hphase : phases link = some phase)
    (hwork : phase.isAtWork = true) (hfits : ∀ task', after = some task' →
      task'.Fits phases s'.writer) (hlate : phase.isOver = true → task.GetsIn s link)
    (hlink : ∀ k, task.GetsIn s k → k = link) :
    Proceeds phases s task s' after (some (link, .work)) := by
  have hsame : phases.after (some (link, .work)) = phases := Phases.after_work hphase hwork
  refine ⟨.word _ _ htells, ?_, by rwa [hsame], by rw [hsame]; exact hwelcomes.aside haside, ?_, ?_,
    fun _ => ⟨hsame, haside.writer⟩⟩
  · rintro _ _ ⟨⟩
    refine ⟨phase, ?_⟩
    rw [hphase]
    cases phase <;> first | rfl | cases hwork
  · rintro _ other ⟨⟩ hother hover
    obtain rfl : phase = other := Option.some.inj (hphase.symm.trans hother)
    exact hlate hover
  · intro k hgets
    rw [hlink k hgets]

namespace SessionTask

/-- A question ends without a word. -/
theorem still_answer (query : Query) (s : Session) (result : Except SessionError Json) :
    Still s (QueryPoint.afterCall query (s, .finished result)).1 ∧
      (QueryPoint.afterCall query (s, .finished result)).2.point? = none := by
  simp only [QueryPoint.afterCall, QueryPoint.finish]
  split
  · exact ⟨still_of_links rfl, rfl⟩
  · dsimp only
    split
    · exact ⟨still_of_links rfl, rfl⟩
    · exact ⟨.refl s, rfl⟩

/-- A question that has come to its end says nothing. -/
theorem proceeds_answer (hwelcomes : Welcomes phases s) {query : Query}
    {result : Except SessionError Json} (hstill : Still s m)
    (haside : Aside s (QueryPoint.afterCall query (m, .finished result)).1)
    (hlate : ∀ k, ¬task.GetsIn s k) :
    Proceeds phases s task (QueryPoint.afterCall query (m, .finished result)).1
      ((QueryPoint.afterCall query (m, .finished result)).2.point?.map ask) none := by
  obtain ⟨hanswer, hnone⟩ := still_answer query m result
  refine .still hwelcomes (hstill.trans hanswer) haside ?_ hlate
  rw [hnone]
  rintro _ ⟨⟩

/-- A question is put to a session that takes requests, and so to a server that is at work. -/
theorem proceeds_query (now : Instant) (query : Query) (hwelcomes : Welcomes phases s) :
    ∃ said, Proceeds phases s (.ask (.starting query)) (QueryPoint.step now (.starting query) s).1
      ((QueryPoint.step now (.starting query) s).2.point?.map ask) said := by
  have haside := (QueryPoint.drift_step now (.starting query) s).aside
  have hnever (k : LinkId) : ¬(ask (.starting query)).GetsIn s k := not_getsIn rfl s k
  simp only [QueryPoint.step] at haside ⊢
  by_cases haccepts : s.state.acceptsRequests = true
  · rw [if_pos haccepts] at haside ⊢
    cases hwriter : s.writer with
    | none =>
      simp only [CallPoint.step, hwriter] at haside ⊢
      exact ⟨none, proceeds_answer hwelcomes (.refl s) haside hnever⟩
    | some link =>
      have hphase : phases link = some .working := hwelcomes haccepts link hwriter
      have hmoves := CallPoint.starting_moves now (.query query) s.settings.requestTimeout hwriter
      generalize CallPoint.step now (.starting (.query query) s.settings.requestTimeout) s =
        stepped at haside hmoves
      cases hmoves with
      | sent m reply tells =>
        refine ⟨_, .work hwelcomes tells haside hphase rfl ?_ (by rintro ⟨⟩)
          fun k hgets => absurd hgets (hnever k)⟩
        rintro _ ⟨⟩
        trivial
      | waits m reply send still link_eq word_eq =>
        refine ⟨none, .still hwelcomes still haside ?_ hnever⟩
        rintro _ ⟨⟩
        exact ⟨word_eq, .working, link_eq ▸ hphase, rfl⟩
      | refused m still closed =>
        exact ⟨none, proceeds_answer hwelcomes still haside hnever⟩
      | blocks m still => exact ⟨none, .still hwelcomes still haside (by rintro _ ⟨⟩) hnever⟩
  · rw [if_neg haccepts] at haside ⊢
    exact ⟨none, .still hwelcomes (.refl s) haside (by rintro _ ⟨⟩) hnever⟩

theorem proceeds_ask (now : Instant) {point : QueryPoint} (hfits : (ask point).Fits phases s.writer)
    (hwelcomes : Welcomes phases s) : ∃ said, Proceeds phases s (.ask point) (point.step now s).1
      ((point.step now s).2.point?.map ask) said := by
  have haside := (point.drift_step now s).aside
  cases point with
  | starting query => exact proceeds_query now query hwelcomes
  | calling query call =>
    simp only [QueryPoint.step] at haside ⊢
    cases call with
    | starting call timeout => exact hfits.elim
    | sending reply send =>
      obtain ⟨hword, phase, hphase, hwork⟩ := hfits
      have hgets (k : LinkId) : (ask (.calling query (.sending reply send))).GetsIn s k ↔
          send.link = k ∧ (send.step s).2 = .finished true := getsIn_iff_of_late rfl
      have hmoves := send.step_moves s
      simp only [CallPoint.step] at haside ⊢
      generalize send.step s = stepped at haside hgets hmoves
      cases hmoves with
      | sent m puts =>
        refine ⟨_, .work hwelcomes (puts.tells hword) haside hphase hwork ?_
          (fun _ => (hgets _).mpr ⟨rfl, rfl⟩) fun k h => ((hgets k).mp h).1.symm⟩
        rintro _ ⟨⟩
        trivial
      | refused m still closed =>
        refine ⟨none, proceeds_answer hwelcomes
          (still.trans (CallPoint.still_refuse m reply send.link)) haside fun k h => ?_⟩
        cases ((hgets k).mp h).2
      | waits m send' still isOpen link_eq item_eq =>
        refine ⟨none, .still hwelcomes still haside ?_ fun k h => by cases ((hgets k).mp h).2⟩
        rintro _ ⟨⟩
        exact ⟨item_eq ▸ hword, phase, link_eq ▸ hphase, hwork⟩
      | blocks =>
        exact ⟨none, .still hwelcomes (.refl s) haside (by rintro _ ⟨⟩)
          fun k h => by cases ((hgets k).mp h).2⟩
    | waiting reply link =>
      have hnever (k : LinkId) : ¬(ask (.calling query (.waiting reply link))).GetsIn s k :=
        not_getsIn rfl s k
      have hstill := CallPoint.still_waiting now reply link s
      generalize hcall : CallPoint.step now (.waiting reply link) s = stepped at haside hstill
      obtain ⟨m, progress⟩ := stepped
      cases progress with
      | blocked => exact ⟨none, .still hwelcomes hstill haside (by rintro _ ⟨⟩) hnever⟩
      | finished result => exact ⟨none, proceeds_answer hwelcomes hstill haside hnever⟩
      | moved call =>
        simp only [CallPoint.step] at hcall
        split at hcall <;> cases hcall

theorem proceeds_notify (point : NoticePoint) (hfits : (notify point).Fits phases s.writer)
    (hwelcomes : Welcomes phases s) : ∃ said, Proceeds phases s (.notify point) (point.step s).1
      ((point.step s).2.point?.map notify) said := by
  have haside := (point.quiet_step s).aside
  cases point with
  | starting notice =>
    have hnever (k : LinkId) : ¬(notify (.starting notice)).GetsIn s k := not_getsIn rfl s k
    simp only [NoticePoint.step] at haside ⊢
    by_cases haccepts : s.state.acceptsRequests = true
    · rw [if_pos haccepts] at haside ⊢
      cases hwriter : s.writer with
      | none => exact ⟨none, .still hwelcomes (.refl s) (.refl s) (by rintro _ ⟨⟩) hnever⟩
      | some link =>
        have hphase : phases link = some .working := hwelcomes haccepts link hwriter
        have hmoves := SendPoint.begin_moves s link (.notice notice)
        simp only [hwriter] at haside
        dsimp only
        generalize SendPoint.begin s link (.notice notice) = stepped at haside hmoves
        cases hmoves with
        | sent m puts =>
          exact ⟨_, .work hwelcomes (puts.tells hfits) haside hphase rfl (by rintro _ ⟨⟩)
            (by rintro ⟨⟩) fun k hgets => absurd hgets (hnever k)⟩
        | refused m still closed =>
          exact ⟨none, .still hwelcomes still haside (by rintro _ ⟨⟩) hnever⟩
        | waits m send still isOpen link_eq item_eq =>
          refine ⟨none, .still hwelcomes still haside ?_ hnever⟩
          rintro _ ⟨⟩
          exact ⟨item_eq ▸ hfits, .working, link_eq ▸ hphase, rfl⟩
        | blocks => exact ⟨none, .still hwelcomes (.refl s) haside (by rintro _ ⟨⟩) hnever⟩
    · rw [if_neg haccepts] at haside ⊢
      exact ⟨none, .still hwelcomes (.refl s) haside (by rintro _ ⟨⟩) hnever⟩
  | sending send =>
    obtain ⟨hword, phase, hphase, hwork⟩ := hfits
    have hgets (k : LinkId) : (notify (.sending send)).GetsIn s k ↔
        send.link = k ∧ (send.step s).2 = .finished true := getsIn_iff_of_late rfl
    have hmoves := send.step_moves s
    simp only [NoticePoint.step] at haside ⊢
    generalize send.step s = stepped at haside hgets hmoves
    cases hmoves with
    | sent m puts =>
      exact ⟨_, .work hwelcomes (puts.tells hword) haside hphase hwork (by rintro _ ⟨⟩)
        (fun _ => (hgets _).mpr ⟨rfl, rfl⟩) fun k h => ((hgets k).mp h).1.symm⟩
    | refused m still closed =>
      exact ⟨none, .still hwelcomes still haside (by rintro _ ⟨⟩)
        fun k h => by cases ((hgets k).mp h).2⟩
    | waits m send' still isOpen link_eq item_eq =>
      refine ⟨none, .still hwelcomes still haside ?_ fun k h => by cases ((hgets k).mp h).2⟩
      rintro _ ⟨⟩
      exact ⟨item_eq ▸ hword, phase, link_eq ▸ hphase, hwork⟩
    | blocks =>
      exact ⟨none, .still hwelcomes (.refl s) haside (by rintro _ ⟨⟩)
        fun k h => by cases ((hgets k).mp h).2⟩

end SessionTask

end SymbolSearch
