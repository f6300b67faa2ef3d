import SymbolSearch.Proofs.Session.Guarded
import SymbolSearch.Proofs.Session.Unguarded
import SymbolSearch.Proofs.Sync.Line

/-!
# Who has the guard

Between any two events of a run at most one operation is at work with the guard, and how far it has
come says what the session looks like.

* `SessionTask.ticket?` and `SessionTask.Entered` — the place of an operation in the line, and
  whether it has begun to work with the guard.
* `Busy` — what the session looks like while an operation works.
* `SessionRun.Orderly` — what holds between any two events; `SessionRun.orderly_after` shows it.
-/

namespace SymbolSearch

namespace SessionTask

/-- The ticket with which an operation waits for the guard, or has it. -/
def ticket? : SessionTask → Option Ticket
  | .ensure (.queued ticket) | .ensure (.launching ticket) | .ensure (.linked ticket _)
  | .ensure (.greeting ticket _ _) | .ensure (.confirming ticket _ _ _)
  | .stop (.queued ticket) | .stop (.parting ticket _) | .stop (.farewell ticket _)
  | .stop (.exiting ticket _) | .stop (.finishing ticket _) | .stop (.reaping ticket _ _)
  | .stop (.killing ticket _) | .stop (.draining ticket _ _)
  | .reset (.queued ticket) | .checkAlive (.queued ticket) => some ticket
  | _ => none

/-- Whether an operation is at work with the guard, as the holder of a ticket. -/
def Entered (ticket : Ticket) : SessionTask → Prop
  | .ensure (.launching held) => held = ticket
  | .ensure point => point.Greets ticket
  | .stop point => point.Closes ticket
  | _ => False

theorem Entered.ticket_eq {ticket : Ticket} {task : SessionTask} (h : task.Entered ticket) :
    task.ticket? = some ticket := by
  unfold Entered at h
  split at h
  · exact congrArg some h
  next point _ => cases point <;> first | exact congrArg some h | exact h.elim
  next point => cases point <;> first | exact congrArg some h | exact h.elim
  · exact h.elim

end SessionTask

/-- What a session looks like while an operation is at work with the guard. -/
inductive Busy (s : Session) (ticket : Ticket) : SessionTask → Prop where
  | launching (state : s.state = .spawning) (connection : s.connection = none) :
      Busy s ticket (.ensure (.launching ticket))
  | greeting (point : EnsurePoint) (greets : point.Greets ticket)
      (state : s.state = .handshaking ∨ s.state = .crashed ∧ s.writer = none) :
      Busy s ticket (.ensure point)
  | closing (point : StopPoint) (closes : point.Closes ticket) (state : s.state = .closing)
      (taken : point.link? ≠ none → s.connection = none) : Busy s ticket (.stop point)

theorem Busy.congr {s s' : Session} {ticket : Ticket} {task : SessionTask} (h : Busy s ticket task)
    (hstate : s'.state = s.state) (hconnection : s'.connection = s.connection)
    (hwriter : s'.writer = s.writer) : Busy s' ticket task := by
  cases h with
  | launching state connection =>
    exact .launching (hstate.trans state) (hconnection.trans connection)
  | greeting point greets state =>
    exact .greeting point greets (by rwa [hstate, hwriter])
  | closing point closes state taken =>
    exact .closing point closes (hstate.trans state) (hconnection ▸ taken)

/-- What a session looks like while no operation is at work with the guard. -/
structure Session.Free (s : Session) : Prop where
  not_spawning : s.state ≠ .spawning
  not_handshaking : s.state ≠ .handshaking
  reader : ∀ k, s.ReaderAlive k → k + 1 = s.links.length ∧ s.connection = some k

namespace Session

variable {s : Session}

/-- No reader is left when the connection is given up. -/
theorem Free.not_readerAlive (h : s.Free) (k : LinkId) : ¬s.dropConnection.ReaderAlive k := by
  intro hk
  obtain ⟨halive, hne⟩ := readerAlive_dropConnection hk
  exact hne (h.reader k halive).2

theorem turns_resetNow (s : Session) : s.resetNow.1.turns = s.turns := by
  have hreset := (quiet_releaseWriter s.dropConnection).turns.trans (turns_dropConnection s)
  unfold resetNow
  split
  · exact hreset
  · exact hreset
  · rfl

theorem Free.resetNow (h : s.Free) : s.resetNow.1.Free := by
  have hnone (k : LinkId) (hk : s.dropConnection.releaseWriter.ReaderAlive k) : False :=
    h.not_readerAlive k ((quiet_releaseWriter s.dropConnection).readers k hk)
  have hidle (s' : Session) (hlinks : s'.links = s.dropConnection.releaseWriter.links)
      (hstate : s'.state = .idle) : s'.Free := by
    refine ⟨by rw [hstate]; decide, by rw [hstate]; decide, ?_⟩
    rintro k ⟨link, hlink, halive⟩
    exact (hnone k ⟨link, hlinks ▸ hlink, halive⟩).elim
  unfold Session.resetNow
  split
  · exact hidle _ rfl rfl
  · exact hidle _ rfl rfl
  · exact h

end Session

/-- The link that an operation has taken from the session. -/
def SessionTask.link? : SessionTask → Option LinkId
  | .stop point => point.link?
  | _ => none

namespace SessionTask

variable {ticket : Ticket}

theorem entered_of_greets {point : EnsurePoint} (h : point.Greets ticket) :
    (ensure point).Entered ticket := by
  cases point <;> first | exact h | exact h.elim

theorem entered_of_closes {point : StopPoint} (h : point.Closes ticket) :
    (stop point).Entered ticket := h

theorem entered_of_link {task : SessionTask} {k : LinkId} (h : task.link? = some k) :
    ∃ ticket, task.Entered ticket := by
  cases task with
  | stop point =>
    cases point with
    | reaping held | killing held | draining held => exact ⟨held, rfl⟩
    | asking | queued | parting | farewell | exiting | finishing => cases h
  | ensure | ask | notify | reset | checkAlive => cases h

end SessionTask

namespace SessionRun

/-- An operation that has not ended. -/
def Runs (run : SessionRun) (i : Nat) (task : SessionTask) : Prop :=
  run.tasks[i]? = some (.waiting task)

/-- What holds between any two events. -/
structure Orderly (run : SessionRun) : Prop where
  distinct : ∀ i j task task' ticket, run.Runs i task → run.Runs j task' →
    task.ticket? = some ticket → task'.ticket? = some ticket → i = j
  lt_next : ∀ i task ticket, run.Runs i task → task.ticket? = some ticket →
    ticket < run.session.turns.next
  holds : ∀ i task ticket, run.Runs i task → task.Entered ticket →
    run.session.turns.holder = some ticket
  busy : ∀ i task ticket, run.Runs i task → task.Entered ticket → Busy run.session ticket task
  spawning : run.session.state = .spawning → ∃ i ticket, run.Runs i (.ensure (.launching ticket))
  handshaking : run.session.state = .handshaking →
    ∃ i point ticket, run.Runs i (.ensure point) ∧ point.Greets ticket
  reader : ∀ k, run.session.ReaderAlive k → k + 1 = run.session.links.length ∧
    (run.session.connection = some k ∨ ∃ i task, run.Runs i task ∧ task.link? = some k)

variable {run run' : SessionRun} {i : Nat} {task task' : SessionTask} {ticket : Ticket}
  {s' : Session}

/-! ### One operation at a time -/

/-- Two operations do not have the guard at the same time. -/
theorem Orderly.eq_of_holder (h : run.Orderly) {j : Nat} {ticket' : Ticket} (hi : run.Runs i task)
    (hticket : task.ticket? = some ticket) (hholder : run.session.turns.holder = some ticket)
    (hj : run.Runs j task') (hentered : task'.Entered ticket') : i = j := by
  have hholder' := h.holds j task' ticket' hj hentered
  obtain rfl : ticket = ticket' := Option.some.inj (hholder.symm.trans hholder')
  exact h.distinct i j task task' ticket hi hj hticket hentered.ticket_eq

theorem eq_of_runs (h : run.Runs i task) (h' : run.Runs i task') : task = task' := by
  have heq := Option.some.inj (h.symm.trans h')
  cases heq
  rfl

theorem Orderly.free (h : run.Orderly) (hi : run.Runs i task) (hticket : task.ticket? = some ticket)
    (hholder : run.session.turns.holder = some ticket) (hidle : ∀ ticket, ¬task.Entered ticket) :
    run.session.Free := by
  -- Whoever is at work has the guard, and the one who has it has not begun.
  have hnone {j : Nat} {task' : SessionTask} {ticket' : Ticket} (hj : run.Runs j task')
      (hentered : task'.Entered ticket') : False := by
    obtain rfl := h.eq_of_holder hi hticket hholder hj hentered
    rw [eq_of_runs hi hj] at hidle
    exact hidle ticket' hentered
  constructor
  · intro hstate
    obtain ⟨j, ticket', hj⟩ := h.spawning hstate
    exact hnone hj (show ticket' = ticket' from rfl)
  · intro hstate
    obtain ⟨j, point, ticket', hj, hgreets⟩ := h.handshaking hstate
    exact hnone hj (SessionTask.entered_of_greets hgreets)
  · intro k hk
    obtain ⟨hlast, hconnection | ⟨j, task', hj, hlink⟩⟩ := h.reader k hk
    · exact ⟨hlast, hconnection⟩
    · obtain ⟨ticket', hentered⟩ := SessionTask.entered_of_link hlink
      exact (hnone hj hentered).elim

/-! ### What each kind of event keeps -/

/-- No reader is there while a server is launched. -/
theorem Orderly.not_readerAlive (h : run.Orderly) (hstate : run.session.state = .spawning)
    (k : LinkId) : ¬run.session.ReaderAlive k := by
  intro hk
  obtain ⟨i, ticket, hi⟩ := h.spawning hstate
  have hlaunching : (SessionTask.ensure (.launching ticket)).Entered ticket := rfl
  cases h.busy i _ ticket hi hlaunching with
  | greeting _ greets => exact greets
  | launching _ connection =>
    -- The connection was given up before, and the one who launches has taken no link.
    obtain ⟨-, hconnection | ⟨j, task, hj, hlink⟩⟩ := h.reader k hk
    · rw [connection] at hconnection
      cases hconnection
    · obtain ⟨ticket', hentered⟩ := SessionTask.entered_of_link hlink
      obtain rfl := h.eq_of_holder hi rfl (h.holds i _ ticket hi hlaunching) hj hentered
      rw [eq_of_runs hj hi] at hlink
      cases hlink

theorem Orderly.busy_drift (h : run.Orderly) (hbusy : Busy run.session ticket task)
    (hdrift : run.session.Drift s') : Busy s' ticket task := by
  cases hbusy with
  | launching state connection =>
    refine .launching ?_ (hdrift.connection.trans connection)
    cases hdrift.state with
    | stays hstays => exact hstays.trans state
    | degraded hready => exact absurd (hready.symm.trans state) (by decide)
    | recovered hdegraded => exact absurd (hdegraded.symm.trans state) (by decide)
    | lost _ _ _ hreader =>
      -- A reader would have noticed, and none is there while a server is launched.
      obtain ⟨k, hk⟩ := hreader
      exact absurd hk (h.not_readerAlive state k)
  | greeting point greets state =>
    refine .greeting point greets ?_
    cases hdrift.state with
    | stays hstays =>
      rcases state with hhandshaking | ⟨hcrashed, hnone⟩
      · exact .inl (hstays.trans hhandshaking)
      · exact .inr ⟨hstays.trans hcrashed, hdrift.writer_eq_none hnone⟩
    | degraded hready => simp [hready] at state
    | recovered hdegraded => simp [hdegraded] at state
    | lost _ hcrashed hnone => exact .inr ⟨hcrashed, hnone⟩
  | closing point closes state taken =>
    refine .closing point closes ?_ fun hlink => hdrift.connection.trans (taken hlink)
    cases hdrift.state with
    | stays hstays => exact hstays.trans state
    | degraded hready => exact absurd (hready.symm.trans state) (by decide)
    | recovered hdegraded => exact absurd (hdegraded.symm.trans state) (by decide)
    | lost hbefore => simp [state] at hbefore

/-- An event that leaves the guard and those in line for it alone. -/
theorem Orderly.drift (h : run.Orderly) (hdrift : run.session.Drift run'.session)
    (htasks : ∀ i task ticket, task.ticket? = some ticket → (run'.Runs i task ↔ run.Runs i task)) :
    run'.Orderly where
  distinct := by
    intro i j task task' ticket hi hj hticket hticket'
    exact h.distinct i j task task' ticket ((htasks i task ticket hticket).mp hi)
      ((htasks j task' ticket hticket').mp hj) hticket hticket'
  lt_next := by
    intro i task ticket hi hticket
    rw [hdrift.turns]
    exact h.lt_next i task ticket ((htasks i task ticket hticket).mp hi) hticket
  holds := by
    intro i task ticket hi hentered
    rw [hdrift.turns]
    exact h.holds i task ticket ((htasks i task ticket hentered.ticket_eq).mp hi) hentered
  busy := by
    intro i task ticket hi hentered
    have hbusy := h.busy i task ticket ((htasks i task ticket hentered.ticket_eq).mp hi) hentered
    exact h.busy_drift hbusy hdrift
  spawning := by
    intro hstate
    obtain ⟨i, ticket, hi⟩ := h.spawning ((hdrift.state.eq_of_starting (.inl hstate)).trans hstate)
    exact ⟨i, ticket, (htasks i _ ticket rfl).mpr hi⟩
  handshaking := by
    intro hstate
    obtain ⟨i, point, ticket, hi, hgreets⟩ :=
      h.handshaking ((hdrift.state.eq_of_starting (.inr hstate)).trans hstate)
    have hticket := (SessionTask.entered_of_greets hgreets).ticket_eq
    exact ⟨i, point, ticket, (htasks i _ ticket hticket).mpr hi, hgreets⟩
  reader := by
    intro k hk
    rw [hdrift.length, hdrift.connection]
    obtain ⟨hlast, hconnection | ⟨i, task, hi, hlink⟩⟩ := h.reader k (hdrift.readers k hk)
    · exact ⟨hlast, .inl hconnection⟩
    · obtain ⟨ticket, hentered⟩ := SessionTask.entered_of_link hlink
      exact ⟨hlast, .inr ⟨i, task, (htasks i task ticket hentered.ticket_eq).mpr hi, hlink⟩⟩

/-- Which operations there are after one of them has gone on. -/
theorem runs_setTask (hi : run.Runs i task) (standing : Standing SessionTask SessionReply)
    (j : Nat) :
    (run.setTask i s' standing).Runs j task' ↔
      i = j ∧ standing = .waiting task' ∨ i ≠ j ∧ run.Runs j task' := by
  have hlt : i < run.tasks.length := (List.getElem?_eq_some_iff.mp hi).1
  rw [Runs, setTask, List.getElem?_set]
  by_cases hj : i = j
  · simp [hj, hj ▸ hlt]
  · simp [hj, Runs]

/-- The holder of the guard goes on with it. -/
theorem Orderly.keep (h : run.Orderly) (hi : run.Runs i task) (hticket : task.ticket? = some ticket)
    (hholder : run.session.turns.holder = some ticket) (hturns : s'.turns = run.session.turns)
    (hentered : task'.Entered ticket) (hbusy : Busy s' ticket task')
    (hreader : ∀ k, s'.ReaderAlive k → k + 1 = s'.links.length ∧
      (s'.connection = some k ∨ task'.link? = some k)) :
    (run.setTask i s' (.waiting task')).Orderly := by
  have hruns {j : Nat} {other : SessionTask} :
      (run.setTask i s' (.waiting task')).Runs j other ↔
        i = j ∧ task' = other ∨ i ≠ j ∧ run.Runs j other := by
    rw [runs_setTask hi, Standing.waiting.injEq]
  have hself : (run.setTask i s' (.waiting task')).Runs i task' := hruns.mpr (.inl ⟨rfl, rfl⟩)
  -- Every ticket was there before, and nobody else is at work.
  have hbefore {j : Nat} {other : SessionTask} {held : Ticket}
      (hj : (run.setTask i s' (.waiting task')).Runs j other) (hheld : other.ticket? = some held) :
      ∃ before, run.Runs j before ∧ before.ticket? = some held := by
    rcases hruns.mp hj with ⟨rfl, rfl⟩ | ⟨-, hj⟩
    · exact ⟨task, hi, hticket.trans (hentered.ticket_eq.symm.trans hheld)⟩
    · exact ⟨other, hj, hheld⟩
  have hworks {j : Nat} {other : SessionTask} {held : Ticket}
      (hj : (run.setTask i s' (.waiting task')).Runs j other) (hother : other.Entered held) :
      task' = other ∧ ticket = held := by
    rcases hruns.mp hj with ⟨rfl, rfl⟩ | ⟨hne, hj⟩
    · exact ⟨rfl, Option.some.inj (hentered.ticket_eq.symm.trans hother.ticket_eq)⟩
    · exact absurd (h.eq_of_holder hi hticket hholder hj hother) hne
  exact {
    distinct := by
      intro j j' other other' held hj hj' hheld hheld'
      obtain ⟨before, hrun, hsame⟩ := hbefore hj hheld
      obtain ⟨before', hrun', hsame'⟩ := hbefore hj' hheld'
      exact h.distinct j j' before before' held hrun hrun' hsame hsame'
    lt_next := by
      intro j other held hj hheld
      obtain ⟨before, hrun, hsame⟩ := hbefore hj hheld
      exact hturns ▸ h.lt_next j before held hrun hsame
    holds := by
      intro j other held hj hother
      obtain ⟨rfl, rfl⟩ := hworks hj hother
      exact hturns ▸ hholder
    busy := by
      intro j other held hj hother
      obtain ⟨rfl, rfl⟩ := hworks hj hother
      exact hbusy
    spawning := by
      intro hstate
      cases hbusy with
      | launching => exact ⟨i, ticket, hself⟩
      | greeting _ _ state =>
        rcases state with hhandshaking | ⟨hcrashed, -⟩
        · exact absurd (hhandshaking.symm.trans hstate) (by decide)
        · exact absurd (hcrashed.symm.trans hstate) (by decide)
      | closing _ _ state => exact absurd (state.symm.trans hstate) (by decide)
    handshaking := by
      intro hstate
      cases hbusy with
      | launching state => exact absurd (state.symm.trans hstate) (by decide)
      | greeting point greets => exact ⟨i, point, ticket, hself, greets⟩
      | closing _ _ state => exact absurd (state.symm.trans hstate) (by decide)
    reader := by
      intro k hk
      obtain ⟨hlast, hconnection | hlink⟩ := hreader k hk
      · exact ⟨hlast, .inl hconnection⟩
      · exact ⟨hlast, .inr ⟨i, task', hself, hlink⟩⟩ }

/-- The holder of the guard gives it up. -/
theorem Orderly.leave (h : run.Orderly) (hi : run.Runs i task)
    (hticket : task.ticket? = some ticket)
    (hholder : run.session.turns.holder = some ticket)
    (hturns : s'.turns = run.session.turns.leave ticket)
    {standing : Standing SessionTask SessionReply}
    (hstanding : ∀ task', standing = .waiting task' → task'.ticket? = none) (hfree : s'.Free) :
    (run.setTask i s' standing).Orderly := by
  -- The operation is out of the line, and everyone else in it was there before.
  have hbefore {j : Nat} {other : SessionTask} {held : Ticket}
      (hj : (run.setTask i s' standing).Runs j other) (hheld : other.ticket? = some held) :
      i ≠ j ∧ run.Runs j other := by
    refine ((runs_setTask hi standing j).mp hj).resolve_left ?_
    rintro ⟨-, hwaiting⟩
    rw [hstanding other hwaiting] at hheld
    cases hheld
  have hnone {j : Nat} {other : SessionTask} {held : Ticket}
      (hj : (run.setTask i s' standing).Runs j other) (hother : other.Entered held) : False := by
    obtain ⟨hne, hrun⟩ := hbefore hj hother.ticket_eq
    exact hne (h.eq_of_holder hi hticket hholder hrun hother)
  exact {
    distinct := by
      intro j j' other other' held hj hj' hheld hheld'
      exact h.distinct j j' other other' held (hbefore hj hheld).2 (hbefore hj' hheld').2 hheld
        hheld'
    lt_next := by
      intro j other held hj hheld
      show held < s'.turns.next
      rw [hturns, Turns.next_leave]
      exact h.lt_next j other held (hbefore hj hheld).2 hheld
    holds := fun j other held hj hother => (hnone hj hother).elim
    busy := fun j other held hj hother => (hnone hj hother).elim
    spawning := fun hstate => absurd hstate hfree.not_spawning
    handshaking := fun hstate => absurd hstate hfree.not_handshaking
    reader := fun k hk => ⟨(hfree.reader k hk).1, .inl (hfree.reader k hk).2⟩ }

/-- An operation gets in line for the guard. -/
theorem Orderly.join (h : run.Orderly) (hi : run.Runs i task) (hticket : task.ticket? = none)
    (hticket' : task'.ticket? = some run.session.turns.join.1)
    (hidle : ∀ ticket, ¬task'.Entered ticket) :
    (run.setTask i { run.session with turns := run.session.turns.join.2 }
      (.waiting task')).Orderly := by
  generalize hs : ({ run.session with turns := run.session.turns.join.2 } : Session) = s'
  have hold {j : Nat} {other : SessionTask} {held : Ticket} (hj : run.Runs j other)
      (hheld : other.ticket? = some held) : (run.setTask i s' (.waiting task')).Runs j other := by
    refine (runs_setTask hi _ j).mpr (.inr ⟨?_, hj⟩)
    rintro rfl
    rw [eq_of_runs hi hj, hheld] at hticket
    cases hticket
  -- A ticket is the new one, or was there before and is smaller.
  have hnew {j : Nat} {other : SessionTask} {held : Ticket}
      (hj : (run.setTask i s' (.waiting task')).Runs j other) (hheld : other.ticket? = some held) :
      i = j ∧ held = run.session.turns.next ∨ held < run.session.turns.next ∧ run.Runs j other := by
    rcases (runs_setTask hi _ j).mp hj with ⟨rfl, hwaiting⟩ | ⟨-, hj⟩
    · obtain rfl := Standing.waiting.inj hwaiting
      rw [hticket', Turns.join_ticket] at hheld
      exact .inl ⟨rfl, (Option.some.inj hheld).symm⟩
    · exact .inr ⟨h.lt_next j other held hj hheld, hj⟩
  have hworks {j : Nat} {other : SessionTask} {held : Ticket}
      (hj : (run.setTask i s' (.waiting task')).Runs j other) (hother : other.Entered held) :
      run.Runs j other := by
    rcases (runs_setTask hi _ j).mp hj with ⟨rfl, hwaiting⟩ | ⟨-, hj⟩
    · obtain rfl := Standing.waiting.inj hwaiting
      exact (hidle held hother).elim
    · exact hj
  exact {
    distinct := by
      intro j j' other other' held hj hj' hheld hheld'
      rcases hnew hj hheld with ⟨rfl, rfl⟩ | ⟨hlt, hrun⟩
      · rcases hnew hj' hheld' with ⟨rfl, -⟩ | ⟨hlt, -⟩
        · rfl
        · exact absurd hlt (Nat.lt_irrefl _)
      · rcases hnew hj' hheld' with ⟨-, rfl⟩ | ⟨-, hrun'⟩
        · exact absurd hlt (Nat.lt_irrefl _)
        · exact h.distinct j j' other other' held hrun hrun' hheld hheld'
    lt_next := by
      intro j other held hj hheld
      show held < s'.turns.next
      rw [← hs, Turns.next_join]
      rcases hnew hj hheld with ⟨-, rfl⟩ | ⟨hlt, -⟩
      · exact Nat.lt_succ_self _
      · exact Nat.lt_succ_of_lt hlt
    holds := by
      intro j other held hj hother
      show s'.turns.holder = some held
      rw [← hs]
      exact Turns.holder_join (h.holds j other held (hworks hj hother) hother)
    busy := by
      intro j other held hj hother
      have hbusy := h.busy j other held (hworks hj hother) hother
      exact hbusy.congr (by rw [← hs]; rfl) (by rw [← hs]; rfl) (by rw [← hs]; rfl)
    spawning := by
      intro hstate
      obtain ⟨j, held, hj⟩ := h.spawning (by rw [← hs] at hstate; exact hstate)
      exact ⟨j, held, hold hj rfl⟩
    handshaking := by
      intro hstate
      obtain ⟨j, point, held, hj, hgreets⟩ := h.handshaking (by rw [← hs] at hstate; exact hstate)
      exact ⟨j, point, held, hold hj (SessionTask.entered_of_greets hgreets).ticket_eq, hgreets⟩
    reader := by
      intro k hk
      obtain ⟨hlast, howner⟩ := h.reader k (by rw [← hs] at hk; exact hk)
      have hlast' : k + 1 = s'.links.length := by rw [← hs]; exact hlast
      have hconnection : s'.connection = run.session.connection := by rw [← hs]
      refine ⟨hlast', ?_⟩
      rcases howner with hsame | ⟨j, other, hj, hlink⟩
      · exact .inl (hconnection.trans hsame)
      · obtain ⟨held, hother⟩ := SessionTask.entered_of_link hlink
        exact .inr ⟨j, other, hold hj hother.ticket_eq, hlink⟩ }

end SessionRun
end SymbolSearch
