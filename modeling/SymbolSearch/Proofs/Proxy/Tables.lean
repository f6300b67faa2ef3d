import SymbolSearch.Proofs.Adapter.Replies
import SymbolSearch.Proofs.Proxy.Course

/-!
# Tables and lines of a proxy

What the sessions of a proxy and those who work on them know of each other, whatever passes and
operations do.

* `Workplace.desk` and `Workplace.ticket?` — the table of an adapter with the request that the job
  there has in flight, and the place of the job in the line for the session; `JobMove.deskMoves` and
  `JobMove.shifts` say what a move does to them.
* `ProxyMoment.delivery?` — the response that a moment brings to a request.
* `ProxyCourse.TableKept` — the tables, everyone's requests and the first responses fit together, and
  `ProxyCourse.InLine` — those in line for a session are those with a ticket; `TableKept.next` and
  `InLine.next` show that every event keeps both.
-/

namespace SymbolSearch

open Session

/-! ### At one adapter -/

/-- The ticket with which an operation waits for a session, or has it. A question does not need the
    session for itself. -/
def AdapterTask.ticket? : AdapterTask → Option Ticket
  | .inquiry _ => none
  | .onSession task => task.ticket?

/-- The session of an adapter. Before the adapter is made there is nothing in it. -/
def sessionOf (adapter? : Option Adapter) : Session :=
  (adapter?.map (·.session)).getD { settings := {}, hello := .error "" }

namespace Workplace

/-- The table of the session, and the request of the job. -/
def desk (place : Workplace) : Desk :=
  (sessionOf place.1).desk (place.2.bind AdapterTask.reply?)

/-- The line for the session. -/
def turns (place : Workplace) : Turns := (sessionOf place.1).turns

/-- The place of the job in the line. -/
def ticket? (place : Workplace) : Option Ticket := place.2.bind AdapterTask.ticket?

end Workplace

theorem Session.Shifts.turns_eq {now : Instant} {s s' : Session} (h : s.Shifts now s') :
    s'.turns = s.turns := by
  cases h with
  | stays core | fails core | succeeds core => exact (congrArg Session.turns core :)
  | lost _ core => exact (congrArg Session.turns core :)

namespace SessionTask

variable {now : Instant} {s : Session} {task : SessionTask} {ticket : Ticket}

/-- Whoever has a ticket asks for no other one. -/
theorem next_step (hticket : task.ticket? = some ticket) (hblocked : (task.step now s).2 ≠ .blocked) :
    (task.step now s).1.turns.next = s.turns.next := by
  have hguard {ρ : Type} {act : Session → Session × ρ} (hturns : (act s).1.turns = s.turns)
      {held : Ticket} (hgoes : ((GuardPoint.queued held).step act s).2 ≠ .blocked) :
      ((GuardPoint.queued held).step act s).1.turns.next = s.turns.next := by
    have hmoves := (GuardPoint.queued held).step_moves act s
    generalize (GuardPoint.queued held).step act s = stepped at hmoves hgoes
    cases hmoves with
    | blocks => exact absurd rfl hgoes
    | acts => exact (Turns.next_leave _ held).trans (congrArg Turns.next hturns)
  have hgoes {π ρ : Type} {stepped : Stepped Session π ρ} {make : π → SessionTask}
      {reply : ρ → SessionReply} (h : (stepped.map make reply).2 ≠ .blocked) :
      stepped.2 ≠ .blocked := Stepped.ne_blocked_of_map h
  cases task with
  | ask | notify => cases hticket
  | ensure point =>
    have hgoes := hgoes hblocked
    have hmoves := point.step_moves now s
    show (point.step now s).1.turns.next = s.turns.next
    generalize point.step now s = stepped at hmoves hgoes
    cases hmoves with
    | blocks => exact absurd rfl hgoes
    | joins | wakes => cases hticket
    | answers held | cools held => exact Turns.next_leave s.turns held
    | launches | relaunches => exact congrArg Turns.next (turns_dropConnection _)
    | fails held =>
      refine (Turns.next_leave _ held).trans ?_
      exact congrArg Turns.next (Keeps.markCrashed s now).turns
    | links => rfl
    | greets _ _ _ m _ quiet => exact congrArg Turns.next quiet.turns
    | crashes _ held m error _ quiet =>
      refine (Turns.next_leave _ held).trans (congrArg Turns.next ?_)
      exact (turns_dropConnection _).trans ((Keeps.markCrashed m now).turns.trans quiet.turns)
    | succeeds _ held m _ _ quiet =>
      exact (Turns.next_leave _ held).trans (congrArg Turns.next quiet.turns)
  | stop point =>
    have hgoes := hgoes hblocked
    have hmoves := point.step_moves now s
    show (point.step now s).1.turns.next = s.turns.next
    generalize point.step now s = stepped at hmoves hgoes
    cases hmoves with
    | blocks => exact absurd rfl hgoes
    | joins => cases hticket
    | leaves held => exact Turns.next_leave s.turns held
    | parts => rfl
    | goesOn _ _ _ m _ quiet | takes _ _ _ m _ _ quiet => exact congrArg Turns.next quiet.turns
    | finishes _ held m _ quiet =>
      exact (Turns.next_leave _ held).trans (congrArg Turns.next quiet.turns)
    | drains _ held => exact Turns.next_leave _ held
  | reset point =>
    cases point with
    | asking => cases hticket
    | queued held => exact hguard (turns_resetNow s) (hgoes hblocked)
  | checkAlive point =>
    cases point with
    | asking => cases hticket
    | queued held => exact hguard rfl (hgoes hblocked)

/-- What a step of an operation does to the line and to its place there. -/
theorem LineMoves.shifts {turns turns' : Turns} {after : Option SessionTask}
    (hmoves : LineMoves turns task after turns')
    (hnext : ∀ ticket, task.ticket? = some ticket → turns'.next = turns.next) :
    turns.Shifts task.ticket? turns' (after.bind ticket?) := by
  cases hmoves with
  | keeps _ _ turns_eq ticket_eq =>
    rw [turns_eq, ticket_eq]
    exact .stays _
  | joins task' _ turns_eq ticket_eq =>
    have hnone : task.ticket? = none := by
      cases hticket : task.ticket? with
      | none => rfl
      | some held =>
        have hsame := hnext held hticket
        rw [turns_eq, Turns.next_join] at hsame
        exact absurd hsame (Nat.succ_ne_self _)
    rw [hnone, turns_eq]
    show turns.Shifts none turns.join.2 task'.ticket?
    rw [ticket_eq]
    exact .joins
  | leaves _ _ held turns_eq ticket_eq gone =>
    rw [turns_eq, ticket_eq, gone]
    exact .leaves held

theorem shifts_step (hblocked : (task.step now s).2 ≠ .blocked) :
    s.turns.Shifts task.ticket? (task.step now s).1.turns
      ((task.step now s).2.point?.bind ticket?) :=
  (task.lineMoves_step now s hblocked).shifts fun _ hticket => next_step hticket hblocked

theorem next_cancel (task : SessionTask) (s : Session) :
    (task.cancel s).turns.next = s.turns.next := by
  have hmoves := task.lineMoves_cancel s
  generalize (task.cancel s).turns = turns' at hmoves
  cases hmoves with
  | keeps _ _ turns_eq => rw [turns_eq]
  | leaves _ _ held turns_eq => rw [turns_eq, Turns.next_leave]

theorem shifts_cancel (task : SessionTask) (s : Session) :
    s.turns.Shifts task.ticket? (task.cancel s).turns none :=
  (task.lineMoves_cancel s).shifts fun _ _ => task.next_cancel s

end SessionTask

/-- Those in line are those with a ticket, and nobody is in line twice. -/
structure Turns.InLine (turns : Turns) (ticketOf : Nat → Option Ticket) : Prop where
  serves : turns.Serves ticketOf fun _ => False
  lists : turns.Lists ticketOf

namespace Turns.InLine

variable {turns turns' : Turns} {ticketOf ticketOf' : Nat → Option Ticket} {i : Nat}

theorem nobody (hticket : ∀ i, ticketOf i = none) : ({} : Turns).InLine ticketOf where
  serves := .nobody _ hticket fun _ => id
  lists := {
    held := fun _ => rfl
    nodup := List.nodup_nil
    mem_iff := fun ticket => by
      constructor
      · rintro ⟨⟩
      · rintro ⟨j, hj⟩
        rw [hticket] at hj
        cases hj }

theorem shifts (h : turns.InLine ticketOf)
    (hshifts : turns.Shifts (ticketOf i) turns' (ticketOf' i))
    (hother : ∀ j, j ≠ i → ticketOf' j = ticketOf j) : turns'.InLine ticketOf' := by
  refine ⟨?_, h.lists.shifts h.serves hshifts hother⟩
  generalize hbefore : ticketOf i = before at hshifts
  generalize hnow : ticketOf' i = now at hshifts
  cases hshifts with
  | stays =>
    refine h.serves.keep (fun j => ?_) fun _ => False.elim
    by_cases hji : j = i
    · rw [hji, hbefore, hnow]
    · exact hother j hji
  | joins => exact h.serves.join hnow hother fun _ => False.elim
  | leaves ticket => exact h.serves.leave hbefore hnow hother fun _ => False.elim

end Turns.InLine

/-- If only one has a ticket, it is his turn. -/
theorem Turns.Lists.holds_of_alone {turns : Turns} {ticketOf : Nat → Option Ticket} {i : Nat}
    {ticket : Ticket} (h : turns.Lists ticketOf) (hi : ticketOf i = some ticket)
    (halone : ∀ j, j ≠ i → ticketOf j = none) : turns.holds ticket = true := by
  obtain ⟨held, hheld⟩ := h.exists_holder ((h.mem_iff ticket).mpr ⟨i, hi⟩)
  have hmem : held ∈ turns.line := by simp [line, hheld]
  obtain ⟨j, hj⟩ := (h.mem_iff held).mp hmem
  have hji : j = i := by
    by_contra hne
    rw [halone j hne] at hj
    cases hj
  rw [hji, hi] at hj
  rw [holds, hheld, ← Option.some.inj hj]
  exact beq_self_eq_true _

namespace JobMove

variable {now : Instant} {files : Option Tree} {place place' : Workplace}

/-- What a move does to the table and to the request of the job. -/
theorem deskMoves (h : JobMove now files place place') : DeskMoves place.desk place'.desk := by
  cases h with
  | made | forgets => exact .refl
  | begins adapter? call => cases call <;> exact .refl
  | goesOn adapter task goes =>
    have hdesk := task.desk_step now files adapter goes
    have hleft : (task.step now files adapter).2.left task.reply? AdapterTask.reply? =
        (task.step now files adapter).2.point?.bind AdapterTask.reply? := by
      cases hprogress : (task.step now files adapter).2 with
      | blocked => exact absurd hprogress goes
      | moved | finished => rfl
    rw [hleft] at hdesk
    exact hdesk
  | givesUp adapter? task =>
    cases adapter? with
    | some adapter => exact task.desk_cancel adapter
    | none =>
      -- Nothing is in the table, so nothing leaves it.
      show DeskMoves ⟨{}, 1, task.reply?⟩ ⟨{}, 1, none⟩
      cases task.reply? with
      | none => exact .refl
      | some reply => exact .single (.abandons {} 1 reply)

/-- What a move does to the line and to the place of the job. -/
theorem shifts (h : JobMove now files place place') :
    place.turns.Shifts place.ticket? place'.turns place'.ticket? := by
  have hquiet {turns turns' : Turns} {after : Option Ticket} (hturns : turns' = turns)
      (hafter : after = none) : turns.Shifts none turns' after := by
    rw [hturns, hafter]
    exact .stays _
  cases h with
  | made | forgets => exact .stays _
  | begins adapter? call => cases call <;> exact .stays _
  | goesOn adapter task goes =>
    cases task with
    | inquiry point =>
      refine hquiet (point.calm_step files adapter).shifts.turns_eq ?_
      show ((point.step now files adapter).2.map AdapterTask.inquiry _).point?.bind _ = none
      cases (point.step now files adapter).2 <;> rfl
    | onSession task =>
      have hsession : (task.step now adapter.session).2 ≠ .blocked := fun hblocked =>
        goes (congrArg (Progress.map _ _) hblocked)
      have hshifts := SessionTask.shifts_step hsession
      have hafter : (AdapterTask.step now files (.onSession task) adapter).2.point?.bind
          AdapterTask.ticket? = (task.step now adapter.session).2.point?.bind
            SessionTask.ticket? := by
        show ((task.step now adapter.session).2.map AdapterTask.onSession _).point?.bind _ = _
        cases (task.step now adapter.session).2 <;> rfl
      rw [← hafter] at hshifts
      exact hshifts
  | givesUp adapter? task =>
    cases task with
    | inquiry point =>
      refine hquiet ?_ rfl
      cases adapter? with
      | none => rfl
      | some adapter => exact (congrArg Session.turns (point.alike_cancel adapter).core :)
    | onSession task =>
      cases adapter? with
      | some adapter => exact task.shifts_cancel adapter.session
      | none =>
        show Turns.Shifts {} task.ticket? {} none
        cases task.ticket? with
        | none => exact .stays _
        | some ticket => exact .leaves ticket

theorem desk_moves (hmoves : JobMoves now files place place') :
    DeskMoves place.desk place'.desk := by
  induction hmoves with
  | refl => exact .refl
  | tail _ hmove ih => exact ih.trans hmove.deskMoves

/-- A table that fits to everyone's request still does after any moves. -/
theorem kept {replyOf : Nat → Option PendingReply} {first? : Nat → Option ResponseOutcome} {i : Nat}
    (hmoves : JobMoves now files place place')
    (h : Kept place.desk.pending place.desk.nextId (Function.update replyOf i place.desk.own)
      first?) :
    Kept place'.desk.pending place'.desk.nextId (Function.update replyOf i place'.desk.own)
      first? := by
  induction hmoves with
  | refl => exact h
  | tail _ hmove ih => exact ih.desk hmove.deskMoves

/-- Those in line are those with a ticket, still after any moves. -/
theorem inLine {ticketOf : Nat → Option Ticket} {i : Nat} (hmoves : JobMoves now files place place')
    (h : place.turns.InLine (Function.update ticketOf i place.ticket?)) :
    place'.turns.InLine (Function.update ticketOf i place'.ticket?) := by
  induction hmoves with
  | refl => exact h
  | @tail middle last _ hmove ih =>
    have hshifts := hmove.shifts
    have hself (place : Workplace) :
        Function.update ticketOf i place.ticket? i = place.ticket? := Function.update_self ..
    rw [← hself middle, ← hself last] at hshifts
    refine ih.shifts hshifts fun j hj => ?_
    rw [Function.update_of_ne hj, Function.update_of_ne hj]

end JobMove

/-! ### Responses -/

/-- What a moment brings to the request with an id at an adapter. -/
def ProxyMoment.delivery? (a : AdapterId) (id : Nat) (moment : ProxyMoment) :
    Option ResponseOutcome :=
  match moment.2 with
  | .occur event =>
    if event.adapter = a then
      (moment.1.shared.cache.session? a).bind fun s => s.brings? event.event id
    else none
  | _ => none

namespace ProxyCourse

/-- The request that is in flight at an adapter. -/
def repliesAt (course : ProxyCourse) (a : AdapterId) (i : Nat) : Option PendingReply :=
  (course.jobsAt a i).bind AdapterTask.reply?

/-- The ticket for the session of an adapter. -/
def ticketsAt (course : ProxyCourse) (a : AdapterId) (i : Nat) : Option Ticket :=
  (course.jobsAt a i).bind AdapterTask.ticket?

/-- The session of an adapter. -/
def sessionAt (course : ProxyCourse) (a : AdapterId) : Session :=
  sessionOf course.shared.cache.adapters[a]?

/-- The first response that a request at an adapter was brought. -/
def firstReplyAt? (past : List ProxyMoment) (a : AdapterId) (id : Nat) : Option ResponseOutcome :=
  (past.filterMap (ProxyMoment.delivery? a id)).head?

/-- The tables of requests, everyone's requests and the first responses fit together. -/
def TableKept (past : List ProxyMoment) (course : ProxyCourse) : Prop :=
  ∀ a, Kept (course.sessionAt a).pending (course.sessionAt a).nextId (course.repliesAt a)
    (firstReplyAt? past a)

/-- Those in line for a session are those with a ticket. -/
def InLine (course : ProxyCourse) : Prop :=
  ∀ a, (course.sessionAt a).turns.InLine (course.ticketsAt a)

variable {past : List ProxyMoment} {course : ProxyCourse} {event : ProxyEvent} {a : AdapterId}
  {i : Nat}

theorem firstReplyAt?_concat (past : List ProxyMoment) (moment : ProxyMoment) (a : AdapterId)
    (id : Nat) : firstReplyAt? (past ++ [moment]) a id =
      (firstReplyAt? past a id).or (ProxyMoment.delivery? a id moment) := by
  rw [firstReplyAt?, List.filterMap_append, List.head?_append]
  cases h : ProxyMoment.delivery? a id moment <;> simp [firstReplyAt?, h]

theorem sessionAt_of_session? {s : Session} (h : course.shared.cache.session? a = some s) :
    course.sessionAt a = s := by
  obtain ⟨adapter, hadapter, rfl⟩ := Option.map_eq_some_iff.mp h
  rw [sessionAt, hadapter]
  rfl

/-- Only what happens to sessions brings responses. -/
theorem delivery?_of_ne (h : ∀ occurrence, event ≠ .occur occurrence) (a : AdapterId) (id : Nat) :
    ProxyMoment.delivery? a id (course, event) = none := by
  cases event with
  | occur occurrence => exact absurd rfl (h occurrence)
  | «begin» | step | giveUp | wait => rfl

/-- What happens to a session happens to nobody else. -/
theorem sessionAt_occur (course : ProxyCourse) (occurrence : ServerEvent) (a : AdapterId) :
    sessionAt (proxyRules.next course (.occur occurrence)) a =
        (if occurrence.adapter = a ∧ course.shared.cache.adapters[a]? ≠ none then
          (course.sessionAt a).undergo course.now occurrence.event else course.sessionAt a) := by
  show sessionOf (course.shared.cache.updateAdapter occurrence.adapter fun adapter =>
    { adapter with session := adapter.session.undergo course.now occurrence.event }).adapters[a]? = _
  by_cases ha : occurrence.adapter = a
  · subst ha
    rw [Cache.getElem?_updateAdapter_self, sessionAt]
    cases hadapter : course.shared.cache.adapters[occurrence.adapter]? with
    | none => exact (if_neg fun h => h.2 rfl).symm
    | some adapter => exact (if_pos ⟨rfl, nofun⟩).symm
  · rw [Cache.getElem?_updateAdapter_of_ne ha, if_neg fun h => ha h.1]
    rfl

theorem TableKept.next (h : TableKept past course) (event : ProxyEvent) :
    TableKept (past ++ [(course, event)]) (proxyRules.next course event) := by
  intro a
  by_cases hevent : ∃ occurrence, event = .occur occurrence
  · obtain ⟨occurrence, rfl⟩ := hevent
    have hreplies : repliesAt (proxyRules.next course (.occur occurrence)) a = course.repliesAt a :=
      rfl
    have hnobody : course.repliesAt a course.tasks.length = none := by
      rw [repliesAt, jobsAt, jobOf, Crowd.task?_length]
      rfl
    rw [sessionAt_occur, hreplies]
    split
    next hhere =>
      obtain ⟨rfl, hadapter⟩ := hhere
      obtain ⟨adapter, hadapter⟩ := Option.ne_none_iff_exists'.mp hadapter
      have hsession : course.shared.cache.session? occurrence.adapter = some adapter.session := by
        rw [Cache.session?, hadapter]
        rfl
      have hfirst : firstReplyAt? (past ++ [(course, .occur occurrence)]) occurrence.adapter =
          fun id => (firstReplyAt? past occurrence.adapter id).or
            ((course.sessionAt occurrence.adapter).brings? occurrence.event id) := by
        funext id
        rw [firstReplyAt?_concat, ProxyMoment.delivery?, sessionAt_of_session? hsession]
        simp only [if_pos, hsession, Option.bind_some]
      rw [hfirst]
      exact (h occurrence.adapter).undergo hnobody course.now occurrence.event
    next helsewhere =>
      have hfirst : firstReplyAt? (past ++ [(course, .occur occurrence)]) a =
          firstReplyAt? past a := by
        funext id
        rw [firstReplyAt?_concat, ProxyMoment.delivery?]
        dsimp only
        split
        next ha =>
          have hnone : course.shared.cache.session? a = none := by
            rw [Cache.session?, not_not.mp fun hadapter => helsewhere ⟨ha, hadapter⟩]
            rfl
          rw [hnone]
          exact Option.or_none
        next => exact Option.or_none
      rw [hfirst]
      exact h a
  · have hothers (occurrence : ServerEvent) : event ≠ .occur occurrence :=
      fun heq => hevent ⟨occurrence, heq⟩
    obtain ⟨i, files, job?, hworks, hjobs⟩ := course.works_next hothers
    have hfirst : firstReplyAt? (past ++ [(course, event)]) a = firstReplyAt? past a := by
      funext id
      rw [firstReplyAt?_concat, delivery?_of_ne hothers, Option.or_none]
    have hreplies : repliesAt (proxyRules.next course event) a =
        Function.update (course.repliesAt a) i ((jobOn job? a).bind AdapterTask.reply?) := by
      funext j
      rw [repliesAt, hjobs, Function.apply_update fun _ (task? : Option AdapterTask) =>
        task?.bind AdapterTask.reply?]
      rfl
    rw [hfirst, hreplies]
    refine JobMove.kept (hworks a) ?_
    show Kept _ _ (Function.update (course.repliesAt a) i (course.repliesAt a i)) _
    rw [Function.update_eq_self]
    exact h a

/-- Nothing is brought to a request twice. -/
theorem TableKept.delivery?_of_first (h : TableKept past course) {reply : PendingReply}
    {outcome : ResponseOutcome} (hreply : course.repliesAt a i = some reply)
    (hfirst : firstReplyAt? past a reply.id = some outcome) :
    ProxyMoment.delivery? a reply.id (course, event) = none := by
  rw [ProxyMoment.delivery?]
  split
  · split
    · rw [Option.bind_eq_none_iff]
      intro s hs
      have hflight := (h a).inFlight i reply hreply
      rw [hfirst, sessionAt_of_session? hs] at hflight
      cases hflight with
      | registered _ _ first => cases first
      | failed _ _ first => cases first
      | answered _ entry =>
        rw [brings?]
        split
        · exact if_neg fun hhas => hhas.2.elim entry
        · rfl
    · rfl
  · rfl

theorem InLine.next (h : course.InLine) (event : ProxyEvent) :
    InLine (proxyRules.next course event) := by
  intro a
  by_cases hevent : ∃ occurrence, event = .occur occurrence
  · obtain ⟨occurrence, rfl⟩ := hevent
    have hturns : (sessionAt (proxyRules.next course (.occur occurrence)) a).turns =
        (course.sessionAt a).turns := by
      rw [sessionAt_occur]
      split
      · exact (Session.shifts_undergo course.now occurrence.event _).turns_eq
      · rfl
    rw [hturns]
    exact h a
  · have hothers (occurrence : ServerEvent) : event ≠ .occur occurrence :=
      fun heq => hevent ⟨occurrence, heq⟩
    obtain ⟨i, files, job?, hworks, hjobs⟩ := course.works_next hothers
    have htickets : ticketsAt (proxyRules.next course event) a =
        Function.update (course.ticketsAt a) i ((jobOn job? a).bind AdapterTask.ticket?) := by
      funext j
      rw [ticketsAt, hjobs, Function.apply_update fun _ (task? : Option AdapterTask) =>
        task?.bind AdapterTask.ticket?]
      rfl
    rw [htickets]
    refine JobMove.inLine (hworks a) ?_
    show (course.sessionAt a).turns.InLine
      (Function.update (course.ticketsAt a) i (course.ticketsAt a i))
    rw [Function.update_eq_self]
    exact h a

theorem tableKept_start (workspace : Path) (servers : ServerTable) (settings : SearchSettings) :
    TableKept [] (start workspace servers settings) := fun _ => {
  distinct := ⟨List.nodup_nil, List.nodup_nil⟩
  entry_lt := by rintro id channel ⟨⟩
  reply_lt := by rintro i reply ⟨⟩
  ids := by rintro i j reply reply' ⟨⟩
  channels := by rintro i j reply reply' ⟨⟩
  owned := by rintro id channel ⟨⟩
  inFlight := by rintro i reply ⟨⟩
  fresh := fun _ _ => rfl }

theorem inLine_start (workspace : Path) (servers : ServerTable) (settings : SearchSettings) :
    (start workspace servers settings).InLine := fun _ => .nobody fun _ => rfl

theorem tableKept_history (workspace : Path) (servers : ServerTable) (settings : SearchSettings)
    (events : List ProxyEvent) :
    TableKept (proxyRules.history (start workspace servers settings) events)
      (proxyRules.after (start workspace servers settings) events) :=
  proxyRules.history_induction (tableKept_start workspace servers settings)
    (fun _ _ event h => h.next event) events

/-- Whatever has led there, the tables fit. -/
theorem IsReached.tableKept (h : course.IsReached) : ∃ past, TableKept past course := by
  obtain ⟨workspace, servers, settings, events, rfl⟩ := h
  exact ⟨_, tableKept_history workspace servers settings events⟩

theorem IsReached.inLine (h : course.IsReached) : course.InLine := by
  obtain ⟨workspace, servers, settings, events, rfl⟩ := h
  exact proxyRules.history_induction (motive := fun _ course => InLine course)
    (inLine_start workspace servers settings) (fun _ _ event h => h.next event) events

end ProxyCourse
end SymbolSearch
