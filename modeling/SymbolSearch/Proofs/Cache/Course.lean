import SymbolSearch.Adapter.Asking
import SymbolSearch.Cache.Closing
import SymbolSearch.Cache.Ensuring
import SymbolSearch.Proofs.Session.Course
import SymbolSearch.Proofs.Sync.Crowd

/-!
# Courses of a cache

In a course of a cache any number of operations go on side by side, the servers do what they like,
and the files may change between any two steps.

* `cacheRules` — how operations on a cache begin, go on and are given up.
* `CacheTask.stance` — where an operation stands with the slots: which ones it has, for which guard
  it waits or whether it has it, and what it does with the adapter of that slot.

Questions work without the guard of a slot.  This file says once what they leave alone.

* `Adapter.Alike` — the adapter is for the same key, and the core of its session stays.
* `Adapter.Calm` — the same, but the session may also count a failure or a success, or lose its
  connection; `InquiryPoint.calm_step` and `InquiryPoint.alike_cancel` show that a question does no
  more.
-/

namespace SymbolSearch

/-- A call to a cache, or a question to an adapter of it. -/
inductive CacheCall where
  | find (ecosystem : Ecosystem) (workspace : Path)
  | findFor (workspace file : Path)
  | ensure (ecosystem : Ecosystem) (workspace : Path)
  | revive (ecosystem : Ecosystem) (workspace : Path)
  | disconnect (workspace : Path)
  | disconnectAll
  | ask (adapter : AdapterId) (inquiry : Inquiry)

/-- An operation on a cache, wherever it stands. -/
inductive CacheTask where
  | find (entry : EntryPoint)
  | findFor (workspace file : Path)
  | ensure (point : ReconnectPoint)
  | revive (point : RevivePoint)
  | disconnect (point : DisconnectPoint)
  | ask (adapter : AdapterId) (point : InquiryPoint)

/-- The result of an operation on a cache. -/
inductive CacheReply where
  | found (result : Except CacheError AdapterId)
  | ensured (result : Except CacheError AdapterId)
  | revived (result : Except CacheError Bool)
  | disconnected (closed : Nat)
  | answered (answer : Sourced)

/-- What happens to the session of an adapter besides the steps of operations. -/
structure ServerEvent where
  adapter : AdapterId
  event : SessionEvent

namespace CacheTask

/-- The first point of a call. -/
def enter : CacheCall → CacheTask
  | .find ecosystem workspace => .find (.starting ecosystem workspace)
  | .findFor workspace file => .findFor workspace file
  | .ensure ecosystem workspace => .ensure (.entering (.starting ecosystem workspace))
  | .revive ecosystem workspace => .revive (.entering (.starting ecosystem workspace))
  | .disconnect workspace => .disconnect (.finding workspace)
  | .disconnectAll => .disconnect .starting
  | .ask adapter inquiry => .ask adapter (.starting inquiry)

/-- One step of an operation. The files are there only when the step may use them. -/
def step (now : Instant) (files : Option Tree) (task : CacheTask) (cache : Cache) :
    Stepped Cache CacheTask CacheReply :=
  match task with
  | .find entry => (cache.stepAdapterFor files entry).map .find .found
  | .findFor workspace file =>
    match cache.ecosystemFor? file with
    | none => (cache, .finished (.found (.error (.unmanagedFile file))))
    | some ecosystem => (cache, .moved (.find (.starting ecosystem workspace)))
  | .ensure point => (point.step now files cache).map .ensure .ensured
  | .revive point => (point.step files cache).map .revive .revived
  | .disconnect point => (point.step now files cache).map .disconnect .disconnected
  | .ask adapter point =>
    (cache.stepAdapter adapter (point.step now files)).map (.ask adapter) .answered

/-- Gives an operation up where it stands. -/
def cancel (task : CacheTask) (cache : Cache) : Cache :=
  match task with
  | .find entry => entry.cancel cache
  | .findFor _ _ => cache
  | .ensure point => point.cancel cache
  | .revive point => point.cancel cache
  | .disconnect point => point.cancel cache
  | .ask adapter point => cache.updateAdapter adapter point.cancel

end CacheTask

/-- How operations on a cache go on. A step may be given the files. -/
def cacheRules : CrowdRules Cache CacheCall CacheTask CacheReply (Option Tree) ServerEvent where
  enter := CacheTask.enter
  step := CacheTask.step
  cancel := CacheTask.cancel
  occur := fun now event cache => cache.updateSession event.adapter (Session.undergo now event.event)

/-- A cache, the operations on it, and the time. -/
abbrev CacheCourse := Crowd Cache CacheTask CacheReply

/-- One thing that happens in a course. -/
abbrev CacheEvent := CrowdEvent CacheCall (Option Tree) ServerEvent

/-- An event with the course in which it happens. -/
abbrev CacheMoment := CacheCourse × CacheEvent

/-- A new cache that nobody uses. -/
def CacheCourse.start (servers : ServerTable) (settings : SearchSettings) : CacheCourse :=
  { shared := { servers, settings } }

/-! ### Where operations stand -/

/-- A place in the line for the guard of a slot. -/
structure Seat where
  key : CacheKey
  slot : SlotId
  ticket : Ticket

namespace Seat

/-- The slot, with the key for which it is kept. -/
def claim (seat : Seat) : CacheKey × SlotId := (seat.key, seat.slot)

end Seat

/-- The place of one who has a slot with its guard. -/
def Hold.seat (hold : Hold) : Seat := ⟨hold.key, hold.slot, hold.ticket⟩

/-- What one who has the guard of a slot does with an adapter. -/
inductive Work where
  | nothing
  /-- The adapter stays in the slot. -/
  | keeps (adapter : AdapterId)
  /-- The adapter was taken out of the slot, and its session is being closed. -/
  | closes (adapter : AdapterId)

/-- Where an operation stands with the slots. `rest` are slots that it has and waits for later. -/
inductive Stance where
  | has (rest : List (CacheKey × SlotId))
  | queued (seat : Seat) (rest : List (CacheKey × SlotId))
  | inside (seat : Seat) (rest : List (CacheKey × SlotId)) (work : Work)

namespace Stance

/-- The place in a line. -/
def seat? : Stance → Option Seat
  | .has _ => none
  | .queued seat _ | .inside seat _ _ => some seat

/-- The slots that the operation has. -/
def claims : Stance → List (CacheKey × SlotId)
  | .has rest => rest
  | .queued seat rest | .inside seat rest _ => seat.claim :: rest

/-- The ticket for the guard of a slot. -/
def ticketAt (id : SlotId) (stance : Stance) : Option Ticket :=
  stance.seat?.bind fun seat => if seat.slot = id then some seat.ticket else none

/-- Whether the operation works with the guard of a slot. -/
def IsInside (id : SlotId) (stance : Stance) : Prop :=
  ∃ seat rest work, stance = .inside seat rest work ∧ seat.slot = id

/-- The key whose session the operation is closing. -/
def closing? : Stance → Option CacheKey
  | .inside seat _ (.closes _) => some seat.key
  | _ => none

/-- The adapter that the operation works with, and its key. -/
def kept? : Stance → Option (CacheKey × AdapterId)
  | .inside seat _ (.keeps adapter) => some (seat.key, adapter)
  | _ => none

end Stance

/-- Where one stands who is on his way to a slot. -/
def EntryPoint.stance : EntryPoint → Stance
  | .starting _ _ | .finding _ _ _ => .has []
  | .queued hold => .queued hold.seat []

/-- Where one stands who gets a session. -/
def ReconnectPoint.stance : ReconnectPoint → Stance
  | .entering entry => entry.stance
  | .trying attempt _ | .checking attempt _ =>
    .inside attempt.hold.seat [] (.keeps attempt.adapter)
  | .pausing hold _ _ => .inside hold.seat [] .nothing
  | .evicting hold adapter _ _ => .inside hold.seat [] (.closes adapter)

/-- Where one stands who resets a session. -/
def RevivePoint.stance : RevivePoint → Stance
  | .entering entry => entry.stance
  | .resetting hold adapter _ => .inside hold.seat [] (.keeps adapter)

/-- Where one stands who closes sessions. -/
def DisconnectPoint.stance : DisconnectPoint → Stance
  | .starting | .finding _ => .has []
  | .working rest _ => .has rest
  | .queued key slot ticket rest _ => .queued ⟨key, slot, ticket⟩ rest
  | .stopping key slot ticket rest _ adapter _ => .inside ⟨key, slot, ticket⟩ rest (.closes adapter)

/-- Where an operation stands with the slots. -/
def CacheTask.stance : CacheTask → Stance
  | .find entry => entry.stance
  | .findFor _ _ | .ask _ _ => .has []
  | .ensure point => point.stance
  | .revive point => point.stance
  | .disconnect point => point.stance

/-- Where an operation of a course stands; one that has ended has no slot. -/
def CacheCourse.stanceOf (course : CacheCourse) (i : Nat) : Stance :=
  ((course.task? i).map CacheTask.stance).getD (.has [])

/-- The adapter in the slot under which a key is found. -/
def Cache.current? (cache : Cache) (key : CacheKey) : Option AdapterId :=
  (cache.mapped.lookup key).bind fun id => (cache.slotAt id).adapter

/-- The key that an adapter was made for. -/
def Adapter.key (adapter : Adapter) : CacheKey := ⟨adapter.ecosystem, adapter.scanner.root⟩

/-! ### Questions to an adapter -/

open Session

namespace Adapter

/-- An adapter for the same key, with the core of its session as it was. -/
structure Alike (adapter adapter' : Adapter) : Prop where
  key : adapter'.key = adapter.key
  core : adapter'.session.core = adapter.session.core

/-- What happens to an adapter while nobody needs the guard of its slot. -/
structure Calm (now : Instant) (adapter adapter' : Adapter) : Prop where
  key : adapter'.key = adapter.key
  shifts : Shifts now adapter.session adapter'.session

variable {adapter middle adapter' : Adapter} {now : Instant}

theorem Alike.refl (adapter : Adapter) : Alike adapter adapter := ⟨rfl, rfl⟩

theorem Alike.trans (h : Alike adapter middle) (h' : Alike middle adapter') :
    Alike adapter adapter' := ⟨h'.key.trans h.key, h'.core.trans h.core⟩

theorem Alike.calm (h : Alike adapter adapter') : Calm now adapter adapter' :=
  ⟨h.key, .stays h.core⟩

theorem Alike.trans_calm (h : Alike adapter middle) (h' : Calm now middle adapter') :
    Calm now adapter adapter' where
  key := h'.key.trans h.key
  shifts := by
    cases h'.shifts with
    | stays core => exact .stays (core.trans h.core)
    | fails core => exact .fails (core.trans (congrArg recordFailure h.core))
    | succeeds core => exact .succeeds (core.trans (congrArg recordSuccess h.core))
    | lost up core =>
      refine .lost (state_of_core h.core ▸ up) ?_
      rw [core, h.core]

theorem Calm.trans_alike (h : Calm now adapter middle) (h' : Alike middle adapter') :
    Calm now adapter adapter' where
  key := h'.key.trans h.key
  shifts := by
    cases h.shifts with
    | stays core => exact .stays (h'.core.trans core)
    | fails core => exact .fails (h'.core.trans core)
    | succeeds core => exact .succeeds (h'.core.trans core)
    | lost up core => exact .lost up (h'.core.trans core)

theorem alike_withSession {π ρ : Type} {stepped : Stepped Session π ρ}
    (h : stepped.1.core = adapter.session.core) : Alike adapter (adapter.withSession stepped).1 :=
  ⟨rfl, h⟩

theorem alike_notice (point : NoticePoint) (adapter : Adapter) :
    Alike adapter (adapter.withSession (point.step adapter.session)).1 :=
  alike_withSession (point.quiet_step adapter.session).core

theorem calm_query (point : QueryPoint) (adapter : Adapter) :
    Calm now adapter (adapter.withSession (point.step now adapter.session)).1 :=
  ⟨rfl, point.shifts_step now adapter.session⟩

end Adapter

open Adapter

namespace InquiryPoint

variable {adapter middle : Adapter} {now : Instant}

theorem alike_lockDocument (adapter : Adapter) (uri : String) :
    Alike adapter (adapter.lockDocument uri).2 := by
  have hfind : Alike adapter (adapter.findGuard uri).2 := by
    unfold findGuard
    split <;> exact ⟨rfl, rfl⟩
  exact hfind.trans ⟨rfl, rfl⟩

theorem alike_conclude (inquiry : Inquiry) (query : Query) (adapter : Adapter)
    (result : Except SessionError Answer) :
    Alike adapter (conclude now inquiry query adapter result).1 := by
  cases result with
  | ok answer => exact ⟨rfl, rfl⟩
  | error reason => exact .refl adapter

theorem alike_leave (bracket : Bracket) (adapter : Adapter)
    (result : Except SessionError Answer) :
    Alike adapter (leave now bracket adapter result).1 := by
  have hunlock : Alike adapter
      (adapter.unlockDocument bracket.uri bracket.guard bracket.ticket) := by
    unfold unlockDocument forgetGuard
    split <;> exact ⟨rfl, rfl⟩
  exact hunlock.trans (alike_conclude _ _ _ _)

theorem alike_stopListening (adapter : Adapter) (listener : Option Nat) :
    Alike adapter (stopListening adapter listener) := by
  unfold stopListening
  split
  · exact ⟨rfl, rfl⟩
  · exact .refl adapter

theorem calm_afterClosing (bracket : Bracket) (result : Except SessionError Answer)
    {stepped : Stepped Adapter NoticePoint (Except SessionError Unit)}
    (h : Calm now adapter stepped.1) :
    Calm now adapter (afterClosing now bracket result stepped).1 := by
  obtain ⟨middle, progress⟩ := stepped
  cases progress with
  | blocked => exact h
  | moved notice => exact h
  | finished sent => exact h.trans_alike (alike_leave bracket middle result)

theorem calm_afterAskingInside (bracket : Bracket)
    {stepped : Stepped Adapter QueryPoint (Except SessionError Answer)}
    (h : Calm now adapter stepped.1) :
    Calm now adapter (afterAskingInside now bracket stepped).1 := by
  obtain ⟨middle, progress⟩ := stepped
  cases progress with
  | blocked => exact h
  | moved call => exact h
  | finished result =>
    exact calm_afterClosing bracket result (h.trans_alike (alike_notice _ middle))

theorem alike_afterOpening (bracket : Bracket) (listener : Option Nat)
    {stepped : Stepped Adapter NoticePoint (Except SessionError Unit)}
    (h : Alike adapter stepped.1) :
    Alike adapter (afterOpening now bracket listener stepped).1 := by
  obtain ⟨middle, progress⟩ := stepped
  cases progress with
  | blocked => exact h
  | moved notice => exact h
  | finished sent =>
    cases sent with
    | ok => exact h
    | error reason =>
      exact (h.trans (alike_stopListening middle listener)).trans (alike_leave bracket _ _)

theorem alike_openDocument (bracket : Bracket) (text : String) (adapter : Adapter) :
    Alike adapter (openDocument now bracket text adapter).1 := by
  have hsubscribe (method : String) :
      (adapter.session.subscribe method).1.core = adapter.session.core := by
    unfold subscribe
    split
    · rfl
    · rfl
  unfold openDocument
  split
  next middle listener hlistener =>
    refine alike_afterOpening bracket listener (.trans ?_ (alike_notice _ middle))
    split at hlistener
    next method _ =>
      obtain ⟨rfl, -⟩ := Prod.mk.inj hlistener
      exact ⟨rfl, hsubscribe method⟩
    next =>
      obtain ⟨rfl, -⟩ := Prod.mk.inj hlistener
      exact .refl adapter

theorem alike_start (inquiry : Inquiry) (adapter : Adapter) :
    Alike adapter (start now inquiry adapter).1 := by
  unfold start
  split
  · exact .refl adapter
  · dsimp only
    split
    all_goals exact ⟨rfl, rfl⟩

/-- A step of a question. -/
theorem calm_step (files : Option Tree) (point : InquiryPoint) (adapter : Adapter) :
    Calm now adapter (point.step now files adapter).1 := by
  cases point with
  | starting inquiry => exact (alike_start inquiry adapter).calm
  | reading inquiry query path =>
    simp only [step]
    split
    · exact (Alike.refl adapter).calm
    · unfold afterReading
      split
      · exact (Alike.refl adapter).calm
      · exact (alike_lockDocument adapter _).calm
  | queued bracket text =>
    simp only [step]
    split
    · exact (alike_openDocument bracket text adapter).calm
    · exact (Alike.refl adapter).calm
  | opening bracket listener notice =>
    exact (alike_afterOpening bracket listener (alike_notice notice adapter)).calm
  | settling bracket listener resume =>
    simp only [step]
    split
    · have hlistener := alike_stopListening adapter listener
      exact calm_afterAskingInside bracket (hlistener.trans_calm (calm_query _ _))
    · exact (Alike.refl adapter).calm
  | asking inquiry query call =>
    have hcall : Calm now adapter (adapter.withSession (call.step now adapter.session)).1 :=
      calm_query call adapter
    simp only [step]
    split
    next hstep =>
      rw [hstep] at hcall
      exact hcall
    next hstep =>
      rw [hstep] at hcall
      exact hcall
    next hstep =>
      rw [hstep] at hcall
      exact hcall.trans_alike (alike_conclude inquiry query _ _)
  | askingInside bracket call => exact calm_afterAskingInside bracket (calm_query call adapter)
  | closing bracket result notice =>
    exact calm_afterClosing bracket result (alike_notice notice adapter).calm
  | scanning inquiry reason =>
    simp only [step]
    split
    · exact (Alike.refl adapter).calm
    · exact (Alike.refl adapter).calm

/-- A question that is given up. -/
theorem alike_cancel (point : InquiryPoint) (adapter : Adapter) :
    Alike adapter (point.cancel adapter) := by
  cases point with
  | starting | reading | scanning => exact .refl adapter
  | queued bracket => exact ⟨rfl, rfl⟩
  | opening bracket listener notice =>
    have hnotice : Alike adapter { adapter with session := notice.cancel adapter.session } := by
      cases notice with
      | starting => exact .refl adapter
      | sending send => exact ⟨rfl, (send.quiet_cancel adapter.session).core⟩
    exact (hnotice.trans (alike_stopListening _ listener)).trans ⟨rfl, rfl⟩
  | settling bracket listener => exact (alike_stopListening adapter listener).trans ⟨rfl, rfl⟩
  | asking inquiry query call | askingInside bracket call =>
    cases call with
    | starting => exact ⟨rfl, rfl⟩
    | calling query call => exact ⟨rfl, (call.quiet_cancel adapter.session).core⟩
  | closing bracket result notice =>
    cases notice with
    | starting => exact ⟨rfl, rfl⟩
    | sending send => exact ⟨rfl, (send.quiet_cancel adapter.session).core⟩

end InquiryPoint

end SymbolSearch
