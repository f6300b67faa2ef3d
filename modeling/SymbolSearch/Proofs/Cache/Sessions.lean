import SymbolSearch.Proofs.Cache.Steps
import SymbolSearch.Proofs.Session.Account

/-!
# The sessions of a cache

What the operations of a cache do to the account of a session: its state, its restarts, and the time
of its last crash.

* `CacheTask.own?` — the session that an operation works on, and the operation on it.
* `Cache.Keeps` — every session that was there is there, with its account as it was.
* `Cache.Accounted` — the same, but the account of a session may drift without the guard, and an
  operation may have made a step of its own; `CacheTask.accounted_step` and `CacheTask.keeps_cancel`
  show that nothing else happens.
-/

namespace SymbolSearch

open Session

/-! ### Without the guard -/

/-- What happens to the account of a session without the guard. -/
inductive Account.Drifts (now : Instant) (account account' : Account) : Prop where
  | stays (same : account' = account)
  | counts (takes : account.state.acceptsRequests = true)
      (same : account' = { account with state := account'.state })
      (takes' : account'.state.acceptsRequests = true)
  | lost (up : account.state.isUp = true)
      (crashed : account' = { account with state := .crashed, crashedAt := some now })

theorem Session.Shifts.drifts {now : Instant} {s s' : Session} (h : Shifts now s s') :
    s.account.Drifts now s'.account := by
  cases h with
  | stays core => exact .stays (congrArg Session.account core :)
  | fails core =>
    have haccount : s'.account = s.recordFailure.account := (congrArg Session.account core :)
    rw [haccount]
    by_cases hlimit : s.settings.degradedAfter ≤ s.failures + 1 ∧ s.state = .ready
    · exact .counts (by simp [Session.account, hlimit, SessionState.acceptsRequests]) rfl
        (by simp [Session.account, recordFailure, hlimit, SessionState.acceptsRequests])
    · refine .stays ?_
      simp only [Session.account, recordFailure]
      rw [if_neg (by simpa using hlimit)]
  | succeeds core =>
    have haccount : s'.account = s.recordSuccess.account := (congrArg Session.account core :)
    rw [haccount]
    by_cases hdegraded : s.state = .degraded
    · exact .counts (by simp [Session.account, hdegraded, SessionState.acceptsRequests]) rfl
        (by simp [Session.account, recordSuccess, hdegraded, SessionState.acceptsRequests])
    · exact .stays (by simp [Session.account, recordSuccess, hdegraded])
  | lost up core => exact .lost up (congrArg Session.account core :)

/-! ### Caches -/

namespace Cache

/-- The account of the session of an adapter. -/
def account? (cache : Cache) (a : AdapterId) : Option Account :=
  (cache.session? a).map Session.account

/-- Every session that is in the first cache is in the second, with the same account. -/
def Keeps (cache cache' : Cache) : Prop :=
  ∀ a account, cache.account? a = some account → cache'.account? a = some account

/-- What becomes of the accounts while an operation makes a step of its own with one session. -/
def Accounted (now : Instant) (own : Option (AdapterId × SessionTask)) (cache cache' : Cache) :
    Prop :=
  ∀ a s, cache.session? a = some s → ∃ account, cache'.account? a = some account ∧
    (s.account.Drifts now account ∨
      ∃ task, own = some (a, task) ∧ account = (task.step now s).1.account)

variable {cache middle cache' : Cache} {now : Instant} {own : Option (AdapterId × SessionTask)}
  {a id : AdapterId} {s : Session}

/-- What a step with a session comes to. -/
theorem stepSession_snd {π ρ : Type} (hs : cache.session? a = some s)
    (step : Session → Stepped Session π ρ) : (cache.stepSession a step).2 = (step s).2 := by
  obtain ⟨adapter, hadapter, rfl⟩ := Option.map_eq_some_iff.mp hs
  rw [Cache.stepSession, stepAdapter, hadapter]
  rfl

theorem account?_of_session? (h : cache.session? a = some s) :
    cache.account? a = some s.account := by
  rw [account?, h]
  rfl

namespace Keeps

theorem refl (cache : Cache) : cache.Keeps cache := fun _ _ h => h

theorem trans (h : cache.Keeps middle) (h' : middle.Keeps cache') : cache.Keeps cache' :=
  fun a account hbefore => h' a account (h a account hbefore)

/-- What is done with slots leaves the sessions alone. -/
theorem of_adapters (h : cache'.adapters = cache.adapters) : cache.Keeps cache' := by
  intro a account hbefore
  rw [account?, session?, h]
  exact hbefore

theorem updateAdapter {change : Adapter → Adapter}
    (hchange : ∀ adapter, cache.adapters[id]? = some adapter →
      (change adapter).session.account = adapter.session.account) :
    cache.Keeps (cache.updateAdapter id change) := by
  intro a account hbefore
  by_cases hid : id = a
  · subst hid
    cases hadapter : cache.adapters[id]? with
    | none => simp [account?, session?, hadapter] at hbefore
    | some adapter =>
      have hsession : cache.session? id = some adapter.session := by
        rw [session?, hadapter]
        rfl
      rw [account?_of_session? hsession] at hbefore
      rw [account?_of_session? (session?_updateAdapter_self hadapter change),
        hchange adapter hadapter]
      exact hbefore
  · have hsame : (cache.updateAdapter id change).adapters[a]? = cache.adapters[a]? := by
      simp [Cache.updateAdapter, hid]
    rw [account?, session?, hsame]
    exact hbefore

theorem stepSession {π ρ : Type} {step : Session → Stepped Session π ρ}
    (hstep : ∀ s, (step s).1.account = s.account) : cache.Keeps (cache.stepSession id step).1 := by
  rcases cache.stepSession_cases id step with h | ⟨adapter, hadapter, h⟩
  · rw [h]
    exact refl cache
  · rw [h]
    refine updateAdapter fun found hfound => ?_
    obtain rfl : adapter = found := Option.some.inj (hadapter.symm.trans hfound)
    exact hstep adapter.session

theorem adapterIn (cache : Cache) (key : CacheKey) (server : ServerConfig) (slot : SlotId) :
    cache.Keeps (cache.adapterIn key server slot).2 := by
  cases hslot : (cache.slotAt slot).adapter with
  | some adapter =>
    simp only [Cache.adapterIn, hslot]
    exact refl cache
  | none =>
    intro a account hbefore
    obtain ⟨s, hs, rfl⟩ := Option.map_eq_some_iff.mp hbefore
    obtain ⟨adapter, hadapter, rfl⟩ := Option.map_eq_some_iff.mp hs
    have hlt : a < cache.adapters.length := (List.getElem?_eq_some_iff.mp hadapter).1
    refine account?_of_session? ?_
    simp only [Cache.adapterIn, hslot, session?]
    refine Option.map_eq_some_iff.mpr ⟨adapter, ?_, rfl⟩
    exact (List.getElem?_append_left hlt).trans hadapter

theorem accounted (h : cache.Keeps cache') : cache.Accounted now own cache' :=
  fun a _ hs => ⟨_, h a _ (account?_of_session? hs), .inl (.stays rfl)⟩

end Keeps

namespace Accounted

theorem keeps (h : cache.Accounted now own middle) (h' : middle.Keeps cache') :
    cache.Accounted now own cache' := by
  intro a s hs
  obtain ⟨account, haccount, hwhat⟩ := h a s hs
  exact ⟨account, h' a account haccount, hwhat⟩

theorem updateAdapter {change : Adapter → Adapter}
    (hchange : ∀ adapter, cache.adapters[id]? = some adapter →
      adapter.session.account.Drifts now (change adapter).session.account ∨
        ∃ task, own = some (id, task) ∧
          (change adapter).session.account = (task.step now adapter.session).1.account) :
    cache.Accounted now own (cache.updateAdapter id change) := by
  intro a s hs
  obtain ⟨adapter, hadapter, rfl⟩ := Option.map_eq_some_iff.mp hs
  by_cases hid : id = a
  · subst hid
    exact ⟨_, account?_of_session? (session?_updateAdapter_self hadapter change),
      hchange adapter hadapter⟩
  · have hsame : (cache.updateAdapter id change).adapters[a]? = cache.adapters[a]? := by
      simp [Cache.updateAdapter, hid]
    refine ⟨_, account?_of_session? ?_, .inl (.stays rfl)⟩
    rw [session?, hsame]
    exact hs

/-- A step that an operation makes with its own session. -/
theorem stepSession {π ρ : Type} {step : Session → Stepped Session π ρ} {task : SessionTask}
    (hstep : ∀ s, (step s).1 = (task.step now s).1) :
    cache.Accounted now (some (id, task)) (cache.stepSession id step).1 := by
  rcases cache.stepSession_cases id step with h | ⟨adapter, hadapter, h⟩
  · rw [h]
    exact (Keeps.refl cache).accounted
  · rw [h]
    refine updateAdapter fun found hfound => .inr ⟨task, rfl, ?_⟩
    obtain rfl : adapter = found := Option.some.inj (hadapter.symm.trans hfound)
    exact congrArg Session.account (hstep adapter.session)

end Accounted
end Cache

/-! ### Steps of operations -/

namespace EntryPoint

/-- The way to a slot leads past no session. -/
theorem adapters_step (files : Option Tree) (entry : EntryPoint) (cache : Cache) :
    (entry.step files cache).1.adapters = cache.adapters := by
  cases entry with
  | starting ecosystem workspace =>
    simp only [step]
    split <;> rfl
  | finding ecosystem server workspace =>
    simp only [step]
    split
    · rfl
    · split
      · rfl
      · unfold Cache.findSlot
        dsimp only
        split <;> rfl
  | queued hold =>
    simp only [step]
    split <;> rfl

theorem adapters_cancel (entry : EntryPoint) (cache : Cache) :
    (entry.cancel cache).adapters = cache.adapters := by
  cases entry <;> rfl

end EntryPoint

namespace ReconnectPoint

variable {now : Instant} {cache : Cache}

theorem adapters_unmapSlot (cache : Cache) (key : CacheKey) (slot : SlotId) :
    (cache.unmapSlot key slot).adapters = cache.adapters := by
  unfold Cache.unmapSlot
  dsimp only
  split <;> rfl

theorem keeps_giveUp (hold : Hold) (error : CacheError) (cache : Cache) :
    cache.Keeps (giveUp hold error cache).1 :=
  .of_adapters (adapters_unmapSlot cache hold.key hold.slot)

theorem keeps_afterStop (hold : Hold) (id : AdapterId) (error : CacheError)
    (stepped : Stepped Cache StopPoint Unit) :
    stepped.1.Keeps (afterStop hold id error stepped).1 := by
  obtain ⟨m, progress⟩ := stepped
  cases progress with
  | blocked | moved => exact .refl m
  | finished => exact keeps_giveUp hold error m

theorem keeps_evict (now : Instant) (hold : Hold) (error : CacheError) (cache : Cache) :
    cache.Keeps (evict now hold error cache).1 := by
  unfold evict
  have hempty : cache.Keeps (cache.emptySlot hold.slot).2 := .of_adapters rfl
  split
  next hslot =>
    rw [hslot] at hempty
    exact hempty.trans (keeps_giveUp hold error _)
  next id m hslot =>
    rw [hslot] at hempty
    have hasks : m.Keeps (m.stepSession id (StopPoint.step now .asking)).1 :=
      .stepSession fun _ => rfl
    exact (hempty.trans hasks).trans (keeps_afterStop hold id error _)

theorem keeps_afterFailure (now : Instant) (attempt : Attempt) (cache : Cache) :
    cache.Keeps (afterFailure now attempt cache).1 := by
  simp only [afterFailure]
  split
  · exact keeps_evict now attempt.hold _ cache
  · exact .refl cache

theorem keeps_succeed (attempt : Attempt) (cache : Cache) :
    cache.Keeps (succeed attempt cache).1 := by
  simp only [succeed]
  split
  · exact .of_adapters rfl
  · have hforgets : cache.Keeps (cache.updateAdapter attempt.adapter Adapter.invalidate) :=
      .updateAdapter fun _ _ => rfl
    exact hforgets.trans (.of_adapters rfl)

theorem keeps_afterCheck (attempt : Attempt) (stepped : Stepped Cache GuardPoint Bool) :
    stepped.1.Keeps (afterCheck now attempt stepped).1 := by
  obtain ⟨m, progress⟩ := stepped
  cases progress with
  | blocked | moved => exact .refl m
  | finished alive =>
    cases alive with
    | true => exact keeps_succeed attempt m
    | false => exact keeps_afterFailure now attempt m

theorem keeps_afterEnsure (attempt : Attempt)
    (stepped : Stepped Cache EnsurePoint (Except SessionError Unit)) :
    stepped.1.Keeps (afterEnsure now attempt stepped).1 := by
  obtain ⟨m, progress⟩ := stepped
  cases progress with
  | blocked | moved => exact .refl m
  | finished result =>
    cases result with
    | ok =>
      have hlooks : m.Keeps (m.stepSession attempt.adapter (Session.stepAlive .asking)).1 :=
        .stepSession (SessionTask.account_stepAlive .asking)
      exact hlooks.trans (keeps_afterCheck attempt _)
    | error error =>
      simp only [afterEnsure]
      split
      · exact .of_adapters rfl
      · split
        · exact keeps_evict now attempt.hold _ m
        · exact keeps_afterFailure now attempt m

theorem keeps_begin (now : Instant) (hold : Hold) (failed : Nat) (cache : Cache) :
    cache.Keeps (begin now hold failed cache).1 := by
  have hmade := Cache.Keeps.adapterIn cache hold.key hold.server hold.slot
  simp only [begin]
  generalize cache.adapterIn hold.key hold.server hold.slot = made at hmade
  obtain ⟨id, m⟩ := made
  have hasks : m.Keeps (m.stepSession id (EnsurePoint.step now .asking)).1 :=
    .stepSession fun _ => rfl
  exact (hmade.trans hasks).trans (keeps_afterEnsure _ _)

/-- The session on which one works who gets a session, and what he does with it. -/
def own? : ReconnectPoint → Option (AdapterId × SessionTask)
  | .trying attempt ensure => some (attempt.adapter, .ensure ensure)
  | .evicting _ id stop _ => some (id, .stop stop)
  | _ => none

theorem accounted_step (files : Option Tree) (point : ReconnectPoint) (cache : Cache) :
    cache.Accounted now point.own? (point.step now files cache).1 := by
  cases point with
  | entering entry =>
    have hentry : cache.Keeps (entry.step files cache).1 :=
      .of_adapters (entry.adapters_step files cache)
    refine Cache.Keeps.accounted ?_
    simp only [step]
    generalize entry.step files cache = stepped at hentry
    obtain ⟨m, progress⟩ := stepped
    cases progress with
    | blocked | moved => exact hentry
    | finished result =>
      cases result with
      | error error => exact hentry
      | ok hold => exact hentry.trans (keeps_begin now hold 0 m)
  | trying attempt ensure =>
    have hown : cache.Accounted now (some (attempt.adapter, .ensure ensure))
        (cache.stepSession attempt.adapter (ensure.step now)).1 := .stepSession fun _ => rfl
    exact hown.keeps (keeps_afterEnsure attempt _)
  | checking attempt guardPoint =>
    have hlooks : cache.Keeps (cache.stepSession attempt.adapter
        (Session.stepAlive guardPoint)).1 :=
      .stepSession (SessionTask.account_stepAlive guardPoint)
    exact (hlooks.trans (keeps_afterCheck attempt _)).accounted
  | pausing hold failed resume =>
    simp only [step]
    split
    · exact (keeps_begin now hold failed cache).accounted
    · exact (Cache.Keeps.refl cache).accounted
  | evicting hold id stop error =>
    have hown : cache.Accounted now (some (id, .stop stop))
        (cache.stepSession id (stop.step now)).1 := .stepSession fun _ => rfl
    exact hown.keeps (keeps_afterStop hold id error _)

end ReconnectPoint

namespace RevivePoint

variable {now : Instant}

/-- The session on which one works who resets it. -/
def own? : RevivePoint → Option (AdapterId × SessionTask)
  | .resetting _ id guardPoint => some (id, .reset guardPoint)
  | .entering _ => none

theorem keeps_afterReset (hold : Hold) (id : AdapterId) (stepped : Stepped Cache GuardPoint Bool) :
    stepped.1.Keeps (afterReset hold id stepped).1 := by
  obtain ⟨m, progress⟩ := stepped
  cases progress with
  | blocked | moved => exact .refl m
  | finished => exact .of_adapters rfl

theorem accounted_step (files : Option Tree) (point : RevivePoint) (cache : Cache) :
    cache.Accounted now point.own? (point.step files cache).1 := by
  cases point with
  | entering entry =>
    have hentry : cache.Keeps (entry.step files cache).1 :=
      .of_adapters (entry.adapters_step files cache)
    refine Cache.Keeps.accounted ?_
    simp only [step]
    generalize entry.step files cache = stepped at hentry
    obtain ⟨m, progress⟩ := stepped
    cases progress with
    | blocked | moved => exact hentry
    | finished result =>
      cases result with
      | error error => exact hentry
      | ok hold =>
        dsimp only
        split
        · exact hentry.trans (.of_adapters rfl)
        next id _ =>
          have hforgets : m.Keeps (m.updateAdapter id Adapter.invalidate) :=
            .updateAdapter fun _ _ => rfl
          have hasks : (m.updateAdapter id Adapter.invalidate).Keeps
              ((m.updateAdapter id Adapter.invalidate).stepSession id
                (Session.stepReset .asking)).1 := .stepSession fun _ => rfl
          exact ((hentry.trans hforgets).trans hasks).trans (keeps_afterReset hold id _)
  | resetting hold id guardPoint =>
    have hown : cache.Accounted now (some (id, .reset guardPoint))
        (cache.stepSession id (Session.stepReset guardPoint)).1 := .stepSession fun _ => rfl
    exact hown.keeps (keeps_afterReset hold id _)

end RevivePoint

namespace DisconnectPoint

variable {now : Instant}

/-- The session on which one works who closes it. -/
def own? : DisconnectPoint → Option (AdapterId × SessionTask)
  | .stopping _ _ _ _ _ id stop => some (id, .stop stop)
  | _ => none

theorem adapters_gather (cache : Cache) (chosen : List (CacheKey × SlotId)) :
    (gather cache chosen).1.adapters = cache.adapters := by
  induction chosen generalizing cache with
  | nil => rfl
  | cons claim chosen ih => exact ih _

theorem adapters_dropAll (slots : List (CacheKey × SlotId)) (cache : Cache) :
    (dropAll slots cache).adapters = cache.adapters := by
  induction slots generalizing cache with
  | nil => rfl
  | cons claim slots ih => exact ih _

theorem keeps_afterStop (key : CacheKey) (slot : SlotId) (ticket : Ticket)
    (rest : List (CacheKey × SlotId)) (closed : Nat) (id : AdapterId)
    (stepped : Stepped Cache StopPoint Unit) :
    stepped.1.Keeps (afterStop key slot ticket rest closed id stepped).1 := by
  obtain ⟨m, progress⟩ := stepped
  cases progress with
  | blocked | moved => exact .refl m
  | finished => exact .of_adapters (ReconnectPoint.adapters_unmapSlot m key slot)

theorem accounted_step (files : Option Tree) (point : DisconnectPoint) (cache : Cache) :
    cache.Accounted now point.own? (point.step now files cache).1 := by
  have hgathers (chosen : List (CacheKey × SlotId)) : cache.Keeps (gather cache chosen).1 :=
    .of_adapters (adapters_gather cache chosen)
  cases point with
  | starting => exact (hgathers cache.mapped).accounted
  | finding workspace =>
    simp only [step]
    split
    · exact (Cache.Keeps.refl cache).accounted
    · exact (hgathers _).accounted
  | working rest closed =>
    cases rest with
    | nil => exact (Cache.Keeps.refl cache).accounted
    | cons claim rest => exact (Cache.Keeps.of_adapters rfl).accounted
  | queued key slot ticket rest closed =>
    have hempty : cache.Keeps (cache.emptySlot slot).2 := .of_adapters rfl
    refine Cache.Keeps.accounted ?_
    simp only [step]
    split
    · split
      next m hslot =>
        rw [hslot] at hempty
        exact hempty.trans (.of_adapters (ReconnectPoint.adapters_unmapSlot m key slot))
      next id m hslot =>
        rw [hslot] at hempty
        have hasks : m.Keeps (m.stepSession id (StopPoint.step now .asking)).1 :=
          .stepSession fun _ => rfl
        exact (hempty.trans hasks).trans (keeps_afterStop key slot ticket rest closed id _)
    · exact .refl cache
  | stopping key slot ticket rest closed id stop =>
    have hown : cache.Accounted now (some (id, .stop stop))
        (cache.stepSession id (stop.step now)).1 := .stepSession fun _ => rfl
    exact hown.keeps (keeps_afterStop key slot ticket rest closed id _)

end DisconnectPoint

namespace CacheTask

variable {now : Instant}

/-- The session on which an operation works with the guard of its slot, and what it does there. -/
def own? : CacheTask → Option (AdapterId × SessionTask)
  | .ensure point => point.own?
  | .revive point => point.own?
  | .disconnect point => point.own?
  | _ => none

theorem accounted_step (files : Option Tree) (task : CacheTask) (cache : Cache) :
    cache.Accounted now task.own? (task.step now files cache).1 := by
  cases task with
  | find entry =>
    have hentry : cache.Keeps (entry.step files cache).1 :=
      .of_adapters (entry.adapters_step files cache)
    refine Cache.Keeps.accounted ?_
    show cache.Keeps (cache.stepAdapterFor files entry).1
    unfold Cache.stepAdapterFor
    generalize entry.step files cache = stepped at hentry
    obtain ⟨m, progress⟩ := stepped
    cases progress with
    | blocked | moved => exact hentry
    | finished result =>
      cases result with
      | error error => exact hentry
      | ok hold =>
        have hmade := Cache.Keeps.adapterIn m hold.key hold.server hold.slot
        exact (hentry.trans hmade).trans (.of_adapters rfl)
  | findFor workspace file =>
    simp only [step]
    split
    · exact (Cache.Keeps.refl cache).accounted
    · exact (Cache.Keeps.refl cache).accounted
  | ensure point => exact point.accounted_step files cache
  | revive point => exact point.accounted_step files cache
  | disconnect point => exact point.accounted_step files cache
  | ask id point =>
    show cache.Accounted now none (cache.stepAdapter id (point.step now files)).1
    unfold Cache.stepAdapter
    cases hadapter : cache.adapters[id]? with
    | none => exact (Cache.Keeps.refl cache).accounted
    | some adapter =>
      refine Cache.Accounted.updateAdapter fun found hfound => .inl ?_
      obtain rfl : adapter = found := Option.some.inj (hadapter.symm.trans hfound)
      exact (point.calm_step files adapter).shifts.drifts

/-- An operation that is given up leaves all accounts alone. -/
theorem keeps_cancel (task : CacheTask) (cache : Cache) : cache.Keeps (task.cancel cache) := by
  have hworks (hold : Hold) (id : AdapterId) (own : SessionTask) :
      cache.Keeps ((cache.updateSession id own.cancel).leaveHold hold) := by
    have hown : cache.Keeps (cache.updateSession id own.cancel) :=
      .updateAdapter fun adapter _ => own.account_cancel adapter.session
    exact hown.trans (.of_adapters rfl)
  cases task with
  | find entry => exact .of_adapters (entry.adapters_cancel cache)
  | findFor workspace file => exact .refl cache
  | ensure point =>
    cases point with
    | entering entry => exact .of_adapters (entry.adapters_cancel cache)
    | trying attempt ensure => exact hworks attempt.hold attempt.adapter (.ensure ensure)
    | checking attempt guardPoint =>
      exact hworks attempt.hold attempt.adapter (.checkAlive guardPoint)
    | pausing => exact .of_adapters rfl
    | evicting hold id stop => exact hworks hold id (.stop stop)
  | revive point =>
    cases point with
    | entering entry => exact .of_adapters (entry.adapters_cancel cache)
    | resetting hold id guardPoint => exact hworks hold id (.reset guardPoint)
  | disconnect point =>
    cases point with
    | starting | finding => exact .refl cache
    | working rest => exact .of_adapters (DisconnectPoint.adapters_dropAll rest cache)
    | queued key slot ticket rest =>
      exact .of_adapters (DisconnectPoint.adapters_dropAll rest _)
    | stopping key slot ticket rest closed id stop =>
      have hown : cache.Keeps (cache.updateSession id stop.cancel) :=
        .updateAdapter fun adapter _ => (SessionTask.stop stop).account_cancel adapter.session
      exact hown.trans (.of_adapters (DisconnectPoint.adapters_dropAll rest _))
  | ask id point =>
    have hcore (adapter : Adapter) : (point.cancel adapter).session.account =
        adapter.session.account := (congrArg Session.account (point.alike_cancel adapter).core :)
    exact .updateAdapter fun adapter _ => hcore adapter

end CacheTask
end SymbolSearch
