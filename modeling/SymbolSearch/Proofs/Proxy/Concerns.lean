import SymbolSearch.Proofs.Cache.Deserted
import SymbolSearch.Proofs.Cache.Keys
import SymbolSearch.Proofs.Cache.Returning
import SymbolSearch.Proofs.Proxy.Course

/-!
# The sessions that a pass looks at

* `ProxyCourse.IsReached.rooted` — every key of the cache has a root as it comes from the files,
  whatever passes and operations do.
* `Proxy.concerned` — the ecosystems whose sessions for the workspace a pass looks at.
* `Proxy.Chooses` — no ecosystem is chosen twice, and for each one a session is kept, with an adapter
  and a slot of its own; `ProxyCourse.IsReached.chooses` shows it.
-/

namespace SymbolSearch

variable {now : Instant} {proxy : Proxy}

/-! ### Keys -/

theorem CheckPoint.rooted_step {wall : Nat} {files : Option Tree} (point : CheckPoint)
    (h : proxy.cache.Rooted) : (point.step now wall files proxy).1.cache.Rooted := by
  have hreconnect (reconnect : ReconnectPoint) :
      (reconnect.step now files proxy.cache).1.Rooted := reconnect.rooted_step h
  cases point with
  | starting => exact h
  | passing rest checked => cases rest <;> exact h
  | ensuring ecosystem reconnect rest checked =>
    have hensured := hreconnect reconnect
    simp only [step, Proxy.withCache]
    generalize reconnect.step now files proxy.cache = stepped at hensured
    obtain ⟨cache, progress⟩ := stepped
    cases progress with
    | blocked | moved => exact hensured
    | finished result =>
      cases result with
      | error => exact hensured
      | ok a =>
        dsimp only
        split
        · exact hensured
        · split <;> exact hensured
  | probing ecosystem a query deadline rest checked =>
    have hasked : (proxy.cache.stepSession a (query.step now)).1.Rooted := h.stepSession a _
    simp only [step, Proxy.withCache]
    generalize proxy.cache.stepSession a (query.step now) = stepped at hasked
    obtain ⟨cache, progress⟩ := stepped
    cases progress with
    | moved | finished => exact hasked
    | blocked =>
      dsimp only
      split <;> exact hasked

theorem CheckPoint.rooted_cancel (point : CheckPoint) (h : proxy.cache.Rooted) :
    (point.cancel proxy).cache.Rooted := by
  cases point with
  | starting | passing => exact h
  | ensuring ecosystem reconnect => exact reconnect.rooted_cancel h
  | probing => exact h.of_mapped rfl

theorem ProxyTask.rooted_step {input : ProxyInput} (task : ProxyTask) (h : proxy.cache.Rooted) :
    (task.step now input proxy).1.cache.Rooted := by
  cases task with
  | onCache task => exact task.rooted_step h
  | check point => exact point.rooted_step h

theorem ProxyTask.rooted_cancel (task : ProxyTask) (h : proxy.cache.Rooted) :
    (task.cancel proxy).cache.Rooted := by
  cases task with
  | onCache task => exact task.rooted_cancel h
  | check point => exact point.rooted_cancel h

namespace ProxyCourse

variable {course : ProxyCourse}

theorem rooted_next (h : course.shared.cache.Rooted) (event : ProxyEvent) :
    (proxyRules.next course event).shared.cache.Rooted := by
  have hgoes := course.goes_next event
  generalize proxyRules.next course event = course' at hgoes
  cases hgoes with
  | idles event shared | begins call shared =>
    rw [shared]
    exact h
  | steps i input task stands goes shared =>
    rw [shared]
    exact task.rooted_step h
  | givesUp i task stands shared =>
    rw [shared]
    exact task.rooted_cancel h
  | occurs event shared =>
    rw [shared]
    exact h.of_mapped rfl

theorem IsReached.rooted (h : course.IsReached) : course.shared.cache.Rooted := by
  obtain ⟨workspace, servers, settings, events, rfl⟩ := h
  have hstart : (start workspace servers settings).shared.cache.Rooted :=
    List.forall_mem_nil _
  exact proxyRules.history_induction (motive := fun _ course => course.shared.cache.Rooted)
    hstart (fun _ _ event h => rooted_next h event) events

end ProxyCourse

/-! ### Choosing -/

/-- What is reported is kept. -/
theorem Cache.kept_of_mem_statuses {cache : Cache} {status : SessionStatus}
    (h : status ∈ cache.statuses) :
    ∃ id a s, (status.key, id) ∈ cache.mapped ∧ (cache.slotAt id).adapter = some a ∧
      cache.session? a = some s ∧ status.state = s.state := by
  rw [statuses, List.mem_mergeSort, List.mem_filterMap] at h
  obtain ⟨⟨key, id⟩, hmem, hstatus⟩ := h
  obtain ⟨a, hkept, hstatus⟩ := Option.bind_eq_some_iff.mp hstatus
  obtain ⟨s, hs, hstatus⟩ := Option.bind_eq_some_iff.mp hstatus
  obtain rfl := Option.some.inj hstatus
  exact ⟨id, a, s, hmem, hkept, hs, rfl⟩

namespace Cached.IsIn

variable {own other : Cached} {cache : Cache} {count : Nat} {stanceOf : Nat → Stance}

/-- Two keys never lead to one slot. -/
theorem key_of_slot (h : own.IsIn cache) (htidy : Tidy cache count stanceOf) (h' : other.IsIn cache)
    (hsame : own.slot = other.slot) : own.key = other.key :=
  congrArg Prod.fst (List.inj_on_of_nodup_map htidy.ids (Cache.mem_mapped_of_lookup h.found)
    (Cache.mem_mapped_of_lookup h'.found) hsame)

/-- An adapter is only in the slot of its own key. -/
theorem key_of_adapter (h : own.IsIn cache) (htidy : Tidy cache count stanceOf)
    (h' : other.IsIn cache) (hsame : own.adapter = other.adapter) : own.key = other.key := by
  obtain ⟨adapter, hadapter, hmem⟩ := htidy.kept _ _ h.holds
  obtain ⟨adapter', hadapter', hmem'⟩ := htidy.kept _ _ h'.holds
  rw [hsame, hadapter'] at hadapter
  obtain rfl := Option.some.inj hadapter
  refine h.key_of_slot htidy h' ?_
  exact congrArg Prod.snd (List.inj_on_of_nodup_map htidy.keys hmem hmem' rfl)

end Cached.IsIn

namespace Proxy

/-- The ecosystems of the sessions for the workspace that a pass looks at. -/
def concerned (proxy : Proxy) : List Ecosystem :=
  (proxy.ownStatuses.filter fun status => CheckPoint.concerns status.state).map (·.key.ecosystem)

/-- Each ecosystem is chosen once, and a session is kept for it that has its adapter and its slot
    for itself. -/
structure Chooses (proxy : Proxy) (chosen : List Ecosystem) (cachedOf : Ecosystem → Cached) :
    Prop where
  nodup : chosen.Nodup
  key : ∀ e ∈ chosen, (cachedOf e).key = ⟨e, proxy.workspace⟩
  kept : ∀ e ∈ chosen, (cachedOf e).IsIn proxy.cache
  slots : ∀ e ∈ chosen, ∀ e' ∈ chosen, (cachedOf e).slot = (cachedOf e').slot → e = e'
  adapters : ∀ e ∈ chosen, ∀ e' ∈ chosen, (cachedOf e).adapter = (cachedOf e').adapter → e = e'

variable {count : Nat} {stanceOf : Nat → Stance}

/-- The sessions for the workspace have its root in their keys. -/
theorem root_of_mem_ownStatuses (hrooted : proxy.cache.Rooted) (hroot : proxy.workspace.IsRoot)
    {status : SessionStatus} (h : status ∈ proxy.ownStatuses) :
    status.key = ⟨status.key.ecosystem, proxy.workspace⟩ := by
  obtain ⟨hmem, hsame⟩ := List.mem_filter.mp h
  obtain ⟨id, a, s, hmapped, -⟩ := Cache.kept_of_mem_statuses hmem
  rw [← (hrooted _ hmapped).eq_of_same hroot hsame]

theorem nodup_concerned (htidy : Tidy proxy.cache count stanceOf) (hrooted : proxy.cache.Rooted)
    (hroot : proxy.workspace.IsRoot) : proxy.concerned.Nodup := by
  have hkeys : (proxy.cache.statuses.map SessionStatus.key).Nodup :=
    (Cache.perm_statuses htidy).nodup_iff.mpr (htidy.keys.sublist (List.filter_sublist.map _))
  have hown : ((proxy.ownStatuses.filter fun status =>
      CheckPoint.concerns status.state).map SessionStatus.key).Nodup :=
    hkeys.sublist ((List.filter_sublist.trans List.filter_sublist).map _)
  have hsame : proxy.concerned = ((proxy.ownStatuses.filter fun status =>
      CheckPoint.concerns status.state).map SessionStatus.key).map CacheKey.ecosystem := by
    rw [List.map_map]
    rfl
  rw [hsame]
  refine hown.map_on fun key hkey other hother heq => ?_
  obtain ⟨status, hstatus, rfl⟩ := List.mem_map.mp hkey
  obtain ⟨status', hstatus', rfl⟩ := List.mem_map.mp hother
  rw [root_of_mem_ownStatuses hrooted hroot (List.mem_filter.mp hstatus).1,
    root_of_mem_ownStatuses hrooted hroot (List.mem_filter.mp hstatus').1, heq]

theorem exists_cached (htidy : Tidy proxy.cache count stanceOf) (hrooted : proxy.cache.Rooted)
    (hroot : proxy.workspace.IsRoot) {e : Ecosystem} (h : e ∈ proxy.concerned) :
    ∃ own : Cached, own.key = ⟨e, proxy.workspace⟩ ∧ own.IsIn proxy.cache := by
  obtain ⟨status, hstatus, rfl⟩ := List.mem_map.mp h
  obtain ⟨hmem, -⟩ := List.mem_filter.mp hstatus
  have hkey := root_of_mem_ownStatuses hrooted hroot hmem
  obtain ⟨id, a, s, hmapped, hkept, hs, -⟩ :=
    Cache.kept_of_mem_statuses (List.mem_filter.mp hmem).1
  rw [hkey] at hmapped
  exact ⟨⟨_, id, a⟩, rfl, htidy.lookup_of_mem hmapped, hkept, s, hs⟩

theorem exists_chooses (htidy : Tidy proxy.cache count stanceOf) (hrooted : proxy.cache.Rooted)
    (hroot : proxy.workspace.IsRoot) : ∃ cachedOf, proxy.Chooses proxy.concerned cachedOf := by
  have hcached (e : Ecosystem) : ∃ own : Cached, e ∈ proxy.concerned →
      own.key = ⟨e, proxy.workspace⟩ ∧ own.IsIn proxy.cache := by
    by_cases he : e ∈ proxy.concerned
    · obtain ⟨own, hown⟩ := exists_cached htidy hrooted hroot he
      exact ⟨own, fun _ => hown⟩
    · exact ⟨⟨⟨e, proxy.workspace⟩, 0, 0⟩, fun h => absurd h he⟩
  choose cachedOf hcachedOf using hcached
  have hkey {e e' : Ecosystem} (he : e ∈ proxy.concerned) (he' : e' ∈ proxy.concerned)
      (hsame : (cachedOf e).key = (cachedOf e').key) : e = e' := by
    rw [(hcachedOf e he).1, (hcachedOf e' he').1] at hsame
    exact congrArg CacheKey.ecosystem hsame
  exact ⟨cachedOf, nodup_concerned htidy hrooted hroot, fun e he => (hcachedOf e he).1,
    fun e he => (hcachedOf e he).2,
    fun e he e' he' hsame =>
      hkey he he' ((hcachedOf e he).2.key_of_slot htidy (hcachedOf e' he').2 hsame),
    fun e he e' he' hsame =>
      hkey he he' ((hcachedOf e he).2.key_of_adapter htidy (hcachedOf e' he').2 hsame)⟩

end Proxy

theorem ProxyCourse.IsReached.chooses {course : ProxyCourse} (h : course.IsReached)
    (hroot : course.shared.workspace.IsRoot) :
    ∃ cachedOf, course.shared.Chooses course.shared.concerned cachedOf := by
  obtain ⟨count, htidy⟩ := h.inOrder.tidy
  exact Proxy.exists_chooses htidy h.rooted hroot

end SymbolSearch
