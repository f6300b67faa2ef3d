import SymbolSearch.Proofs.Cache.Course
import SymbolSearch.Proofs.Cache.Visits
import SymbolSearch.Proofs.Files.Roots

/-!
# Keys of a cache

Slots are found under keys whose roots were looked up among the files, so that two keys of one
ecosystem are the same if their roots are spelt alike.

* `Cache.Rooted` — all roots are such roots; `CacheTask.rooted_step` and `CacheTask.rooted_cancel`
  show that every operation keeps it so.
-/

namespace SymbolSearch

/-- Every key has a root as it comes from the files. -/
def Cache.Rooted (cache : Cache) : Prop := ∀ claim ∈ cache.mapped, claim.1.root.IsRoot

variable {cache m : Cache} {now : Instant} {files : Option Tree} {hold : Hold}

namespace Cache.Rooted

theorem of_mapped (h : cache.Rooted) (hmapped : m.mapped = cache.mapped) : m.Rooted := by
  rw [Rooted, hmapped]
  exact h

theorem unmapSlot (h : cache.Rooted) (key : CacheKey) (id : SlotId) :
    (cache.unmapSlot key id).Rooted := by
  simp only [Cache.unmapSlot]
  split
  · exact fun claim hclaim => h claim (List.mem_filter.mp hclaim).1
  · exact h

theorem stepSession {π ρ : Type} (h : cache.Rooted) (a : AdapterId)
    (step : Session → Stepped Session π ρ) : (cache.stepSession a step).1.Rooted :=
  h.of_mapped (ReconnectPoint.mapped_stepSession cache a step)

theorem adapterIn (h : cache.Rooted) (key : CacheKey) (server : ServerConfig) (id : SlotId) :
    (cache.adapterIn key server id).2.Rooted := by
  unfold Cache.adapterIn
  split
  · exact h
  · exact h

theorem findSlot (h : cache.Rooted) {key : CacheKey} (hkey : key.root.IsRoot) :
    (cache.findSlot key).2.Rooted := by
  unfold Cache.findSlot
  split
  · exact h
  · intro claim hclaim
    rcases List.mem_append.mp hclaim with hold | hnew
    · exact h claim hold
    · rw [List.mem_singleton.mp hnew]
      exact hkey

end Cache.Rooted

theorem EntryPoint.rooted_step (entry : EntryPoint) (h : cache.Rooted) :
    (entry.step files cache).1.Rooted := by
  cases entry with
  | starting ecosystem workspace =>
    simp only [step]
    split <;> exact h
  | finding ecosystem server workspace =>
    simp only [step]
    split
    · exact h
    · split
      · exact h
      next root hcanonical =>
        exact (h.findSlot (Tree.isRoot_canonical hcanonical)).of_mapped rfl
  | queued hold =>
    simp only [step]
    split <;> exact h

theorem EntryPoint.rooted_cancel (entry : EntryPoint) (h : cache.Rooted) :
    (entry.cancel cache).Rooted := by
  cases entry <;> exact h

theorem Cache.Rooted.stepAdapterFor (h : cache.Rooted) (entry : EntryPoint) :
    (cache.stepAdapterFor files entry).1.Rooted := by
  have hentry : (entry.step files cache).1.Rooted := entry.rooted_step h
  unfold Cache.stepAdapterFor
  generalize entry.step files cache = stepped at hentry
  obtain ⟨m, progress⟩ := stepped
  cases progress with
  | blocked | moved => exact hentry
  | finished result =>
    cases result with
    | error => exact hentry
    | ok hold => exact (hentry.adapterIn hold.key hold.server hold.slot).of_mapped rfl

namespace ReconnectPoint

theorem rooted_afterStop {stepped : Stepped Cache StopPoint Unit} (h : stepped.1.Rooted)
    (hold : Hold) (a : AdapterId) (error : CacheError) :
    (afterStop hold a error stepped).1.Rooted := by
  obtain ⟨m, progress⟩ := stepped
  cases progress with
  | blocked | moved => exact h
  | finished => exact (h.unmapSlot hold.key hold.slot).of_mapped rfl

theorem rooted_evict (h : m.Rooted) (hold : Hold) (error : CacheError) :
    (evict now hold error m).1.Rooted := by
  have hempty : (m.emptySlot hold.slot).2.Rooted := h.of_mapped rfl
  unfold evict
  split
  next hslot =>
    rw [hslot] at hempty
    exact (hempty.unmapSlot hold.key hold.slot).of_mapped rfl
  next a after hslot =>
    rw [hslot] at hempty
    exact rooted_afterStop (hempty.stepSession a _) hold a error

theorem rooted_afterFailure (h : m.Rooted) (attempt : Attempt) :
    (afterFailure now attempt m).1.Rooted := by
  simp only [afterFailure]
  split
  · exact rooted_evict h attempt.hold _
  · exact h

theorem rooted_afterCheck {stepped : Stepped Cache GuardPoint Bool} (h : stepped.1.Rooted)
    (attempt : Attempt) : (afterCheck now attempt stepped).1.Rooted := by
  obtain ⟨m, progress⟩ := stepped
  cases progress with
  | blocked | moved => exact h
  | finished alive =>
    cases alive with
    | false => exact rooted_afterFailure h attempt
    | true =>
      simp only [afterCheck, succeed]
      split <;> exact h.of_mapped rfl

theorem rooted_afterEnsure {stepped : Stepped Cache EnsurePoint (Except SessionError Unit)}
    (h : stepped.1.Rooted) (attempt : Attempt) : (afterEnsure now attempt stepped).1.Rooted := by
  obtain ⟨m, progress⟩ := stepped
  cases progress with
  | blocked | moved => exact h
  | finished result =>
    cases result with
    | ok => exact rooted_afterCheck (h.stepSession attempt.adapter _) attempt
    | error error =>
      simp only [afterEnsure]
      split
      · exact h.of_mapped rfl
      · split
        · exact rooted_evict h attempt.hold _
        · exact rooted_afterFailure h attempt

theorem rooted_begin (h : m.Rooted) (hold : Hold) (failed : Nat) :
    (begin now hold failed m).1.Rooted :=
  rooted_afterEnsure ((h.adapterIn hold.key hold.server hold.slot).stepSession _ _) _

theorem rooted_step (point : ReconnectPoint) (h : cache.Rooted) :
    (point.step now files cache).1.Rooted := by
  cases point with
  | entering entry =>
    have hentry : (entry.step files cache).1.Rooted := entry.rooted_step h
    simp only [step]
    generalize entry.step files cache = stepped at hentry
    obtain ⟨m, progress⟩ := stepped
    cases progress with
    | blocked | moved => exact hentry
    | finished result =>
      cases result with
      | error => exact hentry
      | ok hold => exact rooted_begin hentry hold 0
  | trying attempt ensure => exact rooted_afterEnsure (h.stepSession attempt.adapter _) attempt
  | checking attempt guardPoint =>
    exact rooted_afterCheck (h.stepSession attempt.adapter _) attempt
  | pausing hold failed resume =>
    simp only [step]
    split
    · exact rooted_begin h hold failed
    · exact h
  | evicting hold a stop error => exact rooted_afterStop (h.stepSession a _) hold a error

theorem rooted_cancel (point : ReconnectPoint) (h : cache.Rooted) :
    (point.cancel cache).Rooted := by
  cases point with
  | entering entry => exact entry.rooted_cancel h
  | trying | checking | pausing | evicting => exact h.of_mapped rfl

end ReconnectPoint

theorem RevivePoint.rooted_step (point : RevivePoint) (h : cache.Rooted) :
    (point.step files cache).1.Rooted := by
  have hreset {stepped : Stepped Cache GuardPoint Bool} (h : stepped.1.Rooted) (hold : Hold)
      (a : AdapterId) : (afterReset hold a stepped).1.Rooted := by
    obtain ⟨m, progress⟩ := stepped
    cases progress <;> exact h.of_mapped rfl
  cases point with
  | entering entry =>
    have hentry : (entry.step files cache).1.Rooted := entry.rooted_step h
    simp only [step]
    generalize entry.step files cache = stepped at hentry
    obtain ⟨m, progress⟩ := stepped
    cases progress with
    | blocked | moved => exact hentry
    | finished result =>
      cases result with
      | error => exact hentry
      | ok hold =>
        dsimp only
        split
        · exact hentry.of_mapped rfl
        next a _ =>
          have hforgets : (m.updateAdapter a Adapter.invalidate).Rooted := hentry.of_mapped rfl
          exact hreset (hforgets.stepSession a _) hold a
  | resetting hold a guardPoint => exact hreset (h.stepSession a _) hold a

namespace DisconnectPoint

theorem mapped_gather (cache : Cache) (chosen : List (CacheKey × SlotId)) :
    (gather cache chosen).1.mapped = cache.mapped := by
  induction chosen generalizing cache with
  | nil => rfl
  | cons claim chosen ih => exact ih _

theorem mapped_dropAll (slots : List (CacheKey × SlotId)) (cache : Cache) :
    (dropAll slots cache).mapped = cache.mapped := by
  induction slots generalizing cache with
  | nil => rfl
  | cons claim slots ih => exact ih _

theorem rooted_step (point : DisconnectPoint) (h : cache.Rooted) :
    (point.step now files cache).1.Rooted := by
  have hstop {key : CacheKey} {slot : SlotId} {ticket : Ticket}
      {rest : List (CacheKey × SlotId)} {closed : Nat} {a : AdapterId}
      {stepped : Stepped Cache StopPoint Unit} (h : stepped.1.Rooted) :
      (afterStop key slot ticket rest closed a stepped).1.Rooted := by
    obtain ⟨m, progress⟩ := stepped
    cases progress with
    | blocked | moved => exact h
    | finished => exact (h.unmapSlot key slot).of_mapped rfl
  cases point with
  | starting => exact h.of_mapped (mapped_gather cache _)
  | finding workspace =>
    simp only [step]
    split
    · exact h
    · exact h.of_mapped (mapped_gather cache _)
  | working rest closed =>
    cases rest with
    | nil => exact h
    | cons claim rest => exact h.of_mapped rfl
  | queued key slot ticket rest closed =>
    have hempty : (cache.emptySlot slot).2.Rooted := h.of_mapped rfl
    simp only [step]
    split
    · split
      next m hslot =>
        rw [hslot] at hempty
        exact (hempty.unmapSlot key slot).of_mapped rfl
      next a m hslot =>
        rw [hslot] at hempty
        exact hstop (hempty.stepSession a _)
    · exact h
  | stopping key slot ticket rest closed a stop => exact hstop (h.stepSession a _)

theorem rooted_cancel (point : DisconnectPoint) (h : cache.Rooted) :
    (point.cancel cache).Rooted := by
  cases point with
  | starting | finding => exact h
  | working | queued | stopping => exact h.of_mapped (mapped_dropAll _ _)

end DisconnectPoint

namespace CacheTask

/-- An operation finds slots only under roots from the files. -/
theorem rooted_step (task : CacheTask) (h : cache.Rooted) :
    (task.step now files cache).1.Rooted := by
  cases task with
  | find entry => exact h.stepAdapterFor entry
  | findFor workspace file =>
    simp only [step]
    split <;> exact h
  | ensure point => exact point.rooted_step h
  | revive point => exact point.rooted_step h
  | disconnect point => exact point.rooted_step h
  | ask a point =>
    show (cache.stepAdapter a (point.step now files)).1.Rooted
    unfold Cache.stepAdapter
    split <;> exact h

theorem rooted_cancel (task : CacheTask) (h : cache.Rooted) : (task.cancel cache).Rooted := by
  cases task with
  | find entry => exact entry.rooted_cancel h
  | findFor => exact h
  | ensure point => exact point.rooted_cancel h
  | revive point =>
    cases point with
    | entering entry => exact entry.rooted_cancel h
    | resetting => exact h.of_mapped rfl
  | disconnect point => exact point.rooted_cancel h
  | ask => exact h

end CacheTask
end SymbolSearch
