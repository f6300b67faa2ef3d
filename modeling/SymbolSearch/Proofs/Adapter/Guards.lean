import Mathlib.Algebra.BigOperators.Group.Finset.Basic
import Mathlib.Algebra.Order.BigOperators.Group.Finset
import SymbolSearch.Proofs.Adapter.Course
import SymbolSearch.Proofs.Sync.Line

/-!
# Guards of documents

Guards are made when they are asked for and forgotten when nobody else has them. This file shows
that all questions about one document still ask for the same guard.

* `Claim` — what a question has to do with the guard of its document.
* `Locked` — the table leads from each document to one guard, every guard that a question claims can
  be found under the document of the question, a guard knows how many claim it, and its line is in
  good order; `Locked.lock`, `Locked.unlock` and `Locked.abandon` keep it so.
* `Locked.exclusive` — so two questions with a guard in their hands are about different documents.
* `AdapterCourse.isLocked_after` — any course, even if questions are given up on the way.
* `AdapterCourse.allClaimed_after` — without that, the table has no document that nobody claims.
-/

namespace SymbolSearch

/-- What a question has to do with the guard of its document. -/
structure Claim where
  uri : String
  guard : GuardId
  ticket : Ticket
  /-- Whether the question has got the guard and begun to work with it. -/
  inside : Bool

/-- The claim of a question about a document. -/
def Bracket.claim (bracket : Bracket) (inside : Bool) : Claim :=
  ⟨bracket.uri, bracket.guard, bracket.ticket, inside⟩

/-- The claim of a question, where it stands. -/
def InquiryPoint.claim? : InquiryPoint → Option Claim
  | .queued bracket _ => some (bracket.claim false)
  | .opening bracket _ _ | .settling bracket _ _ | .askingInside bracket _
  | .closing bracket _ _ => some (bracket.claim true)
  | _ => none

namespace Claim

/-- How often a question has a guard. -/
def countOf (id : GuardId) (claim? : Option Claim) : Nat :=
  if claim?.any (·.guard = id) then 1 else 0

/-- The ticket with which a question waits for a guard, or has it. -/
def ticketAt (id : GuardId) (claim? : Option Claim) : Option Ticket :=
  claim?.bind fun claim => if claim.guard = id then some claim.ticket else none

/-- Whether a question works with a guard. -/
def IsInside (id : GuardId) (claim? : Option Claim) : Prop :=
  ∃ claim, claim? = some claim ∧ claim.guard = id ∧ claim.inside = true

variable {claim : Claim} {id : GuardId}

theorem countOf_self (claim : Claim) : countOf claim.guard (some claim) = 1 := by simp [countOf]

theorem countOf_of_ne (h : claim.guard ≠ id) : countOf id (some claim) = 0 := by simp [countOf, h]

theorem ticketAt_self (claim : Claim) : ticketAt claim.guard (some claim) = some claim.ticket :=
  if_pos rfl

theorem ticketAt_of_ne (h : claim.guard ≠ id) : ticketAt id (some claim) = none := if_neg h

theorem not_isInside_of_ne (h : claim.guard ≠ id) : ¬IsInside id (some claim) := by
  rintro ⟨_, ⟨⟩, hguard, -⟩
  exact h hguard

end Claim

/-! ### What the operations on guards do -/

namespace Adapter

variable {adapter adapter' : Adapter} {uri : String} {id : GuardId} {ticket : Ticket}

/-- Nothing happens to the guards. -/
structure SameGuards (adapter adapter' : Adapter) : Prop where
  guards : adapter'.guards = adapter.guards
  openDocuments : adapter'.openDocuments = adapter.openDocuments

theorem SameGuards.guardAt (h : SameGuards adapter adapter') (id : GuardId) :
    adapter'.guardAt id = adapter.guardAt id := by rw [Adapter.guardAt, h.guards, Adapter.guardAt]

/-- A guard has got one more in line, and the table leads to it. -/
structure Locks (adapter : Adapter) (uri : String) (id : GuardId) (adapter' : Adapter) : Prop where
  guard : adapter'.guardAt id =
    ⟨(adapter.guardAt id).turns.join.2, (adapter.guardAt id).holders + 1⟩
  other : ∀ g, g ≠ id → adapter'.guardAt g = adapter.guardAt g
  length : adapter.guards.length ≤ adapter'.guards.length
  known : (uri, id) ∈ adapter.openDocuments ∧ adapter'.openDocuments = adapter.openDocuments ∨
    (∀ g, (uri, g) ∉ adapter.openDocuments) ∧ id = adapter.guards.length ∧
      id < adapter'.guards.length ∧ adapter'.openDocuments = adapter.openDocuments ++ [(uri, id)]

theorem Locks.mem (h : Locks adapter uri id adapter') :
    (uri, id) ∈ adapter'.openDocuments := by
  rcases h.known with ⟨hmem, heq⟩ | ⟨-, -, -, heq⟩
  · rw [heq]
    exact hmem
  · rw [heq]
    exact List.mem_append_right _ (List.mem_singleton_self _)

theorem Locks.subset (h : Locks adapter uri id adapter') :
    adapter.openDocuments ⊆ adapter'.openDocuments := by
  rcases h.known with ⟨-, heq⟩ | ⟨-, -, -, heq⟩
  · rw [heq]
    exact List.Subset.refl _
  · rw [heq]
    exact List.subset_append_left _ _

/-- One who had a guard is gone; `forgets` tells whether the document leaves the table. -/
structure Frees (adapter : Adapter) (uri : String) (id : GuardId) (ticket : Ticket) (forgets : Bool)
    (adapter' : Adapter) : Prop where
  guard : adapter'.guardAt id =
    ⟨(adapter.guardAt id).turns.leave ticket, (adapter.guardAt id).holders - 1⟩
  other : ∀ g, g ≠ id → adapter'.guardAt g = adapter.guardAt g
  length : adapter'.guards.length = adapter.guards.length
  openDocuments : adapter'.openDocuments =
    if forgets then adapter.openDocuments.filter fun entry => entry.1 ≠ uri
    else adapter.openDocuments

theorem guardAt_updateGuard_self (hid : id < adapter.guards.length)
    (change : DocumentGuard → DocumentGuard) :
    (adapter.updateGuard id change).guardAt id = change (adapter.guardAt id) := by
  simp [guardAt, updateGuard, List.getElem?_eq_getElem hid]

theorem guardAt_updateGuard_of_ne {g : GuardId} (hg : g ≠ id)
    (change : DocumentGuard → DocumentGuard) :
    (adapter.updateGuard id change).guardAt g = adapter.guardAt g := by
  simp [guardAt, updateGuard, Ne.symm hg]

@[simp]
theorem length_updateGuard (adapter : Adapter) (id : GuardId)
    (change : DocumentGuard → DocumentGuard) :
    (adapter.updateGuard id change).guards.length = adapter.guards.length := by
  simp [updateGuard]

theorem mem_of_lookup {entries : List (String × GuardId)} (h : entries.lookup uri = some id) :
    (uri, id) ∈ entries := by
  obtain ⟨before, after, heq, -⟩ := List.lookup_eq_some_iff.mp h
  rw [heq]
  exact List.mem_append_right _ List.mem_cons_self

/-- Asking for the guard of a document. -/
theorem locks_lockDocument (adapter : Adapter) (uri : String)
    (hmapped : ∀ entry ∈ adapter.openDocuments, entry.2 < adapter.guards.length) :
    ∃ id, (adapter.lockDocument uri).1 = (id, (adapter.guardAt id).turns.join.1) ∧
      Locks adapter uri id (adapter.lockDocument uri).2 := by
  unfold lockDocument findGuard
  cases hlookup : adapter.openDocuments.lookup uri with
  | some id =>
    have hmem := mem_of_lookup hlookup
    have hid : id < adapter.guards.length := hmapped _ hmem
    have hheld := guardAt_updateGuard_self hid fun guard =>
      { guard with holders := guard.holders + 1 }
    refine ⟨id, ?_, ?_, ?_, ?_, .inl ⟨hmem, rfl⟩⟩
    · simp only [joinGuard, hheld]
    · simp only [joinGuard, hheld]
      rw [guardAt_updateGuard_self (by rwa [length_updateGuard]), hheld]
    · intro g hg
      simp only [joinGuard]
      rw [guardAt_updateGuard_of_ne hg, guardAt_updateGuard_of_ne hg]
    · exact Nat.le_of_eq (by simp [joinGuard])
  | none =>
    have hnew : adapter.guardAt adapter.guards.length = {} := by simp [guardAt]
    have hlast : (({ adapter with
        guards := adapter.guards ++ [{ holders := 1 }]
        openDocuments := adapter.openDocuments ++ [(uri, adapter.guards.length)] } : Adapter).guardAt
          adapter.guards.length) = { holders := 1 } := by simp [guardAt]
    refine ⟨adapter.guards.length, ?_, ?_, ?_, ?_, .inr ⟨?_, rfl, ?_, rfl⟩⟩
    · simp only [joinGuard, hlast, hnew]
    · simp only [joinGuard, hlast, hnew]
      rw [guardAt_updateGuard_self (by simp), hlast]
    · intro g hg
      simp only [joinGuard]
      rw [guardAt_updateGuard_of_ne hg]
      rcases Nat.lt_or_gt_of_ne hg with hlt | hgt
      · simp only [guardAt, List.getElem?_append_left hlt]
      · have hbeyond : (adapter.guards ++ [({ holders := 1 } : DocumentGuard)]).length ≤ g := by
          rw [List.length_append]
          exact Nat.succ_le_of_lt hgt
        simp only [guardAt, List.getElem?_eq_none hbeyond, List.getElem?_eq_none (Nat.le_of_lt hgt)]
    · simp [joinGuard]
    · intro g hmem
      have hne := List.lookup_eq_none_iff.mp hlookup _ hmem
      simp at hne
    · simp [joinGuard]

/-- Giving up the guard of a document. -/
theorem frees_unlockDocument (hid : id < adapter.guards.length) :
    Frees adapter uri id ticket (adapter.guardCount id = 2)
      (adapter.unlockDocument uri id ticket) := by
  have hleft := guardAt_updateGuard_self hid fun guard =>
    { guard with turns := guard.turns.leave ticket }
  -- The line does not matter for the number of those who have the guard.
  have hcount : (adapter.leaveGuard id ticket).guardCount id = adapter.guardCount id := by
    simp only [guardCount, leaveGuard, hleft]
    rfl
  have hforget (g : GuardId) : ((adapter.leaveGuard id ticket).forgetGuard uri id).guardAt g =
      (adapter.leaveGuard id ticket).guardAt g := by
    unfold forgetGuard
    split <;> rfl
  have hlength : ((adapter.leaveGuard id ticket).forgetGuard uri id).guards.length =
      adapter.guards.length := by
    unfold forgetGuard
    split <;> simp [leaveGuard]
  constructor
  · unfold unlockDocument dropGuard
    rw [guardAt_updateGuard_self (hlength ▸ hid), hforget]
    simp only [leaveGuard, hleft]
  · intro g hg
    unfold unlockDocument dropGuard
    rw [guardAt_updateGuard_of_ne hg, hforget]
    exact guardAt_updateGuard_of_ne hg _
  · unfold unlockDocument dropGuard
    rw [length_updateGuard, hlength]
  · show ((adapter.leaveGuard id ticket).forgetGuard uri id).openDocuments = _
    unfold forgetGuard
    rw [hcount]
    by_cases htwo : adapter.guardCount id = 2
    · rw [if_pos htwo, if_pos (decide_eq_true htwo)]
      rfl
    · rw [if_neg htwo, if_neg (by simpa using htwo)]
      rfl

/-- Giving it up on the way. -/
theorem frees_abandonDocument (hid : id < adapter.guards.length) :
    Frees adapter uri id ticket false (adapter.abandonDocument id ticket) := by
  have hleft := guardAt_updateGuard_self hid fun guard =>
    { guard with turns := guard.turns.leave ticket }
  constructor
  · unfold abandonDocument dropGuard
    rw [guardAt_updateGuard_self (by simpa [leaveGuard] using hid)]
    simp only [leaveGuard, hleft]
  · intro g hg
    unfold abandonDocument dropGuard
    rw [guardAt_updateGuard_of_ne hg]
    exact guardAt_updateGuard_of_ne hg _
  · simp [abandonDocument, dropGuard, leaveGuard]
  · rfl

theorem SameGuards.refl (adapter : Adapter) : SameGuards adapter adapter := ⟨rfl, rfl⟩

theorem SameGuards.unlockDocument (h : SameGuards adapter adapter') (uri : String) (id : GuardId)
    (ticket : Ticket) :
    SameGuards (adapter.unlockDocument uri id ticket) (adapter'.unlockDocument uri id ticket) := by
  obtain ⟨hguards, hopen⟩ := h
  have hcount : (adapter'.leaveGuard id ticket).guardCount id =
      (adapter.leaveGuard id ticket).guardCount id := by
    simp only [guardCount, leaveGuard, updateGuard, hguards, hopen]
    rfl
  unfold Adapter.unlockDocument forgetGuard
  rw [hcount]
  split
  · exact ⟨by simp only [dropGuard, leaveGuard, updateGuard, hguards],
      by simp only [dropGuard, leaveGuard, updateGuard, hopen]⟩
  · exact ⟨by simp only [dropGuard, leaveGuard, updateGuard, hguards],
      by simp only [dropGuard, leaveGuard, updateGuard, hopen]⟩

theorem SameGuards.abandonDocument (h : SameGuards adapter adapter') (id : GuardId)
    (ticket : Ticket) :
    SameGuards (adapter.abandonDocument id ticket) (adapter'.abandonDocument id ticket) := by
  obtain ⟨hguards, hopen⟩ := h
  exact ⟨by simp only [Adapter.abandonDocument, dropGuard, leaveGuard, updateGuard, hguards], hopen⟩

end Adapter

open Adapter

/-! ### What a question does with guards -/

/-- What a step of a question does with the guards. -/
inductive LockMoves (adapter : Adapter) : Option Claim → Option Claim → Adapter → Prop where
  | keeps (claim? : Option Claim) (after : Adapter) (same : SameGuards adapter after) :
      LockMoves adapter claim? claim? after
  | enters (claim : Claim) (after : Adapter) (same : SameGuards adapter after)
      (holds : (adapter.guardAt claim.guard).turns.holder = some claim.ticket) :
      LockMoves adapter (some claim) (some { claim with inside := true }) after
  | joins (uri : String) (after : Adapter) (same : SameGuards (adapter.lockDocument uri).2 after) :
      LockMoves adapter none (some ⟨uri, (adapter.lockDocument uri).1.1,
        (adapter.lockDocument uri).1.2, false⟩) after
  | leaves (claim : Claim) (after : Adapter)
      (same : SameGuards (adapter.unlockDocument claim.uri claim.guard claim.ticket) after) :
      LockMoves adapter (some claim) none after

namespace InquiryPoint

variable {now : Instant} {files : Option Tree} {adapter : Adapter} {point : InquiryPoint}
  {bracket : Bracket} {result : Except SessionError Answer}

/-- What comes after the question has nothing to do with guards. -/
theorem claim?_conclude (now : Instant) (result : Except SessionError Answer) (inquiry : Inquiry)
    (query : Query) (adapter : Adapter) :
    SameGuards adapter (conclude now inquiry query adapter result).1 ∧
      (conclude now inquiry query adapter result).2.point?.bind claim? = none := by
  cases result with
  | ok answer => exact ⟨⟨rfl, rfl⟩, rfl⟩
  | error reason => exact ⟨⟨rfl, rfl⟩, rfl⟩

theorem lockMoves_leave (inside : Bool) {after : Adapter} (same : SameGuards adapter after) :
    LockMoves adapter (some (bracket.claim inside))
      ((leave now bracket after result).2.point?.bind claim?)
      (leave now bracket after result).1 := by
  obtain ⟨hsame, hnone⟩ := claim?_conclude now result bracket.inquiry bracket.query
    (after.unlockDocument bracket.uri bracket.guard bracket.ticket)
  unfold leave
  rw [hnone]
  have hunlock := same.unlockDocument bracket.uri bracket.guard bracket.ticket
  exact .leaves _ _ ⟨hsame.guards.trans hunlock.guards,
    hsame.openDocuments.trans hunlock.openDocuments⟩

/-- One who opens a document works with its guard, or has just got it. -/
theorem Opens.cases {listener : Option Nat} {notice : NoticePoint}
    (h : point.Opens adapter bracket listener notice) :
    point.claim? = some (bracket.claim true) ∨ point.claim? = some (bracket.claim false) ∧
      (adapter.guardAt bracket.guard).turns.holder = some bracket.ticket := by
  cases h with
  | begins _ text _ holds => exact .inr ⟨rfl, by simpa [Turns.holds] using holds⟩
  | goesOn => exact .inl rfl

theorem AsksInside.claim?_eq {call : QueryPoint} (h : point.AsksInside bracket call) :
    point.claim? = some (bracket.claim true) := by
  cases h <;> rfl

theorem lockMoves_step {stepped : Inquired} (hmoves : InquiryMoves now files adapter point stepped)
    (hblocked : stepped.2 ≠ .blocked) :
    LockMoves adapter point.claim? (stepped.2.point?.bind claim?) stepped.1 := by
  have hworks (after : Adapter) (same : SameGuards adapter after) {bracket : Bracket}
      {listener : Option Nat} {notice : NoticePoint} (before : point.Opens adapter bracket listener notice) :
      LockMoves adapter point.claim? (some (bracket.claim true)) after := by
    rcases before.cases with hclaim | ⟨hclaim, hholder⟩
    · rw [hclaim]
      exact .keeps _ after same
    · rw [hclaim]
      exact .enters _ after same hholder
  cases hmoves with
  | blocks => exact absurd rfl hblocked
  | unaskable | remembers | shuns | reads | asks | unreadable | stillAsks | scans | stillCloses =>
    exact .keeps _ _ ⟨rfl, rfl⟩
  | joins inquiry query path text uri uri_eq => exact .joins uri _ (.refl _)
  | opening _ bracket listener notice notice' listeners s' before step =>
    exact hworks { adapter with session := s' } ⟨rfl, rfl⟩ before
  | opened _ bracket listener notice listeners s' resume before step =>
    exact hworks { adapter with session := s' } ⟨rfl, rfl⟩ before
  | unopened _ bracket listener notice listeners listeners' s' reason before step =>
    rcases before.cases with hclaim | ⟨hclaim, -⟩
    · rw [hclaim]
      exact lockMoves_leave true ⟨rfl, rfl⟩
    · rw [hclaim]
      exact lockMoves_leave false ⟨rfl, rfl⟩
  | asking _ bracket call call' listeners s' before step =>
    rw [before.claim?_eq]
    exact .keeps _ _ ⟨rfl, rfl⟩
  | closing _ bracket call listeners middle s' result notice before answered step =>
    rw [before.claim?_eq]
    exact .keeps _ _ ⟨rfl, rfl⟩
  | closed _ bracket call listeners middle s' result sent before answered step =>
    rw [before.claim?_eq]
    exact lockMoves_leave true ⟨rfl, rfl⟩
  | leaves bracket result notice s' sent step => exact lockMoves_leave true ⟨rfl, rfl⟩
  | concludes inquiry query call s' result step =>
    obtain ⟨hsame, hnone⟩ := claim?_conclude now result inquiry query { adapter with session := s' }
    rw [hnone]
    exact .keeps _ _ ⟨hsame.guards, hsame.openDocuments⟩

/-- A question that is given up takes nothing out of the table. -/
theorem guards_cancel (point : InquiryPoint) (adapter : Adapter) :
    point.claim? = none ∧ SameGuards adapter (point.cancel adapter) ∨
      ∃ claim, point.claim? = some claim ∧
        SameGuards (adapter.abandonDocument claim.guard claim.ticket) (point.cancel adapter) := by
  have habandons (bracket : Bracket) (inside : Bool) {after : Adapter}
      (hclaim : point.claim? = some (bracket.claim inside)) (same : SameGuards adapter after)
      (hcancel : point.cancel adapter = after.abandonDocument bracket.guard bracket.ticket) :
      ∃ claim, point.claim? = some claim ∧
        SameGuards (adapter.abandonDocument claim.guard claim.ticket) (point.cancel adapter) :=
    ⟨_, hclaim, hcancel ▸ same.abandonDocument bracket.guard bracket.ticket⟩
  have hsession (s' : Session) : SameGuards adapter { adapter with session := s' } := ⟨rfl, rfl⟩
  have hstop (after : Adapter) (listener : Option Nat) :
      SameGuards after (stopListening after listener) := by
    obtain ⟨listeners, hlisteners⟩ := after.exists_stopListening listener
    rw [hlisteners]
    exact ⟨rfl, rfl⟩
  cases point with
  | starting | reading | asking | scanning => exact .inl ⟨rfl, rfl, rfl⟩
  | queued bracket text => exact .inr (habandons bracket false rfl (.refl adapter) rfl)
  | opening bracket listener notice =>
    have hsame := hstop { adapter with session := notice.cancel adapter.session } listener
    exact .inr (habandons bracket true rfl ⟨hsame.guards, hsame.openDocuments⟩ rfl)
  | settling bracket listener resume =>
    exact .inr (habandons bracket true rfl (hstop adapter listener) rfl)
  | askingInside bracket call =>
    exact .inr (habandons bracket true rfl (hsession (call.cancel adapter.session)) rfl)
  | closing bracket result notice =>
    exact .inr (habandons bracket true rfl (hsession (notice.cancel adapter.session)) rfl)

end InquiryPoint

/-! ### Guards in good order -/

/-- What holds of the guards of an adapter and the claims of its questions, which are those before
    `count`. -/
structure Locked (adapter : Adapter) (count : Nat) (claimOf : Nat → Option Claim) : Prop where
  keys : (adapter.openDocuments.map (·.1)).Nodup
  ids : (adapter.openDocuments.map (·.2)).Nodup
  mapped_lt : ∀ entry ∈ adapter.openDocuments, entry.2 < adapter.guards.length
  /-- A guard that somebody claims can be found. -/
  claimed : ∀ i claim, claimOf i = some claim → (claim.uri, claim.guard) ∈ adapter.openDocuments
  away : ∀ i, count ≤ i → claimOf i = none
  holders : ∀ id, (adapter.guardAt id).holders =
    ∑ i ∈ Finset.range count, Claim.countOf id (claimOf i)
  line : ∀ id, (adapter.guardAt id).turns.Serves (fun i => Claim.ticketAt id (claimOf i))
    fun i => Claim.IsInside id (claimOf i)

/-- Every document in the table is claimed by somebody. -/
def AllClaimed (adapter : Adapter) (claimOf : Nat → Option Claim) : Prop :=
  ∀ entry ∈ adapter.openDocuments, ∃ i claim, claimOf i = some claim ∧ claim.guard = entry.2

section Claims

variable {claimOf : Nat → Option Claim} {claim? : Option Claim} {i count : Nat} {id : GuardId}
  {turns : Turns}

theorem sum_countOf_update (hi : i < count) (claimOf : Nat → Option Claim) (claim? : Option Claim)
    (id : GuardId) :
    ∑ j ∈ Finset.range count, Claim.countOf id (Function.update claimOf i claim? j) =
      Claim.countOf id claim? + ∑ j ∈ (Finset.range count).erase i, Claim.countOf id (claimOf j) := by
  rw [← Finset.add_sum_erase _ _ (Finset.mem_range.mpr hi), Function.update_self]
  congr 1
  refine Finset.sum_congr rfl fun j hj => ?_
  rw [Function.update_of_ne (Finset.ne_of_mem_erase hj)]

theorem sum_countOf (hi : i < count) (claimOf : Nat → Option Claim) (id : GuardId) :
    ∑ j ∈ Finset.range count, Claim.countOf id (claimOf j) =
      Claim.countOf id (claimOf i) +
        ∑ j ∈ (Finset.range count).erase i, Claim.countOf id (claimOf j) :=
  (Finset.add_sum_erase _ _ (Finset.mem_range.mpr hi)).symm

theorem eq_some_of_update {claim : Claim} {j : Nat} (h : Function.update claimOf i none j = some claim) :
    j ≠ i ∧ claimOf j = some claim := by
  have hj : j ≠ i := by
    rintro rfl
    rw [Function.update_self] at h
    cases h
  rw [Function.update_of_ne hj] at h
  exact ⟨hj, h⟩

/-- For another guard, nothing has changed. -/
theorem serves_other
    (h : turns.Serves (fun j => Claim.ticketAt id (claimOf j)) fun j => Claim.IsInside id (claimOf j))
    (hticket : Claim.ticketAt id claim? = Claim.ticketAt id (claimOf i))
    (hinside : Claim.IsInside id claim? → Claim.IsInside id (claimOf i) ∨
      ∃ ticket, Claim.ticketAt id (claimOf i) = some ticket ∧ turns.holder = some ticket) :
    turns.Serves (fun j => Claim.ticketAt id (Function.update claimOf i claim? j))
      fun j => Claim.IsInside id (Function.update claimOf i claim? j) := by
  refine h.keep (fun j => ?_) fun j hj => ?_
  · by_cases hji : j = i
    · subst hji
      rw [Function.update_self, hticket]
    · rw [Function.update_of_ne hji]
  · by_cases hji : j = i
    · subst hji
      rw [Function.update_self] at hj
      exact hinside hj
    · rw [Function.update_of_ne hji] at hj
      exact .inl hj

end Claims

namespace Locked

variable {adapter adapter' : Adapter} {count i j : Nat} {claimOf : Nat → Option Claim}
  {claim claim' : Claim} {uri : String} {id : GuardId} {ticket : Ticket}

theorem congr (h : Locked adapter count claimOf) (same : SameGuards adapter adapter') :
    Locked adapter' count claimOf where
  keys := same.openDocuments ▸ h.keys
  ids := same.openDocuments ▸ h.ids
  mapped_lt := by rw [same.openDocuments, same.guards]; exact h.mapped_lt
  claimed := by rw [same.openDocuments]; exact h.claimed
  away := h.away
  holders := fun id => by rw [same.guardAt]; exact h.holders id
  line := fun id => by rw [same.guardAt]; exact h.line id

/-- More questions may be counted than there are. -/
theorem mono {count' : Nat} (h : Locked adapter count claimOf) (hle : count ≤ count') :
    Locked adapter count' claimOf where
  keys := h.keys
  ids := h.ids
  mapped_lt := h.mapped_lt
  claimed := h.claimed
  away := fun i hi => h.away i (Nat.le_trans hle hi)
  holders := by
    intro id
    rw [h.holders]
    refine Finset.sum_subset (Finset.range_subset_range.mpr hle) fun i _ hi => ?_
    rw [h.away i (Nat.le_of_not_lt fun hlt => hi (Finset.mem_range.mpr hlt))]
    rfl
  line := h.line

theorem lt_count (h : Locked adapter count claimOf) (hi : claimOf i = some claim) : i < count := by
  by_contra hle
  have hnone := h.away i (Nat.le_of_not_lt hle)
  rw [hi] at hnone
  cases hnone

/-- Questions about one document claim one guard, and the other way round. -/
theorem guard_eq_iff (h : Locked adapter count claimOf) (hi : claimOf i = some claim)
    (hj : claimOf j = some claim') : claim.guard = claim'.guard ↔ claim.uri = claim'.uri := by
  have hmem := h.claimed i claim hi
  have hmem' := h.claimed j claim' hj
  constructor
  · intro hguard
    exact (Prod.mk.inj (List.inj_on_of_nodup_map h.ids hmem hmem' hguard)).1
  · intro huri
    exact (Prod.mk.inj (List.inj_on_of_nodup_map h.keys hmem hmem' huri)).2

/-- Only one question works with the guard of a document. -/
theorem exclusive (h : Locked adapter count claimOf) (hi : claimOf i = some claim)
    (hj : claimOf j = some claim') (huri : claim.uri = claim'.uri) (hinside : claim.inside = true)
    (hinside' : claim'.inside = true) : i = j := by
  have hguard := (h.guard_eq_iff hi hj).mpr huri
  exact (h.line claim.guard).exclusive ⟨claim, hi, rfl, hinside⟩ ⟨claim', hj, hguard.symm, hinside'⟩

/-- While one question works with the guard of a document, it is not the turn of another. -/
theorem not_holds (h : Locked adapter count claimOf) (hi : claimOf i = some claim)
    (hj : claimOf j = some claim') (huri : claim.uri = claim'.uri) (hinside : claim.inside = true)
    (hne : j ≠ i) : (adapter.guardAt claim'.guard).turns.holds claim'.ticket = false := by
  have hguard := (h.guard_eq_iff hi hj).mpr huri
  rw [← hguard]
  by_contra hholds
  have hholder : (adapter.guardAt claim.guard).turns.holder = some claim'.ticket := by
    simpa [Turns.holds] using hholds
  have hticket : Claim.ticketAt claim.guard (claimOf j) = some claim'.ticket := by
    rw [hj, hguard]
    exact claim'.ticketAt_self
  exact hne ((h.line claim.guard).eq_of_holder hticket hholder ⟨claim, hi, rfl, hinside⟩)

/-- One who has got the guard begins to work with it. -/
theorem enter (h : Locked adapter count claimOf) (hi : claimOf i = some claim)
    (holds : (adapter.guardAt claim.guard).turns.holder = some claim.ticket) :
    Locked adapter count (Function.update claimOf i (some { claim with inside := true })) := by
  have hlt := h.lt_count hi
  refine ⟨h.keys, h.ids, h.mapped_lt, fun j other hj => ?_, fun j hj => ?_, fun id => ?_,
    fun id => ?_⟩
  · by_cases hji : j = i
    · subst hji
      rw [Function.update_self] at hj
      obtain rfl := Option.some.inj hj
      exact h.claimed j claim hi
    · rw [Function.update_of_ne hji] at hj
      exact h.claimed j other hj
  · rw [Function.update_of_ne (by omega)]
    exact h.away j hj
  · rw [h.holders, sum_countOf_update hlt, sum_countOf hlt, hi]
    rfl
  · refine serves_other (h.line id) (by rw [hi]; rfl) ?_
    rintro ⟨_, ⟨⟩, hguard, -⟩
    refine .inr ⟨claim.ticket, ?_, ?_⟩
    · rw [hi]
      exact if_pos hguard
    · rw [← hguard]
      exact holds

/-- The table of documents stays in order when someone gets in line. -/
theorem table_lock (h : Locked adapter count claimOf) (hlocks : Locks adapter uri id adapter') :
    (adapter'.openDocuments.map (·.1)).Nodup ∧ (adapter'.openDocuments.map (·.2)).Nodup ∧
      ∀ entry ∈ adapter'.openDocuments, entry.2 < adapter'.guards.length := by
  have hold (entry) (hentry : entry ∈ adapter.openDocuments) : entry.2 < adapter'.guards.length :=
    Nat.lt_of_lt_of_le (h.mapped_lt entry hentry) hlocks.length
  rcases hlocks.known with ⟨-, heq⟩ | ⟨hnew, hid, hlt, heq⟩
  · rw [heq]
    exact ⟨h.keys, h.ids, hold⟩
  · have hkeys : uri ∉ adapter.openDocuments.map (·.1) := fun hkey => by
      obtain ⟨⟨_, g⟩, hentry, rfl⟩ := List.mem_map.mp hkey
      exact hnew g hentry
    -- The new guard is behind all guards that the table leads to.
    have hids : id ∉ adapter.openDocuments.map (·.2) := fun hkey => by
      obtain ⟨entry, hentry, hsame⟩ := List.mem_map.mp hkey
      have hbefore := h.mapped_lt entry hentry
      rw [hsame, hid] at hbefore
      exact Nat.lt_irrefl _ hbefore
    rw [heq]
    refine ⟨?_, ?_, fun entry hentry => ?_⟩
    · rw [List.map_append, List.map_singleton, ← List.concat_eq_append]
      exact h.keys.concat hkeys
    · rw [List.map_append, List.map_singleton, ← List.concat_eq_append]
      exact h.ids.concat hids
    · rw [List.mem_append, List.mem_singleton] at hentry
      rcases hentry with hentry | rfl
      · exact hold entry hentry
      · exact hlt

/-- Someone gets in line for the guard of a document. -/
theorem lock (h : Locked adapter count claimOf) (hi : claimOf i = none) (hlt : i < count)
    (hlocks : Locks adapter uri id adapter') :
    Locked adapter' count (Function.update claimOf i
      (some ⟨uri, id, (adapter.guardAt id).turns.join.1, false⟩)) := by
  obtain ⟨hkeys, hids, hmapped⟩ := h.table_lock hlocks
  refine ⟨hkeys, hids, hmapped, fun j other hj => ?_, fun j hj => ?_, fun g => ?_, fun g => ?_⟩
  · by_cases hji : j = i
    · subst hji
      rw [Function.update_self] at hj
      obtain rfl := Option.some.inj hj
      exact hlocks.mem
    · rw [Function.update_of_ne hji] at hj
      exact hlocks.subset (h.claimed j other hj)
  · rw [Function.update_of_ne (by omega)]
    exact h.away j hj
  · rw [sum_countOf_update hlt]
    by_cases hg : g = id
    · subst hg
      have hsum := h.holders g
      rw [sum_countOf hlt, hi] at hsum
      have hself := Claim.countOf_self ⟨uri, g, (adapter.guardAt g).turns.join.1, false⟩
      rw [hlocks.guard, hself]
      show (adapter.guardAt g).holders + 1 = 1 + _
      rw [hsum, Nat.add_comm]
      exact congrArg (1 + ·) (Nat.zero_add _)
    · rw [hlocks.other g hg, h.holders, sum_countOf hlt, hi, Claim.countOf_of_ne (Ne.symm hg)]
      rfl
  · by_cases hg : g = id
    · subst hg
      rw [hlocks.guard]
      refine Turns.Serves.join (h.line g) (by rw [Function.update_self]; exact if_pos rfl)
        (fun j hj => by rw [Function.update_of_ne hj]) fun j hj => ?_
      by_cases hji : j = i
      · subst hji
        rw [Function.update_self] at hj
        obtain ⟨_, ⟨⟩, -, ⟨⟩⟩ := hj
      · rw [Function.update_of_ne hji] at hj
        exact ⟨hji, hj⟩
    · rw [hlocks.other g hg]
      refine serves_other (h.line g) ?_ fun hinside => ?_
      · rw [hi]
        exact if_neg (Ne.symm hg)
      · exact absurd hinside (Claim.not_isInside_of_ne (Ne.symm hg))

/-- If only one who claims a guard is left, nobody else claims it. -/
theorem eq_of_holders (h : Locked adapter count claimOf) (hi : claimOf i = some claim)
    (hone : (adapter.guardAt claim.guard).holders = 1) (hj : claimOf j = some claim')
    (hguard : claim'.guard = claim.guard) : j = i := by
  by_contra hji
  have hmem : j ∈ (Finset.range count).erase i :=
    Finset.mem_erase.mpr ⟨hji, Finset.mem_range.mpr (h.lt_count hj)⟩
  have hle := Finset.single_le_sum (f := fun k => Claim.countOf claim.guard (claimOf k))
    (fun _ _ => Nat.zero_le _) hmem
  have hsum := h.holders claim.guard
  rw [hone, sum_countOf (h.lt_count hi), hi, Claim.countOf_self] at hsum
  have hcount : Claim.countOf claim.guard (claimOf j) = 1 := by
    rw [hj, ← hguard]
    exact claim'.countOf_self
  omega

/-- The table has one entry for a guard that is claimed. -/
theorem guardCount_eq (h : Locked adapter count claimOf) (hi : claimOf i = some claim) :
    adapter.guardCount claim.guard = (adapter.guardAt claim.guard).holders + 1 := by
  have hcount : adapter.openDocuments.countP (fun entry => entry.2 = claim.guard) =
      (adapter.openDocuments.map (·.2)).count claim.guard := by
    rw [List.count, List.countP_map]
    exact List.countP_congr fun entry _ => by simp
  have hmem : claim.guard ∈ adapter.openDocuments.map (·.2) :=
    List.mem_map.mpr ⟨_, h.claimed i claim hi, rfl⟩
  rw [Adapter.guardCount, hcount, List.count_eq_one_of_mem h.ids hmem]

/-- Someone is gone who claimed a guard. The document leaves the table only with the last one. -/
theorem free (h : Locked adapter count claimOf) (hi : claimOf i = some claim) {forgets : Bool}
    (hforgets : forgets = true → (adapter.guardAt claim.guard).holders = 1)
    (hfrees : Frees adapter claim.uri claim.guard claim.ticket forgets adapter') :
    Locked adapter' count (Function.update claimOf i none) := by
  obtain ⟨hguard, hother, hlength, hopen⟩ := hfrees
  have hlt := h.lt_count hi
  have hsub : adapter'.openDocuments.Sublist adapter.openDocuments := by
    rw [hopen]
    split
    · exact List.filter_sublist
    · exact List.Sublist.refl _
  refine ⟨(hsub.map _).nodup h.keys, (hsub.map _).nodup h.ids, fun entry hentry => ?_,
    fun j other hj => ?_, fun j hj => ?_, fun g => ?_, fun g => ?_⟩
  · rw [hlength]
    exact h.mapped_lt entry (hsub.subset hentry)
  · obtain ⟨hji, hj⟩ := eq_some_of_update hj
    have hmem := h.claimed j other hj
    rw [hopen]
    split
    next hforget =>
      refine List.mem_filter.mpr ⟨hmem, decide_eq_true fun huri => hji ?_⟩
      -- Another question about the document would claim the same guard.
      have hsame := (h.guard_eq_iff hj hi).mpr huri
      exact h.eq_of_holders hi (hforgets hforget) hj hsame
    next => exact hmem
  · by_cases hji : j = i
    · rw [hji, Function.update_self]
    · rw [Function.update_of_ne hji]
      exact h.away j hj
  · rw [sum_countOf_update hlt]
    have hsum := h.holders g
    rw [sum_countOf hlt, hi] at hsum
    by_cases hg : g = claim.guard
    · subst hg
      rw [Claim.countOf_self] at hsum
      rw [hguard]
      show (adapter.guardAt claim.guard).holders - 1 = 0 + _
      omega
    · rw [Claim.countOf_of_ne (Ne.symm hg)] at hsum
      rw [hother g hg, hsum]
      rfl
  · by_cases hg : g = claim.guard
    · subst hg
      rw [hguard]
      refine Turns.Serves.leave (h.line _) (by rw [hi]; exact claim.ticketAt_self)
        (by rw [Function.update_self]; rfl) (fun j hj => by rw [Function.update_of_ne hj])
        fun j hj => ?_
      obtain ⟨other, hj, hinside⟩ := hj
      obtain ⟨hji, hj⟩ := eq_some_of_update hj
      exact ⟨hji, other, hj, hinside⟩
    · rw [hother g hg]
      refine serves_other (h.line g) ?_ (by rintro ⟨_, ⟨⟩, -⟩)
      rw [hi, Claim.ticketAt_of_ne (Ne.symm hg)]
      rfl

/-- Whatever a question does with the guards. -/
theorem moves (h : Locked adapter count claimOf) (hlt : i < count) {before after : Option Claim}
    (hi : claimOf i = before) (hmoves : LockMoves adapter before after adapter') :
    Locked adapter' count (Function.update claimOf i after) := by
  cases hmoves with
  | keeps _ _ same =>
    rw [← hi, Function.update_eq_self]
    exact h.congr same
  | enters claim _ same holds => exact (h.enter hi holds).congr same
  | joins uri _ same =>
    obtain ⟨id, hid, hlocks⟩ := adapter.locks_lockDocument uri h.mapped_lt
    rw [hid]
    exact (h.lock hi hlt hlocks).congr same
  | leaves claim _ same =>
    refine (h.free hi (fun hforgets => ?_)
      (frees_unlockDocument (h.mapped_lt _ (h.claimed i claim hi)))).congr same
    have htwo : adapter.guardCount claim.guard = 2 := of_decide_eq_true hforgets
    rw [h.guardCount_eq hi] at htwo
    omega

/-- A question that is given up. -/
theorem abandon (h : Locked adapter count claimOf) {point : InquiryPoint}
    (hi : claimOf i = point.claim?) :
    Locked (point.cancel adapter) count (Function.update claimOf i none) := by
  rcases point.guards_cancel adapter with ⟨hnone, same⟩ | ⟨claim, hclaim, same⟩
  · rw [hnone] at hi
    rw [← hi, Function.update_eq_self]
    exact h.congr same
  · have hfrees : Frees adapter claim.uri claim.guard claim.ticket false
        (adapter.abandonDocument claim.guard claim.ticket) :=
      frees_abandonDocument (h.mapped_lt _ (h.claimed i claim (hi.trans hclaim)))
    exact (h.free (hi.trans hclaim) (by rintro ⟨⟩) hfrees).congr same

/-- If more than one claim a guard, there is another one. -/
theorem exists_other (h : Locked adapter count claimOf) (hi : claimOf i = some claim)
    (hmore : (adapter.guardAt claim.guard).holders ≠ 1) :
    ∃ j claim', j ≠ i ∧ claimOf j = some claim' ∧ claim'.guard = claim.guard := by
  have hsum := h.holders claim.guard
  rw [sum_countOf (h.lt_count hi), hi, Claim.countOf_self] at hsum
  have hrest : ∑ j ∈ (Finset.range count).erase i, Claim.countOf claim.guard (claimOf j) ≠ 0 := by
    omega
  obtain ⟨j, hj, hcount⟩ := Finset.exists_ne_zero_of_sum_ne_zero hrest
  cases hclaim : claimOf j with
  | none =>
    rw [hclaim] at hcount
    exact absurd rfl hcount
  | some claim' =>
    refine ⟨j, claim', Finset.ne_of_mem_erase hj, hclaim, ?_⟩
    by_contra hne
    rw [hclaim, Claim.countOf_of_ne hne] at hcount
    exact hcount rfl

/-- As long as nobody gives up, a document leaves the table with the last one who claims it. -/
theorem allClaimed_moves (h : Locked adapter count claimOf) (hall : AllClaimed adapter claimOf)
    {before after : Option Claim} (hi : claimOf i = before)
    (hmoves : LockMoves adapter before after adapter') :
    AllClaimed adapter' (Function.update claimOf i after) := by
  have hothers {entry : String × GuardId} {j : Nat} {claim : Claim} (hji : j ≠ i)
      (hj : claimOf j = some claim) (hguard : claim.guard = entry.2) :
      ∃ j claim, Function.update claimOf i after j = some claim ∧ claim.guard = entry.2 :=
    ⟨j, claim, by rw [Function.update_of_ne hji, hj], hguard⟩
  intro entry hentry
  cases hmoves with
  | keeps _ _ same =>
    rw [same.openDocuments] at hentry
    rw [← hi, Function.update_eq_self]
    exact hall entry hentry
  | enters claim _ same holds =>
    rw [same.openDocuments] at hentry
    obtain ⟨j, claim', hj, hguard⟩ := hall entry hentry
    by_cases hji : j = i
    · obtain rfl : claim = claim' := Option.some.inj (hi.symm.trans (hji ▸ hj))
      exact ⟨i, _, Function.update_self .., hguard⟩
    · exact hothers hji hj hguard
  | joins uri _ same =>
    rw [same.openDocuments] at hentry
    obtain ⟨id, hid, hlocks⟩ := adapter.locks_lockDocument uri h.mapped_lt
    have hbefore (hmem : entry ∈ adapter.openDocuments) :
        ∃ j claim, j ≠ i ∧ claimOf j = some claim ∧ claim.guard = entry.2 := by
      obtain ⟨j, claim, hj, hguard⟩ := hall entry hmem
      refine ⟨j, claim, ?_, hj, hguard⟩
      rintro rfl
      rw [hi] at hj
      cases hj
    rcases hlocks.known with ⟨-, heq⟩ | ⟨-, -, -, heq⟩
    · obtain ⟨j, claim, hji, hj, hguard⟩ := hbefore (heq ▸ hentry)
      exact hothers hji hj hguard
    · rw [heq, List.mem_append, List.mem_singleton] at hentry
      rcases hentry with hmem | rfl
      · obtain ⟨j, claim, hji, hj, hguard⟩ := hbefore hmem
        exact hothers hji hj hguard
      · exact ⟨i, _, Function.update_self .., congrArg Prod.fst hid⟩
  | leaves claim _ same =>
    have hfrees : Frees adapter claim.uri claim.guard claim.ticket (adapter.guardCount claim.guard = 2)
        (adapter.unlockDocument claim.uri claim.guard claim.ticket) :=
      frees_unlockDocument (h.mapped_lt _ (h.claimed i claim hi))
    have hopen := hfrees.openDocuments
    rw [same.openDocuments, hopen] at hentry
    have hmem : entry ∈ adapter.openDocuments := by
      split at hentry
      · exact (List.mem_filter.mp hentry).1
      · exact hentry
    obtain ⟨j, claim', hj, hguard⟩ := hall entry hmem
    by_cases hji : j = i
    · obtain rfl : claim = claim' := Option.some.inj (hi.symm.trans (hji ▸ hj))
      -- The entry is that of the document, and it has stayed because of somebody else.
      have hsame : entry = (claim.uri, claim.guard) :=
        List.inj_on_of_nodup_map h.ids hmem (h.claimed i claim hi) hguard.symm
      have hmore : (adapter.guardAt claim.guard).holders ≠ 1 := by
        intro hone
        have hforgets : adapter.guardCount claim.guard = 2 := by rw [h.guardCount_eq hi, hone]
        rw [if_pos (decide_eq_true hforgets), hsame] at hentry
        simpa using (List.mem_filter.mp hentry).2
      obtain ⟨k, other, hki, hk, hguard'⟩ := h.exists_other hi hmore
      exact hothers hki hk (hguard'.trans hguard)
    · exact hothers hji hj hguard

end Locked

/-! ### Courses -/

namespace AdapterCourse

/-- What an operation of a course has to do with the guard of a document. -/
def claimOf (course : AdapterCourse) (i : Nat) : Option Claim :=
  (course.inquiryAt i).bind InquiryPoint.claim?

/-- The guards of a course are in good order. -/
def IsLocked (course : AdapterCourse) : Prop :=
  Locked course.shared course.tasks.length course.claimOf

variable {course : AdapterCourse} {event : AdapterCourseEvent} {i : Nat} {task : AdapterTask}
  {point : InquiryPoint} {after : Adapter}

theorem claimOf_eq (hi : course.task? i = some task) :
    course.claimOf i = task.inquiry?.bind InquiryPoint.claim? := by
  rw [claimOf, inquiryAt, hi]
  rfl

theorem claimOf_put (hi : course.task? i = some task)
    (standing : Standing AdapterTask (Option AdapterReply)) :
    claimOf (course.put i after standing) = Function.update course.claimOf i
      ((standing.point?.bind AdapterTask.inquiry?).bind InquiryPoint.claim?) := by
  funext j
  by_cases hj : j = i
  · subst hj
    rw [Function.update_self, claimOf, inquiryAt, Crowd.task?_put_self hi]
  · rw [Function.update_of_ne hj, claimOf, inquiryAt, Crowd.task?_put_of_ne (Ne.symm hj)]
    rfl

theorem claimOf_begin (call : AdapterCall) :
    claimOf { course with tasks := course.tasks ++ [.waiting (adapterRules.enter call)] } =
      course.claimOf := by
  funext j
  by_cases hj : j = course.tasks.length
  · rw [hj, claimOf, inquiryAt, Crowd.task?_concat_self, claimOf, inquiryAt, Crowd.task?_length]
    cases call <;> rfl
  · rw [claimOf, inquiryAt, Crowd.task?_concat_of_ne hj]
    rfl

/-- What a step of any operation does with the guards. -/
theorem lockMoves_step (now : Instant) (files : Option Tree) (task : AdapterTask)
    (adapter : Adapter) (hblocked : (task.step now files adapter).2 ≠ .blocked) :
    LockMoves adapter (task.inquiry?.bind InquiryPoint.claim?)
      (((task.step now files adapter).2.point?.bind AdapterTask.inquiry?).bind InquiryPoint.claim?)
      (task.step now files adapter).1 := by
  cases task with
  | inquiry point =>
    have hmoves := InquiryPoint.lockMoves_step (point.step_moves now files adapter)
      (Stepped.ne_blocked_of_map hblocked)
    simp only [AdapterTask.step, Stepped.map]
    generalize point.step now files adapter = stepped at hmoves
    obtain ⟨adapter', progress⟩ := stepped
    cases progress <;> exact hmoves
  | onSession task =>
    simp only [AdapterTask.step, Stepped.map, Adapter.withSession]
    cases (task.step now adapter.session).2 <;> exact .keeps _ _ ⟨rfl, rfl⟩

theorem isLocked_put (hi : course.task? i = some task)
    (standing : Standing AdapterTask (Option AdapterReply))
    (h : Locked after course.tasks.length (Function.update course.claimOf i
      ((standing.point?.bind AdapterTask.inquiry?).bind InquiryPoint.claim?))) :
    IsLocked (course.put i after standing) := by
  rw [IsLocked, claimOf_put hi, Crowd.put, List.length_set]
  exact h

/-- An operation has gone on. -/
theorem lockMoves_of_step {files : Option Tree} {progress : Progress AdapterTask AdapterReply}
    (hi : course.task? i = some task)
    (hstep : task.step course.now files course.shared = (after, progress))
    (hblocked : progress ≠ .blocked) :
    LockMoves course.shared (course.claimOf i)
      ((progress.point?.bind AdapterTask.inquiry?).bind InquiryPoint.claim?) after := by
  have hmoves := lockMoves_step course.now files task course.shared
  rw [hstep] at hmoves
  rw [claimOf_eq hi]
  exact hmoves hblocked

theorem IsLocked.next (h : course.IsLocked) (event : AdapterCourseEvent) :
    IsLocked (adapterRules.next course event) := by
  have hmoves := adapterRules.next_moves course event
  generalize adapterRules.next course event = course' at hmoves
  cases hmoves with
  | blocks | misses | waits => exact h
  | begins call =>
    rw [IsLocked, claimOf_begin]
    exact h.mono (by simp)
  | moves i files task task' shared stands step =>
    exact isLocked_put stands _ (h.moves (Crowd.lt_of_task? stands) rfl
      (lockMoves_of_step stands step (by rintro ⟨⟩)))
  | finishes i files task result shared stands step =>
    exact isLocked_put stands _ (h.moves (Crowd.lt_of_task? stands) rfl
      (lockMoves_of_step stands step (by rintro ⟨⟩)))
  | givesUp i task stands =>
    refine isLocked_put stands _ ?_
    cases task with
    | inquiry point => exact h.abandon (claimOf_eq stands)
    | onSession task =>
      have hnone : course.claimOf i = none := claimOf_eq stands
      have hsame : SameGuards course.shared
          { course.shared with session := task.cancel course.shared.session } := ⟨rfl, rfl⟩
      have hlocked := h.congr hsame
      rw [← Function.update_eq_self i course.claimOf, hnone] at hlocked
      exact hlocked
  | occurs event =>
    cases event with
    | happens event => exact h.congr ⟨rfl, rfl⟩
    | invalidates => exact h.congr ⟨rfl, rfl⟩

/-- The guards are in good order whatever happens, even if questions are given up. -/
theorem isLocked_after (ecosystem : Ecosystem) (root : Path) (server : ServerConfig)
    (session : SessionSettings) (settings : AdapterSettings) (events : List AdapterCourseEvent) :
    IsLocked (adapterRules.after (start ecosystem root server session settings) events) := by
  induction events using List.reverseRecOn with
  | nil =>
    refine ⟨List.nodup_nil, List.nodup_nil, by rintro entry ⟨⟩, by rintro i claim ⟨⟩,
      fun _ _ => rfl, fun _ => rfl, fun _ => .nobody _ (fun _ => rfl) ?_⟩
    rintro i ⟨claim, ⟨⟩, -⟩
  | append_singleton events event ih =>
    rw [adapterRules.after_concat]
    exact ih.next event

/-- Every document in the table is that of a question that waits for its guard or works with it. -/
theorem IsLocked.allClaimed_next (h : course.IsLocked)
    (hall : AllClaimed course.shared course.claimOf) (hstays : ¬event.GivesUp) :
    AllClaimed (adapterRules.next course event).shared
      (claimOf (adapterRules.next course event)) := by
  have hmoves := adapterRules.next_moves course event
  generalize adapterRules.next course event = course' at hmoves
  cases hmoves with
  | blocks | misses | waits => exact hall
  | begins call =>
    rw [claimOf_begin]
    exact hall
  | moves i files task task' shared stands step =>
    rw [claimOf_put stands]
    exact h.allClaimed_moves hall rfl (lockMoves_of_step stands step (by rintro ⟨⟩))
  | finishes i files task result shared stands step =>
    rw [claimOf_put stands]
    exact h.allClaimed_moves hall rfl (lockMoves_of_step stands step (by rintro ⟨⟩))
  | givesUp i task stands => exact absurd ⟨i, rfl⟩ hstays
  | occurs event => cases event <;> exact hall

theorem allClaimed_after (ecosystem : Ecosystem) (root : Path) (server : ServerConfig)
    (session : SessionSettings) (settings : AdapterSettings) (events : List AdapterCourseEvent)
    (hstay : ∀ event ∈ events, ¬event.GivesUp) :
    let course : AdapterCourse :=
      adapterRules.after (start ecosystem root server session settings) events
    AllClaimed course.shared course.claimOf := by
  intro course
  induction events using List.reverseRecOn with
  | nil => rintro entry ⟨⟩
  | append_singleton events event ih =>
    have hall := ih fun other hother => hstay other (List.mem_append_left _ hother)
    have hlast : course = adapterRules.next _ event := adapterRules.after_concat _ events event
    rw [hlast]
    exact (isLocked_after ecosystem root server session settings events).allClaimed_next hall
      (hstay event (by simp))

end AdapterCourse
end SymbolSearch
