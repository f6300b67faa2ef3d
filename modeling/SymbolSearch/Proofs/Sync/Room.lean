import Mathlib.Data.List.Nodup
import Mathlib.Data.List.Perm.Basic
import Mathlib.Logic.Function.Basic
import SymbolSearch.Sync.Outbox

/-!
# Room in a queue

* `Outbox.Serves` — nobody waits for room in a queue that has some, and those who wait or have been
  given room are the senders that still want it, each with a ticket of its own.
* `Outbox.Serves.offer`, `Outbox.Serves.join`, `Outbox.Serves.claim`, `Outbox.Serves.abandon` and
  `Outbox.Serves.take` — whatever is done with the queue keeps it so.
* `Outbox.Serves.full` — so a queue in which somebody waits, while no room is given that is not used,
  is full.
-/

namespace SymbolSearch
namespace Outbox

variable {α : Type} {outbox outbox' : Outbox α} {item : α} {ticket : Ticket}

/-- The senders that wait, and those that have room they have not used. -/
def tickets (outbox : Outbox α) : List Ticket := outbox.waiting ++ outbox.granted

/-- Everyone is known by something. Those who want room have tickets of their own, and nobody waits
    in vain. -/
structure Serves {ι : Type} (outbox : Outbox α) (ticketOf : ι → Option Ticket) : Prop where
  bounded : outbox.waiting ≠ [] → capacity ≤ outbox.items.length + outbox.granted.length
  nodup : outbox.tickets.Nodup
  lt_next : ∀ ticket ∈ outbox.tickets, ticket < outbox.next
  mem_iff : ∀ ticket, ticket ∈ outbox.tickets ↔ ∃ i, ticketOf i = some ticket
  distinct : ∀ i j ticket, ticketOf i = some ticket → ticketOf j = some ticket → i = j

theorem perm_grant (outbox : Outbox α) : outbox.grant.tickets.Perm outbox.tickets := by
  unfold grant tickets
  split
  · exact .refl _
  next first others hwaiting =>
    rw [hwaiting]
    show (others ++ (outbox.granted ++ [first])).Perm (first :: (others ++ outbox.granted))
    rw [← List.append_assoc]
    exact List.perm_append_singleton _ _

theorem next_grant (outbox : Outbox α) : outbox.grant.next = outbox.next := by
  unfold grant
  split <;> rfl

/-- Room for one item more was left, and is given to the first in line. -/
theorem bounded_grant
    (h : outbox.waiting ≠ [] → capacity ≤ outbox.items.length + outbox.granted.length + 1) :
    outbox.grant.waiting ≠ [] →
      capacity ≤ outbox.grant.items.length + outbox.grant.granted.length := by
  unfold grant
  split
  next hnone => exact fun hsome => absurd hnone hsome
  next first others hwaiting =>
    intro _
    have hroom := h (by rw [hwaiting]; exact List.cons_ne_nil _ _)
    simp only [List.length_append, List.length_singleton]
    omega

namespace Serves

variable {ι : Type} {ticketOf ticketOf' : ι → Option Ticket} {i : ι}

/-- The same senders want room. -/
theorem of_perm (h : outbox.Serves ticketOf) (hperm : outbox'.tickets.Perm outbox.tickets)
    (hnext : outbox'.next = outbox.next)
    (hbounded : outbox'.waiting ≠ [] →
      capacity ≤ outbox'.items.length + outbox'.granted.length) : outbox'.Serves ticketOf where
  bounded := hbounded
  nodup := hperm.nodup_iff.mpr h.nodup
  lt_next := fun ticket hmem => hnext ▸ h.lt_next ticket (hperm.mem_iff.mp hmem)
  mem_iff := fun ticket => hperm.mem_iff.trans (h.mem_iff ticket)
  distinct := h.distinct

theorem congr (h : outbox.Serves ticketOf) (heq : ∀ i, ticketOf' i = ticketOf i) :
    outbox.Serves ticketOf' := by
  rwa [show ticketOf' = ticketOf from funext heq]

/-- An item gets in at once. -/
theorem offer (h : outbox.Serves ticketOf) (hoffer : outbox.offer item = (outbox', .sent)) :
    outbox'.Serves ticketOf := by
  unfold Outbox.offer at hoffer
  split at hoffer
  · cases hoffer
  · split at hoffer
    · obtain ⟨rfl, -⟩ := Prod.mk.inj hoffer
      refine h.of_perm (.refl _) rfl fun hwaiting => ?_
      have hroom := h.bounded hwaiting
      simp only [List.length_append, List.length_singleton]
      omega
    · cases hoffer

variable [DecidableEq ι]

/-- Someone gets in line. -/
theorem join (h : outbox.Serves ticketOf) (hi : ticketOf i = none)
    (hoffer : outbox.offer item = (outbox', .waits ticket)) :
    outbox'.Serves (Function.update ticketOf i (some ticket)) := by
  unfold Outbox.offer at hoffer
  split at hoffer
  · cases hoffer
  · split at hoffer
    · cases hoffer
    next hroom =>
      obtain ⟨rfl, hwaits⟩ := Prod.mk.inj hoffer
      obtain rfl : outbox.next = ticket := Sending.waits.inj hwaits
      have htickets : ({ outbox with
          waiting := outbox.waiting ++ [outbox.next], next := outbox.next + 1 } : Outbox α).tickets.Perm
          (outbox.next :: outbox.tickets) := by
        unfold tickets
        show (outbox.waiting ++ [outbox.next] ++ outbox.granted).Perm _
        rw [List.append_assoc, List.singleton_append]
        exact List.perm_middle
      -- Every ticket that was given out before is smaller.
      have hfresh : outbox.next ∉ outbox.tickets := fun hmem =>
        Nat.lt_irrefl _ (h.lt_next _ hmem)
      constructor
      · intro _
        show capacity ≤ outbox.items.length + outbox.granted.length
        omega
      · exact htickets.nodup_iff.mpr (List.nodup_cons.mpr ⟨hfresh, h.nodup⟩)
      · intro ticket hmem
        show ticket < outbox.next + 1
        rcases List.mem_cons.mp (htickets.mem_iff.mp hmem) with rfl | hmem
        · exact Nat.lt_succ_self _
        · exact Nat.lt_succ_of_lt (h.lt_next ticket hmem)
      · intro ticket
        rw [htickets.mem_iff, List.mem_cons, h.mem_iff]
        constructor
        · rintro (rfl | ⟨j, hj⟩)
          · exact ⟨i, Function.update_self ..⟩
          · refine ⟨j, ?_⟩
            rw [Function.update_of_ne, hj]
            rintro rfl
            rw [hi] at hj
            cases hj
        · rintro ⟨j, hj⟩
          by_cases hji : j = i
          · subst hji
            rw [Function.update_self] at hj
            exact .inl (Option.some.inj hj).symm
          · rw [Function.update_of_ne hji] at hj
            exact .inr ⟨j, hj⟩
      · have hlt {j : ι} {ticket : Ticket} (hj : ticketOf j = some ticket) : ticket ≠ outbox.next :=
          Nat.ne_of_lt (h.lt_next ticket ((h.mem_iff ticket).mpr ⟨j, hj⟩))
        intro j k ticket hj hk
        by_cases hji : j = i
        · by_cases hki : k = i
          · rw [hji, hki]
          · rw [hji, Function.update_self] at hj
            rw [Function.update_of_ne hki] at hk
            exact absurd (Option.some.inj hj).symm (hlt hk)
        · rw [Function.update_of_ne hji] at hj
          by_cases hki : k = i
          · rw [hki, Function.update_self] at hk
            exact absurd (Option.some.inj hk).symm (hlt hj)
          · rw [Function.update_of_ne hki] at hk
            exact h.distinct j k ticket hj hk

/-- Someone does not want room any more. -/
theorem leave (h : outbox.Serves ticketOf) (hi : ticketOf i = some ticket)
    (hperm : (ticket :: outbox'.tickets).Perm outbox.tickets) (hnext : outbox'.next = outbox.next)
    (hbounded : outbox'.waiting ≠ [] →
      capacity ≤ outbox'.items.length + outbox'.granted.length) :
    outbox'.Serves (Function.update ticketOf i none) := by
  obtain ⟨hgone, hnodup⟩ := List.nodup_cons.mp (hperm.nodup_iff.mpr h.nodup)
  have hothers {j : ι} {other : Ticket} (hj : Function.update ticketOf i none j = some other) :
      j ≠ i ∧ ticketOf j = some other := by
    have hji : j ≠ i := by
      rintro rfl
      rw [Function.update_self] at hj
      cases hj
    rw [Function.update_of_ne hji] at hj
    exact ⟨hji, hj⟩
  constructor
  · exact hbounded
  · exact hnodup
  · intro other hmem
    rw [hnext]
    exact h.lt_next other (hperm.mem_iff.mp (List.mem_cons_of_mem _ hmem))
  · intro other
    constructor
    · intro hmem
      obtain ⟨j, hj⟩ := (h.mem_iff other).mp (hperm.mem_iff.mp (List.mem_cons_of_mem _ hmem))
      refine ⟨j, ?_⟩
      rw [Function.update_of_ne, hj]
      rintro rfl
      obtain rfl : ticket = other := Option.some.inj (hi.symm.trans hj)
      exact hgone hmem
    · rintro ⟨j, hj⟩
      obtain ⟨hji, hj⟩ := hothers hj
      rcases List.mem_cons.mp (hperm.mem_iff.mpr ((h.mem_iff other).mpr ⟨j, hj⟩)) with rfl | hmem
      · exact absurd (h.distinct j i _ hj hi) hji
      · exact hmem
  · exact fun j k other hj hk => h.distinct j k other (hothers hj).2 (hothers hk).2

/-- Someone uses the room that was given to it. -/
theorem claim (h : outbox.Serves ticketOf) (hi : ticketOf i = some ticket)
    (hclaim : outbox.claim ticket item = (outbox', .sent)) :
    outbox'.Serves (Function.update ticketOf i none) := by
  unfold Outbox.claim at hclaim
  split at hclaim
  · cases hclaim
  · split at hclaim
    next hgranted =>
      obtain ⟨rfl, -⟩ := Prod.mk.inj hclaim
      have hmem : ticket ∈ outbox.granted := List.contains_iff_mem.mp hgranted
      refine h.leave hi ?_ rfl fun hwaiting => ?_
      · unfold tickets
        exact List.perm_middle.symm.trans (.append_left _ (List.perm_cons_erase hmem).symm)
      · have hroom := h.bounded hwaiting
        have herase := List.length_erase_of_mem hmem
        have hpos := List.length_pos_of_mem hmem
        simp only [List.length_append, List.length_singleton, herase]
        omega
    · cases hclaim

/-- Someone gives the place in the line up, or the room that was given to it. -/
theorem abandon (h : outbox.Serves ticketOf) (hi : ticketOf i = some ticket) :
    (outbox.abandon ticket).Serves (Function.update ticketOf i none) := by
  unfold Outbox.abandon
  split
  next hgranted =>
    have hmem : ticket ∈ outbox.granted := List.contains_iff_mem.mp hgranted
    refine h.leave hi ?_ (next_grant _) (bounded_grant fun hwaiting => ?_)
    · refine ((perm_grant _).cons _).trans ?_
      unfold tickets
      exact List.perm_middle.symm.trans (.append_left _ (List.perm_cons_erase hmem).symm)
    · have hroom := h.bounded hwaiting
      have herase := List.length_erase_of_mem hmem
      have hpos := List.length_pos_of_mem hmem
      show capacity ≤ outbox.items.length + (outbox.granted.erase ticket).length + 1
      omega
  next hgranted =>
    have hmem : ticket ∈ outbox.waiting := by
      have htickets := (h.mem_iff ticket).mpr ⟨i, hi⟩
      rcases List.mem_append.mp htickets with hwaiting | hgranted'
      · exact hwaiting
      · exact absurd (List.contains_iff_mem.mpr hgranted') hgranted
    refine h.leave hi ?_ rfl fun hwaiting => h.bounded fun hnone => ?_
    · unfold tickets
      exact (List.perm_cons_erase hmem).symm.append_right _
    · rw [hnone] at hmem
      cases hmem

omit [DecidableEq ι] in
/-- The first item is taken out. -/
theorem take {rest : List α} (h : outbox.Serves ticketOf) (hitems : outbox.items = item :: rest) :
    ({ outbox with items := rest } : Outbox α).grant.Serves ticketOf := by
  refine h.of_perm (perm_grant _) (next_grant _) (bounded_grant fun hwaiting => ?_)
  have hroom := h.bounded hwaiting
  rw [hitems, List.length_cons] at hroom
  show capacity ≤ rest.length + outbox.granted.length + 1
  omega

omit [DecidableEq ι] in
/-- A queue is full if somebody waits for room in it, and nobody has any that is not used. -/
theorem full (h : outbox.Serves ticketOf) (hi : ticketOf i = some ticket)
    (hgranted : outbox.granted = []) : capacity ≤ outbox.items.length := by
  have hmem := (h.mem_iff ticket).mpr ⟨i, hi⟩
  rw [tickets, hgranted, List.append_nil] at hmem
  have hroom := h.bounded (List.ne_nil_of_mem hmem)
  rwa [hgranted, List.length_nil, Nat.add_zero] at hroom

omit [DecidableEq ι] in
/-- Nobody wants room in a new queue. -/
theorem fresh (hnone : ∀ i, ticketOf i = none) (senders : Nat) :
    ({ senders } : Outbox α).Serves ticketOf where
  bounded := fun h => absurd rfl h
  nodup := List.nodup_nil
  lt_next := by rintro ticket ⟨⟩
  mem_iff := by
    intro ticket
    refine ⟨by rintro ⟨⟩, ?_⟩
    rintro ⟨i, hi⟩
    rw [hnone] at hi
    cases hi
  distinct := fun i j ticket hi => by rw [hnone] at hi; cases hi

end Serves
end Outbox
end SymbolSearch
