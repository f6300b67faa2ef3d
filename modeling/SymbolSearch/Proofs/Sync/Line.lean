import SymbolSearch.Sync.Turns

/-!
# Lines for a guard

* `Turns.Serves` — those who wait for a guard or have it do so with tickets of their own, and
  whoever works with it holds it.
* `Turns.Serves.exclusive` — so no two work with it at the same time.
* `Turns.Serves.join`, `Turns.Serves.leave` and `Turns.Serves.keep` — the ways to go on.
* `Turns.line` — who has the guard and who waits for it, one behind the other.
* `Turns.Lists` — the line is one of those who wait for the guard or have it, and of nobody else.
* `Turns.Shifts` — what one of them can do, and `Turns.Lists.shifts`, what comes of it for the line.
* `Turns.Moves` — the same where the guard is given up by its holder only, and
  `Turns.Moves.of_other`, what comes of it for the others in line.
-/

namespace SymbolSearch
namespace Turns

variable {turns : Turns} {ticket : Ticket}

theorem join_ticket (turns : Turns) : turns.join.1 = turns.next := by
  unfold join
  split <;> rfl

theorem next_join (turns : Turns) : turns.join.2.next = turns.next + 1 := by
  unfold join
  split <;> rfl

theorem holder_join (h : turns.holder = some ticket) : turns.join.2.holder = some ticket := by
  simp [join, h]

theorem next_leave (turns : Turns) (ticket : Ticket) : (turns.leave ticket).next = turns.next := by
  unfold leave
  split
  · split <;> rfl
  · rfl

/-- A guard stays with its holder when somebody else leaves. -/
theorem holder_leave {other : Ticket} (h : turns.holder = some ticket) (hne : other ≠ ticket) :
    (turns.leave other).holder = some ticket := by
  have hholds : turns.holds other = false := by
    simpa [holds, h] using Ne.symm hne
  simp [leave, hholds, h]

/-- Everyone is known by a number. Those who wait for a guard or have it have tickets of their own,
    and those who are inside have the guard. -/
structure Serves (turns : Turns) (ticketOf : Nat → Option Ticket) (inside : Nat → Prop) : Prop where
  distinct : ∀ i j ticket, ticketOf i = some ticket → ticketOf j = some ticket → i = j
  lt_next : ∀ i ticket, ticketOf i = some ticket → ticket < turns.next
  holds : ∀ i, inside i → ∃ ticket, ticketOf i = some ticket ∧ turns.holder = some ticket

namespace Serves

variable {ticketOf ticketOf' : Nat → Option Ticket} {inside inside' : Nat → Prop} {i j : Nat}

/-- Whoever has the guard is the only one inside. -/
theorem eq_of_holder (h : turns.Serves ticketOf inside) (hticket : ticketOf i = some ticket)
    (hholder : turns.holder = some ticket) (hj : inside j) : i = j := by
  obtain ⟨held, hheld, hholder'⟩ := h.holds j hj
  obtain rfl : ticket = held := Option.some.inj (hholder.symm.trans hholder')
  exact h.distinct i j ticket hticket hheld

theorem exclusive (h : turns.Serves ticketOf inside) (hi : inside i) (hj : inside j) : i = j := by
  obtain ⟨ticket, hticket, hholder⟩ := h.holds i hi
  exact h.eq_of_holder hticket hholder hj

/-- Nobody is in line yet. -/
theorem nobody (turns : Turns) (hticket : ∀ i, ticketOf i = none) (hinside : ∀ i, ¬inside i) :
    turns.Serves ticketOf inside where
  distinct := fun i _ _ hi => by rw [hticket] at hi; cases hi
  lt_next := fun i _ hi => by rw [hticket] at hi; cases hi
  holds := fun i hi => absurd hi (hinside i)

/-- The line stays as it is; someone who has the guard may go inside. -/
theorem keep (h : turns.Serves ticketOf inside) (hticket : ∀ j, ticketOf' j = ticketOf j)
    (hinside : ∀ j, inside' j →
      inside j ∨ ∃ ticket, ticketOf j = some ticket ∧ turns.holder = some ticket) :
    turns.Serves ticketOf' inside' where
  distinct := fun i j ticket hi hj =>
    h.distinct i j ticket (hticket i ▸ hi) (hticket j ▸ hj)
  lt_next := fun i ticket hi => h.lt_next i ticket (hticket i ▸ hi)
  holds := by
    intro j hj
    rw [hticket]
    rcases hinside j hj with hbefore | hholder
    · exact h.holds j hbefore
    · exact hholder

/-- Someone gets in line. -/
theorem join (h : turns.Serves ticketOf inside) (hticket : ticketOf' i = some turns.join.1)
    (hother : ∀ j, j ≠ i → ticketOf' j = ticketOf j)
    (hinside : ∀ j, inside' j → j ≠ i ∧ inside j) :
    turns.join.2.Serves ticketOf' inside' := by
  rw [join_ticket] at hticket
  -- Every ticket that was given out before is smaller than the new one.
  have hlt {j : Nat} {ticket : Ticket} (hj : j ≠ i) (h' : ticketOf' j = some ticket) :
      ticket < turns.next := h.lt_next j ticket (hother j hj ▸ h')
  constructor
  · intro j k ticket hj hk
    by_cases hji : j = i
    · by_cases hki : k = i
      · rw [hji, hki]
      · have hnext : turns.next = ticket := Option.some.inj (hticket.symm.trans (hji ▸ hj))
        exact absurd hnext.symm (Nat.ne_of_lt (hlt hki hk))
    · by_cases hki : k = i
      · have hnext : turns.next = ticket := Option.some.inj (hticket.symm.trans (hki ▸ hk))
        exact absurd hnext.symm (Nat.ne_of_lt (hlt hji hj))
      · exact h.distinct j k ticket (hother j hji ▸ hj) (hother k hki ▸ hk)
  · intro j ticket hj
    rw [next_join]
    by_cases hji : j = i
    · have hnext : turns.next = ticket := Option.some.inj (hticket.symm.trans (hji ▸ hj))
      exact hnext ▸ Nat.lt_succ_self _
    · exact Nat.lt_succ_of_lt (hlt hji hj)
  · intro j hj
    obtain ⟨hne, hbefore⟩ := hinside j hj
    obtain ⟨ticket, hheld, hholder⟩ := h.holds j hbefore
    exact ⟨ticket, (hother j hne).trans hheld, holder_join hholder⟩

/-- Someone leaves the line, or gives up the guard. -/
theorem leave (h : turns.Serves ticketOf inside) (hticket : ticketOf i = some ticket)
    (hnone : ticketOf' i = none) (hother : ∀ j, j ≠ i → ticketOf' j = ticketOf j)
    (hinside : ∀ j, inside' j → j ≠ i ∧ inside j) :
    (turns.leave ticket).Serves ticketOf' inside' := by
  have hbefore {j : Nat} {held : Ticket} (hj : ticketOf' j = some held) : ticketOf j = some held := by
    rw [← hother j ?_]
    · exact hj
    · rintro rfl
      rw [hnone] at hj
      cases hj
  constructor
  · exact fun j k held hj hk => h.distinct j k held (hbefore hj) (hbefore hk)
  · intro j held hj
    rw [next_leave]
    exact h.lt_next j held (hbefore hj)
  · intro j hj
    obtain ⟨hne, hin⟩ := hinside j hj
    obtain ⟨held, hheld, hholder⟩ := h.holds j hin
    -- The one inside has a ticket of its own, so the guard stays with it.
    have htickets : ticket ≠ held := by
      rintro rfl
      exact hne (h.distinct j i ticket hheld hticket)
    exact ⟨held, (hother j hne).trans hheld, holder_leave hholder htickets⟩

end Serves

/-! ### The line itself -/

/-- The one who has the guard, and behind him those who wait, the first one first. -/
def line (turns : Turns) : List Ticket := turns.holder.toList ++ turns.waiting

theorem line_join (h : turns.holder = none → turns.waiting = []) :
    turns.join.2.line = turns.line ++ [turns.next] := by
  unfold join
  cases hholder : turns.holder with
  | none => simp [line, hholder, h hholder]
  | some held => simp [line, hholder]

/-- Whoever has the guard is the first in line, and leaves the others behind him. -/
theorem line_leave (h : turns.holder = some ticket) :
    turns.line = ticket :: (turns.leave ticket).line := by
  have hholds : turns.holds ticket = true := by simp [holds, h]
  simp only [leave, hholds, if_true]
  split
  next hwaiting => simp [line, h, hwaiting]
  next first others hwaiting => simp [line, h, hwaiting]

/-- Whoever leaves the line keeps all others where they are. -/
theorem line_leave_eq_erase (turns : Turns) (ticket : Ticket) :
    (turns.leave ticket).line = turns.line.erase ticket := by
  by_cases hholder : turns.holder = some ticket
  · rw [line_leave hholder, List.erase_cons_head]
  · have hholds : turns.holds ticket = false := by simpa [holds] using hholder
    have hnot : ticket ∉ turns.holder.toList := by simpa [Option.mem_toList] using hholder
    simp only [leave, hholds, Bool.false_eq_true, if_false, line]
    exact (List.erase_append_right _ hnot).symm

/-- Those in line are those who have a ticket.  Nobody is in line twice, and nobody waits for a
    guard that nobody has. -/
structure Lists (turns : Turns) (ticketOf : Nat → Option Ticket) : Prop where
  held : turns.holder = none → turns.waiting = []
  nodup : turns.line.Nodup
  mem_iff : ∀ ticket, ticket ∈ turns.line ↔ ∃ i, ticketOf i = some ticket

namespace Lists

variable {ticketOf ticketOf' : Nat → Option Ticket} {inside : Nat → Prop} {i : Nat}

theorem keep (h : turns.Lists ticketOf) (hticket : ∀ j, ticketOf' j = ticketOf j) :
    turns.Lists ticketOf' := by
  obtain rfl : ticketOf' = ticketOf := funext hticket
  exact h

theorem join (h : turns.Lists ticketOf) (hserves : turns.Serves ticketOf inside)
    (hnone : ticketOf i = none) (hticket : ticketOf' i = some turns.join.1)
    (hother : ∀ j, j ≠ i → ticketOf' j = ticketOf j) : turns.join.2.Lists ticketOf' := by
  have hline := line_join h.held
  rw [join_ticket] at hticket
  constructor
  · intro hnobody
    unfold Turns.join at hnobody
    split at hnobody
    · cases hnobody
    next held hheld => exact absurd (hheld.symm.trans hnobody) nofun
  · -- The new ticket is greater than all that are in line.
    have hnew : turns.next ∉ turns.line := by
      intro hmem
      obtain ⟨j, hj⟩ := (h.mem_iff _).mp hmem
      exact Nat.lt_irrefl _ (hserves.lt_next j _ hj)
    rw [hline, List.nodup_append]
    refine ⟨h.nodup, by simp, ?_⟩
    rintro ticket hmem other hother rfl
    exact hnew (List.mem_singleton.mp hother ▸ hmem)
  · intro ticket
    rw [hline, List.mem_append, List.mem_singleton, h.mem_iff]
    constructor
    · rintro (⟨j, hj⟩ | rfl)
      · have hji : j ≠ i := by
          rintro rfl
          exact absurd (hnone.symm.trans hj) nofun
        exact ⟨j, (hother j hji).trans hj⟩
      · exact ⟨i, hticket⟩
    · rintro ⟨j, hj⟩
      by_cases hji : j = i
      · exact .inr (Option.some.inj ((hji ▸ hj).symm.trans hticket))
      · exact .inl ⟨j, (hother j hji) ▸ hj⟩

theorem leave (h : turns.Lists ticketOf) (hserves : turns.Serves ticketOf inside)
    (hticket : ticketOf i = some ticket) (hnone : ticketOf' i = none)
    (hother : ∀ j, j ≠ i → ticketOf' j = ticketOf j) : (turns.leave ticket).Lists ticketOf' := by
  have hline := line_leave_eq_erase turns ticket
  constructor
  · intro hnobody
    by_cases hholder : turns.holder = some ticket
    · have hholds : turns.holds ticket = true := by simp [holds, hholder]
      simp only [Turns.leave, hholds, if_true] at hnobody ⊢
      split at hnobody
      · assumption
      · cases hnobody
    · have hholds : turns.holds ticket = false := by simpa [holds] using hholder
      simp only [Turns.leave, hholds, Bool.false_eq_true, if_false] at hnobody ⊢
      rw [h.held hnobody, List.erase_nil]
  · rw [hline]
    exact h.nodup.erase ticket
  · intro other
    rw [hline, h.nodup.mem_erase_iff, h.mem_iff]
    constructor
    · rintro ⟨hne, j, hj⟩
      have hji : j ≠ i := by
        rintro rfl
        exact hne (Option.some.inj (hj.symm.trans hticket))
      exact ⟨j, (hother j hji).trans hj⟩
    · rintro ⟨j, hj⟩
      have hji : j ≠ i := by
        rintro rfl
        exact absurd (hnone.symm.trans hj) nofun
      rw [hother j hji] at hj
      refine ⟨?_, j, hj⟩
      rintro rfl
      exact hji (hserves.distinct j i other hj hticket)

/-- If anybody is in line, somebody has the guard. -/
theorem exists_holder (h : turns.Lists ticketOf) (hmem : ticket ∈ turns.line) :
    ∃ held, turns.holder = some held := by
  cases hholder : turns.holder with
  | some held => exact ⟨held, rfl⟩
  | none =>
    rw [line, hholder, h.held hholder] at hmem
    cases hmem

end Lists

/-! ### Moves -/

/-- What one who has a ticket, or has none, can do. -/
inductive Shifts (turns : Turns) : Option Ticket → Turns → Option Ticket → Prop where
  | stays (ticket? : Option Ticket) : Shifts turns ticket? turns ticket?
  | joins : Shifts turns none turns.join.2 (some turns.join.1)
  | leaves (ticket : Ticket) : Shifts turns (some ticket) (turns.leave ticket) none

/-- What one who has a ticket, or has none, can do, if the guard is given up by its holder only. -/
inductive Moves (turns : Turns) : Option Ticket → Turns → Option Ticket → Prop where
  | stays (ticket? : Option Ticket) : Moves turns ticket? turns ticket?
  | joins : Moves turns none turns.join.2 (some turns.join.1)
  | leaves (ticket : Ticket) (held : turns.holder = some ticket) :
      Moves turns (some ticket) (turns.leave ticket) none

theorem Moves.shifts {turns' : Turns} {before now : Option Ticket}
    (h : turns.Moves before turns' now) : turns.Shifts before turns' now := by
  cases h with
  | stays => exact .stays _
  | joins => exact .joins
  | leaves ticket => exact .leaves ticket

theorem Lists.shifts {ticketOf ticketOf' : Nat → Option Ticket} {inside : Nat → Prop} {i : Nat}
    {turns' : Turns} (h : turns.Lists ticketOf) (hserves : turns.Serves ticketOf inside)
    (hshifts : turns.Shifts (ticketOf i) turns' (ticketOf' i))
    (hother : ∀ j, j ≠ i → ticketOf' j = ticketOf j) : turns'.Lists ticketOf' := by
  generalize hbefore : ticketOf i = before at hshifts
  generalize hnow : ticketOf' i = now at hshifts
  cases hshifts with
  | stays =>
    refine h.keep fun j => ?_
    by_cases hji : j = i
    · rw [hji, hbefore, hnow]
    · exact hother j hji
  | joins => exact h.join hserves hbefore hnow hother
  | leaves ticket => exact h.leave hserves hbefore hnow hother

/-- Who does not have the guard leaves it to its holder, and gets in line at the end of it. -/
theorem Moves.of_other {turns' : Turns} {before now : Option Ticket}
    (hmoves : turns.Moves before turns' now) (hholder : turns.holder = some ticket)
    (hother : before ≠ some ticket) : turns'.holder = some ticket ∧ turns.line <+: turns'.line := by
  cases hmoves with
  | stays => exact ⟨hholder, List.prefix_rfl⟩
  | joins =>
    refine ⟨holder_join hholder, ?_⟩
    rw [line_join fun hnobody => absurd (hholder.symm.trans hnobody) nofun]
    exact List.prefix_append _ _
  | leaves held hheld => exact absurd (hheld.symm.trans hholder) hother

end Turns
end SymbolSearch
