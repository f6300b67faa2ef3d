import Mathlib.Data.List.Induction
import SymbolSearch.Monitor.Gate

/-!
# A restart gate over time

What a restart gate says depends on what it was asked before, at whatever times, in order or not.
Its answers so far are a history, and the history is all that one has to know of a gate.

* `RestartGate.Decides` — what the gate can say, and what it is afterwards.
* `RestartGate.history` — the answers to a list of calls.
* `granted` and `lastStart?` — how many restarts a history has granted since the last force, and
  when it last granted or forced one.
* `RestartGate.recalls_after` — the gate knows just these two.
* `RestartGate.calls_measured` — budget, numbers, cooldown and exhaustion, for all calls.
-/

namespace SymbolSearch

/-! ### One call -/

namespace RestartGate

variable {gate : RestartGate} {now : Instant}

/-- The cooldown since the last restart is over, or there was none. -/
def Cooled (gate : RestartGate) (now : Instant) : Prop :=
  ∀ last ∈ gate.last, gate.cooldown ≤ now - last

/-- What a gate can say to a restart, and what it is afterwards. -/
inductive Decides (gate : RestartGate) (now : Instant) : GateDecision → RestartGate → Prop where
  | cooling (last : Instant) (hlast : gate.last = some last)
      (hcooling : now - last < gate.cooldown) :
      Decides gate now (.coolingDown (gate.cooldown - (now - last))) gate
  | exhausted (cooled : gate.Cooled now) (spent : gate.budget ≤ gate.restarts) :
      Decides gate now .exhausted gate
  | allowed (cooled : gate.Cooled now) (left : gate.restarts < gate.budget) :
      Decides gate now (.allowed (gate.restarts + 1))
        { gate with restarts := gate.restarts + 1, last := some now }

theorem cooled_iff : gate.Cooled now ↔ gate.coolingFor? now = none := by
  unfold Cooled coolingFor?
  cases gate.last <;> simp

theorem exists_decides (gate : RestartGate) (now : Instant) :
    ∃ decision gate', gate.acquire now = (decision, gate') ∧ Decides gate now decision gate' := by
  refine ⟨(gate.acquire now).1, (gate.acquire now).2, rfl, ?_⟩
  unfold acquire
  cases hcooling : gate.coolingFor? now with
  | some remaining =>
    obtain ⟨last, hlast, hremaining⟩ := Option.bind_eq_some_iff.mp hcooling
    obtain ⟨hshort, hsome⟩ := Option.ite_none_right_eq_some.mp hremaining
    obtain rfl := Option.some.inj hsome
    exact .cooling last hlast hshort
  | none =>
    have hcooled := cooled_iff.mpr hcooling
    by_cases hspent : gate.budget ≤ gate.restarts
    · simpa [hspent] using .exhausted hcooled hspent
    · simpa [hspent] using .allowed hcooled (Nat.lt_of_not_le hspent)

end RestartGate

/-! ### Histories -/

/-- What is asked of a restart gate, and when. -/
inductive GateCall where
  | acquire (now : Instant)
  | force (now : Instant)
  deriving DecidableEq

/-- A call of a restart gate with the answer. -/
inductive GateEntry where
  | asked (now : Instant) (decision : GateDecision)
  | forced (now : Instant)
  deriving DecidableEq

namespace GateEntry

/-- Whether a restart was forced. -/
def isForced : GateEntry → Bool
  | .asked .. => false
  | .forced _ => true

/-- The number of the restart that was granted. -/
def attempt? : GateEntry → Option Nat
  | .asked _ (.allowed attempt) => some attempt
  | _ => none

/-- The time of the restart that was granted or forced. -/
def start? : GateEntry → Option Instant
  | .asked now (.allowed _) => some now
  | .forced now => some now
  | _ => none

end GateEntry

/-- The answers of a restart gate so far, in order. -/
abbrev GateHistory := List GateEntry

namespace GateHistory

/-- What has been asked since the last force, or ever if there was none. -/
def sinceForce (past : GateHistory) : GateHistory :=
  (past.reverse.takeWhile fun entry => !entry.isForced).reverse

/-- The numbers of the restarts that were granted since the last force. -/
def granted (past : GateHistory) : List Nat := past.sinceForce.filterMap GateEntry.attempt?

/-- When a restart was last granted or forced. -/
def lastStart? (past : GateHistory) : Option Instant :=
  (past.filterMap GateEntry.start?).getLast?

theorem granted_concat (past : GateHistory) (entry : GateEntry) :
    granted (past ++ [entry]) =
      if entry.isForced then [] else past.granted ++ entry.attempt?.toList := by
  cases hforced : entry.isForced with
  | true => simp [granted, sinceForce, hforced]
  | false => cases hattempt : entry.attempt? <;> simp [granted, sinceForce, hforced, hattempt]

theorem lastStart?_concat (past : GateHistory) (entry : GateEntry) :
    lastStart? (past ++ [entry]) = entry.start?.or past.lastStart? := by
  rw [lastStart?, List.filterMap_append]
  cases hstart : entry.start? <;> simp [lastStart?, hstart]

end GateHistory

namespace RestartGate

variable {gate : RestartGate} {past : GateHistory} {now : Instant} {budget : Nat}
  {cooldown : Duration}

/-- A gate that has not been asked yet. -/
def fresh (budget : Nat) (cooldown : Duration) : RestartGate := ⟨budget, cooldown, 0, none⟩

/-- One call of a gate. -/
def call (gate : RestartGate) : GateCall → GateEntry × RestartGate
  | .acquire now => (.asked now (gate.acquire now).1, (gate.acquire now).2)
  | .force now => (.forced now, gate.force now)

/-- The gate after some calls. -/
def after (gate : RestartGate) (calls : List GateCall) : RestartGate :=
  calls.foldl (fun gate call => (gate.call call).2) gate

/-- The answers of a gate to some calls. -/
def history (gate : RestartGate) : List GateCall → GateHistory
  | [] => []
  | call :: calls => (gate.call call).1 :: (gate.call call).2.history calls

theorem after_append (gate : RestartGate) (calls calls' : List GateCall) :
    gate.after (calls ++ calls') = (gate.after calls).after calls' :=
  List.foldl_append

theorem history_concat (gate : RestartGate) (calls : List GateCall) (call : GateCall) :
    gate.history (calls ++ [call]) = gate.history calls ++ [((gate.after calls).call call).1] := by
  induction calls generalizing gate with
  | nil => rfl
  | cons first calls ih => exact congrArg ((gate.call first).1 :: ·) (ih _)

/-- A gate knows of its history how many restarts were granted since the last force, and when the
    last one was granted or forced. -/
structure Recalls (budget : Nat) (cooldown : Duration) (gate : RestartGate)
    (past : GateHistory) : Prop where
  budget_eq : gate.budget = budget
  cooldown_eq : gate.cooldown = cooldown
  granted_eq : past.granted = List.range' 1 gate.restarts
  within : gate.restarts ≤ budget
  lastStart?_eq : past.lastStart? = gate.last

theorem Recalls.call (h : Recalls budget cooldown gate past) (call : GateCall) :
    Recalls budget cooldown (gate.call call).2 (past ++ [(gate.call call).1]) := by
  cases call with
  | force now =>
    exact ⟨h.budget_eq, h.cooldown_eq, past.granted_concat _, Nat.zero_le _,
      past.lastStart?_concat _⟩
  | acquire now =>
    obtain ⟨decision, gate', hacquire, hdecides⟩ := gate.exists_decides now
    simp only [RestartGate.call, hacquire]
    -- What is not granted leaves no trace.
    have hquiet (hattempt : GateEntry.attempt? (.asked now decision) = none)
        (hstart : GateEntry.start? (.asked now decision) = none) :
        GateHistory.granted (past ++ [.asked now decision]) = past.granted ∧
          GateHistory.lastStart? (past ++ [.asked now decision]) = past.lastStart? := by
      rw [past.granted_concat, past.lastStart?_concat, hattempt, hstart]
      exact ⟨List.append_nil _, rfl⟩
    cases hdecides with
    | cooling last hlast hcooling =>
      obtain ⟨hgranted, hlast⟩ := hquiet rfl rfl
      exact ⟨h.budget_eq, h.cooldown_eq, hgranted.trans h.granted_eq, h.within,
        hlast.trans h.lastStart?_eq⟩
    | exhausted cooled spent =>
      obtain ⟨hgranted, hlast⟩ := hquiet rfl rfl
      exact ⟨h.budget_eq, h.cooldown_eq, hgranted.trans h.granted_eq, h.within,
        hlast.trans h.lastStart?_eq⟩
    | allowed cooled left =>
      refine ⟨h.budget_eq, h.cooldown_eq, ?_, h.budget_eq ▸ left, past.lastStart?_concat _⟩
      rw [past.granted_concat, h.granted_eq, List.range'_1_concat, Nat.add_comm 1]
      rfl

/-- **A gate knows its history**, whatever it was asked and when. -/
theorem recalls_after (budget : Nat) (cooldown : Duration) (calls : List GateCall) :
    Recalls budget cooldown ((fresh budget cooldown).after calls)
      ((fresh budget cooldown).history calls) := by
  induction calls using List.reverseRecOn with
  | nil => exact ⟨rfl, rfl, rfl, Nat.zero_le _, rfl⟩
  | append_singleton calls call ih =>
    rw [after_append, history_concat]
    exact ih.call call

/-! ### Single answers -/

theorem cooled_of_allowed {attempt : Nat} (h : (gate.acquire now).1 = .allowed attempt) :
    gate.Cooled now ∧ gate.restarts < gate.budget ∧ attempt = gate.restarts + 1 := by
  obtain ⟨decision, gate', hacquire, hdecides⟩ := gate.exists_decides now
  rw [hacquire] at h
  cases hdecides with
  | cooling | exhausted => cases h
  | allowed cooled left => exact ⟨cooled, left, (GateDecision.allowed.inj h).symm⟩

/-- The time that is left ends with the cooldown, and the gate waits for it as it is. -/
theorem last_of_coolingDown {remaining : Duration}
    (h : (gate.acquire now).1 = .coolingDown remaining) :
    (gate.acquire now).2 = gate ∧ ∃ last, gate.last = some last ∧ now - last < gate.cooldown ∧
      remaining = gate.cooldown - (now - last) := by
  obtain ⟨decision, gate', hacquire, hdecides⟩ := gate.exists_decides now
  rw [hacquire] at h ⊢
  cases hdecides with
  | cooling last hlast hcooling =>
    exact ⟨rfl, last, hlast, hcooling, (GateDecision.coolingDown.inj h).symm⟩
  | exhausted | allowed => cases h

theorem exhausted_iff :
    (gate.acquire now).1 = .exhausted ↔ gate.budget ≤ gate.restarts ∧ gate.Cooled now := by
  obtain ⟨decision, gate', hacquire, hdecides⟩ := gate.exists_decides now
  rw [hacquire]
  cases hdecides with
  | cooling last hlast hcooling =>
    refine iff_of_false nofun fun h => ?_
    exact absurd hcooling (Nat.not_lt_of_le (h.2 last hlast))
  | exhausted cooled spent => exact iff_of_true rfl ⟨spent, cooled⟩
  | allowed cooled left => exact iff_of_false nofun fun h => Nat.not_lt_of_le h.1 left

/-- Without a force a budget that is spent stays spent. -/
theorem spent_after {calls : List GateCall} (h : gate.budget ≤ gate.restarts)
    (hcalls : ∀ now, GateCall.force now ∉ calls) :
    (gate.after calls).budget ≤ (gate.after calls).restarts := by
  induction calls generalizing gate with
  | nil => exact h
  | cons call calls ih =>
    refine ih ?_ fun now hmem => hcalls now (List.mem_cons_of_mem _ hmem)
    cases call with
    | force now => exact absurd List.mem_cons_self (hcalls now)
    | acquire now =>
      obtain ⟨decision, gate', hacquire, hdecides⟩ := gate.exists_decides now
      simp only [RestartGate.call, hacquire]
      cases hdecides with
      | cooling | exhausted => exact h
      | allowed cooled left => exact absurd left (Nat.not_lt_of_le h)

/-! ### All calls -/

/-- What a gate with some history says to a restart, at any time. -/
structure Measured (budget : Nat) (cooldown : Duration) (gate : RestartGate)
    (past : GateHistory) : Prop where
  /-- The restarts that were granted since the last force are numbered in order. -/
  numbered : past.granted = List.range' 1 past.granted.length
  within : past.granted.length ≤ budget
  /-- A restart is granted with the next number, when the cooldown is over. -/
  allowed : ∀ now attempt, (gate.acquire now).1 = .allowed attempt →
    attempt = past.granted.length + 1 ∧
      (0 < cooldown → ∀ last ∈ past.lastStart?, last + cooldown ≤ now)
  /-- A restart that is put off may be asked for again at the end of the time that is left. -/
  coolingDown : ∀ now remaining, (gate.acquire now).1 = .coolingDown remaining →
    0 < remaining ∧ remaining ≤ cooldown ∧ (gate.acquire now).2 = gate ∧
      ((∀ last ∈ past.lastStart?, last ≤ now) →
        ∀ more, (gate.acquire (now + remaining)).1 ≠ .coolingDown more)
  /-- The budget is spent exactly if as many restarts were granted. The cooldown comes first. -/
  exhausted : ∀ now, (gate.acquire now).1 = .exhausted ↔
    past.granted.length = budget ∧ ∀ last ∈ past.lastStart?, cooldown ≤ now - last
  /-- Only a force helps when the budget is spent. -/
  exhausted_until_force : ∀ now later, (gate.acquire now).1 = .exhausted →
    (∀ forced, GateCall.force forced ∉ later) →
      ∀ asked attempt, ((gate.after (.acquire now :: later)).acquire asked).1 ≠ .allowed attempt

/-- **Restarts are measured out**, whatever a gate is asked and when: since the creation of the gate
    and between any two forces the restarts are numbered in order and within the budget, and each
    of them comes a cooldown after the last one, or after the force. -/
theorem calls_measured (budget : Nat) (cooldown : Duration) (calls : List GateCall) :
    Measured budget cooldown ((fresh budget cooldown).after calls)
      ((fresh budget cooldown).history calls) := by
  have hrecalls := recalls_after budget cooldown calls
  generalize (fresh budget cooldown).after calls = gate at hrecalls ⊢
  generalize (fresh budget cooldown).history calls = past at hrecalls ⊢
  obtain ⟨rfl, rfl, hgranted, hwithin, hlast⟩ := hrecalls
  have hlength : past.granted.length = gate.restarts := by rw [hgranted, List.length_range']
  rw [← hlength] at hgranted hwithin
  refine ⟨hgranted, hwithin, ?allowed, ?coolingDown, ?exhausted, ?exhausted_until_force⟩
  case allowed =>
    intro now attempt h
    obtain ⟨hcooled, -, hattempt⟩ := cooled_of_allowed h
    refine ⟨hattempt.trans (congrArg (· + 1) hlength.symm), fun hpos last hmem => ?_⟩
    have hover : gate.cooldown ≤ now - last := hcooled last (hlast ▸ hmem)
    have hlt : last < now := Nat.lt_of_sub_pos (Nat.lt_of_lt_of_le hpos hover)
    exact Nat.add_le_of_le_sub' (Nat.le_of_lt hlt) hover
  case coolingDown =>
    intro now remaining h
    obtain ⟨hsame, last, hfound, hcooling, rfl⟩ := last_of_coolingDown h
    refine ⟨Nat.sub_pos_of_lt hcooling, Nat.sub_le _ _, hsame, fun hle more hmore => ?_⟩
    obtain ⟨-, last', hfound', hcooling', -⟩ := last_of_coolingDown hmore
    obtain rfl := Option.some.inj (hfound.symm.trans hfound')
    have hend : now + (gate.cooldown - (now - last)) - last = gate.cooldown := by
      rw [Nat.sub_add_comm (hle last (hlast.trans hfound)),
        Nat.add_sub_of_le (Nat.le_of_lt hcooling)]
    rw [hend] at hcooling'
    exact Nat.lt_irrefl _ hcooling'
  case exhausted =>
    intro now
    rw [exhausted_iff, hlast, ← hlength]
    exact and_congr_left fun _ => ⟨Nat.le_antisymm hwithin, Nat.le_of_eq ∘ Eq.symm⟩
  case exhausted_until_force =>
    intro now later h hlater asked attempt hallowed
    have hcalls : ∀ forced, GateCall.force forced ∉ GateCall.acquire now :: later := by
      simpa using hlater
    have hspent := spent_after (exhausted_iff.mp h).1 hcalls
    exact Nat.not_lt_of_le hspent (cooled_of_allowed hallowed).2.1

end RestartGate
end SymbolSearch
