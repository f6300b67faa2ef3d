import Mathlib.Data.List.Induction
import SymbolSearch.Session.Link

/-!
# The life of a connection, as the client tells it

* `Utterance` — what the client says of its own accord, whatever the words are.
* `Lifecycle` — the order in which it should come: a greeting and its confirmation, any work, a
  farewell and an exit. In `InTurn` some of the work may come too late.
* `Phase` — how far a connection has come; `phase?_eq_some` says what was said on the way, and
  `lifecycle_concat_iff` which next word spoils the order.
-/

namespace SymbolSearch

/-- What a client says of its own accord. -/
inductive Utterance where
  | hello
  | confirmation
  /-- A question about symbols, or a notification about a document. -/
  | work
  | farewell
  | exit
  deriving DecidableEq, Repr

/-- What an item of an outbox says. Replies are not of the client's own accord. -/
def Outgoing.utterance? : Outgoing → Option Utterance
  | .request _ (.hello _) => some .hello
  | .request _ (.query _) => some .work
  | .request _ .shutdown => some .farewell
  | .notice .initialized => some .confirmation
  | .notice (.didOpen _ _ _) | .notice (.didClose _) => some .work
  | .notice .exit => some .exit
  | .reply _ | .finish => none

/-- What is said on a connection begins like this, and may break off anywhere. -/
def Lifecycle (said : List Utterance) : Prop :=
  ∃ n, said <+: [.hello, .confirmation] ++ List.replicate n .work ++ [.farewell, .exit]

/-- The same but for work that comes behind the farewell. -/
def InTurn (said : List Utterance) : Prop :=
  ∃ n m l, said <+: [.hello, .confirmation] ++ List.replicate n .work ++
    [.farewell] ++ List.replicate m .work ++ [.exit] ++ List.replicate l .work

/-- How far a connection has come. -/
inductive Phase where
  | silent
  | greeted
  | working
  | parting
  | gone
  deriving DecidableEq, Repr

namespace Phase

/-- The phase after one word, if it may come now. -/
def next? : Phase → Utterance → Option Phase
  | .silent, .hello => some .greeted
  | .greeted, .confirmation => some .working
  | .working, .work => some .working
  | .working, .farewell => some .parting
  | .parting, .work => some .parting
  | .parting, .exit => some .gone
  | .gone, .work => some .gone
  | _, _ => none

/-- Whether the handshake is over. -/
def isAtWork : Phase → Bool
  | .working | .parting | .gone => true
  | _ => false

/-- Whether the farewell has been said. -/
def isOver : Phase → Bool
  | .parting | .gone => true
  | _ => false

theorem isAtWork_of_next? {phase phase' : Phase} {word : Utterance}
    (h : phase.next? word = some phase') (hwork : phase.isAtWork = true) :
    phase'.isAtWork = true := by
  cases phase <;> cases word <;> cases h <;> first | rfl | cases hwork

end Phase

/-- The phase to which what was said has led, if it came in turn. -/
def phase? (said : List Utterance) : Option Phase := said.foldlM Phase.next? .silent

variable {said : List Utterance} {word : Utterance} {phase phase' : Phase}

theorem phase?_concat (said : List Utterance) (word : Utterance) :
    phase? (said ++ [word]) = (phase? said).bind (·.next? word) := by
  simp [phase?]

/-- What was said on the way to a phase. -/
def Phase.Reached (said : List Utterance) : Phase → Prop
  | .silent => said = []
  | .greeted => said = [.hello]
  | .working => ∃ n, said = [.hello, .confirmation] ++ List.replicate n .work
  | .parting => ∃ n m, said = [.hello, .confirmation] ++ List.replicate n .work ++
      [.farewell] ++ List.replicate m .work
  | .gone => ∃ n m l, said = [.hello, .confirmation] ++ List.replicate n .work ++
      [.farewell] ++ List.replicate m .work ++ [.exit] ++ List.replicate l .work

theorem Phase.Reached.next (h : phase.Reached said) (hnext : phase.next? word = some phase') :
    phase'.Reached (said ++ [word]) := by
  cases phase <;> cases word <;> cases hnext
  case silent.hello =>
    obtain rfl : said = [] := h
    rfl
  case greeted.confirmation =>
    obtain rfl : said = [.hello] := h
    exact ⟨0, rfl⟩
  case working.work =>
    obtain ⟨n, rfl⟩ := h
    exact ⟨n + 1, by simp [List.replicate_succ']⟩
  case working.farewell =>
    obtain ⟨n, rfl⟩ := h
    exact ⟨n, 0, by simp⟩
  case parting.work =>
    obtain ⟨n, m, rfl⟩ := h
    exact ⟨n, m + 1, by simp [List.replicate_succ']⟩
  case parting.exit =>
    obtain ⟨n, m, rfl⟩ := h
    exact ⟨n, m, 0, by simp⟩
  case gone.work =>
    obtain ⟨n, m, l, rfl⟩ := h
    exact ⟨n, m, l + 1, by simp [List.replicate_succ']⟩

theorem reached_of_phase? (h : phase? said = some phase) : phase.Reached said := by
  induction said using List.reverseRecOn generalizing phase with
  | nil =>
    obtain rfl := Option.some.inj h
    rfl
  | append_singleton said word ih =>
    rw [phase?_concat] at h
    obtain ⟨before, hbefore, hnext⟩ := Option.bind_eq_some_iff.mp h
    exact (ih hbefore).next hnext

/-- Whatever has led to a phase came in turn. -/
theorem inTurn_of_phase? (h : phase? said = some phase) : InTurn said := by
  have hreached := reached_of_phase? h
  cases phase with
  | silent =>
    obtain rfl : said = [] := hreached
    exact ⟨0, 0, 0, List.nil_prefix⟩
  | greeted =>
    obtain rfl : said = [.hello] := hreached
    exact ⟨0, 0, 0, by decide⟩
  | working =>
    obtain ⟨n, rfl⟩ := hreached
    exact ⟨n, 0, 0, by simp [List.append_assoc]⟩
  | parting =>
    obtain ⟨n, m, rfl⟩ := hreached
    exact ⟨n, m, 0, by simp [List.append_assoc]⟩
  | gone =>
    obtain ⟨n, m, l, rfl⟩ := hreached
    exact ⟨n, m, l, List.prefix_refl _⟩

/-- The farewell has been said exactly when the phase is one behind it. -/
theorem farewell_mem_iff (h : phase? said = some phase) :
    .farewell ∈ said ↔ phase.isOver = true := by
  have hreached := reached_of_phase? h
  cases phase with
  | silent =>
    obtain rfl : said = [] := hreached
    decide
  | greeted =>
    obtain rfl : said = [.hello] := hreached
    decide
  | working =>
    obtain ⟨n, rfl⟩ := hreached
    simp [Phase.isOver]
  | parting =>
    obtain ⟨n, m, rfl⟩ := hreached
    simp [Phase.isOver]
  | gone =>
    obtain ⟨n, m, l, rfl⟩ := hreached
    simp [Phase.isOver]

/-! ### Order -/

theorem Lifecycle.of_prefix {longer : List Utterance} (h : Lifecycle longer)
    (hlonger : said <+: longer) : Lifecycle said := by
  obtain ⟨n, hn⟩ := h
  exact ⟨n, hlonger.trans hn⟩

theorem lifecycle_nil : Lifecycle [] := ⟨0, List.nil_prefix⟩

theorem phase?_work (n : Nat) :
    phase? ([.hello, .confirmation] ++ List.replicate n .work) = some .working := by
  induction n with
  | zero => rfl
  | succ n ih => rw [List.replicate_succ', ← List.append_assoc, phase?_concat, ih]; rfl

theorem prefix_work {n : Nat} (h : said <+: [.hello, .confirmation] ++ List.replicate n .work) :
    said = [] ∨ said = [.hello] ∨
      ∃ m, said = [.hello, .confirmation] ++ List.replicate m .work := by
  induction n with
  | zero =>
    have hgreeted : said <+: [Utterance.hello] ++ [.confirmation] := h
    rcases List.prefix_concat_iff.mp hgreeted with rfl | h
    · exact .inr (.inr ⟨0, rfl⟩)
    have hhello : said <+: ([] : List Utterance) ++ [.hello] := h
    rcases List.prefix_concat_iff.mp hhello with rfl | h
    · exact .inr (.inl rfl)
    · exact .inl (List.prefix_nil.mp h)
  | succ n ih =>
    rw [List.replicate_succ', ← List.append_assoc, List.prefix_concat_iff] at h
    rcases h with rfl | h
    · exact .inr (.inr ⟨n + 1, by simp [List.replicate_succ']⟩)
    · exact ih h

/-- The places at which what is said in order may break off. -/
theorem Lifecycle.cases (h : Lifecycle said) :
    said = [] ∨ said = [.hello] ∨
      ∃ n, said = [.hello, .confirmation] ++ List.replicate n .work ∨
        said = [.hello, .confirmation] ++ List.replicate n .work ++ [.farewell] ∨
        said = [.hello, .confirmation] ++ List.replicate n .work ++ [.farewell] ++ [.exit] := by
  obtain ⟨n, h⟩ := h
  rw [List.append_cons, List.prefix_concat_iff] at h
  rcases h with rfl | h
  · exact .inr (.inr ⟨n, .inr (.inr rfl)⟩)
  rcases List.prefix_concat_iff.mp h with rfl | h
  · exact .inr (.inr ⟨n, .inr (.inl rfl)⟩)
  rcases prefix_work h with rfl | rfl | ⟨m, rfl⟩
  · exact .inl rfl
  · exact .inr (.inl rfl)
  · exact .inr (.inr ⟨m, .inl rfl⟩)

/-- Behind the farewell no work comes in order. -/
theorem not_lifecycle_of_work (hfarewell : .farewell ∈ said) : ¬Lifecycle (said ++ [.work]) := by
  intro h
  rcases h.cases with h | h | ⟨n, h | h | h⟩
  · simp at h
  · rw [← List.nil_append [Utterance.hello]] at h
    cases (List.append_inj' h rfl).2
  · -- all work so far: there was no farewell
    have hmem : .farewell ∈ [Utterance.hello, .confirmation] ++ List.replicate n .work :=
      h ▸ List.mem_append_left _ hfarewell
    simp at hmem
  · cases (List.append_inj' h rfl).2
  · cases (List.append_inj' h rfl).2

/-- A next word that may come keeps the order, unless it is work behind the farewell. -/
theorem lifecycle_concat_iff (h : phase? said = some phase)
    (hnext : phase.next? word = some phase') :
    Lifecycle (said ++ [word]) ↔ Lifecycle said ∧ ¬(word = .work ∧ phase.isOver = true) := by
  constructor
  · intro hsaid
    refine ⟨hsaid.of_prefix (List.prefix_append _ _), ?_⟩
    rintro ⟨rfl, hover⟩
    exact not_lifecycle_of_work ((farewell_mem_iff h).mpr hover) hsaid
  · rintro ⟨hsaid, hwork⟩
    rcases hsaid.cases with rfl | rfl | ⟨n, rfl | rfl | rfl⟩
    · obtain rfl := Option.some.inj h
      cases word <;> cases hnext
      exact ⟨0, by decide⟩
    · obtain rfl := Option.some.inj h
      cases word <;> cases hnext
      exact ⟨0, by decide⟩
    · obtain rfl := Option.some.inj ((phase?_work n).symm.trans h)
      cases word <;> cases hnext
      · exact ⟨n + 1, by simp [List.replicate_succ']⟩
      · exact ⟨n, by simp⟩
    · rw [phase?_concat, phase?_work] at h
      obtain rfl := Option.some.inj h
      cases word <;> cases hnext
      · exact absurd ⟨rfl, rfl⟩ hwork
      · exact ⟨n, by simp⟩
    · rw [phase?_concat, phase?_concat, phase?_work] at h
      obtain rfl := Option.some.inj h
      cases word <;> cases hnext
      exact absurd ⟨rfl, rfl⟩ hwork

end SymbolSearch
