import Mathlib.Data.List.Induction
import SymbolSearch.Time.Memo

/-!
# What a memo remembers

A memo drops what is to be forgotten whenever it is asked. What it answers is nevertheless what the
calls say that came before, whether or not it was asked in between.

* `MemoCall` — what is done with a memo while time passes, and `TimedMemo.after` what comes of it.
* `Latest` — which value was last put under a key, and not forgotten since.
* `TimedMemo.Recalls` — the entries of a memo are the last values, as far as they are still to be
  known; `TimedMemo.Recalls.next` is one call, and `TimedMemo.recalls_after` all of them.
* `TimedMemo.answers_latest` — so the memo answers with the last value, until its time is over.
-/

namespace SymbolSearch

variable {κ ν : Type}

/-! ### Calls -/

/-- What is done with a memo, or that time passes. -/
inductive MemoCall (κ ν : Type) where
  | insert (key : κ) (value : ν)
  | get (key : κ)
  | clear
  | wait (time : Duration)

namespace MemoCall

/-- The time that passes. -/
def time : MemoCall κ ν → Duration
  | .wait time => time
  | .insert _ _ | .get _ | .clear => 0

/-- Whether the value under a key is replaced or forgotten. -/
def Overwrites (key : κ) : MemoCall κ ν → Prop
  | .insert other _ => other = key
  | .clear => True
  | .get _ | .wait _ => False

end MemoCall

/-- The time that passes during some calls. -/
def elapsed : List (MemoCall κ ν) → Duration
  | [] => 0
  | call :: calls => call.time + elapsed calls

/-- Whether a value was put under a key after some calls, and the value under the key has been
    neither replaced nor forgotten since. -/
def Latest (calls : List (MemoCall κ ν)) (key : κ) (value : ν) (before : List (MemoCall κ ν)) :
    Prop :=
  ∃ since, calls = before ++ .insert key value :: since ∧ ∀ call ∈ since, ¬call.Overwrites key

section Latest

variable {calls before before' : List (MemoCall κ ν)} {call : MemoCall κ ν} {key : κ}
  {value value' : ν}

theorem elapsed_concat : elapsed (calls ++ [call]) = elapsed calls + call.time := by
  induction calls with
  | nil => exact Nat.add_comm ..
  | cons first calls ih => rw [List.cons_append, elapsed, elapsed, ih, Nat.add_assoc]

theorem not_latest_nil : ¬Latest [] key value before := by
  rintro ⟨since, hnil, -⟩
  exact absurd (congrArg List.length hnil) (by simp)

theorem latest_concat :
    Latest (calls ++ [call]) key value before ↔
      (call = .insert key value ∧ before = calls) ∨
        (Latest calls key value before ∧ ¬call.Overwrites key) := by
  constructor
  · -- The call is what put the value there, or it came after that.
    rintro ⟨since, hsplit, hkept⟩
    rcases List.eq_nil_or_concat since with rfl | ⟨since, last, rfl⟩
    · obtain ⟨rfl, hcall⟩ := List.append_inj' hsplit rfl
      exact .inl ⟨(List.cons.inj hcall).1, rfl⟩
    · rw [List.concat_eq_append, ← List.cons_append, ← List.append_assoc] at hsplit
      obtain ⟨rfl, hcall⟩ := List.append_inj' hsplit rfl
      obtain rfl := (List.cons.inj hcall).1
      rw [List.concat_eq_append, List.forall_mem_append] at hkept
      exact .inr ⟨⟨since, rfl, hkept.1⟩, hkept.2 _ (List.mem_singleton_self _)⟩
  · rintro (⟨rfl, rfl⟩ | ⟨⟨since, rfl, hkept⟩, hcall⟩)
    · exact ⟨[], rfl, nofun⟩
    · refine ⟨since ++ [call], by simp, ?_⟩
      rw [List.forall_mem_append]
      exact ⟨hkept, fun other hother => List.mem_singleton.mp hother ▸ hcall⟩

/-- There is one last value. -/
theorem Latest.unique (h : Latest calls key value before) (h' : Latest calls key value' before') :
    value = value' ∧ before = before' := by
  induction calls using List.reverseRecOn with
  | nil => exact absurd h not_latest_nil
  | append_singleton calls call ih =>
    rcases latest_concat.mp h with ⟨rfl, rfl⟩ | ⟨hlatest, hkept⟩
    · rcases latest_concat.mp h' with ⟨hcall, rfl⟩ | ⟨-, hkept'⟩
      · exact ⟨(MemoCall.insert.inj hcall).2, rfl⟩
      · exact absurd rfl hkept'
    · rcases latest_concat.mp h' with ⟨rfl, -⟩ | ⟨hlatest', -⟩
      · exact absurd rfl hkept
      · exact ih hlatest hlatest'

end Latest

/-! ### Memos over time -/

/-- A memo at a time. -/
structure TimedMemo (κ ν : Type) where
  memo : Memo κ ν
  now : Instant

namespace TimedMemo

variable [DecidableEq κ]

/-- What comes of a call. -/
def next (timed : TimedMemo κ ν) : MemoCall κ ν → TimedMemo κ ν
  | .insert key value => { timed with memo := timed.memo.insert timed.now key value }
  | .get key => { timed with memo := (timed.memo.get timed.now key).2 }
  | .clear => { timed with memo := timed.memo.clear }
  | .wait time => { timed with now := timed.now + time }

/-- What comes of some calls, when an empty memo is made at a time. -/
def after (lifetime : Duration) (start : Instant) (calls : List (MemoCall κ ν)) : TimedMemo κ ν :=
  calls.foldl next ⟨{ lifetime }, start⟩

/-- What the memo answers when it is asked for a key. -/
def answer (timed : TimedMemo κ ν) (key : κ) : Option ν := (timed.memo.get timed.now key).1

/-- The entries of a memo are the last values under their keys, and none is missing that is still to
    be known. -/
structure Recalls (timed : TimedMemo κ ν) (lifetime : Duration) (start : Instant)
    (calls : List (MemoCall κ ν)) : Prop where
  lasts : timed.memo.lifetime = lifetime
  now : timed.now = start + elapsed calls
  sound : ∀ key value expiry, (key, value, expiry) ∈ timed.memo.entries →
    ∃ before, Latest calls key value before ∧ expiry = start + elapsed before + lifetime
  complete : ∀ key value before, Latest calls key value before →
    timed.now < start + elapsed before + lifetime →
    (key, value, start + elapsed before + lifetime) ∈ timed.memo.entries

variable {timed : TimedMemo κ ν} {lifetime : Duration} {start : Instant}
  {calls : List (MemoCall κ ν)} {key : κ} {value : ν}

theorem Recalls.next (h : timed.Recalls lifetime start calls) (call : MemoCall κ ν) :
    (timed.next call).Recalls lifetime start (calls ++ [call]) := by
  -- A call that overwrites nothing leaves the last values as they are.
  have hkeeps {key : κ} {value : ν} {before : List (MemoCall κ ν)} (hkept : ¬call.Overwrites key)
      (hlatest : Latest calls key value before) : Latest (calls ++ [call]) key value before :=
    latest_concat.mpr (.inr ⟨hlatest, hkept⟩)
  cases call with
  | insert key value =>
    refine ⟨h.lasts, by rw [elapsed_concat]; exact h.now, ?_, ?_⟩
    · intro other value' expiry hmem
      rcases List.mem_cons.mp hmem with hnew | hmem
      · obtain ⟨rfl, rfl, rfl⟩ : other = key ∧ value' = value ∧ expiry = _ := by
          simpa only [Prod.mk.injEq] using hnew
        refine ⟨calls, latest_concat.mpr (.inl ⟨rfl, rfl⟩), ?_⟩
        rw [h.now, h.lasts]
      · obtain ⟨hmem, hother⟩ := List.mem_filter.mp hmem
        obtain ⟨before, hlatest, hexpiry⟩ := h.sound other value' expiry hmem
        exact ⟨before, hkeeps (fun heq => of_decide_eq_true hother heq.symm) hlatest, hexpiry⟩
    · intro other value' before hlatest hlive
      rcases latest_concat.mp hlatest with ⟨hcall, rfl⟩ | ⟨hlatest, hother⟩
      · obtain ⟨rfl, rfl⟩ := MemoCall.insert.inj hcall
        refine List.mem_cons.mpr (.inl ?_)
        rw [h.now, h.lasts]
      · refine List.mem_cons_of_mem _ (List.mem_filter.mpr ⟨h.complete _ _ _ hlatest hlive, ?_⟩)
        exact decide_eq_true fun heq => hother heq.symm
  | get key =>
    refine ⟨h.lasts, by rw [elapsed_concat]; exact h.now, ?_, ?_⟩
    · intro other value' expiry hmem
      obtain ⟨before, hlatest, hexpiry⟩ := h.sound other value' expiry (List.mem_filter.mp hmem).1
      exact ⟨before, hkeeps id hlatest, hexpiry⟩
    · intro other value' before hlatest hlive
      obtain ⟨hlatest, -⟩ := (latest_concat.mp hlatest).resolve_left nofun
      -- What is still to be known is not dropped.
      exact List.mem_filter.mpr ⟨h.complete _ _ _ hlatest hlive, decide_eq_true hlive⟩
  | clear =>
    refine ⟨h.lasts, by rw [elapsed_concat]; exact h.now, nofun, ?_⟩
    intro other value' before hlatest
    obtain ⟨-, hkept⟩ := (latest_concat.mp hlatest).resolve_left nofun
    exact absurd trivial hkept
  | wait time =>
    refine ⟨h.lasts, ?_, ?_, ?_⟩
    · rw [elapsed_concat, ← Nat.add_assoc, ← h.now]
      rfl
    · intro other value' expiry hmem
      obtain ⟨before, hlatest, hexpiry⟩ := h.sound other value' expiry hmem
      exact ⟨before, hkeeps id hlatest, hexpiry⟩
    · intro other value' before hlatest hlive
      obtain ⟨hlatest, -⟩ := (latest_concat.mp hlatest).resolve_left nofun
      exact h.complete _ _ _ hlatest (Nat.lt_of_le_of_lt (Nat.le_add_right _ _) hlive)

theorem recalls_after (lifetime : Duration) (start : Instant) (calls : List (MemoCall κ ν)) :
    (after lifetime start calls).Recalls lifetime start calls := by
  induction calls using List.reverseRecOn with
  | nil => exact ⟨rfl, rfl, nofun, fun _ _ _ hlatest => absurd hlatest not_latest_nil⟩
  | append_singleton calls call ih =>
    have hafter : after lifetime start (calls ++ [call]) = (after lifetime start calls).next call :=
      List.foldl_append ..
    rw [hafter]
    exact ih.next call

/-- A memo that knows the last values answers with them, until their time is over. -/
theorem Recalls.answer_eq_some_iff (h : timed.Recalls lifetime start calls) :
    timed.answer key = some value ↔
      ∃ before, Latest calls key value before ∧ timed.now < start + elapsed before + lifetime := by
  unfold answer Memo.get
  rw [Option.map_eq_some_iff]
  constructor
  · rintro ⟨⟨other, value, expiry⟩, hfound, rfl⟩
    obtain ⟨hmem, hlive⟩ := List.mem_filter.mp (List.mem_of_find?_eq_some hfound)
    obtain rfl : other = key := by simpa using List.find?_some hfound
    obtain ⟨before, hlatest, rfl⟩ := h.sound other value expiry hmem
    exact ⟨before, hlatest, of_decide_eq_true hlive⟩
  · rintro ⟨before, hlatest, hlive⟩
    have hmem : (key, value, start + elapsed before + lifetime) ∈
        (timed.memo.purge timed.now).entries :=
      List.mem_filter.mpr ⟨h.complete _ _ _ hlatest hlive, decide_eq_true hlive⟩
    cases hfound : (timed.memo.purge timed.now).entries.find? fun entry => entry.1 = key with
    | none => exact absurd (decide_eq_true rfl) (List.find?_eq_none.mp hfound _ hmem)
    | some entry =>
      -- All entries under the key have the last value.
      obtain ⟨other, value', expiry⟩ := entry
      obtain rfl : other = key := by simpa using List.find?_some hfound
      have hfound := (List.mem_filter.mp (List.mem_of_find?_eq_some hfound)).1
      obtain ⟨before', hlatest', -⟩ := h.sound other value' expiry hfound
      exact ⟨_, rfl, (hlatest'.unique hlatest).1⟩

/-- Whatever is done with a memo, it answers with the value that was last put under the key since
    everything was forgotten, as long as the time of that value is not over, and with nothing
    otherwise. To ask for a key changes none of its answers. -/
theorem answers_latest (lifetime : Duration) (start : Instant) (calls : List (MemoCall κ ν)) :
    (∀ key value, (after lifetime start calls).answer key = some value ↔
      ∃ before since, calls = before ++ .insert key value :: since ∧
        (∀ call ∈ since, ¬call.Overwrites key) ∧
        start + elapsed calls < start + elapsed before + lifetime) ∧
      ∀ asked key, (after lifetime start (calls ++ [.get asked])).answer key =
        (after lifetime start calls).answer key := by
  have hafter := recalls_after lifetime start calls
  constructor
  · intro key value
    rw [hafter.answer_eq_some_iff, hafter.now]
    constructor
    · rintro ⟨before, ⟨since, hsplit, hkept⟩, hlive⟩
      exact ⟨before, since, hsplit, hkept, hlive⟩
    · rintro ⟨before, since, hsplit, hkept, hlive⟩
      exact ⟨before, ⟨since, hsplit, hkept⟩, hlive⟩
  · -- The last values are the same before and after the question, and so is the time.
    intro asked key
    have hasked := recalls_after lifetime start (calls ++ [.get asked])
    refine Option.ext fun value => ?_
    rw [hasked.answer_eq_some_iff, hafter.answer_eq_some_iff, hasked.now, hafter.now,
      elapsed_concat]
    have hlatest (before : List (MemoCall κ ν)) :
        Latest (calls ++ [.get asked]) key value before ↔ Latest calls key value before :=
      latest_concat.trans (by simp [MemoCall.Overwrites])
    simp only [hlatest, MemoCall.time, Nat.add_zero]

end TimedMemo
end SymbolSearch
