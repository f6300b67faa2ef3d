import Mathlib.Data.List.Nodup
import SymbolSearch.Session.Pending

/-!
# The table of requests in flight

What the operations of the table do as long as each id stands for one request.

* `Pending.Distinct` — each id stands for one request, and each channel belongs to one.
* `Pending.resolve_of_mem` and `Pending.remove_of_mem` — a request that is in the table is taken
  out, and no other; `Pending.resolve_of_notMem` and `Pending.remove_of_notMem` — nothing changes
  if it is not.
* `Pending.register_of_notMem` — a new request does not disturb the others.
-/

namespace SymbolSearch.Pending

/-- Each id stands for one request, and each channel belongs to one. -/
structure Distinct (pending : Pending) : Prop where
  ids : (pending.entries.map (·.1)).Nodup
  channels : (pending.entries.map (·.2)).Nodup

variable {pending : Pending} {id : Nat} {channel : ChannelId}

theorem Distinct.channel_eq (h : pending.Distinct) {channel' : ChannelId}
    (hmem : (id, channel) ∈ pending.entries) (hmem' : (id, channel') ∈ pending.entries) :
    channel' = channel :=
  (Prod.mk.inj (List.inj_on_of_nodup_map h.ids hmem' hmem rfl)).2

theorem Distinct.id_eq (h : pending.Distinct) {id' : Nat}
    (hmem : (id, channel) ∈ pending.entries) (hmem' : (id', channel) ∈ pending.entries) :
    id' = id :=
  (Prod.mk.inj (List.inj_on_of_nodup_map h.channels hmem' hmem rfl)).1

/-! ### Taking a request out -/

/-- The entries that are left when the request with an id is taken out. -/
def without (pending : Pending) (id : Nat) : List (Nat × ChannelId) :=
  pending.entries.filter (·.1 ≠ id)

theorem mem_without {entry : Nat × ChannelId} :
    entry ∈ pending.without id ↔ entry ∈ pending.entries ∧ entry.1 ≠ id := by
  simp [without]

theorem without_of_notMem (h : ∀ channel, (id, channel) ∉ pending.entries) :
    pending.without id = pending.entries := by
  rw [without, List.filter_eq_self]
  rintro ⟨id', channel⟩ hmem
  simp only [ne_eq, decide_eq_true_eq]
  rintro rfl
  exact h channel hmem

theorem Distinct.of_entries_subset {other : Pending} (h : pending.Distinct)
    (hsub : other.entries.Sublist pending.entries) : other.Distinct where
  ids := h.ids.sublist (hsub.map _)
  channels := h.channels.sublist (hsub.map _)

theorem Distinct.lookup_eq (h : pending.Distinct) (hmem : (id, channel) ∈ pending.entries) :
    pending.entries.lookup id = some channel := by
  cases hlookup : pending.entries.lookup id with
  | none =>
    have hne := List.lookup_eq_none_iff.mp hlookup (id, channel) hmem
    simp at hne
  | some other =>
    -- Whatever is found belongs to the id, and the id has one channel.
    obtain ⟨before, after, heq, -⟩ := List.lookup_eq_some_iff.mp hlookup
    have hother : (id, other) ∈ pending.entries := by simp [heq]
    rw [h.channel_eq hmem hother]

theorem lookup_of_notMem (h : ∀ channel, (id, channel) ∉ pending.entries) :
    pending.entries.lookup id = none := by
  rw [List.lookup_eq_none_iff]
  rintro ⟨id', channel⟩ hmem
  rw [bne_iff_ne]
  rintro rfl
  exact h channel hmem

/-- The request with an id is taken out, and its sender ends. -/
theorem remove_of_mem (h : pending.Distinct) (hmem : (id, channel) ∈ pending.entries) :
    pending.remove id =
      (⟨pending.without id, pending.channels.modify channel ReplyChannel.dropSender⟩, true) := by
  simp only [remove, takeOut, h.lookup_eq hmem]
  rfl

theorem remove_of_notMem (h : ∀ channel, (id, channel) ∉ pending.entries) :
    pending.remove id = (pending, false) := by
  simp only [remove, takeOut, lookup_of_notMem h]
  rw [← without, without_of_notMem h]

/-- The request with an id is taken out, and its reply is sent. -/
theorem resolve_of_mem (h : pending.Distinct) (hmem : (id, channel) ∈ pending.entries)
    (reply : ResponseOutcome) :
    pending.resolve id reply =
      (⟨pending.without id, pending.channels.modify channel (·.send reply)⟩, true) := by
  simp only [resolve, takeOut, h.lookup_eq hmem]
  rfl

theorem resolve_of_notMem (h : ∀ channel, (id, channel) ∉ pending.entries)
    (reply : ResponseOutcome) : pending.resolve id reply = (pending, false) := by
  simp only [resolve, takeOut, lookup_of_notMem h]
  rw [← without, without_of_notMem h]

/-! ### Entering a request -/

/-- A request with a new id gets a new channel. -/
theorem register_of_notMem (now : Instant) (method : String) (timeout : Duration)
    (h : ∀ channel, (id, channel) ∉ pending.entries) :
    pending.register now id method timeout =
      (⟨pending.entries ++ [(id, pending.channels.length)], pending.channels ++ [.empty]⟩,
        ⟨id, pending.channels.length, method, timeout, now + timeout⟩) := by
  simp only [register, remove_of_notMem h]

theorem Distinct.register (h : pending.Distinct) (hid : ∀ channel, (id, channel) ∉ pending.entries)
    (hbound : ∀ entry ∈ pending.entries, entry.2 < pending.channels.length)
    (channels : List ReplyChannel) :
    Distinct ⟨pending.entries ++ [(id, pending.channels.length)], channels⟩ where
  ids := by
    rw [List.map_append, List.map_singleton, ← List.concat_eq_append, List.nodup_concat]
    refine ⟨?_, h.ids⟩
    intro hmem
    obtain ⟨⟨id', channel⟩, hentry, rfl⟩ := List.mem_map.mp hmem
    exact hid channel hentry
  channels := by
    rw [List.map_append, List.map_singleton, ← List.concat_eq_append, List.nodup_concat]
    refine ⟨?_, h.channels⟩
    intro hmem
    obtain ⟨entry, hentry, heq⟩ := List.mem_map.mp hmem
    exact Nat.ne_of_lt (hbound entry hentry) heq

end SymbolSearch.Pending
