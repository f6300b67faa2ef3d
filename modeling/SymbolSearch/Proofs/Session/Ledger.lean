import Mathlib.Logic.Function.Basic
import SymbolSearch.Proofs.Session.PendingTable
import SymbolSearch.Proofs.Session.Requests

/-!
# Requests in flight and the table

What the table of a session and the requests that are in flight know of each other, whatever the
operations do.

* `InFlight` — what the table, the channel and the first response say about a request in flight.
* `Kept` — what holds of the table, of everyone's request and of the first responses.
* `Kept.desk` — the moves of an operation keep it; `Kept.resolve` — so does a response.
-/

namespace SymbolSearch

namespace Pending

variable {pending : Pending}

theorem dropSender_dropSender (channel : ReplyChannel) :
    channel.dropSender.dropSender = channel.dropSender := by
  cases channel <;> rfl

/-- When all requests fail, the table is empty, and exactly their channels are broken off. -/
theorem entries_failAll (pending : Pending) : pending.failAll.entries = [] := by
  have hfold (channels : List ChannelId) (pending : Pending) :
      (channels.foldl dropSender pending).entries = pending.entries := by
    induction channels generalizing pending with
    | nil => rfl
    | cons first rest ih => exact ih (pending.dropSender first)
  exact hfold _ _

theorem length_channels_failAll (pending : Pending) :
    pending.failAll.channels.length = pending.channels.length := by
  have hfold (channels : List ChannelId) (pending : Pending) :
      (channels.foldl dropSender pending).channels.length = pending.channels.length := by
    induction channels generalizing pending with
    | nil => rfl
    | cons first rest ih =>
      rw [List.foldl_cons, ih]
      exact List.length_modify ..
  exact hfold _ _

theorem channels_failAll (pending : Pending) (channel : ChannelId) :
    pending.failAll.channels[channel]? =
      if channel ∈ pending.entries.map (·.2) then
        pending.channels[channel]?.map ReplyChannel.dropSender
      else pending.channels[channel]? := by
  have hfold (channels : List ChannelId) (pending : Pending) :
      (channels.foldl dropSender pending).channels[channel]? =
        if channel ∈ channels then pending.channels[channel]?.map ReplyChannel.dropSender
        else pending.channels[channel]? := by
    induction channels generalizing pending with
    | nil => rfl
    | cons first rest ih =>
      rw [List.foldl_cons, ih]
      by_cases hfirst : first = channel
      · subst hfirst
        have hhere : (pending.dropSender first).channels[first]? =
            pending.channels[first]?.map ReplyChannel.dropSender := by
          simp [dropSender]
        rw [hhere, if_pos List.mem_cons_self]
        split
        · cases pending.channels[first]? with
          | none => rfl
          | some found => simp [dropSender_dropSender]
        · rfl
      · have hother : (pending.dropSender first).channels[channel]? =
            pending.channels[channel]? := by
          simp [dropSender, hfirst]
        rw [hother]
        by_cases hrest : channel ∈ rest
        · rw [if_pos hrest, if_pos (List.mem_cons_of_mem _ hrest)]
        · have hnot : channel ∉ first :: rest := by simp [hrest, Ne.symm hfirst]
          rw [if_neg hrest, if_neg hnot]
  exact hfold _ _

end Pending

/-! ### What holds between any two events -/

/-- What the table, the channel and the first response say about a request in flight. -/
inductive InFlight (pending : Pending) (first? : Option ResponseOutcome) (reply : PendingReply) :
    Prop where
  | registered (entry : (reply.id, reply.channel) ∈ pending.entries)
      (channel : pending.channels[reply.channel]? = some .empty) (first : first? = none)
  | answered (outcome : ResponseOutcome) (entry : ∀ channel, (reply.id, channel) ∉ pending.entries)
      (channel : pending.channels[reply.channel]? = some (.filled outcome))
      (first : first? = some outcome)
  | failed (entry : ∀ channel, (reply.id, channel) ∉ pending.entries)
      (channel : pending.channels[reply.channel]? = some .broken) (first : first? = none)

/-- What holds of the table, the next id, everyone's request and the first responses. -/
structure Kept (pending : Pending) (nextId : Nat) (replyOf : Nat → Option PendingReply)
    (first? : Nat → Option ResponseOutcome) : Prop where
  distinct : pending.Distinct
  entry_lt : ∀ id channel, (id, channel) ∈ pending.entries →
    id < nextId ∧ channel < pending.channels.length
  reply_lt : ∀ i reply, replyOf i = some reply →
    reply.id < nextId ∧ reply.channel < pending.channels.length
  ids : ∀ i j reply reply', replyOf i = some reply → replyOf j = some reply' →
    reply.id = reply'.id → i = j
  channels : ∀ i j reply reply', replyOf i = some reply → replyOf j = some reply' →
    reply.channel = reply'.channel → i = j
  /-- Every entry of the table is the request of someone who waits. -/
  owned : ∀ id channel, (id, channel) ∈ pending.entries →
    ∃ i reply, replyOf i = some reply ∧ reply.id = id ∧ reply.channel = channel
  inFlight : ∀ i reply, replyOf i = some reply → InFlight pending (first? reply.id) reply
  fresh : ∀ id, nextId ≤ id → first? id = none

section InFlight

variable {pending pending' : Pending} {first? : Option ResponseOutcome} {reply : PendingReply}

/-- Nothing else about the table matters for a request. -/
theorem InFlight.frame (h : InFlight pending first? reply)
    (hentries : ∀ channel, (reply.id, channel) ∈ pending'.entries ↔
      (reply.id, channel) ∈ pending.entries)
    (hchannel : pending'.channels[reply.channel]? = pending.channels[reply.channel]?) :
    InFlight pending' first? reply := by
  cases h with
  | registered entry channel first =>
    exact .registered ((hentries _).mpr entry) (hchannel.trans channel) first
  | answered outcome entry channel first =>
    exact .answered outcome (fun c hc => entry c ((hentries c).mp hc)) (hchannel.trans channel) first
  | failed entry channel first =>
    exact .failed (fun c hc => entry c ((hentries c).mp hc)) (hchannel.trans channel) first

/-- What one who waits is told: the first response, or that the server is gone, and the table stays;
    or that time is over, and the request leaves the table. -/
theorem InFlight.wait_cases (h : InFlight pending first? reply) (hdistinct : pending.Distinct)
    {now : Instant} {result : Except SessionError Json}
    (hwait : reply.wait? now pending = (pending', some result)) :
    pending' = pending ∧ (∀ channel, (reply.id, channel) ∉ pending.entries) ∧
        ((∃ outcome, first? = some outcome ∧ result = PendingReply.resultOf outcome) ∨
          result = .error .processExit) ∨
      pending' = reply.abandon pending ∧
        result = .error (.requestTimeout reply.method reply.timeout) := by
  rw [PendingReply.wait?] at hwait
  cases h with
  | registered entry channel first =>
    have hpoll : reply.poll? pending = none := by rw [PendingReply.poll?, channel]
    rw [hpoll] at hwait
    dsimp only at hwait
    split at hwait
    · rw [PendingReply.expire, Pending.remove_of_mem hdistinct entry] at hwait
      obtain ⟨hpending, hresult⟩ := Prod.mk.inj hwait
      refine .inr ⟨?_, (Option.some.inj hresult).symm⟩
      rw [← hpending, PendingReply.abandon, Pending.remove_of_mem hdistinct entry]
    · cases (Prod.mk.inj hwait).2
  | answered outcome entry channel first =>
    have hpoll : reply.poll? pending = some (PendingReply.resultOf outcome) := by
      rw [PendingReply.poll?, channel]
    rw [hpoll] at hwait
    obtain ⟨hpending, hresult⟩ := Prod.mk.inj hwait
    exact .inl ⟨hpending.symm, entry, .inl ⟨outcome, first, (Option.some.inj hresult).symm⟩⟩
  | failed entry channel first =>
    have hpoll : reply.poll? pending = some (.error .processExit) := by
      rw [PendingReply.poll?, channel]
    rw [hpoll] at hwait
    obtain ⟨hpending, hresult⟩ := Prod.mk.inj hwait
    exact .inl ⟨hpending.symm, entry, .inr (Option.some.inj hresult).symm⟩

/-- As long as nothing about a request changes in the table, it will be told the same. -/
theorem InFlight.wait_frame (h : InFlight pending first? reply) (hdistinct : pending.Distinct)
    (hdistinct' : pending'.Distinct)
    (hentries : ∀ channel, (reply.id, channel) ∈ pending'.entries ↔
      (reply.id, channel) ∈ pending.entries)
    (hchannel : pending'.channels[reply.channel]? = pending.channels[reply.channel]?)
    {now : Instant} : (reply.wait? now pending').2 = (reply.wait? now pending).2 := by
  have hpoll : reply.poll? pending' = reply.poll? pending := by
    rw [PendingReply.poll?, PendingReply.poll?, hchannel]
  rw [PendingReply.wait?, PendingReply.wait?, hpoll]
  cases hfound : reply.poll? pending with
  | some result => rfl
  | none =>
    -- Whoever has not been told anything is in the table.
    have hentry : (reply.id, reply.channel) ∈ pending.entries := by
      rw [PendingReply.poll?] at hfound
      cases h with
      | registered entry => exact entry
      | answered _ _ channel | failed _ channel =>
        rw [channel] at hfound
        cases hfound
    have hentry' := (hentries _).mpr hentry
    rw [PendingReply.expire, PendingReply.expire, Pending.remove_of_mem hdistinct hentry,
      Pending.remove_of_mem hdistinct' hentry']
    dsimp only
    split
    · rfl
    · rfl

end InFlight

namespace Kept

variable {pending pending' : Pending} {nextId : Nat} {replyOf : Nat → Option PendingReply}
  {first? : Nat → Option ResponseOutcome} {i : Nat} {reply : PendingReply}

/-- No entry has the id that is given out next. -/
theorem next_notMem (h : Kept pending nextId replyOf first?) (channel : ChannelId) :
    (nextId, channel) ∉ pending.entries := fun hentry =>
  Nat.lt_irrefl _ (h.entry_lt nextId channel hentry).1

theorem update_none_eq_some {j : Nat} {reply : PendingReply} :
    Function.update replyOf i none j = some reply ↔ j ≠ i ∧ replyOf j = some reply := by
  by_cases hj : j = i
  · simp [hj]
  · simp [hj]

/-! ### A request ends -/

/-- Someone whose request is not in the table any more goes away. -/
theorem forget (h : Kept pending nextId replyOf first?) (hi : replyOf i = some reply)
    (hno : ∀ channel, (reply.id, channel) ∉ pending.entries) :
    Kept pending nextId (Function.update replyOf i none) first? where
  distinct := h.distinct
  entry_lt := h.entry_lt
  reply_lt := fun j other hj => h.reply_lt j other (update_none_eq_some.mp hj).2
  ids := fun j k other other' hj hk =>
    h.ids j k other other' (update_none_eq_some.mp hj).2 (update_none_eq_some.mp hk).2
  channels := fun j k other other' hj hk =>
    h.channels j k other other' (update_none_eq_some.mp hj).2 (update_none_eq_some.mp hk).2
  owned := by
    intro id channel hentry
    obtain ⟨j, other, hj, rfl, rfl⟩ := h.owned id channel hentry
    refine ⟨j, other, update_none_eq_some.mpr ⟨?_, hj⟩, rfl, rfl⟩
    rintro rfl
    obtain rfl := Option.some.inj (hi.symm.trans hj)
    exact hno _ hentry
  inFlight := fun j other hj => h.inFlight j other (update_none_eq_some.mp hj).2
  fresh := h.fresh

/-- Someone gives his request up. -/
theorem abandon (h : Kept pending nextId replyOf first?) (hi : replyOf i = some reply) :
    Kept (reply.abandon pending) nextId (Function.update replyOf i none) first? := by
  by_cases hin : (reply.id, reply.channel) ∈ pending.entries
  · rw [PendingReply.abandon, Pending.remove_of_mem h.distinct hin]
    -- Whoever else has a request has another id and another channel.
    have hother {j : Nat} {other : PendingReply}
        (hj : Function.update replyOf i none j = some other) :
        replyOf j = some other ∧ other.id ≠ reply.id ∧ other.channel ≠ reply.channel := by
      obtain ⟨hne, hj⟩ := update_none_eq_some.mp hj
      exact ⟨hj, fun heq => hne (h.ids j i other reply hj hi heq),
        fun heq => hne (h.channels j i other reply hj hi heq)⟩
    constructor
    · exact h.distinct.of_entries_subset List.filter_sublist
    · intro id channel hentry
      have hlt := h.entry_lt id channel (Pending.mem_without.mp hentry).1
      rwa [List.length_modify]
    · intro j other hj
      rw [List.length_modify]
      exact h.reply_lt j other (hother hj).1
    · exact fun j k other other' hj hk => h.ids j k other other' (hother hj).1 (hother hk).1
    · exact fun j k other other' hj hk => h.channels j k other other' (hother hj).1 (hother hk).1
    · intro id channel hentry
      obtain ⟨hbefore, hne⟩ := Pending.mem_without.mp hentry
      obtain ⟨j, other, hj, rfl, rfl⟩ := h.owned id channel hbefore
      refine ⟨j, other, update_none_eq_some.mpr ⟨?_, hj⟩, rfl, rfl⟩
      rintro rfl
      obtain rfl := Option.some.inj (hi.symm.trans hj)
      exact hne rfl
    · intro j other hj
      obtain ⟨hj, hid, hchannel⟩ := hother hj
      refine (h.inFlight j other hj).frame (fun channel => ?_) ?_
      · rw [Pending.mem_without]
        exact and_iff_left hid
      · simp [Ne.symm hchannel]
    · exact h.fresh
  · -- The request has left the table before.
    have hno : ∀ channel, (reply.id, channel) ∉ pending.entries := by
      cases h.inFlight i reply hi with
      | registered entry => exact absurd entry hin
      | answered _ entry | failed entry => exact entry
    rw [PendingReply.abandon, Pending.remove_of_notMem hno]
    exact h.forget hi hno

/-- Someone who waits is told a result. -/
theorem settle (h : Kept pending nextId replyOf first?) (hi : replyOf i = some reply)
    {now : Instant} {result : Except SessionError Json}
    (hwait : reply.wait? now pending = (pending', some result)) :
    Kept pending' nextId (Function.update replyOf i none) first? := by
  rcases (h.inFlight i reply hi).wait_cases h.distinct hwait with ⟨rfl, hno, -⟩ | ⟨rfl, -⟩
  · exact h.forget hi hno
  · exact h.abandon hi

/-! ### A request begins -/

/-- Someone without a request makes one. -/
theorem register (h : Kept pending nextId replyOf first?) (hi : replyOf i = none) (now : Instant)
    (method : String) (timeout : Duration) :
    Kept (pending.register now nextId method timeout).1 (nextId + 1)
      (Function.update replyOf i (some (pending.register now nextId method timeout).2)) first? := by
  rw [Pending.register_of_notMem now method timeout h.next_notMem]
  have hbound : ∀ entry ∈ pending.entries, entry.2 < pending.channels.length :=
    fun entry hentry => (h.entry_lt entry.1 entry.2 hentry).2
  generalize hnew : (⟨nextId, pending.channels.length, method, timeout, now + timeout⟩ :
    PendingReply) = new
  have hid : new.id = nextId := by rw [← hnew]
  have hchannel : new.channel = pending.channels.length := by rw [← hnew]
  -- The new request has the greatest id and the last channel.
  have hcases {j : Nat} {other : PendingReply}
      (hj : Function.update replyOf i (some new) j = some other) :
      j = i ∧ other = new ∨ j ≠ i ∧ replyOf j = some other ∧ other.id < nextId ∧
        other.channel < pending.channels.length := by
    by_cases hji : j = i
    · subst hji
      rw [Function.update_self] at hj
      exact .inl ⟨rfl, (Option.some.inj hj).symm⟩
    · rw [Function.update_of_ne hji] at hj
      exact .inr ⟨hji, hj, h.reply_lt j other hj⟩
  constructor
  · exact h.distinct.register h.next_notMem hbound _
  · intro id channel hentry
    rw [List.length_append, List.length_singleton]
    rcases List.mem_append.mp hentry with hentry | hentry
    · obtain ⟨hlt, hlt'⟩ := h.entry_lt id channel hentry
      exact ⟨Nat.lt_succ_of_lt hlt, Nat.lt_succ_of_lt hlt'⟩
    · obtain ⟨rfl, rfl⟩ := Prod.mk.inj (List.mem_singleton.mp hentry)
      exact ⟨Nat.lt_succ_self _, Nat.lt_succ_self _⟩
  · intro j other hj
    rw [List.length_append, List.length_singleton]
    rcases hcases hj with ⟨-, rfl⟩ | ⟨-, -, hlt, hlt'⟩
    · rw [hid, hchannel]
      exact ⟨Nat.lt_succ_self _, Nat.lt_succ_self _⟩
    · exact ⟨Nat.lt_succ_of_lt hlt, Nat.lt_succ_of_lt hlt'⟩
  · intro j k other other' hj hk heq
    rcases hcases hj with ⟨rfl, rfl⟩ | ⟨-, hj, hlt, -⟩
    · rcases hcases hk with ⟨rfl, -⟩ | ⟨-, -, hlt, -⟩
      · rfl
      · rw [← heq, hid] at hlt
        exact absurd hlt (Nat.lt_irrefl _)
    · rcases hcases hk with ⟨rfl, rfl⟩ | ⟨-, hk, -, -⟩
      · rw [heq, hid] at hlt
        exact absurd hlt (Nat.lt_irrefl _)
      · exact h.ids j k other other' hj hk heq
  · intro j k other other' hj hk heq
    rcases hcases hj with ⟨rfl, rfl⟩ | ⟨-, hj, -, hlt⟩
    · rcases hcases hk with ⟨rfl, -⟩ | ⟨-, -, -, hlt⟩
      · rfl
      · rw [← heq, hchannel] at hlt
        exact absurd hlt (Nat.lt_irrefl _)
    · rcases hcases hk with ⟨rfl, rfl⟩ | ⟨-, hk, -, -⟩
      · rw [heq, hchannel] at hlt
        exact absurd hlt (Nat.lt_irrefl _)
      · exact h.channels j k other other' hj hk heq
  · intro id channel hentry
    rcases List.mem_append.mp hentry with hentry | hentry
    · obtain ⟨j, other, hj, hid, hchannel⟩ := h.owned id channel hentry
      refine ⟨j, other, ?_, hid, hchannel⟩
      rw [Function.update_of_ne, hj]
      rintro rfl
      rw [hi] at hj
      cases hj
    · obtain ⟨rfl, rfl⟩ := Prod.mk.inj (List.mem_singleton.mp hentry)
      exact ⟨i, new, Function.update_self .., hid, hchannel⟩
  · intro j other hj
    rcases hcases hj with ⟨-, rfl⟩ | ⟨-, hj, hlt, hlt'⟩
    · refine .registered ?_ ?_ (h.fresh _ (Nat.le_of_eq hid.symm))
      · rw [hid, hchannel]
        exact List.mem_append_right _ List.mem_cons_self
      · rw [hchannel, List.getElem?_concat_length]
    · refine (h.inFlight j other hj).frame (fun channel => ?_) (List.getElem?_append_left hlt')
      simp [Nat.ne_of_lt hlt]
  · exact fun id hle => h.fresh id (Nat.le_of_succ_le hle)

/-! ### All requests fail, or one is answered -/

theorem failAll (h : Kept pending nextId replyOf first?) :
    Kept pending.failAll nextId replyOf first? := by
  have hno (id : Nat) (channel : ChannelId) : (id, channel) ∉ pending.failAll.entries := by
    rw [Pending.entries_failAll]
    exact List.not_mem_nil
  constructor
  · exact h.distinct.of_entries_subset (by rw [Pending.entries_failAll]; exact List.nil_sublist _)
  · exact fun id channel hentry => absurd hentry (hno id channel)
  · intro j other hj
    rw [Pending.length_channels_failAll]
    exact h.reply_lt j other hj
  · exact h.ids
  · exact h.channels
  · exact fun id channel hentry => absurd hentry (hno id channel)
  · intro j other hj
    have hchannels := Pending.channels_failAll pending other.channel
    cases h.inFlight j other hj with
    | registered entry channel first =>
      refine .failed (hno other.id) ?_ first
      rw [hchannels, if_pos (List.mem_map.mpr ⟨_, entry, rfl⟩), channel]
      rfl
    | answered outcome entry channel first =>
      refine .answered outcome (hno other.id) ?_ first
      rw [hchannels, channel]
      split <;> rfl
    | failed entry channel first =>
      refine .failed (hno other.id) ?_ first
      rw [hchannels, channel]
      split <;> rfl
  · exact h.fresh

/-- A response to a request that is in the table. -/
theorem resolve (h : Kept pending nextId replyOf first?) {id : Nat} {channel : ChannelId}
    (hentry : (id, channel) ∈ pending.entries) (outcome : ResponseOutcome) :
    Kept (pending.resolve id outcome).1 nextId replyOf
      (Function.update first? id (some outcome)) := by
  obtain ⟨i, reply, hi, rfl, rfl⟩ := h.owned id channel hentry
  rw [Pending.resolve_of_mem h.distinct hentry]
  constructor
  · exact h.distinct.of_entries_subset List.filter_sublist
  · intro id channel hleft
    have hlt := h.entry_lt id channel (Pending.mem_without.mp hleft).1
    rwa [List.length_modify]
  · intro j other hj
    rw [List.length_modify]
    exact h.reply_lt j other hj
  · exact h.ids
  · exact h.channels
  · exact fun id channel hleft => h.owned id channel (Pending.mem_without.mp hleft).1
  · intro j other hj
    by_cases hji : j = i
    · obtain rfl : other = reply := by
        subst hji
        exact Option.some.inj (hj.symm.trans hi)
      refine .answered outcome (fun c hleft => ?_) ?_ (Function.update_self ..)
      · exact absurd rfl (Pending.mem_without.mp hleft).2
      · cases h.inFlight j other hj with
        | registered _ channel => simp [channel, ReplyChannel.send]
        | answered _ entry | failed entry => exact absurd hentry (entry _)
    · have hid : other.id ≠ reply.id := fun heq => hji (h.ids j i other reply hj hi heq)
      have hchannel : other.channel ≠ reply.channel :=
        fun heq => hji (h.channels j i other reply hj hi heq)
      rw [Function.update_of_ne hid]
      refine (h.inFlight j other hj).frame (fun c => ?_) ?_
      · rw [Pending.mem_without]
        exact and_iff_left hid
      · simp [Ne.symm hchannel]
  · intro later hle
    have hlt := (h.reply_lt i reply hi).1
    rw [Function.update_of_ne (by omega)]
    exact h.fresh later hle

/-! ### The moves of an operation -/

/-- Whatever an operation does to its request and the others. -/
theorem desk {desk desk' : Desk} (hmoves : DeskMoves desk desk')
    (h : Kept desk.pending desk.nextId (Function.update replyOf i desk.own) first?) :
    Kept desk'.pending desk'.nextId (Function.update replyOf i desk'.own) first? := by
  induction hmoves with
  | refl => exact h
  | tail _ hmove ih =>
    cases hmove with
    | registers pending nextId now method timeout =>
      have hnext := ih.register (i := i) (Function.update_self ..) now method timeout
      rwa [Function.update_idem] at hnext
    | abandons pending nextId reply =>
      have hnext := ih.abandon (i := i) (Function.update_self ..)
      rwa [Function.update_idem] at hnext
    | settles pending pending' nextId now reply result wait =>
      have hnext := ih.settle (i := i) (Function.update_self ..) wait
      rwa [Function.update_idem] at hnext
    | failsAll => exact ih.failAll

end Kept

/-- The ids that an operation uses are given out in ascending order. -/
theorem DeskMoves.id_cases {desk desk' : Desk} (hmoves : DeskMoves desk desk') :
    desk.nextId ≤ desk'.nextId ∧ ∀ reply, desk'.own = some reply →
      desk.own = some reply ∨ desk.nextId ≤ reply.id ∧ reply.id < desk'.nextId := by
  induction hmoves with
  | refl => exact ⟨Nat.le_refl _, fun reply h => .inl h⟩
  | tail _ hmove ih =>
    obtain ⟨hle, hown⟩ := ih
    cases hmove with
    | registers pending nextId now method timeout =>
      refine ⟨Nat.le_succ_of_le hle, ?_⟩
      rintro reply ⟨⟩
      exact .inr ⟨hle, Nat.lt_succ_self _⟩
    | abandons | settles => exact ⟨hle, by rintro reply ⟨⟩⟩
    | failsAll => exact ⟨hle, hown⟩

end SymbolSearch
