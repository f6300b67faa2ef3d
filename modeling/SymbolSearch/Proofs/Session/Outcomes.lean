import SymbolSearch.Proofs.Session.PendingTable

/-!
# One outcome for each request

Responses, deadlines, crashes and callers who give up race for the entries of the table.  Here they
do so in any order, with every lock section a step of its own.

* `Exchange` — the table, everyone who waits for a reply, and the senders that were drained and
  have not ended yet; `Exchange.act` is one step. An id is free for another request once it has
  left the table and the one who registered it has looked for the last time, or given up.
* `Exchange.run` — any number of steps, with a log of who took which entry out.
* `Fate` — what the table, the channel and the log say about one who waits; every step keeps it.
* `oneOutcome_run` — an entry is taken out once, and the step that takes it out decides the result
  for the one who waits.
-/

namespace SymbolSearch

/-- How far one who waits for a reply has come. -/
inductive WaiterPhase where
  | waiting
  /-- At the deadline the request was not in the table any more; the channel comes next. -/
  | late
  | finished (result : Except SessionError Json)
  | gone

/-- Whether one still looks into his channel. -/
def WaiterPhase.isWaiting : WaiterPhase → Bool
  | .waiting => true
  | _ => false

/-- One who waits for a reply. -/
structure Waiter where
  reply : PendingReply
  phase : WaiterPhase := .waiting

/-- The table, and everyone who has to do with it. -/
structure Exchange where
  pending : Pending := {}
  /-- Those who have registered a request, the first one first. -/
  waiters : List Waiter := []
  /-- The channels whose senders were drained and have not ended. -/
  drained : List ChannelId := []

namespace Exchange

/-- A step of someone who has to do with the table. Those who wait are known by their places. -/
inductive Action where
  | register (now : Instant) (id : Nat) (method : String) (timeout : Duration)
  | resolve (id : Nat) (reply : ResponseOutcome)
  | drain
  | dropSender (channel : ChannelId)
  | poll (place : Nat)
  | expire (place : Nat)
  | look (place : Nat)
  | abandon (place : Nat)

/-- Whether an id stands for a request: one in the table, or one whose caller still waits. -/
def inUse (x : Exchange) (id : Nat) : Bool :=
  x.pending.entries.any (·.1 == id) ||
    x.waiters.any fun waiter => waiter.reply.id == id && waiter.phase.isWaiting

/-- Changes how far the one at a place has come. -/
def setWaiter (x : Exchange) (place : Nat) (waiter : Waiter) : Exchange :=
  { x with waiters := x.waiters.set place waiter }

/-- One step. Nothing happens where it cannot be taken: no id is registered while it is in use. -/
def act (x : Exchange) : Action → Exchange
  | .register now id method timeout =>
    if x.inUse id then x
    else
      let (pending, reply) := x.pending.register now id method timeout
      { x with pending, waiters := x.waiters ++ [{ reply }] }
  | .resolve id reply => { x with pending := (x.pending.resolve id reply).1 }
  | .drain =>
    let (pending, senders) := x.pending.drain
    { x with pending, drained := x.drained ++ senders }
  | .dropSender channel =>
    if channel ∈ x.drained then
      { x with pending := x.pending.dropSender channel, drained := x.drained.erase channel }
    else x
  | .poll place =>
    match x.waiters[place]? with
    | some ⟨reply, .waiting⟩ =>
      match reply.poll? x.pending with
      | some result => x.setWaiter place ⟨reply, .finished result⟩
      | none => x
    | _ => x
  | .expire place =>
    match x.waiters[place]? with
    | some ⟨reply, .waiting⟩ =>
      match reply.expire x.pending with
      | (pending, some result) => { x with pending }.setWaiter place ⟨reply, .finished result⟩
      | (pending, none) => { x with pending }.setWaiter place ⟨reply, .late⟩
    | _ => x
  | .look place =>
    match x.waiters[place]? with
    | some ⟨reply, .late⟩ => x.setWaiter place ⟨reply, .finished (reply.lastLook x.pending)⟩
    | _ => x
  | .abandon place =>
    match x.waiters[place]? with
    | some ⟨reply, .waiting⟩ =>
      { x with pending := reply.abandon x.pending }.setWaiter place ⟨reply, .gone⟩
    | _ => x

/-- Which entries were taken out, and by which steps. An entry is known by its channel. -/
abbrev Log := List (ChannelId × Action)

/-- The channels whose entries a step has taken out of the table. -/
def takenOut (before after : Exchange) : List ChannelId :=
  (before.pending.entries.filter (· ∉ after.pending.entries)).map (·.2)

/-- One step, with the log. -/
def advance (run : Exchange × Log) (action : Action) : Exchange × Log :=
  (run.1.act action, run.2 ++ (run.1.takenOut (run.1.act action)).map (·, action))

/-- Any number of steps from an empty table. -/
def run (actions : List Action) : Exchange × Log := actions.foldl advance ({}, [])

/-- The steps that have taken the entry with a channel out. -/
def takers (log : Log) (channel : ChannelId) : List Action :=
  (log.filter (·.1 = channel)).map (·.2)

/-! ### Where one who waits stands -/

/-- The phases that end, if they come to an end, with a result. -/
inductive LeadsTo (result : Except SessionError Json) : WaiterPhase → Prop where
  | waiting : LeadsTo result .waiting
  | late : LeadsTo result .late
  | finished : LeadsTo result (.finished result)
  | gone : LeadsTo result .gone

/-- What the table, the channel and the log say about the one at a place. -/
inductive Fate (x : Exchange) (log : Log) (place : Nat) : Waiter → Prop where
  | registered (reply : PendingReply)
      (entry : (reply.id, place) ∈ x.pending.entries)
      (channel : x.pending.channels[place]? = some .empty)
      (held : place ∉ x.drained)
      (taken : takers log place = []) : Fate x log place ⟨reply, .waiting⟩
  | resolved (reply : PendingReply) (outcome : ResponseOutcome) (phase : WaiterPhase)
      (entry : ∀ id, (id, place) ∉ x.pending.entries)
      (channel : x.pending.channels[place]? = some (.filled outcome))
      (taken : takers log place = [.resolve reply.id outcome])
      (leads : LeadsTo (PendingReply.resultOf outcome) phase) : Fate x log place ⟨reply, phase⟩
  | drained (reply : PendingReply) (phase : WaiterPhase)
      (entry : ∀ id, (id, place) ∉ x.pending.entries)
      (channel : x.pending.channels[place]? = some .empty ∧ place ∈ x.drained ∨
        x.pending.channels[place]? = some .broken)
      (taken : takers log place = [.drain])
      (leads : LeadsTo (.error .processExit) phase) : Fate x log place ⟨reply, phase⟩
  | expired (reply : PendingReply)
      (entry : ∀ id, (id, place) ∉ x.pending.entries)
      (taken : takers log place = [.expire place]) :
      Fate x log place ⟨reply, .finished (.error (.requestTimeout reply.method reply.timeout))⟩
  | abandoned (reply : PendingReply)
      (entry : ∀ id, (id, place) ∉ x.pending.entries)
      (taken : takers log place = [.abandon place]) : Fate x log place ⟨reply, .gone⟩

/-- What holds of the table, those who wait, and the log, between any two steps. -/
structure Sound (x : Exchange) (log : Log) : Prop where
  distinct : x.pending.Distinct
  /-- Every channel has one who waits at it. -/
  length_channels : x.pending.channels.length = x.waiters.length
  channel_eq : ∀ (place : Nat) (waiter : Waiter), x.waiters[place]? = some waiter →
    waiter.reply.channel = place
  /-- Every entry belongs to the one who waits at its channel. -/
  owned : ∀ id place, (id, place) ∈ x.pending.entries →
    ∃ waiter, x.waiters[place]? = some waiter ∧ waiter.reply.id = id
  /-- While one waits, his id stands for no other request. -/
  alone : ∀ (place : Nat) (waiter : Waiter), x.waiters[place]? = some waiter →
    waiter.phase.isWaiting = true →
      ∀ other, (waiter.reply.id, other) ∈ x.pending.entries → other = place
  drained_lt : ∀ channel ∈ x.drained, channel < x.waiters.length
  log_lt : ∀ taken ∈ log, taken.1 < x.waiters.length
  fate : ∀ place waiter, x.waiters[place]? = some waiter → Fate x log place waiter

variable {x y : Exchange} {log log' : Log} {place : Nat} {waiter : Waiter}

/-- Nothing else about an exchange matters for the one at a place. -/
theorem Fate.frame (h : Fate x log place waiter)
    (hentry : ∀ id, (id, place) ∈ y.pending.entries ↔ (id, place) ∈ x.pending.entries)
    (hchannel : y.pending.channels[place]? = x.pending.channels[place]?)
    (hheld : place ∈ y.drained ↔ place ∈ x.drained)
    (htaken : takers log' place = takers log place) : Fate y log' place waiter := by
  cases h with
  | registered reply entry channel held taken =>
    exact .registered reply ((hentry _).mpr entry) (hchannel.trans channel)
      (fun h => held (hheld.mp h)) (htaken.trans taken)
  | resolved reply outcome phase entry channel taken leads =>
    exact .resolved reply outcome phase (fun id h => entry id ((hentry id).mp h))
      (hchannel.trans channel) (htaken.trans taken) leads
  | drained reply phase entry channel taken leads =>
    refine .drained reply phase (fun id h => entry id ((hentry id).mp h)) ?_
      (htaken.trans taken) leads
    rwa [hchannel, hheld]
  | expired reply entry taken =>
    exact .expired reply (fun id h => entry id ((hentry id).mp h)) (htaken.trans taken)
  | abandoned reply entry taken =>
    exact .abandoned reply (fun id h => entry id ((hentry id).mp h)) (htaken.trans taken)

/-! ### The log -/

theorem takers_append (log more : Log) (channel : ChannelId) :
    takers (log ++ more) channel = takers log channel ++ takers more channel := by
  simp [takers]

theorem takers_map (channels : List ChannelId) (action : Action) (channel : ChannelId) :
    takers (channels.map (·, action)) channel =
      List.replicate (channels.count channel) action := by
  induction channels with
  | nil => rfl
  | cons first rest ih =>
    by_cases h : first = channel
    · subst h
      simp only [takers, List.map_cons] at ih ⊢
      rw [List.filter_cons_of_pos (by simp), List.map_cons, ih, List.count_cons_self,
        List.replicate_succ]
    · simp only [takers, List.map_cons] at ih ⊢
      rw [List.filter_cons_of_neg (by simpa using h), ih, List.count_cons_of_ne h]

theorem takers_singleton (place channel : ChannelId) (action : Action) :
    takers [(place, action)] channel = if place = channel then [action] else [] := by
  by_cases h : place = channel <;> simp [takers, h]

theorem takers_of_lt (h : ∀ taken ∈ log, taken.1 < place) : takers log place = [] := by
  rw [takers, List.map_eq_nil_iff, List.filter_eq_nil_iff]
  intro taken hmem
  simpa using Nat.ne_of_lt (h taken hmem)

/-! ### What a step takes out -/

theorem takenOut_of_subset (h : ∀ entry ∈ x.pending.entries, entry ∈ y.pending.entries) :
    x.takenOut y = [] := by
  rw [takenOut, List.map_eq_nil_iff, List.filter_eq_nil_iff]
  intro entry hmem
  simpa using h entry hmem

theorem takenOut_without (hx : x.pending.Distinct) {id : Nat}
    (hentry : (id, place) ∈ x.pending.entries) (hy : y.pending.entries = x.pending.without id) :
    x.takenOut y = [place] := by
  -- The entry with the id is missing afterwards, and no other, since ids are distinct.
  have hfilter : x.pending.entries.filter (· ∉ y.pending.entries) =
      x.pending.entries.filter (· = (id, place)) := by
    refine List.filter_congr ?_
    rintro ⟨id', channel⟩ hmem
    have hiff : ¬(id', channel) ∈ y.pending.entries ↔ (id', channel) = (id, place) := by
      rw [hy, Pending.mem_without]
      constructor
      · intro h
        obtain rfl : id' = id := by simpa [hmem] using h
        rw [hx.channel_eq hentry hmem]
      · rintro heq ⟨-, hne⟩
        exact hne (Prod.mk.inj heq).1
    exact decide_eq_decide.mpr hiff
  have hcount : x.pending.entries.count (id, place) = 1 :=
    List.count_eq_one_of_mem (List.Nodup.of_map _ hx.ids) hentry
  rw [takenOut, hfilter, List.filter_eq, hcount]
  rfl

theorem takenOut_all (hy : y.pending.entries = []) :
    x.takenOut y = x.pending.entries.map (·.2) := by
  simp [takenOut, hy]

/-! ### What each kind of step keeps -/

section Keeping

variable {reply : PendingReply} {phase : WaiterPhase}

theorem getElem?_setWaiter (hwaiter : x.waiters[place]? = some waiter) (other : Waiter) (k : Nat) :
    (x.setWaiter place other).waiters[k]? = if place = k then some other else x.waiters[k]? := by
  have hlt : place < x.waiters.length := (List.getElem?_eq_some_iff.mp hwaiter).1
  simp only [setWaiter, List.getElem?_set, if_pos hlt]

/-- What holds of everyone who waits holds after one of them has come further. -/
theorem forall_setWaiter {motive : Nat → Waiter → Prop} {other : Waiter}
    (hwaiter : x.waiters[place]? = some waiter)
    (h : ∀ k found, x.waiters[k]? = some found → k ≠ place → motive k found)
    (hplace : motive place other) :
    ∀ k found, (x.setWaiter place other).waiters[k]? = some found → motive k found := by
  intro k found hfound
  rw [getElem?_setWaiter hwaiter] at hfound
  by_cases hk : place = k
  · rw [if_pos hk] at hfound
    obtain rfl := Option.some.inj hfound
    exact hk ▸ hplace
  · rw [if_neg hk] at hfound
    exact h k found hfound (Ne.symm hk)

/-- A step that only changes how far the one at a place has come. -/
theorem Sound.setWaiter (h : Sound x log) (hwaiter : x.waiters[place]? = some ⟨reply, phase⟩)
    {phase' : WaiterPhase} (hwaits : phase'.isWaiting = true → phase.isWaiting = true)
    (hfate : Fate x log place ⟨reply, phase'⟩) :
    Sound (x.setWaiter place ⟨reply, phase'⟩) log where
  distinct := h.distinct
  length_channels := by simpa [Exchange.setWaiter] using h.length_channels
  channel_eq := forall_setWaiter hwaiter (fun k found hfound _ => h.channel_eq k found hfound)
    (by exact h.channel_eq place ⟨reply, phase⟩ hwaiter)
  owned := by
    intro id k hentry
    obtain ⟨found, hfound, hid⟩ := h.owned id k hentry
    rw [getElem?_setWaiter hwaiter]
    by_cases hk : place = k
    · subst hk
      rw [hwaiter] at hfound
      obtain rfl := Option.some.inj hfound
      exact ⟨⟨reply, phase'⟩, if_pos rfl, hid⟩
    · exact ⟨found, by rw [if_neg hk, hfound], hid⟩
  alone := forall_setWaiter hwaiter (fun k found hfound _ => h.alone k found hfound)
    (fun hphase => by exact h.alone place ⟨reply, phase⟩ hwaiter (hwaits hphase))
  drained_lt := by simpa [Exchange.setWaiter] using h.drained_lt
  log_lt := by simpa [Exchange.setWaiter] using h.log_lt
  fate := forall_setWaiter hwaiter
    (fun k found hfound _ => (h.fate k found hfound).frame (fun _ => Iff.rfl) rfl Iff.rfl rfl)
    (hfate.frame (fun _ => Iff.rfl) rfl Iff.rfl rfl)

theorem setWaiter_self (hwaiter : x.waiters[place]? = some waiter) :
    x.setWaiter place waiter = x := by
  obtain ⟨hlt, rfl⟩ := List.getElem?_eq_some_iff.mp hwaiter
  rw [Exchange.setWaiter, List.set_getElem_self]

/-- The exchange when the request with an id is taken out, and its channel is changed. -/
def withdraw (x : Exchange) (id : Nat) (place : ChannelId) (change : ReplyChannel → ReplyChannel) :
    Exchange :=
  { x with pending := ⟨x.pending.without id, x.pending.channels.modify place change⟩ }

/-- A step that takes the entry of the one at a place out of the table. -/
theorem Sound.withdraw (h : Sound x log) (hwaiter : x.waiters[place]? = some ⟨reply, .waiting⟩)
    (hentry : (reply.id, place) ∈ x.pending.entries) (change : ReplyChannel → ReplyChannel)
    (action : Action) (hfate : Fate (x.withdraw reply.id place change) (log ++ [(place, action)])
      place ⟨reply, phase⟩) :
    Sound ((x.withdraw reply.id place change).setWaiter place ⟨reply, phase⟩)
      (log ++ [(place, action)]) where
  distinct := h.distinct.of_entries_subset List.filter_sublist
  length_channels := by
    simpa [Exchange.setWaiter, Exchange.withdraw] using h.length_channels
  channel_eq := forall_setWaiter hwaiter (fun k found hfound _ => h.channel_eq k found hfound)
    (by exact h.channel_eq place ⟨reply, .waiting⟩ hwaiter)
  owned := by
    intro id k hleft
    obtain ⟨hleft, hne⟩ := Pending.mem_without.mp hleft
    -- Somebody else owns what is left.
    obtain ⟨found, hfound, hid⟩ := h.owned id k hleft
    have hk : place ≠ k := by
      rintro rfl
      exact hne (h.distinct.id_eq hentry hleft)
    refine ⟨found, ?_, hid⟩
    rw [getElem?_setWaiter (x := x.withdraw reply.id place change) hwaiter, if_neg hk]
    exact hfound
  alone := by
    refine forall_setWaiter hwaiter ?_ ?_
    · intro k found hfound _ hphase other hleft
      exact h.alone k found hfound hphase other (Pending.mem_without.mp hleft).1
    · intro _ other hleft
      exact absurd rfl (Pending.mem_without.mp hleft).2
  drained_lt := by simpa [Exchange.setWaiter, Exchange.withdraw] using h.drained_lt
  log_lt := by
    intro taken hmem
    have hlt : taken.1 < x.waiters.length := by
      rcases List.mem_append.mp hmem with hmem | hmem
      · exact h.log_lt taken hmem
      · rw [List.mem_singleton.mp hmem]
        exact (List.getElem?_eq_some_iff.mp hwaiter).1
    simpa [Exchange.setWaiter, Exchange.withdraw] using hlt
  fate := by
    refine forall_setWaiter hwaiter ?_ (hfate.frame (fun _ => Iff.rfl) rfl Iff.rfl rfl)
    -- For everyone else neither entry nor channel nor log changes.
    intro k found hfound hk
    refine (h.fate k found hfound).frame ?_ ?_ Iff.rfl ?_
    · intro id
      rw [Exchange.setWaiter, Exchange.withdraw, Pending.mem_without, and_iff_left_iff_imp]
      rintro hleft rfl
      exact hk (h.distinct.channel_eq hentry hleft)
    · simp [Exchange.setWaiter, Exchange.withdraw, Ne.symm hk]
    · rw [takers_append, takers_singleton, if_neg (Ne.symm hk), List.append_nil]

/-- An entry that is in the table has an empty channel, and is not in the log. -/
theorem Sound.fate_of_entry (h : Sound x log) {id : Nat}
    (hentry : (id, place) ∈ x.pending.entries) :
    ∃ reply, reply.id = id ∧ x.waiters[place]? = some ⟨reply, .waiting⟩ ∧
      x.pending.channels[place]? = some .empty ∧ place ∉ x.drained ∧ takers log place = [] := by
  obtain ⟨waiter, hwaiter, hid⟩ := h.owned id place hentry
  cases h.fate place waiter hwaiter with
  | registered reply entry channel held taken => exact ⟨reply, hid, hwaiter, channel, held, taken⟩
  | resolved reply outcome phase entry => exact absurd hentry (entry id)
  | drained reply phase entry => exact absurd hentry (entry id)
  | expired reply entry => exact absurd hentry (entry id)
  | abandoned reply entry => exact absurd hentry (entry id)

theorem Sound.notMem_withdraw (h : Sound x log) (hentry : (reply.id, place) ∈ x.pending.entries)
    (change : ReplyChannel → ReplyChannel) (id : Nat) :
    (id, place) ∉ (x.withdraw reply.id place change).pending.entries := by
  intro hleft
  obtain ⟨hleft, hne⟩ := Pending.mem_without.mp hleft
  exact hne (h.distinct.id_eq hentry hleft)

/-- The step that takes an entry out is the only one in the log that has. -/
theorem Sound.takers_withdraw (h : Sound x log) {id : Nat}
    (hentry : (id, place) ∈ x.pending.entries) (action : Action) :
    takers (log ++ [(place, action)]) place = [action] := by
  obtain ⟨-, -, -, -, -, htaken⟩ := h.fate_of_entry hentry
  rw [takers_append, htaken, takers_singleton, if_pos rfl, List.nil_append]

/-! ### Each step -/

/-- The log after a step. -/
def logAfter (x : Exchange) (log : Log) (action : Action) : Log :=
  log ++ (x.takenOut (x.act action)).map (·, action)

theorem logAfter_of_subset {action : Action}
    (h : ∀ entry ∈ x.pending.entries, entry ∈ (x.act action).pending.entries) :
    x.logAfter log action = log := by
  rw [logAfter, takenOut_of_subset h, List.map_nil, List.append_nil]

theorem logAfter_of_without (h : Sound x log) {action : Action} {id : Nat}
    (hentry : (id, place) ∈ x.pending.entries)
    (hact : (x.act action).pending.entries = x.pending.without id) :
    x.logAfter log action = log ++ [(place, action)] := by
  rw [logAfter, takenOut_without h.distinct hentry hact, List.map_singleton]

theorem Sound.of_act_eq (h : Sound x log) {action : Action} (hact : x.act action = x) :
    Sound (x.act action) (x.logAfter log action) := by
  rw [logAfter_of_subset (by rw [hact]; exact fun _ h => h), hact]
  exact h

/-- Nothing happens at a place where nobody waits. -/
theorem act_of_not_waiting (h : ∀ reply, x.waiters[place]? ≠ some ⟨reply, .waiting⟩)
    {action : Action} (haction : action = .poll place ∨ action = .expire place ∨
      action = .abandon place) : x.act action = x := by
  rcases haction with rfl | rfl | rfl
  all_goals simp only [act]

theorem Sound.resolve (h : Sound x log) (id : Nat) (outcome : ResponseOutcome) :
    Sound (x.act (.resolve id outcome)) (x.logAfter log (.resolve id outcome)) := by
  by_cases hin : ∃ channel, (id, channel) ∈ x.pending.entries
  · obtain ⟨place, hentry⟩ := hin
    obtain ⟨reply, rfl, hwaiter, hchannel, -, -⟩ := h.fate_of_entry hentry
    have hact : x.act (.resolve reply.id outcome) =
        x.withdraw reply.id place (·.send outcome) := by
      rw [act, Pending.resolve_of_mem h.distinct hentry]
      rfl
    rw [logAfter_of_without h hentry (by rw [hact]; rfl), hact]
    have hfate : Fate (x.withdraw reply.id place (·.send outcome))
        (log ++ [(place, .resolve reply.id outcome)]) place ⟨reply, .waiting⟩ := by
      refine .resolved reply outcome .waiting (h.notMem_withdraw hentry _) ?_
        (h.takers_withdraw hentry _) .waiting
      simp [Exchange.withdraw, hchannel, ReplyChannel.send]
    have hsound := h.withdraw hwaiter hentry (·.send outcome) _ hfate
    rwa [setWaiter_self (x := x.withdraw reply.id place _) hwaiter] at hsound
  · refine h.of_act_eq ?_
    rw [act, Pending.resolve_of_notMem (not_exists.mp hin)]

theorem Sound.logAfter_lt (h : Sound x log) (action : Action) :
    ∀ taken ∈ x.logAfter log action, taken.1 < x.waiters.length := by
  intro taken hmem
  rcases List.mem_append.mp hmem with hmem | hmem
  · exact h.log_lt taken hmem
  · obtain ⟨channel, hchannel, rfl⟩ := List.mem_map.mp hmem
    obtain ⟨entry, hentry, rfl⟩ := List.mem_map.mp hchannel
    obtain ⟨waiter, hwaiter, -⟩ := h.owned entry.1 entry.2 (List.mem_of_mem_filter hentry)
    exact (List.getElem?_eq_some_iff.mp hwaiter).1

theorem Sound.drain (h : Sound x log) : Sound (x.act .drain) (x.logAfter log .drain) where
  distinct := ⟨List.nodup_nil, List.nodup_nil⟩
  length_channels := h.length_channels
  channel_eq := h.channel_eq
  owned := fun _ _ hentry => absurd hentry List.not_mem_nil
  alone := fun _ _ _ _ _ hentry => absurd hentry List.not_mem_nil
  drained_lt := by
    intro channel hmem
    rcases List.mem_append.mp hmem with hmem | hmem
    · exact h.drained_lt channel hmem
    · obtain ⟨entry, hentry, rfl⟩ := List.mem_map.mp hmem
      obtain ⟨waiter, hwaiter, -⟩ := h.owned entry.1 entry.2 hentry
      exact (List.getElem?_eq_some_iff.mp hwaiter).1
  log_lt := h.logAfter_lt .drain
  fate := by
    intro place waiter hwaiter
    have hlog : takers (x.logAfter log .drain) place =
        takers log place ++ List.replicate ((x.pending.entries.map (·.2)).count place) .drain := by
      rw [logAfter, takenOut_all rfl, takers_append, takers_map]
    by_cases hin : place ∈ x.pending.entries.map (·.2)
    · -- The entry is one of those that are drained.
      obtain ⟨⟨id, place⟩, hentry, rfl⟩ := List.mem_map.mp hin
      obtain ⟨reply, rfl, hfound, hchannel, -, htaken⟩ := h.fate_of_entry hentry
      obtain rfl : waiter = ⟨reply, .waiting⟩ := Option.some.inj (hwaiter.symm.trans hfound)
      refine .drained reply .waiting (fun _ => List.not_mem_nil) (.inl ⟨hchannel, ?_⟩) ?_ .waiting
      · exact List.mem_append_right _ hin
      · rw [hlog, htaken, List.count_eq_one_of_mem h.distinct.channels hin]
        rfl
    · -- The entry was taken out before.
      have hnone : ∀ id, (id, place) ∉ x.pending.entries := fun id hentry =>
        hin (List.mem_map.mpr ⟨(id, place), hentry, rfl⟩)
      refine (h.fate place waiter hwaiter).frame ?_ rfl ?_ ?_
      · exact fun id => iff_of_false List.not_mem_nil (hnone id)
      · exact ⟨fun hmem => (List.mem_append.mp hmem).resolve_right hin, List.mem_append_left _⟩
      · rw [hlog, List.count_eq_zero_of_not_mem hin, List.replicate_zero, List.append_nil]

theorem Sound.dropSender (h : Sound x log) (channel : ChannelId) :
    Sound (x.act (.dropSender channel)) (x.logAfter log (.dropSender channel)) := by
  by_cases hin : channel ∈ x.drained
  · have hact : x.act (.dropSender channel) =
        { x with pending := x.pending.dropSender channel, drained := x.drained.erase channel } :=
      if_pos hin
    rw [logAfter_of_subset (by rw [hact]; exact fun _ h => h), hact]
    exact {
      distinct := h.distinct.of_entries_subset (List.Sublist.refl _)
      length_channels := by simpa [Pending.dropSender] using h.length_channels
      channel_eq := h.channel_eq
      owned := h.owned
      alone := h.alone
      drained_lt := fun other hmem => h.drained_lt other (List.mem_of_mem_erase hmem)
      log_lt := h.log_lt
      fate := by
        intro place waiter hwaiter
        by_cases hplace : channel = place
        · -- Only an empty channel changes, and the sender of an entry in the table is not drained.
          subst hplace
          cases h.fate channel waiter hwaiter with
          | registered reply entry empty held => exact absurd hin held
          | resolved reply outcome phase entry filled taken leads =>
            refine .resolved reply outcome phase entry ?_ taken leads
            simp [Pending.dropSender, filled, ReplyChannel.dropSender]
          | drained reply phase entry ended taken leads =>
            refine .drained reply phase entry (.inr ?_) taken leads
            rcases ended with ⟨empty, -⟩ | broken
            · simp [Pending.dropSender, empty, ReplyChannel.dropSender]
            · simp [Pending.dropSender, broken, ReplyChannel.dropSender]
          | expired reply entry taken => exact .expired reply entry taken
          | abandoned reply entry taken => exact .abandoned reply entry taken
        · refine (h.fate place waiter hwaiter).frame (fun _ => Iff.rfl) ?_ ?_ rfl
          · simp [Pending.dropSender, hplace]
          · exact List.mem_erase_of_ne (Ne.symm hplace) }
  · exact h.of_act_eq (if_neg hin)

/-- What holds of everyone who waits holds after one more has come. -/
theorem forall_concat {motive : Nat → Waiter → Prop} {waiters : List Waiter} {last : Waiter}
    (h : ∀ k found, waiters[k]? = some found → motive k found)
    (hlast : motive waiters.length last) :
    ∀ k found, (waiters ++ [last])[k]? = some found → motive k found := by
  intro k found hfound
  rw [List.getElem?_append] at hfound
  by_cases hk : k < waiters.length
  · rw [if_pos hk] at hfound
    exact h k found hfound
  · rw [if_neg hk, List.getElem?_singleton] at hfound
    by_cases hzero : k - waiters.length = 0
    · rw [if_pos hzero] at hfound
      obtain rfl := Option.some.inj hfound
      obtain rfl : k = waiters.length := by omega
      exact hlast
    · rw [if_neg hzero] at hfound
      cases hfound

theorem inUse_eq_false {id : Nat} (h : x.inUse id = false) :
    (∀ channel, (id, channel) ∉ x.pending.entries) ∧
      ∀ (k : Nat) (waiter : Waiter), x.waiters[k]? = some waiter →
        waiter.phase.isWaiting = true → waiter.reply.id ≠ id := by
  rw [inUse, Bool.or_eq_false_iff, List.any_eq_false, List.any_eq_false] at h
  obtain ⟨hentries, hwaiters⟩ := h
  constructor
  · intro channel hentry
    exact hentries _ hentry (beq_self_eq_true id)
  · rintro k waiter hwaiter hphase rfl
    exact hwaiters waiter (List.mem_of_getElem? hwaiter) (by simp [hphase])

theorem Sound.register (h : Sound x log) (now : Instant) (id : Nat) (method : String)
    (timeout : Duration) :
    Sound (x.act (.register now id method timeout))
      (x.logAfter log (.register now id method timeout)) := by
  cases hin : x.inUse id with
  | true => exact h.of_act_eq (if_pos hin)
  | false =>
    obtain ⟨hfree, hother⟩ := inUse_eq_false hin
    have hact : x.act (.register now id method timeout) =
        { x with
          pending := ⟨x.pending.entries ++ [(id, x.pending.channels.length)],
            x.pending.channels ++ [.empty]⟩
          waiters := x.waiters ++
            [⟨⟨id, x.pending.channels.length, method, timeout, now + timeout⟩, .waiting⟩] } := by
      simp only [act, hin, Pending.register_of_notMem now method timeout hfree]
      rfl
    have hbound : ∀ entry ∈ x.pending.entries, entry.2 < x.pending.channels.length := by
      intro entry hentry
      obtain ⟨waiter, hwaiter, -⟩ := h.owned entry.1 entry.2 hentry
      rw [h.length_channels]
      exact (List.getElem?_eq_some_iff.mp hwaiter).1
    -- The new channel is the place of the one who has come, and of nobody before.
    have hmem (id' : Nat) (k : ChannelId) (hk : k < x.waiters.length) :
        (id', k) ∈ x.pending.entries ++ [(id, x.pending.channels.length)] ↔
          (id', k) ∈ x.pending.entries := by
      rw [h.length_channels]
      simp [Nat.ne_of_lt hk]
    rw [logAfter_of_subset (by rw [hact]; exact fun _ h => List.mem_append_left _ h), hact]
    exact {
      distinct := h.distinct.register hfree hbound _
      length_channels := by simp [h.length_channels]
      channel_eq := forall_concat h.channel_eq h.length_channels
      owned := by
        intro id' k hentry
        rcases List.mem_append.mp hentry with hentry | hentry
        · obtain ⟨waiter, hwaiter, hid⟩ := h.owned id' k hentry
          have hlt : k < x.waiters.length := (List.getElem?_eq_some_iff.mp hwaiter).1
          exact ⟨waiter, by rw [List.getElem?_append_left hlt, hwaiter], hid⟩
        · obtain ⟨rfl, rfl⟩ := Prod.mk.inj (List.mem_singleton.mp hentry)
          exact ⟨_, by rw [h.length_channels, List.getElem?_concat_length], rfl⟩
      alone := by
        refine forall_concat ?_ ?_
        · intro k waiter hwaiter hphase other hentry
          rcases List.mem_append.mp hentry with hentry | hentry
          · exact h.alone k waiter hwaiter hphase other hentry
          · exact absurd (Prod.mk.inj (List.mem_singleton.mp hentry)).1
              (hother k waiter hwaiter hphase)
        · intro _ other hentry
          rcases List.mem_append.mp hentry with hentry | hentry
          · exact absurd hentry (hfree other)
          · exact (Prod.mk.inj (List.mem_singleton.mp hentry)).2.trans h.length_channels
      drained_lt := by
        intro channel hheld
        rw [List.length_append]
        exact Nat.lt_add_right _ (h.drained_lt channel hheld)
      log_lt := by
        intro taken htaken
        rw [List.length_append]
        exact Nat.lt_add_right _ (h.log_lt taken htaken)
      fate := by
        refine forall_concat ?_ ?_
        · intro k waiter hwaiter
          have hlt : k < x.waiters.length := (List.getElem?_eq_some_iff.mp hwaiter).1
          refine (h.fate k waiter hwaiter).frame (fun id' => hmem id' k hlt) ?_ Iff.rfl rfl
          rw [List.getElem?_append_left (by rw [h.length_channels]; exact hlt)]
        · refine .registered _ ?_ ?_ ?_ (takers_of_lt h.log_lt)
          · simp [h.length_channels]
          · rw [← h.length_channels, List.getElem?_concat_length]
          · exact fun hheld => Nat.lt_irrefl _ (h.drained_lt _ hheld) }

theorem Sound.poll (h : Sound x log) (place : Nat) :
    Sound (x.act (.poll place)) (x.logAfter log (.poll place)) := by
  by_cases hw : ∃ reply, x.waiters[place]? = some ⟨reply, .waiting⟩
  · obtain ⟨reply, hw⟩ := hw
    have hchannel : reply.channel = place := h.channel_eq place _ hw
    cases hpoll : reply.poll? x.pending with
    | none => exact h.of_act_eq (by simp only [act, hw, hpoll])
    | some result =>
      have hact : x.act (.poll place) = x.setWaiter place ⟨reply, .finished result⟩ := by
        simp only [act, hw, hpoll]
      rw [logAfter_of_subset (by rw [hact]; exact fun _ h => h), hact]
      refine h.setWaiter hw (by simp [WaiterPhase.isWaiting]) ?_
      rw [PendingReply.poll?, hchannel] at hpoll
      -- As long as the entry is in the table, nothing is in the channel.
      cases h.fate place _ hw with
      | registered _ entry channel =>
        rw [channel] at hpoll
        cases hpoll
      | resolved _ outcome _ entry channel taken =>
        rw [channel] at hpoll
        obtain rfl := Option.some.inj hpoll
        exact .resolved reply outcome _ entry channel taken .finished
      | drained _ _ entry channel taken =>
        rcases channel with ⟨channel, hheld⟩ | channel
        · rw [channel] at hpoll
          cases hpoll
        · rw [channel] at hpoll
          obtain rfl := Option.some.inj hpoll
          exact .drained reply _ entry (.inr channel) taken .finished
  · exact h.of_act_eq (act_of_not_waiting (not_exists.mp hw) (.inl rfl))

theorem Sound.look (h : Sound x log) (place : Nat) :
    Sound (x.act (.look place)) (x.logAfter log (.look place)) := by
  by_cases hw : ∃ reply, x.waiters[place]? = some ⟨reply, .late⟩
  · obtain ⟨reply, hw⟩ := hw
    have hchannel : reply.channel = place := h.channel_eq place _ hw
    have hact : x.act (.look place) =
        x.setWaiter place ⟨reply, .finished (reply.lastLook x.pending)⟩ := by
      simp only [act, hw]
    rw [logAfter_of_subset (by rw [hact]; exact fun _ h => h), hact]
    refine h.setWaiter hw (by simp [WaiterPhase.isWaiting]) ?_
    rw [PendingReply.lastLook, hchannel]
    cases h.fate place _ hw with
    | resolved _ outcome _ entry channel taken =>
      rw [channel]
      exact .resolved reply outcome _ entry channel taken .finished
    | drained _ _ entry channel taken =>
      refine .drained reply _ entry channel taken ?_
      rcases channel with ⟨channel, -⟩ | channel
      · rw [channel]
        exact .finished
      · rw [channel]
        exact .finished
  · refine h.of_act_eq ?_
    simp only [act]
    split
    next reply hw' => exact absurd ⟨reply, hw'⟩ hw
    next => rfl

/-- One who waits and finds his entry gone may go on to look, or give up. -/
theorem Sound.fate_of_gone (h : Sound x log) (hw : x.waiters[place]? = some ⟨reply, .waiting⟩)
    (hgone : ∀ channel, (reply.id, channel) ∉ x.pending.entries)
    (hphase : ∀ result, LeadsTo result phase) : Fate x log place ⟨reply, phase⟩ := by
  cases h.fate place _ hw with
  | registered _ entry => exact absurd entry (hgone place)
  | resolved _ outcome _ entry channel taken =>
    exact .resolved reply outcome phase entry channel taken (hphase _)
  | drained _ _ entry channel taken => exact .drained reply phase entry channel taken (hphase _)

/-- A step in which one who waits takes his entry out, if it is still there. -/
theorem Sound.remove (h : Sound x log) (hw : x.waiters[place]? = some ⟨reply, .waiting⟩)
    {action : Action} {removed missing : WaiterPhase}
    (hact : x.act action =
      { x with pending := (x.pending.remove reply.id).1 }.setWaiter place
        ⟨reply, if (x.pending.remove reply.id).2 then removed else missing⟩)
    (hremoved : ∀ y log', (∀ id, (id, place) ∉ y.pending.entries) → takers log' place = [action] →
      Fate y log' place ⟨reply, removed⟩)
    (hmissing : ∀ result, LeadsTo result missing) :
    Sound (x.act action) (x.logAfter log action) := by
  by_cases hin : ∃ channel, (reply.id, channel) ∈ x.pending.entries
  · obtain ⟨channel, hentry⟩ := hin
    -- The id stands for no other request, so the entry is the own one.
    obtain rfl := h.alone place _ hw rfl channel hentry
    have hact' : x.act action =
        (x.withdraw reply.id channel ReplyChannel.dropSender).setWaiter channel
          ⟨reply, removed⟩ := by
      rw [hact, Pending.remove_of_mem h.distinct hentry]
      rfl
    rw [logAfter_of_without h hentry (by rw [hact']; rfl), hact']
    exact h.withdraw hw hentry _ _
      (hremoved _ _ (h.notMem_withdraw hentry _) (h.takers_withdraw hentry _))
  · have hnone := not_exists.mp hin
    have hact' : x.act action = x.setWaiter place ⟨reply, missing⟩ := by
      rw [hact, Pending.remove_of_notMem hnone]
      rfl
    rw [logAfter_of_subset (by rw [hact']; exact fun _ h => h), hact']
    exact h.setWaiter hw (fun _ => rfl) (h.fate_of_gone hw hnone hmissing)

theorem Sound.expire (h : Sound x log) (place : Nat) :
    Sound (x.act (.expire place)) (x.logAfter log (.expire place)) := by
  by_cases hw : ∃ reply, x.waiters[place]? = some ⟨reply, .waiting⟩
  · obtain ⟨reply, hw⟩ := hw
    refine h.remove hw ?_ (fun _ _ => .expired reply) fun _ => .late
    simp only [act, hw, PendingReply.expire]
    rcases x.pending.remove reply.id with ⟨pending, _ | _⟩ <;> rfl
  · exact h.of_act_eq (act_of_not_waiting (not_exists.mp hw) (.inr (.inl rfl)))

theorem Sound.abandon (h : Sound x log) (place : Nat) :
    Sound (x.act (.abandon place)) (x.logAfter log (.abandon place)) := by
  by_cases hw : ∃ reply, x.waiters[place]? = some ⟨reply, .waiting⟩
  · obtain ⟨reply, hw⟩ := hw
    refine h.remove hw ?_ (fun _ _ => .abandoned reply) fun _ => .gone
    simp only [act, hw, PendingReply.abandon, ite_self]
  · exact h.of_act_eq (act_of_not_waiting (not_exists.mp hw) (.inr (.inr rfl)))

end Keeping

theorem Sound.act (h : Sound x log) (action : Action) :
    Sound (x.act action) (x.logAfter log action) := by
  cases action with
  | register now id method timeout => exact h.register now id method timeout
  | resolve id reply => exact h.resolve id reply
  | drain => exact h.drain
  | dropSender channel => exact h.dropSender channel
  | poll place => exact h.poll place
  | expire place => exact h.expire place
  | look place => exact h.look place
  | abandon place => exact h.abandon place

theorem Sound.start : Sound {} [] where
  distinct := ⟨List.nodup_nil, List.nodup_nil⟩
  length_channels := rfl
  channel_eq := by simp
  owned := by simp
  alone := by simp
  drained_lt := by simp
  log_lt := by simp
  fate := by simp

/-- Everything that was said holds after any number of steps. -/
theorem sound_run (actions : List Action) : Sound (run actions).1 (run actions).2 := by
  have hfold (from' : Exchange × Log) (h : Sound from'.1 from'.2) :
      Sound (actions.foldl advance from').1 (actions.foldl advance from').2 := by
    induction actions generalizing from' with
    | nil => exact h
    | cons action rest ih => exact ih _ (h.act action)
  exact hfold ({}, []) .start

/-! ### What one who waits is told -/

/-- What is promised to the one at a place. -/
structure OneOutcome (x : Exchange) (log : Log) (place : Nat) (waiter : Waiter) : Prop where
  /-- The entry was taken out once, or is still in the table. -/
  taken_once : (takers log place).length =
    if (waiter.reply.id, place) ∈ x.pending.entries then 0 else 1
  /-- No entry is left of one who has finished or given up. -/
  waiting_of_entry : (waiter.reply.id, place) ∈ x.pending.entries → waiter.phase = .waiting
  /-- The result is a reply exactly if a reply took the entry out. -/
  reply_iff : ∀ result, waiter.phase = .finished result →
    ((∃ outcome, result = PendingReply.resultOf outcome) ↔
      ∃ outcome, .resolve waiter.reply.id outcome ∈ takers log place)
  /-- It is then that reply. -/
  reply_eq : ∀ result, waiter.phase = .finished result →
    ∀ outcome, .resolve waiter.reply.id outcome ∈ takers log place →
      result = PendingReply.resultOf outcome
  /-- The result is that time is over exactly if the deadline took the entry out. -/
  timeout_iff : ∀ result, waiter.phase = .finished result →
    (result = .error (.requestTimeout waiter.reply.method waiter.reply.timeout) ↔
      .expire place ∈ takers log place)
  /-- The result is that the server is gone exactly if the entry was drained. -/
  exit_iff : ∀ result, waiter.phase = .finished result →
    (result = .error .processExit ↔ .drain ∈ takers log place)
  /-- A reply that took the entry out is found with the next look. -/
  finds_reply : ∀ outcome, .resolve waiter.reply.id outcome ∈ takers log place →
    (waiter.phase = .waiting →
      waiter.reply.poll? x.pending = some (PendingReply.resultOf outcome)) ∧
    (waiter.phase = .late → waiter.reply.lastLook x.pending = PendingReply.resultOf outcome)
  /-- The end of the server is found with the next look, or as soon as the sender has ended. -/
  finds_exit : .drain ∈ takers log place →
    (waiter.phase = .waiting → place ∉ x.drained →
      waiter.reply.poll? x.pending = some (.error .processExit)) ∧
    (waiter.phase = .late → waiter.reply.lastLook x.pending = .error .processExit)
  /-- The deadline takes out an entry that is still in the table. -/
  finds_timeout : (waiter.reply.id, place) ∈ x.pending.entries →
    (waiter.reply.expire x.pending).2 =
      some (.error (.requestTimeout waiter.reply.method waiter.reply.timeout))

theorem resultOf_ne_requestTimeout (outcome : ResponseOutcome) (method : String)
    (timeout : Duration) :
    PendingReply.resultOf outcome ≠ .error (.requestTimeout method timeout) := by
  cases outcome <;> simp [PendingReply.resultOf]

theorem resultOf_ne_processExit (outcome : ResponseOutcome) :
    PendingReply.resultOf outcome ≠ .error .processExit := by
  cases outcome <;> simp [PendingReply.resultOf]

theorem LeadsTo.eq_of_finished {result other : Except SessionError Json} {phase : WaiterPhase}
    (h : LeadsTo result phase) (hphase : phase = .finished other) : other = result := by
  subst hphase
  cases h
  rfl

theorem Sound.oneOutcome (h : Sound x log) (hwaiter : x.waiters[place]? = some waiter) :
    OneOutcome x log place waiter := by
  have hchannel : waiter.reply.channel = place := h.channel_eq place waiter hwaiter
  cases h.fate place waiter hwaiter with
  | registered reply entry channel held taken =>
    exact {
      taken_once := by rw [taken, if_pos entry, List.length_nil]
      waiting_of_entry := fun _ => rfl
      reply_iff := fun _ hphase => nomatch hphase
      reply_eq := fun _ hphase => nomatch hphase
      timeout_iff := fun _ hphase => nomatch hphase
      exit_iff := fun _ hphase => nomatch hphase
      finds_reply := fun _ htaken => by simp [taken] at htaken
      finds_exit := fun htaken => by simp [taken] at htaken
      finds_timeout := fun _ => by
        rw [PendingReply.expire, Pending.remove_of_mem h.distinct entry] }
  | resolved reply outcome phase entry channel taken leads =>
    exact {
      taken_once := by rw [taken, if_neg (entry _), List.length_singleton]
      waiting_of_entry := fun hentry => absurd hentry (entry _)
      reply_iff := by
        intro result hphase
        refine ⟨fun _ => ⟨outcome, by simp [taken]⟩, fun _ => ⟨outcome, ?_⟩⟩
        exact leads.eq_of_finished hphase
      reply_eq := by
        intro result hphase other htaken
        rw [taken, List.mem_singleton] at htaken
        rw [(Action.resolve.inj htaken).2]
        exact leads.eq_of_finished hphase
      timeout_iff := by
        intro result hphase
        rw [leads.eq_of_finished hphase]
        exact iff_of_false (resultOf_ne_requestTimeout _ _ _) (by simp [taken])
      exit_iff := by
        intro result hphase
        rw [leads.eq_of_finished hphase]
        exact iff_of_false (resultOf_ne_processExit _) (by simp [taken])
      finds_reply := by
        intro other htaken
        rw [taken, List.mem_singleton] at htaken
        obtain rfl := (Action.resolve.inj htaken).2
        rw [PendingReply.poll?, PendingReply.lastLook, hchannel, channel]
        exact ⟨fun _ => rfl, fun _ => rfl⟩
      finds_exit := fun htaken => by simp [taken] at htaken
      finds_timeout := fun hentry => absurd hentry (entry _) }
  | drained reply phase entry channel taken leads =>
    exact {
      taken_once := by rw [taken, if_neg (entry _), List.length_singleton]
      waiting_of_entry := fun hentry => absurd hentry (entry _)
      reply_iff := by
        intro result hphase
        rw [leads.eq_of_finished hphase]
        refine iff_of_false ?_ (by simp [taken])
        rintro ⟨outcome, heq⟩
        exact resultOf_ne_processExit outcome heq.symm
      reply_eq := fun _ _ _ htaken => by simp [taken] at htaken
      timeout_iff := by
        intro result hphase
        rw [leads.eq_of_finished hphase]
        exact iff_of_false (by simp) (by simp [taken])
      exit_iff := by
        intro result hphase
        exact iff_of_true (leads.eq_of_finished hphase) (by simp [taken])
      finds_reply := fun _ htaken => by simp [taken] at htaken
      finds_exit := by
        intro _
        rw [PendingReply.poll?, PendingReply.lastLook, hchannel]
        rcases channel with ⟨channel, hheld⟩ | channel
        · rw [channel]
          exact ⟨fun _ hended => absurd hheld hended, fun _ => rfl⟩
        · rw [channel]
          exact ⟨fun _ _ => rfl, fun _ => rfl⟩
      finds_timeout := fun hentry => absurd hentry (entry _) }
  | expired reply entry taken =>
    exact {
      taken_once := by rw [taken, if_neg (entry _), List.length_singleton]
      waiting_of_entry := fun hentry => absurd hentry (entry _)
      reply_iff := by
        rintro result ⟨⟩
        refine iff_of_false ?_ (by simp [taken])
        rintro ⟨outcome, heq⟩
        exact resultOf_ne_requestTimeout outcome _ _ heq.symm
      reply_eq := fun _ _ _ htaken => by simp [taken] at htaken
      timeout_iff := by
        rintro result ⟨⟩
        exact iff_of_true rfl (by simp [taken])
      exit_iff := by
        rintro result ⟨⟩
        exact iff_of_false (by simp) (by simp [taken])
      finds_reply := fun _ htaken => by simp [taken] at htaken
      finds_exit := fun htaken => by simp [taken] at htaken
      finds_timeout := fun hentry => absurd hentry (entry _) }
  | abandoned reply entry taken =>
    exact {
      taken_once := by rw [taken, if_neg (entry _), List.length_singleton]
      waiting_of_entry := fun hentry => absurd hentry (entry _)
      reply_iff := fun _ hphase => nomatch hphase
      reply_eq := fun _ hphase => nomatch hphase
      timeout_iff := fun _ hphase => nomatch hphase
      exit_iff := fun _ hphase => nomatch hphase
      finds_reply := fun _ htaken => by simp [taken] at htaken
      finds_exit := fun htaken => by simp [taken] at htaken
      finds_timeout := fun hentry => absurd hentry (entry _) }

/-- Whether a response is delivered is whether it is the step that takes its entry out. -/
theorem Sound.resolve_iff (h : Sound x log) (id : Nat) (outcome : ResponseOutcome) :
    (x.pending.resolve id outcome).2 = true ↔
      ∃ place, x.takenOut (x.act (.resolve id outcome)) = [place] := by
  by_cases hin : ∃ channel, (id, channel) ∈ x.pending.entries
  · obtain ⟨place, hentry⟩ := hin
    have hresolve := Pending.resolve_of_mem h.distinct hentry outcome
    refine iff_of_true (by rw [hresolve]) ⟨place, takenOut_without h.distinct hentry ?_⟩
    rw [Exchange.act, hresolve]
  · have hresolve := Pending.resolve_of_notMem (not_exists.mp hin) outcome
    refine iff_of_false (by simp [hresolve]) ?_
    rw [Exchange.act, hresolve, takenOut_of_subset fun _ h => h]
    simp

/-- A response that takes its entry out before the deadline does is found at the last look. -/
example :
    (run [.register 0 7 "m" 5, .resolve 7 (.ok .null), .expire 0, .look 0]).1.waiters =
      [⟨⟨7, 0, "m", 5, 5⟩, .finished (.ok .null)⟩] := rfl

end Exchange
end SymbolSearch
