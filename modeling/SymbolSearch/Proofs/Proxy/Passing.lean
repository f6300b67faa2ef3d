import SymbolSearch.Proofs.Proxy.Concerns
import SymbolSearch.Proofs.Proxy.Tables

/-!
# Passes that nobody disturbs

A pass over the sessions of a proxy goes on while the servers do what they like and others ask
questions, but nobody else uses the cache.

* `CheckPoint.Stands` — where a pass stands that has looked at the sessions of some ecosystems, and
  `CheckPoint.stepsLeft` — how many steps it may still make.
* `CheckPoint.advances_step` — a step of such a pass changes nothing but one of the sessions that it
  has chosen, and has fewer steps left, or records the health of one ecosystem.
* `ProxyCourse.IsAlone` and `ProxyEvent.LeavesAlone` — nobody else uses the cache;
  `ProxyCourse.IsAlone.proceeds` says what an event is to the pass then.
* `ProxyCourse.Underway` — what holds while the pass goes on, and after it; `Underway.next` shows
  that every event keeps it.
-/

namespace SymbolSearch

variable {start proxy : Proxy} {chosen done rest : List Ecosystem}
  {cachedOf : Ecosystem → Cached} {e : Ecosystem} {cache cache' : Cache} {now : Instant}
  {wall : Nat} {files : Option Tree}

/-! ### Steps of a pass -/

/-- What belongs to the chosen ecosystems, with all adapters. -/
def chosenBelongings (chosen : List Ecosystem) (cachedOf : Ecosystem → Cached) : Belongings where
  key := fun key => ∃ e ∈ chosen, key = (cachedOf e).key
  slot := fun id => ∃ e ∈ chosen, id = (cachedOf e).slot
  adapter := fun _ => True

namespace CheckPoint

/-- How many steps a pass may make for one session. -/
def stepsEach (cache : Cache) : Nat := 30 * ReconnectPoint.attempts cache + 21

/-- How many steps a pass may still make that has chosen its sessions. -/
def stepsLeft (now : Instant) (cache : Cache) : CheckPoint → Nat
  | .starting => 0
  | .passing rest _ => rest.length * stepsEach cache + 1
  | .ensuring _ reconnect rest _ =>
    rest.length * stepsEach cache + reconnect.stepsLeft now cache + 6
  | .probing _ _ query _ rest _ => rest.length * stepsEach cache + query.stepsLeft + 1

/-- Where a pass stands that has looked at the sessions of some ecosystems. -/
inductive Stands (chosen : List Ecosystem) (cachedOf : Ecosystem → Cached) (cache : Cache)
    (done : List Ecosystem) : CheckPoint → Prop where
  | passes (rest : List Ecosystem) (split : chosen = done ++ rest)
      (kept : ∀ e ∈ rest, (cachedOf e).IsIn cache) :
      Stands chosen cachedOf cache done (.passing rest done.length)
  | ensures (e : Ecosystem) (reconnect : ReconnectPoint) (rest : List Ecosystem)
      (split : chosen = done ++ e :: rest) (heads : reconnect.Heads (cachedOf e) cache)
      (kept : ∀ e ∈ rest, (cachedOf e).IsIn cache) :
      Stands chosen cachedOf cache done (.ensuring e reconnect rest done.length)
  | probes (e : Ecosystem) (query : QueryPoint) (deadline : Instant) (rest : List Ecosystem)
      (split : chosen = done ++ e :: rest) (asks : query.query = .workspaceSymbols "")
      (kept : ∀ e' ∈ e :: rest, (cachedOf e').IsIn cache) :
      Stands chosen cachedOf cache done
        (.probing e (cachedOf e).adapter query deadline rest done.length)

/-- Whether a pass has to wait where it is. -/
def IsStuck (now : Instant) (files : Option Tree) (proxy : Proxy) : CheckPoint → Prop
  | .ensuring _ reconnect _ _ => reconnect.IsStuck now files proxy.cache
  | .probing _ a query deadline _ _ =>
    (proxy.cache.stepSession a (query.step now)).2 = .blocked ∧ now < deadline
  | .starting | .passing _ _ => False

/-- What a step of a pass comes to that nobody disturbs. -/
inductive Advances (now : Instant) (files : Option Tree) (chosen : List Ecosystem)
    (cachedOf : Ecosystem → Cached) (done : List Ecosystem) (proxy : Proxy) (point : CheckPoint) :
    Checked → Prop where
  | waits (after : Proxy) (stuck : point.IsStuck now files proxy) :
      Advances now files chosen cachedOf done proxy point (after, .blocked)
  | goesOn (cache : Cache) (point' : CheckPoint) (e : Ecosystem) (choice : e ∈ chosen)
      (changes : proxy.cache.ChangesOnly (cachedOf e).belongings cache)
      (stands : point'.Stands chosen cachedOf cache done)
      (fewer : point'.stepsLeft now cache < point.stepsLeft now proxy.cache) :
      Advances now files chosen cachedOf done proxy point ({ proxy with cache }, .moved point')
  | concludes (cache : Cache) (e : Ecosystem) (record : Api.HealthRecord) (rest : List Ecosystem)
      (split : chosen = done ++ e :: rest)
      (changes : proxy.cache.ChangesOnly (cachedOf e).belongings cache)
      (kept : ∀ e ∈ rest, (cachedOf e).IsIn cache)
      (fewer : stepsLeft now cache (.passing rest (done.length + 1)) <
        point.stepsLeft now proxy.cache) :
      Advances now files chosen cachedOf done proxy point
        (({ proxy with cache } : Proxy).recordHealth e record,
          .moved (.passing rest (done.length + 1)))
  | finishes (all : done = chosen) (last : 0 < point.stepsLeft now proxy.cache) :
      Advances now files chosen cachedOf done proxy point (proxy, .finished chosen.length)

/-- What is done for one ecosystem does not matter for the others. -/
theorem kept_of_changesOnly (hchooses : start.Chooses chosen cachedOf)
    (hsplit : chosen = done ++ e :: rest)
    (hchanges : cache.ChangesOnly (cachedOf e).belongings cache')
    (hkept : ∀ e ∈ rest, (cachedOf e).IsIn cache) : ∀ e ∈ rest, (cachedOf e).IsIn cache' := by
  intro e' he'
  have hmem : e ∈ chosen := by simp [hsplit]
  have hmem' : e' ∈ chosen := by simp [hsplit, he']
  have hne : e' ≠ e := by
    rintro rfl
    have hnodup := hchooses.nodup
    rw [hsplit] at hnodup
    exact (List.nodup_cons.mp hnodup.of_append_right).1 he'
  refine (hkept e' he').of_changesOnly hchanges ?_ ?_ ?_
  · intro hkey
    have hsame : (cachedOf e').key = (cachedOf e).key := hkey
    rw [hchooses.key e' hmem', hchooses.key e hmem] at hsame
    exact hne (congrArg CacheKey.ecosystem hsame)
  · exact fun hslot => hne (hchooses.slots e' hmem' e hmem hslot)
  · exact fun hadapter => hne (hchooses.adapters e' hmem' e hmem hadapter)

theorem stepsEach_eq {own : Belongings} (h : cache.ChangesOnly own cache') :
    stepsEach cache' = stepsEach cache := by
  rw [stepsEach, stepsEach, ReconnectPoint.attempts, ReconnectPoint.attempts, h.settings]

/-- A step of a pass that nobody disturbs. -/
theorem advances_step {point : CheckPoint} (hchooses : start.Chooses chosen cachedOf)
    (hworkspace : proxy.workspace = start.workspace)
    (h : point.Stands chosen cachedOf proxy.cache done)
    (hfiles : ∀ tree root, files = some tree → tree.canonical start.workspace = .ok root →
      root = start.workspace) :
    Advances now files chosen cachedOf done proxy point (point.step now wall files proxy) := by
  cases h with
  | passes rest split kept =>
    cases rest with
    | nil =>
      rw [List.append_nil] at split
      subst split
      exact .finishes rfl (Nat.succ_pos _)
    | cons e rest =>
      have hmem : e ∈ chosen := by simp [split]
      have hheads := ReconnectPoint.Heads.starts (kept e List.mem_cons_self)
      rw [hchooses.key e hmem] at hheads
      refine .goesOn proxy.cache _ e hmem (.refl _) (.ensures e _ rest split ?_ ?_) ?_
      · rw [hworkspace]
        exact hheads
      · exact fun e' he' => kept e' (List.mem_cons_of_mem _ he')
      · simp only [stepsLeft, ReconnectPoint.stepsLeft, stepsEach, List.length_cons, Nat.add_mul]
        omega
  | ensures e reconnect rest split heads kept =>
    have hmem : e ∈ chosen := by simp [split]
    have hroot : (cachedOf e).key.root = start.workspace := by rw [hchooses.key e hmem]
    have hroots : ∀ tree root, files = some tree →
        tree.canonical (cachedOf e).key.root = .ok root → root = (cachedOf e).key.root := by
      rw [hroot]
      exact hfiles
    have hleads : ReconnectPoint.LeadsBack (cachedOf e) now
        (reconnect.stepsLeft now proxy.cache) (reconnect.IsStuck now files proxy.cache) proxy.cache
        (reconnect.step now files proxy.cache) := ReconnectPoint.leadsBack_step heads hroots
    simp only [step, Proxy.withCache]
    generalize reconnect.step now files proxy.cache = stepped at hleads
    cases hleads with
    | blocks m waits => exact .waits _ waits
    | goesOn m reconnect' changes heads fewer =>
      refine .goesOn m _ e hmem changes (.ensures e reconnect' rest split heads ?_) ?_
      · exact kept_of_changesOnly hchooses split changes kept
      · simp only [stepsLeft, stepsEach_eq changes]
        omega
    | succeeds m changes returned =>
      have hkept := kept_of_changesOnly hchooses split changes kept
      obtain ⟨s, hs⟩ := returned.made
      simp only [hs]
      split
      · refine .goesOn m _ e hmem changes (.probes e _ _ rest split rfl ?_) ?_
        · exact List.forall_mem_cons.mpr ⟨returned, hkept⟩
        · simp only [stepsLeft, QueryPoint.stepsLeft, stepsEach_eq changes]
          omega
      · refine .concludes m e _ rest split changes hkept ?_
        simp only [stepsLeft, stepsEach_eq changes]
        omega
    | fails m error changes =>
      refine .concludes m e _ rest split changes ?_ ?_
      · exact kept_of_changesOnly hchooses split changes kept
      · simp only [stepsLeft, stepsEach_eq changes]
        omega
  | probes e query deadline rest split asks kept =>
    have hmem : e ∈ chosen := by simp [split]
    obtain ⟨hown, hothers⟩ := List.forall_mem_cons.mp kept
    obtain ⟨s, hs⟩ := hown.made
    have hchanges : proxy.cache.ChangesOnly (cachedOf e).belongings
        (proxy.cache.stepSession (cachedOf e).adapter (query.step now)).1 := .stepSession rfl _
    have hkept := hown.stepSession (query.step now)
    have hothers' := kept_of_changesOnly hchooses split hchanges hothers
    obtain ⟨hprogress, -⟩ := Cache.stepSession_of_session? hs (query.step now)
    have hstuck : (proxy.cache.stepSession (cachedOf e).adapter (query.step now)).2 = .blocked →
        now < deadline → IsStuck now files proxy
          (.probing e (cachedOf e).adapter query deadline rest done.length) := And.intro
    simp only [step, Proxy.withCache]
    generalize proxy.cache.stepSession (cachedOf e).adapter (query.step now) = stepped
      at hchanges hkept hothers' hprogress hstuck
    obtain ⟨m, progress⟩ := stepped
    cases progress with
    | moved query' =>
      have hquery := query.query_step now s hprogress.symm
      refine .goesOn m _ e hmem hchanges (.probes e query' deadline rest split ?_ ?_) ?_
      · rw [hquery, asks]
      · exact List.forall_mem_cons.mpr ⟨hkept, hothers'⟩
      · have hfewer := QueryPoint.stepsLeft_step hprogress.symm
        simp only [stepsLeft, stepsEach_eq hchanges]
        omega
    | finished result =>
      refine .concludes m e _ rest split hchanges hothers' ?_
      simp only [stepsLeft, stepsEach_eq hchanges]
      have hpos := query.stepsLeft_pos
      omega
    | blocked =>
      dsimp only
      split
      next =>
        have hgivesUp : proxy.cache.ChangesOnly (cachedOf e).belongings
            (m.updateSession (cachedOf e).adapter query.cancel) :=
          hchanges.trans (.updateAdapter rfl _)
        refine .concludes _ e _ rest split hgivesUp ?_ ?_
        · exact kept_of_changesOnly hchooses split hgivesUp hothers
        · simp only [stepsLeft, stepsEach_eq hgivesUp]
          have hpos := query.stepsLeft_pos
          omega
      next hearly => exact .waits _ (hstuck rfl (Nat.lt_of_not_le hearly))

/-- What a pass waits for: the files, a time, or what an operation on a session waits for. -/
inductive Awaits (now : Instant) (files : Option Tree) (proxy : Proxy) (point : CheckPoint) :
    Prop where
  | files (wants : point.wantsFiles = true) (missing : files = none)
  | time (t : Instant) (deadline : point.deadline? = some t) (early : now < t)
  | session (a : AdapterId) (task : SessionTask) (s : Session)
      (job : point.job? = some (a, .onSession task)) (found : proxy.cache.session? a = some s)
      (waits : task.Awaits now s)

/-- A pass that has to wait waits for nothing else, if it is its turn wherever it is in line. -/
theorem IsStuck.awaits {point : CheckPoint} (h : point.IsStuck now files proxy)
    (hstands : point.Stands chosen cachedOf proxy.cache done)
    (hguard : ∀ seat claims, point.stance = .queued seat claims →
      (proxy.cache.slotAt seat.slot).turns.holds seat.ticket = true)
    (hturn : ∀ a task s ticket, point.job? = some (a, .onSession task) →
      proxy.cache.session? a = some s → task.queued? = some ticket →
      s.turns.holds ticket = true) : point.Awaits now files proxy := by
  cases hstands with
  | passes => exact h.elim
  | ensures e reconnect rest split heads kept =>
    have hcases := ReconnectPoint.IsStuck.cases h heads (fun hold hpoint => ?_) hturn
    · rcases hcases with ⟨hwants, hnone⟩ | ⟨t, hdeadline, hearly⟩ | ⟨a, task, s, hjob, hs, hwaits⟩
      · exact .files hwants hnone
      · exact .time t hdeadline hearly
      · exact .session a task s hjob hs hwaits
    · subst hpoint
      exact hguard hold.seat [] rfl
  | probes e query deadline rest split asks kept =>
    obtain ⟨s, hs⟩ := (kept e List.mem_cons_self).made
    obtain ⟨hprogress, -⟩ := Cache.stepSession_of_session? hs (query.step now)
    refine .session _ (.ask query) s rfl hs (QueryPoint.awaits_of_blocked ?_)
    exact hprogress.symm.trans h.1

/-- Nobody is disturbed while nobody else needs a slot. -/
theorem Stands.calm {point : CheckPoint} (h : point.Stands chosen cachedOf cache done)
    (hcalm : cache.Calm now cache') : point.Stands chosen cachedOf cache' done := by
  cases h with
  | passes rest split kept => exact .passes rest split fun e he => hcalm.isIn (kept e he)
  | ensures e reconnect rest split heads kept =>
    exact .ensures e reconnect rest split (heads.calm hcalm) fun e he => hcalm.isIn (kept e he)
  | probes e query deadline rest split asks kept =>
    exact .probes e query deadline rest split asks fun e he => hcalm.isIn (kept e he)

theorem Stands.stepsLeft_calm {point : CheckPoint} (h : point.Stands chosen cachedOf cache done)
    (hcalm : cache.Calm now cache') : point.stepsLeft now cache' ≤ point.stepsLeft now cache := by
  have heach : stepsEach cache' = stepsEach cache := by
    rw [stepsEach, stepsEach, ReconnectPoint.attempts, ReconnectPoint.attempts, hcalm.settings]
  cases h with
  | passes | probes =>
    simp only [stepsLeft, heach]
    exact Nat.le_refl _
  | ensures e reconnect rest split heads kept =>
    have hle := heads.stepsLeft_calm hcalm
    simp only [stepsLeft, heach]
    omega

theorem Stands.stepsLeft_later {point : CheckPoint} {later : Instant}
    (h : point.Stands chosen cachedOf cache done) (hle : now ≤ later) :
    point.stepsLeft later cache ≤ point.stepsLeft now cache := by
  cases h with
  | passes | probes => exact Nat.le_refl _
  | ensures e reconnect rest split heads kept =>
    have hle' := heads.stepsLeft_later hle
    simp only [stepsLeft]
    omega

end CheckPoint

/-! ### Events -/

/-- Whether everybody but one only asks questions. -/
def ProxyCourse.IsAlone (course : ProxyCourse) (i : Nat) : Prop :=
  ∀ j task, j ≠ i → course.task? j = some task → ∃ a point, task = .onCache (.ask a point)

/-- Whether an event leaves the cache to a pass: nobody else begins to use it, and the pass is not
    given up. -/
def ProxyEvent.LeavesCache (i : Nat) : ProxyEvent → Prop
  | .begin call => ∃ a inquiry, call = .onCache (.ask a inquiry)
  | .giveUp j => j ≠ i
  | .step _ _ | .occur _ | .wait _ => True

/-- Whether the workspace is no link to another place when a pass may use the files. -/
def ProxyEvent.KeepsRoot (i : Nat) (workspace : Path) : ProxyEvent → Prop
  | .step j input => j = i → ∀ tree root, input.files = some tree →
      tree.canonical workspace = .ok root → root = workspace
  | .begin _ | .giveUp _ | .occur _ | .wait _ => True

/-- Whether an event leaves a pass alone. -/
structure ProxyEvent.LeavesAlone (i : Nat) (workspace : Path) (event : ProxyEvent) : Prop where
  cache : event.LeavesCache i
  root : event.KeepsRoot i workspace

namespace ProxyCourse

variable {course course' : ProxyCourse} {event : ProxyEvent} {i : Nat}

/-- What an event is to one whom everybody leaves alone. -/
inductive Proceeds (i : Nat) (course : ProxyCourse) : ProxyEvent → ProxyCourse → Prop where
  | others (event : ProxyEvent) (course' : ProxyCourse) (other : ∀ input, event ≠ .step i input)
      (standing : course'.tasks[i]? = course.tasks[i]?)
      (shared : course'.shared = { course.shared with cache := course'.shared.cache })
      (calm : course.shared.cache.Calm course.now course'.shared.cache)
      (now : course'.now = course.now) : Proceeds i course event course'
  | waits (time : Duration) :
      Proceeds i course (.wait time) { course with now := course.now + time }
  | stays (input : ProxyInput) (blocked : ∀ task, course.task? i = some task →
        (task.step course.now input course.shared).2 = .blocked) :
      Proceeds i course (.step i input) course
  | moves (input : ProxyInput) (task task' : ProxyTask) (shared : Proxy)
      (stands : course.task? i = some task)
      (step : task.step course.now input course.shared = (shared, .moved task')) :
      Proceeds i course (.step i input) (course.put i shared (.waiting task'))
  | finishes (input : ProxyInput) (task : ProxyTask) (result : ProxyReply) (shared : Proxy)
      (stands : course.task? i = some task)
      (step : task.step course.now input course.shared = (shared, .finished result)) :
      Proceeds i course (.step i input) (course.put i shared (.ended (some result)))

namespace IsAlone

theorem proceeds (h : course.IsAlone i) (hi : i < course.tasks.length)
    (hevent : ProxyEvent.LeavesCache i event) :
    Proceeds i course event (proxyRules.next course event) := by
  have hmoves := proxyRules.next_moves course event
  generalize proxyRules.next course event = course' at hmoves
  have hset {j : Nat} (hj : j ≠ i) (standing : Standing ProxyTask (Option ProxyReply)) :
      (course.tasks.set j standing)[i]? = course.tasks[i]? := List.getElem?_set_ne hj
  have hother {j : Nat} (hj : j ≠ i) (input : ProxyInput) :
      ∀ input', (.step j input : ProxyEvent) ≠ .step i input' := by
    rintro input' ⟨⟩
    exact hj rfl
  have hcalm := Cache.Calm.refl course.now course.shared.cache
  cases hmoves with
  | blocks j input blocked =>
    by_cases hj : j = i
    · subst hj
      exact .stays input blocked
    · exact .others _ _ (hother hj input) rfl rfl hcalm rfl
  | misses j => exact .others _ _ nofun rfl rfl hcalm rfl
  | begins call => exact .others _ _ nofun (List.getElem?_append_left hi) rfl hcalm rfl
  | moves j input task task' shared stands step =>
    by_cases hj : j = i
    · subst hj
      exact .moves input task task' shared stands step
    · obtain ⟨a, point, rfl⟩ := h j task hj stands
      obtain ⟨rfl, -⟩ := Prod.mk.inj step
      exact .others _ _ (hother hj input) (hset hj _) rfl (.ask_step a point _ _) rfl
  | finishes j input task result shared stands step =>
    by_cases hj : j = i
    · subst hj
      exact .finishes input task result shared stands step
    · obtain ⟨a, point, rfl⟩ := h j task hj stands
      obtain ⟨rfl, -⟩ := Prod.mk.inj step
      exact .others _ _ (hother hj input) (hset hj _) rfl (.ask_step a point _ _) rfl
  | givesUp j task stands =>
    have hj : j ≠ i := hevent
    obtain ⟨a, point, rfl⟩ := h j task hj stands
    exact .others _ _ nofun (hset hj _) rfl (.ask_cancel a point _) rfl
  | occurs occurrence => exact .others _ _ nofun rfl rfl (.occur occurrence _) rfl
  | waits time => exact .waits time

theorem next (h : course.IsAlone i) (hevent : ProxyEvent.LeavesCache i event) :
    IsAlone (proxyRules.next course event) i := by
  have hgoes := course.goes_next event
  generalize proxyRules.next course event = course' at hgoes
  have hupdate {k : Nat} {task? : Option ProxyTask}
      (htasks : course'.task? = Function.update course.task? k task?)
      (htask : k ≠ i → ∀ task, task? = some task → ∃ a point, task = .onCache (.ask a point)) :
      IsAlone course' i := by
    intro j task hj hstands
    rw [htasks] at hstands
    by_cases hjk : j = k
    · subst hjk
      rw [Function.update_self] at hstands
      exact htask hj task hstands
    · rw [Function.update_of_ne hjk] at hstands
      exact h j task hj hstands
  cases hgoes with
  | idles event shared tasks | occurs event shared tasks =>
    intro j task hj hstands
    rw [tasks] at hstands
    exact h j task hj hstands
  | begins call shared tasks =>
    refine hupdate tasks ?_
    obtain ⟨a, inquiry, rfl⟩ := hevent
    rintro - task ⟨⟩
    exact ⟨a, _, rfl⟩
  | steps j input task stands goes shared tasks =>
    refine hupdate tasks fun hj task' htask' => ?_
    obtain ⟨a, point, rfl⟩ := h j task hj stands
    have hask : (ProxyTask.step course.now input (.onCache (.ask a point)) course.shared).2 =
        (((course.shared.cache.stepAdapter a (point.step course.now input.files)).2.map
          (CacheTask.ask a) CacheReply.answered).map ProxyTask.onCache ProxyReply.ofCache) := rfl
    rw [hask] at htask'
    generalize (course.shared.cache.stepAdapter a (point.step course.now input.files)).2 = progress
      at htask'
    cases progress with
    | blocked | finished => cases htask'
    | moved point' =>
      obtain rfl := Option.some.inj htask'
      exact ⟨a, point', rfl⟩
  | givesUp j task stands shared tasks => exact hupdate tasks fun _ _ => nofun

end IsAlone

/-! ### From the choice to the end -/

/-- Where a pass stands, or that it has ended. -/
inductive PassStands (chosen : List Ecosystem) (cachedOf : Ecosystem → Cached) (cache : Cache)
    (done : List Ecosystem) : Standing ProxyTask (Option ProxyReply) → Prop where
  | goesOn (point : CheckPoint) (stands : point.Stands chosen cachedOf cache done) :
      PassStands chosen cachedOf cache done (.waiting (.check point))
  | ended (all : done = chosen) :
      PassStands chosen cachedOf cache done (.ended (some (.checked chosen.length)))

/-- How many steps a pass may still make; none after its end. -/
def passLeft (now : Instant) (cache : Cache) : Standing ProxyTask (Option ProxyReply) → Nat
  | .waiting (.check point) => point.stepsLeft now cache
  | _ => 0

/-- How many steps a pass has made. -/
def passSteps (past : List ProxyMoment) (i : Nat) : Nat :=
  proxyRules.stepsOf (fun _ progress => progress.goes) past i

/-- What holds of a pass that has looked at the sessions of some ecosystems, and has put new records
    in the place of theirs. -/
structure Underway (start : Proxy) (chosen : List Ecosystem) (cachedOf : Ecosystem → Cached)
    (i : Nat) (past : List ProxyMoment) (course : ProxyCourse)
    (new : List (Ecosystem × Api.HealthRecord)) (done : List Ecosystem) : Prop where
  alone : course.IsAlone i
  shared : course.shared =
    { start with cache := course.shared.cache, health := course.shared.health }
  changes : start.cache.ChangesOnly (chosenBelongings chosen cachedOf) course.shared.cache
  stands : ∃ standing, course.tasks[i]? = some standing ∧
    PassStands chosen cachedOf course.shared.cache done standing ∧
    passSteps past i + passLeft course.now course.shared.cache standing ≤
      chosen.length * CheckPoint.stepsEach start.cache + 1
  records : new.map (·.1) = done.reverse
  health : course.shared.health = new ++ start.health.filter fun entry => entry.1 ∉ done

variable {past : List ProxyMoment} {new : List (Ecosystem × Api.HealthRecord)}

theorem task?_of_getElem? {task : ProxyTask} (h : course.tasks[i]? = some (.waiting task)) :
    course.task? i = some task := by
  rw [Crowd.task?, h]
  rfl

/-- Where a task is a pass and goes on, the pass has gone on. -/
theorem exists_moved_check {point : CheckPoint} {input : ProxyInput} {shared : Proxy}
    {task' : ProxyTask}
    (h : ProxyTask.step now input (.check point) proxy = (shared, .moved task')) :
    ∃ point', point.step now input.wall input.files proxy = (shared, .moved point') ∧
      ProxyTask.check point' = task' := by
  obtain ⟨hshared, hmap⟩ := Prod.mk.inj h
  obtain ⟨point', hmoved, hsame⟩ := Progress.eq_moved_of_map hmap
  exact ⟨point', Prod.ext hshared hmoved, hsame⟩

/-- Where a task is a pass and ends, the pass has ended. -/
theorem exists_finished_check {point : CheckPoint} {input : ProxyInput} {shared : Proxy}
    {reply : ProxyReply}
    (h : ProxyTask.step now input (.check point) proxy = (shared, .finished reply)) :
    ∃ count, point.step now input.wall input.files proxy = (shared, .finished count) ∧
      ProxyReply.checked count = reply := by
  obtain ⟨hshared, hmap⟩ := Prod.mk.inj h
  obtain ⟨count, hfinished, hsame⟩ := Progress.eq_finished_of_map hmap
  exact ⟨count, Prod.ext hshared hfinished, hsame⟩

/-- What belongs to one of the chosen ecosystems belongs to them all. -/
theorem changes_chosen (he : e ∈ chosen)
    (h : cache.ChangesOnly (cachedOf e).belongings cache') :
    cache.ChangesOnly (chosenBelongings chosen cachedOf) cache' where
  servers := h.servers
  settings := h.settings
  made := h.made
  lookup := fun key hkey => h.lookup key fun hown => hkey ⟨e, he, hown⟩
  slot := fun id hid => h.slot id fun hown => hid ⟨e, he, hown⟩
  adapter := fun _ ha => absurd trivial ha

theorem changes_calm (h : cache.Calm now cache') :
    cache.ChangesOnly (chosenBelongings chosen cachedOf) cache' where
  servers := h.servers
  settings := h.settings
  made := h.made
  lookup := fun _ _ => by rw [h.mapped]
  slot := fun _ _ => by rw [h.slots]
  adapter := fun _ ha => absurd trivial ha

namespace PassStands

variable {standing : Standing ProxyTask (Option ProxyReply)}

theorem calm (h : PassStands chosen cachedOf cache done standing) (hcalm : cache.Calm now cache') :
    PassStands chosen cachedOf cache' done standing ∧
      passLeft now cache' standing ≤ passLeft now cache standing := by
  cases h with
  | goesOn point stands => exact ⟨.goesOn point (stands.calm hcalm), stands.stepsLeft_calm hcalm⟩
  | ended all => exact ⟨.ended all, Nat.le_refl _⟩

theorem later {later : Instant} (h : PassStands chosen cachedOf cache done standing)
    (hle : now ≤ later) : passLeft later cache standing ≤ passLeft now cache standing := by
  cases h with
  | goesOn point stands => exact stands.stepsLeft_later hle
  | ended all => exact Nat.le_refl _

end PassStands

namespace Underway

/-- Whoever stands at the place of the pass is the pass. -/
theorem exists_point (h : Underway start chosen cachedOf i past course new done)
    {task : ProxyTask} (hstands : course.task? i = some task) :
    ∃ point : CheckPoint, task = .check point ∧ course.tasks[i]? = some (.waiting (.check point)) ∧
      point.Stands chosen cachedOf course.shared.cache done ∧
      passSteps past i + point.stepsLeft course.now course.shared.cache ≤
        chosen.length * CheckPoint.stepsEach start.cache + 1 := by
  obtain ⟨standing, hstanding, hpass, hsteps⟩ := h.stands
  rw [Crowd.task?, hstanding] at hstands
  cases hpass with
  | goesOn point stands =>
    obtain rfl := Option.some.inj hstands
    exact ⟨point, rfl, hstanding, stands, hsteps⟩
  | ended => cases hstands

theorem lt_length (h : Underway start chosen cachedOf i past course new done) :
    i < course.tasks.length := by
  obtain ⟨standing, hstanding, -⟩ := h.stands
  exact (List.getElem?_eq_some_iff.mp hstanding).1

theorem workspace_eq (h : Underway start chosen cachedOf i past course new done) :
    course.shared.workspace = start.workspace := by
  rw [h.shared]

/-- The pass itself goes on as one does that nobody disturbs. -/
theorem advances (h : Underway start chosen cachedOf i past course new done)
    (hchooses : start.Chooses chosen cachedOf) {point : CheckPoint} {input : ProxyInput}
    (hstands : point.Stands chosen cachedOf course.shared.cache done)
    (hevent : ProxyEvent.LeavesAlone i start.workspace (.step i input)) :
    point.Advances course.now input.files chosen cachedOf done course.shared
      (point.step course.now input.wall input.files course.shared) :=
  CheckPoint.advances_step hchooses h.workspace_eq hstands (hevent.root rfl)

/-- A record takes the place of the older one of its ecosystem. -/
theorem health_conclude (h : Underway start chosen cachedOf i past course new done)
    (hnodup : chosen.Nodup) (hsplit : chosen = done ++ e :: rest) (record : Api.HealthRecord)
    (cache : Cache) :
    (({ course.shared with cache } : Proxy).recordHealth e record).health =
      ((e, record) :: new) ++ start.health.filter fun entry => entry.1 ∉ done ++ [e] := by
  have hfresh : e ∉ done := by
    rw [hsplit] at hnodup
    exact fun hmem => List.disjoint_of_nodup_append hnodup hmem List.mem_cons_self
  have hnew : new.filter (fun entry => entry.1 ≠ e) = new := by
    refine List.filter_eq_self.mpr fun entry hentry => decide_eq_true ?_
    rintro rfl
    refine hfresh ?_
    rw [← List.mem_reverse, ← h.records]
    exact List.mem_map_of_mem hentry
  show (e, record) :: course.shared.health.filter (fun entry => entry.1 ≠ e) = _
  rw [h.health, List.filter_append, hnew, List.filter_filter]
  simp [and_comm]

/-- What others do does not count. -/
theorem passSteps_of_others (hother : ∀ input, event ≠ .step i input) :
    passSteps (past ++ [(course, event)]) i = passSteps past i := by
  refine CrowdRules.stepsOf_of_others fun task progress hstep => ?_
  obtain ⟨input, hinput, -⟩ := proxyRules.step?_eq_some hstep
  exact hother input hinput

theorem passSteps_of_task? {task : ProxyTask} (hstands : course.task? i = some task)
    (input : ProxyInput) :
    passSteps (past ++ [(course, .step i input)]) i =
      passSteps past i + if (task.step course.now input course.shared).2.goes then 1 else 0 :=
  CrowdRules.stepsOf_of_step? (proxyRules.step?_step hstands)

/-- Nothing happens to the pass. -/
theorem others (h : Underway start chosen cachedOf i past course new done)
    (halone : IsAlone course' i) (hother : ∀ input, event ≠ .step i input)
    (hstanding : course'.tasks[i]? = course.tasks[i]?)
    (hshared : course'.shared = { course.shared with cache := course'.shared.cache })
    (hcalm : course.shared.cache.Calm course.now course'.shared.cache)
    (hnow : course.now ≤ course'.now) :
    Underway start chosen cachedOf i (past ++ [(course, event)]) course' new done where
  alone := halone
  shared := by rw [hshared, h.shared]
  changes := h.changes.trans (changes_calm hcalm)
  stands := by
    obtain ⟨standing, hstands, hpass, hsteps⟩ := h.stands
    obtain ⟨hpass', hleft⟩ := hpass.calm hcalm
    have hleft' := hpass'.later hnow
    refine ⟨standing, hstanding.trans hstands, hpass', ?_⟩
    rw [passSteps_of_others hother]
    omega
  records := h.records
  health := by
    rw [hshared]
    exact h.health

/-- The pass has to wait, or has ended. -/
theorem stays (h : Underway start chosen cachedOf i past course new done) {input : ProxyInput}
    (hblocked : ∀ task, course.task? i = some task →
      (task.step course.now input course.shared).2 = .blocked) :
    Underway start chosen cachedOf i (past ++ [(course, .step i input)]) course new done := by
  have hsteps : passSteps (past ++ [(course, .step i input)]) i = passSteps past i := by
    cases hstands : course.task? i with
    | none =>
      refine CrowdRules.stepsOf_of_others fun task progress hstep => ?_
      obtain ⟨-, -, hfound, -⟩ := proxyRules.step?_eq_some hstep
      rw [hstands] at hfound
      cases hfound
    | some task =>
      rw [passSteps_of_task? hstands, hblocked task hstands]
      rfl
  exact { h with stands := by rw [hsteps]; exact h.stands }

/-- The pass goes on. -/
theorem moves (h : Underway start chosen cachedOf i past course new done)
    (hchooses : start.Chooses chosen cachedOf) {point point' : CheckPoint} {input : ProxyInput}
    {shared : Proxy} (hstands : course.task? i = some (.check point))
    (hevent : ProxyEvent.LeavesAlone i start.workspace (.step i input))
    (halone : IsAlone (course.put i shared (.waiting (.check point'))) i)
    (hstep : point.step course.now input.wall input.files course.shared =
      (shared, .moved point')) :
    ∃ new' done', Underway start chosen cachedOf i (past ++ [(course, .step i input)])
      (course.put i shared (.waiting (.check point'))) new' done' := by
  obtain ⟨found, hfound, -, hpoint, hleft⟩ := h.exists_point hstands
  obtain rfl := ProxyTask.check.inj hfound
  have hcount : passSteps (past ++ [(course, .step i input)]) i = passSteps past i + 1 := by
    rw [passSteps_of_task? hstands, ProxyTask.step, hstep]
    rfl
  have hplace : (course.put i shared (.waiting (.check point'))).tasks[i]? =
      some (.waiting (.check point')) := List.getElem?_set_self h.lt_length
  have hadvances := h.advances hchooses hpoint hevent
  rw [hstep] at hadvances
  cases hadvances with
  | goesOn cache _ e choice changes stands' fewer =>
    refine ⟨new, done, halone, ?_, h.changes.trans (changes_chosen choice changes),
      ⟨_, hplace, .goesOn point' stands', ?_⟩, h.records, h.health⟩
    · rw [Crowd.shared_put, h.shared]
    · rw [hcount]
      show passSteps past i + 1 + point'.stepsLeft course.now cache ≤ _
      omega
  | concludes cache e record rest split changes kept fewer =>
    have hmem : e ∈ chosen := by simp [split]
    have hlength : done.length + 1 = (done ++ [e]).length := by simp
    refine ⟨(e, record) :: new, done ++ [e], halone, ?_,
      h.changes.trans (changes_chosen hmem changes), ⟨_, hplace, ?_, ?_⟩, ?_, ?_⟩
    · rw [Crowd.shared_put, h.shared]
      rfl
    · rw [hlength]
      exact .goesOn _ (.passes rest (by simp [split]) kept)
    · rw [hcount]
      show passSteps past i + 1 +
        CheckPoint.stepsLeft course.now cache (.passing rest (done.length + 1)) ≤ _
      omega
    · rw [List.map_cons, h.records, List.reverse_append]
      rfl
    · exact h.health_conclude hchooses.nodup split record cache

/-- The pass ends. -/
theorem finishes (h : Underway start chosen cachedOf i past course new done)
    (hchooses : start.Chooses chosen cachedOf) {point : CheckPoint} {input : ProxyInput}
    {shared : Proxy} {count : Nat} (hstands : course.task? i = some (.check point))
    (hevent : ProxyEvent.LeavesAlone i start.workspace (.step i input))
    (halone : IsAlone (course.put i shared (.ended (some (.checked count)))) i)
    (hstep : point.step course.now input.wall input.files course.shared =
      (shared, .finished count)) :
    Underway start chosen cachedOf i (past ++ [(course, .step i input)])
      (course.put i shared (.ended (some (.checked count)))) new done := by
  obtain ⟨found, hfound, -, hpoint, hleft⟩ := h.exists_point hstands
  obtain rfl := ProxyTask.check.inj hfound
  have hcount : passSteps (past ++ [(course, .step i input)]) i = passSteps past i + 1 := by
    rw [passSteps_of_task? hstands, ProxyTask.step, hstep]
    rfl
  have hplace : (course.put i shared (.ended (some (.checked count)))).tasks[i]? =
      some (.ended (some (.checked count))) := List.getElem?_set_self h.lt_length
  have hadvances := h.advances hchooses hpoint hevent
  rw [hstep] at hadvances
  cases hadvances with
  | finishes all last =>
    refine ⟨halone, h.shared, h.changes, ⟨_, hplace, .ended all, ?_⟩, h.records, h.health⟩
    rw [hcount]
    show passSteps past i + 1 + 0 ≤ _
    omega

/-- Every event keeps what holds of the pass. -/
theorem next (h : Underway start chosen cachedOf i past course new done)
    (hchooses : start.Chooses chosen cachedOf)
    (hevent : ProxyEvent.LeavesAlone i start.workspace event) :
    ∃ new' done', Underway start chosen cachedOf i (past ++ [(course, event)])
      (proxyRules.next course event) new' done' := by
  have halone := h.alone.next hevent.cache
  have hproceeds := h.alone.proceeds h.lt_length hevent.cache
  generalize proxyRules.next course event = course' at halone hproceeds
  cases hproceeds with
  | others _ _ other standing shared calm now_eq =>
    exact ⟨new, done, h.others halone other standing shared calm (Nat.le_of_eq now_eq.symm)⟩
  | waits time =>
    refine ⟨new, done, h.others halone nofun rfl rfl (.refl _ _) ?_⟩
    exact Nat.le_add_right course.now time
  | stays input blocked => exact ⟨new, done, h.stays blocked⟩
  | moves input task task' shared stands step =>
    obtain ⟨point, rfl, -⟩ := h.exists_point stands
    obtain ⟨point', hstep, rfl⟩ := exists_moved_check step
    exact h.moves hchooses stands hevent halone hstep
  | finishes input task result shared stands step =>
    obtain ⟨point, rfl, -⟩ := h.exists_point stands
    obtain ⟨count, hstep, rfl⟩ := exists_finished_check step
    exact ⟨new, done, h.finishes hchooses stands hevent halone hstep⟩

end Underway

end ProxyCourse

end SymbolSearch
