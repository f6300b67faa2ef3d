import SymbolSearch.Proofs.Cache.Jobs
import SymbolSearch.Proofs.Cache.Moments
import SymbolSearch.Proofs.Session.Deadlines
import SymbolSearch.Proxy.Serving

/-!
# Courses of a proxy

In a course of a proxy, passes over its sessions go on side by side with operations on its cache,
and the servers do what they like.

* `proxyRules` — how passes and operations begin, go on and are given up.
* `ProxyTask.stance` and `ProxyTask.job?` — where each stands with the slots, and what it has under
  way at an adapter.
* `ProxyCourse.visit_next` — an event is nothing but moves among the slots, and
  `ProxyCourse.works_next` — nothing but moves at the adapters, or something that happens to a
  session.
* `ProxyCourse.InOrder` — the slots are in good order, and so are the lines for them;
  `ProxyCourse.IsReached.inOrder` shows that they are so after any events.
-/

namespace SymbolSearch

/-! ### Passes and operations -/

/-- A call to the cache of a proxy, or a pass over its sessions. -/
inductive ProxyCall where
  | onCache (call : CacheCall)
  | check

/-- An operation on the cache of a proxy, or a pass over its sessions, wherever it stands. -/
inductive ProxyTask where
  | onCache (task : CacheTask)
  | check (point : CheckPoint)

/-- The result of an operation or of a pass. -/
inductive ProxyReply where
  | ofCache (reply : CacheReply)
  | checked (count : Nat)

/-- What a step may use besides the proxy: the wall clock in milliseconds, and the files if they are
    there. -/
structure ProxyInput where
  wall : Nat
  files : Option Tree

namespace ProxyTask

/-- The first point of a call. -/
def enter : ProxyCall → ProxyTask
  | .onCache call => .onCache (.enter call)
  | .check => .check .starting

/-- One step of an operation or of a pass. -/
def step (now : Instant) (input : ProxyInput) (task : ProxyTask) (proxy : Proxy) :
    Stepped Proxy ProxyTask ProxyReply :=
  match task with
  | .onCache task =>
    (proxy.withCache (task.step now input.files proxy.cache)).map .onCache .ofCache
  | .check point => (point.step now input.wall input.files proxy).map .check .checked

/-- Gives an operation or a pass up where it stands. -/
def cancel (task : ProxyTask) (proxy : Proxy) : Proxy :=
  match task with
  | .onCache task => { proxy with cache := task.cancel proxy.cache }
  | .check point => point.cancel proxy

end ProxyTask

/-- How passes and operations go on. -/
def proxyRules : CrowdRules Proxy ProxyCall ProxyTask ProxyReply ProxyInput ServerEvent where
  enter := ProxyTask.enter
  step := ProxyTask.step
  cancel := ProxyTask.cancel
  occur := fun now event proxy => { proxy with cache := cacheRules.occur now event proxy.cache }

/-- A proxy, what goes on there, and the time. -/
abbrev ProxyCourse := Crowd Proxy ProxyTask ProxyReply

/-- One thing that happens in a course. -/
abbrev ProxyEvent := CrowdEvent ProxyCall ProxyInput ServerEvent

/-- An event with the course in which it happens. -/
abbrev ProxyMoment := ProxyCourse × ProxyEvent

namespace ProxyCourse

/-- A new proxy that nobody uses. -/
def start (workspace : Path) (servers : ServerTable) (settings : SearchSettings) : ProxyCourse :=
  { shared := { workspace, cache := { servers, settings } } }

/-- Whether a proxy may have come to where it stands. -/
def IsReached (course : ProxyCourse) : Prop :=
  ∃ (workspace : Path) (servers : ServerTable) (settings : SearchSettings)
    (events : List ProxyEvent),
    proxyRules.after (start workspace servers settings) events = course

theorem IsReached.next {course : ProxyCourse} (h : course.IsReached) (event : ProxyEvent) :
    IsReached (proxyRules.next course event) := by
  obtain ⟨workspace, servers, settings, events, rfl⟩ := h
  exact ⟨workspace, servers, settings, events ++ [event], proxyRules.after_concat _ _ _⟩

end ProxyCourse

/-! ### Where passes stand -/

/-- Where a pass stands with the slots. -/
def CheckPoint.stance : CheckPoint → Stance
  | .ensuring _ reconnect _ _ => reconnect.stance
  | .starting | .passing _ _ | .probing _ _ _ _ _ _ => .has []

/-- What a pass has under way at an adapter. -/
def CheckPoint.job? : CheckPoint → Option Job
  | .ensuring _ reconnect _ _ => reconnect.job?
  | .probing _ a query _ _ _ => some (a, .onSession (.ask query))
  | .starting | .passing _ _ => none

/-- Where an operation or a pass stands with the slots. -/
def ProxyTask.stance : ProxyTask → Stance
  | .onCache task => task.stance
  | .check point => point.stance

/-- What an operation or a pass has under way at an adapter. -/
def ProxyTask.job? : ProxyTask → Option Job
  | .onCache task => task.job?
  | .check point => point.job?

namespace ProxyCourse

/-- The stance at a place; one that has ended has no slot. -/
def stanceOf (course : ProxyCourse) (i : Nat) : Stance :=
  ((course.task? i).map ProxyTask.stance).getD (.has [])

/-- The job of the one at a place. -/
def jobOf (course : ProxyCourse) (i : Nat) : Option Job := (course.task? i).bind ProxyTask.job?

/-- What is under way at an adapter. -/
def jobsAt (course : ProxyCourse) (a : AdapterId) (i : Nat) : Option AdapterTask :=
  jobOn (course.jobOf i) a

end ProxyCourse

/-! ### Steps of a pass -/

namespace CheckPoint

variable {now : Instant} {wall : Nat} {files : Option Tree} {proxy : Proxy}

/-- Where a session is found out to be ready, a question to it may begin. -/
inductive EndsEnsuring (now : Instant) (wall : Nat) (ecosystem : Ecosystem)
    (rest : List Ecosystem) (checked : Nat) (proxy : Proxy) (cache : Cache) :
    Except CacheError AdapterId → Checked → Prop where
  | fails (error : CacheError) :
      EndsEnsuring now wall ecosystem rest checked proxy cache (.error error)
        (conclude wall ecosystem rest checked { proxy with cache } (some error.message))
  | misses (a : AdapterId) (found : cache.session? a = none) :
      EndsEnsuring now wall ecosystem rest checked proxy cache (.ok a)
        ({ proxy with cache }, .blocked)
  | asks (a : AdapterId) (session : Session) (found : cache.session? a = some session)
      (offers : session.capabilities.workspaceSymbols = true) :
      EndsEnsuring now wall ecosystem rest checked proxy cache (.ok a)
        ({ proxy with cache }, .moved (.probing ecosystem a (.starting (.workspaceSymbols ""))
          (now + replyLimit) rest checked))
  | spares (a : AdapterId) (session : Session) (found : cache.session? a = some session)
      (lacks : session.capabilities.workspaceSymbols = false) :
      EndsEnsuring now wall ecosystem rest checked proxy cache (.ok a)
        (conclude wall ecosystem rest checked { proxy with cache } none)

/-- What a step of a pass can do. -/
inductive Moves (now : Instant) (wall : Nat) (files : Option Tree) (proxy : Proxy) :
    CheckPoint → Checked → Prop where
  | chooses :
      Moves now wall files proxy .starting (proxy, .moved (.passing
        ((proxy.ownStatuses.filter fun status => concerns status.state).map (·.key.ecosystem)) 0))
  | finishes (checked : Nat) :
      Moves now wall files proxy (.passing [] checked) (proxy, .finished checked)
  | turnsTo (ecosystem : Ecosystem) (rest : List Ecosystem) (checked : Nat) :
      Moves now wall files proxy (.passing (ecosystem :: rest) checked)
        (proxy, .moved (.ensuring ecosystem (.entering (.starting ecosystem proxy.workspace)) rest
          checked))
  | waits (point : CheckPoint) (after : Proxy) : Moves now wall files proxy point (after, .blocked)
  | ensures (ecosystem : Ecosystem) (reconnect reconnect' : ReconnectPoint) (rest : List Ecosystem)
      (checked : Nat) (cache : Cache)
      (step : reconnect.step now files proxy.cache = (cache, .moved reconnect')) :
      Moves now wall files proxy (.ensuring ecosystem reconnect rest checked)
        ({ proxy with cache }, .moved (.ensuring ecosystem reconnect' rest checked))
  | ensured (ecosystem : Ecosystem) (reconnect : ReconnectPoint) (rest : List Ecosystem)
      (checked : Nat) (cache : Cache) (result : Except CacheError AdapterId) (stepped : Checked)
      (step : reconnect.step now files proxy.cache = (cache, .finished result))
      (goesOn : EndsEnsuring now wall ecosystem rest checked proxy cache result stepped) :
      Moves now wall files proxy (.ensuring ecosystem reconnect rest checked) stepped
  | probes (ecosystem : Ecosystem) (a : AdapterId) (query query' : QueryPoint) (deadline : Instant)
      (rest : List Ecosystem) (checked : Nat) (cache : Cache)
      (step : proxy.cache.stepSession a (query.step now) = (cache, .moved query')) :
      Moves now wall files proxy (.probing ecosystem a query deadline rest checked)
        ({ proxy with cache }, .moved (.probing ecosystem a query' deadline rest checked))
  | hears (ecosystem : Ecosystem) (a : AdapterId) (query : QueryPoint) (deadline : Instant)
      (rest : List Ecosystem) (checked : Nat) (cache : Cache) (result : Except SessionError Answer)
      (step : proxy.cache.stepSession a (query.step now) = (cache, .finished result)) :
      Moves now wall files proxy (.probing ecosystem a query deadline rest checked)
        (conclude wall ecosystem rest checked { proxy with cache } (faultIn result))
  | givesUp (ecosystem : Ecosystem) (a : AdapterId) (query : QueryPoint) (deadline : Instant)
      (rest : List Ecosystem) (checked : Nat) (cache : Cache)
      (step : proxy.cache.stepSession a (query.step now) = (cache, .blocked))
      (late : deadline ≤ now) :
      Moves now wall files proxy (.probing ecosystem a query deadline rest checked)
        (conclude wall ecosystem rest checked
          { proxy with cache := cache.updateSession a query.cancel } (some silenceMessage))

/-- A step of a pass does nothing else. -/
theorem step_moves (now : Instant) (wall : Nat) (files : Option Tree) (point : CheckPoint)
    (proxy : Proxy) : Moves now wall files proxy point (point.step now wall files proxy) := by
  cases point with
  | starting => exact .chooses
  | passing rest checked =>
    cases rest with
    | nil => exact .finishes checked
    | cons ecosystem rest => exact .turnsTo ecosystem rest checked
  | ensuring ecosystem reconnect rest checked =>
    simp only [step, Proxy.withCache]
    cases hstep : reconnect.step now files proxy.cache with
    | mk cache progress =>
      cases progress with
      | blocked => exact .waits _ _
      | moved reconnect' => exact .ensures ecosystem reconnect reconnect' rest checked cache hstep
      | finished result =>
        refine .ensured ecosystem reconnect rest checked cache result _ hstep ?_
        cases result with
        | error error => exact .fails error
        | ok a =>
          dsimp only
          split
          next hfound => exact .misses a hfound
          next session hfound =>
            split
            next hoffers => exact .asks a session hfound hoffers
            next hlacks => exact .spares a session hfound (Bool.eq_false_iff.mpr hlacks)
  | probing ecosystem a query deadline rest checked =>
    simp only [step, Proxy.withCache]
    cases hstep : proxy.cache.stepSession a (query.step now) with
    | mk cache progress =>
      cases progress with
      | moved query' => exact .probes ecosystem a query query' deadline rest checked cache hstep
      | finished result => exact .hears ecosystem a query deadline rest checked cache result hstep
      | blocked =>
        dsimp only
        split
        next hlate => exact .givesUp ecosystem a query deadline rest checked cache hstep hlate
        next => exact .waits _ _

/-! ### Slots and adapters -/

/-- A question that has to wait changes nothing. -/
theorem eq_of_blocked {query : QueryPoint} {s : Session} (h : (query.step now s).2 = .blocked) :
    query.step now s = (s, .blocked) := by
  have hsend {send : SendPoint} {m : Session} (h : send.step s = (m, .blocked)) : m = s := by
    unfold SendPoint.step at h
    split at h
    · cases h
    · split at h
      · cases h
      · cases h
      · exact (Prod.mk.inj h).1.symm
  have hcall (call : CallPoint) (h : (call.step now s).2 = .blocked) :
      call.step now s = (s, .blocked) := by
    rcases CallPoint.blocked_cases h with ⟨reply, send, rfl, -⟩ | ⟨reply, link, rfl, -⟩
    · simp only [CallPoint.step] at h ⊢
      split at h
      · cases h
      · cases h
      · cases h
      next hstep => rw [hsend hstep]
    · simp only [CallPoint.step] at h ⊢
      split at h
      · cases h
      · rfl
  have hafter (wanted : Query) (call : CallPoint)
      (h : (QueryPoint.afterCall wanted (call.step now s)).2 = .blocked) :
      QueryPoint.afterCall wanted (call.step now s) = (s, .blocked) := by
    have hblocked : (call.step now s).2 = .blocked := by
      generalize call.step now s = stepped at h ⊢
      obtain ⟨m, progress⟩ := stepped
      cases progress with
      | blocked => rfl
      | moved next => cases h
      | finished result =>
        simp only [QueryPoint.afterCall, QueryPoint.finish] at h
        split at h <;> cases h
    rw [hcall call hblocked]
    rfl
  cases query with
  | starting wanted =>
    simp only [QueryPoint.step] at h ⊢
    split at h
    next haccepts =>
      rw [if_pos haccepts]
      exact hafter wanted _ h
    next => cases h
  | calling wanted call => exact hafter wanted call h

/-- A question that is given up leaves the core of the session as it was. -/
theorem alike_cancel (query : QueryPoint) (adapter : Adapter) :
    adapter.Alike { adapter with session := query.cancel adapter.session } := by
  cases query with
  | starting wanted => exact .refl adapter
  | calling wanted call => exact ⟨rfl, (call.quiet_cancel adapter.session).core⟩

theorem stepSession_of_blocked {a : AdapterId} {query : QueryPoint} {cache m : Cache}
    (h : cache.stepSession a (query.step now) = (m, .blocked)) : m = cache := by
  rcases cache.stepSession_cases a (query.step now) with heq | ⟨adapter, ha, heq⟩
  · exact (Prod.mk.inj (h.symm.trans heq)).1
  · obtain ⟨hm, hblocked⟩ := Prod.mk.inj (h.symm.trans heq)
    have hsame := eq_of_blocked hblocked.symm
    rw [hm, hsame]
    have hadapters : (cache.adapters.modify a fun _ => adapter) = cache.adapters := by
      refine List.ext_getElem? fun b => ?_
      by_cases hab : a = b
      · subst hab
        rw [List.getElem?_modify_eq, ha]
        rfl
      · exact List.getElem?_modify_ne _ _ hab
    show { cache with adapters := cache.adapters.modify a fun _ => adapter } = cache
    rw [hadapters]

variable {mayDesert : Prop} {stance : Stance} {job? : Option Job} {ecosystem : Ecosystem}
  {rest : List Ecosystem} {checked : Nat} {cache : Cache} {result : Except CacheError AdapterId}
  {stepped : Checked}

/-- A step of a pass is nothing but moves among the slots. -/
theorem visit_step (point : CheckPoint) (hgoes : (point.step now wall files proxy).2 ≠ .blocked) :
    ∃ taken, VisitMoves now mayDesert ⟨proxy.cache, point.stance, none⟩
      ⟨(point.step now wall files proxy).1.cache,
        (point.step now wall files proxy).2.stance CheckPoint.stance, taken⟩ := by
  have hmoves := point.step_moves now wall files proxy
  generalize point.step now wall files proxy = stepped at hmoves hgoes
  have hreconnect (reconnect : ReconnectPoint) :
      ReconnectPoint.Leads now mayDesert ⟨proxy.cache, reconnect.stance, none⟩ reconnect.stance
        (reconnect.step now files proxy.cache) := reconnect.visit_step files proxy.cache
  have hquery (a : AdapterId) (query : QueryPoint) :
      VisitMoves now mayDesert ⟨proxy.cache, .has [], none⟩
        ⟨(proxy.cache.stepSession a (query.step now)).1, .has [], none⟩ := by
    rcases proxy.cache.stepSession_cases a (query.step now) with heq | ⟨adapter, ha, heq⟩
    · rw [heq]
    · rw [heq]
      refine .single (.touches _ _ _ a _ fun found hfound => ?_)
      obtain rfl : adapter = found := Option.some.inj (ha.symm.trans hfound)
      exact Adapter.calm_query query adapter
  cases hmoves with
  | chooses | finishes | turnsTo => exact ⟨none, .refl⟩
  | waits => exact absurd rfl hgoes
  | ensures ecosystem reconnect reconnect' rest checked cache step =>
    have hvisit := hreconnect reconnect
    rw [step] at hvisit
    exact ⟨_, hvisit nofun⟩
  | ensured ecosystem reconnect rest checked cache result _ step goesOn =>
    have hvisit := hreconnect reconnect
    rw [step] at hvisit
    have hdone := hvisit nofun
    cases goesOn with
    | misses => exact absurd rfl hgoes
    | fails | asks | spares => exact ⟨_, hdone⟩
  | probes ecosystem a query query' deadline rest checked cache step =>
    have hasks := hquery a query
    rw [step] at hasks
    exact ⟨none, hasks⟩
  | hears ecosystem a query deadline rest checked cache result step =>
    have hasks := hquery a query
    rw [step] at hasks
    exact ⟨none, hasks⟩
  | givesUp ecosystem a query deadline rest checked cache step late =>
    obtain rfl := stepSession_of_blocked step
    refine ⟨none, .single (.touches _ _ _ a _ fun adapter _ => ?_)⟩
    exact (alike_cancel query adapter).calm

/-- A step of a pass is nothing but moves at the adapters. -/
theorem works_step (point : CheckPoint) (hgoes : (point.step now wall files proxy).2 ≠ .blocked) :
    proxy.cache.Works now files point.job? (point.step now wall files proxy).1.cache
      ((point.step now wall files proxy).2.point?.bind CheckPoint.job?) := by
  have hmoves := point.step_moves now wall files proxy
  generalize point.step now wall files proxy = stepped at hmoves hgoes
  have hreconnect (reconnect : ReconnectPoint) :=
    reconnect.works_step now files proxy.cache
  have hstart := Cache.Works.refl now files proxy.cache
  have hquery {a : AdapterId} {query : QueryPoint} {cache : Cache}
      {progress : Progress QueryPoint (Except SessionError Answer)}
      (step : proxy.cache.stepSession a (query.step now) = (cache, progress))
      (hprogress : progress ≠ .blocked) :
      proxy.cache.Works now files (some (a, .onSession (.ask query))) cache
        (sessionJob a SessionTask.ask progress) := by
    have hasks (hgoes : (proxy.cache.stepSession a (query.step now)).2 ≠ .blocked) :
        proxy.cache.Works now files (some (a, .onSession (.ask query)))
          (proxy.cache.stepSession a (query.step now)).1
          (sessionJob a SessionTask.ask (proxy.cache.stepSession a (query.step now)).2) :=
      (hstart _).stepSession (fun _ => rfl) hgoes
    rw [step] at hasks
    exact hasks hprogress
  cases hmoves with
  | chooses | finishes | turnsTo => exact hstart none
  | waits => exact absurd rfl hgoes
  | ensures ecosystem reconnect reconnect' rest checked cache step =>
    have hworks := hreconnect reconnect
    rw [step] at hworks
    exact hworks nofun
  | ensured ecosystem reconnect rest checked cache result _ step goesOn =>
    have hworks := hreconnect reconnect
    rw [step] at hworks
    have hdone : proxy.cache.Works now files reconnect.job? cache none := hworks nofun
    cases goesOn with
    | misses => exact absurd rfl hgoes
    | fails | spares => exact hdone
    | asks a => exact hdone.begins a (.probe "")
  | probes ecosystem a query query' deadline rest checked cache step => exact hquery step nofun
  | hears ecosystem a query deadline rest checked cache result step => exact hquery step nofun
  | givesUp ecosystem a query deadline rest checked cache step late =>
    obtain rfl := stepSession_of_blocked step
    exact (hstart _).givesUp

theorem visit_cancel (point : CheckPoint) (proxy : Proxy) :
    VisitMoves now True ⟨proxy.cache, point.stance, none⟩
      ⟨(point.cancel proxy).cache, .has [], none⟩ := by
  cases point with
  | starting | passing => exact .refl
  | ensuring ecosystem reconnect rest checked =>
    exact (CacheTask.ensure reconnect).visit_cancel proxy.cache
  | probing ecosystem a query deadline rest checked =>
    exact .single (.touches _ _ _ a _ fun adapter _ => (alike_cancel query adapter).calm)

theorem works_cancel (now : Instant) (files : Option Tree) (point : CheckPoint) (proxy : Proxy) :
    proxy.cache.Works now files point.job? (point.cancel proxy).cache none := by
  have hstart := Cache.Works.refl now files proxy.cache point.job?
  cases point with
  | starting | passing => exact hstart
  | ensuring ecosystem reconnect rest checked => exact reconnect.works_cancel now files proxy.cache
  | probing ecosystem a query deadline rest checked => exact hstart.givesUp

end CheckPoint

/-! ### Any step -/

namespace ProxyTask

variable {now : Instant} {input : ProxyInput} {proxy : Proxy}

theorem visit_step (task : ProxyTask) (hgoes : (task.step now input proxy).2 ≠ .blocked) :
    ∃ taken, VisitMoves now True ⟨proxy.cache, task.stance, none⟩
      ⟨(task.step now input proxy).1.cache, (task.step now input proxy).2.stance ProxyTask.stance,
        taken⟩ := by
  have hstance {π ρ : Type} {make : π → ProxyTask} {reply : ρ → ProxyReply} {stanceOf : π → Stance}
      (hmake : ∀ point, (make point).stance = stanceOf point) (progress : Progress π ρ) :
      (progress.map make reply).stance ProxyTask.stance = progress.stance stanceOf := by
    cases progress with
    | blocked | finished => rfl
    | moved point => exact hmake point
  cases task with
  | onCache task =>
    have hpoint : (task.step now input.files proxy.cache).2 ≠ .blocked :=
      Stepped.ne_blocked_of_map hgoes
    refine ⟨task.evicts (task.step now input.files proxy.cache).2, ?_⟩
    rw [step, Stepped.map, hstance fun _ => rfl]
    exact task.visit_step input.files proxy.cache hpoint
  | check point =>
    have hpoint : (point.step now input.wall input.files proxy).2 ≠ .blocked :=
      Stepped.ne_blocked_of_map hgoes
    rw [step, Stepped.map, hstance fun _ => rfl]
    exact point.visit_step hpoint

theorem works_step (task : ProxyTask) (hgoes : (task.step now input proxy).2 ≠ .blocked) :
    proxy.cache.Works now input.files task.job? (task.step now input proxy).1.cache
      ((task.step now input proxy).2.point?.bind ProxyTask.job?) := by
  have hjob {π ρ : Type} {make : π → ProxyTask} {reply : ρ → ProxyReply} {pointJob? : π → Option Job}
      (hmake : ∀ point, (make point).job? = pointJob? point) (progress : Progress π ρ) :
      (progress.map make reply).point?.bind ProxyTask.job? = progress.point?.bind pointJob? := by
    cases progress with
    | blocked | finished => rfl
    | moved point => exact hmake point
  cases task with
  | onCache task =>
    rw [step, Stepped.map, hjob fun _ => rfl]
    exact task.works_step now input.files proxy.cache (Stepped.ne_blocked_of_map hgoes)
  | check point =>
    rw [step, Stepped.map, hjob fun _ => rfl]
    exact point.works_step (Stepped.ne_blocked_of_map hgoes)

theorem visit_cancel (task : ProxyTask) (proxy : Proxy) :
    VisitMoves now True ⟨proxy.cache, task.stance, none⟩
      ⟨(task.cancel proxy).cache, .has [], none⟩ := by
  cases task with
  | onCache task => exact task.visit_cancel proxy.cache
  | check point => exact point.visit_cancel proxy

theorem works_cancel (now : Instant) (files : Option Tree) (task : ProxyTask) (proxy : Proxy) :
    proxy.cache.Works now files task.job? (task.cancel proxy).cache none := by
  cases task with
  | onCache task => exact task.works_cancel now files proxy.cache
  | check point => exact point.works_cancel now files proxy

/-- Whoever begins has no slot. -/
theorem stance_enter (call : ProxyCall) : (enter call).stance = .has [] := by
  cases call with
  | onCache call => cases call <;> rfl
  | check => rfl

/-- Whoever begins has nothing under way, unless he asks a question. -/
theorem works_enter (now : Instant) (files : Option Tree) (call : ProxyCall) (cache : Cache) :
    cache.Works now files none cache (enter call).job? := by
  have hstart := Cache.Works.refl now files cache none
  cases call with
  | onCache call =>
    cases call with
    | ask a inquiry => exact hstart.begins a (.ask inquiry)
    | find | findFor | ensure | revive | disconnect | disconnectAll => exact hstart
  | check => exact hstart

end ProxyTask

/-! ### Any event -/

namespace ProxyCourse

variable {course : ProxyCourse} {i : Nat} {task : ProxyTask} {shared : Proxy}

theorem stanceOf_of_task? (hi : course.task? i = some task) : course.stanceOf i = task.stance := by
  rw [stanceOf, hi]
  rfl

theorem jobOf_of_task? (hi : course.task? i = some task) : course.jobOf i = task.job? := by
  rw [jobOf, hi]
  rfl

theorem task?_put (hi : course.task? i = some task)
    (standing : Standing ProxyTask (Option ProxyReply)) :
    Crowd.task? (course.put i shared standing) =
      Function.update course.task? i standing.point? := by
  funext j
  by_cases hj : j = i
  · subst hj
    rw [Function.update_self, Crowd.task?_put_self hi]
  · rw [Function.update_of_ne hj, Crowd.task?_put_of_ne (Ne.symm hj)]

theorem task?_concat (course : ProxyCourse) (task : ProxyTask) :
    Crowd.task? ({ course with tasks := course.tasks ++ [.waiting task] } : ProxyCourse) =
      Function.update course.task? course.tasks.length (some task) := by
  funext j
  by_cases hj : j = course.tasks.length
  · subst hj
    rw [Function.update_self, Crowd.task?_concat_self]
  · rw [Function.update_of_ne hj, Crowd.task?_concat_of_ne hj]

theorem stanceOf_update {course' : ProxyCourse} {task? : Option ProxyTask}
    (h : course'.task? = Function.update course.task? i task?) :
    course'.stanceOf =
      Function.update course.stanceOf i ((task?.map ProxyTask.stance).getD (.has [])) := by
  funext j
  rw [stanceOf, h]
  by_cases hj : j = i
  · subst hj
    rw [Function.update_self, Function.update_self]
  · rw [Function.update_of_ne hj, Function.update_of_ne hj]
    rfl

theorem jobsAt_update {course' : ProxyCourse} {task? : Option ProxyTask} (a : AdapterId)
    (h : course'.task? = Function.update course.task? i task?) :
    course'.jobsAt a =
      Function.update (course.jobsAt a) i (jobOn (task?.bind ProxyTask.job?) a) := by
  funext j
  rw [jobsAt, jobOf, h]
  by_cases hj : j = i
  · subst hj
    rw [Function.update_self, Function.update_self]
  · rw [Function.update_of_ne hj, Function.update_of_ne hj]
    rfl

/-- What an event is to one of those who go on, and to everybody else. -/
inductive Goes (course course' : ProxyCourse) : ProxyEvent → Prop where
  | idles (event : ProxyEvent) (shared : course'.shared = course.shared)
      (tasks : course'.task? = course.task?) : Goes course course' event
  | begins (call : ProxyCall) (shared : course'.shared = course.shared)
      (tasks : course'.task? =
        Function.update course.task? course.tasks.length (some (.enter call))) :
      Goes course course' (.begin call)
  | steps (i : Nat) (input : ProxyInput) (task : ProxyTask) (stands : course.task? i = some task)
      (goes : (task.step course.now input course.shared).2 ≠ .blocked)
      (shared : course'.shared = (task.step course.now input course.shared).1)
      (tasks : course'.task? = Function.update course.task? i
        (task.step course.now input course.shared).2.point?) :
      Goes course course' (.step i input)
  | givesUp (i : Nat) (task : ProxyTask) (stands : course.task? i = some task)
      (shared : course'.shared = task.cancel course.shared)
      (tasks : course'.task? = Function.update course.task? i none) :
      Goes course course' (.giveUp i)
  | occurs (event : ServerEvent)
      (shared : course'.shared = proxyRules.occur course.now event course.shared)
      (tasks : course'.task? = course.task?) : Goes course course' (.occur event)

theorem goes_next (course : ProxyCourse) (event : ProxyEvent) :
    Goes course (proxyRules.next course event) event := by
  have hmoves := proxyRules.next_moves course event
  generalize proxyRules.next course event = course' at hmoves
  cases hmoves with
  | blocks | misses | waits => exact .idles _ rfl rfl
  | begins call => exact .begins call rfl (task?_concat course _)
  | moves i input task task' shared stands step =>
    have hstep : task.step course.now input course.shared = (shared, .moved task') := step
    refine .steps i input task stands ?_ ?_ ?_
    · rw [hstep]
      exact nofun
    · rw [hstep]
      rfl
    · rw [hstep]
      exact task?_put stands _
  | finishes i input task result shared stands step =>
    have hstep : task.step course.now input course.shared = (shared, .finished result) := step
    refine .steps i input task stands ?_ ?_ ?_
    · rw [hstep]
      exact nofun
    · rw [hstep]
      rfl
    · rw [hstep]
      exact task?_put stands _
  | givesUp i task stands => exact .givesUp i task stands rfl (task?_put stands _)
  | occurs event => exact .occurs event rfl rfl

/-- Every event is nothing but moves of one operation among the slots. -/
theorem visit_next (course : ProxyCourse) (event : ProxyEvent) :
    ∃ i stance taken, VisitMoves course.now True ⟨course.shared.cache, course.stanceOf i, none⟩
        ⟨(proxyRules.next course event).shared.cache, stance, taken⟩ ∧
      stanceOf (proxyRules.next course event) = Function.update course.stanceOf i stance := by
  have hgoes := course.goes_next event
  generalize proxyRules.next course event = course' at hgoes
  have hsame {course' : ProxyCourse} (h : course'.task? = course.task?) :
      course'.stanceOf = Function.update course.stanceOf 0 (course.stanceOf 0) := by
    rw [Function.update_eq_self]
    funext i
    rw [stanceOf, h]
    rfl
  cases hgoes with
  | idles event shared tasks =>
    rw [shared]
    exact ⟨0, _, none, .refl, hsame tasks⟩
  | begins call shared tasks =>
    rw [shared]
    refine ⟨course.tasks.length, .has [], none, ?_, ?_⟩
    · rw [stanceOf, Crowd.task?_length]
      exact .refl
    · rw [stanceOf_update tasks]
      exact congrArg _ (ProxyTask.stance_enter call)
  | steps i input task stands goes shared tasks =>
    obtain ⟨taken, hvisit⟩ := task.visit_step goes
    refine ⟨i, (task.step course.now input course.shared).2.stance ProxyTask.stance, taken, ?_, ?_⟩
    · rw [shared, stanceOf_of_task? stands]
      exact hvisit
    · rw [stanceOf_update tasks]
      cases (task.step course.now input course.shared).2 <;> rfl
  | givesUp i task stands shared tasks =>
    rw [shared]
    refine ⟨i, .has [], none, ?_, stanceOf_update tasks⟩
    rw [stanceOf_of_task? stands]
    exact task.visit_cancel course.shared
  | occurs event shared tasks =>
    rw [shared]
    refine ⟨0, _, none, .single (.touches _ _ none event.adapter _ ?_), hsame tasks⟩
    exact fun adapter _ => ⟨rfl, Session.shifts_undergo course.now event.event adapter.session⟩

/-- Every event that is not something that happens to a session is nothing but moves of one
    operation at the adapters. -/
theorem works_next (course : ProxyCourse) {event : ProxyEvent}
    (hevent : ∀ occurrence, event ≠ .occur occurrence) :
    ∃ i files job?, course.shared.cache.Works course.now files (course.jobOf i)
        (proxyRules.next course event).shared.cache job? ∧
      ∀ a, jobsAt (proxyRules.next course event) a =
        Function.update (course.jobsAt a) i (jobOn job? a) := by
  have hgoes := course.goes_next event
  generalize proxyRules.next course event = course' at hgoes
  cases hgoes with
  | idles event shared tasks =>
    refine ⟨0, none, course.jobOf 0, ?_, fun a => ?_⟩
    · rw [shared]
      exact .refl _ _ _ _
    · rw [show jobOn (course.jobOf 0) a = course.jobsAt a 0 from rfl, Function.update_eq_self]
      funext i
      rw [jobsAt, jobOf, tasks]
      rfl
  | begins call shared tasks =>
    refine ⟨course.tasks.length, none, (ProxyTask.enter call).job?, ?_, fun a => ?_⟩
    · rw [shared, jobOf, Crowd.task?_length]
      exact ProxyTask.works_enter _ _ call _
    · exact jobsAt_update a tasks
  | steps i input task stands goes shared tasks =>
    refine ⟨i, input.files, _, ?_, fun a => jobsAt_update a tasks⟩
    rw [shared, jobOf_of_task? stands]
    exact task.works_step goes
  | givesUp i task stands shared tasks =>
    refine ⟨i, none, none, ?_, fun a => jobsAt_update a tasks⟩
    rw [shared, jobOf_of_task? stands]
    exact task.works_cancel _ _ course.shared
  | occurs occurrence => exact absurd rfl (hevent occurrence)

end ProxyCourse

/-! ### Slots in good order -/

/-- Changes that leave the line for a slot alone. -/
theorem Cache.turns_updateSlot {cache : Cache} {id : SlotId} {change : Slot → Slot}
    (hchange : ∀ slot, (change slot).turns = slot.turns) (other : SlotId) :
    ((cache.updateSlot id change).slotAt other).turns = (cache.slotAt other).turns := by
  by_cases hid : id = other
  · subst hid
    cases hslot : cache.slots[id]? with
    | none => simp [slotAt, updateSlot, hslot]
    | some slot => simp [slotAt, updateSlot, hslot, hchange]
  · rw [slotAt_updateSlot_of_ne hid]

namespace Tidy

variable {count i : Nat} {stanceOf : Nat → Stance} {now : Instant} {mayDesert : Prop}
  {visit visit' : Visit}

/-- What a move does to the line for a slot. -/
theorem shifts_move (hmove : VisitMove now mayDesert visit visit')
    (h : Tidy visit.cache count (Function.update stanceOf i visit.stance)) (id : SlotId) :
    (visit.cache.slotAt id).turns.Shifts (visit.stance.ticketAt id)
      (visit'.cache.slotAt id).turns (visit'.stance.ticketAt id) := by
  have hsame {turns turns' : Turns} {before after : Option Ticket} (hturns : turns' = turns)
      (hticket : after = before) : turns.Shifts before turns' after := by
    rw [hturns, hticket]
    exact .stays _
  have hupdated {cache : Cache} {slot : SlotId} {change : Slot → Slot} (ticket? : Option Ticket)
      (hchange : ∀ slot, (change slot).turns = slot.turns) :
      (cache.slotAt id).turns.Shifts ticket? ((cache.updateSlot slot change).slotAt id).turns
        ticket? := hsame (Cache.turns_updateSlot hchange id) rfl
  have hlt {claim : CacheKey × SlotId} (hclaim : claim ∈ visit.stance.claims) :
      claim.2 < visit.cache.slots.length := by
    refine h.mapped_lt claim (h.claimed i claim ?_)
    rw [Function.update_self]
    exact hclaim
  have hleaves {cache : Cache} {seat : Seat} (stance : Stance) (rest : List (CacheKey × SlotId))
      (hseat : stance.seat? = some seat) (hslot : seat.slot < cache.slots.length) :
      (cache.slotAt id).turns.Shifts (stance.ticketAt id)
        ((cache.leaveSlot seat.slot seat.ticket).slotAt id).turns
        ((Stance.has rest).ticketAt id) := by
    by_cases hid : seat.slot = id
    · subst hid
      rw [Stance.ticketAt_of_seat? hseat, Cache.leaveSlot, Cache.slotAt_updateSlot_self hslot]
      exact .leaves seat.ticket
    · refine hsame (congrArg Slot.turns (Cache.slotAt_updateSlot_of_ne hid _)) ?_
      rw [Stance.ticketAt_of_ne hseat hid]
      rfl
  cases hmove with
  | touches | enters | finds | pauses | works | stops | closes | unmaps => exact hsame rfl rfl
  | takes | drops => exact hupdated none fun _ => rfl
  | empties => exact hupdated _ fun _ => rfl
  | opens cache taken key fresh =>
    refine hsame ?_ rfl
    rcases Nat.lt_trichotomy id cache.slots.length with hbefore | rfl | hbehind
    · simp [Cache.slotAt, Cache.openSlot, List.getElem?_append_left hbefore]
    · simp [Cache.slotAt, Cache.openSlot]
    · have hnone : (cache.slots ++ [({ holders := 1 } : Slot)])[id]? = none := by
        rw [List.getElem?_eq_none_iff, List.length_append, List.length_singleton]
        omega
      simp [Cache.slotAt, Cache.openSlot, hnone, List.getElem?_eq_none (Nat.le_of_lt hbehind)]
  | approaches cache rest taken claim =>
    by_cases hid : claim.2 = id
    · subst hid
      have hjoined : ((cache.joinSlot claim.2).2.slotAt claim.2).turns =
          (cache.slotAt claim.2).turns.join.2 :=
        congrArg Slot.turns (Cache.slotAt_updateSlot_self (hlt List.mem_cons_self) _)
      have hticket : (Stance.queued ⟨claim.1, claim.2, (cache.joinSlot claim.2).1⟩ rest).ticketAt
          claim.2 = some (cache.slotAt claim.2).turns.join.1 := if_pos rfl
      rw [hjoined, hticket]
      exact .joins
    · refine hsame (congrArg Slot.turns (Cache.slotAt_updateSlot_of_ne hid _)) ?_
      exact if_neg hid
  | makes cache seat rest taken server empty =>
    refine hsame ?_ rfl
    simp only [Cache.adapterIn, empty]
    refine (Cache.turns_updateSlot ?_ id).trans rfl
    exact fun _ => rfl
  | leaves cache seat rest taken work done =>
    exact hleaves (.inside seat rest work) _ rfl (@hlt seat.claim List.mem_cons_self)
  | turnsBack cache seat rest taken =>
    exact hleaves (.queued seat rest) _ rfl (@hlt seat.claim List.mem_cons_self)

/-- Those in line for a slot stay those with a ticket. -/
theorem lists_moves (hmoves : VisitMoves now mayDesert visit visit') (hi : i < count)
    (h : Tidy visit.cache count (Function.update stanceOf i visit.stance))
    (hlists : ∀ id, (visit.cache.slotAt id).turns.Lists
      fun j => (Function.update stanceOf i visit.stance j).ticketAt id) (id : SlotId) :
    (visit'.cache.slotAt id).turns.Lists
      fun j => (Function.update stanceOf i visit'.stance j).ticketAt id := by
  induction hmoves with
  | refl => exact hlists id
  | @tail middle last hmoves hmove ih =>
    have hmiddle := h.moves hmoves hi
    have hself (visit : Visit) :
        (Function.update stanceOf i visit.stance i).ticketAt id = visit.stance.ticketAt id := by
      rw [Function.update_self]
    have hshifts := hmiddle.shifts_move hmove id
    rw [← hself middle, ← hself last] at hshifts
    refine ih.shifts (hmiddle.line id) hshifts fun j hj => ?_
    rw [Function.update_of_ne hj, Function.update_of_ne hj]

end Tidy

namespace ProxyCourse

/-- The slots are in good order, and those in line for one are those with a ticket. -/
structure InOrder (course : ProxyCourse) : Prop where
  tidy : ∃ count, Tidy course.shared.cache count course.stanceOf
  lines : ∀ id, (course.shared.cache.slotAt id).turns.Lists fun i => (course.stanceOf i).ticketAt id

variable {course : ProxyCourse}

theorem InOrder.next (h : course.InOrder) (event : ProxyEvent) :
    InOrder (proxyRules.next course event) := by
  obtain ⟨count, htidy⟩ := h.tidy
  obtain ⟨i, stance, taken, hmoves, hstances⟩ := course.visit_next event
  have hi : i < max count (i + 1) := Nat.le_max_right count (i + 1)
  have hlonger : Tidy course.shared.cache (max count (i + 1))
      (Function.update course.stanceOf i (course.stanceOf i)) := by
    rw [Function.update_eq_self]
    exact htidy.mono (Nat.le_max_left count (i + 1))
  have hlists (id : SlotId) : (course.shared.cache.slotAt id).turns.Lists
      fun j => (Function.update course.stanceOf i (course.stanceOf i) j).ticketAt id := by
    rw [Function.update_eq_self]
    exact h.lines id
  refine ⟨⟨max count (i + 1), ?_⟩, fun id => ?_⟩
  · rw [hstances]
    exact hlonger.moves hmoves hi
  · rw [hstances]
    exact hlonger.lists_moves hmoves hi hlists id

theorem inOrder_start (workspace : Path) (servers : ServerTable) (settings : SearchSettings) :
    (start workspace servers settings).InOrder := by
  refine ⟨CacheCourse.isTidy_start servers settings, fun id => ⟨fun _ => rfl, List.nodup_nil, ?_⟩⟩
  intro ticket
  constructor
  · rintro ⟨⟩
  · rintro ⟨i, ⟨⟩⟩

theorem IsReached.inOrder (h : course.IsReached) : course.InOrder := by
  obtain ⟨workspace, servers, settings, events, rfl⟩ := h
  exact proxyRules.history_induction (motive := fun _ course => InOrder course)
    (inOrder_start workspace servers settings) (fun _ _ event h => h.next event) events

end ProxyCourse

end SymbolSearch
