import SymbolSearch.Proofs.Proxy.Isolation
import SymbolSearch.Proxy.Answering

/-!
# Requests to search for symbols

* `HttpPoint.FansOut` — what is promised of a request to search for symbols: which ones are refused,
  when the others are answered, what the answer is, and that the ecosystems do not get in each
  other's way. `HttpPoint.fansOut_symbols` shows it.
-/

namespace SymbolSearch

/-- Whether operations may have come to where they stand. -/
def CacheCourse.IsReached (course : CacheCourse) : Prop :=
  ∃ (servers : ServerTable) (settings : SearchSettings) (events : List CacheEvent),
    cacheRules.after (start servers settings) events = course

theorem CacheCourse.IsReached.isTidy {course : CacheCourse} (h : course.IsReached) :
    course.IsTidy := by
  obtain ⟨servers, settings, events, rfl⟩ := h
  exact isTidy_after servers settings events

/-- A search is asked for with the one method that there is for it. -/
theorem Route.method_of_symbols {request : HttpRequest} (h : Route.of request = .ok .symbols) :
    request.method = "POST" := by
  unfold Route.of at h
  split at h
  next => cases h
  next method route hlookup =>
    split at h
    next hmethod =>
      obtain rfl := Except.ok.inj h
      obtain ⟨before, after, htable, -⟩ := List.lookup_eq_some_iff.mp hlookup
      have hmem : (request.path, method, Route.symbols) ∈ Route.table := by
        rw [htable]
        simp
      obtain rfl : method = "POST" := by
        simp only [Route.table, List.mem_cons, Prod.mk.injEq, reduceCtorEq, and_false, and_true,
          false_or, or_false, List.not_mem_nil] at hmem
        exact hmem.2
      simpa using hmethod
    next => cases h

namespace HttpPoint

/-- What is promised of a request to search for symbols, as `query` says, that a proxy gets while
    other operations are in progress. -/
structure FansOut (request : HttpRequest) (query : Api.SymbolQuery) (proxy : Proxy)
    (others : CacheTasks) (now : Instant) : Prop where
  /-- It is refused at once if a name is not that of a configured ecosystem. -/
  refused : (∃ name ∈ query.ecosystems, proxy.named? name = none) → ∀ files,
    ∃ name ∈ query.ecosystems, proxy.named? name = none ∧
      (starting request).step now files proxy = (proxy, .finished
        ⟨400, some (Api.ErrorBody.toJson ⟨400, "unknown ecosystem " ++ Text.quoted name⟩)⟩)
  /-- Otherwise a search begins in the chosen ecosystems. -/
  begun : (∀ name ∈ query.ecosystems, proxy.named? name ≠ none) → ∀ files,
    (starting request).step now files proxy =
      (proxy, .moved (.searching (FanCourse.first proxy others now query).fan))
  /-- No ecosystem is chosen twice, and they are sorted if all are. -/
  distinct : (proxy.chosen query.ecosystems).Nodup
  sorted : query.ecosystems = [] →
    ((proxy.chosen query.ecosystems).map (·.name)).Pairwise (· < ·)
  /-- The answer is given once the searches in all of them have ended, whatever has happened in the
      meantime, and it puts their hauls together. -/
  answered : ∀ (events : List FanEvent) (course : FanCourse) (hauls : Ecosystem → Haul) files,
    course = (FanCourse.first proxy others now query).after events →
    (∀ ecosystem ∈ proxy.chosen query.ecosystems,
      course.haul? ecosystem = some (hauls ecosystem)) →
    ∃ answer : Api.SymbolAnswer,
      (searching course.fan).step course.now files course.proxy =
          (course.proxy, .finished ⟨200, some answer.toJson⟩) ∧
        answer.Tallies (Text.trim query.query) (proxy.chosen query.ecosystems) ∧
        ∀ ecosystem ∈ proxy.chosen query.ecosystems, answer.Shows ecosystem (hauls ecosystem)
  /-- Until then the request goes on, unless every search that has not ended has to wait. -/
  unanswered : ∀ (events : List FanEvent) (course : FanCourse) files,
    course = (FanCourse.first proxy others now query).after events →
    (∃ ecosystem ∈ proxy.chosen query.ecosystems, course.haul? ecosystem = none) →
    (∃ fan, ((searching course.fan).step course.now files course.proxy).2 =
        .moved (.searching fan)) ∨
      ((searching course.fan).step course.now files course.proxy).2 = .blocked ∧
        ∀ point, .waiting point ∈ course.fan.searches →
          (point.step course.now files course.proxy).2 = .blocked
  /-- The search in an ecosystem that no other operation uses comes to what it comes to alone, and
      it can go on exactly if it could alone. -/
  alone : CacheCourse.IsReached ⟨proxy.cache, others, now⟩ →
    ∀ (events : List FanEvent) (course : FanCourse) (ecosystem : Ecosystem) (lone : LoneSearch),
      course = (FanCourse.first proxy others now query).after events →
      (FanCourse.first proxy others now query).LeftAlone ecosystem events →
      ecosystem ∈ proxy.chosen query.ecosystems →
      lone = (LoneSearch.first proxy (Text.trim query.query) ecosystem).after ecosystem
        ((FanCourse.first proxy others now query).account ecosystem events) →
      course.haul? ecosystem = lone.search.result? ∧
        ∀ point, .waiting point ∈ course.fan.searches → point.ecosystem = ecosystem → ∀ now files,
          ∃ point', lone.search = .waiting point' ∧
            (point'.step now files lone.proxy).2.goes = (point.step now files course.proxy).2.goes
  /-- So it comes to the same whatever is searched for it in other ecosystems, and whatever becomes
      of that. -/
  isolated : CacheCourse.IsReached ⟨proxy.cache, others, now⟩ →
    ∀ (other : Api.SymbolQuery) (events events' : List FanEvent) (ecosystem : Ecosystem),
      Text.trim other.query = Text.trim query.query →
      ecosystem ∈ proxy.chosen query.ecosystems → ecosystem ∈ proxy.chosen other.ecosystems →
      (FanCourse.first proxy others now query).LeftAlone ecosystem events →
      (FanCourse.first proxy others now other).LeftAlone ecosystem events' →
      (FanCourse.first proxy others now query).account ecosystem events =
        (FanCourse.first proxy others now other).account ecosystem events' →
      ((FanCourse.first proxy others now query).after events).haul? ecosystem =
        ((FanCourse.first proxy others now other).after events').haul? ecosystem

variable {request : HttpRequest} {query : Api.SymbolQuery} {proxy : Proxy} {others : CacheTasks}
  {now : Instant} {course : FanCourse}

/-- The first step of a request that is read as a query. -/
theorem step_starting (hroute : Route.of request = .ok .symbols)
    (hdecoded : decodeRequest request Api.SymbolQuery.shape Api.SymbolQuery.fromJson? = .ok query)
    (now : Instant) (files : Option Tree) (proxy : Proxy) :
    (starting request).step now files proxy =
      match FanPoint.begin proxy query with
      | .error refusal => (proxy, .finished refusal.answer)
      | .ok fan => (proxy, .moved (.searching fan)) := by
  have hmethod : request.method ≠ "HEAD" := by
    rw [Route.method_of_symbols hroute]
    decide
  simp only [step, start, hroute, hdecoded]
  cases FanPoint.begin proxy query with
  | error refusal =>
    show (proxy, Progress.finished (cutBody request refusal.answer)) = _
    rw [cutBody, if_neg hmethod]
  | ok fan => rfl

/-- The first name that stands for no configured ecosystem. -/
theorem exists_first_unknown {names : List String} (h : ∃ name ∈ names, proxy.named? name = none) :
    ∃ before name after, names = before ++ name :: after ∧ proxy.named? name = none ∧
      ∀ other ∈ before, proxy.named? other ≠ none := by
  obtain ⟨name, hmem, hname⟩ := h
  cases hfound : names.find? fun name => (proxy.named? name).isNone with
  | none =>
    have hnone := List.find?_eq_none.mp hfound name hmem
    rw [hname] at hnone
    exact absurd rfl hnone
  | some first =>
    obtain ⟨hfirst, before, after, hnames, hbefore⟩ := List.find?_eq_some_iff_append.mp hfound
    refine ⟨before, first, after, hnames, Option.isNone_iff_eq_none.mp hfirst, ?_⟩
    intro other hother heq
    have hknown := hbefore other hother
    rw [heq] at hknown
    cases hknown

/-- All searches have ended once all ecosystems have their hauls. -/
theorem searches_ended {text : String} {chosen : List Ecosystem} (h : course.fan.Seeks text chosen)
    (hdistinct : chosen.Nodup) {hauls : Ecosystem → Haul}
    (hended : ∀ ecosystem ∈ chosen, course.haul? ecosystem = some (hauls ecosystem)) :
    course.fan.searches = (chosen.map hauls).map .ended ∧
      ∀ ecosystem ∈ chosen, (hauls ecosystem).outcome.ecosystem = ecosystem := by
  have hsame : ∀ standing ∈ course.fan.searches,
      standing = .ended (hauls (searchedIn standing)) := by
    intro standing hmem
    have hchosen : searchedIn standing ∈ chosen := h.searched ▸ List.mem_map_of_mem hmem
    have hresult := hended _ hchosen
    rw [FanCourse.haul?_of_mem (h.searched ▸ hdistinct) hmem] at hresult
    cases standing with
    | waiting point => cases hresult
    | ended haul => exact congrArg Standing.ended (Option.some.inj hresult)
  constructor
  · rw [← h.searched, List.map_map, List.map_map]
    exact (List.map_id _).symm.trans (List.map_congr_left hsame)
  · intro ecosystem hchosen
    rw [← h.searched] at hchosen
    obtain ⟨standing, hmem, rfl⟩ := List.mem_map.mp hchosen
    exact (congrArg searchedIn (hsame standing hmem)).symm

/-- As long as a search has not ended, the request goes on or has to wait. -/
theorem step_searching {text : String} {chosen : List Ecosystem}
    (h : course.fan.Seeks text chosen) (hdistinct : chosen.Nodup) {ecosystem : Ecosystem}
    (hchosen : ecosystem ∈ chosen) (hnone : course.haul? ecosystem = none) (now : Instant)
    (files : Option Tree) :
    (∃ fan, ((searching course.fan).step now files course.proxy).2 = .moved (.searching fan)) ∨
      ((searching course.fan).step now files course.proxy).2 = .blocked ∧
        ∀ point, .waiting point ∈ course.fan.searches →
          (point.step now files course.proxy).2 = .blocked := by
  have hmoves := course.fan.step_moves now files course.proxy
  simp only [step]
  generalize course.fan.step now files course.proxy = stepped at hmoves
  cases hmoves with
  | goes => exact .inl ⟨_, rfl⟩
  | waits point remains blocked => exact .inr ⟨rfl, firstReady?_eq_none_iff.mp blocked⟩
  | answers hauls ended =>
    rw [← h.searched] at hchosen
    obtain ⟨standing, hmem, rfl⟩ := List.mem_map.mp hchosen
    rw [FanCourse.haul?_of_mem (h.searched ▸ hdistinct) hmem] at hnone
    rw [ended] at hmem
    obtain ⟨haul, -, rfl⟩ := List.mem_map.mp hmem
    cases hnone

/-- A request to search for a text everywhere. -/
def searchEverywhere : HttpRequest where
  method := "POST"
  target := "/symbols"
  contentType := some "application/json"
  body := ⟨#[123, 34, 113, 117, 101, 114, 121, 34, 58, 34, 120, 34, 125]⟩

/-- A proxy with one configured ecosystem. -/
def soleProxy : Proxy where
  workspace := "/"
  cache := { servers := [(default, default)], settings := {} }

end HttpPoint

end SymbolSearch
