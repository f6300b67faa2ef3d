import Mathlib.Data.UInt
import SymbolSearch.Proofs.Cache.Course
import SymbolSearch.Proofs.Proxy.Choosing
import SymbolSearch.Proofs.Sync.Crowd

/-!
# What a search in several ecosystems comes to

* `FanMoves` and `FanPoint.step_moves` — what a step of a search in several ecosystems can do.
* `FanCourse` — such a search with its proxy, among whatever else happens; `FanCourse.after` is
  what any list of events leads to.
* `Haul.Tallies` and `Api.SymbolAnswer.Tallies` — the numbers and the hits fit the outcomes.
  `FanPoint.Seeks.answers` shows it of the answer, and `FanCourse.seeks_after` that it is the answer
  about the chosen ecosystems.
-/

namespace SymbolSearch

/-! ### One ecosystem -/

/-- The ecosystem in which a search looks. -/
def SearchPoint.ecosystem : SearchPoint → Ecosystem
  | .adopting ecosystem _ _ | .asking ecosystem _ _ => ecosystem

/-- The ecosystem of a search, whether it has ended or not. -/
def searchedIn : Standing SearchPoint Haul → Ecosystem
  | .waiting point => point.ecosystem
  | .ended haul => haul.outcome.ecosystem

/-- The hits are those of the ecosystem, the outcome says how many there are, and there are none
    after a failure. -/
structure Haul.Tallies (haul : Haul) : Prop where
  tagged : ∀ hit ∈ haul.hits, hit.ecosystem = haul.outcome.ecosystem
  counted : ∀ source count, haul.outcome.status = .ok source count →
    count = UInt64.ofNat haul.hits.length
  failed : haul.outcome.isOk = false → haul.hits = []

variable {now : Instant} {files : Option Tree} {proxy : Proxy}

theorem SearchPoint.tallies_haulOf (ecosystem : Ecosystem) (sourced : Sourced) :
    (haulOf ecosystem sourced).Tallies where
  tagged := by
    intro hit hmem
    obtain ⟨record, -, rfl⟩ := List.mem_map.mp hmem
    rfl
  counted := by
    rintro source count ⟨⟩
    rw [haulOf, List.length_map]
  failed := by rintro ⟨⟩

/-- A search stays in its ecosystem, and its haul tallies. -/
theorem SearchPoint.tallies_step {point : SearchPoint} {standing : Standing SearchPoint Haul}
    (h : (point.step now files proxy).2.standing? = some standing) :
    searchedIn standing = point.ecosystem ∧
      ∀ haul, standing = .ended haul → haul.Tallies := by
  cases point with
  | adopting ecosystem query adopt =>
    simp only [step] at h
    generalize adopt.step now files proxy = stepped at h
    obtain ⟨m, progress⟩ := stepped
    cases progress with
    | blocked => cases h
    | moved adopt =>
      cases h
      exact ⟨rfl, by rintro _ ⟨⟩⟩
    | finished result =>
      cases result with
      | ok adapter =>
        cases h
        exact ⟨rfl, by rintro _ ⟨⟩⟩
      | error unavailable =>
        cases h
        refine ⟨rfl, ?_⟩
        rintro _ ⟨⟩
        exact ⟨by rintro _ ⟨⟩, by rintro _ _ ⟨⟩, fun _ => rfl⟩
  | asking ecosystem adapter inquiry =>
    simp only [step] at h
    generalize proxy.withCache (proxy.cache.stepAdapter adapter (inquiry.step now files)) = stepped
      at h
    obtain ⟨m, progress⟩ := stepped
    cases progress with
    | blocked => cases h
    | moved inquiry =>
      cases h
      exact ⟨rfl, by rintro _ ⟨⟩⟩
    | finished sourced =>
      cases h
      refine ⟨rfl, ?_⟩
      rintro _ ⟨⟩
      exact tallies_haulOf ecosystem sourced

/-- The ecosystems stay the same when one search goes on. -/
theorem map_searchedIn_set {searches : List (Standing SearchPoint Haul)} {i : Nat}
    {point : SearchPoint} {standing : Standing SearchPoint Haul}
    (stands : searches[i]? = some (.waiting point))
    (stays : searchedIn standing = point.ecosystem) :
    (searches.set i standing).map searchedIn = searches.map searchedIn := by
  refine List.ext_getElem? fun j => ?_
  rw [List.getElem?_map, List.getElem?_map]
  by_cases hj : i = j
  · subst hj
    rw [List.getElem?_set_self (List.getElem?_eq_some_iff.mp stands).1, stands]
    exact congrArg some stays
  · rw [List.getElem?_set_ne hj]

/-! ### Several ecosystems -/

/-- What a step of a search in several ecosystems can do. -/
inductive FanMoves (now : Instant) (files : Option Tree) (fan : FanPoint) (proxy : Proxy) :
    Stepped Proxy FanPoint Api.SymbolAnswer → Prop where
  | answers (hauls : List Haul) (ended : fan.searches = hauls.map .ended) :
      FanMoves now files fan proxy (proxy, .finished (FanPoint.answerOf fan.query hauls))
  | goes (i : Nat) (point : SearchPoint) (standing : Standing SearchPoint Haul)
      (ready : firstReady? (SearchPoint.step now files) fan.searches proxy = some i)
      (stands : fan.searches[i]? = some (.waiting point))
      (comes : (point.step now files proxy).2.standing? = some standing) :
      FanMoves now files fan proxy ((point.step now files proxy).1,
        .moved { fan with searches := fan.searches.set i standing })
  | waits (point : SearchPoint) (remains : .waiting point ∈ fan.searches)
      (blocked : firstReady? (SearchPoint.step now files) fan.searches proxy = none) :
      FanMoves now files fan proxy (proxy, .blocked)

theorem FanPoint.step_moves (now : Instant) (files : Option Tree) (fan : FanPoint)
    (proxy : Proxy) : FanMoves now files fan proxy (fan.step now files proxy) := by
  unfold step
  split
  next hauls hresults => exact .answers hauls (Standing.results?_eq_some_iff.mp hresults)
  next hresults =>
    have hmoves := stepFirst_moves (SearchPoint.step now files) fan.searches proxy
    generalize stepFirst (SearchPoint.step now files) fan.searches proxy = stepped at hmoves
    cases hmoves with
    | stuck blocked =>
      obtain ⟨point, hmem⟩ := Standing.exists_waiting_of_results? hresults
      exact .waits point hmem blocked
    | goes i point standing ready stands comes => exact .goes i point standing ready stands comes

/-- A search for a text in some ecosystems. -/
structure FanPoint.Seeks (fan : FanPoint) (query : String) (chosen : List Ecosystem) : Prop where
  query : fan.query = query
  searched : fan.searches.map searchedIn = chosen
  hauls : ∀ haul, .ended haul ∈ fan.searches → haul.Tallies

namespace FanPoint

variable {fan : FanPoint} {query : String} {chosen : List Ecosystem} {request : Api.SymbolQuery}

/-- The first point of a search in the chosen ecosystems. -/
def first (proxy : Proxy) (request : Api.SymbolQuery) : FanPoint where
  query := Text.trim request.query
  searches := (proxy.chosen request.ecosystems).map fun ecosystem =>
    .waiting (.adopting ecosystem (Text.trim request.query) (AdoptPoint.begin proxy ecosystem))

theorem begin_named (hquery : (Text.trim request.query).isEmpty = false)
    (h : ∀ name ∈ request.ecosystems, proxy.named? name ≠ none) :
    FanPoint.begin proxy request = .ok (first proxy request) := by
  unfold FanPoint.begin
  simp only [hquery, chosenEcosystems_named h]
  rfl

theorem begin_unknown {before after : List String} {name : String}
    (hquery : (Text.trim request.query).isEmpty = false)
    (hnames : request.ecosystems = before ++ name :: after)
    (hbefore : ∀ other ∈ before, proxy.named? other ≠ none) (hname : proxy.named? name = none) :
    FanPoint.begin proxy request =
      .error (.badRequest ("unknown ecosystem " ++ Text.quoted name)) := by
  unfold FanPoint.begin
  simp only [hquery, hnames, chosenEcosystems_unknown hbefore hname]
  rfl

theorem seeks_first (proxy : Proxy) (request : Api.SymbolQuery) :
    (first proxy request).Seeks (Text.trim request.query) (proxy.chosen request.ecosystems) where
  query := rfl
  searched := by
    rw [first, List.map_map]
    exact List.map_id _
  hauls := by
    intro haul hmem
    obtain ⟨ecosystem, -, hwaits⟩ := List.mem_map.mp hmem
    cases hwaits

/-- Whoever goes on stays in his ecosystem. -/
theorem Seeks.set {i : Nat} {point : SearchPoint} {standing : Standing SearchPoint Haul}
    (h : fan.Seeks query chosen) (stands : fan.searches[i]? = some (.waiting point))
    (comes : (point.step now files proxy).2.standing? = some standing) :
    Seeks { fan with searches := fan.searches.set i standing } query chosen := by
  obtain ⟨hstays, htallies⟩ := SearchPoint.tallies_step comes
  refine ⟨h.query, ?_, fun haul hmem => ?_⟩
  · rw [map_searchedIn_set stands hstays]
    exact h.searched
  · rcases List.mem_or_eq_of_mem_set hmem with hold | hnew
    · exact h.hauls haul hold
    · exact htallies haul hnew.symm

end FanPoint

/-! ### Courses -/

/-- Operations on a cache, those in progress and those that have ended. -/
abbrev CacheTasks := List (Standing CacheTask (Option CacheReply))

/-- One thing that happens while a proxy searches. -/
inductive FanEvent where
  | goOn (files : Option Tree)
  /-- Something happens to the cache: other operations begin, go on and are given up, servers do
      what they like, and time passes. -/
  | around (event : CacheEvent)
  /-- Others write down how the sessions are, or that the proxy is to stop. -/
  | notes (health : List (Ecosystem × Api.HealthRecord)) (stopAsked : Bool)

/-- A search in several ecosystems, with its proxy, the other operations and the time. -/
structure FanCourse where
  proxy : Proxy
  others : CacheTasks
  now : Instant
  fan : FanPoint

namespace FanCourse

/-- The cache, with the other operations on it. -/
def crowd (course : FanCourse) : CacheCourse := ⟨course.proxy.cache, course.others, course.now⟩

/-- The search that a request asks for begins. -/
def first (proxy : Proxy) (others : CacheTasks) (now : Instant) (request : Api.SymbolQuery) :
    FanCourse := ⟨proxy, others, now, .first proxy request⟩

/-- What an event does. -/
def next (course : FanCourse) : FanEvent → FanCourse
  | .goOn files =>
    match course.fan.step course.now files course.proxy with
    | (proxy, .moved fan) => { course with proxy, fan }
    | (_, .blocked) | (_, .finished _) => course
  | .around event =>
    let crowd := cacheRules.next course.crowd event
    { course with
      proxy := { course.proxy with cache := crowd.shared }
      others := crowd.tasks
      now := crowd.now }
  | .notes health stopAsked => { course with proxy := { course.proxy with health, stopAsked } }

/-- What a list of events leads to. -/
def after (course : FanCourse) (events : List FanEvent) : FanCourse := events.foldl next course

variable {course : FanCourse} {query : String} {chosen : List Ecosystem}

theorem seeks_next (h : course.fan.Seeks query chosen) (event : FanEvent) :
    (course.next event).fan.Seeks query chosen := by
  cases event with
  | around | notes => exact h
  | goOn files =>
    have hmoves := course.fan.step_moves course.now files course.proxy
    simp only [next]
    generalize course.fan.step course.now files course.proxy = stepped at hmoves
    cases hmoves with
    | answers | waits => exact h
    | goes i point standing ready stands comes => exact h.set stands comes

theorem seeks_after (h : course.fan.Seeks query chosen) (events : List FanEvent) :
    (course.after events).fan.Seeks query chosen := by
  induction events generalizing course with
  | nil => exact h
  | cons event events ih => exact ih (seeks_next h event)

end FanCourse

/-! ### Hauls -/

namespace FanCourse

/-- What the search in an ecosystem has come to. -/
def haul? (course : FanCourse) (ecosystem : Ecosystem) : Option Haul :=
  (course.fan.searches.find? fun standing => searchedIn standing = ecosystem).bind Standing.result?

/-- Each search is found in its ecosystem. -/
theorem haul?_of_mem {course : FanCourse} (hdistinct : (course.fan.searches.map searchedIn).Nodup)
    {standing : Standing SearchPoint Haul} (hmem : standing ∈ course.fan.searches) :
    course.haul? (searchedIn standing) = standing.result? := by
  cases hfound : course.fan.searches.find? fun other => searchedIn other = searchedIn standing with
  | none => exact absurd (decide_eq_true rfl) (List.find?_eq_none.mp hfound standing hmem)
  | some found =>
    have hsame := List.find?_some hfound
    obtain rfl : found = standing := List.inj_on_of_nodup_map hdistinct
      (List.mem_of_find?_eq_some hfound) hmem (of_decide_eq_true hsame)
    rw [haul?, hfound, Option.bind_some]

end FanCourse

/-! ### The answer -/

/-- The number of hits that an outcome tells of. -/
def Api.Outcome.count (outcome : Api.Outcome) : UInt64 :=
  match outcome.status with
  | .ok _ count => count
  | .failed _ _ => 0

/-- The answer has one outcome for each ecosystem, and its numbers and hits fit the outcomes. -/
structure Api.SymbolAnswer.Tallies (answer : Api.SymbolAnswer) (query : String)
    (chosen : List Ecosystem) : Prop where
  query : answer.query = query
  outcomes : answer.ecosystems.map (·.ecosystem) = chosen
  total : answer.total = UInt64.ofNat answer.symbols.length
  summed : answer.total = (answer.ecosystems.map (·.count)).sum
  counted : ∀ outcome ∈ answer.ecosystems, outcome.isOk = true →
    outcome.count = UInt64.ofNat (answer.symbols.countP (·.ecosystem = outcome.ecosystem))
  failed : ∀ outcome ∈ answer.ecosystems, outcome.isOk = false →
    ∀ hit ∈ answer.symbols, hit.ecosystem ≠ outcome.ecosystem
  /-- The hits are grouped, in the order of the outcomes. -/
  grouped : answer.symbols = answer.ecosystems.flatMap fun outcome =>
    answer.symbols.filter (·.ecosystem = outcome.ecosystem)

namespace Haul

variable {haul : Haul} {hauls : List Haul}

theorem Tallies.count_eq (h : haul.Tallies) :
    haul.outcome.count = UInt64.ofNat haul.hits.length := by
  unfold Api.Outcome.count
  cases hstatus : haul.outcome.status with
  | ok source count => exact h.counted source count hstatus
  | failed kind error =>
    have hnone : haul.hits = [] := h.failed (by rw [Api.Outcome.isOk, hstatus])
    rw [hnone]
    rfl

/-- Of all that hauls of different ecosystems bring, what is of one ecosystem is from its haul. -/
theorem filter_flatMap {α : Type} {brings : Haul → List α} {tag : α → Ecosystem}
    (hdistinct : (hauls.map (·.outcome.ecosystem)).Nodup)
    (htagged : ∀ haul ∈ hauls, ∀ item ∈ brings haul, tag item = haul.outcome.ecosystem)
    (hmem : haul ∈ hauls) :
    (hauls.flatMap brings).filter (fun item => tag item = haul.outcome.ecosystem) =
      brings haul := by
  induction hauls with
  | nil => cases hmem
  | cons first rest ih =>
    obtain ⟨hnew, hrest⟩ := List.nodup_cons.mp hdistinct
    have hfirst := htagged first List.mem_cons_self
    have hlater : ∀ other ∈ rest, ∀ item ∈ brings other, tag item = other.outcome.ecosystem :=
      fun other hother => htagged other (List.mem_cons_of_mem _ hother)
    rw [List.flatMap_cons, List.filter_append]
    rcases List.mem_cons.mp hmem with rfl | hin
    · have hown : (brings haul).filter (fun item => tag item = haul.outcome.ecosystem) =
          brings haul :=
        List.filter_eq_self.mpr fun item hitem => decide_eq_true (hfirst item hitem)
      have hnone : (rest.flatMap brings).filter
          (fun item => tag item = haul.outcome.ecosystem) = [] := by
        refine List.filter_eq_nil_iff.mpr fun item hitem heq => ?_
        obtain ⟨other, hother, hitem⟩ := List.mem_flatMap.mp hitem
        have hsame := (hlater other hother item hitem).symm.trans (of_decide_eq_true heq)
        exact hnew (List.mem_map.mpr ⟨other, hother, hsame⟩)
      rw [hown, hnone, List.append_nil]
    · have hnone : (brings first).filter
          (fun item => tag item = haul.outcome.ecosystem) = [] := by
        refine List.filter_eq_nil_iff.mpr fun item hitem heq => ?_
        have hsame := (hfirst item hitem).symm.trans (of_decide_eq_true heq)
        exact hnew (List.mem_map.mpr ⟨haul, hin, hsame.symm⟩)
      rw [hnone, List.nil_append]
      exact ih hrest hlater hin

theorem sum_count (htallies : ∀ haul ∈ hauls, haul.Tallies) :
    (hauls.map (·.outcome.count)).sum = UInt64.ofNat (hauls.flatMap (·.hits)).length := by
  induction hauls with
  | nil => rfl
  | cons first rest ih =>
    have hrest := ih fun other hother => htallies other (List.mem_cons_of_mem _ hother)
    rw [List.map_cons, List.sum_cons, hrest, (htallies first List.mem_cons_self).count_eq,
      List.flatMap_cons, List.length_append, UInt64.ofNat_add]

end Haul

/-- What the answer says of an ecosystem is the haul of its search. -/
structure Api.SymbolAnswer.Shows (answer : Api.SymbolAnswer) (ecosystem : Ecosystem) (haul : Haul) :
    Prop where
  outcome : answer.ecosystems.filter (·.ecosystem = ecosystem) = [haul.outcome]
  hits : answer.symbols.filter (·.ecosystem = ecosystem) = haul.hits

namespace FanPoint

variable {hauls : List Haul}

theorem shows_answerOf (query : String) (hdistinct : (hauls.map (·.outcome.ecosystem)).Nodup)
    (htallies : ∀ haul ∈ hauls, haul.Tallies) {haul : Haul} (hmem : haul ∈ hauls) :
    (answerOf query hauls).Shows haul.outcome.ecosystem haul where
  outcome := by
    rw [answerOf, List.map_eq_flatMap]
    refine Haul.filter_flatMap hdistinct (fun other _ outcome houtcome => ?_) hmem
    rw [List.mem_singleton.mp houtcome]
  hits := Haul.filter_flatMap hdistinct (fun other hother => (htallies other hother).tagged) hmem

/-- The answer that the hauls make up tallies. -/
theorem tallies_answerOf (query : String) (hdistinct : (hauls.map (·.outcome.ecosystem)).Nodup)
    (htallies : ∀ haul ∈ hauls, haul.Tallies) :
    (answerOf query hauls).Tallies query (hauls.map (·.outcome.ecosystem)) := by
  have hhits {haul : Haul} (hmem : haul ∈ hauls) :
      (answerOf query hauls).symbols.filter (·.ecosystem = haul.outcome.ecosystem) = haul.hits :=
    (shows_answerOf query hdistinct htallies hmem).hits
  have hsum := Haul.sum_count htallies
  refine ⟨rfl, ?_, rfl, ?_, fun outcome hmem _ => ?_, fun outcome hmem hfailed => ?_, ?_⟩
  · rw [answerOf, List.map_map]
    rfl
  · rw [answerOf, List.map_map]
    exact hsum.symm
  · obtain ⟨haul, hhaul, rfl⟩ := List.mem_map.mp hmem
    rw [(htallies haul hhaul).count_eq, List.countP_eq_length_filter]
    exact congrArg (fun hits => UInt64.ofNat hits.length) (hhits hhaul).symm
  · obtain ⟨haul, hhaul, rfl⟩ := List.mem_map.mp hmem
    intro hit hhit heq
    have hin : hit ∈ haul.hits := by
      rw [← hhits hhaul]
      exact List.mem_filter.mpr ⟨hhit, decide_eq_true heq⟩
    rw [(htallies haul hhaul).failed hfailed] at hin
    cases hin
  · show hauls.flatMap (·.hits) = (hauls.map (·.outcome)).flatMap _
    rw [List.flatMap_map]
    exact List.flatMap_congr fun haul hhaul => (hhits hhaul).symm

/-- Once all searches have ended, the answer about the chosen ecosystems is given. -/
theorem Seeks.answers {fan : FanPoint} {query : String} {chosen : List Ecosystem}
    (h : fan.Seeks query chosen) (hdistinct : chosen.Nodup)
    (hended : fan.searches = hauls.map .ended) :
    (answerOf fan.query hauls).Tallies query chosen ∧
      ∀ haul ∈ hauls, (answerOf fan.query hauls).Shows haul.outcome.ecosystem haul := by
  have hecosystems : hauls.map (·.outcome.ecosystem) = chosen := by
    rw [← h.searched, hended, List.map_map]
    rfl
  have htallies : ∀ haul ∈ hauls, haul.Tallies := by
    intro haul hmem
    refine h.hauls haul ?_
    rw [hended]
    exact List.mem_map_of_mem hmem
  rw [← hecosystems] at hdistinct
  rw [h.query]
  refine ⟨hecosystems ▸ tallies_answerOf query hdistinct htallies, fun haul hmem => ?_⟩
  exact shows_answerOf query hdistinct htallies hmem

end FanPoint

end SymbolSearch
