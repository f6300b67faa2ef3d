import SymbolSearch.Proofs.Cache.Deserted
import SymbolSearch.Proofs.Proxy.Searches

/-!
# Searches that do not get in each other's way

* `FanCourse.account` — what the events of a course are to one ecosystem: when its search goes on,
  and what happens to its sessions.
* `LoneSearch` — a search that is alone; `LoneSearch.after` is what an account leads to.
* `FanCourse.Sound` — the slots are in good order, and no search has what belongs to another
  ecosystem; `FanCourse.sound_after` shows it for any events.
* `FanCourse.Abreast` — a search stands where it would stand if it were alone.
  `FanCourse.abreast_after` shows it, as long as no other operation uses the ecosystem.
-/

namespace SymbolSearch

/-! ### Accounts -/

/-- One thing that happens to a search, or to the sessions of its ecosystem. -/
inductive SearchEvent where
  | goOn (now : Instant) (files : Option Tree)
  /-- Something happens to the session of an adapter; `rank` adapters were made for the ecosystem
      before it. -/
  | occur (rank : Nat) (now : Instant) (event : SessionEvent)

namespace FanCourse

/-- The ecosystem whose search goes on next. -/
def mover? (course : FanCourse) (files : Option Tree) : Option Ecosystem :=
  (firstReady? (SearchPoint.step course.now files) course.fan.searches course.proxy).bind fun i =>
    (course.fan.searches[i]?).map searchedIn

/-- What an event is to an ecosystem. -/
def share? (ecosystem : Ecosystem) (course : FanCourse) : FanEvent → Option SearchEvent
  | .goOn files =>
    if course.mover? files = some ecosystem then some (.goOn course.now files) else none
  | .around (.occur event) =>
    if course.proxy.cache.madeFor[event.adapter]? = some ecosystem then
      some (.occur (course.proxy.cache.rankOf ecosystem event.adapter) course.now event.event)
    else none
  | .around _ | .notes _ _ => none

/-- What a list of events is to an ecosystem. -/
def account (ecosystem : Ecosystem) : FanCourse → List FanEvent → List SearchEvent
  | _, [] => []
  | course, event :: events =>
    (course.share? ecosystem event).toList ++ account ecosystem (course.next event) events

end FanCourse

/-- Whether another operation uses an ecosystem. -/
def FanCourse.IsShared (course : FanCourse) (ecosystem : Ecosystem) : Prop :=
  ∃ i task, course.crowd.task? i = some task ∧ task.Uses course.proxy.cache ecosystem

/-- At no time does another operation use the ecosystem. -/
def FanCourse.LeftAlone (course : FanCourse) (ecosystem : Ecosystem) (events : List FanEvent) :
    Prop :=
  ∀ before rest, events = before ++ rest → ¬(course.after before).IsShared ecosystem

/-! ### A search that is alone -/

/-- The adapter of an ecosystem before which as many were made for it. -/
def Cache.adapterAt? (cache : Cache) (ecosystem : Ecosystem) (rank : Nat) : Option AdapterId :=
  (List.range cache.adapters.length).find? fun a =>
    cache.madeFor[a]? = some ecosystem && cache.rankOf ecosystem a = rank

theorem Cache.adapterAt?_rankOf {cache : Cache} {ecosystem : Ecosystem} {a : AdapterId}
    {adapter : Adapter} (ha : cache.adapters[a]? = some adapter)
    (hown : adapter.ecosystem = ecosystem) :
    cache.adapterAt? ecosystem (cache.rankOf ecosystem a) = some a := by
  have hmade : cache.madeFor[a]? = some ecosystem := by
    rw [Cache.madeFor, List.getElem?_map, ha, ← hown]
    rfl
  cases hfound : cache.adapterAt? ecosystem (cache.rankOf ecosystem a) with
  | none =>
    have hnone := List.find?_eq_none.mp hfound a
      (List.mem_range.mpr (List.getElem?_eq_some_iff.mp ha).1)
    simp [hmade] at hnone
  | some b =>
    have hb := List.find?_some hfound
    rw [Bool.and_eq_true, decide_eq_true_iff, decide_eq_true_iff] at hb
    obtain ⟨hmade', hrank⟩ := hb
    rw [Cache.madeFor, List.getElem?_map] at hmade'
    obtain ⟨adapter', hadapter', hown'⟩ := Option.map_eq_some_iff.mp hmade'
    exact congrArg some (Cache.eq_of_rankOf hadapter' ha hown' hown hrank)

/-- A search in one ecosystem, with a proxy that does nothing else. -/
structure LoneSearch where
  proxy : Proxy
  search : Standing SearchPoint Haul

namespace LoneSearch

/-- What an event does. -/
def next (ecosystem : Ecosystem) (lone : LoneSearch) : SearchEvent → LoneSearch
  | .goOn now files =>
    match lone.search with
    | .ended _ => lone
    | .waiting point =>
      match (point.step now files lone.proxy).2.standing? with
      | none => lone
      | some search => ⟨(point.step now files lone.proxy).1, search⟩
  | .occur rank now event =>
    match lone.proxy.cache.adapterAt? ecosystem rank with
    | none => lone
    | some a =>
      ⟨{ lone.proxy with cache := cacheRules.occur now ⟨a, event⟩ lone.proxy.cache }, lone.search⟩

/-- What an account leads to. -/
def after (ecosystem : Ecosystem) (lone : LoneSearch) (account : List SearchEvent) : LoneSearch :=
  account.foldl (next ecosystem) lone

/-- A search that begins. -/
def first (proxy : Proxy) (query : String) (ecosystem : Ecosystem) : LoneSearch :=
  ⟨proxy, .waiting (.adopting ecosystem query (AdoptPoint.begin proxy ecosystem))⟩

end LoneSearch

/-! ### One search among others and alone -/

/-- Two searches in an ecosystem stand at the same point, or have ended with the same haul. -/
inductive TwinStandings (ecosystem : Ecosystem) (pairing : Pairing) :
    Standing SearchPoint Haul → Standing SearchPoint Haul → Prop where
  | waiting (point point' : SearchPoint) (same : point.Twin ecosystem pairing point') :
      TwinStandings ecosystem pairing (.waiting point) (.waiting point')
  | ended (haul : Haul) : TwinStandings ecosystem pairing (.ended haul) (.ended haul)

/-- The stance of a search, whether it has ended or not. -/
def standingStance : Standing SearchPoint Haul → Stance
  | .waiting point => point.task.stance
  | .ended _ => .has []

/-- A search stands where it would stand if it were alone. -/
def LoneSearch.Alike (ecosystem : Ecosystem) (proxy : Proxy) (standing : Standing SearchPoint Haul)
    (lone : LoneSearch) : Prop :=
  ∃ pairing : Pairing,
    proxy.cache.Twin ecosystem (pairing.within proxy.cache ecosystem) lone.proxy.cache ∧
      lone.proxy.workspace = proxy.workspace ∧
      TwinStandings ecosystem (pairing.within proxy.cache ecosystem) standing lone.search

variable {ecosystem : Ecosystem} {proxy proxy' : Proxy} {lone : LoneSearch} {point : SearchPoint}
  {standing : Standing SearchPoint Haul} {now : Instant} {files : Option Tree}

theorem stance_of_standing? {progress : Progress SearchPoint Haul}
    (h : progress.standing? = some standing) :
    (progress.stance fun point => point.task.stance) = standingStance standing := by
  cases progress with
  | blocked => cases h
  | moved | finished =>
    cases h
    rfl

theorem goes_of_standing? {progress : Progress SearchPoint Haul}
    (h : progress.standing? = some standing) : progress.goes = true := by
  cases progress with
  | blocked => cases h
  | moved | finished => rfl

theorem TwinStandings.within {pairing : Pairing} {cache : Cache}
    {standing' : Standing SearchPoint Haul}
    (h : TwinStandings ecosystem pairing standing standing')
    (hclaims : ∀ claim ∈ (standingStance standing).claims, claim ∈ cache.mapped) :
    TwinStandings ecosystem (pairing.within cache ecosystem) standing standing' := by
  cases h with
  | waiting point point' same => exact .waiting point point' (same.within hclaims)
  | ended haul => exact .ended haul

namespace LoneSearch.Alike

/-- The slots that a search has belong to its ecosystem. -/
theorem claims (h : Alike ecosystem proxy standing lone) :
    ∀ claim ∈ (standingStance standing).claims, claim.1.ecosystem = ecosystem := by
  obtain ⟨pairing, -, -, hstands⟩ := h
  generalize lone.search = search at hstands
  cases hstands with
  | waiting point point' same => exact same.claims
  | ended => rintro _ ⟨⟩

/-- So does the adapter that it asks. -/
theorem asks (h : Alike ecosystem proxy (.waiting point) lone) {a : AdapterId}
    {inquiry : InquiryPoint} (hasks : point.task = .ask a inquiry) :
    (proxy.cache.realm ecosystem).adapter a := by
  obtain ⟨pairing, hcache, -, hstands⟩ := h
  generalize lone.search = search at hstands
  cases hstands with
  | waiting point point' same => exact same.asks hcache hasks

/-- A search goes on as if it were alone. -/
theorem goOn (h : Alike ecosystem proxy (.waiting point) lone)
    (hcomes : (point.step now files proxy).2.standing? = some standing)
    (hclaims : ∀ claim ∈ (standingStance standing).claims,
      claim ∈ (point.step now files proxy).1.cache.mapped) :
    Alike ecosystem (point.step now files proxy).1 standing
      (lone.next ecosystem (.goOn now files)) := by
  obtain ⟨pairing, hcache, hworkspace, hsame⟩ := h
  obtain ⟨proxy', search⟩ := lone
  cases hsame with
  | waiting point point' same =>
    obtain ⟨pairing', -, hgone, hprogress⟩ :=
      SearchPoint.twin_step now files hcache hworkspace same
    have hstays : (point.step now files proxy).1.workspace = proxy.workspace := by
      rw [(point.mirrors_step now files proxy).shared]
    have hstays' : (point'.step now files proxy').1.workspace = proxy'.workspace := by
      rw [(point'.mirrors_step now files proxy').shared]
    have hworkspace' : (point'.step now files proxy').1.workspace =
        (point.step now files proxy).1.workspace := (hstays'.trans hworkspace).trans hstays.symm
    simp only [next]
    generalize point.step now files proxy = stepped,
      point'.step now files proxy' = stepped' at hgone hprogress hworkspace' hcomes hclaims ⊢
    obtain ⟨m, progress⟩ := stepped
    obtain ⟨m', progress'⟩ := stepped'
    cases hprogress with
    | blocked => cases hcomes
    | moved point point' same =>
      cases hcomes
      exact ⟨pairing', hgone.within, hworkspace', .waiting _ _ (same.within hclaims)⟩
    | finished haul haul' same =>
      cases hcomes
      obtain rfl : haul' = haul := same
      exact ⟨pairing', hgone.within, hworkspace', .ended haul'⟩

/-- It stays where it is while something is done for others. -/
theorem spared (h : Alike ecosystem proxy standing lone)
    (hspares : proxy.cache.Spares (proxy.cache.realm ecosystem) proxy'.cache)
    (hknows : Knows proxy.cache proxy'.cache)
    (hgiven : proxy'.cache.settings = proxy.cache.settings ∧
      proxy'.cache.servers = proxy.cache.servers)
    (hworkspace : proxy'.workspace = proxy.workspace)
    (hclaims : ∀ claim ∈ (standingStance standing).claims, claim ∈ proxy'.cache.mapped) :
    Alike ecosystem proxy' standing lone := by
  obtain ⟨pairing, hcache, hsame, hstands⟩ := h
  exact ⟨_, (hcache.spared hspares hknows hgiven).within, hsame.trans hworkspace.symm,
    hstands.within hclaims⟩

/-- Whatever has been done, a search stands where it would stand if it were alone from now on. -/
theorem renew {count : Nat} {stanceOf : Nat → Stance} (h : Alike ecosystem proxy standing lone)
    (htidy : Tidy proxy'.cache count stanceOf) (hknows : Knows proxy.cache proxy'.cache)
    (hclaims : ∀ claim ∈ (standingStance standing).claims, claim ∈ proxy'.cache.mapped) :
    Alike ecosystem proxy' standing ⟨proxy', standing⟩ := by
  obtain ⟨pairing, hcache, -, hstands⟩ := h
  have hadapters (a b : AdapterId) (hab : pairing.adapter a b) :
      (proxy'.cache.realm ecosystem).adapter a := by
    obtain ⟨adapter, hadapter, -, hown⟩ := hcache.adapter a b hab
    obtain ⟨adapter', hadapter', hkey⟩ := hknows a adapter hadapter
    exact ⟨adapter', hadapter', (congrArg CacheKey.ecosystem hkey).trans hown⟩
  refine ⟨_, (htidy.twin_self ecosystem).within, rfl, ?_⟩
  generalize lone.search = search at hstands
  cases hstands with
  | waiting point point' same =>
    exact .waiting point point ((same.self hclaims hadapters).within hclaims)
  | ended haul => exact .ended haul

/-- Something happens to a session of the ecosystem. -/
theorem occur (h : Alike ecosystem proxy standing lone) (event : ServerEvent)
    (hown : proxy.cache.madeFor[event.adapter]? = some ecosystem) :
    Alike ecosystem { proxy with cache := cacheRules.occur now event proxy.cache } standing
      (lone.next ecosystem
        (.occur (proxy.cache.rankOf ecosystem event.adapter) now event.event)) := by
  obtain ⟨pairing, hcache, hsame, hstands⟩ := h
  rw [Cache.madeFor, List.getElem?_map] at hown
  obtain ⟨adapter, hadapter, hecosystem⟩ := Option.map_eq_some_iff.mp hown
  obtain ⟨b, hab⟩ := hcache.left event.adapter adapter hadapter hecosystem
  obtain ⟨adapter', -, hadapter', hecosystem'⟩ := hcache.adapter event.adapter b hab
  have hfound : lone.proxy.cache.adapterAt? ecosystem
      (proxy.cache.rankOf ecosystem event.adapter) = some b := by
    rw [hcache.rank event.adapter b hab]
    exact Cache.adapterAt?_rankOf hadapter' hecosystem'
  simp only [next, hfound]
  refine ⟨pairing, ?_, hsame, hstands⟩
  exact hcache.updateAdapter hab fun _ _ => rfl

end LoneSearch.Alike

/-! ### Where everybody stands -/

/-- Where the searches stand with the slots. -/
def stancesOf (searches : List (Standing SearchPoint Haul)) (i : Nat) : Stance :=
  ((searches[i]?).map standingStance).getD (.has [])

/-- The ones are numbered from zero, and the others behind them. -/
def beside (count : Nat) (ones others : Nat → Stance) (i : Nat) : Stance :=
  if i < count then ones i else others (i - count)

section Stances

variable {searches : List (Standing SearchPoint Haul)} {cache : Cache} {count i : Nat}
  {ones others : Nat → Stance} {stance : Stance}

theorem stancesOf_of_getElem? (h : searches[i]? = some standing) :
    stancesOf searches i = standingStance standing := by
  rw [stancesOf, h]
  rfl

theorem stancesOf_set (h : i < searches.length) (standing : Standing SearchPoint Haul) :
    stancesOf (searches.set i standing) =
      Function.update (stancesOf searches) i (standingStance standing) := by
  funext j
  by_cases hj : j = i
  · subst hj
    rw [Function.update_self, stancesOf, List.getElem?_set_self h]
    rfl
  · rw [Function.update_of_ne hj, stancesOf, List.getElem?_set_ne (Ne.symm hj)]
    rfl

theorem beside_of_lt (h : i < count) : beside count ones others i = ones i := if_pos h

theorem beside_add (count : Nat) (ones others : Nat → Stance) (i : Nat) :
    beside count ones others (count + i) = others i := by
  rw [beside, if_neg (by omega), Nat.add_sub_cancel_left]

theorem update_beside_of_lt (h : i < count) :
    Function.update (beside count ones others) i stance =
      beside count (Function.update ones i stance) others := by
  funext j
  by_cases hj : j = i
  · subst hj
    rw [Function.update_self, beside_of_lt h, Function.update_self]
  · rw [Function.update_of_ne hj, beside, beside, Function.update_of_ne hj]

theorem update_beside_add (i : Nat) :
    Function.update (beside count ones others) (count + i) stance =
      beside count ones (Function.update others i stance) := by
  funext j
  by_cases hj : j = count + i
  · subst hj
    rw [Function.update_self, beside_add, Function.update_self]
  · rw [Function.update_of_ne hj, beside, beside]
    split
    · rfl
    next hge => rw [Function.update_of_ne (by omega)]

/-- Nobody has a slot of those who come to stand in front of the others. -/
theorem Tidy.beside {room : Nat} (h : Tidy cache room others) (count : Nat) :
    Tidy cache (count + room) (beside count (fun _ => .has []) others) := by
  have hbefore {i : Nat} (hi : i < count) :
      SymbolSearch.beside count (fun _ => .has []) others i = .has [] := beside_of_lt hi
  have hbehind {i : Nat} (hi : ¬i < count) :
      SymbolSearch.beside count (fun _ => .has []) others i = others (i - count) := if_neg hi
  refine ⟨h.keys, h.ids, h.mapped_lt, fun i claim hclaim => ?_, fun i hi => ?_, fun id => ?_,
    fun id => ⟨fun i j ticket hi hj => ?_, fun i ticket hi => ?_, fun i hi => ?_⟩, h.kept,
    fun i seat rest work hi => ?_⟩
  · by_cases hlt : i < count
    · rw [hbefore hlt] at hclaim
      cases hclaim
    · rw [hbehind hlt] at hclaim
      exact h.claimed _ claim hclaim
  · rw [hbehind (by omega)]
    exact h.away _ (by omega)
  · have hnobody : ∑ i ∈ Finset.range count,
        (SymbolSearch.beside count (fun _ => .has []) others i).claimsOf id = 0 := by
      refine Finset.sum_eq_zero fun i hi => ?_
      rw [hbefore (Finset.mem_range.mp hi)]
      rfl
    rw [h.holders, Finset.sum_range_add, hnobody, Nat.zero_add]
    simp only [beside_add]
  · by_cases hlt : i < count
    · rw [hbefore hlt] at hi
      cases hi
    · by_cases hlt' : j < count
      · rw [hbefore hlt'] at hj
        cases hj
      · rw [hbehind hlt] at hi
        rw [hbehind hlt'] at hj
        have hsame := (h.line id).distinct _ _ ticket hi hj
        omega
  · by_cases hlt : i < count
    · rw [hbefore hlt] at hi
      cases hi
    · rw [hbehind hlt] at hi
      exact (h.line id).lt_next _ ticket hi
  · by_cases hlt : i < count
    · rw [hbefore hlt] at hi
      obtain ⟨_, _, _, ⟨⟩, _⟩ := hi
    · rw [hbehind hlt] at hi ⊢
      exact (h.line id).holds _ hi
  · by_cases hlt : i < count
    · rw [hbefore hlt] at hi
      cases hi
    · rw [hbehind hlt] at hi
      exact h.works _ seat rest work hi

end Stances

namespace FanCourse

/-- Where the searches and the other operations stand with the slots. -/
def stances (course : FanCourse) : Nat → Stance :=
  beside course.fan.searches.length (stancesOf course.fan.searches) course.crowd.stanceOf

/-- The slots are in good order, and every search stands where it would stand if it were alone from
    some time on. -/
structure Sound (course : FanCourse) : Prop where
  tidy : ∃ room, Tidy course.proxy.cache room course.stances
  distinct : (course.fan.searches.map searchedIn).Nodup
  own : ∀ standing ∈ course.fan.searches,
    ∃ lone, LoneSearch.Alike (searchedIn standing) course.proxy standing lone

/-- The search in an ecosystem stands where it would stand if it were alone. -/
def Abreast (course : FanCourse) (ecosystem : Ecosystem) (lone : LoneSearch) : Prop :=
  ∀ standing ∈ course.fan.searches, searchedIn standing = ecosystem →
    LoneSearch.Alike ecosystem course.proxy standing lone

variable {course : FanCourse}

theorem stances_of_getElem? {i : Nat} (h : course.fan.searches[i]? = some standing) :
    course.stances i = standingStance standing := by
  rw [stances, beside_of_lt (List.getElem?_eq_some_iff.mp h).1, stancesOf_of_getElem? h]

/-- The slots that a search has can be found. -/
theorem claimed_of_mem {room : Nat} (h : Tidy course.proxy.cache room course.stances)
    (hmem : standing ∈ course.fan.searches) :
    ∀ claim ∈ (standingStance standing).claims, claim ∈ course.proxy.cache.mapped := by
  obtain ⟨i, hi⟩ := List.mem_iff_getElem?.mp hmem
  intro claim hclaim
  rw [← stances_of_getElem? hi] at hclaim
  exact h.claimed i claim hclaim

/-! ### Searches that go on -/

/-- The search at a place has gone on. -/
def goes (course : FanCourse) (i : Nat) (proxy : Proxy) (standing : Standing SearchPoint Haul) :
    FanCourse :=
  { course with proxy, fan := { course.fan with searches := course.fan.searches.set i standing } }

section Goes

variable {i : Nat}

/-- The slots stay in good order. -/
theorem tidy_goes {room : Nat} (h : Tidy course.proxy.cache room course.stances)
    (stands : course.fan.searches[i]? = some (.waiting point))
    (comes : (point.step course.now files course.proxy).2.standing? = some standing) :
    Tidy (point.step course.now files course.proxy).1.cache (max room (i + 1))
      (course.goes i (point.step course.now files course.proxy).1 standing).stances := by
  have hi := (List.getElem?_eq_some_iff.mp stands).1
  have hmoves := point.visit_step files course.proxy (goes_of_standing? comes)
  have hlonger := h.mono (Nat.le_max_left room (i + 1))
  rw [← Function.update_eq_self i course.stances, stances_of_getElem? stands] at hlonger
  have hmoved := hlonger.moves hmoves (Nat.le_max_right room (i + 1))
  rw [stances, update_beside_of_lt hi, stance_of_standing? comes, ← stancesOf_set hi] at hmoved
  rw [stances, goes, List.length_set]
  exact hmoved

theorem Sound.goes (h : course.Sound) (stands : course.fan.searches[i]? = some (.waiting point))
    (comes : (point.step course.now files course.proxy).2.standing? = some standing) :
    (course.goes i (point.step course.now files course.proxy).1 standing).Sound := by
  obtain ⟨room, htidy⟩ := h.tidy
  have htidy' := tidy_goes htidy stands comes
  have hstays : searchedIn standing = point.ecosystem := (SearchPoint.tallies_step comes).1
  have hknows := Knows.of_moves (point.visit_step files course.proxy (goes_of_standing? comes))
  refine ⟨⟨_, htidy'⟩, ?_, fun other hother => ?_⟩
  · rw [FanCourse.goes, map_searchedIn_set stands hstays]
    exact h.distinct
  · have hclaims := claimed_of_mem htidy' hother
    rcases List.mem_or_eq_of_mem_set hother with hold | rfl
    · obtain ⟨lone, halike⟩ := h.own other hold
      exact ⟨_, halike.renew htidy' hknows hclaims⟩
    · obtain ⟨lone, halike⟩ := h.own _ (List.mem_of_getElem? stands)
      rw [hstays]
      exact ⟨_, halike.goOn comes hclaims⟩

/-- A search does nothing with what belongs to other ecosystems. -/
theorem Sound.spares (h : course.Sound) (stands : course.fan.searches[i]? = some (.waiting point))
    (comes : (point.step course.now files course.proxy).2.standing? = some standing)
    (hother : ecosystem ≠ point.ecosystem) :
    course.proxy.cache.Spares (course.proxy.cache.realm ecosystem)
      (point.step course.now files course.proxy).1.cache := by
  obtain ⟨room, htidy⟩ := h.tidy
  obtain ⟨lone, halike⟩ := h.own _ (List.mem_of_getElem? stands)
  have hi := (List.getElem?_eq_some_iff.mp stands).1
  have htidy' := tidy_goes htidy stands comes
  have hmem : standing ∈ (course.goes i (point.step course.now files course.proxy).1
      standing).fan.searches := List.mem_set hi standing
  have hafter := halike.goOn comes (claimed_of_mem htidy' hmem)
  have hmirrors := point.mirrors_step course.now files course.proxy
  have hstance : (point.task.step course.now files course.proxy.cache).2.stance CacheTask.stance =
      standingStance standing := hmirrors.stance.symm.trans (stance_of_standing? comes)
  have huses : ¬point.task.Uses course.proxy.cache ecosystem := by
    rintro (⟨claim, hclaim, hown⟩ | ⟨a, inquiry, hasks, adapter, hadapter, hown⟩)
    · exact hother (hown.symm.trans (halike.claims claim hclaim))
    · obtain ⟨adapter', hadapter', hown'⟩ := halike.asks hasks
      obtain rfl : adapter = adapter' := Option.some.inj (hadapter.symm.trans hadapter')
      exact hother (hown.symm.trans hown')
  rw [hmirrors.shared]
  refine htidy.spares_realm (stances_of_getElem? stands) huses fun claim hclaim hown => ?_
  rw [hstance] at hclaim
  exact hother (hown.symm.trans (hafter.claims claim hclaim))

theorem Abreast.goes (h : course.Abreast ecosystem lone) (hsound : course.Sound)
    (stands : course.fan.searches[i]? = some (.waiting point))
    (comes : (point.step course.now files course.proxy).2.standing? = some standing)
    (moves : course.mover? files = some point.ecosystem) :
    (course.goes i (point.step course.now files course.proxy).1 standing).Abreast ecosystem
      (lone.after ecosystem (course.share? ecosystem (.goOn files)).toList) := by
  obtain ⟨room, htidy⟩ := hsound.tidy
  have hsound' := hsound.goes stands comes
  have hstays : searchedIn standing = point.ecosystem := (SearchPoint.tallies_step comes).1
  have hmoves := point.visit_step files course.proxy (goes_of_standing? comes)
  intro other hother hown
  have hclaims := claimed_of_mem (tidy_goes htidy stands comes) hother
  by_cases hecosystem : ecosystem = point.ecosystem
  · -- This is the search that has gone on.
    obtain rfl : other = standing :=
      List.inj_on_of_nodup_map hsound'.distinct hother
        (List.mem_set (List.getElem?_eq_some_iff.mp stands).1 standing)
        ((hown.trans hecosystem).trans hstays.symm)
    subst hecosystem
    rw [share?, if_pos moves]
    exact (h _ (List.mem_of_getElem? stands) rfl).goOn comes hclaims
  · have hold : other ∈ course.fan.searches := by
      rcases List.mem_or_eq_of_mem_set hother with hold | rfl
      · exact hold
      · exact absurd (hown.symm.trans hstays) hecosystem
    have hshare : course.share? ecosystem (.goOn files) = none := by
      rw [share?, if_neg]
      rw [moves]
      exact fun heq => hecosystem (Option.some.inj heq).symm
    have hworkspace : (point.step course.now files course.proxy).1.workspace =
        course.proxy.workspace := by
      rw [(point.mirrors_step course.now files course.proxy).shared]
    rw [hshare]
    exact (h other hold hown).spared (hsound.spares stands comes hecosystem) (.of_moves hmoves)
      hmoves.given hworkspace hclaims

end Goes

/-! ### What others do -/

section Around

variable {event : CacheEvent}

theorem tidy_around {room : Nat} (h : Tidy course.proxy.cache room course.stances)
    (event : CacheEvent) :
    ∃ room', Tidy (course.next (.around event)).proxy.cache room'
      (course.next (.around event)).stances := by
  obtain ⟨i, hmoves, hstance⟩ := CacheCourse.visit_next course.crowd event
  have hlonger := h.mono (Nat.le_max_left room (course.fan.searches.length + i + 1))
  rw [← Function.update_eq_self (course.fan.searches.length + i) course.stances, stances,
    beside_add] at hlonger
  have hmoved := hlonger.moves hmoves (Nat.le_max_right room (course.fan.searches.length + i + 1))
  rw [update_beside_add, ← hstance] at hmoved
  exact ⟨_, hmoved⟩

theorem Sound.around (h : course.Sound) (event : CacheEvent) :
    (course.next (.around event)).Sound := by
  obtain ⟨room, htidy⟩ := h.tidy
  obtain ⟨room', htidy'⟩ := tidy_around htidy event
  refine ⟨⟨room', htidy'⟩, h.distinct, fun standing hmem => ?_⟩
  obtain ⟨lone, halike⟩ := h.own standing hmem
  have hknows := CacheCourse.made_next course.crowd event
  exact ⟨_, halike.renew htidy' hknows (claimed_of_mem htidy' hmem)⟩

/-- Other operations spare an ecosystem that they do not use. -/
theorem Sound.spares_around (h : course.Sound) (hbefore : ¬course.IsShared ecosystem)
    (hafter : ¬(course.next (.around event)).IsShared ecosystem)
    (hoccurs : ∀ occurrence, event = .occur occurrence →
      ¬(course.proxy.cache.realm ecosystem).adapter occurrence.adapter) :
    course.proxy.cache.Spares (course.proxy.cache.realm ecosystem)
      (course.next (.around event)).proxy.cache := by
  obtain ⟨room, htidy⟩ := h.tidy
  have hstands {i : Nat} {task : CacheTask} (stands : course.crowd.task? i = some task) :
      course.stances (course.fan.searches.length + i) = task.stance := by
    rw [stances, beside_add, CacheCourse.stanceOf_of_task? stands]
  have huses {i : Nat} {task : CacheTask} (stands : course.crowd.task? i = some task) :
      ¬task.Uses course.proxy.cache ecosystem := fun huses => hbefore ⟨i, task, stands, huses⟩
  have hunused {i : Nat} {task : CacheTask}
      (stands : (cacheRules.next course.crowd event).task? i = some task) :
      ∀ claim ∈ task.stance.claims, claim.1.ecosystem ≠ ecosystem :=
    fun claim hclaim hown => hafter ⟨i, task, stands, .inl ⟨claim, hclaim, hown⟩⟩
  have hmoves := cacheRules.next_moves course.crowd event
  show course.proxy.cache.Spares _ (cacheRules.next course.crowd event).shared
  generalize cacheRules.next course.crowd event = crowd at hmoves hunused
  cases hmoves with
  | blocks | misses | begins | waits => exact .refl _
  | moves i input task task' shared stands step =>
    have hstep : task.step course.now input course.proxy.cache = (shared, .moved task') := step
    have hspares : course.proxy.cache.Spares (course.proxy.cache.realm ecosystem)
        (task.step course.now input course.proxy.cache).1 := by
      refine htidy.spares_realm (hstands stands) (huses stands) ?_
      rw [hstep]
      exact hunused (Crowd.task?_put_self stands _)
    rw [hstep] at hspares
    exact hspares
  | finishes i input task result shared stands step =>
    have hstep : task.step course.now input course.proxy.cache = (shared, .finished result) := step
    have hspares : course.proxy.cache.Spares (course.proxy.cache.realm ecosystem)
        (task.step course.now input course.proxy.cache).1 := by
      refine htidy.spares_realm (hstands stands) (huses stands) ?_
      rw [hstep]
      rintro _ ⟨⟩
    rw [hstep] at hspares
    exact hspares
  | givesUp i task stands => exact htidy.spares_realm_cancel (hstands stands) (huses stands)
  | occurs occurrence => exact .updateAdapter (hoccurs occurrence rfl) fun _ _ => rfl

theorem Abreast.around (h : course.Abreast ecosystem lone) (hsound : course.Sound)
    (hbefore : ¬course.IsShared ecosystem)
    (hafter : ¬(course.next (.around event)).IsShared ecosystem) :
    (course.next (.around event)).Abreast ecosystem
      (lone.after ecosystem (course.share? ecosystem (.around event)).toList) := by
  by_cases hoccurs : ∃ occurrence, event = .occur occurrence ∧
      course.proxy.cache.madeFor[occurrence.adapter]? = some ecosystem
  · obtain ⟨occurrence, rfl, hmade⟩ := hoccurs
    intro standing hmem hown
    rw [share?, if_pos hmade]
    exact (h standing hmem hown).occur occurrence hmade
  · have hshare : course.share? ecosystem (.around event) = none := by
      cases event with
      | occur occurrence => exact if_neg fun hmade => hoccurs ⟨occurrence, rfl, hmade⟩
      | «begin» | step | giveUp | wait => rfl
    have hspares := hsound.spares_around hbefore hafter fun occurrence heq hadapter => by
      obtain ⟨adapter, hfound, hown⟩ := hadapter
      refine hoccurs ⟨occurrence, heq, ?_⟩
      rw [Cache.madeFor, List.getElem?_map, hfound]
      exact congrArg some hown
    obtain ⟨room, htidy⟩ := hsound.tidy
    obtain ⟨room', htidy'⟩ := tidy_around htidy event
    obtain ⟨i, hmoves, -⟩ := CacheCourse.visit_next course.crowd event
    intro standing hmem hown
    rw [hshare]
    exact (h standing hmem hown).spared hspares (.of_moves hmoves) hmoves.given rfl
      (claimed_of_mem htidy' hmem)

end Around

/-! ### Any events -/

theorem Sound.next (h : course.Sound) (event : FanEvent) : (course.next event).Sound := by
  cases event with
  | around event => exact h.around event
  | notes health stopAsked => exact ⟨h.tidy, h.distinct, h.own⟩
  | goOn files =>
    have hmoves := course.fan.step_moves course.now files course.proxy
    simp only [FanCourse.next]
    generalize course.fan.step course.now files course.proxy = stepped at hmoves
    cases hmoves with
    | answers | waits => exact h
    | goes i point standing ready stands comes => exact h.goes stands comes

theorem sound_after (h : course.Sound) (events : List FanEvent) : (course.after events).Sound := by
  induction events generalizing course with
  | nil => exact h
  | cons event events ih => exact ih (h.next event)

theorem Abreast.next (h : course.Abreast ecosystem lone) (hsound : course.Sound) (event : FanEvent)
    (hbefore : ¬course.IsShared ecosystem) (hafter : ¬(course.next event).IsShared ecosystem) :
    (course.next event).Abreast ecosystem
      (lone.after ecosystem (course.share? ecosystem event).toList) := by
  cases event with
  | around event => exact h.around hsound hbefore hafter
  | notes health stopAsked => exact h
  | goOn files =>
    have hstuck (hnone : firstReady? (SearchPoint.step course.now files) course.fan.searches
        course.proxy = none) : course.share? ecosystem (.goOn files) = none := by
      rw [share?, mover?, hnone]
      rfl
    have hmoves := course.fan.step_moves course.now files course.proxy
    simp only [FanCourse.next]
    generalize course.fan.step course.now files course.proxy = stepped at hmoves
    cases hmoves with
    | answers hauls ended =>
      have hnone : firstReady? (SearchPoint.step course.now files) course.fan.searches
          course.proxy = none := by
        refine firstReady?_eq_none_iff.mpr fun point hmem => ?_
        rw [ended] at hmem
        obtain ⟨haul, -, hwaits⟩ := List.mem_map.mp hmem
        cases hwaits
      rw [hstuck hnone]
      exact h
    | waits point remains blocked =>
      rw [hstuck blocked]
      exact h
    | goes i point standing ready stands comes =>
      refine h.goes hsound stands comes ?_
      rw [mover?, ready, Option.bind_some, stands]
      rfl

theorem abreast_after (h : course.Abreast ecosystem lone) (hsound : course.Sound)
    (events : List FanEvent) (halone : course.LeftAlone ecosystem events) :
    (course.after events).Abreast ecosystem
      (lone.after ecosystem (course.account ecosystem events)) := by
  induction events generalizing course lone with
  | nil => exact h
  | cons event events ih =>
    have hnext := h.next hsound event (halone [] _ rfl) (halone [event] events rfl)
    have hafter := ih hnext (hsound.next event) fun before rest heq =>
      halone (event :: before) rest (congrArg (event :: ·) heq)
    simp only [account, LoneSearch.after, List.foldl_append] at hafter ⊢
    exact hafter

section First

variable {others : CacheTasks} {request : Api.SymbolQuery}

theorem abreast_first (htidy : CacheCourse.IsTidy ⟨proxy.cache, others, now⟩)
    (request : Api.SymbolQuery) (ecosystem : Ecosystem) :
    (first proxy others now request).Abreast ecosystem
      (LoneSearch.first proxy (Text.trim request.query) ecosystem) := by
  obtain ⟨room, htidy⟩ := htidy
  intro standing hmem hown
  obtain ⟨found, -, rfl⟩ := List.mem_map.mp hmem
  obtain rfl : found = ecosystem := hown
  refine ⟨_, (htidy.twin_self found).within, rfl, ?_⟩
  exact .waiting _ _ (.adopting _ _ _ (.ensuring _ _ (.entering _ _ (.starting _))))

/-- Nobody has a slot when a search begins. -/
theorem sound_first (htidy : CacheCourse.IsTidy ⟨proxy.cache, others, now⟩)
    (hdistinct : (proxy.chosen request.ecosystems).Nodup) :
    (first proxy others now request).Sound := by
  obtain ⟨room, htidy⟩ := htidy
  have hstances : stancesOf (FanPoint.first proxy request).searches = fun _ => .has [] := by
    funext i
    rw [stancesOf, FanPoint.first, List.getElem?_map]
    cases (proxy.chosen request.ecosystems)[i]? <;> rfl
  refine ⟨⟨(FanPoint.first proxy request).searches.length + room, ?_⟩, ?_, fun standing hmem => ?_⟩
  · rw [stances, first, hstances]
    exact htidy.beside _
  · exact (FanPoint.seeks_first proxy request).searched ▸ hdistinct
  · exact ⟨_, abreast_first ⟨room, htidy⟩ request (searchedIn standing) standing hmem rfl⟩

end First

/-- The search in an ecosystem comes to what it comes to alone. -/
theorem Abreast.haul?_eq (h : course.Abreast ecosystem lone) (hsound : course.Sound)
    (hmem : ecosystem ∈ course.fan.searches.map searchedIn) :
    course.haul? ecosystem = lone.search.result? := by
  obtain ⟨standing, hstanding, rfl⟩ := List.mem_map.mp hmem
  obtain ⟨pairing, -, -, hstands⟩ := h standing hstanding rfl
  rw [haul?_of_mem hsound.distinct hstanding]
  generalize lone.search = search at hstands
  cases hstands with
  | waiting | ended => rfl

/-- It can go on exactly if it could alone. -/
theorem Abreast.goes_iff (h : course.Abreast point.ecosystem lone)
    (hmem : .waiting point ∈ course.fan.searches) (now : Instant) (files : Option Tree) :
    ∃ point', lone.search = .waiting point' ∧
      (point'.step now files lone.proxy).2.goes = (point.step now files course.proxy).2.goes := by
  obtain ⟨pairing, hcache, hworkspace, hstands⟩ := h _ hmem rfl
  generalize hsearch : lone.search = search at hstands
  cases hstands with
  | waiting point point' same =>
    refine ⟨point', rfl, ?_⟩
    obtain ⟨pairing', -, -, hprogress⟩ :=
      SearchPoint.twin_step now files hcache hworkspace same
    have hgoes {progress progress' : Progress SearchPoint Haul}
        (hsame : progress.Twin (SearchPoint.Twin point.ecosystem pairing')
          (fun haul haul' => haul' = haul) progress') : progress'.goes = progress.goes := by
      cases hsame <;> rfl
    exact hgoes hprogress

end FanCourse

end SymbolSearch
