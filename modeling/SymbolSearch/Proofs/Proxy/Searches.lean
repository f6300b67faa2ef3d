import SymbolSearch.Proofs.Cache.Realms
import SymbolSearch.Proofs.Proxy.Tallies

/-!
# One search

* `SearchPoint.task` — the operation on the cache that a search has in progress. A step of the
  search does with the cache what this operation does (`SearchPoint.mirrors_step`).
* `SearchPoint.Twin` — two searches in an ecosystem stand at the same point, and
  `SearchPoint.twin_step` says that they go on side by side.
* `SearchPoint.Twin.claims` and `SearchPoint.Twin.asks` — whatever a search has belongs to its
  ecosystem.
-/

namespace SymbolSearch

/-! ### The operation behind a search -/

/-- The operation that has been begun to get an adapter. -/
def AdoptPoint.task : AdoptPoint → CacheTask
  | .ensuring _ reconnect => .ensure reconnect
  | .falling entry => .find entry

/-- The operation that a search has in progress. -/
def SearchPoint.task : SearchPoint → CacheTask
  | .adopting _ _ adopt => adopt.task
  | .asking _ adapter inquiry => .ask adapter inquiry

/-- A step with a proxy does with its cache what an operation does. -/
structure Proxy.Mirrors {π ρ : Type} (proxy : Proxy) (stanceOf : π → Stance)
    (stepped : Stepped Proxy π ρ) (done : Stepped Cache CacheTask CacheReply) : Prop where
  shared : stepped.1 = { proxy with cache := done.1 }
  stance : stepped.2.stance stanceOf = done.2.stance CacheTask.stance
  goes : stepped.2.goes = done.2.goes

theorem AdoptPoint.mirrors_step (now : Instant) (files : Option Tree) (point : AdoptPoint)
    (proxy : Proxy) :
    proxy.Mirrors (fun point => point.task.stance) (point.step now files proxy)
      (point.task.step now files proxy.cache) := by
  cases point with
  | ensuring ecosystem reconnect =>
    simp only [step, task, CacheTask.step, Proxy.withCache]
    generalize reconnect.step now files proxy.cache = stepped
    obtain ⟨m, progress⟩ := stepped
    cases progress with
    | blocked | moved => exact ⟨rfl, rfl, rfl⟩
    | finished result =>
      cases result with
      | ok => exact ⟨rfl, rfl, rfl⟩
      | error error =>
        dsimp only
        split
        · exact ⟨rfl, rfl, rfl⟩
        · split
          · exact ⟨rfl, rfl, rfl⟩
          · exact ⟨rfl, rfl, rfl⟩
  | falling entry =>
    simp only [step, task, CacheTask.step, Proxy.withCache]
    generalize proxy.cache.stepAdapterFor files entry = stepped
    obtain ⟨m, progress⟩ := stepped
    cases progress with
    | blocked | moved => exact ⟨rfl, rfl, rfl⟩
    | finished result => cases result <;> exact ⟨rfl, rfl, rfl⟩

theorem SearchPoint.mirrors_step (now : Instant) (files : Option Tree) (point : SearchPoint)
    (proxy : Proxy) :
    proxy.Mirrors (fun point => point.task.stance) (point.step now files proxy)
      (point.task.step now files proxy.cache) := by
  cases point with
  | adopting ecosystem query adopt =>
    have hadopt := adopt.mirrors_step now files proxy
    simp only [step, task]
    generalize adopt.step now files proxy = stepped at hadopt ⊢
    obtain ⟨m, progress⟩ := stepped
    cases progress with
    | blocked | moved => exact ⟨hadopt.shared, hadopt.stance, hadopt.goes⟩
    | finished result => cases result <;> exact ⟨hadopt.shared, hadopt.stance, hadopt.goes⟩
  | asking ecosystem adapter inquiry =>
    simp only [step, task, CacheTask.step, Proxy.withCache]
    generalize proxy.cache.stepAdapter adapter (inquiry.step now files) = stepped
    obtain ⟨m, progress⟩ := stepped
    cases progress with
    | blocked | moved | finished => exact ⟨rfl, rfl, rfl⟩

/-! ### Searches side by side -/

variable {ecosystem : Ecosystem} {pairing pairing' : Pairing} {proxy proxy' : Proxy}
  {cache cache' : Cache} {now : Instant}

/-- Two who get an adapter for an ecosystem stand at the same point. -/
inductive AdoptPoint.Twin (ecosystem : Ecosystem) (pairing : Pairing) :
    AdoptPoint → AdoptPoint → Prop where
  | ensuring (reconnect reconnect' : ReconnectPoint)
      (same : reconnect.Twin ecosystem pairing reconnect') :
      Twin ecosystem pairing (.ensuring ecosystem reconnect) (.ensuring ecosystem reconnect')
  | falling (entry entry' : EntryPoint) (same : entry.Twin ecosystem pairing entry') :
      Twin ecosystem pairing (.falling entry) (.falling entry')

/-- Two searches in an ecosystem stand at the same point. -/
inductive SearchPoint.Twin (ecosystem : Ecosystem) (pairing : Pairing) :
    SearchPoint → SearchPoint → Prop where
  | adopting (query : String) (adopt adopt' : AdoptPoint)
      (same : adopt.Twin ecosystem pairing adopt') :
      Twin ecosystem pairing (.adopting ecosystem query adopt) (.adopting ecosystem query adopt')
  | asking (a b : AdapterId) (paired : pairing.adapter a b) (inquiry : InquiryPoint) :
      Twin ecosystem pairing (.asking ecosystem a inquiry) (.asking ecosystem b inquiry)

/-- What a step with a proxy does with its cache. -/
def Proxy.ofCache {π ρ : Type} (stepped : Stepped Proxy π ρ) : Stepped Cache π ρ :=
  (stepped.1.cache, stepped.2)

/-- Two who get an adapter for an ecosystem go on side by side. -/
theorem AdoptPoint.twin_step {point point' : AdoptPoint} (now : Instant) (files : Option Tree)
    (h : proxy.cache.Twin ecosystem pairing proxy'.cache)
    (hworkspace : proxy'.workspace = proxy.workspace)
    (hpoint : point.Twin ecosystem pairing point') :
    TwinSteps ecosystem pairing (AdoptPoint.Twin ecosystem)
      (fun pairing => TwinResults pairing.adapter) (Proxy.ofCache (point.step now files proxy))
      (Proxy.ofCache (point'.step now files proxy')) := by
  cases hpoint with
  | ensuring reconnect reconnect' same =>
    have hgoes := ReconnectPoint.twin_step now files h same
    simp only [step, Proxy.withCache]
    generalize reconnect.step now files proxy.cache = stepped,
      reconnect'.step now files proxy'.cache = stepped' at hgoes
    obtain ⟨m, progress⟩ := stepped
    obtain ⟨m', progress'⟩ := stepped'
    obtain ⟨pairing', hgrows, hgone, hsame⟩ := hgoes
    cases hsame with
    | blocked => exact ⟨pairing', hgrows, hgone, .blocked⟩
    | moved point point' same =>
      exact ⟨pairing', hgrows, hgone, .moved _ _ (.ensuring _ _ same)⟩
    | finished result result' same =>
      cases same with
      | ok a b same => exact ⟨pairing', hgrows, hgone, .finished _ _ (.ok _ _ same)⟩
      | error error =>
        dsimp only
        split
        · exact ⟨pairing', hgrows, hgone, .finished _ _ (.error _)⟩
        · split
          · exact ⟨pairing', hgrows, hgone, .finished _ _ (.error _)⟩
          · rw [hworkspace]
            exact ⟨pairing', hgrows, hgone, .moved _ _ (.falling _ _ (.starting _))⟩
  | falling entry entry' same =>
    have hgoes := Cache.twin_stepAdapterFor files h same
    simp only [step, Proxy.withCache]
    generalize proxy.cache.stepAdapterFor files entry = stepped,
      proxy'.cache.stepAdapterFor files entry' = stepped' at hgoes
    obtain ⟨m, progress⟩ := stepped
    obtain ⟨m', progress'⟩ := stepped'
    obtain ⟨pairing', hgrows, hgone, hsame⟩ := hgoes
    cases hsame with
    | blocked => exact ⟨pairing', hgrows, hgone, .blocked⟩
    | moved point point' same =>
      exact ⟨pairing', hgrows, hgone, .moved _ _ (.falling _ _ same)⟩
    | finished result result' same =>
      cases same with
      | ok a b same => exact ⟨pairing', hgrows, hgone, .finished _ _ (.ok _ _ same)⟩
      | error error => exact ⟨pairing', hgrows, hgone, .finished _ _ (.error _)⟩

/-- Two searches in an ecosystem go on side by side, and come to the same. -/
theorem SearchPoint.twin_step {point point' : SearchPoint} (now : Instant) (files : Option Tree)
    (h : proxy.cache.Twin ecosystem pairing proxy'.cache)
    (hworkspace : proxy'.workspace = proxy.workspace)
    (hpoint : point.Twin ecosystem pairing point') :
    TwinSteps ecosystem pairing (SearchPoint.Twin ecosystem) (fun _ haul haul' => haul' = haul)
      (Proxy.ofCache (point.step now files proxy))
      (Proxy.ofCache (point'.step now files proxy')) := by
  cases hpoint with
  | adopting query adopt adopt' same =>
    have hgoes := AdoptPoint.twin_step now files h hworkspace same
    simp only [step]
    generalize adopt.step now files proxy = stepped,
      adopt'.step now files proxy' = stepped' at hgoes
    obtain ⟨m, progress⟩ := stepped
    obtain ⟨m', progress'⟩ := stepped'
    obtain ⟨pairing', hgrows, hgone, hsame⟩ := hgoes
    dsimp only [Proxy.ofCache] at hsame
    cases hsame with
    | blocked => exact ⟨pairing', hgrows, hgone, .blocked⟩
    | moved point point' same =>
      exact ⟨pairing', hgrows, hgone, .moved _ _ (.adopting _ _ _ same)⟩
    | finished result result' same =>
      cases same with
      | ok a b same => exact ⟨pairing', hgrows, hgone, .moved _ _ (.asking _ _ same _)⟩
      | error error => exact ⟨pairing', hgrows, hgone, .finished _ _ rfl⟩
  | asking a b paired inquiry =>
    have hkeeps : ∀ adapter : Adapter,
        (inquiry.step now files adapter).1.ecosystem = adapter.ecosystem :=
      fun adapter => congrArg CacheKey.ecosystem (inquiry.calm_step files adapter).key
    obtain ⟨hgone, hsame⟩ := h.stepAdapter paired hkeeps
    simp only [step, Proxy.withCache]
    generalize proxy.cache.stepAdapter a (inquiry.step now files) = stepped,
      proxy'.cache.stepAdapter b (inquiry.step now files) = stepped' at hgone hsame
    obtain ⟨m, progress⟩ := stepped
    obtain ⟨m', progress'⟩ := stepped'
    obtain rfl : progress' = progress := hsame
    cases progress' with
    | blocked => exact ⟨pairing, .refl pairing, hgone, .blocked⟩
    | moved inquiry => exact ⟨pairing, .refl pairing, hgone, .moved _ _ (.asking _ _ paired _)⟩
    | finished => exact ⟨pairing, .refl pairing, hgone, .finished _ _ rfl⟩

/-! ### What belongs to the ecosystem of a search -/

namespace SearchPoint.Twin

variable {point point' : SearchPoint}

theorem ecosystem_eq (h : point.Twin ecosystem pairing point') : point.ecosystem = ecosystem := by
  cases h with
  | adopting | asking => rfl

/-- The slots that a search has belong to its ecosystem. -/
theorem claims (h : point.Twin ecosystem pairing point') :
    ∀ claim ∈ point.task.stance.claims, claim.1.ecosystem = ecosystem := by
  cases h with
  | adopting query adopt adopt' same =>
    cases same with
    | ensuring reconnect reconnect' same => exact same.claims
    | falling entry entry' same => exact same.claims
  | asking => rintro _ ⟨⟩

/-- So does the adapter that it asks. -/
theorem asks (h : point.Twin ecosystem pairing point')
    (hcache : cache.Twin ecosystem pairing cache') {a : AdapterId} {inquiry : InquiryPoint}
    (hasks : point.task = .ask a inquiry) : (cache.realm ecosystem).adapter a := by
  cases h with
  | adopting query adopt adopt' same =>
    cases same with
    | ensuring | falling => cases hasks
  | asking a b paired inquiry =>
    cases hasks
    obtain ⟨adapter, hadapter, -, hown⟩ := hcache.adapter _ _ paired
    exact ⟨adapter, hadapter, hown⟩

/-- A search stands beside itself, whatever it stood beside. -/
theorem self (h : point.Twin ecosystem pairing point')
    (hclaims : ∀ claim ∈ point.task.stance.claims, claim ∈ cache.mapped)
    (hadapters : ∀ a b, pairing.adapter a b → (cache.realm ecosystem).adapter a) :
    point.Twin ecosystem (.selves cache ecosystem) point := by
  cases h with
  | adopting query adopt adopt' same =>
    refine .adopting query adopt adopt ?_
    cases same with
    | ensuring reconnect reconnect' same =>
      exact .ensuring _ _ (same.self hclaims hadapters)
    | falling entry entry' same => exact .falling _ _ (same.self hclaims)
  | asking a b paired inquiry =>
    have hpaired : (Pairing.selves cache ecosystem).adapter a a := ⟨rfl, hadapters a b paired⟩
    exact .asking a a hpaired inquiry

theorem within (h : point.Twin ecosystem pairing point')
    (hclaims : ∀ claim ∈ point.task.stance.claims, claim ∈ cache.mapped) :
    point.Twin ecosystem (pairing.within cache ecosystem) point' := by
  cases h with
  | adopting query adopt adopt' same =>
    refine .adopting query adopt adopt' ?_
    cases same with
    | ensuring reconnect reconnect' same => exact .ensuring _ _ (same.within hclaims)
    | falling entry entry' same => exact .falling _ _ (same.within hclaims)
  | asking a b paired inquiry =>
    have hpaired : (pairing.within cache ecosystem).adapter a b := paired
    exact .asking a b hpaired inquiry

end SearchPoint.Twin

/-- A step of a search is nothing but moves. -/
theorem SearchPoint.visit_step (files : Option Tree) (point : SearchPoint) (proxy : Proxy)
    (h : (point.step now files proxy).2.goes = true) :
    VisitMoves now False ⟨proxy.cache, point.task.stance, none⟩
      ⟨(point.step now files proxy).1.cache,
        (point.step now files proxy).2.stance fun point => point.task.stance,
        point.task.evicts (point.task.step now files proxy.cache).2⟩ := by
  have hmirrors := point.mirrors_step now files proxy
  have hblocked : (point.task.step now files proxy.cache).2 ≠ .blocked := by
    intro hblocked
    rw [hmirrors.goes, hblocked] at h
    cases h
  rw [hmirrors.shared, hmirrors.stance]
  exact point.task.visit_step files proxy.cache hblocked

end SymbolSearch
