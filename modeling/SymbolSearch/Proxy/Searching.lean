import SymbolSearch.Adapter.Asking
import SymbolSearch.Cache.Ensuring
import SymbolSearch.Proxy.Basic
import SymbolSearch.Proxy.Request

/-!
# Searching symbols

* `AdoptPoint.step` gets the adapter that answers for an ecosystem. If its session cannot be
  brought up for now, the adapter answers without it; if it cannot for good, there is none.
* `SearchPoint.step` searches in one ecosystem. Whatever happens to the ecosystem is an outcome,
  never an error.
* `FanPoint.step` searches in several ecosystems at once and puts their outcomes together.
-/

namespace SymbolSearch

/-! ### Finding someone who answers -/

/-- Why nobody answers for an ecosystem. -/
structure Unavailable where
  kind : Api.FailureKind
  error : CacheError

/-- Where getting an adapter stands. -/
inductive AdoptPoint where
  | ensuring (ecosystem : Ecosystem) (reconnect : ReconnectPoint)
  /-- The session cannot be brought up; its adapter is taken as it is. -/
  | falling (entry : EntryPoint)

namespace AdoptPoint

/-- What steps of getting an adapter come to. -/
abbrev Adopted := Stepped Proxy AdoptPoint (Except Unavailable AdapterId)

/-- The first point for an ecosystem. -/
def begin (proxy : Proxy) (ecosystem : Ecosystem) : AdoptPoint :=
  .ensuring ecosystem (.entering (.starting ecosystem proxy.workspace))

/-- One step of getting an adapter. The files are there only when the step may use them. -/
def step (now : Instant) (files : Option Tree) (point : AdoptPoint) (proxy : Proxy) : Adopted :=
  match point with
  | .ensuring ecosystem reconnect =>
    match proxy.withCache (reconnect.step now files proxy.cache) with
    | (proxy, .blocked) => (proxy, .blocked)
    | (proxy, .moved reconnect) => (proxy, .moved (.ensuring ecosystem reconnect))
    | (proxy, .finished (.ok adapter)) => (proxy, .finished (.ok adapter))
    | (proxy, .finished (.error error)) =>
      if error.isPermanent then (proxy, .finished (.error ⟨.permanent, error⟩))
      else if error.isConfiguration then (proxy, .finished (.error ⟨.configuration, error⟩))
      else (proxy, .moved (.falling (.starting ecosystem proxy.workspace)))
  | .falling entry =>
    match proxy.withCache (Cache.stepAdapterFor files entry proxy.cache) with
    | (proxy, .blocked) => (proxy, .blocked)
    | (proxy, .moved entry) => (proxy, .moved (.falling entry))
    | (proxy, .finished (.ok adapter)) => (proxy, .finished (.ok adapter))
    | (proxy, .finished (.error error)) => (proxy, .finished (.error ⟨.session, error⟩))

/-- Whether the operation waits for the files. -/
def wantsFiles : AdoptPoint → Bool
  | .ensuring _ reconnect => reconnect.wantsFiles
  | .falling entry => entry.wantsFiles

/-- The time at which the operation goes on by itself. -/
def deadline? : AdoptPoint → Option Instant
  | .ensuring _ reconnect => reconnect.deadline?
  | .falling _ => none

/-- Gives the operation up where it stands. -/
def cancel (point : AdoptPoint) (proxy : Proxy) : Proxy :=
  match point with
  | .ensuring _ reconnect => { proxy with cache := reconnect.cancel proxy.cache }
  | .falling entry => { proxy with cache := entry.cancel proxy.cache }

end AdoptPoint

/-! ### Searching symbols -/

/-- What a search in one ecosystem comes to. -/
structure Haul where
  outcome : Api.Outcome
  hits : List Api.SymbolHit

/-- Where a search in one ecosystem stands. -/
inductive SearchPoint where
  | adopting (ecosystem : Ecosystem) (query : String) (adopt : AdoptPoint)
  | asking (ecosystem : Ecosystem) (adapter : AdapterId) (inquiry : InquiryPoint)

namespace SearchPoint

/-- The haul of an answer. -/
def haulOf (ecosystem : Ecosystem) (sourced : Sourced) : Haul :=
  let records := match sourced.answer with
    | .symbols records => records
    | .locations _ => []
  ⟨⟨ecosystem, .ok sourced.source (UInt64.ofNat records.length)⟩, records.map (⟨ecosystem, ·⟩)⟩

/-- One step of a search. The files are there only when the step may use them. -/
def step (now : Instant) (files : Option Tree) (point : SearchPoint) (proxy : Proxy) :
    Stepped Proxy SearchPoint Haul :=
  match point with
  | .adopting ecosystem query adopt =>
    match adopt.step now files proxy with
    | (proxy, .blocked) => (proxy, .blocked)
    | (proxy, .moved adopt) => (proxy, .moved (.adopting ecosystem query adopt))
    | (proxy, .finished (.ok adapter)) =>
      (proxy, .moved (.asking ecosystem adapter (.starting (.workspace query))))
    | (proxy, .finished (.error unavailable)) =>
      (proxy, .finished
        ⟨⟨ecosystem, .failed unavailable.kind unavailable.error.message⟩, []⟩)
  | .asking ecosystem adapter inquiry =>
    match proxy.withCache (proxy.cache.stepAdapter adapter (inquiry.step now files)) with
    | (proxy, .blocked) => (proxy, .blocked)
    | (proxy, .moved inquiry) => (proxy, .moved (.asking ecosystem adapter inquiry))
    | (proxy, .finished sourced) => (proxy, .finished (haulOf ecosystem sourced))

/-- Whether the search waits for the files. -/
def wantsFiles : SearchPoint → Bool
  | .adopting _ _ adopt => adopt.wantsFiles
  | .asking _ _ inquiry => inquiry.wantsFiles

/-- The time at which the search goes on by itself. -/
def deadline? : SearchPoint → Option Instant
  | .adopting _ _ adopt => adopt.deadline?
  | .asking _ _ inquiry => inquiry.deadline?

/-- Gives a search up where it stands. -/
def cancel (point : SearchPoint) (proxy : Proxy) : Proxy :=
  match point with
  | .adopting _ _ adopt => adopt.cancel proxy
  | .asking _ adapter inquiry =>
    { proxy with cache := proxy.cache.updateAdapter adapter inquiry.cancel }

end SearchPoint

/-- The ecosystems in which a request asks for a search: each one once, in the order in which they
    are named, and all of them if none is named. -/
def chosenEcosystems (configured : List Ecosystem) (names : List String) :
    Except ApiError (List Ecosystem) :=
  if names.isEmpty then .ok configured
  else
    names.foldlM (fun chosen name =>
      match (Ecosystem.parse? name).filter (configured.contains ·) with
      | some ecosystem =>
        .ok (if chosen.contains ecosystem then chosen else chosen ++ [ecosystem])
      | none => .error (.badRequest ("unknown ecosystem " ++ Text.quoted name))) []

/-- Where a search in several ecosystems stands. -/
structure FanPoint where
  query : String
  searches : List (Standing SearchPoint Haul)

namespace FanPoint

/-- The first point of a search, or why the request is refused. -/
def begin (proxy : Proxy) (request : Api.SymbolQuery) : Except ApiError FanPoint := do
  let query := Text.trim request.query
  if query.isEmpty then throw (.badRequest "query must not be empty")
  let chosen ← chosenEcosystems proxy.cache.servers.ecosystems request.ecosystems
  return ⟨query, chosen.map fun ecosystem =>
    .waiting (.adopting ecosystem query (AdoptPoint.begin proxy ecosystem))⟩

/-- The answer that the hauls make up. -/
def answerOf (query : String) (hauls : List Haul) : Api.SymbolAnswer :=
  let hits := hauls.flatMap (·.hits)
  ⟨query, hauls.map (·.outcome), UInt64.ofNat hits.length, hits⟩

/-- One step of a search in several ecosystems: one step in the first one that can go on. The
    files are there only when the step may use them. -/
def step (now : Instant) (files : Option Tree) (point : FanPoint) (proxy : Proxy) :
    Stepped Proxy FanPoint Api.SymbolAnswer :=
  match Standing.results? point.searches with
  | some hauls => (proxy, .finished (answerOf point.query hauls))
  | none =>
    match stepFirst (SearchPoint.step now files) point.searches proxy with
    | some (proxy, searches) => (proxy, .moved { point with searches })
    | none => (proxy, .blocked)

/-- Whether the search waits for the files. -/
def wantsFiles (point : FanPoint) : Bool := (Standing.points point.searches).any (·.wantsFiles)

/-- The time at which the search goes on by itself. -/
def deadline? (point : FanPoint) : Option Instant :=
  earliest? ((Standing.points point.searches).map (·.deadline?))

/-- Gives a search up where it stands. -/
def cancel (point : FanPoint) (proxy : Proxy) : Proxy :=
  (Standing.points point.searches).foldl (fun proxy search => search.cancel proxy) proxy

end FanPoint

end SymbolSearch
