import SymbolSearch.Adapter.Asking
import SymbolSearch.Proxy.Request
import SymbolSearch.Proxy.Searching

/-!
# Answering requests

* `ReferPoint.step` finds the references to what stands at a position of a document. The document
  must be a file inside the workspace that some server handles.
* `HttpPoint.step` answers one request to the proxy.
-/

namespace SymbolSearch

/-! ### Searching references -/

/-- Where a search for references stands. -/
inductive ReferPoint where
  | starting (request : Api.ReferenceQuery)
  /-- The document is looked up among the files. -/
  | locating (request : Api.ReferenceQuery)
  | adopting (request : Api.ReferenceQuery) (path : Path) (ecosystem : Ecosystem)
    (adopt : AdoptPoint)
  | asking (request : Api.ReferenceQuery) (ecosystem : Ecosystem) (adapter : AdapterId)
    (inquiry : InquiryPoint)

namespace ReferPoint

/-- What steps of a search come to. -/
abbrev Referred := Stepped Proxy ReferPoint (Except ApiError Api.ReferenceAnswer)

/-- The file inside the workspace that a request names. -/
def documentIn? (tree : Tree) (workspace : Path) (document : String) : Option Path :=
  ((tree.canonical (Path.join workspace document)).toOption).filter fun path =>
    tree.isFile path && path.startsWith workspace

/-- The document was looked up. -/
def afterLocating (request : Api.ReferenceQuery) (proxy : Proxy) (found : Option Path) :
    Referred :=
  match found with
  | none =>
    (proxy, .finished (.error (.badRequest
      ("document " ++ Text.quoted request.document ++ " is not a file inside the workspace"))))
  | some path =>
    match proxy.cache.ecosystemFor? path with
    | none => (proxy, .finished (.error (.ofCacheError (.unmanagedFile path))))
    | some ecosystem =>
      (proxy, .moved (.adopting request path ecosystem (AdoptPoint.begin proxy ecosystem)))

/-- The answer to a request. -/
def answerOf (request : Api.ReferenceQuery) (ecosystem : Ecosystem) (sourced : Sourced) :
    Api.ReferenceAnswer :=
  let locations := match sourced.answer with
    | .locations locations => locations
    | .symbols _ => []
  ⟨request.document, request.position, ecosystem, sourced.source, locations⟩

/-- One step of a search. The files are there only when the step may use them. -/
def step (now : Instant) (files : Option Tree) (point : ReferPoint) (proxy : Proxy) : Referred :=
  match point with
  | .starting request =>
    if (Text.trim request.document).isEmpty then
      (proxy, .finished (.error (.badRequest "document must not be empty")))
    else (proxy, .moved (.locating request))
  | .locating request =>
    match files with
    | none => (proxy, .blocked)
    | some tree =>
      afterLocating request proxy (documentIn? tree proxy.workspace request.document)
  | .adopting request path ecosystem adopt =>
    match adopt.step now files proxy with
    | (proxy, .blocked) => (proxy, .blocked)
    | (proxy, .moved adopt) => (proxy, .moved (.adopting request path ecosystem adopt))
    | (proxy, .finished (.error unavailable)) =>
      (proxy, .finished (.error (.ofCacheError unavailable.error)))
    | (proxy, .finished (.ok adapter)) =>
      (proxy, .moved (.asking request ecosystem adapter
        (.starting (.references path request.position request.includeDeclaration))))
  | .asking request ecosystem adapter inquiry =>
    match proxy.withCache (proxy.cache.stepAdapter adapter (inquiry.step now files)) with
    | (proxy, .blocked) => (proxy, .blocked)
    | (proxy, .moved inquiry) => (proxy, .moved (.asking request ecosystem adapter inquiry))
    | (proxy, .finished sourced) => (proxy, .finished (.ok (answerOf request ecosystem sourced)))

/-- Whether the search waits for the files. -/
def wantsFiles : ReferPoint → Bool
  | .starting _ => false
  | .locating _ => true
  | .adopting _ _ _ adopt => adopt.wantsFiles
  | .asking _ _ _ inquiry => inquiry.wantsFiles

/-- The time at which the search goes on by itself. -/
def deadline? : ReferPoint → Option Instant
  | .adopting _ _ _ adopt => adopt.deadline?
  | .asking _ _ _ inquiry => inquiry.deadline?
  | _ => none

/-- Gives a search up where it stands. -/
def cancel (point : ReferPoint) (proxy : Proxy) : Proxy :=
  match point with
  | .adopting _ _ _ adopt => adopt.cancel proxy
  | .asking _ _ adapter inquiry =>
    { proxy with cache := proxy.cache.updateAdapter adapter inquiry.cancel }
  | _ => proxy

end ReferPoint

/-! ### Requests -/

/-- Where a request to the proxy stands. -/
inductive HttpPoint where
  | starting (request : HttpRequest)
  | searching (fan : FanPoint)
  | referring (refer : ReferPoint)

namespace HttpPoint

/-- What steps of a request come to. -/
abbrev Answered := Stepped Proxy HttpPoint HttpAnswer

/-- An answer with a body. -/
def withBody (body : Json) : HttpAnswer := ⟨200, some body⟩

/-- The first step of a request. -/
def start (request : HttpRequest) (proxy : Proxy) : Answered :=
  match Route.of request with
  | .error status => (proxy, .finished ⟨status, none⟩)
  | .ok .health =>
    (proxy, .finished (withBody (Api.Readiness.toJson
      ⟨true, proxy.workspace, proxy.cache.servers.ecosystems⟩)))
  | .ok .status => (proxy, .finished (withBody proxy.status.toJson))
  | .ok .shutdown => ({ proxy with stopAsked := true }, .finished ⟨202, none⟩)
  | .ok .symbols =>
    match decodeRequest request Api.SymbolQuery.shape Api.SymbolQuery.fromJson? with
    | .error refusal => (proxy, .finished refusal.answer)
    | .ok query =>
      match FanPoint.begin proxy query with
      | .error refusal => (proxy, .finished refusal.answer)
      | .ok fan => (proxy, .moved (.searching fan))
  | .ok .references =>
    match decodeRequest request Api.ReferenceQuery.shape Api.ReferenceQuery.fromJson? with
    | .error refusal => (proxy, .finished refusal.answer)
    | .ok query => (proxy, .moved (.referring (.starting query)))

/-- The answer to a question for the head of an answer has no body. -/
def cutBody (request : HttpRequest) (answer : HttpAnswer) : HttpAnswer :=
  if request.method = "HEAD" then { answer with body := none } else answer

/-- One step of a request. The files are there only when the step may use them. -/
def step (now : Instant) (files : Option Tree) (point : HttpPoint) (proxy : Proxy) : Answered :=
  match point with
  | .starting request => (start request proxy).map id (cutBody request)
  | .searching fan =>
    (fan.step now files proxy).map .searching fun answer => withBody answer.toJson
  | .referring refer =>
    (refer.step now files proxy).map .referring fun result =>
      match result with
      | .ok answer => withBody answer.toJson
      | .error refusal => refusal.answer

/-- Whether the request waits for the files. -/
def wantsFiles : HttpPoint → Bool
  | .starting _ => false
  | .searching fan => fan.wantsFiles
  | .referring refer => refer.wantsFiles

/-- The time at which the request goes on by itself. -/
def deadline? : HttpPoint → Option Instant
  | .starting _ => none
  | .searching fan => fan.deadline?
  | .referring refer => refer.deadline?

/-- Gives a request up where it stands. -/
def cancel (point : HttpPoint) (proxy : Proxy) : Proxy :=
  match point with
  | .starting _ => proxy
  | .searching fan => fan.cancel proxy
  | .referring refer => refer.cancel proxy

end HttpPoint

end SymbolSearch
