import SymbolSearch.Cache.Closing
import SymbolSearch.Cache.Ensuring
import SymbolSearch.Proxy.Basic
import SymbolSearch.Session.Asking
import SymbolSearch.Time.Duration

/-!
# Serving

* `CheckPoint.step` is one pass over the sessions of the workspace. A session that should be up
  is brought up if need be, and its server must reply to a question; idle and closed sessions are
  passed over.
* `HealthPoint.step` makes such a pass again and again. A pass that takes longer than the interval
  puts the next one off.
* `ServePoint.step` is the life of a proxy: it looks after its sessions until someone asks it to
  stop, and then closes them all.
-/

namespace SymbolSearch

/-! ### Looking after sessions -/

/-- How long a server may take to show that it replies. -/
def replyLimit : Duration := .ofSecs 5

/-- Where a pass over the sessions stands. -/
inductive CheckPoint where
  | starting
  | passing (rest : List Ecosystem) (checked : Nat)
  | ensuring (ecosystem : Ecosystem) (reconnect : ReconnectPoint) (rest : List Ecosystem)
    (checked : Nat)
  | probing (ecosystem : Ecosystem) (adapter : AdapterId) (query : QueryPoint)
    (deadline : Instant) (rest : List Ecosystem) (checked : Nat)

namespace CheckPoint

/-- What steps of a pass come to: the number of sessions that were looked at. -/
abbrev Checked := Stepped Proxy CheckPoint Nat

/-- Whether a session in a state is looked at. -/
def concerns : SessionState → Bool
  | .ready => true
  | .degraded => true
  | .crashed => true
  | _ => false

/-- The health of one ecosystem is recorded, at a time of the wall clock in milliseconds. -/
def conclude (wall : Nat) (ecosystem : Ecosystem) (rest : List Ecosystem) (checked : Nat)
    (proxy : Proxy) (error : Option String) : Checked :=
  (proxy.recordHealth ecosystem ⟨UInt64.ofNat wall, error.isNone, error⟩,
    .moved (.passing rest (checked + 1)))

/-- What the reply of a server says about its health. An error is a reply, too. -/
def faultIn : Except SessionError Answer → Option String
  | .ok _ => none
  | .error (.serverError _ _) => none
  | .error error => some error.message

/-- The message for a server that did not reply in time. -/
def silenceMessage : String :=
  "no reply to " ++ (Query.workspaceSymbols "").method ++ " within "
    ++ toString replyLimit.toMillis ++ "ms"

/-- One step of a pass. The files are there only when the step may use them. -/
def step (now : Instant) (wall : Nat) (files : Option Tree) (point : CheckPoint)
    (proxy : Proxy) : Checked :=
  match point with
  | .starting =>
    let chosen := proxy.ownStatuses.filter fun status => concerns status.state
    (proxy, .moved (.passing (chosen.map (·.key.ecosystem)) 0))
  | .passing [] checked => (proxy, .finished checked)
  | .passing (ecosystem :: rest) checked =>
    (proxy, .moved (.ensuring ecosystem (.entering (.starting ecosystem proxy.workspace)) rest
      checked))
  | .ensuring ecosystem reconnect rest checked =>
    match proxy.withCache (reconnect.step now files proxy.cache) with
    | (proxy, .blocked) => (proxy, .blocked)
    | (proxy, .moved reconnect) =>
      (proxy, .moved (.ensuring ecosystem reconnect rest checked))
    | (proxy, .finished (.error error)) =>
      conclude wall ecosystem rest checked proxy (some error.message)
    | (proxy, .finished (.ok adapter)) =>
      match proxy.cache.session? adapter with
      | none => (proxy, .blocked)
      | some session =>
        if session.capabilities.workspaceSymbols then
          (proxy, .moved (.probing ecosystem adapter (.starting (.workspaceSymbols ""))
            (now + replyLimit) rest checked))
        else conclude wall ecosystem rest checked proxy none
  | .probing ecosystem adapter query deadline rest checked =>
    match proxy.withCache (proxy.cache.stepSession adapter (query.step now)) with
    | (proxy, .moved query) =>
      (proxy, .moved (.probing ecosystem adapter query deadline rest checked))
    | (proxy, .finished result) =>
      conclude wall ecosystem rest checked proxy (faultIn result)
    | (proxy, .blocked) =>
      if deadline ≤ now then
        conclude wall ecosystem rest checked
          { proxy with cache := proxy.cache.updateSession adapter query.cancel }
          (some silenceMessage)
      else (proxy, .blocked)

/-- Whether the pass waits for the files. -/
def wantsFiles : CheckPoint → Bool
  | .ensuring _ reconnect _ _ => reconnect.wantsFiles
  | _ => false

/-- The time at which the pass goes on by itself. -/
def deadline? : CheckPoint → Option Instant
  | .ensuring _ reconnect _ _ => reconnect.deadline?
  | .probing _ _ query deadline _ _ => earlier? query.deadline? (some deadline)
  | _ => none

/-- Gives a pass up where it stands. -/
def cancel (point : CheckPoint) (proxy : Proxy) : Proxy :=
  match point with
  | .ensuring _ reconnect _ _ => { proxy with cache := reconnect.cancel proxy.cache }
  | .probing _ adapter query _ _ _ =>
    { proxy with cache := proxy.cache.updateSession adapter query.cancel }
  | _ => proxy

end CheckPoint

/-- Where the repeated passes stand. -/
inductive HealthPoint where
  /-- There are no passes. -/
  | idle
  | resting (resume : Instant)
  | checking (check : CheckPoint) (next : Instant)

namespace HealthPoint

/-- The beginning of repeated passes. There are none without time between them. -/
def start (interval : Duration) (now : Instant) : HealthPoint :=
  if interval = 0 then .idle else .resting (now + interval)

/-- One step of the repeated passes, which never end. The files are there only when the step may
    use them. -/
def step (now : Instant) (wall : Nat) (interval : Duration) (files : Option Tree)
    (point : HealthPoint) (proxy : Proxy) : Stepped Proxy HealthPoint Unit :=
  match point with
  | .idle => (proxy, .blocked)
  | .resting resume =>
    if resume ≤ now then
      (proxy, .moved (.checking .starting (nextTick interval resume now)))
    else (proxy, .blocked)
  | .checking check next =>
    match check.step now wall files proxy with
    | (proxy, .blocked) => (proxy, .blocked)
    | (proxy, .moved check) => (proxy, .moved (.checking check next))
    | (proxy, .finished _) => (proxy, .moved (.resting next))

/-- Whether the pass under way waits for the files. -/
def wantsFiles : HealthPoint → Bool
  | .idle => false
  | .resting _ => false
  | .checking check _ => check.wantsFiles

/-- The time at which the passes go on by themselves. -/
def deadline? : HealthPoint → Option Instant
  | .idle => none
  | .resting resume => some resume
  | .checking check _ => check.deadline?

/-- Gives up the pass under way. -/
def cancel (point : HealthPoint) (proxy : Proxy) : Proxy :=
  match point with
  | .idle => proxy
  | .resting _ => proxy
  | .checking check _ => check.cancel proxy

end HealthPoint

/-! ### The life of a proxy -/

/-- Where the life of a proxy stands. -/
inductive ServePoint where
  | starting
  | serving (health : HealthPoint)
  | closing (disconnect : DisconnectPoint)

namespace ServePoint

/-- One step in the life of a proxy. The files are there only when the step may use them. -/
def step (now : Instant) (wall : Nat) (files : Option Tree) (point : ServePoint)
    (proxy : Proxy) : Stepped Proxy ServePoint Unit :=
  match point with
  | .starting => (proxy, .moved (.serving (.start proxy.healthInterval now)))
  | .serving health =>
    if proxy.stopAsked then
      (health.cancel { proxy with stopAsked := false }, .moved (.closing .starting))
    else (health.step now wall proxy.healthInterval files proxy).map .serving id
  | .closing disconnect =>
    (proxy.withCache (disconnect.step now files proxy.cache)).map .closing fun _ => ()

/-- Whether the proxy waits for the files. -/
def wantsFiles : ServePoint → Bool
  | .starting => false
  | .serving health => health.wantsFiles
  | .closing disconnect => disconnect.wantsFiles

/-- The time at which the proxy goes on by itself. -/
def deadline? : ServePoint → Option Instant
  | .starting => none
  | .serving health => health.deadline?
  | .closing disconnect => disconnect.deadline?

end ServePoint

end SymbolSearch
