import SymbolSearch.Adapter.Basic
import SymbolSearch.Cache.Error
import SymbolSearch.Config.Basic
import SymbolSearch.Settings

/-!
# The cache of sessions

The cache has at most one adapter, and so one language server, for each ecosystem and workspace.

* `ExtensionTable.ofServers` gives each extension to one of the ecosystems that claim it, and
  `Cache.ecosystemFor?` finds the one of a file.
* `Cache` keeps an adapter in a slot; slots are found under the ecosystem and the root of the
  workspace, and what is done with a slot is done under its guard.
* `Cache.findSlot` gives the slot for a key, `Cache.dropSlot` is the end of one who has a slot,
  and `Cache.unmapSlot` takes an empty slot that nobody else has out of the table.
* `Cache.statuses` lists the sessions that are kept, sorted.
* `EntryPoint.step` finds the workspace of a request, and waits for the guard of its slot.
-/

namespace SymbolSearch

/-- What a slot is found under. -/
structure CacheKey where
  ecosystem : Ecosystem
  /-- The root of the workspace, without links and dots. -/
  root : Path
  deriving DecidableEq

/-- The number of an adapter: how many were made before it. -/
abbrev AdapterId := Nat

/-- The number of a slot: how many were made before it. -/
abbrev SlotId := Nat

/-- The place of one adapter. -/
structure Slot where
  /-- The guard of everything that starts or ends the session. -/
  turns : Turns := {}
  adapter : Option AdapterId := none
  /-- The number of operations that have the slot. -/
  holders : Nat := 0

/-! ### Extensions -/

/-- The ecosystems that files belong to, by the extensions of the files. -/
abbrev ExtensionTable := List (String × Ecosystem)

namespace ExtensionTable

/-- An ecosystem claims an extension. The first one that does has it. -/
def claim (table : ExtensionTable) (extension : String) (ecosystem : Ecosystem) : ExtensionTable :=
  match table.lookup extension with
  | some _ => table
  | none => (extension, ecosystem) :: table

/-- An ecosystem claims the extensions of its server. -/
def claimAll (table : ExtensionTable) (entry : Ecosystem × ServerConfig) : ExtensionTable :=
  entry.2.fileExtensions.foldl
    (fun table extension => table.claim (Scanner.normalExtension extension) entry.1) table

/-- What all ecosystems claim, in the order of their names. -/
def ofServers (servers : ServerTable) : ExtensionTable := servers.foldl claimAll []

end ExtensionTable

/-! ### What is kept -/

/-- How sessions are kept, and how their questions are answered. -/
structure SearchSettings where
  session : SessionSettings := {}
  adapter : AdapterSettings := {}
  cache : CacheSettings := {}

/-- The cache of sessions. -/
structure Cache where
  servers : ServerTable
  settings : SearchSettings
  /-- Every adapter that was made, the first one first. -/
  adapters : List Adapter := []
  /-- Every slot that was made, the first one first. -/
  slots : List Slot := []
  /-- The slots that can be found. -/
  mapped : List (CacheKey × SlotId) := []

/-- How one session that is kept is doing. -/
structure SessionStatus where
  key : CacheKey
  state : SessionState
  restarts : Nat
  failures : Nat

namespace Cache

/-! ### Servers -/

/-- The ecosystem whose server handles files with this path. -/
def ecosystemFor? (cache : Cache) (path : Path) : Option Ecosystem :=
  path.extension?.bind fun extension =>
    (ExtensionTable.ofServers cache.servers).lookup (Text.asciiLower extension)

/-! ### Adapters -/

/-- Changes an adapter. -/
def updateAdapter (cache : Cache) (id : AdapterId) (change : Adapter → Adapter) : Cache :=
  { cache with adapters := cache.adapters.modify id change }

/-- Changes the session of an adapter. -/
def updateSession (cache : Cache) (id : AdapterId) (change : Session → Session) : Cache :=
  cache.updateAdapter id fun adapter => { adapter with session := change adapter.session }

/-- The session of an adapter. -/
def session? (cache : Cache) (id : AdapterId) : Option Session :=
  (cache.adapters[id]?).map (·.session)

/-- One step of an operation on an adapter. -/
def stepAdapter {π ρ : Type} (cache : Cache) (id : AdapterId)
    (step : Adapter → Stepped Adapter π ρ) : Stepped Cache π ρ :=
  match cache.adapters[id]? with
  | none => (cache, .blocked)
  | some adapter =>
    let (adapter, progress) := step adapter
    (cache.updateAdapter id fun _ => adapter, progress)

/-- One step of an operation on the session of an adapter. -/
def stepSession {π ρ : Type} (cache : Cache) (id : AdapterId)
    (step : Session → Stepped Session π ρ) : Stepped Cache π ρ :=
  cache.stepAdapter id fun adapter => adapter.withSession (step adapter.session)

/-! ### Slots -/

/-- Changes a slot. -/
def updateSlot (cache : Cache) (id : SlotId) (change : Slot → Slot) : Cache :=
  { cache with slots := cache.slots.modify id change }

/-- The slot with a number. -/
def slotAt (cache : Cache) (id : SlotId) : Slot := (cache.slots[id]?).getD {}

/-- The slot for a key, which is made if there is none; from now on one more operation has it. -/
def findSlot (cache : Cache) (key : CacheKey) : SlotId × Cache :=
  match cache.mapped.lookup key with
  | some id =>
    (id, cache.updateSlot id fun slot => { slot with holders := slot.holders + 1 })
  | none =>
    let id := cache.slots.length
    (id, { cache with
      slots := cache.slots ++ [{ holders := 1 }]
      mapped := cache.mapped ++ [(key, id)] })

/-- One who had a slot has it no longer. -/
def dropSlot (cache : Cache) (id : SlotId) : Cache :=
  cache.updateSlot id fun slot => { slot with holders := slot.holders - 1 }

/-- Asks for the guard of a slot. -/
def joinSlot (cache : Cache) (id : SlotId) : Ticket × Cache :=
  let (ticket, turns) := (cache.slotAt id).turns.join
  (ticket, cache.updateSlot id fun slot => { slot with turns })

/-- Gives up the guard of a slot, or the place in the line for it. -/
def leaveSlot (cache : Cache) (id : SlotId) (ticket : Ticket) : Cache :=
  cache.updateSlot id fun slot => { slot with turns := slot.turns.leave ticket }

/-- Takes the slot of a key out of the table if it is empty and only the one who does this has
    it. -/
def unmapSlot (cache : Cache) (key : CacheKey) (id : SlotId) : Cache :=
  let slot := cache.slotAt id
  if cache.mapped.lookup key = some id && slot.holders = 1 && slot.adapter.isNone then
    { cache with mapped := cache.mapped.filter fun entry => entry.1 ≠ key }
  else cache

/-- The adapter in the slot of a key, which is made if there is none. -/
def adapterIn (cache : Cache) (key : CacheKey) (server : ServerConfig) (id : SlotId) :
    AdapterId × Cache :=
  match (cache.slotAt id).adapter with
  | some adapter => (adapter, cache)
  | none =>
    let made := Adapter.ofServer key.ecosystem key.root server cache.settings.session
      cache.settings.adapter
    let adapter := cache.adapters.length
    (adapter, { cache with adapters := cache.adapters ++ [made] }.updateSlot id
      fun slot => { slot with adapter := some adapter })

/-- Takes the adapter out of a slot. -/
def emptySlot (cache : Cache) (id : SlotId) : Option AdapterId × Cache :=
  ((cache.slotAt id).adapter, cache.updateSlot id fun slot => { slot with adapter := none })

/-! ### Statuses -/

/-- Whether a status comes before another: by ecosystem, then by root. -/
def statusBefore (a b : SessionStatus) : Bool :=
  a.key.ecosystem.name < b.key.ecosystem.name
    || (a.key.ecosystem = b.key.ecosystem && !b.key.root.before a.key.root)

/-- How the sessions are doing that are kept. -/
def statuses (cache : Cache) : List SessionStatus :=
  (cache.mapped.filterMap fun (key, id) => do
    let session ← cache.session? (← (cache.slotAt id).adapter)
    return ⟨key, session.state, session.restarts, session.failures⟩).mergeSort statusBefore

end Cache

/-! ### Coming to a slot -/

/-- A slot with its guard, for a workspace that was found. -/
structure Hold where
  key : CacheKey
  server : ServerConfig
  slot : SlotId
  ticket : Ticket

/-- Where a request on its way to a slot stands. -/
inductive EntryPoint where
  | starting (ecosystem : Ecosystem) (workspace : Path)
  /-- The root of the workspace is looked up among the files. -/
  | finding (ecosystem : Ecosystem) (server : ServerConfig) (workspace : Path)
  | queued (hold : Hold)

namespace EntryPoint

/-- One step on the way to a slot. The files are there only when the step may use them. -/
def step (files : Option Tree) (point : EntryPoint) (cache : Cache) :
    Stepped Cache EntryPoint (Except CacheError Hold) :=
  match point with
  | .starting ecosystem workspace =>
    match cache.servers.server? ecosystem with
    | none => (cache, .finished (.error (.unknownEcosystem ecosystem.name)))
    | some server => (cache, .moved (.finding ecosystem server workspace))
  | .finding ecosystem server workspace =>
    match files with
    | none => (cache, .blocked)
    | some tree =>
      match tree.canonical workspace with
      | .error error =>
        (cache, .finished (.error (.workspaceUnreadable workspace error.message)))
      | .ok root =>
        let key : CacheKey := ⟨ecosystem, root⟩
        let (slot, cache) := cache.findSlot key
        let (ticket, cache) := cache.joinSlot slot
        (cache, .moved (.queued ⟨key, server, slot, ticket⟩))
  | .queued hold =>
    if (cache.slotAt hold.slot).turns.holds hold.ticket then (cache, .finished (.ok hold))
    else (cache, .blocked)

/-- Whether the request waits for the files. -/
def wantsFiles : EntryPoint → Bool
  | .finding _ _ _ => true
  | _ => false

end EntryPoint

namespace Cache

/-- Gives up a slot and its guard, or the place in the line for it. -/
def leaveHold (cache : Cache) (hold : Hold) : Cache :=
  (cache.leaveSlot hold.slot hold.ticket).dropSlot hold.slot

end Cache

/-- Gives up the way to a slot. -/
def EntryPoint.cancel (point : EntryPoint) (cache : Cache) : Cache :=
  match point with
  | .starting _ _ => cache
  | .finding _ _ _ => cache
  | .queued hold => cache.leaveHold hold

namespace Cache

/-- One step of getting the adapter of a workspace; it never launches a server. -/
def stepAdapterFor (files : Option Tree) (point : EntryPoint) (cache : Cache) :
    Stepped Cache EntryPoint (Except CacheError AdapterId) :=
  match point.step files cache with
  | (cache, .blocked) => (cache, .blocked)
  | (cache, .moved point) => (cache, .moved point)
  | (cache, .finished (.error error)) => (cache, .finished (.error error))
  | (cache, .finished (.ok hold)) =>
    let (adapter, cache) := cache.adapterIn hold.key hold.server hold.slot
    (cache.leaveHold hold, .finished (.ok adapter))

end Cache

end SymbolSearch
