import Mathlib.Tactic.Simproc.ExistsAndEq
import SymbolSearch.Proofs.Config.Precedence

/-!
# Layers as unions, and fields of sections

What comes of two tables that are laid over each other is settled key by key, on every level: only
two tables under one key are laid over each other in turn, and otherwise the upper table has the
last word on all keys that it has.

* `Ascending.ext` — tables in order are the same if they say the same of every key.
* `Layer.union`, `Layer.field?_merge` — what is found under a key of two layers.
* `Layer.ordered_merge` — two layers in order come to a layer in order.
* `Layer.merge_merge_self` — to lay the same layer over once more changes nothing.

A document has five sections with values that settle how things run, and a section for each server.
A section is read field by field: no field has a say in how another one is read.

* `Knob` — a field of a section: its key, how its value is read, and where the value goes.
* `ReadBy` — a section is read by nothing but such fields; `ReadBy.overlayFields` says what becomes
  of the fields when one table lies over another.
* `parts` — the five sections with their fields; `eq_of_forall_knobs` and `ofFields?_eq_some_iff`
  say that a document sets nothing else, but for the sections of servers.
-/

namespace SymbolSearch

/-! ### Unions -/

/-! ### Fields in order -/

section Ascending

variable {α : Type} {first second : List (String × α)}

theorem Ascending.nodup (h : Ascending first) : first.Nodup := by
  refine h.imp ?_
  rintro a b hlt rfl
  exact String.lt_irrefl _ hlt

/-- Fields in order are told by what is found under the keys. -/
theorem Ascending.ext (hfirst : Ascending first) (hsecond : Ascending second)
    (h : ∀ key, first.lookup key = second.lookup key) : first = second := by
  have hmem : ∀ field, field ∈ first ↔ field ∈ second := by
    rintro ⟨key, value⟩
    rw [← hfirst.lookup_eq_some_iff, h key, hsecond.lookup_eq_some_iff]
  have hperm : first.Perm second :=
    (List.perm_ext_iff_of_nodup hfirst.nodup hsecond.nodup).mpr hmem
  refine hperm.eq_of_pairwise ?_ hfirst hsecond
  intro a b _ _ hab hba
  exact absurd hba (String.lt_asymm hab)

end Ascending

/-- What is found under a key of fields that were read is what stands there, read. -/
theorem FieldsRead.lookup_eq_bind {α β : Type} {read : α → Option β} {fields : List (String × α)}
    {found : List (String × β)} (h : FieldsRead read fields found) (key : String) :
    found.lookup key = (fields.lookup key).bind read := by
  induction h with
  | nil => rfl
  | @cons field result rest results hfirst _ ih =>
    obtain ⟨name, value⟩ := field
    obtain ⟨other, given⟩ := result
    obtain ⟨rfl, hread⟩ := hfirst
    rw [List.lookup_cons, List.lookup_cons]
    cases key == other with
    | true => exact hread.symm
    | false => exact ih

namespace Layer

variable {base above : Layer} {below : Option Toml} {value : Toml} {fields : Toml.Fields}

/-! ### What is found -/

/-- What two layers come to under one key: two tables are laid over each other, and otherwise the
    upper layer decides if it has the key. -/
def union : Option Toml → Option Toml → Option Toml
  | some (.table lower), some (.table upper) => some (.table (merge lower upper))
  | _, some value => some value
  | found, none => found

theorem union_none (lower : Option Toml) : union lower none = lower := by
  rcases lower with _ | old
  · rfl
  · cases old <;> rfl

theorem union_some (lower : Option Toml) (value : Toml) :
    union lower (some value) = some (overlay lower value) := by
  cases value with
  | table upper =>
    by_cases htable : ∃ under, lower = some (.table under)
    · obtain ⟨under, rfl⟩ := htable
      rw [union, overlay, merge]
    · rw [overlay_of_base (not_exists.mp htable), union]
      rintro under _ rfl
      exact absurd ⟨under, rfl⟩ htable
  | boolean | integer | float | string | moment | array =>
    rw [overlay_of_not_table (by simp), union]
    rintro _ _ _ ⟨⟩

theorem field?_merge (habove : Ascending above) (base : Layer) (key : String) :
    Toml.field? (base.merge above) key = union (Toml.field? base key) (Toml.field? above key) := by
  rw [merge, field?_overlayFields habove]
  cases Toml.field? above key with
  | none => rw [union_none]
  | some value => rw [union_some]

/-- A table over anything comes to a table over another one. -/
theorem exists_overlay_table (hfields : Ascending fields)
    (hbelow : ∀ old, below = some old → old.Ordered) :
    ∃ under, Toml.Ordered (.table under) ∧
      overlay below (.table fields) = .table (overlayFields under fields) := by
  by_cases htable : ∃ under, below = some (.table under)
  · obtain ⟨under, rfl⟩ := htable
    exact ⟨under, hbelow _ rfl, by rw [overlay]⟩
  · -- Nothing is seen of what is below, just as if there were a table with nothing in it.
    refine ⟨[], .table [] .nil (by rintro _ ⟨⟩), ?_⟩
    have hempty : overlayFields [] fields = fields := nil_merge hfields
    rw [overlay_of_base (not_exists.mp htable), hempty]

theorem ordered_field? {under : Toml.Fields} (h : Toml.Ordered (.table under)) {key : String}
    {old : Toml} (hfound : Toml.field? under key = some old) : old.Ordered := by
  obtain ⟨hascending, heach⟩ := Toml.ordered_table_iff.mp h
  exact heach _ (hascending.lookup_eq_some_iff.mp hfound)

/-! ### Order -/

theorem ordered_overlay (hvalue : value.Ordered)
    (hbelow : ∀ old, below = some old → old.Ordered) : (overlay below value).Ordered := by
  induction hvalue generalizing below with
  | table fields hfields heach ih =>
    obtain ⟨under, hunder, hover⟩ := exists_overlay_table hfields hbelow
    have hascending := ascending_overlayFields (Toml.ordered_table_iff.mp hunder).1 fields
    rw [hover]
    refine .table _ hascending ?_
    rintro ⟨key, found⟩ hfound
    have hfield : Toml.field? (overlayFields under fields) key = some found :=
      hascending.lookup_eq_some_iff.mpr hfound
    rw [field?_overlayFields hfields] at hfield
    cases hupper : Toml.field? fields key with
    | none =>
      rw [hupper] at hfield
      exact ordered_field? hunder hfield
    | some upper =>
      rw [hupper] at hfield
      cases hfield
      exact ih _ (hfields.lookup_eq_some_iff.mp hupper) fun old => ordered_field? hunder
  | boolean _ | integer _ | float _ | string _ | moment _ =>
    rw [overlay_of_not_table (by simp)]
    constructor
  | array items each =>
    rw [overlay_of_not_table (by simp)]
    exact .array items each

/-- Two layers in order come to a layer in order. -/
theorem ordered_merge (hbase : Toml.Ordered (.table base)) (habove : Toml.Ordered (.table above)) :
    Toml.Ordered (.table (base.merge above)) := by
  have hover : (overlay (some (.table base)) (.table above)).Ordered := by
    apply ordered_overlay habove
    intro old hold
    rwa [← Option.some.inj hold]
  rwa [overlay] at hover

/-! ### Once more -/

/-- To lay the same value over once more changes nothing. -/
theorem overlay_overlay_self (hvalue : value.Ordered)
    (hbelow : ∀ old, below = some old → old.Ordered) :
    overlay (some (overlay below value)) value = overlay below value := by
  induction hvalue generalizing below with
  | table fields hfields heach ih =>
    obtain ⟨under, hunder, hover⟩ := exists_overlay_table hfields hbelow
    have hascending := ascending_overlayFields (Toml.ordered_table_iff.mp hunder).1 fields
    rw [hover, overlay, Toml.table.injEq]
    refine Ascending.ext (ascending_overlayFields hascending fields) hascending fun key => ?_
    have htwice := field?_overlayFields hfields (overlayFields under fields) key
    have honce := field?_overlayFields hfields under key
    cases hupper : Toml.field? fields key with
    | none =>
      rw [hupper] at htwice
      exact htwice
    | some upper =>
      rw [hupper] at htwice honce
      have hsame : overlay (some (overlay (Toml.field? under key) upper)) upper =
          overlay (Toml.field? under key) upper :=
        ih _ (hfields.lookup_eq_some_iff.mp hupper) fun old => ordered_field? hunder
      dsimp only at htwice honce
      rw [honce, hsame] at htwice
      exact htwice.trans honce.symm
  | boolean _ | integer _ | float _ | string _ | moment _ | array _ _ =>
    exact overlay_of_not_table (by simp)

/-- To lay the same layer over once more changes nothing. -/
theorem merge_merge_self (hbase : Toml.Ordered (.table base))
    (habove : Toml.Ordered (.table above)) : (base.merge above).merge above = base.merge above := by
  have hsame : overlay (some (overlay (some (.table base)) (.table above))) (.table above) =
      overlay (some (.table base)) (.table above) := by
    apply overlay_overlay_self habove
    intro old hold
    rwa [← Option.some.inj hold]
  rw [overlay, overlay, Toml.table.injEq] at hsame
  exact hsame

end Layer

/-! ### Fields -/

namespace ConfigSections

/-! ### Fields of sections -/

/-- A field of a section: the key that it has in documents, how its value is read, and where the
    value goes. -/
structure Knob (Section : Type) where
  key : String
  Value : Type
  read : Toml → Option Value
  value : Section → Value

namespace Knob

variable {Section : Type} {knob : Knob Section} {usual : Section}
  {fields below above : Toml.Fields}

/-- Reads the field, or takes the usual value if it is missing. -/
def read? (knob : Knob Section) (usual : Section) (fields : Toml.Fields) : Option knob.Value :=
  valueOr knob.read (knob.value usual) fields knob.key

/-- What the field is set to, if it is set. -/
def given? (knob : Knob Section) (fields : Toml.Fields) : Option knob.Value :=
  (Toml.field? fields knob.key).bind knob.read

theorem eq_of_read? {found : knob.Value} (h : knob.read? usual fields = some found) :
    found = (knob.given? fields).getD (knob.value usual) := by
  unfold read? valueOr at h
  unfold given?
  cases hfield : Toml.field? fields knob.key with
  | none =>
    rw [hfield] at h
    exact (Option.some.inj h).symm
  | some value =>
    rw [hfield] at h
    rw [Option.bind_some, show knob.read value = some found from h, Option.getD_some]

/-- The field of two tables is set as the upper one sets it, and otherwise as the lower one does. -/
theorem read?_overlayFields (hplain : ∀ inner, knob.read (.table inner) = none)
    (habove : Ascending above) {lower upper : knob.Value}
    (hlower : knob.read? usual below = some lower) (hupper : knob.read? usual above = some upper) :
    knob.read? usual (Layer.overlayFields below above) =
      some (((knob.given? above).or (knob.given? below)).getD (knob.value usual)) := by
  have hfield := Layer.field?_overlayFields habove below knob.key
  unfold read? valueOr
  rw [hfield]
  cases hfound : Toml.field? above knob.key with
  | none =>
    have hunset : knob.given? above = none := by rw [given?, hfound, Option.bind_none]
    rw [hunset, Option.none_or, ← eq_of_read? hlower]
    exact hlower
  | some value =>
    have hread : knob.read value = some upper := by
      unfold read? valueOr at hupper
      rwa [hfound] at hupper
    have hset : knob.given? above = some upper := by rw [given?, hfound, Option.bind_some, hread]
    -- What is read is no table, so nothing of the lower table is seen.
    have hvalue : ∀ inner, value ≠ .table inner := by
      rintro inner rfl
      rw [hplain] at hread
      cases hread
    dsimp only
    rw [Layer.overlay_of_not_table hvalue, hread, hset, Option.some_or, Option.getD_some]

end Knob

/-- A section is read field by field. -/
structure ReadBy {Section : Type} (read : Toml.Fields → Option Section) (usual : Section)
    (knobs : List (Knob Section)) : Prop where
  /-- No field is a table. -/
  plain : ∀ knob ∈ knobs, ∀ inner, knob.read (.table inner) = none
  iff : ∀ fields found, read fields = some found ↔
    ∀ knob ∈ knobs, knob.read? usual fields = some (knob.value found)
  /-- Nothing keeps a section from being read if all its fields are. -/
  total : ∀ fields, (∀ knob ∈ knobs, ∃ value, knob.read? usual fields = some value) →
    ∃ found, read fields = some found

namespace ReadBy

variable {Section : Type} {read : Toml.Fields → Option Section} {usual lower upper : Section}
  {knobs : List (Knob Section)} {below above : Toml.Fields}

theorem read_nil (h : ReadBy read usual knobs) : read [] = some usual :=
  (h.iff [] usual).mpr fun _ _ => rfl

/-- The section of two tables is read, and every field is set as the upper table sets it, and
    otherwise as the lower one does. -/
theorem overlayFields (h : ReadBy read usual knobs) (habove : Ascending above)
    (hlower : read below = some lower) (hupper : read above = some upper) :
    ∃ both, read (Layer.overlayFields below above) = some both ∧ ∀ knob ∈ knobs,
      knob.value both = ((knob.given? above).or (knob.given? below)).getD (knob.value usual) := by
  have hknobs : ∀ knob ∈ knobs, knob.read? usual (Layer.overlayFields below above) =
      some (((knob.given? above).or (knob.given? below)).getD (knob.value usual)) := by
    intro knob hknob
    have hlowerKnob := (h.iff below lower).mp hlower knob hknob
    have hupperKnob := (h.iff above upper).mp hupper knob hknob
    exact Knob.read?_overlayFields (h.plain knob hknob) habove hlowerKnob hupperKnob
  obtain ⟨both, hboth⟩ := h.total _ fun knob hknob => ⟨_, hknobs knob hknob⟩
  refine ⟨both, hboth, fun knob hknob => ?_⟩
  have hknob' := (h.iff _ both).mp hboth knob hknob
  exact Option.some.inj (hknob'.symm.trans (hknobs knob hknob))

end ReadBy

/-! ### The five sections -/

/-- The fields of the section of the proxy. -/
def proxyKnobs : List (Knob ProxySettings) :=
  [⟨"port", Nat, below? UInt16.size, (·.port)⟩,
    ⟨"health_interval_secs", Duration, secs?, (·.healthInterval)⟩]

/-- The fields of the section of the monitor. -/
def monitorKnobs : List (Knob MonitorSettings) :=
  [⟨"restart_budget", Nat, count?, (·.restartBudget)⟩,
    ⟨"restart_cooldown_ms", Duration, millis?, (·.restartCooldown)⟩,
    ⟨"probe_interval_secs", Duration, secs?, (·.probeInterval)⟩,
    ⟨"readiness_ttl_ms", Duration, millis?, (·.readinessTtl)⟩,
    ⟨"startup_timeout_ms", Duration, millis?, (·.startupTimeout)⟩]

/-- The fields of the section of sessions. -/
def sessionKnobs : List (Knob SessionSettings) :=
  [⟨"handshake_timeout_ms", Duration, millis?, (·.handshakeTimeout)⟩,
    ⟨"request_timeout_ms", Duration, millis?, (·.requestTimeout)⟩,
    ⟨"shutdown_timeout_ms", Duration, millis?, (·.shutdownTimeout)⟩,
    ⟨"degraded_after", Nat, count?, (·.degradedAfter)⟩,
    ⟨"max_restarts", Nat, count?, (·.maxRestarts)⟩,
    ⟨"restart_cooldown_ms", Duration, millis?, (·.restartCooldown)⟩]

/-- The fields of the section of the answers for an ecosystem. -/
def adapterKnobs : List (Knob AdapterSettings) :=
  [⟨"settle_delay_ms", Duration, millis?, (·.settleDelay)⟩,
    ⟨"cache_ttl_secs", Duration, secs?, (·.cacheTtl)⟩,
    ⟨"fallback_max_files", Nat, size?, (·.scan.files)⟩,
    ⟨"fallback_max_file_bytes", Nat, size?, (·.scan.fileBytes)⟩]

/-- The fields of the section of the cache of sessions. -/
def cacheKnobs : List (Knob CacheSettings) :=
  [⟨"reconnect_attempts", Nat, count?, (·.reconnectAttempts)⟩,
    ⟨"reconnect_delay_ms", Duration, millis?, (·.reconnectDelay)⟩]

@[simp] theorem below?_table (bound : Nat) (fields : Toml.Fields) :
    below? bound (.table fields) = none := rfl

theorem proxy?_readBy : ReadBy proxy? {} proxyKnobs where
  plain := by simp [proxyKnobs, secs?, size?]
  iff fields found := by
    obtain ⟨port, healthInterval⟩ := found
    simp [proxy?, proxyKnobs, Knob.read?, Option.bind_eq_some_iff]
  total fields h := by
    simp only [proxyKnobs, List.forall_mem_cons, Knob.read?] at h
    obtain ⟨⟨_, h₁⟩, ⟨_, h₂⟩, -⟩ := h
    simp [proxy?, h₁, h₂]

theorem monitor?_readBy : ReadBy monitor? {} monitorKnobs where
  plain := by simp [monitorKnobs, millis?, secs?, count?, size?]
  iff fields found := by
    obtain ⟨restartBudget, restartCooldown, probeInterval, readinessTtl, startupTimeout⟩ := found
    simp [monitor?, monitorKnobs, Knob.read?, Option.bind_eq_some_iff]
  total fields h := by
    simp only [monitorKnobs, List.forall_mem_cons, Knob.read?] at h
    obtain ⟨⟨_, h₁⟩, ⟨_, h₂⟩, ⟨_, h₃⟩, ⟨_, h₄⟩, ⟨_, h₅⟩, -⟩ := h
    simp [monitor?, h₁, h₂, h₃, h₄, h₅]

theorem session?_readBy : ReadBy session? {} sessionKnobs where
  plain := by simp [sessionKnobs, millis?, count?, size?]
  iff fields found := by
    obtain ⟨handshakeTimeout, requestTimeout, shutdownTimeout, degradedAfter, maxRestarts,
      restartCooldown⟩ := found
    simp [session?, sessionKnobs, Knob.read?, Option.bind_eq_some_iff]
  total fields h := by
    simp only [sessionKnobs, List.forall_mem_cons, Knob.read?] at h
    obtain ⟨⟨_, h₁⟩, ⟨_, h₂⟩, ⟨_, h₃⟩, ⟨_, h₄⟩, ⟨_, h₅⟩, ⟨_, h₆⟩, -⟩ := h
    simp [session?, h₁, h₂, h₃, h₄, h₅, h₆]

theorem adapter?_readBy : ReadBy adapter? {} adapterKnobs where
  plain := by simp [adapterKnobs, millis?, secs?, size?]
  iff fields found := by
    obtain ⟨settleDelay, cacheTtl, files, fileBytes⟩ := found
    simp [adapter?, adapterKnobs, Knob.read?, Option.bind_eq_some_iff]
  total fields h := by
    simp only [adapterKnobs, List.forall_mem_cons, Knob.read?] at h
    obtain ⟨⟨_, h₁⟩, ⟨_, h₂⟩, ⟨_, h₃⟩, ⟨_, h₄⟩, -⟩ := h
    simp [adapter?, h₁, h₂, h₃, h₄]

theorem cache?_readBy : ReadBy cache? {} cacheKnobs where
  plain := by simp [cacheKnobs, millis?, count?, size?]
  iff fields found := by
    obtain ⟨reconnectAttempts, reconnectDelay⟩ := found
    simp [cache?, cacheKnobs, Knob.read?, Option.bind_eq_some_iff]
  total fields h := by
    simp only [cacheKnobs, List.forall_mem_cons, Knob.read?] at h
    obtain ⟨⟨_, h₁⟩, ⟨_, h₂⟩, -⟩ := h
    simp [cache?, h₁, h₂]

/-- A section of a document: the key that it has there, how its fields are read, and where they
    go. -/
structure Part where
  name : String
  Section : Type
  read : Toml.Fields → Option Section
  usual : Section
  get : ConfigSections → Section
  knobs : List (Knob Section)

/-- The sections of a document, but for those of servers. -/
def parts : List Part :=
  [⟨"proxy", ProxySettings, proxy?, {}, (·.proxy), proxyKnobs⟩,
    ⟨"monitor", MonitorSettings, monitor?, {}, (·.monitor), monitorKnobs⟩,
    ⟨"session", SessionSettings, session?, {}, (·.session), sessionKnobs⟩,
    ⟨"adapter", AdapterSettings, adapter?, {}, (·.adapter), adapterKnobs⟩,
    ⟨"cache", CacheSettings, cache?, {}, (·.cache), cacheKnobs⟩]

theorem parts_readBy : ∀ part ∈ parts, ReadBy part.read part.usual part.knobs := by
  simp only [parts, List.forall_mem_cons]
  exact ⟨proxy?_readBy, monitor?_readBy, session?_readBy, adapter?_readBy, cache?_readBy,
    by rintro _ ⟨⟩⟩

/-- The fields of the parts and the sections of servers are all that a document sets. -/
theorem eq_of_forall_knobs {first second : ConfigSections}
    (hparts : ∀ part ∈ parts, ∀ knob ∈ part.knobs,
      knob.value (part.get first) = knob.value (part.get second))
    (hservers : first.servers = second.servers) : first = second := by
  simp only [parts, proxyKnobs, monitorKnobs, sessionKnobs, adapterKnobs, cacheKnobs,
    List.forall_mem_cons] at hparts
  obtain ⟨⟨⟩, ⟨⟩, ⟨⟩, ⟨_, _, ⟨⟩⟩, ⟨⟩, _⟩ := first
  obtain ⟨⟨⟩, ⟨⟩, ⟨⟩, ⟨_, _, ⟨⟩⟩, ⟨⟩, _⟩ := second
  simp_all

namespace Part

/-- The names of the fields of the section, in order. -/
def names (part : Part) : List String := part.knobs.map (·.key)

/-- Reads the section of a layer. -/
def read? (part : Part) (layer : Layer) : Option part.Section :=
  ConfigSections.section? .strict part.names part.read part.usual layer part.name

end Part

theorem ofFields?_eq_some_iff {layer : Layer} {found : ConfigSections} :
    ofFields? .strict layer = some found ↔
      (∀ part ∈ parts, part.read? layer = some (part.get found)) ∧
        valueOr (servers? .strict) [] layer "servers" = some found.servers := by
  obtain ⟨proxy, monitor, session, adapter, cache, servers⟩ := found
  simp only [parts, List.forall_mem_cons, ofFields?, Option.bind_eq_bind, Option.bind_eq_some_iff,
    Option.pure_def, Option.some.injEq, mk.injEq]
  constructor
  · rintro ⟨_, h₁, _, h₂, _, h₃, _, h₄, _, h₅, _, h₆, rfl, rfl, rfl, rfl, rfl, rfl⟩
    exact ⟨⟨h₁, h₂, h₃, h₄, h₅, by rintro _ ⟨⟩⟩, h₆⟩
  · rintro ⟨⟨h₁, h₂, h₃, h₄, h₅, -⟩, h₆⟩
    exact ⟨_, h₁, _, h₂, _, h₃, _, h₄, _, h₅, _, h₆, rfl, rfl, rfl, rfl, rfl, rfl⟩

theorem exists_of_forall_parts {layer : Layer}
    (hparts : ∀ part ∈ parts, ∃ found, part.read? layer = some found)
    (hservers : ∃ tables, valueOr (servers? .strict) [] layer "servers" = some tables) :
    ∃ found, ofFields? .strict layer = some found := by
  simp only [parts, List.forall_mem_cons] at hparts
  obtain ⟨⟨proxy, h₁⟩, ⟨monitor, h₂⟩, ⟨session, h₃⟩, ⟨adapter, h₄⟩, ⟨cache, h₅⟩, -⟩ := hparts
  obtain ⟨servers, h₆⟩ := hservers
  refine ⟨⟨proxy, monitor, session, adapter, cache, servers⟩, ofFields?_eq_some_iff.mpr ⟨?_, h₆⟩⟩
  simp only [parts, List.forall_mem_cons]
  exact ⟨h₁, h₂, h₃, h₄, h₅, by rintro _ ⟨⟩⟩

end ConfigSections

end SymbolSearch
