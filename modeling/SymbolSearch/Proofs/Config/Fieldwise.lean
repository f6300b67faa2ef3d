import SymbolSearch.Proofs.Config.Fields

/-!
# Layers override field by field

Two layers that can be read come to a layer that can be read. If both write their sections as
tables, every field is set as the upper layer sets it, otherwise as the lower one does, and
otherwise it has its usual value.

* `Part.given?` — what a layer sets a field of a section to.
* `ServerSection.over` — what the sections that two layers have for a server come to.
* `Layer.exists_merge` — layers that can be read come to one that can be read.
* `Layer.merge_fieldwise` — what becomes of each key of two layers, and of each field.
-/

namespace SymbolSearch

/-! ### Layers that can be read -/

namespace ConfigSections

variable {Section : Type} {names : List String} {read : Toml.Fields → Option Section}
  {below above : Layer} {base : Option Toml} {value : Toml}

/-- Reads a section of a layer. -/
def sectionIn? (names : List String) (read : Toml.Fields → Option Section) (value : Toml) :
    Option Section :=
  (fieldsOf? .strict names value).bind read

/-- Whether two tables that can be read come to one that can be read. -/
def Merges (read : Toml.Fields → Option Section) : Prop :=
  ∀ below above lower upper, Ascending above → read below = some lower → read above = some upper →
    ∃ both, read (Layer.overlayFields below above) = some both

theorem ReadBy.merges {usual : Section} {knobs : List (Knob Section)}
    (h : ReadBy read usual knobs) : Merges read := by
  intro below above lower upper habove hlower hupper
  obtain ⟨both, hboth, -⟩ := h.overlayFields habove hlower hupper
  exact ⟨both, hboth⟩

/-- A section that lies over another one can be read if both can. -/
theorem Merges.overlay (h : Merges read) (hvalue : value.Ordered)
    (hupper : ∃ upper, sectionIn? names read value = some upper)
    (hlower : ∀ old, base = some old → ∃ lower, sectionIn? names read old = some lower) :
    ∃ both, sectionIn? names read (Layer.overlay base value) = some both := by
  by_cases htable : ∃ fields, value = .table fields
  · obtain ⟨fields, rfl⟩ := htable
    by_cases hbase : ∃ under, base = some (.table under)
    · obtain ⟨under, rfl⟩ := hbase
      obtain ⟨lower, hlower⟩ := hlower _ rfl
      obtain ⟨upper, hupper⟩ := hupper
      rw [Layer.overlay]
      exact h _ _ lower upper (Toml.ordered_table_iff.mp hvalue).1 hlower hupper
    · rw [Layer.overlay_of_base (not_exists.mp hbase)]
      exact hupper
  · -- The upper section takes the place of the lower one.
    rw [Layer.overlay_of_not_table (not_exists.mp htable)]
    exact hupper

/-- What is read under a key of two layers can be read if it can be read in both. -/
theorem exists_valueOr_merge {α : Type} {readValue : Toml → Option α} {usual : α} {key : String}
    (habove : Ascending above)
    (hover : ∀ value, Toml.field? above key = some value →
      ∃ found, readValue (Layer.overlay (Toml.field? below key) value) = some found)
    (hlower : ∃ found, valueOr readValue usual below key = some found) :
    ∃ found, valueOr readValue usual (below.merge above) key = some found := by
  unfold valueOr at hlower ⊢
  rw [Layer.merge, Layer.field?_overlayFields habove]
  cases hfound : Toml.field? above key with
  | none => exact hlower
  | some value => exact hover value hfound

theorem exists_of_valueOr {α : Type} {readValue : Toml → Option α} {usual : α} {key : String}
    {fields : Toml.Fields} {value : Toml} (hfound : Toml.field? fields key = some value)
    (h : ∃ found, valueOr readValue usual fields key = some found) :
    ∃ found, readValue value = some found := by
  unfold valueOr at h
  rwa [hfound] at h

theorem exists_part_merge {part : Part} (hpart : part ∈ parts)
    (habove : Toml.Ordered (.table above)) (hlower : ∃ lower, part.read? below = some lower)
    (hupper : ∃ upper, part.read? above = some upper) :
    ∃ both, part.read? (below.merge above) = some both := by
  have hmerges : Merges part.read := (parts_readBy part hpart).merges
  refine exists_valueOr_merge (Toml.ordered_table_iff.mp habove).1 ?_ hlower
  intro value hvalue
  refine hmerges.overlay (Layer.ordered_field? habove hvalue) (exists_of_valueOr hvalue hupper) ?_
  intro old hold
  exact exists_of_valueOr hold hlower

/-! ### Servers -/

/-- A field of a server that may be missing is set as the upper table sets it, and otherwise as the
    lower one does. -/
theorem optional_over {α : Type} {readValue : Toml → Option α} {key : String}
    {lower upper : Option α} (hplain : ∀ inner, readValue (.table inner) = none)
    (habove : Ascending above) (hlower : optional readValue below key = some lower)
    (hupper : optional readValue above key = some upper) :
    optional readValue (Layer.overlayFields below above) key = some (upper <|> lower) := by
  simp only [optional, valueOr, Layer.field?_overlayFields habove] at hlower hupper ⊢
  cases hfound : Toml.field? above key with
  | none =>
    rw [hfound] at hupper
    rw [← Option.some.inj hupper]
    exact hlower
  | some value =>
    rw [hfound] at hupper
    obtain ⟨result, hresult, rfl⟩ := Option.map_eq_some_iff.mp hupper
    have hvalue : ∀ inner, value ≠ .table inner := by
      rintro inner rfl
      rw [hplain] at hresult
      cases hresult
    dsimp only
    rw [Layer.overlay_of_not_table hvalue, hresult]
    rfl

end ConfigSections

/-- What the sections that two layers have for a server come to. -/
def ServerSection.over (upper lower : ServerSection) : ServerSection where
  enabled := upper.enabled <|> lower.enabled
  command := upper.command <|> lower.command
  args := upper.args <|> lower.args
  languageId := upper.languageId <|> lower.languageId
  fileExtensions := upper.fileExtensions <|> lower.fileExtensions
  readinessNotification := upper.readinessNotification <|> lower.readinessNotification

namespace ConfigSections

theorem server?_over {below above : Toml.Fields} {lower upper : ServerSection}
    (habove : Ascending above) (hlower : server? below = some lower)
    (hupper : server? above = some upper) :
    server? (Layer.overlayFields below above) = some (upper.over lower) := by
  have htruth (fields) : truth? (.table fields) = none := rfl
  have htext (fields) : text? (.table fields) = none := rfl
  have htexts (fields) : texts? (.table fields) = none := rfl
  obtain ⟨h₁, h₂, h₃, h₄, h₅, h₆⟩ := server?_eq_some_iff.mp hlower
  obtain ⟨k₁, k₂, k₃, k₄, k₅, k₆⟩ := server?_eq_some_iff.mp hupper
  exact server?_eq_some_iff.mpr
    ⟨optional_over htruth habove h₁ k₁, optional_over htext habove h₂ k₂,
      optional_over htexts habove h₃ k₃, optional_over htext habove h₄ k₄,
      optional_over htexts habove h₅ k₅, optional_over htext habove h₆ k₆⟩

theorem server?_merges : Merges server? :=
  fun _ _ lower upper habove hlower hupper => ⟨upper.over lower, server?_over habove hlower hupper⟩

/-- The sections of servers can be read if each of them can. -/
theorem exists_servers?_iff {fields : Toml.Fields} :
    (∃ tables, servers? .strict (.table fields) = some tables) ↔
      ∀ field ∈ fields, ∃ found, serverIn? field.2 = some found := by
  constructor
  · rintro ⟨tables, htables⟩ field hfield
    obtain ⟨_, hfields, hread⟩ := exists_of_servers? htables
    cases hfields
    obtain ⟨result, -, hresult⟩ := hread.exists_of_mem_fields hfield
    exact ⟨result, hresult⟩
  · intro h
    rw [servers?]
    induction fields with
    | nil => exact ⟨[], rfl⟩
    | cons field rest ih =>
      obtain ⟨name, value⟩ := field
      obtain ⟨⟨first, hfirst⟩, hrest⟩ := List.forall_mem_cons.mp h
      obtain ⟨others, hothers⟩ := ih hrest
      refine ⟨(name, first) :: others, ?_⟩
      unfold serverIn? at hfirst
      dsimp only at hfirst hothers
      rw [List.mapM_cons]
      dsimp only
      rw [hfirst, hothers]
      rfl

theorem exists_servers_overlay {base : Option Toml} {value : Toml} (hvalue : value.Ordered)
    (hbase : ∀ old, base = some old → old.Ordered)
    (hlower : ∀ old, base = some old → ∃ tables, servers? .strict old = some tables)
    (hupper : ∃ tables, servers? .strict value = some tables) :
    ∃ tables, servers? .strict (Layer.overlay base value) = some tables := by
  obtain ⟨fields, rfl⟩ : ∃ fields, value = .table fields := by
    obtain ⟨tables, htables⟩ := hupper
    obtain ⟨fields, hfields, -⟩ := exists_of_servers? htables
    exact ⟨fields, hfields⟩
  by_cases htable : ∃ under, base = some (.table under)
  · obtain ⟨under, rfl⟩ := htable
    obtain ⟨hfields, hvalues⟩ := Toml.ordered_table_iff.mp hvalue
    have hunder := hbase _ rfl
    have hascending := Layer.ascending_overlayFields (Toml.ordered_table_iff.mp hunder).1 fields
    have hlowerEach := exists_servers?_iff.mp (hlower _ rfl)
    have hupperEach := exists_servers?_iff.mp hupper
    rw [Layer.overlay]
    refine exists_servers?_iff.mpr ?_
    rintro ⟨name, found⟩ hfound
    have hfield : Toml.field? (Layer.overlayFields under fields) name = some found :=
      hascending.lookup_eq_some_iff.mpr hfound
    have hbelowEach (old : Toml) (hold : Toml.field? under name = some old) :
        ∃ lower, serverIn? old = some lower :=
      hlowerEach (name, old) ((Toml.ordered_table_iff.mp hunder).1.lookup_eq_some_iff.mp hold)
    rw [Layer.field?_overlayFields hfields] at hfield
    cases hname : Toml.field? fields name with
    | none =>
      rw [hname] at hfield
      exact hbelowEach found hfield
    | some upper =>
      rw [hname] at hfield
      cases hfield
      have hmem := hfields.lookup_eq_some_iff.mp hname
      exact server?_merges.overlay (hvalues _ hmem) (hupperEach _ hmem) hbelowEach
  · rw [Layer.overlay_of_base (not_exists.mp htable)]
    exact hupper

end ConfigSections

namespace Layer

open ConfigSections

variable {below above : Layer} {lower upper both : ConfigSections}

/-- Two layers that can be read come to one that can be read. -/
theorem exists_merge (hbelow : Toml.Ordered (.table below)) (habove : Toml.Ordered (.table above))
    (hlower : ∃ lower, ofFields? .strict below = some lower)
    (hupper : ∃ upper, ofFields? .strict above = some upper) :
    ∃ both, ofFields? .strict (below.merge above) = some both := by
  obtain ⟨lower, hlower⟩ := hlower
  obtain ⟨upper, hupper⟩ := hupper
  obtain ⟨hlowerParts, hlowerServers⟩ := ofFields?_eq_some_iff.mp hlower
  obtain ⟨hupperParts, hupperServers⟩ := ofFields?_eq_some_iff.mp hupper
  refine exists_of_forall_parts ?_ ?_
  · intro part hpart
    exact exists_part_merge hpart habove ⟨_, hlowerParts part hpart⟩ ⟨_, hupperParts part hpart⟩
  · refine exists_valueOr_merge (Toml.ordered_table_iff.mp habove).1 ?_ ⟨_, hlowerServers⟩
    intro value hvalue
    refine exists_servers_overlay (ordered_field? habove hvalue) ?_ ?_ ?_
    · exact fun old hold => ordered_field? hbelow hold
    · exact fun old hold => exists_of_valueOr hold ⟨_, hlowerServers⟩
    · exact exists_of_valueOr hvalue ⟨_, hupperServers⟩

end Layer

/-! ### Layers that write tables -/

/-- Whether the value is a table. -/
def Toml.isTable : Toml → Bool
  | .table _ => true
  | _ => false

theorem Toml.isTable_iff {value : Toml} :
    value.isTable = true ↔ ∃ fields, value = .table fields := by
  cases value <;> simp [Toml.isTable]

namespace Layer

open ConfigSections

/-- Whether nothing but a table stands under a key of a layer. -/
def isTableAt (layer : Layer) (name : String) : Bool := (Toml.field? layer name).all Toml.isTable

/-- The fields of the table under a key of a layer; none if there is no table. -/
def tableAt (layer : Layer) (name : String) : Toml.Fields :=
  match Toml.field? layer name with
  | some (.table fields) => fields
  | _ => []

/-- Whether a layer writes all its sections as tables, those of servers too. -/
def writesTables (layer : Layer) : Bool :=
  parts.all (fun part => layer.isTableAt part.name) && layer.isTableAt "servers" &&
    (layer.tableAt "servers").all fun field => field.2.isTable

variable {layer below above : Layer} {name : String}

theorem isTableAt_cases (h : layer.isTableAt name = true) :
    Toml.field? layer name = none ∧ layer.tableAt name = [] ∨
      Toml.field? layer name = some (.table (layer.tableAt name)) := by
  unfold isTableAt at h
  unfold tableAt
  cases hfound : Toml.field? layer name with
  | none => exact .inl ⟨rfl, rfl⟩
  | some value =>
    rw [hfound, Option.all_some] at h
    obtain ⟨fields, rfl⟩ := Toml.isTable_iff.mp h
    exact .inr rfl

theorem ordered_tableAt (h : Toml.Ordered (.table layer)) :
    Toml.Ordered (.table (layer.tableAt name)) := by
  unfold tableAt
  split
  next fields hfound => exact ordered_field? h hfound
  next => exact .table [] .nil (by rintro _ ⟨⟩)

/-- Tables under one key come to a table with the keys of both. -/
theorem field?_merge_tableAt (habove : Toml.Ordered (.table above))
    (hlower : below.isTableAt name = true) (hupper : above.isTableAt name = true) :
    (below.merge above).isTableAt name = true ∧
      (below.merge above).tableAt name = merge (below.tableAt name) (above.tableAt name) := by
  have hascending : Ascending (above.tableAt name) :=
    (Toml.ordered_table_iff.mp (ordered_tableAt habove)).1
  have hfield := field?_merge (Toml.ordered_table_iff.mp habove).1 below name
  unfold isTableAt
  rw [tableAt, hfield]
  rcases isTableAt_cases hupper with ⟨hnone, hempty⟩ | hsome
  · rw [hnone, hempty, union_none]
    exact ⟨hlower, rfl⟩
  · rw [hsome]
    rcases isTableAt_cases hlower with ⟨hnone, hempty⟩ | hunder
    · rw [hnone, hempty, nil_merge hascending]
      exact ⟨rfl, rfl⟩
    · rw [hunder]
      exact ⟨rfl, rfl⟩

theorem isTableAt_of_writesTables (h : layer.writesTables = true) {part : Part}
    (hpart : part ∈ parts) : layer.isTableAt part.name = true := by
  simp only [writesTables, Bool.and_eq_true, List.all_eq_true] at h
  exact h.1.1 part hpart

theorem servers_of_writesTables (h : layer.writesTables = true) :
    layer.isTableAt "servers" = true ∧
      ∀ field ∈ layer.tableAt "servers", ∃ fields, field.2 = .table fields := by
  simp only [writesTables, Bool.and_eq_true, List.all_eq_true, Toml.isTable_iff] at h
  exact ⟨h.1.2, h.2⟩

end Layer

namespace ConfigSections

variable {layer below above : Layer} {lower upper both : ConfigSections}

/-- What a layer sets a field of a section to, if it sets it. -/
def Part.given? (part : Part) (knob : Knob part.Section) (layer : Layer) : Option knob.Value :=
  knob.given? (layer.tableAt part.name)

theorem read_tableAt {part : Part} (hpart : part ∈ parts) {found : part.Section}
    (htable : layer.isTableAt part.name = true) (h : part.read? layer = some found) :
    part.read (layer.tableAt part.name) = some found := by
  unfold Part.read? section? valueOr at h
  rcases Layer.isTableAt_cases htable with ⟨hnone, hempty⟩ | hsome
  · rw [hnone] at h
    rw [hempty, (parts_readBy part hpart).read_nil]
    exact h
  · rw [hsome] at h
    exact h

/-- A field of a section is set as the upper layer sets it, otherwise as the lower one does, and
    otherwise it has its usual value. -/
theorem knob_merge {part : Part} (hpart : part ∈ parts) (habove : Toml.Ordered (.table above))
    (hbelowTable : below.isTableAt part.name = true)
    (haboveTable : above.isTableAt part.name = true)
    (hlower : part.read? below = some (part.get lower))
    (hupper : part.read? above = some (part.get upper))
    (hboth : part.read? (below.merge above) = some (part.get both)) :
    ∀ knob ∈ part.knobs, knob.value (part.get both) =
      ((part.given? knob above).or (part.given? knob below)).getD (knob.value part.usual) := by
  obtain ⟨htable, hfields⟩ := Layer.field?_merge_tableAt habove hbelowTable haboveTable
  have hascending : Ascending (above.tableAt part.name) :=
    (Toml.ordered_table_iff.mp (Layer.ordered_tableAt habove)).1
  obtain ⟨found, hfound, hknobs⟩ := (parts_readBy part hpart).overlayFields hascending
    (read_tableAt hpart hbelowTable hlower) (read_tableAt hpart haboveTable hupper)
  have hread := read_tableAt hpart htable hboth
  rw [hfields, Layer.merge, hfound] at hread
  rw [← Option.some.inj hread]
  exact hknobs

/-! ### Servers by their names -/

theorem servers_read (htable : layer.isTableAt "servers" = true)
    (h : ofFields? .strict layer = some both) :
    FieldsRead serverIn? (layer.tableAt "servers") both.servers := by
  have hservers := servers_of_ofFields? h
  unfold valueOr at hservers
  rcases Layer.isTableAt_cases htable with ⟨hnone, hempty⟩ | hsome
  · rw [hnone] at hservers
    rw [hempty, ← Option.some.inj hservers]
    exact .nil
  · rw [hsome] at hservers
    obtain ⟨fields, hfields, hread⟩ := exists_of_servers? hservers
    cases hfields
    exact hread

/-- A server is set as both layers set it, field by field, and as one of them does if only that one
    has a section for it. -/
theorem lookup_servers_merge (hbelow : Toml.Ordered (.table below))
    (habove : Toml.Ordered (.table above)) (hbelowTables : below.writesTables = true)
    (haboveTables : above.writesTables = true) (hlower : ofFields? .strict below = some lower)
    (hupper : ofFields? .strict above = some upper)
    (hboth : ofFields? .strict (below.merge above) = some both) (name : String) :
    both.servers.lookup name =
      Option.merge ServerSection.over (upper.servers.lookup name) (lower.servers.lookup name) := by
  obtain ⟨hbelowTable, hbelowEach⟩ := Layer.servers_of_writesTables hbelowTables
  obtain ⟨haboveTable, haboveEach⟩ := Layer.servers_of_writesTables haboveTables
  obtain ⟨htable, hfields⟩ := Layer.field?_merge_tableAt habove hbelowTable haboveTable
  have hlowerRead := servers_read hbelowTable hlower
  have hupperRead := servers_read haboveTable hupper
  have hlowerFields : Ascending (below.tableAt "servers") ∧ _ :=
    Toml.ordered_table_iff.mp (Layer.ordered_tableAt hbelow)
  have hupperFields : Ascending (above.tableAt "servers") ∧ _ :=
    Toml.ordered_table_iff.mp (Layer.ordered_tableAt habove)
  have hunion := Layer.field?_merge hupperFields.1 (below.tableAt "servers") name
  unfold Toml.field? at hunion
  rw [(servers_read htable hboth).lookup_eq_bind, hfields, hunion,
    hlowerRead.lookup_eq_bind, hupperRead.lookup_eq_bind]
  cases hover : (above.tableAt "servers").lookup name with
  | none =>
    rw [Layer.union_none, Option.bind_none, Option.merge_none_left]
  | some value =>
    have hmem := hupperFields.1.lookup_eq_some_iff.mp hover
    obtain ⟨upperFields, rfl⟩ := haboveEach _ hmem
    cases hunder : (below.tableAt "servers").lookup name with
    | none =>
      rw [Layer.union, Option.bind_none, Option.merge_none_right]
      rintro _ _ ⟨⟩
    | some old =>
      have hmemOld := hlowerFields.1.lookup_eq_some_iff.mp hunder
      obtain ⟨lowerFields, rfl⟩ := hbelowEach _ hmemOld
      -- Both layers have a table for the server.
      obtain ⟨given, -, hgiven⟩ := hupperRead.exists_of_mem_fields hmem
      obtain ⟨found, -, hfound⟩ := hlowerRead.exists_of_mem_fields hmemOld
      have hboth : serverIn? (.table (Layer.merge lowerFields upperFields)) =
          some (given.over found) :=
        server?_over (Toml.ordered_table_iff.mp (hupperFields.2 _ hmem)).1 hfound hgiven
      rw [Layer.union, Option.bind_some, Option.bind_some, Option.bind_some, hboth, hgiven, hfound]
      rfl

end ConfigSections

/-! ### Loading -/

namespace Config

open ConfigSections

variable {environment : Environment} {tree : Tree}

/-- The layers of documents always fit together. -/
theorem exists_of_readLayers {merged result : Layer} {paths : List Path}
    (hmerged : Toml.Ordered (.table merged))
    (hread : ∃ sections, ofFields? .strict merged = some sections)
    (h : readLayers tree merged paths = .ok result) :
    ∃ sections, ofFields? .strict result = some sections := by
  induction paths generalizing merged with
  | nil =>
    cases h
    exact hread
  | cons path paths ih =>
    obtain ⟨hlayer, upper, hupper, -⟩ := layerAt_spec tree path
    have hboth := Layer.exists_merge hmerged hlayer hread ⟨upper, hupper⟩
    exact ih (Layer.ordered_merge hmerged hlayer) hboth (readLayers_cons_eq_ok h)

theorem readLayer_ne_invalid {path : Path} {fault : ConfigFault} :
    readLayer tree path ≠ .error (.invalid fault) := by
  unfold readLayer
  split
  · rintro ⟨⟩
  · split
    · rintro ⟨⟩
    · split
      · rintro ⟨⟩
      · split <;> rintro ⟨⟩

theorem readLayers_ne_invalid {merged : Layer} {paths : List Path} {fault : ConfigFault} :
    readLayers tree merged paths ≠ .error (.invalid fault) := by
  induction paths generalizing merged with
  | nil => rintro ⟨⟩
  | cons path paths ih =>
    rw [readLayers]
    cases hlayer : readLayer tree path with
    | error reason =>
      rintro ⟨⟩
      exact readLayer_ne_invalid hlayer
    | ok layer? =>
      cases layer? with
      | none => exact ih
      | some layer => exact ih

theorem applySections_ne_misfit {servers : ServerTable} {tables : List (String × ServerSection)} :
    applySections servers tables ≠ .error .misfit := by
  induction tables generalizing servers with
  | nil => rintro ⟨⟩
  | cons table tables ih =>
    obtain ⟨name, given⟩ := table
    rw [applySections]
    cases happly : applySection servers name given with
    | ok servers => exact ih
    | error fault =>
      rintro ⟨⟩
      unfold applySection at happly
      split at happly
      · cases happly
      · split at happly
        · cases happly
        · split at happly
          · cases happly
          · unfold define at happly
            split at happly <;> cases happly

theorem resolve_ne_misfit {sections : ConfigSections} :
    resolve environment sections ≠ .error .misfit := by
  rw [resolve]
  cases hservers : applySections builtinServers sections.servers with
  | error fault =>
    rintro ⟨⟩
    exact applySections_ne_misfit hservers
  | ok named =>
    intro h
    simp only [bind, Except.bind, pure, Except.pure, throw, throwThe, MonadExceptOf.throw] at h
    split at h
    · cases h
    · split at h
      · cases h
      · split at h <;> cases h

/-- No layers fail to fit together. -/
theorem loadLayers_ne_misfit (environment : Environment) (tree : Tree) (paths : List Path) :
    loadLayers environment tree paths ≠ .error (.invalid .misfit) := by
  rw [loadLayers]
  cases hmerged : readLayers tree [] paths with
  | error reason =>
    rintro ⟨⟩
    exact readLayers_ne_invalid hmerged
  | ok merged =>
    have hnothing : Toml.Ordered (.table []) := .table [] .nil (by rintro _ ⟨⟩)
    obtain ⟨sections, hsections⟩ := exists_of_readLayers hnothing ⟨{}, rfl⟩ hmerged
    intro h
    simp only [bind, Except.bind, hsections] at h
    cases hresolve : resolve environment sections with
    | ok config =>
      rw [hresolve] at h
      cases h
    | error fault =>
      rw [hresolve] at h
      cases h
      exact resolve_ne_misfit hresolve

end Config
/-! ### Two layers -/

namespace Layer

open ConfigSections

/-- Layers are united key by key, on every level, and a second time changes nothing. Layers that can
    be read come to one that can be read, so loading never fails for that. If they write tables,
    each field is set as the upper layer sets it, otherwise as the lower one does, and otherwise it
    has its usual value; and so is each field of a server. -/
theorem merge_fieldwise :
    (∀ base above : Layer, Toml.Ordered (.table base) → Toml.Ordered (.table above) →
      Toml.Ordered (.table (base.merge above)) ∧
        (∀ key, Toml.field? (base.merge above) key =
          union (Toml.field? base key) (Toml.field? above key)) ∧
        (base.merge above).merge above = base.merge above) ∧
    (∀ (below above : Layer) (lower upper : ConfigSections),
      Toml.Ordered (.table below) → Toml.Ordered (.table above) →
      ofFields? .strict below = some lower → ofFields? .strict above = some upper →
      ∃ both, ofFields? .strict (below.merge above) = some both ∧
        (below.writesTables = true → above.writesTables = true →
          (∀ part ∈ parts, ∀ knob ∈ part.knobs, knob.value (part.get both) =
            ((part.given? knob above).or (part.given? knob below)).getD (knob.value part.usual)) ∧
          Ascending both.servers ∧
          ∀ name, both.servers.lookup name =
            Option.merge ServerSection.over (upper.servers.lookup name)
              (lower.servers.lookup name))) ∧
    ∀ environment tree paths,
      Config.loadLayers environment tree paths ≠ .error (.invalid .misfit) := by
  refine ⟨?union, ?fields, Config.loadLayers_ne_misfit⟩
  case union =>
    intro base above hbase habove
    exact ⟨ordered_merge hbase habove, field?_merge (Toml.ordered_table_iff.mp habove).1 base,
      merge_merge_self hbase habove⟩
  case fields =>
    intro below above lower upper hbelow habove hlower hupper
    obtain ⟨both, hboth⟩ := exists_merge hbelow habove ⟨lower, hlower⟩ ⟨upper, hupper⟩
    refine ⟨both, hboth, fun hbelowTables haboveTables => ⟨?_, ?_, ?_⟩⟩
    · intro part hpart
      have hlowerPart := (ofFields?_eq_some_iff.mp hlower).1 part hpart
      have hupperPart := (ofFields?_eq_some_iff.mp hupper).1 part hpart
      have hbothPart := (ofFields?_eq_some_iff.mp hboth).1 part hpart
      exact knob_merge hpart habove (isTableAt_of_writesTables hbelowTables hpart)
        (isTableAt_of_writesTables haboveTables hpart) hlowerPart hupperPart hbothPart
    · exact ascending_servers (ordered_merge hbelow habove) hboth
    · exact lookup_servers_merge hbelow habove hbelowTables haboveTables hlower hupper hboth

/-- A layer for all workspaces. -/
def globalExample : Layer :=
  [("proxy", .table [("health_interval_secs", .integer 60), ("port", .integer 9000)]),
    ("servers", .table [("rust", .table [("args", .array []), ("command", .string "ra")])])]

/-- A layer of a workspace that overrides some of it. -/
def workspaceExample : Layer :=
  [("cache", .table [("reconnect_attempts", .integer 1)]),
    ("proxy", .table [("port", .integer 8000)]),
    ("servers", .table [("rust", .table [("command", .string "rust-analyzer")])])]

theorem merge_fieldwise_example :
    (globalExample.merge workspaceExample).merge workspaceExample =
        globalExample.merge workspaceExample ∧
      ∃ both, ofFields? .strict (globalExample.merge workspaceExample) = some both ∧
        both.proxy.port = 8000 ∧ both.proxy.healthInterval = .ofSecs 60 ∧
        both.cache.reconnectAttempts = 1 ∧ both.monitor.restartBudget = 3 ∧
        both.servers.lookup "rust" = some { command := "rust-analyzer", args := some [] } := by
  have hone (key : String) (value : Toml) : Ascending [(key, value)] := List.pairwise_singleton _ _
  have hbelow : Toml.Ordered (.table globalExample) := by
    have hsections : Ascending globalExample := by unfold Ascending globalExample; decide
    have hproxy : Ascending [("health_interval_secs", Toml.integer 60), ("port", .integer 9000)] :=
      by unfold Ascending; decide
    have hserver : Ascending [("args", Toml.array []), ("command", .string "ra")] := by
      unfold Ascending; decide
    refine Toml.ordered_table_iff.mpr ⟨hsections, ?_⟩
    simp [globalExample, Toml.ordered_table_iff, hone, hproxy, hserver, Toml.Ordered.integer,
      Toml.Ordered.string, Toml.Ordered.array]
  have habove : Toml.Ordered (.table workspaceExample) := by
    have hsections : Ascending workspaceExample := by unfold Ascending workspaceExample; decide
    refine Toml.ordered_table_iff.mpr ⟨hsections, ?_⟩
    simp [workspaceExample, Toml.ordered_table_iff, hone, Toml.Ordered.integer,
      Toml.Ordered.string]
  obtain ⟨-, -, hself⟩ := merge_fieldwise.1 _ _ hbelow habove
  obtain ⟨both, hboth, hfields⟩ := merge_fieldwise.2.1 _ _ _ _ hbelow habove rfl rfl
  obtain ⟨hknobs, -, hservers⟩ := hfields rfl rfl
  simp only [parts, List.forall_mem_cons] at hknobs
  obtain ⟨hproxy, hmonitor, -, -, hcache, -⟩ := hknobs
  refine ⟨hself, both, hboth, hproxy _ (.head _), hproxy _ (.tail _ (.head _)), hcache _ (.head _),
    hmonitor _ (.head _), ?_⟩
  exact (hservers "rust").trans rfl

end Layer
end SymbolSearch
