import SymbolSearch.Proofs.Config.Layering
import SymbolSearch.Proofs.Config.Resolving

/-!
# Which layer is heeded

Layers are laid over each other by the keys of their tables, and the ecosystems that the keys name
are looked at only then. The keys `rust` and `Rust` are two tables for one ecosystem.

* `Config.layerAt`, `Config.serverTables` — what the document at a path says.
* `Config.overlaid_of_loadLayers` — a configuration is settled from a document for all workspaces
  with the document of one workspace laid over it.
* `Config.last_name_heeded` — of the tables for an ecosystem, the one whose name comes last is
  heeded, whichever layer it is in.
* `Config.not_forall_workspace_heeded` — so the layer of a workspace does not always win.
-/

namespace SymbolSearch

namespace Layer

theorem insertField_of_forall_lt {fields : Toml.Fields} {key : String} {value : Toml}
    (h : ∀ field ∈ fields, field.1 < key) :
    Toml.insertField key value fields = fields ++ [(key, value)] := by
  induction fields with
  | nil => rfl
  | cons field rest ih =>
    obtain ⟨hfirst, hrest⟩ := List.forall_mem_cons.mp h
    rw [Toml.insertField, if_neg (String.lt_asymm hfirst), if_neg (String.ne_of_lt hfirst).symm,
      ih hrest, List.cons_append]

/-- Fields that come behind all others are put behind them. -/
theorem overlayFields_of_forall_lt {below above : Toml.Fields} (habove : Ascending above)
    (h : ∀ field ∈ below, ∀ other ∈ above, field.1 < other.1) :
    overlayFields below above = below ++ above := by
  induction above generalizing below with
  | nil => rw [overlayFields, List.append_nil]
  | cons field rest ih =>
    obtain ⟨hfirst, hrest⟩ := List.pairwise_cons.mp habove
    have hlast (other) (hother : other ∈ below) : other.1 < field.1 :=
      h other hother field List.mem_cons_self
    have hnone : Toml.field? below field.1 = none := by
      refine List.lookup_eq_none_iff.mpr fun other hother => ?_
      simpa using (String.ne_of_lt (hlast other hother)).symm
    rw [overlayFields, hnone, overlay_of_base (by simp), insertField_of_forall_lt hlast, ih hrest]
    · simp
    · intro other hother later hlater
      rcases List.mem_append.mp hother with hother | hother
      · exact h other hother later (List.mem_cons_of_mem _ hlater)
      · rw [List.mem_singleton.mp hother]
        exact hfirst later hlater

theorem nil_merge {layer : Layer} (h : Ascending layer) : merge [] layer = layer :=
  overlayFields_of_forall_lt h nofun

end Layer

/-! ### What a section asks for -/

/-- Who heeds a section heeds all that is set in it. -/
theorem ServerSection.Within.heeded {given whole : ServerSection} {environment : Environment}
    {found : Option ServerConfig} (h : given.Within whole)
    (hwhole : whole.Heeded environment found) :
    given.Heeded environment found where
  absent hvalue := hwhole.absent (h.enabled _ hvalue)
  present hvalue := hwhole.present (h.enabled _ hvalue)
  command server hserver value hvalue := hwhole.command server hserver value (h.command _ hvalue)
  args server hserver value hvalue := hwhole.args server hserver value (h.args _ hvalue)
  languageId server hserver value hvalue :=
    hwhole.languageId server hserver value (h.languageId _ hvalue)
  fileExtensions server hserver value hvalue :=
    hwhole.fileExtensions server hserver value (h.fileExtensions _ hvalue)
  readinessNotification server hserver value hvalue :=
    hwhole.readinessNotification server hserver value (h.readinessNotification _ hvalue)

namespace Config

open ConfigSections

/-! ### Documents at paths -/

/-- The layer at a path; it has nothing in it if there is none. -/
def layerAt (tree : Tree) (path : Path) : Layer :=
  match readLayer tree path with
  | .ok (some layer) => layer
  | _ => []

/-- The tables of servers in the document at a path, by their names. -/
def serverTables (tree : Tree) (path : Path) : List (String × ServerSection) :=
  ((ofFields? .strict (layerAt tree path)).map (·.servers)).getD []

/-- The tables whose names name an ecosystem. -/
def tablesOf (ecosystem : Ecosystem) (tables : List (String × ServerSection)) :
    List (String × ServerSection) :=
  tables.filter fun table => Ecosystem.parse? table.1 = some ecosystem

section Loading

variable {environment : Environment} {tree : Tree} {path workspace : Path} {global : Option Path}
  {merged : Layer} {paths : List Path} {ecosystem : Ecosystem} {config : Config}

theorem mem_tablesOf {table : String × ServerSection} {tables : List (String × ServerSection)} :
    table ∈ tablesOf ecosystem tables ↔
      table ∈ tables ∧ Ecosystem.parse? table.1 = some ecosystem := by
  simp [tablesOf]

theorem layerAt_spec (tree : Tree) (path : Path) :
    Toml.Ordered (.table (layerAt tree path)) ∧
      ∃ sections, ofFields? .strict (layerAt tree path) = some sections ∧
        serverTables tree path = sections.servers := by
  have hempty : Toml.Ordered (.table []) := .table _ List.Pairwise.nil nofun
  suffices h : Toml.Ordered (.table (layerAt tree path)) ∧
      ∃ sections, ofFields? .strict (layerAt tree path) = some sections by
    obtain ⟨hordered, sections, hsections⟩ := h
    exact ⟨hordered, sections, hsections, by rw [serverTables, hsections]; rfl⟩
  unfold layerAt
  split
  next layer hlayer =>
    unfold readLayer at hlayer
    split at hlayer
    · cases hlayer
    · split at hlayer
      · cases hlayer
      · split at hlayer
        · cases hlayer
        · next layer hparse =>
          split at hlayer
          · cases hlayer
          next sections hsections =>
            cases hlayer
            exact ⟨Layer.ordered_of_parse? hparse, sections, hsections⟩
  next => exact ⟨hempty, {}, rfl⟩

theorem readLayers_cons_eq_ok {result : Layer}
    (h : readLayers tree merged (path :: paths) = .ok result) :
    readLayers tree (merged.merge (layerAt tree path)) paths = .ok result := by
  rw [readLayers] at h
  obtain ⟨layer, hlayer, h⟩ := Except.bind_eq_ok_iff.mp h
  rw [layerAt, hlayer]
  cases layer with
  | none => exact h
  | some layer => exact h

/-- The tables for all workspaces. -/
def globalTables (tree : Tree) (global : Option Path) : List (String × ServerSection) :=
  global.elim [] (serverTables tree)

theorem overlaid_of_loadLayers
    (h : loadLayers environment tree (global.toList ++ [workspace]) = .ok config) :
    ∃ sections, resolve environment sections = .ok config ∧
      Overlaid (globalTables tree global) (serverTables tree workspace) sections.servers := by
  obtain ⟨merged, hmerged, h⟩ := Except.bind_eq_ok_iff.mp h
  split at h
  · cases h
  next sections hsections =>
    refine ⟨sections, Except.mapError_eq_ok_iff.mp h, ?_⟩
    obtain ⟨hordered, upper, hupper, htables⟩ := layerAt_spec tree workspace
    rw [htables]
    cases global with
    | none =>
      obtain rfl := Except.ok.inj (readLayers_cons_eq_ok hmerged)
      have hempty : ofFields? .strict [] = some {} := rfl
      exact Layer.overlaid_merge (.table _ List.Pairwise.nil nofun) hordered hempty hupper hsections
    | some path =>
      obtain ⟨hbelow, lower, hlower, hlowerTables⟩ := layerAt_spec tree path
      have hmerged := readLayers_cons_eq_ok hmerged
      rw [Layer.nil_merge (Toml.ordered_table_iff.mp hbelow).1] at hmerged
      obtain rfl := Except.ok.inj (readLayers_cons_eq_ok hmerged)
      rw [globalTables, Option.elim_some, hlowerTables]
      exact Layer.overlaid_merge hbelow hordered hlower hupper hsections

/-! ### The last name -/

/-- Of the tables for an ecosystem, the one whose name comes last is heeded. -/
theorem heeded_of_last {sections : ConfigSections} {name : String} {given : ServerSection}
    (hascending : Ascending sections.servers) (hmem : (name, given) ∈ sections.servers)
    (hname : Ecosystem.parse? name = some ecosystem)
    (hlast : ∀ other ∈ tablesOf ecosystem sections.servers, other.1 ≤ name)
    (hresolve : resolve environment sections = .ok config) :
    given.Heeded environment (config.servers.server? ecosystem) := by
  obtain ⟨named, hnamed, -, -, -, -, rfl⟩ := resolve_eq_ok_iff.mp hresolve
  rw [settled, expandServers, ServerTable.server?_map]
  obtain ⟨before, after, hsplit⟩ := List.append_of_mem hmem
  rw [hsplit] at hnamed
  refine heeded_of_applySections hname (fun table htable htableName => ?_) hnamed
  -- What comes behind the last name has a later one.
  have hlater : name < table.1 := by
    rw [hsplit] at hascending
    exact (List.pairwise_cons.mp (List.pairwise_append.mp hascending).2.1).1 table htable
  have hearlier : table.1 ≤ name :=
    hlast table (mem_tablesOf.mpr ⟨by simp [hsplit, htable], htableName⟩)
  exact String.not_lt.mpr hearlier hlater

/-- The table that a workspace has for an ecosystem is heeded if no table for all workspaces that is
    for the same ecosystem has a name behind it. Otherwise the last of those is heeded. -/
theorem last_name_heeded {name : String} {given : ServerSection}
    (hload : loadLayers environment tree (global.toList ++ [workspace]) = .ok config)
    (hone : tablesOf ecosystem (serverTables tree workspace) = [(name, given)]) :
    ((∀ other ∈ tablesOf ecosystem (globalTables tree global), other.1 ≤ name) →
        given.Heeded environment (config.servers.server? ecosystem)) ∧
      ∀ last ∈ tablesOf ecosystem (globalTables tree global), name < last.1 →
        (∀ other ∈ tablesOf ecosystem (globalTables tree global), other.1 ≤ last.1) →
        last.2.Heeded environment (config.servers.server? ecosystem) := by
  obtain ⟨sections, hresolve, hover⟩ := overlaid_of_loadLayers hload
  obtain ⟨hgiven, hname⟩ := mem_tablesOf.mp (hone ▸ List.mem_singleton_self (name, given))
  -- A table of the workspace for this ecosystem has the one name.
  have hsame {table : String × ServerSection} (htable : table ∈ serverTables tree workspace)
      (htableName : Ecosystem.parse? table.1 = some ecosystem) : table.1 = name := by
    have := mem_tablesOf.mpr ⟨htable, htableName⟩
    rw [hone, List.mem_singleton] at this
    rw [this]
  -- No name of the merged tables for it is behind one that no name of the two layers is behind.
  have hlast {bound : String} (hbound : name ≤ bound)
      (hglobal : ∀ other ∈ tablesOf ecosystem (globalTables tree global), other.1 ≤ bound) :
      ∀ table ∈ tablesOf ecosystem sections.servers, table.1 ≤ bound := by
    intro table htable
    obtain ⟨htable, htableName⟩ := mem_tablesOf.mp htable
    rcases hover.origin table htable with ⟨other, hother, hotherName⟩ | hbelow
    · rw [← hotherName, hsame hother (hotherName ▸ htableName)]
      exact hbound
    · exact hglobal table (mem_tablesOf.mpr ⟨hbelow, htableName⟩)
  constructor
  · intro hglobal
    obtain ⟨whole, hwhole, hwithin⟩ := hover.upper _ hgiven
    exact hwithin.heeded
      (heeded_of_last hover.ascending hwhole hname (hlast (String.le_refl name) hglobal) hresolve)
  · intro last hmem hlt hglobal
    obtain ⟨hbelow, hlastName⟩ := mem_tablesOf.mp hmem
    have hkept : last ∈ sections.servers := by
      refine hover.lower last hbelow fun other hother hotherName => ?_
      rw [← hsame hother (hotherName ▸ hlastName), hotherName] at hlt
      exact String.lt_irrefl _ hlt
    have hle : name ≤ last.1 := String.not_lt.mp (String.lt_asymm hlt)
    exact heeded_of_last hover.ascending hkept hlastName (hlast hle hglobal) hresolve

end Loading

/-! ### Two spellings of one name -/

/-- The ecosystem of Rust. -/
def rustEcosystem : Ecosystem := ⟨"rust", by decide⟩

/-- A document for all workspaces and one of a workspace, each with a table of the given name. -/
def spelled (global workspace : String) : Tree where
  entries := [
    (["global"], .file ("[servers." ++ global ++ "]\ncommand = \"global-ra\"\n").toUTF8 false),
    (["workspace"], .file ("[servers." ++ workspace ++ "]\ncommand = \"ra\"\n").toUTF8 false)]

/-- The command of the server of Rust in the configuration that is loaded, if one is. -/
def rustCommand? (tree : Tree) (paths : List Path) : Option String := do
  let config ← (loadLayers [] tree paths).toOption
  let server ← config.servers.server? rustEcosystem
  return server.command

theorem exists_of_rustCommand? {tree : Tree} {paths : List Path} {command : String}
    (h : rustCommand? tree paths = some command) :
    ∃ config, loadLayers [] tree paths = .ok config ∧
      ∃ server, config.servers.server? rustEcosystem = some server ∧ server.command = command := by
  obtain ⟨config, hconfig, h⟩ := Option.bind_eq_some_iff.mp h
  obtain ⟨server, hserver, h⟩ := Option.bind_eq_some_iff.mp h
  exact ⟨config, Except.toOption_eq_some_iff.mp hconfig, server, hserver, Option.some.inj h⟩

theorem last_name_heeded_spelled : ∃ config given,
    loadLayers [] (spelled "Rust" "rust") ((some "/global").toList ++ ["/workspace"]) = .ok config ∧
      tablesOf rustEcosystem (serverTables (spelled "Rust" "rust") "/workspace") =
          [("rust", given)] ∧
        given.command = some "ra" ∧
          given.Heeded [] (config.servers.server? rustEcosystem) := by
  have hcommand : rustCommand? (spelled "Rust" "rust") ((some "/global").toList ++ ["/workspace"]) =
      some "ra" := by decide +kernel
  have hone : tablesOf rustEcosystem (serverTables (spelled "Rust" "rust") "/workspace") =
      [("rust", { command := some "ra" })] := by decide +kernel
  have hglobal : ∀ other ∈
      tablesOf rustEcosystem (globalTables (spelled "Rust" "rust") (some "/global")),
      other.1 ≤ "rust" := by decide +kernel
  obtain ⟨config, hconfig, -⟩ := exists_of_rustCommand? hcommand
  exact ⟨config, _, hconfig, hone, rfl, (last_name_heeded hconfig hone).1 hglobal⟩

/-- A workspace that spells the name of an ecosystem in a way that sorts before the spelling for all
    workspaces is not heeded. -/
theorem not_forall_workspace_heeded :
    ¬ ∀ environment tree global workspace config ecosystem name given,
    (∃ alone, loadLayers environment tree [global] = .ok alone) →
    (∃ alone, loadLayers environment tree [workspace] = .ok alone) →
    loadLayers environment tree [global, workspace] = .ok config →
    tablesOf ecosystem (serverTables tree workspace) = [(name, given)] →
    ServerSection.Heeded given environment (config.servers.server? ecosystem) := by
  intro h
  have hcommand : rustCommand? (spelled "rust" "Rust") ["/global", "/workspace"] =
      some "global-ra" := by decide +kernel
  have hglobal : rustCommand? (spelled "rust" "Rust") ["/global"] = some "global-ra" := by
    decide +kernel
  have hworkspace : rustCommand? (spelled "rust" "Rust") ["/workspace"] = some "ra" := by
    decide +kernel
  have hone : tablesOf rustEcosystem (serverTables (spelled "rust" "Rust") "/workspace") =
      [("Rust", { command := some "ra" })] := by decide +kernel
  have hexpand : Environment.expand [] "ra" = "ra" := by decide +kernel
  obtain ⟨config, hconfig, server, hserver, hcommand⟩ := exists_of_rustCommand? hcommand
  obtain ⟨globalAlone, hglobal, -⟩ := exists_of_rustCommand? hglobal
  obtain ⟨workspaceAlone, hworkspace, -⟩ := exists_of_rustCommand? hworkspace
  have hheeded := h _ _ _ _ _ _ _ _ ⟨_, hglobal⟩ ⟨_, hworkspace⟩ hconfig hone
  have hsame := hheeded.command server hserver "ra" rfl
  rw [hcommand, hexpand] at hsame
  exact absurd hsame (by decide)

end Config
end SymbolSearch
