import SymbolSearch.Config.Load

/-!
# Settling the sections

What becomes of the sections of a document when they are settled.

* `ServerSection.Heeded` — a server that is what a section asks for.
* `Config.heeded_of_applySections` — the last section that speaks of an ecosystem is heeded.
* `Config.resolve_eq_ok_iff` — what is looked at before a configuration is taken, and what the
  configuration is.

What a document sets is refused, raised to the least value that works, or taken as it is.

* `Config.Usable` — nothing in a configuration keeps the program from working.
* `Config.Loaded` — a configuration that some document or some layers come to.
* `Config.usable_iff` — three times are taken as they are, so that a configuration that was taken
  is usable unless one of them is zero.
* `Config.not_forall_usable` — a document with such a time is taken.
-/

namespace SymbolSearch

theorem Except.bind_eq_ok_iff {ε α β : Type} {first : Except ε α} {next : α → Except ε β}
    {result : β} :
    (first >>= next) = .ok result ↔ ∃ value, first = .ok value ∧ next value = .ok result := by
  cases first with
  | error _ => simp [bind, Except.bind]
  | ok value => simp [bind, Except.bind]

theorem Except.mapError_eq_ok_iff {ε ε' α : Type} {first : Except ε α} {change : ε → ε'}
    {result : α} : first.mapError change = .ok result ↔ first = .ok result := by
  cases first with
  | error reason =>
    change Except.error (change reason) = .ok result ↔ _
    simp
  | ok found =>
    change Except.ok found = .ok result ↔ _
    simp

theorem Except.toOption_eq_some_iff {ε α : Type} {first : Except ε α} {result : α} :
    first.toOption = some result ↔ first = .ok result := by
  cases first <;> simp [Except.toOption]

/-! ### Tables of servers -/

namespace ServerTable

variable {table : ServerTable} {ecosystem other : Ecosystem} {server : ServerConfig}

theorem server?_cons_self (rest : ServerTable) :
    server? ((ecosystem, server) :: rest) ecosystem = some server := by
  simp [server?]

theorem server?_cons_of_ne (h : ecosystem ≠ other) (rest : ServerTable) :
    server? ((other, server) :: rest) ecosystem = server? rest ecosystem := by
  simp [server?, h.symm]

theorem server?_insert_self : (table.insert ecosystem server).server? ecosystem = some server := by
  fun_induction insert ecosystem server table with
  | case1 | case2 | case3 => exact server?_cons_self _
  | case4 other old rest hlt hne ih => rw [server?_cons_of_ne hne, ih]

theorem server?_insert_of_ne (h : ecosystem ≠ other) :
    (table.insert other server).server? ecosystem = table.server? ecosystem := by
  fun_induction insert other server table with
  | case1 | case2 => exact server?_cons_of_ne h _
  | case3 => rw [server?_cons_of_ne h, server?_cons_of_ne h]
  | case4 between old rest hlt hne ih =>
    by_cases hbetween : ecosystem = between
    · subst hbetween
      rw [server?_cons_self, server?_cons_self]
    · rw [server?_cons_of_ne hbetween, server?_cons_of_ne hbetween, ih]

theorem server?_erase_self : (table.erase ecosystem).server? ecosystem = none := by
  rw [server?, Option.map_eq_none_iff, List.find?_eq_none]
  intro entry hentry
  simpa using (List.mem_filter.mp hentry).2

theorem server?_erase_of_ne (h : ecosystem ≠ other) :
    (table.erase other).server? ecosystem = table.server? ecosystem := by
  induction table with
  | nil => rfl
  | cons entry rest ih =>
    obtain ⟨between, server⟩ := entry
    by_cases hbetween : ecosystem = between
    · subst hbetween
      have hkept : erase ((ecosystem, server) :: rest) other =
          (ecosystem, server) :: erase rest other := by
        simp [erase, h]
      rw [hkept, server?_cons_self, server?_cons_self]
    · rw [server?_cons_of_ne hbetween, ← ih, erase, erase, List.filter_cons]
      split
      · exact server?_cons_of_ne hbetween _
      · rfl

theorem server?_map (change : ServerConfig → ServerConfig) :
    server? (table.map fun (ecosystem, server) => (ecosystem, change server)) ecosystem =
      (table.server? ecosystem).map change := by
  simp [server?, List.find?_map, Function.comp_def]

end ServerTable

/-! ### What a section asks for -/

/-- The server of an ecosystem, if it has one, is what a section asks for: there is none if the
    section takes it away, there is one if the section asks for it, and it has all that the section
    sets, with references to the environment replaced in its command line. -/
structure ServerSection.Heeded (given : ServerSection) (environment : Environment)
    (found : Option ServerConfig) : Prop where
  absent : given.enabled = some false → found = none
  present : given.enabled = some true → found.isSome
  command : ∀ server, found = some server → ∀ value, given.command = some value →
    server.command = environment.expand value
  args : ∀ server, found = some server → ∀ value, given.args = some value →
    server.args = value.map environment.expand
  languageId : ∀ server, found = some server → ∀ value, given.languageId = some value →
    server.languageId = value
  fileExtensions : ∀ server, found = some server → ∀ value, given.fileExtensions = some value →
    server.fileExtensions = value
  readinessNotification : ∀ server, found = some server → ∀ value,
    given.readinessNotification = some value → server.readinessNotification = some value

namespace Config

variable {environment : Environment} {servers result : ServerTable} {ecosystem : Ecosystem}
  {name : String} {given : ServerSection} {server : ServerConfig}

theorem heeded_patch (h : given.enabled ≠ some false) (server : ServerConfig) :
    given.Heeded environment (some (expandServer environment (patch given server))) where
  absent habsent := absurd habsent h
  present _ := rfl
  command | _, rfl, _, hvalue => by simp [expandServer, patch, hvalue]
  args | _, rfl, _, hvalue => by simp [expandServer, patch, hvalue]
  languageId | _, rfl, _, hvalue => by simp [expandServer, patch, hvalue]
  fileExtensions | _, rfl, _, hvalue => by simp [expandServer, patch, hvalue]
  readinessNotification | _, rfl, _, hvalue => by simp [expandServer, patch, hvalue]

/-- A server that only a section speaks of is nothing but what the section sets. -/
theorem patch_eq_of_define (h : define name given = .ok server) : patch given server = server := by
  unfold define at h
  split at h
  · cases h
  next command hcommand =>
    cases h
    cases hargs : given.args <;> cases hlanguage : given.languageId <;>
      cases hextensions : given.fileExtensions <;>
      cases hreadiness : given.readinessNotification <;>
      simp [patch, hcommand, hargs, hlanguage, hextensions, hreadiness]

theorem heeded_of_applySection (hname : Ecosystem.parse? name = some ecosystem)
    (h : applySection servers name given = .ok result) :
    given.Heeded environment ((result.server? ecosystem).map (expandServer environment)) := by
  unfold applySection at h
  split at h
  · cases h
  next found hfound =>
    obtain rfl : found = ecosystem := by
      simpa [Ecosystem.parse?, hfound, Except.toOption] using hname
    split at h
    next hdisabled =>
      cases h
      rw [ServerTable.server?_erase_self]
      exact ⟨fun _ => rfl, by simp [hdisabled], nofun, nofun, nofun, nofun, nofun⟩
    next henabled =>
      split at h
      next server _ =>
        cases h
        rw [ServerTable.server?_insert_self]
        exact heeded_patch henabled server
      next =>
        cases hdefine : define name given with
        | error fault => simp [hdefine, Except.map] at h
        | ok server =>
          simp only [hdefine, Except.map, Except.ok.injEq] at h
          subst h
          rw [ServerTable.server?_insert_self, ← patch_eq_of_define hdefine]
          exact heeded_patch henabled server

theorem server?_applySection_of_ne (hname : Ecosystem.parse? name ≠ some ecosystem)
    (h : applySection servers name given = .ok result) :
    result.server? ecosystem = servers.server? ecosystem := by
  unfold applySection at h
  split at h
  · cases h
  next found hfound =>
    have hne : ecosystem ≠ found := by
      rintro rfl
      simp [Ecosystem.parse?, hfound, Except.toOption] at hname
    split at h
    · cases h
      exact ServerTable.server?_erase_of_ne hne
    · split at h
      · cases h
        exact ServerTable.server?_insert_of_ne hne
      · cases hdefine : define name given with
        | error fault => simp [hdefine, Except.map] at h
        | ok server =>
          simp only [hdefine, Except.map, Except.ok.injEq] at h
          subst h
          exact ServerTable.server?_insert_of_ne hne

theorem server?_applySections_of_forall_ne {tables : List (String × ServerSection)}
    (hnames : ∀ table ∈ tables, Ecosystem.parse? table.1 ≠ some ecosystem)
    (h : applySections servers tables = .ok result) :
    result.server? ecosystem = servers.server? ecosystem := by
  induction tables generalizing servers with
  | nil =>
    rw [applySections, Except.ok.injEq] at h
    rw [h]
  | cons table rest ih =>
    obtain ⟨hfirst, hrest⟩ := List.forall_mem_cons.mp hnames
    obtain ⟨next, hnext, h⟩ := Except.bind_eq_ok_iff.mp h
    rw [ih hrest h, server?_applySection_of_ne hfirst hnext]

/-- The last section that speaks of an ecosystem is heeded. -/
theorem heeded_of_applySections {before after : List (String × ServerSection)}
    (hname : Ecosystem.parse? name = some ecosystem)
    (hafter : ∀ table ∈ after, Ecosystem.parse? table.1 ≠ some ecosystem)
    (h : applySections servers (before ++ (name, given) :: after) = .ok result) :
    given.Heeded environment ((result.server? ecosystem).map (expandServer environment)) := by
  induction before generalizing servers with
  | nil =>
    obtain ⟨next, hnext, h⟩ := Except.bind_eq_ok_iff.mp h
    rw [server?_applySections_of_forall_ne hafter h]
    exact heeded_of_applySection hname hnext
  | cons table before ih =>
    obtain ⟨next, -, h⟩ := Except.bind_eq_ok_iff.mp h
    exact ih h

/-! ### What is taken -/

/-- The servers with the references in their command lines replaced. -/
def expandServers (environment : Environment) (servers : ServerTable) : ServerTable :=
  servers.map fun (ecosystem, server) => (ecosystem, expandServer environment server)

/-- The configuration that sections come to with the given servers. -/
def settled (sections : ConfigSections) (servers : ServerTable) : Config where
  proxy := { sections.proxy with
    healthInterval := max sections.proxy.healthInterval (.ofSecs 1) }
  monitor := sections.monitor
  session := { sections.session with degradedAfter := max sections.session.degradedAfter 1 }
  adapter := sections.adapter
  cache := { sections.cache with
    reconnectAttempts := max sections.cache.reconnectAttempts 1 }
  servers

theorem resolve_eq_ok_iff {sections : ConfigSections} {config : Config} :
    resolve environment sections = .ok config ↔
      ∃ named, applySections builtinServers sections.servers = .ok named ∧
        blankCommand? (expandServers environment named) = none ∧ sections.proxy.port ≠ 0 ∧
        sections.session.requestTimeout ≠ 0 ∧ sections.session.handshakeTimeout ≠ 0 ∧
        config = settled sections (expandServers environment named) := by
  rw [resolve, Except.bind_eq_ok_iff]
  refine exists_congr fun named => and_congr_right fun _ => ?_
  simp only [← expandServers.eq_def, bind, Except.bind, pure, Except.pure, throw, throwThe,
    MonadExceptOf.throw]
  cases hblank : blankCommand? (expandServers environment named) with
  | some ecosystem => simp
  | none =>
    by_cases hport : sections.proxy.port = 0
    · simp [hport]
    · by_cases hrequest : sections.session.requestTimeout = 0
      · simp [hport, hrequest]
      · by_cases hhandshake : sections.session.handshakeTimeout = 0
        · simp [hport, hhandshake]
        · simp [hport, hrequest, hhandshake, settled, eq_comm]

end Config

/-! ### Which configurations can be worked with -/

namespace Config

/-- Nothing in the configuration keeps the program from working. -/
structure Usable (config : Config) : Prop where
  port : config.proxy.port ≠ 0
  handshakeTimeout : 0 < config.session.handshakeTimeout
  requestTimeout : 0 < config.session.requestTimeout
  shutdownTimeout : 0 < config.session.shutdownTimeout
  startupTimeout : 0 < config.monitor.startupTimeout
  healthInterval : 0 < config.proxy.healthInterval
  probeInterval : 0 < config.monitor.probeInterval
  degradedAfter : 1 ≤ config.session.degradedAfter
  reconnectAttempts : 1 ≤ config.cache.reconnectAttempts
  commands : ∀ entry ∈ config.servers, Text.trim entry.2.command ≠ ""

/-- The configuration was loaded, from one document by itself or from layers. -/
def Loaded (environment : Environment) (config : Config) : Prop :=
  (∃ text, parse environment text = .ok config) ∨
    ∃ tree paths, loadLayers environment tree paths = .ok config

variable {environment : Environment} {config : Config}

/-- Whatever is loaded was settled from some sections. -/
theorem Loaded.exists_resolve (h : Loaded environment config) :
    ∃ sections, resolve environment sections = .ok config := by
  rcases h with ⟨text, h⟩ | ⟨tree, paths, h⟩
  · unfold parse at h
    split at h
    · cases h
    next sections _ => exact ⟨sections, Except.mapError_eq_ok_iff.mp h⟩
  · obtain ⟨merged, -, h⟩ := Except.bind_eq_ok_iff.mp h
    split at h
    · cases h
    next sections _ => exact ⟨sections, Except.mapError_eq_ok_iff.mp h⟩

theorem blankCommand?_eq_none_iff {servers : ServerTable} :
    blankCommand? servers = none ↔ ∀ entry ∈ servers, Text.trim entry.2.command ≠ "" := by
  simp [blankCommand?, Text.trim, String.ofList_eq_empty_iff]

/-- A configuration that was loaded is usable unless a time that is taken as it is has been set to
    zero: the one for a shutdown, the one for the first answer of a proxy, or the one between
    probes. -/
theorem usable_iff (h : Loaded environment config) :
    config.Usable ↔ config.session.shutdownTimeout ≠ 0 ∧ config.monitor.startupTimeout ≠ 0 ∧
      config.monitor.probeInterval ≠ 0 := by
  constructor
  · intro husable
    exact ⟨Nat.ne_of_gt husable.shutdownTimeout, Nat.ne_of_gt husable.startupTimeout,
      Nat.ne_of_gt husable.probeInterval⟩
  · rintro ⟨hshutdown, hstartup, hprobe⟩
    obtain ⟨sections, hresolve⟩ := h.exists_resolve
    obtain ⟨named, -, hblank, hport, hrequest, hhandshake, rfl⟩ := resolve_eq_ok_iff.mp hresolve
    exact {
      port := hport
      handshakeTimeout := Nat.pos_of_ne_zero hhandshake
      requestTimeout := Nat.pos_of_ne_zero hrequest
      shutdownTimeout := Nat.pos_of_ne_zero hshutdown
      startupTimeout := Nat.pos_of_ne_zero hstartup
      -- What is raised to the least value that works need not be looked at.
      healthInterval := Nat.lt_of_lt_of_le (by decide) (Nat.le_max_right _ (Duration.ofSecs 1))
      probeInterval := Nat.pos_of_ne_zero hprobe
      degradedAfter := Nat.le_max_right _ 1
      reconnectAttempts := Nat.le_max_right _ 1
      commands := blankCommand?_eq_none_iff.mp hblank }

/-- The configuration of an empty document is usable. -/
theorem usable_iff_standard : ∃ config, parse [] "" = .ok config ∧ config.Usable := by
  have htimes : (parse [] "").toOption.map (fun config => (config.session.shutdownTimeout,
      config.monitor.startupTimeout, config.monitor.probeInterval)) =
      some (.ofSecs 2, .ofSecs 10, .ofSecs 30) := by decide +kernel
  obtain ⟨config, hconfig, htimes⟩ := Option.map_eq_some_iff.mp htimes
  rw [Except.toOption_eq_some_iff] at hconfig
  simp only [Prod.mk.injEq] at htimes
  refine ⟨config, hconfig, (usable_iff (.inl ⟨_, hconfig⟩)).mpr ?_⟩
  rw [htimes.1, htimes.2.1, htimes.2.2]
  decide

/-- A document that sets all the times to zero that are taken as they are. -/
def zeroTimes : String :=
  "[session]\nshutdown_timeout_ms = 0\n[monitor]\nstartup_timeout_ms = 0\nprobe_interval_secs = 0\n"

theorem not_forall_usable : ¬ ∀ environment config, Loaded environment config → config.Usable := by
  intro h
  have htime : (parse [] zeroTimes).toOption.map (·.monitor.probeInterval) = some 0 := by
    decide +kernel
  obtain ⟨config, hconfig, htime⟩ := Option.map_eq_some_iff.mp htime
  have husable := h [] config (.inl ⟨_, Except.toOption_eq_some_iff.mp hconfig⟩)
  exact Nat.ne_of_gt husable.probeInterval htime

end Config

end SymbolSearch
