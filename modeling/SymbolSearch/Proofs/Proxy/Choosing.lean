import Mathlib.Data.List.Induction
import SymbolSearch.Proxy.Searching

/-!
# The ecosystems in which a request asks for a search

* `ServerTable.Ordered` — what holds of a table of servers: each ecosystem once, in the order of
  their names. `Config.ordered_of_resolve` says that the servers of a configuration are so.
* `Proxy.named?` — the configured ecosystem that a name stands for.
* `chosenEcosystems_named` and `chosenEcosystems_unknown` — which ecosystems are chosen, and which
  name is refused.
-/

namespace SymbolSearch

/-! ### Tables of servers -/

/-- Each ecosystem has one server, and they are in the order of their names. -/
def ServerTable.Ordered (table : ServerTable) : Prop :=
  table.Pairwise fun entry other => entry.1.name < other.1.name

namespace ServerTable

variable {table : ServerTable} {ecosystem : Ecosystem} {server : ServerConfig}

theorem fst_of_mem_insert {entry : Ecosystem × ServerConfig}
    (h : entry ∈ table.insert ecosystem server) :
    entry.1 = ecosystem ∨ entry ∈ table := by
  induction table with
  | nil =>
    obtain rfl := List.mem_singleton.mp h
    exact .inl rfl
  | cons first rest ih =>
    obtain ⟨other, old⟩ := first
    rw [insert] at h
    split at h
    · rcases List.mem_cons.mp h with rfl | hmem
      · exact .inl rfl
      · exact .inr hmem
    · split at h
      · rcases List.mem_cons.mp h with rfl | hmem
        · exact .inl rfl
        · exact .inr (List.mem_cons_of_mem _ hmem)
      · rcases List.mem_cons.mp h with rfl | hmem
        · exact .inr List.mem_cons_self
        · exact (ih hmem).imp_right (List.mem_cons_of_mem _)

theorem Ordered.insert (h : table.Ordered) (ecosystem : Ecosystem) (server : ServerConfig) :
    (table.insert ecosystem server).Ordered := by
  induction table with
  | nil => exact List.pairwise_singleton _ _
  | cons first rest ih =>
    obtain ⟨other, old⟩ := first
    obtain ⟨hfirst, hrest⟩ := List.pairwise_cons.mp h
    rw [ServerTable.insert]
    split
    next hlt =>
      refine List.pairwise_cons.mpr ⟨fun entry hmem => ?_, h⟩
      rcases List.mem_cons.mp hmem with rfl | hmem
      · exact hlt
      · exact String.lt_trans hlt (hfirst entry hmem)
    next hle =>
      split
      next heq => exact List.pairwise_cons.mpr ⟨heq ▸ hfirst, hrest⟩
      next hne =>
        refine List.pairwise_cons.mpr ⟨fun entry hmem => ?_, ih hrest⟩
        rcases fst_of_mem_insert hmem with hnew | hmem
        · rw [hnew]
          refine Std.lt_of_le_of_ne (String.not_lt.mp hle) fun hname => hne ?_
          obtain ⟨name, hvalid⟩ := ecosystem
          obtain ⟨name', hvalid'⟩ := other
          obtain rfl : name' = name := hname
          rfl
        · exact hfirst entry hmem

theorem Ordered.erase (h : table.Ordered) (ecosystem : Ecosystem) :
    (table.erase ecosystem).Ordered := h.filter _

/-- The ecosystems are in the order of their names, and so each is there once. -/
theorem Ordered.names (h : table.Ordered) :
    (table.ecosystems.map (·.name)).Pairwise (· < ·) := by
  rw [ecosystems, List.map_map]
  exact List.pairwise_map.mpr h

theorem Ordered.nodup (h : table.Ordered) : table.ecosystems.Nodup := by
  refine List.Pairwise.imp (fun {first second} hlt heq => ?_) (List.pairwise_map.mp h.names)
  rw [heq] at hlt
  exact String.lt_irrefl _ hlt

end ServerTable

namespace Config

open ServerTable

theorem ordered_builtinServers : builtinServers.Ordered := by
  refine List.Pairwise.imp (fun {first second} h => of_decide_eq_true h)
    (R := fun entry other => decide (entry.1.name < other.1.name) = true) ?_
  decide

theorem ordered_of_applySections {servers servers' : ServerTable}
    {sections : List (String × ServerSection)} (h : servers.Ordered)
    (happlied : applySections servers sections = .ok servers') : servers'.Ordered := by
  induction sections generalizing servers with
  | nil =>
    obtain rfl := Except.ok.inj happlied
    exact h
  | cons first rest ih =>
    obtain ⟨name, given⟩ := first
    rw [applySections] at happlied
    cases hfirst : applySection servers name given with
    | error fault =>
      rw [hfirst] at happlied
      cases happlied
    | ok middle =>
      rw [hfirst] at happlied
      refine ih ?_ happlied
      unfold applySection at hfirst
      split at hfirst
      next => cases hfirst
      next ecosystem _ =>
        split at hfirst
        next =>
          obtain rfl := Except.ok.inj hfirst
          exact h.erase ecosystem
        next =>
          split at hfirst
          next =>
            obtain rfl := Except.ok.inj hfirst
            exact h.insert ecosystem _
          next =>
            cases hmade : define name given with
            | error fault =>
              rw [hmade] at hfirst
              cases hfirst
            | ok server =>
              rw [hmade] at hfirst
              obtain rfl := Except.ok.inj hfirst
              exact h.insert ecosystem _

/-- The servers of every configuration are in order. -/
theorem ordered_of_resolve {environment : Environment} {sections : ConfigSections}
    {config : Config} (h : resolve environment sections = .ok config) : config.servers.Ordered := by
  unfold resolve at h
  cases happlied : applySections builtinServers sections.servers with
  | error fault =>
    rw [happlied] at h
    cases h
  | ok named =>
    have hnamed := ordered_of_applySections ordered_builtinServers happlied
    have hservers : ServerTable.Ordered
        (named.map fun entry => (entry.1, expandServer environment entry.2)) :=
      List.pairwise_map.mpr hnamed
    rw [happlied] at h
    simp only [bind, Except.bind, pure, Except.pure, throw, throwThe, MonadExceptOf.throw] at h
    repeat' split at h
    all_goals cases h
    exact hservers

end Config

/-! ### Names -/

/-- The configured ecosystem that a name stands for. -/
def Proxy.named? (proxy : Proxy) (name : String) : Option Ecosystem :=
  (Ecosystem.parse? name).filter (proxy.cache.servers.ecosystems.contains ·)

/-- Whatever comes last counts only if it was not there before. -/
theorem eraseDups_concat (before : List Ecosystem) (last : Ecosystem) :
    (before ++ [last]).eraseDups =
      if before.eraseDups.contains last then before.eraseDups else before.eraseDups ++ [last] := by
  rw [List.eraseDups_append]
  by_cases hmem : last ∈ before
  · have hcontains : before.eraseDups.contains last = true := by simpa using hmem
    have hnone : [last].removeAll before = [] := by simp [List.removeAll, hmem]
    rw [if_pos hcontains, hnone]
    exact List.append_nil _
  · have hcontains : before.eraseDups.contains last = false := by simpa using hmem
    have hone : [last].removeAll before = [last] := by simp [List.removeAll, hmem]
    rw [hcontains, hone]
    rfl

theorem nodup_eraseDups (ecosystems : List Ecosystem) : ecosystems.eraseDups.Nodup := by
  induction ecosystems using List.reverseRecOn with
  | nil => exact List.nodup_nil
  | append_singleton before last ih =>
    rw [eraseDups_concat]
    split
    · exact ih
    next hnew =>
      refine List.nodup_append.mpr ⟨ih, List.pairwise_singleton _ _, ?_⟩
      intro first hfirst second h
      obtain rfl := List.mem_singleton.mp h
      rintro rfl
      exact hnew (List.contains_iff_mem.mpr hfirst)

namespace Proxy

variable {proxy : Proxy} {names : List String}

/-- The ecosystems that are chosen: all if none is named, and otherwise each one once, in the order
    in which they are named first. -/
def chosen (proxy : Proxy) (names : List String) : List Ecosystem :=
  if names = [] then proxy.cache.servers.ecosystems
  else (names.filterMap Ecosystem.parse?).eraseDups

theorem nodup_chosen (h : proxy.cache.servers.Ordered) (names : List String) :
    (proxy.chosen names).Nodup := by
  unfold chosen
  split
  · exact h.nodup
  · exact nodup_eraseDups _

/-- One more name. -/
theorem chosen_concat {name : String} {ecosystem : Ecosystem}
    (h : proxy.named? name = some ecosystem) (names : List String) :
    ((names ++ [name]).filterMap Ecosystem.parse?).eraseDups =
      if (names.filterMap Ecosystem.parse?).eraseDups.contains ecosystem then
        (names.filterMap Ecosystem.parse?).eraseDups
      else (names.filterMap Ecosystem.parse?).eraseDups ++ [ecosystem] := by
  have hparsed : Ecosystem.parse? name = some ecosystem := (Option.filter_eq_some_iff.mp h).1
  rw [List.filterMap_append, List.filterMap_cons_some hparsed]
  exact eraseDups_concat _ _

end Proxy

variable {proxy : Proxy}

/-- One more name is read. -/
def readName (proxy : Proxy) (chosen : List Ecosystem) (name : String) :
    Except ApiError (List Ecosystem) :=
  match proxy.named? name with
  | some ecosystem => .ok (if chosen.contains ecosystem then chosen else chosen ++ [ecosystem])
  | none => .error (.badRequest ("unknown ecosystem " ++ Text.quoted name))

/-- What is read after a list that was read. -/
theorem foldlM_append_of_ok {ε α β : Type} {step : β → α → Except ε β} {before : List α}
    {first second : β} (h : before.foldlM step first = .ok second) (next : α) (after : List α) :
    (before ++ next :: after).foldlM step first =
      (step second next).bind fun third => after.foldlM step third := by
  rw [List.foldlM_append, h]
  rfl

section Reading

variable {names : List String} {name : String} {chosen : List Ecosystem}

theorem readName_of_some {ecosystem : Ecosystem} (h : proxy.named? name = some ecosystem) :
    readName proxy chosen name =
      .ok (if chosen.contains ecosystem then chosen else chosen ++ [ecosystem]) := by
  unfold readName
  generalize proxy.named? name = found at h
  subst h
  rfl

theorem readName_of_none (h : proxy.named? name = none) : readName proxy chosen name =
    .error (.badRequest ("unknown ecosystem " ++ Text.quoted name)) := by
  unfold readName
  generalize proxy.named? name = found at h
  subst h
  rfl

theorem chosenEcosystems_eq (h : names ≠ []) :
    chosenEcosystems proxy.cache.servers.ecosystems names = names.foldlM (readName proxy) [] := by
  rw [chosenEcosystems, if_neg (by simpa using h)]
  refine congrArg (fun step => names.foldlM step []) ?_
  funext chosen name
  unfold readName Proxy.named?
  cases (Ecosystem.parse? name).filter (proxy.cache.servers.ecosystems.contains ·) <;> rfl

/-- The names are read as long as all stand for configured ecosystems. -/
theorem foldlM_readName (h : ∀ name ∈ names, proxy.named? name ≠ none) :
    names.foldlM (readName proxy) [] = .ok ((names.filterMap Ecosystem.parse?).eraseDups) := by
  induction names using List.reverseRecOn with
  | nil => rfl
  | append_singleton names name ih =>
    obtain ⟨ecosystem, hnamed⟩ := Option.ne_none_iff_exists'.mp (h name List.mem_concat_self)
    have hbefore := ih fun other hother => h other (List.mem_append_left _ hother)
    rw [foldlM_append_of_ok hbefore, readName_of_some hnamed, Proxy.chosen_concat hnamed]
    rfl

theorem chosenEcosystems_named (h : ∀ name ∈ names, proxy.named? name ≠ none) :
    chosenEcosystems proxy.cache.servers.ecosystems names = .ok (proxy.chosen names) := by
  by_cases hnames : names = []
  · subst hnames
    rfl
  · rw [chosenEcosystems_eq hnames, foldlM_readName h, Proxy.chosen, if_neg hnames]

/-- The first name that stands for no configured ecosystem is refused. -/
theorem chosenEcosystems_unknown {before after : List String}
    (hbefore : ∀ other ∈ before, proxy.named? other ≠ none)
    (hname : proxy.named? name = none) :
    chosenEcosystems proxy.cache.servers.ecosystems (before ++ name :: after) =
      .error (.badRequest ("unknown ecosystem " ++ Text.quoted name)) := by
  rw [chosenEcosystems_eq (by simp), foldlM_append_of_ok (foldlM_readName hbefore),
    readName_of_none hname]
  rfl

end Reading

end SymbolSearch
