import SymbolSearch.Cache.Basic
import SymbolSearch.Proofs.Proxy.Choosing
import SymbolSearch.Proofs.Text.Folding

/-!
# Which ecosystem a file belongs to

The table of extensions is made once for all servers, while the text scan of each server looks at
the extension of each file by itself. Both agree on every file.

* `ServerConfig.claims` — a server that is configured for files with an extension.
* `ExtensionTable.lookup_ofServers` — the table gives an extension to the first server that claims
  it.
* `Cache.handles_scannerOf` — the scan of a server looks at the files with the extensions that
  the server claims.
* `Cache.routing_agrees` — a file belongs to the first ecosystem whose scan looks at it, and to none
  only if no scan does.
-/

namespace SymbolSearch

/-- Whether a server is configured for files with an extension, in small letters. -/
def ServerConfig.claims (server : ServerConfig) (extension : String) : Bool :=
  server.fileExtensions.any fun wanted => Scanner.normalExtension wanted == extension

/-! ### The table of extensions -/

namespace ExtensionTable

theorem lookup_claim (table : ExtensionTable) (extension wanted : String) (ecosystem : Ecosystem) :
    (table.claim extension ecosystem).lookup wanted =
      (table.lookup wanted).or (if extension = wanted then some ecosystem else none) := by
  unfold claim
  split
  next found hfound =>
    by_cases heq : extension = wanted
    · rw [← heq, hfound, Option.some_or]
    · rw [if_neg heq, Option.or_none]
  next hnone =>
    by_cases heq : extension = wanted
    · rw [← heq, List.lookup_cons_self, hnone, if_pos rfl, Option.none_or]
    · have hne : (wanted == extension) = false := beq_eq_false_iff_ne.mpr fun h => heq h.symm
      rw [if_neg heq, Option.or_none, List.lookup_cons, hne]

/-- What an ecosystem gets is what it claims and nobody has got before. -/
theorem lookup_claimAll (table : ExtensionTable) (entry : Ecosystem × ServerConfig)
    (wanted : String) :
    (table.claimAll entry).lookup wanted =
      (table.lookup wanted).or (if entry.2.claims wanted then some entry.1 else none) := by
  unfold claimAll ServerConfig.claims
  generalize entry.2.fileExtensions = extensions
  induction extensions generalizing table with
  | nil => simp
  | cons extension extensions ih =>
    rw [List.foldl_cons, ih, lookup_claim, Option.or_assoc]
    by_cases heq : Scanner.normalExtension extension = wanted
    · simp [heq]
    · simp [heq]

/-- The first server that claims an extension gets it. -/
theorem lookup_ofServers (servers : ServerTable) (wanted : String) :
    (ofServers servers).lookup wanted =
      (servers.find? fun entry => entry.2.claims wanted).map (·.1) := by
  -- What was claimed before the first server goes before all claims, by induction on the servers.
  suffices hall : ∀ table : ExtensionTable, (servers.foldl claimAll table).lookup wanted =
      (table.lookup wanted).or ((servers.find? fun entry => entry.2.claims wanted).map (·.1)) from
    (hall []).trans (Option.none_or ..)
  intro table
  induction servers generalizing table with
  | nil => simp
  | cons entry servers ih =>
    rw [List.foldl_cons, ih, lookup_claimAll, Option.or_assoc]
    by_cases hclaims : entry.2.claims wanted = true
    · simp [hclaims]
    · simp [hclaims]

end ExtensionTable

/-! ### The first ecosystem -/

/-- In a table of servers, what comes first is what has the least name. -/
theorem ServerTable.Ordered.find?_eq_some_iff {table : ServerTable} (h : table.Ordered)
    {test : Ecosystem × ServerConfig → Bool} {entry : Ecosystem × ServerConfig} :
    table.find? test = some entry ↔ entry ∈ table ∧ test entry = true ∧
      ∀ other ∈ table, test other = true → entry.1.name ≤ other.1.name := by
  have hfirst {found : Ecosystem × ServerConfig} (hfound : table.find? test = some found) :
      ∀ other ∈ table, test other = true → other = found ∨ found.1.name < other.1.name := by
    obtain ⟨-, before, after, rfl, hbefore⟩ := List.find?_eq_some_iff_append.mp hfound
    intro other hmem htest
    rcases List.mem_append.mp hmem with hmem | hmem
    · exact absurd htest (by simpa using hbefore other hmem)
    · refine (List.mem_cons.mp hmem).imp_right fun hmem => ?_
      exact (List.pairwise_cons.mp (List.pairwise_append.mp h).2.1).1 other hmem
  constructor
  · intro hfound
    refine ⟨List.mem_of_find?_eq_some hfound, List.find?_some hfound, fun other hmem htest => ?_⟩
    rcases hfirst hfound other hmem htest with rfl | hlt
    · exact String.le_refl _
    · exact Std.le_of_lt hlt
  · rintro ⟨hmem, htest, hleast⟩
    cases hfound : table.find? test with
    | none => exact absurd htest (List.find?_eq_none.mp hfound entry hmem)
    | some found =>
      -- What was found and the entry with the least name have the same name.
      have hle := hleast found (List.mem_of_find?_eq_some hfound) (List.find?_some hfound)
      rcases hfirst hfound entry hmem htest with rfl | hlt
      · rfl
      · exact absurd hle (String.not_le.mpr hlt)

/-! ### Scans -/

namespace Cache

/-- The text scan of a workspace that the cache makes with the adapter of a server. -/
def scannerOf (cache : Cache) (root : Path) (entry : Ecosystem × ServerConfig) : Scanner :=
  (Adapter.ofServer entry.1 root entry.2 cache.settings.session cache.settings.adapter).scanner

/-- The scan of a server looks at the files whose extensions the server claims. -/
theorem handles_scannerOf (cache : Cache) (root path : Path) (entry : Ecosystem × ServerConfig) :
    (cache.scannerOf root entry).handles path =
      path.extension?.any fun extension => entry.2.claims (Text.asciiLower extension) := by
  unfold Scanner.handles ServerConfig.claims
  cases path.extension? with
  | none => rfl
  | some extension =>
    have hsame (wanted : String) :
        Text.eqIgnoringAsciiCase (Scanner.normalExtension wanted) extension =
          (Scanner.normalExtension wanted == Text.asciiLower extension) := by
      unfold Text.eqIgnoringAsciiCase
      rw [Scanner.normalExtension, Text.asciiLower_asciiLower]
    simp only [scannerOf, Adapter.ofServer, Scanner.ofServer, List.any_map, Function.comp_def,
      hsame, Option.any_some]

/-- A file belongs to the first ecosystem in the table whose scan looks at it. -/
theorem ecosystemFor?_eq (cache : Cache) (root path : Path) : cache.ecosystemFor? path =
    (cache.servers.find? fun entry => (cache.scannerOf root entry).handles path).map (·.1) := by
  simp only [handles_scannerOf]
  unfold ecosystemFor?
  cases path.extension? with
  | none =>
    have hnone : (cache.servers.find? fun _ => false) = none := by simp
    exact (congrArg (Option.map (·.1)) hnone).symm
  | some extension => exact ExtensionTable.lookup_ofServers ..

/-- A file belongs to the ecosystem with the least name whose scan looks at it, and to none only if
    no scan does. -/
theorem routing_agrees (cache : Cache) (hordered : cache.servers.Ordered) (root path : Path) :
    (∀ ecosystem, cache.ecosystemFor? path = some ecosystem ↔
        (∃ server, (ecosystem, server) ∈ cache.servers ∧
          (cache.scannerOf root (ecosystem, server)).handles path = true) ∧
        ∀ other ∈ cache.servers, (cache.scannerOf root other).handles path = true →
          ecosystem.name ≤ other.1.name) ∧
      (cache.ecosystemFor? path = none ↔
        ∀ other ∈ cache.servers, (cache.scannerOf root other).handles path = false) := by
  rw [cache.ecosystemFor?_eq root path]
  refine ⟨fun ecosystem => ?_, ?_⟩
  · rw [Option.map_eq_some_iff]
    constructor
    · rintro ⟨⟨ecosystem, server⟩, hfound, rfl⟩
      obtain ⟨hmem, hhandles, hleast⟩ := hordered.find?_eq_some_iff.mp hfound
      exact ⟨⟨server, hmem, hhandles⟩, hleast⟩
    · rintro ⟨⟨server, hmem, hhandles⟩, hleast⟩
      exact ⟨(ecosystem, server), hordered.find?_eq_some_iff.mpr ⟨hmem, hhandles, hleast⟩, rfl⟩
  · rw [Option.map_eq_none_iff, List.find?_eq_none]
    simp only [Bool.not_eq_true]

/-- Two ecosystems that claim the same files. -/
def sharedServers : ServerTable :=
  [(⟨"deno", by decide⟩,
      { command := "deno", languageId := "typescript", fileExtensions := [".TS", "mts"] }),
    (⟨"typescript", by decide⟩,
      { command := "tsserver", languageId := "typescript", fileExtensions := ["ts", "tsx"] })]

theorem ordered_sharedServers : sharedServers.Ordered := by
  refine List.pairwise_pair.mpr ?_
  decide

theorem routing_agrees_shared :
    let cache : Cache := { servers := sharedServers, settings := {} }
    cache.servers.Ordered ∧ cache.ecosystemFor? "/ws/a.Ts" = some ⟨"deno", by decide⟩ ∧
      cache.ecosystemFor? "/ws/a.py" = none := by
  have hagrees (path : Path) :=
    routing_agrees { servers := sharedServers, settings := {} } ordered_sharedServers "/ws" path
  refine ⟨ordered_sharedServers, ((hagrees "/ws/a.Ts").1 _).mpr ⟨⟨_, List.mem_cons_self, ?_⟩, ?_⟩,
    (hagrees "/ws/a.py").2.mpr ?_⟩
  · decide +kernel
  · decide +kernel
  · decide +kernel

end Cache
end SymbolSearch
