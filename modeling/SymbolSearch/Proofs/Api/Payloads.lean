import SymbolSearch.Api.Payload
import SymbolSearch.Client.Basic
import SymbolSearch.Proofs.Json.Decoding
import SymbolSearch.Proofs.Rpc.Encoding
import SymbolSearch.Server

/-!
# Payloads come back

Every payload that the proxy and its clients exchange is read as it was written, whatever the order
of the fields in its text; and what a text was read as is written so that it is read the same.

* `Ecosystem.parse?_name` — a name in its valid spelling is taken as it is.
* `Position.encodes` and the theorems of that name of the other payloads — the encoder is undone by
  the decoder.
* `Api.StatusReport.IsSorted` — what a sorted table can hold, and all that is ever decoded.
* `ClientReply.payloads_roundTrip` — texts of payloads, and what a client reads in an answer.
-/

namespace SymbolSearch

open Json (Encodes Offers RoundTrips Spells)

variable {depth : Nat}

/-! ### Names -/

theorem isEcosystemChar_iff {c : Char} : isEcosystemChar c = true ↔
    (97 ≤ c.toNat ∧ c.toNat ≤ 122) ∨ (48 ≤ c.toNat ∧ c.toNat ≤ 57) ∨ c = '-' ∨ c = '_' := by
  simp only [isEcosystemChar, Bool.or_eq_true, Bool.and_eq_true, decide_eq_true_eq, beq_iff_eq,
    or_assoc]
  exact Iff.rfl

theorem isBlank_eq_false_of_isEcosystemChar {c : Char} (h : isEcosystemChar c = true) :
    Text.isBlank c = false := by
  have hrange : 45 ≤ c.toNat ∧ c.toNat ≤ 122 := by
    rcases isEcosystemChar_iff.mp h with h | h | rfl | rfl
    · omega
    · omega
    · decide
    · decide
  simp only [Text.isBlank, Bool.or_eq_false_iff, Bool.and_eq_false_iff, decide_eq_false_iff_not,
    beq_eq_false_iff_ne]
  omega

theorem toLower_of_isEcosystemChar {c : Char} (h : isEcosystemChar c = true) : c.toLower = c := by
  refine dif_neg ?_
  rintro ⟨hlow, hhigh⟩
  have hlow : 65 ≤ c.toNat := hlow
  have hhigh : c.toNat ≤ 90 := hhigh
  rcases isEcosystemChar_iff.mp h with h | h | rfl | rfl
  · omega
  · omega
  · exact absurd hlow (by decide)
  · exact absurd hhigh (by decide)

/-- A name in its valid spelling is taken as it is. -/
theorem Ecosystem.parse?_name (eco : Ecosystem) : Ecosystem.parse? eco.name = some eco := by
  have hchars : ∀ c ∈ eco.name.toList, isEcosystemChar c = true := by
    have hvalid := eco.valid
    rw [isEcosystemName, Bool.and_eq_true] at hvalid
    exact List.all_eq_true.mp hvalid.2
  have htrim : Text.trim eco.name = eco.name := by
    have hblank : ∀ c ∈ eco.name.toList, Text.isBlank c = false :=
      fun c hc => isBlank_eq_false_of_isEcosystemChar (hchars c hc)
    rw [Text.trim, Text.trimChars, dropWhile_isBlank hblank,
      dropWhile_isBlank fun c hc => hblank c (List.mem_reverse.mp hc), List.reverse_reverse]
    exact String.ofList_toList
  have hlower : Text.asciiLower eco.name = eco.name := by
    rw [Text.asciiLower, List.map_congr_left fun c hc => toLower_of_isEcosystemChar (hchars c hc)]
    simp
  simp only [parse?, parse, htrim, hlower, dif_pos eco.valid]
  rfl

example : (Ecosystem.parse? " Rust\n").map Ecosystem.name = some "rust" := by decide

theorem Ecosystem.ext {eco other : Ecosystem} (h : eco.name = other.name) : eco = other := by
  cases eco
  cases other
  cases h
  rfl

theorem Ecosystem.encodes (eco : Ecosystem) :
    Encodes depth Ecosystem.fromJson? eco.toJson eco where
  tidy := .string eco.name
  decode_eq json hspells := by
    rw [hspells.string_eq, fromJson?, Json.string?, Option.bind_some, parse?_name]

theorem SymbolKind.encodes (kind : SymbolKind) :
    Encodes depth SymbolKind.fromJson? kind.toJson kind := by
  refine Encodes.label ?_
  cases kind <;> rfl

theorem SessionState.encodes (state : SessionState) :
    Encodes depth SessionState.fromJson? state.toJson state := by
  refine Encodes.label ?_
  cases state <;> rfl

theorem Api.FailureKind.encodes (kind : FailureKind) :
    Encodes depth FailureKind.fromJson? kind.toJson kind := by
  refine Encodes.label ?_
  cases kind <;> rfl

/-! ### Places and symbols -/

theorem Position.encodes (position : Position) :
    Encodes (depth + 1) Position.fromJson? position.toJson position := by
  have hline : Encodes depth _ _ _ := .uint32 position.line
  have hcharacter : Encodes depth _ _ _ := .uint32 position.character
  refine .object (.of_names ["character", "line"] (by decide) rfl) ?_ fun json record hoffers => ?_
  · simp only [List.forall_mem_cons]
    exact ⟨hcharacter.tidy, hline.tidy, List.forall_mem_nil _⟩
  · have hline := hoffers.required "line" hline (by simp)
    have hcharacter := hoffers.required "character" hcharacter (by simp)
    simp [fromJson?, hoffers.record?_eq, hline, hcharacter]

theorem Range.encodes (range : Range) :
    Encodes (depth + 2) Range.fromJson? range.toJson range := by
  have hstart : Encodes (depth + 1) _ _ _ := range.start.encodes
  have hstop : Encodes (depth + 1) _ _ _ := range.stop.encodes
  refine .object (.of_names ["end", "start"] (by decide) rfl) ?_ fun json record hoffers => ?_
  · simp only [List.forall_mem_cons]
    exact ⟨hstop.tidy, hstart.tidy, List.forall_mem_nil _⟩
  · have hstart := hoffers.required "start" hstart (by simp)
    have hstop := hoffers.required "end" hstop (by simp)
    simp [fromJson?, hoffers.record?_eq, hstart, hstop]

theorem Location.encodes (location : Location) :
    Encodes (depth + 3) Location.fromJson? location.toJson location := by
  have huri : Encodes (depth + 2) _ _ _ := .string location.uri
  have hrange : Encodes (depth + 2) _ _ _ := location.range.encodes
  refine .object (.of_names ["range", "uri"] (by decide) rfl) ?_ fun json record hoffers => ?_
  · simp only [List.forall_mem_cons]
    exact ⟨hrange.tidy, huri.tidy, List.forall_mem_nil _⟩
  · have huri := hoffers.required "uri" huri (by simp)
    have hrange := hoffers.required "range" hrange (by simp)
    simp [fromJson?, hoffers.record?_eq, huri, hrange]

namespace SymbolRecord

theorem isTidy_of_mem_jsonFields (symbol : SymbolRecord) :
    ∀ field ∈ symbol.jsonFields, ∀ json ∈ field.2, json.IsTidy (depth + 3) := by
  have htext (text : Option String) : ∀ json ∈ text.map Json.string, json.IsTidy (depth + 3) := by
    intro json hjson
    obtain ⟨text, -, rfl⟩ := Option.map_eq_some_iff.mp hjson
    exact .string text
  have hkind : Encodes (depth + 3) _ _ _ := symbol.kind.encodes
  simp only [jsonFields, List.forall_mem_cons, Option.mem_some_iff, forall_eq']
  exact ⟨htext _, htext _, hkind.tidy, symbol.location.encodes.tidy, .string _,
    List.forall_mem_nil _⟩

/-- Whatever else an object holds, the record is found if its fields are there. -/
theorem ofRecord?_eq (symbol : SymbolRecord) {json : Json} {given : String → Option Json}
    {record : Record} (hoffers : Offers json given record)
    (hgiven : ∀ name ∈ fieldNames, given name = (symbol.jsonFields.lookup name).join) :
    ofRecord? record = some symbol := by
  simp only [fieldNames, List.forall_mem_cons] at hgiven
  obtain ⟨hname, hkind, hlocation, hcontainer, hdetail, -⟩ := hgiven
  have hsymbolName : Encodes 3 _ _ _ := .string symbol.name
  have hsymbolKind : Encodes 3 _ _ _ := symbol.kind.encodes
  have hsymbolLocation : Encodes 3 _ _ _ := symbol.location.encodes
  have hname := hoffers.required "name" hsymbolName (hname.trans (by simp [jsonFields]))
  have hkind := hoffers.required "kind" hsymbolKind (hkind.trans (by simp [jsonFields]))
  have hlocation := hoffers.required "location" hsymbolLocation
    (hlocation.trans (by simp [jsonFields]))
  have hcontainer := hoffers.text "containerName" symbol.container
    (hcontainer.trans (by simp [jsonFields]))
  have hdetail := hoffers.text "detail" symbol.detail (hdetail.trans (by simp [jsonFields]))
  simp [ofRecord?, hname, hkind, hlocation, hcontainer, hdetail]

theorem encodes (symbol : SymbolRecord) :
    Encodes (depth + 4) SymbolRecord.fromJson? symbol.toJson symbol := by
  refine .ofPresent (by simp [jsonFields]) symbol.isTidy_of_mem_jsonFields
    fun json record hoffers => ?_
  rw [fromJson?, hoffers.record?_eq]
  exact symbol.ofRecord?_eq hoffers fun name _ => rfl

end SymbolRecord

theorem ResultSource.encodes (source : ResultSource) :
    Encodes (depth + 1) ResultSource.fromJson? source.toJson source := by
  cases source with
  | semantic =>
    have hkind : Encodes depth _ _ _ := .string "semantic"
    refine .object (by simp [Json.Ascending]) ?_ fun json record hoffers => ?_
    · simp only [List.forall_mem_cons]
      exact ⟨hkind.tidy, List.forall_mem_nil _⟩
    · have hkind := hoffers.required "kind" hkind (by simp)
      obtain ⟨fields, rfl⟩ := hoffers.isObject
      simp [fromJson?, hoffers.wholeRecord?_eq, hkind]
  | fallback reason =>
    have hkind : Encodes depth _ _ _ := .string "fallback"
    have hreason : Encodes depth _ _ _ := .string reason
    refine .object (.of_names ["kind", "reason"] (by decide) rfl) ?_ fun json record hoffers => ?_
    · simp only [List.forall_mem_cons]
      exact ⟨hkind.tidy, hreason.tidy, List.forall_mem_nil _⟩
    · have hkind := hoffers.required "kind" hkind (by simp)
      have hreason := hoffers.required "reason" hreason (by simp)
      obtain ⟨fields, rfl⟩ := hoffers.isObject
      simp [fromJson?, hoffers.wholeRecord?_eq, hoffers.objectRecord?_eq, hkind, hreason]

/-! ### Requests and answers -/

namespace Api

theorem Readiness.encodes (answer : Readiness) :
    Encodes (depth + 2) Readiness.fromJson? answer.toJson answer := by
  have hready : Encodes (depth + 1) _ _ _ := .bool answer.ready
  have hworkspace : Encodes (depth + 1) _ _ _ := .string answer.workspace
  have havailable : Encodes (depth + 1) _ _ _ :=
    .listOf fun eco (_ : eco ∈ answer.available) => eco.encodes
  refine .object (.of_names ["available", "ready", "workspace"] (by decide) rfl)
    ?_ fun json record hoffers => ?_
  · simp only [List.forall_mem_cons]
    exact ⟨havailable.tidy, hready.tidy, hworkspace.tidy, List.forall_mem_nil _⟩
  · have hready := hoffers.required "ready" hready (by simp)
    have hworkspace := hoffers.required "workspace" hworkspace (by simp)
    have havailable := hoffers.defaulted "available" [] havailable (by simp [listToJson])
    simp [fromJson?, hoffers.record?_eq, hready, hworkspace, havailable]

theorem SymbolQuery.encodes (query : SymbolQuery) :
    Encodes (depth + 2) SymbolQuery.fromJson? query.toJson query := by
  have hquery : Encodes (depth + 1) _ _ _ := .string query.query
  have hecosystems : Encodes (depth + 1) _ _ _ :=
    .listOf fun name (_ : name ∈ query.ecosystems) => .string name
  refine .object (.of_names ["ecosystems", "query"] (by decide) rfl)
    ?_ fun json record hoffers => ?_
  · simp only [List.forall_mem_cons]
    exact ⟨hecosystems.tidy, hquery.tidy, List.forall_mem_nil _⟩
  · have hquery := hoffers.required "query" hquery (by simp)
    have hecosystems := hoffers.defaulted "ecosystems" [] hecosystems (by simp [listToJson])
    simp [fromJson?, hoffers.record?_eq, hquery, hecosystems]

theorem SymbolHit.encodes (hit : SymbolHit) :
    Encodes (depth + 4) SymbolHit.fromJson? hit.toJson hit := by
  have hecosystem : Encodes (depth + 3) _ _ _ := hit.ecosystem.encodes
  refine .ofPresent (by simp [SymbolRecord.jsonFields]) ?_ fun json record hoffers => ?_
  · rw [List.forall_mem_cons]
    refine ⟨fun json hjson => ?_, hit.symbol.isTidy_of_mem_jsonFields⟩
    rw [← Option.mem_some_iff.mp hjson]
    exact hecosystem.tidy
  · have hecosystem := hoffers.required "ecosystem" hecosystem (by simp)
    have hsymbol := hit.symbol.ofRecord?_eq hoffers (by simp [SymbolRecord.fieldNames])
    simp [fromJson?, hoffers.wholeRecord?_eq, hecosystem, hsymbol]

theorem Outcome.encodes (outcome : Outcome) :
    Encodes (depth + 2) Outcome.fromJson? outcome.toJson outcome := by
  obtain ⟨ecosystem, status⟩ := outcome
  have hecosystem : Encodes (depth + 1) _ _ _ := ecosystem.encodes
  cases status with
  | ok source count =>
    have hcount : Encodes (depth + 1) _ _ _ := .uint64 count
    have hsource : Encodes (depth + 1) _ _ _ := source.encodes
    have hstatus : Encodes (depth + 1) _ _ _ := .string "ok"
    refine .object (.of_names ["count", "ecosystem", "source", "status"] (by decide) rfl)
      ?_ fun json record hoffers => ?_
    · simp only [List.forall_mem_cons]
      exact ⟨hcount.tidy, hecosystem.tidy, hsource.tidy, hstatus.tidy, List.forall_mem_nil _⟩
    · have hecosystem := hoffers.required "ecosystem" hecosystem (by simp)
      have hstatus := hoffers.required "status" hstatus (by simp)
      have hsource := hoffers.required "source" hsource (by simp)
      have hcount := hoffers.required "count" hcount (by simp)
      simp [fromJson?, statusFromJson?, hoffers.wholeRecord?_eq, hoffers.objectRecord?_eq,
        hecosystem, hstatus, hsource, hcount]
  | failed kind error =>
    have herror : Encodes (depth + 1) _ _ _ := .string error
    have hkind : Encodes (depth + 1) _ _ _ := kind.encodes
    have hstatus : Encodes (depth + 1) _ _ _ := .string "failed"
    refine .object (.of_names ["ecosystem", "error", "kind", "status"] (by decide) rfl)
      ?_ fun json record hoffers => ?_
    · simp only [List.forall_mem_cons]
      exact ⟨hecosystem.tidy, herror.tidy, hkind.tidy, hstatus.tidy, List.forall_mem_nil _⟩
    · have hecosystem := hoffers.required "ecosystem" hecosystem (by simp)
      have hstatus := hoffers.required "status" hstatus (by simp)
      have hkind := hoffers.required "kind" hkind (by simp)
      have herror := hoffers.required "error" herror (by simp)
      simp [fromJson?, statusFromJson?, hoffers.wholeRecord?_eq, hoffers.objectRecord?_eq,
        hecosystem, hstatus, hkind, herror]

theorem SymbolAnswer.encodes (answer : SymbolAnswer) :
    Encodes (depth + 6) SymbolAnswer.fromJson? answer.toJson answer := by
  have hquery : Encodes (depth + 5) _ _ _ := .string answer.query
  have hecosystems : Encodes (depth + 5) _ _ _ :=
    .listOf fun outcome (_ : outcome ∈ answer.ecosystems) => outcome.encodes
  have htotal : Encodes (depth + 5) _ _ _ := .uint64 answer.total
  have hsymbols : Encodes (depth + 5) _ _ _ :=
    .listOf fun hit (_ : hit ∈ answer.symbols) => hit.encodes
  refine .object (.of_names ["ecosystems", "query", "symbols", "total"] (by decide) rfl)
    ?_ fun json record hoffers => ?_
  · simp only [List.forall_mem_cons]
    exact ⟨hecosystems.tidy, hquery.tidy, hsymbols.tidy, htotal.tidy, List.forall_mem_nil _⟩
  · have hquery := hoffers.required "query" hquery (by simp)
    have hecosystems := hoffers.required "ecosystems" hecosystems (by simp [listToJson])
    have htotal := hoffers.required "total" htotal (by simp)
    have hsymbols := hoffers.required "symbols" hsymbols (by simp [listToJson])
    simp [fromJson?, hoffers.record?_eq, hquery, hecosystems, htotal, hsymbols]

theorem ReferenceQuery.encodes (query : ReferenceQuery) :
    Encodes (depth + 2) ReferenceQuery.fromJson? query.toJson query := by
  have hdocument : Encodes (depth + 1) _ _ _ := .string query.document
  have hposition : Encodes (depth + 1) _ _ _ := query.position.encodes
  have hdeclaration : Encodes (depth + 1) _ _ _ := .bool query.includeDeclaration
  refine .object (.of_names ["document", "includeDeclaration", "position"] (by decide) rfl)
    ?_ fun json record hoffers => ?_
  · simp only [List.forall_mem_cons]
    exact ⟨hdocument.tidy, hdeclaration.tidy, hposition.tidy, List.forall_mem_nil _⟩
  · have hdocument := hoffers.required "document" hdocument (by simp)
    have hposition := hoffers.required "position" hposition (by simp)
    have hdeclaration := hoffers.defaulted "includeDeclaration" false hdeclaration (by simp)
    simp [fromJson?, hoffers.record?_eq, hdocument, hposition, hdeclaration]

theorem ReferenceAnswer.encodes (answer : ReferenceAnswer) :
    Encodes (depth + 5) ReferenceAnswer.fromJson? answer.toJson answer := by
  have hdocument : Encodes (depth + 4) _ _ _ := .string answer.document
  have hposition : Encodes (depth + 4) _ _ _ := answer.position.encodes
  have hecosystem : Encodes (depth + 4) _ _ _ := answer.ecosystem.encodes
  have hsource : Encodes (depth + 4) _ _ _ := answer.source.encodes
  have hreferences : Encodes (depth + 4) _ _ _ :=
    .listOf fun location (_ : location ∈ answer.references) => location.encodes
  refine .object
    (.of_names ["document", "ecosystem", "position", "references", "source"] (by decide) rfl)
    ?_ fun json record hoffers => ?_
  · simp only [List.forall_mem_cons]
    exact ⟨hdocument.tidy, hecosystem.tidy, hposition.tidy, hreferences.tidy, hsource.tidy,
      List.forall_mem_nil _⟩
  · have hdocument := hoffers.required "document" hdocument (by simp)
    have hposition := hoffers.required "position" hposition (by simp)
    have hecosystem := hoffers.required "ecosystem" hecosystem (by simp)
    have hsource := hoffers.required "source" hsource (by simp)
    have hreferences := hoffers.required "references" hreferences (by simp [listToJson])
    simp [fromJson?, hoffers.record?_eq, hdocument, hposition, hecosystem, hsource, hreferences]

/-! ### Reports -/

theorem HealthRecord.encodes (health : HealthRecord) :
    Encodes (depth + 1) HealthRecord.fromJson? health.toJson health := by
  have hat : Encodes depth _ _ _ := .uint64 health.atMs
  have hok : Encodes depth _ _ _ := .bool health.ok
  refine .ofPresent (by simp) ?_ fun json record hoffers => ?_
  · simp only [List.forall_mem_cons, Option.mem_some_iff, forall_eq']
    refine ⟨hat.tidy, fun json hjson => ?_, hok.tidy, List.forall_mem_nil _⟩
    obtain ⟨error, -, rfl⟩ := Option.map_eq_some_iff.mp hjson
    exact .string error
  · have hat := hoffers.required "atMs" hat (by simp)
    have hok := hoffers.required "ok" hok (by simp)
    have herror := hoffers.text "error" health.error (by simp)
    simp [fromJson?, hoffers.record?_eq, hat, hok, herror]

theorem EcosystemStatus.encodes (status : EcosystemStatus) :
    Encodes (depth + 2) EcosystemStatus.fromJson? status.toJson status := by
  have hstate : Encodes (depth + 1) _ _ _ := status.state.encodes
  have hrestarts : Encodes (depth + 1) _ _ _ := .uint32 status.restarts
  have hfailures : Encodes (depth + 1) _ _ _ := .uint32 status.consecutiveFailures
  have hlast : Encodes (depth + 1) (Json.orNull? HealthRecord.fromJson?)
      (HealthRecord.toJsonOrNull status.lastHealthCheck) status.lastHealthCheck := by
    cases status.lastHealthCheck with
    | none => exact .null
    | some health => exact health.encodes.orNull nofun
  refine .object
    (.of_names ["consecutiveFailures", "lastHealthCheck", "restarts", "state"] (by decide) rfl)
    ?_ fun json record hoffers => ?_
  · simp only [List.forall_mem_cons]
    exact ⟨hfailures.tidy, hlast.tidy, hrestarts.tidy, hstate.tidy, List.forall_mem_nil _⟩
  · have hstate := hoffers.required "state" hstate (by simp)
    have hrestarts := hoffers.required "restarts" hrestarts (by simp)
    have hfailures := hoffers.defaulted "consecutiveFailures" 0 hfailures (by simp)
    have hlast := hoffers.defaulted "lastHealthCheck" none hlast (by simp)
    simp [fromJson?, hoffers.record?_eq, hstate, hrestarts, hfailures, hlast]

namespace StatusReport

/-- The ecosystems of the statuses ascend by name, as the keys of a sorted table do. -/
def IsSorted (report : StatusReport) : Prop :=
  report.perEcosystem.Pairwise (·.1.name < ·.1.name)

/-- The field under which the status of an ecosystem is sent. -/
def field (entry : Ecosystem × EcosystemStatus) : String × Json :=
  (entry.1.name, entry.2.toJson)

variable {entries : List (Ecosystem × EcosystemStatus)}

theorem field_injective : Function.Injective field := by
  intro first second h
  obtain ⟨hname, hstatus⟩ := Prod.mk.inj h
  have hsame : some first.2 = some second.2 := by
    have hfirst : Encodes 2 _ _ _ := first.2.encodes
    have hsecond : Encodes 2 _ _ _ := second.2.encodes
    rw [← hfirst.decode_self, ← hsecond.decode_self, hstatus]
  exact Prod.ext (Ecosystem.ext hname) (Option.some.inj hsame)

/-- A status finds its place where its field does. -/
theorem map_field_insert (eco : Ecosystem) (status : EcosystemStatus) :
    (insert eco status entries).map field =
      Json.insertField eco.name status.toJson (entries.map field) := by
  fun_induction insert eco status entries with
  | case1 => rfl
  | case2 other old rest hlt => simp [field, Json.insertField, hlt]
  | case3 old rest hlt => simp [field, Json.insertField]
  | case4 other old rest hlt hne ih =>
    have hname : eco.name ≠ other.name := fun h => hne (Ecosystem.ext h)
    simp [field, Json.insertField, hlt, hname, ← ih]

theorem ascending_map_field :
    Json.Ascending (entries.map field) ↔ entries.Pairwise (·.1.name < ·.1.name) :=
  List.pairwise_map

theorem insert_sorted (eco : Ecosystem) (status : EcosystemStatus)
    (h : entries.Pairwise (·.1.name < ·.1.name)) :
    (insert eco status entries).Pairwise (·.1.name < ·.1.name) := by
  rw [← ascending_map_field, map_field_insert]
  exact Json.ascending_insertField (ascending_map_field.mpr h)

/-- Statuses stand in the order of their fields, whatever the order in which they are found. -/
theorem exists_foldlM_insert (entries : List (Ecosystem × EcosystemStatus))
    {fields : List (String × Json)}
    (h : ∀ found ∈ fields, ∃ entry, Ecosystem.parse? found.1 = some entry.1 ∧
      EcosystemStatus.fromJson? found.2 = some entry.2 ∧
      (found.1, found.2.canonical) = field entry) :
    ∃ result, fields.foldlM (fun sorted found => do
        return insert (← Ecosystem.parse? found.1) (← EcosystemStatus.fromJson? found.2) sorted)
        entries = some result ∧
      result.map field = (Json.canonicalFields fields).foldl
        (fun sorted found => Json.insertField found.1 found.2 sorted) (entries.map field) := by
  induction fields generalizing entries with
  | nil => exact ⟨entries, rfl, rfl⟩
  | cons found rest ih =>
    obtain ⟨⟨entry, hparse, hstatus, hfield⟩, hrest⟩ := List.forall_mem_cons.mp h
    obtain ⟨result, hresult, hmap⟩ := ih (insert entry.1 entry.2 entries) hrest
    refine ⟨result, ?_, ?_⟩
    · rw [List.foldlM_cons, hparse, hstatus]
      exact hresult
    · rw [hmap, map_field_insert]
      obtain ⟨hname, hvalue⟩ := Prod.mk.inj hfield
      rw [Json.canonicalFields, List.foldl_cons, hname, hvalue]

theorem encodes_perEcosystem (h : entries.Pairwise (·.1.name < ·.1.name)) :
    Encodes (depth + 3) perEcosystem? (.object (entries.map field)) entries where
  tidy := by
    refine .object (ascending_map_field.mpr h) fun found hmem => ?_
    obtain ⟨entry, -, rfl⟩ := List.mem_map.mp hmem
    exact entry.2.encodes.tidy
  decode_eq spelled hspells := by
    obtain ⟨fields, rfl, hnames, hlookup⟩ := hspells.exists_object
    have hfound (found : String × Json) (hmem : found ∈ fields) :
        ∃ entry, Ecosystem.parse? found.1 = some entry.1 ∧
          EcosystemStatus.fromJson? found.2 = some entry.2 ∧
          (found.1, found.2.canonical) = field entry := by
      have hrel := hlookup found.1
      rw [Json.lookup_of_mem hnames hmem] at hrel
      cases hvalue : (entries.map field).lookup found.1 with
      | none =>
        rw [hvalue] at hrel
        cases hrel
      | some value =>
        rw [hvalue] at hrel
        cases hrel with
        | some hspelled =>
          obtain ⟨entry, -, hentry⟩ := List.mem_map.mp (Json.mem_of_lookup hvalue)
          obtain ⟨hname, rfl⟩ := Prod.mk.inj hentry
          have hstatus : Encodes 2 _ _ _ := entry.2.encodes
          exact ⟨entry, hname ▸ entry.1.parse?_name, hstatus.decode_eq _ hspelled,
            Prod.ext hname.symm hspelled.canonical_eq⟩
    obtain ⟨result, hresult, hmap⟩ := exists_foldlM_insert [] hfound
    have hcanonical := Json.object.inj hspells.canonical_eq
    have hsame : result.map field = entries.map field := hmap.trans hcanonical
    rw [perEcosystem?, hresult, List.map_injective_iff.mpr field_injective hsame]

theorem sorted_of_foldlM_insert {fields : List (String × Json)}
    {result : List (Ecosystem × EcosystemStatus)}
    (hentries : entries.Pairwise (·.1.name < ·.1.name))
    (h : fields.foldlM (fun sorted found => do
        return insert (← Ecosystem.parse? found.1) (← EcosystemStatus.fromJson? found.2) sorted)
      entries = some result) : result.Pairwise (·.1.name < ·.1.name) := by
  induction fields generalizing entries with
  | nil =>
    obtain rfl := Option.some.inj h
    exact hentries
  | cons found rest ih =>
    rw [List.foldlM_cons] at h
    obtain ⟨next, hnext, hrest⟩ := Option.bind_eq_some_iff.mp h
    obtain ⟨eco, -, hnext⟩ := Option.bind_eq_some_iff.mp hnext
    obtain ⟨status, -, hnext⟩ := Option.bind_eq_some_iff.mp hnext
    obtain rfl := Option.some.inj hnext
    exact ih (insert_sorted eco status hentries) hrest

/-- A report that was decoded is sorted. -/
theorem isSorted_of_fromJson? {json : Json} {report : StatusReport}
    (h : fromJson? json = some report) : report.IsSorted := by
  simp only [fromJson?, Option.bind_eq_bind, Option.bind_eq_some_iff] at h
  obtain ⟨record, -, available, -, entries, hentries, hreport⟩ := h
  obtain rfl := Option.some.inj hreport
  obtain ⟨statuses, -, hstatuses⟩ := Option.bind_eq_some_iff.mp hentries
  unfold perEcosystem? at hstatuses
  split at hstatuses
  · exact sorted_of_foldlM_insert .nil hstatuses
  · cases hstatuses

theorem encodes {report : StatusReport} (h : report.IsSorted) :
    Encodes (depth + 4) StatusReport.fromJson? report.toJson report := by
  have havailable : Encodes (depth + 3) _ _ _ :=
    .listOf fun eco (_ : eco ∈ report.available) => eco.encodes
  have hstatuses : Encodes (depth + 3) _ _ _ := encodes_perEcosystem h
  refine .object (.of_names ["available", "perEcosystem"] (by decide) rfl)
    ?_ fun json record hoffers => ?_
  · simp only [List.forall_mem_cons]
    exact ⟨havailable.tidy, hstatuses.tidy, List.forall_mem_nil _⟩
  · have havailable := hoffers.required "available" havailable (by simp [listToJson])
    have hstatuses := hoffers.required "perEcosystem" hstatuses (by simp [field])
    simp [fromJson?, hoffers.record?_eq, havailable, hstatuses]

end StatusReport

theorem ErrorBody.encodes (body : ErrorBody) :
    Encodes (depth + 2) ErrorBody.fromJson? body.toJson body := by
  have hcode : Encodes depth _ _ _ := .uint16 body.code
  have hmessage : Encodes depth _ _ _ := .string body.message
  have hdetail : Encodes (depth + 1) detail?
      (.object [("code", .nat body.code.toNat), ("message", .string body.message)]) body := by
    refine .object (.of_names ["code", "message"] (by decide) rfl) ?_ fun json record hoffers => ?_
    · simp only [List.forall_mem_cons]
      exact ⟨hcode.tidy, hmessage.tidy, List.forall_mem_nil _⟩
    · have hcode := hoffers.required "code" hcode (by simp)
      have hmessage := hoffers.required "message" hmessage (by simp)
      simp [detail?, hoffers.record?_eq, hcode, hmessage]
  refine .object (by simp [Json.Ascending]) ?_ fun json record hoffers => ?_
  · simp only [List.forall_mem_cons]
    exact ⟨hdetail.tidy, List.forall_mem_nil _⟩
  · have hdetail := hoffers.required "error" hdetail (by simp)
    simp [fromJson?, hoffers.record?_eq, hdetail]

end Api

theorem ServerConfig.encodes (config : ServerConfig) :
    Encodes (depth + 2) ServerConfig.fromJson? config.toJson config := by
  have htexts (texts : List String) :
      Encodes (depth + 1) texts? (.array (texts.map .string)) texts :=
    .listOf fun text (_ : text ∈ texts) => .string text
  have hcommand : Encodes (depth + 1) _ _ _ := .string config.command
  have hlanguage : Encodes (depth + 1) _ _ _ := .string config.languageId
  refine .ofPresent (by simp) ?_ fun json record hoffers => ?_
  · simp only [List.forall_mem_cons, Option.mem_some_iff, forall_eq']
    refine ⟨(htexts _).tidy, hcommand.tidy, (htexts _).tidy, hlanguage.tidy,
      fun json hjson => ?_, List.forall_mem_nil _⟩
    obtain ⟨readiness, -, rfl⟩ := Option.map_eq_some_iff.mp hjson
    exact .string readiness
  · have hcommand := hoffers.required "command" hcommand (by simp)
    have hargs := hoffers.defaulted "args" [] (htexts config.args) (by simp)
    have hlanguage := hoffers.required "language_id" hlanguage (by simp)
    have hextensions := hoffers.defaulted "file_extensions" [] (htexts config.fileExtensions)
      (by simp)
    have hreadiness := hoffers.text "readiness_notification" config.readinessNotification (by simp)
    simp [fromJson?, hoffers.record?_eq, hcommand, hargs, hlanguage, hextensions, hreadiness]

/-! ### What is sent and received -/

namespace ClientReply

/-- What a proxy may answer to a call. -/
def Answers : ClientCall → ClientReply → Prop
  | .health, .readiness _ => True
  | .report, .status report => report.IsSorted
  | .shutdown, .stopping => True
  | .symbols _, .symbols _ => True
  | .references _, .references _ => True
  | _, _ => False

theorem read?_eq {α : Type} {decode : Decoder α} {encode : α → Json} {valid : α → Prop}
    (h : RoundTrips valid decode encode) {value : α} (hvalid : valid value) {json : Json}
    (hspells : Spells json (encode value)) :
    ((Text.decodeStrict json.compact.toUTF8).bind Json.readTolerant).bind decode = some value := by
  rw [decodeStrict_toUTF8, Option.bind_some]
  exact h.sent value hvalid json hspells

/-- Every payload is received as it was sent, and is received again when it is sent on. A client
    reads in the body of an answer what the proxy put there. -/
theorem payloads_roundTrip :
    RoundTrips (fun _ => True) Position.fromJson? Position.toJson ∧
    RoundTrips (fun _ => True) Range.fromJson? Range.toJson ∧
    RoundTrips (fun _ => True) Location.fromJson? Location.toJson ∧
    RoundTrips (fun _ => True) SymbolRecord.fromJson? SymbolRecord.toJson ∧
    RoundTrips (fun _ => True) ResultSource.fromJson? ResultSource.toJson ∧
    RoundTrips (fun _ => True) Ecosystem.fromJson? Ecosystem.toJson ∧
    RoundTrips (fun _ => True) SessionState.fromJson? SessionState.toJson ∧
    RoundTrips (fun _ => True) Api.Readiness.fromJson? Api.Readiness.toJson ∧
    RoundTrips (fun _ => True) Api.SymbolQuery.fromJson? Api.SymbolQuery.toJson ∧
    RoundTrips (fun _ => True) Api.SymbolHit.fromJson? Api.SymbolHit.toJson ∧
    RoundTrips (fun _ => True) Api.SymbolAnswer.fromJson? Api.SymbolAnswer.toJson ∧
    RoundTrips (fun _ => True) Api.Outcome.fromJson? Api.Outcome.toJson ∧
    RoundTrips (fun _ => True) Api.ReferenceQuery.fromJson? Api.ReferenceQuery.toJson ∧
    RoundTrips (fun _ => True) Api.ReferenceAnswer.fromJson? Api.ReferenceAnswer.toJson ∧
    RoundTrips (fun _ => True) Api.HealthRecord.fromJson? Api.HealthRecord.toJson ∧
    RoundTrips (fun _ => True) Api.EcosystemStatus.fromJson? Api.EcosystemStatus.toJson ∧
    RoundTrips Api.StatusReport.IsSorted Api.StatusReport.fromJson? Api.StatusReport.toJson ∧
    RoundTrips (fun _ => True) Api.ErrorBody.fromJson? Api.ErrorBody.toJson ∧
    RoundTrips (fun _ => True) ServerConfig.fromJson? ServerConfig.toJson ∧
    (∀ call reply json, Answers call reply → Spells json reply.toJson →
      call.read? json.compact.toUTF8 = some reply) ∧
    ∀ status (body : Api.ErrorBody) json, Spells json body.toJson →
      reasonIn status json.compact.toUTF8 = body.message := by
  have hreadiness := RoundTrips.of_forall_encodes fun answer => Api.Readiness.encodes answer
  have hstatus := RoundTrips.of_encodes
    (fun (report : Api.StatusReport) (h : report.IsSorted) => Api.StatusReport.encodes h)
    fun _ _ => Api.StatusReport.isSorted_of_fromJson?
  have hsymbols := RoundTrips.of_forall_encodes fun answer => Api.SymbolAnswer.encodes answer
  have hreferences := RoundTrips.of_forall_encodes fun answer => Api.ReferenceAnswer.encodes answer
  have herror := RoundTrips.of_forall_encodes fun body => Api.ErrorBody.encodes body
  refine ⟨.of_forall_encodes Position.encodes, .of_forall_encodes Range.encodes,
    .of_forall_encodes Location.encodes, .of_forall_encodes SymbolRecord.encodes,
    .of_forall_encodes ResultSource.encodes, .of_forall_encodes Ecosystem.encodes,
    .of_forall_encodes SessionState.encodes, hreadiness,
    .of_forall_encodes Api.SymbolQuery.encodes, .of_forall_encodes Api.SymbolHit.encodes, hsymbols,
    .of_forall_encodes Api.Outcome.encodes, .of_forall_encodes Api.ReferenceQuery.encodes,
    hreferences, .of_forall_encodes Api.HealthRecord.encodes,
    .of_forall_encodes Api.EcosystemStatus.encodes, hstatus,
    herror, .of_forall_encodes ServerConfig.encodes, ?_, ?_⟩
  · intro call reply json hanswers hspells
    match call, reply, hanswers with
    | .health, .readiness _, _ => rw [ClientCall.read?, read?_eq hreadiness trivial hspells]; rfl
    | .report, .status _, hsorted => rw [ClientCall.read?, read?_eq hstatus hsorted hspells]; rfl
    | .shutdown, .stopping, _ => rfl
    | .symbols _, .symbols _, _ => rw [ClientCall.read?, read?_eq hsymbols trivial hspells]; rfl
    | .references _, .references _, _ =>
      rw [ClientCall.read?, read?_eq hreferences trivial hspells]; rfl
  · intro status body json hspells
    rw [reasonIn, decodeLossy_toUTF8, herror.sent body trivial json hspells]

end ClientReply

end SymbolSearch
