import Mathlib.Data.List.Forall2
import SymbolSearch.Lsp.Answer

/-!
# The symbols of a workspace, one by one

A server may leave out the range of a symbol. A list in which all ranges are there is decoded in one
form, and a list in which one of them is missing in another, the whole of it. The form of the list
does not show in the records.

* `WorkspaceSymbols.Tells` — what an element of a list says.
* `WorkspaceSymbol.record_of_fromJson?_iff` — one element, in the form that may lack ranges.
* `FlatSymbol.fromJson?_eq_some_iff` — an element with a range is the same in both forms.
* `WorkspaceSymbols.records_elementwise` — the record of an element depends on that element only.
-/

namespace SymbolSearch

/-! ### Parts of an element -/

namespace Json

variable {α β : Type} {json : Json}

theorem string?_eq_some_iff {text : String} : json.string? = some text ↔ json = .string text := by
  cases json <;> simp [string?]

theorem natBelow?_eq_some_iff {bound n : Nat} :
    json.natBelow? bound = some n ↔ json = .nat n ∧ n < bound := by
  constructor
  · intro h
    obtain ⟨value, hvalue, hread⟩ := Option.bind_eq_some_iff.mp h
    obtain ⟨⟨hpos, hlt⟩, htoNat⟩ := Option.ite_none_right_eq_some.mp hread
    obtain ⟨n, rfl⟩ := Int.eq_ofNat_of_zero_le hpos
    obtain rfl : n = _ := Option.some.inj htoNat
    refine ⟨?_, Int.ofNat_lt.mp hlt⟩
    unfold int? at hvalue
    split at hvalue <;> cases hvalue
    rfl
  · rintro ⟨rfl, hlt⟩
    rw [natBelow?, nat, int, int?, Option.bind_some,
      if_pos ⟨Int.natCast_nonneg n, Int.ofNat_lt.mpr hlt⟩, Int.toNat_natCast]

/-- A list is decoded, and then converted, item by item. -/
theorem map_mapM_eq_some_iff {decode : Decoder α} {convert : α → β} {items : List Json}
    {values : List β} :
    (items.mapM decode).map (List.map convert) = some values ↔
      List.Forall₂ (fun item value => (decode item).map convert = some value) items values := by
  induction items generalizing values with
  | nil => simp [eq_comm]
  | cons item items ih =>
    rw [List.forall₂_cons_left_iff]
    constructor
    · intro h
      obtain ⟨decoded, hdecoded, rfl⟩ := Option.map_eq_some_iff.mp h
      rw [List.mapM_cons] at hdecoded
      obtain ⟨value, hvalue, hrest⟩ := Option.bind_eq_some_iff.mp hdecoded
      obtain ⟨values, hvalues, hsome⟩ := Option.bind_eq_some_iff.mp hrest
      obtain rfl := Option.some.inj hsome
      exact ⟨_, _, Option.map_eq_some_iff.mpr ⟨value, hvalue, rfl⟩,
        ih.mp (Option.map_eq_some_iff.mpr ⟨values, hvalues, rfl⟩), rfl⟩
    · rintro ⟨_, _, hitem, hitems, rfl⟩
      obtain ⟨value, hvalue, rfl⟩ := Option.map_eq_some_iff.mp hitem
      obtain ⟨values, hvalues, rfl⟩ := Option.map_eq_some_iff.mp (ih.mpr hitems)
      simp [List.mapM_cons, hvalue, hvalues]

end Json

namespace WorkspaceSymbols

/-- The place that the location of a symbol gives: a whole location, or the start of a document if
    no range can be read but a URI. -/
inductive Places : Json → Location → Prop where
  | whole {json : Json} {location : Location} (reads : Location.fromJson? json = some location) :
      Places json location
  | bare {fields : List (String × Json)} {uri : String}
      (noRange : Location.fromJson? (.object fields) = none)
      (once : Json.atMostOnce "uri" fields = true)
      (hasUri : fields.lookup "uri" = some (.string uri)) :
      Places (.object fields) ⟨uri, ⟨⟨0, 0⟩, ⟨0, 0⟩⟩⟩

/-- The name of a container, as an element may give it. An empty name is none. -/
inductive NamesContainer : Option Json → Option String → Prop where
  | absent : NamesContainer none none
  | null : NamesContainer (some .null) none
  | empty : NamesContainer (some (.string "")) none
  | text {text : String} (hne : text ≠ "") : NamesContainer (some (.string text)) (some text)

/-- What an element with the given fields says about a symbol. -/
structure Tells (fields : List (String × Json)) (record : SymbolRecord) : Prop where
  once : ∀ name ∈ ["name", "kind", "containerName", "location"], Json.atMostOnce name fields = true
  name : fields.lookup "name" = some (.string record.name)
  kind : ∃ code < UInt64.size,
    fields.lookup "kind" = some (.nat code) ∧ record.kind = .ofServer code
  container : NamesContainer (fields.lookup "containerName") record.container
  location : ∃ place, fields.lookup "location" = some place ∧ Places place record.location
  detail : record.detail = none

end WorkspaceSymbols

open WorkspaceSymbols (NamesContainer Places Tells)

/-- The record of an object with the given fields shows them, if none of the names repeats. -/
theorem Json.objectRecord?_object_iff {names : List String} {fields : List (String × Json)}
    {record : Record} :
    objectRecord? names (.object fields) = some record ↔
      (∀ name ∈ names, atMostOnce name fields = true) ∧
        record = ⟨fun name => fields.lookup name, false⟩ := by
  rw [objectRecord?, Option.ite_none_right_eq_some, List.all_eq_true, Option.some.injEq,
    eq_comm (a := record)]

theorem SymbolPlace.location_iff {json : Json} {location : Location} :
    (SymbolPlace.fromJson? json).map SymbolPlace.location = some location ↔
      Places json location := by
  unfold SymbolPlace.fromJson?
  cases hwhole : Location.fromJson? json with
  | some found =>
    rw [Option.map_some, SymbolPlace.location, Option.some.injEq]
    constructor
    · rintro rfl
      exact .whole hwhole
    · intro h
      cases h with
      | whole reads => exact Option.some.inj (hwhole.symm.trans reads)
      | bare noRange => exact absurd (hwhole.symm.trans noRange) (Option.some_ne_none _)
  | none =>
    constructor
    · intro h
      obtain ⟨place, hplace, rfl⟩ := Option.map_eq_some_iff.mp h
      obtain ⟨record, hrecord, hrest⟩ := Option.bind_eq_some_iff.mp hplace
      obtain ⟨uri, huri, hsome⟩ := Option.bind_eq_some_iff.mp hrest
      obtain rfl := Option.some.inj hsome
      cases json with
      | object fields =>
        obtain ⟨honce, rfl⟩ := Json.objectRecord?_object_iff.mp hrecord
        obtain ⟨json, hlookup, hstring⟩ := Option.bind_eq_some_iff.mp huri
        rw [Json.string?_eq_some_iff.mp hstring] at hlookup
        exact .bare hwhole (honce "uri" List.mem_cons_self) hlookup
      | null | bool | number | string | array => cases hrecord
    · intro h
      cases h with
      | whole reads => exact absurd (reads.symm.trans hwhole) (Option.some_ne_none _)
      | @bare fields uri noRange once hasUri =>
        have hrecord := Json.objectRecord?_object_iff.mpr ⟨List.forall_mem_singleton.mpr once, rfl⟩
        simp only [hrecord, Option.bind_eq_bind, Option.bind_some, Record.required, hasUri,
          Json.string?, Option.pure_def, Option.map_some, SymbolPlace.location]
        rfl

/-- A whole location is never taken for a bare URI. -/
theorem SymbolPlace.fromJson?_eq_full_iff {json : Json} {location : Location} :
    SymbolPlace.fromJson? json = some (.full location) ↔
      Location.fromJson? json = some location := by
  unfold SymbolPlace.fromJson?
  cases hwhole : Location.fromJson? json with
  | some found => simp
  | none => simp [Option.bind_eq_some_iff]

/-! ### One element -/

variable {fields : List (String × Json)} {record : SymbolRecord}

/-- The fields of an object, to be looked up by name. -/
def Record.named (fields : List (String × Json)) : Record := ⟨fun name => fields.lookup name, false⟩

theorem WorkspaceSymbol.fromJson?_object_iff {symbol : WorkspaceSymbol} :
    fromJson? (.object fields) = some symbol ↔
      (∀ name ∈ ["name", "kind", "containerName", "location"],
        Json.atMostOnce name fields = true) ∧
      (Record.named fields).required "name" Json.string? = some symbol.name ∧
      (Record.named fields).required "kind" (Json.natBelow? UInt64.size) = some symbol.kind ∧
      (Record.named fields).optional "containerName" Json.string? = some symbol.container ∧
      (Record.named fields).required "location" SymbolPlace.fromJson? = some symbol.place := by
  simp only [fromJson?, Json.record?, Option.bind_eq_bind, Option.bind_eq_some_iff,
    Json.objectRecord?_object_iff, Option.pure_def, Option.some.injEq]
  constructor
  · rintro ⟨_, ⟨honce, rfl⟩, name, hname, kind, hkind, container, hcontainer, place, hplace, rfl⟩
    exact ⟨honce, hname, hkind, hcontainer, hplace⟩
  · rintro ⟨honce, hname, hkind, hcontainer, hplace⟩
    exact ⟨_, ⟨honce, rfl⟩, _, hname, _, hkind, _, hcontainer, _, hplace, rfl⟩

/-- An element with a range is the same in both forms. -/
theorem FlatSymbol.fromJson?_eq_some_iff {symbol : FlatSymbol} :
    FlatSymbol.fromJson? (.object fields) = some symbol ↔
      WorkspaceSymbol.fromJson? (.object fields) =
        some ⟨symbol.name, symbol.kind, symbol.container, .full symbol.location⟩ := by
  have hplace : (Record.named fields).required "location" SymbolPlace.fromJson? =
        some (.full symbol.location) ↔
      (Record.named fields).required "location" Location.fromJson? = some symbol.location := by
    simp only [Record.required, Option.bind_eq_some_iff, SymbolPlace.fromJson?_eq_full_iff]
  have hnames : (∀ name ∈ ["name", "kind", "location", "containerName"],
        Json.atMostOnce name fields = true) ↔
      ∀ name ∈ ["name", "kind", "containerName", "location"],
        Json.atMostOnce name fields = true := by
    simp only [List.forall_mem_cons, and_left_comm]
  rw [WorkspaceSymbol.fromJson?_object_iff, hplace, ← hnames]
  simp only [fromJson?, Json.record?, Option.bind_eq_bind, Option.bind_eq_some_iff,
    Json.objectRecord?_object_iff, Option.pure_def, Option.some.injEq]
  constructor
  · rintro ⟨_, ⟨honce, rfl⟩, name, hname, kind, hkind, location, hlocation, container, hcontainer,
      rfl⟩
    exact ⟨honce, hname, hkind, hcontainer, hlocation⟩
  · rintro ⟨honce, hname, hkind, hcontainer, hlocation⟩
    exact ⟨_, ⟨honce, rfl⟩, _, hname, _, hkind, _, hlocation, _, hcontainer, rfl⟩

theorem Record.namesContainer_iff {container : Option String} :
    ((named fields).optional "containerName" Json.string?).map SymbolRecord.nonEmpty =
        some container ↔
      NamesContainer (fields.lookup "containerName") container := by
  have hoptional : (named fields).optional "containerName" Json.string? =
      (fields.lookup "containerName").elim (some none) (Json.orNull? Json.string?) := by
    cases hlookup : fields.lookup "containerName" <;> simp [optional, named, hlookup]
  rw [hoptional]
  cases fields.lookup "containerName" with
  | none =>
    constructor
    · rintro ⟨⟩
      exact .absent
    · rintro ⟨⟩
      rfl
  | some json =>
    rw [Option.elim_some]
    cases json with
    | null =>
      constructor
      · rintro ⟨⟩
        exact .null
      · rintro ⟨⟩
        rfl
    | string text =>
      have hgiven : (Json.orNull? Json.string? (.string text)).map SymbolRecord.nonEmpty =
          some (if text = "" then none else some text) := by
        by_cases hempty : text = "" <;> simp [Json.orNull?, Json.string?, SymbolRecord.nonEmpty,
          Option.filter, hempty]
      rw [hgiven, Option.some.injEq]
      constructor
      · rintro rfl
        split
        next hempty => exact hempty ▸ .empty
        next hne => exact .text hne
      · intro h
        cases h with
        | empty => rfl
        | text hne => exact if_neg hne
    | bool | number | array | object =>
      constructor
      · intro h
        cases h
      · intro h
        cases h

/-- What an element says is its record in the form that may lack ranges. -/
theorem WorkspaceSymbol.record_of_fromJson?_iff :
    (WorkspaceSymbol.fromJson? (.object fields)).map WorkspaceSymbol.record = some record ↔
      Tells fields record := by
  have hnames {text : String} : (Record.named fields).required "name" Json.string? = some text ↔
      fields.lookup "name" = some (.string text) := by
    simp [Record.required, Record.named, Option.bind_eq_some_iff, Json.string?_eq_some_iff]
  have hkinds {code : Nat} :
      (Record.named fields).required "kind" (Json.natBelow? UInt64.size) = some code ↔
        fields.lookup "kind" = some (.nat code) ∧ code < UInt64.size := by
    simp [Record.required, Record.named, Option.bind_eq_some_iff, Json.natBelow?_eq_some_iff]
  simp only [Option.map_eq_some_iff, WorkspaceSymbol.fromJson?_object_iff, hnames, hkinds]
  constructor
  · rintro ⟨⟨name, code, container, place⟩, ⟨honce, hname, ⟨hkind, hcode⟩, hcontainer, hplace⟩,
      rfl⟩
    obtain ⟨json, hlookup, hread⟩ := Option.bind_eq_some_iff.mp hplace
    exact {
      once := honce
      name := hname
      kind := ⟨code, hcode, hkind, rfl⟩
      container := Record.namesContainer_iff.mp (Option.map_eq_some_iff.mpr ⟨_, hcontainer, rfl⟩)
      location := ⟨json, hlookup, SymbolPlace.location_iff.mp
        (Option.map_eq_some_iff.mpr ⟨place, hread, rfl⟩)⟩
      detail := rfl }
  · obtain ⟨name, kind, location, container, detail⟩ := record
    rintro ⟨honce, hname, ⟨code, hcode, hkind, rfl⟩, hcontainer, ⟨json, hlookup, hplaces⟩, rfl⟩
    obtain ⟨given, hgiven, hnonEmpty⟩ :=
      Option.map_eq_some_iff.mp (Record.namesContainer_iff.mpr hcontainer)
    obtain ⟨place, hread, hlocation⟩ :=
      Option.map_eq_some_iff.mp (SymbolPlace.location_iff.mpr hplaces)
    refine ⟨⟨name, code, given, place⟩, ⟨honce, hname, ⟨hkind, hcode⟩, hgiven,
      Option.bind_eq_some_iff.mpr ⟨json, hlookup, hread⟩⟩, ?_⟩
    rw [WorkspaceSymbol.record, SymbolRecord.withContainer, hnonEmpty, hlocation]

/-- An element says one thing. -/
theorem WorkspaceSymbols.Tells.unique {record' : SymbolRecord} (h : Tells fields record)
    (h' : Tells fields record') : record = record' :=
  Option.some.inj ((WorkspaceSymbol.record_of_fromJson?_iff.mpr h).symm.trans
    (WorkspaceSymbol.record_of_fromJson?_iff.mpr h'))

/-! ### The list -/

namespace WorkspaceSymbols

variable {objects : List (List (String × Json))} {found : List SymbolRecord}

/-- What a list of objects is taken for. -/
def ofObjects? (objects : List (List (String × Json))) : Option WorkspaceSymbols :=
  fromJson? (.array (objects.map .object))

/-- The records that a list of objects comes to. -/
def recordsOf? (objects : List (List (String × Json))) : Option (List SymbolRecord) :=
  (ofObjects? objects).map records

/-- An element with a range says what its record in the other form is. -/
theorem tells_of_flat {fields : List (String × Json)} {record : SymbolRecord}
    (h : (FlatSymbol.fromJson? (.object fields)).map FlatSymbol.record = some record) :
    Tells fields record := by
  obtain ⟨symbol, hsymbol, rfl⟩ := Option.map_eq_some_iff.mp h
  rw [FlatSymbol.fromJson?_eq_some_iff] at hsymbol
  exact WorkspaceSymbol.record_of_fromJson?_iff.mp (Option.map_eq_some_iff.mpr ⟨_, hsymbol, rfl⟩)

theorem ofObjects?_eq (objects : List (List (String × Json))) :
    ofObjects? objects =
      match (objects.map Json.object).mapM FlatSymbol.fromJson? with
      | some symbols => some (.flat symbols)
      | none => ((objects.map Json.object).mapM WorkspaceSymbol.fromJson?).map .loose := rfl

/-- **A list is as its elements say**, in whichever form it is decoded. -/
theorem recordsOf?_eq_some_iff :
    recordsOf? objects = some found ↔ List.Forall₂ Tells objects found := by
  rw [recordsOf?, ofObjects?_eq]
  cases hflat : (objects.map Json.object).mapM FlatSymbol.fromJson? with
  | none =>
    have hloose : ((objects.map Json.object).mapM WorkspaceSymbol.fromJson?).map
          (List.map WorkspaceSymbol.record) = some found ↔ List.Forall₂ Tells objects found := by
      simp only [Json.map_mapM_eq_some_iff, List.forall₂_map_left_iff,
        WorkspaceSymbol.record_of_fromJson?_iff]
    rw [← hloose, Option.map_map]
    rfl
  | some symbols =>
    have htells : List.Forall₂ Tells objects (symbols.map FlatSymbol.record) := by
      have hrecords := congrArg (Option.map (List.map FlatSymbol.record)) hflat
      have hitems := List.forall₂_map_left_iff.mp (Json.map_mapM_eq_some_iff.mp hrecords)
      exact hitems.imp fun _ _ => tells_of_flat
    rw [Option.map_some, records, Option.some.injEq]
    constructor
    · rintro rfl
      exact htells
    · -- Each element says the same as if the range of another were missing.
      exact List.right_unique_forall₂' (fun _ _ _ h h' => h.unique h') htells

theorem isSome_mapM_flat {symbols : List WorkspaceSymbol}
    (h : (objects.map Json.object).mapM WorkspaceSymbol.fromJson? = some symbols)
    (hfull : ∀ symbol ∈ symbols, ∃ location, symbol.place = .full location) :
    ((objects.map Json.object).mapM FlatSymbol.fromJson?).isSome := by
  induction objects generalizing symbols with
  | nil => rfl
  | cons fields objects ih =>
    rw [List.map_cons, List.mapM_cons] at h ⊢
    obtain ⟨⟨name, kind, container, place⟩, hsymbol, hrest⟩ := Option.bind_eq_some_iff.mp h
    obtain ⟨symbols, hsymbols, hsome⟩ := Option.bind_eq_some_iff.mp hrest
    obtain rfl := Option.some.inj hsome
    obtain ⟨⟨location, rfl⟩, hlater⟩ := List.forall_mem_cons.mp hfull
    have hflat : FlatSymbol.fromJson? (.object fields) = some ⟨name, kind, location, container⟩ :=
      FlatSymbol.fromJson?_eq_some_iff.mpr hsymbol
    obtain ⟨flats, hflats⟩ := Option.isSome_iff_exists.mp (ih hsymbols hlater)
    simp [hflat, hflats]

/-- A list has the form that may lack ranges only if a range is missing. -/
theorem exists_uriOnly_of_loose {symbols : List WorkspaceSymbol}
    (h : ofObjects? objects = some (.loose symbols)) :
    ∃ symbol ∈ symbols, ∃ uri, symbol.place = .uriOnly uri := by
  rw [ofObjects?_eq] at h
  cases hflat : (objects.map Json.object).mapM FlatSymbol.fromJson? with
  | some flats => simp [hflat] at h
  | none =>
    simp only [hflat] at h
    obtain ⟨found, hfound, hsame⟩ := Option.map_eq_some_iff.mp h
    obtain rfl := WorkspaceSymbols.loose.inj hsame
    by_contra hnone
    have hfull : ∀ symbol ∈ found, ∃ location, symbol.place = .full location := by
      intro symbol hsymbol
      cases hplace : symbol.place with
      | full location => exact ⟨location, rfl⟩
      | uriOnly uri => exact absurd ⟨symbol, hsymbol, uri, hplace⟩ hnone
    simpa [hflat] using isSome_mapM_flat hfound hfull

/-! ### The same element in other lists -/

variable {before after : List (List (String × Json))} {fields : List (String × Json)}
  {record : SymbolRecord}

theorem getElem?_of_recordsOf? (h : recordsOf? objects = some found) (i : Nat) :
    found[i]? = (objects[i]?).bind fun fields =>
      (WorkspaceSymbol.fromJson? (.object fields)).map WorkspaceSymbol.record := by
  rw [recordsOf?_eq_some_iff] at h
  induction h generalizing i with
  | nil => rfl
  | cons htells _ ih =>
    cases i with
    | zero => exact (WorkspaceSymbol.record_of_fromJson?_iff.mpr htells).symm
    | succ i => exact ih i

/-- An element more is a record more. -/
theorem recordsOf?_insert (h : recordsOf? (before ++ after) = some found)
    (htells : Tells fields record) :
    recordsOf? (before ++ fields :: after) = some (found.insertIdx before.length record) := by
  rw [recordsOf?_eq_some_iff] at h ⊢
  induction before generalizing found with
  | nil => exact .cons htells h
  | cons first before ih =>
    cases h with
    | cons hfirst hrest => exact .cons hfirst (ih hrest)

/-- An element less is a record less. -/
theorem recordsOf?_erase (h : recordsOf? (before ++ fields :: after) = some found) :
    recordsOf? (before ++ after) = some (found.eraseIdx before.length) := by
  rw [recordsOf?_eq_some_iff] at h ⊢
  induction before generalizing found with
  | nil =>
    cases h with
    | cons _ hrest => exact hrest
  | cons first before ih =>
    cases h with
    | cons hfirst hrest => exact .cons hfirst (ih hrest)

/-- **Each element has a record of its own.** A list of objects that can be decoded comes to one
    record for each object, in order, with what the object says: an object without a range stands at
    the start of its document. The list is decoded in the form without ranges only if a range is
    missing, and in both forms the same object comes to the same record, wherever it stands and
    whatever stands around it. An object more or less, with a range or without, is a record more or
    less, and the others stay as they are. -/
theorem records_elementwise :
    (∀ objects found, recordsOf? objects = some found ↔ List.Forall₂ Tells objects found) ∧
      (∀ objects symbols, ofObjects? objects = some (.loose symbols) →
        ∃ symbol ∈ symbols, ∃ uri, symbol.place = .uriOnly uri) ∧
      (∀ objects objects' form form' (i j : Nat), ofObjects? objects = some form →
        ofObjects? objects' = some form' →
          objects[i]? = objects'[j]? → form.records[i]? = form'.records[j]?) ∧
      (∀ before fields after record found, recordsOf? (before ++ after) = some found →
        Tells fields record →
          recordsOf? (before ++ fields :: after) =
            some (found.insertIdx before.length record)) ∧
      ∀ before fields after found, recordsOf? (before ++ fields :: after) = some found →
        recordsOf? (before ++ after) = some (found.eraseIdx before.length) := by
  refine ⟨fun _ _ => recordsOf?_eq_some_iff, fun _ _ => exists_uriOnly_of_loose, ?_,
    fun _ _ _ _ _ => recordsOf?_insert, fun _ _ _ _ => recordsOf?_erase⟩
  intro objects objects' form form' i j hform hform' hsame
  have hfound := getElem?_of_recordsOf? (congrArg (Option.map records) hform) i
  have hfound' := getElem?_of_recordsOf? (congrArg (Option.map records) hform') j
  rw [hfound, hfound', hsame]

/-- A symbol of which only the document is known, and one with a range. Together they are decoded in
    the form that may lack ranges, and the second alone in the other. -/
theorem records_bare_whole :
    let bare : List (String × Json) := [("name", .string "a"), ("kind", .nat 12),
      ("location", .object [("uri", .string "file:///a")])]
    let position : Json := .object [("line", .nat 1), ("character", .nat 2)]
    let whole : List (String × Json) := [("name", .string "b"), ("kind", .nat 5),
      ("location", .object [("uri", .string "file:///b"),
        ("range", .object [("start", position), ("end", position)])])]
    let first : SymbolRecord :=
      { name := "a", kind := .function, location := ⟨"file:///a", ⟨⟨0, 0⟩, ⟨0, 0⟩⟩⟩ }
    let second : SymbolRecord :=
      { name := "b", kind := .classType, location := ⟨"file:///b", ⟨⟨1, 2⟩, ⟨1, 2⟩⟩⟩ }
    recordsOf? [bare, whole] = some [first, second] ∧ recordsOf? [whole] = some [second] := by
  intro bare position whole first second
  have hboth : recordsOf? [bare, whole] = some [first, second] := by decide +kernel
  exact ⟨hboth, records_elementwise.2.2.2.2 [] bare [whole] _ hboth⟩

end WorkspaceSymbols
end SymbolSearch
