import Mathlib.Data.List.Nodup
import SymbolSearch.Json.Decode
import SymbolSearch.Proofs.Json.Spelling

/-!
# Decoders that undo encoders

An encoder puts the fields of an object in one order, and a text may have them in another. A decoder
undoes the encoder if it takes every such text for the value that was encoded.

* `Json.Encodes` — a tree stands for a value, whoever spells it.
* `Json.Offers` — what the record of an object offers a decoder.
* `Json.Encodes.object`, `Json.Encodes.ofPresent` — a structure is encoded if its fields are.
* `Json.RoundTrips` — what is sent as a text is received, and what was received can be sent on.
-/

namespace SymbolSearch.Json

variable {α β : Type} {depth : Nat}

/-- A tidy tree that a decoder takes for a value, however the fields in it are put. -/
structure Encodes (depth : Nat) (decode : Decoder α) (json : Json) (value : α) : Prop where
  tidy : json.IsTidy depth
  decode_eq : ∀ spelled, Spells spelled json → decode spelled = some value

namespace Encodes

variable {decode : Decoder α} {json : Json} {value : α}

theorem mono {depth' : Nat} (h : Encodes depth decode json value) (hle : depth ≤ depth') :
    Encodes depth' decode json value :=
  ⟨h.tidy.mono hle, h.decode_eq⟩

theorem decode_self (h : Encodes depth decode json value) : decode json = some value :=
  h.decode_eq json (Spells.of_isSorted h.tidy.sorted)

/-! ### Scalars -/

theorem string (text : String) : Encodes depth Json.string? (.string text) text where
  tidy := .string text
  decode_eq _ hspells := by rw [hspells.string_eq, string?]

theorem bool (flag : Bool) : Encodes depth Json.bool? (.bool flag) flag where
  tidy := .bool flag
  decode_eq _ hspells := by rw [hspells.bool_eq, bool?]

theorem natBelow?_nat {bound n : Nat} (h : n < bound) : (Json.nat n).natBelow? bound = some n := by
  rw [natBelow?, nat, int, int?, Option.bind_some,
    if_pos ⟨Int.natCast_nonneg n, Int.ofNat_lt.mpr h⟩, Int.toNat_natCast]

theorem uint16 (n : UInt16) : Encodes depth uint16? (.nat n.toNat) n where
  tidy := .nat (Nat.lt_trans n.toNat_lt (by decide))
  decode_eq _ hspells := by
    rw [hspells.number_eq, uint16?, ← int, ← nat, natBelow?_nat n.toNat_lt]
    exact congrArg some UInt16.ofNat_toNat

theorem uint32 (n : UInt32) : Encodes depth uint32? (.nat n.toNat) n where
  tidy := .nat (Nat.lt_trans n.toNat_lt (by decide))
  decode_eq _ hspells := by
    rw [hspells.number_eq, uint32?, ← int, ← nat, natBelow?_nat n.toNat_lt]
    exact congrArg some UInt32.ofNat_toNat

theorem uint64 (n : UInt64) : Encodes depth uint64? (.nat n.toNat) n where
  tidy := .nat n.toNat_lt
  decode_eq _ hspells := by
    rw [hspells.number_eq, uint64?, ← int, ← nat, natBelow?_nat n.toNat_lt]
    exact congrArg some UInt64.ofNat_toNat

theorem label {ofLabel? : String → Option α} {text : String} (h : ofLabel? text = some value) :
    Encodes depth (fun json => json.label?.bind ofLabel?) (.string text) value where
  tidy := .string text
  decode_eq _ hspells := by rw [hspells.string_eq, label?, Option.bind_some, h]

/-! ### Options and lists -/

theorem orNull (h : Encodes depth decode json value) (hne : json ≠ .null) :
    Encodes depth (orNull? decode) json (some value) where
  tidy := h.tidy
  decode_eq spelled hspells := by
    have hspelled : spelled ≠ .null := by
      rintro rfl
      exact hne hspells.canonical_eq.symm
    rw [orNull?.eq_2 decode spelled hspelled, h.decode_eq spelled hspells, Option.map_some]

theorem null : Encodes depth (orNull? decode) .null none where
  tidy := .null
  decode_eq _ hspells := by rw [hspells.null_eq, orNull?]

theorem listOf {encode : α → Json} {values : List α}
    (h : ∀ value ∈ values, Encodes depth decode (encode value) value) :
    Encodes (depth + 1) (listOf? decode) (.array (values.map encode)) values where
  tidy := .array fun json hmem => by
    obtain ⟨value, hvalue, rfl⟩ := List.mem_map.mp hmem
    exact (h value hvalue).tidy
  decode_eq spelled hspells := by
    obtain ⟨items, rfl, hitems⟩ := hspells.exists_array
    rw [List.forall₂_map_right_iff] at hitems
    clear hspells
    rw [listOf?]
    induction hitems with
    | nil => rfl
    | cons hitem hrest ih =>
      obtain ⟨hfirst, hvalues⟩ := List.forall_mem_cons.mp h
      rw [List.mapM_cons, hfirst.decode_eq _ hitem, ih hvalues]
      rfl

end Encodes

/-! ### Records -/

/-- The record of an object offers a decoder what spells the given values. -/
structure Offers (json : Json) (given : String → Option Json) (record : Record) : Prop where
  isObject : ∃ fields, json = .object fields
  record?_eq : ∀ names, json.record? names = some record
  objectRecord?_eq : ∀ names, json.objectRecord? names = some record
  wholeRecord?_eq : ∀ names, json.wholeRecord? names = some record
  rel : ∀ name, Option.Rel Spells (record.lookup name) (given name)

theorem atMostOnce_of_nodup {fields : List (String × Json)} (h : (fields.map Prod.fst).Nodup)
    (name : String) : atMostOnce name fields = true := by
  have hcount := List.nodup_iff_count_le_one.mp h name
  rw [List.count, List.countP_map, List.countP_eq_length_filter] at hcount
  exact decide_eq_true hcount

theorem Spells.exists_record {json : Json} {sorted : List (String × Json)}
    (h : Spells json (.object sorted)) (hreadable : json.isReadable = true) :
    ∃ record, Offers json (fun name => sorted.lookup name) record := by
  obtain ⟨fields, rfl, hnames, hlookup⟩ := h.exists_object
  have hobject (names : List String) :
      objectRecord? names (.object fields) = some ⟨fun name => fields.lookup name, false⟩ :=
    if_pos (List.all_eq_true.mpr fun name _ => atMostOnce_of_nodup hnames name)
  refine ⟨_, ⟨fields, rfl⟩, hobject, hobject, fun names => ?_, hlookup⟩
  rw [wholeRecord?, if_pos hreadable, hobject]

namespace Offers

variable {decode : Decoder α} {json value : Json} {given : String → Option Json} {record : Record}
  {a : α}

theorem required (h : Offers json given record) (name : String)
    (hvalue : Encodes depth decode value a) (hgiven : given name = some value) :
    record.required name decode = some a := by
  have hrel := h.rel name
  rw [hgiven] at hrel
  cases hfound : record.lookup name with
  | none =>
    rw [hfound] at hrel
    cases hrel
  | some spelled =>
    rw [hfound] at hrel
    cases hrel with
    | some hspells => rw [Record.required, hfound, Option.bind_some, hvalue.decode_eq _ hspells]

theorem defaulted (h : Offers json given record) (name : String) (usual : α)
    (hvalue : Encodes depth decode value a) (hgiven : given name = some value) :
    record.defaulted name usual decode = some a := by
  have hrequired := h.required name hvalue hgiven
  rw [Record.required] at hrequired
  obtain ⟨spelled, hfound, hdecode⟩ := Option.bind_eq_some_iff.mp hrequired
  rw [Record.defaulted, hfound]
  exact hdecode

theorem defaulted_none (h : Offers json given record) (name : String) (usual : α)
    (hgiven : given name = none) : record.defaulted name usual decode = some usual := by
  have hrel := h.rel name
  rw [hgiven] at hrel
  cases hfound : record.lookup name with
  | none => rw [Record.defaulted, hfound]
  | some spelled =>
    rw [hfound] at hrel
    cases hrel

/-- A text that is left out if there is none. -/
theorem text (h : Offers json given record) (name : String) (text : Option String)
    (hgiven : given name = text.map .string) :
    record.defaulted name none (orNull? string?) = some text := by
  cases text with
  | none => exact h.defaulted_none name none hgiven
  | some text =>
    have hvalue : Encodes 0 _ _ _ := (Encodes.string text).orNull nofun
    exact h.defaulted name none hvalue hgiven

end Offers

/-! ### Structures -/

/-- Those fields of a list that are present. -/
def present (fields : List (String × Option Json)) : List (String × Json) :=
  fields.filterMap fun field => field.2.map fun value => (field.1, value)

theorem nodup_present {fields : List (String × Option Json)}
    (hnames : (fields.map Prod.fst).Nodup) : ((present fields).map Prod.fst).Nodup := by
  refine List.pairwise_map.mpr (List.pairwise_filterMap.mpr ?_)
  refine (List.pairwise_map.mp hnames).imp fun hne first hfirst second hsecond => ?_
  obtain ⟨-, -, rfl⟩ := Option.map_eq_some_iff.mp hfirst
  obtain ⟨-, -, rfl⟩ := Option.map_eq_some_iff.mp hsecond
  exact hne

theorem lookup_present {fields : List (String × Option Json)}
    (hnames : (fields.map Prod.fst).Nodup) (name : String) :
    (present fields).lookup name = (fields.lookup name).join := by
  induction fields with
  | nil => rfl
  | cons field rest ih =>
    obtain ⟨hfirst, hrest⟩ := List.nodup_cons.mp hnames
    obtain ⟨first, given⟩ := field
    have ih := ih hrest
    rw [lookup_cons]
    cases given with
    | none =>
      split
      next hname =>
        -- An absent field is not found again further back, where its name does not occur.
        subst hname
        rw [lookup_eq_none hfirst] at ih
        exact ih
      · exact ih
    | some value =>
      have hpresent : present ((first, some value) :: rest) = (first, value) :: present rest := rfl
      rw [hpresent, lookup_cons, ih]
      split <;> rfl

/-- Fields are in order if their names are. -/
theorem Ascending.of_names {fields : List (String × Json)} (names : List String)
    (hnames : names.Pairwise (· < ·)) (hfields : fields.map Prod.fst = names) :
    Ascending fields := by
  subst hfields
  exact List.pairwise_map.mp hnames

/-- An object of distinct fields has each of them where it is looked up. -/
theorem exists_ofFields_lookup {fields : List (String × Json)}
    (hnames : (fields.map Prod.fst).Nodup) :
    ∃ sorted, ofFields fields = .object sorted ∧ Ascending sorted ∧
      ∀ name, sorted.lookup name = fields.lookup name := by
  obtain ⟨sorted, hsorted, hascending, -⟩ := exists_ofFields fields
  refine ⟨sorted, hsorted, hascending, fun name => ?_⟩
  rw [← Json.object.inj hsorted, lookup_foldl_insertField hnames]
  exact Option.or_none

namespace IsTidy

theorem ofFields {fields : List (String × Json)} (h : ∀ field ∈ fields, field.2.IsTidy depth) :
    (Json.ofFields fields).IsTidy (depth + 1) := by
  obtain ⟨sorted, hsorted, hascending, hmem⟩ := exists_ofFields fields
  rw [hsorted]
  exact .object hascending fun field hfield => h field (hmem field hfield)

theorem ofPresent {fields : List (String × Option Json)}
    (h : ∀ field ∈ fields, ∀ json ∈ field.2, json.IsTidy depth) :
    (Json.ofPresent fields).IsTidy (depth + 1) := by
  refine .ofFields fun field hfield => ?_
  obtain ⟨given, hgiven, hpresent⟩ := List.mem_filterMap.mp hfield
  obtain ⟨json, hjson, rfl⟩ := Option.map_eq_some_iff.mp hpresent
  exact h given hgiven json hjson

end IsTidy

namespace Encodes

variable {decode : Decoder α} {value : α}

/-- A tidy object is decoded through its record. -/
theorem of_record {fields : List (String × Json)} (htidy : (Json.object fields).IsTidy depth)
    (hdecode : ∀ json record, Offers json (fun name => fields.lookup name) record →
      decode json = some value) : Encodes depth decode (.object fields) value where
  tidy := htidy
  decode_eq json hspells := by
    obtain ⟨hintegral, -⟩ := htidy.of_spells hspells
    obtain ⟨record, hoffers⟩ := hspells.exists_record (isReadable_of_isIntegral hintegral)
    exact hdecode json record hoffers

/-- An object is decoded through its record. -/
theorem object {fields : List (String × Json)} (hnames : Ascending fields)
    (hfields : ∀ field ∈ fields, field.2.IsTidy depth)
    (hdecode : ∀ json record, Offers json (fun name => fields.lookup name) record →
      decode json = some value) : Encodes (depth + 1) decode (.object fields) value :=
  of_record (.object hnames hfields) hdecode

/-- An object of those fields that are present is decoded through its record. -/
theorem ofPresent {fields : List (String × Option Json)} (hnames : (fields.map Prod.fst).Nodup)
    (hfields : ∀ field ∈ fields, ∀ json ∈ field.2, json.IsTidy depth)
    (hdecode : ∀ json record, Offers json (fun name => (fields.lookup name).join) record →
      decode json = some value) : Encodes (depth + 1) decode (.ofPresent fields) value := by
  have htidy := IsTidy.ofPresent hfields
  obtain ⟨sorted, hsorted, -, hlookup⟩ := exists_ofFields_lookup (nodup_present hnames)
  have hobject : Json.ofPresent fields = .object sorted := hsorted
  simp only [← lookup_present hnames, ← hlookup] at hdecode
  rw [hobject] at htidy ⊢
  exact of_record htidy hdecode

end Encodes

/-! ### Texts -/

/-- What is encoded and sent as a text, in whatever order of fields, is received as it was; and
    what was received from any text is received again when it is sent on. -/
structure RoundTrips (valid : α → Prop) (decode : Decoder α) (encode : α → Json) : Prop where
  sent : ∀ value, valid value → ∀ json, Spells json (encode value) →
    (readTolerant json.compact).bind decode = some value
  again : ∀ text value, (readTolerant text).bind decode = some value →
    valid value ∧ (readTolerant (encode value).compact).bind decode = some value

theorem RoundTrips.of_encodes {decode : Decoder α} {encode : α → Json} {valid : α → Prop}
    (h : ∀ value, valid value → Encodes maxDepth decode (encode value) value)
    (hvalid : ∀ json value, decode json = some value → valid value) :
    RoundTrips valid decode encode where
  sent value hvalue json hspells := by
    have hencodes := h value hvalue
    rw [hencodes.tidy.readTolerant_compact hspells, Option.bind_some,
      hencodes.decode_eq json hspells]
  again text value hdecode := by
    obtain ⟨json, -, hjson⟩ := Option.bind_eq_some_iff.mp hdecode
    have hencodes := h value (hvalid json value hjson)
    have hself := Spells.of_isSorted hencodes.tidy.sorted
    refine ⟨hvalid json value hjson, ?_⟩
    rw [hencodes.tidy.readTolerant_compact hself, Option.bind_some,
      hencodes.decode_eq _ hself]

theorem RoundTrips.of_forall_encodes {decode : Decoder α} {encode : α → Json}
    (h : ∀ value, Encodes maxDepth decode (encode value) value) :
    RoundTrips (fun _ => True) decode encode :=
  .of_encodes (fun value _ => h value) fun _ _ _ => trivial

end SymbolSearch.Json
