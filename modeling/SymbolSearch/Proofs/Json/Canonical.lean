import Mathlib.Data.List.Induction
import SymbolSearch.Json.Basic

/-!
# Canonical values

A text may give the fields of an object in any order and repeat a name; a value has each name
once, and the order says nothing.  `Json.canonical` picks one tree for each value.

* `Json.memberInduction` — induction over a tree, with the members of an array or object at once.
* `Json.everyPart` — whether a property holds of every part of a tree.
* `Json.isSorted` — whether the names of every object ascend, and so none is repeated.
* `Json.canonical_eq_self_iff` — these are the trees that `Json.canonical` leaves as they are, and
  it makes every tree one of them.
-/

namespace SymbolSearch.Json

/-! ### Parts of a tree -/

/-- What a tree takes over from its members holds of every tree. -/
@[elab_as_elim, induction_eliminator]
theorem memberInduction {motive : Json → Prop} (null : motive .null)
    (bool : ∀ value, motive (.bool value)) (number : ∀ value, motive (.number value))
    (string : ∀ text, motive (.string text))
    (array : ∀ items, (∀ item ∈ items, motive item) → motive (.array items))
    (object : ∀ fields, (∀ field ∈ fields, motive field.2) → motive (.object fields))
    (json : Json) : motive json :=
  @Json.rec motive (fun items => ∀ item ∈ items, motive item)
    (fun fields => ∀ field ∈ fields, motive field.2) (fun field => motive field.2)
    null bool number string array object
    (fun _ h => absurd h List.not_mem_nil)
    (fun _ _ hfirst hrest => List.forall_mem_cons.mpr ⟨hfirst, hrest⟩)
    (fun _ h => absurd h List.not_mem_nil)
    (fun _ _ hfirst hrest => List.forall_mem_cons.mpr ⟨hfirst, hrest⟩)
    (fun _ _ hvalue => hvalue) json

mutual

/-- Whether a property holds of every part of a tree, the tree itself included. -/
def everyPart (p : Json → Bool) : Json → Bool
  | .array items => p (.array items) && everyItem p items
  | .object fields => p (.object fields) && everyField p fields
  | json => p json

/-- Whether a property holds of every part of some items. -/
def everyItem (p : Json → Bool) : List Json → Bool
  | [] => true
  | item :: rest => everyPart p item && everyItem p rest

/-- Whether a property holds of every part of the values of some fields. -/
def everyField (p : Json → Bool) : List (String × Json) → Bool
  | [] => true
  | (_, value) :: rest => everyPart p value && everyField p rest

end

section EveryPart

variable {p : Json → Bool} {items : List Json} {fields : List (String × Json)}

theorem everyItem_iff : everyItem p items = true ↔ ∀ item ∈ items, everyPart p item = true := by
  induction items with
  | nil => simp [everyItem]
  | cons item rest ih => simp [everyItem, ih]

theorem everyField_iff :
    everyField p fields = true ↔ ∀ field ∈ fields, everyPart p field.2 = true := by
  induction fields with
  | nil => simp [everyField]
  | cons field rest ih => simp [everyField, ih]

@[simp] theorem everyPart_array :
    everyPart p (.array items) = true ↔
      p (.array items) = true ∧ ∀ item ∈ items, everyPart p item = true := by
  rw [everyPart, Bool.and_eq_true, everyItem_iff]

@[simp] theorem everyPart_object :
    everyPart p (.object fields) = true ↔
      p (.object fields) = true ∧ ∀ field ∈ fields, everyPart p field.2 = true := by
  rw [everyPart, Bool.and_eq_true, everyField_iff]

end EveryPart

/-! ### Fields in order -/

/-- The names of the fields ascend. -/
def Ascending (fields : List (String × Json)) : Prop := fields.Pairwise (·.1 < ·.1)

instance (fields : List (String × Json)) : Decidable (Ascending fields) :=
  inferInstanceAs (Decidable (fields.Pairwise (·.1 < ·.1)))

variable {name : String} {value : Json} {fields : List (String × Json)}

theorem insertField_of_forall_lt (h : ∀ field ∈ fields, field.1 < name) :
    insertField name value fields = fields ++ [(name, value)] := by
  induction fields with
  | nil => rfl
  | cons field rest ih =>
    obtain ⟨hfirst, hrest⟩ := List.forall_mem_cons.mp h
    have hne : name ≠ field.1 := by
      intro heq
      exact String.lt_irrefl _ (heq ▸ hfirst)
    rw [insertField, if_neg (String.lt_asymm hfirst), if_neg hne, ih hrest, List.cons_append]

theorem mem_of_mem_insertField {field : String × Json}
    (h : field ∈ insertField name value fields) : field = (name, value) ∨ field ∈ fields := by
  -- The field goes in front, takes the place of the first one, or goes further back.
  fun_induction insertField name value fields with
  | case1 => simpa using h
  | case2 other old rest hlt => simpa using h
  | case3 old rest hlt =>
    rcases List.mem_cons.mp h with rfl | h
    · exact .inl rfl
    · exact .inr (List.mem_cons_of_mem _ h)
  | case4 other old rest hlt hne ih =>
    rcases List.mem_cons.mp h with rfl | h
    · exact .inr List.mem_cons_self
    · exact (ih h).imp_right (List.mem_cons_of_mem _)

theorem ascending_insertField (h : Ascending fields) :
    Ascending (insertField name value fields) := by
  fun_induction insertField name value fields with
  | case1 => exact List.pairwise_singleton _ _
  | case2 other old rest hlt =>
    have hrest := (List.pairwise_cons.mp h).1
    refine List.pairwise_cons.mpr ⟨List.forall_mem_cons.mpr ⟨hlt, ?_⟩, h⟩
    intro field hfield
    exact String.lt_trans hlt (hrest field hfield)
  | case3 old rest hlt =>
    exact List.pairwise_cons.mpr (List.pairwise_cons.mp h)
  | case4 other old rest hlt hne ih =>
    obtain ⟨hother, hrest⟩ := List.pairwise_cons.mp h
    refine List.pairwise_cons.mpr ⟨?_, ih hrest⟩
    intro field hfield
    rcases mem_of_mem_insertField hfield with rfl | hfield
    · exact Std.lt_of_le_of_ne (String.not_lt.mp hlt) (Ne.symm hne)
    · exact hother field hfield

/-- Fields that come in order are taken over one behind the other. -/
theorem foldl_insertField (front : List (String × Json)) (h : Ascending (front ++ fields)) :
    fields.foldl (fun sorted field => insertField field.1 field.2 sorted) front =
      front ++ fields := by
  induction fields generalizing front with
  | nil => simp
  | cons field rest ih =>
    have hlast : ∀ earlier ∈ front, earlier.1 < field.1 := by
      intro earlier hearlier
      exact (List.pairwise_append.mp h).2.2 earlier hearlier field List.mem_cons_self
    rw [List.foldl_cons, insertField_of_forall_lt hlast, ih _ (by simpa using h)]
    simp

theorem ofFields_of_ascending (h : Ascending fields) : ofFields fields = .object fields := by
  rw [ofFields, foldl_insertField [] h, List.nil_append]

/-- Whatever the fields, the object made of them has its fields in order, and no others. -/
theorem exists_ofFields (fields : List (String × Json)) :
    ∃ sorted, ofFields fields = .object sorted ∧ Ascending sorted ∧
      ∀ field ∈ sorted, field ∈ fields := by
  refine ⟨_, rfl, ?_⟩
  -- What is sorted so far is in order, and comes from the fields taken so far.
  induction fields using List.reverseRecOn with
  | nil => exact ⟨List.Pairwise.nil, fun _ h => h⟩
  | append_singleton fields last ih =>
    rw [List.foldl_append, List.foldl_cons, List.foldl_nil]
    refine ⟨ascending_insertField ih.1, ?_⟩
    intro field hfield
    rcases mem_of_mem_insertField hfield with rfl | hfield
    · simp
    · exact List.mem_append_left _ (ih.2 field hfield)

/-! ### Canonical trees -/

/-- Whether the names ascend, if the tree is an object. -/
def namesAscend : Json → Bool
  | .object fields => decide (Ascending fields)
  | _ => true

/-- Whether the names of every object in the tree ascend. -/
def isSorted (json : Json) : Bool := json.everyPart namesAscend

theorem canonicalItems_eq_map (items : List Json) : canonicalItems items = items.map canonical := by
  induction items with
  | nil => rfl
  | cons item rest ih => rw [canonicalItems, ih, List.map_cons]

theorem canonicalFields_eq_map (fields : List (String × Json)) :
    canonicalFields fields = fields.map fun field => (field.1, field.2.canonical) := by
  induction fields with
  | nil => rfl
  | cons field rest ih => rw [canonicalFields, ih, List.map_cons]

theorem canonical_eq_self {json : Json} (h : json.isSorted = true) : json.canonical = json := by
  induction json with
  | null | bool | number | string => rfl
  | array items ih =>
    obtain ⟨-, hitems⟩ := everyPart_array.mp h
    have hcanonical : canonicalItems items = items := calc
      canonicalItems items = items.map canonical := canonicalItems_eq_map items
      _ = items.map id := List.map_congr_left fun item hitem => ih item hitem (hitems item hitem)
      _ = items := List.map_id items
    rw [canonical, hcanonical]
  | object fields ih =>
    obtain ⟨hnames, hvalues⟩ := everyPart_object.mp h
    have hvalue : ∀ field ∈ fields, (field.1, field.2.canonical) = field := by
      intro field hfield
      rw [ih field hfield (hvalues field hfield)]
    have hfields : canonicalFields fields = fields := calc
      canonicalFields fields = fields.map fun field => (field.1, field.2.canonical) :=
        canonicalFields_eq_map fields
      _ = fields.map id := List.map_congr_left hvalue
      _ = fields := List.map_id fields
    rw [canonical, hfields, ofFields_of_ascending (of_decide_eq_true hnames)]

theorem isSorted_canonical (json : Json) : json.canonical.isSorted = true := by
  induction json with
  | null | bool | number | string => rfl
  | array items ih =>
    rw [canonical, canonicalItems_eq_map]
    exact everyPart_array.mpr ⟨rfl, List.forall_mem_map.mpr ih⟩
  | object fields ih =>
    obtain ⟨sorted, hsorted, hascending, hmem⟩ := exists_ofFields (canonicalFields fields)
    rw [canonical, hsorted]
    refine everyPart_object.mpr ⟨decide_eq_true hascending, ?_⟩
    intro field hfield
    have hfield := hmem field hfield
    rw [canonicalFields_eq_map] at hfield
    obtain ⟨source, hsource, rfl⟩ := List.mem_map.mp hfield
    exact ih source hsource

/-- **One tree for each value.**  The trees whose names ascend are those that are canonical. -/
theorem canonical_eq_self_iff {json : Json} : json.canonical = json ↔ json.isSorted = true := by
  constructor
  · intro h
    rw [← h]
    exact isSorted_canonical json
  · exact canonical_eq_self

@[simp] theorem canonical_canonical (json : Json) : json.canonical.canonical = json.canonical :=
  canonical_eq_self (isSorted_canonical json)

end SymbolSearch.Json
