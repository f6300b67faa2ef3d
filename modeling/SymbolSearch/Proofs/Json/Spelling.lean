import Mathlib.Data.List.Forall2
import SymbolSearch.Json.Shape
import SymbolSearch.Proofs.Json.RoundTrip

/-!
# The order of fields

Whoever sends a value puts the fields of its objects in some order, and says nothing by it.

* `Json.isPlain` — whether no object in a tree repeats a name.
* `Json.Spells` — whether a tree is another one but for the order of fields, and plain.
* `Json.Spells.exists_object` — what such a tree has under the names of an object.
* `Json.IsTidy` — whether a tree is sorted, with integers for numbers and only so many levels.
* `Json.IsTidy.readTolerant_compact` — the text of whatever spells such a tree is read as it was
  written.
-/

namespace SymbolSearch.Json

/-! ### Names that are not repeated -/

/-- Whether the tree, if it is an object, repeats no name. -/
def namesDiffer : Json → Bool
  | .object fields => decide (fields.map Prod.fst).Nodup
  | _ => true

/-- Whether no object in the tree repeats a name. -/
def isPlain (json : Json) : Bool := json.everyPart namesDiffer

variable {name : String} {value : Json} {fields sorted : List (String × Json)}

@[simp] theorem lookup_cons {α : Type} (field : String × α) (fields : List (String × α))
    (other : String) : (field :: fields).lookup other =
      if other = field.1 then some field.2 else fields.lookup other := by
  rw [List.lookup_cons]
  by_cases h : other = field.1
  · simp [h]
  · rw [beq_eq_false_iff_ne.mpr h, if_neg h]

theorem lookup_insertField (other : String) :
    (insertField name value fields).lookup other =
      if other = name then some value else fields.lookup other := by
  fun_induction insertField name value fields with
  | case1 => rw [lookup_cons]
  | case2 first old rest hlt => rw [lookup_cons]
  | case3 old rest hlt =>
    rw [lookup_cons, lookup_cons]
    split <;> rfl
  | case4 first old rest hlt hne ih =>
    rw [lookup_cons, ih, lookup_cons]
    by_cases hfirst : other = first
    · subst hfirst
      rw [if_pos rfl, if_pos rfl, if_neg fun h => hne h.symm]
    · rw [if_neg hfirst, if_neg hfirst]

theorem lookup_eq_none {α : Type} {fields : List (String × α)} (h : name ∉ fields.map Prod.fst) :
    fields.lookup name = none := by
  induction fields with
  | nil => rfl
  | cons field rest ih =>
    rw [List.map_cons, List.mem_cons, not_or] at h
    rw [lookup_cons, if_neg h.1, ih h.2]

/-- What is put in order is found under the same names. -/
theorem lookup_foldl_insertField (hnames : (fields.map Prod.fst).Nodup) (other : String) :
    (fields.foldl (fun sorted field => insertField field.1 field.2 sorted) sorted).lookup other =
      (fields.lookup other).or (sorted.lookup other) := by
  induction fields generalizing sorted with
  | nil => rfl
  | cons field rest ih =>
    obtain ⟨hfirst, hrest⟩ := List.nodup_cons.mp hnames
    rw [List.foldl_cons, ih hrest, lookup_insertField, lookup_cons]
    by_cases hother : other = field.1
    · subst hother
      rw [lookup_eq_none hfirst, if_pos rfl, if_pos rfl, Option.none_or, Option.some_or]
    · rw [if_neg hother, if_neg hother]

theorem lookup_canonicalFields (fields : List (String × Json)) (other : String) :
    (canonicalFields fields).lookup other = (fields.lookup other).map canonical := by
  induction fields with
  | nil => rfl
  | cons field rest ih =>
    rw [canonicalFields, lookup_cons, lookup_cons, ih]
    split <;> rfl

/-- What stands under a name that is not repeated is found. -/
theorem lookup_of_mem (hnames : (fields.map Prod.fst).Nodup) (h : (name, value) ∈ fields) :
    fields.lookup name = some value := by
  induction fields with
  | nil => cases h
  | cons field rest ih =>
    obtain ⟨hfirst, hrest⟩ := List.nodup_cons.mp hnames
    rw [lookup_cons]
    rcases List.mem_cons.mp h with rfl | hmem
    · rw [if_pos rfl]
    · have hne : name ≠ field.1 := by
        rintro rfl
        exact hfirst (List.mem_map.mpr ⟨_, hmem, rfl⟩)
      rw [if_neg hne, ih hrest hmem]

theorem mem_of_lookup (h : fields.lookup name = some value) : (name, value) ∈ fields := by
  induction fields with
  | nil => cases h
  | cons field rest ih =>
    rw [lookup_cons] at h
    split at h
    next hname =>
      obtain rfl := Option.some.inj h
      exact hname ▸ List.mem_cons_self
    · exact List.mem_cons_of_mem _ (ih h)

/-! ### Trees but for the order of fields -/

/-- Whether a tree is another one but for the order of fields, and repeats no name. -/
structure Spells (json value : Json) : Prop where
  plain : json.isPlain = true
  canonical_eq : json.canonical = value

namespace Spells

variable {json item : Json} {items : List Json}

/-- What is sorted spells itself. -/
theorem of_isSorted (h : value.isSorted = true) : Spells value value where
  canonical_eq := canonical_eq_self h
  plain := by
    induction value with
    | null | bool | number | string => rfl
    | array items ih =>
      obtain ⟨-, hitems⟩ := everyPart_array.mp h
      exact everyPart_array.mpr ⟨rfl, fun item hmem => ih item hmem (hitems item hmem)⟩
    | object fields ih =>
      obtain ⟨hnames, hvalues⟩ := everyPart_object.mp h
      refine everyPart_object.mpr ⟨decide_eq_true ?_, fun field hmem =>
        ih field hmem (hvalues field hmem)⟩
      have hascending : Ascending fields := of_decide_eq_true hnames
      refine List.pairwise_map.mpr (hascending.imp fun hlt heq => ?_)
      exact String.lt_irrefl _ (heq ▸ hlt)

theorem string_eq {text : String} (h : Spells json (.string text)) : json = .string text := by
  obtain ⟨-, h⟩ := h
  cases json with
  | object fields => cases h
  | array items => cases h
  | _ => exact h

theorem number_eq {number : JsonNumber} (h : Spells json (.number number)) :
    json = .number number := by
  obtain ⟨-, h⟩ := h
  cases json with
  | object fields => cases h
  | array items => cases h
  | _ => exact h

theorem bool_eq {flag : Bool} (h : Spells json (.bool flag)) : json = .bool flag := by
  obtain ⟨-, h⟩ := h
  cases json with
  | object fields => cases h
  | array items => cases h
  | _ => exact h

theorem null_eq (h : Spells json .null) : json = .null := by
  obtain ⟨-, h⟩ := h
  cases json with
  | object fields => cases h
  | array items => cases h
  | _ => exact h

theorem exists_array (h : Spells json (.array items)) :
    ∃ spelled, json = .array spelled ∧ List.Forall₂ Spells spelled items := by
  obtain ⟨hplain, h⟩ := h
  cases json with
  | array spelled =>
    obtain ⟨-, hitems⟩ := everyPart_array.mp hplain
    rw [canonical, canonicalItems_eq_map] at h
    refine ⟨spelled, rfl, ?_⟩
    rw [← Json.array.inj h, List.forall₂_map_right_iff, List.forall₂_same]
    exact fun item hmem => ⟨hitems item hmem, rfl⟩
  | object fields => cases h
  | _ => cases h

/-- What spells an object has the same names, and spells under each what stands there. -/
theorem exists_object (h : Spells json (.object sorted)) :
    ∃ fields, json = .object fields ∧ (fields.map Prod.fst).Nodup ∧
      ∀ name, Option.Rel Spells (fields.lookup name) (sorted.lookup name) := by
  obtain ⟨hplain, h⟩ := h
  cases json with
  | array items => cases h
  | object fields =>
    obtain ⟨hnames, hvalues⟩ := everyPart_object.mp hplain
    have hnames : (fields.map Prod.fst).Nodup := of_decide_eq_true hnames
    refine ⟨fields, rfl, hnames, fun name => ?_⟩
    have hcanonical : (canonicalFields fields).map Prod.fst = fields.map Prod.fst := by
      rw [canonicalFields_eq_map, List.map_map]
      rfl
    have hsorted : sorted.lookup name = (fields.lookup name).map canonical := by
      rw [canonical, ofFields] at h
      rw [← Json.object.inj h, lookup_foldl_insertField (hcanonical ▸ hnames),
        lookup_canonicalFields]
      exact Option.or_none
    rw [hsorted]
    cases hfound : fields.lookup name with
    | none => exact .none
    | some value => exact .some ⟨hvalues _ (mem_of_lookup hfound), rfl⟩
  | _ => cases h

end Spells

/-! ### Trees that a reader takes -/

theorem areReadable_iff {items : List Json} :
    areReadable items = true ↔ ∀ item ∈ items, item.isReadable = true := by
  induction items with
  | nil => simp [areReadable]
  | cons item rest ih => simp [areReadable, ih]

theorem haveReadable_iff :
    haveReadable fields = true ↔ ∀ field ∈ fields, field.2.isReadable = true := by
  induction fields with
  | nil => simp [haveReadable]
  | cons field rest ih => simp [haveReadable, ih]

theorem itemsDepth_le_iff {items : List Json} {depth : Nat} :
    itemsDepth items ≤ depth ↔ ∀ item ∈ items, item.depth ≤ depth := by
  induction items with
  | nil => simp [itemsDepth]
  | cons item rest ih => rw [itemsDepth, Nat.max_le, ih, List.forall_mem_cons]

theorem fieldsDepth_le_iff {depth : Nat} :
    fieldsDepth fields ≤ depth ↔ ∀ field ∈ fields, field.2.depth ≤ depth := by
  induction fields with
  | nil => simp [fieldsDepth]
  | cons field rest ih => rw [fieldsDepth, Nat.max_le, ih, List.forall_mem_cons]

/-- The placeholder of what cannot be read is no integer. -/
theorem isReadable_of_isIntegral {json : Json} (h : json.isIntegral = true) :
    json.isReadable = true := by
  induction json with
  | null | bool | string => rfl
  | number value =>
    cases value with
    | int value => rfl
    | double bits => exact absurd h nofun
  | array items ih =>
    obtain ⟨-, hitems⟩ := everyPart_array.mp h
    exact areReadable_iff.mpr fun item hmem => ih item hmem (hitems item hmem)
  | object fields ih =>
    obtain ⟨-, hvalues⟩ := everyPart_object.mp h
    exact haveReadable_iff.mpr fun field hmem => ih field hmem (hvalues field hmem)

/-- Whether a tree is sorted, with integers for numbers, and has at most so many levels. -/
structure IsTidy (depth : Nat) (json : Json) : Prop where
  sorted : json.isSorted = true
  integral : json.isIntegral = true
  depth_le : json.depth ≤ depth

namespace IsTidy

variable {json : Json} {items : List Json} {depth : Nat}

theorem mono {depth' : Nat} (h : json.IsTidy depth) (hle : depth ≤ depth') :
    json.IsTidy depth' :=
  ⟨h.sorted, h.integral, Nat.le_trans h.depth_le hle⟩

theorem string (text : String) : (Json.string text).IsTidy depth := ⟨rfl, rfl, Nat.zero_le _⟩

theorem bool (flag : Bool) : (Json.bool flag).IsTidy depth := ⟨rfl, rfl, Nat.zero_le _⟩

theorem null : Json.null.IsTidy depth := ⟨rfl, rfl, Nat.zero_le _⟩

theorem int {value : Int} (h : (JsonNumber.int value).isWideInt = true) :
    (Json.int value).IsTidy depth where
  sorted := rfl
  integral := by rwa [isIntegral, Json.int, everyPart, isWideNumber] <;> rintro _ ⟨⟩
  depth_le := Nat.zero_le _

theorem nat {n : Nat} (h : n < UInt64.size) : (Json.nat n).IsTidy depth := by
  have hsize : (n : Int) < UInt64.size := Int.ofNat_lt.mpr h
  refine .int ?_
  rw [JsonNumber.isWideInt, decide_eq_true_eq]
  omega

theorem array (h : ∀ item ∈ items, item.IsTidy depth) :
    (Json.array items).IsTidy (depth + 1) where
  sorted := everyPart_array.mpr ⟨rfl, fun item hmem => (h item hmem).sorted⟩
  integral := everyPart_array.mpr ⟨rfl, fun item hmem => (h item hmem).integral⟩
  depth_le := Nat.succ_le_succ (itemsDepth_le_iff.mpr fun item hmem => (h item hmem).depth_le)

theorem object (hnames : Ascending fields) (h : ∀ field ∈ fields, field.2.IsTidy depth) :
    (Json.object fields).IsTidy (depth + 1) where
  sorted := everyPart_object.mpr ⟨decide_eq_true hnames, fun field hmem => (h field hmem).sorted⟩
  integral := everyPart_object.mpr ⟨rfl, fun field hmem => (h field hmem).integral⟩
  depth_le := Nat.succ_le_succ (fieldsDepth_le_iff.mpr fun field hmem => (h field hmem).depth_le)

/-- Whoever puts the fields in another order gets a tree that a reader takes as well. -/
theorem of_spells {value : Json} (h : value.IsTidy depth) (hspells : Spells json value) :
    json.isIntegral = true ∧ json.depth ≤ depth := by
  obtain ⟨hplain, rfl⟩ := hspells
  induction json generalizing depth with
  | null | bool | number | string => exact ⟨h.integral, h.depth_le⟩
  | array items ih =>
    obtain ⟨-, hitems⟩ := everyPart_array.mp hplain
    rw [canonical, canonicalItems_eq_map] at h
    obtain ⟨depth, rfl⟩ := Nat.exists_eq_add_one_of_ne_zero (Nat.ne_zero_of_lt h.depth_le)
    have hmembers (item : Json) (hmem : item ∈ items) :
        item.isIntegral = true ∧ item.depth ≤ depth := by
      have hcanonical : item.canonical ∈ items.map canonical := List.mem_map_of_mem hmem
      exact ih item hmem (hitems item hmem)
        ⟨(everyPart_array.mp h.sorted).2 _ hcanonical,
          (everyPart_array.mp h.integral).2 _ hcanonical,
          itemsDepth_le_iff.mp (Nat.le_of_succ_le_succ h.depth_le) _ hcanonical⟩
    exact ⟨everyPart_array.mpr ⟨rfl, fun item hmem => (hmembers item hmem).1⟩,
      Nat.succ_le_succ (itemsDepth_le_iff.mpr fun item hmem => (hmembers item hmem).2)⟩
  | object fields ih =>
    obtain ⟨sorted, hsorted, -⟩ := exists_ofFields (canonicalFields fields)
    have hspells : Spells (.object fields) (.object sorted) := ⟨hplain, hsorted⟩
    rw [canonical, hsorted] at h
    obtain ⟨found, hfound, hnames, hlookup⟩ := hspells.exists_object
    obtain rfl := Json.object.inj hfound
    obtain ⟨depth, rfl⟩ := Nat.exists_eq_add_one_of_ne_zero (Nat.ne_zero_of_lt h.depth_le)
    have hmembers (field : String × Json) (hmem : field ∈ fields) :
        field.2.isIntegral = true ∧ field.2.depth ≤ depth := by
      have hfield := hlookup field.1
      rw [lookup_of_mem hnames hmem] at hfield
      cases hvalue : sorted.lookup field.1 with
      | none =>
        rw [hvalue] at hfield
        cases hfield
      | some value =>
        rw [hvalue] at hfield
        cases hfield with
        | some hspells =>
          have hmem_sorted := mem_of_lookup hvalue
          refine ih field hmem hspells.plain (hspells.canonical_eq.symm ▸ ?_)
          exact ⟨(everyPart_object.mp h.sorted).2 _ hmem_sorted,
            (everyPart_object.mp h.integral).2 _ hmem_sorted,
            fieldsDepth_le_iff.mp (Nat.le_of_succ_le_succ h.depth_le) _ hmem_sorted⟩
    exact ⟨everyPart_object.mpr ⟨rfl, fun field hmem => (hmembers field hmem).1⟩,
      Nat.succ_le_succ (fieldsDepth_le_iff.mpr fun field hmem => (hmembers field hmem).2)⟩

end IsTidy

/-! ### Texts -/

section Around

variable {readItem readItem' : List Char → Reading Json} {limit depth : Nat} {cs : List Char}
  {found : Json × List Char}

/-- Who reads more items reads more arrays. -/
theorem readItems_mono (hread : ∀ cs found, readItem cs = some found → readItem' cs = some found)
    {done : List Json} {fuel : Nat} (h : readItems readItem done fuel cs = some found) :
    readItems readItem' done fuel cs = some found := by
  induction fuel generalizing done cs with
  | zero => cases h
  | succ fuel ih =>
    rw [readItems] at h ⊢
    cases hitem : readItem (skipGaps cs) with
    | none => simp [hitem] at h
    | some item =>
      obtain ⟨item, rest⟩ := item
      rw [hitem] at h
      rw [hread _ _ hitem]
      dsimp only at h ⊢
      split at h
      · exact ih h
      · exact h
      · cases h

/-- Who reads more values reads more objects. -/
theorem readFields_mono (hread : ∀ cs found, readItem cs = some found → readItem' cs = some found)
    {done : List (String × Json)} {fuel : Nat}
    (h : readFields readItem done fuel cs = some found) :
    readFields readItem' done fuel cs = some found := by
  induction fuel generalizing done cs with
  | zero => cases h
  | succ fuel ih =>
    rw [readFields] at h ⊢
    split at h
    next rest hquote =>
      split at h
      · cases h
      next name rest hname =>
        split at h
        next rest hcolon =>
          cases hvalue : readItem (skipGaps rest) with
          | none => simp [hvalue] at h
          | some value =>
            obtain ⟨value, rest⟩ := value
            rw [hvalue] at h
            rw [hread _ _ hvalue]
            dsimp only at h ⊢
            split at h
            · exact ih h
            · exact h
            · cases h
        · cases h
    · cases h

/-- What can be read is not skipped. -/
theorem readAround_of_readValue (h : readValue limit depth cs = some found) :
    readAround limit depth cs = some found := by
  induction depth using Nat.strongRecOn generalizing cs found with
  | _ depth ih =>
  unfold readValue at h
  split at h
  next => rwa [readAround]
  next => rwa [readAround]
  next => rwa [readAround]
  next rest =>
    obtain ⟨text, htext, rfl⟩ := Option.map_eq_some_iff.mp h
    simp only [readAround, htext]
  next rest =>
    cases depth with
    | zero => cases h
    | succ depth =>
      dsimp only at h
      by_cases hend : ∃ others, skipGaps rest = ']' :: others
      · obtain ⟨others, hend⟩ := hend
        rw [hend] at h
        rw [readAround, hend]
        exact h
      · rw [not_exists] at hend
        have haround (hitems : readItems (readAround limit depth) [] limit (skipGaps rest) =
            some found) : readAround limit (depth + 1) ('[' :: rest) = some found := by
          rw [readAround]
          split
          · exact absurd ‹_› (hend _)
          · exact hitems
        split at h
        · exact absurd ‹_› (hend _)
        · exact haround (readItems_mono (fun cs found => ih depth (Nat.lt_succ_self _)) h)
  next rest =>
    cases depth with
    | zero => cases h
    | succ depth =>
      dsimp only at h
      by_cases hend : ∃ others, skipGaps rest = '\x7d' :: others
      · obtain ⟨others, hend⟩ := hend
        rw [hend] at h
        rw [readAround, hend]
        exact h
      · rw [not_exists] at hend
        have haround (hfields : readFields (readAround limit depth) [] limit (skipGaps rest) =
            some found) : readAround limit (depth + 1) ('\x7b' :: rest) = some found := by
          rw [readAround]
          split
          · exact absurd ‹_› (hend _)
          · rw [hfields]
        split at h
        · exact absurd ‹_› (hend _)
        · exact haround (readFields_mono (fun cs found => ih depth (Nat.lt_succ_self _)) h)
  next =>
    obtain ⟨number, hnumber, rfl⟩ := Option.map_eq_some_iff.mp h
    rw [readAround] <;> try assumption
    rw [hnumber]

end Around

/-- The text of whatever spells a tidy tree is read as it was written. -/
theorem IsTidy.readTolerant_compact {json value : Json} (h : value.IsTidy maxDepth)
    (hspells : Spells json value) : readTolerant json.compact = some json := by
  obtain ⟨hintegral, hdepth⟩ := h.of_spells hspells
  have hfits : Fits ((write json).length + 1) maxDepth json :=
    ⟨hintegral, hdepth, Nat.le_succ _⟩
  have hread := readsBack_readValue hfits [] endsNumber_nil
  rw [List.append_nil] at hread
  have haround := readAround_of_readValue hread
  simp only [readTolerant, compact, String.toList_ofList, haround]
  rfl

end SymbolSearch.Json
