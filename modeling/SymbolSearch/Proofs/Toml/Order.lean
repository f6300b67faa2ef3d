import Mathlib.Data.List.Forall2
import Mathlib.Data.List.Induction
import SymbolSearch.Config.Load

/-!
# Tables in order

A document may speak of the keys of a table in any order. The table that it stands for has each key
once, and its keys ascend.

* `Ascending` — fields whose keys ascend; `Ascending.lookup_eq_some_iff` says what is found in them.
* `Toml.Ordered` — values with nothing but such tables in them.
* `Toml.ordered_of_read` and `Layer.ordered_of_parse?` — documents and layers are of this kind.
-/

namespace SymbolSearch

/-- The keys of the fields ascend. -/
def Ascending {α : Type} (fields : List (String × α)) : Prop := fields.Pairwise (·.1 < ·.1)

/-! ### Fields in order -/

section Ascending

variable {α : Type} {fields rest : List (String × α)} {field : String × α} {key : String}
  {value : α}

theorem Ascending.lookup_eq_some_iff (h : Ascending fields) :
    fields.lookup key = some value ↔ (key, value) ∈ fields := by
  induction fields with
  | nil => simp
  | cons first rest ih =>
    obtain ⟨other, old⟩ := first
    obtain ⟨hfirst, hrest⟩ := List.pairwise_cons.mp h
    rw [List.lookup_cons, List.mem_cons]
    by_cases hkey : key = other
    · subst hkey
      have hout : (key, value) ∉ rest := by
        intro hmem
        exact String.lt_irrefl _ (hfirst (key, value) hmem)
      simp [hout, eq_comm]
    · simp [beq_eq_false_iff_ne.mpr hkey, hkey, ih hrest]

theorem ascending_iff : Ascending fields ↔ (fields.map (·.1)).Pairwise (· < ·) := by
  rw [List.pairwise_map]
  rfl

end Ascending

/-! ### Fields that are read -/

/-- The values of fields were read one by one. -/
def FieldsRead {α β : Type} (read : α → Option β) : List (String × α) → List (String × β) → Prop :=
  List.Forall₂ fun field found => found.1 = field.1 ∧ read field.2 = some found.2

namespace FieldsRead

variable {α β : Type} {read : α → Option β} {fields : List (String × α)}
  {found : List (String × β)}

theorem keys (h : FieldsRead read fields found) : found.map (·.1) = fields.map (·.1) := by
  induction h with
  | nil => rfl
  | cons hfirst _ ih => rw [List.map_cons, List.map_cons, ih, hfirst.1]

theorem ascending (h : FieldsRead read fields found) (hfields : Ascending fields) :
    Ascending found := by
  rw [ascending_iff, h.keys]
  exact ascending_iff.mp hfields

theorem of_mapM (h : fields.mapM (fun field => (read field.2).map (field.1, ·)) = some found) :
    FieldsRead read fields found := by
  induction fields generalizing found with
  | nil =>
    cases h
    exact .nil
  | cons field rest ih =>
    rw [List.mapM_cons] at h
    obtain ⟨first, hfirst, h⟩ := Option.bind_eq_some_iff.mp h
    obtain ⟨others, hothers, h⟩ := Option.bind_eq_some_iff.mp h
    cases h
    obtain ⟨result, hresult, rfl⟩ := Option.map_eq_some_iff.mp hfirst
    exact .cons ⟨rfl, hresult⟩ (ih hothers)

/-- What is found is what was given, read. -/
theorem exists_of_mem (h : FieldsRead read fields found) {result : String × β}
    (hresult : result ∈ found) :
    ∃ value, (result.1, value) ∈ fields ∧ read value = some result.2 := by
  induction h with
  | nil => cases hresult
  | @cons field first rest others hfirst _ ih =>
    rcases List.mem_cons.mp hresult with rfl | hresult
    · exact ⟨field.2, hfirst.1 ▸ List.mem_cons_self, hfirst.2⟩
    · obtain ⟨value, hvalue, hread⟩ := ih hresult
      exact ⟨value, List.mem_cons_of_mem _ hvalue, hread⟩

/-- Whatever was given has been read. -/
theorem exists_of_mem_fields (h : FieldsRead read fields found) {field : String × α}
    (hfield : field ∈ fields) :
    ∃ result, (field.1, result) ∈ found ∧ read field.2 = some result := by
  induction h with
  | nil => cases hfield
  | @cons other first rest others hfirst _ ih =>
    rcases List.mem_cons.mp hfield with rfl | hfield
    · exact ⟨first.2, hfirst.1 ▸ List.mem_cons_self, hfirst.2⟩
    · obtain ⟨result, hresult, hread⟩ := ih hfield
      exact ⟨result, List.mem_cons_of_mem _ hresult, hread⟩

/-- What was read is what is found and read. -/
theorem mem_iff (h : FieldsRead read fields found) (hfields : Ascending fields)
    {result : String × β} :
    result ∈ found ↔ ∃ value, fields.lookup result.1 = some value ∧ read value = some result.2 := by
  constructor
  · intro hresult
    obtain ⟨value, hvalue, hread⟩ := h.exists_of_mem hresult
    exact ⟨value, hfields.lookup_eq_some_iff.mpr hvalue, hread⟩
  · rintro ⟨value, hvalue, hread⟩
    obtain ⟨other, hother, hreadOther⟩ :=
      h.exists_of_mem_fields (hfields.lookup_eq_some_iff.mp hvalue)
    obtain rfl : other = result.2 := Option.some.inj (hreadOther.symm.trans hread)
    exact hother

/-- What is nowhere in what was read was not given. -/
theorem lookup_eq_none (h : FieldsRead read fields found) {key : String}
    (hnone : ∀ result ∈ found, result.1 ≠ key) : fields.lookup key = none := by
  refine List.lookup_eq_none_iff.mpr fun field hfield => ?_
  obtain ⟨result, hresult, -⟩ := h.exists_of_mem_fields hfield
  simpa using (hnone _ hresult).symm

end FieldsRead

namespace Toml

variable {key other : String} {value : Toml} {fields : Fields}

theorem mem_of_mem_insertField {field : String × Toml}
    (h : field ∈ insertField key value fields) : field = (key, value) ∨ field ∈ fields := by
  fun_induction insertField key value fields with
  | case1 | case2 => simpa using h
  | case3 old rest hlt => exact (List.mem_cons.mp h).imp_right (List.mem_cons_of_mem _)
  | case4 other old rest hlt hne ih =>
    rcases List.mem_cons.mp h with rfl | h
    · exact .inr List.mem_cons_self
    · exact (ih h).imp_right (List.mem_cons_of_mem _)

theorem ascending_insertField (h : Ascending fields) :
    Ascending (insertField key value fields) := by
  fun_induction insertField key value fields with
  | case1 => exact List.pairwise_singleton _ _
  | case2 other old rest hlt =>
    have hrest := (List.pairwise_cons.mp h).1
    refine List.pairwise_cons.mpr ⟨List.forall_mem_cons.mpr ⟨hlt, fun field hfield => ?_⟩, h⟩
    exact String.lt_trans hlt (hrest field hfield)
  | case3 old rest hlt => exact List.pairwise_cons.mpr (List.pairwise_cons.mp h)
  | case4 other old rest hlt hne ih =>
    obtain ⟨hother, hrest⟩ := List.pairwise_cons.mp h
    refine List.pairwise_cons.mpr ⟨fun field hfield => ?_, ih hrest⟩
    rcases mem_of_mem_insertField hfield with rfl | hfield
    · exact Std.lt_of_le_of_ne (String.not_lt.mp hlt) (Ne.symm hne)
    · exact hother field hfield

theorem field?_insertField_self : field? (insertField key value fields) key = some value := by
  fun_induction insertField key value fields with
  | case1 | case2 | case3 => simp [field?]
  | case4 other old rest hlt hne ih =>
    simpa [field?, List.lookup_cons, beq_eq_false_iff_ne.mpr hne] using ih

theorem field?_insertField_of_ne (h : other ≠ key) :
    field? (insertField key value fields) other = field? fields other := by
  fun_induction insertField key value fields with
  | case1 | case2 | case3 => simp [field?, List.lookup_cons, beq_eq_false_iff_ne.mpr h]
  | case4 between old rest hlt hne ih =>
    simp only [field?, List.lookup_cons] at ih ⊢
    rw [ih]

/-- Sorted fields are in order, and come from those that were given. -/
theorem ascending_sortFields (fields : Fields) :
    Ascending (sortFields fields) ∧ ∀ field ∈ sortFields fields, field ∈ fields := by
  induction fields using List.reverseRecOn with
  | nil => exact ⟨List.Pairwise.nil, fun _ h => h⟩
  | append_singleton fields last ih =>
    rw [sortFields, List.foldl_append, List.foldl_cons, List.foldl_nil]
    refine ⟨ascending_insertField ih.1, fun field hfield => ?_⟩
    rcases mem_of_mem_insertField hfield with rfl | hfield
    · simp
    · exact List.mem_append_left _ (ih.2 field hfield)

/-! ### Values in order -/

/-- Every table in the value has its keys in ascending order. -/
inductive Ordered : Toml → Prop
  | boolean (value : Bool) : Ordered (.boolean value)
  | integer (value : Int) : Ordered (.integer value)
  | float (spelling : String) : Ordered (.float spelling)
  | string (value : String) : Ordered (.string value)
  | moment (spelling : String) : Ordered (.moment spelling)
  | array (items : List Toml) (each : ∀ item ∈ items, Ordered item) : Ordered (.array items)
  | table (fields : Fields) (ascending : Ascending fields)
      (each : ∀ field ∈ fields, Ordered field.2) : Ordered (.table fields)

theorem ordered_table_iff :
    Ordered (.table fields) ↔ Ascending fields ∧ ∀ field ∈ fields, field.2.Ordered := by
  constructor
  · rintro (_ | _ | _ | _ | _ | _ | ⟨_, ascending, each⟩)
    exact ⟨ascending, each⟩
  · exact fun h => .table fields h.1 h.2

theorem Ordered.items {items : List Toml} (h : Ordered (.array items)) :
    ∀ item ∈ items, item.Ordered := by
  cases h with
  | array _ each => exact each

/-! ### Tables that are put together -/

namespace Node

/-- Every finished value in the node is in order. -/
inductive Ordered : Node → Prop
  | value (finished : Toml) (ordered : finished.Ordered) : Ordered (.value finished)
  | table (origin : TableOrigin) (fields : Node.Fields) (each : ∀ field ∈ fields, Ordered field.2) :
      Ordered (.table origin fields)
  | tables (elements : List Node.Fields)
      (each : ∀ fields ∈ elements, ∀ field ∈ fields, Ordered field.2) : Ordered (.tables elements)

/-- Every finished value in the fields is in order. -/
def FieldsOrdered (fields : Node.Fields) : Prop := ∀ field ∈ fields, field.2.Ordered

/-- A change that spoils no table. -/
def Change.Keeps (change : Change) : Prop :=
  ∀ origin fields origin' fields', FieldsOrdered fields →
    change origin fields = some (origin', fields') → FieldsOrdered fields'

variable {node : Node} {fields fields' document : Node.Fields} {origin : TableOrigin}
  {path : List String} {change : Change}

theorem finishFields_eq_map (fields : Node.Fields) :
    finishFields fields = fields.map fun field => (field.1, field.2.toToml) := by
  induction fields with
  | nil => rfl
  | cons field rest ih => rw [finishFields, ih, List.map_cons]

theorem finishTables_eq_map (elements : List Node.Fields) :
    finishTables elements =
      elements.map fun fields => .table (sortFields (finishFields fields)) := by
  induction elements with
  | nil => rfl
  | cons fields rest ih => rw [finishTables, ih, List.map_cons]

theorem ordered_sortFields (h : ∀ field ∈ fields, field.2.toToml.Ordered) :
    Toml.Ordered (.table (sortFields (finishFields fields))) := by
  obtain ⟨hascending, hmem⟩ := ascending_sortFields (finishFields fields)
  refine .table _ hascending fun field hfield => ?_
  have hfield := hmem field hfield
  rw [finishFields_eq_map] at hfield
  obtain ⟨source, hsource, rfl⟩ := List.mem_map.mp hfield
  exact h source hsource

theorem Ordered.toToml (h : node.Ordered) : node.toToml.Ordered := by
  induction h with
  | value finished ordered =>
    rw [Node.toToml]
    exact ordered
  | table origin fields _ ih =>
    rw [Node.toToml]
    exact ordered_sortFields ih
  | tables elements _ ih =>
    rw [Node.toToml, finishTables_eq_map]
    refine .array _ fun item hitem => ?_
    obtain ⟨fields, hfields, rfl⟩ := List.mem_map.mp (List.mem_reverse.mp hitem)
    exact ordered_sortFields (ih fields hfields)

theorem FieldsOrdered.setField {key : String} (h : FieldsOrdered fields) (hnode : node.Ordered) :
    FieldsOrdered (setField key node fields) := by
  intro field hfield
  unfold Node.setField at hfield
  split at hfield
  · obtain ⟨⟨other, old⟩, hold, hfield⟩ := List.mem_map.mp hfield
    dsimp only at hfield
    split at hfield
    · rw [← hfield]
      exact hnode
    · rw [← hfield]
      exact h _ hold
  · rcases List.mem_append.mp hfield with hfield | hfield
    · exact h field hfield
    · rw [List.mem_singleton.mp hfield]
      exact hnode

theorem FieldsOrdered.of_lookup {key : String} (h : FieldsOrdered fields)
    (hlookup : fields.lookup key = some node) : node.Ordered := by
  obtain ⟨before, after, rfl, -⟩ := List.lookup_eq_some_iff.mp hlookup
  exact h (key, node) (by simp)

theorem keeps_beginTable (key : String) : (beginTable key).Keeps := by
  intro origin fields origin' fields' h hchange
  unfold beginTable at hchange
  split at hchange
  next =>
    cases hchange
    exact h.setField (.table _ _ fun _ hfield => absurd hfield List.not_mem_nil)
  next found hfound =>
    cases hchange
    cases h.of_lookup hfound with
    | table _ _ each => exact h.setField (.table _ _ each)
  next => cases hchange

theorem keeps_beginElement (key : String) : (beginElement key).Keeps := by
  intro origin fields origin' fields' h hchange
  unfold beginElement at hchange
  split at hchange
  next =>
    cases hchange
    exact h.setField (.tables _ (by simp))
  next elements hfound =>
    cases hchange
    cases h.of_lookup hfound with
    | tables _ each => exact h.setField (.tables _ (by simpa using each))
  next => cases hchange

theorem keeps_giveValue {direct : Bool} {key : String} {given : Toml} (h : given.Ordered) :
    (giveValue direct key given).Keeps := by
  intro origin fields origin' fields' hfields hchange
  unfold giveValue at hchange
  split at hchange
  · cases hchange
  · split at hchange
    · cases hchange
      exact hfields.setField (.value _ h)
    · cases hchange

/-- What keeps a table in order does so below any path. -/
theorem keeps_within {dotted : Bool} (h : change.Keeps) (path : List String) :
    Change.Keeps (within dotted change path) := by
  induction path with
  | nil => exact h
  | cons key path ih =>
    intro origin fields origin' fields' hfields hwithin
    rw [within] at hwithin
    split at hwithin
    next =>
      obtain ⟨⟨below, found⟩, hbelow, hwithin⟩ := Option.bind_eq_some_iff.mp hwithin
      cases hwithin
      have hfound := ih _ _ _ _ (by rintro _ ⟨⟩) hbelow
      exact hfields.setField (.table _ _ hfound)
    next below found hlookup =>
      split at hwithin
      · cases hwithin
      · obtain ⟨⟨below', found'⟩, hbelow, hwithin⟩ := Option.bind_eq_some_iff.mp hwithin
        cases hwithin
        cases hfields.of_lookup hlookup with
        | table _ _ each => exact hfields.setField (.table _ _ (ih _ _ _ _ each hbelow))
    next last others hlookup =>
      obtain ⟨⟨below', found'⟩, hbelow, hwithin⟩ := Option.bind_eq_some_iff.mp hwithin
      cases hwithin
      cases hfields.of_lookup hlookup with
      | tables _ each =>
        obtain ⟨hlast, hothers⟩ := List.forall_mem_cons.mp each
        have hfound := ih _ _ _ _ hlast hbelow
        exact hfields.setField (.tables _ (List.forall_mem_cons.mpr ⟨hfound, hothers⟩))
    next => cases hwithin

theorem keeps_atLast {dotted : Bool} {change : String → Change} (h : ∀ key, (change key).Keeps)
    (path : List String) : Change.Keeps (atLast path change dotted) := by
  unfold atLast
  split
  · exact keeps_within (h _) _
  · rintro _ _ _ _ _ ⟨⟩

theorem FieldsOrdered.inDocument (h : FieldsOrdered document) (hkeeps : change.Keeps)
    (hchange : inDocument change document = some fields) : FieldsOrdered fields := by
  obtain ⟨⟨origin, fields⟩, hfound, rfl⟩ := Option.map_eq_some_iff.mp hchange
  exact hkeeps _ _ _ _ h hfound

theorem FieldsOrdered.addValue {key : List String} {given : Toml} (h : FieldsOrdered document)
    (hgiven : given.Ordered) (hadd : addValue path key given document = some fields) :
    FieldsOrdered fields :=
  h.inDocument (keeps_within (keeps_atLast (fun _ => keeps_giveValue hgiven) key) path) hadd

end Node

/-! ### Documents -/

section Reading

variable {limit depth : Nat} {cs rest : List Char}

theorem ordered_scalar? (h : scalar? cs = some value) : value.Ordered := by
  unfold scalar? at h
  split at h
  · cases h
    exact .boolean _
  · split at h
    · cases h
      exact .boolean _
    · split at h <;> cases h
      · exact .integer _
      · exact .float _
      · exact .moment _

/-- Whatever is read with so many steps is in order, if what was read before it is. -/
structure ReadsOrdered (limit : Nat) : Prop where
  value {depth : Nat} {cs rest : List Char} {value : Toml} :
    readValue limit depth cs = some (value, rest) → value.Ordered
  items {depth : Nat} {done : List Toml} {cs rest : List Char} {value : Toml} :
    (∀ item ∈ done, Ordered item) →
      readItems limit depth done cs = some (value, rest) → value.Ordered
  pairs {depth : Nat} {done : Node.Fields} {cs rest : List Char} {value : Toml} :
    Node.FieldsOrdered done →
      readPairs limit depth done cs = some (value, rest) → value.Ordered

namespace ReadsOrdered

theorem zero : ReadsOrdered 0 where
  value h := by
    rw [readValue] at h
    cases h
  items _ h := by
    rw [readItems] at h
    cases h
  pairs _ h := by
    rw [readPairs] at h
    cases h

theorem value_succ (before : ReadsOrdered limit)
    (h : readValue (limit + 1) depth cs = some (value, rest)) : value.Ordered := by
  rw [readValue.eq_def] at h
  cases cs with
  | nil => cases h
  | cons c cs =>
    dsimp only at h
    split at h
    · obtain ⟨⟨text, after⟩, -, htext⟩ := Option.map_eq_some_iff.mp h
      cases htext
      exact .string _
    · split at h
      · split at h
        · cases h
        · exact before.items (by rintro _ ⟨⟩) h
      · split at h
        · split at h
          · cases h
          · exact before.pairs (by rintro _ ⟨⟩) h
        · obtain ⟨scalar, hscalar, htext⟩ := Option.map_eq_some_iff.mp h
          cases htext
          exact ordered_scalar? hscalar

theorem items_succ {done : List Toml} (before : ReadsOrdered limit)
    (hdone : ∀ item ∈ done, Ordered item)
    (h : readItems (limit + 1) depth done cs = some (value, rest)) : value.Ordered := by
  have hends {items : List Toml} (hitems : ∀ item ∈ items, Ordered item) :
      Ordered (.array items.reverse) :=
    .array _ fun item hitem => hitems item (List.mem_reverse.mp hitem)
  rw [readItems] at h
  obtain ⟨cs', -, h⟩ := Option.bind_eq_some_iff.mp h
  split at h
  · cases h
    exact hends hdone
  · obtain ⟨⟨item, after⟩, hitem, h⟩ := Option.bind_eq_some_iff.mp h
    have hitems := List.forall_mem_cons.mpr ⟨before.value hitem, hdone⟩
    obtain ⟨cs'', -, h⟩ := Option.bind_eq_some_iff.mp h
    split at h
    · exact before.items hitems h
    · cases h
      exact hends hitems
    · cases h

theorem pairs_succ {done : Node.Fields} (before : ReadsOrdered limit)
    (hdone : Node.FieldsOrdered done)
    (h : readPairs (limit + 1) depth done cs = some (value, rest)) : value.Ordered := by
  rw [readPairs] at h
  obtain ⟨cs', -, h⟩ := Option.bind_eq_some_iff.mp h
  split at h
  · cases h
    exact Node.Ordered.toToml (.table _ _ hdone)
  · obtain ⟨⟨key, after⟩, -, h⟩ := Option.bind_eq_some_iff.mp h
    dsimp only at h
    split at h
    · obtain ⟨⟨given, after'⟩, hgiven, h⟩ := Option.bind_eq_some_iff.mp h
      obtain ⟨done', hadd, h⟩ := Option.bind_eq_some_iff.mp h
      have hdone' := hdone.addValue (before.value hgiven) hadd
      obtain ⟨cs'', -, h⟩ := Option.bind_eq_some_iff.mp h
      split at h
      · exact before.pairs hdone' h
      · cases h
        exact Node.Ordered.toToml (.table _ _ hdone')
      · cases h
    · cases h

end ReadsOrdered

theorem readsOrdered (limit : Nat) : ReadsOrdered limit := by
  induction limit with
  | zero => exact .zero
  | succ limit before => exact ⟨before.value_succ, before.items_succ, before.pairs_succ⟩

/-- What a statement of a document says is in order. -/
def Statement.Ordered : Statement → Prop
  | .value _ given => given.Ordered
  | .table _ | .element _ => True

theorem ordered_of_readHeader {statement : Statement}
    (h : readHeader limit cs = some (statement, rest)) : statement.Ordered := by
  unfold readHeader at h
  split at h <;> obtain ⟨⟨path, after⟩, -, h⟩ := Option.bind_eq_some_iff.mp h <;>
    dsimp only at h <;> split at h <;> cases h <;> trivial

theorem ordered_of_readPair {statement : Statement}
    (h : readPair limit cs = some (statement, rest)) : statement.Ordered := by
  obtain ⟨⟨key, after⟩, -, h⟩ := Option.bind_eq_some_iff.mp h
  dsimp only at h
  split at h
  · obtain ⟨⟨given, after'⟩, hgiven, h⟩ := Option.bind_eq_some_iff.mp h
    cases h
    exact (readsOrdered limit).value hgiven
  · cases h

theorem ordered_of_readStatement {statement : Statement}
    (h : readStatement limit cs = some (statement, rest)) : statement.Ordered := by
  unfold readStatement at h
  dsimp only at h
  split at h <;> obtain ⟨found, hfound, h⟩ := Option.bind_eq_some_iff.mp h
  case' h_1 => have hordered := ordered_of_readHeader hfound
  case' h_2 => have hordered := ordered_of_readPair hfound
  -- What follows on the line does not change what was read.
  all_goals
    obtain ⟨cs', -, h⟩ := Option.bind_eq_some_iff.mp h
    split at h
    · cases h
      exact hordered
    · obtain ⟨_, -, h⟩ := Option.bind_eq_some_iff.mp h
      cases h
      exact hordered

theorem ordered_of_readStatements {lines : Nat} {statements : List Statement}
    (h : readStatements limit lines cs = some statements) :
    ∀ statement ∈ statements, statement.Ordered := by
  induction lines generalizing cs statements with
  | zero => cases h
  | succ lines ih =>
    rw [readStatements] at h
    obtain ⟨cs', -, h⟩ := Option.bind_eq_some_iff.mp h
    split at h
    · cases h
      rintro _ ⟨⟩
    · obtain ⟨⟨statement, after⟩, hstatement, h⟩ := Option.bind_eq_some_iff.mp h
      obtain ⟨others, hothers, h⟩ := Option.bind_eq_some_iff.mp h
      cases h
      exact List.forall_mem_cons.mpr ⟨ordered_of_readStatement hstatement, ih hothers⟩

theorem fieldsOrdered_of_assemble {current : List String} {document found : Node.Fields}
    {statements : List Statement} (hdocument : Node.FieldsOrdered document)
    (hstatements : ∀ statement ∈ statements, statement.Ordered)
    (h : assemble current document statements = some found) : Node.FieldsOrdered found := by
  induction statements generalizing current document with
  | nil =>
    cases h
    exact hdocument
  | cons statement rest ih =>
    obtain ⟨hstatement, hrest⟩ := List.forall_mem_cons.mp hstatements
    cases statement with
    | table path =>
      obtain ⟨document', hadd, h⟩ := Option.bind_eq_some_iff.mp h
      exact ih (hdocument.inDocument (Node.keeps_atLast Node.keeps_beginTable path) hadd) hrest h
    | element path =>
      obtain ⟨document', hadd, h⟩ := Option.bind_eq_some_iff.mp h
      exact ih (hdocument.inDocument (Node.keeps_atLast Node.keeps_beginElement path) hadd) hrest h
    | value key given =>
      obtain ⟨document', hadd, h⟩ := Option.bind_eq_some_iff.mp h
      exact ih (hdocument.addValue hstatement hadd) hrest h

/-- The table that a document stands for is in order, with all that is in it. -/
theorem ordered_of_read {text : String} (h : read text = some fields) :
    Ordered (.table fields) := by
  unfold read at h
  obtain ⟨statements, hstatements, h⟩ := Option.bind_eq_some_iff.mp h
  obtain ⟨document, hdocument, h⟩ := Option.bind_eq_some_iff.mp h
  have hordered : Node.FieldsOrdered document :=
    fieldsOrdered_of_assemble (by rintro _ ⟨⟩) (ordered_of_readStatements hstatements) hdocument
  have htable : (Node.table .header document).toToml.Ordered :=
    Node.Ordered.toToml (.table _ _ hordered)
  split at h
  next found hfound =>
    cases h
    rwa [hfound] at htable
  next => cases h

end Reading
end Toml

/-! ### Layers -/

namespace Layer

theorem exists_of_layerItems? {items found : List Toml} (h : layerItems? items = some found) :
    ∀ result ∈ found, ∃ item ∈ items, layerValue? item = some result := by
  induction items generalizing found with
  | nil =>
    cases h
    rintro _ ⟨⟩
  | cons item rest ih =>
    obtain ⟨first, hfirst, h⟩ := Option.bind_eq_some_iff.mp h
    obtain ⟨others, hothers, h⟩ := Option.bind_eq_some_iff.mp h
    cases h
    refine List.forall_mem_cons.mpr ⟨⟨item, List.mem_cons_self, hfirst⟩, fun result hresult => ?_⟩
    obtain ⟨item, hitem, hread⟩ := ih hothers result hresult
    exact ⟨item, List.mem_cons_of_mem _ hitem, hread⟩

theorem fieldsRead_of_layerFields? {fields found : Toml.Fields}
    (h : layerFields? fields = some found) : FieldsRead layerValue? fields found := by
  induction fields generalizing found with
  | nil =>
    cases h
    exact .nil
  | cons field rest ih =>
    obtain ⟨key, value⟩ := field
    obtain ⟨first, hfirst, h⟩ := Option.bind_eq_some_iff.mp h
    obtain ⟨others, hothers, h⟩ := Option.bind_eq_some_iff.mp h
    cases h
    exact .cons ⟨rfl, hfirst⟩ (ih hothers)

theorem ordered_of_layerValue? {value found : Toml} (hvalue : value.Ordered)
    (h : layerValue? value = some found) : found.Ordered := by
  induction hvalue generalizing found with
  | boolean | float | string =>
    cases h
    constructor
  | moment spelling =>
    cases h
    exact .string _
  | integer value =>
    rw [layerValue?] at h
    split at h <;> cases h
    exact .integer _
  | array items each ih =>
    rw [layerValue?] at h
    obtain ⟨results, hresults, rfl⟩ := Option.map_eq_some_iff.mp h
    refine .array _ fun result hresult => ?_
    obtain ⟨item, hitem, hread⟩ := exists_of_layerItems? hresults result hresult
    exact ih item hitem hread
  | table fields ascending each ih =>
    rw [layerValue?] at h
    obtain ⟨results, hresults, rfl⟩ := Option.map_eq_some_iff.mp h
    have hread := fieldsRead_of_layerFields? hresults
    refine .table _ (hread.ascending ascending) fun result hresult => ?_
    obtain ⟨value, hvalue, hread⟩ := hread.exists_of_mem hresult
    exact ih _ hvalue hread

/-- A layer is in order, with all that is in it. -/
theorem ordered_of_parse? {text : String} {layer : Layer} (h : parse? text = some layer) :
    Toml.Ordered (.table layer) := by
  obtain ⟨fields, hfields, h⟩ := Option.bind_eq_some_iff.mp h
  refine ordered_of_layerValue? (Toml.ordered_of_read hfields) ?_
  rw [layerValue?, h]
  rfl

end Layer
end SymbolSearch
