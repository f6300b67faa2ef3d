import Mathlib.Data.List.Forall2
import SymbolSearch.Lsp.Answer

/-!
# Symbols inside symbols

A server may list the symbols of a document as a forest, and the answer to a question is a list. A
symbol of the forest has an address: the number of a root, the number of a symbol inside that root,
and so on down to the symbol. The address of a parent is that of its child without the last number.

* `DocumentSymbol.at?` — the symbol at an address of a forest.
* `DocumentSymbol.Recorded` — what the record of a symbol says.
* `DocumentSymbol.Outlines` — a list of records goes through the symbols in the order of their
  addresses.
* `DocumentSymbols.records_preorder` — the records of a forest are one for each symbol, parents
  before what is inside them, and neighbours in order.
-/

namespace SymbolSearch

/-- The kind for a number is the one with that number, and a variable if there is none. -/
theorem SymbolKind.ofServer_code (code : Nat) :
    if 1 ≤ code ∧ code ≤ 26 then (ofServer code).code = code else ofServer code = .variable := by
  cases hfound : ofCode? code with
  | some kind =>
    have hcode : kind.code = code := by simpa using List.find?_some hfound
    have hbounds : 1 ≤ kind.code ∧ kind.code ≤ 26 := by cases kind <;> decide
    rw [if_pos (hcode ▸ hbounds), ofServer, hfound, Option.getD_some, hcode]
  | none =>
    have hnone : ∀ kind ∈ all, kind.code ≠ code := by
      simpa [ofCode?] using List.find?_eq_none.mp hfound
    have hall : ∀ n < 27, 1 ≤ n → ∃ kind ∈ all, kind.code = n := by decide
    rw [if_neg, ofServer, hfound, Option.getD_none]
    rintro ⟨hle, hge⟩
    obtain ⟨kind, hkind, hcode⟩ := hall code (Nat.lt_succ_of_le hge) hle
    exact hnone kind hkind hcode

namespace DocumentSymbol

/-! ### Addresses -/

/-- The name of a symbol. -/
def name : DocumentSymbol → String
  | .node name .. => name

/-- The detail of a symbol, which may be empty. -/
def detail : DocumentSymbol → Option String
  | .node _ detail .. => detail

/-- The number of the kind of a symbol, which need not stand for a kind. -/
def kind : DocumentSymbol → Nat
  | .node _ _ kind .. => kind

/-- Where the name of a symbol stands. -/
def selection : DocumentSymbol → Range
  | .node _ _ _ _ selection _ => selection

/-- The symbols right inside a symbol. -/
def children : DocumentSymbol → List DocumentSymbol
  | .node _ _ _ _ _ children => children

/-- The symbol at an address inside a symbol, which is itself at the empty address. -/
def inside? (symbol : DocumentSymbol) : List Nat → Option DocumentSymbol
  | [] => some symbol
  | i :: place => (symbol.children[i]?).bind fun child => child.inside? place

/-- The symbol at an address of a forest. -/
def at? (forest : List DocumentSymbol) : List Nat → Option DocumentSymbol
  | [] => none
  | i :: place => (forest[i]?).bind fun root => root.inside? place

/-- What the record of a symbol says, if the symbol is right inside `parent`. -/
structure Recorded (uri : String) (parent : Option DocumentSymbol) (symbol : DocumentSymbol)
    (record : SymbolRecord) : Prop where
  name : record.name = symbol.name
  kind : if 1 ≤ symbol.kind ∧ symbol.kind ≤ 26 then record.kind.code = symbol.kind
    else record.kind = .variable
  location : record.location = ⟨uri, symbol.selection⟩
  detail : record.detail = symbol.detail.filter (· ≠ "")
  container : record.container = (parent.map DocumentSymbol.name).filter (· ≠ "")

variable {uri : String} {parent : Option DocumentSymbol} {symbol root : DocumentSymbol}
  {forest : List DocumentSymbol} {i : Nat} {place : List Nat} {record : SymbolRecord}
  {found : List SymbolRecord}

theorem recorded (uri : String) (parent : Option DocumentSymbol) (symbol : DocumentSymbol) :
    Recorded uri parent symbol
      ((({ name := symbol.name, kind := .ofServer symbol.kind,
            location := ⟨uri, symbol.selection⟩ } : SymbolRecord).withContainer
        (parent.map DocumentSymbol.name)).withDetail symbol.detail) :=
  ⟨rfl, SymbolKind.ofServer_code _, rfl, rfl, rfl⟩

/-- A record is that of the symbol at an address inside `symbol`, which is itself right inside
    `parent`. -/
def StandsIn (uri : String) (parent : Option DocumentSymbol) (symbol : DocumentSymbol)
    (place : List Nat) (record : SymbolRecord) : Prop :=
  ∃ found, symbol.inside? place = some found ∧
    Recorded uri (if place = [] then parent else symbol.inside? place.dropLast) found record

/-- A record is that of the symbol at an address of a forest, which is right inside `parent`. -/
def StandsAt (uri : String) (parent : Option DocumentSymbol) (forest : List DocumentSymbol) :
    List Nat → SymbolRecord → Prop
  | [], _ => False
  | i :: place, record => ∃ root, forest[i]? = some root ∧ root.StandsIn uri parent place record

theorem standsIn_cons_iff :
    StandsIn uri parent symbol (i :: place) record ↔
      StandsAt uri (some symbol) symbol.children (i :: place) record := by
  have hparent {root : DocumentSymbol} (hroot : symbol.children[i]? = some root) :
      symbol.inside? (i :: place).dropLast =
        if place = [] then some symbol else root.inside? place.dropLast := by
    cases place <;> simp [inside?, hroot]
  constructor
  · rintro ⟨found, hfound, hrecord⟩
    obtain ⟨root, hroot, hfound⟩ := Option.bind_eq_some_iff.mp hfound
    rw [if_neg (List.cons_ne_nil i place), hparent hroot] at hrecord
    exact ⟨root, hroot, found, hfound, hrecord⟩
  · rintro ⟨root, hroot, found, hfound, hrecord⟩
    rw [← hparent hroot] at hrecord
    refine ⟨found, Option.bind_eq_some_iff.mpr ⟨root, hroot, hfound⟩, ?_⟩
    rwa [if_neg (List.cons_ne_nil i place)]

/-- The parent of a symbol of a forest stands at the address without its last number, if there is a
    parent. -/
theorem standsAt_none_iff :
    StandsAt uri none forest place record ↔
      ∃ symbol, at? forest place = some symbol ∧
        Recorded uri (at? forest place.dropLast) symbol record := by
  cases place with
  | nil => simp [StandsAt, at?]
  | cons i place =>
    have hparent {root : DocumentSymbol} (hroot : forest[i]? = some root) :
        at? forest (i :: place).dropLast =
          if place = [] then none else root.inside? place.dropLast := by
      cases place <;> simp [at?, hroot]
    constructor
    · rintro ⟨root, hroot, found, hfound, hrecord⟩
      rw [← hparent hroot] at hrecord
      exact ⟨found, Option.bind_eq_some_iff.mpr ⟨root, hroot, hfound⟩, hrecord⟩
    · rintro ⟨found, hfound, hrecord⟩
      obtain ⟨root, hroot, hfound⟩ := Option.bind_eq_some_iff.mp hfound
      rw [hparent hroot] at hrecord
      exact ⟨root, hroot, found, hfound, hrecord⟩

/-! ### Records in order -/

/-- Records go through all addresses at which a record stands, in their order. -/
def Outlines (stands : List Nat → SymbolRecord → Prop) (records : List SymbolRecord) : Prop :=
  ∃ places : List (List Nat), places.Pairwise (· < ·) ∧
    (∀ place record, stands place record → place ∈ places) ∧ List.Forall₂ stands places records

theorem exists_of_mem_places {stands : List Nat → SymbolRecord → Prop} {places : List (List Nat)}
    (h : List.Forall₂ stands places found) (hplace : place ∈ places) :
    ∃ record, stands place record := by
  induction h with
  | nil => cases hplace
  | cons hrecord _ ih =>
    rcases List.mem_cons.mp hplace with rfl | hplace
    · exact ⟨_, hrecord⟩
    · exact ih hplace

theorem ne_nil_of_mem_places {places : List (List Nat)}
    (h : List.Forall₂ (StandsAt uri parent forest) places found) (hplace : place ∈ places) :
    place ≠ [] := by
  rintro rfl
  exact (exists_of_mem_places h hplace).choose_spec

theorem outlines_nil : Outlines (StandsAt uri parent []) [] := by
  refine ⟨[], .nil, fun place record hrecord => ?_, .nil⟩
  cases place <;> simp [StandsAt] at hrecord

/-- A symbol comes before what is inside it. -/
theorem Outlines.node (hrecord : Recorded uri parent symbol record)
    (h : Outlines (StandsAt uri (some symbol) symbol.children) found) :
    Outlines (StandsIn uri parent symbol) (record :: found) := by
  obtain ⟨places, hsorted, hcomplete, hstands⟩ := h
  refine ⟨[] :: places, ?sorted, ?complete, .cons ⟨symbol, rfl, hrecord⟩ ?stands⟩
  case sorted =>
    refine hsorted.cons fun place hplace => ?_
    obtain ⟨i, place, rfl⟩ := List.exists_cons_of_ne_nil (ne_nil_of_mem_places hstands hplace)
    exact List.nil_lt_cons i place
  case complete =>
    intro place record hrecord
    cases place with
    | nil => exact List.mem_cons_self
    | cons i place =>
      exact List.mem_cons_of_mem _ (hcomplete _ record (standsIn_cons_iff.mp hrecord))
  case stands =>
    refine hstands.imp fun place record hrecord => ?_
    cases place with
    | nil => exact hrecord.elim
    | cons i place => exact standsIn_cons_iff.mpr hrecord

/-- The address of a symbol when another root is put in front. -/
def shifted : List Nat → List Nat
  | [] => []
  | i :: place => (i + 1) :: place

theorem shifted_lt {place' : List Nat} (h : place < place') : shifted place < shifted place' := by
  cases place' with
  | nil => exact absurd h (List.not_lt_nil place)
  | cons j place' =>
    cases place with
    | nil => exact List.nil_lt_cons _ _
    | cons i place =>
      rw [List.cons_lt_cons_iff] at h
      rwa [shifted, shifted, List.cons_lt_cons_iff, Nat.add_lt_add_iff_right,
        Nat.add_right_cancel_iff]

theorem standsAt_zero_iff :
    StandsAt uri parent (root :: forest) (0 :: place) record ↔
      StandsIn uri parent root place record := by
  simp [StandsAt]

theorem standsAt_shifted_iff :
    StandsAt uri parent (root :: forest) (shifted place) record ↔
      StandsAt uri parent forest place record := by
  cases place <;> simp [StandsAt, shifted]

/-- A root and all inside it come before the next root. -/
theorem Outlines.cons {later : List SymbolRecord}
    (hroot : Outlines (StandsIn uri parent root) found)
    (hforest : Outlines (StandsAt uri parent forest) later) :
    Outlines (StandsAt uri parent (root :: forest)) (found ++ later) := by
  obtain ⟨places, hsorted, hcomplete, hstands⟩ := hroot
  obtain ⟨places', hsorted', hcomplete', hstands'⟩ := hforest
  refine ⟨places.map (0 :: ·) ++ places'.map shifted, ?sorted, ?complete, ?stands⟩
  case sorted =>
    refine List.pairwise_append.mpr ⟨?_, ?_, ?_⟩
    · exact hsorted.map _ fun _ _ hlt => List.cons_lt_cons_self.mpr hlt
    · exact hsorted'.map _ fun _ _ => shifted_lt
    · intro first hfirst second hsecond
      obtain ⟨place, -, rfl⟩ := List.mem_map.mp hfirst
      obtain ⟨place', hplace', rfl⟩ := List.mem_map.mp hsecond
      have hne := ne_nil_of_mem_places hstands' hplace'
      obtain ⟨i, place', rfl⟩ := List.exists_cons_of_ne_nil hne
      exact List.cons_lt_cons_iff.mpr (.inl (Nat.succ_pos i))
  case complete =>
    intro place record hrecord
    rw [List.mem_append]
    match place with
    | [] => exact hrecord.elim
    | 0 :: place =>
      exact .inl (List.mem_map_of_mem (hcomplete place record (standsAt_zero_iff.mp hrecord)))
    | (i + 1) :: place =>
      have hlater : StandsAt uri parent forest (i :: place) record :=
        standsAt_shifted_iff.mp hrecord
      exact .inr (List.mem_map_of_mem (f := shifted) (hcomplete' (i :: place) record hlater))
  case stands =>
    refine List.rel_append (List.forall₂_map_left_iff.mpr ?_) (List.forall₂_map_left_iff.mpr ?_)
    · exact hstands.imp fun _ _ => standsAt_zero_iff.mpr
    · exact hstands'.imp fun _ _ => standsAt_shifted_iff.mpr

-- By induction on the forest: what is inside a symbol first, then its neighbours.
mutual

theorem outlines_records (uri : String) (parent : Option DocumentSymbol) (symbol : DocumentSymbol) :
    Outlines (StandsIn uri parent symbol) (records uri (parent.map name) symbol) := by
  cases symbol with
  | node name detail kind range selection children =>
    let symbol : DocumentSymbol := .node name detail kind range selection children
    exact .node (recorded uri parent symbol) (outlines_recordsOf uri (some symbol) children)

theorem outlines_recordsOf (uri : String) (parent : Option DocumentSymbol)
    (forest : List DocumentSymbol) :
    Outlines (StandsAt uri parent forest) (recordsOf uri (parent.map name) forest) := by
  cases forest with
  | nil => exact outlines_nil
  | cons root forest =>
    exact (outlines_records uri parent root).cons (outlines_recordsOf uri parent forest)

end

end DocumentSymbol

/-- **The records of a forest** are one for each symbol. They are in the lexicographic order of the
    addresses of the symbols: a symbol comes before all that is inside it, and a neighbour with all
    that is inside it before the next one. Each has the name, the place and the detail of its
    symbol, the kind with its number, and the name of its parent, if that has one. -/
theorem DocumentSymbols.records_preorder (uri : String) (forest : List DocumentSymbol) :
    ∃ places : List (List Nat), places.Pairwise (· < ·) ∧
      (∀ place, place ∈ places ↔ (DocumentSymbol.at? forest place).isSome) ∧
      List.Forall₂
        (fun place record => ∃ symbol, DocumentSymbol.at? forest place = some symbol ∧
          symbol.Recorded uri (DocumentSymbol.at? forest place.dropLast) record)
        places ((nested forest).records uri) := by
  obtain ⟨places, hsorted, hcomplete, hstands⟩ := DocumentSymbol.outlines_recordsOf uri none forest
  refine ⟨places, hsorted, fun place => ⟨fun hplace => ?_, fun hplace => ?_⟩,
    hstands.imp fun _ _ => DocumentSymbol.standsAt_none_iff.mp⟩
  · obtain ⟨record, hrecord⟩ := DocumentSymbol.exists_of_mem_places hstands hplace
    obtain ⟨symbol, hsymbol, -⟩ := DocumentSymbol.standsAt_none_iff.mp hrecord
    exact Option.isSome_of_eq_some hsymbol
  · obtain ⟨symbol, hsymbol⟩ := Option.isSome_iff_exists.mp hplace
    have hrecord := DocumentSymbol.recorded uri (DocumentSymbol.at? forest place.dropLast) symbol
    exact hcomplete place _ (DocumentSymbol.standsAt_none_iff.mpr ⟨symbol, hsymbol, hrecord⟩)

end SymbolSearch
