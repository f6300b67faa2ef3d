import SymbolSearch.Files.Tree
import SymbolSearch.Url.Escape

/-!
# File URIs

* `fileUri?` is the URI of an absolute path. Every byte that may not stand in a part of a path
  is written as a percent sign and two digits.
-/

namespace SymbolSearch

/-- One part of a URI's path. -/
def uriPart (part : String) : String :=
  String.ofList (Url.escape Url.escapedInName part.toList)

/-- The file URI of an absolute path. -/
def fileUri? (path : Path) : Option String :=
  if path.isAbsolute then some ("file://" ++ Path.ofParts (path.parts.map uriPart)) else none

/-- The message for a path that has no file URI. -/
def noFileUriMessage (path : Path) : String := "cannot convert path to file URI: " ++ path

end SymbolSearch
