import SymbolSearch.Json.Decode
import SymbolSearch.Text.Class
import SymbolSearch.Text.Quoted

/-!
# Ecosystems

An ecosystem is a language toolchain that the program manages, such as `rust` or `python`.

* `Ecosystem` is a name in its one valid spelling, so that equal names are equal values.
* `Ecosystem.parse` trims and lowers a name and refuses all that is not a valid spelling then.
-/

namespace SymbolSearch

/-- Whether a character may stand in the name of an ecosystem. -/
def isEcosystemChar (c : Char) : Bool :=
  ('a' ≤ c && c ≤ 'z') || ('0' ≤ c && c ≤ '9') || c == '-' || c == '_'

/-- Whether a text is the name of an ecosystem in its valid spelling. -/
def isEcosystemName (name : String) : Bool :=
  !name.toList.isEmpty && name.toList.all isEcosystemChar

/-- A language toolchain, by its name. -/
structure Ecosystem where
  name : String
  valid : isEcosystemName name = true
  deriving DecidableEq

/-- Why a text is not the name of an ecosystem. -/
inductive EcosystemError where
  | empty
  | invalidChar (name : String) (char : Char)
  deriving DecidableEq, Repr

namespace EcosystemError

/-- The message that reports the error. -/
def message : EcosystemError → String
  | .empty => "ecosystem name must not be empty"
  | .invalidChar name char =>
    "invalid character " ++ Text.quotedChar char ++ " in ecosystem name " ++ Text.quoted name

end EcosystemError

namespace Ecosystem

instance : Repr Ecosystem := ⟨fun eco _ => repr eco.name⟩

instance : Inhabited Ecosystem := ⟨⟨"a", by decide⟩⟩

/-- Trims and lowers a name, and takes it if that is a valid spelling. -/
def parse (text : String) : Except EcosystemError Ecosystem :=
  let name := Text.asciiLower (Text.trim text)
  if h : isEcosystemName name = true then .ok ⟨name, h⟩
  else match name.toList.find? (!isEcosystemChar ·) with
    | some char => .error (.invalidChar name char)
    | none => .error .empty

/-- The ecosystem that a text names, if it names one. -/
def parse? (text : String) : Option Ecosystem := (parse text).toOption

/-- Decodes an ecosystem from its name. -/
def fromJson? (json : Json) : Option Ecosystem := json.string?.bind parse?

/-- Encodes an ecosystem as its name. -/
def toJson (eco : Ecosystem) : Json := .string eco.name

end Ecosystem
end SymbolSearch
