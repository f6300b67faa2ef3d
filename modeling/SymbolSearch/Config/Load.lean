import SymbolSearch.Config.Basic
import SymbolSearch.Files.Tree
import SymbolSearch.Toml.Read

/-!
# Loading the configuration

The configuration is put together from documents. Each is a layer over the ones before it.

* `Layer.parse?` reads a document as a layer.
* `Layer.merge` lays one over another: tables merge key by key, and anything else is replaced.
* `Config.parse` takes one document.
* `Config.loadLayers` reads a document for all workspaces and one of a workspace, and lays the
  second over the first. A document that does not exist says nothing.
-/

namespace SymbolSearch

/-! ### Layers -/

/-- A document of the configuration, as the fields of its table. -/
abbrev Layer := Toml.Fields

namespace Layer

/-- Whether an integer has 64 bits with its sign. -/
def isLayerInteger (value : Int) : Bool :=
  Int64.minValue.toInt ≤ value && value ≤ Int64.maxValue.toInt

mutual

/-- The value as a layer holds it: a moment as the text that spells it, and no integer that has
    more than 64 bits. -/
def layerValue? : Toml → Option Toml
  | .integer value => if isLayerInteger value then some (.integer value) else none
  | .moment spelling => some (.string spelling)
  | .array items => (layerItems? items).map .array
  | .table fields => (layerFields? fields).map .table
  | other => some other

/-- The items of an array as a layer holds them. -/
def layerItems? : List Toml → Option (List Toml)
  | [] => some []
  | item :: rest => do return (← layerValue? item) :: (← layerItems? rest)

/-- The fields of a table as a layer holds them. -/
def layerFields? : List (String × Toml) → Option Toml.Fields
  | [] => some []
  | (key, value) :: rest => do return (key, ← layerValue? value) :: (← layerFields? rest)

end

/-- Reads a document as a layer. -/
def parse? (text : String) : Option Layer := (Toml.read text).bind layerFields?

mutual

/-- A value laid over another one. -/
def overlay (base : Option Toml) : Toml → Toml
  | .table fields =>
    match base with
    | some (.table below) => .table (overlayFields below fields)
    | _ => .table fields
  | other => other

/-- The fields of a table laid over those of another one. -/
def overlayFields (below : Toml.Fields) : List (String × Toml) → Toml.Fields
  | [] => below
  | (key, value) :: rest =>
    overlayFields (Toml.insertField key (overlay (Toml.field? below key) value) below) rest

end

/-- Lays a layer over another one. -/
def merge (base above : Layer) : Layer := overlayFields base above

end Layer

/-! ### Documents -/

/-- Why no configuration could be loaded. -/
inductive ConfigError where
  | unreadable (path : Path) (error : FileError)
  | malformed (path : Path)
  | invalid (fault : ConfigFault)

namespace Config

/-- The configuration that no document changes. -/
def standard (environment : Environment) : Except ConfigFault Config := resolve environment {}

/-- The path that errors of a document without a file give. -/
def inlinePath : Path := "<inline>"

/-- Takes one document as the whole configuration. -/
def parse (environment : Environment) (text : String) : Except ConfigError Config :=
  match (Toml.read text).bind (ConfigSections.ofFields? .lenient) with
  | none => .error (.malformed inlinePath)
  | some sections => (resolve environment sections).mapError .invalid

/-- Reads the document at a path as a layer, if there is one. -/
def readLayer (tree : Tree) (path : Path) : Except ConfigError (Option Layer) :=
  match tree.target path with
  | .error _ => .ok none
  | .ok _ =>
    match tree.readText path with
    | .error error => .error (.unreadable path error)
    | .ok text =>
      match Layer.parse? text with
      | none => .error (.malformed path)
      | some layer =>
        match ConfigSections.ofFields? .strict layer with
        | none => .error (.malformed path)
        | some _ => .ok (some layer)

/-- Reads the layers at the given paths and lays each over the ones before it. -/
def readLayers (tree : Tree) (merged : Layer) : List Path → Except ConfigError Layer
  | [] => .ok merged
  | path :: rest => do
    match ← readLayer tree path with
    | none => readLayers tree merged rest
    | some layer => readLayers tree (merged.merge layer) rest

/-- Loads the configuration from the layers at the given paths. -/
def loadLayers (environment : Environment) (tree : Tree) (paths : List Path) :
    Except ConfigError Config := do
  let merged ← readLayers tree [] paths
  match ConfigSections.ofFields? .strict merged with
  | none => .error (.invalid .misfit)
  | some sections => (resolve environment sections).mapError .invalid

/-- The path of the document for all workspaces, below the home directory. -/
def globalPath (home : Path) : Path := home.join ".codescout/config.toml"

/-- The path of the document of a workspace. -/
def workspacePath (workspace : Path) : Path := workspace.join ".codescout.toml"

/-- Loads the configuration of a workspace. -/
def load (environment : Environment) (tree : Tree) (home workspace : Path) :
    Except ConfigError Config :=
  loadLayers environment tree [globalPath home, workspacePath workspace]

end Config

end SymbolSearch
