import SymbolSearch.Rpc.Message
import SymbolSearch.Time.Duration

/-!
# Scripted servers

A script says how a server behaves, so that a whole run is determined.

* `Deed` is one thing that a scripted server does about a message, and `Rule` says when.
* `Script.respondTo` finds what is done about a message.
-/

namespace SymbolSearch.Lab

/-- The symbol that a server makes up for a search: its kind and where it stands. -/
structure EchoPlace where
  kind : Nat
  uri : String
  line : Nat
  character : Nat

/-- One thing that a scripted server does about a message. -/
inductive Deed where
  | respond (value : Json)
  | fail (code : Json) (text : Json)
  | respondAfter (delay : Duration) (value : Json)
  | notify (method : Json) (params : Json)
  | ask (method : Json) (params : Json)
  /-- Bytes are written as they are. -/
  | write (bytes : ByteArray)
  /-- A symbol is found that has the name that was searched for. -/
  | echo (place : EchoPlace)
  | echoAfter (delay : Duration) (place : EchoPlace)
  /-- What is done where no rule says anything. -/
  | usual
  | hangUp

/-- What is done about the messages with a method. -/
structure Rule where
  method : String
  /-- The parameters that a message must have. -/
  conditions : List (String × Json) := []
  /-- How often the rule may still be used, if there is a limit. -/
  uses : Option Nat := none
  deeds : List Deed

namespace Rule

/-- Whether the rule is about a message. -/
def covers (rule : Rule) (method : String) (params : Json) : Bool :=
  rule.method = method && rule.uses ≠ some 0
    && rule.conditions.all fun (name, value) => params.field? name == some value

/-- The rule after one use. -/
def spend (rule : Rule) : Rule := { rule with uses := rule.uses.map (· - 1) }

end Rule

/-- How the servers of one ecosystem behave, and what they have met with. -/
structure Script where
  rules : List Rule := []
  /-- Whether the command that launches the servers is missing. -/
  isMissing : Bool := false
  launches : Nat := 0
  /-- Every message that a server received, the first one first. -/
  received : Array Json := #[]

namespace Script

/-- What a server with all capabilities says about itself. -/
def usualHello : Json :=
  .object [
    ("capabilities", .object [
      ("documentSymbolProvider", .bool true),
      ("referencesProvider", .bool true),
      ("workspaceSymbolProvider", .bool true)]),
    ("serverInfo", .object [("name", .string "fake-ls"), ("version", .string "0.0.0")])]

/-- What is done about a message where no rule says anything. -/
def usual (method : String) : List Deed :=
  if method = "initialize" then [.respond usualHello]
  else if method = "shutdown" then [.respond .null]
  else if method ∈ ["textDocument/documentSymbol", "textDocument/references",
      "workspace/symbol"] then
    [.respond (.array [])]
  else []

/-- The first rule that is about a message is used. -/
def useRule (method : String) (params : Json) : List Rule → List Rule × Option (List Deed)
  | [] => ([], none)
  | rule :: rules =>
    if rule.covers method params then (rule.spend :: rules, some rule.deeds)
    else
      let (rules, deeds) := useRule method params rules
      (rule :: rules, deeds)

/-- What is done about a message. -/
def respondTo (script : Script) (method : String) (params : Json) : List Deed × Script :=
  let (rules, deeds) := useRule method params script.rules
  let chosen := (deeds.getD [.usual]).flatMap fun deed =>
    match deed with
    | .usual => usual method
    | other => [other]
  (chosen, { script with rules })

end Script

/-- The symbol that answers a search for the given parameters. -/
def EchoPlace.answer (place : EchoPlace) (params : Json) : Json :=
  let name := ((params.field? "query").bind Json.string?).getD ""
  let point (character : Nat) : Json :=
    .object [("character", .nat character), ("line", .nat place.line)]
  .array [.object [
    ("kind", .nat place.kind),
    ("location", .object [
      ("range", .object [("end", point (place.character + name.utf8ByteSize)),
        ("start", point place.character)]),
      ("uri", .string place.uri)]),
    ("name", .string name)]]

end SymbolSearch.Lab
