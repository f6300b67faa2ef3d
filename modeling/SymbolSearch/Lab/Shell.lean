import SymbolSearch.Files.Tree
import SymbolSearch.Session.State
import SymbolSearch.Time.Duration

/-!
# Programs and commands

A program stands in for the process of a server: it copies what it is told, prints, and waits.

* `Program.step` is one step of a program.
* `commandsOf` cuts a shell script into commands and words.
* `programOf` is the program that a command with arguments stands for.
* `executable` is what becomes of running a file.
* `launchable` is what becomes of launching the command of a server.
-/

namespace SymbolSearch.Lab

/-! ### Programs -/

/-- One thing that a program does. -/
inductive Instruction where
  /-- Copies what comes in, at most so many bytes if there is a limit; without `keep`, what comes
      in is only taken. -/
  | copy (limit : Option Nat) (keep : Bool)
  | print (bytes : ByteArray)
  /-- Closes its output; whoever reads it finds the end. -/
  | closeOutput
  | wait (length : Duration)
  | waitUntil (resume : Nat)

/-- What a program has yet to do; without anything left it ends. -/
abbrev Program := List Instruction

/-- What a program does next. -/
inductive ProgramStep where
  | blocked
  /-- It goes on, having taken so many bytes, and having printed some. -/
  | goesOn (program : Program) (taken : Nat) (printed : ByteArray)
  /-- It goes on, and its output is closed. -/
  | silent (program : Program)
  | ended

namespace Program

/-- One step of a program, with what has come in, whether that is all, and how much it may
    print. -/
def step (now : Nat) (input : ByteArray) (inputEnded : Bool) (room : Nat) :
    Program → ProgramStep
  | [] => .ended
  | .copy (some 0) _ :: rest => .goesOn rest 0 .empty
  | .copy limit keep :: rest =>
    if input.isEmpty then (if inputEnded then .goesOn rest 0 .empty else .blocked)
    else
      let wanted := (limit.map (min input.size)).getD input.size
      let count := if keep then min wanted room else wanted
      if count = 0 then .blocked
      else
        .goesOn (.copy (limit.map (· - count)) keep :: rest) count
          (if keep then input.extract 0 count else .empty)
  | .print bytes :: rest =>
    if bytes.size ≤ room then .goesOn rest 0 bytes
    else if room = 0 then .blocked
    else .goesOn (.print (bytes.extract room bytes.size) :: rest) 0 (bytes.extract 0 room)
  | .closeOutput :: rest => .silent rest
  | .wait length :: rest => .goesOn (.waitUntil (now + length) :: rest) 0 .empty
  | .waitUntil resume :: rest => if resume ≤ now then .goesOn rest 0 .empty else .blocked

/-- The time at which a program goes on by itself. -/
def deadline? : Program → Option Nat
  | .waitUntil resume :: _ => some resume
  | _ => none

end Program

/-! ### Commands -/

/-! ### Words -/

/-- A place between words, or in one. -/
inductive Quotation where
  | bare
  | single
  | double
  /-- Behind a backslash, outside quotation marks. -/
  | bareEscape
  /-- Behind a backslash, between double quotation marks. -/
  | doubleEscape
  /-- The rest of the line is not read. -/
  | comment
  deriving DecidableEq

/-- What was read of a script: finished commands, the words of the current one, and the current
    word, each in reverse. -/
structure ScriptReader where
  quotation : Quotation := .bare
  word : Option (List Char) := none
  words : List String := []
  commands : List (List String) := []

namespace ScriptReader

/-- Adds a character to the current word. -/
def push (c : Char) (reader : ScriptReader) : ScriptReader :=
  { reader with word := some (c :: reader.word.getD []) }

/-- Ends the current word, if there is one. -/
def endWord (reader : ScriptReader) : ScriptReader :=
  match reader.word with
  | none => reader
  | some cs => { reader with word := none, words := String.ofList cs.reverse :: reader.words }

/-- Ends the current command, if there is one. -/
def endCommand (reader : ScriptReader) : ScriptReader :=
  let reader := reader.endWord
  match reader.words with
  | [] => reader
  | words => { reader with words := [], commands := words.reverse :: reader.commands }

/-- Reads a character outside quotation marks. -/
def readBare (c : Char) (reader : ScriptReader) : ScriptReader :=
  match c with
  | '\'' => { reader with quotation := .single, word := some (reader.word.getD []) }
  | '"' => { reader with quotation := .double, word := some (reader.word.getD []) }
  | '\\' => { reader with quotation := .bareEscape }
  | '&' => if (reader.word.getD []).head? = some '>' then reader.push c else reader.endCommand
  | '\n' => reader.endCommand
  | ';' => reader.endCommand
  | ' ' => reader.endWord
  | '\t' => reader.endWord
  | '#' => if reader.word.isNone then { reader with quotation := .comment } else reader.push c
  | c => reader.push c

/-- Reads a character. -/
def read (reader : ScriptReader) (c : Char) : ScriptReader :=
  match reader.quotation with
  | .bare => reader.readBare c
  | .single => if c = '\'' then { reader with quotation := .bare } else reader.push c
  | .double =>
    if c = '"' then { reader with quotation := .bare }
    else if c = '\\' then { reader with quotation := .doubleEscape }
    else reader.push c
  | .bareEscape =>
    let reader := { reader with quotation := .bare }
    if c = '\n' then reader else reader.push c
  | .doubleEscape =>
    let reader := { reader with quotation := .double }
    if c = '\n' then reader
    else if c ∈ ['"', '\\', '$', '`'] then reader.push c
    else (reader.push '\\').push c
  | .comment =>
    if c = '\n' then { reader.endCommand with quotation := .bare } else reader

end ScriptReader

/-- The commands of a script, each with its words. -/
def commandsOf (script : String) : List (List String) :=
  (script.toList.foldl ScriptReader.read {}).endCommand.commands.reverse

/-! ### Programs -/

/-- A text with a character for each escape. -/
def unescape : List Char → List Char
  | '\\' :: 'n' :: rest => '\n' :: unescape rest
  | '\\' :: 'r' :: rest => '\r' :: unescape rest
  | '\\' :: 't' :: rest => '\t' :: unescape rest
  | '\\' :: '\\' :: rest => '\\' :: unescape rest
  | c :: rest => c :: unescape rest
  | [] => []

/-- A text with an argument for each place that wants one. -/
def format : List Char → List String → List Char
  | '%' :: '%' :: rest, args => '%' :: format rest args
  | '%' :: 's' :: rest, args => (args.headD "").toList ++ format rest args.tail
  | '%' :: 'd' :: rest, args => (args.headD "0").toList ++ format rest args.tail
  | c :: rest, args => c :: format rest args
  | [], _ => []

/-- The instruction that prints characters. -/
def printing (cs : List Char) : Instruction := .print (String.ofList cs).toUTF8

/-- A number of seconds with decimals, in milliseconds. -/
def secondsOf (word : String) : Duration :=
  match word.splitOn "." with
  | [whole, decimals] =>
    let digits := (decimals.toList ++ ['0', '0', '0']).take 3
    .ofMillis (whole.toNat?.getD 0 * 1000 + (String.ofList digits).toNat?.getD 0)
  | _ => .ofSecs (word.toNat?.getD 0)

/-- The programs that can be started by their names alone. -/
def knownNames : List String :=
  ["cat", "echo", "false", "head", "printf", "sh", "sleep", "tee", "true"]

/-- What a command does, apart from scripts within scripts; nothing of what it prints is kept
    without `keep`. -/
def instructionsOf (keep : Bool) : List String → List Instruction
  | ["cat"] => [.copy none keep]
  | ["tee"] => [.copy none keep]
  | ["head", "-c", count] => [.copy (some (count.toNat?.getD 0)) keep]
  | ["sleep", length] => [.wait (secondsOf length)]
  | "echo" :: words =>
    if keep then [printing (unescape (" ".intercalate words).toList ++ ['\n'])] else []
  | "printf" :: text :: words =>
    if keep then [printing (format (unescape text.toList) words)] else []
  | _ => []

/-- The words by which a command's output goes elsewhere. -/
def hidings : List String := [">/dev/null", "1>/dev/null", ">&2", "1>&2"]

/-- The words by which a command's output is closed. -/
def closings : List String := [">&-", "1>&-"]

/-- The words by which something else than a command's output goes elsewhere. -/
def others : List String := ["2>/dev/null", "2>&1"]

/-- What the commands of a script do, up to the one that ends it; `heard` says whether anyone still
    hears what the script prints. A command that takes the place of the shell takes its output
    along. -/
def runCommands (heard : Bool) : List (List String) → Program
  | [] => []
  | words :: rest =>
    let redirected := words.any (hidings ++ closings).contains
    let keep := heard && !redirected
    let kept := words.filter fun word => !(hidings ++ closings ++ others).contains word
    match kept with
    | "exit" :: _ => []
    | "exec" :: command =>
      let turn := if heard && redirected then [.closeOutput] else []
      if command.isEmpty then turn ++ runCommands keep rest
      else turn ++ instructionsOf keep command
    | command => instructionsOf keep command ++ runCommands heard rest

/-- What a script does. -/
def runScript (script : String) : Program := runCommands true (commandsOf script)

/-- The program that a name and arguments stand for. A shell without a script takes what comes in
    for one, and finds no commands there. -/
def programOf (name : String) (args : List String) : Program :=
  match name, args with
  | "sh", ["-c", script] => runScript script
  | "sh", _ => [.copy none false]
  | name, args => instructionsOf true (name :: args)

/-! ### Files that run -/

/-- Why a file cannot be run that is no program. -/
def badFormatMessage : String := "Exec format error (os error 8)"

/-- The interpreters of scripts that there are. -/
def interpreters : List String := ["/bin/sh", "/bin/bash", "/usr/bin/env sh"]

/-- What becomes of running a file: a program, or the wording of an error. -/
def executable (tree : Tree) (path : Path) : Except String Program :=
  match tree.target path with
  | .error error => .error error.message
  | .ok (.file content true) =>
    let script := String.ofList (content.toList.map fun byte => Char.ofNat byte.toNat)
    match script.toList with
    | '#' :: '!' :: line =>
      let interpreter := String.ofList (line.takeWhile (· ≠ '\n'))
      if interpreter.trimAscii.toString ∈ interpreters then .ok (runScript script)
      else .error FileError.notFound.message
    | _ => .error badFormatMessage
  | .ok _ => .error FileError.denied.message

/-! ### Processes of servers -/

/-- A program that a command stands for, or why it cannot be started. -/
abbrev Launchable := Except SessionError Program

/-- What stands for the place where the files are. -/
def rootMark : String := "@@"

/-- A text without the place where the files are. -/
def withoutRoot (text : String) : String := text.replace rootMark ""

/-- Whether a path leads to a file that may be run. -/
def isExecutable (tree : Tree) (path : Path) : Bool :=
  match tree.target path with
  | .ok (.file _ isExecutable) => isExecutable
  | _ => false

/-- The program that a command without the mark stands for, if there is one. -/
def knownProgram? (command : String) (args : List String) : Option Program :=
  let name := (command.splitOn "/").getLastD ""
  if name ∈ knownNames && command ∈ [name, "/bin/" ++ name, "/usr/bin/" ++ name] then
    some (programOf name args)
  else none

/-- What the command of a server does, if it is found. -/
def found? (tree : Tree) (command : String) (args : List String) :
    Option (Except String Program) :=
  if command.startsWith rootMark then
    let path := withoutRoot command
    if isExecutable tree path then some (executable tree path) else none
  else (knownProgram? command args).map .ok

/-- What becomes of launching the command of a server in a directory. -/
def launchable (tree : Tree) (root : Path) (command : String) (args : List String) :
    Launchable :=
  let shown := withoutRoot command
  match found? tree command args with
  | none => .error (.commandNotFound shown)
  | some outcome =>
    match tree.target root, outcome with
    | .error error, _ => .error (.spawnFailed shown error.message)
    | .ok .directory, .ok program => .ok program
    | .ok .directory, .error reason => .error (.spawnFailed shown reason)
    | .ok _, _ => .error (.spawnFailed shown FileError.notDirectory.message)

end SymbolSearch.Lab
