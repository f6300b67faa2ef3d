import SymbolSearch.Files.Tree

/-!
# Command lines

* `CommandLine` is what a command line asks for.
* `CommandLine.read` reads the words of a command line. They are read one after the other, and
  the first that says so ends the reading: with help, with the version, or as a misuse.
-/

namespace SymbolSearch

/-- What is to be done. -/
inductive Command where
  /-- A proxy serves until it is told to stop. -/
  | serve
  | symbols (query : String) (ecosystems : List String)
  | references (document : String) (line character : UInt32) (includeDeclaration : Bool)
  | status
  | restart
  | stop
  /-- A proxy is kept running until the command is interrupted. -/
  | supervise
  deriving DecidableEq, Repr

/-- What a command line asks for. -/
structure CommandLine where
  workspace : Option Path := none
  port : Option UInt16 := none
  command : Command
  deriving DecidableEq, Repr

/-- Why nothing is to be done. -/
inductive Halt where
  | help
  | version
  | misuse
  deriving DecidableEq, Repr

namespace CommandLine

/-! ### Options -/

/-- An option. -/
inductive Flag where
  | workspace
  | port
  | ecosystem
  | includeDeclaration
  | help
  | version
  deriving DecidableEq, Repr

/-- The words that name commands. -/
inductive Verb where
  | serve
  | symbols
  | references
  | status
  | restart
  | stop
  | supervise
  deriving DecidableEq, Repr

/-- The commands under their names. -/
def verbs : List (String × Verb) :=
  [("serve", .serve), ("symbols", .symbols), ("references", .references), ("status", .status),
    ("restart", .restart), ("stop", .stop), ("supervise", .supervise)]

/-- The options that can be given before a command or after it: their names and letters. -/
def flagsOf : Option Verb → List (String × Option Char × Flag)
  | none => common ++ [("version", some 'V', .version)]
  | some .symbols => common ++ [("ecosystem", some 'e', .ecosystem)]
  | some .references => common ++ [("include-declaration", none, .includeDeclaration)]
  | some _ => common
where
  common : List (String × Option Char × Flag) :=
    [("workspace", some 'w', .workspace), ("port", none, .port), ("help", some 'h', .help)]

/-- The option with a name. -/
def flagNamed? (verb : Option Verb) (name : String) : Option Flag :=
  (flagsOf verb).lookup name |>.map (·.2)

/-- The option with a letter. -/
def flagLettered? (verb : Option Verb) (letter : Char) : Option Flag :=
  ((flagsOf verb).find? fun entry => entry.2.1 = some letter).map (·.2.2)

/-- Whether an option is followed by a value. -/
def takesValue : Flag → Bool
  | .workspace => true
  | .port => true
  | .ecosystem => true
  | _ => false

/-! ### Values -/

/-- A number of digits, perhaps with a sign in front, that is below a limit and not below zero. -/
def numberBelow? (limit : Nat) (word : String) : Option Nat :=
  let (limit, digits) := match word.toList with
    | '+' :: rest => (limit, rest)
    | '-' :: rest => (1, rest)
    | cs => (limit, cs)
  if digits.isEmpty || !digits.all Char.isDigit then none
  else
    let value := digits.foldl (fun n c => n * 10 + (c.toNat - '0'.toNat)) 0
    if value < limit then some value else none

/-- What was read of the words before or after a command. -/
structure Reading where
  workspace : Option Path := none
  port : Option UInt16 := none
  ecosystems : List String := []
  includeDeclaration : Bool := false
  /-- The words that are no options. -/
  words : List String := []

namespace Reading

/-- Takes an option without a value. -/
def takeBare (flag : Flag) (reading : Reading) : Except Halt Reading :=
  match flag with
  | .help => .error .help
  | .version => .error .version
  | .includeDeclaration =>
    if reading.includeDeclaration then .error .misuse
    else .ok { reading with includeDeclaration := true }
  | _ => .error .misuse

/-- Takes an option with a value. Only ecosystems may be given more than once. -/
def take (flag : Flag) (value : String) (reading : Reading) : Except Halt Reading :=
  match flag with
  | .workspace =>
    if value = "" || reading.workspace.isSome then .error .misuse
    else .ok { reading with workspace := some value }
  | .port =>
    match numberBelow? 65536 value, reading.port with
    | some port, none => .ok { reading with port := some port.toUInt16 }
    | _, _ => .error .misuse
  | .ecosystem => .ok { reading with ecosystems := reading.ecosystems ++ [value] }
  | _ => .error .misuse

/-- The kinds of words that a command takes: whether each is a number. -/
def wanted : Verb → List Bool
  | .symbols => [false]
  | .references => [false, true, true]
  | _ => []

/-- Takes a word that is no option. -/
def takeWord (verb : Verb) (word : String) (reading : Reading) : Except Halt Reading :=
  match (wanted verb)[reading.words.length]? with
  | none => .error .misuse
  | some isNumber =>
    if isNumber && (numberBelow? UInt32.size word).isNone then .error .misuse
    else .ok { reading with words := reading.words ++ [word] }

end Reading

/-- What a word may be. -/
inductive WordKind where
  /-- All words after it are no options. -/
  | separator
  | long (name : String) (value : Option String)
  | short (letters : List Char)
  | plain

/-- What a word may be. -/
def kindOf (word : String) : WordKind :=
  match word.toList with
  | ['-', '-'] => .separator
  | '-' :: '-' :: cs =>
    match cs.span (· ≠ '=') with
    | (name, _ :: value) => .long (String.ofList name) (some (String.ofList value))
    | (name, []) => .long (String.ofList name) none
  | '-' :: c :: cs => .short (c :: cs)
  | _ => .plain

/-- Whether a word can be the value of an option before it. -/
def canBeValue (word : String) : Bool :=
  match kindOf word with
  | .plain => true
  | _ => false

/-- What some letters after a dash say: what was read, and perhaps an option that waits for the next
    word. -/
def readLetters (verb : Option Verb) :
    List Char → Reading → Except Halt (Reading × Option Flag)
  | [], reading => .ok (reading, none)
  | letter :: rest, reading =>
    match flagLettered? verb letter with
    | none => .error .misuse
    | some flag =>
      if takesValue flag then
        match rest with
        | [] => .ok (reading, some flag)
        | '=' :: value => (reading.take flag (String.ofList value)).map (·, none)
        | value => (reading.take flag (String.ofList value)).map (·, none)
      else do readLetters verb rest (← reading.takeBare flag)

/-- What one word with dashes says: what was read, and perhaps an option that waits for the next
    word. -/
def readFlag (verb : Option Verb) (kind : WordKind) (reading : Reading) :
    Except Halt (Reading × Option Flag) :=
  match kind with
  | .long name value =>
    match flagNamed? verb name, value with
    | none, _ => .error .misuse
    | some flag, some value => (reading.take flag value).map (·, none)
    | some flag, none =>
      if takesValue flag then .ok (reading, some flag)
      else (reading.takeBare flag).map (·, none)
  | .short letters => readLetters verb letters reading
  | _ => .error .misuse

/-- Reads the words after a command. -/
def readAfter (verb : Verb) (reading : Reading) : List String → Except Halt Reading
  | [] => .ok reading
  | word :: rest =>
    match kindOf word with
    | .plain => do readAfter verb (← reading.takeWord verb word) rest
    | .separator => rest.foldlM (fun reading word => reading.takeWord verb word) reading
    | kind => do
      match ← readFlag (some verb) kind reading, rest with
      | (reading, none), rest => readAfter verb reading rest
      | (_, some _), [] => throw .misuse
      | (reading, some flag), value :: rest =>
        if canBeValue value then readAfter verb (← reading.take flag value) rest
        else throw .misuse

/-- What is asked of the command that explains others. -/
def explain : List String → Halt
  | [] => .help
  | [word] => if word = "help" || (verbs.lookup word).isSome then .help else .misuse
  | _ => .misuse

/-- The command that was read, unless words are missing. -/
def command? (verb : Verb) (reading : Reading) : Option Command :=
  let number (word : String) : UInt32 := ((numberBelow? UInt32.size word).getD 0).toUInt32
  match verb, reading.words with
  | .serve, _ => some .serve
  | .symbols, [query] => some (.symbols query reading.ecosystems)
  | .references, [document, line, character] =>
    some (.references document (number line) (number character) reading.includeDeclaration)
  | .status, _ => some .status
  | .restart, _ => some .restart
  | .stop, _ => some .stop
  | .supervise, _ => some .supervise
  | _, _ => none

/-- Reads the words after the name of a command. Options that were given before the command count
    unless they are given again. -/
def readCommand (outer : Reading) (name : String) (rest : List String) :
    Except Halt CommandLine :=
  match verbs.lookup name with
  | none => .error (if name = "help" then explain rest else .misuse)
  | some verb => do
    let reading ← readAfter verb {} rest
    match command? verb reading with
    | none => throw .misuse
    | some command =>
      return {
        workspace := reading.workspace <|> outer.workspace
        port := reading.port <|> outer.port
        command }

/-- Reads words up to the name of a command. -/
def readBefore (reading : Reading) : List String → Except Halt CommandLine
  | [] => .error .misuse
  | word :: rest =>
    match kindOf word with
    | .plain => readCommand reading word rest
    | .separator => .error .misuse
    | kind => do
      match ← readFlag none kind reading, rest with
      | (reading, none), rest => readBefore reading rest
      | (_, some _), [] => throw .misuse
      | (reading, some flag), value :: rest =>
        if canBeValue value then readBefore (← reading.take flag value) rest
        else throw .misuse

/-- Reads the words of a command line. -/
def read (words : List String) : Except Halt CommandLine := readBefore {} words

end CommandLine
end SymbolSearch
