import SymbolSearch.Url.Host

/-!
# URLs

* `Url` is a URL in its parts, and `Url.text` the URL as it is written.
* `Url.asFolder` is the same URL with a slash at the end of its path, and `Url.child` the URL of a
  name in a folder.
* `Url.parse` reads a URL that has a scheme. Schemes of the web are special: they need a host,
  have a port of their own, and take a backslash for a slash.
-/

namespace SymbolSearch

/-- Who answers for a URL. -/
structure Authority where
  user : String := ""
  password : Option String := none
  host : Host
  /-- The port, unless it is the one of the scheme. -/
  port : Option Nat := none
  deriving DecidableEq, Repr

/-- The path of a URL. -/
inductive UrlPath where
  /-- A text without a slash in front. -/
  | plain (text : String)
  /-- The parts between slashes. -/
  | parts (parts : List String)
  deriving DecidableEq, Repr

/-- A URL in its parts. -/
structure Url where
  scheme : String
  authority : Option Authority := none
  path : UrlPath
  query : Option String := none
  fragment : Option String := none
  deriving DecidableEq, Repr

/-- An authority as it stands in a URL. -/
def Authority.text (authority : Authority) : String :=
  let password := (authority.password.map (":" ++ ·)).getD ""
  let user := authority.user ++ password
  (if user = "" then "" else user ++ "@") ++ authority.host.text
    ++ (authority.port.map fun port => ":" ++ toString port).getD ""

/-- A path as it stands in a URL. -/
def UrlPath.text : UrlPath → String
  | .plain text => text
  | .parts [] => ""
  | .parts (first :: others) => "/" ++ "/".intercalate (first :: others)

namespace Url

/-- The URL as it is written. A path that would look like an authority is told apart from one. -/
def text (url : Url) : String :=
  let start := match url.authority with
    | some authority => "//" ++ authority.text
    | none => if url.path.text.startsWith "//" then "/." else ""
  url.scheme ++ ":" ++ start ++ url.path.text ++ (url.query.map ("?" ++ ·)).getD ""
    ++ (url.fragment.map ("#" ++ ·)).getD ""

/-- The same URL with a slash at the end of its path. -/
def asFolder (url : Url) : Url :=
  match url.path with
  | .plain text => { url with path := .plain (text ++ "/") }
  | .parts parts =>
    if parts.getLast? = some "" then url else { url with path := .parts (parts ++ [""]) }

/-- The URL of a plain name in place of the last part of the path. -/
def child (url : Url) (name : String) : Except UrlError Url :=
  match url.path with
  | .plain _ => .error .opaqueBase
  | .parts parts =>
    .ok { url with path := .parts (parts.dropLast ++ [name]), query := none, fragment := none }

end Url

end SymbolSearch

namespace SymbolSearch.Url

/-! ### Reading URLs -/

/-! ### Schemes -/

/-- The schemes with a host, and their ports. -/
def specialPorts : List (String × Nat) :=
  [("http", 80), ("https", 443), ("ws", 80), ("wss", 443), ("ftp", 21)]

/-- How a scheme is read. -/
inductive SchemeKind where
  | special
  | file
  | other
  deriving DecidableEq, Repr

/-- How a scheme is read. -/
def kindOf (scheme : String) : SchemeKind :=
  if scheme = "file" then .file
  else if (specialPorts.lookup scheme).isSome then .special
  else .other

/-- The scheme, in small letters, and what follows its colon. -/
def splitScheme? (cs : List Char) : Option (String × List Char) :=
  let name := cs.takeWhile fun c => c.isAlphanum || c ∈ ['+', '-', '.']
  match name.head?, cs.drop name.length with
  | some first, ':' :: rest =>
    if first.isAlpha then some (String.ofList (name.map Char.toLower), rest) else none
  | _, _ => none

/-! ### Paths -/

/-- Whether a character parts names in a path. -/
def isSlash (kind : SchemeKind) (c : Char) : Bool := c = '/' || (c = '\\' && kind ≠ .other)

/-- Cuts characters at every slash. -/
def cutPath (kind : SchemeKind) (cs : List Char) : List (List Char) :=
  cs.foldr
    (fun c pieces =>
      if isSlash kind c then [] :: pieces
      else match pieces with
        | piece :: rest => (c :: piece) :: rest
        | [] => [[c]])
    [[]]

/-- Whether a part stands for the folder itself. -/
def isDot (part : String) : Bool := part.toLower ∈ [".", "%2e"]

/-- Whether a part stands for the folder above. -/
def isDoubleDot (part : String) : Bool := part.toLower ∈ ["..", ".%2e", "%2e.", "%2e%2e"]

/-- Follows the parts of a path; `done` are the parts before them, in reverse. -/
def followParts : List String → List String → List String
  | done, [] => done.reverse
  | done, part :: rest =>
    let close (done : List String) : List String := if rest.isEmpty then "" :: done else done
    if isDoubleDot part then followParts (close done.tail) rest
    else if isDot part then followParts (close done) rest
    else followParts (part :: done) rest

/-- The parts of a path after its first slash. -/
def pathParts (kind : SchemeKind) (cs : List Char) : List String :=
  followParts []
    ((cutPath kind cs).map fun part => String.ofList (escape escapedInPath part))

/-- Characters without the slash in front, if there is one. -/
def dropSlash (kind : SchemeKind) : List Char → List Char
  | c :: rest => if isSlash kind c then rest else c :: rest
  | [] => []

/-! ### Queries and fragments -/

/-- What stands before the first of some characters, and that character with the rest. -/
def splitBefore (stops : List Char) (cs : List Char) : List Char × List Char :=
  cs.span fun c => !stops.contains c

/-- The URL with a query and a fragment. -/
def withTail (kind : SchemeKind) (url : Url) (tail : List Char) : Url :=
  let (query, fragment) := splitBefore ['#'] tail
  { url with
    query :=
      match query with
      | '?' :: cs => some (String.ofList (escape (escapedInQuery (kind ≠ .other)) cs))
      | _ => none
    fragment :=
      match fragment with
      | '#' :: cs => some (String.ofList (escape escapedInFragment cs))
      | _ => none }

/-! ### Authorities -/

/-- Where the authority ends. -/
def endsAuthority (kind : SchemeKind) (c : Char) : Bool :=
  isSlash kind c || c = '?' || c = '#'

/-- What stands before and after the last at sign. -/
def splitUser? (cs : List Char) : Option (List Char × List Char) :=
  match cs.reverse.span (· ≠ '@') with
  | (_, []) => none
  | (after, _ :: before) => some (before.reverse, after.reverse)

/-- What stands before the colon of the port, and what stands after it. A colon between brackets is
    none. -/
def splitPort : Bool → List Char → List Char × Option (List Char)
  | _, [] => ([], none)
  | inBrackets, c :: rest =>
    if c = ':' && !inBrackets then ([], some rest)
    else
      let (host, port) :=
        splitPort (if c = '[' then true else if c = ']' then false else inBrackets) rest
      (c :: host, port)

/-- The port in some digits, unless it is the one of the scheme. -/
def port? (scheme : String) (cs : List Char) : Except UrlError (Option Nat) :=
  if cs.isEmpty then .ok none
  else if !cs.all Char.isDigit then .error .badPort
  else
    let port := cs.foldl (fun n c => n * 10 + (c.toNat - '0'.toNat)) 0
    if 65535 < port then .error .badPort
    else .ok (if specialPorts.lookup scheme = some port then none else some port)

/-- The user and the password before an at sign. An empty password is none. -/
def userOf (cs : List Char) : String × Option String :=
  let (user, password) := splitBefore [':'] cs
  let shown (cs : List Char) : String := String.ofList (escape escapedInUser cs)
  (shown user, if password.length ≤ 1 then none else some (shown password.tail))

/-- The authority in some characters. -/
def authorityOf (scheme : String) (kind : SchemeKind) (cs : List Char) :
    Except UrlError Authority := do
  let (before, after) := (splitUser? cs).getD ([], cs)
  if (splitUser? cs).isSome && after.isEmpty then throw .emptyHost
  let (user, password) := userOf before
  let (hostText, portText) := splitPort false after
  let host ←
    if kind = .special then (if hostText.isEmpty then throw .emptyHost else Host.parse hostText)
    else Host.parseOther hostText
  if hostText.isEmpty && portText.isSome then throw .emptyHost
  let port ← port? scheme (portText.getD [])
  return { user, password, host, port }

/-! ### URLs -/

/-- A URL with an authority, from what follows the two slashes. -/
def parseAuthority (scheme : String) (kind : SchemeKind) (cs : List Char) : Except UrlError Url :=
  let (authorityText, rest) := cs.span fun c => !endsAuthority kind c
  do
    let authority ← authorityOf scheme kind authorityText
    let (path, tail) := splitBefore ['?', '#'] rest
    let parts :=
      if path.isEmpty && kind = .other then [] else pathParts kind (dropSlash kind path)
    return withTail kind { scheme, authority := some authority, path := .parts parts } tail

/-- The URL of a file, from what follows the colon. A host that is this machine is left out, and so
    are all slashes in front of the path but one. -/
def parseFile (cs : List Char) : Except UrlError Url := do
  let (before, tail) := splitBefore ['?', '#'] cs
  let isLong := match before with
    | a :: b :: _ => isSlash .file a && isSlash .file b
    | _ => false
  let (hostText, path) :=
    if isLong then (before.drop 2).span fun c => !isSlash .file c else ([], before)
  let host ← if hostText.isEmpty then pure (Host.name "") else Host.parse hostText
  let host := if host = .name "localhost" then .name "" else host
  let parts := pathParts .file (dropSlash .file path)
  let kept := parts.dropWhile (· = "")
  return withTail .file
    { scheme := "file", authority := some { host },
      path := .parts (if kept.isEmpty then [""] else kept) } tail

/-- A URL with another scheme, from what follows the colon. -/
def parseOther (scheme : String) (cs : List Char) : Except UrlError Url :=
  match cs with
  | '/' :: '/' :: rest => parseAuthority scheme .other rest
  | _ =>
    let (path, tail) := splitBefore ['?', '#'] cs
    let path : UrlPath := match path with
      | '/' :: rest => .parts (pathParts .other rest)
      | path => .plain (String.ofList (escape escapedAlways path))
    .ok (withTail .other { scheme, path } tail)

/-- The characters that count: without blanks and control characters around them, and without line
    breaks and tabulators. -/
def relevant (cs : List Char) : List Char :=
  let isGap (c : Char) : Bool := c.toNat ≤ 0x20
  ((cs.dropWhile isGap).reverse.dropWhile isGap).reverse.filter fun c =>
    c ≠ '\t' && c ≠ '\n' && c ≠ '\r'

/-- Reads a URL. -/
def parse (text : String) : Except UrlError Url :=
  match splitScheme? (relevant text.toList) with
  | none => .error .relative
  | some (scheme, rest) =>
    match kindOf scheme with
    | .special => parseAuthority scheme .special (rest.dropWhile (isSlash .special))
    | .file => parseFile rest
    | .other => parseOther scheme rest

end SymbolSearch.Url
