import SymbolSearch.Text.Lower
import SymbolSearch.Text.Utf8
import SymbolSearch.Url.Escape

/-!
# Hosts

* `domainName?` is the name of a host in small letters and ASCII. A label with other characters is
  written in Punycode: its ASCII characters, and then, from the smallest character up, how far it is
  to the place of each, in digits whose weights adapt to what came before.
* `Host.parse` reads the host of a URL: a name, or an address in one of two forms.
* `Host.text` writes a host.
* `UrlError` is why something is no URL.
-/

namespace SymbolSearch.Url

/-! ### Names -/

/-! ### Punycode -/

namespace Punycode

/-- The digit for a value below 36. -/
def digit (value : Nat) : Char :=
  Char.ofNat (if value < 26 then 'a'.toNat + value else '0'.toNat + value - 26)

/-- The threshold of a digit, counted in steps of 36, under a bias. -/
def threshold (k bias : Nat) : Nat :=
  if k ≤ bias then 1 else if bias + 26 ≤ k then 26 else k - bias

/-- Divides by 35 until little is left, and counts 36 for each division. -/
def shrink : Nat → Nat → Nat → Nat × Nat
  | 0, delta, k => (delta, k)
  | fuel + 1, delta, k => if 455 < delta then shrink fuel (delta / 35) (k + 36) else (delta, k)

/-- The bias after a distance was written. -/
def adapt (delta count : Nat) (isFirst : Bool) : Nat :=
  let damped := if isFirst then delta / 700 else delta / 2
  let (rest, k) := shrink damped (damped + damped / count) 0
  k + 36 * rest / (rest + 38)

/-- The digits of a distance. -/
def digits (bias : Nat) : Nat → Nat → Nat → List Char
  | 0, _, _ => []
  | fuel + 1, k, rest =>
    let t := threshold k bias
    if rest < t then [digit rest]
    else digit (t + (rest - t) % (36 - t)) :: digits bias fuel (k + 36) ((rest - t) / (36 - t))

/-- What was written so far. -/
structure Writer where
  /-- What was written, in reverse. -/
  done : List Char
  /-- How far it is to the place of the next character. -/
  delta : Nat := 0
  bias : Nat := 72
  /-- How many characters were handled. -/
  handled : Nat

/-- Goes past a character while the places of `current` are written; `basic` counts the ASCII
    characters. -/
def pass (basic current : Nat) (writer : Writer) (c : Char) : Writer :=
  if c.toNat < current then { writer with delta := writer.delta + 1 }
  else if c.toNat = current then
    { done := (digits writer.bias (writer.delta + 2) 36 writer.delta).reverse ++ writer.done
      delta := 0
      bias := adapt writer.delta (writer.handled + 1) (writer.handled == basic)
      handled := writer.handled + 1 }
  else writer

/-- Writes the places of characters, which are ascending; `next` is the smallest that may come. -/
def writeAll (cs : List Char) (basic : Nat) : List Nat → Nat → Writer → Writer
  | [], _, writer => writer
  | current :: rest, next, writer =>
    let writer :=
      { writer with delta := writer.delta + (current - next) * (writer.handled + 1) }
    let writer := cs.foldl (pass basic current) writer
    writeAll cs basic rest (current + 1) { writer with delta := writer.delta + 1 }

/-- Puts a number in its place among ascending numbers, unless it is there. -/
def insert (n : Nat) : List Nat → List Nat
  | [] => [n]
  | m :: rest => if n < m then n :: m :: rest else if n = m then m :: rest else m :: insert n rest

/-- Characters in Punycode. -/
def encode (cs : List Char) : List Char :=
  let basic := cs.filter fun c => c.toNat < 128
  let others := (cs.filter fun c => 128 ≤ c.toNat).foldl (fun ns c => insert c.toNat ns) []
  let start := if basic.isEmpty then [] else '-' :: basic.reverse
  (writeAll cs basic.length others 128 { done := start, handled := basic.length }).done.reverse

end Punycode

/-! ### Names -/

/-- Whether an ASCII character may not stand in the name of a host. -/
def isForbidden (c : Char) : Bool :=
  c.toNat ≤ 0x20 || c.toNat = 0x7f
    || c ∈ ['"', '#', '%', '/', ':', '<', '>', '?', '@', '[', '\\', ']', '^', '`', '\x7b', '|',
      '\x7d']

/-- A character of full width as the ASCII character that it shows, and a full stop for each kind of
    it. -/
def narrow (c : Char) : Char :=
  if 0xff01 ≤ c.toNat && c.toNat ≤ 0xff5e then Char.ofNat (c.toNat - 0xfee0)
  else if c.toNat = 0x3002 || c.toNat = 0xff61 then '.'
  else c

/-- Whether a character counts for nothing in a name. -/
def isIgnored (c : Char) : Bool :=
  c.toNat = 0xad || c.toNat = 0x200b || c.toNat = 0x2060 || c.toNat = 0xfeff

/-- Cuts characters at every dot. -/
def labels (cs : List Char) : List (List Char) :=
  cs.foldr
    (fun c pieces =>
      if c = '.' then [] :: pieces
      else match pieces with
        | piece :: rest => (c :: piece) :: rest
        | [] => [[c]])
    [[]]

/-- A label in ASCII. -/
def asciiLabel (cs : List Char) : List Char :=
  if cs.all fun c => c.toNat < 128 then cs else "xn--".toList ++ Punycode.encode cs

/-- The name of a host in small letters and ASCII, unless it is none. -/
def domainName? (cs : List Char) : Option String := do
  let text ← Text.decodeStrict ⟨(unescape cs).toArray⟩
  let folded := (Text.lowerText (String.ofList
    ((text.toList.filter fun c => !isIgnored c).map narrow))).toList
  if folded.any isForbidden then none
  else some (String.ofList (['.'].intercalate ((labels folded).map asciiLabel)))

end SymbolSearch.Url

namespace SymbolSearch

/-! ### Hosts -/

/-- Why something is no URL. -/
inductive UrlError where
  | emptyHost
  | badName
  | badPort
  | badIpv4
  | badIpv6
  | badHostCharacter
  /-- There is no scheme. -/
  | relative
  /-- There is a path that nothing can be joined to. -/
  | opaqueBase
  deriving DecidableEq, Repr

/-- The wording of an error. -/
def UrlError.message : UrlError → String
  | .emptyHost => "empty host"
  | .badName => "invalid international domain name"
  | .badPort => "invalid port number"
  | .badIpv4 => "invalid IPv4 address"
  | .badIpv6 => "invalid IPv6 address"
  | .badHostCharacter => "invalid domain character"
  | .relative => "relative URL without a base"
  | .opaqueBase => "relative URL with a cannot-be-a-base base"

/-- The host of a URL. -/
inductive Host where
  | name (text : String)
  | ipv4 (address : Nat)
  /-- Eight pieces below 65536. -/
  | ipv6 (pieces : List Nat)
  deriving DecidableEq, Repr

namespace Host

/-! ### Addresses of four numbers -/

/-- The value of digits in some base. -/
def number? (base : Nat) (cs : List Char) : Option Nat :=
  cs.foldlM
    (fun value c => do
      let digit ← Url.hexDigit? c
      if digit < base then some (value * base + digit) else none)
    0

/-- A part of an address: in base 16 after `0x`, in base 8 after `0`, otherwise in base 10. -/
def ipv4Part? : List Char → Option Nat
  | [] => none
  | '0' :: 'x' :: digits => number? 16 digits
  | '0' :: 'X' :: digits => number? 16 digits
  | '0' :: c :: digits => number? 8 (c :: digits)
  | digits => number? 10 digits

/-- The parts of a name between dots, without an empty one at the end. -/
def dottedParts (name : String) : List (List Char) :=
  let parts := Url.labels name.toList
  if parts.getLast? = some [] then parts.dropLast else parts

/-- Whether a name ends in a number, and so has to be an address. -/
def endsInNumber (name : String) : Bool :=
  match (dottedParts name).getLast? with
  | none => false
  | some last => (!last.isEmpty && last.all Char.isDigit) || (ipv4Part? last).isSome

/-- The address in the parts of a name. The last part fills all the places that are left. -/
def ipv4? (name : String) : Option Nat := do
  let numbers ← (dottedParts name).mapM ipv4Part?
  let last ← numbers.getLast?
  let firsts := numbers.dropLast
  if 3 < firsts.length || firsts.any (255 < ·) || Nat.pow 256 (4 - firsts.length) ≤ last then none
  else
    some (firsts.zipIdx.foldl (fun address (n, i) => address + n * Nat.pow 256 (3 - i)) last)

/-! ### Addresses of eight pieces -/

/-- Cuts characters at every colon. -/
def colonParts (cs : List Char) : List (List Char) :=
  cs.foldr
    (fun c pieces =>
      if c = ':' then [] :: pieces
      else match pieces with
        | piece :: rest => (c :: piece) :: rest
        | [] => [[c]])
    [[]]

/-- A number below 256 without a zero in front. -/
def byte? : List Char → Option Nat
  | [] => none
  | ['0'] => some 0
  | '0' :: _ => none
  | digits => (number? 10 digits).filter (· < 256)

/-- The pieces of a group: one of up to four digits, or two for an address of four numbers, which
    may only be the last group. -/
def group? (isLast : Bool) (cs : List Char) : Option (List Nat) :=
  if isLast && cs.contains '.' then
    match (Url.labels cs).mapM byte? with
    | some [a, b, c, d] => some [a * 256 + b, c * 256 + d]
    | _ => none
  else if cs.isEmpty || 4 < cs.length then none
  else (number? 16 cs).map fun n => [n]

/-- The pieces of groups between colons; no text is no groups. -/
def groups? (isEnd : Bool) (cs : List Char) : Option (List Nat) :=
  if cs.isEmpty then some []
  else do
    let parts := colonParts cs
    let pieces ← parts.zipIdx.mapM fun (part, i) => group? (isEnd && i + 1 = parts.length) part
    return pieces.flatten

/-- What stands before and after the first two colons in a row. -/
def splitGap? : List Char → Option (List Char × List Char)
  | [] => none
  | ':' :: ':' :: rest => some ([], rest)
  | c :: rest => (splitGap? rest).map fun (before, after) => (c :: before, after)

/-- The pieces of an address. Two colons in a row stand for at least one piece that is zero. -/
def ipv6? (cs : List Char) : Option (List Nat) := do
  match splitGap? cs with
  | none =>
    let pieces ← groups? true cs
    if pieces.length = 8 then some pieces else none
  | some (before, after) =>
    let before ← groups? false before
    let after ← groups? true after
    let count := before.length + after.length
    if count ≤ 7 then some (before ++ List.replicate (8 - count) 0 ++ after) else none

/-! ### Reading -/

/-- What stands between brackets is an address of eight pieces. -/
def bracketed (cs : List Char) : Except UrlError Host :=
  match cs.getLast?, ipv6? cs.dropLast with
  | some ']', some pieces => .ok (.ipv6 pieces)
  | _, _ => .error .badIpv6

/-- The host of a URL with a special scheme. -/
def parse (cs : List Char) : Except UrlError Host :=
  match cs with
  | '[' :: rest => bracketed rest
  | cs =>
    match Url.domainName? cs with
    | none => .error .badName
    | some "" => .error .emptyHost
    | some domain =>
      if endsInNumber domain then
        match ipv4? domain with
        | some address => .ok (.ipv4 address)
        | none => .error .badIpv4
      else .ok (.name domain)

/-- Whether a character may not stand in a host of any scheme. -/
def isForbiddenAnywhere (c : Char) : Bool :=
  c ∈ ['\x00', '\t', '\n', '\r', ' ', '#', '/', ':', '<', '>', '?', '@', '[', '\\', ']', '^', '|']

/-- The host of a URL with another scheme. -/
def parseOther (cs : List Char) : Except UrlError Host :=
  match cs with
  | '[' :: rest => bracketed rest
  | cs =>
    if cs.any isForbiddenAnywhere then .error .badHostCharacter
    else .ok (.name (String.ofList (Url.escape Url.escapedAlways cs)))

/-! ### Writing -/

/-- The length of the zeros in front. -/
def zeros (pieces : List Nat) : Nat := (pieces.takeWhile (· == 0)).length

/-- Where the longest run of zeros begins, and its length; the first of equal ones. -/
def longestZeros : List Nat → Nat × Nat
  | [] => (0, 0)
  | piece :: rest =>
    let (start, length) := longestZeros rest
    let here := zeros (piece :: rest)
    if length ≤ here then (0, here) else (start + 1, length)

/-- A piece in hexadecimal digits. -/
def pieceText (piece : Nat) : String := String.ofList (Nat.toDigits 16 piece)

/-- An address of eight pieces. Two colons stand for the longest run of zeros, if it has two or
    more. -/
def ipv6Text (pieces : List Nat) : String :=
  let join (pieces : List Nat) : String := ":".intercalate (pieces.map pieceText)
  let (start, length) := longestZeros pieces
  if length < 2 then join pieces
  else join (pieces.take start) ++ "::" ++ join (pieces.drop (start + length))

/-- A host as it stands in a URL. -/
def text : Host → String
  | .name text => text
  | .ipv4 address =>
    ".".intercalate ([3, 2, 1, 0].map fun i => toString (address / Nat.pow 256 i % 256))
  | .ipv6 pieces => "[" ++ ipv6Text pieces ++ "]"

end Host

end SymbolSearch
