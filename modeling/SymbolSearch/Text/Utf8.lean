/-!
# Reading bytes as UTF-8

* `decodeStrict` reads well-formed bytes and refuses all others.
* `decodeLossy` reads any bytes; each longest start of a character that is cut short or
  broken becomes one replacement character.
-/

namespace SymbolSearch.Text

/-- What the first bytes of a sequence hold: a character of `length` bytes, or `length` bytes
    that no character begins with. -/
inductive Utf8Head where
  | char (c : Char) (length : Nat)
  | broken (length : Nat)

/-- The range that the second byte must lie in, after each first byte of a longer character. -/
def secondRange (b : Nat) : Nat × Nat :=
  if b = 0xe0 then (0xa0, 0xbf)
  else if b = 0xed then (0x80, 0x9f)
  else if b = 0xf0 then (0x90, 0xbf)
  else if b = 0xf4 then (0x80, 0x8f)
  else (0x80, 0xbf)

/-- Whether the byte continues a character. -/
def isContinuation (b : Nat) : Bool := 0x80 ≤ b && b ≤ 0xbf

/-- The head of the bytes from `i` on, which must exist; `at? k` is the byte `k` places on. -/
def utf8Head (b0 : Nat) (at? : Nat → Option Nat) : Utf8Head :=
  let second := (at? 1).filter fun b => (secondRange b0).1 ≤ b && b ≤ (secondRange b0).2
  let third := (at? 2).filter isContinuation
  let fourth := (at? 3).filter isContinuation
  if b0 < 0x80 then .char (Char.ofNat b0) 1
  else if 0xc2 ≤ b0 && b0 ≤ 0xdf then
    match second with
    | some b1 => .char (Char.ofNat ((b0 - 0xc0) * 64 + (b1 - 0x80))) 2
    | none => .broken 1
  else if 0xe0 ≤ b0 && b0 ≤ 0xef then
    match second, third with
    | some b1, some b2 =>
      .char (Char.ofNat ((b0 - 0xe0) * 4096 + (b1 - 0x80) * 64 + (b2 - 0x80))) 3
    | some _, none => .broken 2
    | none, _ => .broken 1
  else if 0xf0 ≤ b0 && b0 ≤ 0xf4 then
    match second, third, fourth with
    | some b1, some b2, some b3 =>
      .char (Char.ofNat
        ((b0 - 0xf0) * 262144 + (b1 - 0x80) * 4096 + (b2 - 0x80) * 64 + (b3 - 0x80))) 4
    | some _, some _, none => .broken 3
    | some _, none, _ => .broken 2
    | none, _, _ => .broken 1
  else .broken 1

/-- Reads the bytes from `i` on, with a replacement character for each broken piece; `done`
    holds the characters before them in reverse. -/
def lossyFrom (bytes : ByteArray) (i : Nat) (done : List Char) : List Char :=
  if h : i < bytes.size then
    match utf8Head bytes[i].toNat (fun k => bytes[i + k]?.map UInt8.toNat) with
    | .char c length => lossyFrom bytes (i + max length 1) (c :: done)
    | .broken length => lossyFrom bytes (i + max length 1) ('\ufffd' :: done)
  else done.reverse
termination_by bytes.size - i

/-- The characters of the bytes, with a replacement character for each broken piece. -/
def decodeLossy (bytes : ByteArray) : String := String.ofList (lossyFrom bytes 0 [])

/-- The text that the bytes encode, if they are well-formed. -/
def decodeStrict (bytes : ByteArray) : Option String := String.fromUTF8? bytes

end SymbolSearch.Text
