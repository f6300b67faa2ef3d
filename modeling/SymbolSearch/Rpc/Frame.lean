import SymbolSearch.Json.Read
import SymbolSearch.Json.Write
import SymbolSearch.Text.Class
import SymbolSearch.Text.Quoted
import SymbolSearch.Text.Utf8

/-!
# Frames

A stream carries JSON values in frames: a block of header lines, one of which gives the length
of the body, a blank line, and the body.

* `FrameDecoder.feed` takes the bytes of a stream in chunks of any size and reports each frame,
  or what is wrong with a block, as soon as its last byte is there.
* `encodeFrame` writes the frame of a value.
-/

namespace SymbolSearch

/-- The greatest length of a body. -/
def maxFrameBytes : Nat := 4 * 1024 * 1024

/-- The number of bytes that may wait for the end of a header line between two chunks. -/
def maxHeaderLine : Nat := 8192

/-- What is wrong with a block of a stream, or with its end. -/
inductive FrameError where
  | missingLength
  | invalidLength (raw : String)
  | oversized (length : Nat)
  | headerTooLong
  | invalidJson
  | unexpectedEnd
  deriving DecidableEq, Repr

namespace FrameError

/-- The message that reports the error. -/
def message : FrameError → String
  | .missingLength => "header block has no Content-Length"
  | .invalidLength raw => "invalid Content-Length value " ++ Text.quoted raw
  | .oversized length =>
    "Content-Length " ++ toString length ++ " exceeds maximum " ++ toString maxFrameBytes
  | .headerTooLong => "header line exceeds " ++ toString maxHeaderLine ++ " bytes"
  | .invalidJson => "frame body is not valid JSON"
  | .unexpectedEnd => "stream ended in the middle of a frame"

end FrameError

/-- A body as it came, with its value. -/
structure Frame where
  body : ByteArray
  value : Json

/-- What a decoder reports. -/
inductive FrameEvent where
  | frame (frame : Frame)
  | error (error : FrameError)

/-- The value that bytes encode. -/
def Json.ofBytes? (bytes : ByteArray) : Option Json := (Text.decodeStrict bytes).bind Json.read

/-- What a complete body comes to. -/
def FrameEvent.ofBody (body : ByteArray) : FrameEvent :=
  match Json.ofBytes? body with
  | some value => .frame ⟨body, value⟩
  | none => .error .invalidJson

/-- Which part of the stream the next byte belongs to: a header line, a body of the given length,
    or the given number of bytes to be skipped. -/
inductive FrameDecoder.Mode where
  | header
  | body (length : Nat)
  | skip (remaining : Nat)
  deriving DecidableEq, Repr

/-- A decoder between two bytes of a stream. -/
structure FrameDecoder where
  mode : FrameDecoder.Mode := .header
  /-- The bytes of the current line or body. -/
  buffer : ByteArray := .empty
  /-- The number of header lines in the current block. -/
  lines : Nat := 0
  /-- The length that the current block gives, or the text that is none. -/
  length : Option (Except String Nat) := none

/-- The number that a text spells in decimal digits, with an optional plus in front, if it fits
    64 bits. -/
def parseLength? (text : String) : Option Nat :=
  let digits := match text.toList with
    | '+' :: rest => rest
    | cs => cs
  if digits.isEmpty || !digits.all Char.isDigit then none
  else
    let value := digits.foldl (fun n c => n * 10 + (c.toNat - '0'.toNat)) 0
    if value < UInt64.size then some value else none

/-- What a header line gives as the length, without the blanks around it, if it gives one. -/
def lengthText? (line : ByteArray) : Option String :=
  let cs := (Text.decodeLossy line).toList
  match cs.dropWhile (· ≠ ':') with
  | ':' :: value =>
    let name := String.ofList (Text.trimChars (cs.takeWhile (· ≠ ':')))
    if Text.eqIgnoringAsciiCase name "content-length" then
      some (String.ofList (Text.trimChars value))
    else none
  | _ => none

/-- The length that a text gives, or the text if it gives none. -/
def lengthOf (raw : String) : Except String Nat :=
  match parseLength? raw with
  | some n => .ok n
  | none => .error raw

/-- The length that a header line gives, or the text that is none. -/
def headerLength? (line : ByteArray) : Option (Except String Nat) := (lengthText? line).map lengthOf

namespace FrameDecoder

/-- Whether the stream stands inside a block. -/
def midFrame (d : FrameDecoder) : Bool :=
  match d.mode with
  | .header => d.lines > 0 || !d.buffer.isEmpty
  | .body _ | .skip _ => true

/-- What the blank line after a block of header lines leads to. -/
def endHeader (length : Option (Except String Nat)) : FrameDecoder × Option FrameEvent :=
  match length with
  | none => ({}, some (.error .missingLength))
  | some (.error raw) => ({}, some (.error (.invalidLength raw)))
  | some (.ok n) =>
    if maxFrameBytes < n then ({ mode := .skip n }, some (.error (.oversized n)))
    else if n = 0 then ({}, some (.ofBody .empty))
    else ({ mode := .body n }, none)

/-- Takes a complete header line, without its end. -/
def takeLine (line : ByteArray) (lines : Nat) (length : Option (Except String Nat)) :
    FrameDecoder × Option FrameEvent :=
  if line.isEmpty then
    -- A blank line between blocks is skipped.
    if lines = 0 then ({}, none) else endHeader length
  else
    let length := match headerLength? line with
      | some found => some found
      | none => length
    ({ lines := lines + 1, length := length }, none)

/-- Whether the line read so far ends in a carriage return. -/
def endsInReturn (read : ByteArray) : Bool :=
  match read[read.size - 1]? with
  | some byte => byte == 13
  | none => false

/-- Takes one byte of the stream. -/
def step (d : FrameDecoder) (byte : UInt8) : FrameDecoder × Option FrameEvent :=
  match d with
  | ⟨.header, buffer, lines, length⟩ =>
    if byte == 10 && endsInReturn buffer then
      takeLine (buffer.extract 0 (buffer.size - 1)) lines length
    else (⟨.header, buffer.push byte, lines, length⟩, none)
  | ⟨.body n, buffer, lines, length⟩ =>
    let buffer := buffer.push byte
    if n ≤ buffer.size then ({}, some (.ofBody buffer))
    else (⟨.body n, buffer, lines, length⟩, none)
  | ⟨.skip n, buffer, lines, length⟩ =>
    if n ≤ 1 then ({}, none) else (⟨.skip (n - 1), buffer, lines, length⟩, none)

/-- Takes the bytes from `i` on; `events` are those reported before. -/
def stepFrom (bytes : ByteArray) (i : Nat) (d : FrameDecoder) (events : Array FrameEvent) :
    FrameDecoder × Array FrameEvent :=
  if h : i < bytes.size then
    match d.step bytes[i] with
    | (d, some event) => stepFrom bytes (i + 1) d (events.push event)
    | (d, none) => stepFrom bytes (i + 1) d events
  else (d, events)
termination_by bytes.size - i

/-- Whether the current header line has grown too long without an end. -/
def hasLongLine (d : FrameDecoder) : Bool := d.mode = .header && maxHeaderLine < d.buffer.size

/-- Drops a header line that has grown too long without an end, and the block with it. -/
def dropLongLine (d : FrameDecoder) : FrameDecoder × Option FrameEvent :=
  if d.hasLongLine then ({}, some (.error .headerTooLong)) else (d, none)

/-- Takes one chunk of the stream and reports its events in order. -/
def feed (d : FrameDecoder) (chunk : ByteArray) : FrameDecoder × List FrameEvent :=
  let (d, events) := stepFrom chunk 0 d #[]
  let (d, tooLong) := d.dropLongLine
  (d, events.toList ++ tooLong.toList)

end FrameDecoder

/-- The bytes of a frame around a body. -/
def frameBytes (body : ByteArray) : ByteArray :=
  ("Content-Length: " ++ toString body.size ++ "\r\n\r\n").toUTF8 ++ body

/-- The frame of a value. -/
def encodeFrame (json : Json) : ByteArray := frameBytes json.compact.toUTF8

/-! ### Reading a source -/

/-- What one read from a source brings: some bytes, its end, or an error. -/
inductive SourceRead where
  | bytes (chunk : ByteArray)
  | ended
  | failed (reason : String)

/-- The greatest number of bytes taken from a source at once. -/
def readChunkBytes : Nat := 8192

/-- A reader of frames between two reads from its source. -/
structure FrameReader where
  decoder : FrameDecoder := {}
  queued : List FrameEvent := []
  ended : Bool := false

/-- What a reader hands out. -/
inductive FrameReader.Item where
  | event (event : FrameEvent)
  | ended
  | failed (reason : String)

namespace FrameReader

/-- What the reader can hand out without reading its source. -/
def next? (r : FrameReader) : Option Item × FrameReader :=
  match r.queued with
  | event :: rest => (some (.event event), { r with queued := rest })
  | [] => if r.ended then (some .ended, r) else (none, r)

/-- Takes one read from the source, and what follows from it at once. -/
def absorb (r : FrameReader) : SourceRead → Option Item × FrameReader
  | .bytes chunk =>
    let (decoder, events) := r.decoder.feed chunk
    { r with decoder := decoder, queued := r.queued ++ events }.next?
  | .ended =>
    if r.decoder.midFrame then
      (some (.event (.error .unexpectedEnd)), { r with ended := true })
    else (some .ended, { r with ended := true })
  | .failed reason => (some (.failed reason), r)

end FrameReader
end SymbolSearch
