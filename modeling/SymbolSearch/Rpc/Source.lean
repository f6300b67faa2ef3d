import SymbolSearch.Rpc.Frame

/-!
# Reading frames from a source

A source brings bytes piece by piece, and then it ends, or it fails.

* `Source.read` is one read: a piece that is longer than a read may be is brought in parts.
* `FrameReader.nextItem` reads a source until the reader has something to hand out.
-/

namespace SymbolSearch

/-- Bytes that a source brings at once.  There is at least one: a read without bytes is the end. -/
structure Piece where
  bytes : ByteArray
  size_pos : 0 < bytes.size

namespace Piece

/-- What one read takes of a piece. -/
def front (piece : Piece) : ByteArray := piece.bytes.extract 0 readChunkBytes

/-- What is left of a piece after one read. -/
def rest? (piece : Piece) : Option Piece :=
  if h : readChunkBytes < piece.bytes.size then
    some ⟨piece.bytes.extract readChunkBytes piece.bytes.size, by
      rw [ByteArray.size_extract]
      omega⟩
  else none

theorem size_of_rest? {piece rest : Piece} (h : piece.rest? = some rest) :
    rest.bytes.size < piece.bytes.size := by
  rw [rest?, Option.dite_none_right_eq_some] at h
  obtain ⟨hlong, hrest⟩ := h
  obtain rfl := Option.some.inj hrest
  have hpos : 0 < readChunkBytes := by decide
  simp only [ByteArray.size_extract]
  omega

end Piece

/-- A source between two reads: the pieces that it has yet to bring, and why it fails behind the
    last of them.  Without a reason it ends there. -/
structure Source where
  pieces : List Piece
  failure : Option String := none

namespace Source

/-- What every read behind the last piece comes to. -/
def lastRead (source : Source) : SourceRead :=
  match source.failure with
  | none => .ended
  | some reason => .failed reason

/-- One read from the source. -/
def read (source : Source) : SourceRead × Source :=
  match source.pieces with
  | [] => (source.lastRead, source)
  | piece :: later =>
    (.bytes piece.front, { source with pieces := piece.rest?.toList ++ later })

/-- The number of bytes that the source has yet to bring. -/
def left (source : Source) : Nat :=
  source.pieces.foldr (fun piece left => piece.bytes.size + left) 0

/-- A read that brings bytes takes them from the source. -/
theorem left_read_lt {source : Source} {chunk : ByteArray} (h : source.read.1 = .bytes chunk) :
    source.read.2.left < source.left := by
  obtain ⟨pieces, failure⟩ := source
  cases pieces with
  | nil => cases failure <;> cases h
  | cons piece later =>
    have hpos := piece.size_pos
    cases hrest : piece.rest? with
    | none => simpa [read, left, hrest] using hpos
    | some rest => simpa [read, left, hrest] using Piece.size_of_rest? hrest

end Source

namespace FrameReader

/-- A reader goes on without an item only after a read that brought bytes. -/
theorem bytes_of_absorb_none {r next : FrameReader} {said : SourceRead}
    (h : r.absorb said = (none, next)) : ∃ chunk, said = .bytes chunk := by
  cases said with
  | bytes chunk => exact ⟨chunk, rfl⟩
  | ended =>
    simp only [absorb] at h
    split at h <;> cases h
  | failed reason => cases h

/-- Hands out the next item, and reads the source until there is one. -/
def nextItem (r : FrameReader) (source : Source) : Item × FrameReader × Source :=
  match r.next? with
  | (some item, r) => (item, r, source)
  | (none, r) =>
    match _habsorb : r.absorb source.read.1 with
    | (some item, r) => (item, r, source.read.2)
    | (none, r) => nextItem r source.read.2
termination_by source.left
decreasing_by
  obtain ⟨chunk, hchunk⟩ := bytes_of_absorb_none _habsorb
  exact source.left_read_lt hchunk

end FrameReader
end SymbolSearch
