import Mathlib.Data.List.Basic
import SymbolSearch.Proofs.Json.RoundTrip
import SymbolSearch.Proofs.Rpc.Blocks
import SymbolSearch.Proofs.Text.Kept

/-!
# Frames, encoded and decoded

The frame of a value is a block with a single header line.  So a stream of such frames is decoded
to the values it was encoded from, however it is cut.

* `octets_ascii` — ASCII characters take one byte each.
* `parseLength?_toString` — a length is read as it was written.
* `Json.Portable` — the values that a frame can carry: those that come back as they are.
* `Block.ofBody` — the frame around a body, as a block.
* `report_encodeFrames` — a decoder reports the values of a stream of frames, and nothing else.
-/

namespace SymbolSearch

/-! ### ASCII -/

/-- All characters take one byte. -/
def IsAscii (cs : List Char) : Prop := ∀ c ∈ cs, c.toNat < 128

theorem utf8EncodeChar_ascii {c : Char} (h : c.toNat < 128) :
    String.utf8EncodeChar c = [c.toNat.toUInt8] := by
  have hval : c.val ≤ 127 := UInt32.le_iff_toNat_le.mpr (Nat.le_of_lt_succ h)
  rw [String.utf8EncodeChar_eq_singleton (Char.utf8Size_eq_one_iff.mpr hval)]
  rfl

theorem octets_ascii {text : String} (h : IsAscii text.toList) :
    octets text.toUTF8 = text.toList.map fun c => c.toNat.toUInt8 := by
  rw [octets_toUTF8, List.map_eq_flatMap]
  exact List.flatMap_congr fun c hc => utf8EncodeChar_ascii (h c hc)

/-! ### The line that gives the length -/

/-- The text of the header line of a body of the given length. -/
def lengthLine (n : Nat) : String := "Content-Length: " ++ toString n

theorem toList_lengthLine (n : Nat) :
    (lengthLine n).toList = "Content-Length".toList ++ ':' :: ' ' :: Nat.toDigits 10 n := by
  have hname : "Content-Length: ".toList = "Content-Length".toList ++ [':', ' '] := rfl
  unfold lengthLine
  rw [String.toList_append, hname, Nat.toString_eq_ofList_toDigits,
    String.toList_ofList (l := Nat.toDigits 10 n), List.append_assoc]
  rfl

theorem digit_bounds {c : Char} (h : c.isDigit = true) : 48 ≤ c.toNat ∧ c.toNat ≤ 57 := by
  simpa using Char.isDigit_iff_toNat.mp h

/-- The line has no control characters, and no character that takes more than one byte. -/
theorem lengthLine_bounds (n : Nat) :
    ∀ c ∈ (lengthLine n).toList, 0x20 ≤ c.toNat ∧ c.toNat < 128 := by
  rw [toList_lengthLine]
  intro c hc
  rcases List.mem_append.mp hc with hname | hvalue
  · have hall : "Content-Length".toList.all (fun c => 0x20 ≤ c.toNat ∧ c.toNat < 128) = true := by
      decide
    exact of_decide_eq_true (List.all_eq_true.mp hall c hname)
  · rcases List.mem_cons.mp hvalue with rfl | hvalue
    · decide
    · rcases List.mem_cons.mp hvalue with rfl | hvalue
      · decide
      · have hdigit := digit_bounds (Json.isDigit_toDigits c hvalue)
        omega

theorem isAscii_lengthLine (n : Nat) : IsAscii (lengthLine n).toList :=
  fun c hc => (lengthLine_bounds n c hc).2

/-- A length is read as it was written. -/
theorem parseLength?_toString {n : Nat} (h : n < UInt64.size) :
    parseLength? (toString n) = some n := by
  have hvalue : (Nat.toDigits 10 n).foldl (fun n c => n * 10 + (c.toNat - '0'.toNat)) 0 = n := by
    have hdigits := Nat.ofDigitChars_ten_toDigits (n := n)
    rw [Nat.ofDigitChars_eq_foldl] at hdigits
    simpa only [Nat.mul_comm] using hdigits
  have hall : (Nat.toDigits 10 n).all Char.isDigit = true :=
    List.all_eq_true.mpr Json.isDigit_toDigits
  have hempty : (Nat.toDigits 10 n).isEmpty = false := by simp
  rw [parseLength?, Nat.toString_eq_ofList_toDigits, String.toList_ofList]
  split
  next digits rest hdigits =>
    rw [hdigits] at hall
    exact absurd hall (by simp)
  next =>
    dsimp only
    rw [hempty, hall, hvalue, if_neg (by decide), if_pos h]

theorem trimChars_cons_blank {cs : List Char} (h : ∀ c ∈ cs, Text.isBlank c = false) :
    Text.trimChars (' ' :: cs) = cs := by
  rw [Text.trimChars, List.dropWhile_cons_of_pos (by rfl), dropWhile_isBlank h,
    dropWhile_isBlank fun c hc => h c (List.mem_reverse.mp hc), List.reverse_reverse]

theorem lengthText?_lengthLine (n : Nat) :
    lengthText? (lengthLine n).toUTF8 = some (toString n) := by
  refine lengthText?_eq_some_iff.mpr ⟨"Content-Length".toList, ' ' :: Nat.toDigits 10 n, ?_⟩
  have hblank : ∀ c ∈ Nat.toDigits 10 n, Text.isBlank c = false := by
    intro c hc
    have hdigit := digit_bounds (Json.isDigit_toDigits c hc)
    simp [Text.isBlank]
    omega
  rw [decodeLossy_toUTF8, toList_lengthLine, trimChars_cons_blank hblank]
  exact ⟨rfl, by decide, by decide, Nat.toString_eq_ofList_toDigits⟩

/-! ### The frame of a body -/

theorem octets_frameBytes (body : ByteArray) :
    octets (frameBytes body) =
      octets (lengthLine body.size).toUTF8 ++ lineEnd ++ lineEnd ++ octets body := by
  have hends : octets "\r\n\r\n".toUTF8 = lineEnd ++ lineEnd := rfl
  unfold lengthLine
  rw [frameBytes, octets_append, String.toUTF8_eq_toByteArray, String.toByteArray_append,
    octets_append]
  simp only [← String.toUTF8_eq_toByteArray, hends, List.append_assoc]

theorem size_lengthLine (n : Nat) :
    (lengthLine n).toUTF8.size = 16 + (Nat.toDigits 10 n).length := by
  rw [← length_octets, octets_ascii (isAscii_lengthLine n), List.length_map, toList_lengthLine]
  simp only [List.length_append, List.length_cons]
  have hname : "Content-Length".toList.length = 14 := rfl
  omega

theorem lineEnd_not_infix_lengthLine (n : Nat) :
    ¬lineEnd <:+: octets (lengthLine n).toUTF8 := by
  intro h
  have hreturn : (13 : UInt8) ∈ octets (lengthLine n).toUTF8 := h.subset (by decide)
  rw [octets_ascii (isAscii_lengthLine n)] at hreturn
  obtain ⟨c, hc, heq⟩ := List.mem_map.mp hreturn
  have hbounds := lengthLine_bounds n c hc
  have hnat : c.toNat.toUInt8.toNat = c.toNat := Nat.mod_eq_of_lt (by omega)
  rw [heq] at hnat
  have hthirteen : (13 : UInt8).toNat = 13 := rfl
  omega

theorem lengthOfLines_lengthLine (n : Nat) :
    lengthOfLines [(lengthLine n).toUTF8] = some (toString n) := by
  rw [lengthOfLines, List.filterMap_cons, lengthText?_lengthLine]
  rfl

namespace Block

variable {body : ByteArray}

/-- The frame around a body, as a block of a stream. -/
def ofBody (body : ByteArray) (h : body.size ≤ maxFrameBytes) : Block where
  lines := [(lengthLine body.size).toUTF8]
  body := body
  lines_ne_nil := List.cons_ne_nil _ _
  line_ne_empty := by
    intro line hline hempty
    obtain rfl := List.mem_singleton.mp hline
    have hsize := size_lengthLine body.size
    rw [hempty, ByteArray.size_empty] at hsize
    omega
  line_fits := by
    intro line hline
    obtain rfl := List.mem_singleton.mp hline
    have hdigits : (Nat.toDigits 10 body.size).length ≤ 7 := by
      refine (Nat.length_toDigits_le_iff (by decide) (by decide)).mpr ?_
      exact Nat.lt_of_le_of_lt h (by decide)
    rw [size_lengthLine]
    exact Nat.lt_of_le_of_lt (Nat.add_le_add_left hdigits 16) (by decide)
  lineEnd_not_infix := by
    intro line hline
    obtain rfl := List.mem_singleton.mp hline
    exact lineEnd_not_infix_lengthLine body.size
  size_body := by
    rw [lengthOfLines_lengthLine, Option.bind_some,
      parseLength?_toString (Nat.lt_of_le_of_lt h (by decide)), Option.getD_some]

theorem bytes_ofBody (h : body.size ≤ maxFrameBytes) :
    (ofBody body h).bytes = octets (frameBytes body) := by
  rw [octets_frameBytes]
  simp [Block.bytes, ofBody, headerBytes]

/-- The frame comes to its body, if that is the text of a value. -/
theorem event_ofBody (h : body.size ≤ maxFrameBytes) {value : Json}
    (hvalue : Json.ofBytes? body = some value) : (ofBody body h).event = .frame ⟨body, value⟩ := by
  have hlength := parseLength?_toString (Nat.lt_of_le_of_lt h (by decide))
  simp only [event, verdict, ofBody, lengthOfLines_lengthLine, hlength, if_neg (Nat.not_lt.mpr h),
    hvalue]

end Block

/-! ### Values that come back -/

/-- A value that a frame can carry, and that the reader takes: it has one field of a name, in
    order, its numbers are integers of 64 bits, and it is neither too deep nor too long. -/
structure Json.Portable (json : Json) : Prop where
  isSorted : json.isSorted = true
  isIntegral : json.isIntegral = true
  depth_le : json.depth ≤ Json.maxDepth
  size_le : json.compact.toUTF8.size ≤ maxFrameBytes

theorem Json.Portable.ofBytes?_compact {json : Json} (h : json.Portable) :
    Json.ofBytes? json.compact.toUTF8 = some json := by
  rw [Json.ofBytes?, decodeStrict_toUTF8, Option.bind_some,
    Json.read_compact h.isIntegral h.depth_le, Json.canonical_eq_self h.isSorted]

namespace FrameDecoder

/-- A fresh decoder reads the frame of a value, and is fresh again. -/
theorem reads_encodeFrame {value : Json} (h : value.Portable) :
    Reads {} (octets (encodeFrame value)) {} [.frame ⟨value.compact.toUTF8, value⟩] := by
  have hblock := reads_block (.ofBody value.compact.toUTF8 h.size_le)
  rwa [Block.bytes_ofBody, Block.event_ofBody h.size_le h.ofBytes?_compact] at hblock

theorem reads_encodeFrames {values : List Json} (h : ∀ value ∈ values, value.Portable) :
    Reads {} (octets (joined (values.map encodeFrame))) {}
      (values.map fun value => .frame ⟨value.compact.toUTF8, value⟩) := by
  induction values with
  | nil => exact Reads.nil rfl
  | cons value values ih =>
    obtain ⟨hvalue, hvalues⟩ := List.forall_mem_cons.mp h
    rw [List.map_cons, joined_cons, octets_append]
    exact (reads_encodeFrame hvalue).append (ih hvalues)

/-- **Decoding undoes encoding.**  However the frames of some values are cut into chunks, a fresh
    decoder reports one frame for each value, with the value as it was and the text that was
    written for it, in order, and ends between frames. -/
theorem report_encodeFrames (values : List Json) (chunks : List ByteArray)
    (hvalues : ∀ value ∈ values, value.Portable)
    (hchunks : joined chunks = joined (values.map encodeFrame)) :
    report chunks = (values.map fun value => .frame ⟨value.compact.toUTF8, value⟩, false) := by
  have hreads := reads_encodeFrames hvalues
  rw [← hchunks] at hreads
  rw [report, hreads.feedAll]
  rfl

/-- An object and a string, cut within a line end and within a character. -/
theorem report_encodeFrames_cut :
    report
        ["Content-Length: 28\r".toUTF8,
          "\n\r\n\x7b\"max\":18446744073709551615\x7dContent-Length: 9\r\n\r\n\"\\n".toUTF8,
          ⟨#[0xe2, 0x82]⟩, ⟨#[0xac, 0x5c, 0x22, 0x22]⟩] =
      ([.frame ⟨"\x7b\"max\":18446744073709551615\x7d".toUTF8,
          .object [("max", .int 18446744073709551615)]⟩,
        .frame ⟨"\"\\n€\\\"\"".toUTF8, .string "\n€\""⟩], false) := by
  refine report_encodeFrames [.object [("max", .int 18446744073709551615)], .string "\n€\""] _ ?_ ?_
  · refine List.forall_mem_cons.mpr ⟨?_, List.forall_mem_singleton.mpr ?_⟩
    · exact ⟨by decide, by decide, by decide, by decide +kernel⟩
    · exact ⟨by decide, by decide, by decide, by decide +kernel⟩
  · decide +kernel

end FrameDecoder
end SymbolSearch
