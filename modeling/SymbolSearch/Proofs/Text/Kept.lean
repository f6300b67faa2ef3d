import Mathlib.Data.List.Basic
import SymbolSearch.Proofs.Rpc.Reading
import SymbolSearch.Text.Class
import SymbolSearch.Text.Utf8

/-!
# Texts that are kept

What is done to a text on its way often leaves it as it is.

* `decodeStrict_toUTF8`, `decodeLossy_toUTF8` — the bytes that encode a text are read as the text.
* `dropWhile_isBlank` — a text without blanks loses nothing when blanks are removed.
-/

namespace SymbolSearch

/-! ### Blanks -/

theorem dropWhile_isBlank {cs : List Char} (h : ∀ c ∈ cs, Text.isBlank c = false) :
    cs.dropWhile Text.isBlank = cs := by
  cases cs with
  | nil => rfl
  | cons c rest => exact List.dropWhile_cons_of_neg (by simp [h c List.mem_cons_self])

/-! ### Bytes of characters -/

section Heads

variable {b0 b1 b2 b3 : Nat} {at? : Nat → Option Nat}

theorem utf8Head_one (h0 : b0 < 0x80) : Text.utf8Head b0 at? = .char (Char.ofNat b0) 1 := by
  rw [Text.utf8Head, if_pos h0]

theorem utf8Head_two (h0 : 0xc2 ≤ b0 ∧ b0 ≤ 0xdf) (hat1 : at? 1 = some b1)
    (h1 : (Text.secondRange b0).1 ≤ b1 ∧ b1 ≤ (Text.secondRange b0).2) :
    Text.utf8Head b0 at? = .char (Char.ofNat ((b0 - 0xc0) * 64 + (b1 - 0x80))) 2 := by
  have hfirst : ¬b0 < 0x80 := by omega
  simp [Text.utf8Head, hfirst, h0, hat1, h1, Option.filter]

theorem utf8Head_three (h0 : 0xe0 ≤ b0 ∧ b0 ≤ 0xef) (hat1 : at? 1 = some b1)
    (h1 : (Text.secondRange b0).1 ≤ b1 ∧ b1 ≤ (Text.secondRange b0).2) (hat2 : at? 2 = some b2)
    (h2 : Text.isContinuation b2 = true) :
    Text.utf8Head b0 at? =
      .char (Char.ofNat ((b0 - 0xe0) * 4096 + (b1 - 0x80) * 64 + (b2 - 0x80))) 3 := by
  have hfirst : ¬b0 < 0x80 := by omega
  have htwo : ¬b0 ≤ 0xdf := by omega
  simp [Text.utf8Head, hfirst, htwo, h0, hat1, h1, hat2, h2, Option.filter]

theorem utf8Head_four (h0 : 0xf0 ≤ b0 ∧ b0 ≤ 0xf4) (hat1 : at? 1 = some b1)
    (h1 : (Text.secondRange b0).1 ≤ b1 ∧ b1 ≤ (Text.secondRange b0).2) (hat2 : at? 2 = some b2)
    (h2 : Text.isContinuation b2 = true) (hat3 : at? 3 = some b3)
    (h3 : Text.isContinuation b3 = true) :
    Text.utf8Head b0 at? =
      .char (Char.ofNat ((b0 - 0xf0) * 262144 + (b1 - 0x80) * 4096 + (b2 - 0x80) * 64 +
        (b3 - 0x80))) 4 := by
  have hfirst : ¬b0 < 0x80 := by omega
  have htwo : ¬b0 ≤ 0xdf := by omega
  have hthree : ¬b0 ≤ 0xef := by omega
  simp [Text.utf8Head, hfirst, htwo, hthree, h0, hat1, h1, hat2, h2, hat3, h3, Option.filter]

end Heads

theorem isContinuation_of_lt {n : Nat} (h : n < 64) : Text.isContinuation (n + 128) = true := by
  simp [Text.isContinuation]
  omega

theorem toNat_bounds (c : Char) : c.toNat < 0xd800 ∨ 0xdfff < c.toNat ∧ c.toNat < 0x110000 := by
  rcases c.valid with h | h
  · exact .inl h
  · exact .inr h

theorem toNat_ofNat_byte {n : Nat} (h : n < 256) : (UInt8.ofNat n).toNat = n := Nat.mod_eq_of_lt h

/-- The bytes of a character are read as the character, whatever follows. -/
theorem utf8Head_encodeChar {c : Char} {b : UInt8} {more : List UInt8}
    (h : String.utf8EncodeChar c = b :: more) {at? : Nat → Option Nat}
    (hat : ∀ k (hk : k < more.length), at? (k + 1) = some more[k].toNat) :
    Text.utf8Head b.toNat at? = .char c (more.length + 1) := by
  have hvalid := toNat_bounds c
  have hofNat : Char.ofNat c.toNat = c := Char.ofNat_toNat c
  have hval : c.val.toNat = c.toNat := rfl
  simp only [String.utf8EncodeChar, hval] at h
  generalize c.toNat = v at h hvalid hofNat
  subst hofNat
  split at h
  · obtain ⟨rfl, rfl⟩ := List.cons.inj h
    rw [toNat_ofNat_byte (by omega), utf8Head_one (by omega)]
    rfl
  split at h
  · obtain ⟨rfl, rfl⟩ := List.cons.inj h
    have hat1 := hat 0 (by simp)
    simp only [List.getElem_cons_zero, toNat_ofNat_byte (show v % 64 + 128 < 256 by omega)] at hat1
    rw [toNat_ofNat_byte (by omega), utf8Head_two (by omega) hat1]
    · refine congrArg (fun n => Text.Utf8Head.char (Char.ofNat n) 2) ?_
      omega
    · unfold Text.secondRange
      split_ifs <;> omega
  split at h
  · obtain ⟨rfl, rfl⟩ := List.cons.inj h
    have hat1 := hat 0 (by simp)
    have hat2 := hat 1 (by simp)
    simp only [List.getElem_cons_zero, List.getElem_cons_succ,
      toNat_ofNat_byte (show v / 64 % 64 + 128 < 256 by omega),
      toNat_ofNat_byte (show v % 64 + 128 < 256 by omega)] at hat1 hat2
    rw [toNat_ofNat_byte (by omega),
      utf8Head_three (by omega) hat1 ?_ hat2 (isContinuation_of_lt (by omega))]
    · refine congrArg (fun n => Text.Utf8Head.char (Char.ofNat n) 3) ?_
      omega
    · unfold Text.secondRange
      split_ifs <;> omega
  · obtain ⟨rfl, rfl⟩ := List.cons.inj h
    have hat1 := hat 0 (by simp)
    have hat2 := hat 1 (by simp)
    have hat3 := hat 2 (by simp)
    simp only [List.getElem_cons_zero, List.getElem_cons_succ,
      toNat_ofNat_byte (show v / 4096 % 64 + 128 < 256 by omega),
      toNat_ofNat_byte (show v / 64 % 64 + 128 < 256 by omega),
      toNat_ofNat_byte (show v % 64 + 128 < 256 by omega)] at hat1 hat2 hat3
    rw [toNat_ofNat_byte (by omega),
      utf8Head_four (by omega) hat1 ?_ hat2 (isContinuation_of_lt (by omega)) hat3
        (isContinuation_of_lt (by omega))]
    · refine congrArg (fun n => Text.Utf8Head.char (Char.ofNat n) 4) ?_
      omega
    · unfold Text.secondRange
      split_ifs <;> omega

/-! ### Bytes of texts -/

theorem octets_toUTF8 (text : String) :
    octets text.toUTF8 = text.toList.flatMap String.utf8EncodeChar := by
  rw [String.toUTF8_eq_toByteArray, ← String.utf8Encode_toList, List.utf8Encode,
    octets_toByteArray]

theorem getElem?_octets (bytes : ByteArray) (i : Nat) : (octets bytes)[i]? = bytes[i]? := by
  by_cases h : i < bytes.size
  · rw [getElem?_pos bytes i h]
    exact List.getElem?_eq_getElem h
  · rw [getElem?_neg bytes i h]
    exact List.getElem?_eq_none (by simpa using h)

theorem lossyFrom_encode (bytes : ByteArray) (i : Nat) (done cs : List Char)
    (hcs : (octets bytes).drop i = cs.flatMap String.utf8EncodeChar) :
    Text.lossyFrom bytes i done = done.reverse ++ cs := by
  induction cs generalizing i done with
  | nil =>
    have hend : ¬i < bytes.size := by
      have hlength := List.drop_eq_nil_iff.mp hcs
      rw [length_octets] at hlength
      omega
    rw [Text.lossyFrom, dif_neg hend, List.append_nil]
  | cons c cs ih =>
    rw [List.flatMap_cons] at hcs
    obtain ⟨b, more, hchar⟩ : ∃ b more, String.utf8EncodeChar c = b :: more := by
      cases hchar : String.utf8EncodeChar c with
      | nil => exact absurd hchar (by simp)
      | cons b more => exact ⟨b, more, rfl⟩
    rw [hchar, List.cons_append] at hcs
    have hbyte (k : Nat) :
        bytes[i + k]? = (b :: (more ++ cs.flatMap String.utf8EncodeChar))[k]? := by
      rw [← getElem?_octets, ← hcs, List.getElem?_drop]
    obtain ⟨hlt, hfirst⟩ := getElem?_eq_some_iff.mp ((hbyte 0).trans rfl)
    have hlt : i < bytes.size := hlt
    have hhead : Text.utf8Head b.toNat (fun k => bytes[i + k]?.map UInt8.toNat) =
        .char c (more.length + 1) := by
      refine utf8Head_encodeChar hchar fun k hk => ?_
      rw [hbyte, List.getElem?_cons_succ, List.getElem?_append_left hk, List.getElem?_eq_getElem hk]
      rfl
    have hrest : (octets bytes).drop (i + (more.length + 1)) =
        cs.flatMap String.utf8EncodeChar := by
      rw [← List.drop_drop, hcs, List.drop_succ_cons, List.drop_left]
    have hfirst : bytes[i] = b := hfirst
    rw [Text.lossyFrom, dif_pos hlt, hfirst, hhead]
    dsimp only
    rw [Nat.max_eq_left (by omega), ih _ _ hrest]
    simp

/-- Bytes that encode a text stand for that text. -/
theorem decodeLossy_toUTF8 (text : String) : Text.decodeLossy text.toUTF8 = text := by
  rw [Text.decodeLossy, lossyFrom_encode text.toUTF8 0 [] text.toList (octets_toUTF8 text)]
  simp

theorem decodeStrict_toUTF8 (text : String) : Text.decodeStrict text.toUTF8 = some text := by
  have hvalid : text.toByteArray.IsValidUTF8 := text.isValidUTF8
  simp [Text.decodeStrict, String.fromUTF8?, hvalid, String.fromUTF8]

theorem decodeStrict_eq_some_iff {bytes : ByteArray} {text : String} :
    Text.decodeStrict bytes = some text ↔ bytes = text.toUTF8 := by
  constructor
  · intro h
    unfold Text.decodeStrict String.fromUTF8? at h
    split at h
    · obtain rfl := Option.some.inj h
      rfl
    · cases h
  · rintro rfl
    exact decodeStrict_toUTF8 text

end SymbolSearch
