import SymbolSearch.Json.Read
import SymbolSearch.Json.Write
import SymbolSearch.Proofs.Json.Canonical

/-!
# Values, written and read

The reader takes a number or a string off the front of a text and leaves the rest.  A string ends
at its quote, but a number ends only where a character stands that cannot go on with it.

* `Json.EndsNumber` — no number goes on with what follows.
* `Json.readNumber_writeInt` — an integer of 64 bits is read as it was written.
* `Json.readStringFrom_escape` — what a character is written as is read as that character,
  whether it was escaped by a letter, by its number, or not at all.
* `Json.readStringFrom_writeString` — so every string is read as it was written.

The compact text of a value is read as that value, as long as the reader knows its numbers and
takes its depth.

* `Json.isIntegral` — all numbers are integers of 64 bits.
* `Json.ReadsBack` — a reader finds a value in front of any text, with all that follows left.
* `Json.readItems_writeItems`, `Json.readFields_writeFields` — a reader of members that reads each
  of them back reads the whole array or object.
* `Json.readsBack_readValue` — so the reader of values reads every value back, member by member.
* `Json.read_compact` — a whole text comes to the canonical form of its value.
-/

namespace SymbolSearch

/-! ### Scalars -/

/-- Whether the number is an integer of 64 bits, with or without sign. -/
def JsonNumber.isWideInt : JsonNumber → Bool
  | .int value => decide (-(Nat.pow 2 63 : Int) ≤ value ∧ value < (UInt64.size : Int))
  | .double _ => false

namespace Json

/-! ### Integers -/

/-- No number goes on with the characters. -/
def EndsNumber (rest : List Char) : Prop :=
  ∀ c ∈ rest.head?, c ≠ '.' ∧ c ≠ 'e' ∧ c ≠ 'E' ∧ c.isDigit = false

theorem endsNumber_nil : EndsNumber [] := by
  rintro c ⟨⟩

section Digits

variable {rest : List Char}

theorem EndsNumber.ne_digit {c : Char} {cs : List Char} (h : EndsNumber (c :: cs)) :
    c.isDigit = false :=
  (h c rfl).2.2.2

theorem le_ofDigitChars (init : Nat) (digits : List Char) :
    init ≤ Nat.ofDigitChars 10 digits init := by
  induction digits generalizing init with
  | nil => exact Nat.le_refl _
  | cons c digits ih =>
    rw [Nat.ofDigitChars_cons]
    have hrest := ih (10 * init + (c.toNat - '0'.toNat))
    omega

/-- Digits whose number fits are all read, and the reader stops behind them. -/
theorem readDigits_append (significand count : Nat) (digits : List Char)
    (hdigits : ∀ c ∈ digits, c.isDigit = true)
    (hfits : Nat.ofDigitChars 10 digits significand < UInt64.size) (hrest : EndsNumber rest) :
    readDigits significand count (digits ++ rest) =
      (Nat.ofDigitChars 10 digits significand, count + digits.length, rest) := by
  induction digits generalizing significand count with
  | nil =>
    cases rest with
    | nil => rfl
    | cons c cs => simp [readDigits, hrest.ne_digit]
  | cons c digits ih =>
    obtain ⟨hc, hdigits⟩ := List.forall_mem_cons.mp hdigits
    rw [Nat.ofDigitChars_cons, Nat.mul_comm] at hfits ⊢
    -- The digits read so far make no greater number than all of them.
    have hle := le_ofDigitChars (significand * 10 + (c.toNat - '0'.toNat)) digits
    have hnow : significand * 10 + digitValue c < UInt64.size := Nat.lt_of_le_of_lt hle hfits
    rw [List.cons_append, readDigits, if_pos (by simp [hc, hnow]), digitValue,
      ih _ _ hdigits hfits, List.length_cons]
    simp only [Nat.add_comm, Nat.add_left_comm]

/-- A positive number does not start with a zero. -/
theorem exists_toDigits {n : Nat} (h : 0 < n) :
    ∃ c digits, Nat.toDigits 10 n = c :: digits ∧ c ≠ '0' := by
  induction n using Nat.strongRecOn with
  | ind n ih =>
    by_cases hsmall : n < 10
    · refine ⟨n.digitChar, [], Nat.toDigits_of_lt_base hsmall, ?_⟩
      have hdigit : ∀ k < 10, 0 < k → Nat.digitChar k ≠ '0' := by decide
      exact hdigit n hsmall h
    · obtain ⟨c, digits, hdigits, hc⟩ := ih (n / 10) (by omega) (by omega)
      refine ⟨c, digits ++ [(n % 10).digitChar], ?_, hc⟩
      rw [Nat.toDigits_of_base_le (by decide) (by omega), hdigits, List.cons_append]

theorem isDigit_toDigits {n : Nat} : ∀ c ∈ Nat.toDigits 10 n, c.isDigit = true :=
  fun _ hc => Nat.isDigit_of_mem_toDigits (by decide) (by decide) hc

theorem readUnsigned_toDigits (negative : Bool) {n : Nat} (hfits : n < UInt64.size)
    (hrest : EndsNumber rest) :
    readUnsigned negative (Nat.toDigits 10 n ++ rest) = readTail negative n rest := by
  rcases Nat.eq_zero_or_pos n with rfl | hpos
  · rw [Nat.toDigits_zero]
    cases rest with
    | nil => rfl
    | cons c cs => simp [readUnsigned, hrest.ne_digit]
  · obtain ⟨c, digits, hdigits, hc⟩ := exists_toDigits hpos
    have hall : ∀ d ∈ c :: digits, d.isDigit = true := hdigits ▸ isDigit_toDigits
    have hvalue : Nat.ofDigitChars 10 (c :: digits) 0 = n := hdigits ▸ Nat.ofDigitChars_ten_toDigits
    have hread := readDigits_append 0 0 (c :: digits) hall (hvalue.symm ▸ hfits) hrest
    rw [hvalue] at hread
    rw [hdigits, List.cons_append] at *
    unfold readUnsigned
    split
    · next heq => exact absurd (List.cons.inj heq).1 hc
    · next heq =>
      obtain ⟨rfl, rfl⟩ := List.cons.inj heq
      rw [if_neg (by simpa using hall c List.mem_cons_self), hread]
      cases rest with
      | nil => rfl
      | cons d ds => simp [hrest.ne_digit]
    · next heq => cases heq

theorem readTail_of_endsNumber (negative : Bool) (n : Nat) (hrest : EndsNumber rest) :
    readTail negative n rest =
      if !negative then some (.int n, rest)
      else if n = 0 || Nat.pow 2 63 < n then
        some (.double (-n.toUInt64.toFloat).toBits, rest)
      else some (.int (-n), rest) := by
  unfold readTail
  split
  · exact absurd rfl (hrest _ rfl).1
  · exact absurd rfl (hrest _ rfl).2.1
  · exact absurd rfl (hrest _ rfl).2.2.1
  · rfl

/-- Behind a sign, only a number that has a place among the integers of 64 bits is one. -/
theorem readTail_negative {n : Nat} (hpos : 0 < n) (hfits : n ≤ Nat.pow 2 63)
    (hrest : EndsNumber rest) : readTail true n rest = some (.int (-n), rest) := by
  have hinside : ¬(n = 0 ∨ Nat.pow 2 63 < n) := by omega
  rw [readTail_of_endsNumber _ _ hrest, if_neg (by decide), if_neg (by simpa using hinside)]

theorem readNumber_toDigits (n : Nat) :
    readNumber (Nat.toDigits 10 n ++ rest) = readUnsigned false (Nat.toDigits 10 n ++ rest) := by
  unfold readNumber
  split
  next cs heq =>
    -- The text starts with a digit, and a minus is none.
    obtain ⟨c, digits, hdigits⟩ :=
      List.exists_cons_of_ne_nil (Nat.toDigits_ne_nil (n := n) (b := 10))
    rw [hdigits, List.cons_append] at heq
    obtain ⟨rfl, -⟩ := List.cons.inj heq
    exact absurd (isDigit_toDigits (n := n) '-' (by simp [hdigits])) (by decide)
  next => rfl

end Digits

/-- **An integer of 64 bits is read as it was written.** -/
theorem readNumber_writeInt {value : Int} {rest : List Char}
    (h : (JsonNumber.int value).isWideInt = true) (hrest : EndsNumber rest) :
    readNumber (writeInt value ++ rest) = some (.int value, rest) := by
  obtain ⟨hlow, hhigh⟩ := of_decide_eq_true h
  have hsize : UInt64.size = 2 * Nat.pow 2 63 := rfl
  have hfits : value.natAbs < UInt64.size := by omega
  rw [writeInt]
  split
  next hneg =>
    have habs : -(value.natAbs : Int) = value := by omega
    rw [List.cons_append, readNumber, readUnsigned_toDigits true hfits hrest,
      readTail_negative (by omega) (by omega) hrest, habs]
  next hneg =>
    have habs : (value.natAbs : Int) = value := by omega
    rw [readNumber_toDigits, readUnsigned_toDigits false hfits hrest,
      readTail_of_endsNumber _ _ hrest, if_pos (by decide), habs]

/-! ### Strings -/

/-- Whether the characters are an escape that stands for `c`: a letter behind the backslash, or
    the number of the character in four digits. -/
def isEscapeOf (c : Char) : List Char → Bool
  | ['\\', letter] => plainEscape? letter == some c
  | ['\\', 'u', d₀, d₁, d₂, d₃] => hexUnit? d₀ d₁ d₂ d₃ == some c.toNat
  | _ => false

theorem isEscapeOf_controlEscape {c : Char} (h : c.toNat < 0x20) :
    isEscapeOf c (controlEscape c) = true := by
  have hall : ∀ n < 0x20, isEscapeOf (Char.ofNat n) (controlEscape (Char.ofNat n)) = true := by
    decide +kernel
  have hc := hall c.toNat h
  rwa [Char.ofNat_toNat] at hc

section Strings

variable {c : Char} {done rest : List Char}

/-- What reading a string does at its quote, at a character that stands for itself, and at either
    form of escape. -/
theorem readStringFrom_step (done rest : List Char) :
    readStringFrom done ('"' :: rest) = some (String.ofList done.reverse, rest) ∧
      (∀ c, c ≠ '"' → c ≠ '\\' → ¬c.toNat < 0x20 →
        readStringFrom done (c :: rest) = readStringFrom (c :: done) rest) ∧
      (∀ letter c, plainEscape? letter = some c → letter ≠ 'u' →
        readStringFrom done ('\\' :: letter :: rest) = readStringFrom (c :: done) rest) ∧
      ∀ d₀ d₁ d₂ d₃ unit, hexUnit? d₀ d₁ d₂ d₃ = some unit → unit < 0xd800 →
        readStringFrom done ('\\' :: 'u' :: d₀ :: d₁ :: d₂ :: d₃ :: rest) =
          readStringFrom (Char.ofNat unit :: done) rest := by
  refine ⟨by simp [readStringFrom], ?_, ?_, ?_⟩
  · intro c hquote hslash hcontrol
    simp [readStringFrom, hslash, hcontrol]
  · intro letter c hplain hletter
    simp [readStringFrom, hplain, hletter]
  · intro d₀ d₁ d₂ d₃ unit hunit hsmall
    simp [readStringFrom, hunit, hsmall]

/-- An escape is read as the character it stands for, if that is not half of a pair. -/
theorem readStringFrom_of_isEscapeOf {cs : List Char} (h : isEscapeOf c cs = true)
    (hc : c.toNat < 0xd800) :
    readStringFrom done (cs ++ rest) = readStringFrom (c :: done) rest := by
  unfold isEscapeOf at h
  split at h
  next letter =>
    have hplain := eq_of_beq h
    have hletter : letter ≠ 'u' := by
      rintro rfl
      exact absurd hplain (by simp [plainEscape?])
    exact (readStringFrom_step done rest).2.2.1 letter c hplain hletter
  next d₀ d₁ d₂ d₃ =>
    have hread := (readStringFrom_step done rest).2.2.2 d₀ d₁ d₂ d₃ _ (eq_of_beq h) hc
    rwa [Char.ofNat_toNat] at hread
  next => cases h

/-- **What a character is written as is read as that character.** -/
theorem readStringFrom_escape (c : Char) (done rest : List Char) :
    readStringFrom done (escape c ++ rest) = readStringFrom (c :: done) rest := by
  unfold escape
  split
  next hquote =>
    subst hquote
    exact readStringFrom_of_isEscapeOf (by decide) (by decide)
  next hquote =>
    split
    next hslash =>
      subst hslash
      exact readStringFrom_of_isEscapeOf (by decide) (by decide)
    next hslash =>
      split
      next hcontrol =>
        exact readStringFrom_of_isEscapeOf (isEscapeOf_controlEscape hcontrol) (by omega)
      next hcontrol => exact (readStringFrom_step done rest).2.1 c hquote hslash hcontrol

theorem readStringFrom_flatMap_escape (text done rest : List Char) :
    readStringFrom done (text.flatMap escape ++ '"' :: rest) =
      some (String.ofList (done.reverse ++ text), rest) := by
  induction text generalizing done with
  | nil => simpa using (readStringFrom_step done rest).1
  | cons c text ih =>
    rw [List.flatMap_cons, List.append_assoc, readStringFrom_escape, ih, List.reverse_cons,
      List.append_assoc, List.singleton_append]

end Strings

/-- **Every string is read as it was written**, behind its opening quote. -/
theorem readStringFrom_writeString (text : String) (rest : List Char) :
    ∃ cs, writeString text ++ rest = '"' :: cs ∧ readStringFrom [] cs = some (text, rest) := by
  refine ⟨text.toList.flatMap escape ++ '"' :: rest, by simp [writeString], ?_⟩
  rw [readStringFrom_flatMap_escape, List.reverse_nil, List.nil_append, String.ofList_toList]

end Json

end SymbolSearch

namespace SymbolSearch.Json

/-! ### Values -/

/-- Whether the tree, if it is a number, is an integer of 64 bits. -/
def isWideNumber : Json → Bool
  | .number value => value.isWideInt
  | _ => true

/-- Whether all numbers in the tree are integers of 64 bits. -/
def isIntegral (json : Json) : Bool := json.everyPart isWideNumber

variable {json item : Json} {items : List Json} {field : String × Json}
  {fields : List (String × Json)} {rest : List Char}

/-! ### Members within a value -/

theorem depth_le_itemsDepth (h : item ∈ items) : item.depth ≤ itemsDepth items := by
  induction items with
  | nil => cases h
  | cons first items ih =>
    rw [itemsDepth]
    rcases List.mem_cons.mp h with rfl | h
    · exact Nat.le_max_left _ _
    · exact Nat.le_trans (ih h) (Nat.le_max_right _ _)

theorem depth_le_fieldsDepth (h : field ∈ fields) : field.2.depth ≤ fieldsDepth fields := by
  induction fields with
  | nil => cases h
  | cons first fields ih =>
    rw [fieldsDepth]
    rcases List.mem_cons.mp h with rfl | h
    · exact Nat.le_max_left _ _
    · exact Nat.le_trans (ih h) (Nat.le_max_right _ _)

/-- Every item after the first takes at least its comma, and its own text. -/
theorem length_writeItems (items : List Json) :
    items.length < (writeItems items).length ∧
      ∀ item ∈ items, (write item).length < (writeItems items).length := by
  induction items with
  | nil => exact ⟨by decide, fun _ h => absurd h List.not_mem_nil⟩
  | cons first items ih =>
    simp only [writeItems, List.length_append, List.length_cons, List.forall_mem_cons]
    refine ⟨by omega, by omega, ?_⟩
    intro item hitem
    have := ih.2 item hitem
    omega

theorem length_writeFields (fields : List (String × Json)) :
    fields.length < (writeFields fields).length ∧
      ∀ field ∈ fields, (write field.2).length < (writeFields fields).length := by
  induction fields with
  | nil => exact ⟨by decide, fun _ h => absurd h List.not_mem_nil⟩
  | cons first fields ih =>
    simp only [writeFields, List.length_append, List.length_cons, List.forall_mem_cons]
    refine ⟨by omega, by omega, ?_⟩
    intro field hfield
    have := ih.2 field hfield
    omega

/-- The brackets of an array or object, its first member and the others make up its text. -/
theorem length_write_members :
    (∀ item items, (write (.array (item :: items))).length =
      (write item).length + (writeItems items).length + 1) ∧
    (∀ field fields, (write (.object (field :: fields))).length =
      (writeString field.1).length + (write field.2).length + (writeFields fields).length + 2) := by
  constructor
  · intro item items
    simp only [write, List.cons_append, List.length_cons, List.length_append]
  · intro field fields
    simp only [write, List.cons_append, List.length_cons, List.length_append]
    omega

/-! ### The first character -/

/-- A number may start with the character. -/
def StartsNumber (c : Char) : Prop := c = '-' ∨ c.isDigit = true

theorem StartsNumber.ne {c : Char} (h : StartsNumber c) (other : Char) (hminus : other ≠ '-')
    (hdigit : other.isDigit = false) : c ≠ other := by
  rintro rfl
  rcases h with rfl | h
  · exact hminus rfl
  · exact absurd (h.symm.trans hdigit) (by decide)

theorem exists_writeInt (value : Int) :
    ∃ c cs, writeInt value = c :: cs ∧ StartsNumber c := by
  obtain ⟨c, cs, hdigits⟩ :=
    List.exists_cons_of_ne_nil (Nat.toDigits_ne_nil (n := value.natAbs) (b := 10))
  have hc : c.isDigit = true := isDigit_toDigits (n := value.natAbs) c (by simp [hdigits])
  rw [writeInt]
  split
  next => exact ⟨'-', _, rfl, .inl rfl⟩
  next => exact ⟨c, cs, hdigits, .inr hc⟩

/-- No value starts with a blank, or with the end of an array. -/
theorem exists_write (h : json.isIntegral = true) :
    ∃ c cs, write json = c :: cs ∧ isGap c = false ∧ c ≠ ']' := by
  cases json with
  | null => exact ⟨_, _, rfl, by decide⟩
  | bool value => cases value <;> exact ⟨_, _, rfl, by decide⟩
  | string text => exact ⟨_, _, rfl, by decide⟩
  | array items => cases items <;> exact ⟨_, _, rfl, by decide⟩
  | object fields => cases fields <;> exact ⟨_, _, rfl, by decide⟩
  | number value =>
    cases value with
    | double bits => cases h
    | int value =>
      obtain ⟨c, cs, hcs, hc⟩ := exists_writeInt value
      refine ⟨c, cs, hcs, ?_, hc.ne ']' (by decide) rfl⟩
      simp [isGap, hc.ne ' ' (by decide) rfl, hc.ne '\n' (by decide) rfl,
        hc.ne '\t' (by decide) rfl, hc.ne '\r' (by decide) rfl]

theorem skipGaps_of_not_isGap {c : Char} {cs : List Char} (h : isGap c = false) :
    skipGaps (c :: cs) = c :: cs := by
  rw [skipGaps, List.dropWhile_cons_of_neg (by simp [h])]

theorem skipGaps_write (h : json.isIntegral = true) (rest : List Char) :
    skipGaps (write json ++ rest) = write json ++ rest := by
  obtain ⟨c, cs, hcs, hc, -⟩ := exists_write h
  rw [hcs, List.cons_append, skipGaps_of_not_isGap hc]

/-! ### Arrays and objects -/

section Members

variable {readItem : List Char → Reading Json} {cs more : List Char} {name : String} {value : Json}
  {fuel : Nat}

/-- The reader finds the value in front of any text that cannot go on with it. -/
def ReadsBack (readItem : List Char → Reading Json) (json : Json) : Prop :=
  ∀ rest, EndsNumber rest → readItem (skipGaps (write json ++ rest)) = some (json, rest)

theorem endsNumber_writeItems (items : List Json) (rest : List Char) :
    EndsNumber (writeItems items ++ rest) := by
  cases items <;> (rintro c ⟨⟩; decide)

theorem endsNumber_writeFields (fields : List (String × Json)) (rest : List Char) :
    EndsNumber (writeFields fields ++ rest) := by
  cases fields <;> (rintro c ⟨⟩; decide)

/-- Behind an item stands the end of the array, or a comma and the next item. -/
theorem readItems_step (item : Json) (done : List Json) :
    (readItem (skipGaps cs) = some (item, ']' :: more) →
      readItems readItem done (fuel + 1) cs = some (.array (item :: done).reverse, more)) ∧
    (readItem (skipGaps cs) = some (item, ',' :: more) →
      readItems readItem done (fuel + 1) cs = readItems readItem (item :: done) fuel more) := by
  constructor
  · intro h
    simp only [readItems, h, skipGaps_of_not_isGap (c := ']') rfl]
  · intro h
    simp only [readItems, h, skipGaps_of_not_isGap (c := ',') rfl]

/-- A reader that reads every item back reads the array from its first item on. -/
theorem readItems_writeItems (item : Json) (items done : List Json) (fuel : Nat)
    (rest : List Char) (hread : ∀ member ∈ item :: items, ReadsBack readItem member)
    (hfuel : items.length < fuel) :
    readItems readItem done fuel (write item ++ (writeItems items ++ rest)) =
      some (.array (done.reverse ++ item :: items), rest) := by
  induction items generalizing item done fuel with
  | nil =>
    obtain ⟨fuel, rfl⟩ := Nat.exists_eq_add_one_of_ne_zero (Nat.ne_zero_of_lt hfuel)
    have hitem : readItem (skipGaps (write item ++ (']' :: rest))) = some (item, ']' :: rest) :=
      hread item List.mem_cons_self _ (endsNumber_writeItems [] rest)
    rw [← List.reverse_cons]
    exact (readItems_step item done).1 hitem
  | cons next items ih =>
    obtain ⟨fuel, rfl⟩ := Nat.exists_eq_add_one_of_ne_zero (Nat.ne_zero_of_lt hfuel)
    obtain ⟨hfirst, hread⟩ := List.forall_mem_cons.mp hread
    have hitem := hfirst _ (endsNumber_writeItems (next :: items) rest)
    have hrest := ih next (item :: done) fuel hread (Nat.lt_of_succ_lt_succ hfuel)
    rw [writeItems, List.cons_append, List.cons_append, List.append_assoc] at hitem ⊢
    rw [(readItems_step item done).2 hitem, hrest, List.reverse_cons, List.append_assoc,
      List.singleton_append]

/-- Behind a field stands the end of the object, or a comma and the next field. -/
theorem readFields_step (name : String) (value : Json) (done : List (String × Json)) :
    (readItem (skipGaps cs) = some (value, '\x7d' :: more) →
      readFields readItem done (fuel + 1) (writeString name ++ ':' :: cs) =
        some (.object ((name, value) :: done).reverse, more)) ∧
    (readItem (skipGaps cs) = some (value, ',' :: more) →
      readFields readItem done (fuel + 1) (writeString name ++ ':' :: cs) =
        readFields readItem ((name, value) :: done) fuel more) := by
  obtain ⟨text, htext, hname⟩ := readStringFrom_writeString name (':' :: cs)
  constructor
  · intro h
    simp only [readFields, htext, hname, h, skipGaps_of_not_isGap (c := '"') rfl,
      skipGaps_of_not_isGap (c := ':') rfl, skipGaps_of_not_isGap (c := '\x7d') rfl]
  · intro h
    simp only [readFields, htext, hname, h, skipGaps_of_not_isGap (c := '"') rfl,
      skipGaps_of_not_isGap (c := ':') rfl, skipGaps_of_not_isGap (c := ',') rfl]

/-- A reader that reads every value back reads the object from its first name on. -/
theorem readFields_writeFields (name : String) (value : Json) (fields done : List (String × Json))
    (fuel : Nat) (rest : List Char)
    (hread : ∀ field ∈ (name, value) :: fields, ReadsBack readItem field.2)
    (hfuel : fields.length < fuel) :
    readFields readItem done fuel
        (writeString name ++ ':' :: (write value ++ (writeFields fields ++ rest))) =
      some (.object (done.reverse ++ (name, value) :: fields), rest) := by
  induction fields generalizing name value done fuel with
  | nil =>
    obtain ⟨fuel, rfl⟩ := Nat.exists_eq_add_one_of_ne_zero (Nat.ne_zero_of_lt hfuel)
    have hvalue : readItem (skipGaps (write value ++ ('\x7d' :: rest))) =
        some (value, '\x7d' :: rest) :=
      hread (name, value) List.mem_cons_self _ (endsNumber_writeFields [] rest)
    rw [← List.reverse_cons]
    exact (readFields_step name value done).1 hvalue
  | cons next fields ih =>
    obtain ⟨fuel, rfl⟩ := Nat.exists_eq_add_one_of_ne_zero (Nat.ne_zero_of_lt hfuel)
    obtain ⟨hfirst, hread⟩ := List.forall_mem_cons.mp hread
    have hvalue := hfirst _ (endsNumber_writeFields (next :: fields) rest)
    have hrest := ih next.1 next.2 ((name, value) :: done) fuel hread
      (Nat.lt_of_succ_lt_succ hfuel)
    rw [writeFields] at hvalue ⊢
    simp only [List.cons_append, List.append_assoc] at hvalue ⊢
    rw [(readFields_step name value done).2 hvalue, hrest, List.reverse_cons, List.append_assoc,
      List.singleton_append]

end Members

/-! ### Values -/

/-- A value whose text the reader can take: the numbers are integers, the levels are at most
    `depth`, and the text is no longer than `limit`. -/
structure Fits (limit depth : Nat) (json : Json) : Prop where
  isIntegral : json.isIntegral = true
  depth_le : json.depth ≤ depth
  length_le : (write json).length ≤ limit

namespace Fits

variable {limit depth : Nat}

theorem of_item (h : Fits limit (depth + 1) (.array items)) (hitem : item ∈ items) :
    Fits limit depth item where
  isIntegral := (everyPart_array.mp h.isIntegral).2 item hitem
  depth_le := Nat.le_trans (depth_le_itemsDepth hitem) (Nat.le_of_succ_le_succ h.depth_le)
  length_le := by
    have hlength := h.length_le
    cases items with
    | nil => cases hitem
    | cons first items =>
      rw [length_write_members.1] at hlength
      rcases List.mem_cons.mp hitem with rfl | hitem
      · omega
      · have hrest := (length_writeItems items).2 item hitem
        omega

theorem of_field (h : Fits limit (depth + 1) (.object fields)) (hfield : field ∈ fields) :
    Fits limit depth field.2 where
  isIntegral := (everyPart_object.mp h.isIntegral).2 field hfield
  depth_le := Nat.le_trans (depth_le_fieldsDepth hfield) (Nat.le_of_succ_le_succ h.depth_le)
  length_le := by
    have hlength := h.length_le
    cases fields with
    | nil => cases hfield
    | cons first fields =>
      rw [length_write_members.2] at hlength
      rcases List.mem_cons.mp hfield with rfl | hfield
      · omega
      · have hrest := (length_writeFields fields).2 field hfield
        omega

theorem length_items_lt (h : Fits limit depth (.array (item :: items))) :
    items.length < limit := by
  have hlength := h.length_le
  have hrest := (length_writeItems items).1
  rw [length_write_members.1] at hlength
  omega

theorem length_fields_lt (h : Fits limit depth (.object (field :: fields))) :
    fields.length < limit := by
  have hlength := h.length_le
  have hrest := (length_writeFields fields).1
  rw [length_write_members.2] at hlength
  omega

end Fits

section Values

variable {limit depth : Nat}

theorem readValue_writeInt {value : Int} (h : (JsonNumber.int value).isWideInt = true)
    (hrest : EndsNumber rest) :
    readValue limit depth (writeInt value ++ rest) = some (.number (.int value), rest) := by
  obtain ⟨c, cs, hcs, hc⟩ := exists_writeInt value
  have hnumber := readNumber_writeInt h hrest
  rw [hcs, List.cons_append] at hnumber ⊢
  unfold readValue
  split
  -- Every other value starts with a character that no number starts with.
  case h_7 => rw [hnumber, Option.map_some]
  all_goals
    next heq => exact absurd (List.cons.inj heq).1 (hc.ne _ (by decide) rfl)

/-- Behind its bracket, an array or object that does not end at once is read member by member. -/
theorem readValue_members :
    (∀ c cs, isGap c = false → c ≠ ']' → readValue limit (depth + 1) ('[' :: c :: cs) =
      readItems (readValue limit depth) [] limit (c :: cs)) ∧
    (∀ name cs, readValue limit (depth + 1) ('\x7b' :: (writeString name ++ cs)) =
      readFields (readValue limit depth) [] limit (writeString name ++ cs)) := by
  constructor
  · intro c cs hgap hend
    simp [readValue, skipGaps_of_not_isGap hgap, hend]
  · intro name cs
    obtain ⟨text, htext, -⟩ := readStringFrom_writeString name cs
    simp [readValue, htext, skipGaps_of_not_isGap (c := '"') rfl]

/-- **Every value is read as it was written**, if it fits the reader. -/
theorem readsBack_readValue {json : Json} (h : Fits limit depth json) :
    ReadsBack (readValue limit depth) json := by
  intro rest hrest
  rw [skipGaps_write h.isIntegral]
  induction json generalizing depth rest with
  | null => simp [write, readValue]
  | bool value => cases value <;> simp [write, readValue]
  | number value =>
    cases value with
    | double bits => cases h.isIntegral
    | int value => exact readValue_writeInt h.isIntegral hrest
  | string text =>
    obtain ⟨cs, hcs, hread⟩ := readStringFrom_writeString text rest
    simp [write, hcs, readValue, hread]
  | array items ih =>
    obtain ⟨depth, rfl⟩ := Nat.exists_eq_add_one_of_ne_zero (Nat.ne_zero_of_lt h.depth_le)
    cases items with
    | nil => simp [write, readValue, skipGaps_of_not_isGap (c := ']') rfl]
    | cons item items =>
      have hmembers : ∀ member ∈ item :: items, ReadsBack (readValue limit depth) member := by
        intro member hmember rest hrest
        rw [skipGaps_write (h.of_item hmember).isIntegral]
        exact ih member hmember (h.of_item hmember) rest hrest
      have hitems := readItems_writeItems item items [] limit rest hmembers h.length_items_lt
      obtain ⟨c, cs, hcs, hgap, hend⟩ := exists_write (h.of_item List.mem_cons_self).isIntegral
      rw [hcs, List.cons_append] at hitems
      rw [write, hcs, List.cons_append, List.cons_append, List.append_assoc, List.cons_append,
        readValue_members.1 c _ hgap hend, hitems]
      rfl
  | object fields ih =>
    obtain ⟨depth, rfl⟩ := Nat.exists_eq_add_one_of_ne_zero (Nat.ne_zero_of_lt h.depth_le)
    cases fields with
    | nil => simp [write, readValue, skipGaps_of_not_isGap (c := '\x7d') rfl]
    | cons field fields =>
      have hmembers : ∀ member ∈ field :: fields, ReadsBack (readValue limit depth) member.2 := by
        intro member hmember rest hrest
        rw [skipGaps_write (h.of_field hmember).isIntegral]
        exact ih member hmember (h.of_field hmember) rest hrest
      have hfields := readFields_writeFields field.1 field.2 fields [] limit rest hmembers
        h.length_fields_lt
      rw [write]
      simp only [List.cons_append, List.append_assoc]
      rw [readValue_members.2, hfields]
      rfl

end Values

/-! ### Whole texts -/

/-- **A text that was written is read as the tree it was written from.** -/
theorem readTree_compact (hintegral : json.isIntegral = true) (hdepth : json.depth ≤ maxDepth) :
    readTree json.compact = some json := by
  have hfits : Fits ((write json).length + 1) maxDepth json :=
    ⟨hintegral, hdepth, Nat.le_succ _⟩
  have hread := readsBack_readValue hfits [] endsNumber_nil
  rw [List.append_nil] at hread
  simp only [readTree, compact, String.toList_ofList, hread]
  rfl

theorem read_compact (hintegral : json.isIntegral = true) (hdepth : json.depth ≤ maxDepth) :
    read json.compact = some json.canonical := by
  rw [read, readTree_compact hintegral hdepth, Option.map_some]

end SymbolSearch.Json
