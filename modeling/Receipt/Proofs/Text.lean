import Receipt.Bytes
import Receipt.Text.Blank
import Receipt.Text.Hex

/-!
# Blanks around a text, and digits of either case

Blanks on both sides of a text that starts and ends with other characters are what is removed from
it.  Digits that differ from the hexadecimal text of some bytes in nothing but their case are read as
these bytes, and none of them is blank.
-/

set_option autoImplicit false

namespace Receipt.Text

/-- A text without blanks is not trimmed. -/
theorem trim_eq_self {text : List Char} (full : ∀ c ∈ text, isBlank c = false) :
    trim text = text := by
  have kept : text.dropWhile isBlank = text := by
    cases text with
    | nil => rfl
    | cons c rest => exact List.dropWhile_cons_of_neg (by simp [full c])
  have kept_reverse : text.reverse.dropWhile isBlank = text.reverse := by
    cases found : text.reverse with
    | nil => rfl
    | cons c rest =>
        have mem : c ∈ text := by
          rw [← List.mem_reverse, found]
          exact List.mem_cons_self
        exact List.dropWhile_cons_of_neg (by simp [full c mem])
  rw [trim, trimBoth, kept, kept_reverse, List.reverse_reverse]

/-- Blanks in front of a text are removed. -/
theorem trim_append_of_blank {front : List Char} (blank : ∀ c ∈ front, isBlank c = true)
    (text : List Char) : trim (front ++ text) = trim text := by
  rw [trim, trimBoth, List.dropWhile_append_of_pos blank]
  rfl

/-- Blanks around a text that starts and ends with other characters are removed. -/
theorem trim_between {front back : List Char} (front_blank : ∀ c ∈ front, isBlank c = true)
    (back_blank : ∀ c ∈ back, isBlank c = true) {first last : Char} (inner : List Char)
    (first_full : isBlank first = false) (last_full : isBlank last = false) :
    trim (front ++ (first :: (inner ++ [last]) ++ back)) = first :: (inner ++ [last]) := by
  have start : (front ++ (first :: (inner ++ [last]) ++ back)).dropWhile isBlank =
      first :: (inner ++ [last]) ++ back := by
    rw [List.dropWhile_append_of_pos front_blank, List.cons_append]
    exact List.dropWhile_cons_of_neg (by simp [first_full])
  have behind : ∀ c ∈ back.reverse, isBlank c = true :=
    fun c mem => back_blank c (List.mem_reverse.mp mem)
  have turned : (first :: (inner ++ [last])).reverse = last :: (first :: inner).reverse := by
    simp
  have ending : (first :: (inner ++ [last]) ++ back).reverse.dropWhile isBlank =
      (first :: (inner ++ [last])).reverse := by
    rw [List.reverse_append, List.dropWhile_append_of_pos behind, turned]
    exact List.dropWhile_cons_of_neg (by simp [last_full])
  rw [trim, trimBoth, start, ending, List.reverse_reverse]

/-- An ASCII character is one byte of a text. -/
theorem ofText_cons_of_ascii {c : Char} (ascii : c.toNat < 128) (rest : List Char) :
    Bytes.ofText (c :: rest) = UInt8.ofNat c.toNat :: Bytes.ofText rest := by
  have small : c.val ≤ 127 := UInt32.le_iff_toNat_le.mpr (Nat.le_of_lt_succ ascii)
  have alone := String.utf8EncodeChar_eq_singleton (Char.utf8Size_eq_one_iff.mpr small)
  rw [Bytes.ofText, List.flatMap_cons, alone]
  rfl

/-- ASCII text has as many bytes as characters. -/
theorem length_ofText_of_ascii {text : List Char} (ascii : ∀ c ∈ text, c.toNat < 128) :
    (Bytes.ofText text).length = text.length := by
  induction text with
  | nil => rfl
  | cons c rest ih =>
      rw [List.forall_mem_cons] at ascii
      rw [ofText_cons_of_ascii ascii.1, List.length_cons, List.length_cons, ih ascii.2]

/-- Only ASCII characters differ from their lower case. -/
theorem toLower_of_not_ascii {c : Char} (wide : 128 ≤ c.toNat) : c.toLower = c := by
  have no_capital : ¬ (c.val ≥ 'A'.val ∧ c.val ≤ 'Z'.val) := by
    rintro ⟨-, below⟩
    have bound : c.toNat ≤ 90 := UInt32.le_iff_toNat_le.mp below
    omega
  unfold Char.toLower
  rw [dif_neg no_capital]

namespace Hex

/-- Whether a character is a hexadecimal digit of either case. -/
def isDigit (c : Char) : Bool :=
  decide (c.toNat < 128) && (value? (UInt8.ofNat c.toNat)).isSome

/-- No hexadecimal digit is a blank. -/
theorem isBlank_of_isDigit {c : Char} (h : isDigit c = true) : isBlank c = false := by
  have checked : ∀ code < 128, (value? (UInt8.ofNat code)).isSome = true →
      isBlank (Char.ofNat code) = false := by
    decide +kernel
  simp only [isDigit, Bool.and_eq_true, decide_eq_true_eq] at h
  have known := checked c.toNat h.1 h.2
  rw [Char.ofNat_toNat] at known
  exact known

/-- A character whose lower case is a digit has the value of that digit. -/
theorem value?_of_toLower {c : Char} {n : UInt8} (small : n < 16) (same : c.toLower = digit n) :
    c.toNat < 128 ∧ value? (UInt8.ofNat c.toNat) = some n := by
  have digits : ∀ n < 16, (digit (UInt8.ofNat n)).toNat < 128 := by
    decide +kernel
  have checked : ∀ code < 128, ∀ n < 16, (Char.ofNat code).toLower = digit (UInt8.ofNat n) →
      value? (UInt8.ofNat code) = some (UInt8.ofNat n) := by
    decide +kernel
  have below : n.toNat < 16 := UInt8.lt_iff_toNat_lt.mp small
  have ascii : c.toNat < 128 := by
    by_cases wide : 128 ≤ c.toNat
    · have short := digits n.toNat below
      rw [UInt8.ofNat_toNat, ← same, toLower_of_not_ascii wide] at short
      exact short
    · exact Nat.lt_of_not_le wide
  have known := checked c.toNat ascii n.toNat below
  rw [Char.ofNat_toNat, UInt8.ofNat_toNat] at known
  exact ⟨ascii, known same⟩

/-- Bytes are written in small digits. -/
theorem toLower_encode (bytes : List UInt8) : (encode bytes).map Char.toLower = encode bytes := by
  have small : ∀ n < 256, (ofByte (UInt8.ofNat n)).map Char.toLower = ofByte (UInt8.ofNat n) := by
    decide +kernel
  induction bytes with
  | nil => rfl
  | cons byte rest ih =>
      have pair := small byte.toNat byte.toNat_lt
      rw [UInt8.ofNat_toNat] at pair
      have unfolded : encode (byte :: rest) = ofByte byte ++ encode rest := rfl
      rw [unfolded, List.map_append, pair, ih]

/-- Digits of either case are read pair by pair. -/
theorem decodePairs_of_toLower {digits : List Char} {bytes : List UInt8}
    (written : digits.map Char.toLower = encode bytes) (position : Nat) (done : List UInt8) :
    decodePairs position done (Bytes.ofText digits) = .ok (done.reverse ++ bytes) ∧
      (Bytes.ofText digits).length = 2 * bytes.length ∧ ∀ c ∈ digits, isDigit c = true := by
  induction bytes generalizing digits position done with
  | nil =>
      cases List.map_eq_nil_iff.mp written
      refine ⟨?_, rfl, List.forall_mem_nil _⟩
      rw [List.append_nil]
      rfl
  | cons byte rest ih =>
      -- The first two characters are the digits of the first byte.
      have pair : encode (byte :: rest) = digit (byte / 16) :: digit (byte % 16) :: encode rest :=
        rfl
      rw [pair] at written
      obtain ⟨high, others, rfl, same_high, behind⟩ := List.map_eq_cons_iff.mp written
      obtain ⟨low, tail, rfl, same_low, following⟩ := List.map_eq_cons_iff.mp behind
      have bound := byte.toNat_lt
      have above : byte / 16 < 16 := by
        rw [UInt8.lt_iff_toNat_lt, UInt8.toNat_div]
        change byte.toNat / 16 < 16
        omega
      have below : byte % 16 < 16 := by
        rw [UInt8.lt_iff_toNat_lt, UInt8.toNat_mod]
        exact Nat.mod_lt _ (by decide)
      have joined : byte / 16 * 16 + byte % 16 = byte := by
        apply UInt8.toNat_inj.mp
        rw [UInt8.toNat_add, UInt8.toNat_mul, UInt8.toNat_div, UInt8.toNat_mod]
        change (byte.toNat / 16 * 16 % 256 + byte.toNat % 16) % 256 = byte.toNat
        omega
      obtain ⟨ascii_high, value_high⟩ := value?_of_toLower above same_high
      obtain ⟨ascii_low, value_low⟩ := value?_of_toLower below same_low
      obtain ⟨read, long, others_digits⟩ := ih following (position + 2) (byte :: done)
      rw [ofText_cons_of_ascii ascii_high, ofText_cons_of_ascii ascii_low]
      refine ⟨?_, ?_, ?_⟩
      · simp only [decodePairs, value_high, value_low, joined, read, List.reverse_cons,
          List.append_assoc, List.singleton_append]
      · rw [List.length_cons, List.length_cons, List.length_cons, long]
        omega
      · intro c mem
        rcases List.mem_cons.mp mem with rfl | mem
        · simp [isDigit, ascii_high, value_high]
        · rcases List.mem_cons.mp mem with rfl | mem
          · simp [isDigit, ascii_low, value_low]
          · exact others_digits c mem

/-- Digits that spell bytes in either case are digits. -/
theorem isDigit_of_toLower {digits : List Char} {bytes : List UInt8}
    (written : digits.map Char.toLower = encode bytes) : ∀ c ∈ digits, isDigit c = true :=
  (decodePairs_of_toLower written 0 []).2.2

/-- Other characters are not among digits that spell bytes. -/
theorem not_mem_of_toLower {digits : List Char} {bytes : List UInt8}
    (written : digits.map Char.toLower = encode bytes) {c : Char} (other : isDigit c = false) :
    c ∉ digits := by
  intro mem
  rw [isDigit_of_toLower written c mem] at other
  cases other

/-- Digits of either case are read as the bytes whose hexadecimal text they are. -/
theorem decode_of_toLower {digits : List Char} {bytes : List UInt8}
    (written : digits.map Char.toLower = encode bytes) :
    decode (Bytes.ofText (trim digits)) = .ok bytes := by
  obtain ⟨read, long, are_digits⟩ := decodePairs_of_toLower written 0 []
  have full : ∀ c ∈ digits, isBlank c = false := by
    intro c mem
    exact isBlank_of_isDigit (are_digits c mem)
  have even : (Bytes.ofText digits).length % 2 ≠ 1 := by
    rw [long]
    omega
  rw [trim_eq_self full, decode, if_neg even]
  exact read

end Hex

end Receipt.Text
