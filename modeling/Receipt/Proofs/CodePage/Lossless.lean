import Mathlib.Data.List.GetD
import Receipt.Proofs.Markup.Column

/-!
# Code pages that lose nothing

A page with a table of its upper half gives each byte a character.  If the characters of the table
are all different and none of them is ASCII, every character has one byte at most: the bytes of a text
are then the only ones that stand for it.  Texts are encoded character by character, so that a text
that is cut into pieces keeps its bytes and its width.  The page of the IBM PC is such a page.
-/

set_option autoImplicit false

namespace Receipt

namespace CodePage

/-! ## Characters of bytes -/

/-- The character of a byte on a page with such a table. -/
def decodeByte (table : List Nat) (byte : UInt8) : Char :=
  if byte.toNat < 128 then Char.ofNat byte.toNat else Char.ofNat (table.getD (byte.toNat - 128) 0)

/-- The text of bytes on a page with such a table. -/
def decode (table : List Nat) (bytes : List UInt8) : List Char :=
  bytes.map (decodeByte table)

/-- A table with a character of its own, which is not ASCII, for each byte of the upper half. -/
structure IsUpperHalf (table : List Nat) : Prop where
  length_eq : table.length = 128
  nodup : table.Nodup
  above : ∀ code ∈ table, 128 ≤ code
  character : ∀ code ∈ table, (Char.ofNat code).toNat = code

/-- The character that a page with such a table lacks and that stands first in a text. -/
def FirstLacking (table : List Nat) (text : List Char) (culprit : Char) : Prop :=
  ∃ front back, text = front ++ culprit :: back ∧ (∀ c ∈ front, ∃ byte, decodeByte table byte = c) ∧
    ∀ byte, decodeByte table byte ≠ culprit

/-- An ASCII code is that of its character. -/
theorem toNat_ofNat_of_ascii {code : Nat} (ascii : code < 128) : (Char.ofNat code).toNat = code := by
  revert code
  decide

/-- A byte of the lower half is ASCII on every page. -/
theorem decodeByte_of_lt (table : List Nat) {byte : UInt8} (low : byte.toNat < 128) :
    decodeByte table byte = Char.ofNat byte.toNat :=
  if_pos low

variable {table : List Nat}

/-- A byte of the upper half has the character of its entry. -/
theorem decodeByte_of_entry {byte : UInt8} {place : Nat} (inside : place < table.length)
    (place_eq : byte.toNat = 128 + place) : decodeByte table byte = Char.ofNat table[place] := by
  rw [decodeByte, if_neg (by omega), place_eq, Nat.add_sub_cancel_left,
    List.getD_eq_getElem _ _ inside]

/-- The byte that is written for a character is the one that stands for it. -/
theorem IsUpperHalf.singleByte?_eq_some_iff (half : IsUpperHalf table) (c : Char) (byte : UInt8) :
    singleByte? table c = some byte ↔ decodeByte table byte = c := by
  constructor
  · intro written
    unfold singleByte? at written
    split at written
    · next ascii =>
        obtain rfl := Option.some.inj written
        have value : (UInt8.ofNat c.toNat).toNat = c.toNat := by
          rw [UInt8.toNat_ofNat']
          omega
        rw [decodeByte_of_lt table (by omega), value, Char.ofNat_toNat]
    · obtain ⟨place, found, rfl⟩ := Option.map_eq_some_iff.mp written
      obtain ⟨inside, entry, -⟩ := List.idxOf?_eq_some_iff.mp found
      have short := half.length_eq
      have value : (UInt8.ofNat (128 + place)).toNat = 128 + place := by
        rw [UInt8.toNat_ofNat']
        omega
      rw [decodeByte_of_entry inside value, entry, Char.ofNat_toNat]
  · rintro rfl
    have byte_lt := byte.toNat_lt
    by_cases low : byte.toNat < 128
    · have value := toNat_ofNat_of_ascii low
      rw [decodeByte_of_lt table low, singleByte?, value, if_pos low, UInt8.ofNat_toNat]
    · obtain ⟨place, place_eq⟩ := Nat.exists_eq_add_of_le (Nat.not_lt.mp low)
      have inside : place < table.length := by
        rw [half.length_eq]
        omega
      have mem := List.getElem_mem inside
      -- No other entry has the character, so that the search ends here.
      have found : table.idxOf? table[place] = some place := by
        rw [List.idxOf?_eq_some_iff]
        refine ⟨inside, rfl, fun other before same => ?_⟩
        exact absurd ((List.getElem_inj half.nodup).mp same) (Nat.ne_of_lt before)
      rw [decodeByte_of_entry inside place_eq, singleByte?, half.character _ mem,
        if_neg (Nat.not_lt.mpr (half.above _ mem)), tableByte?, half.character _ mem, found,
        Option.map_some, ← place_eq, UInt8.ofNat_toNat]

/-- A character without a byte stands for none. -/
theorem IsUpperHalf.singleByte?_eq_none_iff (half : IsUpperHalf table) (c : Char) :
    singleByte? table c = none ↔ ∀ byte, decodeByte table byte ≠ c := by
  rw [Option.eq_none_iff_forall_ne_some]
  simp only [ne_eq, half.singleByte?_eq_some_iff]

/-! ## Texts of bytes -/

/-- Bytes are written for a text, behind those that are written already, exactly if they stand for
it. -/
theorem IsUpperHalf.singleBytes_eq_ok_iff (half : IsUpperHalf table) {done bytes : List UInt8}
    {text : List Char} :
    singleBytes table done text = .ok bytes ↔
      ∃ written, decode table written = text ∧ bytes = done.reverse ++ written := by
  induction text generalizing done with
  | nil =>
      simp only [singleBytes, Except.ok.injEq, decode, List.map_eq_nil_iff, exists_eq_left,
        List.append_nil]
      exact eq_comm
  | cons c rest ih =>
      rw [singleBytes]
      cases first : singleByte? table c with
      | none =>
          have lacking := (half.singleByte?_eq_none_iff c).mp first
          refine iff_of_false (by simp) ?_
          rintro ⟨written, stands, -⟩
          obtain ⟨byte, others, -, same, -⟩ := List.map_eq_cons_iff.mp stands
          exact lacking byte same
      | some byte =>
          have same := (half.singleByte?_eq_some_iff c byte).mp first
          simp only [ih, List.reverse_cons, List.append_assoc, List.singleton_append]
          constructor
          · rintro ⟨others, stands, rfl⟩
            refine ⟨byte :: others, ?_, rfl⟩
            rw [decode, List.map_cons, same, ← stands, decode]
          · rintro ⟨written, stands, rfl⟩
            obtain ⟨other, others, rfl, other_same, others_stand⟩ := List.map_eq_cons_iff.mp stands
            have only := (half.singleByte?_eq_some_iff c other).mpr other_same
            obtain rfl : byte = other := Option.some.inj (first.symm.trans only)
            exact ⟨others, others_stand, rfl⟩

/-- A text is refused for the first character that the page lacks. -/
theorem IsUpperHalf.singleBytes_eq_error_iff (half : IsUpperHalf table) {done : List UInt8}
    {text : List Char} {culprit : Char} :
    singleBytes table done text = .error culprit ↔ FirstLacking table text culprit := by
  induction text generalizing done with
  | nil =>
      refine iff_of_false (by simp [singleBytes]) ?_
      rintro ⟨front, back, same, -⟩
      simp at same
  | cons c rest ih =>
      rw [singleBytes]
      cases first : singleByte? table c with
      | none =>
          -- The search ends at this character, so that no known character can stand in front.
          have lacking := (half.singleByte?_eq_none_iff c).mp first
          simp only [Except.error.injEq]
          constructor
          · rintro rfl
            exact ⟨[], rest, rfl, List.forall_mem_nil _, lacking⟩
          · rintro ⟨front, back, same, known, -⟩
            cases front with
            | nil => exact (List.cons.inj same).1
            | cons d others =>
                obtain ⟨byte, stands⟩ := known d List.mem_cons_self
                exact absurd (stands.trans (List.cons.inj same).1.symm) (lacking byte)
      | some byte =>
          have same := (half.singleByte?_eq_some_iff c byte).mp first
          simp only [ih]
          constructor
          · rintro ⟨front, back, rfl, known, lacking⟩
            exact ⟨c :: front, back, rfl, List.forall_mem_cons.mpr ⟨⟨byte, same⟩, known⟩, lacking⟩
          · rintro ⟨front, back, joined, known, lacking⟩
            cases front with
            | nil => exact absurd (same.trans (List.cons.inj joined).1) (lacking byte)
            | cons d others =>
                obtain ⟨-, rfl⟩ := List.cons.inj joined
                exact ⟨others, back, rfl, (List.forall_mem_cons.mp known).2, lacking⟩

/-! ## Texts on such a page -/

section Page

variable {page : CodePage} (upper : page.upper? = some table) (half : IsUpperHalf table)
include upper half

/-- A text is encoded as bytes exactly if the bytes stand for it. -/
theorem encode_eq_ok_iff {text : List Char} {bytes : List UInt8} :
    page.encode text = .ok bytes ↔ decode table bytes = text := by
  have written : page.encode text = .ok bytes ↔ singleBytes table [] text = .ok bytes := by
    unfold encode encodeText
    rw [upper]
    dsimp only
    cases singleBytes table [] text <;> simp
  rw [written, half.singleBytes_eq_ok_iff]
  simp only [List.reverse_nil, List.nil_append, exists_eq_right']

/-- A text is refused exactly if the page lacks one of its characters; the first of these is the one
that the failure can name. -/
theorem encode_eq_error_iff {text : List Char} {failure : Failure} :
    page.encode text = .error failure ↔ ∃ culprit, FirstLacking table text culprit ∧
      failure = .encoding (.unrepresentable text page.name
        (if page.namesCulprit then some culprit else none)) := by
  have refused (culprit : Char) : FirstLacking table text culprit ↔
      singleBytes table [] text = .error culprit := half.singleBytes_eq_error_iff.symm
  simp only [refused]
  unfold encode encodeText
  rw [upper]
  dsimp only
  cases singleBytes table [] text with
  | ok bytes => simp
  | error culprit =>
      simp only [Except.error.injEq, exists_eq_left']
      exact eq_comm

/-- A text in two parts is encoded exactly if both of them are, as the bytes of both. -/
theorem encode_append_eq_ok_iff {front back : List Char} {bytes : List UInt8} :
    page.encode (front ++ back) = .ok bytes ↔ ∃ first second, page.encode front = .ok first ∧
      page.encode back = .ok second ∧ bytes = first ++ second := by
  simp only [encode_eq_ok_iff upper half, decode, List.map_eq_append_iff]
  constructor
  · rintro ⟨first, second, joined, front_eq, back_eq⟩
    exact ⟨first, second, front_eq, back_eq, joined⟩
  · rintro ⟨first, second, front_eq, back_eq, joined⟩
    exact ⟨first, second, joined, front_eq, back_eq⟩

/-- A text in two parts is refused exactly if one of them is. -/
theorem exists_encode_append_eq_error_iff {front back : List Char} :
    (∃ failure, page.encode (front ++ back) = .error failure) ↔
      (∃ failure, page.encode front = .error failure) ∨
        ∃ failure, page.encode back = .error failure := by
  simp only [Result.exists_eq_error_iff, ← not_and_or, encode_append_eq_ok_iff upper half]
  apply not_congr
  constructor
  · rintro ⟨_, first, second, front_eq, back_eq, -⟩
    exact ⟨⟨first, front_eq⟩, second, back_eq⟩
  · rintro ⟨⟨first, front_eq⟩, second, back_eq⟩
    exact ⟨first ++ second, first, second, front_eq, back_eq, rfl⟩

/-- A text in any number of parts is encoded exactly if all of them are, as the bytes of all. -/
theorem encode_flatten_eq_ok_iff {parts : List (List Char)} {bytes : List UInt8} :
    page.encode parts.flatten = .ok bytes ↔
      ∃ encoded, parts.mapM page.encode = .ok encoded ∧ bytes = encoded.flatten := by
  induction parts generalizing bytes with
  | nil =>
      have none_encoded : ([] : List (List Char)).mapM page.encode = .ok [] := rfl
      rw [none_encoded, List.flatten_nil, encode_eq_ok_iff upper half, decode, List.map_eq_nil_iff]
      simp
  | cons part rest ih =>
      simp only [List.flatten_cons, encode_append_eq_ok_iff upper half, ih, List.mapM_cons,
        Result.bind_eq_ok]
      constructor
      · rintro ⟨first, _, first_eq, ⟨others, others_eq, rfl⟩, rfl⟩
        exact ⟨first :: others, ⟨first, first_eq, others, others_eq, rfl⟩, rfl⟩
      · rintro ⟨_, ⟨first, first_eq, others, others_eq, same⟩, rfl⟩
        cases same
        exact ⟨first, others.flatten, first_eq, ⟨others, others_eq, rfl⟩, rfl⟩

end Page

end CodePage

namespace Markup

/-! ## Texts that are cut into runs -/

section Runs

variable {charset : Charset} {style : TextStyle} {run : TextRun}

/-- The width of a run is that of its bytes. -/
theorem TextRun.make_eq_ok_iff_bytes {text : List Char} :
    TextRun.make charset text style = .ok run ↔ ∃ bytes, charset.page.encode text = .ok bytes ∧
      run = ⟨text, style, bytes.length * style.size.widthFactor⟩ := by
  unfold make Charset.encode
  cases charset.page.encode text with
  | error failure => simp
  | ok bytes =>
      simp only [Except.ok.injEq, exists_eq_left']
      exact eq_comm

variable {table : List Nat} (upper : charset.page.upper? = some table)
  (half : CodePage.IsUpperHalf table)
include upper half

/-- A text in two parts makes a run exactly if both parts do, which may differ in style, but not in
size; its width is that of both. -/
theorem TextRun.make_append_eq_ok {front back : List Char} {other : TextStyle}
    (same : other.size = style.size) :
    TextRun.make charset (front ++ back) style = .ok run ↔ ∃ first second,
      TextRun.make charset front other = .ok first ∧ TextRun.make charset back style = .ok second ∧
        run = ⟨front ++ back, style, first.width + second.width⟩ := by
  simp only [make_eq_ok_iff_bytes, CodePage.encode_append_eq_ok_iff upper half, same]
  constructor
  · rintro ⟨_, ⟨first, second, front_eq, back_eq, rfl⟩, rfl⟩
    refine ⟨_, _, ⟨first, front_eq, rfl⟩, ⟨second, back_eq, rfl⟩, ?_⟩
    rw [List.length_append, Nat.add_mul]
  · rintro ⟨_, _, ⟨first, front_eq, rfl⟩, ⟨second, back_eq, rfl⟩, rfl⟩
    refine ⟨_, ⟨first, second, front_eq, back_eq, rfl⟩, ?_⟩
    rw [List.length_append, Nat.add_mul]

/-- A text that is cut into pieces of one size makes a run exactly if the pieces make runs, and is as
wide as these. -/
theorem TextRun.make_flatMap_eq_ok {pieces : List Piece}
    (same : ∀ piece ∈ pieces, piece.style.size = style.size) :
    TextRun.make charset (pieces.flatMap Piece.text) style = .ok run ↔
      ∃ runs, Column.runsOf charset pieces = .ok runs ∧
        run = ⟨pieces.flatMap Piece.text, style, totalWidth runs⟩ := by
  induction pieces generalizing run with
  | nil =>
      have no_runs : Column.runsOf charset [] = .ok [] := rfl
      have no_bytes : charset.page.encode [] = .ok [] :=
        (CodePage.encode_eq_ok_iff upper half).mpr rfl
      rw [make_eq_ok_iff_bytes, List.flatMap_nil, no_bytes, no_runs]
      simp [totalWidth]
  | cons piece rest ih =>
      rw [List.forall_mem_cons] at same
      rw [List.flatMap_cons, make_append_eq_ok upper half same.1]
      simp only [ih same.2, Column.runsOf, List.mapM_cons, Result.bind_eq_ok, Result.map_eq_ok]
      constructor
      · rintro ⟨first, _, first_eq, ⟨others, others_eq, rfl⟩, rfl⟩
        exact ⟨.text first :: others, ⟨_, ⟨first, first_eq, rfl⟩, others, others_eq, rfl⟩, rfl⟩
      · rintro ⟨_, ⟨_, ⟨first, first_eq, rfl⟩, others, others_eq, same⟩, rfl⟩
        cases same
        exact ⟨first, _, first_eq, ⟨others, others_eq, rfl⟩, rfl⟩

end Runs

end Markup

namespace CodePage

/-! ## The page of the IBM PC -/

/-- The table of the page of the IBM PC gives each byte a character of its own. -/
theorem isUpperHalf_ibm437 : IsUpperHalf Upper.ibm437 where
  length_eq := by decide +kernel
  nodup := by decide +kernel
  above := by decide +kernel
  character := by decide +kernel

/-- The page of the IBM PC loses nothing.  Any bytes stand for a text that is encoded as these
bytes.  A text is encoded as bytes exactly if they stand for it, and has one byte for each character.
A text in two parts is encoded as the bytes of both, exactly if both parts are, and refused if one of
them is.  A text that is cut into pieces keeps its bytes, and its width if they are of one size.  A
refusal names the first character that the page lacks. -/
theorem ibm437_lossless :
    (∀ bytes, ibm437.encode (decode Upper.ibm437 bytes) = .ok bytes) ∧
    (∀ text bytes, ibm437.encode text = .ok bytes ↔ decode Upper.ibm437 bytes = text) ∧
    (∀ text bytes, ibm437.encode text = .ok bytes → bytes.length = text.length) ∧
    (∀ front back first second, ibm437.encode front = .ok first → ibm437.encode back = .ok second →
      ibm437.encode (front ++ back) = .ok (first ++ second)) ∧
    (∀ front back, (∃ failure, ibm437.encode (front ++ back) = .error failure) ↔
      (∃ failure, ibm437.encode front = .error failure) ∨
        ∃ failure, ibm437.encode back = .error failure) ∧
    (∀ (parts : List (List Char)) (bytes : List UInt8), ibm437.encode parts.flatten = .ok bytes ↔
      ∃ encoded, parts.mapM ibm437.encode = .ok encoded ∧ bytes = encoded.flatten) ∧
    (∀ id pieces style, (∀ piece ∈ pieces, piece.style.size = style.size) →
      ∀ run, Markup.TextRun.make ⟨ibm437, id⟩ (pieces.flatMap Markup.Piece.text) style = .ok run ↔
        ∃ runs, Markup.Column.runsOf ⟨ibm437, id⟩ pieces = .ok runs ∧
          run = ⟨pieces.flatMap Markup.Piece.text, style, Markup.totalWidth runs⟩) ∧
    ∀ text failure, ibm437.encode text = .error failure ↔ ∃ culprit,
      FirstLacking Upper.ibm437 text culprit ∧
        failure = .encoding (.unrepresentable text "IBM437" (some culprit)) ∧
        failure.message = "Encoding error: " ++ (Text.quoteText text ++
          " cannot be represented in " ++ "IBM437" ++ (" (U+" ++ codePointText culprit ++ ")")) := by
  have upper : upper? ibm437 = some Upper.ibm437 := rfl
  have half := isUpperHalf_ibm437
  refine ⟨fun bytes => (encode_eq_ok_iff upper half).mpr rfl,
    fun text bytes => encode_eq_ok_iff upper half, ?_, ?_,
    fun front back => exists_encode_append_eq_error_iff upper half,
    fun parts bytes => encode_flatten_eq_ok_iff upper half, ?_, ?_⟩
  · intro text bytes encoded
    rw [← (encode_eq_ok_iff upper half).mp encoded, decode, List.length_map]
  · intro front back first second front_eq back_eq
    exact (encode_append_eq_ok_iff upper half).mpr ⟨first, second, front_eq, back_eq, rfl⟩
  · intro id pieces style same run
    have page : (Charset.mk ibm437 id).page.upper? = some Upper.ibm437 := rfl
    exact Markup.TextRun.make_flatMap_eq_ok page half same
  · intro text failure
    rw [encode_eq_error_iff upper half]
    refine exists_congr fun culprit => and_congr_right fun _ => ⟨?_, And.left⟩
    rintro rfl
    exact ⟨rfl, rfl⟩

/-- Text of double width in two runs, the second of them bold. -/
def halfYear : List Markup.Piece :=
  [⟨"Año".toList, { TextStyle.plain with size := .wide }⟩,
    ⟨" ½".toList, { TextStyle.plain with size := .wide, weight := .bold }⟩]

/-- Its bytes, their number and its width come from its runs.  A text with a sign for the euro and
one for snow is refused for the euro. -/
theorem ibm437_lossless_halfYear :
    ibm437.encode "Año ½".toList = .ok [0x41, 0xa4, 0x6f, 0x20, 0xab] ∧
      decode Upper.ibm437 [0x41, 0xa4, 0x6f, 0x20, 0xab] = "Año ½".toList ∧
      [0x41, 0xa4, 0x6f, 0x20, 0xab].length = "Año ½".toList.length ∧
      (∃ run, Markup.TextRun.make ⟨ibm437, 0⟩ (halfYear.flatMap Markup.Piece.text)
        { TextStyle.plain with size := .wide } = .ok run ∧ run.width = 10) ∧
      ∃ failure, ibm437.encode "2 € ☃".toList = .error failure ∧ failure.message =
        "Encoding error: \"2 € ☃\" cannot be represented in IBM437 (U+20AC)" := by
  obtain ⟨-, reads, counts, appended, -, -, cut, refused⟩ := ibm437_lossless
  have word : ibm437.encode "Año".toList = .ok [0x41, 0xa4, 0x6f] := by decide +kernel
  have rest : ibm437.encode " ½".toList = .ok [0x20, 0xab] := by decide +kernel
  have joined : ibm437.encode ("Año".toList ++ " ½".toList) =
      .ok ([0x41, 0xa4, 0x6f] ++ [0x20, 0xab]) := appended _ _ _ _ word rest
  have text : "Año".toList ++ " ½".toList = "Año ½".toList := by decide +kernel
  rw [text] at joined
  have runs : Markup.totalWidth <$> Markup.Column.runsOf ⟨ibm437, 0⟩ halfYear = .ok 10 := by
    decide +kernel
  obtain ⟨elements, made, width⟩ := Result.map_eq_ok.mp runs
  have euro : ibm437.encode "2 € ☃".toList =
      .error (.encoding (.unrepresentable "2 € ☃".toList "IBM437" (some '€'))) := by
    decide +kernel
  refine ⟨joined, (reads _ _).mp joined, counts _ _ joined, ?_, _, euro, ?_⟩
  · exact ⟨_, (cut 0 halfYear _ (by decide) _).mpr ⟨elements, made, rfl⟩, width⟩
  · obtain ⟨culprit, -, same, message⟩ := (refused _ _).mp euro
    cases same
    rw [message]
    decide +kernel

end CodePage

end Receipt
