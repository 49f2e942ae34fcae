import Receipt.CodePage

/-!
# Spaces on a code page

Padding is made of spaces.  Every code page has the space, as the same single byte, so that padding
can always be encoded and takes one character cell for each of its spaces.  A text is refused for
characters that the page lacks, and for nothing else.
-/

set_option autoImplicit false

namespace Receipt

namespace CodePage

/-- The byte of the space. -/
def spaceByte : UInt8 :=
  0x20

/-- A single-byte page writes each space as one byte behind what is written already. -/
theorem singleBytes_spaces (table : List Nat) (done : List UInt8) (count : Nat) :
    singleBytes table done (List.replicate count ' ') =
      .ok (done.reverse ++ List.replicate count spaceByte) := by
  have space : singleByte? table ' ' = some spaceByte := rfl
  induction count generalizing done with
  | zero => simp [singleBytes]
  | succ count ih =>
      rw [List.replicate_succ, singleBytes, space]
      simp only [ih]
      simp [List.replicate_succ]

/-- UTF-8 writes each space as one byte. -/
theorem ofText_spaces (count : Nat) :
    Bytes.ofText (List.replicate count ' ') = List.replicate count spaceByte := by
  have space : String.utf8EncodeChar ' ' = [spaceByte] := by decide
  rw [Bytes.ofText, List.flatMap_replicate, space]
  simp

end CodePage

/-- Every charset writes each space as one byte. -/
theorem Charset.encode_spaces (charset : Charset) (count : Nat) :
    charset.encode (List.replicate count ' ') =
      .ok (List.replicate count CodePage.spaceByte) := by
  unfold Charset.encode CodePage.encode CodePage.encodeText
  cases charset.page.upper? with
  | none => simp [CodePage.ofText_spaces]
  | some table => simp [CodePage.singleBytes_spaces]

/-- A charset fails for characters that its page lacks. -/
theorem Charset.exists_of_encode_eq_error {charset : Charset} {text : List Char}
    {failure : Failure} (lacking : charset.encode text = .error failure) :
    ∃ cause, failure = .encoding cause := by
  unfold encode CodePage.encode at lacking
  split at lacking
  · cases lacking
  · cases lacking
    exact ⟨_, rfl⟩

end Receipt
