import Receipt.Proofs.Barcode.Completion
import Receipt.Proofs.Bytes
import Receipt.Proofs.Text

/-!
# Bar codes as a printer reads them

A printer reads the commands of a bar code one after the other: where the text stands, the width of
a module, the height, and the code behind its type and its length.  The length is one byte, and the
code is as many bytes as that says.  What is written here is how printers are documented to read.
A code of 256 characters or more announces too few bytes, and the rest of it is read as whatever the
job sends next.  On paper that is too narrow for such a code this cannot happen.
-/

set_option autoImplicit false

namespace Receipt

/-- The position that a byte means. -/
def TextPosition.ofCode? : UInt8 → Option TextPosition
  | 0 => some .hidden
  | 1 => some .above
  | 2 => some .below
  | _ => none

/-- A position is read back from its code. -/
@[simp] theorem TextPosition.ofCode?_code (textPosition : TextPosition) :
    ofCode? textPosition.code = some textPosition := by
  cases textPosition <;> rfl

namespace Barcode

/-- What a printer reads as a bar code. -/
structure Reading where
  textPosition : TextPosition
  moduleWidth : UInt8
  height : UInt8
  typeCode : UInt8
  code : List UInt8
  deriving DecidableEq, Repr

/-- The bar code at the front of bytes, and the bytes behind it. -/
def read? : List UInt8 → Option (Reading × List UInt8)
  | 0x1d :: 0x48 :: position :: 0x1d :: 0x77 :: moduleWidth :: 0x1d :: 0x68 :: height ::
      0x1d :: 0x6b :: typeCode :: length :: rest => do
    let textPosition ← TextPosition.ofCode? position
    let (code, behind) ← Bytes.takeExact? length.toNat rest
    return (⟨textPosition, moduleWidth, height, typeCode, code⟩, behind)
  | _ => none

/-- Whether a bar code is read whole from its commands, and nothing else with it, whatever the job
sends behind them. -/
def ReadsBack (barcode : Barcode) : Prop :=
  ∀ behind, read? (barcode.bytes ++ behind) =
    some (⟨barcode.textPosition, UInt8.ofNat barcode.moduleWidth, Bytes.lowByte barcode.height,
      barcode.symbology.typeCode, Bytes.ofText barcode.code⟩, behind)

variable {profile : Profile} {symbology : Symbology} {code completed : List Char}
  {widthMm heightMm : Number.Single} {textPosition : TextPosition} {barcode : Barcode}

/-- The code is read as far as the low byte of its length goes. -/
theorem read?_bytes (ascii : ∀ c ∈ barcode.code, c.toNat < 128) (behind : List UInt8) :
    read? (barcode.bytes ++ behind) =
      some (⟨barcode.textPosition, UInt8.ofNat barcode.moduleWidth, Bytes.lowByte barcode.height,
          barcode.symbology.typeCode, (Bytes.ofText barcode.code).take (barcode.code.length % 256)⟩,
        (Bytes.ofText barcode.code).drop (barcode.code.length % 256) ++ behind) := by
  have unfolded : read? (barcode.bytes ++ behind) = do
      let textPosition ← TextPosition.ofCode? barcode.textPosition.code
      let (code, behind) ← Bytes.takeExact? (UInt8.ofNat barcode.code.length).toNat
        (Bytes.ofText barcode.code ++ behind)
      return (⟨textPosition, UInt8.ofNat barcode.moduleWidth, Bytes.lowByte barcode.height,
        barcode.symbology.typeCode, code⟩, behind) := rfl
  have short : barcode.code.length % 256 ≤ (Bytes.ofText barcode.code).length := by
    rw [Text.length_ofText_of_ascii ascii]
    exact Nat.mod_le _ _
  rw [unfolded, TextPosition.ofCode?_code, UInt8.toNat_ofNat', Bytes.takeExact?_append short]
  rfl

/-- A code of ASCII text is read back exactly if its length is a byte. -/
theorem readsBack_iff_of_ascii (ascii : ∀ c ∈ barcode.code, c.toNat < 128) :
    ReadsBack barcode ↔ barcode.code.length < 256 := by
  have size := Text.length_ofText_of_ascii ascii
  unfold ReadsBack
  simp only [read?_bytes ascii]
  constructor
  · intro whole
    have taken := congrArg (fun reading => reading.map (·.1.code.length)) (whole [])
    simp only [Option.map_some, Option.some.injEq, List.length_take, size] at taken
    omega
  · intro short behind
    rw [Nat.mod_eq_of_lt short, ← size, List.take_length, List.drop_length, List.nil_append]

/-- Digits are ASCII. -/
theorem toNat_lt_of_isDigit {c : Char} (digit : c.isDigit = true) : c.toNat < 128 :=
  (Char.isDigit_iff_toNat.mp digit).2.trans_lt (by decide)

/-- A completed code is ASCII text, whatever its form. -/
theorem ascii_of_completeCode {form : CodeForm}
    (complete : completeCode form code = .ok completed) : ∀ c ∈ completed, c.toNat < 128 := by
  cases form with
  | checked length =>
      obtain ⟨-, digits, rfl⟩ := completeCode_checked_eq_ok.mp complete
      intro c mem
      rcases List.mem_append.mp mem with inside | last
      · exact toNat_lt_of_isDigit (digits c inside)
      · rw [List.mem_singleton.mp last]
        exact toNat_lt_of_isDigit (isDigit_completingDigit _)
  | digits length =>
      obtain ⟨-, digits, rfl⟩ := completeCode_digits_eq_ok.mp complete
      exact fun c mem => toNat_lt_of_isDigit (digits c mem)
  | ascii =>
      obtain ⟨ascii, rfl⟩ := completeCode_ascii_eq_ok.mp complete
      exact ascii

/-- A completed code whose length is not a byte takes at least as many modules as Code 128 does for
256 characters. -/
theorem modules_of_completeCode (complete : completeCode symbology.form code = .ok completed)
    (long : 256 ≤ completed.length) :
    Symbology.code128.modules 256 ≤ symbology.modules completed.length := by
  cases symbology with
  | upcA | ean13 | ean8 =>
      have fixed := ((completeCode_eq_ok_iff (by decide)).mp complete).length_eq
      omega
  | upcE =>
      obtain ⟨-, -, rfl⟩ := completeCode_digits_eq_ok.mp complete
      exact absurd (long.trans (List.length_take_le _ _)) (by decide)
  | code39 | code128 =>
      simp only [Symbology.modules, Symbology.modulesPerCharacter, Symbology.extraModules]
      omega

/-- A bar code that is built is read back whole exactly if its length is a byte, which it always is
on paper with fewer dots than Code 128 takes for 256 characters. -/
theorem reads_back_iff
    (made : make profile symbology code widthMm heightMm textPosition = .ok barcode) :
    (ReadsBack barcode ↔ barcode.code.length < 256) ∧
      (profile.widthPx < Symbology.code128.modules 256 → ReadsBack barcode) := by
  obtain ⟨completed, complete, moduleWidth, fitted, rfl⟩ := make_eq_ok.mp made
  have readsBack : ReadsBack ⟨symbology, completed, textPosition, moduleWidth,
      profile.mmToPx heightMm⟩ ↔ completed.length < 256 :=
    readsBack_iff_of_ascii (ascii_of_completeCode complete)
  refine ⟨readsBack, fun narrow => readsBack.mpr ?_⟩
  by_contra long
  have wide := modules_of_completeCode complete (not_lt.mp long)
  obtain ⟨some_dots, on_paper⟩ := fitModule_fits (modules_pos symbology completed.length) fitted
  have all := Nat.le_mul_of_pos_left (symbology.modules completed.length) some_dots
  omega

/-- A short code on the narrow paper is read back. -/
theorem reads_back_iff_short :
    make .mm58 .code128 "AB-12".toList (Number.Single.ofNat 0) (Number.Single.ofNat 10) .above =
        .ok ⟨.code128, "AB-12".toList, .above, 2, 80⟩ ∧
      Profile.mm58.widthPx < Symbology.code128.modules 256 ∧
      ReadsBack ⟨.code128, "AB-12".toList, .above, 2, 80⟩ := by
  have made : make .mm58 .code128 "AB-12".toList (Number.Single.ofNat 0) (Number.Single.ofNat 10)
      .above = .ok ⟨.code128, "AB-12".toList, .above, 2, 80⟩ := by
    decide +kernel
  have narrow : Profile.mm58.widthPx < Symbology.code128.modules 256 := by
    decide +kernel
  exact ⟨made, narrow, (reads_back_iff made).2 narrow⟩

/-- Paper of 122 mm with 600 dots to the inch, 2884 dots wide. -/
def finePaper : Profile :=
  ⟨600, Number.Single.ofNat 122, 80, .standard, by decide, by decide +kernel, by decide +kernel,
    by decide⟩

/-- On fine paper a code of 256 letters is built.  Its length is sent as zero, and all its letters
are left in front of what the job sends next. -/
theorem long_code_not_read_back :
    Profile.make 600 (Number.Single.ofNat 122) 80 = .ok finePaper ∧
      ∃ barcode, make finePaper .code128 (List.replicate 256 'A') (Number.Single.ofNat 0)
          (Number.Single.ofNat 10) .below = .ok barcode ∧
        read? barcode.bytes = some (⟨.below, 1, 236, 73, []⟩, List.replicate 256 0x41) ∧
        ¬ ReadsBack barcode := by
  have accepted : Profile.make 600 (Number.Single.ofNat 122) 80 = .ok finePaper := by
    decide +kernel
  have made : make finePaper .code128 (List.replicate 256 'A') (Number.Single.ofNat 0)
      (Number.Single.ofNat 10) .below =
        .ok ⟨.code128, List.replicate 256 'A', .below, 1, 236⟩ := by
    decide +kernel
  have read : read? (bytes ⟨.code128, List.replicate 256 'A', .below, 1, 236⟩) =
      some (⟨.below, 1, 236, 73, []⟩, List.replicate 256 0x41) := by
    decide +kernel
  refine ⟨accepted, _, made, read, fun whole => ?_⟩
  have all := whole []
  rw [List.append_nil, read, Option.some.injEq, Prod.mk.injEq] at all
  cases all.2

end Barcode

end Receipt
