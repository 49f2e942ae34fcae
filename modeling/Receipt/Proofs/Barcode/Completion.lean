import Receipt.Proofs.Barcode
import Receipt.Proofs.Barcode.CheckDigit

/-!
# Completed codes

A code with a check digit is cut to its payload, and its check digit is put behind that.  What comes
out is the only code of its length that starts with the payload and whose weighted digits add up to
a multiple of ten.  A code that has been completed is completed to itself, so that a bar code is
built again from the code that it shows.
-/

set_option autoImplicit false

namespace Receipt.Barcode

/-- A code of digits that starts with the payload of another one and is completed by its last
digit. -/
structure IsCompletion (length : Nat) (code completed : List Char) : Prop where
  length_eq : completed.length = length
  digits : ∀ c ∈ completed, c.isDigit = true
  payload : completed.take (length - 1) = code.take (length - 1)
  balanced : controlSum completed % 10 = 0

variable {length : Nat} {code completed : List Char}

/-- What is done to a code with a check digit: it is measured before its payload is read. -/
theorem completeCode_checked (length : Nat) (code : List Char) :
    completeCode (.checked length) code =
      if code.length < length - 1 then .error (.barcode .tooShort)
      else if (code.take (length - 1)).all Char.isDigit then
        .ok (code.take (length - 1) ++ [completingDigit (code.take (length - 1))])
      else .error (.barcode .notNumeric) := by
  unfold completeCode
  dsimp only
  rw [checkDigit_eq]
  by_cases numeric : (code.take (length - 1)).all Char.isDigit = true
  · rw [if_pos numeric, if_pos numeric]
  · rw [if_neg numeric, if_neg numeric]

/-- A code is measured, and what is kept of it must be digits, before anything comes out. -/
theorem measured_eq_ok {kept result : List Char} :
    (if code.length < length then .error (.barcode .tooShort)
      else if kept.all Char.isDigit then .ok result
      else .error (.barcode .notNumeric) : Except Failure (List Char)) = .ok completed ↔
      length ≤ code.length ∧ (∀ c ∈ kept, c.isDigit = true) ∧ result = completed := by
  rw [← List.all_eq_true]
  by_cases short : code.length < length
  · rw [if_pos short]
    exact iff_of_false (by simp) (by omega)
  · rw [if_neg short]
    by_cases numeric : kept.all Char.isDigit = true
    · rw [if_pos numeric, Except.ok.injEq]
      exact ⟨fun same => ⟨not_lt.mp short, numeric, same⟩, fun all => all.2.2⟩
    · rw [if_neg numeric]
      exact iff_of_false (by simp) (fun all => numeric all.2.1)

/-- A code with a check digit is completed exactly if it holds a payload of digits. -/
theorem completeCode_checked_eq_ok :
    completeCode (.checked length) code = .ok completed ↔
      length - 1 ≤ code.length ∧ (∀ c ∈ code.take (length - 1), c.isDigit = true) ∧
        code.take (length - 1) ++ [completingDigit (code.take (length - 1))] = completed := by
  rw [completeCode_checked, measured_eq_ok]

/-- A code of digits alone is cut to its length, exactly if it holds so many digits. -/
theorem completeCode_digits_eq_ok :
    completeCode (.digits length) code = .ok completed ↔
      length ≤ code.length ∧ (∀ c ∈ code.take length, c.isDigit = true) ∧
        code.take length = completed :=
  measured_eq_ok

/-- Any other code is left as it is, exactly if it is ASCII text. -/
theorem completeCode_ascii_eq_ok :
    completeCode .ascii code = .ok completed ↔
      (∀ c ∈ code, c.toNat < 128) ∧ code = completed := by
  unfold completeCode
  dsimp only
  by_cases ascii : ∀ c ∈ code, c.toNat < 128
  · rw [if_pos (by simpa using ascii), Except.ok.injEq]
    exact ⟨fun same => ⟨ascii, same⟩, fun all => all.2⟩
  · rw [if_neg (by simpa using ascii)]
    exact iff_of_false (by simp) (fun all => ascii all.1)

/-- A bar code whose form is any text has the code that it is made of. -/
theorem code_of_make {profile : Profile} {symbology : Symbology}
    {widthMm heightMm : Number.Single} {textPosition : TextPosition} {barcode : Barcode}
    (free : symbology.form = .ascii)
    (made : make profile symbology code widthMm heightMm textPosition = .ok barcode) :
    barcode.code = code := by
  obtain ⟨completed, complete, moduleWidth, -, rfl⟩ := make_eq_ok.mp made
  rw [free] at complete
  exact (completeCode_ascii_eq_ok.mp complete).2.symm

/-- The completed code is the one code that is a completion. -/
theorem completeCode_eq_ok_iff (length_pos : 0 < length) :
    completeCode (.checked length) code = .ok completed ↔ IsCompletion length code completed := by
  rw [completeCode_checked_eq_ok]
  constructor
  · rintro ⟨long, digits, rfl⟩
    have size : (code.take (length - 1)).length = length - 1 := List.length_take_of_le long
    refine ⟨?_, ?_, List.take_left' size, ?_⟩
    · rw [List.length_append, size, List.length_singleton]
      omega
    · intro c mem
      rcases List.mem_append.mp mem with inside | last
      · exact digits c inside
      · rw [List.mem_singleton.mp last]
        exact isDigit_completingDigit _
    · exact (controlSum_concat_iff _ (isDigit_completingDigit _)).mpr rfl
  · intro completion
    have rest : (completed.drop (length - 1)).length = 1 := by
      rw [List.length_drop, completion.length_eq]
      omega
    obtain ⟨last, last_eq⟩ := List.length_eq_one_iff.mp rest
    have whole : code.take (length - 1) ++ [last] = completed := by
      rw [← completion.payload, ← last_eq, List.take_append_drop]
    have digits := completion.digits
    have balanced := completion.balanced
    have size := congrArg List.length whole
    rw [completion.length_eq, List.length_append, List.length_take, List.length_singleton] at size
    rw [← whole] at digits balanced
    have isDigit : last.isDigit = true := digits last (by simp)
    refine ⟨by omega, fun c mem => digits c (List.mem_append_left _ mem), ?_⟩
    rw [← (controlSum_concat_iff _ isDigit).mp balanced]
    exact whole

/-- A completed code is completed to itself. -/
theorem completeCode_completed {form : CodeForm}
    (complete : completeCode form code = .ok completed) :
    completeCode form completed = .ok completed := by
  cases form with
  | checked length =>
      obtain ⟨long, digits, rfl⟩ := completeCode_checked_eq_ok.mp complete
      have size : (code.take (length - 1)).length = length - 1 := List.length_take_of_le long
      rw [completeCode_checked_eq_ok, List.take_left' size]
      refine ⟨?_, digits, rfl⟩
      rw [List.length_append, size]
      omega
  | digits length =>
      obtain ⟨long, digits, rfl⟩ := completeCode_digits_eq_ok.mp complete
      have size : (code.take length).length = length := List.length_take_of_le long
      rw [completeCode_digits_eq_ok, List.take_of_length_le size.le]
      exact ⟨size.ge, digits, rfl⟩
  | ascii =>
      obtain ⟨ascii, rfl⟩ := completeCode_ascii_eq_ok.mp complete
      exact completeCode_ascii_eq_ok.mpr ⟨ascii, rfl⟩

/-- The symbologies whose codes end with a check digit, and how long their codes are. -/
def checkedLengths : List (Symbology × Nat) :=
  [(.upcA, 12), (.ean13, 13), (.ean8, 8)]

/-- The symbologies with a check digit have payloads of at least one digit. -/
theorem form_of_mem_checkedLengths {symbology : Symbology}
    (mem : (symbology, length) ∈ checkedLengths) :
    symbology.form = .checked length ∧ 0 < length := by
  simp only [checkedLengths, List.mem_cons, List.not_mem_nil, or_false, Prod.mk.injEq] at mem
  rcases mem with ⟨rfl, rfl⟩ | ⟨rfl, rfl⟩ | ⟨rfl, rfl⟩ <;> exact ⟨rfl, by decide⟩

/-- Codes are completed correctly and stably.  A code with a check digit is completed exactly if it
is long enough and its payload holds nothing but digits; a code that is too short is refused for
that, whatever it holds.  What comes out is the one code of digits with that payload whose weighted
sum is a multiple of ten.  A bar code of any symbology is built again from its own code. -/
theorem completed_and_stable :
    (∀ symbology length, (symbology, length) ∈ checkedLengths → ∀ code : List Char,
      let long := length - 1 ≤ code.length
      let numeric := ∀ c ∈ code.take (length - 1), c.isDigit = true
      ((∃ completed, completeCode symbology.form code = .ok completed) ↔ long ∧ numeric) ∧
        (¬ long → completeCode symbology.form code = .error (.barcode .tooShort)) ∧
        (long → ¬ numeric → completeCode symbology.form code = .error (.barcode .notNumeric)) ∧
        ∀ completed, completeCode symbology.form code = .ok completed ↔
          IsCompletion length code completed) ∧
      ∀ profile symbology code widthMm heightMm textPosition barcode,
        make profile symbology code widthMm heightMm textPosition = .ok barcode →
        make profile symbology barcode.code widthMm heightMm textPosition = .ok barcode := by
  constructor
  · intro symbology length mem code long numeric
    obtain ⟨form_eq, length_pos⟩ := form_of_mem_checkedLengths mem
    rw [form_eq]
    refine ⟨?_, fun short => ?_, fun enough other => ?_, fun completed =>
      completeCode_eq_ok_iff length_pos⟩
    · simp only [completeCode_checked_eq_ok]
      exact ⟨fun ⟨_, enough, digits, _⟩ => ⟨enough, digits⟩,
        fun ⟨enough, digits⟩ => ⟨_, enough, digits, rfl⟩⟩
    · rw [completeCode_checked, if_pos (not_le.mp short)]
    · rw [completeCode_checked, if_neg (not_lt.mpr enough),
        if_neg fun all => other (List.all_eq_true.mp all)]
  · intro profile symbology code widthMm heightMm textPosition barcode made
    obtain ⟨completed, complete, moduleWidth, fitted, rfl⟩ := make_eq_ok.mp made
    exact make_eq_ok.mpr ⟨completed, completeCode_completed complete, moduleWidth, fitted, rfl⟩

/-- A code that is too long and holds a letter behind its payload. -/
def untidy : List Char :=
  "03600029145x9".toList

/-- Its payload is completed by a two, and by no other digit, and the bar code is built again from
the code that it shows. -/
theorem completed_and_stable_untidy :
    completeCode Symbology.upcA.form untidy = .ok "036000291452".toList ∧
      IsCompletion 12 untidy "036000291452".toList ∧
      (∀ digit ∈ "013456789".toList, ¬ IsCompletion 12 untidy ("03600029145".toList ++ [digit])) ∧
      completeCode Symbology.upcA.form ['x'] = .error (.barcode .tooShort) ∧
      completeCode Symbology.upcA.form ('x' :: untidy) = .error (.barcode .notNumeric) ∧
      make .mm58 .upcA "036000291452".toList (Number.Single.ofNat 0) (Number.Single.ofNat 10)
        .below = .ok ⟨.upcA, "036000291452".toList, .below, 3, 80⟩ := by
  have listed : (Symbology.upcA, 12) ∈ checkedLengths := by decide
  obtain ⟨-, -, -, completions⟩ := completed_and_stable.1 .upcA 12 listed untidy
  obtain ⟨-, tooShort, -, -⟩ := completed_and_stable.1 .upcA 12 listed ['x']
  obtain ⟨-, -, notNumeric, -⟩ := completed_and_stable.1 .upcA 12 listed ('x' :: untidy)
  have complete : completeCode Symbology.upcA.form untidy = .ok "036000291452".toList := by
    decide +kernel
  have made : make .mm58 .upcA untidy (Number.Single.ofNat 0) (Number.Single.ofNat 10) .below =
      .ok ⟨.upcA, "036000291452".toList, .below, 3, 80⟩ := by
    decide +kernel
  have letter : ¬ ∀ c ∈ ('x' :: untidy).take 11, c.isDigit = true :=
    fun numeric => absurd (numeric 'x' List.mem_cons_self) (by decide)
  refine ⟨complete, (completions _).mp complete, ?_, tooShort (by decide),
    notNumeric (by decide) letter, completed_and_stable.2 _ _ _ _ _ _ _ made⟩
  intro digit mem completion
  have other := (completions _).mpr completion
  have last : "036000291452".toList = "03600029145".toList ++ ['2'] := by decide
  rw [complete, Except.ok.injEq, last, List.append_cancel_left_eq, List.singleton_inj] at other
  rw [← other] at mem
  exact absurd mem (by decide)

end Receipt.Barcode
