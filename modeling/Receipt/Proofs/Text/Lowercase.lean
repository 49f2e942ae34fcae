import Receipt.Text.Lowercase

/-!
# A slash in lower case

A slash stays a slash in lower case, comes from nothing else, and does not change the form of the
characters behind it: it is no letter and no character that words may hold inside.
-/

set_option autoImplicit false

namespace Receipt.Text

namespace Lowercase

/-- What is done stands in front of what is still to be written. -/
theorem walk_eq_append (before done text : List Char) :
    walk before done text = done.reverse ++ walk before [] text := by
  induction text generalizing before done with
  | nil => simp [walk]
  | cons c after ih =>
      rw [walk, walk, ih, ih (c :: before) ((characterForm before c after).reverse ++ [])]
      simp

/-- The first character is changed in view of what stands on its two sides. -/
theorem walk_cons (before : List Char) (c : Char) (after : List Char) :
    walk before [] (c :: after) = characterForm before c after ++ walk (c :: before) [] after := by
  rw [walk, walk_eq_append, List.append_nil, List.reverse_reverse]

/-- A slash in front of all else neither has a case nor hides one. -/
theorem meetsCased_append_slash (before : List Char) :
    meetsCased (before ++ ['/']) = meetsCased before := by
  have plain : isIgnorable '/' = false ∧ isCased '/' = false := by decide +kernel
  unfold meetsCased
  rw [List.dropWhile_append]
  cases rest : before.dropWhile isIgnorable with
  | nil => simp [plain]
  | cons c others => simp

/-- A slash in front of a text changes no form in it. -/
theorem walk_append_slash (before text : List Char) :
    walk (before ++ ['/']) [] text = walk before [] text := by
  induction text generalizing before with
  | nil => rfl
  | cons c after ih =>
      have same : characterForm (before ++ ['/']) c after = characterForm before c after := by
        unfold characterForm
        rw [meetsCased_append_slash]
      rw [walk_cons, walk_cons, same, ← List.cons_append, ih]

/-- Only the code 47 is the slash. -/
theorem eq_of_ofNat_eq_slash {n : Nat} (same : Char.ofNat n = '/') : n = 47 := by
  by_cases valid : n.isValidChar
  · rw [Char.ofNat, dif_pos valid] at same
    exact congrArg Char.toNat same
  · rw [Char.ofNat, dif_neg valid] at same
    exact absurd same (by decide)

/-- No other character has a slash as its lower case form. -/
theorem eq_slash_of_letter {c : Char} (same : letter c = '/') : c = '/' := by
  have ascii : ∀ code < 128, (Char.ofNat code).toLower = '/' → Char.ofNat code = '/' := by
    decide +kernel
  -- The lower case forms of a run of letters lie above the slash.
  have above : ∀ run ∈ runs, 47 < (run.first : Int) + run.offset := by decide +kernel
  unfold letter at same
  split at same
  · next small =>
      have known := ascii c.toNat small
      rw [Char.ofNat_toNat] at known
      exact known same
  · split at same
    · next run found =>
        have code := eq_of_ofNat_eq_slash same
        have covered := Array.find?_some found
        have bound := above run (Array.mem_of_find?_eq_some found)
        simp only [Run.covers, Bool.and_eq_true, decide_eq_true_eq] at covered
        omega
    · exact same

end Lowercase

open Lowercase in
/-- A slash at the start stays, and the rest is changed as without it. -/
theorem lowercase_cons_slash (text : List Char) :
    lowercase ('/' :: text) = '/' :: lowercase text := by
  have form : characterForm [] '/' text = ['/'] := by
    unfold characterForm
    rw [if_neg (by decide), if_neg (by decide)]
    decide
  rw [lowercase, walk_cons, form, List.singleton_append]
  exact congrArg _ (walk_append_slash [] text)

open Lowercase in
/-- A text is in lower case without a slash at its start if it had none. -/
theorem head?_lowercase_ne_slash {text : List Char} (unslashed : text.head? ≠ some '/') :
    (lowercase text).head? ≠ some '/' := by
  cases text with
  | nil => nofun
  | cons c after =>
      have other : c ≠ '/' := by simpa using unslashed
      rw [lowercase, walk_cons]
      unfold characterForm
      split
      · split <;> simp
      · split
        · simp
        · simpa using fun same => other (eq_slash_of_letter same)

end Receipt.Text
