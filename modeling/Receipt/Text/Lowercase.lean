import Receipt.Text.Lowercase.Runs
import Receipt.Text.Lowercase.Cased

/-!
# Lower case

The full lower case form of a text.  Every letter has one of its own, with two exceptions: the
capital I with a dot becomes an `i` and a combining dot, and the capital sigma becomes a final sigma
where it ends a word, that is, behind a cased letter and not before one, case-ignorable characters
being skipped on either side.
-/

set_option autoImplicit false

namespace Receipt.Text

namespace Lowercase

/-- The lower case form of a letter that has a single one wherever it stands. -/
def letter (c : Char) : Char :=
  if c.toNat < 128 then c.toLower
  else
    match runs.find? (fun run => run.covers c.toNat) with
    | some run => Char.ofNat ((c.toNat : Int) + run.offset).toNat
    | none => c

/-- Whether the first character that is not case-ignorable is a cased letter. -/
def meetsCased (text : List Char) : Bool :=
  match text.dropWhile isIgnorable with
  | [] => false
  | c :: _ => isCased c

/-- The capital sigma. -/
def capitalSigma : Char :=
  Char.ofNat 0x3a3

/-- The capital I with a dot above. -/
def dottedCapitalI : Char :=
  Char.ofNat 0x130

/-- The lower case form of one character between what stands before it, last character first, and
what follows. -/
def characterForm (before : List Char) (c : Char) (after : List Char) : List Char :=
  if c = capitalSigma then
    if meetsCased before && !meetsCased after then [Char.ofNat 0x3c2] else [Char.ofNat 0x3c3]
  else if c = dottedCapitalI then ['i', Char.ofNat 0x307]
  else [letter c]

/-- The lower case form of a text behind the characters `before`, whose own form is `done`, both
last character first. -/
def walk (before done : List Char) : List Char → List Char
  | [] => done.reverse
  | c :: after =>
    walk (c :: before) ((characterForm before c after).reverse ++ done) after

end Lowercase

/-- The lower case form of a text. -/
def lowercase (text : List Char) : List Char :=
  Lowercase.walk [] [] text

/-- No character has an empty lower case form. -/
theorem one_le_length_characterForm (before : List Char) (c : Char) (after : List Char) :
    1 ≤ (Lowercase.characterForm before c after).length := by
  unfold Lowercase.characterForm
  repeat' split
  all_goals simp

/-- A walk writes at least as many characters as it reads. -/
theorem length_le_length_walk (before done text : List Char) :
    done.length + text.length ≤ (Lowercase.walk before done text).length := by
  induction text generalizing before done with
  | nil => simp [Lowercase.walk]
  | cons c after ih =>
      have written := one_le_length_characterForm before c after
      have rest := ih (c :: before) ((Lowercase.characterForm before c after).reverse ++ done)
      simp only [List.length_append, List.length_reverse, List.length_cons, Lowercase.walk] at *
      omega

/-- A text is never longer than its lower case form. -/
theorem length_le_length_lowercase (text : List Char) :
    text.length ≤ (lowercase text).length := by
  simpa [lowercase] using length_le_length_walk [] [] text

end Receipt.Text
