import Receipt.Text.Blank
import Receipt.Text.Lowercase

/-!
# Tags

A tag is written `<name key='value' key="value">`, with a slash in front of the name when it closes.
Its name is lower case.  An attribute runs from its key, which may have blanks around it, to the
quote that opened its value; the last value of a key counts, and an attribute without its closing
quote is ignored with all that follows.  A span that does not start and end like a tag has an empty
name.
-/

set_option autoImplicit false

namespace Receipt.Markup

/-- The attributes of a tag: keys, all different, with their values. -/
abbrev Attributes :=
  List (List Char × List Char)

namespace Attributes

/-- The attributes with a value for a key, in place of any value it had. -/
def set (attributes : Attributes) (key value : List Char) : Attributes :=
  (key, value) :: attributes.filter (fun entry => entry.1 != key)

/-- The value of a key. -/
def get? (attributes : Attributes) (key : String) : Option (List Char) :=
  attributes.lookup key.toList

end Attributes

/-- A name, whether it closes, and its attributes. -/
structure Tag where
  name : List Char
  closing : Bool
  attributes : Attributes
  deriving DecidableEq, Repr, Inhabited

namespace Tag

/-- The tag of a span that is none. -/
def blank : Tag :=
  ⟨[], false, []⟩

/-- The single quote. -/
def singleQuote : Char :=
  Char.ofNat 39

/-- Whether a character opens a value behind an equals sign. -/
def isQuote (c : Char) : Bool :=
  c == singleQuote || c == '"'

/-- Find the first equals sign before a quote: the text before it behind `key`, which is kept last
character first, the quote, and the text behind the quote. -/
def nextAssignment? (key : List Char) : List Char → Option (List Char × Char × List Char)
  | [] => none
  | c :: rest =>
    match rest with
    | quote :: after =>
      if c = '=' ∧ isQuote quote = true then some (key.reverse, quote, after)
      else nextAssignment? (c :: key) rest
    | [] => none

/-- What follows an assignment is shorter than the text it was found in. -/
theorem length_nextAssignment? {key text : List Char} {found : List Char × Char × List Char}
    (h : nextAssignment? key text = some found) : found.2.2.length < text.length := by
  induction text generalizing key with
  | nil => simp [nextAssignment?] at h
  | cons c rest ih =>
      cases rest with
      | nil => simp [nextAssignment?] at h
      | cons quote after =>
          rw [nextAssignment?] at h
          split at h
          · cases h
            simp only [List.length_cons]
            omega
          · have := ih h
            simp only [List.length_cons] at this ⊢
            omega

/-- Read assignments as long as their values are closed.  What stands between two of them belongs to
the key of the second. -/
def readAttributes (attributes : Attributes) (text : List Char) : Attributes :=
  match _found : nextAssignment? [] text with
  | none => attributes
  | some (key, quote, after) =>
    match _closed : after.dropWhile (· != quote) with
    | [] => attributes
    | _ :: rest =>
      let key := Text.trim key
      let next :=
        if key.isEmpty then attributes else attributes.set key (after.takeWhile (· != quote))
      readAttributes next rest
termination_by text.length
decreasing_by
  have shorter := length_nextAssignment? _found
  have suffix := (List.dropWhile_sublist (· != quote) (l := after)).length_le
  rw [_closed] at suffix
  simp only [List.length_cons] at suffix shorter
  omega

/-- The name of a tag as it is written, in lower case, and whether a slash in front of it says that the
tag closes. -/
def readName (written : List Char) : List Char × Bool :=
  match Text.lowercase written with
  | '/' :: name => (name, true)
  | name => (name, false)

/-- The tag of a span without blanks around it that starts with `<`; `inner` is what stands between
that and the first `>`. -/
def ofInner (inner : List Char) : Tag :=
  let read := readName (inner.takeWhile (· != ' '))
  ⟨read.1, read.2, readAttributes [] (inner.dropWhile (· != ' '))⟩

/-- The tag that a span writes. -/
def parse (span : List Char) : Tag :=
  match Text.trim span with
  | '<' :: rest =>
    if rest.getLast? = some '>' then ofInner (rest.takeWhile (· != '>')) else blank
  | _ => blank

/-- A name is at most the slash shorter than it is written. -/
theorem length_readName (written : List Char) : written.length ≤ (readName written).1.length + 1 := by
  have long := Text.length_le_length_lowercase written
  unfold readName
  split
  · next name found =>
      rw [found, List.length_cons] at long
      exact long
  · exact Nat.le_succ_of_le long

/-- The tag of a span that starts with `<` and ends with its only `>`. -/
theorem parse_span {inner : List Char} (h : '>' ∉ inner) :
    parse ('<' :: (inner ++ ['>'])) = ofInner inner := by
  have trimmed : Text.trim ('<' :: (inner ++ ['>'])) = '<' :: (inner ++ ['>']) := by
    simp [Text.trim, Text.trimBoth, Text.isBlank]
  have kept : (inner ++ ['>']).takeWhile (· != '>') = inner := by
    rw [List.takeWhile_append_of_pos]
    · simp
    · intro c mem
      have other : c ≠ '>' := fun same => h (same ▸ mem)
      simpa using other
  simp [parse, trimmed, kept]

end Tag

end Receipt.Markup
