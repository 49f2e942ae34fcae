import Mathlib.Data.List.Induction
import Receipt.Proofs.Markup.Pieces
import Receipt.Proofs.Text.Lowercase

/-!
# Tags as they are written

A tag is written as its name, behind a slash if it closes, and assignments with spaces in front of
each.  Such a tag is read back: the name in lower case, whether it closes, and for every key the value
of its last assignment.  An assignment at the end that lacks its second quote is not read.
-/

set_option autoImplicit false

namespace Receipt.Markup

/-- An assignment with the spaces in front of it.  Its key has no blanks around it, and its value does
not have the quote that it stands in; neither has a `>`. -/
structure Assignment where
  spaces : Nat
  key : List Char
  quote : Char
  value : List Char
  spaces_pos : 0 < spaces
  key_ne_nil : key ≠ []
  trim_key : Text.trim key = key
  equals_not_mem_key : '=' ∉ key
  close_not_mem_key : '>' ∉ key
  isQuote_quote : Tag.isQuote quote = true
  quote_not_mem_value : quote ∉ value
  close_not_mem_value : '>' ∉ value

namespace Assignment

/-- An assignment without its second quote. -/
def opened (assignment : Assignment) : List Char :=
  List.replicate assignment.spaces ' ' ++ assignment.key ++
    '=' :: assignment.quote :: assignment.value

/-- An assignment as it is written. -/
def written (assignment : Assignment) : List Char :=
  assignment.opened ++ [assignment.quote]

/-- The value of the last assignment of a key. -/
def lastValue? (assignments : List Assignment) (key : List Char) : Option (List Char) :=
  (assignments.reverse.find? (fun assignment => assignment.key == key)).map value

/-- An assignment without its second quote starts with a space. -/
theorem head?_opened (assignment : Assignment) : assignment.opened.head? = some ' ' := by
  obtain ⟨spaces, same⟩ := Nat.exists_eq_succ_of_ne_zero assignment.spaces_pos.ne'
  simp [opened, same, List.replicate_succ]

/-- No quote is a `>`. -/
theorem ne_quote (assignment : Assignment) : '>' ≠ assignment.quote := by
  intro same
  have known := assignment.isQuote_quote
  rw [← same] at known
  exact absurd known (by decide)

/-- An assignment without its second quote has no `>`. -/
theorem close_not_mem_opened (assignment : Assignment) : '>' ∉ assignment.opened := by
  simp [opened, assignment.close_not_mem_key, assignment.close_not_mem_value, assignment.ne_quote]

/-- An assignment has no `>`. -/
theorem close_not_mem_written (assignment : Assignment) : '>' ∉ assignment.written := by
  simp [written, assignment.close_not_mem_opened, assignment.ne_quote]

end Assignment

namespace Attributes

/-- Other keys are found as if nothing had been taken out. -/
theorem lookup_filter_of_ne (attributes : Attributes) {key other : List Char}
    (apart : other ≠ key) :
    (attributes.filter (fun entry => entry.1 != key)).lookup other = attributes.lookup other := by
  induction attributes with
  | nil => rfl
  | cons entry rest ih =>
      obtain ⟨name, value⟩ := entry
      by_cases dropped : name = key
      · subst dropped
        rw [List.filter_cons_of_neg (by simp), ih, List.lookup_cons, beq_false_of_ne apart]
      · rw [List.filter_cons_of_pos (by simpa using dropped), List.lookup_cons, List.lookup_cons, ih]

/-- A value that is set is the one that its key has from then on. -/
theorem lookup_set (attributes : Attributes) (key value other : List Char) :
    (attributes.set key value).lookup other =
      if key = other then some value else attributes.lookup other := by
  rw [set, List.lookup_cons]
  by_cases same : key = other
  · simp [same]
  · rw [beq_false_of_ne (Ne.symm same), if_neg same]
    exact attributes.lookup_filter_of_ne (Ne.symm same)

/-- A key that is set has one value. -/
theorem nodup_set {attributes : Attributes} (nodup : (attributes.map Prod.fst).Nodup)
    (key value : List Char) : ((attributes.set key value).map Prod.fst).Nodup := by
  rw [set, List.map_cons, List.nodup_cons]
  constructor
  · simp
  · exact nodup.sublist (List.filter_sublist.map Prod.fst)

/-- The attributes with the values of assignments, one after the other. -/
def setAll (attributes : Attributes) (assignments : List Assignment) : Attributes :=
  assignments.foldl (fun attributes assignment => attributes.set assignment.key assignment.value)
    attributes

/-- Of several assignments to a key the last one counts. -/
theorem lookup_setAll (assignments : List Assignment) (key : List Char) :
    (setAll [] assignments).lookup key = Assignment.lastValue? assignments key := by
  induction assignments using List.reverseRecOn with
  | nil => rfl
  | append_singleton assignments last ih =>
      rw [setAll, List.foldl_append]
      change (Attributes.set (setAll [] assignments) last.key last.value).lookup key = _
      rw [lookup_set, ih, Assignment.lastValue?, Assignment.lastValue?, List.reverse_append,
        List.reverse_singleton, List.singleton_append, List.find?_cons]
      by_cases same : last.key = key
      · simp [same]
      · rw [if_neg same, beq_false_of_ne same]

/-- Assignments leave one value for each key. -/
theorem nodup_setAll (attributes : Attributes) (nodup : (attributes.map Prod.fst).Nodup)
    (assignments : List Assignment) : ((setAll attributes assignments).map Prod.fst).Nodup := by
  induction assignments generalizing attributes with
  | nil => exact nodup
  | cons assignment rest ih => exact ih _ (nodup_set nodup assignment.key assignment.value)

end Attributes

namespace Tag

/-- An equals sign and a quote end the key in front of them. -/
theorem nextAssignment?_append {front : List Char} (unassigned : '=' ∉ front) {quote : Char}
    (known : isQuote quote = true) (key after : List Char) :
    nextAssignment? key (front ++ '=' :: quote :: after) =
      some (key.reverse ++ front, quote, after) := by
  induction front generalizing key with
  | nil => simp [nextAssignment?, known]
  | cons c front ih =>
      have other : c ≠ '=' := fun same => unassigned (same ▸ List.mem_cons_self)
      have others : '=' ∉ front := fun mem => unassigned (List.mem_cons_of_mem c mem)
      obtain ⟨next, rest, same⟩ : ∃ next rest, front ++ '=' :: quote :: after = next :: rest :=
        List.exists_cons_of_ne_nil (List.append_ne_nil_of_right_ne_nil _ (List.cons_ne_nil _ _))
      rw [List.cons_append, same, nextAssignment?, if_neg fun h => other h.1, ← same, ih others,
        List.reverse_cons, List.append_assoc, List.singleton_append]

/-- One step of reading attributes. -/
theorem readAttributes_eq (attributes : Attributes) (text : List Char) :
    readAttributes attributes text =
      match nextAssignment? [] text with
      | none => attributes
      | some (key, quote, after) =>
        match after.dropWhile (· != quote) with
        | [] => attributes
        | _ :: rest =>
          readAttributes
            (if (Text.trim key).isEmpty then attributes
              else attributes.set (Text.trim key) (after.takeWhile (· != quote))) rest := by
  rw [readAttributes]
  split
  · next none => simp [none]
  · next key quote after found =>
      simp only [found]
      split
      · next unclosed => simp [unclosed]
      · next head rest closed => simp [closed]

section

variable (attributes : Attributes) (assignment : Assignment)

/-- The first assignment of a text is found with the spaces in front of its key. -/
theorem nextAssignment?_opened (rest : List Char) :
    nextAssignment? [] (assignment.opened ++ rest) =
      some (List.replicate assignment.spaces ' ' ++ assignment.key, assignment.quote,
        assignment.value ++ rest) := by
  have unassigned : '=' ∉ List.replicate assignment.spaces ' ' ++ assignment.key := by
    simp [assignment.equals_not_mem_key]
  have spelled : assignment.opened ++ rest =
      List.replicate assignment.spaces ' ' ++ assignment.key ++
        '=' :: assignment.quote :: (assignment.value ++ rest) := by
    simp [Assignment.opened]
  rw [spelled, nextAssignment?_append unassigned assignment.isQuote_quote]
  rfl

/-- A value has none of its own quotes. -/
theorem value_kept : ∀ c ∈ assignment.value, (c != assignment.quote) = true := by
  intro c mem
  have other : c ≠ assignment.quote := fun same => assignment.quote_not_mem_value (same ▸ mem)
  simpa using other

/-- An assignment sets the value of its key, and reading goes on behind it. -/
theorem readAttributes_written (rest : List Char) :
    readAttributes attributes (assignment.written ++ rest) =
      readAttributes (attributes.set assignment.key assignment.value) rest := by
  have stop : (assignment.quote :: rest).dropWhile (· != assignment.quote) =
      assignment.quote :: rest := List.dropWhile_cons_of_neg (by simp)
  have ended : (assignment.quote :: rest).takeWhile (· != assignment.quote) = [] :=
    List.takeWhile_cons_of_neg (by simp)
  have named : assignment.key.isEmpty = false := by
    simpa using assignment.key_ne_nil
  have key_eq : Text.trim (List.replicate assignment.spaces ' ' ++ assignment.key) =
      assignment.key := by
    rw [Text.trim_append_of_blank, assignment.trim_key]
    intro c mem
    rw [List.eq_of_mem_replicate mem]
    decide
  rw [readAttributes_eq, Assignment.written, List.append_assoc, List.singleton_append,
    nextAssignment?_opened]
  simp only [List.dropWhile_append_of_pos (value_kept assignment), stop, key_eq, named,
    List.takeWhile_append_of_pos (value_kept assignment), ended, List.append_nil,
    Bool.false_eq_true, if_false]

/-- An assignment that lacks its second quote is not read. -/
theorem readAttributes_opened : readAttributes attributes assignment.opened = attributes := by
  have unclosed : assignment.value.dropWhile (· != assignment.quote) = [] :=
    List.dropWhile_eq_nil_iff.mpr (value_kept assignment)
  have found := nextAssignment?_opened assignment []
  rw [List.append_nil, List.append_nil] at found
  rw [readAttributes_eq, found]
  simp only [unclosed]

end

/-- Written assignments are read one after the other. -/
theorem readAttributes_flatMap_written (attributes : Attributes) (assignments : List Assignment)
    (rest : List Char) :
    readAttributes attributes (assignments.flatMap Assignment.written ++ rest) =
      readAttributes (attributes.setAll assignments) rest := by
  induction assignments generalizing attributes with
  | nil => rfl
  | cons assignment others ih =>
      rw [List.flatMap_cons, List.append_assoc, readAttributes_written, ih]
      rfl

/-- Nothing is left to read at the end. -/
theorem readAttributes_nil (attributes : Attributes) : readAttributes attributes [] = attributes := by
  rw [readAttributes_eq]
  rfl

/-- A name as it is written: behind a slash in a tag that closes. -/
def slashed (closes : Bool) (name : List Char) : List Char :=
  if closes then '/' :: name else name

/-- A slash in front of a name closes, and is no part of it. -/
theorem readName_slashed (closes : Bool) {name : List Char} (unslashed : name.head? ≠ some '/') :
    readName (slashed closes name) = (Text.lowercase name, closes) := by
  cases closes with
  | true =>
      rw [readName, slashed, if_pos rfl, Text.lowercase_cons_slash]
      rfl
  | false =>
      have start := Text.head?_lowercase_ne_slash unslashed
      rw [readName, slashed, if_neg Bool.false_ne_true]
      split
      · next written =>
          rw [written] at start
          exact absurd rfl start
      · rfl

/-- A tag is read as its name up to the first space and the attributes behind it. -/
theorem parse_bracketed (closes : Bool) {name inside : List Char} (spaceless : ' ' ∉ name)
    (bare : '>' ∉ name) (unslashed : name.head? ≠ some '/')
    (spaced : ∀ c ∈ inside.head?, c = ' ') (inside_bare : '>' ∉ inside) :
    Tag.parse (bracketed (slashed closes name ++ inside)) =
      ⟨Text.lowercase name, closes, readAttributes [] inside⟩ := by
  have slashed_bare : '>' ∉ slashed closes name := by
    cases closes <;> simp [slashed, bare]
  have kept : ∀ c ∈ slashed closes name, (c != ' ') = true := by
    intro c mem
    have other : c ≠ ' ' := by
      rintro rfl
      cases closes <;> simp [slashed, spaceless] at mem
    simpa using other
  have stop : inside.takeWhile (· != ' ') = [] ∧ inside.dropWhile (· != ' ') = inside := by
    cases inside with
    | nil => exact ⟨rfl, rfl⟩
    | cons c rest =>
        have space : c = ' ' := spaced c rfl
        rw [List.takeWhile_cons_of_neg (by simp [space]),
          List.dropWhile_cons_of_neg (by simp [space])]
        exact ⟨rfl, rfl⟩
  have all_bare : '>' ∉ slashed closes name ++ inside := by
    rw [List.mem_append]
    exact not_or.mpr ⟨slashed_bare, inside_bare⟩
  rw [bracketed, parse_span all_bare, ofInner, List.takeWhile_append_of_pos kept, stop.1,
    List.append_nil, readName_slashed closes unslashed, List.dropWhile_append_of_pos kept, stop.2]

/-- Assignments behind a name are read, and then what follows them. -/
theorem parse_assignments (closes : Bool) {name : List Char} (spaceless : ' ' ∉ name)
    (bare : '>' ∉ name) (unslashed : name.head? ≠ some '/') (assignments : List Assignment)
    {last : List Char} (spaced : ∀ c ∈ last.head?, c = ' ') (last_bare : '>' ∉ last) :
    Tag.parse (bracketed
        (slashed closes name ++ (assignments.flatMap Assignment.written ++ last))) =
      ⟨Text.lowercase name, closes, readAttributes (Attributes.setAll [] assignments) last⟩ := by
  have inside_bare : '>' ∉ assignments.flatMap Assignment.written ++ last := by
    rw [List.mem_append, List.mem_flatMap]
    rintro (⟨assignment, -, held⟩ | held)
    · exact assignment.close_not_mem_written held
    · exact last_bare held
  have inside_spaced : ∀ c ∈ (assignments.flatMap Assignment.written ++ last).head?, c = ' ' := by
    cases assignments with
    | nil => exact spaced
    | cons first others => simp [Assignment.written, first.head?_opened]
  rw [parse_bracketed closes spaceless bare unslashed inside_spaced inside_bare,
    readAttributes_flatMap_written]

/-- A written tag is read back.  Take any name without a space or a `>` that does not start with a
slash, and any assignments.  The tag that they write, with a slash in front of the name or without,
has the name in lower case, closes exactly if it has the slash, and has for every key the value of
its last assignment.  It is the same tag if one more assignment follows that lacks its second
quote. -/
theorem parse_written (closes : Bool) {name : List Char} (spaceless : ' ' ∉ name)
    (bare : '>' ∉ name) (unslashed : name.head? ≠ some '/') (assignments : List Assignment) :
    let inside := assignments.flatMap Assignment.written
    let tag := Tag.parse (bracketed (slashed closes name ++ inside))
    tag.name = Text.lowercase name ∧ tag.closing = closes ∧
      (∀ key, tag.attributes.lookup key = Assignment.lastValue? assignments key) ∧
      (tag.attributes.map Prod.fst).Nodup ∧
      ∀ last : Assignment,
        Tag.parse (bracketed (slashed closes name ++ (inside ++ last.opened))) = tag := by
  intro inside tag
  have read : tag = ⟨Text.lowercase name, closes, Attributes.setAll [] assignments⟩ := by
    have whole := parse_assignments closes spaceless bare unslashed assignments
      (by simp) List.not_mem_nil
    rw [List.append_nil, readAttributes_nil] at whole
    exact whole
  rw [read]
  refine ⟨rfl, rfl, Attributes.lookup_setAll assignments,
    Attributes.nodup_setAll [] List.nodup_nil assignments, fun last => ?_⟩
  have last_spaced : ∀ c ∈ last.opened.head?, c = ' ' := by simp [last.head?_opened]
  rw [parse_assignments closes spaceless bare unslashed assignments last_spaced
    last.close_not_mem_opened, readAttributes_opened]

/-- Assignments whose values look like assignments, two of them of one key. -/
def tricky : List Assignment :=
  [⟨1, "size".toList, singleQuote, "=\"big".toList, by decide, by decide, by decide, by decide,
      by decide, by decide, by decide, by decide⟩,
    ⟨3, "my 'key'".toList, '"', "a='1' ".toList, by decide, by decide, by decide, by decide,
      by decide, by decide, by decide, by decide⟩,
    ⟨1, "size".toList, '"', [], by decide, by decide, by decide, by decide, by decide, by decide,
      by decide, by decide⟩]

/-- An assignment that is written without its second quote. -/
def unclosed : Assignment :=
  ⟨2, "size".toList, '"', "tall color='red' ".toList, by decide, by decide, by decide, by decide,
    by decide, by decide, by decide, by decide⟩

/-- A closing tag of those assignments has an empty size and a key with spaces, and no more than that
if one assignment is not closed. -/
theorem parse_written_tricky :
    let name := "Font".toList
    let inside := tricky.flatMap Assignment.written
    let tag := Tag.parse (bracketed (slashed true name ++ inside))
    ' ' ∉ name ∧ '>' ∉ name ∧ name.head? ≠ some '/' ∧
      inside = " size='=\"big'   my 'key'=\"a='1' \" size=\"\"".toList ∧
      unclosed.opened = "  size=\"tall color='red' ".toList ∧
      tag.name = "font".toList ∧ tag.closing = true ∧ tag.attributes.get? "size" = some [] ∧
      tag.attributes.get? "my 'key'" = some "a='1' ".toList ∧ tag.attributes.get? "color" = none ∧
      Tag.parse (bracketed (slashed true name ++ (inside ++ unclosed.opened))) = tag := by
  intro name inside tag
  have spaceless : ' ' ∉ name := by decide
  have bare : '>' ∉ name := by decide
  have unslashed : name.head? ≠ some '/' := by decide
  obtain ⟨lower, closes, held, -, same⟩ := parse_written true spaceless bare unslashed tricky
  exact ⟨spaceless, bare, unslashed, by decide, by decide, lower.trans (by decide +kernel), closes,
    (held _).trans (by decide), (held _).trans (by decide), (held _).trans (by decide),
    same unclosed⟩

end Tag

end Receipt.Markup
