import Receipt.Proofs.Markup.Content
import Receipt.Proofs.Markup.Joined

/-!
# Ends of lines

A line ends with a line feed, or with a carriage return and a line feed.  Lines that are joined by
such ends, in any mixture, are the lines of the joined text, if no line but the last ends with a
carriage return of its own.  A text can therefore be written with either end at each of its line feeds
and is the same document.  A lone carriage return ends no line.
-/

set_option autoImplicit false

namespace Receipt.Markup

/-- What ends a line. -/
inductive LineEnd where
  | feed
  | returnAndFeed
  deriving DecidableEq, Repr

namespace LineEnd

/-- The characters of an end. -/
def text : LineEnd → List Char
  | feed => ['\n']
  | returnAndFeed => ['\r', '\n']

end LineEnd

/-- Lines, each behind the end of the one before.  The last line has no end. -/
def joinLines (ended : List (List Char × LineEnd)) (last : List Char) : List Char :=
  ended.flatMap (fun line => line.1 ++ line.2.text) ++ last

/-- A character at a place of a text, behind a carriage return if it is a line feed and its place is
chosen. -/
def returnAt (chosen : Nat → Bool) (place : Char × Nat) : List Char :=
  if place.1 = '\n' ∧ chosen place.2 = true then ['\r', place.1] else [place.1]

/-- A text with a carriage return in front of the line feeds at the chosen places. -/
def addReturns (chosen : Nat → Bool) (text : List Char) : List Char :=
  text.zipIdx.flatMap (returnAt chosen)

/-! ## Lines that are joined -/

/-- Either end ends a line that has no carriage return of its own at its end. -/
theorem linesFrom_end (ending : LineEnd) {start : List Char}
    (unreturned : start.head? ≠ some '\r') (rest : List Char) :
    linesFrom start (ending.text ++ rest) = start.reverse :: splitLines rest := by
  cases ending with
  | feed =>
      have ended : linesFrom start ('\n' :: rest) =
          (dropReturn start).reverse :: splitLines rest := if_pos rfl
      rw [dropReturn_eq_self unreturned] at ended
      exact ended
  | returnAndFeed => rfl

/-- The lines of joined lines are those lines. -/
theorem splitLines_joinLines {ended : List (List Char × LineEnd)} {last : List Char}
    (whole : ∀ line ∈ ended, '\n' ∉ line.1 ∧ line.1.getLast? ≠ some '\r') (bare : '\n' ∉ last) :
    splitLines (joinLines ended last) = ended.map Prod.fst ++ [last] := by
  induction ended with
  | nil => exact splitLines_of_not_mem bare
  | cons line others ih =>
      rw [List.forall_mem_cons] at whole
      obtain ⟨⟨line_bare, unreturned⟩, others_whole⟩ := whole
      -- At its end the line stands reversed, so that its last character is in front.
      have begun : (line.1.reverse ++ []).head? ≠ some '\r' := by
        rwa [List.append_nil, List.head?_reverse]
      have first : joinLines (line :: others) last =
          line.1 ++ (line.2.text ++ joinLines others last) := by
        simp [joinLines]
      rw [first, splitLines, linesFrom_append_of_not_mem line_bare, linesFrom_end _ begun,
        ih others_whole, List.append_nil, List.reverse_reverse]
      rfl

/-! ## Line feeds with and without returns -/

/-- A line feed is an end of a line, whether its place is chosen or not. -/
theorem exists_returnAt_feed (chosen : Nat → Bool) (place : Nat) :
    ∃ ending : LineEnd, returnAt chosen ('\n', place) = ending.text := by
  unfold returnAt
  split
  · exact ⟨.returnAndFeed, rfl⟩
  · exact ⟨.feed, rfl⟩

/-- A carriage return in front of any line feeds leaves the lines as they are, also behind a line
that has begun. -/
theorem linesFrom_returns (chosen : Nat → Bool) {start text : List Char}
    (bare : ¬ ['\r', '\n'] <:+: start.reverse ++ text) (place : Nat) :
    linesFrom start ((text.zipIdx place).flatMap (returnAt chosen)) = linesFrom start text := by
  induction text generalizing start place with
  | nil => rfl
  | cons c rest ih =>
      rw [List.zipIdx_cons, List.flatMap_cons]
      by_cases feed : c = '\n'
      · subst feed
        -- The line begun ends in no return, since that would stand in front of this line feed.
        have unreturned : start.head? ≠ some '\r' := by
          intro returned
          obtain ⟨others, rfl⟩ := List.head?_eq_some_iff.mp returned
          exact bare ⟨others.reverse, rest, by simp⟩
        have rest_bare : ¬ ['\r', '\n'] <:+: ([] : List Char).reverse ++ rest := by
          intro inside
          exact bare (inside.trans ⟨start.reverse ++ ['\n'], [], by simp⟩)
        obtain ⟨ending, spelled⟩ := exists_returnAt_feed chosen place
        rw [spelled, linesFrom_end ending unreturned, splitLines, ih rest_bare]
        exact (linesFrom_end .feed unreturned rest).symm
      · have begun : ¬ ['\r', '\n'] <:+: (c :: start).reverse ++ rest := by
          rwa [List.reverse_cons, List.append_assoc]
        have kept : returnAt chosen (c, place) = [c] := if_neg fun both => feed both.1
        rw [kept, List.singleton_append, linesFrom, linesFrom, if_neg feed, if_neg feed, ih begun]

/-- A carriage return in front of any line feeds leaves the lines of a text as they are. -/
theorem splitLines_addReturns (chosen : Nat → Bool) {text : List Char}
    (bare : ¬ ['\r', '\n'] <:+: text) :
    splitLines (addReturns chosen text) = splitLines text := by
  have begun : ¬ ['\r', '\n'] <:+: ([] : List Char).reverse ++ text := bare
  exact linesFrom_returns chosen begun 0

/-- Every line feed ends a line, and nothing else does. -/
theorem length_linesFrom (start text : List Char) :
    (linesFrom start text).length = text.count '\n' + 1 := by
  induction text generalizing start with
  | nil => rfl
  | cons c rest ih =>
      rw [linesFrom, List.count_cons]
      split
      · next feed =>
          rw [List.length_cons, ih, feed]
          rfl
      · next other =>
          rw [ih, if_neg (by simpa using other), Nat.add_zero]

/-- Lines are split exactly, and whatever their ends are.  Let lines without line feeds be joined,
each joint being a line feed or a carriage return and a line feed, and let none but the last line end
with a carriage return: the lines of the joined text are these lines.  A text in which no carriage
return stands in front of a line feed has the same lines, and is the same document or fails for the
same reason, with carriage returns in front of any of its line feeds.  Every text has one line more
than line feeds. -/
theorem lines_whatever_ends :
    (∀ ended last, (∀ line ∈ ended, '\n' ∉ line.1 ∧ line.1.getLast? ≠ some '\r') → '\n' ∉ last →
      splitLines (joinLines ended last) = ended.map Prod.fst ++ [last]) ∧
    (∀ text chosen, ¬ ['\r', '\n'] <:+: text →
      splitLines (addReturns chosen text) = splitLines text ∧
        ∀ profile source, Document.parse profile source (addReturns chosen text) =
          Document.parse profile source text) ∧
    ∀ text, (splitLines text).length = text.count '\n' + 1 := by
  refine ⟨fun ended last whole bare => splitLines_joinLines whole bare, ?_, length_linesFrom []⟩
  intro text chosen bare
  have lines := splitLines_addReturns chosen bare
  refine ⟨lines, fun profile source => ?_⟩
  rw [Document.parse, Document.parse, lines]

/-- A text with three line feeds, the second of them on an empty line. -/
def threeFeeds : List Char :=
  "<b>a\n\n<barcode type='nope'>1</barcode>\n".toList

/-- The places of its first and its last line feed. -/
def outerFeeds (place : Nat) : Bool :=
  place == 4 || place == 38

/-- With carriage returns in front of two of its line feeds, the text is four lines joined by mixed
ends, has these four lines, and cannot be read for the same reason. -/
theorem lines_whatever_ends_mixed :
    addReturns outerFeeds threeFeeds = joinLines [("<b>a".toList, .returnAndFeed), ([], .feed),
        ("<barcode type='nope'>1</barcode>".toList, .returnAndFeed)] [] ∧
      splitLines (addReturns outerFeeds threeFeeds) =
        ["<b>a".toList, [], "<barcode type='nope'>1</barcode>".toList, []] ∧
      (splitLines threeFeeds).length = 4 ∧
      Document.parse .mm58 Qr.encode (addReturns outerFeeds threeFeeds) =
        .error (.markup (.unknownSymbology "nope".toList)) := by
  obtain ⟨lines, blind, counted⟩ := lines_whatever_ends
  have joined : addReturns outerFeeds threeFeeds =
      joinLines [("<b>a".toList, .returnAndFeed), ([], .feed),
        ("<barcode type='nope'>1</barcode>".toList, .returnAndFeed)] [] := by decide +kernel
  have feeds : threeFeeds.count '\n' = 3 := by decide +kernel
  have bare : ¬ ['\r', '\n'] <:+: threeFeeds := by
    intro inside
    have returned : '\r' ∈ threeFeeds := inside.subset List.mem_cons_self
    revert returned
    decide +kernel
  have refused : Document.parse .mm58 Qr.encode threeFeeds =
      .error (.markup (.unknownSymbology "nope".toList)) := by decide +kernel
  refine ⟨joined, ?_, ?_, ?_⟩
  · rw [joined, lines _ _ (by decide) (by decide)]
    rfl
  · rw [counted, feeds]
  · rw [(blind threeFeeds outerFeeds bare).2, refused]

end Receipt.Markup
