import Receipt.Proofs.Markup.Line
import Receipt.Markup.Document
import Receipt.Qr.Symbol

/-!
# Documents one behind the other

Two texts with a line feed between them have the lines of both, unless the first one ends with a
carriage return, which would become a part of that line feed.  Every line is read in the state of
formatting that the lines in front of it left, and takes nothing else from them.  So the failure of
the first document is that of both together, and behind a first document that closes all it opened
the second one is read as if it stood alone.
-/

set_option autoImplicit false

namespace Receipt.Markup

/-- A line without a carriage return at its end loses nothing. -/
theorem dropReturn_eq_self {line : List Char} (unreturned : line.head? ≠ some '\r') :
    dropReturn line = line := by
  unfold dropReturn
  split
  · exact absurd rfl unreturned
  · rfl

/-- The lines of a text stay as they are when a line feed and more text follow. -/
theorem linesFrom_append {start text : List Char}
    (unreturned : (start.reverse ++ text).getLast? ≠ some '\r') (rest : List Char) :
    linesFrom start (text ++ '\n' :: rest) = linesFrom start text ++ splitLines rest := by
  induction text generalizing start with
  | nil =>
      -- The line feed ends the last line, which has no carriage return to lose.
      rw [List.append_nil, List.getLast?_reverse] at unreturned
      have kept := dropReturn_eq_self unreturned
      have ended : linesFrom start ('\n' :: rest) =
          (dropReturn start).reverse :: splitLines rest := if_pos rfl
      rw [List.nil_append, ended, kept]
      rfl
  | cons c text ih =>
      rw [List.cons_append, linesFrom, linesFrom]
      split
      · have tail_unreturned : (([] : List Char).reverse ++ text).getLast? ≠ some '\r' := by
          intro returned
          rw [List.reverse_nil, List.nil_append] at returned
          simp [List.getLast?_append, List.getLast?_cons, returned] at unreturned
        rw [ih tail_unreturned, List.cons_append]
      · apply ih
        rw [List.reverse_cons, List.append_assoc]
        exact unreturned

/-- Texts with a line feed between them have the lines of both. -/
theorem splitLines_append {text : List Char} (unreturned : text.getLast? ≠ some '\r')
    (rest : List Char) :
    splitLines (text ++ '\n' :: rest) = splitLines text ++ splitLines rest := by
  have bare : (([] : List Char).reverse ++ text).getLast? ≠ some '\r' := unreturned
  exact linesFrom_append bare rest

namespace Document

/-- Lines behind others are read in the state of formatting that those leave. -/
theorem parseLines_append (profile : Profile) (source : MatrixSource) (state : Formatting)
    (front back : List (List Char)) :
    parseLines profile source state (front ++ back) = (do
      let first ← parseLines profile source state front
      let others ← parseLines profile source first.2 back
      pure (first.1 ++ others.1, others.2)) := by
  induction front generalizing state with
  | nil =>
      have none_read : parseLines profile source state [] = pure ([], state) := rfl
      simp only [none_read, pure_bind, List.nil_append]
      exact (bind_pure _).symm
  | cons text rest ih =>
      simp only [List.cons_append, parseLines, ih, bind_assoc, pure_bind]

/-- Texts with a line feed between them are read one behind the other. -/
theorem parse_append {front : List Char} (unreturned : front.getLast? ≠ some '\r')
    (profile : Profile) (source : MatrixSource) (back : List Char) :
    parse profile source (front ++ '\n' :: back) = (do
      let first ← parseLines profile source .initial (splitLines front)
      let others ← parseLines profile source first.2 (splitLines back)
      pure (first.1 ++ others.1)) := by
  simp only [parse, splitLines_append unreturned, parseLines_append, bind_assoc, pure_bind]

/-- Documents compose.  Let two texts be joined by a line feed, the first of which does not end with
a carriage return.  If the first one alone cannot be read, the joined text cannot be read for the
same reason.  If it can, and leaves all stacks of formatting as they were at its start, the joined
text can be read exactly if the second one can, has the lines of both, and fails as the second one
does. -/
theorem parse_joined {front : List Char} (unreturned : front.getLast? ≠ some '\r')
    (profile : Profile) (source : MatrixSource) (back : List Char) :
    (∀ failure, parse profile source front = .error failure →
      parse profile source (front ++ '\n' :: back) = .error failure) ∧
    ∀ lines, parseLines profile source .initial (splitLines front) = .ok (lines, .initial) →
      parse profile source front = .ok lines ∧
      (∀ all, parse profile source (front ++ '\n' :: back) = .ok all ↔
        ∃ others, parse profile source back = .ok others ∧ all = lines ++ others) ∧
      ∀ failure, parse profile source (front ++ '\n' :: back) = .error failure ↔
        parse profile source back = .error failure := by
  refine ⟨?_, ?_⟩
  · intro failure broken
    rw [parse_append unreturned]
    cases read : parseLines profile source .initial (splitLines front) with
    | ok first =>
        rw [parse, read] at broken
        cases broken
    | error cause =>
        rw [parse, read] at broken
        cases broken
        rfl
  · intro lines restored
    have front_read : parse profile source front = .ok lines := by
      rw [parse, restored]
      rfl
    -- Behind a first text that restores the initial state, only the second one is left to read.
    have joined : parse profile source (front ++ '\n' :: back) =
        (lines ++ ·) <$> parse profile source back := by
      rw [parse_append unreturned, restored, parse]
      change (parseLines profile source .initial (splitLines back) >>= _) = _
      cases parseLines profile source .initial (splitLines back) with
      | error failure => rfl
      | ok others => rfl
    refine ⟨front_read, ?_, ?_⟩
    · intro all
      rw [joined, Result.map_eq_ok]
      simp only [eq_comm]
    · intro failure
      rw [joined]
      cases parse profile source back with
      | error cause => exact Iff.rfl
      | ok others => exact ⟨nofun, nofun⟩

/-- A first line that closes its bold, in front of a line that can be read and in front of one that
cannot, and that one in front. -/
theorem parse_joined_bold :
    (∀ failure, parse .mm58 Qr.encode "<barcode type='nope'>1</barcode>".toList = .error failure →
      parse .mm58 Qr.encode "<barcode type='nope'>1</barcode>\n[R]8".toList = .error failure) ∧
    parse .mm58 Qr.encode "<barcode type='nope'>1</barcode>".toList =
      .error (.markup (.unknownSymbology "nope".toList)) ∧
    ∃ front back, parse .mm58 Qr.encode "<b>Total</b>".toList = .ok front ∧
      parse .mm58 Qr.encode "[R]8".toList = .ok back ∧
      parse .mm58 Qr.encode "<b>Total</b>\n[R]8".toList = .ok (front ++ back) ∧
      parse .mm58 Qr.encode "<b>Total</b>\n<barcode type='nope'>1</barcode>".toList =
        .error (.markup (.unknownSymbology "nope".toList)) := by
  have refused : parse .mm58 Qr.encode "<barcode type='nope'>1</barcode>".toList =
      .error (.markup (.unknownSymbology "nope".toList)) := by decide +kernel
  have closed : Prod.snd <$> parseLines .mm58 Qr.encode .initial
      (splitLines "<b>Total</b>".toList) = .ok .initial := by decide +kernel
  have one_line : List.length <$> parse .mm58 Qr.encode "[R]8".toList = .ok 1 := by
    decide +kernel
  obtain ⟨⟨front, _⟩, restored, rfl⟩ := Result.map_eq_ok.1 closed
  obtain ⟨back, back_read, -⟩ := Result.map_eq_ok.1 one_line
  obtain ⟨front_read, composed, -⟩ :=
    (parse_joined (by decide) .mm58 Qr.encode "[R]8".toList).2 front restored
  obtain ⟨-, -, fails⟩ := (parse_joined (by decide) .mm58 Qr.encode
    "<barcode type='nope'>1</barcode>".toList).2 front restored
  exact ⟨(parse_joined (by decide) .mm58 Qr.encode "[R]8".toList).1, refused, front, back,
    front_read, back_read, (composed _).2 ⟨back, back_read, rfl⟩, (fails _).2 refused⟩

end Document

end Receipt.Markup
