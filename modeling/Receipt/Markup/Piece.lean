import Receipt.Markup.Opening

/-!
# Pieces of text

The text of a column is cut at its formatting tags.  A span from a `<` to the next `>` that is a
formatting tag is taken out and changes the style of what follows; any other `<` is text.
-/

set_option autoImplicit false

namespace Receipt.Markup

/-- Text in one style. -/
structure Piece where
  text : List Char
  style : TextStyle
  deriving DecidableEq, Repr

/-- The pieces of a text behind a state of formatting, and the state behind the text. -/
def scan (state : Formatting) (text : List Char) : List Piece × Formatting :=
  match _opened : text.dropWhile (· != '<') with
  | [] => ([⟨text, state.current⟩], state)
  | _ :: tail =>
    let before : Piece := ⟨text.takeWhile (· != '<'), state.current⟩
    match _read : Opening.read state tail with
    | .unclosed => ([⟨text, state.current⟩], state)
    | .tag next after =>
      let rest := scan next after
      (before :: rest.1, rest.2)
    | .character =>
      let rest := scan state tail
      (before :: ⟨['<'], state.current⟩ :: rest.1, rest.2)
termination_by text.length
decreasing_by
  all_goals
    have shorter := (List.dropWhile_sublist (· != '<') (l := text)).length_le
    rw [_opened] at shorter
    simp only [List.length_cons] at shorter
  · have := Opening.length_read _read
    omega
  · omega

end Receipt.Markup
