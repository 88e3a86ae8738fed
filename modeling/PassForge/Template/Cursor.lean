import PassForge.Text.Blank

/-!
# Places in a template

A `Cursor` is a place in a template: the text from there on, its line, and whether only white space
comes before it on its line.  Lines are counted by line feeds, but for white space a carriage return
starts a line as well.
-/

namespace PassForge.Template

/-- A place in a template. -/
structure Cursor where
  /-- The text from here on. -/
  rest : List Char
  /-- The line, counted from one. -/
  line : Nat
  /-- Whether only white space stands before this place on its line. -/
  fresh : Bool
  /-- Whether only spaces and tabs stand before this place on its line. -/
  indented : Bool
deriving Repr

namespace Cursor

/-- The start of a text. -/
def start (text : List Char) : Cursor := ⟨text, 1, true, true⟩

/-- Whether only spaces and tabs stand before a place on its line, after one more character. -/
def indentedAfter (indented : Bool) (c : Char) : Bool :=
  Text.isNewline c || (indented && (c == ' ' || c == '\t'))

/-- The place after the next `n` characters. -/
def advance : Nat → Cursor → Cursor
  | 0, p => p
  | _ + 1, ⟨[], line, fresh, indented⟩ => ⟨[], line, fresh, indented⟩
  | n + 1, ⟨c :: cs, line, fresh, indented⟩ =>
    advance n ⟨cs, if c = '\n' then line + 1 else line,
      Text.isNewline c || (fresh && Text.isBlank c), indentedAfter indented c⟩

@[simp] theorem rest_advance (n : Nat) (p : Cursor) : (p.advance n).rest = p.rest.drop n := by
  induction n generalizing p with
  | zero => simp [advance]
  | succ n ih =>
    obtain ⟨cs, line, fresh, indented⟩ := p
    cases cs with
    | nil => simp [advance]
    | cons c cs => simp [advance, ih]

/-- The place after the characters that satisfy `p`. -/
def skipWhile (p : Char → Bool) (c : Cursor) : Cursor :=
  c.advance (c.rest.takeWhile p).length

theorem length_skipWhile_le (p : Char → Bool) (c : Cursor) :
    (c.skipWhile p).rest.length ≤ c.rest.length := by
  simp [skipWhile]

/-- The place after one character `c`, if it stands here. -/
def skipOne (c : Char) (p : Cursor) : Cursor := if p.rest.head? = some c then p.advance 1 else p

/-- The place after one line end, if one stands here. -/
def skipNewline (p : Cursor) : Cursor := (p.skipOne '\r').skipOne '\n'

/-- The line on which the text ends. -/
def lastLine (p : Cursor) : Nat := (p.advance p.rest.length).line

theorem length_skipOne_le (c : Char) (p : Cursor) :
    (p.skipOne c).rest.length ≤ p.rest.length := by
  rw [skipOne]
  split
  · simp
  · exact Nat.le_refl _

theorem length_skipNewline_le (p : Cursor) : p.skipNewline.rest.length ≤ p.rest.length :=
  Nat.le_trans (length_skipOne_le _ _) (length_skipOne_le _ _)

end Cursor

end PassForge.Template
