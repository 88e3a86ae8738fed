import PassForge.Text.Blank
import PassForge.Text.Lines

/-!
# Generated code

Generated code is a list of lines, each with the depth at which it stands.  Declarations and
functions are put together as lists of lines and written out once, by `Code.text`.

A level of depth is four blanks wide.  Empty lines and preprocessor directives, which start with
`#`, are always written at the margin.
-/

namespace PassForge

/-- A line of generated code. -/
structure CodeLine where
  /-- The number of levels the line is indented by. -/
  depth : Nat
  /-- The line without its indentation. -/
  content : String
deriving DecidableEq, Repr

namespace CodeLine

/-- One level of indentation. -/
def unit : String := "    "

/-- Whether the line stands at the margin whatever its depth. -/
def atMargin (l : CodeLine) : Bool :=
  match l.content.toList with
  | [] => true
  | c :: _ => c == '#'

/-- The indentation the line is written with. -/
def indentation (l : CodeLine) : String :=
  if l.atMargin then "" else String.join (List.replicate l.depth unit)

/-- The line as it is written, with its end. -/
def text (l : CodeLine) : String := l.indentation ++ l.content ++ "\n"

end CodeLine

/-- Lines of generated code. -/
abbrev Code := List CodeLine

namespace Code

/-- A single line. -/
def line (content : String) : Code := [⟨0, content⟩]

/-- The lines of a text, without their trailing blanks. -/
def lines (text : String) : Code :=
  (Text.lines text.toList).map fun l => ⟨0, String.ofList (Text.trimEnd l)⟩

/-- The lines one level deeper. -/
def indented (code : Code) : Code := code.map fun l => { l with depth := l.depth + 1 }

/-- A head line, an opening brace, the indented body and a closing line. -/
def block (head : String) (body : Code) (close : String) : Code :=
  line head ++ line "\x7b" ++ body.indented ++ line close

/-- The code as it is written. -/
def text (code : Code) : String := String.join (code.map CodeLine.text)

end Code

end PassForge
