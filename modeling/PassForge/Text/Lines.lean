/-!
# Lines of a text

A line ends at a line feed, together with one carriage return before it.  Text after the last line
feed is a line of its own, kept as it stands; no empty line follows a final line feed.
-/

namespace PassForge.Text

/-- The lines of the text that continues a line whose characters so far are `current`, reversed. -/
def linesFrom (current : List Char) : List Char → List (List Char)
  | [] => if current.isEmpty then [] else [current.reverse]
  | c :: cs =>
    if c = '\n' then
      let ended := match current with
        | '\r' :: rest => rest
        | other => other
      ended.reverse :: linesFrom [] cs
    else linesFrom (c :: current) cs

/-- The lines of a text, without their ends. -/
def lines (cs : List Char) : List (List Char) := linesFrom [] cs

end PassForge.Text
