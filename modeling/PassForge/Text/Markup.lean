/-!
# Text in markup

In markup some characters have a meaning of their own.  They are written by name or by number where
they are meant as text.
-/

namespace PassForge.Text

/-- A character as text in markup. -/
def markupChar (c : Char) : List Char :=
  match c with
  | '<' => "&lt;".toList
  | '>' => "&gt;".toList
  | '&' => "&amp;".toList
  | '"' => "&quot;".toList
  | '\x27' => "&#x27;".toList
  | '/' => "&#x2f;".toList
  | c => [c]

/-- A text as it is written in markup. -/
def escapeMarkup (s : String) : String := String.ofList (s.toList.flatMap markupChar)

end PassForge.Text
