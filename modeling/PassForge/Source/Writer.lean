import PassForge.Source.Code

/-!
# Writers

A `Writer` is a text under construction together with the depth at which the next line goes.  It is
the step-by-step way to write what `Code.text` writes at once.
-/

namespace PassForge

/-- A text under construction. -/
structure Writer where
  /-- What has been written. -/
  text : String
  /-- The depth of the next line. -/
  depth : Nat
deriving DecidableEq, Repr

namespace Writer

/-- Nothing written, at depth zero. -/
def empty : Writer := ⟨"", 0⟩

/-- Goes one level deeper. -/
def indent (w : Writer) : Writer := { w with depth := w.depth + 1 }

/-- Comes back one level; depth zero stays. -/
def dedent (w : Writer) : Writer := { w with depth := w.depth - 1 }

/-- Appends a text as it stands. -/
def raw (w : Writer) (text : String) : Writer := { w with text := w.text ++ text }

/-- Appends one line at the current depth. -/
def line (w : Writer) (content : String) : Writer := w.raw (CodeLine.text ⟨w.depth, content⟩)

/-- Appends lines, each that much deeper than the current depth. -/
def code (w : Writer) (code : Code) : Writer :=
  code.foldl (fun w l => w.raw (CodeLine.text { l with depth := w.depth + l.depth })) w

/-- Appends the lines of a text, each without its trailing blanks. -/
def lines (w : Writer) (text : String) : Writer := w.code (Code.lines text)

/-- Appends an empty line. -/
def blank (w : Writer) : Writer := w.raw "\n"

/-- The number of bytes written. -/
def size (w : Writer) : Nat := w.text.utf8ByteSize

/-- Whether nothing has been written. -/
def isEmpty (w : Writer) : Bool := w.text.isEmpty

end Writer

end PassForge
