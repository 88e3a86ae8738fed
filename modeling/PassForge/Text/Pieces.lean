import PassForge.Text.Blank

/-!
# Pieces of a text

A text can be cut where a separator stands.  `splitOn` gives the pieces between the separators, and
`replaced` puts something else between them.  The empty separator stands between all characters and
at both ends.
-/

namespace PassForge.Text

/-- The pieces of a text.  `divider` gives the length of the separator that a text starts with, and
`left` the number of separators that count.  `skip` characters belong to a separator still, `piece`
holds the piece so far, reversed, and `done` the pieces before it, the last one first. -/
def piecesFrom (divider : List Char → Option Nat) (left : Option Nat) (skip : Nat)
    (piece : List Char) (done : List (List Char)) : List Char → List (List Char)
  | [] => (piece.reverse :: done).reverse
  | c :: cs =>
    match skip, left, divider (c :: cs) with
    | skip + 1, _, _ => piecesFrom divider left skip piece done cs
    | 0, some 0, _ => ((piece.reverse ++ c :: cs) :: done).reverse
    | 0, _, some (length + 1) =>
      piecesFrom divider (left.map (· - 1)) length [] (piece.reverse :: done) cs
    | 0, _, _ => piecesFrom divider left 0 (c :: piece) done cs

/-- The length of the separator that a text starts with. -/
def startingSeparator (separator cs : List Char) : Option Nat :=
  if separator.isPrefixOf cs then some separator.length else none

/-- The pieces between the separators of a text, of which the first `left` count. -/
def splitOn (separator : List Char) (left : Option Nat) (cs : List Char) : List (List Char) :=
  if separator.isEmpty then
    let pieces := [] :: cs.map (fun c => [c]) ++ [[]]
    match left with
    | some n => if n < pieces.length then pieces.take n ++ [(pieces.drop n).flatten] else pieces
    | none => pieces
  else piecesFrom (startingSeparator separator) left 0 [] [] cs

/-- The pieces between the blanks of a text, of which the first `left` count. -/
def splitBlanks (left : Option Nat) (cs : List Char) : List (List Char) :=
  piecesFrom (fun cs => if cs.head?.any isBlank then some 1 else none) left 0 [] [] cs

/-- The words of a text, between which there are any number of blanks. -/
def words (cs : List Char) : List (List Char) := (splitBlanks none cs).filter (!·.isEmpty)

/-- A text with `new` wherever `old` stands in it. -/
def replaced (old new cs : List Char) : List Char := List.intercalate new (splitOn old none cs)

/-- A text without one line feed at its end, and without one carriage return before that. -/
def dropLastNewline (cs : List Char) : List Char :=
  let rest := cs.reverse
  let rest := if rest.head? = some '\n' then rest.tail else rest
  (if rest.head? = some '\r' then rest.tail else rest).reverse

/-- A text whose lines stand `width` columns to the right: the first one only if `first` says so,
and empty ones only if `blank` does. -/
def indented (width : Nat) (first blank : Bool) (cs : List Char) : List Char :=
  let margin := List.replicate width ' '
  let moved (line : List Char) : List Char :=
    if line.isEmpty && !blank then line else margin ++ line
  let lines :=
    match splitOn ['\n'] none (dropLastNewline cs) with
    | [] => []
    | line :: rest => (if first then moved line else line) :: rest.map moved
  dropLastNewline (lines.flatMap (· ++ ['\n']))

end PassForge.Text
