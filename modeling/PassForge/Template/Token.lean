import PassForge.Template.Cursor
import PassForge.Template.Numeral
import PassForge.Template.StringLiteral
import PassForge.Text.Identifier

/-!
# Template tokens

A template is plain text with tags in it: `{{ … }}` prints a value, `{$ … $}` is a statement,
`{# … #}` a comment, and a line that starts with `$$` is a statement as a whole.  `lex` cuts a
template into tokens, each with the line it starts on; comments leave no token.

White space around tags follows four rules.

* Blanks between the start of a line and a statement or comment are dropped.  The line has to
  start after a line feed or after another tag.
* One line end after a statement or comment is dropped.
* A `-` inside a delimiter drops all white space on its side instead, also of `{{ … }}`.
* A `+` inside a delimiter keeps the white space on its side.

A line statement ends with its line.  It takes one line feed with it and then one carriage return,
so that of a carriage return with a line feed the latter is left.  White space around it is not
asked about.

No tag ends while a bracket is open in it.  What stands between the statements `raw` and `endraw` is
taken as plain text, tags and all.
-/

namespace PassForge.Template

/-- A sign of the expression language. -/
inductive Sign where
  | dot | comma | colon | assign | bar
  | parenOpen | parenClose | bracketOpen | bracketClose | braceOpen | braceClose
  | plus | minus | times | slash | doubleSlash | percent | power | tilde
  | equal | notEqual | less | lessEqual | greater | greaterEqual
deriving DecidableEq, Repr

/-- A sign as it is written. -/
def Sign.text : Sign → String
  | dot => "."
  | comma => ","
  | colon => ":"
  | assign => "="
  | bar => "|"
  | parenOpen => "("
  | parenClose => ")"
  | bracketOpen => "["
  | bracketClose => "]"
  | braceOpen => "\x7b"
  | braceClose => "\x7d"
  | plus => "+"
  | minus => "-"
  | times => "*"
  | slash => "/"
  | doubleSlash => "//"
  | percent => "%"
  | power => "**"
  | tilde => "~"
  | equal => "=="
  | notEqual => "!="
  | less => "<"
  | lessEqual => "<="
  | greater => ">"
  | greaterEqual => ">="

/-- A token of a template. -/
inductive Token where
  /-- Plain text. -/
  | text (content : String)
  /-- The start of a printed value. -/
  | printStart
  /-- The end of a printed value. -/
  | printEnd
  /-- The start of a statement. -/
  | statementStart
  /-- The end of a statement. -/
  | statementEnd
  /-- A name or keyword. -/
  | word (name : String)
  /-- A string literal, its escapes resolved; `escaped` says whether it has any. -/
  | string (value : String) (escaped : Bool)
  /-- An integer literal. -/
  | number (value : Nat)
  /-- The literal of a number with a point, `significand * 10 ^ exponent`. -/
  | fraction (significand : Nat) (exponent : Int)
  /-- A sign. -/
  | sign (s : Sign)
deriving DecidableEq, Repr

/-- What a token is, as faults name it. -/
def Token.description : Token → String
  | text _ => "template-data"
  | printStart => "start of variable block"
  | printEnd => "end of variable block"
  | statementStart => "start of block"
  | statementEnd => "end of block"
  | word _ => "identifier"
  | string .. => "string"
  | number _ => "integer"
  | fraction .. => "float"
  | sign s => s!"`{s.text}`"

/-- A token and the line it starts on, counted from one. -/
structure Lexeme where
  token : Token
  line : Nat
deriving DecidableEq, Repr

/-- Why there is no token. -/
inductive LexCause where
  /-- No token starts with this character. -/
  | character
  /-- The end of a string literal is missing. -/
  | openString
  /-- The end of a comment is missing. -/
  | openComment
  /-- The end of a part that is taken as it stands is missing. -/
  | openRaw
  /-- A numeral is not in order. -/
  | numeral (fault : NumeralFault)
deriving DecidableEq, Repr

/-- The text of a cause. -/
def LexCause.message : LexCause → String
  | character => "unexpected character"
  | openString => "unexpected end of string"
  | openComment => "unexpected end of comment"
  | openRaw => "unexpected end of raw block"
  | numeral .underscore => "'_' may not occur at end of number"
  | numeral .whole => "invalid integer (too large)"
  | numeral .fraction => "invalid float"

/-- Why a template could not be cut into tokens to its end. -/
inductive LexFault where
  /-- What stands on this line is no token. -/
  | malformed (cause : LexCause) (line : Nat)
  /-- A string literal has an escape that is not in order. -/
  | badEscape
deriving DecidableEq, Repr

/-- The tokens of a template, up to its end or to a fault. -/
structure Lexemes where
  tokens : List Lexeme
  fault : Option LexFault
deriving Repr

namespace Lexemes

/-- No token, and no fault. -/
def done : Lexemes := ⟨[], none⟩

/-- A fault before any token. -/
def failed (fault : LexFault) : Lexemes := ⟨[], some fault⟩

/-- A token in front. -/
def push (token : Token) (line : Nat) (l : Lexemes) : Lexemes :=
  { l with tokens := ⟨token, line⟩ :: l.tokens }

/-- Plain text in front, unless it is empty. -/
def pushText (content : List Char) (line : Nat) (l : Lexemes) : Lexemes :=
  if content.isEmpty then l else l.push (.text (String.ofList content)) line

end Lexemes

/-! ### White space around tags -/

/-- What a delimiter says of the white space on its outer side. -/
inductive Trim where
  /-- The rules for its kind of tag apply. -/
  | usual
  /-- All of it goes. -/
  | remove
  /-- All of it stays. -/
  | keep
deriving DecidableEq, Repr

namespace Trim

/-- What the character inside a delimiter says. -/
def ofChar? : Option Char → Trim
  | some '-' => remove
  | some '+' => keep
  | _ => usual

/-- The number of characters the mark takes. -/
def width : Trim → Nat
  | usual => 0
  | _ => 1

end Trim

/-- Where text ends and a tag starts. -/
inductive Marker where
  | print | statement | comment | lineStatement
deriving DecidableEq, Repr

/-- The first marker of a text and the number of characters before it.  `indented` says whether only
spaces and tabs stand before the text on its line: a line statement needs that. -/
def findMarker (indented : Bool) : List Char → Option (Nat × Marker)
  | [] => none
  | '\x7b' :: '\x7b' :: _ => some (0, .print)
  | '\x7b' :: '$' :: _ => some (0, .statement)
  | '\x7b' :: '#' :: _ => some (0, .comment)
  | '$' :: '$' :: cs =>
    if indented then some (0, .lineStatement)
    else (findMarker false cs).map fun (n, m) => (n + 2, m)
  | c :: cs =>
    (findMarker (Cursor.indentedAfter indented c) cs).map fun (n, m) => (n + 1, m)

/-- The text without the blanks of its last line, if that line starts in it with a line feed or is
all of it. -/
def trimIndent (lead : List Char) : List Char :=
  let trimmed := Text.dropEndWhile (fun c => Text.isBlank c && !Text.isNewline c) lead
  if trimmed.isEmpty || trimmed.getLast? == some '\n' then trimmed else lead

/-- The text before a tag, trimmed as the tag's opening delimiter asks.  `fresh` says whether only
blanks stand before the tag on its line. -/
def trimLead (lead : List Char) (marker : Marker) (trim : Trim) (fresh : Bool) : List Char :=
  match trim with
  | .remove => Text.trimEnd lead
  | .keep => lead
  | .usual => if marker ≠ .print && fresh then trimIndent lead else lead

/-! ### Tokens of expressions -/

/-- A token and the number of characters it takes beyond its first. -/
structure Scanned where
  token : Token
  more : Nat
deriving Repr

/-- The sign that two characters make. -/
def longSign? (c : Char) (next : Option Char) : Option Sign :=
  match c, next with
  | '=', some '=' => some .equal
  | '!', some '=' => some .notEqual
  | '<', some '=' => some .lessEqual
  | '>', some '=' => some .greaterEqual
  | '/', some '/' => some .doubleSlash
  | '*', some '*' => some .power
  | _, _ => none

/-- The sign that one character makes. -/
def shortSign? : Char → Option Sign
  | '.' => some .dot
  | ',' => some .comma
  | ':' => some .colon
  | '=' => some .assign
  | '|' => some .bar
  | '(' => some .parenOpen
  | ')' => some .parenClose
  | '[' => some .bracketOpen
  | ']' => some .bracketClose
  | '\x7b' => some .braceOpen
  | '\x7d' => some .braceClose
  | '+' => some .plus
  | '-' => some .minus
  | '*' => some .times
  | '/' => some .slash
  | '%' => some .percent
  | '~' => some .tilde
  | '<' => some .less
  | '>' => some .greater
  | _ => none

/-- The token of an expression that starts with the character `c`, on line `line`. -/
def scanToken (line : Nat) (c : Char) (cs : List Char) : Except LexFault Scanned :=
  match longSign? c cs.head? with
  | some s => .ok ⟨.sign s, 1⟩
  | none =>
    match shortSign? c with
    | some s => .ok ⟨.sign s, 0⟩
    | none =>
      if c ∈ quotes then
        match Text.literalLength? c cs with
        | none => .error (.malformed .openString (line + cs.count '\n'))
        | some n =>
          match unescape? none (cs.take n) with
          | none => .error .badEscape
          | some value =>
            .ok ⟨.string (String.ofList value) ((cs.take n).contains '\\'), n + 1⟩
      else if c.isDigit then
        match scanNumeral (c :: cs) with
        | .error fault => .error (.malformed (.numeral fault) line)
        | .ok (.whole value, length) => .ok ⟨.number value, length - 1⟩
        | .ok (.fraction significand exponent, length) =>
          .ok ⟨.fraction significand exponent, length - 1⟩
      else if c.isAlpha || c = '_' then
        let tail := cs.takeWhile Text.isIdentifierChar
        .ok ⟨.word (String.ofList (c :: tail)), tail.length⟩
      else .error (.malformed .character line)

/-- The number of open brackets after a token. -/
def bracketDepth (depth : Nat) : Token → Nat
  | .sign .parenOpen | .sign .bracketOpen | .sign .braceOpen => depth + 1
  | .sign .parenClose | .sign .bracketClose | .sign .braceClose => depth - 1
  | _ => depth

/-! ### Cutting a template into tokens -/

/-- The kind of tag an expression stands in. -/
inductive Tag where
  | print | statement | lineStatement
deriving DecidableEq, Repr

/-- Where in a template the next token is looked for. -/
inductive Mode where
  /-- In plain text; `trim` asks for leading white space to go. -/
  | text (trim : Bool)
  /-- Inside a tag, with a number of open brackets. -/
  | tag (kind : Tag) (depth : Nat)
deriving DecidableEq, Repr

/-- White space between the tokens of a tag.  A line end that closes a line statement is none. -/
def isFiller (kind : Tag) (depth : Nat) (c : Char) : Bool :=
  (c.isWhitespace || c == '\x0c') &&
    !(kind == .lineStatement && depth == 0 && Text.isNewline c)

/-- The number of characters that end a line statement here, if it ends here.  Blanks come first;
then the text ends, or one line feed follows and one carriage return, of which one may be
missing. -/
def lineEnd? (rest : List Char) : Option Nat :=
  let blank (c : Char) : Bool := Text.isBlank c && !Text.isNewline c
  let blanks := (rest.takeWhile blank).length
  match rest.dropWhile blank with
  | [] => some blanks
  | '\n' :: '\r' :: _ => some (blanks + 2)
  | '\n' :: _ => some (blanks + 1)
  | '\r' :: _ => some (blanks + 1)
  | _ => none

/-- The end of a tag, if it stands here: the number of characters it takes beyond its first, and
what it says of the white space after it.  No tag ends while a bracket is open. -/
def tagEnd? (kind : Tag) (depth : Nat) (rest : List Char) : Option (Nat × Trim) :=
  if 0 < depth then none
  else match kind with
  | .print =>
    match rest with
    | '-' :: '\x7d' :: '\x7d' :: _ => some (2, .remove)
    | '+' :: '\x7d' :: '\x7d' :: _ => some (2, .keep)
    | '\x7d' :: '\x7d' :: _ => some (1, .keep)
    | _ => none
  | .statement =>
    match rest with
    | '-' :: '$' :: '\x7d' :: _ => some (2, .remove)
    | '+' :: '$' :: '\x7d' :: _ => some (2, .keep)
    | '$' :: '\x7d' :: _ => some (1, .usual)
    | _ => none
  | .lineStatement => (lineEnd? rest).map fun length => (length - 1, .keep)

/-- The token that ends a tag. -/
def Tag.endToken : Tag → Token
  | .print => .printEnd
  | _ => .statementEnd

/-- The number of characters of a comment before its end. -/
def commentLength? : List Char → Option Nat
  | [] => none
  | '#' :: '\x7d' :: _ => some 0
  | _ :: cs => (commentLength? cs).map (· + 1)

/-! ### Parts taken as they stand -/

/-- The text after one that it has to start with. -/
def afterText? : List Char → List Char → Option (List Char)
  | [], cs => some cs
  | a :: as, c :: cs => if a = c then afterText? as cs else none
  | _ :: _, [] => none

/-- The length of the rest of a statement that is a mere keyword, if it stands here, and what its
end says of the white space after it. -/
def keywordTag? (keyword : String) (cs : List Char) : Option (Nat × Trim) := do
  let blank (c : Char) : Bool := c.isWhitespace || c == '\x0c'
  let rest ← afterText? keyword.toList (cs.dropWhile blank)
  let rest := rest.dropWhile blank
  let trim := Trim.ofChar? rest.head?
  let rest ← afterText? ['$', '\x7d'] (rest.drop trim.width)
  return (cs.length - rest.length, trim)

/-- The end of a part that is taken as it stands. -/
structure RawEnd where
  /-- The number of characters before it. -/
  start : Nat
  /-- The number of characters it takes. -/
  length : Nat
  /-- What it says of the white space before it. -/
  before : Trim
  /-- What it says of the white space after it. -/
  after : Trim
deriving DecidableEq, Repr

/-- The first end of a part that is taken as it stands. -/
def rawEnd? : List Char → Option RawEnd
  | [] => none
  | c :: cs =>
    let here : Option RawEnd :=
      match c, cs with
      | '\x7b', '$' :: inner =>
        let before := Trim.ofChar? inner.head?
        (keywordTag? "endraw" (inner.drop before.width)).map fun (length, after) =>
          ⟨0, length + before.width + 2, before, after⟩
      | _, _ => none
    here <|> (rawEnd? cs).map fun e => { e with start := e.start + 1 }

/-- The text of a part that is taken as it stands, trimmed as the tags around it ask. -/
def trimRaw (first last : Trim) (content : List Char) : List Char :=
  let content :=
    match first with
    | .usual =>
      let content := if content.head? = some '\r' then content.tail else content
      if content.head? = some '\n' then content.tail else content
    | .remove => content.dropWhile Text.isBlank
    | .keep => content
  match last with
  | .usual => trimIndent content
  | .remove => Text.trimEnd content
  | .keep => content

end PassForge.Template
