import PassForge.Template.Lexer

/-!
# Streams of template tokens

Reading a template goes through its tokens one by one.  A fault is put down to the line of the token
read last: an unexpected token counts as read.  Who looks at the next token where the text has no
token runs into the fault of the text.

Every reader returns what is left to read together with the proof that it is shorter, or at least no
longer, which is what ends the recursion of readers that call each other.
-/

namespace PassForge.Template

/-- Why the tokens of a template make no statements. -/
inductive GrammarFault where
  /-- There is no token. -/
  | lexical (cause : LexCause)
  /-- Something else was expected. -/
  | unexpected (found expected : String)
  /-- No operand starts like this. -/
  | noOperand (found : String)
  /-- No statement starts like this. -/
  | noStatement (found : String)
  /-- No statement has this keyword. -/
  | unknownStatement (keyword : String)
  /-- The name cannot be set. -/
  | reserved (name : String)
  /-- An argument without a name stands behind one that has one. -/
  | positionalArgument
  /-- A call has too many arguments. -/
  | manyArguments
  /-- A filter is missing. -/
  | noFilter
  /-- A statement that calls has something else. -/
  | noCall (found : String)
  /-- A block ends under another name. -/
  | blockName (found expected : String)
  /-- Two blocks have one name. -/
  | blockTwice (name : String)
  /-- A block stands in a routine. -/
  | blockInRoutine
  /-- A block that has to be filled in elsewhere has content. -/
  | blockContent
  /-- Statements, expressions and operands are nested too deep. -/
  | tooDeep
deriving DecidableEq, Repr

/-- The text of a fault. -/
def GrammarFault.message : GrammarFault → String
  | lexical cause => cause.message
  | unexpected found expected => s!"unexpected {found}, expected {expected}"
  | noOperand found => s!"unexpected {found}"
  | noStatement found => s!"unknown {found}, expected statement"
  | unknownStatement keyword => s!"unknown statement {keyword}"
  | reserved name => s!"cannot assign to reserved variable name {name}"
  | positionalArgument => "non-keyword arg after keyword arg"
  | manyArguments => "Too many arguments in function call"
  | noFilter => "expected a filter"
  | noCall found => s!"expected call expression in call block, got {found}"
  | blockName found expected => s!"mismatching name on block. Got `{found}`, expected `{expected}`"
  | blockTwice name => s!"block '{name}' defined twice"
  | blockInRoutine => "block tags in macros are not allowed"
  | blockContent => "Required blocks can only contain comments or whitespace"
  | tooDeep => "template exceeds maximum recursion limits"

/-- Why a template cannot be read. -/
inductive ParseFault where
  /-- Reading stopped on this line. -/
  | malformed (fault : GrammarFault) (line : Nat)
  /-- A string literal after this line has an escape that is not in order. -/
  | badEscape (line : Nat)
deriving DecidableEq, Repr

/-- The tokens left to read. -/
structure Stream where
  /-- The tokens. -/
  rest : List Lexeme
  /-- The line of the token read last. -/
  line : Nat
  /-- What stands after the tokens, if not the end. -/
  fault : Option LexFault
  /-- The names of the blocks read so far. -/
  blocks : List String
deriving Repr

namespace Stream

/-- The number of tokens left. -/
def size (s : Stream) : Nat := s.rest.length

/-- A fault of what has been read. -/
def fail (s : Stream) (fault : GrammarFault) : ParseFault := .malformed fault s.line

/-- The fault of going on after the last token, where something was expected. -/
def stop (s : Stream) (expected : String) : ParseFault :=
  match s.fault with
  | some (.malformed cause line) => .malformed (.lexical cause) line
  | some .badEscape => .badEscape s.line
  | none => s.fail (.unexpected "end of input" expected)

/-- The line of the next token. -/
def nextLine (s : Stream) : Nat := (s.rest.head?.map Lexeme.line).getD s.line

end Stream

/-- A result, and less to read than in `s`. -/
structure Parsed (α : Type) (s : Stream) where
  value : α
  rest : Stream
  shorter : rest.size < s.size

/-- A result, and no more to read than in `s`. -/
structure Taken (α : Type) (s : Stream) where
  value : α
  rest : Stream
  noLonger : rest.size ≤ s.size

namespace Parsed

variable {α β : Type} {r s : Stream}

/-- A result of what a reader has left. -/
def after (x : Parsed α r) (h : r.size < s.size) : Parsed α s :=
  ⟨x.value, x.rest, Nat.lt_trans x.shorter h⟩

/-- A result of what a reader has left that may have read nothing. -/
def behind (x : Parsed α r) (h : r.size ≤ s.size) : Parsed α s :=
  ⟨x.value, x.rest, Nat.lt_of_lt_of_le x.shorter h⟩

/-- Another result. -/
def map (f : α → β) (x : Parsed α s) : Parsed β s := ⟨f x.value, x.rest, x.shorter⟩

/-- A result, whatever has been read. -/
def taken (x : Parsed α s) : Taken α s := ⟨x.value, x.rest, Nat.le_of_lt x.shorter⟩

end Parsed

namespace Taken

variable {α β : Type} {r s : Stream}

/-- A result without reading. -/
def here (value : α) : Taken α s := ⟨value, s, Nat.le_refl _⟩

/-- A result of what a reader has left. -/
def after (x : Taken α r) (h : r.size < s.size) : Parsed α s :=
  ⟨x.value, x.rest, Nat.lt_of_le_of_lt x.noLonger h⟩

/-- A result of what a reader has left that may have read nothing. -/
def behind (x : Taken α r) (h : r.size ≤ s.size) : Taken α s :=
  ⟨x.value, x.rest, Nat.le_trans x.noLonger h⟩

/-- Another result. -/
def map (f : α → β) (x : Taken α s) : Taken β s := ⟨f x.value, x.rest, x.noLonger⟩

end Taken

namespace Stream

/-- Reads a token, if there is one. -/
def next? (s : Stream) : Option (Parsed Token s) :=
  match h : s.rest with
  | [] => none
  | x :: xs => some ⟨x.token, ⟨xs, x.line, s.fault, s.blocks⟩, by simp [size, h]⟩

/-- Reads a token, unless the text ends. -/
def look (s : Stream) : Except ParseFault (Option (Parsed Token s)) :=
  match s.next? with
  | some x => .ok (some x)
  | none => if s.fault.isSome then .error (s.stop "") else .ok none

/-- The next token, unless the text ends. -/
def peek (s : Stream) : Except ParseFault (Option Token) :=
  return (← s.look).map (·.value)

/-- Reads a token where something is expected. -/
def next (s : Stream) (expected : String) : Except ParseFault (Parsed Token s) :=
  match s.next? with
  | some x => .ok x
  | none => .error (s.stop expected)

/-- The fault of having read a token where something else was expected. -/
def unexpected (s : Stream) (found : Token) (expected : String) : ParseFault :=
  s.fail (.unexpected found.description expected)

/-- Reads the token `t`. -/
def expect (s : Stream) (t : Token) (expected : String) : Except ParseFault (Parsed Unit s) := do
  let x ← s.next expected
  if x.value = t then return x.map fun _ => () else .error (x.rest.unexpected x.value expected)

/-- Reads a sign. -/
def expectSign (s : Stream) (sign : Sign) : Except ParseFault (Parsed Unit s) :=
  s.expect (.sign sign) (Token.sign sign).description

/-- Reads the end of a statement. -/
def expectEnd (s : Stream) : Except ParseFault (Parsed Unit s) :=
  s.expect .statementEnd Token.statementEnd.description

/-- What is left after the token `t`, if it comes next. -/
def accept (s : Stream) (t : Token) : Except ParseFault (Option (Parsed Unit s)) := do
  match ← s.look with
  | some x => return if x.value = t then some (x.map fun _ => ()) else none
  | none => return none

/-- What is left after a sign, if it comes next. -/
def acceptSign (s : Stream) (sign : Sign) : Except ParseFault (Option (Parsed Unit s)) :=
  s.accept (.sign sign)

/-- What is left after a word, if it comes next. -/
def acceptWord (s : Stream) (word : String) : Except ParseFault (Option (Parsed Unit s)) :=
  s.accept (.word word)

/-- Whether the token `t` comes next, which counts as read then. -/
def skip (s : Stream) (t : Token) : Except ParseFault (Taken Bool s) := do
  match ← s.accept t with
  | some x => return (x.map fun _ => true).taken
  | none => return .here false

/-- The text of the strings at the start of some tokens, and what is left. -/
def stringsOf : List Lexeme → String × List Lexeme
  | ⟨.string value _, _⟩ :: rest =>
    let more := stringsOf rest
    (value ++ more.1, more.2)
  | rest => ("", rest)

theorem length_stringsOf_le (xs : List Lexeme) : (stringsOf xs).2.length ≤ xs.length := by
  fun_induction stringsOf xs with
  | case1 value escaped line rest more ih => exact Nat.le_succ_of_le ih
  | case2 => exact Nat.le_refl _

/-- Reads strings that follow a string directly.  A fault of the text right behind a string without
escapes is not noticed: reading stops there as if the text ended. -/
def strings (escaped : Bool) (s : Stream) : Taken String s :=
  let more := stringsOf s.rest
  let read := s.rest.take (s.rest.length - more.2.length)
  let line := (read.getLast?.map Lexeme.line).getD s.line
  let fault := if s.rest.isEmpty && !escaped then none else s.fault
  ⟨more.1, ⟨more.2, line, fault, s.blocks⟩, length_stringsOf_le s.rest⟩

/-- Reads a name. -/
def word (s : Stream) : Except ParseFault (Parsed String s) := do
  let x ← s.next "identifier"
  match x.value with
  | .word name => return x.map fun _ => name
  | t => .error (x.rest.unexpected t "identifier")

/-- Reads the name of a block, which no block before it has. -/
def blockName (s : Stream) : Except ParseFault (Parsed String s) := do
  let ⟨name, r, h⟩ ← s.word
  if name ∈ r.blocks then .error (r.fail (.blockTwice name))
  return ⟨name, { r with blocks := name :: r.blocks }, h⟩

/-- Reads the keyword at which the body of a statement has stopped.  At the end of the text there is
none. -/
def keyword (s : Stream) : Except ParseFault (Taken String s) := do
  match ← s.look with
  | some x =>
    match x.value with
    | .word name => return (x.map fun _ => name).taken
    | _ => return (x.map fun _ => "").taken
  | none => return .here ""

end Stream

end PassForge.Template
