import PassForge.Template.Operation

/-!
# Template trees

The expressions and statements of a template.  Constants, names, lists, maps, calls of functions and
operations remember the line they start on; a statement remembers the line of its keyword.

`Expr.ofList`, `Expr.ofMap`, `Expr.ofUnary`, `Expr.ofBinary` and `Expr.ofComparisons` build
expressions, and carry out what can be carried out beforehand.  A list or map is known beforehand
only if all its items are literals; the operands of an operation may be any expressions that are
known.

An operation fails on the line of the operand that was reached last, `Expr.lastLine`; only a minus
in front of an operand fails on its own line.
-/

namespace PassForge.Template

/-- How an argument is passed. -/
inductive Passing where
  | inOrder
  | named (name : String)
  /-- The items of a list, in order. -/
  | spread
  /-- The entries of a map, by name. -/
  | spreadNamed
deriving DecidableEq, Repr

/-- Whether an argument has a name. -/
def Passing.isNamed : Passing → Bool
  | named _ | spreadNamed => true
  | _ => false

/-- An expression. -/
inductive Expr where
  /-- A literal. -/
  | literal (line : Nat) (value : Value)
  /-- Any other expression whose value is known beforehand. -/
  | constant (line : Nat) (value : Value)
  /-- A variable. -/
  | name (line : Nat) (name : String)
  /-- A list of values. -/
  | list (line : Nat) (items : List Expr)
  /-- Values by key. -/
  | map (line : Nat) (entries : List (Expr × Expr))
  /-- A part of a value, by name. -/
  | member (target : Expr) (name : String)
  /-- A part of a value, by a computed key. -/
  | item (target key : Expr)
  /-- A part of a list, from one place to another, in steps. -/
  | slice (target first last step : Expr)
  /-- A call of a function. -/
  | callFunction (line : Nat) (name : String) (args : List (Passing × Expr))
  /-- A call of a method. -/
  | callMethod (target : Expr) (name : String) (args : List (Passing × Expr))
  /-- A call of any other value. -/
  | callValue (target : Expr) (args : List (Passing × Expr))
  /-- A call of a named block of the template. -/
  | callBlock (line : Nat) (name : String)
  /-- A call of the innermost loop by itself, as all that is printed. -/
  | recurse (line : Nat) (items : Expr)
  /-- An operation on one operand. -/
  | unary (line : Nat) (op : UnaryOp) (operand : Expr)
  /-- An operation on two operands. -/
  | binary (op : BinaryOp) (left right : Expr)
  /-- A chain of comparisons, each between neighbours. -/
  | chain (first : Expr) (rest : List (Comparison × Expr))
  /-- One of two values. -/
  | choose (condition yes no : Expr)
  /-- A value put through a filter. -/
  | filter (target : Expr) (name : String) (args : List (Passing × Expr))
  /-- Whether a value passes a test. -/
  | test (target : Expr) (name : String) (args : List (Passing × Expr))
  /-- Nothing, where an expression has been left out. -/
  | omitted (value : Value)
deriving Repr

namespace Expr

/-- The value of a literal. -/
def literal? : Expr → Option Value
  | literal _ v => some v
  | _ => none

/-- The value of an expression, if it is known beforehand. -/
def value? : Expr → Option Value
  | literal _ v => some v
  | constant _ v => some v
  | _ => none

/-- A list that starts on line `line`. -/
def ofList (line : Nat) (items : List Expr) : Expr :=
  match items.mapM literal? with
  | some values => constant line (.list .stored values)
  | none => list line items

/-- A map that starts on line `line`. -/
def ofMap (line : Nat) (entries : List (Expr × Expr)) : Expr :=
  match entries.mapM fun (k, v) => do return (← literal? k, ← literal? v) with
  | some entries => constant line (.ofEntries entries)
  | none => map line entries

/-- An operation on one operand that starts on line `line`. -/
def ofUnary (line : Nat) (op : UnaryOp) (operand : Expr) : Expr :=
  match operand.value?.bind fun v => (op.apply v).toOption with
  | some v => constant line v
  | none => unary line op operand

/-- An operation that starts on line `line`. -/
def ofBinary (line : Nat) (op : BinaryOp) (left right : Expr) : Expr :=
  match (do op.fold? (← left.value?) (← right.value?)) with
  | some v => constant line v
  | none => binary op left right

/-- Whether all comparisons of a chain hold whose first operand is `v`, if that is known.  Operands
behind a comparison that does not hold need not be known. -/
def holds? (v : Value) : List (Comparison × Expr) → Option Bool
  | [] => some true
  | (c, e) :: rest => do
    let w ← e.value?
    if ← (c.apply v w).toOption then holds? w rest else some false

/-- Comparisons after a token on line `line`. -/
def ofComparisons (line : Nat) (first : Expr) (rest : List (Comparison × Expr)) : Expr :=
  if rest.isEmpty then first
  else match first.value?.bind (holds? · rest) with
    | some b => constant line (.bool b)
    | none => chain first rest

/-- A call, starting on line `line`, of what an expression stands for. -/
def applied (line : Nat) (args : List (Passing × Expr)) : Expr → Expr
  | name _ f => callFunction line f args
  | member (name _ "self") block => callBlock line block
  | member target m => callMethod target m args
  | e => callValue e args

/-- An expression that is all that is printed, by a statement on line `line`. -/
def printed (line : Nat) : Expr → Expr
  | callBlock _ block => callBlock line block
  | callFunction here "loop" [(.inOrder, e)] => recurse here e
  | e => e

/-- What an expression is, as faults name it. -/
def description : Expr → String
  | literal .. => "constant"
  | name .. => "variable"
  | constant _ (.list ..) | list .. => "list literal"
  | constant _ (.map _) | map .. => "map literal"
  | filter .. => "filter expression"
  | test .. => "test expression"
  | callFunction .. | callMethod .. | callValue .. | callBlock .. | recurse .. => "call"
  | _ => "expression"

mutual

/-- The line of the operand reached last when the expression is gone through from left to right,
starting on line `line`. -/
def lastLine (line : Nat) : Expr → Nat
  | literal here _ => here
  | constant here _ => here
  | name here _ => here
  | list here items => lastLineOf here items
  | map here entries => lastLineOfEntries here entries
  | member target _ => lastLine line target
  | item target key => lastLine (lastLine line target) key
  | slice target first last step =>
    lastLine (lastLine (lastLine (lastLine line target) first) last) step
  | callFunction here _ args => lastLineOfArgs here args
  | callMethod target _ args => lastLineOfArgs (lastLine line target) args
  | callValue target args => lastLineOfArgs (lastLine line target) args
  | callBlock here _ => here
  | recurse here _ => here
  | unary _ _ operand => lastLine line operand
  | binary _ left right => lastLine (lastLine line left) right
  | chain first rest => lastLineOfChain (lastLine line first) rest
  | choose condition yes no => lastLine (lastLine (lastLine line condition) yes) no
  | filter target _ args => lastLineOfArgs (lastLine line target) args
  | test target _ args => lastLineOfArgs (lastLine line target) args
  | omitted _ => line

/-- The line of the operand reached last in a list of expressions. -/
def lastLineOf (line : Nat) : List Expr → Nat
  | [] => line
  | e :: rest => lastLineOf (lastLine line e) rest

/-- The line of the operand reached last in a map. -/
def lastLineOfEntries (line : Nat) : List (Expr × Expr) → Nat
  | [] => line
  | (k, e) :: rest => lastLineOfEntries (lastLine (lastLine line k) e) rest

/-- The line of the operand reached last in arguments. -/
def lastLineOfArgs (line : Nat) : List (Passing × Expr) → Nat
  | [] => line
  | (_, e) :: rest => lastLineOfArgs (lastLine line e) rest

/-- The line of the operand reached last in a chain of comparisons. -/
def lastLineOfChain (line : Nat) : List (Comparison × Expr) → Nat
  | [] => line
  | (_, e) :: rest => lastLineOfChain (lastLine line e) rest

end

end Expr

/-! ### Names in expressions -/

namespace Expr

mutual

/-- The variables that an expression asks for. -/
def names : Expr → List String
  | literal .. | constant .. | omitted _ | callBlock .. => []
  | name _ n => [n]
  | list _ items => namesIn items
  | map _ entries => namesInEntries entries
  | member target _ => names target
  | item target key => names target ++ names key
  | slice target first last step => names target ++ names first ++ names last ++ names step
  | callFunction _ f args => f :: namesInArgs args
  | callMethod target _ args => names target ++ namesInArgs args
  | callValue target args => names target ++ namesInArgs args
  | recurse _ items => "loop" :: names items
  | unary _ _ operand => names operand
  | binary _ left right => names left ++ names right
  | chain first rest => names first ++ namesInChain rest
  | choose condition yes no => names condition ++ names yes ++ names no
  | filter target _ args => names target ++ namesInArgs args
  | test target _ args => names target ++ namesInArgs args

/-- The variables that expressions ask for. -/
def namesIn : List Expr → List String
  | [] => []
  | e :: rest => names e ++ namesIn rest

/-- The variables that the entries of a map ask for. -/
def namesInEntries : List (Expr × Expr) → List String
  | [] => []
  | (k, e) :: rest => names k ++ names e ++ namesInEntries rest

/-- The variables that arguments ask for. -/
def namesInArgs : List (Passing × Expr) → List String
  | [] => []
  | (_, e) :: rest => names e ++ namesInArgs rest

/-- The variables that a chain of comparisons asks for. -/
def namesInChain : List (Comparison × Expr) → List String
  | [] => []
  | (_, e) :: rest => names e ++ namesInChain rest

end

end Expr

/-! ### Statements -/

/-- A filter that a text is put through. -/
structure FilterCall where
  line : Nat
  name : String
  args : List (Passing × Expr)
deriving Repr

/-- What can be set. -/
inductive Target where
  /-- A variable. -/
  | name (line : Nat) (name : String)
  /-- A part of the value of a variable, by the names on the way to it. -/
  | part (line : Nat) (name : String) (path : List String)
  /-- Several targets, for the items of a list. -/
  | group (line : Nat) (targets : List Target)
deriving Repr

mutual

/-- The variables that a target sets. -/
def Target.variables : Target → List String
  | .name _ base => [base]
  | .part .. => []
  | .group _ targets => Target.variablesIn targets

/-- The variables that targets set. -/
def Target.variablesIn : List Target → List String
  | [] => []
  | t :: rest => Target.variables t ++ Target.variablesIn rest

end

/-- The line a target starts on. -/
def Target.line : Target → Nat
  | .name here _ => here
  | .part here _ _ => here
  | .group here _ => here

/-- What a routine can be passed. -/
structure Parameter where
  line : Nat
  name : String
  /-- What it is if nothing is passed. -/
  default : Option Expr
deriving Repr

/-- A statement, or a piece of text between statements. -/
inductive Statement where
  /-- Plain text. -/
  | text (line : Nat) (content : String)
  /-- Prints a value. -/
  | print (line : Nat) (value : Expr)
  /-- Renders one of two bodies. -/
  | branch (line : Nat) (test : Expr) (yes no : List Statement)
  /-- Renders a body for every item that passes a test, or another body if there is none.
  `recursive` says that the loop may call itself. -/
  | each (line : Nat) (target : Target) (items : Expr) (test : Option Expr) (recursive : Bool)
      (body otherwise : List Statement)
  /-- Sets a variable. -/
  | assign (line : Nat) (target : Target) (value : Expr)
  /-- Sets a variable to the text of a body, put through filters. -/
  | capture (target : Target) (filters : List FilterCall) (body : List Statement)
  /-- Renders a body with some variables set. -/
  | scope (line : Nat) (settings : List (Target × Expr)) (body : List Statement)
  /-- Prints the text of a body, put through filters. -/
  | filter (filters : List FilterCall) (body : List Statement)
  /-- Renders a body in which values are escaped where they are printed, or not. -/
  | escaping (line : Nat) (mode : Expr) (body : List Statement)
  /-- Computes a value for nothing. -/
  | discard (line : Nat) (value : Expr)
  /-- Renders another template in place; `optional` says that it may be missing. -/
  | embed (line : Nat) (template : Expr) (optional : Bool)
  /-- Renders a block in place, which a template that extends this one may replace.  One that is
  `required` has to be replaced. -/
  | block (line : Nat) (name : String) (required : Bool) (body : List Statement)
  /-- Renders another template instead of this one, with the blocks of this one. -/
  | extend (line : Nat) (template : Expr)
  /-- Sets a variable to what another template sets. -/
  | bring (line : Nat) (template : Expr) (target : Target)
  /-- Sets variables to some of those that another template sets. -/
  | bringNames (line : Nat) (template : Expr) (names : List (String × Target))
  /-- Defines a routine: a body that can be rendered by calling it. -/
  | define (line : Nat) (name : String) (parameters : List Parameter) (body : List Statement)
  /-- Prints the result of a call that is passed a routine without a name. -/
  | callWith (line : Nat) (call : Expr) (parameters : List Parameter) (body : List Statement)
deriving Repr

namespace Statement

/-- The line that is reached last in the parameters of a routine. -/
def lastLineOfParameters (line : Nat) (parameters : List Parameter) : Nat :=
  parameters.foldl (fun line q => (q.default.map (·.lastLine line)).getD line) line

mutual

/-- The line that is reached last when a statement is gone through, starting on line `line`. -/
def lastLine (line : Nat) : Statement → Nat
  | text here _ => here
  | print here e => e.lastLine here
  | branch here test yes no => lastLineOf (lastLineOf (test.lastLine here) yes) no
  | each _ target _ _ _ body otherwise => lastLineOf (lastLineOf target.line body) otherwise
  | assign _ target _ => target.line
  | capture target _ _ => target.line
  | scope here settings body =>
    lastLineOf ((settings.getLast?.map fun (target, _) => target.line).getD here) body
  | filter filters body =>
    let line := lastLineOf line body
    (filters.getLast?.map fun f => Expr.lastLineOfArgs f.line f.args).getD line
  | escaping here mode body => lastLineOf (mode.lastLine here) body
  | discard here e => e.lastLine here
  | embed here e _ => e.lastLine here
  | block here .. => here
  | extend here e => e.lastLine here
  | bring _ _ target => target.line
  | bringNames here e names =>
    (names.head?.map fun (_, target) => target.line).getD (e.lastLine here)
  | define here _ parameters body => lastLineOf (lastLineOfParameters here parameters) body
  | callWith here _ parameters body => lastLineOf (lastLineOfParameters here parameters) body

/-- The line that is reached last in statements. -/
def lastLineOf (line : Nat) : List Statement → Nat
  | [] => line
  | st :: rest => lastLineOf (lastLine line st) rest

end

end Statement

/-! ### Variables from outside -/

/-- The variables that a body asks for while it is gone through. -/
structure Asked where
  /-- Those that come from outside. -/
  outside : List String
  /-- Those that are known by now. -/
  known : List String

namespace Asked

/-- Asks for variables.  What has been asked for once is known. -/
def ask (a : Asked) (names : List String) : Asked :=
  let new := names.filter (!a.known.contains ·)
  ⟨new ++ a.outside, new ++ a.known⟩

/-- Asks for the variables of an expression. -/
def askFor (a : Asked) (e : Expr) : Asked := a.ask e.names

/-- Makes variables known. -/
def know (a : Asked) (names : List String) : Asked := { a with known := names ++ a.known }

/-- Goes through a part whose variables are known there only. -/
def within (a : Asked) (part : Asked → Asked) : Asked := { part a with known := a.known }

/-- Goes through the parameters of a routine. -/
def parameters (a : Asked) (ps : List Parameter) : Asked :=
  (ps.filterMap (·.default)).foldl askFor (a.know (ps.map (·.name)))

end Asked

namespace Statement

mutual

/-- The variables that are asked for when a statement has been gone through.  A variable that is set
counts as known in the value it is set to.  What templates are embedded, and through which filters
texts are put, is not looked at. -/
def asked : Statement → Asked → Asked
  | text .., a => a
  | print _ e, a => a.askFor e
  | branch _ test yes no, a => ((a.askFor test).within (askedIn yes)).within (askedIn no)
  | each _ target items test _ body otherwise, a =>
    let a := a.within fun a =>
      let a := (a.askFor items).know target.variables
      askedIn body ((a.ask ((test.map Expr.names).getD [])).know ["loop"])
    a.within (askedIn otherwise)
  | assign _ target e, a => (a.know target.variables).askFor e
  | capture target _ body, a => a.within fun a => askedIn body (a.know target.variables)
  | scope _ settings body, a =>
    a.within fun a =>
      askedIn body (settings.foldl (fun a (target, e) => (a.know target.variables).askFor e) a)
  | filter _ body, a => a.within (askedIn body)
  | escaping _ _ body, a => a.within (askedIn body)
  | discard _ e, a => a.askFor e
  | embed .., a => a
  | block _ _ _ body, a => a.within fun a => askedIn body (a.know ["super"])
  | extend .., a => a
  | bring _ _ target, a => a.know target.variables
  | bringNames _ _ names, a => a.know (names.flatMap (·.2.variables))
  | define _ name parameters body, a =>
    (a.know [name]).within fun a => askedIn body ((a.know ["caller"]).parameters parameters)
  | callWith _ call parameters body, a =>
    (a.askFor call).within fun a => askedIn body ((a.know ["caller"]).parameters parameters)

/-- The variables that are asked for when statements have been gone through. -/
def askedIn : List Statement → Asked → Asked
  | [], a => a
  | st :: rest, a => askedIn rest (asked st a)

end

/-- The variables from outside that a routine asks for. -/
def outside (parameters : List Parameter) (body : List Statement) : List String :=
  (askedIn body (Asked.parameters ⟨[], []⟩ parameters)).outside

/-- A block of a template. -/
structure Block where
  name : String
  required : Bool
  body : List Statement

mutual

/-- The blocks in a statement, those inside others as well. -/
def blocks : Statement → List Block
  | branch _ _ yes no => blocksIn yes ++ blocksIn no
  | each _ _ _ _ _ body otherwise => blocksIn body ++ blocksIn otherwise
  | capture _ _ body => blocksIn body
  | scope _ _ body => blocksIn body
  | filter _ body => blocksIn body
  | escaping _ _ body => blocksIn body
  | block _ name required body => ⟨name, required, body⟩ :: blocksIn body
  | _ => []

/-- The blocks in statements. -/
def blocksIn : List Statement → List Block
  | [] => []
  | st :: rest => blocks st ++ blocksIn rest

end

end Statement

end PassForge.Template
