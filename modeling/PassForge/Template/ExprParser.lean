import PassForge.Template.Stream
import PassForge.Template.Tree

/-!
# Reading expressions

`parseExpr` reads an expression.  Operations bind, from loosest to tightest: a choice `… if … else
…`, `or`, `and`, `not`, comparisons, `+` and `-`, `~`, `*` and its like, `**`, and then what follows
an operand directly: first a dot, an index or a call, then a filter or a test.  A minus in front
of an operand binds tighter than all of them.

Operations of one rank are read from left to right, and comparisons in a row are one chain.  Strings
next to each other are one string, parentheses with a comma make a list, and a number behind a dot
is an index.  Nesting is limited by `maxDepth`.
-/

namespace PassForge.Template

/-- The deepest nesting of statements, expressions and operands. -/
def maxDepth : Nat := 150

/-- The rank of expressions without a choice.  Lower ranks bind tighter. -/
def topRank : Nat := 8

/-- The rank of `not`. -/
def notRank : Nat := 6

/-- The rank of comparisons. -/
def comparisonRank : Nat := 5

/-- The operation of a rank that a token stands for. -/
def binaryOp? (rank : Nat) (t : Token) : Option BinaryOp :=
  match rank, t with
  | 8, .word "or" => some .or
  | 7, .word "and" => some .and
  | 4, .sign .plus => some .add
  | 4, .sign .minus => some .subtract
  | 3, .sign .tilde => some .concat
  | 2, .sign .times => some .multiply
  | 2, .sign .slash => some .divide
  | 2, .sign .doubleSlash => some .wholeDivide
  | 2, .sign .percent => some .remainder
  | 1, .sign .power => some .power
  | _, _ => none

/-- The comparison that a token stands for. -/
def comparison? : Token → Option Comparison
  | .sign .equal => some .equal
  | .sign .notEqual => some .notEqual
  | .sign .less => some .less
  | .sign .lessEqual => some .lessEqual
  | .sign .greater => some .greater
  | .sign .greaterEqual => some .greaterEqual
  | .word "in" => some .within
  | _ => none

/-- Reads the sign or the words of a comparison, if one comes next. -/
def Stream.comparison (s : Stream) : Except ParseFault (Option (Parsed Comparison s)) := do
  match ← s.look with
  | none => return none
  | some x =>
    match comparison? x.value with
    | some c => return some (x.map fun _ => c)
    | none =>
      if x.value = .word "not" then
        let y ← x.rest.expect (.word "in") "in"
        return some ((y.map fun _ => .notWithin).after x.shorter)
      else return none

/-- The constant or variable that a word stands for. -/
def ofWord (line : Nat) (name : String) : Expr :=
  match name with
  | "true" | "True" => .literal line (.bool true)
  | "false" | "False" => .literal line (.bool false)
  | "none" | "None" => .literal line .none
  | _ => .name line name

/-- Reads what stands behind a dot: the name of a part of `operand`, or the number of an item. -/
def Stream.part (operand : Expr) (s : Stream) : Except ParseFault (Parsed Expr s) := do
  let x ← s.next "identifier or integer"
  match x.value with
  | .word name => return x.map fun _ => .member operand name
  | .number n => return x.map fun _ => .item operand (.literal x.rest.line (.ofNumeral n))
  | t => .error (x.rest.unexpected t "identifier or integer")

/-- Reads the names behind a name that are divided from it by dots. -/
def parsePath (s : Stream) : Except ParseFault (Taken (List String) s) := do
  match ← s.acceptSign .dot with
  | none => return .here []
  | some ⟨_, r₁, h₁⟩ =>
    let ⟨name, r₂, h₂⟩ ← r₁.word
    let more ← parsePath r₂
    return (((more.map (name :: ·)).after h₂).after h₁).taken
termination_by s.size
decreasing_by all_goals decreasing_with omega

/-- Reads the name of a filter or test, which may have dots in it. -/
def parseDotted (s : Stream) : Except ParseFault (Parsed String s) := do
  let ⟨name, r, h⟩ ← s.word
  return ((← parsePath r).map fun path => ".".intercalate (name :: path)).after h

/-- Whether a token can start the argument of a test that stands without parentheses. -/
def startsArgument : Token → Bool
  | .word name => !(["and", "or", "else", "is"].contains name)
  | .string .. | .number _ | .fraction .. => true
  | .sign s => [Sign.plus, .minus, .bracketOpen, .braceOpen].contains s
  | _ => false

/-- The most arguments of a call. -/
def maxArguments : Nat := 2000

mutual

/-- Reads an expression. -/
def parseExpr (depth : Nat) (s : Stream) : Except ParseFault (Parsed Expr s) :=
  if maxDepth ≤ depth then .error (s.fail .tooDeep) else parseConditional (depth + 1) s
termination_by (s.size, 2 * topRank + 5)
decreasing_by all_goals decreasing_with omega

/-- Reads an expression and the choices it stands in. -/
def parseConditional (depth : Nat) (s : Stream) : Except ParseFault (Parsed Expr s) := do
  let ⟨e, r, h⟩ ← parseRank depth topRank s
  return (← parseChoices depth e r).after h
termination_by (s.size, 2 * topRank + 4)
decreasing_by all_goals decreasing_with omega

/-- Reads the choices that an expression is the first value of. -/
def parseChoices (depth : Nat) (e : Expr) (s : Stream) : Except ParseFault (Taken Expr s) := do
  match ← s.acceptWord "if" with
  | none => return .here e
  | some ⟨_, r₁, h₁⟩ =>
    let ⟨condition, r₂, h₂⟩ ← parseRank depth topRank r₁
    match ← r₂.acceptWord "else" with
    | some ⟨_, r₃, h₃⟩ =>
      let ⟨no, r₄, h₄⟩ ← parseConditional depth r₃
      let more ← parseChoices depth (.choose condition e no) r₄
      return ((((more.after h₄).after h₃).after h₂).after h₁).taken
    | none =>
      let more ← parseChoices depth (.choose condition e (.omitted .absent)) r₂
      return ((more.after h₂).after h₁).taken
termination_by (s.size, 0)
decreasing_by all_goals decreasing_with omega

/-- Reads an expression of a rank. -/
def parseRank (depth rank : Nat) (s : Stream) : Except ParseFault (Parsed Expr s) :=
  match rank with
  | 0 => do
    let ⟨operand, r₁, h₁⟩ ← parseSigned depth s
    let ⟨part, r₂, h₂⟩ ← parsePostfix depth s.nextLine operand r₁
    return ((← parseFilters depth part r₂).behind h₂).after h₁
  | tighter + 1 => do
    match ← if tighter + 1 = notRank then s.acceptWord "not" else pure none with
    | some ⟨_, r, h⟩ =>
      let x ← parseRank depth (tighter + 1) r
      return (x.map (.ofUnary s.nextLine .not)).after h
    | none =>
      let ⟨left, r, h⟩ ← parseRank depth tighter s
      if tighter + 1 = comparisonRank then
        let x ← parseComparisons depth tighter r
        return (x.map (.ofComparisons s.line left)).after h
      else return (← parseChain depth tighter s.nextLine left r).after h
termination_by (s.size, 2 * rank + 3)
decreasing_by all_goals decreasing_with omega

/-- Reads the operations of one rank that follow their first operand, which starts on line
`line`. -/
def parseChain (depth tighter line : Nat) (left : Expr) (s : Stream) :
    Except ParseFault (Taken Expr s) := do
  match ← s.look with
  | none => return .here left
  | some ⟨t, r₁, h₁⟩ =>
    match binaryOp? (tighter + 1) t with
    | none => return .here left
    | some op =>
      let ⟨right, r₂, h₂⟩ ← parseRank depth tighter r₁
      let more ← parseChain depth tighter line (.ofBinary line op left right) r₂
      return ((more.after h₂).after h₁).taken
termination_by (s.size, 0)
decreasing_by all_goals decreasing_with omega

/-- Reads the comparisons that follow their first operand. -/
def parseComparisons (depth tighter : Nat) (s : Stream) :
    Except ParseFault (Taken (List (Comparison × Expr)) s) := do
  match ← s.comparison with
  | none => return .here []
  | some ⟨c, r₁, h₁⟩ =>
    let ⟨right, r₂, h₂⟩ ← parseRank depth tighter r₁
    let more ← parseComparisons depth tighter r₂
    return (((more.map ((c, right) :: ·)).after h₂).after h₁).taken
termination_by (s.size, 0)
decreasing_by all_goals decreasing_with omega

/-- Reads an operand with its sign. -/
def parseSigned (depth : Nat) (s : Stream) : Except ParseFault (Parsed Expr s) := do
  match ← s.acceptSign .minus with
  | some ⟨_, r, h⟩ =>
    let x ← parseSigned depth r
    return (x.map (.ofUnary s.nextLine .negate)).after h
  | none => parseOperand depth s
termination_by (s.size, 2)
decreasing_by all_goals decreasing_with omega

/-- Reads an operand without what follows it. -/
def parseOperand (depth : Nat) (s : Stream) : Except ParseFault (Parsed Expr s) := do
  if maxDepth ≤ depth then .error (s.fail .tooDeep)
  let ⟨t, r, h⟩ ← s.next "expression"
  match t with
  | .word name => return ⟨ofWord r.line name, r, h⟩
  | .string value escaped =>
    return ((r.strings escaped).map fun more => .literal r.line (.string (value ++ more))).after h
  | .number value => return ⟨.literal r.line (.ofNumeral value), r, h⟩
  | .fraction significand exponent =>
    return ⟨.literal r.line (.ofFraction significand exponent), r, h⟩
  | .sign .bracketOpen =>
    let items ← parseItems (depth + 1) .bracketClose true r
    return (items.map (.ofList r.line)).after h
  | .sign .braceOpen =>
    let entries ← parseEntries (depth + 1) true r
    return (entries.map (.ofMap r.line)).after h
  | .sign .parenOpen =>
    match ← r.acceptSign .parenClose with
    | some close => return (close.map fun _ => .ofList r.line []).after h
    | none =>
      let ⟨e, r₁, h₁⟩ ← parseExpr (depth + 1) r
      if (← r₁.peek) = some (.sign .comma) then
        let items ← parseItems (depth + 1) .parenClose false r₁
        return ((items.map fun more => .ofList r.line (e :: more)).after h₁).after h
      else
        let close ← r₁.expectSign .parenClose
        return ((close.map fun _ => e).after h₁).after h
  | t => .error (r.fail (.noOperand t.description))
termination_by (s.size, 1)
decreasing_by all_goals decreasing_with omega

/-- Reads the parts and calls that follow an operand.  A call starts on line `line`: that of the
operand, or of the part or call before it. -/
def parsePostfix (depth line : Nat) (operand : Expr) (s : Stream) :
    Except ParseFault (Taken Expr s) := do
  match ← s.look with
  | some ⟨.sign .dot, r₁, h₁⟩ =>
    let ⟨part, r₂, h₂⟩ ← r₁.part operand
    return (((← parsePostfix depth s.nextLine part r₂).after h₂).after h₁).taken
  | some ⟨.sign .bracketOpen, r₁, h₁⟩ =>
    let ⟨part, r₂, h₂⟩ ← parseKey depth operand r₁
    return (((← parsePostfix depth s.nextLine part r₂).after h₂).after h₁).taken
  | some ⟨.sign .parenOpen, r₁, h₁⟩ =>
    let ⟨args, r₂, h₂⟩ ← parseArguments depth 0 false r₁
    let call := operand.applied line args
    return (((← parsePostfix depth s.nextLine call r₂).after h₂).after h₁).taken
  | _ => return .here operand
termination_by (s.size, 0)
decreasing_by all_goals decreasing_with omega

/-- Reads the key or the bounds of a part of `operand` up to the closing bracket. -/
def parseKey (depth : Nat) (operand : Expr) (s : Stream) :
    Except ParseFault (Parsed Expr s) := do
  let ⟨first, r₁, h₁⟩ ← parseBound depth [.colon] s
  match ← r₁.acceptSign .colon with
  | none =>
    let close ← r₁.expectSign .bracketClose
    return (close.map fun _ => .item operand first).behind h₁
  | some ⟨_, r₂, h₂⟩ =>
    let ⟨last, r₃, h₃⟩ ← parseBound depth [.bracketClose, .colon] r₂
    match ← r₃.acceptSign .colon with
    | none =>
      let close ← r₃.expectSign .bracketClose
      let part := close.map fun _ => .slice operand first last (.omitted .none)
      return ((part.behind h₃).after h₂).behind h₁
    | some ⟨_, r₄, h₄⟩ =>
      let ⟨step, r₅, h₅⟩ ← parseBound depth [.bracketClose] r₄
      let close ← r₅.expectSign .bracketClose
      let part := close.map fun _ => .slice operand first last step
      return ((((part.behind h₅).after h₄).behind h₃).after h₂).behind h₁
termination_by (s.size, 2 * topRank + 7)
decreasing_by all_goals decreasing_with omega

/-- Reads an expression, unless one of some signs comes next: then it has been left out. -/
def parseBound (depth : Nat) (ends : List Sign) (s : Stream) :
    Except ParseFault (Taken Expr s) := do
  let next ← s.peek
  if ends.any fun sign => next == some (.sign sign) then return .here (.omitted .none)
  else return (← parseExpr depth s).taken
termination_by (s.size, 2 * topRank + 6)
decreasing_by all_goals decreasing_with omega

/-- Reads the filters and tests that follow an operand. -/
def parseFilters (depth : Nat) (operand : Expr) (s : Stream) :
    Except ParseFault (Taken Expr s) := do
  match ← s.look with
  | some ⟨.sign .bar, r₁, h₁⟩ =>
    let ⟨name, r₂, h₂⟩ ← parseDotted r₁
    let ⟨args, r₃, h₃⟩ ← parseCallArguments depth r₂
    let more ← parseFilters depth (.filter operand name args) r₃
    return (((more.behind h₃).after h₂).after h₁).taken
  | some ⟨.word "is", r₁, h₁⟩ =>
    let ⟨negated, r₂, h₂⟩ ← r₁.skip (.word "not")
    let ⟨name, r₃, h₃⟩ ← parseDotted r₂
    let ⟨args, r₄, h₄⟩ ← parseTestArguments depth r₃
    let test : Expr := .test operand name args
    let more ← parseFilters depth (if negated then .unary r₁.line .not test else test) r₄
    return ((((more.behind h₄).after h₃).behind h₂).after h₁).taken
  | _ => return .here operand
termination_by (s.size, 0)
decreasing_by all_goals decreasing_with omega

/-- Reads arguments in parentheses, if they come next. -/
def parseCallArguments (depth : Nat) (s : Stream) :
    Except ParseFault (Taken (List (Passing × Expr)) s) := do
  match ← s.acceptSign .parenOpen with
  | some ⟨_, r, h⟩ => return ((← parseArguments depth 0 false r).after h).taken
  | none => return .here []
termination_by (s.size, 0)
decreasing_by all_goals decreasing_with omega

/-- Reads the arguments of a test: in parentheses, or one without. -/
def parseTestArguments (depth : Nat) (s : Stream) :
    Except ParseFault (Taken (List (Passing × Expr)) s) := do
  if (← s.peek).any startsArgument then
    let ⟨e, r, h⟩ ← parseSigned depth s
    let part ← parsePostfix depth s.nextLine e r
    return ((part.map fun e => [(.inOrder, e)]).after h).taken
  else parseCallArguments depth s
termination_by (s.size, 3)
decreasing_by all_goals decreasing_with omega

/-- Reads arguments divided by commas, up to the closing parenthesis.  A comma may stand before it;
`count` arguments have been read already, and `named` says whether one of them had a name. -/
def parseArguments (depth count : Nat) (named : Bool) (s : Stream) :
    Except ParseFault (Parsed (List (Passing × Expr)) s) := do
  match ← s.acceptSign .parenClose with
  | some close => return close.map fun _ => []
  | none =>
    if count = 0 then
      let ⟨arg, r, h⟩ ← parseArgument depth named s
      let more ← parseArguments depth (count + 1) arg.1.isNamed r
      return (more.map (arg :: ·)).after h
    else
      let ⟨_, r₁, h₁⟩ ← s.expectSign .comma
      match ← r₁.acceptSign .parenClose with
      | some close => return (close.map fun _ => []).after h₁
      | none =>
        let ⟨arg, r₂, h₂⟩ ← parseArgument depth named r₁
        if maxArguments ≤ count then .error (r₂.fail .manyArguments)
        let more ← parseArguments depth (count + 1) (named || arg.1.isNamed) r₂
        return ((more.map (arg :: ·)).after h₂).after h₁
termination_by (s.size, 2 * topRank + 7)
decreasing_by all_goals decreasing_with omega

/-- Reads an argument.  `named` says whether one before it had a name. -/
def parseArgument (depth : Nat) (named : Bool) (s : Stream) :
    Except ParseFault (Parsed (Passing × Expr) s) := do
  match ← s.acceptSign .power, ← s.acceptSign .times with
  | some ⟨_, r, h⟩, _ => return ((← parseExpr depth r).map ((.spreadNamed, ·))).after h
  | none, some ⟨_, r, h⟩ => return ((← parseExpr depth r).map ((.spread, ·))).after h
  | none, none =>
    let ⟨e, r₁, h₁⟩ ← parseExpr depth s
    match e, ← r₁.acceptSign .assign with
    | .name _ name, some ⟨_, r₂, h₂⟩ =>
      let value ← parseExpr depth r₂
      return ((value.map ((.named name, ·))).after h₂).after h₁
    | e, _ =>
      if named then .error (r₁.fail .positionalArgument) else return ⟨(.inOrder, e), r₁, h₁⟩
termination_by (s.size, 2 * topRank + 6)
decreasing_by all_goals decreasing_with omega

/-- Reads expressions divided by commas, up to a closing bracket.  A comma may stand before the
bracket; `first` says that no expression has been read yet. -/
def parseItems (depth : Nat) (close : Sign) (first : Bool) (s : Stream) :
    Except ParseFault (Parsed (List Expr) s) := do
  match ← s.acceptSign close with
  | some last => return last.map fun _ => []
  | none =>
    if first then
      let ⟨e, r, h⟩ ← parseExpr depth s
      return ((← parseItems depth close false r).map (e :: ·)).after h
    else
      let ⟨_, r₁, h₁⟩ ← s.expectSign .comma
      match ← r₁.acceptSign close with
      | some last => return (last.map fun _ => []).after h₁
      | none =>
        let ⟨e, r₂, h₂⟩ ← parseExpr depth r₁
        return (((← parseItems depth close false r₂).map (e :: ·)).after h₂).after h₁
termination_by (s.size, 2 * topRank + 6)
decreasing_by all_goals decreasing_with omega

/-- Reads the entries of a map, divided by commas, up to the closing brace.  A comma may stand
before the brace; `first` says that no entry has been read yet. -/
def parseEntries (depth : Nat) (first : Bool) (s : Stream) :
    Except ParseFault (Parsed (List (Expr × Expr)) s) := do
  match ← s.acceptSign .braceClose with
  | some close => return close.map fun _ => []
  | none =>
    if first then
      let ⟨entry, r, h⟩ ← parseEntry depth s
      return ((← parseEntries depth false r).map (entry :: ·)).after h
    else
      let ⟨_, r₁, h₁⟩ ← s.expectSign .comma
      match ← r₁.acceptSign .braceClose with
      | some close => return (close.map fun _ => []).after h₁
      | none =>
        let ⟨entry, r₂, h₂⟩ ← parseEntry depth r₁
        return (((← parseEntries depth false r₂).map (entry :: ·)).after h₂).after h₁
termination_by (s.size, 2 * topRank + 7)
decreasing_by all_goals decreasing_with omega

/-- Reads a key and its value. -/
def parseEntry (depth : Nat) (s : Stream) : Except ParseFault (Parsed (Expr × Expr) s) := do
  let ⟨key, r₁, h₁⟩ ← parseExpr depth s
  let ⟨_, r₂, h₂⟩ ← r₁.expectSign .colon
  return (((← parseExpr depth r₂).map ((key, ·))).after h₂).after h₁
termination_by (s.size, 2 * topRank + 6)
decreasing_by all_goals decreasing_with omega

end

end PassForge.Template
