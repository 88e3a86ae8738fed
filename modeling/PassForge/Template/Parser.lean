import PassForge.Template.ExprParser
import PassForge.Text.Blank

/-!
# Reading templates

`parse` reads the tokens of a template into statements.  The body of a statement goes on to the
statement that ends it; a body without an end is found out when the end of the first statement is
missing.

No two blocks of a template have one name, and none stands in a routine.
-/

namespace PassForge.Template

/-! ### Targets -/

/-- Names that cannot be set. -/
def reservedNames : List String :=
  ["true", "True", "false", "False", "none", "None", "loop", "self"]

/-- Reads a name that can be set. -/
def parseSetName (s : Stream) : Except ParseFault (Parsed String s) := do
  let ⟨name, r, h⟩ ← s.word
  if name ∈ reservedNames then .error (r.fail (.reserved name))
  return ⟨name, r, h⟩

/-- Reads a variable that can be set.  If `dotted`, it may be a part of it. -/
def parseVariable (dotted : Bool) (s : Stream) : Except ParseFault (Parsed Target s) := do
  let ⟨name, r, h⟩ ← parseSetName s
  let ofPath (path : List String) : Target :=
    if path.isEmpty then .name r.line name else .part r.line name path
  if dotted then return ((← parsePath r).map ofPath).after h else return ⟨ofPath [], r, h⟩

/-- Whether targets end here. -/
def Stream.endsTargets (s : Stream) : Except ParseFault Bool := do
  match ← s.peek with
  | some (.sign .parenClose) | some .printEnd | some .statementEnd | some (.word "in") =>
    return true
  | _ => return false

/-- One target stands for itself, unless there is a comma. -/
def Target.ofList (line : Nat) : List Target × Bool → Target
  | ([target], false) => target
  | (targets, _) => .group line targets

mutual

/-- Reads one target, or several divided by commas. -/
def parseTargets (dotted : Bool) (s : Stream) : Except ParseFault (Taken Target s) := do
  return (← parseTargetList dotted s).map (Target.ofList s.nextLine)
termination_by (s.size, 2)
decreasing_by all_goals decreasing_with omega

/-- Reads targets divided by commas, and says whether there is a comma. -/
def parseTargetList (dotted : Bool) (s : Stream) :
    Except ParseFault (Taken (List Target × Bool) s) := do
  if ← s.endsTargets then return .here ([], false)
  else
    let ⟨target, r₁, h₁⟩ ← parseTarget dotted s
    match ← r₁.acceptSign .comma with
    | none => return (Parsed.mk ([target], false) r₁ h₁).taken
    | some ⟨_, r₂, h₂⟩ =>
      let more ← parseTargetList dotted r₂
      return (((more.map fun (targets, _) => (target :: targets, true)).after h₂).after h₁).taken
termination_by (s.size, 1)
decreasing_by all_goals decreasing_with omega

/-- Reads one target, or several in parentheses. -/
def parseTarget (dotted : Bool) (s : Stream) : Except ParseFault (Parsed Target s) := do
  match ← s.acceptSign .parenOpen with
  | none => parseVariable dotted s
  | some ⟨_, r₁, h₁⟩ =>
    let ⟨target, r₂, h₂⟩ ← parseTargets dotted r₁
    let close ← r₂.expectSign .parenClose
    return ((close.map fun _ => target).behind h₂).after h₁
termination_by (s.size, 0)
decreasing_by all_goals decreasing_with omega

end

/-! ### Heads of statements -/

/-- Reads the expressions behind an expression that are divided from it by commas, up to the end of
a statement.  A comma may stand before the end. -/
def parseMore (depth : Nat) (s : Stream) : Except ParseFault (Taken (List Expr) s) := do
  match ← s.acceptSign .comma with
  | none => return .here []
  | some ⟨_, r₁, h₁⟩ =>
    if (← r₁.peek) = some .statementEnd then return (Parsed.mk [] r₁ h₁).taken
    else
      let ⟨e, r₂, h₂⟩ ← parseExpr depth r₁
      let more ← parseMore depth r₂
      return (((more.map (e :: ·)).after h₂).after h₁).taken
termination_by s.size
decreasing_by all_goals decreasing_with omega

/-- Reads what a target is set to: an expression, or several divided by commas, which make a
list. -/
def parseAssigned (depth : Nat) (s : Stream) : Except ParseFault (Parsed Expr s) := do
  let ⟨e, r, h⟩ ← parseExpr depth s
  if (← r.peek) = some (.sign .comma) then
    return ((← parseMore depth r).map fun more => .ofList s.nextLine (e :: more)).after h
  else return ⟨e, r, h⟩

/-- Reads `with context` or `without context`, which say nothing, and says whether they came
next. -/
def parseContext (s : Stream) : Except ParseFault (Taken Bool s) := do
  match (← s.acceptWord "with") <|> (← s.acceptWord "without") with
  | none => return .here false
  | some ⟨_, r, h⟩ =>
    return (((← r.expect (.word "context") "context").map fun _ => true).after h).taken

/-- Reads `ignore missing`, if it comes next.  A word on the context may stand before or behind. -/
def parseOptional (s : Stream) : Except ParseFault (Taken Bool s) := do
  let ⟨marked, r₁, h₁⟩ ← parseContext s
  match ← r₁.acceptWord "ignore" with
  | none => return ⟨false, r₁, h₁⟩
  | some ⟨_, r₂, h₂⟩ =>
    let ⟨_, r₃, h₃⟩ ← r₂.expect (.word "missing") "missing keyword"
    if marked then return ((Parsed.mk true r₃ h₃).after h₂).taken.behind h₁
    else
      let last ← parseContext r₃
      return (((last.map fun _ => true).after h₃).after h₂).taken.behind h₁

/-- Reads a filter. -/
def parseFilter (depth : Nat) (s : Stream) : Except ParseFault (Parsed FilterCall s) := do
  let ⟨name, r, h⟩ ← parseDotted s
  return ((← parseCallArguments depth r).map fun args => ⟨r.line, name, args⟩).after h

/-- Reads filters divided by bars, up to the end of a statement.  `first` says that none has been
read yet. -/
def parseFilterChain (depth : Nat) (first : Bool) (s : Stream) :
    Except ParseFault (Taken (List FilterCall) s) := do
  if (← s.peek) = some .statementEnd then return .here []
  else if first then
    let ⟨filter, r, h⟩ ← parseFilter depth s
    return (((← parseFilterChain depth false r).map (filter :: ·)).after h).taken
  else
    let ⟨_, r₁, h₁⟩ ← s.expectSign .bar
    let ⟨filter, r₂, h₂⟩ ← parseFilter depth r₁
    let more ← parseFilterChain depth false r₂
    return (((more.map (filter :: ·)).after h₂).after h₁).taken
termination_by s.size
decreasing_by all_goals decreasing_with omega

/-- Reads at least one filter, and the end of the statement behind it. -/
def parseFilterHead (depth : Nat) (s : Stream) :
    Except ParseFault (Parsed (List FilterCall) s) := do
  let ⟨filters, r, h⟩ ← parseFilterChain depth true s
  if filters.isEmpty then .error (r.fail .noFilter)
  return ((← r.expectEnd).map fun _ => filters).behind h

/-- Reads a setting of a target. -/
def parseSetting (depth : Nat) (s : Stream) : Except ParseFault (Parsed (Target × Expr) s) := do
  let ⟨target, r₁, h₁⟩ ← parseTarget false s
  let ⟨_, r₂, h₂⟩ ← r₁.expect (.sign .assign) "assignment operator"
  return (((← parseExpr depth r₂).map ((target, ·))).after h₂).after h₁

/-- Reads settings of targets divided by commas, up to the end of a statement.  `first` says that
none has been read yet. -/
def parseSettings (depth : Nat) (first : Bool) (s : Stream) :
    Except ParseFault (Taken (List (Target × Expr)) s) := do
  if (← s.peek) = some .statementEnd then return .here []
  else if first then
    let ⟨setting, r, h⟩ ← parseSetting depth s
    return (((← parseSettings depth false r).map (setting :: ·)).after h).taken
  else
    let ⟨_, r₁, h₁⟩ ← s.expect (.sign .comma) "comma"
    let ⟨setting, r₂, h₂⟩ ← parseSetting depth r₁
    let more ← parseSettings depth false r₂
    return (((more.map (setting :: ·)).after h₂).after h₁).taken
termination_by s.size
decreasing_by all_goals decreasing_with omega

/-- The head of a loop. -/
structure LoopHead where
  target : Target
  items : Expr
  test : Option Expr
  recursive : Bool

/-- Reads the test of a loop, if it has one. -/
def parseLoopTest (depth : Nat) (s : Stream) : Except ParseFault (Taken (Option Expr) s) := do
  match ← s.acceptWord "if" with
  | none => return .here none
  | some ⟨_, r, h⟩ => return (((← parseExpr depth r).map some).after h).taken

/-- Reads the head of a loop and the end behind it. -/
def parseLoopHead (depth : Nat) (s : Stream) : Except ParseFault (Parsed LoopHead s) := do
  let ⟨target, r₁, h₁⟩ ← parseTargets false s
  let ⟨_, r₂, h₂⟩ ← r₁.expect (.word "in") "in"
  let ⟨items, r₃, h₃⟩ ← parseRank depth topRank r₂
  let ⟨test, r₄, h₄⟩ ← parseLoopTest depth r₃
  let ⟨recursive, r₅, h₅⟩ ← r₄.skip (.word "recursive")
  let head := (← r₅.expectEnd).map fun _ => ⟨target, items, test, recursive⟩
  return ((((head.behind h₅).behind h₄).after h₃).after h₂).behind h₁

/-- Reads the words behind the name of a block, and says whether it is required. -/
def parseBlockMarks (s : Stream) : Except ParseFault (Taken Bool s) := do
  let ⟨_, r, h⟩ ← s.skip (.word "scoped")
  return (← r.skip (.word "required")).behind h

/-- Reads the name of a block behind its end, if there is one. -/
def parseEndName (name : String) (s : Stream) : Except ParseFault (Taken Unit s) := do
  match ← s.look with
  | some ⟨.word found, r, h⟩ =>
    if found = name then return (Parsed.mk () r h).taken
    else .error (s.fail (.blockName found name))
  | _ => return .here ()

/-! ### Routines -/

/-- Reads a parameter.  If `valued` it must have a default. -/
def parseParameter (depth : Nat) (valued : Bool) (s : Stream) :
    Except ParseFault (Parsed Parameter s) := do
  let ⟨name, r₁, h₁⟩ ← parseSetName s
  match ← r₁.acceptSign .assign with
  | some ⟨_, r₂, h₂⟩ =>
    return (((← parseExpr depth r₂).map fun e => ⟨r₁.line, name, some e⟩).after h₂).after h₁
  | none =>
    if valued then return ((← r₁.expectSign .assign).map fun _ => ⟨r₁.line, name, none⟩).after h₁
    else return ⟨⟨r₁.line, name, none⟩, r₁, h₁⟩

/-- Reads parameters divided by commas, up to the closing parenthesis.  One behind a parameter with
a default has one as well; `valued` says that there is such a parameter, and `first` that none has
been read yet. -/
def parseParameters (depth : Nat) (first valued : Bool) (s : Stream) :
    Except ParseFault (Parsed (List Parameter) s) := do
  match ← s.acceptSign .parenClose with
  | some close => return close.map fun _ => []
  | none =>
    if first then
      let ⟨p, r, h⟩ ← parseParameter depth valued s
      return ((← parseParameters depth false p.default.isSome r).map (p :: ·)).after h
    else
      let ⟨_, r₁, h₁⟩ ← s.expectSign .comma
      match ← r₁.acceptSign .parenClose with
      | some close => return (close.map fun _ => []).after h₁
      | none =>
        let ⟨p, r₂, h₂⟩ ← parseParameter depth valued r₁
        let more ← parseParameters depth false p.default.isSome r₂
        return ((more.map (p :: ·)).after h₂).after h₁
termination_by s.size
decreasing_by all_goals decreasing_with omega

/-- Reads an expression that has to be a call. -/
def parseCall (depth : Nat) (s : Stream) : Except ParseFault (Parsed Expr s) := do
  let x ← parseExpr depth s
  if x.value.description = "call" then return x
  else .error (x.rest.fail (.noCall x.value.description))

/-- The head of a statement whose body goes on to a keyword of its own. -/
inductive Head where
  | scope (settings : List (Target × Expr))
  | filter (filters : List FilterCall)
  | escaping (mode : Expr)
  | define (name : String) (parameters : List Parameter)
  | callWith (parameters : List Parameter) (call : Expr)

namespace Head

/-- The keyword that the body goes on to. -/
def stop : Head → String
  | scope _ => "endwith"
  | filter _ => "endfilter"
  | escaping _ => "endautoescape"
  | define .. => "endmacro"
  | callWith .. => "endcall"

/-- Whether the body is that of a routine. -/
def startsRoutine : Head → Bool
  | define .. | callWith .. => true
  | _ => false

/-- The statement with a body. -/
def statement (line : Nat) (body : List Statement) : Head → Statement
  | scope settings => .scope line settings body
  | filter filters => .filter filters body
  | escaping mode => .escaping line mode body
  | define name parameters => .define line name parameters body
  | callWith parameters call => .callWith line call parameters body

end Head

/-- Reads what stands behind `call`. -/
def parseCallHead (depth : Nat) (s : Stream) : Except ParseFault (Parsed Head s) := do
  match ← s.acceptSign .parenOpen with
  | some ⟨_, r₁, h₁⟩ =>
    let ⟨parameters, r₂, h₂⟩ ← parseParameters depth true false r₁
    return (((← parseCall depth r₂).map (.callWith parameters)).after h₂).after h₁
  | none => return (← parseCall depth s).map (.callWith [])

/-- Reads the head of a statement with a body and the end behind it, if the keyword is that of such
a statement. -/
def parseHead (depth : Nat) (keyword : String) (s : Stream) :
    Except ParseFault (Option (Parsed Head s)) := do
  match keyword with
  | "with" =>
    let ⟨settings, r, h⟩ ← parseSettings depth true s
    return some (((← r.expectEnd).map fun _ => .scope settings).behind h)
  | "filter" => return some ((← parseFilterHead depth s).map .filter)
  | "autoescape" =>
    let ⟨mode, r, h⟩ ← parseExpr depth s
    return some (((← r.expectEnd).map fun _ => .escaping mode).after h)
  | "macro" =>
    let ⟨name, r₁, h₁⟩ ← s.word
    let ⟨_, r₂, h₂⟩ ← r₁.expectSign .parenOpen
    let ⟨parameters, r₃, h₃⟩ ← parseParameters depth true false r₂
    let head := (← r₃.expectEnd).map fun _ => .define name parameters
    return some (((head.after h₃).after h₂).after h₁)
  | "call" =>
    let ⟨head, r, h⟩ ← parseCallHead depth s
    return some (((← r.expectEnd).map fun _ => head).after h)
  | _ => return none

/-! ### Statements without a body -/

/-- What an expression stands for that is set. -/
def Expr.target (line : Nat) : Expr → Target
  | .name here n => .name here n
  | .member (.name here n) part => .part here n [part]
  | _ => .group line []

/-- Reads a name, and another name for it if it has one. -/
def parseBrought (s : Stream) : Except ParseFault (Parsed (String × Target) s) := do
  let ⟨name, r₁, h₁⟩ ← parseSetName s
  match ← r₁.acceptWord "as" with
  | none => return ⟨(name, .name r₁.line name), r₁, h₁⟩
  | some ⟨_, r₂, h₂⟩ =>
    return (((← parseVariable false r₂).map fun target => (name, target)).after h₂).after h₁

/-- Reads names divided by commas, up to the end of a statement or a word on the context.  `first`
says that none has been read yet. -/
def parseBroughtNames (first : Bool) (s : Stream) :
    Except ParseFault (Taken (List (String × Target)) s) := do
  if (← s.peek) = some .statementEnd then return .here []
  else if first then
    let ⟨name, r, h⟩ ← parseBrought s
    return (((← parseBroughtNames false r).map (name :: ·)).after h).taken
  else
    let ⟨marked, r, h⟩ ← parseContext s
    if marked then return ⟨[], r, h⟩
    let ⟨_, r₁, h₁⟩ ← s.expectSign .comma
    if (← r₁.peek) = some .statementEnd then return (Parsed.mk [] r₁ h₁).taken
    let ⟨name, r₂, h₂⟩ ← parseBrought r₁
    return ((((← parseBroughtNames false r₂).map (name :: ·)).after h₂).after h₁).taken
termination_by s.size
decreasing_by all_goals decreasing_with omega

/-- Reads the rest of a statement without a body, if the keyword is that of such a statement. -/
def parseSimple (depth line : Nat) (keyword : String) (s : Stream) :
    Except ParseFault (Option (Parsed Statement s)) := do
  match keyword with
  | "do" => return some ((← parseCall depth s).map (.discard line))
  | "include" =>
    let ⟨e, r, h⟩ ← parseExpr depth s
    return some (((← parseOptional r).map (.embed line e)).after h)
  | "extends" => return some ((← parseExpr depth s).map (.extend line))
  | "import" =>
    let ⟨e, r₁, h₁⟩ ← parseExpr depth s
    let ⟨_, r₂, h₂⟩ ← r₁.expect (.word "as") "as"
    let ⟨target, r₃, h₃⟩ ← parseExpr depth r₂
    let st := (← parseContext r₃).map fun _ => .bring line e (target.target line)
    return some (((st.after h₃).after h₂).after h₁)
  | "from" =>
    let ⟨e, r₁, h₁⟩ ← parseExpr depth s
    let ⟨_, r₂, h₂⟩ ← r₁.expect (.word "import") "import"
    return some ((((← parseBroughtNames true r₂).map (.bringNames line e)).after h₂).after h₁)
  | _ => return none

/-! ### Statements -/

/-- Whether a statement is blank text. -/
def Statement.isBlank : Statement → Bool
  | .text _ content => content.toList.all Text.isBlank
  | _ => false

mutual

/-- Reads statements and text up to the end, or up to a statement whose keyword is in `stops`; its
start counts as read then, its keyword does not.  `inside` says whether this is in a routine. -/
def parseBody (depth : Nat) (inside : Bool) (stops : List String) (s : Stream) :
    Except ParseFault (Taken (List Statement) s) := do
  match ← s.look with
  | none => return .here []
  | some ⟨t, r₁, h₁⟩ =>
    match t with
    | .text content =>
      let more ← parseBody depth inside stops r₁
      return ((more.map (.text r₁.line content :: ·)).after h₁).taken
    | .printStart =>
      let ⟨e, r₂, h₂⟩ ← parseExpr depth r₁
      let ⟨_, r₃, h₃⟩ ← r₂.expect .printEnd Token.printEnd.description
      let more ← parseBody depth inside stops r₃
      let body := more.map (.print r₁.line (e.printed r₁.line) :: ·)
      return (((body.after h₃).after h₂).after h₁).taken
    | .statementStart =>
      match ← r₁.peek with
      | none => .error (r₁.stop "keyword")
      | some t =>
        if stops.any fun stop => t = .word stop then return (Parsed.mk [] r₁ h₁).taken
        else
          let ⟨st, r₂, h₂⟩ ← parseStatement depth inside r₁
          let ⟨_, r₃, h₃⟩ ← r₂.expectEnd
          let more ← parseBody depth inside stops r₃
          return ((((more.map (st :: ·)).after h₃).after h₂).after h₁).taken
    | t => .error (r₁.fail (.noOperand t.description))
termination_by (s.size, 0)
decreasing_by all_goals decreasing_with omega

/-- Reads a statement from its keyword on, without its end. -/
def parseStatement (depth : Nat) (inside : Bool) (s : Stream) :
    Except ParseFault (Parsed Statement s) := do
  if maxDepth ≤ depth then .error (s.fail .tooDeep)
  let ⟨t, r₁, h₁⟩ ← s.next "block keyword"
  let depth := depth + 1
  let line := r₁.line
  match t with
  | .word "if" => return (← parseBranch depth inside line r₁).after h₁
  | .word "for" =>
    let ⟨head, r₂, h₂⟩ ← parseLoopHead depth r₁
    let bodies ← parseEach depth inside r₂
    let st := bodies.map fun (body, otherwise) =>
      .each line head.target head.items head.test head.recursive body otherwise
    return (st.after h₂).after h₁
  | .word "set" => return (← parseSet depth inside line r₁).after h₁
  | .word "block" =>
    if inside then .error (r₁.fail .blockInRoutine)
    let ⟨name, r₂, h₂⟩ ← r₁.blockName
    let ⟨required, r₃, h₃⟩ ← parseBlockMarks r₂
    let ⟨_, r₄, h₄⟩ ← r₃.expectEnd
    let ⟨body, r₅, h₅⟩ ← parseClosed depth inside "endblock" r₄
    let last ← parseEndName name r₅
    if required && !body.all Statement.isBlank then .error (last.rest.fail .blockContent)
    let st := last.map fun _ => .block line name required body
    return ((((st.behind h₅).after h₄).behind h₃).after h₂).after h₁
  | .word keyword =>
    match ← parseSimple depth line keyword r₁ with
    | some st => return st.after h₁
    | none =>
      match ← parseHead depth keyword r₁ with
      | some ⟨head, r₂, h₂⟩ =>
        let body ← parseClosed depth (inside || head.startsRoutine) head.stop r₂
        return ((body.map fun body => head.statement line body).after h₂).after h₁
      | none => .error (r₁.fail (.unknownStatement keyword))
  | t => .error (r₁.fail (.noStatement t.description))
termination_by (s.size, 1)
decreasing_by all_goals decreasing_with omega

/-- Reads a setting of a variable from its target on, without its last end. -/
def parseSet (depth : Nat) (inside : Bool) (line : Nat) (s : Stream) :
    Except ParseFault (Taken Statement s) := do
  let ⟨target, r₁, h₁⟩ ← parseTargets true s
  match ← r₁.acceptSign .bar with
  | some ⟨_, r₂, h₂⟩ =>
    let ⟨filters, r₃, h₃⟩ ← parseFilterHead depth r₂
    let body ← parseClosed depth inside "endset" r₃
    return (((body.map (.capture target filters)).after h₃).after h₂).taken.behind h₁
  | none =>
    match ← r₁.accept .statementEnd with
    | some ⟨_, r₂, h₂⟩ =>
      let body ← parseClosed depth inside "endset" r₂
      return ((body.map (.capture target [])).after h₂).taken.behind h₁
    | none =>
      let ⟨_, r₂, h₂⟩ ← r₁.expect (.sign .assign) "assignment operator"
      let value ← parseAssigned depth r₂
      return ((value.map (.assign line target)).after h₂).taken.behind h₁
termination_by (s.size, 2)
decreasing_by all_goals decreasing_with omega

/-- Reads a body and the keyword that ends it. -/
def parseClosed (depth : Nat) (inside : Bool) (stop : String) (s : Stream) :
    Except ParseFault (Taken (List Statement) s) := do
  let ⟨body, r, h⟩ ← parseBody depth inside [stop] s
  return ((← r.keyword).map fun _ => body).behind h
termination_by (s.size, 1)
decreasing_by all_goals decreasing_with omega

/-- Reads a conditional statement from its test on, without its last end. -/
def parseBranch (depth : Nat) (inside : Bool) (line : Nat) (s : Stream) :
    Except ParseFault (Parsed Statement s) := do
  let ⟨test, r₁, h₁⟩ ← parseRank depth topRank s
  let ⟨_, r₂, h₂⟩ ← r₁.expectEnd
  let ⟨yes, r₃, h₃⟩ ← parseBody depth inside ["endif", "else", "elif"] r₂
  let ⟨keyword, r₄, h₄⟩ ← r₃.keyword
  match keyword with
  | "elif" =>
    let no ← parseBranch depth inside r₄.line r₄
    let st := no.map fun no => .branch line test yes [no]
    return (((st.behind h₄).behind h₃).after h₂).after h₁
  | "else" =>
    let ⟨_, r₅, h₅⟩ ← r₄.expectEnd
    let no ← parseClosed depth inside "endif" r₅
    let st := (no.map (.branch line test yes)).after h₅
    return (((st.behind h₄).behind h₃).after h₂).after h₁
  | _ =>
    let st : Taken Statement r₄ := .here (.branch line test yes [])
    return (((st.behind h₄).behind h₃).after h₂).after h₁
termination_by (s.size, 0)
decreasing_by all_goals decreasing_with omega

/-- Reads the bodies of a loop, without its last end. -/
def parseEach (depth : Nat) (inside : Bool) (s : Stream) :
    Except ParseFault (Taken (List Statement × List Statement) s) := do
  let ⟨body, r₁, h₁⟩ ← parseBody depth inside ["endfor", "else"] s
  let ⟨keyword, r₂, h₂⟩ ← r₁.keyword
  match keyword with
  | "else" =>
    let ⟨_, r₃, h₃⟩ ← r₂.expectEnd
    let otherwise ← parseClosed depth inside "endfor" r₃
    return (((otherwise.map ((body, ·))).after h₃).taken.behind h₂).behind h₁
  | _ => return (Taken.mk (body, []) r₂ h₂).behind h₁
termination_by (s.size, 1)
decreasing_by all_goals decreasing_with omega

end

/-- The statements of a template. -/
def parse (text : String) : Except ParseFault (List Statement) := do
  let lexemes := lex text
  let body ← parseBody 0 false [] ⟨lexemes.tokens, 1, lexemes.fault, []⟩
  return body.value

end PassForge.Template
