import PassForge.Template.Filter.Choice
import PassForge.Template.Function
import PassForge.Template.State

/-!
# Evaluating expressions

`eval` computes the value of an expression.  It can write nothing, but it can make and change
objects, and it can load templates when it calls what renders others.  A fault is reported with a
line: the line of the operand that was reached last before the operation that failed.
-/

namespace PassForge.Template

/-- A computation that can fail, and in which rendering goes on. -/
abbrev Evaluation := StateT Progress (Except RenderError)

/-- The result of an operation whose fault is put down to a line. -/
def Site.ofResult {α : Type} (site : Site) (line : Nat) (x : Except EvalFault α) : Evaluation α :=
  fun p => do return (← site.located line x, p)

/-- A fault on a line. -/
def Site.fail {α : Type} (site : Site) (line : Nat) (f : EvalFault) : Evaluation α :=
  fun _ => .error (site.fault line f)

/-! ### What renders -/

namespace Machine

variable (m : Machine)

/-- What values stand for now. -/
def look : Evaluation Sight := fun p => .ok (m.sight p, p)

/-- The text that statements write. -/
def capture (site : Site) (body : List Statement) : Evaluation String := fun p => do
  let q ← m.inner site body p.captured
  return (q.output, q.resumed p)

/-- Renders a block, for something on a line. -/
def renderBlock (site : Site) (line : Nat) (name : String) (p : Progress) :
    Except RenderError Progress := do
  let level := (site.levels.lookup name).getD 0
  match (p.blocks.lookup name).bind (·[level]?) with
  | none => .error (site.fault line (.unknownBlock name))
  | some version =>
    if version.required then .error (site.fault line (.missingBlock name))
    let q ← site.enter line .empty p
    let inside := { site with template := version.template, block := some name, again := none }
    return (← m.inner inside version.body q).leave

/-- The text of a block.  In a template that extends another one, blocks have none. -/
def blockText (site : Site) (line : Nat) (name : String) : Evaluation Value := fun p => do
  if p.parent.isSome then return (site.textValue "", p)
  let q ← m.renderBlock site line name p.captured
  return (site.textValue q.output, q.resumed p)

/-- The text of the version of the current block that it replaces. -/
def superText (site : Site) (line : Nat) : Evaluation Value := fun p => do
  match site.block with
  | none => .error (site.fault line .outsideBlock)
  | some name =>
    let level := (site.levels.lookup name).getD 0 + 1
    match (p.blocks.lookup name).bind (·[level]?) with
    | none => .error (site.fault line .noParentBlock)
    | some version =>
      let inside := { site with
        template := version.template
        levels := (name, level) :: site.levels
        again := none }
      let q ← site.enter line .empty p.captured
      let q ← (m.inner inside version.body q).mapError
        (RenderError.outside (site.fault line .brokenParentBlock))
      return (site.textValue q.output, q.leave.resumed p)

/-- The text of the innermost loop, called by itself with a value. -/
def loopText (site : Site) (line : Nat) (v : Value) : Evaluation Value := do
  match (← get).scopes.find? (·.loop.isSome), site.again with
  | none, _ => site.fail line (.unknownFunction "loop")
  | some _, none => site.fail line .loopNotRecursive
  | some _, some again => return site.textValue (← m.capture site [again v])

end Machine

/-! ### Routines -/

namespace Routine

/-- The value that a routine is passed for a parameter, given that at its place. -/
def passed (args : Arguments) (name : String) (value : Option Value) : Except EvalFault Value :=
  match value, Value.underKey? args.named (.string name) with
  | some _, some _ => .error (.repeatedParameter name)
  | some v, none => .ok v
  | none, some v => .ok v
  | none, none => .ok .undefined

/-- Checks that all arguments with names are known. -/
def checkNamed (r : Routine) (args : Arguments) : Except EvalFault Unit :=
  let known := r.parameters.map (·.name) ++ if r.usesCaller then ["caller"] else []
  let names := (Value.sortedEntries args.named).filterMap (·.1.string?)
  match names.find? (!known.contains ·) with
  | some name => .error (.unknownParameter name)
  | none => .ok ()

/-- The values that a routine is passed, by parameter. -/
def bind (r : Routine) (args : Arguments) : Except EvalFault (List (Parameter × Value)) := do
  atMost r.parameters.length args.values
  let values ← r.parameters.zipIdx.mapM fun (q, i) => do
    return (q, ← passed args q.name args.values[i]?)
  r.checkNamed args
  return values

/-- The statement that sets a parameter.  One that is not passed is its default. -/
def setting (q : Parameter) (v : Value) : Statement :=
  let value := if v.isUndefined then q.default.getD (.constant q.line v) else .constant q.line v
  .assign q.line (.name q.line q.name) value

/-- The outermost scope of a routine that is called. -/
def scope (r : Routine) (args : Arguments) : Scope :=
  let caller := (Value.underKey? args.named (.string "caller")).getD .undefined
  { Scope.empty with
    bindings := if r.usesCaller then [("caller", caller)] else []
    backdrop := match r.closure with
      | some id => .closure id
      | none => .nothing }

end Routine

/-- The text of a routine that is called on a line.  It sees nothing of the scopes there. -/
def Machine.routineText (m : Machine) (site : Site) (line : Nat) (r : Routine) (args : Arguments) :
    Evaluation Value := fun p => do
  let values ← site.located line (r.bind args)
  let weight := site.weight + p.scopes.length + routineWeight
  let _ ← { site with weight := weight + 1 }.check line { p with scopes := [] }
  let inside := { Site.top r.template with escaping := site.escaping, weight := weight }
  let settings := (values.map fun (q, v) => Routine.setting q v).reverse
  let q ← m.inner inside (settings ++ r.body)
    { p.captured with scopes := [r.scope args], blocks := [], parent := none, extended := [] }
  return (site.textValue q.output, { p with heap := q.heap, loaded := q.loaded })

/-! ### Calls -/

section Calls

variable (m : Machine) (site : Site) (line : Nat)

/-- The result of calling a value. -/
def callValue (v : Value) (args : Arguments) : Evaluation Value := do
  let s ← m.look
  match v with
  | .function .range => site.ofResult line (range args.all)
  | .function .dict => site.ofResult line (dict s args)
  | .function .debug => return .string (debugText s args.all)
  | .function .space =>
    let entries ← site.ofResult line (spaceEntries s args.all)
    modifyGet (·.alloc (.space entries))
  | .object id =>
    match s.heap.objects[id]? with
    | some (.routine r) => m.routineText site line r args
    | some (.loop _) => site.fail line .loopNotCallable
    | _ => site.fail line .objectNotCallable
  | v => site.fail line v.callFault

/-- The result of calling a part of a value. -/
def callPart (target : Value) (name : String) (args : Arguments) : Evaluation Value := do
  match (← m.look).part? (.string name) target with
  | some v => callValue m site line v args
  | none => site.fail line (.unknownMethod target.kind name)

/-- Whether the values that a loop is asked about differ from those it was last asked about. -/
def changed (id : Nat) (l : LoopState) (values : List Value) : Evaluation Value := do
  let s ← m.look
  let same := l.asked.any fun last => Value.sameItems (last.map s.view) (values.map s.view)
  if !same then
    modify fun p => { p with heap := p.heap.set id (.loop { l with asked := some values }) }
  return .bool !same

/-- The result of a method. -/
def callMethod (target : Value) (name : String) (args : Arguments) : Evaluation Value := do
  match target with
  | .pass => site.ofResult line (m.ctx.call name args.all)
  | .object id =>
    match (← get).heap.objects[id]?, name with
    | some (.loop l), "changed" => changed m id l args.all
    | some (.loop l), "cycle" =>
      return args.all[l.index % args.all.length]?.getD .undefined
    | _, name => callPart m site line target name args
  | target => callPart m site line target name args

/-- The result of a function.  The name `super` has a meaning of its own here, and so has every
loop. -/
def callFunction (name : String) (args : Arguments) : Evaluation Value := do
  if name = "super" then
    if args.all.isEmpty then m.superText site line else site.fail line .blockArguments
  else
    let p ← get
    match p.lookup? name with
    | some (.object id) =>
      match p.heap.objects[id]?, args.all with
      | some (.loop _), [v] => m.loopText site line v
      | some (.loop _), _ => site.fail line .loopArguments
      | _, _ => callValue m site line (.object id) args
    | some v => callValue m site line v args
    | none => site.fail line (.unknownFunction name)

end Calls

/-! ### Expressions -/

section Expressions

variable (m : Machine) (site : Site)

mutual

/-- The value of an expression that starts on line `line`. -/
def eval (line : Nat) : Expr → Evaluation Value
  | .literal _ value => pure value
  | .constant _ value => pure value
  | .omitted value => pure value
  | .name _ name => fun p => .ok ((p.lookup? name).getD .undefined, p)
  | .list here items => .list .stored <$> evalAll here items
  | .map here entries => .ofEntries <$> evalEntries here entries
  | .member target name => do
    let v ← eval line target
    site.ofResult (target.lastLine line) ((← m.look).part (.string name) v)
  | .item target key => do
    let v ← eval line target
    let k ← eval (target.lastLine line) key
    site.ofResult (key.lastLine (target.lastLine line)) ((← m.look).part k v)
  | .slice target first last step => do
    let v ← eval line target
    let line := target.lastLine line
    let a ← eval line first
    let line := first.lastLine line
    let b ← eval line last
    let line := last.lastLine line
    let c ← eval line step
    site.ofResult (step.lastLine line) (slice v a b c)
  | .callFunction here name args => do
    let vs ← evalArguments here .empty args
    callFunction m site (Expr.lastLineOfArgs here args) name vs
  | .callMethod target name args => do
    let v ← eval line target
    let vs ← evalArguments (target.lastLine line) .empty args
    callMethod m site (Expr.lastLineOfArgs (target.lastLine line) args) v name vs
  | .callValue target args => do
    let v ← eval line target
    let vs ← evalArguments (target.lastLine line) .empty args
    callValue m site (Expr.lastLineOfArgs (target.lastLine line) args) v vs
  | .callBlock here name => m.blockText site here name
  | .recurse here items => do
    let v ← eval here items
    m.loopText site here v
  | .unary here op operand => do
    let v ← eval line operand
    let line := if op = .negate then here else operand.lastLine line
    site.ofResult line (op.apply ((← m.look).glance v))
  | .binary op left right => do
    let v ← eval line left
    match ← site.ofResult (left.lastLine line) (op.settled? ((← m.look).glance v)) with
    | some _ => return v
    | none =>
      let w ← eval (left.lastLine line) right
      let s ← m.look
      let last := right.lastLine (left.lastLine line)
      if op = .concat then site.ofResult last (op.apply (s.view v) (s.view w))
      else site.ofResult last (op.apply v w)
  | .chain first rest => do
    let v ← eval line first
    return .bool (← evalChain (first.lastLine line) v rest)
  | .choose condition yes no => do
    let v ← eval line condition
    let line := condition.lastLine line
    if ← site.ofResult line ((← m.look).truth v) then eval line yes
    else eval (yes.lastLine line) no
  | .filter target name args => do
    let v ← eval line target
    let vs ← evalArguments (target.lastLine line) .empty args
    let last := Expr.lastLineOfArgs (target.lastLine line) args
    site.ofResult last (applyFilter (← m.look) name v vs)
  | .test target name args => do
    let v ← eval line target
    let vs ← evalArguments (target.lastLine line) .empty args
    let last := Expr.lastLineOfArgs (target.lastLine line) args
    return .bool (← site.ofResult last (applyTest (← m.look) name v vs))

/-- The values of expressions, the first of which starts on line `line`. -/
def evalAll (line : Nat) : List Expr → Evaluation (List Value)
  | [] => pure []
  | e :: rest => do
    let v ← eval line e
    let vs ← evalAll (e.lastLine line) rest
    return v :: vs

/-- The keys and values of a map. -/
def evalEntries (line : Nat) : List (Expr × Expr) → Evaluation (List (Value × Value))
  | [] => pure []
  | (k, e) :: rest => do
    let key ← eval line k
    let v ← eval (k.lastLine line) e
    let vs ← evalEntries (e.lastLine (k.lastLine line)) rest
    return (key, v) :: vs

/-- The arguments of a call behind those computed already. -/
def evalArguments (line : Nat) (args : Arguments) :
    List (Passing × Expr) → Evaluation Arguments
  | [] => pure args
  | (passing, e) :: rest => do
    let v ← eval line e
    let args ← site.ofResult (e.lastLine line) (args.add (← m.look) passing v)
    evalArguments (e.lastLine line) args rest

/-- Whether all comparisons of a chain hold whose first operand is `v`.  Nothing is computed behind
one that does not hold. -/
def evalChain (line : Nat) (v : Value) : List (Comparison × Expr) → Evaluation Bool
  | [] => pure true
  | (c, e) :: rest => do
    let w ← eval line e
    let s ← m.look
    if ← site.ofResult (e.lastLine line) (c.apply (s.view v) (s.view w)) then
      evalChain (e.lastLine line) w rest
    else return false

end

/-- The value of a text put through filters. -/
def evalFilters (v : Value) : List FilterCall → Evaluation Value
  | [] => pure v
  | f :: rest => do
    let args ← evalArguments m site f.line .empty f.args
    let line := Expr.lastLineOfArgs f.line f.args
    evalFilters (← site.ofResult line (applyFilter (← m.look) f.name v args)) rest

/-! ### Setting targets -/

/-- Sets a part of a value, given by the names on the way to it. -/
def setPart (line : Nat) (value : Value) : List String → Value → Evaluation Unit
  | [], _ => pure ()
  | [name], target => do
    match target, (← get).heap with
    | .object id, heap =>
      match heap.objects[id]? with
      | some (.space entries) =>
        let entries := Value.insertEntry (.string name) value entries
        modify fun p => { p with heap := p.heap.set id (.space entries) }
      | _ => site.fail line (.notSpace target.kind)
    | target, _ => site.fail line (.notSpace target.kind)
  | name :: rest, target => do
    setPart line value rest (← site.ofResult line ((← m.look).part (.string name) target))

mutual

/-- Sets a target to a value. -/
def assignTo (value : Value) : Target → Evaluation Unit
  | .name _ name => modify (·.assign name value)
  | .part line base path => do
    setPart m site line value path (((← get).lookup? base).getD .undefined)
  | .group line targets => do
    match ((← m.look).glance value).objectItems? with
    | none => site.fail line .notUnpacked
    | some items =>
      if items.length = targets.length then assignEach items targets
      else site.fail line (.unpackedLength targets.length items.length)

/-- Sets targets to values. -/
def assignEach (values : List Value) : List Target → Evaluation Unit
  | [] => pure ()
  | target :: rest =>
    match values with
    | [] => pure ()
    | value :: values => do
      assignTo value target
      assignEach values rest

end

end Expressions

end PassForge.Template
