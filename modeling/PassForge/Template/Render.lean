import PassForge.Template.Eval

/-!
# Rendering templates

`renderBody` renders the statements of a template.  It is given a way to render what is nested in
them, and `renderNested` closes the circle down to a fixed depth.

An embedded template runs in the scopes of the template it stands in.  It is loaded once, under its
resolved path; `Progress.loaded` holds the templates in the order they were loaded.  An error inside
it is reported as an error of the statement that embeds it.

A template that extends another one is rendered to its end, for what it sets, but what it writes is
dropped.  Then the other one is rendered with the blocks of both.
-/

namespace PassForge.Template

/-! ### Other templates -/

/-- The templates an include may mean: a value with items gives a choice. -/
def choices (s : Sight) (v : Value) : List Value :=
  match s.glance v with
  | .function _ => []
  | v' => v'.objectItems?.getD [v]

/-- The progress with the closure of the innermost scope replaced. -/
def Progress.withClosure (p : Progress) (closure : Option Nat) : Progress :=
  match p.scopes with
  | [] => p
  | s :: outer => { p with scopes := { s with closure := closure } :: outer }

section Templates

variable (m : Machine) (site : Site) (line : Nat)

/-- Renders a template in place. -/
def embed (t : Loaded) (p : Progress) : Except RenderError Progress := do
  let inside := { site with
    template := t.path
    levels := []
    again := none
    escaping := false
    weight := site.weight + embedWeight }
  let _ ← { inside with template := site.template }.check line p
  let closure := p.scopes.head?.bind (·.closure)
  let (blocks, extended) := (p.blocks, p.extended)
  let p := { p.withClosure none with blocks := Versions.addAll [] t }
  let broken := RenderError.outside (.brokenInclude t.path (site.place line))
  let p ← (m.inner inside t.body p).mapError broken
  return { p.withClosure closure with blocks, extended }

/-- Renders the first template of a choice that exists.  `tried` is the path tried last. -/
def embedFirst (optional : Bool) : Option String → List Value → Progress →
    Except RenderError Progress
  | none, [], p => .ok p
  | some path, [], p => if optional then .ok p else .error (.missing path)
  | _, v :: rest, p =>
    match v.string? with
    | none => .error (site.fault line .templateName)
    | some name =>
      let path := Path.resolve name site.template
      match load m.store path p with
      | .ok (t, p) => embed m site line t p
      | .error (.missing _) => embedFirst optional (some path) rest p
      | .error e => .error e

/-- Renders the template that a value names. -/
def embedValue (optional : Bool) (v : Value) (p : Progress) : Except RenderError Progress :=
  embedFirst m site line optional none (choices (m.sight p) v) p

/-- Makes the template that a value names the one that is extended. -/
def extendBy (v : Value) (p : Progress) : Except RenderError Progress := do
  if p.parent.isSome then .error (site.fault line .extendedTwice)
  match v.string? with
  | none => .error (site.fault line .templateName)
  | some name =>
    if p.extended.contains name then .error (site.fault line (.extendedInCircle name))
    let (t, p) ← load m.store (Path.resolve name site.template) p
    return { p with
      parent := some t
      discarding := true
      extended := t.path :: p.extended
      blocks := p.blocks.addAll t }

end Templates

/-! ### Loops -/

/-- The number of calls by themselves that the loops around the current place run in. -/
def Progress.calls (p : Progress) : Nat :=
  match (p.scopes.find? (·.loop.isSome)).bind (·.calls) with
  | some n => n + 1
  | none => 0

/-- Moves a loop on to a round. -/
def Progress.setRound (p : Progress) (id index : Nat) (previous next : Value) : Progress :=
  let moved : Object → Object
    | .loop l => .loop { l with index, previous, next }
    | o => o
  { p with heap := { p.heap with objects := p.heap.objects.modify id moved } }

/-- Empties the innermost scope. -/
def Progress.renewScope (p : Progress) (scope : Scope) : Progress :=
  { p with scopes := scope :: p.scopes.tail }

section Statements

variable (m : Machine)

/-- The items that pass the test of a loop. -/
def selectItems (site : Site) (line : Nat) (target : Target) (test : Expr) (items : List Value)
    (p : Progress) : Except RenderError (List Value × Progress) := do
  let p ← site.enter line .empty p
  let choose (item : Value) : Evaluation Bool := do
    modify (·.renewScope .empty)
    assignTo m site item target
    let v ← eval m site line test
    site.ofResult (test.lastLine line) ((← m.look).truth v)
  let (kept, p) ← (items.filterM choose).run p
  return (kept, p.leave)

/-- Renders a loop over items, given how to render a round.  What earlier rounds set is forgotten;
what they were asked about is not. -/
def renderRounds (site : Site) (line : Nat) (target : Target) (recursive : Bool)
    (items : List Value) (counted : Bool) (round : Progress → Except RenderError Progress)
    (p : Progress) : Except RenderError Progress := do
  let depth := p.calls
  let id := p.heap.objects.size
  let count := if counted then some items.length else none
  let scope := { Scope.empty with
    loop := some id
    calls := if recursive then some depth else none }
  let p ← site.enter line scope p
  let (_, p) := p.alloc (.loop ⟨0, count, depth, .undefined, .undefined, none⟩)
  let beside := (Value.undefined :: items).zip (items.drop 1 ++ [.undefined])
  let p ← (items.zip beside).zipIdx.foldlM (fun p ((item, previous, next), i) => do
    let p := (p.setRound id i previous next).renewScope scope
    let ((), p) ← assignTo m site item target p
    round p) p
  return (p.setRound id items.length (items.getLast?.getD .undefined) .undefined).leave

/-! ### Statements -/

/-- A value as it is printed. -/
def printedText (site : Site) (v : Value) (p : Progress) : Except EvalFault String :=
  match v with
  | .undefined => .error .undefinedValue
  | v => .ok (if site.escaping then Filter.markup (m.sight p) v else (m.sight p).plainText v)

/-- Prints a value, for something on a line. -/
def printValue (site : Site) (line : Nat) (v : Value) (p : Progress) :
    Except RenderError Progress := do
  let text ← site.located line (printedText m site v p)
  return p.write text

/-- Whether values are escaped from here on. -/
def escapingMode (s : Sight) (v : Value) : Except EvalFault Bool :=
  match v.string? with
  | some "html" => .ok true
  | some "none" => .ok false
  | some _ => .error .escapingMode
  | none => .ok ((s.view v).same (.bool true))

/-- The variables of the innermost scope, in the order of their names. -/
def Progress.locals (p : Progress) : List (Value × Value) :=
  match p.scopes with
  | [] => []
  | s :: _ => Value.sortedEntries (s.bindings.reverse.map fun (name, v) => (.string name, v))

/-- A call that is passed one more argument by name, which ends on line `line`. -/
def passing (name : String) (line : Nat) (v : Value) : Expr → Expr
  | .callFunction here f args => .callFunction here f (args ++ [(.named name, .constant line v)])
  | .callMethod target method args =>
    .callMethod target method (args ++ [(.named name, .constant line v)])
  | .callValue target args => .callValue target (args ++ [(.named name, .constant line v)])
  | e => e

mutual

/-- Renders a statement of a template. -/
def renderStatement (site : Site) : Statement → Progress → Except RenderError Progress
  | .text _ content, p => .ok (p.write content)
  | .print line e, p => do
    let (v, p) ← eval m site line e p
    printValue m site (e.lastLine line) v p
  | .branch line test yes no, p => do
    let (v, p) ← eval m site line test p
    if ← site.located (test.lastLine line) ((m.sight p).truth v) then renderBody site yes p
    else renderBody site no p
  | .each line target items test recursive body otherwise, p => do
    let last := items.lastLine line
    let (v, p) ← eval m site line items p
    let all ← site.located last ((m.sight p).items v)
    let (selected, p) ← match test with
      | some test => selectItems m { site with again := none } last target test all p
      | none => pure (all, p)
    if selected.isEmpty then
      let p ← site.check last p
      renderBody site otherwise p
    else
      let again (v : Value) : Statement := .each line target (.constant last v) none true body []
      let inside := { site with again := if recursive then some again else none }
      let counted := test.isSome || v.counted
      renderRounds m site last target recursive selected counted (renderBody inside body) p
  | .assign line target e, p => do
    let (v, p) ← eval m site line e p
    let ((), p) ← assignTo m site v target p
    return p
  | .capture target filters body, p => do
    let q ← renderBody site body p.captured
    let (v, q) ← evalFilters m site (site.textValue q.output) filters q
    let ((), q) ← assignTo m site v target (q.resumed p)
    return q
  | .scope line settings body, p => do
    let p ← site.enter line .empty p
    let p ← settings.foldlM (fun p (target, e) => do
      let (v, p) ← eval m site line e p
      let ((), p) ← assignTo m site v target p
      return p) p
    let p ← renderBody site body p
    return p.leave
  | .filter filters body, p => do
    let q ← renderBody site body p.captured
    let (v, q) ← evalFilters m site (site.textValue q.output) filters q
    let line := (filters.getLast?.map fun f => Expr.lastLineOfArgs f.line f.args).getD 0
    printValue m site line v (q.resumed p)
  | .escaping line mode body, p => do
    let (v, p) ← eval m site line mode p
    let escaping ← site.located (mode.lastLine line) (escapingMode (m.sight p) v)
    renderBody { site with escaping } body p
  | .discard line e, p => do
    let (_, p) ← eval m site line e p
    return p
  | .embed line e optional, p => do
    let (v, p) ← eval m site line e p
    embedValue m site line optional v p
  | .block line name _ _, p =>
    if p.parent.isSome || p.discarding then .ok p else m.renderBlock site line name p
  | .extend line e, p => do
    let (v, p) ← eval m site line e p
    extendBy m site line v p
  | .bring line e target, p => do
    let q ← site.enter line .empty p.captured
    let (v, q) ← eval m site line e q
    let q ← embedValue m site line false v q
    let value := Value.record q.output q.locals
    let ((), q) ← assignTo m site value target (q.leave.resumed p)
    return q
  | .bringNames line e names, p => do
    let q ← site.enter line .empty { p.captured with discarding := true }
    let (v, q) ← eval m site line e q
    let q ← embedValue m site line false v q
    let values := names.map fun (name, target) => ((q.lookup? name).getD .undefined, target)
    values.reverse.foldlM (fun q (v, target) => do
      let ((), q) ← assignTo m site v target q
      return q) (q.leave.resumed p)
  | .define _ name parameters body, p =>
    let (v, p) := p.defineRoutine site.template name parameters body
    .ok (p.assign name v)
  | .callWith line call parameters body, p => do
    let (v, p) := p.defineRoutine site.template "caller" parameters body
    let last := Statement.lastLineOf (Statement.lastLineOfParameters line parameters) body
    let (v, p) ← eval m site line (passing "caller" last v call) p
    printValue m site last v p

/-- Renders statements in turn. -/
def renderBody (site : Site) : List Statement → Progress → Except RenderError Progress
  | [], p => .ok p
  | st :: rest, p => do renderBody site rest (← renderStatement site st p)

end

end Statements

/-! ### Templates -/

/-- The depth to which things are nested.  The limit on weight is reached before, and so is the end
of any sequence of templates that extend each other. -/
def maxNesting : Nat := 2 * maxWeight

/-- Renders statements in which others are nested at most `depth` deep, and then the template that
they extend. -/
def renderNested (ctx : Context) (store : Store) : Nat → Renderer
  | 0, site, _, _ => .error (site.fault 0 .tooDeep)
  | depth + 1, site, body, p => do
    let (parent, discarding) := (p.parent, p.discarding)
    let inner := renderNested ctx store depth
    let p ← renderBody ⟨ctx, store, inner⟩ site body { p with parent := none }
    let p ← match p.parent with
      | some t =>
        inner { site with template := t.path } t.body { p with parent := none, discarding }
      | none => pure p
    return { p with parent }

/-- Renders a template that has been loaded. -/
def render (ctx : Context) (store : Store) (template : String) (body : List Statement) :
    Except RenderError Progress :=
  renderNested ctx store maxNesting (Site.top template) body
    { output := "", discarding := false, scopes := [Scope.top],
      blocks := Versions.addAll [] ⟨template, body⟩, parent := none, extended := [template],
      heap := .empty, loaded := [⟨template, body⟩] }

end PassForge.Template
