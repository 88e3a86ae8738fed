import PassForge.Template.Heap
import PassForge.Template.Parser
import PassForge.Template.Path
import PassForge.Template.Store

/-!
# The state of rendering

A template is rendered at a `Site`: what does not change while its statements are gone through.
What does change is the `Progress`: the text written, the variables, the objects, and the templates
loaded.

Nesting is limited by weight: a scope weighs one, an embedded template `embedWeight` and a routine
that is called `routineWeight`.  What starts when the weight is over `maxWeight` is an error.
-/

namespace PassForge.Template

/-! ### Errors -/

/-- A place in a template. -/
structure Place where
  template : String
  line : Nat
deriving DecidableEq, Repr

/-- Why a template cannot be rendered. -/
inductive RenderError where
  /-- An operation failed. -/
  | failed (fault : EvalFault) (place : Place)
  /-- A template cannot be parsed. -/
  | badSyntax (template : String) (fault : ParseFault)
  /-- An embedded template failed. -/
  | brokenInclude (included : String) (place : Place)
  /-- No template has this path. -/
  | missing (path : String)
  /-- The path climbs above the root. -/
  | leavesRoot (path : String)
  /-- The template exists but cannot be read. -/
  | unreadable (path : String) (failure : ReadFailure)
deriving Repr

namespace RenderError

/-- The error as seen from around the template or block it arose in, where it counts as `other`.
Two causes are reported as they are from any depth: a path that leaves the root, and a template that
cannot be read. -/
def outside (other : RenderError) : RenderError → RenderError
  | leavesRoot path => leavesRoot path
  | unreadable path failure => unreadable path failure
  | _ => other

end RenderError

/-! ### Scopes -/

/-- What can be seen behind the variables of a scope. -/
inductive Backdrop where
  | nothing
  /-- The pass. -/
  | pass
  /-- The variables that a routine can see. -/
  | closure (id : Nat)
deriving DecidableEq, Repr

/-- The variables set in one place: at the top of a template, in one round of a loop, in a block, in
a routine or in a part with settings of its own. -/
structure Scope where
  /-- The variables and their values; the front entry of a name counts. -/
  bindings : List (String × Value)
  /-- The loop, in a loop. -/
  loop : Option Nat
  /-- The number of calls of a loop by itself that its rounds run in, for a loop that may do so. -/
  calls : Option Nat
  /-- The variables that the routines defined here can see. -/
  closure : Option Nat
  backdrop : Backdrop

namespace Scope

/-- A scope without variables. -/
def empty : Scope := ⟨[], none, none, none, .nothing⟩

/-- The outermost scope. -/
def top : Scope := { empty with backdrop := .pass }

/-- What a name stands for behind the variables of a scope. -/
def behind? (s : Scope) (h : Heap) (name : String) : Option Value :=
  match s.backdrop with
  | .nothing => none
  | .pass => if name = "pass" then some .pass else none
  | .closure id => h.captured? id name

/-- The value of a name, if this scope has one. -/
def find? (s : Scope) (h : Heap) (name : String) : Option Value :=
  match s.bindings.lookup name with
  | some v => some v
  | none =>
    match s.loop with
    | some id => if name = "loop" then some (.object id) else s.behind? h name
    | none => s.behind? h name

/-- Sets a variable. -/
def set (s : Scope) (name : String) (value : Value) : Scope :=
  { s with bindings := (name, value) :: s.bindings }

end Scope

/-! ### Progress -/

/-- A template that has been loaded. -/
structure Loaded where
  path : String
  body : List Statement

/-- A block as one of the templates that extend each other has it. -/
structure Version where
  /-- The template it is written in. -/
  template : String
  required : Bool
  body : List Statement

/-- The versions of blocks, by name, the one that counts first. -/
abbrev Versions := List (String × List Version)

namespace Versions

/-- The versions with one more behind the others. -/
def add (name : String) (v : Version) : Versions → Versions
  | [] => [(name, [v])]
  | (n, vs) :: rest => if n = name then (n, vs ++ [v]) :: rest else (n, vs) :: add name v rest

/-- The versions with those of a template behind the others. -/
def addAll (versions : Versions) (t : Loaded) : Versions :=
  (Statement.blocksIn t.body).foldl (fun vs b => vs.add b.name ⟨t.path, b.required, b.body⟩)
    versions

end Versions

/-- What rendering has come to so far. -/
structure Progress where
  /-- The text written. -/
  output : String
  /-- Whether text is dropped instead of written. -/
  discarding : Bool
  /-- The scopes, the innermost first. -/
  scopes : List Scope
  /-- The blocks of the template. -/
  blocks : Versions
  /-- The template that is extended. -/
  parent : Option Loaded
  /-- The names of the template and of those it extends. -/
  extended : List String
  heap : Heap
  /-- The templates loaded, in that order. -/
  loaded : List Loaded

namespace Progress

/-- Writes text. -/
def write (p : Progress) (text : String) : Progress :=
  if p.discarding then p else { p with output := p.output ++ text }

/-- What is rendered into a text of its own. -/
def captured (p : Progress) : Progress := { p with output := "", discarding := false }

/-- Goes back to the text that was written before. -/
def resumed (p before : Progress) : Progress :=
  { p with output := before.output, discarding := before.discarding }

/-- Leaves the innermost scope. -/
def leave (p : Progress) : Progress := { p with scopes := p.scopes.tail }

/-- The value of a name: that of the innermost scope that has one, or a function. -/
def lookup? (p : Progress) (name : String) : Option Value :=
  match p.scopes.findSome? (·.find? p.heap name) with
  | some v => some v
  | none => (Builtin.ofName? name).map .function

/-- Sets a variable in the innermost scope, also for the routines defined there. -/
def assign (p : Progress) (name : String) (value : Value) : Progress :=
  match p.scopes with
  | [] => p
  | s :: outer =>
    match s.closure with
    | some id =>
      { p with scopes := s.set name value :: outer, heap := p.heap.capture id name value }
    | none => { p with scopes := s.set name value :: outer }

/-- The closure of the innermost scope, which is made if there is none. -/
def closure (p : Progress) : Nat × Progress :=
  match p.scopes with
  | [] => (0, p)
  | s :: outer =>
    match s.closure with
    | some id => (id, p)
    | none =>
      let (id, heap) := p.heap.addClosure
      (id, { p with scopes := { s with closure := some id } :: outer, heap })

/-- Lets the routines of the innermost scope see variables, as they are now. -/
def enclose (p : Progress) (names : List String) : Option Nat × Progress :=
  if names.isEmpty then (p.scopes.head?.bind (·.closure), p)
  else
    let (id, p) := p.closure
    let heap := names.foldl (fun h name => h.captureNew id name ((p.lookup? name).getD .undefined))
      p.heap
    (some id, { p with heap })

/-- Makes an object. -/
def alloc (p : Progress) (o : Object) : Value × Progress :=
  let (v, heap) := p.heap.alloc o
  (v, { p with heap })

/-- Makes a routine. -/
def defineRoutine (p : Progress) (template name : String) (parameters : List Parameter)
    (body : List Statement) : Value × Progress :=
  let names := Statement.outside parameters body
  let (closure, p) := p.enclose (names.filter (· != "caller"))
  p.alloc (.routine ⟨name, parameters, body, template, closure, names.contains "caller"⟩)

end Progress

/-! ### Sites -/

/-- The weight of an embedded template. -/
def embedWeight : Nat := 10

/-- The weight of a routine. -/
def routineWeight : Nat := 4

/-- The weight that nesting may have. -/
def maxWeight : Nat := 500

/-- Where statements are rendered. -/
structure Site where
  template : String
  /-- The block they stand in. -/
  block : Option String
  /-- The number of versions of a block that have called those below them. -/
  levels : List (String × Nat)
  /-- What the innermost loop does when it calls itself with a value, if it may. -/
  again : Option (Value → Statement)
  /-- Whether values are escaped where they are printed. -/
  escaping : Bool
  /-- The weight of what is nested around the scopes. -/
  weight : Nat

namespace Site

/-- The site of the statements of a template. -/
def top (template : String) : Site := ⟨template, none, [], none, false, 0⟩

/-- A line of the template. -/
def place (site : Site) (line : Nat) : Place := ⟨site.template, line⟩

/-- The error of a fault on a line. -/
def fault (site : Site) (line : Nat) (f : EvalFault) : RenderError := .failed f (site.place line)

/-- Puts a fault down to a line. -/
def located {α : Type} (site : Site) (line : Nat) : Except EvalFault α → Except RenderError α
  | .ok a => .ok a
  | .error f => .error (site.fault line f)

/-- Checks the limit on nesting, for something on a line. -/
def check (site : Site) (line : Nat) (p : Progress) : Except RenderError Progress :=
  if maxWeight < site.weight + p.scopes.length then .error (site.fault line .tooDeep) else .ok p

/-- Enters a scope for something on a line. -/
def enter (site : Site) (line : Nat) (scope : Scope) (p : Progress) :
    Except RenderError Progress := do
  let p ← site.check line p
  return { p with scopes := scope :: p.scopes }

/-- A text that has been rendered, as a value. -/
def textValue (site : Site) (text : String) : Value :=
  if site.escaping then .marked text else .string text

end Site

/-- A way to render statements. -/
abbrev Renderer := Site → List Statement → Progress → Except RenderError Progress

/-- What rendering works with. -/
structure Machine where
  ctx : Context
  store : Store
  /-- How what is nested is rendered: templates, blocks, routines, and loops in themselves. -/
  inner : Renderer

/-- What values stand for at the moment. -/
def Machine.sight (m : Machine) (p : Progress) : Sight := ⟨m.ctx, p.heap⟩

/-! ### Loading -/

/-- The template at a path, which is loaded unless that has been done. -/
def load (store : Store) (path : String) (p : Progress) : Except RenderError (Loaded × Progress) :=
  match p.loaded.find? (·.path == path) with
  | some t => .ok (t, p)
  | none =>
    match Path.normalize path with
    | none => .error (.leavesRoot path)
    | some _ =>
      match store path with
      | .error failure => .error (.unreadable path failure)
      | .ok none => .error (.missing path)
      | .ok (some text) =>
        match parse text with
        | .error fault => .error (.badSyntax path fault)
        | .ok body => .ok (⟨path, body⟩, { p with loaded := p.loaded ++ [⟨path, body⟩] })

end PassForge.Template
