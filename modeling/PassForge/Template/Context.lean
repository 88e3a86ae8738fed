import PassForge.NameSet
import PassForge.Template.Value

/-!
# What a template can ask for

All that a template can learn of its pass is in a `Context`: the name of the pass, its fragments,
its struct declarations and its active fields.
-/

namespace PassForge.Template

/-- What a template can reach through `pass`. -/
structure Context where
  /-- The name of the pass. -/
  pass : String
  /-- Texts by name. -/
  fragments : List (String × String)
  /-- Struct declarations by struct name. -/
  structs : List (String × String)
  /-- The active fields, by qualified name. -/
  active : NameSet

/-- The one string that a method takes. -/
def stringArgument : List Value → Except EvalFault String
  | [] => .error .missingArgument
  | v :: more =>
    match v.string? with
    | none => .error .notString
    | some s => if more.isEmpty then .ok s else .error .tooManyArguments

namespace Context

/-- The parts of a pass. -/
def part? (ctx : Context) : String → Option Value
  | "name" => some (.string ctx.pass)
  | _ => none

/-- The methods of a pass: its fragments, its struct declarations, and whether a field is active. -/
def call (ctx : Context) (method : String) (args : List Value) : Except EvalFault Value :=
  match method with
  | "splice" => do
    let name ← stringArgument args
    match ctx.fragments.lookup name with
    | some text => return .string text
    | none => .error (.unknownFragment name)
  | "build_type" => do
    let name ← stringArgument args
    match ctx.structs.lookup name with
    | some text => return .string text
    | none => .error (.unknownStruct name)
  | "active" => do
    let field ← stringArgument args
    return .bool (ctx.active.contains field)
  | _ =>
    match ctx.part? method with
    | some v => .error v.callFault
    | none => .error (.unknownPassMethod method)

end Context

end PassForge.Template
