import PassForge.Config.Json
import PassForge.Pass.Description

/-!
# Reading configurations

Passes, overrides, materials and settings can be given as JSON.  Every field may be missing and has
a default then; members with unknown names are passed over, and a known name may stand only once.
Only fields that can be missing in the result take `null`.

Settings, materials and overrides may also be arrays: the values of the fields in their order, from
the first one on.  A pass is an object, which also has the fields of its overrides.
-/

namespace PassForge

/-- Reads a value, if the JSON value fits. -/
abbrev Decoder (α : Type) := Json → Option α

namespace Decoder

/-- A string. -/
def text : Decoder String
  | .string s => s
  | _ => none

/-- A truth value. -/
def bool : Decoder Bool
  | .bool b => some b
  | _ => none

/-- A natural number below a limit. -/
def below (limit : Nat) : Decoder Nat
  | .natural n => if n < limit then some n else none
  | _ => none

/-- A natural number of 32 bits. -/
def word32 : Decoder Nat := below 4294967296

/-- A natural number of 64 bits. -/
def word64 : Decoder Nat := below 18446744073709551616

/-- A value or `null`. -/
def optional {α : Type} (d : Decoder α) : Decoder (Option α)
  | .null => some none
  | j => (d j).map some

/-- A list of values. -/
def list {α : Type} (d : Decoder α) : Decoder (List α)
  | .array items => items.mapM d
  | _ => none

/-- Two values. -/
def pair {α : Type} (d : Decoder α) : Decoder (α × α)
  | .array [a, b] => do return (← d a, ← d b)
  | _ => none

/-- The word that names a choice: a string, or an object with `null` under that name. -/
def choiceName : Decoder String
  | .string s => s
  | .object [(name, .null)] => name
  | _ => none

/-- One of some choices, by its name. -/
def choice {α : Type} (all : List α) (name : α → String) : Decoder α := fun j => do
  let s ← choiceName j
  all.find? fun a => name a == s

end Decoder

/-! ### Records -/

/-- A field of a record: its name, and how its value is put into the record. -/
structure RecordField (σ : Type) where
  name : String
  read : Json → σ → Option σ

namespace RecordField

variable {σ : Type}

/-- The field whose value a decoder reads. -/
def of {α : Type} (name : String) (d : Decoder α) (set : α → σ → σ) : RecordField σ :=
  ⟨name, fun j s => (d j).map (set · s)⟩

/-- Reads the members of an object.  `seen` are the known names that have been read. -/
def readMembers (fields : List (RecordField σ)) (seen : List String) :
    List (Option String × Json) → σ → Option σ
  | [], s => some s
  | (none, _) :: _, _ => none
  | (some name, j) :: rest, s =>
    match fields.find? (·.name == name) with
    | none => readMembers fields seen rest s
    | some f =>
      if name ∈ seen then none
      else do readMembers fields (name :: seen) rest (← f.read j s)

/-- Reads the items of an array, one for each field from the first one on. -/
def readItems : List (RecordField σ) → List Json → σ → Option σ
  | _, [], s => some s
  | [], _ :: _, _ => none
  | f :: fields, j :: rest, s => do readItems fields rest (← f.read j s)

/-- Reads a record from an object or an array; fields that are missing are those of `default`. -/
def decode (fields : List (RecordField σ)) (default : σ) : Decoder σ
  | .object members => readMembers fields [] members default
  | .array items => readItems fields items default
  | _ => none

end RecordField

/-! ### The configurations -/

namespace Settings

/-- The fields of settings. -/
def fields : List (RecordField Settings) := [
  .of "max_variants" .word64 fun v s => { s with maxVariants := v },
  .of "debug_active_fields" .bool fun v s => { s with listActiveFields := v },
  .of "header_comment" .bool fun v s => { s with headerComment := v }]

/-- Reads settings. -/
def decode : Decoder Settings := RecordField.decode fields {}

end Settings

namespace MaterialOptions

/-- The fields of a material. -/
def fields : List (RecordField MaterialOptions) :=
  let factor : Decoder BlendFactor := .choice BlendFactor.all BlendFactor.name
  [ .of "src_blend" factor fun v m => { m with srcBlend := v },
    .of "dst_blend" factor fun v m => { m with dstBlend := v },
    .of "alpha_blend" (.optional (.pair factor)) fun v m => { m with alphaBlend := v },
    .of "cull_mode" (.choice CullMode.all CullMode.name) fun v m => { m with cullMode := v },
    .of "ztest" (.choice DepthTest.all DepthTest.name) fun v m => { m with depthTest := v },
    .of "zwrite" (.choice DepthWrite.all DepthWrite.name) fun v m => { m with depthWrite := v },
    .of "zclip" (.choice DepthClip.all DepthClip.name) fun v m => { m with depthClip := v },
    .of "lod" .word32 fun v m => { m with lod := v }]

/-- Reads a material. -/
def decode : Decoder MaterialOptions := RecordField.decode fields {}

end MaterialOptions

namespace Overrides

/-- The fields of overrides. -/
def fields : List (RecordField Overrides) := [
  .of "blend" (.optional .text) fun v o => { o with blend := v },
  .of "blend_op" (.optional .text) fun v o => { o with blendOp := v },
  .of "cull" (.optional .text) fun v o => { o with cull := v },
  .of "ztest" (.optional .text) fun v o => { o with depthTest := v },
  .of "zwrite" (.optional .text) fun v o => { o with depthWrite := v },
  .of "color_mask" (.optional .text) fun v o => { o with colorMask := v },
  .of "stencil" (.optional (.list .text)) fun v o => { o with stencil := v }]

/-- Reads overrides. -/
def decode : Decoder Overrides := RecordField.decode fields {}

end Overrides

namespace Pass

/-- The fields of a pass other than those of its overrides. -/
def ownFields : List (RecordField Pass) := [
  .of "name" .text fun v p => { p with name := v },
  .of "light_mode" .text fun v p => { p with lightMode := v },
  .of "shader_pass_name" .text fun v p => { p with shaderPass := v },
  .of "template" .text fun v p => { p with template := v },
  .of "includes" (.list .text) fun v p => { p with includes := v },
  .of "extra_instancing_options" (.list .text) fun v p => { p with instancingOptions := v },
  .of "extra_defines" (.list .text) fun v p => { p with extraDefines := v },
  .of "vertex_slots" (.list .word32) fun v p => { p with vertexSlots := v },
  .of "pixel_slots" (.list .word32) fun v p => { p with pixelSlots := v },
  .of "required_fields" (.list .text) fun v p => { p with requiredFields := v }]

/-- A field of overrides as a field of the pass that has them. -/
def liftField (f : RecordField Overrides) : RecordField Pass :=
  ⟨f.name, fun j p => (f.read j p.overrides).map fun o => { p with overrides := o }⟩

/-- The fields of a pass. -/
def fields : List (RecordField Pass) := ownFields ++ Overrides.fields.map liftField

/-- The deepest nesting that a pass may have. -/
def maxDepth : Nat := 127

/-- Reads a pass.  All of its members are looked at, so their values have to be plain and not too
deep. -/
def decode : Decoder Pass
  | .object members =>
    if Json.membersPlain members && Json.membersDepth members < maxDepth then
      RecordField.readMembers fields [] members {}
    else none
  | _ => none

end Pass

end PassForge
