import PassForge.Digest.Xxh3
import PassForge.Generator.Branch

/-!
# Generating passes

A pass is generated in three steps: its plan, the branches of its variants, and the template into
which the fragments of the pass are spliced.

The set of active fields is handed in and handed back (`Outcome.active`).  It is left alone if the
plan fails, and does not depend on the template.
-/

namespace PassForge

/-- A pass that has been generated. -/
structure GeneratedPass where
  name : String
  source : String
  /-- The variants in the order of emission. -/
  variants : List KeywordSet
  /-- The active fields at the end. -/
  active : NameSet
  /-- The templates that were read. -/
  dependencies : List String
deriving DecidableEq, Repr

/-- The digest of the source of a pass. -/
def GeneratedPass.digest (p : GeneratedPass) : Digest.Hash128 := Digest.Xxh3.hash p.source.toUTF8

/-- What comes of generating a pass. -/
structure Outcome where
  result : Except PassError GeneratedPass
  /-- The active fields, for the caller. -/
  active : NameSet
  events : List Event

namespace Generator

variable (gen : Generator) (pass : Pass) (plan : Plan)

/-! ### Fragments -/

/-- The code of the material graph. -/
def graphCode (sections : Sections) (functions : FunctionLibrary) : Code :=
  Code.line "// Shared Graph Properties (uniform inputs)" ++ sections.properties ++
    (if plan.vertexActive then
      Code.line "// Vertex Graph Inputs" ++ sections.vertexInputs ++
        Code.line "// Vertex Graph Outputs" ++ sections.vertexOutputs
    else []) ++
    Code.line "// Pixel Graph Inputs" ++ sections.pixelInputs ++
    Code.line "// Pixel Graph Outputs" ++ sections.pixelOutputs ++
    Code.line "// Shared Graph Node Functions" ++ functions.code ++
    (if plan.vertexActive then
      Code.line "// Vertex Graph Evaluation" ++ sections.vertexEvaluation
    else []) ++
    Code.line "// Pixel Graph Evaluation" ++ sections.pixelEvaluation

/-- The lines that turn on instanced drawing. -/
def instancingCode : Code :=
  Code.line "#pragma multi_compile_instancing" ++ pass.instancingOptions.flatMap Code.line

/-- The fragments that hold the render state. -/
def stateFragments : List (String × String) :=
  let states := RenderStates.resolve pass.overrides gen.material
  [("Blending", states.blending), ("Culling", states.culling), ("ZTest", states.depthTest),
    ("ZWrite", states.depthWrite), ("ZClip", states.depthClip), ("Stencil", states.stencil),
    ("ColorMask", states.colorMask), ("LOD", states.lod)]

/-- The fragments of a pass. -/
def fragments (d : Draft) : List (String × String) :=
  let sections := Sections.assemble plan.vocabulary d.branches
  [("InstancingOptions", (instancingCode pass).text),
    ("Keywords", "\n".intercalate (plan.groups.groups.map KeywordGroup.pragma)),
    ("Graph", (graphCode plan sections d.functions).text),
    ("Defines", sections.defines.text),
    ("LightMode", pass.lightMode),
    ("PassName", pass.name),
    ("Includes", "\n".intercalate pass.includes)] ++ gen.stateFragments pass

/-- The declarations of all structs. -/
def declarations (active : NameSet) : List (String × String) :=
  gen.registry.structs.map fun s => (s.name, (s.declaration active).text)

/-- What the template can reach. -/
def context (d : Draft) : Template.Context where
  pass := pass.name
  fragments := gen.fragments pass plan d
  structs := gen.declarations d.active
  active := d.active

/-! ### Passes -/

/-- The comment at the start of a generated source. -/
def header : String := "// === Auto-generated by Loom: pass " ++ pass.name ++ " ===\n"

/-- The pass of a draft, spliced into its template. -/
def finish (d : Draft) : Except PassError GeneratedPass := do
  let context := gen.context pass plan d
  let spliced ← (Template.splice gen.store context pass.template).mapError .template
  return {
    name := pass.name
    source := (if gen.settings.headerComment then header pass else "") ++ spliced.text
    variants := plan.variants
    active := d.active
    dependencies := spliced.dependencies }

/-- The events of a result. -/
def resultEvents : Except PassError GeneratedPass → List Event
  | .ok _ => []
  | .error e => e.events pass.name

/-- Generates a pass; `seed` are the fields active before. -/
def generate (seed : NameSet) : Outcome :=
  let planned := gen.plan pass
  let events := gen.planEvents pass planned
  match planned with
  | .error e => ⟨.error e, seed, events⟩
  | .ok plan =>
    let d := gen.draft pass plan seed
    let result := gen.finish pass plan d
    ⟨result, d.active, events ++ d.events ++ resultEvents pass result⟩

/-- Generates a pass by itself, and tells of a failure. -/
def generateAlone : Outcome :=
  let outcome := gen.generate pass ∅
  match outcome.result with
  | .ok _ => outcome
  | .error e =>
    { outcome with events := outcome.events ++ [.passFailed pass.name (e.message pass.name)] }

/-- Generates passes one by one, each with active fields of its own. -/
def generateAll (passes : List Pass) : List Outcome := passes.map gen.generateAlone

/-- Generates passes in turn on one set of active fields. -/
def generateShared (seed : NameSet) : List Pass → List Outcome × NameSet
  | [] => ([], seed)
  | pass :: rest =>
    let outcome := gen.generate pass seed
    let (outcomes, active) := generateShared outcome.active rest
    (outcome :: outcomes, active)

end Generator

end PassForge
