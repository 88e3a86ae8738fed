import PassForge.Emit.Evaluation
import PassForge.Emit.FunctionLibrary
import PassForge.Generator.Plan
import PassForge.Keyword.Guard
import PassForge.Schema.Closure

/-!
# Branches

Every variant of a pass contributes a branch: the texts of eight sections.  A branch is written
against the active fields of that moment: what was active before, what the variant itself activates
(`seeds`), and what all of that needs.

The branches of a pass are put together section by section.  With more than one variant, the texts
of a section stand in a chain of preprocessor conditionals; a single one stands by itself.
-/

namespace PassForge

/-- The sections of a pass that differ between variants. -/
structure Sections where
  properties : Code
  vertexInputs : Code
  vertexOutputs : Code
  vertexEvaluation : Code
  pixelInputs : Code
  pixelOutputs : Code
  pixelEvaluation : Code
  defines : Code
deriving DecidableEq, Repr

/-- The sections of one variant. -/
structure Branch where
  variant : KeywordSet
  sections : Sections
deriving DecidableEq, Repr

/-- Texts under conditions, one after the other; a single one needs no condition. -/
def chain : List (Condition × Code) → Code
  | [(_, code)] => code
  | branches =>
    (branches.flatMap fun (condition, code) => Code.line condition.line ++ code) ++
      Code.line "#endif"

/-- A section of all branches. -/
def sectionOf (vocabulary : KeywordSet) (branches : List Branch) (part : Sections → Code) : Code :=
  chain (branches.zipIdx.map fun (b, i) =>
    (Condition.ofVariant i b.variant vocabulary, part b.sections))

/-- The sections of all branches. -/
def Sections.assemble (vocabulary : KeywordSet) (branches : List Branch) : Sections :=
  let assembled := sectionOf vocabulary branches
  { properties := assembled Sections.properties
    vertexInputs := assembled Sections.vertexInputs
    vertexOutputs := assembled Sections.vertexOutputs
    vertexEvaluation := assembled Sections.vertexEvaluation
    pixelInputs := assembled Sections.pixelInputs
    pixelOutputs := assembled Sections.pixelOutputs
    pixelEvaluation := assembled Sections.pixelEvaluation
    defines := assembled Sections.defines }

/-- The field that is active when the vertex stage changes the mesh. -/
def modifyMesh : String := "features.modifyMesh"

namespace Generator

variable (gen : Generator) (pass : Pass) (plan : Plan)

/-- The fields that a stage activates in a variant. -/
def stageSeeds (p : StagePlan) (v : KeywordSet) : List String :=
  (p.requirements.get v).qualifiedFields p.stage p.stage.names.inputStruct ++
    gen.graph.outputFields gen.root p.slots p.stage.names

/-- The fields that a variant activates. -/
def seeds (v : KeywordSet) : List String :=
  gen.stageSeeds plan.pixel v ++
    if plan.vertexActive then modifyMesh :: gen.stageSeeds plan.vertex v else []

/-- The functions that the nodes of a variant share, those of the pixel stage first. -/
def functionsOf (v : KeywordSet) : List NodeFunction :=
  plan.stages.flatMap fun p => gen.graph.sharedFunctions (p.nodesOf v)

/-- The declaration of the struct that a stage reads, if there is a schema for it. -/
def inputStruct (stage : Stage) (active : NameSet) : Code :=
  match gen.registry.get? stage.names.inputStruct with
  | some schema => schema.declaration active
  | none => []

/-- The declaration of the struct that a stage computes. -/
def outputsOf (p : StagePlan) : Code := gen.graph.outputStruct gen.root p.slots p.stage.names

/-- The evaluation function of a stage. -/
def evaluationOf (p : StagePlan) (v : KeywordSet) : Code :=
  gen.graph.evaluationFunction gen.root (p.nodesOf v) p.slots v p.stage.names

/-- The list of the active fields, in comments. -/
def fieldComments (active : NameSet) : Code :=
  Code.line "// ACTIVE FIELDS:" ++ active.names.flatMap fun field => Code.line ("//   " ++ field)

/-- The defines of a variant. -/
def definesOf (v : KeywordSet) (active : NameSet) : Code :=
  let needs := plan.requirements.get v
  (if gen.settings.listActiveFields then fieldComments active else []) ++
    Code.line ("#define SHADERPASS " ++ pass.shaderPass) ++
    pass.extraDefines.flatMap Code.line ++
    (if needs.depthTexture then Code.line "#define REQUIRE_DEPTH_TEXTURE" else []) ++
    (if needs.opaqueTexture then Code.line "#define REQUIRE_OPAQUE_TEXTURE" else [])

/-- The properties of the nodes of a variant. -/
def propertiesOf (v : KeywordSet) : Code :=
  (gen.graph.properties (plan.stages.flatMap fun p => p.nodesOf v)).flatMap Code.line

/-- The sections of a variant, where `active` are the fields active in it. -/
def sectionsOf (v : KeywordSet) (active : NameSet) : Sections where
  properties := gen.propertiesOf plan v
  vertexInputs := gen.inputStruct .vertex active
  vertexOutputs := if plan.vertexActive then gen.outputsOf plan.vertex else []
  vertexEvaluation := if plan.vertexActive then gen.evaluationOf plan.vertex v else []
  pixelInputs := gen.inputStruct .pixel active
  pixelOutputs := gen.outputsOf plan.pixel
  pixelEvaluation := gen.evaluationOf plan.pixel v
  defines := gen.definesOf pass plan v active

/-- What has been written of a pass. -/
structure Draft where
  /-- The active fields. -/
  active : NameSet
  functions : FunctionLibrary
  branches : List Branch
  events : List Event
deriving Repr

/-- A pass of which nothing has been written. -/
def Draft.start (active : NameSet) : Draft := ⟨active, .empty, [], []⟩

/-- The events of closing the active fields of a variant. -/
def closureEvents (v : KeywordSet) (c : Closure) : List Event :=
  (c.activated.map fun d => .activated d.producer d.consumer) ++
    [.fieldsClosed pass.name v.render c.fields.size c.scans]

/-- Writes the branch of a variant. -/
def addBranch (d : Draft) (v : KeywordSet) : Draft :=
  let closure := Closure.close gen.registry.dependencies (d.active.insertAll (gen.seeds plan v))
  { active := closure.fields
    functions := d.functions.insertAll (gen.functionsOf plan v)
    branches := d.branches ++ [⟨v, gen.sectionsOf pass plan v closure.fields⟩]
    events := d.events ++ closureEvents pass v closure }

/-- Writes the branches of all variants; `seed` are the fields active before. -/
def draft (seed : NameSet) : Draft :=
  plan.variants.foldl (gen.addBranch pass plan) (.start (seed.insertAll pass.requiredFields))

end Generator

end PassForge
