import PassForge.Event
import PassForge.Pass.Description
import PassForge.Schema.Registry
import PassForge.Template.Splice
import PassForge.Variant.Enumeration
import PassForge.Variant.Index

/-!
# Planning a pass

A generator is a material graph with its root, and what all its passes have in common.  Before any
code of a pass is written, its plan is made: the slots of each stage that the root has, the keyword
groups and variants, and for each variant the nodes that count and what they need.

Planning fails if there is no root, or if there are too many variants.
-/

namespace PassForge

/-- What passes are generated from. -/
structure Generator where
  graph : MaterialGraph
  /-- The node whose inputs the stages evaluate. -/
  root : NodeId
  registry : Registry
  settings : Settings
  material : MaterialOptions
  store : Template.Store

/-- Why a pass cannot be generated. -/
inductive PassError where
  | graph (error : GraphError)
  | variants (error : VariantLimit)
  | template (error : Template.SpliceError)
deriving Repr

/-- The error of a pass in words. -/
def PassError.message (pass : String) : PassError → String
  | graph e => e.message
  | variants e =>
    s!"Pass '{pass}' would generate {e.count} variants (limit {e.limit})"
  | template (.notFound path) => s!"Template not found for pass '{pass}': {path}"
  | template (.malformed detail) => s!"Malformed template directive in pass '{pass}': {detail}"
  | template (.ungrammatical fault place) =>
    let detail := s!"syntax error: {fault.message}" ++ place.text
    s!"Malformed template directive in pass '{pass}': {detail}"
  | template (.unreadable path failure) =>
    s!"Failed to read template '{path}': " ++ failure.message

/-- The events of an error. -/
def PassError.events (pass : String) : PassError → List Event
  | template (.notFound path) => [.templateMissing pass path]
  | _ => []

/-- A stage of a pass. -/
structure StagePlan where
  stage : Stage
  /-- The slots of the root that the stage evaluates. -/
  slots : List SlotId
  /-- The nodes that count, by variant. -/
  nodes : NodeIndex
  /-- What they need, by variant. -/
  requirements : RequirementIndex
deriving Repr

namespace StagePlan

/-- The nodes of a variant, in the order of evaluation. -/
def nodesOf (p : StagePlan) (v : KeywordSet) : List NodeId := (p.nodes.get? v).getD []

end StagePlan

/-- What is known of a pass before its code is written. -/
structure Plan where
  groups : GroupTable
  found : VariantSet
  pixel : StagePlan
  vertex : StagePlan
  /-- What the nodes of both stages need, by variant. -/
  requirements : RequirementIndex
  /-- Whether the vertex stage has anything to evaluate. -/
  vertexActive : Bool
deriving Repr

namespace Plan

/-- The variants in the order of emission. -/
def variants (p : Plan) : List KeywordSet := p.found.ordered

/-- The keywords that occur in a variant. -/
def vocabulary (p : Plan) : KeywordSet := p.found.vocabulary

/-- The stages that are written, the pixel stage first. -/
def stages (p : Plan) : List StagePlan := if p.vertexActive then [p.pixel, p.vertex] else [p.pixel]

end Plan

namespace Generator

variable (gen : Generator)

/-- The plan of a stage. -/
def planStage (stage : Stage) (slots : List SlotId) (variants : List KeywordSet) :
    Except GraphError StagePlan := do
  let nodes ← NodeIndex.build gen.graph gen.root slots variants
  return ⟨stage, slots, nodes, .ofNodes gen.graph nodes⟩

/-- The keyword groups of both stages. -/
def collectGroups (vertexSlots pixelSlots : List SlotId) : Except GraphError GroupTable := do
  let groups ← GroupTable.empty.collect gen.graph gen.root vertexSlots
  groups.collect gen.graph gen.root pixelSlots

/-- The plan of a pass. -/
def plan (pass : Pass) : Except PassError Plan := do
  let pixelSlots ← (gen.graph.resolveSlots gen.root pass.pixelSlots).mapError .graph
  let vertexSlots ← (gen.graph.resolveSlots gen.root pass.vertexSlots).mapError .graph
  let groups ← (gen.collectGroups vertexSlots pixelSlots).mapError .graph
  let found ← (groups.enumerate gen.settings.maxVariants).mapError .variants
  let pixel ← (gen.planStage .pixel pixelSlots found.ordered).mapError .graph
  let vertex ← (gen.planStage .vertex vertexSlots found.ordered).mapError .graph
  return {
    groups, found, pixel, vertex
    requirements := pixel.requirements.union vertex.requirements
    vertexActive := vertexSlots.any fun slot => gen.graph.isConnected ⟨gen.root, slot⟩ }

/-- The events of looking up slots of the root. -/
def slotEvents (slots : List SlotId) : List Event :=
  match gen.graph.node? gen.root with
  | none => []
  | some n => (n.absentSlots slots).map fun slot => .slotSkipped slot n.name

/-- The events of planning a pass, where `result` is what came of it. -/
def planEvents (pass : Pass) (result : Except PassError Plan) : List Event :=
  gen.slotEvents pass.pixelSlots ++ gen.slotEvents pass.vertexSlots ++
    match result with
    | .error _ => []
    | .ok p => [.variantsFound pass.name p.groups.groups.length p.found.size]

end Generator

end PassForge
