import PassForge.Emit.Expansion
import PassForge.Schema.Basic

/-!
# Evaluation of a stage

A stage of a material graph turns into two declarations: a struct with one member for every slot of
the root that the stage evaluates, and a function that computes it.  The body of the function is a
list of statements: every node in turn declares its outputs and computes them, then the members are
assigned.

A node without code passes on the input that its first switch has chosen, or gives its defaults.
-/

namespace PassForge

/-- The names that the code of a stage uses. -/
structure StageNames where
  /-- The struct the stage computes. -/
  outputStruct : String
  /-- The function that computes it. -/
  function : String
  /-- The struct the function is given. -/
  inputStruct : String
  /-- The variable that holds the result. -/
  result : String
deriving DecidableEq, Repr

/-- The names of the stages. -/
def Stage.names : Stage → StageNames
  | .pixel =>
    ⟨"SurfaceDescription", "SurfaceDescriptionFunction", "SurfaceDescriptionInputs", "surface"⟩
  | .vertex =>
    ⟨"VertexDescription", "VertexDescriptionFunction", "VertexDescriptionInputs", "description"⟩

/-- A statement of an evaluation function. -/
inductive BodyStatement where
  /-- Declares a variable. -/
  | declare (type : ValueType) (variableName : String)
  /-- The code of a node. -/
  | snippet (pieces : List Piece)
  /-- Assigns a value. -/
  | assign (target : String) (value : Piece)
  /-- Declares the result. -/
  | begin (names : StageNames)
  /-- Returns the result. -/
  | finish (names : StageNames)
deriving DecidableEq, Repr

namespace BodyStatement

/-- The lines of a statement. -/
def code : BodyStatement → Code
  | declare type name => .line (type.name ++ " " ++ name ++ ";")
  | snippet pieces => .lines (Piece.join pieces)
  | assign target value => .line (target ++ " = " ++ value.text ++ ";")
  | begin names =>
    .line (names.outputStruct ++ " " ++ names.result ++ " = (" ++ names.outputStruct ++ ")0;")
  | finish names => .line ("return " ++ names.result ++ ";")

end BodyStatement

namespace MaterialGraph

variable (g : MaterialGraph)

/-- The slots of the root out of a list of numbers. -/
def rootSlots (root : NodeId) (slots : List SlotId) : List Slot :=
  match g.node? root with
  | none => []
  | some n => slots.filterMap n.slot?

/-- The qualified names of the members of the struct that a stage computes. -/
def outputFields (root : NodeId) (slots : List SlotId) (names : StageNames) : List String :=
  (g.rootSlots root slots).map fun s => qualify names.outputStruct (Text.sanitize s.name)

/-- The declaration of the struct that a stage computes. -/
def outputStruct (root : NodeId) (slots : List SlotId) (names : StageNames) : Code :=
  .block ("struct " ++ names.outputStruct)
    ((g.rootSlots root slots).flatMap fun s =>
      Code.line (s.type.name ++ " " ++ Text.sanitize s.name ++ ";"))
    "\x7d;"

/-- The value that an output takes when the node has no code. -/
def passedOn (id : NodeId) (n : Node) (variant : KeywordSet) (output : Slot) : Piece :=
  match (n.switches.bind List.head?).bind (·.selected variant) with
  | some slot => g.inputValue id n slot
  | none => .literal output.literal

/-- The statements that compute the outputs of a node, after their declarations. -/
def compute (id : NodeId) (n : Node) (variant : KeywordSet) : List BodyStatement :=
  match n.code with
  | some code => [.snippet (g.expand id n code)]
  | none => n.outputs.map fun s => .assign (n.variableName s) (g.passedOn id n variant s)

/-- The statements of a node. -/
def nodeBody (id : NodeId) (n : Node) (variant : KeywordSet) : List BodyStatement :=
  (n.outputs.map fun s => .declare s.type (n.variableName s)) ++ g.compute id n variant

/-- The statements of the nodes other than the root, in turn. -/
def nodesBody (root : NodeId) (ids : List NodeId) (variant : KeywordSet) : List BodyStatement :=
  (ids.filter (· ≠ root)).flatMap fun id =>
    match g.node? id with
    | none => []
    | some n => g.nodeBody id n variant

/-- The statements that assign the members of the result. -/
def resultBody (root : NodeId) (slots : List SlotId) (names : StageNames) : List BodyStatement :=
  match g.node? root with
  | none => []
  | some n => (slots.filterMap n.slot?).map fun s =>
      .assign (names.result ++ "." ++ Text.sanitize s.name) (g.inputValue root n s.id)

/-- The statements of the evaluation function of a stage. -/
def evaluationBody (root : NodeId) (ids : List NodeId) (slots : List SlotId)
    (variant : KeywordSet) (names : StageNames) : List BodyStatement :=
  g.nodesBody root ids variant ++ [.begin names] ++ g.resultBody root slots names ++
    [.finish names]

/-- The evaluation function of a stage. -/
def evaluationFunction (root : NodeId) (ids : List NodeId) (slots : List SlotId)
    (variant : KeywordSet) (names : StageNames) : Code :=
  .block (names.outputStruct ++ " " ++ names.function ++ "(" ++ names.inputStruct ++ " IN)")
    ((g.evaluationBody root ids slots variant names).flatMap BodyStatement.code) "\x7d"

/-- The functions that nodes share, in the order in which the nodes declare them. -/
def sharedFunctions (ids : List NodeId) : List NodeFunction :=
  (ids.filterMap g.node?).flatMap Node.functions

/-- The properties that nodes declare, each once. -/
def properties (ids : List NodeId) : List String :=
  ((ids.filterMap g.node?).flatMap Node.properties).eraseDups

end MaterialGraph

end PassForge
