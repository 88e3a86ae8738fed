import PassForge.Graph.Node
import PassForge.Source.Code

/-!
# Shared functions

The functions that the nodes of a pass share.  A function is identified by its name: the first one
of a name is kept, in the order in which they come.
-/

namespace PassForge

/-- Functions with distinct names, in the order they came. -/
structure FunctionLibrary where
  functions : List NodeFunction
  /-- No name is repeated. -/
  distinct : (functions.map NodeFunction.name).Nodup
deriving Repr

namespace FunctionLibrary

/-- No function. -/
def empty : FunctionLibrary := ⟨[], List.nodup_nil⟩

/-- The names of the functions. -/
def names (l : FunctionLibrary) : List String := l.functions.map NodeFunction.name

/-- Whether there is a function of a name. -/
def provides (l : FunctionLibrary) (name : String) : Bool := decide (name ∈ l.names)

/-- Adds a function, unless there is one of its name. -/
def insert (l : FunctionLibrary) (f : NodeFunction) : FunctionLibrary :=
  if h : f.name ∈ l.names then l
  else
    { functions := l.functions ++ [f]
      distinct := by
        rw [List.map_append]
        refine List.nodup_append.2 ⟨l.distinct, by simp, fun a ha b hb hab => h ?_⟩
        rw [List.map_singleton, List.mem_singleton] at hb
        exact hb ▸ hab ▸ ha }

/-- Adds functions in turn. -/
def insertAll (l : FunctionLibrary) (fs : List NodeFunction) : FunctionLibrary :=
  fs.foldl insert l

/-- The number of functions. -/
def size (l : FunctionLibrary) : Nat := l.functions.length

/-- Whether there is no function. -/
def isEmpty (l : FunctionLibrary) : Bool := l.functions.isEmpty

/-- The code of the functions, an empty line after each. -/
def code (l : FunctionLibrary) : Code :=
  l.functions.flatMap fun f => Code.lines f.source ++ Code.line ""

end FunctionLibrary

end PassForge
