import PassForge.Schema.Cycle

/-!
# Schema registries

A registry holds the struct schemas of a pass and the dependencies between their fields.  `build`
refuses two schemas of one name, and dependencies in which a field needs itself.
-/

namespace PassForge

/-- Why schemas and dependencies make no registry. -/
inductive RegistryError where
  /-- Two schemas have this name. -/
  | duplicateStruct (name : String)
  /-- This field needs itself. -/
  | cyclicDependency (field : String)
deriving DecidableEq, Repr

/-- The error in words. -/
def RegistryError.message : RegistryError → String
  | duplicateStruct name => "Duplicate struct schema: " ++ name
  | cyclicDependency field => s!"Cyclic field dependency through '{field}'"

/-- Schemas and dependencies. -/
structure Registry where
  structs : List StructSchema
  tables : List DependencyTable
deriving DecidableEq, Repr

/-- The first name of a list that is repeated, where `seen` are the names before it. -/
def firstRepeated (seen : List String) : List String → Option String
  | [] => none
  | a :: rest => if a ∈ seen then some a else firstRepeated (a :: seen) rest

namespace Registry

/-- The schema of a name. -/
def get? (r : Registry) (name : String) : Option StructSchema := r.structs.find? (·.name == name)

/-- The table of a name. -/
def table? (r : Registry) (name : String) : Option DependencyTable :=
  r.tables.find? (·.name == name)

/-- All dependencies, table by table. -/
def dependencies (r : Registry) : List Dependency := r.tables.flatMap DependencyTable.edges

/-- The registry of schemas and tables, if they are in order. -/
def build (structs : List StructSchema) (tables : List DependencyTable) :
    Except RegistryError Registry :=
  match firstRepeated [] (structs.map StructSchema.name) with
  | some name => .error (.duplicateStruct name)
  | none =>
    let registry : Registry := ⟨structs, tables⟩
    match findCycle registry.dependencies with
    | some field => .error (.cyclicDependency field)
    | none => .ok registry

end Registry

end PassForge
