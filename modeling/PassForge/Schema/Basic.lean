import PassForge.Graph.ValueType
import PassForge.NameSet
import PassForge.Source.Code

/-!
# Struct schemas

A schema says which members a struct of a pass can have.  An optional member is declared only if it
is active; a guarded one stands between preprocessor conditionals.  `declaration` writes the struct
for a set of active fields, its members in the order of the schema.

Fields are known by their qualified name, the struct and the member divided by a dot.  A dependency
says that a field needs another one.
-/

namespace PassForge

/-- A member that a struct can have. -/
structure FieldSchema where
  name : String
  type : ValueType
  semantic : Option String := none
  /-- A type name to write in place of that of `type`. -/
  typeOverride : Option String := none
  /-- Whether the member is declared only if it is active. -/
  optional : Bool := false
  /-- The preprocessor condition the member stands under. -/
  guard : Option String := none
deriving DecidableEq, Repr

namespace FieldSchema

/-- The type name that is written. -/
def typeName (f : FieldSchema) : String := f.typeOverride.getD f.type.name

/-- The line that declares the member. -/
def line (f : FieldSchema) : String :=
  match f.semantic with
  | some semantic => f.typeName ++ " " ++ f.name ++ " : " ++ semantic ++ ";"
  | none => f.typeName ++ " " ++ f.name ++ ";"

/-- The declaration of the member, between its conditionals. -/
def code (f : FieldSchema) : Code :=
  match f.guard with
  | some guard => Code.line ("#if " ++ guard) ++ Code.line f.line ++ Code.line "#endif"
  | none => Code.line f.line

end FieldSchema

/-- The name of a member together with its struct. -/
def qualify (struct member : String) : String := struct ++ "." ++ member

/-- The members that a struct can have, in the order they are declared. -/
structure StructSchema where
  name : String
  fields : List FieldSchema
deriving DecidableEq, Repr

namespace StructSchema

/-- The qualified name of a member. -/
def qualified (s : StructSchema) (f : FieldSchema) : String := qualify s.name f.name

/-- Whether a member is declared under a set of active fields. -/
def emits (s : StructSchema) (active : NameSet) (f : FieldSchema) : Bool :=
  !f.optional || active.contains (s.qualified f)

/-- The members declared under a set of active fields. -/
def emitted (s : StructSchema) (active : NameSet) : List FieldSchema :=
  s.fields.filter (s.emits active)

/-- The declaration of the struct under a set of active fields. -/
def declaration (s : StructSchema) (active : NameSet) : Code :=
  .block ("struct " ++ s.name) ((s.emitted active).flatMap FieldSchema.code) "\x7d;"

end StructSchema

/-- The field `consumer` needs the field `producer`. -/
structure Dependency where
  consumer : String
  producer : String
deriving DecidableEq, Repr

/-- The dependency as text. -/
def Dependency.render (d : Dependency) : String := d.consumer ++ " -> " ++ d.producer

/-- Dependencies under a name. -/
structure DependencyTable where
  name : String
  edges : List Dependency
deriving DecidableEq, Repr

end PassForge
