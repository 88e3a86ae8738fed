/-!
# Value types

The types of the values that slots carry and struct members hold.
-/

namespace PassForge

/-- The type of a value. -/
inductive ValueType where
  | float | float2 | float3 | float4 | uint | bool
deriving DecidableEq, Repr

namespace ValueType

/-- All types, in the order of their declaration. -/
def all : List ValueType := [float, float2, float3, float4, uint, bool]

/-- The name of the type in shader code. -/
def name : ValueType → String
  | float => "float"
  | float2 => "float2"
  | float3 => "float3"
  | float4 => "float4"
  | uint => "uint"
  | bool => "bool"

/-- The literal for zero. -/
def zero : ValueType → String
  | float => "0"
  | float2 => "float2(0, 0)"
  | float3 => "float3(0, 0, 0)"
  | float4 => "float4(0, 0, 0, 0)"
  | uint => "0u"
  | bool => "false"

/-- The type with a given name. -/
def ofName? (s : String) : Option ValueType := all.find? (·.name == s)

end ValueType

end PassForge
