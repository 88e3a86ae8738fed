/-!
# Symbol tables

Names are interned: the first occurrence of a name gives it the next free symbol, later ones find
that symbol again.  Symbols are numbered from zero in the order in which names arrive.
-/

namespace PassForge

/-- The interned names; the symbol of a name is its position. -/
structure SymbolTable where
  /-- The names in order of arrival, each once. -/
  names : List String
deriving Repr

namespace SymbolTable

/-- A table without names. -/
def empty : SymbolTable := ⟨[]⟩

/-- The symbol of a name that has been interned. -/
def find? (table : SymbolTable) (name : String) : Option Nat :=
  table.names.findIdx? (· = name)

/-- The name behind a symbol. -/
def resolve? (table : SymbolTable) (symbol : Nat) : Option String := table.names[symbol]?

/-- The symbol of `name`, and the table that has it. -/
def intern (table : SymbolTable) (name : String) : Nat × SymbolTable :=
  match table.find? name with
  | some symbol => (symbol, table)
  | none => (table.names.length, ⟨table.names ++ [name]⟩)

/-- Interns a list of names, giving the symbol of each. -/
def internAll (table : SymbolTable) : List String → List Nat × SymbolTable
  | [] => ([], table)
  | name :: rest =>
    let (symbol, table) := table.intern name
    let (symbols, table) := table.internAll rest
    (symbol :: symbols, table)

/-- Names that nearly every pass uses. -/
def commonNames : List String :=
  ["_", "UNITY_ANY_INSTANCING_ENABLED", "SHADER_STAGE_FRAGMENT", "DEBUG_DISPLAY", "LIGHTMAP_ON",
    "DIRLIGHTMAP_COMBINED", "DYNAMICLIGHTMAP_ON", "SHADOWS_SHADOWMASK", "WRITE_NORMAL_BUFFER",
    "WRITE_MSAA_DEPTH", "features.modifyMesh"]

/-- The table of the common names. -/
def common : SymbolTable := (empty.internAll commonNames).2

end SymbolTable

end PassForge
