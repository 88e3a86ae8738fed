import PassForge.Bisection
import PassForge.SymbolTable

/-!
# Sets of symbols

How a set of names is stored: as the symbols of its members, in the order of their *names*.  The
place of a symbol is found by bisection, and two symbols are compared by the names behind them, so
that the numbers of the symbols never matter.

All operations need the table that gives the symbols their names.  The table may have grown since a
set was made.
-/

namespace PassForge

/-- The name behind a symbol of the table. -/
def SymbolTable.nameOf (table : SymbolTable) (symbol : Nat) : String :=
  (table.resolve? symbol).getD ""

/-- The symbols of a set of names, by increasing name. -/
structure SymbolSet where
  symbols : List Nat
deriving DecidableEq, Repr

namespace SymbolSet

/-- The empty set. -/
def empty : SymbolSet := ⟨[]⟩

instance : EmptyCollection SymbolSet := ⟨empty⟩

variable (table : SymbolTable)

/-- The names of the members, in the order in which their symbols are stored. -/
def names (s : SymbolSet) : List String := s.symbols.map table.nameOf

/-- The number of members. -/
def size (s : SymbolSet) : Nat := s.symbols.length

/-- Whether there is no member. -/
def isEmpty (s : SymbolSet) : Bool := s.symbols.isEmpty

/-- Where a symbol stands or would have to stand. -/
def place (s : SymbolSet) (symbol : Nat) : Place :=
  bisect (fun member => compare (table.nameOf member) (table.nameOf symbol)) s.symbols

/-- Whether a symbol is a member. -/
def containsSymbol (s : SymbolSet) (symbol : Nat) : Bool := (s.place table symbol).isFound

/-- Whether a name is a member.  A name without a symbol is not. -/
def contains (s : SymbolSet) (name : String) : Bool :=
  match table.find? name with
  | none => false
  | some symbol => s.containsSymbol table symbol

/-- Adds a symbol at its place, and says whether it was missing. -/
def insertSymbol (s : SymbolSet) (symbol : Nat) : Bool × SymbolSet :=
  match s.place table symbol with
  | .found _ => (false, s)
  | .missing index => (true, ⟨s.symbols.insertIdx index symbol⟩)

/-- Takes a name out, and says whether it was there.  A name without a symbol is not looked for. -/
def remove (s : SymbolSet) (name : String) : Bool × SymbolSet :=
  match table.find? name with
  | none => (false, s)
  | some symbol =>
    match s.place table symbol with
    | .found index => (true, ⟨s.symbols.eraseIdx index⟩)
    | .missing _ => (false, s)

/-- Adds symbols in turn. -/
def insertSymbols (s : SymbolSet) (symbols : List Nat) : SymbolSet :=
  symbols.foldl (fun s symbol => (s.insertSymbol table symbol).2) s

/-- Adds the members of another set. -/
def extend (s t : SymbolSet) : SymbolSet := s.insertSymbols table t.symbols

/-- Whether every member of `s` is a member of `t`. -/
def isSubset (s t : SymbolSet) : Bool := s.symbols.all (t.containsSymbol table)

/-- The members between braces, divided by a comma and a blank. -/
def render (s : SymbolSet) : String := "\x7b" ++ ", ".intercalate (s.names table) ++ "\x7d"

/-- Interns a name and adds its symbol; says whether it was missing. -/
protected def insert (s : SymbolSet) (name : String) : Bool × SymbolSet × SymbolTable :=
  let (symbol, table) := table.intern name
  let (added, s) := s.insertSymbol table symbol
  (added, s, table)

/-- Interns names and adds their symbols, in turn. -/
def insertAll (s : SymbolSet) (names : List String) : SymbolSet × SymbolTable :=
  names.foldl (fun (s, table) name => (s.insert table name).2) (s, table)

end SymbolSet

end PassForge
