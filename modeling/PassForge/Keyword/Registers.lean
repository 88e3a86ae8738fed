import PassForge.SymbolSet

/-!
# Registers of keyword sets

Keyword sets are built up in registers, over one table of symbols.  A step changes a register or
asks something about the registers; names may be interned for other uses at any time.
-/

namespace PassForge

/-- One call.  The registers are named by `ρ`. -/
inductive KeywordStep (ρ : Type) where
  /-- Interns a name and leaves the registers as they are. -/
  | intern (name : String)
  /-- Adds a name. -/
  | insert (register : ρ) (name : String)
  /-- Adds the symbol of a name. -/
  | insertSymbol (register : ρ) (name : String)
  /-- Takes a name out. -/
  | remove (register : ρ) (name : String)
  /-- Takes everything out. -/
  | clear (register : ρ)
  /-- Makes a new set of names. -/
  | assign (register : ρ) (names : List String)
  /-- Makes a new set of the symbols of names. -/
  | assignSymbols (register : ρ) (names : List String)
  /-- Adds the members of another register. -/
  | extend (register other : ρ)
  /-- Copies another register. -/
  | copy (register other : ρ)
  /-- Asks whether a name is a member. -/
  | contains (register : ρ) (name : String)
  /-- Asks whether the members are members of another register. -/
  | isSubset (register other : ρ)
  /-- Asks whether two registers hold equal sets. -/
  | equals (register other : ρ)
  /-- Asks for the number of members. -/
  | size (register : ρ)
  /-- Asks for the names of the members. -/
  | names (register : ρ)
  /-- Asks for the text of a set. -/
  | render (register : ρ)
deriving DecidableEq, Repr

/-- The answer to a step. -/
inductive KeywordAnswer where
  | done
  | flag (value : Bool)
  | count (value : Nat)
  | names (names : List String)
  | text (text : String)
deriving DecidableEq, Repr

/-- Keyword sets over one table of symbols. -/
structure KeywordRegisters (ρ : Type) where
  /-- The names interned so far. -/
  table : SymbolTable
  /-- The set in each register. -/
  sets : ρ → SymbolSet

namespace KeywordRegisters

variable {ρ : Type}

/-- All registers empty. -/
def start (table : SymbolTable) : KeywordRegisters ρ := ⟨table, fun _ => ∅⟩

/-- The names in a register, in the order in which they are stored. -/
def listed (d : KeywordRegisters ρ) (register : ρ) : List String :=
  (d.sets register).names d.table

/-- The text of the set in a register. -/
def text (d : KeywordRegisters ρ) (register : ρ) : String := (d.sets register).render d.table

variable [DecidableEq ρ]

/-- Puts a set into a register; the table may have grown. -/
def put (d : KeywordRegisters ρ) (register : ρ) (s : SymbolSet) (table : SymbolTable) :
    KeywordRegisters ρ :=
  ⟨table, fun r => if r = register then s else d.sets r⟩

/-- Takes a step. -/
def apply (d : KeywordRegisters ρ) : KeywordStep ρ → KeywordAnswer × KeywordRegisters ρ
  | .intern name => (.done, ⟨(d.table.intern name).2, d.sets⟩)
  | .insert r name =>
    let (added, s, table) := (d.sets r).insert d.table name
    (.flag added, d.put r s table)
  | .insertSymbol r name =>
    let (symbol, table) := d.table.intern name
    let (added, s) := (d.sets r).insertSymbol table symbol
    (.flag added, d.put r s table)
  | .remove r name =>
    let (removed, s) := (d.sets r).remove d.table name
    (.flag removed, d.put r s d.table)
  | .clear r => (.done, d.put r ∅ d.table)
  | .assign r names =>
    let (s, table) := SymbolSet.empty.insertAll d.table names
    (.done, d.put r s table)
  | .assignSymbols r names =>
    let (symbols, table) := d.table.internAll names
    (.done, d.put r (SymbolSet.empty.insertSymbols table symbols) table)
  | .extend r other => (.done, d.put r ((d.sets r).extend d.table (d.sets other)) d.table)
  | .copy r other => (.done, d.put r (d.sets other) d.table)
  | .contains r name => (.flag ((d.sets r).contains d.table name), d)
  | .isSubset r other => (.flag ((d.sets r).isSubset d.table (d.sets other)), d)
  | .equals r other => (.flag (d.sets r = d.sets other), d)
  | .size r => (.count (d.sets r).size, d)
  | .names r => (.names (d.listed r), d)
  | .render r => (.text (d.text r), d)

/-- Takes steps in turn. -/
def run (d : KeywordRegisters ρ) : List (KeywordStep ρ) → List KeywordAnswer × KeywordRegisters ρ
  | [] => ([], d)
  | step :: rest =>
    let (answer, d) := d.apply step
    let (answers, d) := d.run rest
    (answer :: answers, d)

end KeywordRegisters

end PassForge
