/-!
# Arenas

An arena stores items under keys that stay valid until the item is removed.  A key is a place in the
arena and a version: the place of a removed item is given to the next item that is added, the place
freed last first, with a version two higher, so that old keys find nothing.
-/

namespace PassForge

/-- The key of an item in an arena. -/
structure Key where
  /-- The place, counted from one. -/
  index : Nat
  /-- How often the place was taken and freed. -/
  version : Nat
deriving DecidableEq, Repr

namespace Key

/-- The key that no item has. -/
def null : Key := ⟨0, 0⟩

/-- The version of a key whose place is taken for the first time. -/
def firstVersion : Nat := 1

/-- The key as text, behind the name of its kind. -/
def label (kind : String) (k : Key) : String :=
  if k = null then kind ++ "(null)"
  else kind ++ "(" ++ toString k.index ++ "v" ++ toString k.version ++ ")"

end Key

/-- A place of an arena. -/
structure Cell (α : Type) where
  /-- The version of the key given out last for this place. -/
  version : Nat
  /-- The item, unless it was removed. -/
  content : Option α
deriving Repr

/-- Items under keys. -/
structure Arena (α : Type) where
  /-- The places, that of index one first. -/
  cells : List (Cell α)
  /-- The positions of freed places in the list of places, the one freed last first. -/
  free : List Nat
deriving Repr

namespace Arena

variable {α : Type}

/-- The arena without items. -/
def empty : Arena α := ⟨[], []⟩

/-- The cell a key is for, if the place has not been taken over. -/
def cell? (a : Arena α) (k : Key) : Option (Cell α) :=
  match k.index with
  | 0 => none
  | position + 1 => (a.cells[position]?).filter (·.version == k.version)

/-- The item under a key. -/
def get? (a : Arena α) (k : Key) : Option α := (a.cell? k).bind Cell.content

/-- Adds an item: in the place freed last, or in a new one. -/
def insert (a : Arena α) (item : α) : Key × Arena α :=
  match a.free with
  | [] =>
    (⟨a.cells.length + 1, Key.firstVersion⟩,
      { a with cells := a.cells ++ [⟨Key.firstVersion, some item⟩] })
  | position :: free =>
    let version := ((a.cells[position]?).map Cell.version).getD 0 + 2
    (⟨position + 1, version⟩, ⟨a.cells.set position ⟨version, some item⟩, free⟩)

/-- Puts an item in place of the one under a key; without such an item nothing changes. -/
def replace (a : Arena α) (k : Key) (item : α) : Arena α :=
  match a.get? k with
  | none => a
  | some _ => { a with cells := a.cells.set (k.index - 1) ⟨k.version, some item⟩ }

/-- Removes the item under a key; without such an item nothing changes. -/
def erase (a : Arena α) (k : Key) : Arena α :=
  match a.get? k with
  | none => a
  | some _ => ⟨a.cells.set (k.index - 1) ⟨k.version, none⟩, (k.index - 1) :: a.free⟩

/-- The items with their keys, in the order of their places. -/
def toList (a : Arena α) : List (Key × α) :=
  a.cells.zipIdx.filterMap fun (c, position) =>
    c.content.map fun item => (⟨position + 1, c.version⟩, item)

/-- The number of items. -/
def size (a : Arena α) : Nat := a.toList.length

end Arena

end PassForge
