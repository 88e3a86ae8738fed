import PassForge.Variant.Index

/-!
# Tables by variant

How an index by variant is stored: the entries in the order they were added, and beside them a
directory that says where the entry of a variant stands.  A value that is there already is changed
in its place; a new one goes to the end, and its position into the directory.  That the two stay in
step is part of the type.

`toMap` forgets the directory.
-/

namespace PassForge

theorem getElem?_concat {α : Type} (l : List α) (a : α) (i : Nat) :
    (l ++ [a])[i]? = if i = l.length then some a else l[i]? := by
  rcases Nat.lt_trichotomy i l.length with hi | rfl | hi
  · rw [List.getElem?_append_left hi, if_neg (Nat.ne_of_lt hi)]
  · rw [List.getElem?_concat_length, if_pos rfl]
  · rw [if_neg (Nat.ne_of_gt hi), List.getElem?_eq_none (Nat.le_of_lt hi),
      List.getElem?_eq_none (by rw [List.length_append]; exact hi)]

/-- Values by variant, with a directory of their positions. -/
structure VariantTable (β : Type) where
  /-- The variants and their values, in the order they were added. -/
  entries : List (KeywordSet × β)
  /-- The position of each variant. -/
  positions : List (KeywordSet × Nat)
  /-- The directory gives a position exactly if the entry of the variant stands there. -/
  inStep : ∀ v i, positions.lookup v = some i ↔ entries[i]?.map Prod.fst = some v
deriving Repr

namespace VariantTable

variable {β : Type}

/-- No variant. -/
def empty : VariantTable β := ⟨[], [], by simp⟩

/-- What is seen of a table. -/
def toMap (t : VariantTable β) : VariantMap β := ⟨t.entries⟩

/-- The variants, in the order they were added. -/
def variants (t : VariantTable β) : List KeywordSet := t.entries.map Prod.fst

/-- The number of variants. -/
def size (t : VariantTable β) : Nat := t.entries.length

/-- Whether there is no variant. -/
def isEmpty (t : VariantTable β) : Bool := t.entries.isEmpty

/-- The value of a variant, at the position that the directory gives. -/
def get? (t : VariantTable β) (v : KeywordSet) : Option β :=
  (t.positions.lookup v).bind fun i => t.entries[i]?.map Prod.snd

/-- Changes the value at a position. -/
def modifyAt (t : VariantTable β) (i : Nat) (f : β → β) : VariantTable β where
  entries := t.entries.modify i fun e => (e.1, f e.2)
  positions := t.positions
  inStep := by
    intro v j
    rw [t.inStep, List.getElem?_modify]
    by_cases hij : i = j
    · subst hij
      simp [Option.map_map, Function.comp_def]
    · simp [hij]

/-- Adds a variant that the directory does not have. -/
def push (t : VariantTable β) (v : KeywordSet) (b : β) (h : t.positions.lookup v = none) :
    VariantTable β where
  entries := t.entries ++ [(v, b)]
  positions := (v, t.entries.length) :: t.positions
  inStep := by
    intro w j
    have hnew : t.entries[j]?.map Prod.fst ≠ some v := fun hv => by
      rw [(t.inStep v j).2 hv] at h
      cases h
    rw [List.lookup_cons, getElem?_concat]
    by_cases hwv : w = v
    · subst hwv
      by_cases hj : j = t.entries.length
      · simp [hj]
      · simp [hj, hnew, Ne.symm hj]
    · have hne : (w == v) = false := by simpa using hwv
      by_cases hj : j = t.entries.length
      · simp [hne, hj, t.inStep, Ne.symm hwv]
      · simp [hne, hj, t.inStep]

/-- Sets the value of a variant from the value it had: in its place, or at the end. -/
def alter (t : VariantTable β) (v : KeywordSet) (f : Option β → β) : VariantTable β :=
  match h : t.positions.lookup v with
  | some i => t.modifyAt i fun b => f (some b)
  | none => t.push v (f none) h

/-- Sets the value of a variant. -/
def insert (t : VariantTable β) (v : KeywordSet) (b : β) : VariantTable β := t.alter v fun _ => b

end VariantTable

/-- The nodes that count in a stage, by variant, in the order of evaluation. -/
abbrev NodeTable := VariantTable (List NodeId)

namespace NodeTable

/-- Adds the nodes of variants in turn; a variant that has been added is passed over. -/
def extend (g : MaterialGraph) (root : NodeId) (slots : List SlotId) (t : NodeTable) :
    List KeywordSet → Except GraphError NodeTable
  | [] => .ok t
  | v :: rest =>
    match t.get? v with
    | some _ => extend g root slots t rest
    | none => do
      let ids ← g.walk root ⟨some slots, some v⟩
      extend g root slots (t.insert v ids) rest

/-- The nodes that a root needs through some of its slots, by variant. -/
def build (g : MaterialGraph) (root : NodeId) (slots : List SlotId) (variants : List KeywordSet) :
    Except GraphError NodeTable :=
  extend g root slots .empty variants

end NodeTable

/-- What is needed, by variant. -/
abbrev RequirementTable := VariantTable Requirements

namespace RequirementTable

/-- What the nodes of a table need. -/
def ofNodes (g : MaterialGraph) (t : NodeTable) : RequirementTable :=
  t.entries.foldl (fun needs e => needs.insert e.1 (g.requirements e.2)) .empty

/-- What is needed in a variant; nothing, if the table does not have it. -/
def get (t : RequirementTable) (v : KeywordSet) : Requirements := (t.get? v).getD .none

/-- Adds requirements to those that a variant has, if it has any. -/
def join (r : Requirements) : Option Requirements → Requirements
  | none => r
  | some s => s.union r

/-- The union of two tables, variant by variant. -/
def union (s t : RequirementTable) : RequirementTable :=
  t.entries.foldl (fun s e => s.alter e.1 (join e.2)) s

end RequirementTable

end PassForge
