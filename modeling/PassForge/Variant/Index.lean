import PassForge.Graph.Walk

/-!
# Indices by variant

For every variant of a pass, the nodes that count in a stage and what they need.  An index lists its
variants in the order they were added, each once.  The indices of two stages are merged variant by
variant.
-/

namespace PassForge

/-- Values by variant. -/
structure VariantMap (β : Type) where
  entries : List (KeywordSet × β)
deriving Repr

namespace VariantMap

variable {β : Type}

/-- No variant. -/
def empty : VariantMap β := ⟨[]⟩

/-- The value of a variant. -/
def get? (m : VariantMap β) (v : KeywordSet) : Option β := m.entries.lookup v

/-- The variants, in the order they were added. -/
def variants (m : VariantMap β) : List KeywordSet := m.entries.map Prod.fst

/-- The number of variants. -/
def size (m : VariantMap β) : Nat := m.entries.length

/-- Whether there is no variant. -/
def isEmpty (m : VariantMap β) : Bool := m.entries.isEmpty

/-- Changes the value of a variant where it stands, or adds it at the end. -/
def putEntry (v : KeywordSet) (f : Option β → β) :
    List (KeywordSet × β) → List (KeywordSet × β)
  | [] => [(v, f none)]
  | (w, b) :: rest => if w = v then (w, f (some b)) :: rest else (w, b) :: putEntry v f rest

/-- Sets the value of a variant from the value it had. -/
def alter (m : VariantMap β) (v : KeywordSet) (f : Option β → β) : VariantMap β :=
  ⟨putEntry v f m.entries⟩

/-- Sets the value of a variant. -/
def insert (m : VariantMap β) (v : KeywordSet) (b : β) : VariantMap β := m.alter v fun _ => b

/-- The index with a function applied to every value. -/
def map {γ : Type} (f : β → γ) (m : VariantMap β) : VariantMap γ :=
  ⟨m.entries.map fun (v, b) => (v, f b)⟩

end VariantMap

/-- The nodes that count in a stage, by variant, in the order of evaluation. -/
abbrev NodeIndex := VariantMap (List NodeId)

namespace NodeIndex

/-- Adds the nodes of variants in turn; a variant that has been added is passed over. -/
def extend (g : MaterialGraph) (root : NodeId) (slots : List SlotId) (index : NodeIndex) :
    List KeywordSet → Except GraphError NodeIndex
  | [] => .ok index
  | v :: rest =>
    match index.get? v with
    | some _ => extend g root slots index rest
    | none => do
      let ids ← g.walk root ⟨some slots, some v⟩
      extend g root slots (index.insert v ids) rest

/-- The nodes that a root needs through some of its slots, by variant. -/
def build (g : MaterialGraph) (root : NodeId) (slots : List SlotId) (variants : List KeywordSet) :
    Except GraphError NodeIndex :=
  extend g root slots .empty variants

end NodeIndex

/-- What is needed, by variant. -/
abbrev RequirementIndex := VariantMap Requirements

namespace RequirementIndex

/-- What the nodes of an index need. -/
def ofNodes (g : MaterialGraph) (index : NodeIndex) : RequirementIndex := index.map g.requirements

/-- What is needed in a variant; nothing, if the index does not have it. -/
def get (m : RequirementIndex) (v : KeywordSet) : Requirements := (m.get? v).getD .none

/-- The union of two indices, variant by variant. -/
def union (m n : RequirementIndex) : RequirementIndex :=
  n.entries.foldl (fun m (v, r) => m.alter v fun | none => r | some s => s.union r) m

end RequirementIndex

end PassForge
