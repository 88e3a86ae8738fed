import PassForge.Keyword.Basic

/-!
# Variant sets

The variants of a pass, each once, in the order they were found.  `ordered` is the order in which
they are emitted: the variant without keywords comes last, and is there in any case.
-/

namespace PassForge

/-- Distinct variants in the order they were found. -/
structure VariantSet where
  variants : List KeywordSet
  /-- No variant is repeated. -/
  distinct : variants.Nodup
deriving Repr

namespace VariantSet

/-- No variant. -/
def empty : VariantSet := ⟨[], List.nodup_nil⟩

instance : Membership KeywordSet VariantSet := ⟨fun s v => v ∈ s.variants⟩

instance (v : KeywordSet) (s : VariantSet) : Decidable (v ∈ s) :=
  inferInstanceAs (Decidable (v ∈ s.variants))

/-- Whether a variant has been found. -/
def contains (s : VariantSet) (v : KeywordSet) : Bool := decide (v ∈ s)

/-- Adds a variant at the end, unless it has been found before. -/
def insert (s : VariantSet) (v : KeywordSet) : VariantSet :=
  if h : v ∈ s then s
  else ⟨s.variants ++ [v], List.nodup_append.2
    ⟨s.distinct, by simp, fun _ ha _ hb hab => h (List.mem_singleton.1 hb ▸ hab ▸ ha)⟩⟩

/-- The number of variants. -/
def size (s : VariantSet) : Nat := s.variants.length

/-- Whether there is no variant. -/
def isEmpty (s : VariantSet) : Bool := s.variants.isEmpty

/-- The variants in the order of emission: those with keywords, then the one without. -/
def ordered (s : VariantSet) : List KeywordSet :=
  (s.variants.filter fun v => !v.isEmpty) ++ [∅]

/-- All keywords that occur in a variant. -/
def vocabulary (s : VariantSet) : KeywordSet := s.variants.foldl NameSet.union ∅

end VariantSet

end PassForge
