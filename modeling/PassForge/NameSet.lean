/-!
# Sets of names

A `NameSet` is a finite set of names with one storage per set: the members are listed in strictly
increasing code point order.  Keyword sets and sets of active fields are name sets.

Membership after each operation is given by `mem_insert`, `mem_erase`, `mem_union` and
`mem_ofList`; two sets with the same members are equal (`ext`).
-/

namespace PassForge

/-- A finite set of names, listed in strictly increasing order. -/
structure NameSet where
  /-- The members, smallest first. -/
  names : List String
  /-- No member is repeated or out of order. -/
  increasing : names.Pairwise (· < ·)
deriving DecidableEq, Repr

namespace NameSet

/-! ### Ordered insertion -/

/-- Inserts `a` before the first larger name; a list that has `a` is left as it is. -/
def insertSorted (a : String) : List String → List String
  | [] => [a]
  | b :: l => if a < b then a :: b :: l else if a = b then b :: l else b :: insertSorted a l

@[simp] theorem mem_insertSorted {a x : String} {l : List String} :
    x ∈ insertSorted a l ↔ x = a ∨ x ∈ l := by
  induction l with
  | nil => simp [insertSorted]
  | cons b l ih =>
    simp only [insertSorted]
    split
    · simp
    · split
      · rename_i hab
        subst hab
        simp
      · simp only [List.mem_cons, ih]
        exact or_left_comm

theorem lt_of_not_lt_of_ne {a b : String} (hlt : ¬ a < b) (hne : ¬ a = b) : b < a := by
  by_cases h : b < a
  · exact h
  · exact absurd (String.le_antisymm (String.not_lt.1 h) (String.not_lt.1 hlt)) hne

theorem insertSorted_pairwise (a : String) {l : List String} (h : l.Pairwise (· < ·)) :
    (insertSorted a l).Pairwise (· < ·) := by
  induction l with
  | nil => simp [insertSorted]
  | cons b l ih =>
    obtain ⟨hb, hl⟩ := List.pairwise_cons.1 h
    simp only [insertSorted]
    split
    · rename_i hab
      refine List.pairwise_cons.2 ⟨fun x hx => ?_, h⟩
      rcases List.mem_cons.1 hx with rfl | hx
      · exact hab
      · exact String.lt_trans hab (hb x hx)
    · split
      · exact h
      · rename_i hlt hne
        refine List.pairwise_cons.2 ⟨fun x hx => ?_, ih hl⟩
        rcases mem_insertSorted.1 hx with rfl | hx
        · exact lt_of_not_lt_of_ne hlt hne
        · exact hb x hx

/-! ### Operations -/

/-- The empty set. -/
def empty : NameSet := ⟨[], List.Pairwise.nil⟩

instance : EmptyCollection NameSet := ⟨empty⟩

instance : Inhabited NameSet := ⟨empty⟩

instance : Membership String NameSet := ⟨fun s a => a ∈ s.names⟩

instance (a : String) (s : NameSet) : Decidable (a ∈ s) := inferInstanceAs (Decidable (a ∈ s.names))

/-- Whether `a` is a member. -/
def contains (s : NameSet) (a : String) : Bool := decide (a ∈ s)

/-- The set with `a` added. -/
def insert (s : NameSet) (a : String) : NameSet :=
  ⟨insertSorted a s.names, insertSorted_pairwise a s.increasing⟩

/-- The set with `a` taken out. -/
def erase (s : NameSet) (a : String) : NameSet :=
  ⟨s.names.filter (· ≠ a), s.increasing.filter _⟩

/-- The set with every name of a list added. -/
def insertAll (s : NameSet) (l : List String) : NameSet := l.foldl insert s

/-- The members of a list. -/
def ofList (l : List String) : NameSet := empty.insertAll l

/-- The members of either set. -/
def union (s t : NameSet) : NameSet := s.insertAll t.names

/-- The members of both sets. -/
def inter (s t : NameSet) : NameSet :=
  ⟨s.names.filter (· ∈ t), s.increasing.filter _⟩

/-- Whether every member of `s` is a member of `t`. -/
def isSubset (s t : NameSet) : Bool := s.names.all t.contains

/-- The number of members. -/
def size (s : NameSet) : Nat := s.names.length

/-- Whether the set has no member. -/
def isEmpty (s : NameSet) : Bool := s.names.isEmpty

/-! ### Membership -/

variable {a b : String} {s t : NameSet}

theorem mem_def : a ∈ s ↔ a ∈ s.names := Iff.rfl

@[simp] theorem contains_iff : s.contains a = true ↔ a ∈ s := by simp [contains]

@[simp] theorem not_mem_empty : ¬ a ∈ (empty : NameSet) := List.not_mem_nil

@[simp] theorem mem_insert : b ∈ s.insert a ↔ b = a ∨ b ∈ s := mem_insertSorted

@[simp] theorem mem_erase : b ∈ s.erase a ↔ b ∈ s ∧ b ≠ a := by
  simp [erase, mem_def]

@[simp] theorem mem_insertAll {l : List String} : b ∈ s.insertAll l ↔ b ∈ s ∨ b ∈ l := by
  induction l generalizing s with
  | nil => simp [insertAll]
  | cons a l ih =>
    have h : s.insertAll (a :: l) = (s.insert a).insertAll l := rfl
    rw [h, ih, mem_insert, List.mem_cons, or_assoc, or_left_comm]

@[simp] theorem mem_ofList {l : List String} : b ∈ ofList l ↔ b ∈ l := by simp [ofList]

@[simp] theorem mem_union : b ∈ s.union t ↔ b ∈ s ∨ b ∈ t := mem_insertAll

@[simp] theorem mem_inter : b ∈ s.inter t ↔ b ∈ s ∧ b ∈ t := by simp [inter, mem_def]

theorem isSubset_iff : s.isSubset t = true ↔ ∀ a ∈ s, a ∈ t := by
  simp [isSubset, mem_def]

theorem isEmpty_iff : s.isEmpty = true ↔ s = empty := by
  cases s with
  | mk names _ => cases names <;> simp [isEmpty, empty]

/-- Strictly increasing lists with the same members are equal. -/
theorem eq_of_pairwise_of_mem_iff {l m : List String} (hl : l.Pairwise (· < ·))
    (hm : m.Pairwise (· < ·)) (h : ∀ a, a ∈ l ↔ a ∈ m) : l = m := by
  induction l generalizing m with
  | nil =>
    cases m with
    | nil => rfl
    | cons b m => exact absurd ((h b).2 List.mem_cons_self) List.not_mem_nil
  | cons a l ih =>
    cases m with
    | nil => exact absurd ((h a).1 List.mem_cons_self) List.not_mem_nil
    | cons b m =>
      obtain ⟨ha, hl'⟩ := List.pairwise_cons.1 hl
      obtain ⟨hb, hm'⟩ := List.pairwise_cons.1 hm
      have hab : a = b := by
        rcases List.mem_cons.1 ((h a).1 List.mem_cons_self) with hab | ham
        · exact hab
        · rcases List.mem_cons.1 ((h b).2 List.mem_cons_self) with hba | hbl
          · exact hba.symm
          · exact absurd (String.lt_trans (hb a ham) (ha b hbl)) (String.lt_irrefl b)
      subst hab
      refine congrArg _ (ih hl' hm' fun x => ⟨fun hx => ?_, fun hx => ?_⟩)
      · rcases List.mem_cons.1 ((h x).1 (List.mem_cons_of_mem _ hx)) with rfl | hx'
        · exact absurd (ha x hx) (String.lt_irrefl x)
        · exact hx'
      · rcases List.mem_cons.1 ((h x).2 (List.mem_cons_of_mem _ hx)) with rfl | hx'
        · exact absurd (hb x hx) (String.lt_irrefl x)
        · exact hx'

/-- A set is determined by its members. -/
theorem ext (h : ∀ a, a ∈ s ↔ a ∈ t) : s = t := by
  have hn : s.names = t.names := eq_of_pairwise_of_mem_iff s.increasing t.increasing h
  cases s
  cases t
  exact NameSet.mk.injEq .. ▸ hn

end NameSet

end PassForge
