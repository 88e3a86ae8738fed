import Mathlib.Data.Finset.Card
import Mathlib.Dynamics.FixedPoints.Basic
import PassForge.Proofs.ActiveFields
import PassForge.Proofs.Cycle

/-!
# What scanning comes to

Active fields are closed by scanning all dependencies again and again (`scanned`), until a scan
changes nothing.  How much a scan activates depends on the order of the dependencies; what all scans
together activate does not.

* `Closure.isLeast_scans`, `Closure.fields_close`: the scans that are counted, by induction over
  them.
* `Closure.scans_le`: every scan but the last uses up a needed field that was not active.
* `Closure.mem_fields_close_iff`: the fields are those that can be reached from an active one.
* `Closure.close_reachable`: all of this, with what follows for repeated, reordered and enlarged
  arguments.
-/

namespace PassForge

/-- What one scan makes of a set of active fields. -/
def scanned (edges : List Dependency) (fields : NameSet) : NameSet :=
  (Scan.ofFields edges fields).fields

/-- The fields that some dependency names as needed and that are not active, each once. -/
def absentProducers (edges : List Dependency) (fields : NameSet) : Finset String :=
  (edges.map Dependency.producer).toFinset.filter (· ∉ fields)

variable {edges : List Dependency} {fields : NameSet} {a : String}

theorem mem_scanned_of_mem (h : a ∈ fields) : a ∈ scanned edges fields :=
  Scan.mem_run_of_mem (s := ⟨fields, []⟩) h

theorem activated_eq_nil_iff :
    (Scan.ofFields edges fields).activated = [] ↔ scanned edges fields = fields := by
  constructor
  · intro h
    have hclosed := Scan.producer_mem_of_activated_eq (s := ⟨fields, []⟩) h
    refine NameSet.ext fun a => ⟨fun ha => ?_, mem_scanned_of_mem⟩
    exact Scan.run_subset (s := ⟨fields, []⟩) hclosed subset_rfl ha
  · intro h
    by_contra hne
    obtain ⟨d, -, hnew, hmem⟩ := Scan.exists_new_of_activated (s := ⟨fields, []⟩) hne
    exact hnew (h ▸ hmem)

theorem mem_absentProducers_iff :
    a ∈ absentProducers edges fields ↔ (∃ d ∈ edges, d.producer = a) ∧ a ∉ fields := by
  simp [absentProducers]

theorem card_absentProducers_le : (absentProducers edges fields).card ≤ edges.length := by
  calc (absentProducers edges fields).card
      ≤ (edges.map Dependency.producer).toFinset.card := Finset.card_filter_le _ _
    _ ≤ (edges.map Dependency.producer).length := List.toFinset_card_le _
    _ = edges.length := List.length_map _

/-- A scan that changes something activates a field that was absent. -/
theorem card_absentProducers_scanned_lt (h : scanned edges fields ≠ fields) :
    (absentProducers edges (scanned edges fields)).card < (absentProducers edges fields).card := by
  obtain ⟨d, hd, hnew, hmem⟩ :=
    Scan.exists_new_of_activated (s := ⟨fields, []⟩) (mt activated_eq_nil_iff.1 h)
  refine Finset.card_lt_card ⟨fun a ha => ?_, fun hsub => ?_⟩
  · obtain ⟨hproducer, habsent⟩ := mem_absentProducers_iff.1 ha
    exact mem_absentProducers_iff.2 ⟨hproducer, fun hold => habsent (mem_scanned_of_mem hold)⟩
  · have habsent := hsub (mem_absentProducers_iff.2 ⟨⟨d, hd, rfl⟩, hnew⟩)
    exact (mem_absentProducers_iff.1 habsent).2 hmem

namespace Closure

/-! ### Counting scans -/

theorem close_of_scanned_eq (h : scanned edges fields = fields) :
    close edges fields = ⟨fields, 1, []⟩ := by
  rw [close, dif_pos (activated_eq_nil_iff.2 h)]

theorem scans_of_scanned_ne (h : scanned edges fields ≠ fields) :
    (close edges fields).scans = (close edges (scanned edges fields)).scans + 1 := by
  rw [close, dif_neg (mt activated_eq_nil_iff.1 h)]
  rfl

theorem fields_of_scanned_ne (h : scanned edges fields ≠ fields) :
    (close edges fields).fields = (close edges (scanned edges fields)).fields :=
  close_fields_of_activated_ne (mt activated_eq_nil_iff.1 h)

/-- Induction over the scans of a closure. -/
theorem scan_induction {motive : NameSet → Prop} (edges : List Dependency)
    (fixed : ∀ fields, scanned edges fields = fields → motive fields)
    (moved : ∀ fields, scanned edges fields ≠ fields → motive (scanned edges fields) →
      motive fields) (fields : NameSet) : motive fields := by
  induction fields using close.induct edges with
  | case1 fields _ h => exact fixed fields (activated_eq_nil_iff.1 h)
  | case2 fields _ h _ ih => exact moved fields (mt activated_eq_nil_iff.2 h) ih

theorem one_le_scans : 1 ≤ (close edges fields).scans := by
  rw [close]
  split
  · exact Nat.le_refl 1
  · exact Nat.le_add_left 1 _

theorem scans_pred_of_scanned_ne (h : scanned edges fields ≠ fields) :
    (close edges fields).scans - 1 = (close edges (scanned edges fields)).scans - 1 + 1 := by
  have hone : 1 ≤ (close edges (scanned edges fields)).scans := one_le_scans
  rw [scans_of_scanned_ne h]
  omega

/-- The scans that are counted are those up to the first that changes nothing. -/
theorem isLeast_scans (edges : List Dependency) (fields : NameSet) :
    IsLeast {n | Function.IsFixedPt (scanned edges) ((scanned edges)^[n] fields)}
      ((close edges fields).scans - 1) := by
  induction fields using scan_induction edges with
  | fixed fields h =>
    rw [close_of_scanned_eq h]
    exact ⟨h, fun n _ => Nat.zero_le n⟩
  | moved fields h ih =>
    rw [scans_pred_of_scanned_ne h]
    refine ⟨ih.1, fun n hn => ?_⟩
    -- the first scan changes something, and the others are those of the set it leaves
    cases n with
    | zero => exact absurd hn h
    | succ n => exact Nat.succ_le_succ (ih.2 hn)

/-- The fields are what the scans that are counted make of the fields they start from. -/
theorem fields_close (edges : List Dependency) (fields : NameSet) :
    (close edges fields).fields = (scanned edges)^[(close edges fields).scans - 1] fields := by
  induction fields using scan_induction edges with
  | fixed fields h =>
    rw [close_of_scanned_eq h]
    rfl
  | moved fields h ih =>
    rw [scans_pred_of_scanned_ne h, fields_of_scanned_ne h, ih, Function.iterate_succ_apply]

/-- **Scans are bounded** by the needed fields that are not active at first. -/
theorem scans_le : (close edges fields).scans - 1 ≤ (absentProducers edges fields).card := by
  induction fields using scan_induction edges with
  | fixed fields h =>
    rw [close_of_scanned_eq h]
    exact Nat.zero_le _
  | moved fields h ih =>
    have hlt := card_absentProducers_scanned_lt h
    rw [scans_pred_of_scanned_ne h]
    omega

/-! ### Reachable fields -/

/-- **The fields of a closure** are those that an active field needs, directly or not. -/
theorem mem_fields_close_iff : a ∈ (close edges fields).fields ↔
    ∃ s ∈ fields, Relation.ReflTransGen (Needs edges) s a := by
  have hleast := isLeast_close edges fields
  constructor
  · intro ha
    -- what can be reached is closed, and the closure is the least closed set
    have hreached : {b | ∃ s ∈ fields, Relation.ReflTransGen (Needs edges) s b} ∈
        closedAbove edges fields.toSet := by
      refine ⟨fun b hb => ⟨b, hb, .refl⟩, fun d hd ⟨s, hs, hpath⟩ => ⟨s, hs, hpath.tail hd⟩⟩
    exact hleast.2 hreached ha
  · rintro ⟨s, hs, hpath⟩
    induction hpath with
    | refl => exact hleast.1.1 hs
    | tail _ hstep ih => exact hleast.1.2 _ hstep ih

theorem needs_congr {edges' : List Dependency} (h : edges'.Perm edges) :
    Needs edges' = Needs edges := by
  funext a b
  exact propext h.mem_iff

theorem scanned_fields_close (edges : List Dependency) (fields : NameSet) :
    scanned edges (close edges fields).fields = (close edges fields).fields := by
  rw [fields_close]
  exact (isLeast_scans edges fields).1

theorem fields_close_union (edges : List Dependency) (fields other : NameSet) :
    (close edges ((close edges fields).fields.union other)).fields =
      (close edges (fields.union other)).fields := by
  refine NameSet.ext fun a => ?_
  simp only [mem_fields_close_iff, NameSet.mem_union]
  constructor
  · rintro ⟨s, ⟨r, hr, hpath⟩ | hs, hpath'⟩
    · exact ⟨r, .inl hr, hpath.trans hpath'⟩
    · exact ⟨s, .inr hs, hpath'⟩
  · rintro ⟨s, hs | hs, hpath⟩
    · exact ⟨s, .inl ⟨s, hs, .refl⟩, hpath⟩
    · exact ⟨s, .inr hs, hpath⟩

/-- **Closing a set of fields.**  Scanning ends with the first scan that changes nothing, which is
counted with those before it.  The result is the least closed set above the seed: the fields that
can be reached from it.  There are no more scans before the last than needed fields that are not in
the seed.  Closing again takes one scan and changes nothing; the order of the dependencies makes no
difference to the result, a larger seed gives a larger one, and what is added to the seed can as
well be added to the result and closed again. -/
theorem close_reachable (edges : List Dependency) (seed : NameSet) :
    (1 ≤ (close edges seed).scans ∧
      IsLeast {n | Function.IsFixedPt (scanned edges) ((scanned edges)^[n] seed)}
        ((close edges seed).scans - 1) ∧
      (close edges seed).fields = (scanned edges)^[(close edges seed).scans - 1] seed) ∧
    IsLeast (closedAbove edges seed.toSet) (close edges seed).fields.toSet ∧
    (∀ a, a ∈ (close edges seed).fields ↔
      ∃ s ∈ seed, Relation.ReflTransGen (Needs edges) s a) ∧
    ((close edges seed).scans - 1 ≤ (absentProducers edges seed).card ∧
      (absentProducers edges seed).card ≤ edges.length) ∧
    close edges (close edges seed).fields = ⟨(close edges seed).fields, 1, []⟩ ∧
    (∀ edges', edges'.Perm edges → (close edges' seed).fields = (close edges seed).fields) ∧
    (∀ seed', (∀ a ∈ seed, a ∈ seed') →
      ∀ a ∈ (close edges seed).fields, a ∈ (close edges seed').fields) ∧
    ∀ other, (close edges ((close edges seed).fields.union other)).fields =
      (close edges (seed.union other)).fields := by
  refine ⟨⟨one_le_scans, isLeast_scans edges seed, fields_close edges seed⟩,
    isLeast_close edges seed, fun a => mem_fields_close_iff, ⟨scans_le, card_absentProducers_le⟩,
    close_of_scanned_eq (scanned_fields_close edges seed), fun edges' hperm => ?_,
    fun seed' hsub a ha => ?_, fields_close_union edges seed⟩
  · refine NameSet.ext fun a => ?_
    rw [mem_fields_close_iff, mem_fields_close_iff, needs_congr hperm]
  · obtain ⟨s, hs, hpath⟩ := mem_fields_close_iff.1 ha
    exact mem_fields_close_iff.2 ⟨s, hsub s hs, hpath⟩

/-- Four fields in a chain, with the dependencies listed against it. -/
def chainEdges : List Dependency := [⟨"C.c", "D.d"⟩, ⟨"B.b", "C.c"⟩, ⟨"A.a", "B.b"⟩]

/-- Listed against the chain, the dependencies take as many scans as there can be; listed along it,
they activate the same fields. -/
theorem close_reachable_chain :
    (close chainEdges (.ofList ["A.a"])).scans - 1 =
      (absentProducers chainEdges (.ofList ["A.a"])).card ∧
    chainEdges.reverse.Perm chainEdges ∧
    (close chainEdges.reverse (.ofList ["A.a"])).fields =
      (close chainEdges (.ofList ["A.a"])).fields := by
  obtain ⟨⟨-, hfixed, -⟩, -, -, ⟨hle, -⟩, -, hperm, -⟩ :=
    close_reachable chainEdges (.ofList ["A.a"])
  have hmoved : ∀ n < 3, ¬ Function.IsFixedPt (scanned chainEdges)
      ((scanned chainEdges)^[n] (.ofList ["A.a"])) := by decide +kernel
  have hscans : 3 ≤ (close chainEdges (.ofList ["A.a"])).scans - 1 :=
    Nat.not_lt.1 fun hlt => hmoved _ hlt hfixed.1
  have hcard : (absentProducers chainEdges (.ofList ["A.a"])).card ≤ 3 := card_absentProducers_le
  exact ⟨by omega, List.reverse_perm chainEdges, hperm _ (List.reverse_perm chainEdges)⟩

end Closure

end PassForge
