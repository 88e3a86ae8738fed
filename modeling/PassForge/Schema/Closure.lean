import PassForge.DepthFirst
import PassForge.Graph.Requirements
import PassForge.Schema.Registry

/-!
# Active fields

A set of active fields is closed over dependencies by whole scans: each goes through all
dependencies in order, and activates what an active field needs, so that later dependencies of the
same scan see it.  Scanning stops with the first scan that activates nothing; that scan is counted.

It does stop, because every other scan activates a field that some dependency names and that was
not active before (`unmet_scan_lt`).
-/

namespace PassForge

/-- What a scan has come to: the active fields, and the dependencies that activated one. -/
structure Scan where
  fields : NameSet
  activated : List Dependency
deriving DecidableEq, Repr

namespace Scan

/-- Applies one dependency. -/
def step (s : Scan) (d : Dependency) : Scan :=
  if d.consumer ∈ s.fields ∧ d.producer ∉ s.fields then
    ⟨s.fields.insert d.producer, s.activated ++ [d]⟩
  else s

/-- Applies all dependencies in order. -/
def run (edges : List Dependency) (s : Scan) : Scan := edges.foldl step s

/-- Applies all dependencies to a set of active fields. -/
def ofFields (edges : List Dependency) (fields : NameSet) : Scan := run edges ⟨fields, []⟩

theorem mem_step_of_mem {s : Scan} {d : Dependency} {a : String} (h : a ∈ s.fields) :
    a ∈ (s.step d).fields := by
  rw [step]
  split
  · exact NameSet.mem_insert.2 (.inr h)
  · exact h

theorem mem_run_of_mem {edges : List Dependency} {s : Scan} {a : String} (h : a ∈ s.fields) :
    a ∈ (run edges s).fields := by
  induction edges generalizing s with
  | nil => exact h
  | cons d rest ih => exact ih (mem_step_of_mem h)

/-- A scan that activates something activates a field that was not active. -/
theorem exists_new_of_activated {edges : List Dependency} {s : Scan}
    (h : (run edges s).activated ≠ s.activated) :
    ∃ d ∈ edges, d.producer ∉ s.fields ∧ d.producer ∈ (run edges s).fields := by
  induction edges generalizing s with
  | nil => exact absurd rfl h
  | cons d rest ih =>
    by_cases hd : d.consumer ∈ s.fields ∧ d.producer ∉ s.fields
    · refine ⟨d, List.mem_cons_self, hd.2, mem_run_of_mem (s := s.step d) ?_⟩
      rw [step, if_pos hd]
      exact NameSet.mem_insert.2 (.inl rfl)
    · have hstep : s.step d = s := if_neg hd
      have hrun : run (d :: rest) s = run rest s := by rw [run, List.foldl_cons, hstep, run]
      rw [hrun] at h ⊢
      obtain ⟨e, he, hnew⟩ := ih h
      exact ⟨e, List.mem_cons_of_mem _ he, hnew⟩

end Scan

/-- The fields that some dependency names as needed and that are not active. -/
def missingProducers (edges : List Dependency) (fields : NameSet) : List String :=
  DepthFirst.unmet (edges.map Dependency.producer) fields.names

theorem unmet_scan_lt {edges : List Dependency} {fields : NameSet}
    (h : (Scan.ofFields edges fields).activated ≠ []) :
    (missingProducers edges (Scan.ofFields edges fields).fields).length <
      (missingProducers edges fields).length := by
  obtain ⟨d, hd, hnot, hmem⟩ := Scan.exists_new_of_activated (s := ⟨fields, []⟩) h
  have heq : missingProducers edges (Scan.ofFields edges fields).fields =
      (missingProducers edges fields).filter
        fun a => a ∉ (Scan.ofFields edges fields).fields.names := by
    rw [missingProducers, missingProducers, DepthFirst.unmet, DepthFirst.unmet, List.filter_filter]
    refine List.filter_congr fun a _ => ?_
    have hmono : a ∈ fields.names → a ∈ (Scan.ofFields edges fields).fields.names :=
      Scan.mem_run_of_mem (s := ⟨fields, []⟩)
    by_cases ha : a ∈ fields.names <;> simp [ha, hmono]
  rw [heq]
  refine List.length_filter_lt_length_iff_exists.2 ⟨d.producer, ?_, ?_⟩
  · exact List.mem_filter.2 ⟨List.mem_map.2 ⟨d, hd, rfl⟩, by simpa [NameSet.mem_def] using hnot⟩
  · exact fun hc => of_decide_eq_true hc hmem

/-- A set of active fields that has been closed. -/
structure Closure where
  fields : NameSet
  /-- The number of scans, with the last one that activated nothing. -/
  scans : Nat
  /-- The dependencies that activated a field, in that order. -/
  activated : List Dependency
deriving DecidableEq, Repr

namespace Closure

/-- Scans until a scan activates nothing. -/
def close (edges : List Dependency) (fields : NameSet) : Closure :=
  let scan := Scan.ofFields edges fields
  if h : scan.activated = [] then ⟨fields, 1, []⟩
  else
    have := unmet_scan_lt h
    let closure := close edges scan.fields
    ⟨closure.fields, closure.scans + 1, scan.activated ++ closure.activated⟩
termination_by (missingProducers edges fields).length

end Closure

/-- The qualified names of the fields that requirements ask for. -/
def Requirements.qualifiedFields (r : Requirements) (stage : Stage) (struct : String) :
    List String :=
  (r.fields stage).map (qualify struct)

end PassForge
