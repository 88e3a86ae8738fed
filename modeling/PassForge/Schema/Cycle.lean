import PassForge.DepthFirst
import PassForge.Schema.Basic

/-!
# Circular dependencies

`findCycle` looks for a field that needs itself, directly or through others.  It searches depth
first from every consumer.  A field is marked when it is met and closed when all that it needs has
been searched; meeting a field that is marked and not closed shows a circle through it.
-/

namespace PassForge

/-- The fields that a field needs directly. -/
def producersOf (edges : List Dependency) (field : String) : List String :=
  (edges.filter (·.consumer == field)).map Dependency.producer

theorem mem_producers_of_mem_producersOf {edges : List Dependency} {field c : String}
    (h : c ∈ producersOf edges field) : c ∈ edges.map Dependency.producer := by
  obtain ⟨d, hd, rfl⟩ := List.mem_map.1 h
  exact List.mem_map.2 ⟨d, (List.mem_filter.1 hd).1, rfl⟩

/-- A field whose search is under way, and the fields it needs that are still to be searched. -/
structure Visit where
  field : String
  pending : List String
deriving DecidableEq, Repr

/-- The marks that a search has set. -/
structure Marks where
  /-- The fields that have been met. -/
  met : List String
  /-- The fields whose search is finished. -/
  closed : List String
deriving DecidableEq, Repr

/-- The number of steps that a stack of visits takes if no new field is met. -/
def stepsLeft (stack : List Visit) : Nat := stack.foldr (fun v n => v.pending.length + 1 + n) 0

/-- Searches the visits of a stack.  The answer is a field on a circle, or the marks at the end. -/
def searchCycle (edges : List Dependency) (marks : Marks) (stack : List Visit)
    (hstack : ∀ v ∈ stack, ∀ c ∈ v.pending, c ∈ edges.map Dependency.producer) :
    Except String Marks :=
  match stack with
  | [] => .ok marks
  | ⟨f, []⟩ :: rest =>
    have : stepsLeft rest < stepsLeft (⟨f, []⟩ :: rest) := by simp [stepsLeft]
    searchCycle edges { marks with closed := f :: marks.closed } rest fun v hv =>
      hstack v (List.mem_cons_of_mem _ hv)
  | ⟨f, c :: cs⟩ :: rest =>
    have hrest : ∀ v ∈ (⟨f, cs⟩ :: rest : List Visit), ∀ d ∈ v.pending,
        d ∈ edges.map Dependency.producer := fun v hv d hd => by
      rcases List.mem_cons.1 hv with rfl | hv
      · exact hstack ⟨f, c :: cs⟩ List.mem_cons_self d (List.mem_cons_of_mem _ hd)
      · exact hstack v (List.mem_cons_of_mem _ hv) d hd
    if hmet : c ∈ marks.met then
      if c ∈ marks.closed then
        have : stepsLeft (⟨f, cs⟩ :: rest) < stepsLeft (⟨f, c :: cs⟩ :: rest) := by
          simp [stepsLeft]
        searchCycle edges marks (⟨f, cs⟩ :: rest) hrest
      else .error c
    else
      have := DepthFirst.length_unmet_cons_lt
        (hstack ⟨f, c :: cs⟩ List.mem_cons_self c List.mem_cons_self) hmet
      searchCycle edges { marks with met := c :: marks.met }
        (⟨c, producersOf edges c⟩ :: ⟨f, cs⟩ :: rest) fun v hv d hd => by
          rcases List.mem_cons.1 hv with rfl | hv
          · exact mem_producers_of_mem_producersOf hd
          · exact hrest v hv d hd
termination_by
  ((DepthFirst.unmet (edges.map Dependency.producer) marks.met).length, stepsLeft stack)

/-- Searches from fields in turn, passing over those that have been met. -/
def searchFrom (edges : List Dependency) (marks : Marks) : List String → Except String Marks
  | [] => .ok marks
  | f :: rest =>
    if f ∈ marks.met then searchFrom edges marks rest
    else do
      let marks ← searchCycle edges { marks with met := f :: marks.met }
        [⟨f, producersOf edges f⟩] fun v hv c hc => by
          rw [List.mem_singleton.1 hv] at hc
          exact mem_producers_of_mem_producersOf hc
      searchFrom edges marks rest

/-- A field that needs itself, if there is one. -/
def findCycle (edges : List Dependency) : Option String :=
  match searchFrom edges ⟨[], []⟩ (edges.map Dependency.consumer).eraseDups with
  | .error field => some field
  | .ok _ => none

end PassForge
