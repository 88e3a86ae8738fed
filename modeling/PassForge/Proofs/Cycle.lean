import Mathlib.Data.List.Nodup
import Mathlib.Logic.Relation
import PassForge.Schema.Registry

/-!
# Circular dependencies are found

`findCycle` searches with marks and a stack.  In the middle of a search (`Searching`) the stack is a
path: every field on it needs the one above it.  The fields on the stack are those that are met and
not closed, so meeting one of them again closes a circle.  A closed field needs only closed fields,
so no endless chain of needs starts there (`Grounded`), and a circle would be one.

* `Searching.finish`, `Searching.pass`, `Searching.enter`: every step of a search keeps this up;
  `Searching.circle`: the step that reports a field is right to do so.
* `Searching.concluded`, `Searching.concluded_searchFrom`: so are whole searches, from one field and
  from several in turn.
* `circular_of_findCycle`, `not_circular_of_findCycle`: a field that is reported needs itself, and
  if none is reported, no field does.

`Registry.build_exact` says what comes of building a registry: which name is reported, that a circle
is reported if and only if there is one, and what the registry holds.
-/

namespace PassForge

/-- The field `a` needs the field `b` directly. -/
def Needs (edges : List Dependency) (a b : String) : Prop := ⟨a, b⟩ ∈ edges

/-- A field needs itself, directly or through others. -/
def Circular (edges : List Dependency) (f : String) : Prop :=
  Relation.TransGen (Needs edges) f f

/-- No endless chain of needs starts at a field. -/
def Grounded (edges : List Dependency) (f : String) : Prop :=
  Acc (Function.swap (Needs edges)) f

variable {edges : List Dependency} {f c : String}

theorem mem_producersOf_iff : c ∈ producersOf edges f ↔ Needs edges f c := by
  simp only [producersOf, List.mem_map, List.mem_filter, beq_iff_eq]
  constructor
  · rintro ⟨⟨a, b⟩, ⟨hd, rfl⟩, rfl⟩
    exact hd
  · intro h
    exact ⟨⟨f, c⟩, ⟨h, rfl⟩, rfl⟩

theorem Grounded.not_circular (h : Grounded edges f) : ¬ Circular edges f := by
  intro hcircle
  have hacc : Acc (Relation.TransGen (Function.swap (Needs edges))) f := Acc.transGen h
  induction hacc with
  | intro f _ ih =>
    exact ih f (Relation.transGen_swap.2 hcircle) h hcircle

/-! ### Marks -/

/-- What the marks say, where `opened` are the fields whose search is under way. -/
structure Marked (edges : List Dependency) (marks : Marks) (opened : List String) : Prop where
  /-- These are the fields that are met and not closed. -/
  mem_iff : ∀ f, f ∈ opened ↔ f ∈ marks.met ∧ f ∉ marks.closed
  nodup : opened.Nodup
  met_of_closed : ∀ f ∈ marks.closed, f ∈ marks.met
  /-- No circle can be reached from a closed field. -/
  grounded : ∀ f ∈ marks.closed, Grounded edges f

namespace Marked

variable {marks : Marks} {opened : List String}

theorem push (h : Marked edges marks opened) (hf : f ∉ marks.met) :
    Marked edges { marks with met := f :: marks.met } (f :: opened) where
  mem_iff g := by
    have hclosed : f ∉ marks.closed := fun hmem => hf (h.met_of_closed f hmem)
    rw [List.mem_cons, h.mem_iff, List.mem_cons]
    constructor
    · rintro (rfl | ⟨hmet, hopen⟩)
      · exact ⟨.inl rfl, hclosed⟩
      · exact ⟨.inr hmet, hopen⟩
    · rintro ⟨rfl | hmet, hopen⟩
      · exact .inl rfl
      · exact .inr ⟨hmet, hopen⟩
  nodup := List.nodup_cons.2 ⟨fun hmem => hf ((h.mem_iff f).1 hmem).1, h.nodup⟩
  met_of_closed g hg := List.mem_cons_of_mem _ (h.met_of_closed g hg)
  grounded := h.grounded

/-- A field can be closed when all that it needs is closed. -/
theorem pop (h : Marked edges marks (f :: opened))
    (hneeds : ∀ c, Needs edges f c → c ∈ marks.closed) :
    Marked edges { marks with closed := f :: marks.closed } opened := by
  obtain ⟨hnew, hnodup⟩ := List.nodup_cons.1 h.nodup
  refine ⟨fun g => ?_, hnodup, fun g hg => ?_, fun g hg => ?_⟩
  · have hmem := h.mem_iff g
    rw [List.mem_cons] at hmem
    rw [List.mem_cons, not_or]
    constructor
    · intro hg
      obtain ⟨hmet, hclosed⟩ := hmem.1 (.inr hg)
      exact ⟨hmet, fun heq => hnew (heq ▸ hg), hclosed⟩
    · rintro ⟨hmet, hne, hclosed⟩
      exact (hmem.2 ⟨hmet, hclosed⟩).resolve_left hne
  · rcases List.mem_cons.1 hg with rfl | hg
    · exact ((h.mem_iff g).1 List.mem_cons_self).1
    · exact h.met_of_closed g hg
  · rcases List.mem_cons.1 hg with rfl | hg
    · exact .intro _ fun c hc => h.grounded c (hneeds c hc)
    · exact h.grounded g hg

end Marked

/-! ### Stacks -/

/-- A visit that is under way: the fields that are pending, and the one above it on the stack, are
needed; all else that is needed has been closed. -/
structure Visit.UnderWay (edges : List Dependency) (closed : List String) (above : Option String)
    (v : Visit) : Prop where
  pending : ∀ c ∈ v.pending, Needs edges v.field c
  entered : ∀ c ∈ above, Needs edges v.field c
  rest : ∀ c, Needs edges v.field c → c ∈ v.pending ∨ c ∈ closed ∨ c ∈ above

/-- The visits of a stack are under way, where `above` is the field above all of them. -/
def StackUnderWay (edges : List Dependency) (closed : List String) :
    (above : Option String) → List Visit → Prop
  | _, [] => True
  | above, v :: rest =>
    v.UnderWay edges closed above ∧ StackUnderWay edges closed (some v.field) rest

variable {closed : List String} {above : Option String} {stack rest : List Visit}

theorem Visit.underWay_producersOf :
    (⟨f, producersOf edges f⟩ : Visit).UnderWay edges closed none where
  pending _ hc := mem_producersOf_iff.1 hc
  entered c hc := absurd hc (Option.not_mem_none c)
  rest _ hc := .inl (mem_producersOf_iff.2 hc)

theorem StackUnderWay.mono {closed' : List String} (h : StackUnderWay edges closed above stack)
    (hsub : ∀ c ∈ closed, c ∈ closed') : StackUnderWay edges closed' above stack := by
  induction stack generalizing above with
  | nil => trivial
  | cons v rest ih =>
    refine ⟨⟨h.1.pending, h.1.entered, fun c hc => ?_⟩, ih h.2⟩
    exact (h.1.rest c hc).imp_right fun h => h.imp_left (hsub c)

/-- When the field above is closed, the stack below it goes on. -/
theorem StackUnderWay.close (h : StackUnderWay edges closed (some f) stack) :
    StackUnderWay edges (f :: closed) none stack := by
  have hsub : ∀ c ∈ closed, c ∈ f :: closed := fun c hc => List.mem_cons_of_mem _ hc
  cases stack with
  | nil => trivial
  | cons v rest =>
    refine ⟨⟨h.1.pending, fun c hc => absurd hc (Option.not_mem_none c), fun c hc => ?_⟩,
      h.2.mono hsub⟩
    rcases h.1.rest c hc with hpending | hclosed | habove
    · exact .inl hpending
    · exact .inr (.inl (hsub c hclosed))
    · cases habove
      exact .inr (.inl List.mem_cons_self)

/-- **The stack is a path**: every field on it leads to the one above all. -/
theorem StackUnderWay.path (h : StackUnderWay edges closed (some f) stack) {v : Visit}
    (hv : v ∈ stack) : Relation.TransGen (Needs edges) v.field f := by
  induction stack generalizing f with
  | nil => exact absurd hv List.not_mem_nil
  | cons w rest ih =>
    have hstep : Needs edges w.field f := h.1.entered f rfl
    rcases List.mem_cons.1 hv with rfl | hv
    · exact .single hstep
    · exact .tail (ih h.2 hv) hstep

/-! ### The invariant of a search -/

/-- What holds in the middle of a search. -/
structure Searching (edges : List Dependency) (marks : Marks) (stack : List Visit) : Prop where
  marked : Marked edges marks (stack.map Visit.field)
  underWay : StackUnderWay edges marks.closed none stack

namespace Searching

variable {marks : Marks} {cs : List String}

theorem start : Searching edges ⟨[], []⟩ [] := by
  refine ⟨⟨fun f => by simp, List.nodup_nil, fun f hf => hf, fun f hf => ?_⟩, trivial⟩
  exact absurd hf List.not_mem_nil

theorem mem_closed (h : Searching edges marks []) (hf : f ∈ marks.met) : f ∈ marks.closed := by
  by_contra hopen
  exact List.not_mem_nil ((h.marked.mem_iff f).2 ⟨hf, hopen⟩)

theorem root (h : Searching edges marks []) (hf : f ∉ marks.met) :
    Searching edges { marks with met := f :: marks.met } [⟨f, producersOf edges f⟩] :=
  ⟨h.marked.push hf, Visit.underWay_producersOf, trivial⟩

theorem finish (h : Searching edges marks (⟨f, []⟩ :: rest)) :
    Searching edges { marks with closed := f :: marks.closed } rest := by
  refine ⟨h.marked.pop fun c hc => ?_, h.underWay.2.close⟩
  rcases h.underWay.1.rest c hc with hpending | hclosed | habove
  · exact absurd hpending List.not_mem_nil
  · exact hclosed
  · exact absurd habove (Option.not_mem_none c)

theorem pass (h : Searching edges marks (⟨f, c :: cs⟩ :: rest)) (hc : c ∈ marks.closed) :
    Searching edges marks (⟨f, cs⟩ :: rest) := by
  obtain ⟨hvisit, hrest⟩ := h.underWay
  refine ⟨h.marked, ⟨?_, hvisit.entered, ?_⟩, hrest⟩
  · exact fun d hd => hvisit.pending d (List.mem_cons_of_mem _ hd)
  · intro d hd
    rcases hvisit.rest d hd with hpending | hother
    · rcases List.mem_cons.1 hpending with rfl | hpending
      · exact .inr (.inl hc)
      · exact .inl hpending
    · exact .inr hother

theorem enter (h : Searching edges marks (⟨f, c :: cs⟩ :: rest)) (hc : c ∉ marks.met) :
    Searching edges { marks with met := c :: marks.met }
      (⟨c, producersOf edges c⟩ :: ⟨f, cs⟩ :: rest) := by
  obtain ⟨hvisit, hrest⟩ := h.underWay
  refine ⟨h.marked.push hc, Visit.underWay_producersOf, ⟨?_, ?_, ?_⟩, hrest⟩
  · exact fun d hd => hvisit.pending d (List.mem_cons_of_mem _ hd)
  · intro d hd
    cases hd
    exact hvisit.pending c List.mem_cons_self
  · intro d hd
    rcases hvisit.rest d hd with hpending | hclosed | habove
    · rcases List.mem_cons.1 hpending with rfl | hpending
      · exact .inr (.inr rfl)
      · exact .inl hpending
    · exact .inr (.inl hclosed)
    · exact absurd habove (Option.not_mem_none d)

/-- **Meeting a field of the stack again closes a circle.** -/
theorem circle (h : Searching edges marks (⟨f, c :: cs⟩ :: rest)) (hmet : c ∈ marks.met)
    (hopen : c ∉ marks.closed) : Circular edges c := by
  have hstep : Needs edges f c := h.underWay.1.pending c List.mem_cons_self
  obtain ⟨v, hv, hfield⟩ := List.mem_map.1 ((h.marked.mem_iff c).2 ⟨hmet, hopen⟩)
  rcases List.mem_cons.1 hv with rfl | hv
  · exact .single (show Needs edges c c from hfield ▸ hstep)
  · exact .tail (hfield ▸ h.underWay.2.path hv) hstep

end Searching

/-! ### Whole searches -/

/-- What a search may come to: a field that needs itself, or marks after which nothing is open and
all of `met` is met. -/
def Concluded (edges : List Dependency) (met : List String) : Except String Marks → Prop
  | .error c => Circular edges c
  | .ok marks => Searching edges marks [] ∧ ∀ f ∈ met, f ∈ marks.met

variable {marks : Marks} {met : List String}

theorem Concluded.mono {met' : List String} {result : Except String Marks}
    (h : Concluded edges met' result) (hsub : ∀ f ∈ met, f ∈ met') :
    Concluded edges met result := by
  cases result with
  | error c => exact h
  | ok marks => exact ⟨h.1, fun f hf => h.2 f (hsub f hf)⟩

/-- **A search comes to a right conclusion**, by induction over its steps. -/
theorem Searching.concluded (h : Searching edges marks stack)
    (hstack : ∀ v ∈ stack, ∀ c ∈ v.pending, c ∈ edges.map Dependency.producer) :
    Concluded edges marks.met (searchCycle edges marks stack hstack) := by
  induction marks, stack, hstack using searchCycle.induct edges with
  | case1 marks hstack =>
    rw [searchCycle]
    exact ⟨h, fun f hf => hf⟩
  | case2 marks f rest hstack _ _ ih =>
    rw [searchCycle]
    exact ih h.finish
  | case3 marks f d ds rest hstack hrest hmet hclosed _ _ ih =>
    rw [searchCycle, dif_pos hmet, if_pos hclosed]
    exact ih (h.pass hclosed)
  | case4 marks f d ds rest hstack hrest hmet hopen =>
    rw [searchCycle, dif_pos hmet, if_neg hopen]
    exact h.circle hmet hopen
  | case5 marks f d ds rest hstack hrest hmet _ _ ih =>
    rw [searchCycle, dif_neg hmet]
    exact (ih (h.enter hmet)).mono fun f hf => List.mem_cons_of_mem _ hf

/-- Searching from fields in turn meets all of them, unless it finds a circle. -/
theorem Searching.concluded_searchFrom (h : Searching edges marks []) (fields : List String) :
    Concluded edges (fields ++ marks.met) (searchFrom edges marks fields) := by
  induction fields generalizing marks with
  | nil => exact ⟨h, fun f hf => hf⟩
  | cons f fields ih =>
    rw [searchFrom]
    split
    · rename_i hmet
      refine (ih h).mono fun g hg => ?_
      rcases List.mem_cons.1 hg with rfl | hg
      · exact List.mem_append_right _ hmet
      · exact hg
    · rename_i hmet
      have hconcluded := (h.root hmet).concluded fun v hv c hc =>
        mem_producers_of_mem_producersOf (List.mem_singleton.1 hv ▸ hc)
      cases hsearch : searchCycle edges _ [⟨f, producersOf edges f⟩] _ with
      | error c =>
        rw [hsearch] at hconcluded
        exact hconcluded
      | ok marks' =>
        rw [hsearch] at hconcluded
        refine (ih hconcluded.1).mono fun g hg => ?_
        -- `f` itself was met when its search began
        rcases List.mem_append.1 hg with hg | hg
        · rcases List.mem_cons.1 hg with rfl | hg
          · exact List.mem_append_right _ (hconcluded.2 g List.mem_cons_self)
          · exact List.mem_append_left _ hg
        · exact List.mem_append_right _ (hconcluded.2 g (List.mem_cons_of_mem _ hg))

theorem concluded_searchFrom_consumers (edges : List Dependency) :
    Concluded edges (edges.map Dependency.consumer)
      (searchFrom edges ⟨[], []⟩ (edges.map Dependency.consumer).eraseDups) := by
  refine (Searching.start.concluded_searchFrom _).mono fun f hf => ?_
  exact List.mem_append_left _ (List.mem_eraseDups.2 hf)

/-- **A field that is reported needs itself.** -/
theorem circular_of_findCycle (h : findCycle edges = some f) : Circular edges f := by
  have hconcluded := concluded_searchFrom_consumers edges
  unfold findCycle at h
  cases hsearch : searchFrom edges ⟨[], []⟩ (edges.map Dependency.consumer).eraseDups with
  | error c =>
    rw [hsearch] at h hconcluded
    exact Option.some.inj h ▸ hconcluded
  | ok marks =>
    rw [hsearch] at h
    cases h

/-- **Every circle is found.** -/
theorem not_circular_of_findCycle (h : findCycle edges = none) : ¬ Circular edges f := by
  have hconcluded := concluded_searchFrom_consumers edges
  unfold findCycle at h
  cases hsearch : searchFrom edges ⟨[], []⟩ (edges.map Dependency.consumer).eraseDups with
  | error c =>
    rw [hsearch] at h
    cases h
  | ok marks =>
    rw [hsearch] at hconcluded
    obtain ⟨hend, hmet⟩ := hconcluded
    intro hcircle
    -- a field that needs itself is a consumer
    obtain ⟨c, hneeds, -⟩ := Relation.TransGen.head'_iff.1 hcircle
    have hf : f ∈ marks.met := hmet f (List.mem_map.2 ⟨⟨f, c⟩, hneeds, rfl⟩)
    exact (hend.marked.grounded f (hend.mem_closed hf)).not_circular hcircle

theorem findCycle_eq_none_iff : findCycle edges = none ↔ ∀ f, ¬ Circular edges f := by
  constructor
  · intro h f
    exact not_circular_of_findCycle h
  · intro hacyclic
    by_contra hfound
    obtain ⟨f, hf⟩ := Option.ne_none_iff_exists'.1 hfound
    exact hacyclic f (circular_of_findCycle hf)

/-! ### Repeated names -/

theorem firstRepeated_eq_some_iff {seen names : List String} {name : String} :
    firstRepeated seen names = some name ↔ ∃ before after, names = before ++ name :: after ∧
      before.Nodup ∧ (∀ a ∈ before, a ∉ seen) ∧ (name ∈ seen ∨ name ∈ before) := by
  induction names generalizing seen with
  | nil => simp [firstRepeated]
  | cons a names ih =>
    by_cases ha : a ∈ seen
    · rw [firstRepeated, if_pos ha, Option.some.injEq]
      constructor
      · rintro rfl
        exact ⟨[], names, rfl, List.nodup_nil, by simp, .inl ha⟩
      · rintro ⟨before, after, heq, -, hunseen, -⟩
        cases before with
        | nil => exact (List.cons.inj heq).1
        | cons b before =>
          obtain rfl := (List.cons.inj heq).1
          exact absurd ha (hunseen a List.mem_cons_self)
    · rw [firstRepeated, if_neg ha, ih]
      constructor
      · rintro ⟨before, after, rfl, hnodup, hunseen, hname⟩
        refine ⟨a :: before, after, rfl, ?_⟩
        simp only [List.nodup_cons, List.mem_cons] at hunseen hname ⊢
        grind
      · rintro ⟨before, after, heq, hnodup, hunseen, hname⟩
        cases before with
        | nil =>
          obtain rfl := (List.cons.inj heq).1
          exact absurd hname (not_or.2 ⟨ha, List.not_mem_nil⟩)
        | cons b before =>
          obtain ⟨rfl, rfl⟩ := List.cons.inj heq
          refine ⟨before, after, rfl, ?_⟩
          simp only [List.nodup_cons, List.mem_cons] at hnodup hunseen hname ⊢
          grind

theorem firstRepeated_eq_none_iff {seen names : List String} :
    firstRepeated seen names = none ↔ names.Nodup ∧ ∀ a ∈ names, a ∉ seen := by
  induction names generalizing seen with
  | nil => simp [firstRepeated]
  | cons a names ih =>
    by_cases ha : a ∈ seen
    · simp [firstRepeated, ha]
    · rw [firstRepeated, if_neg ha, ih]
      simp only [List.nodup_cons, List.mem_cons]
      grind

theorem firstRepeated_nil_iff {names : List String} :
    firstRepeated [] names = none ↔ names.Nodup := by
  simp [firstRepeated_eq_none_iff]

/-! ### Registries -/

namespace Registry

variable {structs : List StructSchema} {tables : List DependencyTable} {name : String}

theorem get?_eq_some_iff {r : Registry} {s : StructSchema}
    (hnodup : (r.structs.map StructSchema.name).Nodup) :
    r.get? name = some s ↔ s ∈ r.structs ∧ s.name = name := by
  constructor
  · intro h
    exact ⟨List.mem_of_find?_eq_some h, by simpa using List.find?_some h⟩
  · rintro ⟨hs, rfl⟩
    cases hfound : r.get? s.name with
    | none => simpa using List.find?_eq_none.1 hfound s hs
    | some t =>
      have hname : t.name = s.name := by simpa using List.find?_some hfound
      rw [List.inj_on_of_nodup_map hnodup (List.mem_of_find?_eq_some hfound) hs hname]

theorem get?_eq_none_iff {r : Registry} :
    r.get? name = none ↔ name ∉ r.structs.map StructSchema.name := by
  simp [get?]

theorem build_eq : build structs tables =
    match firstRepeated [] (structs.map StructSchema.name),
      findCycle (tables.flatMap DependencyTable.edges) with
    | some name, _ => .error (.duplicateStruct name)
    | none, some field => .error (.cyclicDependency field)
    | none, none => .ok ⟨structs, tables⟩ := by
  cases hname : firstRepeated [] (structs.map StructSchema.name) with
  | some name => simp only [build, hname]
  | none =>
    cases hcycle : findCycle (tables.flatMap DependencyTable.edges) <;>
      simp only [build, dependencies, hname, hcycle]

theorem build_eq_duplicateStruct_iff : build structs tables = .error (.duplicateStruct name) ↔
    firstRepeated [] (structs.map StructSchema.name) = some name := by
  rw [build_eq]
  split <;> simp_all

theorem build_eq_cyclicDependency_iff : build structs tables = .error (.cyclicDependency f) ↔
    (structs.map StructSchema.name).Nodup ∧
      findCycle (tables.flatMap DependencyTable.edges) = some f := by
  rw [build_eq, ← firstRepeated_nil_iff]
  split <;> simp_all

/-- **What comes of building a registry.**  A repeated name is reported if and only if there is one:
the first that stands before.  Otherwise a circle of the dependencies of all tables is reported if
and only if there is one, by a field that lies on it.  Otherwise there is a registry; it finds
under every name the one schema of that name, and its dependencies are those of the tables in
order. -/
theorem build_exact (structs : List StructSchema) (tables : List DependencyTable) :
    ((∃ name, build structs tables = .error (.duplicateStruct name)) ↔
      ¬ (structs.map StructSchema.name).Nodup) ∧
    (∀ name, build structs tables = .error (.duplicateStruct name) ↔
      ∃ before s after, structs = before ++ s :: after ∧ s.name = name ∧
        (before.map StructSchema.name).Nodup ∧ name ∈ before.map StructSchema.name) ∧
    ((∃ field, build structs tables = .error (.cyclicDependency field)) ↔
      (structs.map StructSchema.name).Nodup ∧
        ∃ field, Circular (tables.flatMap DependencyTable.edges) field) ∧
    (∀ field, build structs tables = .error (.cyclicDependency field) →
      Circular (tables.flatMap DependencyTable.edges) field) ∧
    ((structs.map StructSchema.name).Nodup →
      (∀ field, ¬ Circular (tables.flatMap DependencyTable.edges) field) →
      ∃ r, build structs tables = .ok r ∧
        (∀ name s, r.get? name = some s ↔ s ∈ structs ∧ s.name = name) ∧
        (∀ name, r.get? name = none ↔ name ∉ structs.map StructSchema.name) ∧
        r.dependencies = tables.flatMap DependencyTable.edges) := by
  refine ⟨?_, fun name => ?_, ?_, fun field h => ?_, fun hnodup hacyclic => ?_⟩
  · simp only [build_eq_duplicateStruct_iff, ← Option.isSome_iff_exists, ← firstRepeated_nil_iff,
      Option.isSome_iff_ne_none, ne_eq]
  · rw [build_eq_duplicateStruct_iff, firstRepeated_eq_some_iff]
    constructor
    · rintro ⟨before, after, hsplit, hnodup, -, hname⟩
      obtain ⟨front, back, rfl, rfl, hback⟩ := List.map_eq_append_iff.1 hsplit
      obtain ⟨s, rest, rfl, rfl, -⟩ := List.map_eq_cons_iff.1 hback
      exact ⟨front, s, rest, rfl, rfl, hnodup, hname.resolve_left List.not_mem_nil⟩
    · rintro ⟨front, s, back, rfl, rfl, hnodup, hname⟩
      exact ⟨front.map StructSchema.name, back.map StructSchema.name, by simp, hnodup, by simp,
        .inr hname⟩
  · simp only [build_eq_cyclicDependency_iff, exists_and_left]
    refine and_congr_right fun _ => ?_
    rw [← Option.isSome_iff_exists, Option.isSome_iff_ne_none, ne_eq, findCycle_eq_none_iff]
    exact not_forall_not
  · exact circular_of_findCycle (build_eq_cyclicDependency_iff.1 h).2
  · have hnone : findCycle (tables.flatMap DependencyTable.edges) = none :=
      findCycle_eq_none_iff.2 hacyclic
    refine ⟨⟨structs, tables⟩, ?_, fun name s => get?_eq_some_iff hnodup,
      fun name => get?_eq_none_iff, rfl⟩
    rw [build_eq, firstRepeated_nil_iff.2 hnodup, hnone]

/-- A field that needs two others, both of which need a fourth. -/
def diamond : List DependencyTable :=
  [⟨"A", [⟨"S.a", "S.b"⟩, ⟨"S.a", "S.c"⟩]⟩, ⟨"B", [⟨"S.b", "S.d"⟩, ⟨"S.c", "S.d"⟩]⟩]

/-- The diamond with a way back from its last field to the second. -/
def knotted : List DependencyTable := diamond ++ [⟨"C", [⟨"S.d", "S.b"⟩]⟩]

/-- The diamond is no circle.  With the way back there is one; it does not lead through the field
that the search starts from. -/
theorem build_exact_diamond :
    (∃ r, build [⟨"Mesh", []⟩, ⟨"S", []⟩] diamond = .ok r ∧ r.get? "S" = some ⟨"S", []⟩ ∧
      r.get? "T" = none ∧ r.dependencies = diamond.flatMap DependencyTable.edges) ∧
    build [⟨"Mesh", []⟩] knotted = .error (.cyclicDependency "S.b") ∧
    Circular (knotted.flatMap DependencyTable.edges) "S.b" := by
  have hnone : findCycle (diamond.flatMap DependencyTable.edges) = none := by cbv
  have hfound : build [⟨"Mesh", []⟩] knotted = .error (.cyclicDependency "S.b") := by cbv
  obtain ⟨-, -, -, -, hok⟩ := build_exact [⟨"Mesh", []⟩, ⟨"S", []⟩] diamond
  obtain ⟨r, hbuild, hsome, hmissing, hdependencies⟩ :=
    hok (by decide) fun _ => not_circular_of_findCycle hnone
  obtain ⟨-, -, -, hcircle, -⟩ := build_exact [⟨"Mesh", []⟩] knotted
  exact ⟨⟨r, hbuild, (hsome _ _).2 (by decide), (hmissing _).2 (by decide), hdependencies⟩, hfound,
    hcircle "S.b" hfound⟩

end Registry

end PassForge
