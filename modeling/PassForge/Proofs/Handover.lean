import PassForge.Proofs.ActiveFields

/-!
# The active fields that are handed back

The set of active fields is handed in, changed while the branches of a pass are written, and handed
back, also if the pass fails.  A pass can fail early, when it cannot be planned; then nothing has
been changed.  Once there is a plan, all branches are written before the template is looked at.  So
whatever becomes of the template, the same fields are handed back.

* `Generator.exists_plan_or_early`: what can become of planning.
* `Generator.result_of_plan`: what can become of a pass with a plan.
* `Generator.active_handed_back`: the fields that are handed back, for every template and store.
-/

namespace PassForge

/-- The error of a pass that cannot be planned: there is no root, or there are too many variants. -/
def PassError.IsEarly (e : PassError) : Prop :=
  (∃ id, e = .graph (.unknownNode id)) ∨ ∃ limit, e = .variants limit

theorem PassError.not_isEarly_template (e : Template.SpliceError) :
    ¬ (PassError.template e).IsEarly := by
  rintro (⟨id, h⟩ | ⟨limit, h⟩)
  · cases h
  · cases h

/-- A pass with another template. -/
def Pass.withTemplate (pass : Pass) (template : String) : Pass := { pass with template := template }

theorem GroupTable.exists_collect {g : MaterialGraph} {root : NodeId} {n : Node}
    (hroot : g.node? root = some n) (t : GroupTable) (slots : List SlotId) :
    ∃ t', t.collect g root slots = .ok t' := by
  have hwalk : g.walk root ⟨some slots, none⟩ = .ok (g.walkFrom root ⟨some slots, none⟩ []) :=
    MaterialGraph.walk_eq_ok_iff.2 ⟨⟨n, hroot⟩, rfl⟩
  rw [collect, hwalk]
  exact ⟨_, rfl⟩

namespace Generator

variable {gen : Generator} {pass : Pass} {seed : NameSet}

/-- A generator with the templates of another store. -/
def withStore (gen : Generator) (store : Template.Store) : Generator := { gen with store := store }

/-! ### Planning -/

theorem plan_of_no_root (hroot : gen.graph.node? gen.root = none) :
    gen.plan pass = .error (.graph (.unknownNode gen.root)) := by
  rw [plan, MaterialGraph.resolveSlots, MaterialGraph.node_of_node?_eq_none hroot]
  rfl

theorem exists_collectGroups {n : Node} (hroot : gen.graph.node? gen.root = some n)
    (vertexSlots pixelSlots : List SlotId) :
    ∃ groups, gen.collectGroups vertexSlots pixelSlots = .ok groups := by
  obtain ⟨groups, hvertex⟩ := GroupTable.empty.exists_collect hroot vertexSlots
  obtain ⟨groups', hpixel⟩ := groups.exists_collect hroot pixelSlots
  exact ⟨groups', bind_eq_ok_iff.2 ⟨groups, hvertex, hpixel⟩⟩

/-- **Planning succeeds or fails early.** -/
theorem exists_plan_or_early (gen : Generator) (pass : Pass) :
    (∃ plan, gen.plan pass = .ok plan) ∨ ∃ e, gen.plan pass = .error e ∧ e.IsEarly := by
  cases hroot : gen.graph.node? gen.root with
  | none => exact .inr ⟨_, plan_of_no_root hroot, .inl ⟨_, rfl⟩⟩
  | some n =>
    have hslots : ∀ ids, gen.graph.resolveSlots gen.root ids = .ok (n.presentSlots ids) :=
      fun ids => MaterialGraph.resolveSlots_eq_ok_iff.2 ⟨n, hroot, rfl⟩
    obtain ⟨groups, hgroups⟩ := exists_collectGroups hroot (n.presentSlots pass.vertexSlots)
      (n.presentSlots pass.pixelSlots)
    cases hfound : groups.enumerate gen.settings.maxVariants with
    | error limit =>
      refine .inr ⟨.variants limit, ?_, .inr ⟨limit, rfl⟩⟩
      simp only [plan, hslots, Except.mapError, bind, Except.bind, hgroups, hfound]
    | ok found =>
      obtain ⟨plan, hplan, -⟩ := exists_plan pass (hslots _) (hslots _) hgroups hfound
      exact .inl ⟨plan, hplan⟩

/-! ### Generating -/

theorem plan_withTemplate (store : Template.Store) (template : String) :
    (gen.withStore store).plan (pass.withTemplate template) = gen.plan pass := rfl

/-- The branches of a pass are written without its template. -/
theorem activeAfter_withTemplate (store : Template.Store) (template : String) (plan : Plan)
    (variants : List KeywordSet) :
    (gen.withStore store).activeAfter (pass.withTemplate template) plan seed variants =
      gen.activeAfter pass plan seed variants := rfl

theorem generate_of_early {e : PassError} (hplan : gen.plan pass = .error e) (seed : NameSet) :
    (gen.generate pass seed).result = .error e ∧ (gen.generate pass seed).active = seed := by
  unfold generate
  rw [hplan]
  exact ⟨rfl, rfl⟩

theorem result_generate {plan : Plan} (hplan : gen.plan pass = .ok plan) :
    (gen.generate pass seed).result = gen.finish pass plan (gen.draft pass plan seed) := by
  unfold generate
  rw [hplan]

theorem result_of_splice_eq_error {plan : Plan} {e : Template.SpliceError}
    (hplan : gen.plan pass = .ok plan)
    (hsplice : Template.splice gen.store (gen.context pass plan (gen.draft pass plan seed))
      pass.template = .error e) : (gen.generate pass seed).result = .error (.template e) := by
  rw [result_generate hplan, finish, hsplice]
  rfl

theorem result_of_plan {plan : Plan} (hplan : gen.plan pass = .ok plan) (seed : NameSet) :
    (∃ p, (gen.generate pass seed).result = .ok p) ∨
      ∃ e, (gen.generate pass seed).result = .error (.template e) := by
  cases hsplice : Template.splice gen.store (gen.context pass plan (gen.draft pass plan seed))
      pass.template with
  | ok spliced =>
    rw [result_generate hplan, finish, hsplice]
    exact .inl ⟨_, rfl⟩
  | error e => exact .inr ⟨e, result_of_splice_eq_error hplan hsplice⟩

/-- **The active fields that are handed back.**  A pass that cannot be planned hands back the fields
as they were handed in, and so it does with any other template.  Any other pass keeps the fields
handed in, and hands back the same set for every template and every store, whether the pass is
generated or its template is not found, cannot be read or is malformed; and this is the set that a
generated pass names. -/
theorem active_handed_back (gen : Generator) (pass : Pass) (seed : NameSet) :
    (∀ e, (gen.generate pass seed).result = .error e → e.IsEarly →
      (gen.generate pass seed).active = seed ∧ ∀ store template,
        ((gen.withStore store).generate (pass.withTemplate template) seed).active = seed) ∧
    ((∀ e, (gen.generate pass seed).result = .error e → ¬ e.IsEarly) →
      (∀ a ∈ seed, a ∈ (gen.generate pass seed).active) ∧ ∀ store template, ∃ outcome,
        (gen.withStore store).generate (pass.withTemplate template) seed = outcome ∧
        outcome.active = (gen.generate pass seed).active ∧
        ((∃ p, outcome.result = .ok p ∧ p.active = (gen.generate pass seed).active) ∨
          ∃ e, outcome.result = .error (.template e))) := by
  rcases gen.exists_plan_or_early pass with ⟨plan, hplan⟩ | ⟨e, hplan, hearly⟩
  · refine ⟨fun e he hearly => ?_, fun _ => ?_⟩
    · -- with a plan, a failure is not early
      rcases result_of_plan hplan seed with ⟨p, hp⟩ | ⟨e', he'⟩
      · rw [hp] at he
        cases he
      · rw [he'] at he
        cases he
        exact absurd hearly (PassError.not_isEarly_template e')
    · rw [active_generate hplan]
      refine ⟨fun a ha => ?_, fun store template => ⟨_, rfl, ?_⟩⟩
      · exact (gen.isLeast_activeAfter pass plan seed variants_ne_nil).1.1 (.inl ha)
      · have hother := (plan_withTemplate store template).trans hplan
        rw [active_generate hother, activeAfter_withTemplate]
        refine ⟨rfl, (result_of_plan hother seed).imp_left fun ⟨p, hp⟩ => ⟨p, hp, ?_⟩⟩
        rw [active_of_result hother hp, activeAfter_withTemplate]
  · obtain ⟨hresult, hactive⟩ := generate_of_early hplan seed
    refine ⟨fun _ _ _ => ⟨hactive, fun store template => ?_⟩,
      fun hlate => absurd hearly (hlate e hresult)⟩
    exact (generate_of_early ((plan_withTemplate store template).trans hplan) seed).2

/-- The material `stone` with a root that it does not have. -/
def rootless : Generator := { stone with root := ⟨9, 1⟩ }

/-- The material `stone` without templates. -/
def bare : Generator := stone.withStore (.memory [] [])

/-- Without a root, `stone` hands back what was handed in.  Without templates it fails later, and
hands back what it does with the templates of the library. -/
theorem active_handed_back_stone :
    (∃ e, (rootless.generate (.depthOnly [0] [1]) (.ofList ["DepthOffset"])).result = .error e ∧
      e.IsEarly ∧ (rootless.generate (.depthOnly [0] [1]) (.ofList ["DepthOffset"])).active =
        .ofList ["DepthOffset"]) ∧
    ∃ active, "DepthOffset" ∈ active ∧
      (bare.generate (.depthOnly [0] [1]) (.ofList ["DepthOffset"])).result =
        .error (.template (.notFound "passes/DepthOnly.template")) ∧
      (bare.generate (.depthOnly [0] [1]) (.ofList ["DepthOffset"])).active = active ∧
      (stone.generate (.depthOnly [0] [1]) (.ofList ["DepthOffset"])).active = active := by
  constructor
  · have hplan : rootless.plan (.depthOnly [0] [1]) = .error (.graph (.unknownNode ⟨9, 1⟩)) :=
      plan_of_no_root (by decide)
    have hresult := (generate_of_early hplan (.ofList ["DepthOffset"])).1
    have hearly : (PassError.graph (.unknownNode ⟨9, 1⟩)).IsEarly := .inl ⟨_, rfl⟩
    exact ⟨_, hresult, hearly, ((active_handed_back _ _ _).1 _ hresult hearly).1⟩
  · obtain ⟨plan, hplan, -⟩ := stone.exists_plan (.depthOnly [0] [1]) rfl rfl
      collectGroups_stone enumerate_stoneGroups
    have hbare : bare.plan (.depthOnly [0] [1]) = .ok plan := hplan
    have hsplice : ∀ context, Template.splice (.memory [] []) context
        "passes/DepthOnly.template" = .error (.notFound "passes/DepthOnly.template") := by
      intro context
      have hpath : (Template.Path.normalize "passes/DepthOnly.template").isSome := by
        decide +kernel
      obtain ⟨path, hpath⟩ := Option.isSome_iff_exists.1 hpath
      have hstore : Template.Store.memory [] [] "passes/DepthOnly.template" = .ok none := rfl
      simp only [Template.splice, hpath, hstore]
    have hresult : (bare.generate (.depthOnly [0] [1]) (.ofList ["DepthOffset"])).result =
        .error (.template (.notFound "passes/DepthOnly.template")) :=
      result_of_splice_eq_error hbare (hsplice _)
    obtain ⟨-, hlate⟩ := active_handed_back bare (.depthOnly [0] [1]) (.ofList ["DepthOffset"])
    obtain ⟨hseed, hsame⟩ := hlate fun e he => by
      rw [hresult] at he
      cases he
      exact PassError.not_isEarly_template _
    obtain ⟨_, rfl, hactive, -⟩ := hsame .library "passes/DepthOnly.template"
    exact ⟨_, hseed _ (by decide), hresult, rfl, hactive⟩

end Generator

end PassForge
