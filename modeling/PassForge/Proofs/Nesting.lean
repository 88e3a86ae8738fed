import PassForge.Generator.Basic
import PassForge.Proofs.Gating
import PassForge.Proofs.PlainCode

/-!
# Nesting of the branches of a pass

The branches of a pass stand, section by section (`Part`), in one chain of conditionals.  `write`
spells a branch out as the calls on a writer that a variant makes, with every step into a block and
back; `code_of_sectionsOf` says that the code of a branch is what these calls write.

A generator and a pass are tame (`IsTame`) if no text from outside can pass for a conditional.  Then

* the conditionals of a branch are the pairs around guarded members (`conditionals_of_sectionsOf`);
* with more than one variant, the outermost conditionals of a section are one chain with a branch
  for every variant (`outermost_section`);
* the shared functions and the headings between the sections bring in none
  (`conditionals_graphCode`), so that the whole is well nested.
-/

namespace PassForge

/-! ### Parts -/

/-- A section that differs between variants. -/
inductive Part where
  | properties
  | inputs (stage : Stage)
  | outputs (stage : Stage)
  | evaluation (stage : Stage)
  | defines
deriving DecidableEq, Repr

/-- The code of a part. -/
def Part.of : Part → Sections → Code
  | properties, s => s.properties
  | inputs stage, s => s.inputs stage
  | outputs .pixel, s => s.pixelOutputs
  | outputs .vertex, s => s.vertexOutputs
  | evaluation .pixel, s => s.pixelEvaluation
  | evaluation .vertex, s => s.vertexEvaluation
  | defines, s => s.defines

theorem Part.of_assemble (part : Part) (vocabulary : KeywordSet) (branches : List Branch) :
    part.of (Sections.assemble vocabulary branches) = sectionOf vocabulary branches part.of := by
  rcases part with _ | stage | stage | stage | _
  · rfl
  · cases stage <;> rfl
  · cases stage <;> rfl
  · cases stage <;> rfl
  · rfl

/-- The plan of a stage, if it has anything to evaluate. -/
def Plan.stage? (plan : Plan) : Stage → Option StagePlan
  | .pixel => some plan.pixel
  | .vertex => if plan.vertexActive then some plan.vertex else none

namespace Generator

variable {gen : Generator} {pass : Pass} {plan : Plan} {seed : NameSet} {v : KeywordSet}
  {active : NameSet}

theorem outputs_of_sectionsOf (stage : Stage) :
    (Part.outputs stage).of (gen.sectionsOf pass plan v active) =
      ((plan.stage? stage).map gen.outputsOf).getD [] := by
  cases stage with
  | pixel => rfl
  | vertex =>
    simp only [Part.of, sectionsOf, Plan.stage?]
    split <;> rfl

theorem evaluation_of_sectionsOf (stage : Stage) :
    (Part.evaluation stage).of (gen.sectionsOf pass plan v active) =
      ((plan.stage? stage).map fun p => gen.evaluationOf p v).getD [] := by
  cases stage with
  | pixel => rfl
  | vertex =>
    simp only [Part.of, sectionsOf, Plan.stage?]
    split <;> rfl

/-! ### The calls of a variant -/

/-- Writes a part of a variant, call by call. -/
def write (gen : Generator) (pass : Pass) (plan : Plan) (v : KeywordSet) (active : NameSet)
    (part : Part) (w : Writer) : Writer :=
  match part with
  | .properties =>
    (gen.graph.properties (plan.stages.flatMap fun p => p.nodesOf v)).foldl Writer.line w
  | .inputs stage =>
    match gen.registry.get? stage.names.inputStruct with
    | none => w
    | some schema => w.block ("struct " ++ schema.name)
        (fun w => (schema.emitted active).foldl (fun w f => w.code f.code) w) "\x7d;"
  | .outputs stage =>
    match plan.stage? stage with
    | none => w
    | some p => w.block ("struct " ++ p.stage.names.outputStruct)
        (fun w => (gen.graph.rootSlots gen.root p.slots).foldl
          (fun w s => w.line (s.type.name ++ " " ++ Text.sanitize s.name ++ ";")) w) "\x7d;"
  | .evaluation stage =>
    match plan.stage? stage with
    | none => w
    | some p =>
      let names := p.stage.names
      w.block (names.outputStruct ++ " " ++ names.function ++ "(" ++ names.inputStruct ++ " IN)")
        (fun w => (gen.graph.evaluationBody gen.root (p.nodesOf v) p.slots v names).foldl
          (fun w st => w.code st.code) w) "\x7d"
  | .defines =>
    let needs := plan.requirements.get v
    let w := if gen.settings.listActiveFields then
        active.names.foldl (fun w field => w.line ("//   " ++ field)) (w.line "// ACTIVE FIELDS:")
      else w
    let w := pass.extraDefines.foldl Writer.line (w.line ("#define SHADERPASS " ++ pass.shaderPass))
    let w := if needs.depthTexture then w.line "#define REQUIRE_DEPTH_TEXTURE" else w
    if needs.opaqueTexture then w.line "#define REQUIRE_OPAQUE_TEXTURE" else w

/-- **The code of a branch** is what the calls of its variant write. -/
theorem code_of_sectionsOf (part : Part) (w : Writer) :
    w.code (part.of (gen.sectionsOf pass plan v active)) = gen.write pass plan v active part w := by
  cases part with
  | properties => exact Writer.code_flatMap ..
  | inputs stage =>
    have hpart : (Part.inputs stage).of (gen.sectionsOf pass plan v active) =
        gen.inputStruct stage active := inputs_sectionsOf stage
    rw [hpart, inputStruct, write]
    cases gen.registry.get? stage.names.inputStruct with
    | none => rfl
    | some schema => simp only [StructSchema.declaration, Writer.code_block, Writer.code_flatMap]
  | outputs stage =>
    rw [outputs_of_sectionsOf, write]
    cases plan.stage? stage with
    | none => rfl
    | some p => simp only [Option.map_some, Option.getD_some, outputsOf, MaterialGraph.outputStruct,
        Writer.code_block, Writer.code_flatMap, Writer.code_line]
  | evaluation stage =>
    rw [evaluation_of_sectionsOf, write]
    cases plan.stage? stage with
    | none => rfl
    | some p => simp only [Option.map_some, Option.getD_some, evaluationOf,
        MaterialGraph.evaluationFunction, Writer.code_block, Writer.code_flatMap]
  | defines =>
    have hline : ∀ (c : Bool) (content : String) (w : Writer),
        w.code (if c then Code.line content else []) = if c then w.line content else w := by
      intro c content w
      cases c <;> rfl
    have hcomments : w.code (if gen.settings.listActiveFields then fieldComments active else []) =
        if gen.settings.listActiveFields then
          active.names.foldl (fun w field => w.line ("//   " ++ field)) (w.line "// ACTIVE FIELDS:")
        else w := by
      split
      · rw [fieldComments, Writer.code_append, Writer.code_flatMap]
        rfl
      · rfl
    simp only [Part.of, sectionsOf, definesOf, write, Writer.code_append, Writer.code_flatMap,
      hcomments, hline, Writer.code_line]

/-! ### Tame generators -/

/-- No text from outside can pass for a conditional: those of the graph, the schemas and the fields
have no `#`, keywords are single lines, and so are extra defines, which are no conditionals. -/
structure IsTame (gen : Generator) (pass : Pass) (seed : NameSet) : Prop where
  graph : gen.graph.IsHashless
  options : ∀ n ∈ gen.graph.contents, ∀ g ∈ n.groups, ∀ k ∈ g.options, '\n' ∉ k.toList
  schemas : ∀ t ∈ gen.registry.texts, IsHashless t
  seed : ∀ f ∈ seed.names, IsHashless f
  required : ∀ f ∈ pass.requiredFields, IsHashless f
  shaderPass : IsHashless pass.shaderPass
  defines : ∀ d ∈ pass.extraDefines, '\n' ∉ d.toList ∧ Directive.ofLine? d.toList = none

theorem isHashless_qualify {struct member : String} (hstruct : IsHashless struct)
    (hmember : IsHashless member) : IsHashless (qualify struct member) := by
  simp only [qualify, isHashless_append, hstruct, hmember, and_true, true_and]
  decide

/-- The fields that variants activate are called by fixed names and by identifiers. -/
theorem isHashless_of_mem_seeds {field : String} (h : field ∈ gen.seeds plan v) :
    IsHashless field := by
  have hstage : ∀ p : StagePlan, field ∈ gen.stageSeeds p v → IsHashless field := by
    intro p hp
    obtain ⟨houtput, -, hinput, -⟩ := p.stage.isHashless_names
    rcases List.mem_append.1 hp with hp | hp
    · obtain ⟨name, hname, rfl⟩ := List.mem_map.1 hp
      obtain ⟨need, -, rfl⟩ := List.mem_map.1 hname
      refine isHashless_qualify hinput ?_
      cases need with
      | screenPosition | vertexColor | faceSign => decide
      | vector kind space =>
        refine isHashless_append.2 ⟨?_, ?_⟩
        · cases space <;> decide
        · cases kind <;> decide
      | uv channel => cases channel <;> decide
    · obtain ⟨s, -, rfl⟩ := List.mem_map.1 hp
      exact isHashless_qualify houtput (isHashless_sanitize _)
  rcases List.mem_append.1 h with h | h
  · exact hstage _ h
  · split at h
    · rcases List.mem_cons.1 h with rfl | h
      · decide
      · exact hstage _ h
    · exact absurd h List.not_mem_nil

namespace IsTame

theorem isHashless_of_mem_activeAfter (h : gen.IsTame pass seed) {variants : List KeywordSet}
    (hne : variants ≠ []) {field : String}
    (hfield : field ∈ gen.activeAfter pass plan seed variants) : IsHashless field := by
  -- the active fields are the least closed set, and the names without a `#` are one
  have hclosed : {f | IsHashless f} ∈
      closedAbove gen.registry.dependencies (gen.baseFields pass plan seed variants) := by
    refine ⟨?_, fun d hd _ => h.schemas _ ?_⟩
    · rintro f (hf | hf | ⟨v, -, hf⟩)
      · exact h.seed f hf
      · exact h.required f hf
      · exact isHashless_of_mem_seeds hf
    · exact List.mem_append_right _ (List.mem_map_of_mem hd)
  exact (gen.isLeast_activeAfter pass plan seed hne).2 hclosed hfield

theorem newline_not_mem_of_mem_vocabulary (h : gen.IsTame pass seed)
    (hplan : gen.plan pass = .ok plan) {k : String} (hk : k ∈ plan.vocabulary) :
    '\n' ∉ k.toList := by
  simp only [Generator.plan, collectGroups, bind_eq_ok_iff, pure_eq_ok_iff,
    mapError_eq_ok_iff] at hplan
  obtain ⟨_, -, _, -, groups, ⟨_, hvertex, hpixel⟩, found, hfound, _, -, _, -, rfl⟩ := hplan
  have hoffers := ((GroupTable.mem_vocabulary_of_enumerate_iff hfound).1 hk).2
  rw [GroupTable.collect_eq_ok hpixel, GroupTable.offers_insertAll_iff,
    GroupTable.collect_eq_ok hvertex, GroupTable.offers_insertAll_iff] at hoffers
  -- either stage offers what the nodes of its walk declare
  have hnodes : ∀ ids : List NodeId,
      (∃ g ∈ (ids.filterMap gen.graph.node?).flatMap Node.groups, k ∈ g.options) →
      '\n' ∉ k.toList := by
    rintro ids ⟨g, hg, hk⟩
    obtain ⟨n, hn, hg⟩ := List.mem_flatMap.1 hg
    obtain ⟨id, -, hn⟩ := List.mem_filterMap.1 hn
    exact h.options n (MaterialGraph.mem_contents hn) g hg k hk
  rcases hoffers with (⟨g, hg, -⟩ | hoffers) | hoffers
  · exact absurd hg List.not_mem_nil
  · exact hnodes _ hoffers
  · exact hnodes _ hoffers

theorem newline_not_mem_condition (h : gen.IsTame pass seed) (hplan : gen.plan pass = .ok plan)
    (hv : v ∈ plan.variants) (i : Nat) :
    '\n' ∉ (Condition.ofVariant i v plan.vocabulary).line.toList := by
  refine Condition.newline_not_mem_line fun k hk => ?_
  refine h.newline_not_mem_of_mem_vocabulary hplan (hk.elim (fun hk => ?_) id)
  exact VariantSet.mem_vocabulary_of_mem_ordered hv k hk

end IsTame

/-! ### The conditionals of a branch -/

/-- The conditions of the guarded members that a part declares. -/
def guards (gen : Generator) (active : NameSet) : Part → List String
  | .inputs stage => (gen.registry.get? stage.names.inputStruct).toList.flatMap fun schema =>
      (schema.emitted active).filterMap FieldSchema.guard
  | _ => []

theorem conditionals_definesOf (h : gen.IsTame pass seed)
    (hactive : ∀ field ∈ active.names, IsHashless field) :
    (gen.definesOf pass plan v active).conditionals = [] := by
  have hcomments : Code.conditionals
      (if gen.settings.listActiveFields then fieldComments active else []) = [] := by
    split
    · refine Code.conditionals_of_isPlain ((Code.isPlain_line (by decide)).append
        (Code.isPlain_flatMap fun field hfield => Code.isPlain_line ?_))
      rw [isHashless_append]
      exact ⟨by decide, hactive field hfield⟩
    · rfl
  -- the name of the pass can have many lines, but only the first one starts with a `#`
  have hpass : (Code.line ("#define SHADERPASS " ++ pass.shaderPass)).conditionals = [] := by
    have hfirst : conditionals ("#define SHADERPASS ".toList ++ pass.shaderPass.toList) = [] :=
      conditionals_eq_firstLine fun hmem => h.shaderPass ((List.dropWhile_sublist _).subset hmem)
    rw [Code.conditionals_line, String.toList_append, hfirst]
  have hextra : Code.conditionals (pass.extraDefines.flatMap Code.line) = [] := by
    rw [Code.conditionals_flatMap, List.flatMap_eq_nil_iff]
    intro d hd
    obtain ⟨hunbroken, hline⟩ := h.defines d hd
    rw [Code.conditionals_line, conditionals, List.splitOn_eq_singleton hunbroken,
      List.filter_cons_of_neg (by rw [hline]; exact Bool.false_ne_true)]
    rfl
  have hneed : ∀ (c : Bool) (line : String), (Code.line line).conditionals = [] →
      Code.conditionals (if c then Code.line line else []) = [] := by
    intro c line hline
    cases c
    · rfl
    · exact hline
  simp only [definesOf, Code.conditionals_append, hcomments, hpass, hextra, List.append_nil]
  rw [hneed _ _ (by decide), hneed _ _ (by decide)]
  rfl

/-- **The conditionals of a branch** are the pairs around the guarded members it declares. -/
theorem conditionals_of_sectionsOf (h : gen.IsTame pass seed)
    (hactive : ∀ field ∈ active.names, IsHashless field) (part : Part) :
    (part.of (gen.sectionsOf pass plan v active)).conditionals =
      (gen.guards active part).flatMap guardPair := by
  cases part with
  | properties => exact Code.conditionals_of_isPlain (Code.isPlain_flatMap fun property hproperty =>
      Code.isPlain_line (MaterialGraph.isHashless_of_mem_properties h.graph hproperty))
  | inputs stage =>
    have hpart : (Part.inputs stage).of (gen.sectionsOf pass plan v active) =
        gen.inputStruct stage active := inputs_sectionsOf stage
    rw [hpart, inputStruct, guards]
    cases hschema : gen.registry.get? stage.names.inputStruct with
    | none => rfl
    | some schema =>
      simp only [Option.toList_some, List.flatMap_cons, List.flatMap_nil, List.append_nil]
      refine StructSchema.conditionals_declaration (fun t ht => h.schemas t ?_) active
      exact List.mem_append_left _
        (List.mem_flatMap.2 ⟨schema, List.mem_of_find?_eq_some hschema, ht⟩)
  | outputs stage =>
    rw [outputs_of_sectionsOf]
    cases plan.stage? stage with
    | none => rfl
    | some p =>
      have hplain : (gen.outputsOf p).IsPlain := MaterialGraph.isPlain_outputStruct _ _ _ _
      exact Code.conditionals_of_isPlain hplain
  | evaluation stage =>
    rw [evaluation_of_sectionsOf]
    cases plan.stage? stage with
    | none => rfl
    | some p =>
      have hplain : (gen.evaluationOf p v).IsPlain :=
        MaterialGraph.isPlain_evaluationFunction h.graph _ _ _ _
      exact Code.conditionals_of_isPlain hplain
  | defines => exact conditionals_definesOf h hactive

/-! ### Sections -/

/-- The calls that the variant at a place makes for a part. -/
def callsAt (gen : Generator) (pass : Pass) (plan : Plan) (seed : NameSet) (part : Part)
    (b : KeywordSet × Nat) : Writer → Writer :=
  gen.write pass plan b.1 (gen.activeAfter pass plan seed (plan.variants.take (b.2 + 1))) part

/-- The code of a part that the variant at a place gives. -/
def codeAt (gen : Generator) (pass : Pass) (plan : Plan) (seed : NameSet) (part : Part)
    (b : KeywordSet × Nat) : Code :=
  part.of (gen.sectionsOf pass plan b.1
    (gen.activeAfter pass plan seed (plan.variants.take (b.2 + 1))))

/-- The branches of a part, each under its condition. -/
def branchesOf (gen : Generator) (pass : Pass) (plan : Plan) (seed : NameSet) (part : Part) :
    List (Condition × Code) :=
  plan.variants.zipIdx.map fun b =>
    (Condition.ofVariant b.2 b.1 plan.vocabulary, gen.codeAt pass plan seed part b)

theorem length_branchesOf (part : Part) :
    (gen.branchesOf pass plan seed part).length = plan.variants.length := by
  rw [branchesOf, List.length_map, List.length_zipIdx]

theorem sectionOf_draft (part : Part) :
    sectionOf plan.vocabulary (gen.draft pass plan seed).branches part.of =
      chain (gen.branchesOf pass plan seed part) := by
  rw [sectionOf, branches_draft, List.zipIdx_map]
  refine congrArg chain (List.ext_getElem? fun i => ?_)
  unfold branchesOf
  simp only [List.getElem?_map, List.getElem?_zipIdx]
  cases plan.variants[i]? <;> simp [codeAt]

theorem conditionals_codeAt (h : gen.IsTame pass seed) (part : Part) (b : KeywordSet × Nat) :
    (gen.codeAt pass plan seed part b).conditionals =
      (gen.guards (gen.activeAfter pass plan seed (plan.variants.take (b.2 + 1)))
        part).flatMap guardPair := by
  have hne : plan.variants.take (b.2 + 1) ≠ [] := fun hnil =>
    (List.take_eq_nil_iff.1 hnil).elim (by omega) variants_ne_nil
  exact conditionals_of_sectionsOf h
    (fun field hfield => h.isHashless_of_mem_activeAfter hne hfield) part

theorem empty_code_codeAt (part : Part) (b : KeywordSet × Nat) :
    Writer.empty.code (gen.codeAt pass plan seed part b) =
      gen.callsAt pass plan seed part b .empty :=
  code_of_sectionsOf part .empty

theorem sectionOf_of_length_eq_one (hone : plan.variants.length = 1) (part : Part) :
    sectionOf plan.vocabulary (gen.draft pass plan seed).branches part.of =
      gen.codeAt pass plan seed part (∅, 0) := by
  have hvariants : plan.variants = [∅] := (VariantSet.ordered_eq_singleton hone).1
  rw [sectionOf_draft, branchesOf, hvariants]
  rfl

/-- **The branches of a section** carry what their variants write by themselves. -/
theorem text_section (hmany : 1 < plan.variants.length) (part : Part) :
    (sectionOf plan.vocabulary (gen.draft pass plan seed).branches part.of).text =
        (Writer.empty.chain (plan.variants.zipIdx.map fun b =>
          (Condition.ofVariant b.2 b.1 plan.vocabulary,
            gen.callsAt pass plan seed part b))).text ∧
    (sectionOf plan.vocabulary (gen.draft pass plan seed).branches part.of).text =
      String.join (plan.variants.zipIdx.map fun b =>
        (Condition.ofVariant b.2 b.1 plan.vocabulary).line ++ "\n" ++
          (gen.callsAt pass plan seed part b .empty).text) ++ "#endif\n" := by
  have hlength : (gen.branchesOf pass plan seed part).length ≠ 1 := by
    rw [length_branchesOf]
    omega
  -- one writer goes through all variants, so the calls are compared from any writer
  have hcalls : ∀ b, (fun w : Writer => w.code (gen.codeAt pass plan seed part b)) =
      gen.callsAt pass plan seed part b := fun b => funext fun w => code_of_sectionsOf part w
  have hchain := Writer.chain_eq_code (gen.branchesOf pass plan seed part) .empty
  have htext := Writer.text_chain (gen.branchesOf pass plan seed part)
  rw [← chain_of_length_ne_one hlength, ← sectionOf_draft] at hchain
  simp only [branchesOf, List.map_map, Function.comp_def, hcalls, empty_code_codeAt] at hchain htext
  rw [← Writer.text_empty_code, ← hchain]
  exact ⟨rfl, htext⟩

theorem map_directive_ofVariants (hmany : 1 < plan.variants.length) :
    (Condition.ofVariants plan.vocabulary plan.variants).map Condition.directive =
      .opening :: (List.replicate (plan.variants.length - 2) .alternative ++ [.fallback]) := by
  obtain ⟨v, variants, hvariants, hv, hothers⟩ := VariantSet.exists_ordered_eq hmany
  have hvariants' : plan.variants = v :: variants ++ [∅] := hvariants
  have hnext : variants.map (fun _ => Directive.alternative) =
      List.replicate variants.length .alternative := List.map_const' ..
  rw [hvariants', Condition.ofVariants_cons_concat hv hothers]
  simp [Condition.directive, Function.comp_def, hnext]

/-- The conditionals of a section with more than one variant, branch by branch. -/
def branchLines (gen : Generator) (pass : Pass) (plan : Plan) (seed : NameSet) (part : Part) :
    List (List Char × List (List Char)) :=
  (gen.branchesOf pass plan seed part).map fun b => (b.1.line.toList, b.2.conditionals)

theorem isChain_branchLines (hmany : 1 < plan.variants.length) (part : Part) :
    IsChain (gen.branchLines pass plan seed part) := by
  have hkinds := congrArg (List.map some) (map_directive_ofVariants hmany)
  simp only [Condition.ofVariants, List.map_map, List.map_cons, List.map_append,
    List.map_replicate, List.map_nil, Function.comp_def] at hkinds
  simp only [IsChain, branchLines, branchesOf, List.map_map, Function.comp_def, List.length_map,
    List.length_zipIdx, Condition.ofLine?_line]
  exact hkinds

theorem balanced_codeAt (h : gen.IsTame pass seed) (part : Part) (b : KeywordSet × Nat) :
    Balanced (gen.codeAt pass plan seed part b).conditionals := by
  rw [conditionals_codeAt h]
  exact Balanced.flatMap fun guard _ => balanced_guardPair guard

theorem balanced_of_mem_branchLines (h : gen.IsTame pass seed) {part : Part}
    {b : List Char × List (List Char)} (hb : b ∈ gen.branchLines pass plan seed part) :
    Balanced b.2 := by
  obtain ⟨branch, hbranch, rfl⟩ := List.mem_map.1 hb
  obtain ⟨vi, -, rfl⟩ := List.mem_map.1 hbranch
  exact balanced_codeAt h part vi

theorem conditionals_section (h : gen.IsTame pass seed) (hplan : gen.plan pass = .ok plan)
    (hmany : 1 < plan.variants.length) (part : Part) :
    (sectionOf plan.vocabulary (gen.draft pass plan seed).branches part.of).conditionals =
      chainLines (gen.branchLines pass plan seed part) := by
  rw [sectionOf_draft, conditionals_chain]
  · rfl
  · rw [length_branchesOf]
    omega
  · intro b hb
    obtain ⟨vi, hvi, rfl⟩ := List.mem_map.1 hb
    exact h.newline_not_mem_condition hplan (List.fst_mem_of_mem_zipIdx hvi) _

/-- **The outermost conditionals of a section** are one chain. -/
theorem outermost_section (h : gen.IsTame pass seed) (hplan : gen.plan pass = .ok plan)
    (hmany : 1 < plan.variants.length) (part : Part) :
    outermost 0 (sectionOf plan.vocabulary (gen.draft pass plan seed).branches
      part.of).conditionals =
      ((Condition.ofVariants plan.vocabulary plan.variants).map fun c => c.line.toList) ++
        [chainEnd] := by
  rw [conditionals_section h hplan hmany, outermost_chain (isChain_branchLines hmany part)
    fun b hb => (balanced_of_mem_branchLines h hb).wellNested]
  simp only [branchLines, branchesOf, Condition.ofVariants, List.map_map, Function.comp_def]

theorem balanced_section (h : gen.IsTame pass seed) (hplan : gen.plan pass = .ok plan)
    (part : Part) :
    Balanced (sectionOf plan.vocabulary (gen.draft pass plan seed).branches
      part.of).conditionals := by
  have hpos : 0 < plan.variants.length := List.length_pos_iff.2 variants_ne_nil
  by_cases hone : plan.variants.length = 1
  · rw [sectionOf_of_length_eq_one hone]
    exact balanced_codeAt h part _
  · have hmany : 1 < plan.variants.length := by omega
    rw [conditionals_section h hplan hmany]
    exact balanced_chain (isChain_branchLines hmany part) fun b hb =>
      balanced_of_mem_branchLines h hb

/-! ### Fragments -/

/-- The parts that the code of the material graph is put together from. -/
def graphParts (plan : Plan) : List Part :=
  let vertex : List Part → List Part := fun parts => if plan.vertexActive then parts else []
  [Part.properties] ++ vertex [.inputs .vertex, .outputs .vertex] ++
    [Part.inputs .pixel, Part.outputs .pixel] ++ vertex [.evaluation .vertex] ++
    [Part.evaluation .pixel]

theorem conditionals_graphCode (plan : Plan) (sections : Sections) {functions : FunctionLibrary}
    (h : functions.code.conditionals = []) :
    (graphCode plan sections functions).conditionals =
      (graphParts plan).flatMap fun part => (part.of sections).conditionals := by
  have hheading : ∀ content : String, IsHashless content →
      (Code.line content).conditionals = [] :=
    fun _ hcontent => Code.conditionals_of_isPlain (Code.isPlain_line hcontent)
  unfold graphCode graphParts
  cases plan.vertexActive <;>
    simp (disch := decide) [Code.conditionals_append, hheading, h, Part.of, Sections.inputs]

theorem mem_functions_insertAll {fs : List NodeFunction} {library : FunctionLibrary}
    {f : NodeFunction} (h : f ∈ (library.insertAll fs).functions) :
    f ∈ library.functions ∨ f ∈ fs := by
  induction fs generalizing library with
  | nil => exact .inl h
  | cons f' fs ih =>
    rcases ih h with h | h
    · unfold FunctionLibrary.insert at h
      split at h
      · exact .inl h
      · rcases List.mem_append.1 h with h | h
        · exact .inl h
        · exact .inr (List.mem_singleton.1 h ▸ List.mem_cons_self)
    · exact .inr (List.mem_cons_of_mem f' h)

theorem exists_mem_functionsOf {variants : List KeywordSet} {d : Draft} {f : NodeFunction}
    (h : f ∈ (variants.foldl (gen.addBranch pass plan) d).functions.functions) :
    f ∈ d.functions.functions ∨ ∃ v, f ∈ gen.functionsOf plan v := by
  induction variants generalizing d with
  | nil => exact .inl h
  | cons v variants ih =>
    rcases ih h with h | h
    · exact (mem_functions_insertAll h).imp_right fun h => ⟨v, h⟩
    · exact .inr h

theorem conditionals_functions_draft (h : gen.IsTame pass seed) :
    (gen.draft pass plan seed).functions.code.conditionals = [] := by
  refine Code.conditionals_of_isPlain (FunctionLibrary.isPlain_code fun f hf => ?_)
  rcases exists_mem_functionsOf hf with hf | ⟨v, hf⟩
  · exact absurd hf List.not_mem_nil
  · obtain ⟨p, -, hf⟩ := List.mem_flatMap.1 hf
    exact MaterialGraph.isHashless_of_mem_sharedFunctions h.graph hf

/-- **Conditionals are well nested, and branches carry what their variants write.**  In a tame pass,
the fragments of the material graph and of the defines are well nested.  Every section is, for a
single variant, what its calls write into an empty writer; for more, one chain with a branch for
each variant in turn, and a branch is what the calls of its variant write into an empty writer. -/
theorem nested_conditionals (h : gen.IsTame pass seed) (hplan : gen.plan pass = .ok plan) :
    ∃ sections functions,
      (gen.context pass plan (gen.draft pass plan seed)).call "splice" [.string "Graph"] =
        .ok (.string (graphCode plan sections functions).text) ∧
      (gen.context pass plan (gen.draft pass plan seed)).call "splice" [.string "Defines"] =
        .ok (.string sections.defines.text) ∧
      WellNested (conditionals (graphCode plan sections functions).text.toList) ∧
      WellNested (conditionals sections.defines.text.toList) ∧
      conditionals (graphCode plan sections functions).text.toList =
        (graphParts plan).flatMap (fun part => conditionals (part.of sections).text.toList) ∧
      ∀ part,
        (∀ b ∈ plan.variants.zipIdx, (gen.callsAt pass plan seed part b .empty).depth = 0 ∧
          conditionals (gen.callsAt pass plan seed part b .empty).text.toList =
            (gen.guards (gen.activeAfter pass plan seed (plan.variants.take (b.2 + 1)))
              part).flatMap guardPair) ∧
        (plan.variants.length = 1 → plan.variants.zipIdx = [(∅, 0)] ∧
          (part.of sections).text = (gen.callsAt pass plan seed part (∅, 0) .empty).text) ∧
        (1 < plan.variants.length →
          (part.of sections).text = (Writer.empty.chain (plan.variants.zipIdx.map fun b =>
            (Condition.ofVariant b.2 b.1 plan.vocabulary,
              gen.callsAt pass plan seed part b))).text ∧
          (part.of sections).text = String.join (plan.variants.zipIdx.map fun b =>
            (Condition.ofVariant b.2 b.1 plan.vocabulary).line ++ "\n" ++
              (gen.callsAt pass plan seed part b .empty).text) ++ "#endif\n" ∧
          outermost 0 (conditionals (part.of sections).text.toList) =
            ((Condition.ofVariants plan.vocabulary plan.variants).map fun c => c.line.toList) ++
              [chainEnd] ∧
          (Condition.ofVariants plan.vocabulary plan.variants).map Condition.directive =
            .opening :: (List.replicate (plan.variants.length - 2) .alternative ++
              [.fallback])) := by
  have hparts : ∀ part : Part,
      part.of (Sections.assemble plan.vocabulary (gen.draft pass plan seed).branches) =
        sectionOf plan.vocabulary (gen.draft pass plan seed).branches part.of :=
    fun part => part.of_assemble plan.vocabulary (gen.draft pass plan seed).branches
  have hfunctions : (gen.draft pass plan seed).functions.code.conditionals = [] :=
    conditionals_functions_draft h
  have hgraph := conditionals_graphCode plan
    (Sections.assemble plan.vocabulary (gen.draft pass plan seed).branches) hfunctions
  refine ⟨Sections.assemble plan.vocabulary (gen.draft pass plan seed).branches,
    (gen.draft pass plan seed).functions, rfl, rfl, ?_, ?_, hgraph, fun part => ⟨?_, ?_, ?_⟩⟩
  · refine Balanced.wellNested ?_
    rw [← Code.conditionals, hgraph]
    exact Balanced.flatMap fun part _ => hparts part ▸ balanced_section h hplan part
  · exact (balanced_section h hplan .defines).wellNested
  · intro b _
    rw [← empty_code_codeAt, Writer.depth_code, Writer.text_empty_code]
    exact ⟨rfl, conditionals_codeAt h part b⟩
  · intro hone
    rw [hparts, sectionOf_of_length_eq_one hone, ← empty_code_codeAt, Writer.text_empty_code]
    have hvariants : plan.variants = [∅] := (VariantSet.ordered_eq_singleton hone).1
    exact ⟨by rw [hvariants]; rfl, rfl⟩
  · intro hmany
    rw [hparts]
    obtain ⟨hwriter, htext⟩ := text_section hmany part
    exact ⟨hwriter, htext, outermost_section h hplan hmany part, map_directive_ofVariants hmany⟩

/-- The stone, with texture coordinates that the pixel stage has only where it is wet. -/
def damp : Generator :=
  { stone with registry := ⟨[⟨Stage.pixel.names.inputStruct,
      [{ name := "uv0", type := .float4, guard := some "defined(WET)" }]⟩], []⟩ }

theorem isTame_damp : damp.IsTame (.depthOnly [0] [1]) (.ofList ["DepthOffset"]) where
  graph := by unfold MaterialGraph.IsHashless; decide
  options := by decide
  schemas := by decide
  seed := by decide
  required := by decide
  shaderPass := by decide
  defines := by decide

/-- The inputs of the pixel stage of `damp` have six branches, each with a guarded member. -/
theorem nested_conditionals_damp :
    damp.IsTame (.depthOnly [0] [1]) (.ofList ["DepthOffset"]) ∧
    ∃ plan sections functions, damp.plan (.depthOnly [0] [1]) = .ok plan ∧
      (damp.context (.depthOnly [0] [1]) plan
        (damp.draft (.depthOnly [0] [1]) plan (.ofList ["DepthOffset"]))).call "splice"
          [.string "Graph"] = .ok (.string (graphCode plan sections functions).text) ∧
      WellNested (conditionals (graphCode plan sections functions).text.toList) ∧
      outermost 0 (conditionals sections.pixelInputs.text.toList) =
        ["#if defined(WET) && !defined(ICE) && !defined(SNOW)",
          "#elif defined(SNOW) && !defined(ICE) && !defined(WET)",
          "#elif defined(ICE) && !defined(SNOW) && !defined(WET)",
          "#elif defined(SNOW) && defined(WET) && !defined(ICE)",
          "#elif defined(ICE) && defined(WET) && !defined(SNOW)",
          "#else", "#endif"].map String.toList ∧
      conditionals (damp.callsAt (.depthOnly [0] [1]) plan (.ofList ["DepthOffset"])
        (.inputs .pixel) (.ofList ["SNOW"], 1) .empty).text.toList =
          ["#if defined(WET)", "#endif"].map String.toList := by
  obtain ⟨plan, hplan, hfound, -, -⟩ := damp.exists_plan (.depthOnly [0] [1]) rfl rfl
    collectGroups_stone enumerate_stoneGroups
  have hmany : 1 < plan.variants.length := by
    rw [Plan.variants, hfound]
    decide
  have hsecond : (NameSet.ofList ["SNOW"], 1) ∈ plan.variants.zipIdx := by
    rw [Plan.variants, hfound]
    decide
  obtain ⟨sections, functions, hgraph, -, hnested, -, -, hparts⟩ :=
    nested_conditionals isTame_damp hplan
  obtain ⟨hbranches, -, hchain⟩ := hparts (.inputs .pixel)
  obtain ⟨-, -, houtermost, -⟩ := hchain hmany
  refine ⟨isTame_damp, plan, sections, functions, hplan, hgraph, hnested, ?_, ?_⟩
  · have hlines : (Condition.ofVariants plan.vocabulary plan.variants).map Condition.line =
        ["#if defined(WET) && !defined(ICE) && !defined(SNOW)",
          "#elif defined(SNOW) && !defined(ICE) && !defined(WET)",
          "#elif defined(ICE) && !defined(SNOW) && !defined(WET)",
          "#elif defined(SNOW) && defined(WET) && !defined(ICE)",
          "#elif defined(ICE) && defined(WET) && !defined(SNOW)", "#else"] := by
      rw [Plan.vocabulary, Plan.variants, hfound]
      decide
    have htexts := congrArg (List.map String.toList) hlines
    rw [List.map_map] at htexts
    exact houtermost.trans (congrArg (· ++ [chainEnd]) htexts)
  · exact (hbranches _ hsecond).2

end Generator

end PassForge
