import PassForge.Proofs.ActiveFields

/-!
# Needed members are declared

What the nodes of a stage need is listed as names of members, activated as fields and closed over
the dependencies; the structs are declared from the active fields.  Here the declarations are read
again: `membersOf` finds the members in the text of a struct, knowing only how a declaration is laid
out.

* `StructSchema.membersOf_declaration`: the text of a declaration has the members that are emitted,
  in the order of the schema, as long as the schema is legible.  All standard schemas are.
* `Standard.exists_field_of_mem_fields`: the names that requirements turn into are members of the
  struct that the stage reads, though the two are given by different tables.
* `Generator.needed_members_declared`: so no member that a node needs is left out, in its branch or
  down the dependencies.
-/

namespace PassForge

/-! ### Lines -/

/-- A text without line ends. -/
def isUnbroken (s : String) : Bool := s.toList.all fun c => c != '\n' && c != '\r'

namespace Text

theorem linesFrom_append {l rest current : List Char} (h : ∀ c ∈ l, c ≠ '\n') :
    linesFrom current (l ++ rest) = linesFrom (l.reverse ++ current) rest := by
  induction l generalizing current with
  | nil => rfl
  | cons c l ih =>
    have hstep : linesFrom current (c :: (l ++ rest)) = linesFrom (c :: current) (l ++ rest) :=
      if_neg (h c List.mem_cons_self)
    rw [List.cons_append, hstep, ih fun c hc => h c (List.mem_cons_of_mem _ hc),
      List.reverse_cons, List.append_assoc, List.singleton_append]

theorem lines_append_newline {l rest : List Char} (h : ∀ c ∈ l, c ≠ '\n' ∧ c ≠ '\r') :
    lines (l ++ '\n' :: rest) = l :: lines rest := by
  rw [lines, linesFrom_append fun c hc => (h c hc).1, List.append_nil, linesFrom, if_pos rfl]
  · simp only [List.reverse_reverse, lines]
  · -- there is no carriage return to take off
    intro rest' hreturn
    have hmem : '\r' ∈ l := List.mem_reverse.1 (hreturn ▸ List.mem_cons_self)
    exact (h '\r' hmem).2 rfl

end Text

theorem CodeLine.eq_blank_of_mem_indentation {l : CodeLine} {c : Char}
    (h : c ∈ l.indentation.toList) : c = ' ' := by
  unfold indentation at h
  split at h
  · cases h
  · rw [String.toList_join, List.mem_flatMap] at h
    obtain ⟨s, hs, hc⟩ := h
    rw [List.eq_of_mem_replicate hs] at hc
    have hunit : unit.toList = List.replicate 4 ' ' := rfl
    rw [hunit] at hc
    exact List.eq_of_mem_replicate hc

theorem Code.lines_text {code : Code} (h : ∀ l ∈ code, isUnbroken l.content = true) :
    Text.lines code.text.toList =
      code.map fun l => l.indentation.toList ++ l.content.toList := by
  induction code with
  | nil => rfl
  | cons l code ih =>
    have hunbroken : ∀ c ∈ l.indentation.toList ++ l.content.toList, c ≠ '\n' ∧ c ≠ '\r' := by
      intro c hc
      rcases List.mem_append.1 hc with hc | hc
      · rw [CodeLine.eq_blank_of_mem_indentation hc]
        decide
      · simpa using List.all_eq_true.1 (h l List.mem_cons_self) c hc
    have htext : (Code.text (l :: code)).toList =
        (l.indentation.toList ++ l.content.toList) ++ '\n' :: (Code.text code).toList := by
      simp [Code.text, CodeLine.text, String.join_cons]
    rw [htext, Text.lines_append_newline hunbroken, List.map_cons,
      ih fun l hl => h l (List.mem_cons_of_mem _ hl)]

/-! ### Reading declarations -/

/-- The member that a line of a struct declares, which is the identifier after its type.  A line at
the margin declares none. -/
def memberOfLine (line : List Char) : Option String :=
  if line.head? = some ' ' then
    let declared := ((line.dropWhile (· == ' ')).dropWhile (· != ' ')).drop 1
    some (String.ofList (declared.takeWhile Text.isIdentifierChar))
  else none

/-- The members that the text of a struct declares, in order. -/
def membersOf (text : String) : List String := (Text.lines text.toList).filterMap memberOfLine

/-- An identifier. -/
def isWord (s : String) : Bool := !s.toList.isEmpty && s.toList.all Text.isIdentifierChar

namespace CodeLine

/-- The member that a line declares as it is written. -/
def member? (l : CodeLine) : Option String :=
  memberOfLine (l.indentation.toList ++ l.content.toList)

theorem member?_of_atMargin {l : CodeLine} (h : l.atMargin = true) : l.member? = none := by
  unfold member? indentation
  rw [if_pos h]
  unfold atMargin at h
  split at h
  · rename_i hnil
    rw [hnil]
    rfl
  · rename_i c cs hcons
    rw [hcons, eq_of_beq h]
    rfl

end CodeLine

theorem Code.membersOf_text {code : Code} (h : ∀ l ∈ code, isUnbroken l.content = true) :
    membersOf code.text = code.filterMap CodeLine.member? := by
  rw [membersOf, lines_text h, List.filterMap_map]
  rfl

theorem ne_of_isIdentifierChar {c d : Char} (hd : Text.isIdentifierChar d = false)
    (hc : Text.isIdentifierChar c = true) : c ≠ d := by
  rintro rfl
  rw [hd] at hc
  cases hc

theorem isUnbroken_append (s t : String) :
    isUnbroken (s ++ t) = (isUnbroken s && isUnbroken t) := by
  rw [isUnbroken, String.toList_append, List.all_append, isUnbroken, isUnbroken]

theorem isUnbroken_of_isWord {s : String} (h : isWord s = true) : isUnbroken s = true := by
  refine List.all_eq_true.2 fun c hc => ?_
  have hidentifier := List.all_eq_true.1 (Bool.and_eq_true_iff.1 h).2 c hc
  have hnewline := ne_of_isIdentifierChar (d := '\n') (by decide) hidentifier
  have hreturn := ne_of_isIdentifierChar (d := '\r') (by decide) hidentifier
  simp [hnewline, hreturn]

/-! ### Fields -/

namespace FieldSchema

/-- A member whose declaration can be read: the type and the name are identifiers, and the semantic
and the condition do not break the line. -/
def isLegible (f : FieldSchema) : Bool :=
  isWord f.typeName && isWord f.name && f.semantic.all isUnbroken && f.guard.all isUnbroken

variable {f : FieldSchema}

/-- The line of a member has its type, its name and something that ends the name. -/
theorem exists_line_eq (f : FieldSchema) : ∃ c tail, Text.isIdentifierChar c = false ∧
    f.line.toList = f.typeName.toList ++ ' ' :: (f.name.toList ++ c :: tail) := by
  unfold line
  cases f.semantic with
  | none => exact ⟨';', [], by decide, by simp⟩
  | some semantic => exact ⟨' ', ':' :: ' ' :: (semantic.toList ++ [';']), by decide, by simp⟩

theorem member?_line (h : f.isLegible = true) : CodeLine.member? ⟨1, f.line⟩ = some f.name := by
  simp only [isLegible, isWord, Bool.and_eq_true, Bool.not_eq_true', List.all_eq_true] at h
  obtain ⟨⟨⟨⟨hne, htype⟩, -, hname⟩, -⟩, -⟩ := h
  obtain ⟨d, tail, hd, hline⟩ := f.exists_line_eq
  obtain ⟨c, cs, hcons⟩ := List.exists_cons_of_ne_nil (List.isEmpty_eq_false_iff.1 hne)
  have hc : Text.isIdentifierChar c = true := htype c (hcons ▸ List.mem_cons_self)
  -- a type is no directive, so the line is indented
  have hmargin : CodeLine.atMargin ⟨1, f.line⟩ = false := by
    simp only [CodeLine.atMargin, hline, hcons, List.cons_append]
    exact beq_eq_false_iff_ne.2 (ne_of_isIdentifierChar (by decide) hc)
  have hindentation : (CodeLine.indentation ⟨1, f.line⟩).toList = List.replicate 4 ' ' := by
    simp only [CodeLine.indentation, hmargin, Bool.false_eq_true, if_false]
    rfl
  -- what is passed over before the name, and what ends it
  have hblanks : (List.replicate 4 ' ' ++ f.line.toList).dropWhile (· == ' ') = f.line.toList := by
    rw [List.dropWhile_append_of_pos fun a ha => beq_iff_eq.2 (List.eq_of_mem_replicate ha), hline,
      hcons, List.cons_append, List.dropWhile_cons_of_neg]
    simpa using ne_of_isIdentifierChar (by decide) hc
  have hafter : f.line.toList.dropWhile (· != ' ') = ' ' :: (f.name.toList ++ d :: tail) := by
    rw [hline, List.dropWhile_append_of_pos, List.dropWhile_cons_of_neg (by decide)]
    exact fun a ha => bne_iff_ne.2 (ne_of_isIdentifierChar (by decide) (htype a ha))
  have hidentifier : (f.name.toList ++ d :: tail).takeWhile Text.isIdentifierChar =
      f.name.toList := by
    rw [List.takeWhile_append_of_pos hname, List.takeWhile_cons_of_neg (by simp [hd]),
      List.append_nil]
  have hindented : (List.replicate 4 ' ' ++ f.line.toList).head? = some ' ' := rfl
  simp only [CodeLine.member?, hindentation, memberOfLine, hindented, if_true, hblanks, hafter,
    List.drop_one, List.tail_cons, hidentifier, String.ofList_toList]

/-- The declaration of a member declares this member and nothing else. -/
theorem filterMap_member?_code (h : f.isLegible = true) :
    f.code.indented.filterMap CodeLine.member? = [f.name] := by
  have hline := member?_line h
  unfold code
  cases f.guard with
  | none => simp [Code.line, Code.indented, hline]
  | some guard =>
    have hif : CodeLine.member? ⟨1, "#if " ++ guard⟩ = none :=
      CodeLine.member?_of_atMargin (by simp [CodeLine.atMargin])
    have hendif : CodeLine.member? ⟨1, "#endif"⟩ = none := CodeLine.member?_of_atMargin rfl
    simp [Code.line, Code.indented, hline, hif, hendif]

theorem isUnbroken_line (h : f.isLegible = true) : isUnbroken f.line = true := by
  simp only [isLegible, Bool.and_eq_true] at h
  obtain ⟨⟨⟨htype, hname⟩, hsemantic⟩, -⟩ := h
  unfold line
  cases hs : f.semantic with
  | none =>
    simp only [isUnbroken_append, isUnbroken_of_isWord htype, isUnbroken_of_isWord hname]
    decide
  | some semantic =>
    have hunbroken : isUnbroken semantic = true := by
      rw [hs] at hsemantic
      exact hsemantic
    simp only [isUnbroken_append, isUnbroken_of_isWord htype, isUnbroken_of_isWord hname,
      hunbroken]
    decide

theorem isUnbroken_of_mem_code (h : f.isLegible = true) {l : CodeLine} (hl : l ∈ f.code.indented) :
    isUnbroken l.content = true := by
  have hline := isUnbroken_line h
  have hguard : f.guard.all isUnbroken = true := (Bool.and_eq_true _ _ ▸ h).2
  unfold code at hl
  cases hg : f.guard with
  | none =>
    simp only [hg, Code.line, Code.indented, List.map_cons, List.map_nil, List.mem_singleton] at hl
    rw [hl]
    exact hline
  | some guard =>
    rw [hg] at hguard
    have hif : isUnbroken ("#if " ++ guard) = true := by
      rw [isUnbroken_append]
      exact Bool.and_eq_true_iff.2 ⟨by decide, hguard⟩
    simp only [hg, Code.line, Code.indented, List.cons_append, List.nil_append, List.map_cons,
      List.map_nil, List.mem_cons, List.not_mem_nil, or_false] at hl
    rcases hl with rfl | rfl | rfl
    · exact hif
    · exact hline
    · decide

end FieldSchema

namespace StructSchema

/-- A struct whose declaration can be read. -/
def isLegible (s : StructSchema) : Bool := isUnbroken s.name && s.fields.all FieldSchema.isLegible

variable {s : StructSchema}

/-- **The text of a struct declares the members that are emitted**, in the order of the schema. -/
theorem membersOf_declaration (h : s.isLegible = true) (active : NameSet) :
    membersOf (s.declaration active).text = (s.emitted active).map FieldSchema.name := by
  obtain ⟨hname, hfields⟩ := Bool.and_eq_true_iff.1 h
  have hemitted : ∀ f ∈ s.emitted active, f.isLegible = true := fun f hf =>
    List.all_eq_true.1 hfields f (List.mem_filter.1 hf).1
  have hindented : Code.indented ((s.emitted active).flatMap FieldSchema.code) =
      (s.emitted active).flatMap fun f => f.code.indented := List.map_flatMap
  have hbody : (Code.indented ((s.emitted active).flatMap FieldSchema.code)).filterMap
      CodeLine.member? = (s.emitted active).map FieldSchema.name := by
    rw [hindented, List.filterMap_flatMap, List.map_eq_flatMap]
    exact List.flatMap_congr fun f hf => FieldSchema.filterMap_member?_code (hemitted f hf)
  -- the frame of the struct stands at the margin
  have hhead : CodeLine.member? ⟨0, "struct " ++ s.name⟩ = none := by
    simp [CodeLine.member?, CodeLine.indentation, memberOfLine]
  have hopen : CodeLine.member? ⟨0, "\x7b"⟩ = none := rfl
  have hclose : CodeLine.member? ⟨0, "\x7d;"⟩ = none := rfl
  rw [Code.membersOf_text, declaration, Code.block]
  · simp only [Code.line, List.filterMap_append, hbody, List.filterMap_cons_none hhead,
      List.filterMap_cons_none hopen, List.filterMap_cons_none hclose, List.filterMap_nil,
      List.nil_append, List.append_nil]
  · intro l hl
    simp only [declaration, Code.block, Code.line, List.mem_append, List.mem_singleton, hindented,
      List.mem_flatMap] at hl
    rcases hl with ((rfl | rfl) | ⟨f, hf, hl⟩) | rfl
    · rw [isUnbroken_append, hname]
      decide
    · decide
    · exact FieldSchema.isUnbroken_of_mem_code (hemitted f hf) hl
    · decide

example : membersOf
    "struct S\n\x7b\n    float3 color;\n#if LIT\n    uint id : ID;\n#endif\n\x7d;\n" =
      ["color", "id"] := by
  decide

/-- A text declares the members of a struct that are emitted: each of them once, in the order of the
schema, and nothing else. -/
structure DeclaredBy (s : StructSchema) (active : NameSet) (text : String) : Prop where
  members : membersOf text = (s.emitted active).map FieldSchema.name
  once : (membersOf text).Nodup
  ordered : List.Sublist (membersOf text) (s.fields.map FieldSchema.name)

theorem declaredBy_declaration (h : s.isLegible = true)
    (hnames : (s.fields.map FieldSchema.name).Nodup) (active : NameSet) :
    s.DeclaredBy active (s.declaration active).text := by
  have hmembers := membersOf_declaration h active
  have hordered : List.Sublist ((s.emitted active).map FieldSchema.name)
      (s.fields.map FieldSchema.name) := List.filter_sublist.map _
  exact ⟨hmembers, hmembers ▸ hordered.nodup hnames, hmembers ▸ hordered⟩

theorem DeclaredBy.mem {active : NameSet} {text : String} (h : s.DeclaredBy active text)
    {f : FieldSchema} (hf : f ∈ s.fields) (hactive : qualify s.name f.name ∈ active) :
    f.name ∈ membersOf text := by
  have hemitted : f ∈ s.emitted active := by
    refine List.mem_filter.2 ⟨hf, ?_⟩
    rw [emits, qualified, NameSet.contains_iff.2 hactive, Bool.or_true]
  rw [h.members]
  exact List.mem_map.2 ⟨f, hemitted, rfl⟩

end StructSchema

namespace Standard

theorem isLegible_of_mem : ∀ s ∈ registry.structs, s.isLegible = true ∧
    (s.fields.map FieldSchema.name).Nodup := by
  decide +kernel

theorem structs_distinct : (registry.structs.map StructSchema.name).Nodup := by
  decide

theorem field_mem_graphInputs {stage : Stage} {need : Need} (hall : need ∈ Need.all)
    (h : need.availableIn stage = true) (struct : String) :
    need.field ∈ (graphInputs struct stage).fields.map FieldSchema.name := by
  -- the name of the struct does not count
  show need.field ∈ (graphInputs "" stage).fields.map FieldSchema.name
  revert need
  cases stage <;> decide +kernel

theorem get?_inputStruct (stage : Stage) : registry.get? stage.names.inputStruct =
    some (graphInputs stage.names.inputStruct stage) := by
  cases stage <;> rfl

/-- **The two tables agree**: what requirements can ask of a stage is a member of the struct that
the stage reads. -/
theorem exists_field_of_mem_fields {stage : Stage} {r : Requirements} {name : String}
    (h : name ∈ r.fields stage) (struct : String) :
    ∃ f ∈ (graphInputs struct stage).fields, f.name = name := by
  obtain ⟨need, hall, havailable, rfl, -⟩ := Requirements.mem_fields_iff.1 h
  exact List.mem_map.1 (field_mem_graphInputs hall havailable struct)

end Standard

/-! ### Branches -/

/-- The declaration of the struct that a stage reads. -/
def Sections.inputs (sections : Sections) : Stage → Code
  | .pixel => sections.pixelInputs
  | .vertex => sections.vertexInputs

namespace Generator

variable {gen : Generator} {pass : Pass} {plan : Plan} {v : KeywordSet}

theorem inputs_sectionsOf {active : NameSet} (stage : Stage) :
    (gen.sectionsOf pass plan v active).inputs stage = gen.inputStruct stage active := by
  cases stage <;> rfl

/-- What a variant activates is active after it, with all that it needs along the dependencies. -/
theorem mem_activeAfter_of_reflTransGen {seed : NameSet} {variants : List KeywordSet}
    (hv : v ∈ variants) {a b : String} (ha : a ∈ gen.seeds plan v)
    (hchain : Relation.ReflTransGen (fun a b => ⟨a, b⟩ ∈ gen.registry.dependencies) a b) :
    b ∈ gen.activeAfter pass plan seed variants := by
  obtain ⟨hbase, hclosed⟩ :=
    (gen.isLeast_activeAfter pass plan seed (List.ne_nil_of_mem hv)).1
  induction hchain with
  | refl => exact hbase (.inr (.inr ⟨v, hv, ha⟩))
  | tail _ hedge ih => exact hclosed _ hedge ih

theorem lookup_declarations {structs : List StructSchema}
    (hnames : (structs.map StructSchema.name).Nodup) {s : StructSchema} (hs : s ∈ structs)
    (text : StructSchema → String) :
    (structs.map fun s => (s.name, text s)).lookup s.name = some (text s) := by
  induction structs with
  | nil => cases hs
  | cons t structs ih =>
    obtain ⟨hnew, hrest⟩ := List.nodup_cons.1 hnames
    rw [List.map_cons, List.lookup_cons]
    rcases List.mem_cons.1 hs with rfl | hs
    · rw [beq_self_eq_true]
    · have hne : s.name ≠ t.name := fun heq => hnew (heq ▸ List.mem_map.2 ⟨s, hs, rfl⟩)
      rw [beq_eq_false_iff_ne.2 hne]
      exact ih hrest hs

theorem call_build_type (hnames : (gen.registry.structs.map StructSchema.name).Nodup)
    {s : StructSchema} (hs : s ∈ gen.registry.structs) (d : Draft) :
    (gen.context pass plan d).call "build_type" [.string s.name] =
      .ok (.string (s.declaration d.active).text) := by
  have hlookup : (gen.context pass plan d).structs.lookup s.name =
      some (s.declaration d.active).text :=
    lookup_declarations hnames hs fun s => (s.declaration d.active).text
  have hname : Template.stringArgument [.string s.name] = .ok s.name := rfl
  simp only [Template.Context.call, hname, bind, Except.bind, hlookup]
  rfl

/-- **No member that a node needs is left out.**  With the standard registry, in the branch of every
variant: whatever a node of a stage that is written needs there is a member of the struct that the
stage reads, and all fields that it needs in turn, along any chain of dependencies, are members of
the structs that the template gets, as far as these have such fields.  Each of these declarations
has the members of its schema that are emitted, once and in the order of the schema, and no
others. -/
theorem needed_members_declared (hregistry : gen.registry = Standard.registry)
    (hplan : gen.plan pass = .ok plan) (seed : NameSet) :
    (plan.pixel.stage = .pixel ∧ plan.vertex.stage = .vertex) ∧
    (∀ i v, plan.variants[i]? = some v → ∃ branch,
      (gen.draft pass plan seed).branches[i]? = some branch ∧ branch.variant = v ∧
      (∀ p ∈ plan.stages, ∀ id ∈ p.nodesOf v, ∀ n, gen.graph.node? id = some n →
        ∀ name ∈ n.requirements.fields p.stage,
          name ∈ membersOf (branch.sections.inputs p.stage).text ∧
          ∀ s ∈ gen.registry.structs, ∀ f ∈ s.fields,
            Relation.ReflTransGen (fun a b => ⟨a, b⟩ ∈ gen.registry.dependencies)
              (qualify p.stage.names.inputStruct name) (qualify s.name f.name) →
            ∃ text, (gen.context pass plan (gen.draft pass plan seed)).call "build_type"
                [.string s.name] = .ok (.string text) ∧ f.name ∈ membersOf text) ∧
      ∀ stage, ∃ schema, gen.registry.get? stage.names.inputStruct = some schema ∧
        schema.DeclaredBy (gen.activeAfter pass plan seed (plan.variants.take (i + 1)))
          (branch.sections.inputs stage).text) ∧
    ∀ s ∈ gen.registry.structs, ∃ text,
      (gen.context pass plan (gen.draft pass plan seed)).call "build_type" [.string s.name] =
        .ok (.string text) ∧
      s.DeclaredBy (gen.generate pass seed).active text := by
  have hdeclared : ∀ s ∈ gen.registry.structs, ∀ active, s.DeclaredBy active
      (s.declaration active).text := by
    rw [hregistry]
    intro s hs active
    obtain ⟨hs, hnames⟩ := Standard.isLegible_of_mem s hs
    exact StructSchema.declaredBy_declaration hs hnames active
  have hbuild : ∀ s ∈ gen.registry.structs,
      (gen.context pass plan (gen.draft pass plan seed)).call "build_type" [.string s.name] =
        .ok (.string (s.declaration (gen.generate pass seed).active).text) := by
    intro s hs
    rw [active_generate hplan]
    exact call_build_type (hregistry ▸ Standard.structs_distinct) hs _
  have hinput : ∀ stage, gen.registry.get? stage.names.inputStruct =
      some (Standard.graphInputs stage.names.inputStruct stage) := by
    rw [hregistry]
    exact Standard.get?_inputStruct
  refine ⟨?_, fun i v hv => ?_, fun s hs => ⟨_, hbuild s hs, hdeclared s hs _⟩⟩
  · obtain ⟨_, _, hslots, -, hpixel, hvertex⟩ := of_plan_eq_ok hplan
    obtain ⟨n, hroot, -⟩ := MaterialGraph.resolveSlots_eq_ok_iff.1 hslots
    exact ⟨(of_planStage_eq_ok hroot hpixel).1, (of_planStage_eq_ok hroot hvertex).1⟩
  · have hmem : v ∈ plan.variants.take (i + 1) :=
      List.mem_of_getElem? ((List.getElem?_take_of_lt (Nat.lt_succ_self i)).trans hv)
    have hbranch : ∀ stage, (Standard.graphInputs stage.names.inputStruct stage).DeclaredBy
        (gen.activeAfter pass plan seed (plan.variants.take (i + 1)))
        ((gen.sectionsOf pass plan v (gen.activeAfter pass plan seed
          (plan.variants.take (i + 1)))).inputs stage).text := by
      intro stage
      rw [inputs_sectionsOf, inputStruct, hinput stage]
      exact hdeclared _ (List.mem_of_find?_eq_some (hinput stage)) _
    refine ⟨_, getElem?_branches_draft hv, rfl, ?_, fun stage => ⟨_, hinput stage, hbranch stage⟩⟩
    intro p hp id hid n hn name hname
    have hseed : qualify p.stage.names.inputStruct name ∈ gen.seeds plan v :=
      (mem_seeds_iff hplan).2 (.inl ⟨p, hp, .inl
        ⟨n, List.mem_filterMap.2 ⟨id, hid, hn⟩, name, hname, rfl⟩⟩)
    constructor
    · -- the branch is written for the fields that are active after its variant
      obtain ⟨f, hf, rfl⟩ :=
        Standard.exists_field_of_mem_fields hname p.stage.names.inputStruct
      exact (hbranch p.stage).mem hf (mem_activeAfter_of_reflTransGen hmem hseed .refl)
    · -- the template gets the structs for the fields that are active at the end
      intro s hs f hf hchain
      refine ⟨_, hbuild s hs, (hdeclared s hs _).mem hf ?_⟩
      rw [active_generate hplan]
      exact mem_activeAfter_of_reflTransGen (List.mem_of_getElem? hv) hseed hchain

/-- In snow, the tint of `stone` needs texture coordinates: the pixel stage has them as a member,
and so has the mesh that they come from, three dependencies away. -/
theorem needed_members_declared_stone :
    stone.registry = Standard.registry ∧
    ∃ plan branch text, stone.plan (.forward true [0] [1]) = .ok plan ∧
      (stone.draft (.forward true [0] [1]) plan ∅).branches[1]? = some branch ∧
      branch.variant = .ofList ["SNOW"] ∧
      "uv0" ∈ membersOf branch.sections.pixelInputs.text ∧
      (stone.context (.forward true [0] [1]) plan (stone.draft (.forward true [0] [1]) plan ∅)).call
        "build_type" [.string "AttributesMesh"] = .ok (.string text) ∧
      "uv0" ∈ membersOf text := by
  obtain ⟨plan, hplan, hvariants, hkind, hnodes⟩ := exists_plan_stone
  have hstage : plan.pixel ∈ plan.stages := Plan.mem_stages_iff.2 (.inl rfl)
  obtain ⟨-, hbranches, -⟩ := needed_members_declared rfl hplan ∅
  obtain ⟨branch, hbranch, hvariant, hneeded, -⟩ := hbranches 1 _ hvariants
  obtain ⟨hmember, hchain⟩ := hneeded plan.pixel hstage ⟨1, 3⟩ (by rw [hnodes]; decide) _ rfl
    "uv0" (by rw [hkind]; decide)
  rw [hkind] at hmember hchain
  have hpath : Relation.ReflTransGen (fun a b => ⟨a, b⟩ ∈ stone.registry.dependencies)
      "SurfaceDescriptionInputs.uv0" "AttributesMesh.uv0" :=
    .head (b := "FragInputs.texCoord0") (by decide)
      (.head (b := "VaryingsMeshToPS.texCoord0") (by decide) (.single (by decide)))
  obtain ⟨text, hbuild, hmesh⟩ := hchain Standard.attributesMesh List.mem_cons_self
    (Standard.ifActiveAs "TEXCOORD0" "uv0" .float4) (by decide) hpath
  exact ⟨rfl, plan, branch, text, hplan, hbranch, hvariant, hmember, hbuild, hmesh⟩

end Generator

end PassForge
