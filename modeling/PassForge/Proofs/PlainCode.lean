import PassForge.Emit.FunctionLibrary
import PassForge.Proofs.Conditionals

/-!
# Code without a `#`

Names that people give to nodes and slots become identifiers, so they bring no `#` into generated
code.  Other texts get there as they stand: the code of a node, its literals, functions and
properties (`Node.texts`), and what schemas say of their members (`Registry.texts`).  If these have
no `#`, then the code of the nodes has none either, and the only conditionals of a struct are the
pairs around its guarded members (`StructSchema.conditionals_declaration`).
-/

namespace PassForge

/-- A text without a `#`. -/
def IsHashless (s : String) : Prop := '#' ∉ s.toList

instance (s : String) : Decidable (IsHashless s) := inferInstanceAs (Decidable (¬ '#' ∈ s.toList))

@[simp] theorem isHashless_append {s t : String} :
    IsHashless (s ++ t) ↔ IsHashless s ∧ IsHashless t := by
  simp [IsHashless, not_or]

/-! ### Identifiers -/

theorem eq_or_mem_of_mem_sanitize {name : String} {c : Char}
    (h : c ∈ (Text.sanitize name).toList) :
    c = '_' ∨ c ∈ name.toList ∧ Text.isIdentifierChar c = true := by
  have hmap : ∀ c ∈ name.toList.map fun c => if Text.isIdentifierChar c then c else '_',
      c = '_' ∨ c ∈ name.toList ∧ Text.isIdentifierChar c = true := by
    intro c hc
    obtain ⟨d, hmem, rfl⟩ := List.mem_map.1 hc
    by_cases hd : Text.isIdentifierChar d = true
    · rw [if_pos hd]
      exact .inr ⟨hmem, hd⟩
    · exact .inl (if_neg hd)
  rw [Text.sanitize, String.toList_ofList] at h
  unfold Text.sanitizeChars at h
  simp only at h
  -- an underscore can stand in front
  split at h
  · exact .inl (List.mem_singleton.1 h)
  · rename_i d rest hout
    rw [hout] at hmap
    split at h
    · rcases List.mem_cons.1 h with rfl | h
      · exact .inl rfl
      · exact hmap c h
    · exact hmap c h

theorem isIdentifierChar_of_mem_sanitize {name : String} {c : Char}
    (h : c ∈ (Text.sanitize name).toList) : Text.isIdentifierChar c = true := by
  rcases eq_or_mem_of_mem_sanitize h with rfl | ⟨-, hc⟩
  · decide
  · exact hc

@[simp] theorem isHashless_sanitize (name : String) : IsHashless (Text.sanitize name) :=
  fun hmem => ne_of_isIdentifierChar (by decide) (isIdentifierChar_of_mem_sanitize hmem) rfl

theorem isDigit_of_mem_toString {n : Nat} {c : Char} (h : c ∈ (toString n).toList) :
    c.isDigit = true := by
  rw [Nat.toString_eq_ofList_toDigits, String.toList_ofList] at h
  exact Nat.isDigit_of_mem_toDigits (by decide) (by decide) h

@[simp] theorem isHashless_toString (n : Nat) : IsHashless (toString n) := by
  intro hmem
  exact absurd (isDigit_of_mem_toString hmem) (by decide)

@[simp] theorem Node.isHashless_variableName (n : Node) (s : Slot) :
    IsHashless (n.variableName s) := by
  have hdivider : IsHashless "_" := by decide
  simp only [variableName, isHashless_append, isHashless_sanitize, isHashless_toString, hdivider,
    and_self]

@[simp] theorem ValueType.isHashless_name (t : ValueType) : IsHashless t.name := by
  cases t <;> decide

theorem Stage.isHashless_names (stage : Stage) : IsHashless stage.names.outputStruct ∧
    IsHashless stage.names.function ∧ IsHashless stage.names.inputStruct ∧
    IsHashless stage.names.result := by
  cases stage <;> decide

/-! ### Plain code -/

namespace Code

theorem isPlain_line {content : String} (h : IsHashless content) : (line content).IsPlain :=
  fun _ hl => List.mem_singleton.1 hl ▸ h

theorem IsPlain.append {code code' : Code} (h : code.IsPlain) (h' : code'.IsPlain) :
    IsPlain (code ++ code') :=
  fun l hl => (List.mem_append.1 hl).elim (h l) (h' l)

theorem isPlain_flatMap {α : Type} {f : α → Code} {as : List α} (h : ∀ a ∈ as, (f a).IsPlain) :
    IsPlain (as.flatMap f) := by
  intro l hl
  obtain ⟨a, ha, hl⟩ := List.mem_flatMap.1 hl
  exact h a ha l hl

theorem isPlain_block {head close : String} {body : Code} (hhead : IsHashless head)
    (hbody : body.IsPlain) (hclose : IsHashless close) : (block head body close).IsPlain := by
  -- indenting changes depths only
  have hindented : body.indented.IsPlain := by
    intro l hl
    obtain ⟨l', hl', rfl⟩ := List.mem_map.1 hl
    exact hbody l' hl'
  exact (((isPlain_line hhead).append (isPlain_line (by decide))).append hindented).append
    (isPlain_line hclose)

theorem mem_of_mem_linesFrom {current cs line : List Char} {c : Char}
    (hline : line ∈ Text.linesFrom current cs) (hc : c ∈ line) : c ∈ current ∨ c ∈ cs := by
  induction cs generalizing current with
  | nil =>
    rw [Text.linesFrom] at hline
    split at hline
    · exact absurd hline List.not_mem_nil
    · rw [List.mem_singleton.1 hline] at hc
      exact .inl (List.mem_reverse.1 hc)
  | cons d cs ih =>
    rw [Text.linesFrom.eq_def] at hline
    simp only at hline
    split at hline
    · rcases List.mem_cons.1 hline with rfl | hline
      · -- a carriage return may be taken off
        refine .inl ?_
        split at hc
        · exact List.mem_cons_of_mem _ (List.mem_reverse.1 hc)
        · exact List.mem_reverse.1 hc
      · exact (ih hline).elim (fun h => absurd h List.not_mem_nil)
          fun h => .inr (List.mem_cons_of_mem d h)
    · rcases ih hline with h | h
      · rcases List.mem_cons.1 h with rfl | h
        · exact .inr List.mem_cons_self
        · exact .inl h
      · exact .inr (List.mem_cons_of_mem d h)

theorem isPlain_lines {text : String} (h : IsHashless text) : (lines text).IsPlain := by
  intro l hl hmem
  obtain ⟨line, hline, rfl⟩ := List.mem_map.1 hl
  rw [String.toList_ofList, Text.trimEnd, Text.dropEndWhile, List.mem_reverse] at hmem
  have hmem' : '#' ∈ line := List.mem_reverse.1 ((List.dropWhile_sublist _).subset hmem)
  exact h ((mem_of_mem_linesFrom hline hmem').resolve_left List.not_mem_nil)

end Code

/-! ### The code of nodes -/

/-- The texts of a node that get into generated code as they stand. -/
def Node.texts (n : Node) : List String :=
  n.code.toList ++ n.slots.filterMap Slot.default ++ n.functions.map NodeFunction.source ++
    n.properties

/-- The nodes of a graph, in the order of their places. -/
def MaterialGraph.contents (g : MaterialGraph) : List Node := g.nodes.cells.filterMap Cell.content

theorem MaterialGraph.mem_contents {g : MaterialGraph} {id : NodeId} {n : Node}
    (h : g.node? id = some n) : n ∈ g.contents := by
  obtain ⟨cell, hcell, hn⟩ := Option.bind_eq_some_iff.1 h
  unfold Arena.cell? at hcell
  split at hcell
  · cases hcell
  · have hplace := (Option.filter_eq_some_iff.1 hcell).1
    exact List.mem_filterMap.2 ⟨cell, List.mem_of_getElem? hplace, hn⟩

/-- A graph in which the texts of the nodes have no `#`. -/
def MaterialGraph.IsHashless (g : MaterialGraph) : Prop :=
  ∀ n ∈ g.contents, ∀ t ∈ n.texts, PassForge.IsHashless t

theorem Node.isHashless_literal {n : Node} (h : ∀ t ∈ n.texts, IsHashless t) {s : Slot}
    (hs : s ∈ n.slots) : IsHashless s.literal := by
  unfold Slot.literal
  cases hdefault : s.default with
  | none => cases s.type <;> decide
  | some text =>
    refine h text ?_
    simp only [texts, List.mem_append, List.mem_filterMap]
    exact .inl (.inl (.inr ⟨s, hs, hdefault⟩))

namespace MaterialGraph

variable {g : MaterialGraph} {id root : NodeId} {n : Node}

theorem isHashless_inputValue (hn : ∀ t ∈ n.texts, PassForge.IsHashless t) (slot : SlotId) :
    PassForge.IsHashless (g.inputValue id n slot).text := by
  unfold inputValue
  split
  · exact Node.isHashless_variableName _ _
  · cases hs : n.slot? slot with
    | none => decide
    | some s => exact Node.isHashless_literal hn (List.mem_of_find?_eq_some hs)

theorem isHashless_placeholder (hn : ∀ t ∈ n.texts, PassForge.IsHashless t) {name : List Char}
    (hname : '#' ∉ name) : PassForge.IsHashless (g.placeholder id n name).text := by
  unfold placeholder
  split
  · intro hmem
    rw [Piece.text, String.toList_ofList] at hmem
    rcases List.mem_cons.1 hmem with hdollar | hmem
    · exact absurd hdollar (by decide)
    · exact hname hmem
  · split
    · exact isHashless_inputValue hn _
    · exact Node.isHashless_variableName _ _

/-- Placeholders bring in names and literals only. -/
theorem isHashless_expandChars (hn : ∀ t ∈ n.texts, PassForge.IsHashless t) {cs : List Char}
    (hcs : '#' ∉ cs) : ∀ p ∈ g.expandChars id n cs, PassForge.IsHashless p.text := by
  induction cs using expandChars.induct with
  | case1 =>
    rw [expandChars]
    exact fun p hp => absurd hp List.not_mem_nil
  | case2 cs ih =>
    -- a placeholder: its name is looked up, or stays as it is
    rw [expandChars, if_pos rfl]
    intro p hp
    have htail : '#' ∉ cs := fun hmem => hcs (List.mem_cons_of_mem _ hmem)
    rcases List.mem_cons.1 hp with rfl | hp
    · exact isHashless_placeholder hn fun hmem => htail ((List.takeWhile_sublist _).subset hmem)
    · exact ih (fun hmem => htail ((List.dropWhile_sublist _).subset hmem)) p hp
  | case3 c cs hc ih =>
    rw [expandChars, if_neg hc]
    intro p hp
    rcases List.mem_cons.1 hp with rfl | hp
    · intro hmem
      rw [Piece.text, String.toList_singleton, List.mem_singleton] at hmem
      exact hcs (hmem ▸ List.mem_cons_self)
    · exact ih (fun hmem => hcs (List.mem_cons_of_mem _ hmem)) p hp

theorem isPlain_declare (type : ValueType) {name : String} (h : PassForge.IsHashless name) :
    (BodyStatement.declare type name).code.IsPlain :=
  Code.isPlain_line (by
    simp only [isHashless_append, ValueType.isHashless_name, h, and_true, true_and]
    decide)

theorem isPlain_assign {target : String} {value : Piece} (htarget : PassForge.IsHashless target)
    (hvalue : PassForge.IsHashless value.text) : (BodyStatement.assign target value).code.IsPlain :=
  Code.isPlain_line (by
    simp only [isHashless_append, htarget, hvalue, and_true, true_and]
    decide)

theorem isPlain_nodeBody (hn : ∀ t ∈ n.texts, PassForge.IsHashless t) (active : KeywordSet) :
    ∀ st ∈ g.nodeBody id n active, st.code.IsPlain := by
  intro st hst
  rcases List.mem_append.1 hst with hst | hst
  · obtain ⟨s, -, rfl⟩ := List.mem_map.1 hst
    exact isPlain_declare _ (Node.isHashless_variableName _ _)
  · unfold compute at hst
    split at hst
    · rename_i code hcode
      rw [List.mem_singleton.1 hst]
      have hcs : '#' ∉ code.toList := hn code (by simp [Node.texts, hcode])
      refine Code.isPlain_lines fun hmem => ?_
      rw [Piece.join, String.toList_join, List.mem_flatMap] at hmem
      obtain ⟨t, ht, hmem⟩ := hmem
      obtain ⟨p, hp, rfl⟩ := List.mem_map.1 ht
      exact isHashless_expandChars hn hcs p hp hmem
    · obtain ⟨s, hs, rfl⟩ := List.mem_map.1 hst
      refine isPlain_assign (Node.isHashless_variableName _ _) ?_
      unfold passedOn
      split
      · exact isHashless_inputValue hn _
      · exact Node.isHashless_literal hn (List.mem_filter.1 hs).1

theorem isPlain_evaluationFunction (hg : g.IsHashless) (ids : List NodeId) (slots : List SlotId)
    (active : KeywordSet) (stage : Stage) :
    (g.evaluationFunction root ids slots active stage.names).IsPlain := by
  obtain ⟨houtput, hfunction, hinput, hresult⟩ := stage.isHashless_names
  refine Code.isPlain_block ?_ (Code.isPlain_flatMap fun st hst => ?_) (by decide)
  · simp only [isHashless_append, houtput, hfunction, hinput, and_true, true_and]
    decide
  · simp only [evaluationBody, List.mem_append, List.mem_singleton] at hst
    rcases hst with ((hst | rfl) | hst) | rfl
    · obtain ⟨id, -, hst⟩ := List.mem_flatMap.1 hst
      split at hst
      · exact absurd hst List.not_mem_nil
      · rename_i n hn
        exact isPlain_nodeBody (hg n (mem_contents hn)) active st hst
    · refine Code.isPlain_line ?_
      simp only [isHashless_append, houtput, hresult, and_true, true_and]
      decide
    · unfold resultBody at hst
      split at hst
      · exact absurd hst List.not_mem_nil
      · rename_i n hn
        obtain ⟨s, -, rfl⟩ := List.mem_map.1 hst
        refine isPlain_assign ?_ (isHashless_inputValue (hg n (mem_contents hn)) _)
        simp only [isHashless_append, hresult, isHashless_sanitize, and_true, true_and]
        decide
    · refine Code.isPlain_line ?_
      simp only [isHashless_append, hresult, and_true]
      decide

theorem isPlain_outputStruct (g : MaterialGraph) (root : NodeId) (slots : List SlotId)
    (stage : Stage) : (g.outputStruct root slots stage.names).IsPlain := by
  refine Code.isPlain_block ?_ (Code.isPlain_flatMap fun s _ => Code.isPlain_line ?_) (by decide)
  · simp only [isHashless_append, stage.isHashless_names.1, and_true]
    decide
  · simp only [isHashless_append, ValueType.isHashless_name, isHashless_sanitize, and_true,
      true_and]
    decide

theorem isHashless_of_mem_properties (hg : g.IsHashless) {ids : List NodeId} {property : String}
    (h : property ∈ g.properties ids) : PassForge.IsHashless property := by
  obtain ⟨n, hn, hproperty⟩ := List.mem_flatMap.1 (List.mem_eraseDups.1 h)
  obtain ⟨id, -, hnode⟩ := List.mem_filterMap.1 hn
  exact hg n (mem_contents hnode) property (List.mem_append_right _ hproperty)

theorem isHashless_of_mem_sharedFunctions (hg : g.IsHashless) {ids : List NodeId}
    {f : NodeFunction} (h : f ∈ g.sharedFunctions ids) : PassForge.IsHashless f.source := by
  obtain ⟨n, hn, hf⟩ := List.mem_flatMap.1 h
  obtain ⟨id, -, hnode⟩ := List.mem_filterMap.1 hn
  refine hg n (mem_contents hnode) f.source ?_
  simp only [Node.texts, List.mem_append, List.mem_map]
  exact .inl (.inr ⟨f, hf, rfl⟩)

end MaterialGraph

theorem FunctionLibrary.isPlain_code {l : FunctionLibrary}
    (h : ∀ f ∈ l.functions, IsHashless f.source) : l.code.IsPlain :=
  Code.isPlain_flatMap fun f hf =>
    (Code.isPlain_lines (h f hf)).append (Code.isPlain_line (by decide))

/-! ### Structs -/

/-- The texts that a member brings into generated code. -/
def FieldSchema.texts (f : FieldSchema) : List String :=
  f.name :: (f.typeOverride.toList ++ f.semantic.toList ++ f.guard.toList)

/-- The texts that a struct brings into generated code. -/
def StructSchema.texts (s : StructSchema) : List String :=
  s.name :: s.fields.flatMap FieldSchema.texts

/-- The texts that schemas and dependencies bring into generated code. -/
def Registry.texts (r : Registry) : List String :=
  r.structs.flatMap StructSchema.texts ++ r.dependencies.map Dependency.producer

/-- The conditionals around a guarded member.  Its condition is read up to the end of the line. -/
def guardPair (guard : String) : List (List Char) :=
  ["#if ".toList ++ firstLine guard.toList, chainEnd]

theorem balanced_guardPair (guard : String) : Balanced (guardPair guard) := fun _ => rfl

theorem FieldSchema.isHashless_line {f : FieldSchema} (h : ∀ t ∈ f.texts, IsHashless t) :
    IsHashless f.line := by
  have hname : IsHashless f.name := h _ List.mem_cons_self
  have htype : IsHashless f.typeName := by
    unfold typeName
    cases htype : f.typeOverride with
    | none => exact f.type.isHashless_name
    | some type => exact h type (by simp [texts, htype])
  unfold line
  cases hsemantic : f.semantic with
  | none =>
    simp only [isHashless_append, htype, hname, and_true, true_and]
    decide
  | some semantic =>
    have hsemantic : IsHashless semantic := h semantic (by simp [texts, hsemantic])
    simp only [isHashless_append, htype, hname, hsemantic, and_true, true_and]
    decide

theorem FieldSchema.conditionals_code {f : FieldSchema} (h : ∀ t ∈ f.texts, IsHashless t) :
    f.code.indented.conditionals = f.guard.toList.flatMap guardPair := by
  have hline : ∀ code, Code.conditionals (⟨1, f.line⟩ :: code) = Code.conditionals code := by
    intro code
    have hplain : '#' ∉ CodeLine.written ⟨1, f.line⟩ :=
      CodeLine.hash_not_mem_written (isHashless_line h)
    rw [Code.conditionals_cons, conditionals_of_hash_not_mem hplain, List.nil_append]
  unfold code
  cases hguard : f.guard with
  | none => exact hline []
  | some guard =>
    have hrest : '#' ∉ guard.toList := h guard (by simp [texts, hguard])
    -- both directives stand at the margin, though the members are indented
    have hif : CodeLine.written ⟨1, "#if " ++ guard⟩ = "#if ".toList ++ guard.toList := by
      rw [CodeLine.written_of_atMargin (by simp [CodeLine.atMargin]), String.toList_append]
    have hopening : conditionals ("#if ".toList ++ guard.toList) =
        ["#if ".toList ++ firstLine guard.toList] :=
      conditionals_eq_firstLine fun hmem =>
        hrest ((List.dropWhile_sublist _).subset hmem)
    have hend : Code.conditionals [⟨1, "#endif"⟩] = [chainEnd] := by decide
    have hcode : Code.indented (Code.line ("#if " ++ guard) ++ Code.line f.line ++
        Code.line "#endif") = [⟨1, "#if " ++ guard⟩, ⟨1, f.line⟩, ⟨1, "#endif"⟩] := rfl
    rw [hcode, Code.conditionals_cons, hif, hopening, hline, hend]
    rfl

/-- **The conditionals of a struct** are the pairs around the guarded members that are emitted. -/
theorem StructSchema.conditionals_declaration {s : StructSchema}
    (h : ∀ t ∈ s.texts, IsHashless t) (active : NameSet) :
    (s.declaration active).conditionals =
      ((s.emitted active).filterMap FieldSchema.guard).flatMap guardPair := by
  have hhead : (Code.line ("struct " ++ s.name)).conditionals = [] := by
    refine Code.conditionals_of_isPlain (Code.isPlain_line ?_)
    simp only [isHashless_append, h s.name List.mem_cons_self, and_true]
    decide
  have hbrace : (Code.line "\x7b").conditionals = [] := by decide
  have hclose : (Code.line "\x7d;").conditionals = [] := by decide
  have hfields : ∀ f ∈ s.emitted active,
      f.code.indented.conditionals = f.guard.toList.flatMap guardPair := by
    intro f hf
    refine FieldSchema.conditionals_code fun t ht => h t ?_
    exact List.mem_cons_of_mem _ (List.mem_flatMap.2 ⟨f, (List.mem_filter.1 hf).1, ht⟩)
  have hindented : Code.indented ((s.emitted active).flatMap FieldSchema.code) =
      (s.emitted active).flatMap fun f => f.code.indented := List.map_flatMap
  have hguards : (s.emitted active).flatMap (fun f => f.guard.toList.flatMap guardPair) =
      ((s.emitted active).filterMap FieldSchema.guard).flatMap guardPair := by
    rw [List.filterMap_eq_flatMap_toList, List.flatMap_assoc]
  rw [declaration, Code.block, Code.conditionals_append, Code.conditionals_append,
    Code.conditionals_append, hhead, hbrace, hclose, hindented, Code.conditionals_flatMap,
    List.flatMap_congr hfields, hguards]
  simp

end PassForge
