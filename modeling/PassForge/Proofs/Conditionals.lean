import Mathlib.Data.List.TakeWhile
import PassForge.Proofs.Members
import PassForge.Proofs.Paths
import PassForge.Source.Writer

/-!
# Conditionals in generated code

Generated code is read here as a preprocessor reads it, line by line: `conditionals` are the lines
of a text that open, divide or close a chain of branches, and `WellNested` runs them on a stack of
open chains.

* `Code.conditionals_append`: every line of code ends, so the conditionals of code that is put
  together are those of its parts; text without a `#` has none (`Code.conditionals_of_isPlain`).
* `balanced_chain`: a chain whose branches leave the stack as it was does so too.
* `outermost_chain`: its outermost lines are the conditions of its branches and its end.
* `Writer.text_chain`: a writer through which the branches go one after the other writes what each
  of them would write by itself, between the conditions.
-/

namespace PassForge

/-! ### Directives -/

/-- What a conditional of the preprocessor does. -/
inductive Directive where
  /-- Opens a chain of branches. -/
  | opening
  /-- Goes on to a branch under another condition. -/
  | alternative
  /-- Goes on to the branch of last resort. -/
  | fallback
  /-- Closes a chain. -/
  | closing
deriving DecidableEq, Repr

namespace Directive

/-- The conditionals by name. -/
def table : List (List Char × Directive) :=
  [("if".toList, opening), ("ifdef".toList, opening), ("ifndef".toList, opening),
    ("elif".toList, alternative), ("elifdef".toList, alternative),
    ("elifndef".toList, alternative), ("else".toList, fallback), ("endif".toList, closing)]

/-- The conditional that a line is.  Blanks can stand on either side of the `#`. -/
def ofLine? (line : List Char) : Option Directive :=
  match Text.trimStart line with
  | '#' :: rest => table.lookup ((Text.trimStart rest).takeWhile Text.isIdentifierChar)
  | _ => none

theorem hash_mem_of_ofLine? {line : List Char} {d : Directive} (h : ofLine? line = some d) :
    '#' ∈ line := by
  unfold ofLine? at h
  split at h
  · rename_i rest hrest
    exact (List.dropWhile_sublist _).subset (hrest ▸ List.mem_cons_self)
  · cases h

end Directive

/-- The lines of a text that are conditionals. -/
def conditionals (cs : List Char) : List (List Char) :=
  (cs.splitOn '\n').filter fun line => (Directive.ofLine? line).isSome

theorem conditionals_append_newline (cs ds : List Char) :
    conditionals (cs ++ '\n' :: ds) = conditionals cs ++ conditionals ds := by
  unfold conditionals
  rw [List.splitOn_append_cons_self, List.filter_append]

theorem mem_of_mem_splitOn {cs line : List Char} {a c : Char} (hline : line ∈ cs.splitOn a)
    (hc : c ∈ line) : c ∈ cs := by
  induction cs generalizing line with
  | nil =>
    rw [List.splitOn_nil, List.mem_singleton] at hline
    exact hline ▸ hc
  | cons d cs ih =>
    rw [List.splitOn_cons_eq_if_modifyHead] at hline
    split at hline
    · rcases List.mem_cons.1 hline with rfl | hline
      · exact absurd hc List.not_mem_nil
      · exact List.mem_cons_of_mem d (ih hline hc)
    · obtain ⟨first, rest, hsplit⟩ := List.exists_cons_of_ne_nil (List.splitOn_ne_nil a cs)
      rw [hsplit, List.modifyHead_cons, List.mem_cons] at hline
      rcases hline with rfl | hline
      · rcases List.mem_cons.1 hc with rfl | hc
        · exact List.mem_cons_self
        · exact List.mem_cons_of_mem d (ih (hsplit ▸ List.mem_cons_self) hc)
      · exact List.mem_cons_of_mem d (ih (hsplit ▸ List.mem_cons_of_mem first hline) hc)

theorem conditionals_of_hash_not_mem {cs : List Char} (h : '#' ∉ cs) : conditionals cs = [] := by
  refine List.filter_eq_nil_iff.2 fun line hline hsome => ?_
  obtain ⟨d, hd⟩ := Option.isSome_iff_exists.1 hsome
  exact h (mem_of_mem_splitOn hline (Directive.hash_mem_of_ofLine? hd))

/-- The first line of a text. -/
def firstLine (cs : List Char) : List Char := cs.takeWhile (· ≠ '\n')

/-- If there is no `#` behind the first line of a text, that line can be the only conditional. -/
theorem conditionals_eq_firstLine {cs : List Char} (h : '#' ∉ cs.dropWhile (· ≠ '\n')) :
    conditionals cs = if (Directive.ofLine? (firstLine cs)).isSome then [firstLine cs] else [] := by
  have hunbroken : '\n' ∉ firstLine cs := fun hmem => by
    simpa using List.mem_takeWhile_imp hmem
  have hfirst : conditionals (firstLine cs) =
      if (Directive.ofLine? (firstLine cs)).isSome then [firstLine cs] else [] := by
    unfold conditionals
    rw [List.splitOn_eq_singleton hunbroken]
    by_cases hd : (Directive.ofLine? (firstLine cs)).isSome = true <;> simp [hd]
  rw [← hfirst]
  have hsplit : firstLine cs ++ cs.dropWhile (· ≠ '\n') = cs := List.takeWhile_append_dropWhile
  cases hrest : cs.dropWhile (· ≠ '\n') with
  | nil =>
    rw [hrest, List.append_nil] at hsplit
    rw [hsplit]
  | cons c rest =>
    obtain rfl : c = '\n' := by
      have hhead := List.head?_dropWhile_not (· ≠ '\n') cs
      rw [hrest] at hhead
      simpa using hhead
    have hrest' : '#' ∉ rest := fun hmem => h (hrest ▸ List.mem_cons_of_mem _ hmem)
    rw [hrest] at hsplit
    rw [← hsplit, conditionals_append_newline, conditionals_of_hash_not_mem hrest', List.append_nil,
      hsplit]

/-! ### Conditionals of code -/

namespace CodeLine

/-- The line as it is written, without its end. -/
def written (l : CodeLine) : List Char := l.indentation.toList ++ l.content.toList

theorem written_of_atMargin {l : CodeLine} (h : l.atMargin = true) :
    l.written = l.content.toList := by
  rw [written, indentation, if_pos h]
  rfl

theorem written_zero (content : String) : written ⟨0, content⟩ = content.toList := by
  unfold written indentation
  split <;> rfl

theorem hash_not_mem_written {l : CodeLine} (h : '#' ∉ l.content.toList) : '#' ∉ l.written := by
  intro hmem
  rcases List.mem_append.1 hmem with hmem | hmem
  · exact absurd (eq_blank_of_mem_indentation hmem) (by decide)
  · exact h hmem

end CodeLine

namespace Code

theorem text_line (content : String) : (line content).text = content ++ "\n" := by
  rw [← String.toList_inj]
  simpa [text, line, CodeLine.text, String.join_cons, CodeLine.written] using
    CodeLine.written_zero content

theorem text_append (code code' : Code) : text (code ++ code') = text code ++ text code' := by
  rw [← String.toList_inj]
  simp [text, String.toList_join]

/-- The lines of code that are conditionals. -/
def conditionals (code : Code) : List (List Char) := PassForge.conditionals code.text.toList

theorem conditionals_nil : conditionals [] = [] := rfl

theorem conditionals_cons (l : CodeLine) (code : Code) :
    conditionals (l :: code) = PassForge.conditionals l.written ++ conditionals code := by
  have htext : (text (l :: code)).toList = l.written ++ '\n' :: (text code).toList := by
    simp [text, CodeLine.text, CodeLine.written, String.join_cons]
  rw [conditionals, htext, conditionals_append_newline]
  rfl

theorem conditionals_append (code code' : Code) :
    conditionals (code ++ code') = conditionals code ++ conditionals code' := by
  induction code with
  | nil => rfl
  | cons l code ih => rw [List.cons_append, conditionals_cons, conditionals_cons, ih,
      List.append_assoc]

theorem conditionals_flatMap {α : Type} (f : α → Code) (l : List α) :
    conditionals (l.flatMap f) = l.flatMap fun a => conditionals (f a) := by
  induction l with
  | nil => rfl
  | cons a l ih => rw [List.flatMap_cons, conditionals_append, ih, List.flatMap_cons]

theorem conditionals_line (content : String) :
    conditionals (line content) = PassForge.conditionals content.toList := by
  rw [line, conditionals_cons, CodeLine.written_zero, conditionals_nil, List.append_nil]

/-- Code without a `#`. -/
def IsPlain (code : Code) : Prop := ∀ l ∈ code, '#' ∉ l.content.toList

theorem conditionals_of_isPlain {code : Code} (h : code.IsPlain) : conditionals code = [] := by
  induction code with
  | nil => rfl
  | cons l code ih =>
    rw [conditionals_cons, conditionals_of_hash_not_mem
      (CodeLine.hash_not_mem_written (h l List.mem_cons_self)),
      ih fun l hl => h l (List.mem_cons_of_mem _ hl), List.append_nil]

end Code

/-! ### Nesting -/

namespace Directive

/-- What a conditional does with the chains that are open.  Of each, the innermost first, it is
known whether its branch of last resort has come. -/
def step : List Bool → Directive → Option (List Bool)
  | chains, opening => some (false :: chains)
  | false :: chains, alternative => some (false :: chains)
  | false :: chains, fallback => some (true :: chains)
  | _ :: chains, closing => some chains
  | _, _ => none

end Directive

/-- The chains that are open after some lines. -/
def openAfter (chains : List Bool) (lines : List (List Char)) : Option (List Bool) :=
  (lines.filterMap Directive.ofLine?).foldlM Directive.step chains

/-- Lines whose conditionals are well nested: every chain is opened before it goes on, goes on to at
most one branch of last resort, which is its last, and is closed once. -/
def WellNested (lines : List (List Char)) : Prop := openAfter [] lines = some []

instance (lines : List (List Char)) : Decidable (WellNested lines) :=
  inferInstanceAs (Decidable (openAfter [] lines = some []))

/-- Lines that leave the open chains as they were. -/
def Balanced (lines : List (List Char)) : Prop := ∀ chains, openAfter chains lines = some chains

theorem openAfter_append (chains : List Bool) (lines lines' : List (List Char)) :
    openAfter chains (lines ++ lines') =
      (openAfter chains lines).bind fun chains' => openAfter chains' lines' := by
  unfold openAfter
  rw [List.filterMap_append, List.foldlM_append]
  rfl

theorem openAfter_cons {line : List Char} {d : Directive} (hd : Directive.ofLine? line = some d)
    (chains : List Bool) (lines : List (List Char)) :
    openAfter chains (line :: lines) =
      (Directive.step chains d).bind fun chains' => openAfter chains' lines := by
  unfold openAfter
  rw [List.filterMap_cons_some hd, List.foldlM_cons]
  rfl

namespace Balanced

theorem nil : Balanced [] := fun _ => rfl

theorem append {lines lines' : List (List Char)} (h : Balanced lines) (h' : Balanced lines') :
    Balanced (lines ++ lines') := by
  intro chains
  rw [openAfter_append, h chains, Option.bind_some, h' chains]

theorem flatMap {α : Type} {f : α → List (List Char)} {l : List α} (h : ∀ a ∈ l, Balanced (f a)) :
    Balanced (l.flatMap f) := by
  induction l with
  | nil => exact nil
  | cons a l ih =>
    rw [List.flatMap_cons]
    exact (h a List.mem_cons_self).append (ih fun b hb => h b (List.mem_cons_of_mem a hb))

theorem wellNested {lines : List (List Char)} (h : Balanced lines) : WellNested lines := h []

end Balanced

/-! ### Chains -/

/-- The end of a chain. -/
def chainEnd : List Char := "#endif".toList

/-- The conditionals of a chain, given its conditions and the conditionals of its branches. -/
def chainLines (branches : List (List Char × List (List Char))) : List (List Char) :=
  (branches.flatMap fun b => b.1 :: b.2) ++ [chainEnd]

theorem openAfter_alternatives {branches : List (List Char × List (List Char))}
    (h : ∀ b ∈ branches, Directive.ofLine? b.1 = some .alternative ∧ Balanced b.2)
    (chains : List Bool) :
    openAfter (false :: chains) (branches.flatMap fun b => b.1 :: b.2) =
      some (false :: chains) := by
  induction branches with
  | nil => rfl
  | cons b branches ih =>
    obtain ⟨hb, hbody⟩ := h b List.mem_cons_self
    have hrest := ih fun b hb => h b (List.mem_cons_of_mem _ hb)
    rw [List.flatMap_cons, List.cons_append, openAfter_cons hb]
    simp only [Directive.step, Option.bind_some]
    rw [openAfter_append, hbody, Option.bind_some, hrest]

/-- Branches that make a chain: one that opens it, alternatives, and one of last resort. -/
def IsChain (branches : List (List Char × List (List Char))) : Prop :=
  branches.map (fun b => Directive.ofLine? b.1) =
    some .opening :: (List.replicate (branches.length - 2) (some .alternative) ++ [some .fallback])

theorem IsChain.exists_eq {branches : List (List Char × List (List Char))} (h : IsChain branches) :
    ∃ first middle last, branches = first :: (middle ++ [last]) ∧
      Directive.ofLine? first.1 = some .opening ∧
      (∀ b ∈ middle, Directive.ofLine? b.1 = some .alternative) ∧
      Directive.ofLine? last.1 = some .fallback := by
  obtain ⟨first, others, rfl, hfirst, hothers⟩ := List.map_eq_cons_iff.1 h
  obtain ⟨middle, rest, rfl, hmiddle, hrest⟩ := List.map_eq_append_iff.1 hothers
  obtain ⟨last, hrest, hlast⟩ := List.map_eq_singleton_iff.1 hrest
  refine ⟨first, middle, last, by rw [hrest], hfirst, fun b hb => ?_, hlast⟩
  have hkind : Directive.ofLine? b.1 ∈ middle.map fun b => Directive.ofLine? b.1 :=
    List.mem_map_of_mem hb
  rw [hmiddle] at hkind
  exact List.eq_of_mem_replicate hkind

/-- **A chain is balanced** if its branches are. -/
theorem balanced_chain {branches : List (List Char × List (List Char))} (h : IsChain branches)
    (hbodies : ∀ b ∈ branches, Balanced b.2) : Balanced (chainLines branches) := by
  obtain ⟨first, middle, last, rfl, hfirst, hmiddle, hlast⟩ := h.exists_eq
  have hmiddleBody : ∀ b ∈ middle, Balanced b.2 := fun b hb =>
    hbodies b (List.mem_cons_of_mem _ (List.mem_append_left _ hb))
  have hlastBody : Balanced last.2 :=
    hbodies last (List.mem_cons_of_mem _ (List.mem_append_right _ (List.mem_singleton_self last)))
  intro chains
  have hlines : chainLines (first :: (middle ++ [last])) = first.1 :: (first.2 ++
      ((middle.flatMap fun b => b.1 :: b.2) ++ last.1 :: (last.2 ++ [chainEnd]))) := by
    simp [chainLines]
  rw [hlines, openAfter_cons hfirst]
  simp only [Directive.step, Option.bind_some]
  rw [openAfter_append, hbodies first List.mem_cons_self, Option.bind_some, openAfter_append,
    openAfter_alternatives fun b hb => ⟨hmiddle b hb, hmiddleBody b hb⟩, Option.bind_some,
    openAfter_cons hlast]
  simp only [Directive.step, Option.bind_some]
  rw [openAfter_append, hlastBody, Option.bind_some]
  rfl

namespace Directive

/-- The number of open chains after a conditional. -/
def depthAfter (depth : Nat) : Directive → Nat
  | opening => depth + 1
  | closing => depth - 1
  | _ => depth

/-- Whether a conditional is part of an outermost chain. -/
def isOutermost (depth : Nat) : Directive → Bool
  | opening => depth == 0
  | _ => decide (depth ≤ 1)

end Directive

/-- The conditionals of the outermost chains, where `depth` chains are open before. -/
def outermost (depth : Nat) : List (List Char) → List (List Char)
  | [] => []
  | line :: lines =>
    match Directive.ofLine? line with
    | none => outermost depth lines
    | some d =>
      let rest := outermost (d.depthAfter depth) lines
      if d.isOutermost depth then line :: rest else rest

theorem outermost_cons {line : List Char} {d : Directive} (hd : Directive.ofLine? line = some d)
    (depth : Nat) (lines : List (List Char)) : outermost depth (line :: lines) =
      if d.isOutermost depth then line :: outermost (d.depthAfter depth) lines
      else outermost (d.depthAfter depth) lines := by
  rw [outermost, hd]

/-- What is well nested by itself adds nothing to the outermost chains around it. -/
theorem outermost_append_of_openAfter {chains : List Bool} {body : List (List Char)}
    (h : openAfter chains body = some []) (depth : Nat) (lines : List (List Char)) :
    outermost (depth + 1 + chains.length) (body ++ lines) = outermost (depth + 1) lines := by
  induction body generalizing chains with
  | nil =>
    cases h
    rfl
  | cons line body ih =>
    rw [List.cons_append]
    cases hd : Directive.ofLine? line with
    | none =>
      have hskip : openAfter chains body = some [] := by
        rw [← h, openAfter, openAfter, List.filterMap_cons_none hd]
      rw [outermost, hd]
      exact ih hskip
    | some d =>
      rw [openAfter_cons hd] at h
      obtain ⟨chains', hstep, hrest⟩ := Option.bind_eq_some_iff.1 h
      -- inside a chain, no line is outermost, and the depth follows the stack
      have hdepth : d.isOutermost (depth + 1 + chains.length) = false ∧
          d.depthAfter (depth + 1 + chains.length) = depth + 1 + chains'.length := by
        cases d with
        | opening =>
          cases hstep
          exact ⟨by simp [Directive.isOutermost], rfl⟩
        | alternative | fallback | closing =>
          rcases chains with _ | ⟨_ | _, chains⟩ <;> cases hstep <;>
            simp [Directive.isOutermost, Directive.depthAfter] <;> omega
      rw [outermost_cons hd, hdepth.1, hdepth.2, if_neg Bool.false_ne_true]
      exact ih hrest

theorem outermost_append {body : List (List Char)} (h : WellNested body) (depth : Nat)
    (lines : List (List Char)) :
    outermost (depth + 1) (body ++ lines) = outermost (depth + 1) lines :=
  outermost_append_of_openAfter h depth lines

theorem outermost_branches {branches : List (List Char × List (List Char))}
    (h : ∀ b ∈ branches, (Directive.ofLine? b.1 = some .alternative ∨
      Directive.ofLine? b.1 = some .fallback) ∧ WellNested b.2) :
    outermost 1 (chainLines branches) = branches.map Prod.fst ++ [chainEnd] := by
  induction branches with
  | nil => rfl
  | cons b branches ih =>
    obtain ⟨hb, hbody⟩ := h b List.mem_cons_self
    have hlines : chainLines (b :: branches) = b.1 :: (b.2 ++ chainLines branches) := by
      simp [chainLines]
    have hline : outermost 1 (b.1 :: (b.2 ++ chainLines branches)) =
        b.1 :: outermost 1 (b.2 ++ chainLines branches) := by
      rcases hb with hd | hd
      · exact outermost_cons hd 1 _
      · exact outermost_cons hd 1 _
    rw [hlines, hline, outermost_append hbody, ih fun c hc => h c (List.mem_cons_of_mem _ hc)]
    rfl

/-- **The outermost lines of a chain** are its conditions and its end. -/
theorem outermost_chain {branches : List (List Char × List (List Char))} (h : IsChain branches)
    (hbodies : ∀ b ∈ branches, WellNested b.2) :
    outermost 0 (chainLines branches) = branches.map Prod.fst ++ [chainEnd] := by
  obtain ⟨first, middle, last, rfl, hfirst, hmiddle, hlast⟩ := h.exists_eq
  have hothers : ∀ b ∈ middle ++ [last], (Directive.ofLine? b.1 = some .alternative ∨
      Directive.ofLine? b.1 = some .fallback) ∧ WellNested b.2 := by
    intro b hb
    refine ⟨?_, hbodies b (List.mem_cons_of_mem _ hb)⟩
    rcases List.mem_append.1 hb with hb | hb
    · exact .inl (hmiddle b hb)
    · exact .inr (List.mem_singleton.1 hb ▸ hlast)
  have hlines : chainLines (first :: (middle ++ [last])) =
      first.1 :: (first.2 ++ chainLines (middle ++ [last])) := by
    simp [chainLines]
  rw [hlines, outermost_cons hfirst]
  simp only [Directive.isOutermost, Directive.depthAfter, beq_self_eq_true, if_true]
  rw [outermost_append (hbodies first List.mem_cons_self), outermost_branches hothers]
  rfl

/-! ### The lines of a chain -/

namespace Condition

/-- The directive that a condition is written as. -/
def directive : Condition → Directive
  | first _ => .opening
  | next _ => .alternative
  | otherwise => .fallback

theorem ofLine?_line (c : Condition) : Directive.ofLine? c.line.toList = some c.directive := by
  cases c with
  | first g =>
    rw [line, String.toList_append]
    rfl
  | next g =>
    rw [line, String.toList_append]
    rfl
  | otherwise => rfl

theorem newline_not_mem_line {i : Nat} {v vocabulary : KeywordSet}
    (h : ∀ k, k ∈ v ∨ k ∈ vocabulary → '\n' ∉ k.toList) :
    '\n' ∉ (ofVariant i v vocabulary).line.toList := by
  have hguard : '\n' ∉ ((v.guard vocabulary).text?.getD "").toList := by
    unfold Guard.text?
    split
    · decide
    · intro hmem
      rw [Option.getD_some, String.toList_intercalate] at hmem
      rcases mem_or_of_mem_intercalate hmem with hsep | ⟨l, hl, hmem⟩
      · exact absurd hsep (by decide)
      · simp only [KeywordSet.guard, List.map_append, List.map_map, List.mem_append, List.mem_map,
          List.mem_filter] at hl
        rcases hl with ⟨k, hk, rfl⟩ | ⟨k, hk, rfl⟩
        · have hname := h k (.inl hk)
          simp [GuardTerm.text, hname] at hmem
        · have hname := h k (.inr hk.1)
          simp [GuardTerm.text, hname] at hmem
  unfold ofVariant
  split
  · decide
  · split
    · simpa [line] using hguard
    · simpa [line] using hguard

end Condition

theorem conditionals_of_ofLine? {line : List Char} {d : Directive} (hunbroken : '\n' ∉ line)
    (hd : Directive.ofLine? line = some d) : conditionals line = [line] := by
  unfold conditionals
  rw [List.splitOn_eq_singleton hunbroken]
  exact List.filter_cons_of_pos (by rw [hd]; rfl)

theorem chain_of_length_ne_one {branches : List (Condition × Code)} (h : branches.length ≠ 1) :
    chain branches = (branches.flatMap fun b => Code.line b.1.line ++ b.2) ++
      Code.line "#endif" := by
  unfold chain
  split
  · exact absurd rfl h
  · rfl

theorem conditionals_chain {branches : List (Condition × Code)} (h : branches.length ≠ 1)
    (hlines : ∀ b ∈ branches, '\n' ∉ b.1.line.toList) :
    (chain branches).conditionals =
      chainLines (branches.map fun b => (b.1.line.toList, b.2.conditionals)) := by
  have hbranch : ∀ b ∈ branches, (Code.line b.1.line ++ b.2).conditionals =
      b.1.line.toList :: b.2.conditionals := by
    intro b hb
    rw [Code.conditionals_append, Code.conditionals_line,
      conditionals_of_ofLine? (hlines b hb) b.1.ofLine?_line]
    rfl
  have hend : (Code.line "#endif").conditionals = [chainEnd] := by decide
  rw [chain_of_length_ne_one h, Code.conditionals_append, Code.conditionals_flatMap, hend,
    chainLines, List.flatMap_map]
  exact congrArg (· ++ [chainEnd]) (List.flatMap_congr hbranch)

/-! ### Writers -/

namespace Writer

theorem code_append (w : Writer) (code code' : Code) :
    w.code (code ++ code') = (w.code code).code code' := List.foldl_append

theorem code_line (w : Writer) (content : String) : w.code (Code.line content) = w.line content :=
  rfl

theorem depth_code (w : Writer) (code : Code) : (w.code code).depth = w.depth := by
  induction code generalizing w with
  | nil => rfl
  | cons l code ih => exact ih _

theorem text_code (w : Writer) (code : Code) :
    (w.code code).text = w.text ++ String.join
      (code.map fun l => CodeLine.text { l with depth := w.depth + l.depth }) := by
  induction code generalizing w with
  | nil => simp [Writer.code, String.join_nil]
  | cons l code ih =>
    have hstep : w.code (l :: code) =
        (w.raw (CodeLine.text { l with depth := w.depth + l.depth })).code code := rfl
    rw [hstep, ih, List.map_cons, String.join_cons]
    simp only [raw, String.append_assoc]

theorem text_empty_code (code : Code) : (empty.code code).text = code.text := by
  have hlines : (code.map fun l => CodeLine.text { l with depth := empty.depth + l.depth }) =
      code.map CodeLine.text := List.map_congr_left fun l _ => by simp [empty]
  rw [text_code, hlines]
  exact String.empty_append

theorem code_flatMap {α : Type} (f : α → Code) (l : List α) (w : Writer) :
    w.code (l.flatMap f) = l.foldl (fun w a => w.code (f a)) w := by
  induction l generalizing w with
  | nil => rfl
  | cons a l ih => rw [List.flatMap_cons, code_append, ih, List.foldl_cons]

/-- Writes a head line, an opening brace, a body one level deeper, and a closing line. -/
def block (w : Writer) (head : String) (body : Writer → Writer) (close : String) : Writer :=
  (body ((w.line head).line "\x7b").indent).dedent.line close

theorem code_indented (code : Code) (w : Writer) :
    w.code code.indented = (w.indent.code code).dedent := by
  induction code generalizing w with
  | nil => rfl
  | cons l code ih =>
    have hdepth : w.depth + (l.depth + 1) = w.depth + 1 + l.depth := by omega
    have hstep : w.code (Code.indented (l :: code)) =
        (w.raw (CodeLine.text ⟨w.depth + (l.depth + 1), l.content⟩)).code (Code.indented code) :=
      rfl
    rw [hstep, ih, hdepth]
    rfl

theorem code_block (w : Writer) (head : String) (body : Code) (close : String) :
    w.code (.block head body close) = w.block head (fun w => w.code body) close := by
  rw [Code.block, code_append, code_append, code_append, code_indented]
  rfl

/-- Writes the branches of a chain one after the other. -/
def chain (w : Writer) (branches : List (Condition × (Writer → Writer))) : Writer :=
  (branches.foldl (fun w b => b.2 (w.line b.1.line)) w).line "#endif"

theorem chain_eq_code (branches : List (Condition × Code)) (w : Writer) :
    w.chain (branches.map fun b => (b.1, fun w => w.code b.2)) = w.code
      ((branches.flatMap fun b => Code.line b.1.line ++ b.2) ++ Code.line "#endif") := by
  have hbranch : ∀ (w : Writer) (b : Condition × Code),
      w.code (Code.line b.1.line ++ b.2) = (w.line b.1.line).code b.2 := by
    intro w b
    rw [code_append, code_line]
  rw [chain, List.foldl_map, code_append, code_line, code_flatMap]
  simp only [hbranch]

/-- **A writer through which all branches go** writes what each of them writes by itself. -/
theorem text_chain (branches : List (Condition × Code)) :
    (empty.chain (branches.map fun b => (b.1, fun w => w.code b.2))).text = String.join
      (branches.map fun b => b.1.line ++ "\n" ++ (empty.code b.2).text) ++ "#endif\n" := by
  have hbranches : Code.text (branches.flatMap fun b => Code.line b.1.line ++ b.2) =
      String.join (branches.map fun b => b.1.line ++ "\n" ++ (empty.code b.2).text) := by
    induction branches with
    | nil => rfl
    | cons b branches ih =>
      rw [List.flatMap_cons, Code.text_append, Code.text_append, Code.text_line, ih, List.map_cons,
        String.join_cons, text_empty_code]
  have hend : (Code.line "#endif").text = "#endif\n" := by decide
  rw [chain_eq_code, text_empty_code, Code.text_append, hbranches, hend]

end Writer

end PassForge
