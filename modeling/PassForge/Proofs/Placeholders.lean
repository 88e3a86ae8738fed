import Mathlib.Data.List.Forall2
import Mathlib.Data.List.TakeWhile
import PassForge.Proofs.GraphStore
import PassForge.Proofs.PlainCode

/-!
# Placeholders are tokens

A code is expanded character by character.  What comes out can be said without following the
expansion: the code is cut into tokens, each a `$` and the longest name after it, and the text
between them (`IsCut`); every token that names a slot is replaced, and all else stays.

* `isCut_iff`: every code can be cut in one way only.
* `MaterialGraph.StandsFor`: what a segment of the code of a node stands for, and `standsFor_iff`,
  that it stands for one text.
* `IsCut.join_expandChars`: expanding puts these texts together, in one pass from left to right.
* `cutsToken_iff`: codes can be expanded apart unless they meet inside a token.
-/

namespace PassForge

/-! ### Cutting a code -/

/-- A part of the code of a node. -/
inductive Segment where
  /-- Text between tokens. -/
  | text (chars : List Char)
  /-- A `$` and the name after it. -/
  | token (name : List Char)
deriving DecidableEq, Repr

/-- The characters of a segment. -/
def Segment.chars : Segment → List Char
  | text chars => chars
  | token name => '$' :: name

/-- The segments of a code.  A token has all of the name that follows its `$`, and a text goes on to
the next `$`. -/
inductive IsCut : List Segment → List Char → Prop
  | nil : IsCut [] []
  | text {chars rest : List Char} {l : List Segment} (hne : chars ≠ []) (hplain : '$' ∉ chars)
      (hend : ∀ c, rest.head? = some c → c = '$') (hrest : IsCut l rest) :
      IsCut (.text chars :: l) (chars ++ rest)
  | token {name rest : List Char} {l : List Segment}
      (hname : ∀ c ∈ name, Text.isIdentifierChar c = true)
      (hend : ∀ c, rest.head? = some c → Text.isIdentifierChar c = false) (hrest : IsCut l rest) :
      IsCut (.token name :: l) ('$' :: (name ++ rest))

/-- Cuts a code into segments. -/
def cut : List Char → List Segment
  | [] => []
  | c :: cs =>
    if c = '$' then
      .token (cs.takeWhile Text.isIdentifierChar) :: cut (cs.dropWhile Text.isIdentifierChar)
    else .text (c :: cs.takeWhile (· ≠ '$')) :: cut (cs.dropWhile (· ≠ '$'))
termination_by cs => cs.length
decreasing_by
  · exact Nat.lt_succ_of_le (List.dropWhile_sublist _).length_le
  · exact Nat.lt_succ_of_le (List.dropWhile_sublist _).length_le

section Span

variable {α : Type} {p : α → Bool} {l rest : List α}

theorem takeWhile_append_of_head (hl : ∀ a ∈ l, p a = true)
    (hrest : ∀ a, rest.head? = some a → p a = false) : (l ++ rest).takeWhile p = l := by
  rw [List.takeWhile_append_of_pos hl]
  cases rest with
  | nil => simp
  | cons a rest => simp [hrest a rfl]

theorem dropWhile_append_of_head (hl : ∀ a ∈ l, p a = true)
    (hrest : ∀ a, rest.head? = some a → p a = false) : (l ++ rest).dropWhile p = rest := by
  rw [List.dropWhile_append_of_pos hl]
  cases rest with
  | nil => rfl
  | cons a rest => simp [hrest a rfl]

theorem eq_false_of_head?_dropWhile {a : α} (h : (l.dropWhile p).head? = some a) : p a = false := by
  have hhead := List.head?_dropWhile_not p l
  rw [h] at hhead
  exact hhead

end Span

theorem isCut_cut (code : List Char) : IsCut (cut code) code := by
  induction code using cut.induct with
  | case1 =>
    rw [cut]
    exact .nil
  | case2 cs ih =>
    rw [cut, if_pos rfl]
    have hname : ∀ c ∈ cs.takeWhile Text.isIdentifierChar, Text.isIdentifierChar c = true :=
      fun _ => List.mem_takeWhile_imp
    have htoken := IsCut.token hname (fun _ => eq_false_of_head?_dropWhile) ih
    rwa [List.takeWhile_append_dropWhile] at htoken
  | case3 c cs hc ih =>
    rw [cut, if_neg hc]
    have hplain : '$' ∉ c :: cs.takeWhile (· ≠ '$') := by
      intro hmem
      rcases List.mem_cons.1 hmem with heq | hmem
      · exact hc heq.symm
      · simpa using List.mem_takeWhile_imp hmem
    have htext := IsCut.text (List.cons_ne_nil c _) hplain
      (fun d hd => by simpa using eq_false_of_head?_dropWhile hd) ih
    rwa [List.cons_append, List.takeWhile_append_dropWhile] at htext

theorem IsCut.eq_cut {l : List Segment} {code : List Char} (h : IsCut l code) : l = cut code := by
  induction h with
  | nil => rw [cut]
  | @text chars rest l hne hplain hend _ ih =>
    obtain ⟨c, cs, rfl⟩ := List.exists_cons_of_ne_nil hne
    have hc : c ≠ '$' := fun heq => hplain (heq ▸ List.mem_cons_self)
    have hcs : ∀ d ∈ cs, decide (d ≠ '$') = true := by
      intro d hd
      refine decide_eq_true fun heq => hplain ?_
      exact heq ▸ List.mem_cons_of_mem _ hd
    have hrest : ∀ d, rest.head? = some d → decide (d ≠ '$') = false := by
      intro d hd
      simpa using hend d hd
    rw [List.cons_append, cut, if_neg hc, takeWhile_append_of_head hcs hrest,
      dropWhile_append_of_head hcs hrest, ih]
  | token hname hend _ ih =>
    rw [cut, if_pos rfl, takeWhile_append_of_head hname hend, dropWhile_append_of_head hname hend,
      ih]

/-- **A code can be cut in one way only.** -/
theorem isCut_iff {l : List Segment} {code : List Char} : IsCut l code ↔ l = cut code :=
  ⟨IsCut.eq_cut, fun h => h ▸ isCut_cut code⟩

namespace IsCut

variable {l l' : List Segment} {a b code name : List Char}

theorem flatMap_chars (h : IsCut l code) : l.flatMap Segment.chars = code := by
  induction h with
  | nil => rfl
  | text _ _ _ _ ih => rw [List.flatMap_cons, ih, Segment.chars]
  | token _ _ _ ih => rw [List.flatMap_cons, ih, Segment.chars, List.cons_append]

theorem isIdentifierChar_of_mem (h : IsCut l code) (hname : .token name ∈ l) :
    ∀ c ∈ name, Text.isIdentifierChar c = true := by
  induction h with
  | nil => exact absurd hname List.not_mem_nil
  | text _ _ _ _ ih =>
    rcases List.mem_cons.1 hname with heq | hmem
    · cases heq
    · exact ih hmem
  | token hfirst _ _ ih =>
    rcases List.mem_cons.1 hname with heq | hmem
    · cases heq
      exact hfirst
    · exact ih hmem

/-- A code can be cut where a token starts. -/
theorem append (h : IsCut l a) (h' : IsCut (.token name :: l') b) :
    IsCut (l ++ .token name :: l') (a ++ b) := by
  have hb : b.head? = some '$' := by
    cases h'
    rfl
  -- what follows the first code starts with a `$`, which ends texts and names
  have hhead : ∀ {rest : List Char} {c : Char}, (rest ++ b).head? = some c →
      rest.head? = some c ∨ c = '$' := by
    intro rest c hc
    cases rest with
    | nil => exact .inr (Option.some.inj (hb.symm.trans hc)).symm
    | cons d rest => exact .inl hc
  induction h with
  | nil => exact h'
  | text hne hplain hend _ ih =>
    rw [List.append_assoc]
    refine .text hne hplain (fun c hc => ?_) ih
    rcases hhead hc with hc | hc
    · exact hend c hc
    · exact hc
  | token hname hend _ ih =>
    simp only [List.cons_append, List.append_assoc]
    refine .token hname (fun c hc => ?_) ih
    rcases hhead hc with hc | rfl
    · exact hend c hc
    · decide

end IsCut

/-- A `$` and an identifier are a token, wherever they stand, if no name goes on behind them. -/
theorem exists_isCut_identifier (before : List Char) (name : String) {after : List Char}
    (hend : ∀ c, after.head? = some c → Text.isIdentifierChar c = false) :
    ∃ l l', IsCut (l ++ .token (Text.sanitize name).toList :: l')
        (before ++ '$' :: ((Text.sanitize name).toList ++ after)) ∧
      l.flatMap Segment.chars = before := by
  have hname : ∀ c ∈ (Text.sanitize name).toList, Text.isIdentifierChar c = true :=
    fun _ => isIdentifierChar_of_mem_sanitize
  exact ⟨_, _, (isCut_cut before).append (.token hname hend (isCut_cut after)),
    (isCut_cut before).flatMap_chars⟩

/-- A code is divided inside a token of it: behind the `$`, and before the end of the name. -/
def CutsToken (a b : List Char) : Prop :=
  ∃ l name l', IsCut (l ++ .token name :: l') (a ++ b) ∧
    (l.flatMap Segment.chars).length < a.length ∧
    a.length < (l.flatMap Segment.chars).length + (name.length + 1)

/-- **A token is divided** exactly if a name, or what could be one, goes on. -/
theorem cutsToken_iff {a b : List Char} : CutsToken a b ↔
    (∃ before name, a = before ++ '$' :: name ∧ ∀ c ∈ name, Text.isIdentifierChar c = true) ∧
      ∃ c, b.head? = some c ∧ Text.isIdentifierChar c = true := by
  constructor
  · rintro ⟨l, name, l', hcut, hbehind, hbefore⟩
    have hname := hcut.isIdentifierChar_of_mem (List.mem_append_right _ List.mem_cons_self)
    have hchars := hcut.flatMap_chars
    rw [List.flatMap_append, List.flatMap_cons, Segment.chars, List.cons_append] at hchars
    rcases List.append_eq_append_iff.1 hchars with ⟨c, rfl, hrest⟩ | ⟨c, hshort, -⟩
    · cases c with
      | nil => simp at hbehind
      | cons d start =>
        obtain ⟨rfl, hnames⟩ := List.cons.inj hrest
        rcases List.append_eq_append_iff.1 hnames with ⟨d, rfl, -⟩ | ⟨d, rfl, rfl⟩
        · simp only [List.length_append, List.length_cons] at hbefore
          omega
        · cases d with
          | nil => simp at hbefore
          | cons d more =>
            refine ⟨⟨_, start, rfl, fun c hc => hname c (List.mem_append_left _ hc)⟩, d, rfl, ?_⟩
            exact hname d (List.mem_append_right _ List.mem_cons_self)
    · have hlength := congrArg List.length hshort
      rw [List.length_append] at hlength
      omega
  · rintro ⟨⟨before, name, rfl, hname⟩, c, hhead, hc⟩
    obtain ⟨rest, rfl⟩ : ∃ rest, b = c :: rest := by
      cases b with
      | nil => cases hhead
      | cons d rest =>
        cases hhead
        exact ⟨rest, rfl⟩
    have hwhole : ∀ d ∈ name ++ (c :: rest).takeWhile Text.isIdentifierChar,
        Text.isIdentifierChar d = true := by
      intro d hd
      rcases List.mem_append.1 hd with hd | hd
      · exact hname d hd
      · exact List.mem_takeWhile_imp hd
    have htoken := IsCut.token hwhole (fun _ => eq_false_of_head?_dropWhile)
      (isCut_cut ((c :: rest).dropWhile Text.isIdentifierChar))
    rw [List.append_assoc, List.takeWhile_append_dropWhile] at htoken
    have hcut := (isCut_cut before).append htoken
    have hchars : before ++ '$' :: name ++ c :: rest = before ++ '$' :: (name ++ c :: rest) := by
      simp
    refine ⟨_, _, _, hchars.symm ▸ hcut, ?_, ?_⟩
    · rw [(isCut_cut before).flatMap_chars]
      simp
    · rw [(isCut_cut before).flatMap_chars, List.takeWhile_cons_of_pos hc]
      simp

/-! ### What a segment stands for -/

theorem sanitize_ne_nil (name : String) : (Text.sanitize name).toList ≠ [] := by
  rw [Text.sanitize, String.toList_ofList, Text.sanitizeChars]
  split
  · exact List.cons_ne_nil _ _
  · split <;> exact List.cons_ne_nil _ _

namespace Node

variable {n : Node} {s : Slot} {name : List Char}

/-- The slot is the first one that a name is the identifier of. -/
def FirstNamed (n : Node) (name : List Char) (s : Slot) : Prop :=
  (Text.sanitize s.name).toList = name ∧ ∃ before after, n.slots = before ++ s :: after ∧
    ∀ t ∈ before, (Text.sanitize t.name).toList ≠ name

/-- The slots of a node have different numbers, so each is found under its own. -/
theorem slot?_of_mem (hs : s ∈ n.slots) : n.slot? s.id = some s := by
  obtain ⟨before, after, hslots⟩ := List.append_of_mem hs
  have hdistinct : (n.slots.map Slot.id).Nodup := n.table.distinct
  rw [hslots, List.map_append, List.map_cons, List.nodup_append] at hdistinct
  rw [slot?, List.find?_eq_some_iff_append]
  refine ⟨by simp, before, after, hslots, fun t ht => ?_⟩
  have hne := hdistinct.2.2 t.id (List.mem_map_of_mem ht) s.id List.mem_cons_self
  simpa using hne

theorem FirstNamed.mem (h : n.FirstNamed name s) : s ∈ n.slots := by
  obtain ⟨-, before, after, hslots, -⟩ := h
  rw [hslots]
  exact List.mem_append_right _ List.mem_cons_self

end Node

namespace MaterialGraph

variable {g : MaterialGraph} {id : NodeId} {n : Node} {s : Slot} {name : List Char}

theorem namedSlot?_eq (n : Node) (name : List Char) :
    namedSlot? n name = n.slots.find? fun s => (Text.sanitize s.name).toList == name := by
  unfold namedSlot?
  split
  · -- the empty name names nothing in any case
    rename_i hempty
    symm
    rw [List.find?_eq_none]
    intro s _ hs
    rw [beq_iff_eq, List.isEmpty_iff.1 hempty] at hs
    exact sanitize_ne_nil s.name hs
  · rfl

theorem namedSlot?_eq_some_iff : namedSlot? n name = some s ↔ n.FirstNamed name s := by
  rw [namedSlot?_eq, List.find?_eq_some_iff_append]
  simp only [beq_iff_eq, Node.FirstNamed, Bool.not_eq_true', beq_eq_false_iff_ne]

theorem namedSlot?_eq_none_iff :
    namedSlot? n name = none ↔ ∀ s ∈ n.slots, (Text.sanitize s.name).toList ≠ name := by
  rw [namedSlot?_eq, List.find?_eq_none]
  simp only [beq_iff_eq]

/-- What a segment of the code of a node stands for: itself, unless it is a token that is the
identifier of a slot. -/
inductive StandsFor (g : MaterialGraph) (id : NodeId) (n : Node) : Segment → String → Prop
  | text (chars : List Char) : StandsFor g id n (.text chars) (String.ofList chars)
  | unnamed {name : List Char} (hname : ∀ s ∈ n.slots, (Text.sanitize s.name).toList ≠ name) :
      StandsFor g id n (.token name) (String.ofList ('$' :: name))
  /-- An output stands for the variable of its own. -/
  | own {name : List Char} {s : Slot} (hs : n.FirstNamed name s) (houtput : s.direction = .output) :
      StandsFor g id n (.token name) (n.variableName s)
  /-- An input stands for the variable of the output that feeds it. -/
  | fed {name : List Char} {s : Slot} {m : NodeId} {node : Node} {output : Slot}
      (hs : n.FirstNamed name s) (hinput : s.direction = .input)
      (hfed : g.feeding? id s.id = some (m, node, output)) :
      StandsFor g id n (.token name) (node.variableName output)
  /-- An input that nothing feeds stands for its literal. -/
  | unfed {name : List Char} {s : Slot} (hs : n.FirstNamed name s) (hinput : s.direction = .input)
      (hfed : g.feeding? id s.id = none) : StandsFor g id n (.token name) s.literal

/-- The text of a segment once placeholders have been replaced. -/
def reading (g : MaterialGraph) (id : NodeId) (n : Node) : Segment → String
  | .text chars => String.ofList chars
  | .token name => (g.placeholder id n name).text

theorem text_placeholder_of_output (hs : n.FirstNamed name s) (h : s.direction = .output) :
    (g.placeholder id n name).text = n.variableName s := by
  rw [placeholder, namedSlot?_eq_some_iff.2 hs]
  simp [Slot.isInput, h, Piece.text]

theorem text_placeholder_of_input (hs : n.FirstNamed name s) (h : s.direction = .input) :
    (g.placeholder id n name).text = match g.feeding? id s.id with
      | some (_, node, output) => node.variableName output
      | none => s.literal := by
  rw [placeholder, namedSlot?_eq_some_iff.2 hs]
  simp only [Slot.isInput, h, beq_self_eq_true, if_true, inputValue]
  cases g.feeding? id s.id with
  | some _ => rfl
  | none => rw [Node.slot?_of_mem hs.mem, Option.map_some, Option.getD_some, Piece.text]

/-- **A segment stands for one text**, the one that expanding it gives. -/
theorem standsFor_iff {segment : Segment} {t : String} :
    g.StandsFor id n segment t ↔ t = g.reading id n segment := by
  constructor
  · intro h
    cases h with
    | text => rfl
    | unnamed hname => rw [reading, placeholder, namedSlot?_eq_none_iff.2 hname, Piece.text]
    | own hs houtput => exact (text_placeholder_of_output hs houtput).symm
    | fed hs hinput hfed => rw [reading, text_placeholder_of_input hs hinput, hfed]
    | unfed hs hinput hfed => rw [reading, text_placeholder_of_input hs hinput, hfed]
  · rintro rfl
    cases segment with
    | text chars => exact .text chars
    | token name =>
      rw [reading]
      cases hs : namedSlot? n name with
      | none =>
        rw [placeholder, hs]
        exact .unnamed (namedSlot?_eq_none_iff.1 hs)
      | some s =>
        have hfirst := namedSlot?_eq_some_iff.1 hs
        cases hdirection : s.direction with
        | output =>
          rw [text_placeholder_of_output hfirst hdirection]
          exact .own hfirst hdirection
        | input =>
          rw [text_placeholder_of_input hfirst hdirection]
          cases hfed : g.feeding? id s.id with
          | none => exact .unfed hfirst hdirection hfed
          | some feeding => exact .fed hfirst hdirection hfed

theorem forall₂_standsFor_iff {l : List Segment} {texts : List String} :
    List.Forall₂ (g.StandsFor id n) l texts ↔ texts = l.map (g.reading id n) := by
  induction l generalizing texts with
  | nil => simp
  | cons segment l ih =>
    simp only [List.forall₂_cons_left_iff, standsFor_iff, ih, List.map_cons]
    simp

/-! ### Expanding -/

theorem join_expandChars_text {chars rest : List Char} (hplain : '$' ∉ chars) :
    Piece.join (g.expandChars id n (chars ++ rest)) =
      String.ofList chars ++ Piece.join (g.expandChars id n rest) := by
  induction chars with
  | nil => simp
  | cons c chars ih =>
    have hc : c ≠ '$' := fun heq => hplain (heq ▸ List.mem_cons_self)
    have hverbatim : Piece.join (g.expandChars id n (c :: (chars ++ rest))) =
        String.singleton c ++ Piece.join (g.expandChars id n (chars ++ rest)) := by
      rw [expandChars, if_neg hc, Piece.join, List.map_cons, String.join_cons, Piece.text]
      rfl
    rw [List.cons_append, hverbatim, ih fun hmem => hplain (List.mem_cons_of_mem _ hmem),
      String.ofList_cons, String.append_assoc]

theorem expandChars_token {rest : List Char}
    (hname : ∀ c ∈ name, Text.isIdentifierChar c = true)
    (hend : ∀ c, rest.head? = some c → Text.isIdentifierChar c = false) :
    g.expandChars id n ('$' :: (name ++ rest)) =
      g.placeholder id n name :: g.expandChars id n rest := by
  rw [expandChars, if_pos rfl, takeWhile_append_of_head hname hend,
    dropWhile_append_of_head hname hend]

end MaterialGraph

/-- **Expanding puts together what the segments stand for.** -/
theorem IsCut.join_expandChars {l : List Segment} {code : List Char} (h : IsCut l code)
    (g : MaterialGraph) (id : NodeId) (n : Node) :
    Piece.join (g.expandChars id n code) = String.join (l.map (g.reading id n)) := by
  induction h with
  | nil =>
    rw [MaterialGraph.expandChars]
    rfl
  | text _ hplain _ _ ih =>
    rw [MaterialGraph.join_expandChars_text hplain, ih, List.map_cons, String.join_cons,
      MaterialGraph.reading]
  | token hname hend _ ih =>
    rw [MaterialGraph.expandChars_token hname hend, Piece.join, List.map_cons, String.join_cons,
      List.map_cons, String.join_cons, ← ih, MaterialGraph.reading]
    rfl

namespace MaterialGraph

variable {g : MaterialGraph} {id : NodeId} {n : Node}

/-- **Codes that do not meet inside a token can be expanded apart.** -/
theorem expandChars_append {a b : List Char} (h : ¬ CutsToken a b) :
    g.expandChars id n (a ++ b) = g.expandChars id n a ++ g.expandChars id n b := by
  rw [cutsToken_iff] at h
  induction a using expandChars.induct with
  | case1 => rw [expandChars, List.nil_append, List.nil_append]
  | case2 cs ih =>
    by_cases hall : ∀ c ∈ cs, Text.isIdentifierChar c = true
    · -- the first code ends with its name
      have hend : ∀ c, b.head? = some c → Text.isIdentifierChar c = false := by
        intro c hc
        by_contra hident
        exact h ⟨⟨[], cs, rfl, hall⟩, c, hc, by simpa using hident⟩
      have hlast : g.expandChars id n ('$' :: (cs ++ [])) =
          g.placeholder id n cs :: g.expandChars id n [] := expandChars_token hall (by simp)
      rw [List.append_nil] at hlast
      rw [List.cons_append, expandChars_token hall hend, hlast, expandChars]
      rfl
    · -- the name ends before the first code does
      have hdrop : ¬ (cs.dropWhile Text.isIdentifierChar).isEmpty = true := by
        rw [List.isEmpty_iff, List.dropWhile_eq_nil_iff]
        exact hall
      have htake : ¬ (cs.takeWhile Text.isIdentifierChar).length = cs.length := by
        intro hlength
        exact hall (List.takeWhile_eq_self_iff.1
          ((List.takeWhile_sublist _).eq_of_length hlength))
      rw [List.cons_append, expandChars, if_pos rfl, List.takeWhile_append, if_neg htake,
        List.dropWhile_append, if_neg hdrop, ih, expandChars, if_pos rfl, List.cons_append]
      rintro ⟨⟨before, name, hbefore, hname⟩, hhead⟩
      refine h ⟨⟨'$' :: cs.takeWhile Text.isIdentifierChar ++ before, name, ?_, hname⟩, hhead⟩
      rw [List.append_assoc, ← hbefore, List.cons_append, List.takeWhile_append_dropWhile]
  | case3 c cs hc ih =>
    rw [List.cons_append, expandChars, if_neg hc, ih, expandChars, if_neg hc, List.cons_append]
    rintro ⟨⟨before, name, rfl, hname⟩, hhead⟩
    exact h ⟨⟨c :: before, name, rfl, hname⟩, hhead⟩

theorem join_expand_of_unnamed {code : String} {l : List Segment} (hcut : IsCut l code.toList)
    (h : ∀ name, .token name ∈ l → ∀ s ∈ n.slots, (Text.sanitize s.name).toList ≠ name) :
    Piece.join (g.expand id n code) = code := by
  have hself : ∀ segment ∈ l, g.reading id n segment = String.ofList segment.chars := by
    intro segment hsegment
    cases segment with
    | text chars => rfl
    | token name => exact (standsFor_iff.1 (.unnamed (h name hsegment))).symm
  rw [expand, hcut.join_expandChars, List.map_congr_left hself]
  refine String.toList_inj.1 ?_
  calc (String.join (l.map fun segment => String.ofList segment.chars)).toList
      = l.flatMap Segment.chars := by simp [String.toList_join, List.flatMap_map]
    _ = code.toList := hcut.flatMap_chars

/-- **Placeholders are replaced token by token.**  A code can be cut into tokens and the text
between them in one way, every segment stands for one text, and the expanded code is these texts in
a row: what is inserted is not looked at again.  So a code of which no token names a slot stays as
it is; codes that do not meet inside a token can be expanded apart; and a `$` with the identifier of
a slot, where no name goes on behind it, is one token with this identifier. -/
theorem expand_tokens (g : MaterialGraph) (id : NodeId) (n : Node) (code : String) :
    (∃ segments, (∀ l, IsCut l code.toList ↔ l = segments) ∧
      (∃ texts, (∀ l, List.Forall₂ (g.StandsFor id n) segments l ↔ l = texts) ∧
        Piece.join (g.expand id n code) = String.join texts) ∧
      ((∀ name, .token name ∈ segments → ∀ s ∈ n.slots, (Text.sanitize s.name).toList ≠ name) →
        Piece.join (g.expand id n code) = code)) ∧
    (∀ more : String, ¬ CutsToken code.toList more.toList →
      Piece.join (g.expand id n (code ++ more)) =
        Piece.join (g.expand id n code) ++ Piece.join (g.expand id n more)) ∧
    ∀ s ∈ n.slots, Text.sanitize s.name ≠ "" ∧ ∀ more : String,
      (∀ c, more.toList.head? = some c → Text.isIdentifierChar c = false) →
      ∃ l l', IsCut (l ++ .token (Text.sanitize s.name).toList :: l')
          (code ++ "$" ++ Text.sanitize s.name ++ more).toList ∧
        l.flatMap Segment.chars = code.toList := by
  have hjoin := (isCut_cut code.toList).join_expandChars g id n
  refine ⟨⟨cut code.toList, fun l => isCut_iff, ⟨_, fun l => forall₂_standsFor_iff, hjoin⟩, ?_⟩,
    ?_, ?_⟩
  · exact fun hunnamed => join_expand_of_unnamed (isCut_cut code.toList) hunnamed
  · intro more happart
    rw [expand, String.toList_append, expandChars_append happart, Piece.join, List.map_append,
      String.join_append]
    rfl
  · intro s _
    refine ⟨fun hempty => sanitize_ne_nil s.name (by rw [hempty]; rfl), fun more hend => ?_⟩
    simpa using exists_isCut_identifier code.toList s.name hend

/-- A node of which one identifier starts another, and one belongs to two slots. -/
def probe : Node :=
  { Node.surface with
    name := "Probe"
    table := .ofList [⟨0, "A", .input, .float3, none⟩, ⟨2, "A B", .output, .float3, none⟩,
      ⟨3, "A-B", .input, .float3, none⟩, ⟨4, "C", .input, .float3, some "$A"⟩] }

/-- In the place of the upper selector of `stone`, the first input of the node is fed by the tint.
The longer name is read where both could be, a `$` without a name stays, and the placeholder that is
inserted at the end stays too. -/
theorem expand_tokens_probe :
    ¬ CutsToken "$A$A_B$".toList "$C".toList ∧
    Piece.join (stone.expand ⟨3, 1⟩ probe ("$A$A_B$" ++ "$C")) = "Tint_1_OutProbe_0_A_B$$A" ∧
    (∀ s ∈ probe.slots, (Text.sanitize s.name).toList ≠ "D".toList) ∧
    Piece.join (stone.expand ⟨3, 1⟩ probe "$D é") = "$D é" ∧
    ∃ l l', IsCut (l ++ .token "A_B".toList :: l') ("$D é" ++ "$" ++ "A_B" ++ ";").toList ∧
      l.flatMap Segment.chars = "$D é".toList := by
  have happart : ¬ CutsToken "$A$A_B$".toList "$C".toList := by
    rw [cutsToken_iff]
    rintro ⟨-, c, hc, hident⟩
    cases hc
    exact absurd hident (by decide)
  have hunnamed : ∀ s ∈ probe.slots, (Text.sanitize s.name).toList ≠ "D".toList := by decide
  obtain ⟨⟨segments, hcut, ⟨texts, hreads, hjoin⟩, -⟩, hsplit, -⟩ :=
    expand_tokens stone ⟨3, 1⟩ probe "$A$A_B$"
  obtain ⟨⟨segments', hcut', -, hself⟩, -, hslots⟩ := expand_tokens stone ⟨3, 1⟩ probe "$D é"
  have hsegments : [.token ['A'], .token ['A', '_', 'B'], .token []] = segments :=
    (hcut _).1 (isCut_iff.2 (by decide +kernel))
  have hsegments' : [.token ['D'], .text [' ', 'é']] = segments' :=
    (hcut' _).1 (isCut_iff.2 (by decide +kernel))
  refine ⟨happart, ?_, hunnamed, hself ?_, ?_⟩
  · have htexts : ["Tint_1_Out", "Probe_0_A_B", "$"] = texts := by
      refine (hreads _).1 (hsegments ▸ .cons ?_ (.cons ?_ (.cons ?_ .nil)))
      all_goals exact standsFor_iff.2 (by decide +kernel)
    rw [hsplit "$C" happart, hjoin, ← htexts]
    decide +kernel
  · intro name hname
    rw [← hsegments'] at hname
    simp only [List.mem_cons, Segment.token.injEq, reduceCtorEq, List.not_mem_nil,
      or_false] at hname
    rw [hname]
    exact hunnamed
  · refine (hslots ⟨2, "A B", .output, .float3, none⟩ (by decide)).2 ";" fun c hc => ?_
    cases hc
    decide

end MaterialGraph

end PassForge
