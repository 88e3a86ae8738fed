import PassForge.Proofs.PlainCode
import PassForge.Proofs.Scope
import PassForge.Proofs.StoreInvariant

/-!
# Variables and the nodes they belong to

The variable of an output is made of the name of its node, the serial of the node and the name of
the slot, with underscores between them.  Serials are distinct, so variables of different nodes
differ as long as the serial can be read back.  But the names may have underscores and digits of
their own.

* `Node.variableName_eq_iff`: the variables of two nodes are the same exactly if one can be read in
  two ways (`Node.ReadsAs`): the name of one node starts with name and serial of the other, and the
  slot of the other ends with the serial and the slot of the first.
* `Node.ReadsAs.exists_digit`: both of these names then have a digit.
* `MaterialGraph.variables_apart`: what this says of the nodes of a graph and of what an evaluation
  function declares.
* `MaterialGraph.variables_doubled`: two nodes with one variable, which is declared twice.
-/

namespace PassForge

/-! ### The parts of a variable -/

theorem underscore_not_mem_toString (k : Nat) : '_' ∉ (toString k).toList := by
  intro hmem
  exact absurd (isDigit_of_mem_toString hmem) (by decide)

theorem toList_toString_ne_nil (k : Nat) : (toString k).toList ≠ [] := by
  rw [Nat.toString_eq_ofList_toDigits, String.toList_ofList]
  exact Nat.toDigits_ne_nil

theorem eq_of_toList_toString_eq {k k' : Nat} (h : (toString k).toList = (toString k').toList) :
    k = k' := by
  simp only [Nat.toString_eq_ofList_toDigits, String.toList_ofList] at h
  have hread := congrArg (fun digits => Nat.ofDigitChars 10 digits 0) h
  simpa only [Nat.ofDigitChars_ten_toDigits] using hread

theorem isDigit_of_head?_sanitize {name : String} {c : Char}
    (h : (Text.sanitize name).toList.head? = some c) : c.isDigit = false := by
  rw [Text.sanitize, String.toList_ofList] at h
  unfold Text.sanitizeChars at h
  simp only at h
  split at h
  · cases h
    decide
  · split at h
    · cases h
      decide
    · rename_i hc
      cases h
      simpa using hc

/-! ### Texts that can be read in two ways -/

section Joined

variable {a b d e t u : List Char}

theorem eq_of_append_underscore_eq (hd : '_' ∉ d) (he : '_' ∉ e)
    (h : d ++ '_' :: t = e ++ '_' :: u) : d = e := by
  rcases of_append_eq_append_cons h with ⟨post, hpost⟩ | ⟨pre, hpre, hrest⟩
  · exact absurd (by simp [hpost]) hd
  · cases pre with
    | nil => rw [hpre, List.append_nil]
    | cons x pre =>
      obtain ⟨rfl, -⟩ := List.cons.inj hrest
      exact absurd (by simp [hpre]) he

/-- What is in front of the second number starts with the first one, if it does not end at the same
place. -/
theorem exists_between {c : List Char} (hd : '_' ∉ d) (he : '_' ∉ e)
    (hdigit : ∀ c ∈ e, c.isDigit = true) (hene : e ≠ [])
    (ht : ∀ c, t.head? = some c → c.isDigit = false) (hne : d ≠ e)
    (h : '_' :: (d ++ '_' :: t) = c ++ '_' :: (e ++ '_' :: u)) :
    ∃ middle, c = '_' :: (d ++ '_' :: middle) ∧ t = middle ++ '_' :: (e ++ '_' :: u) := by
  cases c with
  | nil =>
    obtain ⟨-, hrest⟩ := List.cons.inj h
    exact absurd (eq_of_append_underscore_eq hd he hrest) hne
  | cons x c =>
    obtain ⟨rfl, hrest⟩ := List.cons.inj h
    rcases of_append_eq_append_cons hrest with ⟨post, hpost⟩ | ⟨pre, rfl, hpre⟩
    · exact absurd (by simp [hpost]) hd
    · cases pre with
      | nil =>
        -- the second number would stand at the start of an identifier
        obtain ⟨-, rfl⟩ := List.cons.inj hpre
        obtain ⟨x, e, rfl⟩ := List.exists_cons_of_ne_nil hene
        have hx := ht x rfl
        rw [hdigit x List.mem_cons_self] at hx
        cases hx
      | cons x middle =>
        obtain ⟨rfl, rfl⟩ := List.cons.inj hpre
        exact ⟨middle, rfl, rfl⟩

end Joined

namespace Node

variable {n n' : Node} {s s' : Slot}

theorem toList_variableName (n : Node) (s : Slot) : (n.variableName s).toList =
    (Text.sanitize n.name).toList ++
      '_' :: ((toString n.serial).toList ++ '_' :: (Text.sanitize s.name).toList) := by
  simp [variableName]

/-- The variable of a slot of `n` can also be read as one of `n'`: the name of `n'` starts with name
and serial of `n`, the name of the slot ends with serial and slot of `n'`, and what is left of the
two is the same. -/
def ReadsAs (n : Node) (s : Slot) (n' : Node) (s' : Slot) : Prop :=
  ∃ middle, Text.sanitize n'.name =
      Text.sanitize n.name ++ "_" ++ toString n.serial ++ "_" ++ middle ∧
    Text.sanitize s.name = middle ++ "_" ++ toString n'.serial ++ "_" ++ Text.sanitize s'.name

theorem ReadsAs.variableName_eq (h : n.ReadsAs s n' s') :
    n.variableName s = n'.variableName s' := by
  obtain ⟨middle, hname, hslot⟩ := h
  simp only [variableName, hname, hslot, String.append_assoc]

/-- If one variable starts with the node's name of another, and they are equal, the first can be
read as the second. -/
theorem readsAs_of_append (hserial : n.serial ≠ n'.serial) {c : List Char}
    (hname : (Text.sanitize n'.name).toList = (Text.sanitize n.name).toList ++ c)
    (h : '_' :: ((toString n.serial).toList ++ '_' :: (Text.sanitize s.name).toList) =
      c ++ '_' :: ((toString n'.serial).toList ++ '_' :: (Text.sanitize s'.name).toList)) :
    n.ReadsAs s n' s' := by
  have hdigits : (toString n.serial).toList ≠ (toString n'.serial).toList :=
    fun heq => hserial (eq_of_toList_toString_eq heq)
  obtain ⟨middle, rfl, hslot⟩ := exists_between (underscore_not_mem_toString _)
    (underscore_not_mem_toString _) (fun _ => isDigit_of_mem_toString) (toList_toString_ne_nil _)
    (fun _ => isDigit_of_head?_sanitize) hdigits h
  refine ⟨String.ofList middle, String.toList_inj.1 ?_, String.toList_inj.1 ?_⟩
  · simp [hname]
  · simp [hslot]

/-- **Variables of two nodes are the same** exactly if one can be read in two ways. -/
theorem variableName_eq_iff (hserial : n.serial ≠ n'.serial) :
    n.variableName s = n'.variableName s' ↔ n.ReadsAs s n' s' ∨ n'.ReadsAs s' n s := by
  constructor
  · intro h
    have hlist := congrArg String.toList h
    rw [toList_variableName, toList_variableName] at hlist
    -- one of the nodes has the shorter name
    rcases List.append_eq_append_iff.1 hlist with ⟨c, hname, hrest⟩ | ⟨c, hname, hrest⟩
    · exact .inl (readsAs_of_append hserial hname hrest)
    · exact .inr (readsAs_of_append hserial.symm hname hrest)
  · rintro (h | h)
    · exact h.variableName_eq
    · exact h.variableName_eq.symm

/-- A serial in the middle of a name is a digit of the name. -/
theorem exists_digit_of_sanitize_eq {name before after : String} {k : Nat}
    (h : Text.sanitize name = before ++ "_" ++ toString k ++ "_" ++ after) :
    ∃ c ∈ name.toList, c.isDigit = true := by
  obtain ⟨c, hc⟩ := List.exists_mem_of_ne_nil _ (toList_toString_ne_nil k)
  have hmem : c ∈ (Text.sanitize name).toList := by
    simp only [h, String.toList_append, List.mem_append]
    exact .inl (.inl (.inr hc))
  rcases eq_or_mem_of_mem_sanitize hmem with rfl | ⟨hname, -⟩
  · exact absurd hc (underscore_not_mem_toString k)
  · exact ⟨c, hname, isDigit_of_mem_toString hc⟩

/-- Where a variable can be read in two ways, the name of a node and that of a slot have digits. -/
theorem ReadsAs.exists_digit (h : n.ReadsAs s n' s') :
    (∃ c ∈ n'.name.toList, c.isDigit = true) ∧ ∃ c ∈ s.name.toList, c.isDigit = true := by
  obtain ⟨middle, hname, hslot⟩ := h
  exact ⟨exists_digit_of_sanitize_eq hname, exists_digit_of_sanitize_eq hslot⟩

end Node

/-! ### The nodes of a graph -/

namespace MaterialGraph

theorem mem_nodeBody_declare_iff {g : MaterialGraph} {id : NodeId} {n : Node} {active : KeywordSet}
    {type : ValueType} {x : String} : .declare type x ∈ g.nodeBody id n active ↔
      ∃ s ∈ n.outputs, s.type = type ∧ n.variableName s = x := by
  have hcompute : BodyStatement.declare type x ∉ g.compute id n active := by
    unfold compute
    cases n.code <;> simp
  simp [nodeBody, hcompute]

/-- **The variables of two nodes.**  Two nodes of a graph built step by step have different serials.
An output of one has the variable of an output of the other exactly if this variable can be read in
two ways; and exactly if there are such outputs, the statements of both nodes declare one variable.
There are none if the names of both nodes, or those of both outputs, are without digits. -/
theorem variables_apart (steps : List GraphStep) {id id' : NodeId} (hne : id ≠ id') {n n' : Node}
    (hn : (build steps).node? id = some n) (hn' : (build steps).node? id' = some n') :
    n.serial ≠ n'.serial ∧
    (∀ s ∈ n.outputs, ∀ s' ∈ n'.outputs,
      n.variableName s = n'.variableName s' ↔ n.ReadsAs s n' s' ∨ n'.ReadsAs s' n s) ∧
    (∀ active, (∃ x type type', .declare type x ∈ (build steps).nodeBody id n active ∧
        .declare type' x ∈ (build steps).nodeBody id' n' active) ↔
      ∃ s ∈ n.outputs, ∃ s' ∈ n'.outputs, n.ReadsAs s n' s' ∨ n'.ReadsAs s' n s) ∧
    ∀ s ∈ n.outputs, ∀ s' ∈ n'.outputs,
      (∀ c ∈ n.name.toList ++ n'.name.toList, c.isDigit = false) ∨
        (∀ c ∈ s.name.toList ++ s'.name.toList, c.isDigit = false) →
      n.variableName s ≠ n'.variableName s' := by
  have hserial : n.serial ≠ n'.serial :=
    fun heq => hne ((consistent_build steps).serial_inj id id' n n' hn hn' heq)
  refine ⟨hserial, fun s _ s' _ => Node.variableName_eq_iff hserial, fun active => ?_,
    fun s _ s' _ hdigits heq => ?_⟩
  · simp only [mem_nodeBody_declare_iff]
    constructor
    · rintro ⟨x, type, type', ⟨s, hs, -, hx⟩, ⟨s', hs', -, hx'⟩⟩
      exact ⟨s, hs, s', hs', (Node.variableName_eq_iff hserial).1 (hx.trans hx'.symm)⟩
    · rintro ⟨s, hs, s', hs', hreads⟩
      have heq := (Node.variableName_eq_iff hserial).2 hreads
      exact ⟨_, _, _, ⟨s, hs, rfl, rfl⟩, ⟨s', hs', rfl, heq.symm⟩⟩
  · -- a digit in the name of a node, and one in the name of an output
    have hfound : (∃ c ∈ n.name.toList ++ n'.name.toList, c.isDigit = true) ∧
        ∃ c ∈ s.name.toList ++ s'.name.toList, c.isDigit = true := by
      rcases (Node.variableName_eq_iff hserial).1 heq with h | h
      · obtain ⟨⟨c, hc, hdigit⟩, d, hd, hdigit'⟩ := h.exists_digit
        exact ⟨⟨c, by simp [hc], hdigit⟩, d, by simp [hd], hdigit'⟩
      · obtain ⟨⟨c, hc, hdigit⟩, d, hd, hdigit'⟩ := h.exists_digit
        exact ⟨⟨c, by simp [hc], hdigit⟩, d, by simp [hd], hdigit'⟩
    obtain ⟨⟨c, hc, hdigit⟩, d, hd, hdigit'⟩ := hfound
    rcases hdigits with hnone | hnone
    · exact absurd hdigit (by simp [hnone c hc])
    · exact absurd hdigit' (by simp [hnone d hd])

/-- The tint and the detail of `stone`: no name has a digit, so their outputs have different
variables. -/
theorem variables_apart_stone :
    (⟨1, 3⟩ : NodeId) ≠ ⟨2, 1⟩ ∧ ∃ n n', stone.node? ⟨1, 3⟩ = some n ∧
      stone.node? ⟨2, 1⟩ = some n' ∧ n.serial ≠ n'.serial ∧ n.outputs ≠ [] ∧ n'.outputs ≠ [] ∧
      ∀ s ∈ n.outputs, ∀ s' ∈ n'.outputs, n.variableName s ≠ n'.variableName s' := by
  have hne : (⟨1, 3⟩ : NodeId) ≠ ⟨2, 1⟩ := by decide
  have htint : (build stoneSteps).node? ⟨1, 3⟩ = some { Node.tint with serial := 1 } := rfl
  have hdetail : (build stoneSteps).node? ⟨2, 1⟩ = some
      { Node.selector "Detail" [⟨"_", 0⟩, ⟨"WET", 1⟩] { normal := .ofBits 4 } with serial := 2 } :=
    rfl
  have hdigits : ("Tint".toList ++ "Detail".toList).all (fun c => !c.isDigit) = true := by decide
  obtain ⟨hserial, -, -, hapart⟩ := variables_apart stoneSteps hne htint hdetail
  refine ⟨hne, _, _, htint, hdetail, hserial, by decide, by decide, fun s hs s' hs' => ?_⟩
  refine hapart s hs s' hs' (.inl fun c hc => ?_)
  simpa using List.all_eq_true.1 hdigits c hc

/-! ### One variable for two nodes -/

/-- A node with one output. -/
def constant (name output : String) : Node :=
  { Node.surface with name := name, table := .ofList [⟨0, output, .output, .float3, none⟩] }

/-- A material of two constants whose names run into each other. -/
def doubled : MaterialGraph := build [
  .add (constant "Tint" "Mix_1_Out"), .add (constant "Tint_0_Mix" "Out"), .add .surface,
  .connect ⟨⟨1, 1⟩, 0⟩ ⟨⟨3, 1⟩, 0⟩, .connect ⟨⟨2, 1⟩, 0⟩ ⟨⟨3, 1⟩, 1⟩]

/-- **Two nodes can have one variable.**  `Tint`, the first node, has an output `Mix_1_Out`, and the
second node is `Tint_0_Mix` and has an output `Out`.  An evaluation function of both declares their
variable twice. -/
theorem variables_doubled :
    (∃ n n', doubled.node? ⟨1, 1⟩ = some n ∧ doubled.node? ⟨2, 1⟩ = some n' ∧
      ∃ s ∈ n.outputs, ∃ s' ∈ n'.outputs, n.variableName s = n'.variableName s') ∧
    doubled.walk ⟨3, 1⟩ ⟨some [0, 1], some ∅⟩ = .ok [⟨1, 1⟩, ⟨2, 1⟩, ⟨3, 1⟩] ∧
    (doubled.evaluationBody ⟨3, 1⟩ [⟨1, 1⟩, ⟨2, 1⟩, ⟨3, 1⟩] [0, 1] ∅ Stage.pixel.names).count
      (.declare .float3 "Tint_0_Mix_1_Out") = 2 := by
  have hfirst : doubled.node? ⟨1, 1⟩ = some { constant "Tint" "Mix_1_Out" with serial := 0 } := rfl
  have hsecond : doubled.node? ⟨2, 1⟩ = some { constant "Tint_0_Mix" "Out" with serial := 1 } := rfl
  refine ⟨⟨_, _, hfirst, hsecond, ⟨0, "Mix_1_Out", .output, .float3, none⟩, by decide,
    ⟨0, "Out", .output, .float3, none⟩, by decide, by decide⟩, by cbv, by decide⟩

end MaterialGraph

end PassForge
