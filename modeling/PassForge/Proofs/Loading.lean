import PassForge.Proofs.Paths
import PassForge.Proofs.Walk
import PassForge.Template.Splice

/-!
# What a template can load

Rendering asks the store only in `load`, and only for paths that `Path.resolve` gives.  Two things
follow, each by going through the evaluator and the renderer once:

* the result depends on the store only at paths in normal form (`renderNested_congr`);
* whatever is loaded on the way is recorded under a path in normal form
  (`growsTo_of_renderNested`).

`paths_confined` puts them together with what is known of paths.
-/

namespace PassForge.Template

/-! ### Stores that agree -/

/-- Stores that have the same behind all paths in normal form. -/
def Store.Agree (store store' : Store) : Prop :=
  ∀ path, Path.normalize path = some path → store path = store' path

variable {m : Machine} {store store' : Store} {site : Site}

/-- An include is looked up under a path in normal form, or not at all. -/
theorem load_resolve_congr (h : store.Agree store') (name parent : String) (p : Progress) :
    load store (Path.resolve name parent) p = load store' (Path.resolve name parent) p := by
  unfold load
  rcases Path.normalize_resolve name parent with hpath | hpath
  · rw [hpath, h _ hpath]
  · rw [hpath]

theorem eval_withStore : eval { m with store := store } site = eval m site := by
  delta eval
  rfl

theorem evalArguments_withStore :
    evalArguments { m with store := store } site = evalArguments m site := by
  delta evalArguments
  rfl

theorem evalFilters_withStore (v : Value) (filters : List FilterCall) :
    evalFilters { m with store := store } site v filters = evalFilters m site v filters := by
  induction filters generalizing v with
  | nil => rfl
  | cons f rest ih =>
    simp only [evalFilters, evalArguments_withStore, ih]
    rfl

theorem setPart_withStore : setPart { m with store := store } site = setPart m site := by
  delta setPart
  rfl

mutual

theorem assignTo_withStore (value : Value) : ∀ target : Target,
    assignTo { m with store := store } site value target = assignTo m site value target
  | .name _ _ => rfl
  | .part line base path => by simp only [assignTo, setPart_withStore]
  | .group line targets => by
    simp only [assignTo, assignEach_withStore _ targets]
    rfl

theorem assignEach_withStore (values : List Value) : ∀ targets : List Target,
    assignEach { m with store := store } site values targets = assignEach m site values targets
  | [] => rfl
  | target :: rest => by
    cases values with
    | nil => rfl
    | cons value values =>
      simp only [assignEach, assignTo_withStore value target, assignEach_withStore values rest]

end

theorem selectItems_withStore :
    selectItems { m with store := store } site = selectItems m site := by
  unfold selectItems
  simp only [eval_withStore, assignTo_withStore]
  rfl

theorem renderRounds_withStore :
    renderRounds { m with store := store } site = renderRounds m site := by
  unfold renderRounds
  simp only [assignTo_withStore]

theorem embedFirst_congr (h : store.Agree m.store) {line : Nat} {optional : Bool}
    (tried : Option String) (choices : List Value) (p : Progress) :
    embedFirst { m with store := store } site line optional tried choices p =
      embedFirst m site line optional tried choices p := by
  induction choices generalizing tried p with
  | nil => cases tried <;> rfl
  | cons v rest ih =>
    simp only [embedFirst, load_resolve_congr h, ih]
    rfl

theorem embedValue_congr (h : store.Agree m.store) :
    embedValue { m with store := store } site = embedValue m site := by
  funext line optional v p
  exact embedFirst_congr h none _ p

theorem extendBy_congr (h : store.Agree m.store) :
    extendBy { m with store := store } site = extendBy m site := by
  funext line v p
  simp only [extendBy, load_resolve_congr h]

mutual

theorem renderStatement_congr (h : store.Agree m.store) (site : Site) : ∀ st : Statement,
    renderStatement { m with store := store } site st = renderStatement m site st
  | .text .. => rfl
  | .print line e => by
    funext p
    simp only [renderStatement, eval_withStore]
    rfl
  | .branch line test yes no => by
    funext p
    simp only [renderStatement, eval_withStore, renderBody_congr h site yes,
      renderBody_congr h site no]
    rfl
  | .each line target items test recursive body otherwise => by
    funext p
    simp only [renderStatement, eval_withStore, selectItems_withStore, renderRounds_withStore,
      renderBody_congr h _ body, renderBody_congr h site otherwise]
    rfl
  | .assign line target e => by
    funext p
    simp only [renderStatement, eval_withStore, assignTo_withStore]
  | .capture target filters body => by
    funext p
    simp only [renderStatement, renderBody_congr h site body, evalFilters_withStore,
      assignTo_withStore]
  | .scope line settings body => by
    funext p
    simp only [renderStatement, eval_withStore, assignTo_withStore, renderBody_congr h site body]
  | .filter filters body => by
    funext p
    simp only [renderStatement, renderBody_congr h site body, evalFilters_withStore]
    rfl
  | .escaping line mode body => by
    funext p
    simp only [renderStatement, eval_withStore, renderBody_congr h _ body]
    rfl
  | .discard line e => by
    funext p
    simp only [renderStatement, eval_withStore]
  | .embed line e optional => by
    funext p
    simp only [renderStatement, eval_withStore, embedValue_congr h]
  | .block .. => rfl
  | .extend line e => by
    funext p
    simp only [renderStatement, eval_withStore, extendBy_congr h]
  | .bring line e target => by
    funext p
    simp only [renderStatement, eval_withStore, embedValue_congr h, assignTo_withStore]
  | .bringNames line e names => by
    funext p
    simp only [renderStatement, eval_withStore, embedValue_congr h, assignTo_withStore]
  | .define .. => rfl
  | .callWith line call parameters body => by
    funext p
    simp only [renderStatement, eval_withStore]
    rfl

theorem renderBody_congr (h : store.Agree m.store) (site : Site) : ∀ body : List Statement,
    renderBody { m with store := store } site body = renderBody m site body
  | [] => rfl
  | st :: rest => by
    funext p
    simp only [renderBody, renderStatement_congr h site st, renderBody_congr h site rest]

end

theorem renderNested_congr (h : store.Agree store') (ctx : Context) (depth : Nat) :
    renderNested ctx store depth = renderNested ctx store' depth := by
  induction depth with
  | zero => rfl
  | succ depth ih =>
    funext site body p
    have hbody := renderBody_congr (m := ⟨ctx, store', renderNested ctx store' depth⟩) h site body
    simp only [renderNested, ih, hbody]

/-! ### What is loaded -/

/-- All that has been loaded between two moments has a path in normal form. -/
def Progress.GrowsTo (p q : Progress) : Prop :=
  ∃ new, q.loaded = p.loaded ++ new ∧ ∀ t ∈ new, Path.normalize t.path = some t.path

theorem Progress.GrowsTo.of_eq {p q : Progress} (h : q.loaded = p.loaded) : p.GrowsTo q :=
  ⟨[], by rw [h, List.append_nil], fun _ ht => absurd ht List.not_mem_nil⟩

theorem Progress.GrowsTo.refl (p : Progress) : p.GrowsTo p := .of_eq rfl

theorem Progress.GrowsTo.trans {p q r : Progress} (hpq : p.GrowsTo q) (hqr : q.GrowsTo r) :
    p.GrowsTo r := by
  obtain ⟨new, hq, hnew⟩ := hpq
  obtain ⟨newer, hr, hnewer⟩ := hqr
  refine ⟨new ++ newer, by rw [hr, hq, List.append_assoc], fun t ht => ?_⟩
  exact (List.mem_append.1 ht).elim (hnew t) (hnewer t)

theorem growsTo_of_load {name parent : String} {t : Loaded} {p q : Progress}
    (h : load store (Path.resolve name parent) p = .ok (t, q)) : p.GrowsTo q := by
  unfold load at h
  split at h
  · cases h
    exact .refl p
  · split at h
    · cases h
    · rename_i normal hnormal
      split at h
      · cases h
      · cases h
      · split at h
        · cases h
        · cases h
          refine ⟨_, rfl, fun t ht => ?_⟩
          obtain rfl := List.mem_singleton.1 ht
          exact (Path.normalize_resolve name parent).resolve_right (by simp [hnormal])

/-- An evaluation that loads templates only under paths in normal form. -/
def Grows {α : Type} (x : Evaluation α) : Prop := ∀ p a q, x p = .ok (a, q) → p.GrowsTo q

namespace Grows

variable {α β : Type} {x : Evaluation α} {f : α → Evaluation β}

theorem pure (a : α) : Grows (Pure.pure a) := by
  intro p b q h
  cases h
  exact .refl p

theorem bind (hx : Grows x) (hf : ∀ a, Grows (f a)) : Grows (x >>= f) := by
  intro p b q h
  obtain ⟨⟨a, r⟩, hr, hq⟩ := bind_eq_ok_iff.1 h
  exact (hx p a r hr).trans (hf a r b q hq)

theorem map (g : α → β) (hx : Grows x) : Grows (g <$> x) := by
  intro p b q h
  obtain ⟨⟨a, r⟩, hr, hq⟩ := bind_eq_ok_iff.1 h
  cases hq
  exact hx p a q hr

theorem ofResult (line : Nat) (x : Except EvalFault α) : Grows (site.ofResult line x) := by
  intro p a q h
  obtain ⟨b, -, hq⟩ := bind_eq_ok_iff.1 h
  cases hq
  exact .refl p

theorem fail (line : Nat) (fault : EvalFault) : Grows (site.fail line fault : Evaluation α) := by
  intro p a q h
  cases h

theorem look : Grows m.look := by
  intro p a q h
  cases h
  exact .refl p

theorem get : Grows (MonadState.get : Evaluation Progress) := by
  intro p a q h
  cases h
  exact .refl p

theorem modifyGet {change : Progress → α × Progress}
    (h : ∀ p, (change p).2.loaded = p.loaded) :
    Grows (MonadStateOf.modifyGet change : Evaluation α) := by
  intro p a q hq
  have hchange : change p = (a, q) := Except.ok.inj hq
  exact .of_eq (by rw [← h p, hchange])

end Grows

theorem Grows.modify {change : Progress → Progress} (h : ∀ p, (change p).loaded = p.loaded) :
    Grows (modify change : Evaluation PUnit) := .modifyGet h

/-! ### What evaluating loads -/

/-- What is nested loads templates only under paths in normal form. -/
def Machine.Grows (m : Machine) : Prop :=
  ∀ site body p q, m.inner site body p = .ok q → p.GrowsTo q

theorem growsTo_of_check {line : Nat} {p q : Progress} (h : site.check line p = .ok q) :
    p.GrowsTo q := by
  unfold Site.check at h
  split at h
  · cases h
  · cases h
    exact .refl p

theorem growsTo_of_enter {line : Nat} {scope : Scope} {p q : Progress}
    (h : site.enter line scope p = .ok q) : p.GrowsTo q := by
  obtain ⟨r, hr, hq⟩ := bind_eq_ok_iff.1 h
  cases hq
  have hgrows : p.GrowsTo r := growsTo_of_check hr
  exact hgrows

section Calling

variable (hm : m.Grows)

include hm

theorem growsTo_of_renderBlock {line : Nat} {name : String} {p q : Progress}
    (h : m.renderBlock site line name p = .ok q) : p.GrowsTo q := by
  unfold Machine.renderBlock at h
  simp only at h
  split at h
  · cases h
  · split at h
    · cases h
    · obtain ⟨r, hr, h⟩ := bind_eq_ok_iff.1 h
      obtain ⟨s, hs, h⟩ := bind_eq_ok_iff.1 h
      cases h
      have hgrows : p.GrowsTo s := (growsTo_of_enter hr).trans (hm _ _ _ _ hs)
      exact hgrows

theorem grows_blockText (line : Nat) (name : String) : Grows (m.blockText site line name) := by
  intro p a q h
  unfold Machine.blockText at h
  split at h
  · cases h
    exact .refl p
  · obtain ⟨r, hr, h⟩ := bind_eq_ok_iff.1 h
    cases h
    have hgrows : p.captured.GrowsTo r := growsTo_of_renderBlock hm hr
    exact hgrows

theorem grows_superText (line : Nat) : Grows (m.superText site line) := by
  intro p a q h
  unfold Machine.superText at h
  split at h
  · cases h
  · simp only at h
    split at h
    · cases h
    · obtain ⟨r, hr, h⟩ := bind_eq_ok_iff.1 h
      obtain ⟨s, hs, h⟩ := bind_eq_ok_iff.1 h
      cases h
      have hgrows : p.captured.GrowsTo s :=
        (growsTo_of_enter hr).trans (hm _ _ _ _ (mapError_eq_ok_iff.1 hs))
      exact hgrows

theorem grows_capture (body : List Statement) : Grows (m.capture site body) := by
  intro p a q h
  obtain ⟨r, hr, h⟩ := bind_eq_ok_iff.1 h
  cases h
  have hgrows : p.captured.GrowsTo r := hm _ _ _ _ hr
  exact hgrows

theorem grows_loopText (line : Nat) (v : Value) : Grows (m.loopText site line v) := by
  refine .bind .get fun p => ?_
  split
  · exact .fail _ _
  · exact .fail _ _
  · exact .bind (grows_capture hm _) fun text => .pure _

theorem grows_routineText (line : Nat) (r : Routine) (args : Arguments) :
    Grows (m.routineText site line r args) := by
  intro p a q h
  obtain ⟨values, -, h⟩ := bind_eq_ok_iff.1 h
  obtain ⟨-, -, h⟩ := bind_eq_ok_iff.1 h
  obtain ⟨s, hs, h⟩ := bind_eq_ok_iff.1 h
  cases h
  obtain ⟨new, hloaded, hnew⟩ := hm _ _ _ _ hs
  exact ⟨new, hloaded, hnew⟩

theorem grows_callValue (line : Nat) (v : Value) (args : Arguments) :
    Grows (callValue m site line v args) := by
  refine .bind .look fun s => ?_
  split
  · exact .ofResult _ _
  · exact .ofResult _ _
  · exact .pure _
  · exact .bind (.ofResult _ _) fun entries => .modifyGet fun p => rfl
  · split
    · exact grows_routineText hm _ _ _
    · exact .fail _ _
    · exact .fail _ _
  · exact .fail _ _

theorem grows_callPart (line : Nat) (target : Value) (name : String) (args : Arguments) :
    Grows (callPart m site line target name args) := by
  refine .bind .look fun s => ?_
  split
  · exact grows_callValue hm _ _ _
  · exact .fail _ _

theorem grows_callMethod (line : Nat) (target : Value) (name : String) (args : Arguments) :
    Grows (callMethod m site line target name args) := by
  unfold callMethod
  split
  · exact .ofResult _ _
  · refine .bind .get fun p => ?_
    split
    · refine .bind .look fun s => ?_
      simp only
      split
      · exact .bind (.modify fun p => rfl) fun _ => .pure _
      · exact .pure _
    · exact .pure _
    · exact grows_callPart hm _ _ _ _
  · exact grows_callPart hm _ _ _ _

theorem grows_callFunction (line : Nat) (name : String) (args : Arguments) :
    Grows (callFunction m site line name args) := by
  unfold callFunction
  split
  · split
    · exact grows_superText hm _
    · exact .fail _ _
  · refine .bind .get fun p => ?_
    split
    · split
      · exact grows_loopText hm _ _
      · exact .fail _ _
      · exact grows_callValue hm _ _ _
    · exact grows_callValue hm _ _ _
    · exact .fail _ _

end Calling

mutual

theorem grows_eval (hm : m.Grows) (line : Nat) : ∀ e : Expr, Grows (eval m site line e)
  | .literal _ _ => .pure _
  | .constant _ _ => .pure _
  | .omitted _ => .pure _
  | .name _ _ => by
    intro p a q h
    cases h
    exact .refl p
  | .list here items => .map _ (grows_evalAll hm here items)
  | .map here entries => .map _ (grows_evalEntries hm here entries)
  | .member target _ =>
    .bind (grows_eval hm line target) fun _ => .bind .look fun _ => .ofResult _ _
  | .item target key =>
    .bind (grows_eval hm line target) fun _ => .bind (grows_eval hm _ key) fun _ =>
      .bind .look fun _ => .ofResult _ _
  | .slice target first last step =>
    .bind (grows_eval hm line target) fun _ => .bind (grows_eval hm _ first) fun _ =>
      .bind (grows_eval hm _ last) fun _ => .bind (grows_eval hm _ step) fun _ => .ofResult _ _
  | .callFunction here _ args =>
    .bind (grows_evalArguments hm here _ args) fun _ => grows_callFunction hm _ _ _
  | .callMethod target _ args =>
    .bind (grows_eval hm line target) fun _ => .bind (grows_evalArguments hm _ _ args) fun _ =>
      grows_callMethod hm _ _ _ _
  | .callValue target args =>
    .bind (grows_eval hm line target) fun _ => .bind (grows_evalArguments hm _ _ args) fun _ =>
      grows_callValue hm _ _ _
  | .callBlock here name => grows_blockText hm here name
  | .recurse here items => .bind (grows_eval hm here items) fun v => grows_loopText hm here v
  | .unary _ _ operand =>
    .bind (grows_eval hm line operand) fun _ => .bind .look fun _ => .ofResult _ _
  | .binary op left right => by
    rw [eval]
    refine .bind (grows_eval hm line left) fun v => .bind .look fun _ =>
      .bind (.ofResult _ _) fun settled => ?_
    split
    · exact .pure v
    · refine .bind (grows_eval hm _ right) fun w => .bind .look fun _ => ?_
      split
      · exact .ofResult _ _
      · exact .ofResult _ _
  | .chain first rest =>
    .bind (grows_eval hm line first) fun v => .bind (grows_evalChain hm _ v rest) fun _ => .pure _
  | .choose condition yes no => by
    rw [eval]
    refine .bind (grows_eval hm line condition) fun v => .bind .look fun _ =>
      .bind (.ofResult _ _) fun holds => ?_
    split
    · exact grows_eval hm _ yes
    · exact grows_eval hm _ no
  | .filter target _ args =>
    .bind (grows_eval hm line target) fun _ => .bind (grows_evalArguments hm _ _ args) fun _ =>
      .bind .look fun _ => .ofResult _ _
  | .test target _ args =>
    .bind (grows_eval hm line target) fun _ => .bind (grows_evalArguments hm _ _ args) fun _ =>
      .bind .look fun _ => .bind (.ofResult _ _) fun _ => .pure _

theorem grows_evalAll (hm : m.Grows) (line : Nat) :
    ∀ items : List Expr, Grows (evalAll m site line items)
  | [] => .pure _
  | e :: rest =>
    .bind (grows_eval hm line e) fun _ => .bind (grows_evalAll hm _ rest) fun _ => .pure _

theorem grows_evalEntries (hm : m.Grows) (line : Nat) :
    ∀ entries : List (Expr × Expr), Grows (evalEntries m site line entries)
  | [] => .pure _
  | (k, e) :: rest =>
    .bind (grows_eval hm line k) fun _ => .bind (grows_eval hm _ e) fun _ =>
      .bind (grows_evalEntries hm _ rest) fun _ => .pure _

theorem grows_evalArguments (hm : m.Grows) (line : Nat) (args : Arguments) :
    ∀ passed : List (Passing × Expr), Grows (evalArguments m site line args passed)
  | [] => .pure _
  | (_, e) :: rest =>
    .bind (grows_eval hm line e) fun _ => .bind .look fun _ => .bind (.ofResult _ _) fun args =>
      grows_evalArguments hm _ args rest

theorem grows_evalChain (hm : m.Grows) (line : Nat) (v : Value) :
    ∀ rest : List (Comparison × Expr), Grows (evalChain m site line v rest)
  | [] => .pure _
  | (c, e) :: rest => by
    rw [evalChain]
    refine .bind (grows_eval hm line e) fun w => .bind .look fun _ =>
      .bind (.ofResult _ _) fun holds => ?_
    split
    · exact grows_evalChain hm _ w rest
    · exact .pure _

end

theorem grows_evalFilters (hm : m.Grows) (v : Value) (filters : List FilterCall) :
    Grows (evalFilters m site v filters) := by
  induction filters generalizing v with
  | nil => exact .pure _
  | cons f rest ih =>
    exact .bind (grows_evalArguments hm _ _ _) fun _ => .bind .look fun _ =>
      .bind (.ofResult _ _) fun w => ih w

theorem grows_setPart (line : Nat) (value : Value) :
    ∀ (path : List String) (target : Value), Grows (setPart m site line value path target)
  | [], _ => .pure _
  | [name], target => by
    rw [setPart]
    refine .bind .get fun p => ?_
    split
    · split
      · exact .modify fun p => rfl
      · exact .fail _ _
    · exact .fail _ _
  | name :: next :: rest, target => by
    rw [setPart]
    · exact .bind .look fun _ => .bind (.ofResult _ _) fun part =>
        grows_setPart line value (next :: rest) part
    · exact List.cons_ne_nil next rest

@[simp] theorem loaded_assign (p : Progress) (name : String) (value : Value) :
    (p.assign name value).loaded = p.loaded := by
  unfold Progress.assign
  split
  · rfl
  · split <;> rfl

mutual

theorem grows_assignTo (value : Value) : ∀ target : Target, Grows (assignTo m site value target)
  | .name _ name => .modify fun p => loaded_assign p name value
  | .part line _ path => .bind .get fun _ => grows_setPart line value path _
  | .group line targets => by
    rw [assignTo]
    refine .bind .look fun s => ?_
    split
    · exact .fail _ _
    · split
      · exact grows_assignEach _ targets
      · exact .fail _ _

theorem grows_assignEach (values : List Value) :
    ∀ targets : List Target, Grows (assignEach m site values targets)
  | [] => .pure _
  | target :: rest => by
    cases values with
    | nil => exact .pure _
    | cons value values =>
      exact .bind (grows_assignTo value target) fun _ => grows_assignEach values rest

end

/-! ### What rendering loads -/

theorem Grows.filterM {α : Type} {f : α → Evaluation Bool} (h : ∀ a, Grows (f a)) (items : List α) :
    Grows (items.filterM f) := by
  have haux : ∀ (items acc : List α), Grows (items.filterAuxM f acc) := by
    intro items
    induction items with
    | nil => exact fun acc => .pure acc
    | cons a items ih => exact fun acc => .bind (h a) fun _ => ih _
  exact .bind (haux items []) fun _ => .pure _

theorem growsTo_of_foldlM {α : Type} {f : Progress → α → Except RenderError Progress}
    (h : ∀ p a q, f p a = .ok q → p.GrowsTo q) {items : List α} {p q : Progress}
    (hfold : items.foldlM f p = .ok q) : p.GrowsTo q := by
  induction items generalizing p with
  | nil =>
    cases hfold
    exact .refl _
  | cons a items ih =>
    rw [List.foldlM_cons] at hfold
    obtain ⟨r, hr, hq⟩ := bind_eq_ok_iff.1 hfold
    exact (h p a r hr).trans (ih hq)

theorem loaded_withClosure (p : Progress) (closure : Option Nat) :
    (p.withClosure closure).loaded = p.loaded := by
  unfold Progress.withClosure
  split <;> rfl

theorem loaded_closure (p : Progress) : p.closure.2.loaded = p.loaded := by
  unfold Progress.closure
  split
  · rfl
  · split <;> rfl

theorem loaded_enclose (p : Progress) (names : List String) :
    (p.enclose names).2.loaded = p.loaded := by
  unfold Progress.enclose
  split
  · rfl
  · exact loaded_closure p

theorem loaded_defineRoutine (p : Progress) (template name : String)
    (parameters : List Parameter) (body : List Statement) :
    (p.defineRoutine template name parameters body).2.loaded = p.loaded :=
  loaded_enclose p _

@[simp] theorem loaded_write (p : Progress) (text : String) : (p.write text).loaded = p.loaded := by
  unfold Progress.write
  split <;> rfl

theorem growsTo_of_printValue {line : Nat} {v : Value} {p q : Progress}
    (h : printValue m site line v p = .ok q) : p.GrowsTo q := by
  obtain ⟨text, -, h⟩ := bind_eq_ok_iff.1 h
  cases h
  exact .of_eq (loaded_write p text)

theorem growsTo_of_extendBy {line : Nat} {v : Value} {p q : Progress}
    (h : extendBy m site line v p = .ok q) : p.GrowsTo q := by
  simp only [extendBy] at h
  split at h
  · cases h
  · split at h
    · cases h
    · split at h
      · cases h
      · obtain ⟨⟨t, r⟩, hload, h⟩ := bind_eq_ok_iff.1 h
        cases h
        have hgrows : p.GrowsTo r := growsTo_of_load hload
        exact hgrows

section Rendering

variable (hm : m.Grows)

include hm

theorem growsTo_of_embed {line : Nat} {t : Loaded} {p q : Progress}
    (h : embed m site line t p = .ok q) : p.GrowsTo q := by
  obtain ⟨-, -, h⟩ := bind_eq_ok_iff.1 h
  obtain ⟨r, hr, h⟩ := bind_eq_ok_iff.1 h
  cases h
  obtain ⟨new, hloaded, hnew⟩ := hm _ _ _ _ (mapError_eq_ok_iff.1 hr)
  refine ⟨new, ?_, hnew⟩
  simpa only [loaded_withClosure] using hloaded

theorem growsTo_of_embedFirst {line : Nat} {optional : Bool} {tried : Option String}
    {choices : List Value} {p q : Progress}
    (h : embedFirst m site line optional tried choices p = .ok q) : p.GrowsTo q := by
  induction choices generalizing tried p with
  | nil =>
    cases tried with
    | none =>
      cases h
      exact .refl _
    | some path =>
      rw [embedFirst] at h
      split at h
      · cases h
        exact .refl _
      · cases h
  | cons v rest ih =>
    rw [embedFirst] at h
    split at h
    · cases h
    · simp only at h
      split at h
      · rename_i t r hload
        exact (growsTo_of_load hload).trans (growsTo_of_embed hm h)
      · exact ih h
      · cases h

theorem growsTo_of_selectItems {line : Nat} {target : Target} {test : Expr}
    {items kept : List Value} {p q : Progress}
    (h : selectItems m site line target test items p = .ok (kept, q)) : p.GrowsTo q := by
  obtain ⟨r, hr, h⟩ := bind_eq_ok_iff.1 h
  obtain ⟨⟨kept', s⟩, hs, h⟩ := bind_eq_ok_iff.1 h
  cases h
  have hgrows : r.GrowsTo s := by
    refine Grows.filterM (fun item => ?_) items r kept s hs
    exact .bind (.modify fun p => rfl) fun _ => .bind (grows_assignTo _ _) fun _ =>
      .bind (grows_eval hm _ _) fun _ => .bind .look fun _ => .ofResult _ _
  exact (growsTo_of_enter hr).trans hgrows

end Rendering

theorem growsTo_of_renderRounds {line : Nat} {target : Target} {recursive counted : Bool}
    {items : List Value} {round : Progress → Except RenderError Progress} {p q : Progress}
    (hround : ∀ p q, round p = .ok q → p.GrowsTo q)
    (h : renderRounds m site line target recursive items counted round p = .ok q) :
    p.GrowsTo q := by
  obtain ⟨r, hr, h⟩ := bind_eq_ok_iff.1 h
  obtain ⟨s, hs, h⟩ := bind_eq_ok_iff.1 h
  cases h
  have hgrows : r.GrowsTo s := by
    have hrounds := growsTo_of_foldlM (fun p entry q hq => by
      obtain ⟨⟨⟨⟩, p'⟩, hassign, hq⟩ := bind_eq_ok_iff.1 hq
      have hassigned := grows_assignTo _ _ _ _ _ hassign
      have hstart : p.GrowsTo p' := hassigned
      exact hstart.trans (hround _ _ hq)) hs
    exact hrounds
  exact (growsTo_of_enter hr).trans hgrows

mutual

theorem growsTo_of_renderStatement (hm : m.Grows) (site : Site) :
    ∀ (st : Statement) {p q : Progress}, renderStatement m site st p = .ok q → p.GrowsTo q
  | .text _ content, p, q, h => by
    cases h
    exact .of_eq (loaded_write p content)
  | .print line e, p, q, h => by
    obtain ⟨⟨v, r⟩, hr, h⟩ := bind_eq_ok_iff.1 h
    exact (grows_eval hm _ _ _ _ _ hr).trans (growsTo_of_printValue h)
  | .branch line test yes no, p, q, h => by
    obtain ⟨⟨v, r⟩, hr, h⟩ := bind_eq_ok_iff.1 h
    obtain ⟨holds, -, h⟩ := bind_eq_ok_iff.1 h
    refine (grows_eval hm _ _ _ _ _ hr).trans ?_
    split at h
    · exact growsTo_of_renderBody hm site yes h
    · exact growsTo_of_renderBody hm site no h
  | .each line target items test recursive body otherwise, p, q, h => by
    obtain ⟨⟨v, r⟩, hr, h⟩ := bind_eq_ok_iff.1 h
    obtain ⟨all, -, h⟩ := bind_eq_ok_iff.1 h
    -- what is done with the items, with or without a test
    have hrounds : ∀ {selected : List Value} {counted : Bool} {inside : Site} {s : Progress},
        (if selected.isEmpty = true then
            (do renderBody m site otherwise (← site.check (items.lastLine line) s))
          else renderRounds m site (items.lastLine line) target recursive selected counted
            (renderBody m inside body) s) = .ok q → s.GrowsTo q := by
      intro selected counted inside s h
      split at h
      · obtain ⟨s', hs', h⟩ := bind_eq_ok_iff.1 h
        exact (growsTo_of_check hs').trans (growsTo_of_renderBody hm site otherwise h)
      · exact growsTo_of_renderRounds (fun _ _ => growsTo_of_renderBody hm inside body) h
    cases test with
    | none => exact (grows_eval hm _ _ _ _ _ hr).trans (hrounds h)
    | some test =>
      obtain ⟨⟨selected, s⟩, hs, h⟩ := bind_eq_ok_iff.1 h
      exact ((grows_eval hm _ _ _ _ _ hr).trans (growsTo_of_selectItems hm hs)).trans (hrounds h)
  | .assign line target e, p, q, h => by
    obtain ⟨⟨v, r⟩, hr, h⟩ := bind_eq_ok_iff.1 h
    obtain ⟨⟨⟨⟩, s⟩, hs, h⟩ := bind_eq_ok_iff.1 h
    cases h
    exact (grows_eval hm _ _ _ _ _ hr).trans (grows_assignTo _ _ _ _ _ hs)
  | .capture target filters body, p, q, h => by
    obtain ⟨r, hr, h⟩ := bind_eq_ok_iff.1 h
    obtain ⟨⟨v, s⟩, hs, h⟩ := bind_eq_ok_iff.1 h
    obtain ⟨⟨⟨⟩, t⟩, ht, h⟩ := bind_eq_ok_iff.1 h
    cases h
    have hbody : p.captured.GrowsTo r := growsTo_of_renderBody hm site body hr
    have hassign : (s.resumed p).GrowsTo q := grows_assignTo _ _ _ _ _ ht
    exact (hbody.trans (grows_evalFilters hm _ _ _ _ _ hs)).trans hassign
  | .scope line settings body, p, q, h => by
    obtain ⟨r, hr, h⟩ := bind_eq_ok_iff.1 h
    obtain ⟨s, hs, h⟩ := bind_eq_ok_iff.1 h
    obtain ⟨t, ht, h⟩ := bind_eq_ok_iff.1 h
    cases h
    have hsettings : r.GrowsTo s := by
      refine growsTo_of_foldlM (fun p entry q hq => ?_) hs
      obtain ⟨⟨v, p'⟩, hv, hq⟩ := bind_eq_ok_iff.1 hq
      obtain ⟨⟨⟨⟩, p''⟩, hassign, hq⟩ := bind_eq_ok_iff.1 hq
      cases hq
      exact (grows_eval hm _ _ _ _ _ hv).trans (grows_assignTo _ _ _ _ _ hassign)
    have hbody : s.GrowsTo t := growsTo_of_renderBody hm site body ht
    exact ((growsTo_of_enter hr).trans hsettings).trans hbody
  | .filter filters body, p, q, h => by
    obtain ⟨r, hr, h⟩ := bind_eq_ok_iff.1 h
    obtain ⟨⟨v, s⟩, hs, h⟩ := bind_eq_ok_iff.1 h
    have hbody : p.captured.GrowsTo r := growsTo_of_renderBody hm site body hr
    have hprint : (s.resumed p).GrowsTo q := growsTo_of_printValue h
    exact (hbody.trans (grows_evalFilters hm _ _ _ _ _ hs)).trans hprint
  | .escaping line mode body, p, q, h => by
    obtain ⟨⟨v, r⟩, hr, h⟩ := bind_eq_ok_iff.1 h
    obtain ⟨escaping, -, h⟩ := bind_eq_ok_iff.1 h
    exact (grows_eval hm _ _ _ _ _ hr).trans (growsTo_of_renderBody hm _ body h)
  | .discard line e, p, q, h => by
    obtain ⟨⟨v, r⟩, hr, h⟩ := bind_eq_ok_iff.1 h
    cases h
    exact grows_eval hm _ _ _ _ _ hr
  | .embed line e optional, p, q, h => by
    obtain ⟨⟨v, r⟩, hr, h⟩ := bind_eq_ok_iff.1 h
    exact (grows_eval hm _ _ _ _ _ hr).trans (growsTo_of_embedFirst hm h)
  | .block line name _ _, p, q, h => by
    rw [renderStatement] at h
    split at h
    · cases h
      exact .refl _
    · exact growsTo_of_renderBlock hm h
  | .extend line e, p, q, h => by
    obtain ⟨⟨v, r⟩, hr, h⟩ := bind_eq_ok_iff.1 h
    exact (grows_eval hm _ _ _ _ _ hr).trans (growsTo_of_extendBy h)
  | .bring line e target, p, q, h => by
    obtain ⟨r, hr, h⟩ := bind_eq_ok_iff.1 h
    obtain ⟨⟨v, s⟩, hs, h⟩ := bind_eq_ok_iff.1 h
    obtain ⟨t, ht, h⟩ := bind_eq_ok_iff.1 h
    obtain ⟨⟨⟨⟩, u⟩, hu, h⟩ := bind_eq_ok_iff.1 h
    cases h
    have hembed : p.captured.GrowsTo t :=
      ((growsTo_of_enter hr).trans (grows_eval hm _ _ _ _ _ hs)).trans (growsTo_of_embedFirst hm ht)
    have hassign : (t.leave.resumed p).GrowsTo q := grows_assignTo _ _ _ _ _ hu
    exact hembed.trans hassign
  | .bringNames line e names, p, q, h => by
    obtain ⟨r, hr, h⟩ := bind_eq_ok_iff.1 h
    obtain ⟨⟨v, s⟩, hs, h⟩ := bind_eq_ok_iff.1 h
    obtain ⟨t, ht, h⟩ := bind_eq_ok_iff.1 h
    have hembed : p.captured.GrowsTo t :=
      ((growsTo_of_enter hr).trans (grows_eval hm _ _ _ _ _ hs)).trans (growsTo_of_embedFirst hm ht)
    have hassign : (t.leave.resumed p).GrowsTo q := by
      refine growsTo_of_foldlM (fun p entry q hq => ?_) h
      obtain ⟨⟨⟨⟩, p'⟩, hassign, hq⟩ := bind_eq_ok_iff.1 hq
      cases hq
      exact grows_assignTo _ _ _ _ _ hassign
    exact hembed.trans hassign
  | .define _ name parameters body, p, q, h => by
    cases h
    exact .of_eq ((loaded_assign _ _ _).trans (loaded_defineRoutine p _ _ _ _))
  | .callWith line call parameters body, p, q, h => by
    obtain ⟨⟨v, r⟩, hr, h⟩ := bind_eq_ok_iff.1 h
    have hdefine : p.GrowsTo (p.defineRoutine site.template "caller" parameters body).2 :=
      .of_eq (loaded_defineRoutine p _ _ _ _)
    exact (hdefine.trans (grows_eval hm _ _ _ _ _ hr)).trans (growsTo_of_printValue h)

theorem growsTo_of_renderBody (hm : m.Grows) (site : Site) :
    ∀ (body : List Statement) {p q : Progress}, renderBody m site body p = .ok q → p.GrowsTo q
  | [], p, q, h => by
    cases h
    exact .refl _
  | st :: rest, p, q, h => by
    obtain ⟨r, hr, h⟩ := bind_eq_ok_iff.1 h
    exact (growsTo_of_renderStatement hm site st hr).trans (growsTo_of_renderBody hm site rest h)

end

/-- However deep things are nested, templates are loaded only under paths in normal form. -/
theorem growsTo_of_renderNested (ctx : Context) (store : Store) (depth : Nat) :
    ∀ {site : Site} {body : List Statement} {p q : Progress},
      renderNested ctx store depth site body p = .ok q → p.GrowsTo q := by
  induction depth with
  | zero =>
    intro site body p q h
    cases h
  | succ depth ih =>
    intro site body p q h
    have hm : Machine.Grows ⟨ctx, store, renderNested ctx store depth⟩ := fun _ _ _ _ => ih
    obtain ⟨r, hr, h⟩ := bind_eq_ok_iff.1 h
    have hbody : { p with parent := none }.GrowsTo r := growsTo_of_renderBody hm site body hr
    simp only at h
    split at h
    · -- the template that is extended
      obtain ⟨s, hs, h⟩ := bind_eq_ok_iff.1 h
      cases h
      have hparent := ih hs
      have hstart : r.GrowsTo s := hparent
      exact hbody.trans hstart
    · cases h
      exact hbody

/-! ### Splicing -/

/-- A spliced text has read the template it was asked for, and others under paths in normal form. -/
theorem exists_dependencies_of_splice {ctx : Context} {template : String} {spliced : Spliced}
    (h : splice store ctx template = .ok spliced) :
    ∃ included, spliced.dependencies = template :: included ∧
      ∀ path ∈ included, Path.normalize path = some path := by
  unfold splice at h
  split at h
  · cases h
  · split at h
    · cases h
    · cases h
    · split at h
      · cases h
      · split at h
        · cases h
        · rename_i body _ p hrender
          cases h
          obtain ⟨new, hloaded, hnew⟩ := growsTo_of_renderNested ctx store _ hrender
          refine ⟨new.map (·.path), ?_, ?_⟩
          · rw [hloaded]
            rfl
          · intro path hpath
            obtain ⟨t, ht, rfl⟩ := List.mem_map.1 hpath
            exact hnew t ht

/-- Splicing asks a store for the template, and otherwise only for paths in normal form. -/
theorem splice_congr {ctx : Context} {template : String}
    (htemplate : store template = store' template) (h : store.Agree store') :
    splice store ctx template = splice store' ctx template := by
  unfold splice render
  rw [htemplate, renderNested_congr h]

/-- **Template paths stay below the root.**  A path has no normal form if and only if at some point
more of its segments have gone back than there were ordinary ones.  A normal form consists of
ordinary segments, is its own normal form, and leads to the same below it as the path.  An include
resolves to a normal form unless it has none.  So splicing refuses a template without a normal form
unread, and asks the store otherwise for the template as it was named and for normal forms; and a
tree of files refuses such a path too, and gives out only the file at the segments of the normal
form. -/
theorem paths_confined :
    (∀ path : String, Path.normalize path = none ↔
      ∃ before, before <+: path.toList.splitOnP Path.isSeparator ∧
        before.countP Path.isOrdinary < before.countP Path.isParent) ∧
    (∀ path normal : String, Path.normalize path = some normal →
      (∃ segs, normal.toList = List.intercalate ['/'] segs ∧
        ∀ s ∈ segs, s ≠ [] ∧ s ≠ ['.'] ∧ s ≠ ['.', '.'] ∧ '/' ∉ s) ∧
      '\\' ∉ normal.toList ∧ Path.normalize normal = some normal ∧
      ∀ below : String,
        Path.normalize (path ++ "/" ++ below) = Path.normalize (normal ++ "/" ++ below)) ∧
    (∀ name parent : String,
      Path.normalize (Path.resolve name parent) = some (Path.resolve name parent) ∨
        Path.normalize (Path.resolve name parent) = none) ∧
    (∀ (ctx : Context) (template : String),
      (Path.normalize template = none → ∀ store,
        splice store ctx template = .error (.malformed (leavesRootMessage template))) ∧
      (∀ store store' : Store, store template = store' template → store.Agree store' →
        splice store ctx template = splice store' ctx template) ∧
      ∀ store spliced, splice store ctx template = .ok spliced →
        ∃ included, spliced.dependencies = template :: included ∧
          ∀ path ∈ included, Path.normalize path = some path) ∧
    (∀ (files : List (String × ByteArray)) (path : String),
      (Path.normalize path = none → Store.directory files path = .error (.leavesRoot path)) ∧
      (∀ normal, Path.normalize path = some normal →
        Store.directory files path = Store.directory files normal) ∧
      ∀ text, Store.directory files path = .ok (some text) → ∃ segs, Path.IsNormal segs ∧
        Path.normalize path = some (String.ofList (Path.join segs)) ∧
        ∃ file ∈ files, (file.1.splitOn "/").map String.toList = segs ∧
          String.fromUTF8? file.2 = some text) := by
  refine ⟨fun path => ?_, fun path normal h => ?_, Path.normalize_resolve, fun ctx template => ?_,
    fun files path => ?_⟩
  · rw [Path.normalize_eq_none_iff, ← Path.segments_eq_splitOnP]
    have hnone : Path.normalizeChars path.toList = none ↔
        Path.collapse [] (Path.segments path.toList) = none := Option.map_eq_none_iff
    rw [hnone, Path.collapse_eq_none_iff]
    simp only [List.length_nil, Nat.zero_add]
  · have hchars := Path.normalize_eq_some_iff.1 h
    obtain ⟨segs, -, hnormal, hjoin⟩ := Path.exists_of_normalizeChars hchars
    refine ⟨⟨segs, hjoin, fun s hs => ?_⟩, ?_, ?_, fun below => ?_⟩
    · obtain ⟨hne, hdot, hparent⟩ := Path.isOrdinary_iff.1 (hnormal s hs).1
      exact ⟨hne, hdot, hparent, fun hslash => absurd ((hnormal s hs).2 _ hslash) (by decide)⟩
    · rw [hjoin]
      exact Path.not_mem_join_of_isNormal hnormal
    · exact Path.normalize_eq_some_iff.2 (Path.normalizeChars_idem hchars)
    · have hbelow := Path.normalizeChars_append hchars below.toList
      simp only [Path.normalize, String.toList_append, List.append_assoc]
      exact congrArg (Option.map String.ofList) hbelow
  · refine ⟨fun h store => ?_, fun store store' => splice_congr,
      fun store spliced => exists_dependencies_of_splice⟩
    rw [splice, h]
  · exact ⟨Store.directory_of_normalize_eq_none, fun normal => Store.directory_of_normalize_eq_some,
      fun text => Store.exists_of_directory⟩

end PassForge.Template
