import Mathlib.Logic.Relation
import PassForge.DepthFirst

/-!
# The depth-first order, recursively

`order` works on a stack.  `Visits` says the same as a recursion: to visit the items of a list is to
pass over those that have been met, and for any other to mark it, to visit what it leads to, and to
list it.  `run_of_visits` and `exists_visits` say that the two agree, so that what is known of a
search is shown by induction over its visits:

* `Visits.mem_iff`: the items listed are those that can be reached on a path of items that had not
  been met;
* `Visits.nodup`, `Visits.not_mem_met`: each of them is listed once, and none of those met before;
* `Visits.ready`: without circles, an item is listed after all that it leads to;
* `Visits.congr`: only what the listed items lead to matters.

`order_eq` carries them over to `order`.
-/

namespace PassForge.DepthFirst

variable {α : Type}

/-- One step of a path that keeps away from the items of `avoided`. -/
def Leads (next : α → List α) (avoided : List α) (a b : α) : Prop := b ∈ next a ∧ b ∉ avoided

section

variable {next : α → List α} {avoided avoided' : List α} {a b : α}

theorem Leads.mono (hsub : ∀ x ∈ avoided, x ∈ avoided') (h : Leads next avoided' a b) :
    Leads next avoided a b :=
  ⟨h.1, fun hb => h.2 (hsub b hb)⟩

theorem Leads.path_mono (hsub : ∀ x ∈ avoided, x ∈ avoided')
    (h : Relation.ReflTransGen (Leads next avoided') a b) :
    Relation.ReflTransGen (Leads next avoided) a b :=
  h.lift id fun _ _ hl => hl.mono hsub

theorem Leads.circle_mono (hsub : ∀ x ∈ avoided, x ∈ avoided')
    (h : Relation.TransGen (Leads next avoided') a b) :
    Relation.TransGen (Leads next avoided) a b :=
  h.lift id fun _ _ hl => hl.mono hsub

end

/-- Visiting the items of a list in turn, where `met` have been met, lists `new`; then `met'` have
been met. -/
inductive Visits (next : α → List α) :
    (met items new met' : List α) → Prop
  /-- Nothing is left to visit. -/
  | nil {met : List α} : Visits next met [] [] met
  /-- An item that has been met is passed over. -/
  | skip {met items new met' : List α} {a : α} (hmet : a ∈ met)
      (rest : Visits next met items new met') : Visits next met (a :: items) new met'
  /-- Any other item is listed after what it leads to. -/
  | enter {met items inner met₁ new met₂ : List α} {a : α} (hmet : a ∉ met)
      (below : Visits next (a :: met) (next a) inner met₁)
      (rest : Visits next met₁ items new met₂) :
      Visits next met (a :: items) (inner ++ a :: new) met₂

/-- Every item of a list leads only to items before it, or to those of `done`. -/
def Ready (next : α → List α) : (done items : List α) → Prop
  | _, [] => True
  | done, a :: items => (∀ b ∈ next a, b ∈ done) ∧ Ready next (a :: done) items

/-! ### Lists in which every item is ready -/

variable {next next' : α → List α} {done done' met items new met' : List α} {a b : α}

theorem Ready.weaken (h : Ready next done items)
    (hsub : ∀ x ∈ items, ∀ b ∈ next x, b ∈ done → b ∈ done') : Ready next done' items := by
  induction items generalizing done done' with
  | nil => trivial
  | cons a items ih =>
    refine ⟨fun b hb => hsub a List.mem_cons_self b hb (h.1 b hb), ih h.2 ?_⟩
    intro x hx b hb hdone
    rcases List.mem_cons.1 hdone with rfl | hdone
    · exact List.mem_cons_self
    · exact List.mem_cons_of_mem _ (hsub x (List.mem_cons_of_mem _ hx) b hb hdone)

theorem Ready.append {more : List α} (h : Ready next done items)
    (hmore : Ready next (items ++ done) more) : Ready next done (items ++ more) := by
  induction items generalizing done with
  | nil => exact hmore
  | cons a items ih =>
    refine ⟨h.1, ih h.2 (hmore.weaken fun _ _ b _ hb => ?_)⟩
    simp only [List.cons_append, List.mem_cons, List.mem_append] at hb ⊢
    exact or_left_comm.1 hb

theorem Ready.mem_before {before after : List α} (h : Ready next done (before ++ a :: after))
    (hb : b ∈ next a) : b ∈ done ∨ b ∈ before := by
  induction before generalizing done with
  | nil => exact .inl (h.1 b hb)
  | cons c before ih =>
    rcases ih h.2 with hd | hbefore
    · rcases List.mem_cons.1 hd with rfl | hd
      · exact .inr List.mem_cons_self
      · exact .inl hd
    · exact .inr (List.mem_cons_of_mem _ hbefore)

/-! ### What visits do -/

namespace Visits

theorem mem_met' (h : Visits next met items new met') {x : α} :
    x ∈ met' ↔ x ∈ met ∨ x ∈ new := by
  induction h with
  | nil => simp
  | skip _ _ ih => exact ih
  | enter _ _ _ ihbelow ihrest =>
    rw [ihrest, ihbelow]
    grind

theorem mem_met'_of_mem (h : Visits next met items new met') (ha : a ∈ items) : a ∈ met' := by
  induction h with
  | nil => exact absurd ha List.not_mem_nil
  | skip hmet rest ih =>
    rcases List.mem_cons.1 ha with rfl | ha
    · exact rest.mem_met'.2 (.inl hmet)
    · exact ih ha
  | enter hmet below rest _ ihrest =>
    rcases List.mem_cons.1 ha with rfl | ha
    · exact rest.mem_met'.2 (.inl (below.mem_met'.2 (.inl List.mem_cons_self)))
    · exact ihrest ha

theorem not_mem_met (h : Visits next met items new met') (ha : a ∈ new) : a ∉ met := by
  induction h with
  | nil => exact absurd ha List.not_mem_nil
  | skip _ _ ih => exact ih ha
  | enter hmet below rest ihbelow ihrest =>
    rcases List.mem_append.1 ha with ha | ha
    · exact fun hm => ihbelow ha (List.mem_cons_of_mem _ hm)
    · rcases List.mem_cons.1 ha with rfl | ha
      · exact hmet
      · exact fun hm => ihrest ha (below.mem_met'.2 (.inl (List.mem_cons_of_mem _ hm)))

theorem nodup (h : Visits next met items new met') : new.Nodup := by
  induction h with
  | nil => exact List.nodup_nil
  | skip _ _ ih => exact ih
  | enter hmet below rest ihbelow ihrest =>
    -- what is listed below an item, the item itself and what is listed later are kept apart by
    -- the items met in between
    refine List.nodup_append.2 ⟨ihbelow, List.nodup_cons.2 ⟨fun ha => ?_, ihrest⟩, ?_⟩
    · exact rest.not_mem_met ha (below.mem_met'.2 (.inl List.mem_cons_self))
    · rintro x hx y hy rfl
      rcases List.mem_cons.1 hy with rfl | hy
      · exact below.not_mem_met hx List.mem_cons_self
      · exact rest.not_mem_met hy (below.mem_met'.2 (.inr hx))

theorem mem_met'_of_mem_next (h : Visits next met items new met') (ha : a ∈ new)
    (hb : b ∈ next a) : b ∈ met' := by
  induction h with
  | nil => exact absurd ha List.not_mem_nil
  | skip _ _ ih => exact ih ha
  | enter hmet below rest ihbelow ihrest =>
    rcases List.mem_append.1 ha with ha | ha
    · exact rest.mem_met'.2 (.inl (ihbelow ha))
    · rcases List.mem_cons.1 ha with rfl | ha
      · exact rest.mem_met'.2 (.inl (below.mem_met'_of_mem hb))
      · exact ihrest ha

theorem exists_path (h : Visits next met items new met') (hb : b ∈ new) :
    ∃ a ∈ items, a ∉ met ∧ Relation.ReflTransGen (Leads next met) a b := by
  induction h with
  | nil => exact absurd hb List.not_mem_nil
  | skip _ _ ih =>
    obtain ⟨a, ha, hpath⟩ := ih hb
    exact ⟨a, List.mem_cons_of_mem _ ha, hpath⟩
  | @enter met items inner met₁ new met₂ c hmet below rest ihbelow ihrest =>
    have hsub : ∀ x ∈ met, x ∈ met₁ := fun x hx =>
      below.mem_met'.2 (.inl (List.mem_cons_of_mem _ hx))
    rcases List.mem_append.1 hb with hb | hb
    · obtain ⟨a, ha, hamet, hpath⟩ := ihbelow hb
      have hsub' : ∀ x ∈ met, x ∈ c :: met := fun x hx => List.mem_cons_of_mem _ hx
      exact ⟨c, List.mem_cons_self, hmet,
        .head ⟨ha, fun h => hamet (hsub' a h)⟩ (Leads.path_mono hsub' hpath)⟩
    · rcases List.mem_cons.1 hb with rfl | hb
      · exact ⟨b, List.mem_cons_self, hmet, .refl⟩
      · obtain ⟨a, ha, hamet, hpath⟩ := ihrest hb
        exact ⟨a, List.mem_cons_of_mem _ ha, fun h => hamet (hsub a h),
          Leads.path_mono hsub hpath⟩

/-- **The items listed** are those that can be reached from one that is visited, on a path that
keeps away from the items met before. -/
theorem mem_iff (h : Visits next met items new met') :
    b ∈ new ↔ ∃ a ∈ items, a ∉ met ∧ Relation.ReflTransGen (Leads next met) a b := by
  refine ⟨h.exists_path, ?_⟩
  rintro ⟨a, ha, hamet, hpath⟩
  induction hpath with
  | refl => exact (h.mem_met'.1 (h.mem_met'_of_mem ha)).resolve_left hamet
  | tail _ hstep ih => exact (h.mem_met'.1 (h.mem_met'_of_mem_next ih hstep.1)).resolve_left hstep.2

/-- **Without circles, what an item leads to is listed before it.** -/
theorem ready (h : Visits next met items new met')
    (hacyclic : ∀ x ∈ new, ¬ Relation.TransGen (Leads next met) x x) : Ready next met new := by
  induction h with
  | nil => trivial
  | skip _ _ ih => exact ih hacyclic
  | @enter met items inner met₁ new met₂ a hmet below rest ihbelow ihrest =>
    have hsub : ∀ x ∈ met, x ∈ a :: met := fun x hx => List.mem_cons_of_mem _ hx
    have hsub₁ : ∀ x ∈ met, x ∈ met₁ := fun x hx => below.mem_met'.2 (.inl (hsub x hx))
    have ha := hacyclic a (List.mem_append_right _ List.mem_cons_self)
    have hinner := ihbelow fun x hx hcircle =>
      hacyclic x (List.mem_append_left _ hx) (Leads.circle_mono hsub hcircle)
    have hnew := ihrest fun x hx hcircle =>
      hacyclic x (List.mem_append_right _ (List.mem_cons_of_mem _ hx))
        (Leads.circle_mono hsub₁ hcircle)
    -- nothing listed below `a` leads back to `a`, and `a` does not lead to itself
    have hback : ∀ x ∈ inner, ∀ b ∈ next x, b ∈ a :: met → b ∈ met := by
      intro x hx b hb hmem
      rcases List.mem_cons.1 hmem with rfl | hmem
      · obtain ⟨c, hc, hcmet, hpath⟩ := below.exists_path hx
        have hto : Relation.ReflTransGen (Leads next met) b x :=
          .head ⟨hc, fun h => hcmet (hsub c h)⟩ (Leads.path_mono hsub hpath)
        exact absurd (Relation.TransGen.tail' hto ⟨hb, hmet⟩) ha
      · exact hmem
    refine (hinner.weaken hback).append ⟨fun b hb => ?_, hnew.weaken fun _ _ b _ hb => ?_⟩
    · rcases below.mem_met'.1 (below.mem_met'_of_mem hb) with h | h
      · rcases List.mem_cons.1 h with rfl | h
        · exact absurd (Relation.TransGen.single ⟨hb, hmet⟩) ha
        · exact List.mem_append_right _ h
      · exact List.mem_append_left _ h
    · have hmem := below.mem_met'.1 hb
      grind

/-- An item that had not been met is listed last, if it is all there is to visit. -/
theorem exists_eq_append_singleton (h : Visits next met [a] new met') (ha : a ∉ met) :
    ∃ before, new = before ++ [a] := by
  cases h with
  | skip hmet _ => exact absurd hmet ha
  | enter _ _ rest =>
    cases rest with
    | nil => exact ⟨_, rfl⟩

/-- **Visits depend only on what the listed items lead to.** -/
theorem congr (h : Visits next met items new met') (heq : ∀ x ∈ new, next x = next' x) :
    Visits next' met items new met' := by
  induction h with
  | nil => exact .nil
  | skip hmet _ ih => exact .skip hmet (ih heq)
  | @enter met items inner met₁ new met₂ a hmet below rest ihbelow ihrest =>
    have hbelow := ihbelow fun x hx => heq x (List.mem_append_left _ hx)
    rw [heq a (List.mem_append_right _ List.mem_cons_self)] at hbelow
    exact .enter hmet hbelow
      (ihrest fun x hx => heq x (List.mem_append_right _ (List.mem_cons_of_mem _ hx)))

end Visits

/-! ### The stack and the recursion agree -/

variable [DecidableEq α] {bound : List α}

theorem length_unmet_le (hsub : ∀ x ∈ met, x ∈ met') :
    (unmet bound met').length ≤ (unmet bound met).length := by
  have heq : unmet bound met' = (unmet bound met).filter fun x => x ∉ met' := by
    rw [unmet, unmet, List.filter_filter]
    refine List.filter_congr fun x _ => ?_
    by_cases hx : x ∈ met' <;> simp [hx]
    exact fun h => hx (hsub x h)
  rw [heq]
  exact List.length_filter_le _ _

/-- Items within the bound can be visited. -/
theorem exists_visits (hclosed : ∀ a b, b ∈ next a → b ∈ bound) (met items : List α)
    (hitems : ∀ a ∈ items, a ∈ bound) : ∃ new met', Visits next met items new met' := by
  -- entering an item leaves fewer items unmet; visiting the items after it leaves no more
  suffices h : ∀ n met items, (unmet bound met).length ≤ n → (∀ a ∈ items, a ∈ bound) →
      ∃ new met', Visits next met items new met' from h _ met items (Nat.le_refl _) hitems
  intro n
  induction n using Nat.strongRecOn with
  | _ n ih =>
    intro met items hle hitems
    induction items generalizing met with
    | nil => exact ⟨[], met, .nil⟩
    | cons a items ihitems =>
      have hrest : ∀ x ∈ items, x ∈ bound := fun x hx => hitems x (List.mem_cons_of_mem _ hx)
      by_cases hmet : a ∈ met
      · obtain ⟨new, met', h⟩ := ihitems met hle hrest
        exact ⟨new, met', .skip hmet h⟩
      · have hlt := length_unmet_cons_lt (hitems a List.mem_cons_self) hmet
        obtain ⟨inner, met₁, hbelow⟩ :=
          ih _ (Nat.lt_of_lt_of_le hlt hle) (a :: met) (next a) (Nat.le_refl _) (hclosed a)
        have hle₁ : (unmet bound met₁).length ≤ n := by
          refine Nat.le_trans (length_unmet_le fun x hx => ?_) hle
          exact hbelow.mem_met'.2 (.inl (List.mem_cons_of_mem _ hx))
        obtain ⟨new, met₂, h⟩ := ihitems met₁ hle₁ hrest
        exact ⟨_, met₂, .enter hmet hbelow h⟩

section Run

variable {closed : ∀ a b, b ∈ next a → b ∈ bound} {listed : List α} {stack stack' : List (Frame α)}

theorem run_congr {h : ∀ f ∈ stack, f.item ∈ bound} (heq : stack = stack')
    (h' : ∀ f ∈ stack', f.item ∈ bound) :
    run next bound closed met listed stack h = run next bound closed met listed stack' h' := by
  subst heq
  rfl

theorem run_leave {h : ∀ f ∈ Frame.leave a :: stack, f.item ∈ bound} :
    run next bound closed met listed (.leave a :: stack) h =
      run next bound closed met (listed ++ [a]) stack
        fun f hf => h f (List.mem_cons_of_mem _ hf) := by
  unfold run
  rw [sweep]

theorem run_enter_of_mem (hmet : a ∈ met) {h : ∀ f ∈ Frame.enter a :: stack, f.item ∈ bound} :
    run next bound closed met listed (.enter a :: stack) h =
      run next bound closed met listed stack fun f hf => h f (List.mem_cons_of_mem _ hf) := by
  unfold run
  rw [sweep, dif_pos hmet]

theorem run_enter_of_not_mem (hmet : a ∉ met) {h : ∀ f ∈ Frame.enter a :: stack, f.item ∈ bound}
    (h' : ∀ f ∈ unfolded next a (a :: met) ++ stack, f.item ∈ bound) :
    run next bound closed met listed (.enter a :: stack) h =
      run next bound closed (a :: met) listed (unfolded next a (a :: met) ++ stack) h' := by
  unfold run
  rw [sweep, dif_neg hmet]

/-- The frames of the items of a list that are not among the dropped ones. -/
def entering (items dropped : List α) : List (Frame α) :=
  (items.filter fun b => b ∉ dropped).map .enter

theorem unfolded_eq : unfolded next a met = entering (next a) met ++ [.leave a] := rfl

theorem entering_cons_of_mem {dropped : List α} (ha : a ∈ dropped) :
    entering (a :: items) dropped = entering items dropped := by
  rw [entering, List.filter_cons_of_neg (by simpa using ha), entering]

theorem entering_cons_of_not_mem {dropped : List α} (ha : a ∉ dropped) :
    entering (a :: items) dropped = .enter a :: entering items dropped := by
  rw [entering, List.filter_cons_of_pos (by simpa using ha), List.map_cons, entering]

/-- A stack with items to enter comes to the same as visiting them.  Items that have been met may be
left out. -/
theorem run_of_visits (h : Visits next met items new met') {dropped : List α}
    (hdropped : ∀ x ∈ dropped, x ∈ met) (hstack : ∀ f ∈ stack, f.item ∈ bound)
    (hall : ∀ f ∈ entering items dropped ++ stack, f.item ∈ bound) :
    run next bound closed met listed (entering items dropped ++ stack) hall =
      run next bound closed met' (listed ++ new) stack hstack := by
  induction h generalizing dropped listed stack with
  | nil =>
    rw [List.append_nil]
    rfl
  | @skip met items new met' a hmet rest ih =>
    by_cases ha : a ∈ dropped
    · have heq : entering (a :: items) dropped ++ stack = entering items dropped ++ stack := by
        rw [entering_cons_of_mem ha]
      rw [run_congr heq (heq ▸ hall)]
      exact ih hdropped hstack _
    · have heq : entering (a :: items) dropped ++ stack =
          .enter a :: (entering items dropped ++ stack) := by
        rw [entering_cons_of_not_mem ha, List.cons_append]
      rw [run_congr heq (heq ▸ hall), run_enter_of_mem hmet]
      exact ih hdropped hstack _
  | @enter met items inner met₁ new met₂ a hmet below rest ihbelow ihrest =>
    have ha : a ∉ dropped := fun hd => hmet (hdropped a hd)
    have heq : entering (a :: items) dropped ++ stack =
        .enter a :: (entering items dropped ++ stack) := by
      rw [entering_cons_of_not_mem ha, List.cons_append]
    have hbound : a ∈ bound := (heq ▸ hall) (.enter a) List.mem_cons_self
    have hrest : ∀ f ∈ entering items dropped ++ stack, f.item ∈ bound := fun f hf =>
      (heq ▸ hall) f (List.mem_cons_of_mem _ hf)
    have hleave : ∀ f ∈ Frame.leave a :: (entering items dropped ++ stack), f.item ∈ bound := by
      intro f hf
      rcases List.mem_cons.1 hf with rfl | hf
      · exact hbound
      · exact hrest f hf
    have hunfold : unfolded next a (a :: met) ++ (entering items dropped ++ stack) =
        entering (next a) (a :: met) ++ (.leave a :: (entering items dropped ++ stack)) := by
      rw [unfolded_eq, List.append_assoc, List.singleton_append]
    have hentered : ∀ f ∈ entering (next a) (a :: met) ++
        (.leave a :: (entering items dropped ++ stack)), f.item ∈ bound := by
      rw [← hunfold]
      intro f hf
      exact (List.mem_append.1 hf).elim
        (item_mem_of_mem_unfolded next bound hbound closed) (hrest f)
    calc run next bound closed met listed (entering (a :: items) dropped ++ stack) hall
        = run next bound closed met listed (.enter a :: (entering items dropped ++ stack))
            (heq ▸ hall) := run_congr heq _
      _ = run next bound closed (a :: met) listed
            (unfolded next a (a :: met) ++ (entering items dropped ++ stack))
            (hunfold ▸ hentered) := run_enter_of_not_mem hmet _
      _ = run next bound closed (a :: met) listed
            (entering (next a) (a :: met) ++ (.leave a :: (entering items dropped ++ stack)))
            hentered := run_congr hunfold _
      _ = run next bound closed met₁ (listed ++ inner)
            (.leave a :: (entering items dropped ++ stack)) hleave :=
          ihbelow (fun _ h => h) hleave _
      _ = run next bound closed met₁ (listed ++ inner ++ [a]) (entering items dropped ++ stack)
            hrest := run_leave
      _ = run next bound closed met₂ (listed ++ inner ++ [a] ++ new) stack hstack := by
          refine ihrest (fun x hx => ?_) hstack _
          exact below.mem_met'.2 (.inl (List.mem_cons_of_mem _ (hdropped x hx)))
      _ = run next bound closed met₂ (listed ++ (inner ++ a :: new)) stack hstack := by
          simp only [List.append_assoc, List.singleton_append]

end Run

/-- **The order is the initial list and what visiting the start lists after it.** -/
theorem order_eq {closed : ∀ a b, b ∈ next a → b ∈ bound} {start : α} {hstart : start ∈ bound}
    {initial : List α} (h : Visits next initial [start] new met') :
    order next bound closed start hstart initial = initial ++ new := by
  have hstack : ∀ f ∈ entering [start] [] ++ [], f.item ∈ bound := by
    intro f hf
    rw [List.mem_singleton.1 hf]
    exact hstart
  have hrun : run next bound closed initial initial (entering [start] [] ++ []) hstack =
      run next bound closed met' (initial ++ new) [] (by simp) :=
    run_of_visits h (fun x hx => absurd hx List.not_mem_nil) _ _
  rw [order]
  refine (run_congr rfl hstack).trans (hrun.trans ?_)
  rw [run, sweep]

end PassForge.DepthFirst
