import PassForge.Proofs.Aggregation
import PassForge.Proofs.Independence
import PassForge.Variant.Table

/-!
# Indices by variant

A table by variant stores its entries in order and finds them through a directory of positions.  The
directory is not seen: a table answers as the plain index of its entries does (`get?_toMap`), and
changes as that does (`toMap_alter`).

* `NodeTable.exists_build`: what a table of nodes holds.
* `RequirementTable.toMap_ofNodes`, `RequirementTable.get_union`: what is needed, in one table and
  in the union of two.
* `RequirementTable.get_merged`: many tables can be merged in any order and grouping.
* `VariantTable.indices_pointwise`: all of these at once.
-/

namespace PassForge

/-! ### Plain indices -/

namespace VariantMap

variable {β : Type} {v w : KeywordSet} {f : Option β → β} {l before after : List (KeywordSet × β)}
  {b : β}

theorem putEntry_append_cons (h : ∀ e ∈ before, e.1 ≠ v) :
    putEntry v f (before ++ (v, b) :: after) = before ++ (v, f (some b)) :: after := by
  induction before with
  | nil => rw [List.nil_append, putEntry, if_pos rfl, List.nil_append]
  | cons e before ih =>
    rw [List.forall_mem_cons] at h
    rw [List.cons_append, putEntry, if_neg h.1, ih h.2, List.cons_append]

theorem putEntry_of_absent (h : ∀ e ∈ l, e.1 ≠ v) : putEntry v f l = l ++ [(v, f none)] := by
  induction l with
  | nil => rfl
  | cons e l ih =>
    rw [List.forall_mem_cons] at h
    rw [putEntry, if_neg h.1, ih h.2, List.cons_append]

theorem get?_alter (m : VariantMap β) (v w : KeywordSet) (f : Option β → β) :
    (m.alter v f).get? w = if w = v then some (f (m.get? v)) else m.get? w :=
  lookup_putEntry f m.entries

theorem variants_alter (m : VariantMap β) (v : KeywordSet) (f : Option β → β) :
    (m.alter v f).variants = if v ∈ m.variants then m.variants else m.variants ++ [v] := by
  obtain ⟨l⟩ := m
  change (putEntry v f l).map Prod.fst =
    if v ∈ l.map Prod.fst then l.map Prod.fst else l.map Prod.fst ++ [v]
  induction l with
  | nil => rfl
  | cons e l ih =>
    obtain ⟨w, b⟩ := e
    by_cases hwv : w = v
    · rw [putEntry, if_pos hwv, List.map_cons, List.map_cons, if_pos (by simp [hwv])]
    · rw [putEntry, if_neg hwv, List.map_cons, ih, List.map_cons]
      by_cases hv : v ∈ l.map Prod.fst
      · rw [if_pos hv, if_pos (List.mem_cons_of_mem _ hv)]
      · rw [if_neg hv, if_neg (by simpa [Ne.symm hwv] using hv), List.cons_append]

theorem foldl_insert_of_nodup {γ : Type} (f : γ → β) (m : VariantMap β)
    (l : List (KeywordSet × γ)) (hl : (m.variants ++ l.map Prod.fst).Nodup) :
    l.foldl (fun m e => m.insert e.1 (f e.2)) m = ⟨m.entries ++ l.map fun e => (e.1, f e.2)⟩ := by
  induction l generalizing m with
  | nil => rw [List.foldl_nil, List.map_nil, List.append_nil]
  | cons e l ih =>
    have hnew : ∀ old ∈ m.entries, old.1 ≠ e.1 := fun old hold heq =>
      (List.nodup_append.1 hl).2.2 old.1 (List.mem_map_of_mem hold) e.1 List.mem_cons_self heq
    have hinsert : m.insert e.1 (f e.2) = ⟨m.entries ++ [(e.1, f e.2)]⟩ :=
      congrArg mk (putEntry_of_absent hnew)
    have hvariants : (m.insert e.1 (f e.2)).variants = m.variants ++ [e.1] := by
      rw [hinsert]
      exact List.map_append
    rw [List.foldl_cons, ih _ (by rw [hvariants, List.append_assoc]; exact hl), hinsert,
      List.map_cons, List.append_assoc, List.singleton_append]

end VariantMap

namespace VariantTable

variable {β : Type} {t : VariantTable β} {v : KeywordSet} {i : Nat}

theorem absent_of_lookup (h : t.positions.lookup v = none) : ∀ e ∈ t.entries, e.1 ≠ v := by
  rintro e he rfl
  obtain ⟨i, hi⟩ := List.mem_iff_getElem?.1 he
  rw [(t.inStep e.1 i).2 (by rw [hi]; rfl)] at h
  cases h

/-- The directory leads to the only entry of a variant. -/
theorem exists_entry_of_lookup (h : t.positions.lookup v = some i) : ∃ before b after,
    t.entries = before ++ (v, b) :: after ∧ before.length = i ∧ ∀ e ∈ before, e.1 ≠ v := by
  obtain ⟨e, he, hv⟩ := Option.map_eq_some_iff.1 ((t.inStep v i).1 h)
  obtain ⟨hi, rfl⟩ := List.getElem?_eq_some_iff.1 he
  refine ⟨t.entries.take i, t.entries[i].2, t.entries.drop (i + 1), ?_, ?_, fun e he hev => ?_⟩
  · rw [← hv, ← List.drop_eq_getElem_cons hi, List.take_append_drop]
  · exact List.length_take_of_le (Nat.le_of_lt hi)
  · obtain ⟨j, hj⟩ := List.mem_iff_getElem?.1 he
    rw [List.getElem?_take, Option.ite_none_right_eq_some] at hj
    obtain ⟨hji, hj⟩ := hj
    have hposition := (t.inStep v j).2 (by rw [hj, Option.map_some, hev])
    rw [h, Option.some.injEq] at hposition
    exact Nat.ne_of_gt hji hposition

/-- **The directory finds what a search through the entries finds.** -/
theorem get?_toMap (t : VariantTable β) (v : KeywordSet) : t.toMap.get? v = t.get? v := by
  rw [VariantMap.get?, toMap, get?]
  cases h : t.positions.lookup v with
  | none =>
    rw [Option.bind_none, List.lookup_eq_none_iff]
    intro e he
    simpa using (absent_of_lookup h e he).symm
  | some i =>
    obtain ⟨before, b, after, hentries, rfl, hbefore⟩ := exists_entry_of_lookup h
    have hat : t.entries[before.length]? = some (v, b) := by
      rw [hentries, List.getElem?_append_right (Nat.le_refl _), Nat.sub_self]
      rfl
    rw [Option.bind_some, hat, Option.map_some, List.lookup_eq_some_iff]
    exact ⟨before, after, hentries, fun e he => by simpa using (hbefore e he).symm⟩

theorem toMap_alter (t : VariantTable β) (v : KeywordSet) (f : Option β → β) :
    (t.alter v f).toMap = t.toMap.alter v f := by
  refine congrArg VariantMap.mk ?_
  change (t.alter v f).entries = VariantMap.putEntry v f t.entries
  unfold alter
  split
  · rename_i i h
    obtain ⟨before, b, after, hentries, rfl, hbefore⟩ := exists_entry_of_lookup h
    change t.entries.modify before.length (fun e => (e.1, f (some e.2))) = _
    rw [hentries, VariantMap.putEntry_append_cons hbefore, List.modify_eq_take_drop,
      List.take_left, List.drop_left]
    rfl
  · rename_i h
    rw [push, VariantMap.putEntry_of_absent (absent_of_lookup h)]

theorem nodup_variants (t : VariantTable β) : t.variants.Nodup := by
  rw [variants, List.nodup_iff_getElem?_ne_getElem?]
  intro i j hij hj heq
  rw [List.getElem?_map, List.getElem?_map] at heq
  have hlt : i < t.entries.length := by
    rw [List.length_map] at hj
    exact Nat.lt_trans hij hj
  rw [List.getElem?_eq_getElem hlt, Option.map_some] at heq
  have hi := (t.inStep _ i).2 (congrArg (Option.map Prod.fst) (List.getElem?_eq_getElem hlt))
  have hj := (t.inStep _ j).2 heq.symm
  rw [hi, Option.some.injEq] at hj
  exact Nat.ne_of_lt hij hj

theorem get?_alter (t : VariantTable β) (v w : KeywordSet) (f : Option β → β) :
    (t.alter v f).get? w = if w = v then some (f (t.get? v)) else t.get? w := by
  rw [← get?_toMap, toMap_alter, VariantMap.get?_alter, get?_toMap, get?_toMap]

theorem variants_alter (t : VariantTable β) (v : KeywordSet) (f : Option β → β) :
    (t.alter v f).variants = if v ∈ t.variants then t.variants else t.variants ++ [v] := by
  have h := VariantMap.variants_alter t.toMap v f
  rwa [← toMap_alter] at h

/-! ### Many changes -/

section Fold

variable {γ : Type} (join : γ → Option β → β)

/-- Changes the values of variants in turn. -/
def alterAll (t : VariantTable β) (l : List (KeywordSet × γ)) : VariantTable β :=
  l.foldl (fun t e => t.alter e.1 (join e.2)) t

variable {l : List (KeywordSet × γ)}

theorem get?_alterAll (t : VariantTable β) (hl : (l.map Prod.fst).Nodup) (v : KeywordSet) :
    (t.alterAll join l).get? v =
      ((l.lookup v).map fun c => join c (t.get? v)).or (t.get? v) := by
  induction l generalizing t with
  | nil => rfl
  | cons e l ih =>
    obtain ⟨w, c⟩ := e
    obtain ⟨hw, hl⟩ := List.nodup_cons.1 hl
    rw [alterAll, List.foldl_cons, ← alterAll, ih _ hl, get?_alter, VariantMap.lookup_cons]
    by_cases hv : v = w
    · subst hv
      have hnone : l.lookup v = none := by
        rw [List.lookup_eq_none_iff]
        intro e he
        have hne : v ≠ e.1 := fun h => hw (List.mem_map.2 ⟨e, he, h.symm⟩)
        simpa using hne
      simp [hnone]
    · simp [hv]

theorem variants_alterAll (t : VariantTable β) (hl : (l.map Prod.fst).Nodup) :
    (t.alterAll join l).variants =
      t.variants ++ (l.map Prod.fst).filter fun v => v ∉ t.variants := by
  induction l generalizing t with
  | nil => simp [alterAll]
  | cons e l ih =>
    obtain ⟨w, c⟩ := e
    obtain ⟨hw, hl⟩ := List.nodup_cons.1 hl
    rw [alterAll, List.foldl_cons, ← alterAll, ih _ hl, variants_alter, List.map_cons]
    by_cases hv : w ∈ t.variants
    · rw [if_pos hv, List.filter_cons_of_neg (by simpa using hv)]
    · rw [if_neg hv, List.filter_cons_of_pos (by simpa using hv), List.append_assoc,
        List.singleton_append]
      refine congrArg (fun rest => t.variants ++ w :: rest) (List.filter_congr fun v hv => ?_)
      have hne : v ≠ w := fun h => hw (h ▸ hv)
      simp [hne]

theorem toMap_alterAll (t : VariantTable β) :
    (t.alterAll join l).toMap = l.foldl (fun m e => m.alter e.1 (join e.2)) t.toMap := by
  induction l generalizing t with
  | nil => rfl
  | cons e l ih => rw [alterAll, List.foldl_cons, ← alterAll, ih, toMap_alter, List.foldl_cons]

end Fold

theorem get?_empty (v : KeywordSet) : (empty : VariantTable β).get? v = none := rfl

theorem get?_eq_none_iff {t : VariantTable β} {v : KeywordSet} :
    t.get? v = none ↔ v ∉ t.variants := by
  rw [← get?_toMap, VariantMap.get?, List.lookup_eq_none_iff, variants, List.mem_map]
  constructor
  · rintro h ⟨e, he, rfl⟩
    simpa using h e he
  · intro h e he
    simpa using fun hv => h ⟨e, he, Eq.symm hv⟩

end VariantTable

/-! ### Nodes by variant -/

namespace NodeTable

open VariantTable

variable {g : MaterialGraph} {root : NodeId} {slots : List SlotId} {t t' : NodeTable}

theorem map_toMap_extend (g : MaterialGraph) (root : NodeId) (slots : List SlotId) (t : NodeTable)
    (listed : List KeywordSet) :
    (extend g root slots t listed).map toMap = NodeIndex.extend g root slots t.toMap listed := by
  induction listed generalizing t with
  | nil => rfl
  | cons v rest ih =>
    rw [extend, NodeIndex.extend, get?_toMap]
    cases t.get? v with
    | some ids => exact ih t
    | none =>
      cases hwalk : g.walk root ⟨some slots, some v⟩ with
      | error e => rfl
      | ok ids =>
        have hinsert := ih (t.insert v ids)
        rw [VariantTable.insert, toMap_alter] at hinsert
        exact hinsert

theorem variants_of_extend {listed : List KeywordSet}
    (h : extend g root slots t listed = .ok t') :
    t'.variants = (t.variants ++ listed).eraseDups := by
  induction listed generalizing t with
  | nil =>
    cases h
    rw [List.append_nil, eraseDups_of_nodup t'.nodup_variants]
  | cons v rest ih =>
    rw [extend] at h
    split at h
    · rename_i ids hids
      have hv : v ∈ t.variants := by
        by_contra hv
        rw [get?_eq_none_iff.2 hv] at hids
        cases hids
      rw [ih h, List.eraseDups_append, List.eraseDups_append, List.cons_removeAll]
      simp [hv]
    · rename_i hnone
      have hv := get?_eq_none_iff.1 hnone
      obtain ⟨ids, -, hrest⟩ := bind_eq_ok_iff.1 h
      rw [ih hrest, VariantTable.insert, variants_alter, if_neg hv, List.append_assoc,
        List.singleton_append]

/-- What a table of nodes has to be: the variants once each, in the order they came up, and for each
the nodes that a walk under its keywords finds. -/
structure Indexes (g : MaterialGraph) (root : NodeId) (slots : List SlotId)
    (listed : List KeywordSet) (t : NodeTable) : Prop where
  variants : t.variants = listed.eraseDups
  walked : ∀ v ∈ listed, ∃ ids, g.walk root ⟨some slots, some v⟩ = .ok ids ∧ t.get? v = some ids
  absent : ∀ v, v ∉ listed → t.get? v = none

theorem exists_build (slots : List SlotId) {listed : List KeywordSet}
    (hroot : (∃ n, g.node? root = some n) ∨ listed = []) :
    ∃ t, build g root slots listed = .ok t ∧ Indexes g root slots listed t ∧
      NodeIndex.build g root slots listed = .ok t.toMap := by
  rcases hroot with ⟨n, hroot⟩ | rfl
  · obtain ⟨index, hindex, hget⟩ := NodeIndex.exists_extend hroot listed .empty
      fun v ids h => absurd (show some ids = none from h.symm) (Option.some_ne_none ids)
    have hmap : (extend g root slots .empty listed).map toMap = .ok index :=
      (map_toMap_extend g root slots .empty listed).trans hindex
    cases ht : extend g root slots .empty listed with
    | error e =>
      rw [ht] at hmap
      cases hmap
    | ok t =>
    rw [ht] at hmap
    cases hmap
    refine ⟨t, ht, ⟨variants_of_extend ht, fun v hv => ?_, fun v hv => ?_⟩, hindex⟩
    · refine ⟨_, MaterialGraph.walk_eq_ok_iff.2 ⟨⟨n, hroot⟩, rfl⟩, ?_⟩
      rw [← get?_toMap, hget v, if_pos hv]
    · rw [← get?_toMap, hget v, if_neg hv]
      rfl
  · exact ⟨.empty, rfl, ⟨rfl, fun v hv => absurd hv List.not_mem_nil, fun v _ => rfl⟩, rfl⟩

theorem build_of_no_root {listed : List KeywordSet} (hroot : g.node? root = none)
    (hne : listed ≠ []) : build g root slots listed = .error (.unknownNode root) := by
  obtain ⟨v, rest, rfl⟩ := List.exists_cons_of_ne_nil hne
  have hwalk : g.walk root ⟨some slots, some v⟩ = .error (.unknownNode root) := by
    rw [MaterialGraph.walk, MaterialGraph.collect, MaterialGraph.node_of_node?_eq_none hroot]
    rfl
  rw [build, extend, get?_empty, hwalk]
  rfl

end NodeTable

/-! ### Requirements by variant -/

namespace RequirementTable

open VariantTable

theorem toMap_ofNodes (g : MaterialGraph) (nodes : NodeTable) :
    (ofNodes g nodes).toMap = RequirementIndex.ofNodes g nodes.toMap := by
  have hfold := toMap_alterAll (fun ids _ => g.requirements ids) .empty (l := nodes.entries)
  exact hfold.trans
    (VariantMap.foldl_insert_of_nodup g.requirements .empty nodes.entries nodes.nodup_variants)

theorem get?_ofNodes (g : MaterialGraph) (nodes : NodeTable) (v : KeywordSet) :
    (ofNodes g nodes).get? v = (nodes.get? v).map g.requirements := by
  rw [← get?_toMap, toMap_ofNodes, RequirementIndex.ofNodes, VariantMap.get?_map, get?_toMap]

theorem variants_ofNodes (g : MaterialGraph) (nodes : NodeTable) :
    (ofNodes g nodes).variants = nodes.variants := by
  have hentries := congrArg VariantMap.entries (toMap_ofNodes g nodes)
  rw [variants, show (ofNodes g nodes).entries = _ from hentries]
  exact List.map_map

theorem toMap_union (s t : RequirementTable) :
    (s.union t).toMap = RequirementIndex.union s.toMap t.toMap :=
  toMap_alterAll join s

/-- **A union is taken variant by variant**, also where only one table has the variant. -/
theorem get_union (s t : RequirementTable) (v : KeywordSet) :
    (s.union t).get v = (s.get v).union (t.get v) := by
  have hget : (s.union t).get? v = ((t.get? v).map fun r => join r (s.get? v)).or (s.get? v) := by
    rw [← get?_toMap t]
    exact get?_alterAll join s t.nodup_variants v
  refine Requirements.eq_of_flags fun f hf => ?_
  rw [get, get, get, hf.union, hget]
  cases s.get? v <;> cases t.get? v <;> simp [join, hf.none, hf.union]

theorem variants_union (s t : RequirementTable) :
    (s.union t).variants = s.variants ++ t.variants.filter fun v => v ∉ s.variants :=
  variants_alterAll join s t.nodup_variants

/-! ### Merging many tables -/

/-- A way to merge tables two at a time. -/
inductive Merging where
  | stage (t : RequirementTable)
  | both (left right : Merging)

namespace Merging

/-- The tables that are merged, from left to right. -/
def stages : Merging → List RequirementTable
  | stage t => [t]
  | both left right => left.stages ++ right.stages

/-- The table that comes out. -/
def merged : Merging → RequirementTable
  | stage t => t
  | both left right => left.merged.union right.merged

/-- A merged table needs what some stage needs. -/
theorem flag_get_merged {f : Requirements → Bool} (hf : Requirements.IsFlag f) (m : Merging)
    (v : KeywordSet) : f (m.merged.get v) = m.stages.any fun t => f (t.get v) := by
  induction m with
  | stage t => rw [merged, stages, List.any_cons, List.any_nil, Bool.or_false]
  | both left right ihl ihr =>
    rw [merged, get_union, hf.union, ihl, ihr, stages, List.any_append]

end Merging

theorem flag_get_foldl_union {f : Requirements → Bool} (hf : Requirements.IsFlag f)
    (s : RequirementTable) (l : List RequirementTable) (v : KeywordSet) :
    f ((l.foldl union s).get v) = (f (s.get v) || l.any fun t => f (t.get v)) := by
  induction l generalizing s with
  | nil => rw [List.foldl_nil, List.any_nil, Bool.or_false]
  | cons t l ih => rw [List.foldl_cons, ih, get_union, hf.union, List.any_cons, Bool.or_assoc]

/-- However tables are merged, the look-ups are those of taking one after the other. -/
theorem get_merged (m : Merging) (l : List RequirementTable) (h : ∀ t, t ∈ m.stages ↔ t ∈ l)
    (v : KeywordSet) : m.merged.get v = (l.foldl union .empty).get v := by
  refine Requirements.eq_of_flags fun f hf => ?_
  have hempty : f (get .empty v) = false := hf.none
  rw [Merging.flag_get_merged hf, flag_get_foldl_union hf, hempty, Bool.false_or, Bool.eq_iff_iff,
    List.any_eq_true, List.any_eq_true]
  simp only [h]

end RequirementTable

/-! ### Main theorem -/

namespace VariantTable

open RequirementTable in
/-- **Indices by variant hold what is computed variant by variant, and are merged pointwise.**  From
a root, a table of nodes lists the variants once each in the order they came up, with the nodes that
a walk under each finds and no others; a table of requirements has the same variants, with what
those nodes need.  A union of tables gives for every keyword set the union of what the two give; the
variants of the first stand before those that only the second has.  So tables can be merged in any
order and grouping.  All of this is how the plain indices of a plan are built and merged. -/
theorem indices_pointwise :
    (∀ (g : MaterialGraph) (root : NodeId) (slots : List SlotId) (listed : List KeywordSet),
      (g.node? root = none → listed ≠ [] →
        NodeTable.build g root slots listed = .error (.unknownNode root)) ∧
      ((∃ n, g.node? root = some n) ∨ listed = [] →
        ∃ nodes, NodeTable.build g root slots listed = .ok nodes ∧
          NodeTable.Indexes g root slots listed nodes ∧
          (ofNodes g nodes).variants = nodes.variants ∧
          (∀ v, (ofNodes g nodes).get? v = (nodes.get? v).map g.requirements) ∧
          NodeIndex.build g root slots listed = .ok nodes.toMap ∧
          RequirementIndex.ofNodes g nodes.toMap = (ofNodes g nodes).toMap)) ∧
    (∀ s t : RequirementTable,
      (∀ v, (s.union t).get v = (s.get v).union (t.get v)) ∧
      (s.union t).variants = s.variants ++ t.variants.filter (fun v => v ∉ s.variants) ∧
      RequirementIndex.union s.toMap t.toMap = (s.union t).toMap) ∧
    ∀ (m : Merging) (l : List RequirementTable), (∀ t, t ∈ m.stages ↔ t ∈ l) →
      ∀ v, m.merged.get v = (l.foldl union .empty).get v := by
  refine ⟨fun g root slots listed => ⟨NodeTable.build_of_no_root, fun hroot => ?_⟩,
    fun s t => ⟨get_union s t, variants_union s t, (toMap_union s t).symm⟩, get_merged⟩
  obtain ⟨nodes, hbuild, hindexes, hplain⟩ := NodeTable.exists_build slots hroot
  exact ⟨nodes, hbuild, hindexes, variants_ofNodes g nodes, get?_ofNodes g nodes, hplain,
    (toMap_ofNodes g nodes).symm⟩

open RequirementTable in
/-- `SNOW` comes up twice for the pixels of `stone`, and the vertices share `WET` with them.  The
two tables are merged with one of them taken twice, in another order. -/
theorem indices_pointwise_stone :
    (∃ n, MaterialGraph.stone.node? ⟨4, 1⟩ = some n) ∧
    MaterialGraph.stone.node? ⟨1, 1⟩ = none ∧
    NodeTable.build .stone ⟨1, 1⟩ [0] [.ofList ["SNOW"]] = .error (.unknownNode ⟨1, 1⟩) ∧
    ∃ pixel vertex : NodeTable,
      NodeTable.build .stone ⟨4, 1⟩ [0] [.ofList ["SNOW"], .ofList ["WET"], .ofList ["SNOW"]] =
        .ok pixel ∧
      NodeTable.build .stone ⟨4, 1⟩ [1] [.ofList ["ICE"], .ofList ["WET"]] = .ok vertex ∧
      pixel.variants = [.ofList ["SNOW"], .ofList ["WET"]] ∧
      ((ofNodes .stone pixel).union (ofNodes .stone vertex)).variants =
        [.ofList ["SNOW"], .ofList ["WET"], .ofList ["ICE"]] ∧
      (Merging.both (.stage (ofNodes .stone vertex))
          (.both (.stage (ofNodes .stone pixel)) (.stage (ofNodes .stone vertex)))).merged.get
            (.ofList ["WET"]) =
        ([ofNodes .stone pixel, ofNodes .stone vertex].foldl union .empty).get
          (.ofList ["WET"]) := by
  obtain ⟨hbuild, hunion, hmerge⟩ := indices_pointwise
  have hroot : ∃ n, MaterialGraph.stone.node? ⟨4, 1⟩ = some n := ⟨_, rfl⟩
  obtain ⟨pixel, hpixel, hpixels, hneeds, -⟩ := (hbuild .stone ⟨4, 1⟩ [0]
    [.ofList ["SNOW"], .ofList ["WET"], .ofList ["SNOW"]]).2 (.inl hroot)
  obtain ⟨vertex, hvertex, hvertices, hneeded, -⟩ := (hbuild .stone ⟨4, 1⟩ [1]
    [.ofList ["ICE"], .ofList ["WET"]]).2 (.inl hroot)
  have hlisted : pixel.variants = [.ofList ["SNOW"], .ofList ["WET"]] :=
    hpixels.variants.trans (by decide)
  refine ⟨hroot, rfl, (hbuild _ _ _ _).1 rfl (List.cons_ne_nil _ _), pixel, vertex, hpixel, hvertex,
    hlisted, ?_, hmerge _ _ (fun t => ?_) _⟩
  · rw [(hunion _ _).2.1, hneeds, hneeded, hlisted, hvertices.variants]
    decide
  · simp only [Merging.stages, List.mem_append, List.mem_cons, List.not_mem_nil, or_false]
    tauto

end VariantTable

end PassForge
