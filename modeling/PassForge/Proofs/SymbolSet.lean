import Mathlib.Data.Finset.Sort
import Mathlib.Data.List.InsertIdx
import Mathlib.Data.String.Basic
import PassForge.Keyword.Basic
import PassForge.Keyword.Registers

/-!
# Sets of symbols are sets of names

A `SymbolSet` lists symbols by the names behind them and finds them by bisection.  `Represents` says
which set of names it stands for.  If names and symbols correspond one to one, every operation does
on the symbols what it is named for on the names.

* `Bisection.fits_bisect`: bisection finds the item, or the cut between smaller and larger items.
* `SymbolSet.Represents.insertSymbol`, `SymbolSet.Represents.remove`: a change at that place keeps
  the order that bisection relies on.
* `SymbolSet.Represents.eq_iff`: sets are stored alike exactly if they have the same members.
* `KeywordRegisters.run_canonical`: so whatever the steps, the answers are those of sets of names,
  and storage, listing and text depend on the members only.
-/

namespace PassForge

/-! ### Bisection -/

namespace Bisection

variable {α : Type} {probe : α → Ordering} {l : List α}

/-- The probe goes from "comes after" to "comes before" along the list. -/
def Ordered (probe : α → Ordering) (l : List α) : Prop :=
  l.Pairwise fun a b => (probe b = .lt → probe a = .lt) ∧ (probe a = .gt → probe b = .gt)

/-- A place is where the item stands, or the cut between smaller and larger items. -/
def Fits (probe : α → Ordering) (l : List α) : Place → Prop
  | .found i => ∃ a, l[i]? = some a ∧ probe a = .eq
  | .missing i => i ≤ l.length ∧ (∀ a ∈ l.take i, probe a = .lt) ∧ ∀ a ∈ l.drop i, probe a = .gt

theorem Ordered.of_mem_take (h : Ordered probe l) {i : Nat} (hi : i < l.length)
    (hlt : probe l[i] = .lt) : ∀ a ∈ l.take (i + 1), probe a = .lt := by
  have hcut : Ordered probe (l.take i ++ l[i] :: l.drop (i + 1)) := by
    rwa [← List.drop_eq_getElem_cons hi, List.take_append_drop]
  intro a ha
  rw [List.take_succ_eq_append_getElem hi, List.mem_append, List.mem_singleton] at ha
  rcases ha with ha | rfl
  · exact ((List.pairwise_append.1 hcut).2.2 a ha _ List.mem_cons_self).1 hlt
  · exact hlt

theorem Ordered.of_mem_drop (h : Ordered probe l) {i : Nat} (hi : i < l.length)
    (hgt : probe l[i] = .gt) : ∀ a ∈ l.drop i, probe a = .gt := by
  have hdrop : Ordered probe (l[i] :: l.drop (i + 1)) := by
    rw [← List.drop_eq_getElem_cons hi]
    exact h.sublist (List.drop_sublist _ _)
  intro a ha
  rw [List.drop_eq_getElem_cons hi] at ha
  rcases List.mem_cons.1 ha with rfl | ha
  · exact hgt
  · exact ((List.pairwise_cons.1 hdrop).1 a ha).2 hgt

/-- The window of a search lies between smaller and larger items.  Halving keeps it there. -/
theorem fits_search (h : Ordered probe l) {low high : Nat} (hle : low ≤ high)
    (hhigh : high ≤ l.length) (hbefore : ∀ a ∈ l.take low, probe a = .lt)
    (hafter : ∀ a ∈ l.drop high, probe a = .gt) :
    Fits probe l (search probe l low high hhigh) := by
  fun_induction search probe l low high hhigh with
  | case1 low high hhigh hlt middle hmiddle hprobe ih =>
    exact ih (by omega) (h.of_mem_take hmiddle hprobe) hafter
  | case2 low high hhigh hlt middle hmiddle hprobe =>
    exact ⟨_, List.getElem?_eq_getElem hmiddle, hprobe⟩
  | case3 low high hhigh hlt middle hmiddle hprobe ih =>
    exact ih (by omega) hbefore (h.of_mem_drop hmiddle hprobe)
  | case4 low high hhigh hge =>
    obtain rfl : low = high := by omega
    exact ⟨hhigh, hbefore, hafter⟩

/-- **Bisection finds the item, or the cut where it belongs.** -/
theorem fits_bisect (h : Ordered probe l) : Fits probe l (bisect probe l) :=
  fits_search h (Nat.zero_le _) _ (by simp) (by simp)

end Bisection

/-! ### Tables of symbols -/

namespace SymbolTable

variable {table table' : SymbolTable} {name other : String} {symbol : Nat}

/-- Names and symbols correspond one to one. -/
def IsBijective (table : SymbolTable) : Prop :=
  ∀ name symbol, table.find? name = some symbol ↔ table.resolve? symbol = some name

/-- The symbols of a table keep their names. -/
def Extends (table' table : SymbolTable) : Prop :=
  ∀ symbol name, table.resolve? symbol = some name → table'.resolve? symbol = some name

theorem resolve?_of_find? (h : table.find? name = some symbol) :
    table.resolve? symbol = some name := by
  obtain ⟨hlt, hname, -⟩ := List.findIdx?_eq_some_iff_getElem.1 h
  exact List.getElem?_eq_some_iff.2 ⟨hlt, by simpa using hname⟩

theorem isBijective_iff : table.IsBijective ↔ table.names.Nodup := by
  constructor
  · intro h
    rw [List.nodup_iff_injective_getElem]
    intro i j hij
    have hi := (h table.names[i] i).2 (List.getElem?_eq_getElem i.isLt)
    have hj := (h table.names[j] j).2 (List.getElem?_eq_getElem j.isLt)
    rw [show table.names[i] = table.names[j] from hij, hj] at hi
    exact Fin.ext (Option.some.inj hi).symm
  · intro h name symbol
    refine ⟨resolve?_of_find?, fun hname => ?_⟩
    obtain ⟨hlt, rfl⟩ := List.getElem?_eq_some_iff.1 hname
    refine List.findIdx?_eq_some_iff_getElem.2 ⟨hlt, by simp, fun j hj => ?_⟩
    simp only [decide_eq_true_eq]
    exact fun heq => Nat.ne_of_lt hj ((h.getElem_inj_iff).1 heq)

theorem nameOf_eq (h : table.resolve? symbol = some name) : table.nameOf symbol = name := by
  rw [nameOf, h, Option.getD_some]

theorem Extends.trans {table'' : SymbolTable} (h : table''.Extends table')
    (h' : table'.Extends table) : table''.Extends table :=
  fun symbol name hname => h symbol name (h' symbol name hname)

theorem intern_of_find? (h : table.find? name = some symbol) :
    table.intern name = (symbol, table) := by
  rw [intern, h]

theorem extends_intern (table : SymbolTable) (name : String) :
    (table.intern name).2.Extends table := by
  intro symbol other h
  unfold intern
  split
  · exact h
  · exact (List.getElem?_append_left (List.getElem?_eq_some_iff.1 h).1).trans h

theorem resolve?_intern (table : SymbolTable) (name : String) :
    (table.intern name).2.resolve? (table.intern name).1 = some name := by
  unfold intern
  split
  · exact resolve?_of_find? ‹_›
  · exact List.getElem?_concat_length

theorem IsBijective.intern (h : table.IsBijective) (name : String) :
    (table.intern name).2.IsBijective := by
  unfold SymbolTable.intern
  split
  · exact h
  · rename_i hnone
    have hnew : name ∉ table.names := fun hmem => by
      simpa using List.findIdx?_eq_none_iff.1 hnone name hmem
    exact isBijective_iff.2 (List.nodup_append.2 ⟨isBijective_iff.1 h, List.nodup_singleton _,
      fun a ha b hb hab => hnew (List.mem_singleton.1 hb ▸ hab ▸ ha)⟩)

theorem internAll_spec (hbij : table.IsBijective) (names : List String) :
    (table.internAll names).2.IsBijective ∧ (table.internAll names).2.Extends table ∧
      (table.internAll names).1.map (table.internAll names).2.resolve? = names.map some := by
  induction names generalizing table with
  | nil => exact ⟨hbij, fun _ _ h => h, rfl⟩
  | cons name names ih =>
    obtain ⟨hbij', hext, hnames⟩ := ih (hbij.intern name)
    refine ⟨hbij', hext.trans (table.extends_intern name), ?_⟩
    rw [List.map_cons, ← hnames]
    exact congrArg (· :: _) (hext _ _ (table.resolve?_intern name))

end SymbolTable

/-! ### Sets of symbols -/

namespace SymbolSet

variable {table table' : SymbolTable} {s t : SymbolSet} {members others : Finset String}
  {name : String} {symbol : Nat}

/-- A set of symbols stands for a set of names: its symbols have names, these are listed in strictly
increasing order, and they are the members. -/
structure Represents (table : SymbolTable) (s : SymbolSet) (members : Finset String) : Prop where
  known : ∀ symbol ∈ s.symbols, ∃ name, table.resolve? symbol = some name
  increasing : (s.names table).Pairwise (· < ·)
  mem_names : ∀ name, name ∈ s.names table ↔ name ∈ members

theorem represents_empty (table : SymbolTable) : Represents table ∅ ∅ where
  known _ h := absurd h List.not_mem_nil
  increasing := List.Pairwise.nil
  mem_names name := by
    rw [show (∅ : SymbolSet).names table = [] from rfl]
    simp

theorem Represents.mono (h : Represents table s members) (htable : table'.Extends table) :
    Represents table' s members := by
  have hnames : s.names table' = s.names table := by
    refine List.map_congr_left fun symbol hsymbol => ?_
    obtain ⟨name, hname⟩ := h.known symbol hsymbol
    rw [SymbolTable.nameOf_eq hname, SymbolTable.nameOf_eq (htable _ _ hname)]
  refine ⟨fun symbol hsymbol => ?_, hnames ▸ h.increasing, hnames ▸ h.mem_names⟩
  obtain ⟨name, hname⟩ := h.known symbol hsymbol
  exact ⟨name, htable _ _ hname⟩

theorem Represents.names_eq (h : Represents table s members) :
    s.names table = members.sort (· ≤ ·) :=
  NameSet.eq_of_pairwise_of_mem_iff h.increasing members.sortedLT_sort.pairwise fun name => by
    rw [h.mem_names, Finset.mem_sort]

theorem Represents.size_eq (h : Represents table s members) : s.size = members.card := by
  rw [← Finset.length_sort (· ≤ ·), ← h.names_eq, names, List.length_map, size]

/-- The comparison that a search for `name` makes. -/
def probeFor (table : SymbolTable) (name : String) (member : Nat) : Ordering :=
  compare (table.nameOf member) name

theorem Represents.ordered (h : Represents table s members) (name : String) :
    Bisection.Ordered (probeFor table name) s.symbols := by
  refine (List.pairwise_map.1 h.increasing).imp fun {a b} hab => ⟨fun hb => ?_, fun ha => ?_⟩
  · exact compare_lt_iff_lt.2 (hab.trans (compare_lt_iff_lt.1 hb))
  · exact compare_gt_iff_gt.2 ((compare_gt_iff_gt.1 ha).trans hab)

/-- A symbol is found, or its place is the cut between smaller and larger names. -/
theorem Represents.place_cases (h : Represents table s members)
    (hname : table.resolve? symbol = some name) :
    (∃ i, s.place table symbol = .found i ∧ (s.names table)[i]? = some name) ∨
      ∃ i, s.place table symbol = .missing i ∧ i ≤ s.symbols.length ∧
        (∀ a ∈ (s.names table).take i, a < name) ∧ ∀ a ∈ (s.names table).drop i, name < a := by
  have hplace : s.place table symbol = bisect (probeFor table name) s.symbols := by
    rw [place, SymbolTable.nameOf_eq hname]
    rfl
  have hfits := Bisection.fits_bisect (h.ordered name)
  rw [← hplace] at hfits
  cases hp : s.place table symbol with
  | found i =>
    rw [hp] at hfits
    obtain ⟨member, hmember, heq⟩ := hfits
    refine .inl ⟨i, rfl, ?_⟩
    rw [names, List.getElem?_map, hmember, Option.map_some, compare_eq_iff_eq.1 heq]
  | missing i =>
    rw [hp] at hfits
    obtain ⟨hle, hbefore, hafter⟩ := hfits
    refine .inr ⟨i, rfl, hle, ?_, ?_⟩
    · simp only [names, ← List.map_take, List.forall_mem_map]
      exact fun member hmember => compare_lt_iff_lt.1 (hbefore member hmember)
    · simp only [names, ← List.map_drop, List.forall_mem_map]
      exact fun member hmember => compare_gt_iff_gt.1 (hafter member hmember)

theorem Represents.mem_of_place (h : Represents table s members) {i : Nat}
    (hi : (s.names table)[i]? = some name) : name ∈ members :=
  (h.mem_names name).1 (List.mem_of_getElem? hi)

theorem Represents.not_mem_of_cut (h : Represents table s members) {i : Nat}
    (hbefore : ∀ a ∈ (s.names table).take i, a < name)
    (hafter : ∀ a ∈ (s.names table).drop i, name < a) : name ∉ members := by
  rw [← h.mem_names, ← List.take_append_drop i (s.names table), List.mem_append]
  rintro (hmem | hmem)
  · exact lt_irrefl _ (hbefore name hmem)
  · exact lt_irrefl _ (hafter name hmem)

theorem Represents.containsSymbol_eq (h : Represents table s members)
    (hname : table.resolve? symbol = some name) :
    s.containsSymbol table symbol = decide (name ∈ members) := by
  rcases h.place_cases hname with ⟨i, hplace, hi⟩ | ⟨i, hplace, -, hbefore, hafter⟩
  · rw [containsSymbol, hplace, decide_eq_true (h.mem_of_place hi)]
    rfl
  · rw [containsSymbol, hplace, decide_eq_false (h.not_mem_of_cut hbefore hafter)]
    rfl

theorem insertIdx_eq {α : Type} (l : List α) (a : α) {i : Nat} (hi : i ≤ l.length) :
    l.insertIdx i a = l.take i ++ a :: l.drop i := by
  induction l generalizing i with
  | nil =>
    obtain rfl : i = 0 := by simpa using hi
    rfl
  | cons b l ih =>
    cases i with
    | zero => rfl
    | succ i =>
      rw [List.insertIdx_succ_cons, ih (Nat.le_of_succ_le_succ hi)]
      rfl

/-- **Insertion keeps the order and adds the name.** -/
theorem Represents.insertSymbol (h : Represents table s members)
    (hname : table.resolve? symbol = some name) :
    (s.insertSymbol table symbol).1 = decide (name ∉ members) ∧
      Represents table (s.insertSymbol table symbol).2 (insert name members) := by
  rcases h.place_cases hname with ⟨i, hplace, hi⟩ | ⟨i, hplace, hle, hbefore, hafter⟩
  · have hmem := h.mem_of_place hi
    rw [SymbolSet.insertSymbol, hplace, Finset.insert_eq_of_mem hmem]
    exact ⟨by simpa using hmem, h⟩
  · have hmem := h.not_mem_of_cut hbefore hafter
    have hnames : names table ⟨s.symbols.insertIdx i symbol⟩ =
        (s.names table).take i ++ name :: (s.names table).drop i := by
      rw [names, insertIdx_eq _ _ hle, List.map_append, List.map_cons,
        SymbolTable.nameOf_eq hname, List.map_take, List.map_drop]
      rfl
    have hcut := List.take_append_drop i (s.names table)
    rw [SymbolSet.insertSymbol, hplace]
    refine ⟨by simpa using hmem, fun other hother => ?_, ?_, fun other => ?_⟩
    · rcases (List.mem_insertIdx hle).1 hother with rfl | hother
      · exact ⟨name, hname⟩
      · exact h.known other hother
    · have hincreasing := h.increasing
      rw [← hcut, List.pairwise_append] at hincreasing
      obtain ⟨htake, hdrop, -⟩ := hincreasing
      rw [hnames, List.pairwise_append, List.pairwise_cons]
      refine ⟨htake, ⟨hafter, hdrop⟩, fun a ha b hb => ?_⟩
      rcases List.mem_cons.1 hb with rfl | hb
      · exact hbefore a ha
      · exact (hbefore a ha).trans (hafter b hb)
    · rw [hnames, List.mem_append, List.mem_cons, or_left_comm, ← List.mem_append, hcut,
        h.mem_names, Finset.mem_insert]

theorem Represents.find?_eq_none (h : Represents table s members) (hbij : table.IsBijective)
    (hname : table.find? name = none) : name ∉ members := by
  rw [← h.mem_names]
  intro hmem
  obtain ⟨symbol, hsymbol, rfl⟩ := List.mem_map.1 hmem
  obtain ⟨name, hresolve⟩ := h.known symbol hsymbol
  rw [SymbolTable.nameOf_eq hresolve, (hbij name symbol).2 hresolve] at hname
  exact Option.some_ne_none _ hname

theorem Represents.contains_eq (h : Represents table s members) (hbij : table.IsBijective)
    (name : String) : s.contains table name = decide (name ∈ members) := by
  unfold contains
  split
  · rename_i hnone
    rw [decide_eq_false (h.find?_eq_none hbij hnone)]
  · exact h.containsSymbol_eq (SymbolTable.resolve?_of_find? ‹_›)

/-- **Removal keeps the order and takes the name out.** -/
theorem Represents.remove (h : Represents table s members) (hbij : table.IsBijective)
    (name : String) : (s.remove table name).1 = decide (name ∈ members) ∧
      Represents table (s.remove table name).2 (members.erase name) := by
  unfold SymbolSet.remove
  split
  · rename_i hnone
    have hmem := h.find?_eq_none hbij hnone
    rw [Finset.erase_eq_of_notMem hmem]
    exact ⟨(decide_eq_false hmem).symm, h⟩
  · rename_i symbol hfind
    rcases h.place_cases (SymbolTable.resolve?_of_find? hfind) with
      ⟨i, hplace, hi⟩ | ⟨i, hplace, -, hbefore, hafter⟩
    · obtain ⟨before, after, hcut, herase⟩ : ∃ before after,
          s.names table = before ++ name :: after ∧
          names table ⟨s.symbols.eraseIdx i⟩ = before ++ after := by
        obtain ⟨hlt, hat⟩ := List.getElem?_eq_some_iff.1 hi
        refine ⟨(s.names table).take i, (s.names table).drop (i + 1), ?_, ?_⟩
        · rw [← hat, ← List.drop_eq_getElem_cons hlt, List.take_append_drop]
        · rw [names, ← List.eraseIdx_map, List.eraseIdx_eq_take_drop_succ]
          rfl
      have hincreasing := h.increasing
      rw [hcut] at hincreasing
      -- the name stands at its place only, since all others are smaller or larger
      obtain ⟨-, hcons, hsmaller⟩ := List.pairwise_append.1 hincreasing
      obtain ⟨hlarger, -⟩ := List.pairwise_cons.1 hcons
      rw [hplace]
      refine ⟨(decide_eq_true (h.mem_of_place hi)).symm, fun other hother => ?_, ?_,
        fun other => ?_⟩
      · exact h.known other (List.mem_of_mem_eraseIdx hother)
      · rw [herase]
        exact hincreasing.sublist ((List.sublist_cons_self name after).append_left before)
      · rw [herase, List.mem_append, Finset.mem_erase, ← h.mem_names, hcut, List.mem_append,
          List.mem_cons]
        constructor
        · rintro (hmem | hmem)
          · exact ⟨(hsmaller other hmem name List.mem_cons_self).ne, .inl hmem⟩
          · exact ⟨(hlarger other hmem).ne', .inr (.inr hmem)⟩
        · rintro ⟨hne, hmem | rfl | hmem⟩
          · exact .inl hmem
          · exact absurd rfl hne
          · exact .inr hmem
    · have hmem := h.not_mem_of_cut hbefore hafter
      rw [hplace, Finset.erase_eq_of_notMem hmem]
      exact ⟨(decide_eq_false hmem).symm, h⟩

theorem Represents.insertSymbols (h : Represents table s members) {symbols : List Nat}
    {names : List String} (hnames : symbols.map table.resolve? = names.map some) :
    Represents table (s.insertSymbols table symbols) (members ∪ names.toFinset) := by
  induction symbols generalizing s members names with
  | nil =>
    obtain rfl : names = [] := by simpa using hnames.symm
    simpa [SymbolSet.insertSymbols] using h
  | cons symbol symbols ih =>
    cases names with
    | nil => simp at hnames
    | cons name names =>
      rw [List.map_cons, List.map_cons, List.cons.injEq] at hnames
      have hnext := ih (h.insertSymbol hnames.1).2 hnames.2
      rwa [Finset.insert_union, ← Finset.union_insert, ← List.toFinset_cons] at hnext

theorem Represents.map_resolve? (h : Represents table s members) :
    s.symbols.map table.resolve? = (s.names table).map some := by
  rw [names, List.map_map]
  refine List.map_congr_left fun symbol hsymbol => ?_
  obtain ⟨name, hname⟩ := h.known symbol hsymbol
  rw [Function.comp_apply, SymbolTable.nameOf_eq hname, hname]

theorem Represents.toFinset_names (h : Represents table s members) :
    (s.names table).toFinset = members := by
  ext name
  rw [List.mem_toFinset, h.mem_names]

theorem Represents.extend (h : Represents table s members) (h' : Represents table t others) :
    Represents table (s.extend table t) (members ∪ others) := by
  have hadded := h.insertSymbols h'.map_resolve?
  rwa [h'.toFinset_names] at hadded

theorem Represents.isSubset_eq (h : Represents table s members) (h' : Represents table t others) :
    s.isSubset table t = decide (members ⊆ others) := by
  rw [Bool.eq_iff_iff, isSubset, List.all_eq_true, decide_eq_true_iff]
  constructor
  · intro hall name hname
    obtain ⟨symbol, hsymbol, rfl⟩ := List.mem_map.1 ((h.mem_names name).2 hname)
    obtain ⟨name, hresolve⟩ := h.known symbol hsymbol
    have hmem := hall symbol hsymbol
    rw [h'.containsSymbol_eq hresolve, decide_eq_true_iff] at hmem
    rwa [SymbolTable.nameOf_eq hresolve]
  · intro hsub symbol hsymbol
    obtain ⟨name, hresolve⟩ := h.known symbol hsymbol
    rw [h'.containsSymbol_eq hresolve, decide_eq_true_iff]
    refine hsub ((h.mem_names name).1 (List.mem_map.2 ⟨symbol, hsymbol, ?_⟩))
    exact SymbolTable.nameOf_eq hresolve

/-- **Sets with the same members are stored alike.** -/
theorem Represents.eq_iff (h : Represents table s members) (h' : Represents table t others)
    (hbij : table.IsBijective) : s = t ↔ members = others := by
  constructor
  · rintro rfl
    rw [← h.toFinset_names, h'.toFinset_names]
  · rintro rfl
    have hresolve : s.symbols.map table.resolve? = t.symbols.map table.resolve? := by
      rw [h.map_resolve?, h'.map_resolve?, h.names_eq, h'.names_eq]
    -- a symbol is determined by its name
    have hback : ∀ u : SymbolSet, Represents table u members →
        (u.symbols.map table.resolve?).map (fun name => name.bind table.find?) =
          u.symbols.map some := by
      intro u hu
      rw [List.map_map]
      refine List.map_congr_left fun symbol hsymbol => ?_
      obtain ⟨name, hname⟩ := hu.known symbol hsymbol
      rw [Function.comp_apply, hname]
      exact (hbij name symbol).2 hname
    have hsome : s.symbols.map some = t.symbols.map some := by
      rw [← hback s h, hresolve, hback t h']
    have hsymbols : s.symbols = t.symbols :=
      List.map_injective_iff.2 (Option.some_injective _) hsome
    cases s
    cases t
    exact congrArg SymbolSet.mk hsymbols

theorem Represents.insert (h : Represents table s members) (name : String) :
    (s.insert table name).1 = decide (name ∉ members) ∧
      Represents (s.insert table name).2.2 (s.insert table name).2.1 (insert name members) :=
  (h.mono (table.extends_intern name)).insertSymbol (table.resolve?_intern name)

theorem Represents.insertAll (h : Represents table s members) (hbij : table.IsBijective)
    (names : List String) :
    (s.insertAll table names).2.IsBijective ∧ (s.insertAll table names).2.Extends table ∧
      Represents (s.insertAll table names).2 (s.insertAll table names).1
        (members ∪ names.toFinset) := by
  induction names generalizing s table members with
  | nil => exact ⟨hbij, fun _ _ h => h, by simpa [SymbolSet.insertAll] using h⟩
  | cons name names ih =>
    obtain ⟨hbij', hext, hrep⟩ := ih (h.insert name).2 (hbij.intern name)
    rw [Finset.insert_union, ← Finset.union_insert, ← List.toFinset_cons] at hrep
    exact ⟨hbij', hext.trans (table.extends_intern name), hrep⟩

end SymbolSet

/-! ### Texts of sets -/

/-- The items of a list, each behind a comma and a blank. -/
def commaSeparated (ls : List (List Char)) : List Char := ls.flatMap fun l => ',' :: ' ' :: l

theorem intercalate_cons (l : List Char) (ls : List (List Char)) :
    [',', ' '].intercalate (l :: ls) = l ++ commaSeparated ls := by
  induction ls generalizing l with
  | nil => simp [commaSeparated]
  | cons m ls ih =>
    rw [List.intercalate_cons_cons, ih]
    simp [commaSeparated]

theorem append_inj_of_comma {a b u v : List Char} (ha : ',' ∉ a) (hb : ',' ∉ b)
    (hu : ∀ c ∈ u.head?, c = ',') (hv : ∀ c ∈ v.head?, c = ',') (h : a ++ u = b ++ v) :
    a = b ∧ u = v := by
  induction a generalizing b with
  | nil =>
    cases b with
    | nil => exact ⟨rfl, h⟩
    | cons c b =>
      have hc : c = ',' := hu c (by rw [← List.nil_append u, h]; rfl)
      exact absurd (hc ▸ List.mem_cons_self) hb
  | cons c a ih =>
    cases b with
    | nil =>
      have hc : c = ',' := hv c (by rw [← List.nil_append v, ← h]; rfl)
      exact absurd (hc ▸ List.mem_cons_self) ha
    | cons e b =>
      obtain ⟨rfl, hrest⟩ := List.cons.inj h
      obtain ⟨rfl, huv⟩ := ih (fun hc => ha (List.mem_cons_of_mem _ hc))
        (fun hc => hb (List.mem_cons_of_mem _ hc)) hrest
      exact ⟨rfl, huv⟩

theorem head?_commaSeparated (ls : List (List Char)) :
    ∀ c ∈ (commaSeparated ls).head?, c = ',' := by
  cases ls <;> simp [commaSeparated]

theorem commaSeparated_inj {ls ms : List (List Char)} (hls : ∀ l ∈ ls, ',' ∉ l)
    (hms : ∀ m ∈ ms, ',' ∉ m) (h : commaSeparated ls = commaSeparated ms) : ls = ms := by
  induction ls generalizing ms with
  | nil =>
    cases ms with
    | nil => rfl
    | cons m ms => simp [commaSeparated] at h
  | cons l ls ih =>
    cases ms with
    | nil => simp [commaSeparated] at h
    | cons m ms =>
      rw [List.forall_mem_cons] at hls hms
      have hrest : l ++ commaSeparated ls = m ++ commaSeparated ms := by
        simpa [commaSeparated] using h
      obtain ⟨rfl, htail⟩ := append_inj_of_comma hls.1 hms.1 (head?_commaSeparated ls)
        (head?_commaSeparated ms) hrest
      rw [ih hls.2 hms.2 htail]

/-- A text shows a name if the name is not empty and has no comma. -/
def IsShown (name : String) : Prop := name ≠ "" ∧ ',' ∉ name.toList

/-- Names that are shown can be read back. -/
theorem intercalate_inj {l m : List String} (hl : ∀ a ∈ l, IsShown a) (hm : ∀ a ∈ m, IsShown a)
    (h : ", ".intercalate l = ", ".intercalate m) : l = m := by
  have hchars := congrArg String.toList h
  rw [String.toList_intercalate, String.toList_intercalate] at hchars
  have hsep : ", ".toList = [',', ' '] := by decide
  rw [hsep] at hchars
  cases l with
  | nil =>
    cases m with
    | nil => rfl
    | cons b m =>
      rw [List.map_cons, intercalate_cons] at hchars
      have hb : b.toList = [] := (List.append_eq_nil_iff.1 hchars.symm).1
      exact absurd (String.toList_eq_nil_iff.1 hb) (hm b List.mem_cons_self).1
  | cons a l =>
    cases m with
    | nil =>
      rw [List.map_cons, intercalate_cons] at hchars
      have ha : a.toList = [] := (List.append_eq_nil_iff.1 hchars).1
      exact absurd (String.toList_eq_nil_iff.1 ha) (hl a List.mem_cons_self).1
    | cons b m =>
      rw [List.map_cons, List.map_cons, intercalate_cons, intercalate_cons] at hchars
      rw [List.forall_mem_cons] at hl hm
      obtain ⟨hab, htail⟩ := append_inj_of_comma hl.1.2 hm.1.2 (head?_commaSeparated _)
        (head?_commaSeparated _) hchars
      have hmap := commaSeparated_inj (by simpa using fun a ha => (hl.2 a ha).2)
        (by simpa using fun a ha => (hm.2 a ha).2) htail
      rw [String.toList_inj.1 hab, List.map_injective_iff.2 (fun _ _ => String.toList_inj.1) hmap]

theorem NameSet.eq_of_names_eq {s t : NameSet} (h : s.names = t.names) : s = t := by
  cases s
  cases t
  exact (NameSet.mk.injEq ..).mpr h

theorem KeywordSet.render_inj {s t : KeywordSet} (hs : ∀ a ∈ s, IsShown a)
    (ht : ∀ a ∈ t, IsShown a) (h : s.render = t.render) : s = t := by
  have hnames : s.names = t.names := by
    refine intercalate_inj hs ht ?_
    have hchars := congrArg String.toList h
    simp only [render, String.toList_append] at hchars
    exact String.toList_inj.1 (List.append_cancel_left (List.append_cancel_right hchars))
  exact NameSet.eq_of_names_eq hnames

/-! ### Registers -/

/-- The members in increasing order. -/
def NameSet.ofFinset (members : Finset String) : NameSet :=
  ⟨members.sort (· ≤ ·), members.sortedLT_sort.pairwise⟩

namespace NameSet

variable {members others : Finset String}

theorem mem_ofFinset {name : String} : name ∈ ofFinset members ↔ name ∈ members :=
  Finset.mem_sort _

theorem ofFinset_inj : ofFinset members = ofFinset others ↔ members = others := by
  refine ⟨fun h => ?_, congrArg ofFinset⟩
  ext name
  rw [← mem_ofFinset, h, mem_ofFinset]

end NameSet

namespace KeywordStep

variable {ρ : Type} [DecidableEq ρ]

/-- What a step does to sets of names, and its answer there. -/
def onSets (sets : ρ → Finset String) : KeywordStep ρ → KeywordAnswer × (ρ → Finset String)
  | .intern _ => (.done, sets)
  | .insert r name => (.flag (name ∉ sets r), Function.update sets r (Insert.insert name (sets r)))
  | .insertSymbol r name =>
    (.flag (name ∉ sets r), Function.update sets r (Insert.insert name (sets r)))
  | .remove r name => (.flag (name ∈ sets r), Function.update sets r ((sets r).erase name))
  | .clear r => (.done, Function.update sets r ∅)
  | .assign r list => (.done, Function.update sets r list.toFinset)
  | .assignSymbols r list => (.done, Function.update sets r list.toFinset)
  | .extend r other => (.done, Function.update sets r (sets r ∪ sets other))
  | .copy r other => (.done, Function.update sets r (sets other))
  | .contains r name => (.flag (name ∈ sets r), sets)
  | .isSubset r other => (.flag (sets r ⊆ sets other), sets)
  | .equals r other => (.flag (sets r = sets other), sets)
  | .size r => (.count (sets r).card, sets)
  | .names r => (.names (NameSet.ofFinset (sets r)).names, sets)
  | .render r => (.text (KeywordSet.render (NameSet.ofFinset (sets r))), sets)

/-- What steps do to sets of names in turn, and their answers there. -/
def runOnSets (sets : ρ → Finset String) :
    List (KeywordStep ρ) → List KeywordAnswer × (ρ → Finset String)
  | [] => ([], sets)
  | step :: rest =>
    let (answer, sets) := step.onSets sets
    let (answers, sets) := runOnSets sets rest
    (answer :: answers, sets)

/-- The sets of names after steps that start with empty ones. -/
def membersAfter (steps : List (KeywordStep ρ)) : ρ → Finset String :=
  (runOnSets (fun _ => ∅) steps).2

end KeywordStep

namespace KeywordRegisters

variable {ρ : Type} {d : KeywordRegisters ρ} {sets : ρ → Finset String}

/-- The registers hold the given sets of names. -/
structure Holds (d : KeywordRegisters ρ) (sets : ρ → Finset String) : Prop where
  bijective : d.table.IsBijective
  represents : ∀ r, (d.sets r).Represents d.table (sets r)

theorem holds_start {table : SymbolTable} (hbij : table.IsBijective) :
    (start table : KeywordRegisters ρ).Holds fun _ => ∅ :=
  ⟨hbij, fun _ => SymbolSet.represents_empty table⟩

theorem Holds.listed_eq (h : d.Holds sets) (r : ρ) :
    d.listed r = (NameSet.ofFinset (sets r)).names :=
  (h.represents r).names_eq

theorem Holds.text_eq (h : d.Holds sets) (r : ρ) :
    d.text r = KeywordSet.render (NameSet.ofFinset (sets r)) := by
  rw [text, SymbolSet.render, (h.represents r).names_eq]
  rfl

variable [DecidableEq ρ]

theorem Holds.put (h : d.Holds sets) {table : SymbolTable} (hbij : table.IsBijective)
    (hext : table.Extends d.table) {s : SymbolSet} {members : Finset String}
    (hs : s.Represents table members) (r : ρ) :
    (d.put r s table).Holds (Function.update sets r members) := by
  refine ⟨hbij, fun r' => ?_⟩
  by_cases hr : r' = r
  · subst hr
    simpa [KeywordRegisters.put] using hs
  · simpa [KeywordRegisters.put, hr] using (h.represents r').mono hext

/-- **A step on symbols is the step on names.** -/
theorem Holds.apply (h : d.Holds sets) (step : KeywordStep ρ) :
    (d.apply step).1 = (step.onSets sets).1 ∧ (d.apply step).2.Holds (step.onSets sets).2 := by
  have hself : d.table.Extends d.table := fun _ _ h => h
  cases step with
  | intern name =>
    refine ⟨rfl, h.bijective.intern name, fun r => ?_⟩
    exact (h.represents r).mono (d.table.extends_intern name)
  | insert r name =>
    obtain ⟨hadded, hset⟩ := (h.represents r).insert name
    exact ⟨congrArg _ hadded, h.put (h.bijective.intern name) (d.table.extends_intern name) hset r⟩
  | insertSymbol r name =>
    obtain ⟨hadded, hset⟩ := (h.represents r).insert name
    exact ⟨congrArg _ hadded, h.put (h.bijective.intern name) (d.table.extends_intern name) hset r⟩
  | remove r name =>
    obtain ⟨hremoved, hset⟩ := (h.represents r).remove h.bijective name
    exact ⟨congrArg _ hremoved, h.put h.bijective hself hset r⟩
  | clear r => exact ⟨rfl, h.put h.bijective hself (SymbolSet.represents_empty _) r⟩
  | assign r names =>
    obtain ⟨hbij, hext, hset⟩ :=
      (SymbolSet.represents_empty d.table).insertAll h.bijective names
    rw [Finset.empty_union] at hset
    exact ⟨rfl, h.put hbij hext hset r⟩
  | assignSymbols r names =>
    obtain ⟨hbij, hext, hnames⟩ := SymbolTable.internAll_spec h.bijective names
    have hset := (SymbolSet.represents_empty _).insertSymbols hnames
    rw [Finset.empty_union] at hset
    exact ⟨rfl, h.put hbij hext hset r⟩
  | extend r other =>
    exact ⟨rfl, h.put h.bijective hself ((h.represents r).extend (h.represents other)) r⟩
  | copy r other => exact ⟨rfl, h.put h.bijective hself (h.represents other) r⟩
  | contains r name =>
    exact ⟨congrArg _ ((h.represents r).contains_eq h.bijective name), h⟩
  | isSubset r other =>
    exact ⟨congrArg _ ((h.represents r).isSubset_eq (h.represents other)), h⟩
  | equals r other =>
    refine ⟨congrArg KeywordAnswer.flag ?_, h⟩
    exact decide_eq_decide.2 ((h.represents r).eq_iff (h.represents other) h.bijective)
  | size r => exact ⟨congrArg _ (h.represents r).size_eq, h⟩
  | names r => exact ⟨congrArg _ (h.listed_eq r), h⟩
  | render r => exact ⟨congrArg KeywordAnswer.text (h.text_eq r), h⟩

theorem Holds.run (h : d.Holds sets) (steps : List (KeywordStep ρ)) :
    (d.run steps).1 = (KeywordStep.runOnSets sets steps).1 ∧
      (d.run steps).2.Holds (KeywordStep.runOnSets sets steps).2 := by
  induction steps generalizing d sets with
  | nil => exact ⟨rfl, h⟩
  | cons step steps ih =>
    obtain ⟨hanswer, hnext⟩ := h.apply step
    obtain ⟨hanswers, hend⟩ := ih hnext
    exact ⟨congrArg₂ List.cons hanswer hanswers, hend⟩

/-- The registers after steps that start with empty ones. -/
def after (table : SymbolTable) (steps : List (KeywordStep ρ)) : KeywordRegisters ρ :=
  ((start table).run steps).2

theorem apply_insertSymbol (h : d.table.IsBijective) {symbol : Nat} {name : String}
    (hname : d.table.resolve? symbol = some name) (r : ρ) :
    d.apply (.insertSymbol r name) =
      (.flag ((d.sets r).insertSymbol d.table symbol).1,
        d.put r ((d.sets r).insertSymbol d.table symbol).2 d.table) := by
  rw [apply, SymbolTable.intern_of_find? ((h name symbol).2 hname)]

/-- **Sets of symbols are sets of names.**  Names and symbols correspond one to one in the table at
the start.  Then all answers of steps on the registers, whatever the steps are and in whatever order
names are interned, are those of the same steps on sets of names.  In the end every register lists
its members by strictly increasing name, and a symbol at hand is added as its name.  Two registers
hold equal sets, with the same text, exactly if they have the same members.  Sets that were made by
other steps, over another table, list the same names and have the same text exactly if they have the
same members; and the text alone tells sets apart whose names it shows. -/
theorem run_canonical {table : SymbolTable} (hbij : table.IsBijective)
    (steps : List (KeywordStep ρ)) :
    let d := after table steps
    let members := KeywordStep.membersAfter steps
    ((start table).run steps).1 = (KeywordStep.runOnSets (fun _ => ∅) steps).1 ∧
    (∀ r, (d.listed r).Pairwise (· < ·) ∧ ∀ name, name ∈ d.listed r ↔ name ∈ members r) ∧
    (∀ r symbol name, d.table.resolve? symbol = some name → d.apply (.insertSymbol r name) =
      (.flag ((d.sets r).insertSymbol d.table symbol).1,
        d.put r ((d.sets r).insertSymbol d.table symbol).2 d.table)) ∧
    (∀ r r', (d.sets r = d.sets r' ↔ members r = members r') ∧
      (d.sets r = d.sets r' ∧ d.text r = d.text r' ↔ members r = members r')) ∧
    ∀ (table' : SymbolTable) (steps' : List (KeywordStep ρ)), table'.IsBijective →
      let d' := after table' steps'
      let members' := KeywordStep.membersAfter steps'
      ∀ r r', (d.listed r = d'.listed r' ↔ members r = members' r') ∧
        (d.listed r = d'.listed r' ∧ d.text r = d'.text r' ↔ members r = members' r') ∧
        ((∀ name ∈ members r ∪ members' r', IsShown name) → d.text r = d'.text r' →
          members r = members' r') := by
  intro d members
  obtain ⟨hanswers, hend⟩ := (holds_start hbij).run steps
  have htext : ∀ r, d.text r = KeywordSet.render (.ofFinset (members r)) := hend.text_eq
  refine ⟨hanswers, fun r => ⟨(hend.represents r).increasing, (hend.represents r).mem_names⟩,
    fun r symbol name hname => apply_insertSymbol hend.bijective hname r, fun r r' => ?_, ?_⟩
  · have hequal : d.sets r = d.sets r' ↔ members r = members r' :=
      (hend.represents r).eq_iff (hend.represents r') hend.bijective
    refine ⟨hequal, fun h => hequal.1 h.1, fun h => ⟨hequal.2 h, ?_⟩⟩
    rw [htext, htext, h]
  · intro table' steps' hbij' d' members' r r'
    obtain ⟨-, hend'⟩ := (holds_start hbij').run steps'
    have htext' : d'.text r' = KeywordSet.render (.ofFinset (members' r')) := hend'.text_eq r'
    have hlisted : d.listed r = d'.listed r' ↔ members r = members' r' := by
      have hnames : d.listed r = (NameSet.ofFinset (members r)).names := hend.listed_eq r
      have hnames' : d'.listed r' = (NameSet.ofFinset (members' r')).names := hend'.listed_eq r'
      rw [hnames, hnames']
      exact ⟨fun h => NameSet.ofFinset_inj.1 (NameSet.eq_of_names_eq h), fun h => by rw [h]⟩
    refine ⟨hlisted, ⟨fun h => hlisted.1 h.1, fun h => ⟨hlisted.2 h, ?_⟩⟩, fun hshown h => ?_⟩
    · rw [htext, htext', h]
    · rw [htext, htext'] at h
      refine NameSet.ofFinset_inj.1 (KeywordSet.render_inj (fun name hname => ?_)
        (fun name hname => ?_) h)
      · exact hshown name (Finset.mem_union_left _ (NameSet.mem_ofFinset.1 hname))
      · exact hshown name (Finset.mem_union_right _ (NameSet.mem_ofFinset.1 hname))

/-- Two sets of winter keywords, made in different ways. -/
def winterSteps : List (KeywordStep Nat) :=
  [.insert 0 "WET", .insert 0 "ICE", .insert 0 "WET", .insertSymbol 0 "SNOW",
    .assign 1 ["SNOW", "DRY", "ICE"], .remove 1 "DRY", .extend 1 0, .equals 1 0, .names 1]

/-- A table that has the names at the start and one that is empty give them different symbols. -/
theorem run_canonical_winter :
    SymbolTable.IsBijective ⟨["WET", "SNOW", "ICE"]⟩ ∧ SymbolTable.IsBijective .empty ∧
    (KeywordStep.runOnSets (fun _ => ∅) winterSteps).1 =
      [.flag true, .flag true, .flag false, .flag true, .done, .flag true, .done, .flag true,
        .names ["ICE", "SNOW", "WET"]] ∧
    ((after ⟨["WET", "SNOW", "ICE"]⟩ winterSteps).sets 1).symbols = [2, 1, 0] ∧
    ((after .empty winterSteps).sets 1).symbols = [1, 2, 0] ∧
    KeywordStep.membersAfter winterSteps 0 = KeywordStep.membersAfter winterSteps 1 ∧
    (after ⟨["WET", "SNOW", "ICE"]⟩ winterSteps).text 0 = (after .empty winterSteps).text 1 := by
  have hfull : SymbolTable.IsBijective ⟨["WET", "SNOW", "ICE"]⟩ :=
    SymbolTable.isBijective_iff.2 (by decide)
  have hempty : SymbolTable.IsBijective .empty := SymbolTable.isBijective_iff.2 List.nodup_nil
  obtain ⟨hanswers, -, -, hequal, hother⟩ := run_canonical hfull winterSteps
  have hmembers : KeywordStep.membersAfter winterSteps 0 =
      KeywordStep.membersAfter winterSteps 1 := (hequal 0 1).1.1 (by decide +kernel)
  refine ⟨hfull, hempty, hanswers ▸ ?_, ?_, ?_, hmembers, ?_⟩
  · decide +kernel
  · decide +kernel
  · decide +kernel
  · exact ((hother .empty winterSteps hempty 0 1).2.1.2 hmembers).2

end KeywordRegisters

end PassForge
