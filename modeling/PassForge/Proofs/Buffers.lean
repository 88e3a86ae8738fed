import PassForge.Proofs.Plan
import PassForge.Variant.Enumerator

/-!
# Borrowed buffers are not seen

A pool keeps empty buffers only, and not too many of them (`BufferPool.Clean`).  Loans may be made,
written to and ended in any order.  Each step changes the contents of a loan by itself or not at all
(`Loans.buffer?_apply`), so what a loan holds is what was written to it since it was made
(`Loans.buffer?_run`).

* `Walker.collect_of_clean`: a walk with borrowed buffers is the plain walk.
* `Enumerator.Mirrors.callAll`: so are all calls of an enumerator, one after the other.
* `Loans.reuse_unobservable`: pools cannot be told from buffers made for each use.
-/

namespace PassForge

/-! ### Pools -/

namespace BufferPool

variable {β : Type} [EmptyCollection β] {p : BufferPool β}

/-- What a pool keeps: empty buffers, and not more than the bound. -/
structure Clean (p : BufferPool β) : Prop where
  empty : ∀ b ∈ p.idle, b = ∅
  bounded : p.idle.length ≤ maxIdle

theorem clean_empty : (empty : BufferPool β).Clean where
  empty := by simp [BufferPool.empty]
  bounded := by simp [BufferPool.empty]

theorem idle_acquire (p : BufferPool β) : p.acquire.2.idle = p.idle.tail := by
  unfold acquire
  split <;> simp [*]

theorem idle_release (p : BufferPool β) (b : β) :
    (p.release b).idle = if p.idle.length < maxIdle then ∅ :: p.idle else p.idle := by
  unfold release
  split <;> rfl

theorem Clean.acquired (h : p.Clean) : p.acquire.1 = ∅ := by
  unfold BufferPool.acquire
  split
  · rfl
  · rename_i b rest hidle
    exact h.empty b (by simp [hidle])

theorem Clean.acquire (h : p.Clean) : p.acquire.2.Clean where
  empty := by
    rw [idle_acquire]
    intro b hb
    exact h.empty b (List.mem_of_mem_tail hb)
  bounded := by
    have hle := h.bounded
    rw [idle_acquire, List.length_tail]
    omega

theorem Clean.release (h : p.Clean) (b : β) : (p.release b).Clean where
  empty := by
    rw [idle_release]
    split
    · intro c hc
      rcases List.mem_cons.1 hc with rfl | hc
      · rfl
      · exact h.empty c hc
    · exact h.empty
  bounded := by
    have hle := h.bounded
    rw [idle_release]
    split
    · rw [List.length_cons]
      omega
    · exact hle

end BufferPool

/-! ### Loans -/

namespace LoanStep

variable {β : Type}

/-- Whether a step makes a loan. -/
def isAcquire : LoanStep β → Bool
  | acquire => true
  | _ => false

/-- Whether a step ends a loan. -/
def ends (i : Nat) : LoanStep β → Bool
  | drop j => j == i
  | take j => j == i
  | _ => false

/-- What a step writes to a loan. -/
def effect (i : Nat) : LoanStep β → β → β
  | write j f => if j = i then f else id
  | _ => id

/-- The number of the loan that is made after some steps. -/
def nextLoan (steps : List (LoanStep β)) : Nat := steps.countP isAcquire

/-- What the steps since a loan was made write to it, from an empty buffer on.  Once it has ended,
there is nothing left of it. -/
def written [EmptyCollection β] (i : Nat) (steps : List (LoanStep β)) : Option β :=
  if steps.any (·.ends i) then none else some (steps.foldl (fun b s => s.effect i b) ∅)

end LoanStep

namespace Loans

variable {β : Type}

theorem buffer?_set_none (l : Loans β) (p : BufferPool β) (i j : Nat) :
    buffer? ⟨p, l.buffers.set j none⟩ i = if j = i then none else l.buffer? i := by
  rw [buffer?, List.getElem?_set]
  by_cases hj : j = i
  · subst hj
    by_cases hlt : j < l.buffers.length <;> simp [hlt]
  · simp [hj, buffer?]

variable [EmptyCollection β] {l : Loans β} {s : LoanStep β} {i : Nat}

theorem length_buffers_apply (l : Loans β) (s : LoanStep β) :
    (l.apply s).buffers.length = l.buffers.length + if s.isAcquire then 1 else 0 := by
  cases s with
  | acquire => simp [apply, acquire, LoanStep.isAcquire]
  | write j f => simp [apply, write, LoanStep.isAcquire]
  | drop j =>
    rw [apply, drop]
    split <;> simp [LoanStep.isAcquire]
  | take j => simp [apply, take, detach, LoanStep.isAcquire]

theorem length_buffers_run (l : Loans β) (steps : List (LoanStep β)) :
    (l.run steps).buffers.length = l.buffers.length + LoanStep.nextLoan steps := by
  induction steps generalizing l with
  | nil => rfl
  | cons s steps ih =>
    rw [run, List.foldl_cons, ← run, ih, length_buffers_apply, LoanStep.nextLoan,
      LoanStep.nextLoan, List.countP_cons]
    omega

/-- A step ends a loan or changes its contents by what it writes; other loans are not touched. -/
theorem buffer?_apply (hi : i < l.buffers.length) :
    (l.apply s).buffer? i = if s.ends i then none else (l.buffer? i).map (s.effect i) := by
  cases s with
  | acquire =>
    simp [apply, acquire, buffer?, List.getElem?_append_left hi, LoanStep.ends, LoanStep.effect]
  | write j f =>
    rw [apply, write, buffer?, List.getElem?_modify, buffer?]
    by_cases hj : j = i
    · cases l.buffers[i]? <;> simp [LoanStep.ends, LoanStep.effect, hj]
    · cases l.buffers[i]? <;> simp [LoanStep.ends, LoanStep.effect, hj]
  | drop j =>
    rw [apply, drop]
    split
    · rename_i hnone
      by_cases hj : j = i
      · simp [LoanStep.ends, hj, ← hnone]
      · simp [LoanStep.ends, hj, LoanStep.effect]
    · rw [buffer?_set_none]
      simp [LoanStep.ends, LoanStep.effect]
  | take j =>
    rw [apply, take, detach, buffer?_set_none]
    simp [LoanStep.ends, LoanStep.effect]

/-- **A loan holds what was written to it**, until it ends. -/
theorem buffer?_run (hi : i < l.buffers.length) (steps : List (LoanStep β)) :
    (l.run steps).buffer? i =
      if steps.any (·.ends i) then none
      else (l.buffer? i).map fun b => steps.foldl (fun b s => s.effect i b) b := by
  induction steps generalizing l with
  | nil => simp [run]
  | cons s steps ih =>
    have hlt : i < (l.apply s).buffers.length := by
      rw [length_buffers_apply]
      omega
    rw [run, List.foldl_cons, ← run, ih hlt, buffer?_apply hi, List.any_cons]
    by_cases hends : s.ends i = true
    · simp [hends]
    · simp [hends, Function.comp_def]

theorem clean_apply (h : l.pool.Clean) (s : LoanStep β) : (l.apply s).pool.Clean := by
  cases s with
  | acquire => exact h.acquire
  | write j f => exact h
  | drop j =>
    rw [apply, drop]
    split
    · exact h
    · exact h.release _
  | take j => exact h

theorem clean_run (h : l.pool.Clean) (steps : List (LoanStep β)) : (l.run steps).pool.Clean := by
  induction steps generalizing l with
  | nil => exact h
  | cons s steps ih => exact ih (clean_apply h s)

/-- The pool that steps leave, begun with a new one. -/
def poolAfter (steps : List (LoanStep β)) : BufferPool β := ((empty : Loans β).run steps).pool

theorem clean_poolAfter (steps : List (LoanStep β)) : (poolAfter steps).Clean :=
  clean_run BufferPool.clean_empty steps

theorem buffer?_acquire (h : l.pool.Clean) : l.acquire.buffer? l.buffers.length = some ∅ := by
  simp [acquire, buffer?, h.acquired]

theorem buffer?_run_acquire (before after : List (LoanStep β)) :
    ((empty : Loans β).run (before ++ .acquire :: after)).buffer? (LoanStep.nextLoan before) =
      LoanStep.written (LoanStep.nextLoan before) after := by
  have hlength : ((empty : Loans β).run before).buffers.length = LoanStep.nextLoan before := by
    rw [length_buffers_run]
    simp [empty]
  have hmade : ((empty : Loans β).run before).acquire.buffer? (LoanStep.nextLoan before) =
      some ∅ := by
    rw [← hlength]
    exact buffer?_acquire (clean_poolAfter before)
  have hlt : LoanStep.nextLoan before <
      (((empty : Loans β).run before).apply .acquire).buffers.length := by
    rw [length_buffers_apply, hlength]
    simp [LoanStep.isAcquire]
  rw [run, List.foldl_append, List.foldl_cons, ← run, ← run, buffer?_run hlt after, apply, hmade]
  rfl

theorem idle_drop (l : Loans β) (i : Nat) : (l.drop i).pool.idle =
    if (l.buffer? i).isSome ∧ l.pool.idle.length < BufferPool.maxIdle then ∅ :: l.pool.idle
    else l.pool.idle := by
  rw [drop]
  cases l.buffer? i with
  | none => simp
  | some b => simp [BufferPool.idle_release]

end Loans

/-! ### Walks -/

namespace DepthFirst

variable {α : Type} [DecidableEq α] {next : α → List α}

theorem run_eq_run {bound bound' : List α} {closed : ∀ a b, b ∈ next a → b ∈ bound}
    {closed' : ∀ a b, b ∈ next a → b ∈ bound'} {met listed : List α} {stack : List (Frame α)}
    {h : ∀ f ∈ stack, f.item ∈ bound} (h' : ∀ f ∈ stack, f.item ∈ bound') :
    run next bound closed met listed stack h = run next bound' closed' met listed stack h' := by
  rw [run]
  fun_induction sweep next bound closed met listed stack h with
  | case1 => rw [run, sweep]
  | case2 met listed a rest _ _ ih => rw [run_leave, ih]
  | case3 met listed a rest _ hmet _ ih => rw [run_enter_of_mem hmet, ih]
  | case4 met listed a rest _ hmet ha _ _ ih =>
    -- the frames that the item puts on the stack lie within the other bound as well
    have hrest : ∀ f ∈ unfolded next a (a :: met) ++ rest, f.item ∈ bound' := by
      intro f hf
      rcases List.mem_append.1 hf with hf | hf
      · exact item_mem_of_mem_unfolded next bound' (h' _ List.mem_cons_self) closed' hf
      · exact h' f (List.mem_cons_of_mem _ hf)
    rw [run_enter_of_not_mem hmet hrest, ih]

end DepthFirst

namespace Walker

variable {w : Walker}

/-- All buffers that a walker keeps are empty. -/
structure Clean (w : Walker) : Prop where
  visited : w.visited.Clean
  stack : w.stack.Clean

theorem clean_new (g : MaterialGraph) : (new g).Clean :=
  ⟨BufferPool.clean_empty, BufferPool.clean_empty⟩

theorem search_empty (g : MaterialGraph) (root : NodeId) (gate : Gate) (initial : List NodeId) :
    (search g root gate (initial ++ ∅) initial ∅).listed = g.walkFrom root gate initial := by
  rw [show initial ++ ∅ = initial from List.append_nil initial]
  exact DepthFirst.run_eq_run _

/-- **A walk with borrowed buffers is the plain walk**, and leaves empty buffers. -/
theorem collect_of_clean (h : w.Clean) (root : NodeId) (gate : Gate) (initial : List NodeId) :
    ∃ w', w.collect root gate initial = (w.graph.collect root gate initial, w') ∧
      w'.graph = w.graph ∧ w'.Clean := by
  rw [collect, MaterialGraph.collect]
  cases w.graph.node root with
  | error e => exact ⟨w, rfl, rfl, h⟩
  | ok n =>
    have hlisted := search_empty w.graph root gate initial
    simp only [h.visited.acquired, h.stack.acquired, hlisted]
    exact ⟨_, rfl, rfl, h.visited.acquire.release _, h.stack.acquire.release _⟩

end Walker

/-! ### Enumerations -/

theorem wheelsAt?_zero (groups : List KeywordGroup) (h : ∀ g ∈ groups, g.isEmpty = false) :
    wheelsAt? groups (List.replicate groups.length 0) = some (groups.pmap Wheel.ofGroup h) := by
  induction groups with
  | nil => rfl
  | cons g groups ih =>
    have hlt : 0 < g.options.length := (Wheel.ofGroup g (h g List.mem_cons_self)).position.isLt
    have hwheel : Wheel.at? g 0 = some (Wheel.ofGroup g (h g List.mem_cons_self)) := by
      rw [Wheel.at?, dif_pos hlt]
      rfl
    rw [List.length_cons, List.replicate_succ, wheelsAt?, hwheel,
      ih fun g hg => h g (List.mem_cons_of_mem _ hg)]
    rfl

/-- An odometer that starts from an empty buffer starts at its first reading. -/
theorem GroupTable.wheelsAt?_resized (t : GroupTable) :
    ∃ wheels, wheelsAt? t.groups (resized t.groups.length ∅) = some wheels ∧
      wheels.reverse = t.odometer := by
  refine ⟨t.groups.pmap Wheel.ofGroup t.offered, ?_, ?_⟩
  · have hzero : resized t.groups.length ∅ = List.replicate t.groups.length 0 :=
      show [].take _ ++ _ = _ by simp
    rw [hzero, wheelsAt?_zero]
  · rw [GroupTable.odometer, List.pmap_eq_map_attach]

namespace Enumerator

variable {e : Enumerator} {g : MaterialGraph} {limit : Nat} {t : GroupTable}

/-- The answer to a call where every buffer is made for it, and the groups found then. -/
def Call.plain (g : MaterialGraph) (limit : Nat) (t : GroupTable) : Call → Answer × GroupTable
  | walk root gate initial => (.nodes (g.collect root gate initial), t)
  | collectGroups root slots =>
    match t.collect g root slots with
    | .error err => (.groups (.error err), t)
    | .ok t => (.groups (.ok ()), t)
  | enumerate => (.variants (t.enumerate limit), t)

/-- The answers to calls in turn. -/
def Call.plainAll (g : MaterialGraph) (limit : Nat) (t : GroupTable) :
    List Call → List Answer × GroupTable
  | [] => ([], t)
  | c :: calls =>
    let rest := plainAll g limit (c.plain g limit t).2 calls
    ((c.plain g limit t).1 :: rest.1, rest.2)

/-- An enumerator is at some groups, and all buffers that it keeps are empty. -/
structure Mirrors (e : Enumerator) (g : MaterialGraph) (limit : Nat) (t : GroupTable) : Prop where
  graph : e.walker.graph = g
  limit : e.limit = limit
  groups : e.groups = t
  walker : e.walker.Clean
  nodes : e.nodes.Clean
  positions : e.positions.Clean

theorem Mirrors.renewed (h : e.Mirrors g limit t) : e.renewed.Mirrors g limit t :=
  ⟨h.graph, h.limit, h.groups, Walker.clean_new _, BufferPool.clean_empty, BufferPool.clean_empty⟩

theorem Mirrors.collectGroups (h : e.Mirrors g limit t) (root : NodeId) (slots : List SlotId) :
    ∃ e', e.call (.collectGroups root slots) =
        some ((Call.plain g limit t (.collectGroups root slots)).1, e') ∧
      e'.Mirrors g limit (Call.plain g limit t (.collectGroups root slots)).2 := by
  obtain ⟨w', hwalk, hgraph, hclean⟩ := Walker.collect_of_clean h.walker root ⟨some slots, none⟩ ∅
  rw [h.graph] at hwalk hgraph
  simp only [call, Enumerator.collectGroups, h.nodes.acquired, hwalk, Call.plain,
    GroupTable.collect, MaterialGraph.walk]
  cases hids : g.collect root ⟨some slots, none⟩ [] with
  | error err =>
    exact ⟨_, rfl, hgraph, h.limit, h.groups, hclean, h.nodes.acquire.release _, h.positions⟩
  | ok ids =>
    refine ⟨_, rfl, hgraph, h.limit, ?_, hclean, h.nodes.acquire.release _, h.positions⟩
    show e.groups.insertAll ((ids.filterMap w'.graph.node?).flatMap Node.groups) = _
    rw [h.groups, hgraph]
    rfl

theorem Mirrors.enumerate (h : e.Mirrors g limit t) :
    ∃ e', e.call .enumerate = some ((Call.plain g limit t .enumerate).1, e') ∧
      e'.Mirrors g limit (Call.plain g limit t .enumerate).2 := by
  obtain ⟨wheels, hwheels, hodometer⟩ := t.completed.wheelsAt?_resized
  simp only [Enumerator.call, Enumerator.enumerate, h.limit, h.groups, h.positions.acquired,
    hwheels, Call.plain, GroupTable.enumerate]
  by_cases hlimit : limit < t.productSize
  · simp only [hlimit, if_true]
    exact ⟨e, rfl, h⟩
  · simp only [hlimit, if_false, Option.bind_eq_bind, Option.bind_some, hodometer]
    exact ⟨_, rfl, h.graph, rfl, rfl, h.walker, h.nodes, h.positions.acquire.release _⟩

/-- Each call is answered as with new buffers, and leaves the enumerator at the same groups. -/
theorem Mirrors.call (h : e.Mirrors g limit t) (c : Call) :
    ∃ e', e.call c = some ((c.plain g limit t).1, e') ∧
      e'.Mirrors g limit (c.plain g limit t).2 := by
  cases c with
  | walk root gate initial =>
    obtain ⟨w', hwalk, hgraph, hclean⟩ := Walker.collect_of_clean h.walker root gate initial
    rw [h.graph] at hwalk hgraph
    refine ⟨{ e with walker := w' }, ?_, hgraph, h.limit, h.groups, hclean, h.nodes, h.positions⟩
    simp only [Enumerator.call, hwalk, Call.plain]
  | collectGroups root slots => exact h.collectGroups root slots
  | enumerate => exact h.enumerate

theorem Mirrors.callAll (h : e.Mirrors g limit t) (calls : List Call) :
    ∃ e', e.callAll calls = some ((Call.plainAll g limit t calls).1, e') ∧
      e'.Mirrors g limit (Call.plainAll g limit t calls).2 := by
  induction calls generalizing e t with
  | nil => exact ⟨e, rfl, h⟩
  | cons c calls ih =>
    obtain ⟨e₁, hcall, h₁⟩ := h.call c
    obtain ⟨e₂, hcalls, h₂⟩ := ih h₁
    refine ⟨e₂, ?_, h₂⟩
    simp only [Enumerator.callAll, hcall, hcalls, Option.bind_eq_bind, Option.bind_some,
      Call.plainAll, Option.pure_def]

end Enumerator

/-! ### Main theorem -/

namespace Loans

open LoanStep Enumerator in
/-- **Reused buffers cannot be told from new ones.**  Loans of one pool may be made, written to and
ended in any order.  A loan holds, and hands over, what was written to it since it was made.  The
idle buffers of the pool are empty and at most eight; one of them goes with a new loan, if there is
any, and one comes with the end of a loan that is not taken, if there is room.  So with pools that
have been used in any way, walks and enumerations give what they give with new buffers, whatever
calls come before them. -/
theorem reuse_unobservable :
    (∀ (β : Type) [EmptyCollection β] (before after : List (LoanStep β)),
      let loans := (empty : Loans β).run (before ++ .acquire :: after)
      loans.buffer? (nextLoan before) = written (nextLoan before) after ∧
      (loans.take (nextLoan before)).1 = written (nextLoan before) after) ∧
    (∀ (β : Type) [EmptyCollection β] (steps : List (LoanStep β)),
      let loans := (empty : Loans β).run steps
      let idle := loans.pool.idle
      (∀ b ∈ idle, b = ∅) ∧ idle.length ≤ 8 ∧
      loans.acquire.pool.idle = idle.tail ∧
      (∀ i, (loans.drop i).pool.idle =
        if (loans.buffer? i).isSome ∧ idle.length < 8 then ∅ :: idle else idle) ∧
      (∀ i f, (loans.write i f).pool.idle = idle) ∧
      ∀ i, (loans.take i).2.pool.idle = idle) ∧
    ∀ (g : MaterialGraph) (limit : Nat) (t : GroupTable)
      (visited nodes : List (LoanStep (List NodeId)))
      (stack : List (LoanStep (List (DepthFirst.Frame NodeId))))
      (positions : List (LoanStep (List Nat))) (calls : List Call),
      ∃ e, callAll ⟨⟨g, poolAfter visited, poolAfter stack⟩, t, limit, poolAfter nodes,
          poolAfter positions⟩ calls = some ((Call.plainAll g limit t calls).1, e) ∧
        e.groups = (Call.plainAll g limit t calls).2 ∧
        ∀ c, (e.call c).map Prod.fst = (e.renewed.call c).map Prod.fst := by
  refine ⟨fun β _ before after => ?_, fun β _ steps => ?_,
    fun g limit t visited nodes stack positions calls => ?_⟩
  · exact ⟨buffer?_run_acquire before after, buffer?_run_acquire before after⟩
  · have hclean := clean_poolAfter steps
    exact ⟨hclean.empty, hclean.bounded, BufferPool.idle_acquire _, idle_drop _, fun _ _ => rfl,
      fun _ => rfl⟩
  · have hstart : Mirrors ⟨⟨g, poolAfter visited, poolAfter stack⟩, t, limit, poolAfter nodes,
        poolAfter positions⟩ g limit t :=
      ⟨rfl, rfl, rfl, ⟨clean_poolAfter visited, clean_poolAfter stack⟩, clean_poolAfter nodes,
        clean_poolAfter positions⟩
    obtain ⟨e, hcalls, he⟩ := hstart.callAll calls
    refine ⟨e, hcalls, he.groups, fun c => ?_⟩
    obtain ⟨_, hcall, -⟩ := he.call c
    obtain ⟨_, hnew, -⟩ := he.renewed.call c
    rw [hcall, hnew, Option.map_some, Option.map_some]

/-- Two loans at a time, of which the first is given back. -/
def overlapping : List (LoanStep (List Int)) :=
  [.acquire, .write 0 (· ++ [1]), .acquire, .write 1 (· ++ [2]), .drop 0]

/-- The walker of `stone` with a buffer in which a node of the graph has been, and no groups. -/
def wornStone : Enumerator where
  walker := ⟨.stone, poolAfter [.acquire, .write 0 fun _ => [⟨2, 1⟩], .drop 0], poolAfter []⟩
  groups := .empty
  limit := 256
  nodes := poolAfter []
  positions := poolAfter [.acquire, .write 0 fun _ => [1, 1], .drop 0]

/-- Collecting the groups of `stone`, with roots among them that it does not have. -/
def stoneCalls : List Enumerator.Call := [
  .walk ⟨1, 1⟩ ⟨none, none⟩ [], .collectGroups ⟨4, 1⟩ [1], .collectGroups ⟨1, 1⟩ [0],
  .collectGroups ⟨4, 1⟩ [0]]

/-- The buffer that comes back is empty, and the third loan, which gets it, holds its own only.
After calls that fail, the variants of `stone` come out as with new buffers. -/
theorem reuse_unobservable_stone :
    (∃ b ∈ ((empty : Loans (List Int)).run overlapping).pool.idle, b = ∅) ∧
    ((empty : Loans (List Int)).run (overlapping ++ [.acquire, .write 2 (· ++ [3])])).buffer? 2 =
      some [3] ∧
    ∃ e, wornStone.callAll stoneCalls =
        some ((Enumerator.Call.plainAll .stone 256 .empty stoneCalls).1, e) ∧
      e.groups = Generator.stoneGroups ∧
      (e.call .enumerate).map Prod.fst = (e.renewed.call .enumerate).map Prod.fst := by
  obtain ⟨hloans, hidle, hcalls⟩ := reuse_unobservable
  obtain ⟨e, hanswers, hgroups, hnew⟩ := hcalls .stone 256 .empty
    [.acquire, .write 0 fun _ => [⟨2, 1⟩], .drop 0] [] []
    [.acquire, .write 0 fun _ => [1, 1], .drop 0] stoneCalls
  have hstone : (Enumerator.Call.plainAll .stone 256 .empty stoneCalls).2 =
      Generator.stoneGroups := by
    obtain ⟨t, hvertex, hpixel⟩ := bind_eq_ok_iff.1 Generator.collectGroups_stone
    have hmissing : t.collect .stone ⟨1, 1⟩ [0] = .error (.unknownNode ⟨1, 1⟩) := rfl
    simp only [stoneCalls, Enumerator.Call.plainAll, Enumerator.Call.plain]
    rw [show GroupTable.empty.collect .stone ⟨4, 1⟩ [1] = .ok t from hvertex]
    simp only [hmissing]
    rw [show t.collect .stone ⟨4, 1⟩ [0] = .ok Generator.stoneGroups from hpixel]
  exact ⟨⟨[], List.mem_singleton_self _, (hidle _ overlapping).1 [] (List.mem_singleton_self _)⟩,
    (hloans _ overlapping [.write 2 (· ++ [3])]).1, e, hanswers, hgroups.trans hstone,
    hnew .enumerate⟩

end Loans

end PassForge
