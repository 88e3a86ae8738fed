/-!
# Depth-first order

`order` lists what can be reached from a start through a relation `next`, every item after all that
it leads to, unless a circle forbids that.  It works on a stack of frames: an item is entered when
it is first met, which puts the items it leads to on the stack above a frame that lists the item
itself.  Items of an initial list count as met.

The search ends because an item is entered once only and all items lie in a given list `bound`.
-/

namespace PassForge.DepthFirst

variable {α : Type} [DecidableEq α]

/-- A step that is still to be taken. -/
inductive Frame (α : Type) where
  /-- Meet an item. -/
  | enter (item : α)
  /-- List an item: all that it leads to has been listed. -/
  | leave (item : α)
deriving DecidableEq, Repr

/-- The item of a frame. -/
def Frame.item : Frame α → α
  | enter a => a
  | leave a => a

/-- The items of `bound` that have not been met. -/
def unmet (bound met : List α) : List α := bound.filter fun a => a ∉ met

theorem length_unmet_cons_lt {bound met : List α} {a : α} (hb : a ∈ bound) (hm : a ∉ met) :
    (unmet bound (a :: met)).length < (unmet bound met).length := by
  have heq : unmet bound (a :: met) = (unmet bound met).filter fun b => b ≠ a := by
    simp [unmet, List.filter_filter, not_or]
  rw [heq]
  exact List.length_filter_lt_length_iff_exists.2 ⟨a, by simp [unmet, hb, hm], by simp⟩

variable (next : α → List α) (bound : List α) (closed : ∀ a b, b ∈ next a → b ∈ bound)

/-- The frames of the items an item leads to and that have not been met, above its own. -/
def unfolded (a : α) (met : List α) : List (Frame α) :=
  ((next a).filter fun b => b ∉ met).map .enter ++ [.leave a]

theorem item_mem_of_mem_unfolded {a : α} {met : List α} (ha : a ∈ bound)
    (hclosed : ∀ a b, b ∈ next a → b ∈ bound) {f : Frame α} (hf : f ∈ unfolded next a met) :
    f.item ∈ bound := by
  rcases List.mem_append.1 hf with h | h
  · obtain ⟨b, hb, rfl⟩ := List.mem_map.1 h
    exact hclosed a b (List.mem_filter.1 hb).1
  · rw [List.mem_singleton.1 h]
    exact ha

/-- Where a search stands. -/
structure Search (α : Type) where
  /-- The items met so far. -/
  met : List α
  /-- The items listed so far. -/
  listed : List α
  /-- The steps to be taken, the next one first. -/
  stack : List (Frame α)
deriving Repr

/-- Takes the steps of a stack.  `met` are the items met so far and `listed` those listed. -/
def sweep (met listed : List α) (stack : List (Frame α)) (hstack : ∀ f ∈ stack, f.item ∈ bound) :
    Search α :=
  match stack with
  | [] => ⟨met, listed, []⟩
  | .leave a :: rest =>
    sweep met (listed ++ [a]) rest fun f hf => hstack f (List.mem_cons_of_mem _ hf)
  | .enter a :: rest =>
    if hmet : a ∈ met then sweep met listed rest fun f hf => hstack f (List.mem_cons_of_mem _ hf)
    else
      have ha : a ∈ bound := hstack (.enter a) List.mem_cons_self
      have _ := length_unmet_cons_lt ha hmet
      sweep (a :: met) listed (unfolded next a (a :: met) ++ rest) fun f hf =>
        (List.mem_append.1 hf).elim (item_mem_of_mem_unfolded next bound ha closed)
          fun h => hstack f (List.mem_cons_of_mem _ h)
termination_by ((unmet bound met).length, stack.length)

/-- The items listed once the steps of a stack have been taken. -/
def run (met listed : List α) (stack : List (Frame α)) (hstack : ∀ f ∈ stack, f.item ∈ bound) :
    List α :=
  (sweep next bound closed met listed stack hstack).listed

/-- The initial list, and then what can be reached from `start` and is not in it. -/
def order (start : α) (hstart : start ∈ bound) (initial : List α) : List α :=
  run next bound closed initial initial [.enter start] fun _ hf =>
    List.mem_singleton.1 hf ▸ hstart

end PassForge.DepthFirst
