import PassForge.Keyword.Basic

/-!
# Keyword groups

One declared set of mutually exclusive options.  The order of declaration drives enumeration and
the written pragma; the identity of a group is its set of options, so the same options in another
order declare the same group.
-/

namespace PassForge

theorem nodup_eraseDups_of_length_le {n : Nat} {l : List String} (h : l.length ≤ n) :
    l.eraseDups.Nodup := by
  induction n generalizing l with
  | zero =>
    rw [List.length_eq_zero_iff.1 (Nat.le_zero.1 h)]
    exact List.nodup_nil
  | succ n ih =>
    cases l with
    | nil => exact List.nodup_nil
    | cons a l =>
      rw [List.eraseDups_cons]
      refine List.nodup_cons.2 ⟨fun ha => ?_, ih ?_⟩
      · simpa using List.mem_eraseDups.1 ha
      · exact Nat.le_trans (List.length_filter_le _ _) (Nat.le_of_succ_le_succ h)

/-- Dropping later repetitions leaves no repetition. -/
theorem nodup_eraseDups (l : List String) : l.eraseDups.Nodup :=
  nodup_eraseDups_of_length_le (Nat.le_refl _)

/-- A set of mutually exclusive options in order of declaration. -/
structure KeywordGroup where
  /-- The options, each once. -/
  options : List String
  /-- No option is repeated. -/
  distinct : options.Nodup
deriving Repr

namespace KeywordGroup

/-- The group of a list of options; later repetitions are dropped. -/
def ofOptions (options : List String) : KeywordGroup :=
  ⟨options.eraseDups, nodup_eraseDups options⟩

/-- The group whose only option is the default one. -/
def allDefault : KeywordGroup := ofOptions [defaultOption]

/-- The number of options. -/
def size (g : KeywordGroup) : Nat := g.options.length

/-- Whether the group has no option. -/
def isEmpty (g : KeywordGroup) : Bool := g.options.isEmpty

/-- The set of options, which identifies the group. -/
def identity (g : KeywordGroup) : NameSet := NameSet.ofList g.options

/-- Groups with the same set of options are interchangeable. -/
instance : BEq KeywordGroup := ⟨fun g h => g.identity == h.identity⟩

/-- Whether the default option is on offer. -/
def hasDefault (g : KeywordGroup) : Bool := g.identity.contains defaultOption

/-- The options that are keywords, in order of declaration. -/
def keywords (g : KeywordGroup) : List String := g.options.filter (· ≠ defaultOption)

/-- The declaration as a pragma line. -/
def pragma (g : KeywordGroup) : String :=
  g.options.foldl (fun line option => line ++ " " ++ option) "#pragma multi_compile"

end KeywordGroup

end PassForge
