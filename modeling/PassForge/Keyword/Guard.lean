import PassForge.Keyword.Basic

/-!
# Guards

Generated code chooses between variants with preprocessor conditions.  The guard of a variant
tests every keyword of the vocabulary: the members of the variant must be defined and the others
must not be.  A guard is kept as its list of tests, with a meaning of its own (`Guard.holds`), and
is written out by `Guard.text?`.

The branches of a pass form one chain of `Condition`s: `#if` for the first variant, `#elif` for the
following ones and `#else` for the empty variant.
-/

namespace PassForge

/-- One test of a guard. -/
inductive GuardTerm where
  /-- The keyword is defined. -/
  | defined (keyword : String)
  /-- The keyword is not defined. -/
  | notDefined (keyword : String)
deriving DecidableEq, Repr

namespace GuardTerm

/-- The test as the preprocessor writes it. -/
def text : GuardTerm → String
  | defined k => "defined(" ++ k ++ ")"
  | notDefined k => "!defined(" ++ k ++ ")"

/-- Whether the test succeeds when exactly the keywords of `defs` are defined. -/
def holds (defs : String → Bool) : GuardTerm → Bool
  | defined k => defs k
  | notDefined k => !defs k

end GuardTerm

/-- A conjunction of tests. -/
abbrev Guard := List GuardTerm

namespace Guard

/-- Whether every test succeeds when exactly the keywords of `defs` are defined. -/
def holds (defs : String → Bool) (g : Guard) : Bool := g.all (GuardTerm.holds defs)

/-- The conjunction as the preprocessor writes it; a guard without tests has no text. -/
def text? (g : Guard) : Option String :=
  if g.isEmpty then none else some (" && ".intercalate (g.map GuardTerm.text))

end Guard

namespace KeywordSet

/-- The guard that selects `s` out of `vocabulary`: the members of `s` in order, then the other
keywords of the vocabulary. -/
def guard (s vocabulary : KeywordSet) : Guard :=
  s.names.map .defined ++ (vocabulary.names.filter (· ∉ s)).map .notDefined

end KeywordSet

/-- The line that opens one branch of a chain. -/
inductive Condition where
  /-- Opens the chain. -/
  | first (guard : Guard)
  /-- Opens a later branch. -/
  | next (guard : Guard)
  /-- Opens the branch of last resort. -/
  | otherwise
deriving DecidableEq, Repr

namespace Condition

/-- The condition of the variant at position `index` of a chain. -/
def ofVariant (index : Nat) (variant vocabulary : KeywordSet) : Condition :=
  if variant.isEmpty then otherwise
  else if index = 0 then first (variant.guard vocabulary)
  else next (variant.guard vocabulary)

/-- The condition as a preprocessor line. -/
def line : Condition → String
  | first g => "#if " ++ g.text?.getD ""
  | next g => "#elif " ++ g.text?.getD ""
  | otherwise => "#else"

end Condition

end PassForge
