import PassForge.NameSet

/-!
# Keyword sets

A variant of a shader pass is the set of keywords that are defined while it is compiled.  Two
variants with the same keywords are the same variant, so a keyword set is a `NameSet`.

Keywords are declared in groups of mutually exclusive options, one of which may be the default
option `_`, "none of these keywords".
-/

namespace PassForge

/-- The keywords defined in one variant. -/
abbrev KeywordSet := NameSet

/-- The option that stands for "no keyword". -/
def defaultOption : String := "_"

namespace KeywordSet

/-- The members between braces, divided by a comma and a blank. -/
def render (s : KeywordSet) : String :=
  "\x7b" ++ ", ".intercalate s.names ++ "\x7d"

/-- The set that a choice of options defines: every chosen option but the default one. -/
def ofChoice (options : List String) : KeywordSet :=
  NameSet.ofList (options.filter (· ≠ defaultOption))

end KeywordSet

end PassForge
