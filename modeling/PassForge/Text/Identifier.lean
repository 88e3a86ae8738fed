/-!
# Identifiers

Names given by people become identifiers of generated code: every character that cannot stand in
one is replaced by an underscore.
-/

namespace PassForge.Text

/-- Whether `c` may stand in an identifier: an ASCII letter, an ASCII digit or an underscore. -/
def isIdentifierChar (c : Char) : Bool := c.isAlphanum || c == '_'

/-- A name with each unusable character replaced; a name that is empty or starts with a digit gets
an underscore in front. -/
def sanitizeChars (cs : List Char) : List Char :=
  let out := cs.map fun c => if isIdentifierChar c then c else '_'
  match out with
  | [] => ['_']
  | c :: rest => if c.isDigit then '_' :: c :: rest else c :: rest

/-- The identifier of a name. -/
def sanitize (name : String) : String := String.ofList (sanitizeChars name.toList)

end PassForge.Text
