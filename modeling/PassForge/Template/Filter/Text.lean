import PassForge.Template.Argument
import PassForge.Text.Case
import PassForge.Text.Lines
import PassForge.Text.Markup
import PassForge.Text.Pieces

/-!
# Filters on texts

These filters take the text of a value, whatever its kind; only `split` and `lines` need a string.
-/

namespace PassForge.Template

/-- What makes a value of another one and arguments. -/
abbrev Filter := Sight → Value → Arguments → Except EvalFault Value

namespace Filter

/-- A filter that changes a text and takes no arguments. -/
def ofText (change : List Char → List Char) : Filter := fun s v args => do
  atMost 0 args.all
  return .string (String.ofList (change (s.plainText v).toList))

/-- A value as text in markup.  What is marked stays as it is. -/
def markup (s : Sight) (v : Value) : String :=
  match v with
  | .marked text => text
  | .undefined | .absent | .none | .bool _ | .number _ | .wide _ | .fraction _ => v.plainText
  | v => Text.escapeMarkup (s.plainText v)

/-- Escapes a value for markup. -/
def escape : Filter := fun s v args => do
  atMost 0 args.all
  return .marked (markup s v)

/-- Marks a text as one that needs no escaping. -/
def safe : Filter := fun s v args => do
  atMost 0 args.all
  return .marked (s.plainText v)

/-- The text of a value; strings stay as they are. -/
def string : Filter := fun s v args => do
  atMost 0 args.all
  return if v.string?.isSome then v else .string (s.plainText v)

/-- A text without some characters at its ends, or without blanks there. -/
def trim : Filter := fun s v args => do
  let chars ← optionalText s args 0
  atMost 1 args.all
  let out : Char → Bool := match chars with
    | some chars => chars.toList.contains
    | none => Text.isBlank
  return .string (String.ofList (Text.dropEndWhile out ((s.plainText v).toList.dropWhile out)))

/-- A text with another one wherever a part stands in it. -/
def replace : Filter := fun s v args => do
  let old ← requiredText s args 0
  let new ← requiredText s args 1
  atMost 2 args.all
  return .string (String.ofList (Text.replaced old.toList new.toList (s.plainText v).toList))

/-- A text whose lines are indented. -/
def indent : Filter := fun s v args => do
  let width ← required args.all 0 asSize
  let first ← optional args.all 1 asTruth
  let blank ← optional args.all 2 asTruth
  atMost 3 args.all
  let text := Text.indented width (first.getD false) (blank.getD false) (s.plainText v).toList
  return .string (String.ofList text)

/-- A list of texts. -/
def texts (form : ListForm) (pieces : List (List Char)) : Value :=
  .list form (pieces.map fun piece => .string (String.ofList piece))

/-- The pieces of a string between separators, or between blanks. -/
def split : Filter := fun _ v args => do
  let text ← asString v
  let separator ← optional args.all 0 asString
  let count ← optional args.all 1 asLong
  atMost 2 args.all
  let left := count.bind fun n => if 0 ≤ n then some n.toNat else none
  return texts .streamed <|
    match separator, left with
    | some separator, left => Text.splitOn separator.toList left text.toList
    | none, none => Text.words text.toList
    | none, left => Text.splitBlanks left text.toList

/-- The lines of a string. -/
def lines : Filter := fun _ v args => do
  let text ← asString v
  atMost 0 args.all
  return texts .stored (Text.lines text.toList)

/-- The filters on texts, by name. -/
def forTexts : List (String × Filter) :=
  [("upper", ofText Text.upper),
    ("lower", ofText Text.lower),
    ("title", ofText (Text.titled true)),
    ("capitalize", ofText Text.capitalized),
    ("escape", escape),
    ("e", escape),
    ("safe", safe),
    ("string", string),
    ("trim", trim),
    ("replace", replace),
    ("indent", indent),
    ("split", split),
    ("lines", lines)]

end Filter

end PassForge.Template
