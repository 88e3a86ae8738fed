/-!
# Faults of computing

Why an operation, a function, a filter, a test or a statement of a template has no result, and how
that is reported.
-/

namespace PassForge.Template

/-- Why an operation has no result. -/
inductive EvalFault where
  | undefinedValue
  | notString
  | missingArgument
  | tooManyArguments
  | unknownFragment (name : String)
  | unknownStruct (name : String)
  | unknownPassMethod (name : String)
  | unknownMethod (kind name : String)
  | unknownFunction (name : String)
  | unknownFilter (name : String)
  | unknownTest (name : String)
  | unknownBlock (name : String)
  /-- A named argument that a filter needs. -/
  | missingNamed (name : String)
  /-- A named argument that a filter does not know. -/
  | unknownArgument (name : String)
  /-- A named argument that a routine does not know. -/
  | unknownParameter (name : String)
  /-- An argument that a routine is passed twice. -/
  | repeatedParameter (name : String)
  /-- A filter is asked for that there is not, by a value. -/
  | noFilter
  /-- A test is asked for that there is not, by a value. -/
  | noTest
  | notCallable (kind : String)
  | objectNotCallable
  | loopNotCallable
  | loopArguments
  | loopNotRecursive
  | blockArguments
  | outsideBlock
  | noParentBlock
  | brokenParentBlock
  | missingBlock (name : String)
  | notIterable (kind : String)
  | notWord (kind word : String)
  | zeroStep
  | longRange
  | unsupported (op left right : String)
  | overflow (op left right : String)
  | noDetail
  | negationOverflow
  | textFactor
  | longText
  | listFactor
  | noContainer
  | notSliced (kind : String)
  | zeroSlice
  | notSpace (kind : String)
  | notUnpacked
  | unpackedLength (expected found : Nat)
  | templateName
  | extendedTwice
  | extendedInCircle (template : String)
  | escapingMode
  | tooDeep
  /-- Any other reason to refuse. -/
  | refused (detail : String)
deriving DecidableEq, Repr

/-- The text of a fault. -/
def EvalFault.message : EvalFault → String
  | undefinedValue => "undefined value"
  | notString => "invalid operation: value is not a string"
  | missingArgument => "missing argument"
  | tooManyArguments => "too many arguments"
  | unknownFragment name => s!"invalid operation: unknown fragment '{name}'"
  | unknownStruct name => s!"invalid operation: unknown struct type '{name}'"
  | unknownPassMethod name => s!"unknown method: method {name} not found"
  | unknownMethod kind name => s!"unknown method: {kind} has no method named {name}"
  | unknownFunction name => s!"unknown function: {name} is unknown"
  | unknownFilter name => s!"unknown filter: filter {name} is unknown"
  | unknownTest name => s!"unknown test: test {name} is unknown"
  | unknownBlock name => s!"unknown block: block '{name}' not found"
  | missingNamed name => s!"missing argument: missing keyword argument '{name}'"
  | unknownArgument name => s!"too many arguments: unknown keyword argument '{name}'"
  | unknownParameter name => s!"too many arguments: unknown keyword argument `{name}`"
  | repeatedParameter name => s!"too many arguments: duplicate argument `{name}`"
  | noFilter => "unknown filter"
  | noTest => "unknown test"
  | notCallable kind => s!"invalid operation: value of type {kind} is not callable"
  | objectNotCallable => "invalid operation: object is not callable"
  | loopNotCallable => "invalid operation: loop recursion cannot be called this way"
  | loopArguments => "invalid operation: loop() takes one argument"
  | loopNotRecursive => "invalid operation: cannot recurse outside of recursive loop"
  | blockArguments => "invalid operation: super() takes no arguments"
  | outsideBlock => "invalid operation: cannot super outside of block"
  | noParentBlock => "invalid operation: no parent block exists"
  | brokenParentBlock => "could not render block: error in super block"
  | missingBlock name => s!"invalid operation: required block '{name}' not found"
  | notIterable kind => s!"invalid operation: {kind} is not iterable"
  | notWord kind word => s!"invalid operation: cannot convert {kind} to {word}"
  | zeroStep => "invalid operation: cannot create range with step of 0"
  | longRange => "invalid operation: range has too many elements"
  | unsupported op left right =>
    s!"invalid operation: tried to use {op} operator on unsupported types {left} and {right}"
  | overflow op left right => s!"invalid operation: unable to calculate {left} {op} {right}"
  | noDetail => "invalid operation"
  | negationOverflow => "invalid operation: overflow"
  | textFactor => "invalid operation: strings can only be multiplied with integers"
  | longText => "invalid operation: repeated string is too large"
  | listFactor => "invalid operation: sequences and iterables can only be multiplied with integers"
  | noContainer => "invalid operation: cannot perform a containment check on this value"
  | notSliced kind => s!"invalid operation: value of type {kind} cannot be sliced"
  | zeroSlice => "invalid operation: cannot slice by step size of 0"
  | notSpace kind => s!"invalid operation: can only assign to namespaces, not {kind}"
  | notUnpacked => "cannot unpack: value is not iterable"
  | unpackedLength expected found =>
    s!"cannot unpack: sequence of wrong length (expected {expected}, got {found})"
  | templateName => "invalid operation: template name was not a string"
  | extendedTwice => "invalid operation: tried to extend a second time in a template"
  | extendedInCircle template =>
    "invalid operation: cycle in template inheritance. \"" ++ template ++
      "\" was referenced more than once"
  | escapingMode => "invalid operation: invalid value to autoescape tag"
  | tooDeep => "invalid operation: recursion limit exceeded"
  | refused detail => "invalid operation: " ++ detail

end PassForge.Template
