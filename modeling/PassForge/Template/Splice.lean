import PassForge.Template.Render

/-!
# Splicing a template

`splice` loads a template and renders it for a pass.  The result is the text and the paths of all
templates that were read: the template itself under the name it was asked for, then the embedded
ones in the order they were loaded.
-/

namespace PassForge.Template

/-- The text of a template with all fragments in place. -/
structure Spliced where
  text : String
  /-- The templates read, in that order. -/
  dependencies : List String
deriving DecidableEq, Repr

/-- Why there is no spliced text. -/
inductive SpliceError where
  /-- The template, or one that it embeds, does not exist. -/
  | notFound (template : String)
  /-- A template cannot be rendered. -/
  | malformed (detail : String)
  /-- The grammar of a template is not in order. -/
  | ungrammatical (fault : GrammarFault) (place : Place)
  /-- A template exists but cannot be read. -/
  | unreadable (template : String) (failure : ReadFailure)
deriving Repr

/-- A place as it is reported. -/
def Place.text (p : Place) : String := s!" (in {p.template}:{p.line})"

/-- What is reported of a template that cannot be read. -/
def ParseFault.report (template : String) : ParseFault → SpliceError
  | .malformed fault line => .ungrammatical fault ⟨template, line⟩
  | .badEscape line => .malformed ("bad string escape" ++ Place.text ⟨template, line⟩)

/-- The error as it is reported to the outside. -/
def RenderError.report : RenderError → SpliceError
  | failed fault place => .malformed (fault.message ++ place.text)
  | badSyntax template fault => fault.report template
  | brokenInclude included place =>
    .malformed (s!"could not render include: error in \"{included}\"" ++ place.text)
  | missing path => .notFound path
  | leavesRoot path => .malformed (leavesRootMessage path)
  | unreadable path failure => .unreadable path failure

/-- The text of the template at a path, rendered with what the context offers. -/
def splice (store : Store) (ctx : Context) (template : String) : Except SpliceError Spliced :=
  match Path.normalize template with
  | none => .error (.malformed (leavesRootMessage template))
  | some _ =>
    match store template with
    | .error failure => .error (.unreadable template failure)
    | .ok none => .error (.notFound template)
    | .ok (some text) =>
      match parse text with
      | .error fault => .error (fault.report template)
      | .ok body =>
        match render ctx store template body with
        | .error e => .error e.report
        | .ok p => .ok ⟨p.output, p.loaded.map (·.path)⟩

end PassForge.Template
