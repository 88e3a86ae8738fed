/-!
# Events

What happens while a pass is generated, for the log.  Events are values: functions that have
something to tell return them, in order.
-/

namespace PassForge

/-- How important an event is. -/
inductive Level where
  | trace | debug | warn | error
deriving DecidableEq, Repr

/-- The level in words. -/
def Level.name : Level → String
  | trace => "TRACE"
  | debug => "DEBUG"
  | warn => "WARN"
  | error => "ERROR"

/-- Something worth telling. -/
inductive Event where
  /-- The root does not have a slot that the pass asks for. -/
  | slotSkipped (slot : Nat) (node : String)
  /-- The variants of a pass are known. -/
  | variantsFound (pass : String) (groups variants : Nat)
  /-- A field is needed by an active field. -/
  | activated (field neededBy : String)
  /-- The active fields of a variant are closed. -/
  | fieldsClosed (pass variant : String) (active scans : Nat)
  /-- A template does not exist. -/
  | templateMissing (pass template : String)
  /-- A pass cannot be generated. -/
  | passFailed (pass reason : String)
deriving DecidableEq, Repr

namespace Event

/-- How important the event is. -/
def level : Event → Level
  | slotSkipped .. => .trace
  | variantsFound .. => .debug
  | activated .. => .trace
  | fieldsClosed .. => .debug
  | templateMissing .. => .error
  | passFailed .. => .warn

/-- The event in words. -/
def message : Event → String
  | slotSkipped slot node => s!"Slot {slot} not present on '{node}', skipped"
  | variantsFound pass groups variants =>
    s!"Pass '{pass}': {groups} keyword groups, {variants} variants"
  | activated field neededBy => s!"Activated '{field}' (needed by '{neededBy}')"
  | fieldsClosed pass variant active scans =>
    s!"Pass '{pass}' variant {variant}: {active} active fields after {scans} scans"
  | templateMissing pass template => s!"Pass '{pass}': template '{template}' not found"
  | passFailed pass reason => s!"Pass '{pass}' failed: {reason}"

/-- The line of the log. -/
def line (e : Event) : String := e.level.name ++ " " ++ e.message

end Event

end PassForge
