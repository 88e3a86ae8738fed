/-!
# Template paths

A template is named by a path below the root of its store.  Segments are divided by slashes or
backslashes.  `normalize` drops empty segments and `.`, and lets `..` take back the segment before
it; a path whose `..` would climb above the root has no normal form.

An include is resolved against the directory of the template it stands in (`resolve`); a leading
slash anchors it at the root.
-/

namespace PassForge.Template.Path

/-- Whether `c` divides segments. -/
def isSeparator (c : Char) : Bool := c == '/' || c == '\\'

/-- The segments of a path, empty ones included. -/
def segments : List Char → List (List Char)
  | [] => [[]]
  | c :: cs =>
    if isSeparator c then [] :: segments cs
    else match segments cs with
      | [] => [[c]]
      | s :: rest => (c :: s) :: rest

/-- Whether a segment names nothing: it is empty or a single dot. -/
def isIdle (segment : List Char) : Bool := segment.isEmpty || segment == ['.']

/-- Whether a segment goes back to the parent. -/
def isParent (segment : List Char) : Bool := segment == ['.', '.']

/-- The segments left when idle ones are dropped and each `..` takes back the one before it.
`kept` holds the segments kept so far, the last one first. -/
def collapse (kept : List (List Char)) : List (List Char) → Option (List (List Char))
  | [] => some kept.reverse
  | s :: rest =>
    if isIdle s then collapse kept rest
    else if isParent s then
      match kept with
      | [] => none
      | _ :: kept => collapse kept rest
    else collapse (s :: kept) rest

/-- The path with these segments. -/
def join (segments : List (List Char)) : List Char := List.intercalate ['/'] segments

/-- The normal form of a path, unless it leaves the root. -/
def normalizeChars (path : List Char) : Option (List Char) := (collapse [] (segments path)).map join

/-- The normal form of a path, unless it leaves the root. -/
def normalize (path : String) : Option String := (normalizeChars path.toList).map String.ofList

/-- The part of a path before its last slash. -/
def directory? : List Char → Option (List Char)
  | [] => none
  | c :: cs =>
    match directory? cs with
    | some dir => some (c :: dir)
    | none => if c = '/' then some [] else none

/-- The path that `name` means in the template at `parent`, before it is normalized. -/
def attach (name parent : List Char) : List Char :=
  match name with
  | '/' :: anchored => anchored
  | _ =>
    match directory? parent with
    | some dir => dir ++ '/' :: name
    | none => name

/-- The path that `name` means in the template at `parent`: in normal form, or as written when it
leaves the root. -/
def resolve (name parent : String) : String :=
  let attached := attach name.toList parent.toList
  String.ofList ((normalizeChars attached).getD attached)

end PassForge.Template.Path
