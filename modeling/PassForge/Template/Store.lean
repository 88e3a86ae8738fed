import PassForge.Template.Library
import PassForge.Template.Path

/-!
# Template stores

A template store gives the text behind a path, says that there is none, or fails to read it.  There
are three kinds: the templates of the library, a table in memory and a tree of files.
-/

namespace PassForge.Template

/-- Why a template that may exist cannot be read. -/
inductive ReadFailure where
  /-- The path climbs above the root of the store. -/
  | leavesRoot (path : String)
  /-- The bytes are no UTF-8. -/
  | notUtf8
  /-- The path names a directory. -/
  | isDirectory
  /-- The path goes through a file as if it were a directory. -/
  | notDirectory
  /-- The path, or a segment of it, is too long. -/
  | nameTooLong
  /-- The path has a NUL character. -/
  | nulInName
  /-- Any other failure, in the words of the store. -/
  | other (message : String)
deriving DecidableEq, Repr

/-- What is said of a path that leaves the root. -/
def leavesRootMessage (path : String) : String :=
  "template path '" ++ path ++ "' leaves the template root"

namespace ReadFailure

/-- The failure in words. -/
def message : ReadFailure → String
  | leavesRoot path => leavesRootMessage path
  | notUtf8 => "stream did not contain valid UTF-8"
  | isDirectory => "Is a directory (os error 21)"
  | notDirectory => "Not a directory (os error 20)"
  | nameTooLong => "File name too long (os error 36)"
  | nulInName => "file name contained an unexpected NUL byte"
  | other message => message

end ReadFailure

/-- A store: the text behind a path, if there is one and it can be read. -/
abbrev Store := String → Except ReadFailure (Option String)

namespace Store

/-- The templates of the library.  A backslash in a path counts as a slash. -/
def library : Store := fun path =>
  let path := String.ofList (path.toList.map fun c => if c = '\\' then '/' else c)
  .ok (Library.all.lookup path)

/-- A table of texts, and of paths whose reading fails.  Paths are looked up as they stand. -/
def memory (files failures : List (String × String)) : Store := fun path =>
  match failures.lookup path with
  | some message => .error (.other message)
  | none => .ok (files.lookup path)

/-- A file of a tree: the segments of its path, and its bytes. -/
structure File where
  segments : List (List Char)
  bytes : ByteArray

/-- The number of bytes a segment may have. -/
def maxSegment : Nat := 255

/-- The number of bytes a path stays below. -/
def maxPath : Nat := 4096

/-- The number of bytes of a text. -/
def byteLength (cs : List Char) : Nat := cs.foldl (fun n c => n + c.utf8Size) 0

/-- Goes down a tree from a directory, segment by segment, to the file that is meant.  `below` are
the files in the directory, with the segments that lead there taken off their paths. -/
def descend (below : List File) : List (List Char) → Except ReadFailure (Option String)
  | [] => .error .isDirectory
  | segment :: rest =>
    if maxSegment < byteLength segment then .error .nameTooLong
    else
      match below.find? (·.segments == [segment]) with
      | some file =>
        if !rest.isEmpty then .error .notDirectory
        else match String.fromUTF8? file.bytes with
          | some text => .ok (some text)
          | none => .error .notUtf8
      | none =>
        let inside := below.filterMap fun file =>
          if file.segments.head? == some segment then
            some ⟨file.segments.tail, file.bytes⟩
          else none
        if inside.isEmpty then .ok none else descend inside rest

/-- A tree of files, named by their normal paths.  A path is normalized before it is looked up. -/
def directory (files : List (String × ByteArray)) : Store := fun path =>
  match Path.collapse [] (Path.segments path.toList) with
  | none => .error (.leavesRoot path)
  | some segments =>
    if segments.any (·.contains '\x00') then .error .nulInName
    else if maxPath ≤ byteLength (Path.join segments) then .error .nameTooLong
    else descend (files.map fun (name, bytes) => ⟨(name.splitOn "/").map String.toList, bytes⟩)
      segments

end Store

end PassForge.Template
