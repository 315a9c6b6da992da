import NodeGate.Text.Split

/-!
# Files by path

What stands at a path, as a program sees it from its working directory. A path is walked from left
to right: an empty component and a point stay where they are, two points go up, and a name leads
on to what the directory holds under it. Only a directory can be walked on from, also by an empty
component, so a slash behind the name of a file is a fault.

`FileTree.read` says in pure terms what the program asks of the system when it reads a file.
-/

namespace NodeGate

/-- Why the bytes of a file could not be had. -/
inductive FileFault where
  | missing
  | notAllowed
  | notDirectory
  | isDirectory
  | nameTooLong
  /-- The bytes are no text. -/
  | noText
  /-- Any other fault, in the words of the system. -/
  | other (text : String)
  deriving DecidableEq, Repr

/-- The wording of a fault. -/
def FileFault.message : FileFault → String
  | .missing => "No such file or directory (os error 2)"
  | .notAllowed => "Permission denied (os error 13)"
  | .notDirectory => "Not a directory (os error 20)"
  | .isDirectory => "Is a directory (os error 21)"
  | .nameTooLong => "File name too long (os error 36)"
  | .noText => "stream did not contain valid UTF-8"
  | .other text => text

/-- A file or a directory with what it holds by name. -/
inductive FileTree where
  | file (bytes : List UInt8)
  | directory (entries : List (String × FileTree))

namespace FileTree

/-- A place in a tree: what stands there, and the directories above it up to the root. -/
abbrev Place := List FileTree

/-- The most bytes that a name may have. -/
def nameLimit : Nat := 255

/-- The most bytes that a path may have. -/
def pathLimit : Nat := 4095

/-- Go on from a place by one component of a path. Above the root is the root. -/
def enter (place : Place) (component : String) : Except FileFault Place :=
  match place with
  | .directory entries :: above =>
    if component = "" ∨ component = "." then .ok place
    else if component = ".." then .ok (if above = [] then place else above)
    else if nameLimit < component.utf8ByteSize then .error .nameTooLong
    else
      match entries.lookup component with
      | some inner => .ok (inner :: place)
      | none => .error .missing
  | _ => .error .notDirectory

/-- The place at a path. A path that begins with a slash begins at the root. -/
def find (place : Place) (path : String) : Except FileFault Place :=
  let start := if path.toList.head? = some '/' then place.drop (place.length - 1) else place
  ((Text.split '/' path.toList).map String.ofList).foldlM enter start

/-- The bytes of the file at a path. -/
def read (place : Place) (path : String) : Except FileFault (List UInt8) := do
  if path = "" then throw .missing
  if pathLimit < path.utf8ByteSize then throw .nameTooLong
  match ← find place path with
  | .file bytes :: _ => return bytes
  | _ => throw .isDirectory

end FileTree

end NodeGate
