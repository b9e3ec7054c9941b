import IngressGate.Failure
/-!
# Files by path

A `FileTree` is a file or a folder of such, and a `Place` is a point in a tree from which paths
are followed. `Place.content` reads the file that a path leads to. Its errors arise part by part,
from the left: nothing lies behind a file, not even the file itself.
-/
namespace IngressGate.Cli

/-- A file, or a folder with its entries. -/
inductive FileTree
  | file (content : ByteArray)
  | folder (entries : List (String × FileTree))

/-- A point in a tree: what is there, and the folders around it, the innermost first. -/
structure Place where
  here : FileTree
  around : List FileTree := []

namespace Place

/-- How many bytes a name has at most. -/
def maxName : Nat := 255

/-- How many bytes a path has at most. -/
def maxPath : Nat := 4095

/-- The entry of a name in a folder. -/
def enter (p : Place) (entries : List (String × FileTree)) (name : String) :
    Except IoError Place :=
  if maxName < name.utf8ByteSize then .error .nameTooLong
  else
    match entries.lookup name with
    | some tree => .ok ⟨tree, p.here :: p.around⟩
    | none => .error .notFound

/-- The folder around a place; there is none around the outermost, which stands for it. -/
def leave (p : Place) : Place :=
  match p.around with
  | [] => p
  | tree :: around => ⟨tree, around⟩

/-- Follows one part of a path. A part of no letters or of one dot stays, and two dots lead out. -/
def step (p : Place) (part : String) : Except IoError Place :=
  match p.here with
  | .file _ => .error .notDirectory
  | .folder entries =>
    if part = "" ∨ part = "." then .ok p
    else if part = ".." then .ok p.leave
    else p.enter entries part

/-- The outermost place. -/
def outermost (p : Place) : Place := ⟨p.around.getLastD p.here, []⟩

/-- The place that a path leads to; one with a slash in front starts from the outermost place. -/
def follow (p : Place) (path : String) : Except IoError Place :=
  if path = "" then .error .notFound
  else if maxPath < path.utf8ByteSize then .error .nameTooLong
  else
    let start := if path.toList.head? = some '/' then p.outermost else p
    (path.splitOn "/").foldlM step start

/-- The content of the file that a path leads to. -/
def content (p : Place) (path : String) : Except IoError ByteArray :=
  match p.follow path with
  | .error e => .error e
  | .ok ⟨.file content, _⟩ => .ok content
  | .ok ⟨.folder _, _⟩ => .error .isDirectory

end Place

end IngressGate.Cli
