import Lisplet.Text.Lines

namespace Lisplet

/-! Files are only ever read, so all there is to know of a file system is what each path gives. -/

inductive FileError where
  | notFound | denied | isDirectory | notDirectory | nameTooLong | notText | badPath
deriving DecidableEq, Inhabited, Repr

def FileError.message : FileError → String
  | notFound => "No such file or directory (os error 2)"
  | denied => "Permission denied (os error 13)"
  | isDirectory => "Is a directory (os error 21)"
  | notDirectory => "Not a directory (os error 20)"
  | nameTooLong => "File name too long (os error 36)"
  | notText => "stream did not contain valid UTF-8"
  | badPath => "file name contained an unexpected NUL byte"

structure Files where
  /-- Where paths that start with `~/` start. -/
  home : Option String
  read : String → Except FileError String

namespace Files

def empty : Files :=
  ⟨none, fun _ => .error .notFound⟩

/-- Something lies at the path, be it a file that can be read or not. -/
def has (files : Files) (path : String) : Bool :=
  match files.read path with
  | .error .notFound | .error .notDirectory | .error .nameTooLong | .error .badPath => false
  | _ => true

/-- A path below a directory; one that starts at the root stays where it is. -/
def join (directory path : String) : String :=
  match path.toList with
  | '/' :: _ => path
  | _ => directory ++ "/" ++ path

def expand (files : Files) (path : String) : String :=
  match path.toList, files.home with
  | '~' :: '/' :: rest, some home => join home (String.ofList rest)
  | _, _ => path

end Files

inductive FileNode where
  | file (bytes : List UInt8)
  | directory

/-- The files below a directory, by the names that lead to them. -/
structure FileTree where
  nodes : List (List String × FileNode)

namespace FileTree

def names (path : String) : List String :=
  (path.splitOn "/").filter (· ≠ "")

def ofPaths (nodes : List (String × FileNode)) : FileTree :=
  ⟨nodes.map fun (path, node) => (names path, node)⟩

/-- A directory need not be listed if something below it is. -/
def node? (tree : FileTree) (names : List String) : Option FileNode :=
  match tree.nodes.lookup names with
  | some node => some node
  | none =>
      if names = [] ∨ tree.nodes.any (fun (longer, _) => names.isPrefixOf longer) then
        some .directory
      else none

def nameLimit : Nat :=
  255

def pathLimit : Nat :=
  4095

def missing (name : String) : FileError :=
  if nameLimit < name.utf8ByteSize then .nameTooLong else .notFound

/-- Outside of the tree there are directories and nothing else to see. -/
def outside (names : List String) : Except FileError FileNode :=
  match names.find? fun name => name ≠ "." ∧ name ≠ ".." with
  | none => .ok .directory
  | some name => .error (missing name)

def walk (tree : FileTree) : List String → List String → Except FileError FileNode
  | place, [] =>
      match tree.node? place with
      | some node => .ok node
      | none => .error .notFound
  | place, name :: names =>
      if name = "." then walk tree place names
      else if name = ".." then
        if place = [] then outside names else walk tree place.dropLast names
      else
        match tree.node? (place ++ [name]) with
        | none => .error (missing name)
        | some .directory => walk tree (place ++ [name]) names
        | some (.file bytes) => if names = [] then .ok (.file bytes) else .error .notDirectory

def locate (tree : FileTree) (path : String) : Except FileError FileNode :=
  if path = "" then .error .notFound
  else if path.toList.contains '\x00' then .error .badPath
  else if pathLimit < path.utf8ByteSize then .error .nameTooLong
  else if path.toList.head? = some '/' then outside (names path)
  else
    match tree.walk [] (names path) with
    | .ok (.file bytes) =>
        if path.toList.getLast? = some '/' then .error .notDirectory else .ok (.file bytes)
    | result => result

def read (tree : FileTree) (path : String) : Except FileError String :=
  match tree.locate path with
  | .error error => .error error
  | .ok .directory => .error .isDirectory
  | .ok (.file bytes) =>
      match Line.ofBytes bytes with
      | some text => .ok text
      | none => .error .notText

/-- The top of the tree is also home. -/
def files (tree : FileTree) : Files :=
  ⟨some ".", tree.read⟩

end FileTree

end Lisplet
