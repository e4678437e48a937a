import GlslCompliance.Storage.ReadFailure

/-!
# Trees of files

A working directory held in memory, and how a path is followed in it. Directories are those that
lead to some file. Of what lies outside, only the directories on the way up are known, and those
that every root directory has.
-/

namespace GlslCompliance

/-- The files of a working directory: the names from there to each, with its content. -/
structure FileTree where
  files : List (List (List Char) × ByteArray)

namespace FileTree

/-- Where a path has led. -/
inductive Place where
  /-- A directory above the working directory. -/
  | above
  | root
  /-- One of the directories at the root. -/
  | standard
  /-- The directory with these names on the way to it, the last first. -/
  | directory (names : List (List Char))
  | file (content : ByteArray)

/-- The components of a path. -/
def components : List Char → List (List Char)
  | [] => [[]]
  | c :: cs =>
    if c = '/' then [] :: components cs else (components cs).modifyHead fun name => c :: name

/-- Whether a component stands for the directory it is met in. -/
def isHere (name : List Char) : Bool := name == [] || name == ['.']

/-- The tree with files at the given paths. -/
def ofList (files : List (String × ByteArray)) : FileTree :=
  ⟨files.map fun f => ((components f.1.toList).filter fun name => !isHere name, f.2)⟩

/-- The directories that are found at the root of a system. -/
def standardDirectories : List (List Char) :=
  ["bin", "boot", "dev", "etc", "home", "lib", "media", "mnt", "opt", "proc", "root", "run",
    "sbin", "srv", "sys", "tmp", "usr", "var"].map String.toList

/-- What a name stands for in a directory of the tree. -/
def enter (tree : FileTree) (names : List (List Char)) (name : List Char) :
    Except ReadFailure Place :=
  let path := (name :: names).reverse
  match tree.files.find? fun f => f.1 == path with
  | some f => .ok (.file f.2)
  | none =>
    if tree.files.any fun f => path.isPrefixOf f.1 then .ok (.directory (name :: names))
    else .error .notFound

/-- The number of bytes of a text. -/
def byteCount (cs : List Char) : Nat := cs.foldl (fun size c => size + c.utf8Size) 0

/-- The directory that holds the one at a place. -/
def parent : Place → Except ReadFailure Place
  | .file _ => .error .notDirectory
  | .root | .standard => .ok .root
  | .above | .directory [] => .ok .above
  | .directory (_ :: names) => .ok (.directory names)

/-- What a name stands for at a place. -/
def lookUp (tree : FileTree) (name : List Char) : Place → Except ReadFailure Place
  | .file _ => .error .notDirectory
  | .directory names => tree.enter names name
  | .root => if name ∈ standardDirectories then .ok .standard else .error .notFound
  | .above | .standard => .error .notFound

/-- Follows one component of a path. -/
def follow (tree : FileTree) (place : Place) (name : List Char) : Except ReadFailure Place :=
  match place with
  | .file _ => .error .notDirectory
  | place =>
    if isHere name then .ok place
    else if name = ['.', '.'] then parent place
    else if 255 < byteCount name then .error .nameTooLong
    else tree.lookUp name place

/-- Where a path leads from the working directory. -/
def locate (tree : FileTree) (path : List Char) : Except ReadFailure Place :=
  if '\x00' ∈ path then .error .nulInPath
  else if path = [] then .error .notFound
  else if 4096 ≤ byteCount path then .error .nameTooLong
  else
    let start : Place := if path.head? = some '/' then .root else .directory []
    (components path).foldlM tree.follow start

/-- The text of the file at a path. -/
def read (tree : FileTree) (path : String) : Except ReadFailure String :=
  match tree.locate path.toList with
  | .error e => .error e
  | .ok (.file content) =>
    match String.fromUTF8? content with
    | some text => .ok text
    | none => .error .notText
  | .ok _ => .error .isDirectory

end FileTree

end GlslCompliance
