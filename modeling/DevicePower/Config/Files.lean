import DevicePower.Text.Utf8

/-!
# Files

What matters of a file system is what is found at a path: nothing, something behind a directory that
may not be searched, something that cannot be read as a file, or a file with its bytes. The reasons
are worded as the operating system words them.

A path is bytes, which need not be text. A file system can be given as a tree of files and
directories; a path is then walked name by name.

## Main results

* `present_of_isPresent`: what the program takes to be there is there.
-/

namespace DevicePower.Config

/-- What is found at a path. -/
inductive Entry where
  /-- Nothing. -/
  | absent (reason : String)
  /-- Something, on the way to which a directory may not be searched. -/
  | hidden (reason : String)
  /-- Something, but no file to read. -/
  | unreadable (reason : String)
  | file (bytes : List UInt8)
deriving DecidableEq

namespace Entry

/-- Whether there is something. -/
def isThere : Entry → Bool
  | absent _ => false
  | _ => true

/-- Whether the program takes something to be there: it can look at it. -/
def isPresent : Entry → Bool
  | absent _ => false
  | hidden _ => false
  | _ => true

theorem present_of_isPresent {e : Entry} (h : e.isPresent = true) : e.isThere = true := by
  cases e <;> first | rfl | exact nomatch h

/-- The text of a file, or why there is none. -/
def read : Entry → Except String String
  | absent reason => .error reason
  | hidden reason => .error reason
  | unreadable reason => .error reason
  | file bytes =>
    match Text.Utf8.decode bytes with
    | .ok s => .ok s
    | .error _ => .error "stream did not contain valid UTF-8"

/-- There is no such name in its directory. -/
def missing : Entry := absent "No such file or directory (os error 2)"

/-- Something on the way is not a directory. -/
def notDirectory : Entry := absent "Not a directory (os error 20)"

/-- A name or a path is longer than any can be. -/
def nameTooLong : Entry := absent "File name too long (os error 36)"

/-- A path holds a NUL character, which ends a path. -/
def endedEarly : Entry := absent "file name contained an unexpected NUL byte"

/-- A directory on the way may not be searched. -/
def closed : Entry := hidden "Permission denied (os error 13)"

/-- A directory stands where a file should be. -/
def directory : Entry := unreadable "Is a directory (os error 21)"

end Entry

/-! ## Paths -/

/-- A path as the operating system has it. -/
structure Path where
  bytes : List UInt8
deriving DecidableEq

namespace Path

/-- The path that a text spells. -/
def ofText (s : String) : Path := ⟨Text.Utf8.bytes s⟩

instance : Coe String Path := ⟨ofText⟩

/-- The path as it is shown. -/
def text (p : Path) : String := Text.Utf8.lossy p.bytes

/-- The byte between the names of a path. -/
def separator : UInt8 := 0x2F

/-- Whether a path starts at the root. -/
def isAbsolute (p : Path) : Bool := p.bytes.head? == some separator

/-- A path with a relative name added. -/
def join (p : Path) (name : String) : Path :=
  let isOpen := p.bytes.isEmpty || p.bytes.getLast? == some separator
  ⟨p.bytes ++ (if isOpen then [] else [separator]) ++ Text.Utf8.bytes name⟩

end Path

/-- What is found at each path. -/
abbrev Files := Path → Entry

/-! ## Trees -/

/-- A file or directory of a tree. -/
inductive Node where
  | file (bytes : List UInt8)
  | directory

/-- Files and directories with the names that lead to them from the root. -/
abbrev Tree := List (List String × Node)

namespace Tree

/-- A tree with a node at the end of a list of names, and directories on the way to it. -/
def add (tree : Tree) (names : List String) (node : Node) : Tree :=
  tree ++ ((List.range names.length).map fun n => (names.take n, Node.directory)) ++ [(names, node)]

/-- What a list of names leads to. The root is a directory. -/
def node? (tree : Tree) (names : List String) : Option Node :=
  if names.isEmpty then some .directory else (tree.find? fun n => n.1 == names).map Prod.snd

/-- The longest name that a directory can hold, in bytes. -/
def longestName : Nat := 255

/-- Follows names from a place, whose names are given last first. -/
def walk (tree : Tree) (place : List String) : List String → Entry
  | [] =>
    match tree.node? place.reverse with
    | some (.file bytes) => .file bytes
    | some .directory => .directory
    | none => .missing
  | name :: rest =>
    match tree.node? place.reverse with
    | none => .missing
    | some (.file _) => .notDirectory
    | some .directory =>
      if name = "" ∨ name = "." then walk tree place rest
      else if name = ".." then walk tree place.tail rest
      else if longestName < name.utf8ByteSize then .nameTooLong
      else walk tree (name :: place) rest

/-- The longest path that can be followed, in bytes. -/
def longestPath : Nat := 4095

/-- The file system of a tree, seen from a working directory. A relative path starts there. The
names of a tree are texts, so a path that is none leads nowhere. -/
def files (tree : Tree) (here : List String) : Files := fun path =>
  if path.bytes.contains 0 then .endedEarly
  else if path.bytes.isEmpty then .missing
  else if longestPath < path.bytes.length then .nameTooLong
  else
    match Text.Utf8.decode path.bytes with
    | .error _ => .missing
    | .ok s => walk tree (if path.isAbsolute then [] else here.reverse) (s.splitOn "/")

end Tree

end DevicePower.Config
