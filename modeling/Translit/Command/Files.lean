import Translit.Text.Basic

/-
  Files and directories held in memory.

  All files hang in one tree, in which a program has a
  working directory.  A written path is followed name by name
  from there or, if it starts with a slash, from the root.
  Two devices are in the tree as well.  One swallows what is
  written to it and holds nothing.  The other is always full
  and never comes to an end.

  Key definitions include:
    * `Fault`
    * `Fault.message`
    * `FileSystem`
    * `FileSystem.fresh`
    * `FileSystem.resolve`
    * `FileSystem.target`
    * `FileSystem.read`
    * `FileSystem.write`
-/

------------------------------------------------------------
-- Faults
------------------------------------------------------------

namespace Translit

namespace Command

/- Why reading or writing failed. -/
inductive Fault
| notFound
| notDirectory
| isDirectory
| noSpace
| nameTooLong
| notUtf8
| outOfMemory
| system (code : Nat) (reason : Text)
deriving DecidableEq

namespace Fault

/- A reason together with the system's number for it. -/
def numbered
    (reason : Text)
    (code : Nat) : Text :=
  reason ++ " (os error " ++ Text.decimal code ++ ")"

/- The text of a fault. -/
def message : Fault → Text
| .notFound => numbered "No such file or directory" 2
| .notDirectory => numbered "Not a directory" 20
| .isDirectory => numbered "Is a directory" 21
| .noSpace => numbered "No space left on device" 28
| .nameTooLong => numbered "File name too long" 36
| .notUtf8 => "stream did not contain valid UTF-8"
| .outOfMemory => "out of memory"
| .system code reason => numbered reason code

end Fault

end Command

end Translit

------------------------------------------------------------
-- Trees of Files
------------------------------------------------------------

namespace Translit

namespace Command

/- The names on the way from the root. -/
abbrev Path :=
  List Text

/- What a path can lead to. -/
inductive Node
| file (content : Bytes)
| directory
| nullDevice
| fullDevice
deriving DecidableEq

/- All that is below the root, and the working directory. -/
structure FileSystem where
  entries : List (Path × Node)
  here : Path
deriving DecidableEq

namespace FileSystem

/- The devices and an empty working directory. -/
def fresh : FileSystem where
  entries :=
    [ (["dev"], .directory),
      (["dev", "null"], .nullDevice),
      (["dev", "full"], .fullDevice),
      (["tmp"], .directory),
      (["tmp", "work"], .directory) ]
  here := ["tmp", "work"]

/- What a path leads to; the root is a directory. -/
def lookup
    (files : FileSystem)
    (path : Path) : Option Node :=
  if path.isEmpty then
    some .directory
  else
    (files.entries.find? fun entry => entry.1 = path).map
      Prod.snd

/- Put a node at a path, in place of what was there. -/
def put
    (files : FileSystem)
    (path : Path)
    (node : Node) : FileSystem :=
  { files with
    entries :=
      if files.entries.any fun entry => entry.1 = path then
        files.entries.map fun entry =>
          if entry.1 = path then (path, node) else entry
      else
        files.entries ++ [(path, node)] }

end FileSystem

end Command

end Translit

------------------------------------------------------------
-- Following Paths
------------------------------------------------------------

namespace Translit

namespace Command

/- The most bytes that one name of a path may have. -/
def maxNameLength : Nat :=
  255

/- The most bytes that a written path may have. -/
def maxPathLength : Nat :=
  4095

namespace FileSystem

/- Go on only if a path leads to a directory. -/
def requireDirectory
    (files : FileSystem)
    (path : Path) : Except Fault Unit :=
  if files.lookup path = some .directory then .ok ()
  else .error .notDirectory

/-
  Follow one name.  A missing name and a dot lead nowhere
  else, two dots lead one directory up, and the root is its
  own parent.
-/
def follow
    (files : FileSystem)
    (path : Path)
    (name : Text) : Except Fault Path := do
  files.requireDirectory path
  if name = [] ∨ name = "." then
    .ok path
  else if name = ".." then
    .ok path.dropLast
  else if name.utf8Length > maxNameLength then
    .error .nameTooLong
  else if (files.lookup (path ++ [name])).isSome then
    .ok (path ++ [name])
  else
    .error .notFound

/- Where a written path starts. -/
def start
    (files : FileSystem)
    (written : Text) : Path :=
  if written.head? = some '/' then [] else files.here

/- The names of a written path, unless it is too long. -/
def names
    (written : Text) : Except Fault (List Text) :=
  if written.utf8Length > maxPathLength then
    .error .nameTooLong
  else
    .ok (written.splitOn '/')

/- What a written path leads to, which has to be there. -/
def resolve
    (files : FileSystem)
    (written : Text) : Except Fault Path := do
  (← names written).foldlM files.follow (files.start written)

/-
  Where to write for a written path.  All names but the last
  have to lead to a directory.  A last name that is a dot,
  two dots or followed by slashes can only be a directory
  itself, whether or not it is there.
-/
def target
    (files : FileSystem)
    (written : Text) : Except Fault Path := do
  let all ← names written
  let bare := (all.reverse.dropWhile (· = [])).reverse
  match bare.getLast? with
  | none => .error .isDirectory
  | some last =>
      let parent ←
        bare.dropLast.foldlM files.follow
          (files.start written)
      files.requireDirectory parent
      if last = "." ∨ last = ".." then
        .error .isDirectory
      else if bare.length < all.length then
        .error .isDirectory
      else if Text.utf8Length last > maxNameLength then
        .error .nameTooLong
      else
        .ok (parent ++ [last])

end FileSystem

end Command

end Translit

------------------------------------------------------------
-- Reading and Writing
------------------------------------------------------------

namespace Translit

namespace Command

namespace FileSystem

/- Whether a written path leads to anything. -/
def exists?
    (files : FileSystem)
    (written : Text) : Bool :=
  (files.resolve written).isOk

/-
  The bytes at a written path.  The full device has no end,
  and no memory holds all of it.
-/
def read
    (files : FileSystem)
    (written : Text) : Except Fault Bytes := do
  let path ← files.resolve written
  match files.lookup path with
  | some (.file content) => .ok content
  | some .directory => .error .isDirectory
  | some .nullDevice => .ok []
  | some .fullDevice => .error .outOfMemory
  | none => .error .notFound

/- Replace the content at a written path. -/
def write
    (files : FileSystem)
    (written : Text)
    (content : Bytes) : Except Fault FileSystem := do
  let path ← files.target written
  match files.lookup path with
  | some .directory => .error .isDirectory
  | some .nullDevice => .ok files
  | some .fullDevice =>
      if content.isEmpty then .ok files else .error .noSpace
  | _ => .ok (files.put path (.file content))

end FileSystem

end Command

end Translit
