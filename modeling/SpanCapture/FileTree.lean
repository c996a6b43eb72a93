import SpanCapture.Failure

/-! Files held in memory. A path is walked through a tree of directories name by name, so
that a run can be followed without a disk, down to the fault of a path that leads nowhere.
Of several faults on one path the first on the way wins. -/
namespace SpanCapture

/-- A file with its bytes, or a directory with what it holds under each name. -/
inductive FileTree where
  | file (bytes : ByteArray)
  | directory (entries : List (String × FileTree))

namespace FileTree

def nameLimit : Nat := 255

def pathLimit : Nat := 4095

/-- What lies at the end of some names, seen from a place with the directories above it,
nearest first. The outermost directory lies in itself. An empty name stays where it is, so
that a slash at the end of a path asks for a directory. -/
def walk (above : List FileTree) (here : FileTree) : List String → Except StreamFault FileTree
  | [] => .ok here
  | name :: rest =>
    match here with
    | .file _ => .error .notDirectory
    | .directory entries =>
      if name = "" ∨ name = "." then walk above here rest
      else if name = ".." then walk above.tail (above.headD here) rest
      else if nameLimit < name.utf8ByteSize then .error .nameTooLong
      else
        match entries.lookup name with
        | none => .error .notFound
        | some found => walk (here :: above) found rest

/-- A slash at the end of a path changes nothing if the path leads to a directory. -/
theorem walk_slash (above : List FileTree) (entries : List (String × FileTree)) :
    walk above (.directory entries) [""] = .ok (.directory entries) := by
  simp [walk]

/-- The bytes of the file at a path. A path without a slash in front starts from the
directory with the given names. -/
def read (root : FileTree) (start : List String) (path : String) :
    Except StreamFault ByteArray := do
  if path.contains '\x00' then .error .nulInName
  else if path.isEmpty then .error .notFound
  else if pathLimit < path.utf8ByteSize then .error .nameTooLong
  else
    let names := path.splitOn "/"
    match ← walk [] root (if path.startsWith "/" then names else start ++ names) with
    | .file bytes => .ok bytes
    | .directory _ => .error .isDirectory

def hollow (names : List String) : List (String × FileTree) :=
  names.map fun name => (name, .directory [])

def ofText (text : String) : FileTree := .file text.toUTF8

/-- A small system to try runs on: the usual directories, the device that is always empty,
and some temporary files. -/
def smallSystem (temporary : List (String × String)) : FileTree :=
  .directory <|
    [("dev", .directory (("null", ofText "") :: hollow ["fd", "pts", "shm"])),
      ("etc", .directory [("hosts", ofText "127.0.0.1\tlocalhost\n"),
        ("passwd", ofText "root:x:0:0:root:/root:/bin/sh\n")]),
      ("home", .directory (hollow ["work"])),
      ("tmp", .directory (temporary.map fun (name, text) => (name, ofText text))),
      ("usr", .directory (hollow ["bin", "include", "lib", "local", "sbin", "share"])),
      ("var", .directory (hollow ["cache", "lib", "log", "tmp"]))] ++
    hollow ["bin", "boot", "lib", "lib64", "media", "mnt", "opt", "proc", "root", "run", "sbin",
      "srv", "sys"]

end FileTree
end SpanCapture
