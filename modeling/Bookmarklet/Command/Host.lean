import Bookmarklet.Text.Utf8

/-!
# Hosts of the command

What the command needs of the system it runs on: an input, and files that it reads and writes. A `Folder` is such a
host, made of nothing but the files it holds.
-/

namespace Bookmarklet.Command

/-- Why a file is not read or written, with the number of the error. -/
structure Fault where
  text : String
  number : Nat
  deriving DecidableEq

namespace Fault

/-- A fault in words. -/
def message (f : Fault) : String := f.text ++ " (os error " ++ toString f.number ++ ")"

/-- There is no such file. -/
def notFound : Fault := ⟨"No such file or directory", 2⟩

/-- A file stands where a directory should. -/
def notDirectory : Fault := ⟨"Not a directory", 20⟩

/-- A directory stands where a file should. -/
def isDirectory : Fault := ⟨"Is a directory", 21⟩

end Fault

/-- A system that the command runs on. -/
structure Host (m : Type → Type) where
  input : m (List UInt8)
  read : String → m (Except Fault (List UInt8))
  write : String → String → m (Except Fault Unit)

/-! ## Folders -/

/-- The parts of a path. -/
abbrev Path := List String

/-- The parts of a path, of which those that stay in place are left out. -/
def partsOf (path : String) : Path := (path.splitOn "/").filter fun part => part != "" && part != "."

/-- Whether a path can only lead to a directory. -/
def endsInDirectory (path : String) : Bool := ["", "."].contains ((path.splitOn "/").getLastD "")

/-- A folder with its files, and an input. -/
structure Folder where
  files : List (Path × List UInt8)
  input : List UInt8

namespace Folder

/-- Whether a path leads to a directory. -/
def hasDirectory (f : Folder) (path : Path) : Bool :=
  path.isEmpty || f.files.any fun (p, _) => path.isPrefixOf p && path != p

/-- Whether a path leads through a file. -/
def passesFile (f : Folder) (path : Path) : Bool := f.files.any fun (p, _) => p.isPrefixOf path && path != p

/-- The contents of a file. -/
def find? (f : Folder) (path : Path) : Option (List UInt8) := f.files.lookup path

/-- Reads a file. -/
def read (f : Folder) (path : String) : Except Fault (List UInt8) :=
  let parts := partsOf path
  if f.hasDirectory parts then .error .isDirectory
  else if f.passesFile parts then .error .notDirectory
  else
    match f.find? parts with
    | none => .error .notFound
    | some bytes => if endsInDirectory path then .error .notDirectory else .ok bytes

/-- Writes a file. -/
def write (f : Folder) (path text : String) : Except Fault Folder :=
  let parts := partsOf path
  if f.passesFile parts then .error .notDirectory
  else if !f.hasDirectory parts.dropLast then .error .notFound
  else if f.hasDirectory parts || endsInDirectory path then .error .isDirectory
  else .ok { f with files := (parts, Text.encode text.toList) :: f.files.filter fun (p, _) => p != parts }

/-- A folder as the system that the command runs on. -/
def host : Host (StateM Folder) where
  input := return (← get).input
  read path := return (← get).read path
  write path text := do
    match (← get).write path text with
    | .error fault => return .error fault
    | .ok folder =>
      set folder
      return .ok ()

end Folder
end Bookmarklet.Command
