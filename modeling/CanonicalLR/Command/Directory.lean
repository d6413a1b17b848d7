import CanonicalLR.Command.Dump
import CanonicalLR.Data.Dict

/-! The command on a file system that is held in memory. Places in it are lists of names, the name
nearest to the root first. -/
namespace CanonicalLR.Command

/-- Special files that every system has. -/
inductive Device where
  | null
  | full
  | stdin
  | stdout
  | stderr
deriving DecidableEq

/-- What stands at a place. -/
inductive Entry where
  | directory
  | file (content : ByteArray)
  | device (d : Device)

/-- The files by their places. A directory is there where a file is below it. -/
structure Directory where
  files : Dict (List String) ByteArray

/-- The place from which paths start that do not start at the root. Its last name is empty, so no path
names it. -/
def workplace : List String := ["tmp", ""]

def rootDirectories : List String :=
  ["bin", "boot", "dev", "etc", "home", "lib", "media", "mnt", "opt", "proc", "root", "run", "sbin",
    "srv", "sys", "tmp", "usr", "var"]

def devices : List (String × Device) :=
  [("null", .null), ("full", .full), ("stdin", .stdin), ("stdout", .stdout), ("stderr", .stderr)]

def pathNames (path : String) : List String :=
  (path.splitOn "/").filter (· != "")

namespace Directory

def ofFiles (files : List (String × ByteArray)) : Directory :=
  ⟨.ofList (files.map fun (path, content) => (workplace ++ pathNames path, content))⟩

def entry? (d : Directory) (place : List String) : Option Entry :=
  match d.files.get? place with
  | some content => some (.file content)
  | none =>
    if place.isEmpty || place == workplace || d.files.keys.any place.isPrefixOf then some .directory
    else match place with
      | [name] => if rootDirectories.contains name then some .directory else none
      | ["dev", name] => (devices.lookup name).map .device
      | _ => none

/-- Goes from a place to one that is named there, whether or not there is something. Names take at most
255 bytes; above the root there is the root. -/
def step (d : Directory) (place : List String) (name : String) : Except FileError (List String) :=
  match d.entry? place with
  | none => .error .missing
  | some .directory =>
    if name = "." then .ok place
    else if name = ".." then .ok place.dropLast
    else if 255 < name.utf8ByteSize then .error .nameTooLong
    else .ok (place ++ [name])
  | some _ => .error .notADirectory

/-- Goes through the names of a path. Paths take less than 4096 bytes. -/
def walk (d : Directory) (path : String) (names : List String) : Except FileError (List String) :=
  if 4096 ≤ path.utf8ByteSize then .error .nameTooLong
  else names.foldlM d.step (if path.toList.head? == some '/' then [] else workplace)

def namesDirectory (path : String) : Bool :=
  path.toList.getLast? == some '/'

/-- The bytes of a file. There is nothing to read from a device. -/
def bytes (d : Directory) (path : String) : Except FileError ByteArray := do
  match d.entry? (← d.walk path (pathNames path)) with
  | none => throw .missing
  | some .directory => throw .isADirectory
  | some (.file content) => if namesDirectory path then throw .notADirectory else return content
  | some (.device _) => if namesDirectory path then throw .notADirectory else return .empty

def read (d : Directory) (path : String) : Except FileError String := do
  match String.fromUTF8? (← d.bytes path) with
  | some text => return text
  | none => throw .notText

/-- Where a text goes that is written to a path: to a device, or to a file at a place. A path that ends
with a slash is no file, whether or not it is there. -/
def target (d : Directory) (path : String) : Except FileError (Device ⊕ List String) := do
  let names := pathNames path
  if namesDirectory path && names.getLast?.any fun name => name != "." && name != ".." then
    let _ ← d.walk path (names.dropLast ++ ["."])
    throw .isADirectory
  let place ← d.walk path names
  match d.entry? place with
  | some .directory => throw .isADirectory
  | some (.device .full) => throw .noSpace
  | some (.device device) => return .inl device
  | _ => return .inr place

end Directory

/-- What the command leaves behind. -/
structure Report where
  code : Nat
  stdout : String
  stderr : String
  directory : Directory

def run (d : Directory) (args : List String) : Report :=
  match Options.ofArgs args with
  | .error e => ⟨2, "", e.message ++ "\n", d⟩
  | .ok options => match produce options (d.read options.input) with
    | .error failure => ⟨1, "", failure.render, d⟩
    | .ok (grammar, text) => match options.output with
      | none => ⟨0, text, warning grammar, d⟩
      | some path => match d.target path with
        | .error e => ⟨1, "", warning grammar ++ (writeFailure path e).render, d⟩
        | .ok (.inl .stdout) => ⟨0, text, warning grammar, d⟩
        | .ok (.inl .stderr) => ⟨0, "", warning grammar ++ text, d⟩
        | .ok (.inl _) => ⟨0, "", warning grammar, d⟩
        | .ok (.inr place) => ⟨0, "", warning grammar, ⟨d.files.insert place text.toUTF8⟩⟩

end CanonicalLR.Command
