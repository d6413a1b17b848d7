import CanonicalLR.Command.Dump

/-! The command: prints the table of a grammar file. -/
namespace CanonicalLR.Command

/-- The number of a system error; some operations give it negated. -/
def errorNumber (code : UInt32) : UInt32 :=
  min code (0 - code)

def fileError : IO.Error → FileError
  | .noFileOrDirectory .. => .missing
  | .inappropriateType _ code _ =>
    if errorNumber code = 20 then .notADirectory else .isADirectory
  | e@(.resourceExhausted _ code _) =>
    if errorNumber code = 28 then .noSpace else .other (toString e)
  | e@(.invalidArgument _ code _) =>
    if errorNumber code = 36 then .nameTooLong else .other (toString e)
  | e => .other (toString e)

def readText (path : String) : IO (Except FileError String) := do
  try
    let handle ← IO.FS.Handle.mk path .read
    match String.fromUTF8? (← handle.readBinToEnd) with
    | some text => return .ok text
    | none => return .error .notText
  catch e => return .error (fileError e)

def writeText (path text : String) : IO (Except FileError Unit) := do
  try
    let handle ← IO.FS.Handle.mk path .write
    handle.putStr text
    handle.flush
    return .ok ()
  catch e => return .error (fileError e)

end CanonicalLR.Command

open CanonicalLR.Command in
def main (args : List String) : IO UInt32 := do
  match Options.ofArgs args with
  | .error e =>
    IO.eprintln ("error: " ++ e.message)
    return 2
  | .ok options =>
    match produce options (← readText options.input) with
    | .error failure =>
      IO.eprint failure.render
      return 1
    | .ok (grammar, text) =>
      IO.eprint (warning grammar)
      match options.output with
      | none =>
        IO.print text
        return 0
      | some path =>
        match ← writeText path text with
        | .ok () => return 0
        | .error e =>
          IO.eprint (writeFailure path e).render
          return 1
