/-! The options of the command line. -/
namespace CanonicalLR.Command

/-- What the command was asked to do. -/
structure Options where
  /-- The path of the grammar file. -/
  input : String
  /-- Where to write the dump, if not to the standard output. -/
  output : Option String
  /-- The dump holds the item sets too. -/
  automaton : Bool
deriving DecidableEq

/-- Why arguments are not understood. -/
inductive UsageError where
  | missingInput
  | extraArgument (arg : String)
  | unknownOption (arg : String)
  | missingValue (option : String)
  | repeatedOption (option : String)
deriving DecidableEq

def UsageError.message : UsageError → String
  | missingInput => "the path of a grammar file is required"
  | extraArgument arg => "unexpected argument '" ++ arg ++ "'"
  | unknownOption arg => "unexpected option '" ++ arg ++ "'"
  | missingValue option => "a value is required for '" ++ option ++ "'"
  | repeatedOption option => "the option '" ++ option ++ "' can not be used more than once"

/-- The options seen so far. -/
structure Seen where
  input : Option String := none
  output : Option String := none
  automaton : Bool := false

namespace Seen

/-- Takes a path that is no option. Paths are not empty. -/
def addInput (seen : Seen) (arg : String) : Except UsageError Seen :=
  if arg.isEmpty then .error .missingInput
  else if seen.input.isSome then .error (.extraArgument arg)
  else .ok { seen with input := some arg }

def addOutput (seen : Seen) (path : String) : Except UsageError Seen :=
  if path.isEmpty then .error (.missingValue "--output")
  else if seen.output.isSome then .error (.repeatedOption "--output")
  else .ok { seen with output := some path }

def addAutomaton (seen : Seen) : Except UsageError Seen :=
  if seen.automaton then .error (.repeatedOption "--automaton")
  else .ok { seen with automaton := true }

end Seen

def after? (start text : String) : Option String :=
  if start.toList.isPrefixOf text.toList then
    some (String.ofList (text.toList.drop start.toList.length))
  else none

/-- An argument that begins with a hyphen, other than a hyphen alone, is an option. -/
def isOption (arg : String) : Bool :=
  arg != "-" && arg.toList.head? == some '-'

/-- Reads arguments from left to right. Behind `--` there are no options. -/
def readArgs : Seen → List String → Except UsageError Seen
  | seen, [] => .ok seen
  | seen, "--" :: rest => rest.foldlM Seen.addInput seen
  | seen, "--automaton" :: rest => do readArgs (← seen.addAutomaton) rest
  | seen, arg :: rest =>
    if arg = "-o" ∨ arg = "--output" then match rest with
      | [] => .error (.missingValue arg)
      | path :: rest =>
        if isOption path then .error (.missingValue arg)
        else do readArgs (← seen.addOutput path) rest
    else match (after? "--output=" arg).or ((after? "-o=" arg).or (after? "-o" arg)) with
      | some path => do readArgs (← seen.addOutput path) rest
      | none =>
        if isOption arg then .error (.unknownOption arg)
        else do readArgs (← seen.addInput arg) rest

def Options.ofArgs (args : List String) : Except UsageError Options := do
  let seen ← readArgs {} args
  match seen.input with
  | some input => return ⟨input, seen.output, seen.automaton⟩
  | none => throw .missingInput

end CanonicalLR.Command
