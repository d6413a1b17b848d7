import CanonicalLR.Command.Options
import CanonicalLR.GrammarFile

/-! What the command prints: a grammar, its automaton on demand, and its table. -/
namespace CanonicalLR.Command

/-- Why a file can not be read or written. -/
inductive FileError where
  | missing
  | notADirectory
  | isADirectory
  | noSpace
  | nameTooLong
  | notText
  | other (text : String)

def FileError.message : FileError → String
  | missing => "No such file or directory (os error 2)"
  | notADirectory => "Not a directory (os error 20)"
  | isADirectory => "Is a directory (os error 21)"
  | noSpace => "No space left on device (os error 28)"
  | nameTooLong => "File name too long (os error 36)"
  | notText => "stream did not contain valid UTF-8"
  | other text => text

/-- What the command was doing when it failed, and why it failed. -/
structure Failure where
  activity : String
  cause : String

def Failure.render (f : Failure) : String :=
  "Error: " ++ f.activity ++ "\n\nCaused by:\n    " ++ f.cause ++ "\n"

def readFailure (options : Options) (cause : String) : Failure :=
  ⟨"failed to read the grammar from " ++ options.input, cause⟩

def writeFailure (path : String) (e : FileError) : Failure :=
  ⟨"failed to write the dump to " ++ path, e.message⟩

def warning (g : Grammar Empty) : String :=
  match g.definitions.filter (·.alternatives.isEmpty) with
  | [] => ""
  | idle => "[warning] The following expressions have no alternative: "
      ++ Text.quotedList (idle.map (·.name)) ++ "\n"

def dump (options : Options) (grammar : Grammar Empty) : Except Conflict String := do
  let g := grammar.augmented
  let a := Automaton.ofGrammar g (FirstSets.ofGrammar g)
  let table ← Table.ofAutomaton g a
  let items := if options.automaton then "\n" ++ a.render g else ""
  return grammar.render ++ items ++ "\n" ++ table.render

def produce (options : Options) (content : Except FileError String) :
    Except Failure (Grammar Empty × String) := do
  let source ← content.mapError fun e => readFailure options ("IO error: " ++ e.message)
  let grammar ← (Grammar.ofSource source).mapError fun e => readFailure options e.message
  let text ← (dump options grammar).mapError fun e =>
    ⟨"failed to compile the parse table", e.message⟩
  return (grammar, text)

end CanonicalLR.Command
