import CanonicalLR.Lexer
import CanonicalLR.Parser
import CanonicalLR.Table.Compile

/-! Grammar files. A file is a sequence of definitions such as

    # comment
    E : E and F | F ;
    F : leftb E rightb | id ;

and is read with the lexer, the table construction and the parser of this library. -/
namespace CanonicalLR.GrammarFile

abbrev Definitions := List (String × List (List String))

/-- Why a text is no grammar file. Only the first two arise from a text; the others would mean that
the notation of grammar files is itself not well defined. -/
inductive ReadError where
  | lex (e : LexError)
  | parse (e : ParseError)
  | definition (e : DefinitionError)
  | table (e : Conflict)
  | unexpectedNode (expected : String)
  | cutShort

namespace ReadError

def message : ReadError → String
  | lex e => e.message
  | parse e => e.message
  | definition e => "failed to define the grammar file syntax: " ++ e.message
  | table e => "failed to compile the grammar file syntax: " ++ e.message
  | unexpectedNode expected => "unexpected stack item, expecting " ++ expected
  | cutShort => "the grammar file was not read to its end"

end ReadError

/-- A part of a file that has been read. -/
inductive Partial where
  | definitions (ds : Definitions)
  | definition (name : String) (alternatives : List (List String))
  | alternatives (as : List (List String))
  | elements (es : List String)

/-- The parts read so far, the last one first, and the first error. -/
structure Builder where
  stack : List Partial := []
  error : Option ReadError := none

/-- A reduction that replaces the last parts by a new one. Nothing more is done after an error. -/
def build (f : List Partial → Tree → Except ReadError (List Partial)) : Reducer Builder :=
  fun context =>
    let builder := context.feed.user
    if builder.error.isSome then context.feed
    else
      let result := match context.top? with
        | some node => f builder.stack node
        | none => .error (.unexpectedNode "reduced node")
      match result with
      | .ok stack => { context.feed with user := { builder with stack } }
      | .error e => { context.feed with user := { builder with error := some e } }

def ident (node : Tree) (index : Nat) : Except ReadError String :=
  match (node.children[index]?).bind Tree.token? with
  | some token => .ok token.content
  | none => .error (.unexpectedNode "ident")

def building (symbols : List String) (f : List Partial → Tree → Except ReadError (List Partial)) :
    Alternative (Reducer Builder) :=
  ⟨symbols, some (build f)⟩

/-- The notation of grammar files as a grammar, with the parts that each alternative builds. -/
def definitions : List (Definition (Reducer Builder)) := [
  ⟨"grammar", [
    building ["grammar", "definition"] fun stack _ => match stack with
      | .definition name as :: .definitions ds :: stack =>
        .ok (.definitions (ds ++ [(name, as)]) :: stack)
      | .definition .. :: _ => .error (.unexpectedNode "Definitions")
      | _ => .error (.unexpectedNode "Definition"),
    building ["definition"] fun stack _ => match stack with
      | .definition name as :: stack => .ok (.definitions [(name, as)] :: stack)
      | _ => .error (.unexpectedNode "Definition")]⟩,
  ⟨"definition", [
    building ["ident", "colon", "alternatives", "semi"] fun stack node => match stack with
      | .alternatives as :: stack => do return .definition (← ident node 0) as :: stack
      | _ => .error (.unexpectedNode "Alternatives")]⟩,
  ⟨"alternatives", [
    building ["alternatives", "bar", "sequence"] fun stack _ => match stack with
      | .elements es :: .alternatives as :: stack => .ok (.alternatives (as ++ [es]) :: stack)
      | .elements _ :: _ => .error (.unexpectedNode "Alternatives")
      | _ => .error (.unexpectedNode "Elems"),
    building ["sequence"] fun stack _ => match stack with
      | .elements es :: stack => .ok (.alternatives [es] :: stack)
      | _ => .error (.unexpectedNode "Elems")]⟩,
  ⟨"sequence", [
    building ["sequence", "ident"] fun stack node => match stack with
      | .elements es :: stack => do return .elements (es ++ [← ident node 1]) :: stack
      | _ => .error (.unexpectedNode "Elems"),
    building [] fun stack _ => .ok (.elements [] :: stack)]⟩]

def rules : List LexRule := [
  { name := "ws", pattern := "\\s+", skip := true },
  { name := "comment", pattern := "#[^\\n]*", skip := true },
  { name := "colon", pattern := ":" },
  { name := "bar", pattern := "\\|" },
  { name := "semi", pattern := ";" },
  { name := "ident", pattern := "[^\\s:|;#]+" }]

/-- All that is needed to read grammar files. -/
structure Format where
  grammar : Grammar (Reducer Builder)
  table : Table
  lexer : Lexer

def format : Except ReadError Format := do
  let grammar ← (Grammar.define definitions).mapError .definition
  let table ← (Table.ofGrammar grammar).mapError .table
  let lexer ← (Lexer.ofRules rules).mapError .lex
  return ⟨grammar, table, lexer⟩

namespace Format

def tokenize (format : Format) (source : String) : Except ReadError (List Token) :=
  (format.lexer.tokenize source).mapError .lex

/-- Runs the parser over tokens. A token is followed by at most four reductions, so the bound on the
number of steps is never met. -/
def run (format : Format) (tokens : List Token) : Parser.Outcome × Run Builder :=
  Parser.parse { table := format.table, reducer := some format.grammar.reducer }
    (8 * (tokens.length + 1)) (Context.ofInput tokens {})

end Format

def built : Parser.Outcome × Run Builder → Except ReadError Definitions
  | (.error e, _) => .error (.parse e)
  | (.cutShort, _) => .error .cutShort
  | (.tree _, run) =>
    let builder := run.context.feed.user
    match builder.error, builder.stack with
    | some e, _ => .error e
    | none, .definitions ds :: _ => .ok ds
    | none, _ => .error (.unexpectedNode "Definitions")

def read (source : String) : Except ReadError Definitions := do
  let format ← format
  built (format.run (← format.tokenize source))

end CanonicalLR.GrammarFile

namespace CanonicalLR

/-- Why a text makes no grammar. -/
inductive GrammarError where
  | file (e : GrammarFile.ReadError)
  | definition (e : DefinitionError)

def GrammarError.message : GrammarError → String
  | file e => "Syntax error: " ++ e.message
  | definition e => e.message

def GrammarFile.Definitions.toDefinitions {α : Type} (ds : GrammarFile.Definitions) :
    List (Definition α) :=
  ds.map fun (name, alternatives) => ⟨name, alternatives.map fun symbols => ⟨symbols, none⟩⟩

def Grammar.ofSource {α : Type} (source : String) : Except GrammarError (Grammar α) := do
  let ds ← (GrammarFile.read source).mapError .file
  (Grammar.define ds.toDefinitions).mapError .definition

end CanonicalLR
