import CanonicalLR.GrammarFile

/-! The log: what each stage has to say about its work, as a function of its input. -/
namespace CanonicalLR.Log

/-- How important a log entry is. -/
inductive Level where
  | trace
  | debug
  | warn

/-- One line of the log. -/
structure Entry where
  level : Level
  message : String

def Entry.render (e : Entry) : String :=
  (match e.level with
    | .trace => "TRACE "
    | .debug => "DEBUG "
    | .warn => "WARN ") ++ e.message

def lexRules (rules : List LexRule) : List Entry :=
  (rules.takeWhile fun rule => rule.compile matches .ok _).map fun rule =>
    ⟨.debug, "compiled lexer rule " ++ rule.render⟩

/-- One entry for each token found, also when the text can not be split to its end. -/
def lexing (lexer : Lexer) (text : String) : List Entry :=
  let lines := LineStarts.ofText text.toList
  (lexer.scan text.toList).emitted.map fun s =>
    ⟨.trace, "lexed " ++ s.rule.name ++ " at " ++ (s.token lines).position.render⟩

def event : Event → Entry
  | .shifted token state => ⟨.trace, "shift " ++ token.render ++ " -> " ++ Text.twoDigits state⟩
  | .reduced node state =>
    ⟨.trace, "reduce " ++ node.name ++ "#" ++ toString (node.alternative?.getD 0) ++ " -> "
      ++ Text.twoDigits state⟩
  | .recovered index => ⟨.debug, "recovered from bad input at " ++ toString index⟩
  | .accepted state => ⟨.debug, "accepted at state " ++ toString state⟩

def parsing {υ : Type} (run : Run υ) : List Entry :=
  run.events.reverse.map event

/-- Ending a draft: a warning for each expression without alternatives, then the numbering. -/
def finishing {α : Type} (draft : Draft α) : List Entry :=
  let idle := draft.definitions.filter (·.alternatives.isEmpty)
  idle.map (fun d => ⟨.warn, "the expression `" ++ d.name ++ "' has no alternatives"⟩)
    ++ match AugmentedGrammar.ofDefinitions draft.definitions with
      | .error _ => []
      | .ok g => [⟨.debug, "classified " ++ toString g.terminals.length ++ " terminals and "
          ++ toString g.nonterminals.length ++ " nonterminals (" ++ toString g.rules.length
          ++ " rules)"⟩]

/-- Defining a grammar says nothing before all definitions are made. -/
def defining {α : Type} (definitions : List (Definition α)) : List Entry :=
  match Draft.ofList definitions with
  | .error _ => []
  | .ok draft => finishing draft

def readingFile (source : String) : List Entry :=
  match GrammarFile.format with
  | .error _ => []
  | .ok format => lexing format.lexer source ++ match format.tokenize source with
    | .error _ => []
    | .ok tokens =>
      ⟨.trace, "read " ++ toString tokens.length ++ " tokens"⟩ :: parsing (format.run tokens).2

def readingGrammar (source : String) : List Entry :=
  readingFile source ++ match GrammarFile.read source with
    | .error _ => []
    | .ok ds => defining (α := Empty) ds.toDefinitions

def firstSets (fs : FirstSets) : List Entry :=
  [⟨.debug, "first sets converged after " ++ toString fs.rounds ++ " passes"⟩]

def automaton (a : Automaton) : List Entry :=
  [⟨.debug, "generated " ++ toString a.states.length ++ " LR(1) states"⟩]

def tableOfGrammar {α : Type} (grammar : Grammar α) : List Entry :=
  let fs := FirstSets.ofGrammar grammar.augmented
  let a := Automaton.ofGrammar grammar.augmented fs
  firstSets fs ++ automaton a ++ match Table.ofAutomaton grammar.augmented a with
    | .error _ => []
    | .ok t => [⟨.debug, "compiled parse table with " ++ toString t.states.size ++ " states"⟩]

end CanonicalLR.Log
