import CanonicalLR.Grammar.Augmented
import CanonicalLR.Grammar.Definition

/-! Numbering the symbols and rules of definitions. Names are told apart in two passes: first every
defined name becomes a nonterminal, then every other name that is referred to a terminal. -/
namespace CanonicalLR

namespace AugmentedGrammar

/-- The symbol of a name: a nonterminal if it is defined, else a terminal, a new one if need be. The
numbers of both kinds start at one, behind the reserved symbols. -/
def classify (defined terminals : List String) (name : String) :
    Except DefinitionError (Symbol × List String) :=
  match defined.idxOf? name with
  | some n => .ok (.nonterminal (n + 1), terminals)
  | none => match terminals.idxOf? name with
    | some t => .ok (.terminal (t + 1), terminals)
    | none => do
      checkName name
      return (.terminal (terminals.length + 1), terminals ++ [name])

def classifyAll (defined : List String) :
    List String → List String → Except DefinitionError (List Symbol × List String)
  | terminals, [] => .ok ([], terminals)
  | terminals, name :: names => do
    let (s, terminals) ← classify defined terminals name
    let (ss, terminals) ← classifyAll defined terminals names
    return (s :: ss, terminals)

def alternativeRules (defined : List String) (left : Nat) :
    Nat → List String → List (List String) →
      Except DefinitionError (List Production × List String)
  | _, terminals, [] => .ok ([], terminals)
  | index, terminals, names :: rest => do
    let (right, terminals) ← classifyAll defined terminals names
    let (rules, terminals) ← alternativeRules defined left (index + 1) terminals rest
    return (⟨left, right, index⟩ :: rules, terminals)

def definitionRules {α : Type} (defined : List String) :
    Nat → List String → List (Definition α) →
      Except DefinitionError (List Production × List String)
  | _, terminals, [] => .ok ([], terminals)
  | left, terminals, d :: rest => do
    let (rules, terminals) ←
      alternativeRules defined left 0 terminals (d.alternatives.map (·.symbols))
    let (more, terminals) ← definitionRules defined (left + 1) terminals rest
    return (rules ++ more, terminals)

/-- Numbers the symbols and rules of definitions with distinct names. Every defined name is a
nonterminal, every other name that is referred to a terminal; the first definition is the start. -/
def ofDefinitions {α : Type} (definitions : List (Definition α)) :
    Except DefinitionError AugmentedGrammar := do
  if definitions.isEmpty then throw .empty
  definitions.forM fun d => checkName d.name
  let defined := definitions.map (·.name)
  let (rules, terminals) ← definitionRules defined startSymbol [] definitions
  return {
    terminals := endName :: terminals
    nonterminals := startName :: defined
    rules := ⟨Symbol.startId, [.nonterminal startSymbol], 0⟩ :: rules }

end AugmentedGrammar

end CanonicalLR
