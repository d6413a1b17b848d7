import CanonicalLR.Token

/-! The grammar that tables are built from: numbered symbols and rules, with a start rule and an end
of input on top of what the user defined. -/
namespace CanonicalLR

/-- A grammar symbol by number. -/
inductive Symbol where
  | terminal (id : Nat)
  | nonterminal (id : Nat)
deriving DecidableEq

/-- The terminal that stands for the end of the input. -/
def Symbol.endId : Nat := 0

/-- The nonterminal on top of the start expression. -/
def Symbol.startId : Nat := 0

/-- One alternative of a nonterminal: `left` derives `right`. -/
structure Production where
  left : Nat
  right : List Symbol
  /-- The position among the alternatives of `left`. -/
  alternative : Nat
deriving DecidableEq

/-- Terminals, nonterminals and rules, numbered by their places in these lists. The first terminal
is the end of the input, the first nonterminal the augmented start, and the first rule derives the
start expression from it. -/
structure AugmentedGrammar where
  terminals : List String
  nonterminals : List String
  rules : List Production
deriving DecidableEq

namespace AugmentedGrammar

def acceptRule : Nat := 0

def startSymbol : Nat := 1

def rulesOf (g : AugmentedGrammar) (n : Nat) : List Nat :=
  (List.range g.rules.length).filter fun r => (g.rules[r]?).any (·.left = n)

def symbolName (g : AugmentedGrammar) : Symbol → String
  | .terminal t => g.terminals.getD t ""
  | .nonterminal n => g.nonterminals.getD n ""

/-- The symbol of a name, the reserved names included. -/
def symbol? (g : AugmentedGrammar) (name : String) : Option Symbol :=
  if name = endName then some (.terminal Symbol.endId)
  else if name = startName then some (.nonterminal Symbol.startId)
  else match g.nonterminals.idxOf? name with
    | some n => some (.nonterminal n)
    | none => (g.terminals.idxOf? name).map .terminal

/-- `Left := R1 R2 R3`, with a dot before the symbol at `marker` if one is given. -/
def renderRule (g : AugmentedGrammar) (rule : Production) (marker : Option Nat) : String :=
  let symbols := rule.right.mapIdx fun i s =>
    (if marker = some i then " ." else "") ++ " " ++ g.symbolName s
  g.symbolName (.nonterminal rule.left) ++ " :=" ++ String.join symbols
    ++ if marker = some rule.right.length then " ." else ""

end AugmentedGrammar

end CanonicalLR
