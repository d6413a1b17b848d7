import CanonicalLR.Data.SortedSet
import CanonicalLR.Grammar.Augmented

/-! First sets: the terminals with which what a symbol derives can begin. -/
namespace CanonicalLR

/-- A set of terminals by number. -/
abbrev TerminalSet := SortedSet Nat

/-- The terminals that can begin a string derived from some symbols, and whether the symbols derive
the empty string. -/
structure First where
  terminals : TerminalSet
  nullable : Bool
deriving DecidableEq

namespace First

def none : First := ⟨.empty, false⟩

def union (a b : First) : First :=
  ⟨a.terminals.union b.terminals, a.nullable || b.nullable⟩

def render (g : AugmentedGrammar) (f : First) : String :=
  "\x7b" ++ String.join (f.terminals.toList.map fun t => " " ++ g.symbolName (.terminal t))
    ++ (if f.nullable then " ε" else "") ++ " \x7d"

def ofSymbols (sets : List First) : List Symbol → First
  | [] => ⟨.empty, true⟩
  | .terminal t :: _ => ⟨SortedSet.empty.insert t, false⟩
  | .nonterminal n :: rest => match sets[n]? with
    | Option.none => none
    | some f =>
      if f.nullable then
        let g := ofSymbols sets rest
        ⟨f.terminals.union g.terminals, g.nullable⟩
      else f

end First

/-- The first sets of all nonterminals by number, and after how many rounds nothing was new. -/
structure FirstSets where
  sets : List First
  rounds : Nat

namespace FirstSets

def addRule (sets : List First) (rule : Production) : List First :=
  sets.modify rule.left (·.union (First.ofSymbols sets rule.right))

def round (g : AugmentedGrammar) (sets : List First) : List First :=
  g.rules.foldl addRule sets

def saturate (g : AugmentedGrammar) : Nat → Nat → List First → FirstSets
  | 0, rounds, sets => ⟨sets, rounds⟩
  | fuel + 1, rounds, sets =>
    let next := round g sets
    if next = sets then ⟨sets, rounds + 1⟩ else saturate g fuel (rounds + 1) next

/-- The first sets of a grammar. Every round but the last adds a terminal or an empty string to one
of the nonterminals, which bounds the number of rounds. -/
def ofGrammar (g : AugmentedGrammar) : FirstSets :=
  saturate g (g.nonterminals.length * (g.terminals.length + 1) + 1) 0
    (g.nonterminals.map fun _ => First.none)

def ofSymbols (fs : FirstSets) (symbols : List Symbol) : First :=
  First.ofSymbols fs.sets symbols

/-- The terminals that can come where `symbols` and then the terminal `lookahead` are due. -/
def lookaheads (fs : FirstSets) (symbols : List Symbol) (lookahead : Nat) : TerminalSet :=
  let f := fs.ofSymbols symbols
  if f.nullable then f.terminals.insert lookahead else f.terminals

end FirstSets

/-- A name that is no symbol of the grammar. -/
structure UnknownSymbol where
  name : String
deriving DecidableEq

namespace UnknownSymbol

def message (e : UnknownSymbol) : String :=
  "unknown symbol: `" ++ e.name ++ "'"

end UnknownSymbol

def AugmentedGrammar.lookup (g : AugmentedGrammar) (name : String) : Except UnknownSymbol Symbol :=
  match g.symbol? name with
  | some s => .ok s
  | none => .error ⟨name⟩

def FirstSets.ofNames (fs : FirstSets) (g : AugmentedGrammar) (names : List String) :
    Except UnknownSymbol First := do
  return fs.ofSymbols (← names.mapM g.lookup)

end CanonicalLR
