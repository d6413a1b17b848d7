import CanonicalLR.Automaton
import CanonicalLR.Grammar
import CanonicalLR.Table

/-! Tables of grammars. A cell that two actions claim is a conflict. -/
namespace CanonicalLR

/-- Two actions are due in one cell: that of a completed rule, and the one that was there before. -/
structure Conflict where
  state : Nat
  expression : String
  right : List String
  lookahead : String
  existing : Action
  incoming : Action
deriving DecidableEq

def Conflict.message (c : Conflict) : String :=
  "LR(1) conflict in state " ++ toString c.state ++ " at `" ++ c.expression ++ " := "
    ++ " ".intercalate c.right ++ " .' on `" ++ c.lookahead ++ "': " ++ c.existing.render ++ " vs "
    ++ c.incoming.render

namespace Table

/-- The cell of an edge: a shift on a terminal, a goto on a nonterminal. -/
def addEdge (g : AugmentedGrammar) (row : Row) (edge : Symbol × Nat) : Row :=
  match edge.1 with
  | .terminal _ =>
    { row with actions := row.actions.insert (g.symbolName edge.1) (.shift edge.2) }
  | .nonterminal _ => { row with gotos := row.gotos.insert (g.symbolName edge.1) edge.2 }

def completion (g : AugmentedGrammar) (id : Nat) (rule : Production) : Action :=
  if id = AugmentedGrammar.acceptRule then .accept
  else .reduce (g.symbolName (.nonterminal rule.left)) rule.alternative rule.right.length

def addItem (g : AugmentedGrammar) (state : Nat) (row : Row) (item : Item) :
    Except Conflict Row :=
  match g.rules[item.rule]? with
  | none => .ok row
  | some rule =>
    if item.marker < rule.right.length then .ok row
    else
      let lookahead := g.symbolName (.terminal item.lookahead)
      let incoming := completion g item.rule rule
      match row.actions.get? lookahead with
      | some existing =>
        .error {
          state
          expression := g.symbolName (.nonterminal rule.left)
          right := rule.right.map g.symbolName
          lookahead
          existing
          incoming }
      | none => .ok { row with actions := row.actions.insert lookahead incoming }

/-- The row of a state: first its edges, then its completed items in order. -/
def compileRow (g : AugmentedGrammar) (id : Nat) (state : State) : Except Conflict Row :=
  state.items.toList.foldlM (addItem g id) (state.edges.entries.foldl (addEdge g) ⟨.empty, .empty⟩)

def compileRows (g : AugmentedGrammar) :
    Nat → List State → Dict Nat Row → Except Conflict (Dict Nat Row)
  | _, [], rows => .ok rows
  | id, state :: rest, rows => do
    compileRows g (id + 1) rest (rows.insert id (← compileRow g id state))

def ofAutomaton (g : AugmentedGrammar) (a : Automaton) : Except Conflict Table := do
  return ⟨Automaton.start, ← compileRows g 0 a.states .empty⟩

def ofGrammar {α : Type} (grammar : Grammar α) : Except Conflict Table :=
  let g := grammar.augmented
  ofAutomaton g (Automaton.ofGrammar g (FirstSets.ofGrammar g))

end Table

end CanonicalLR
