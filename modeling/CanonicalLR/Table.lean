import CanonicalLR.Data.Dict
import CanonicalLR.Text.Display

/-! Parse tables: plain data keyed by state numbers and symbol names. -/
namespace CanonicalLR

/-- What to do in a state on a terminal. -/
inductive Action where
  /-- Read the terminal and go to a state. -/
  | shift (state : Nat)
  /-- Replace the last `len` nodes by one node of an expression. -/
  | reduce (expression : String) (alternative len : Nat)
  /-- The whole input has been derived. -/
  | accept
deriving DecidableEq

/-- `shift(03)`, `reduce(E#0)` or `accept`. -/
def Action.render : Action → String
  | shift state => "shift(" ++ Text.twoDigits state ++ ")"
  | reduce expression alternative _ =>
    "reduce(" ++ expression ++ "#" ++ toString alternative ++ ")"
  | accept => "accept"

/-- The actions of a state by terminal name, and where to go after a reduction by expression name. -/
structure Row where
  actions : Dict String Action
  gotos : Dict String Nat
deriving DecidableEq

/-- A parse table. Nothing is assumed about it: the start and the targets may be missing. -/
structure Table where
  start : Nat
  states : Dict Nat Row
deriving DecidableEq

namespace Table

def row? (t : Table) (state : Nat) : Option Row :=
  t.states.get? state

def action? (t : Table) (state : Nat) (terminal : String) : Option Action :=
  (t.row? state).bind (·.actions.get? terminal)

def goto? (t : Table) (state : Nat) (expression : String) : Option Nat :=
  (t.row? state).bind (·.gotos.get? expression)

def expected (t : Table) (state : Nat) : List String :=
  ((t.row? state).map (·.actions.keys)).getD []

def renderRow (t : Table) (id : Nat) (row : Row) : String :=
  "#### State " ++ Text.twoDigits id ++ (if id = t.start then " (start)" else "") ++ "\n## actions\n"
    ++ String.join (row.actions.entries.map fun (terminal, action) =>
      "- " ++ terminal ++ " => " ++ action.render ++ "\n")
    ++ "## gotos\n"
    ++ String.join (row.gotos.entries.map fun (expression, state) =>
      "- " ++ expression ++ " => goto(" ++ Text.twoDigits state ++ ")\n")

def render (t : Table) : String :=
  "\n".intercalate (t.states.entries.map fun (id, row) => t.renderRow id row)

end Table

end CanonicalLR
