import CanonicalLR.Token

/-! Parse trees. -/
namespace CanonicalLR

/-- A leaf is a token that was read, a node an alternative of an expression that was reduced. -/
inductive Tree where
  | leaf (token : Token)
  | node (expression : String) (alternative : Nat) (children : List Tree)

namespace Tree

def name : Tree → String
  | leaf token => token.name
  | node expression _ _ => expression

def token? : Tree → Option Token
  | leaf token => some token
  | node .. => none

def alternative? : Tree → Option Nat
  | leaf _ => none
  | node _ alternative _ => some alternative

def children : Tree → List Tree
  | leaf _ => []
  | node _ _ children => children

mutual

def leaves : Tree → List Token
  | leaf token => [token]
  | node _ _ children => leavesOfAll children

def leavesOfAll : List Tree → List Token
  | [] => []
  | t :: ts => t.leaves ++ leavesOfAll ts

end

mutual

/-- The name of a leaf; a node as `(expression#alternative child child …)`. -/
def render : Tree → String
  | leaf token => token.name
  | node expression alternative children =>
    "(" ++ expression ++ "#" ++ toString alternative ++ renderAll children ++ ")"

def renderAll : List Tree → String
  | [] => ""
  | t :: ts => " " ++ t.render ++ renderAll ts

end

end Tree

end CanonicalLR
