import CanonicalLR.Table
import CanonicalLR.Tree

/-! The state of a parse run, and what callbacks may change of it. -/
namespace CanonicalLR

/-- The part of a run that callbacks may change: the tokens, the index of the next one, and a value
of the user's own. -/
structure Feed (υ : Type) where
  input : List Token
  cursor : Nat
  user : υ

namespace Feed

variable {υ : Type}

/-- The token at the cursor; there is none at the end of the input or behind it. -/
def lookahead? (f : Feed υ) : Option Token :=
  f.input[f.cursor]?

def lookaheadName (f : Feed υ) : String :=
  match f.lookahead? with
  | some token => token.name
  | none => endName

/-- The best known place of the cursor: that of the token there, or else of the last token. -/
def place? (f : Feed υ) : Option Position :=
  (f.lookahead?.or f.input.getLast?).map (·.position)

/-- What tells one lookahead from another: the cursor, the number of tokens and the name. -/
def sight (f : Feed υ) : Nat × Nat × Option String :=
  (f.cursor, f.input.length, f.lookahead?.map (·.name))

end Feed

/-- The feed together with the two stacks, which have their tops first. -/
structure Context (υ : Type) where
  feed : Feed υ
  states : List Nat
  nodes : List Tree

namespace Context

variable {υ : Type}

def ofInput (input : List Token) (user : υ) : Context υ :=
  ⟨⟨input, 0, user⟩, [], []⟩

def reset (c : Context υ) (start : Nat) : Context υ :=
  ⟨{ c.feed with cursor := 0 }, [start], []⟩

def state? (c : Context υ) : Option Nat :=
  c.states.head?

/-- The node on top of the stack: inside a reduction callback, the one just built. -/
def top? (c : Context υ) : Option Tree :=
  c.nodes.head?

end Context

/-- Called on bad input. Answers whether the run shall go on, with the feed to go on with. -/
abbrev Hook (υ : Type) := Context υ → Bool × Feed υ

/-- Called after each reduction, with the new node on top of the stack. -/
abbrev Reducer (υ : Type) := Context υ → Feed υ

end CanonicalLR
