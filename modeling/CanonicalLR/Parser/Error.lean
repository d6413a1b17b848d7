import CanonicalLR.Token

/-! Why a parse run fails. -/
namespace CanonicalLR

/-- The reasons for which a parse run yields no tree. -/
inductive ParseError where
  | unexpectedToken (index : Nat) (token : String) (position : Position) (expected : List String)
  | unexpectedEnd (index : Nat) (position : Option Position)
  | inputLeft (index : Nat) (position : Option Position)
  | nodesLeft (remaining : Nat)
  | stackTooShort (expression : String) (alternative len : Nat)
  | noGoto (state : Nat) (expression : String)
  | emptyStateStack
  | idleRecovery (index : Nat)
  | tooManyRecoveries (index attempts : Nat)
deriving DecidableEq

namespace ParseError

def index? : ParseError → Option Nat
  | unexpectedToken index .. => some index
  | unexpectedEnd index _ => some index
  | inputLeft index _ => some index
  | idleRecovery index => some index
  | tooManyRecoveries index _ => some index
  | _ => none

def renderPlace : Option Position → String
  | some p => " (" ++ toString p.row ++ ":" ++ toString p.column ++ ")"
  | none => ""

def message : ParseError → String
  | unexpectedToken index token position expected =>
    "bad input at index " ++ toString index ++ ": " ++ token ++ renderPlace (some position)
      ++ ", expected one of " ++ Text.quotedList expected
  | unexpectedEnd index position =>
    "unexpected end of input at index " ++ toString index ++ renderPlace position
  | inputLeft index position =>
    "ended before read all input, stopped at index " ++ toString index ++ renderPlace position
  | nodesLeft remaining =>
    "ended before all reduced (" ++ toString remaining ++ " nodes remaining)"
  | stackTooShort expression alternative len =>
    "unable to reduce " ++ expression ++ "#" ++ toString alternative ++ ": fewer than "
      ++ toString len ++ " entries on the stack"
  | noGoto state expression =>
    "no move after reducing " ++ expression ++ " in state " ++ toString state
  | emptyStateStack => "empty state stack"
  | idleRecovery index => "the bad input hook made no progress at index " ++ toString index
  | tooManyRecoveries index attempts =>
    "gave up recovering at index " ++ toString index ++ " after " ++ toString attempts ++ " attempts"

end ParseError

end CanonicalLR
