import CanonicalLR.Text.Class
import CanonicalLR.Text.Display

/-! What a user writes to define a grammar, and what can be wrong with it. -/
namespace CanonicalLR

/-- One right-hand side of an expression. An action of type `α` may go with it. -/
structure Alternative (α : Type) where
  symbols : List String
  action : Option α := none

/-- A named expression and its alternatives in order. -/
structure Definition (α : Type) where
  name : String
  alternatives : List (Alternative α)

/-- Why definitions make no grammar. -/
inductive DefinitionError where
  | empty
  | duplicateExpression (name : String)
  | duplicateAlternative (name : String) (symbols : List String)
  | reservedName (name : String)
  | invalidName (name : String)
deriving DecidableEq

namespace DefinitionError

def message : DefinitionError → String
  | empty => "the grammar has no expressions"
  | duplicateExpression name => "can not have expressions with same name: `" ++ name ++ "'"
  | duplicateAlternative name symbols =>
    "duplicate alternative `" ++ name ++ " := " ++ " ".intercalate symbols ++ "'"
  | reservedName name => "`" ++ name ++ "' is reserved"
  | invalidName name => "incorrect symbol name: " ++ Text.quoted name

end DefinitionError

/-- Names are not empty, hold no white space and do not begin with a dollar sign. -/
def checkName (name : String) : Except DefinitionError Unit :=
  if name.isEmpty || name.toList.any Text.isBlank then .error (.invalidName name)
  else if name.toList.head? = some '$' then .error (.reservedName name)
  else .ok ()

end CanonicalLR
