import CanonicalLR.Lexer.Rule

/-! Lexer actions written as data: edits of the tokens read so far. -/
namespace CanonicalLR.Script

/-- An edit of the token queue. -/
inductive QueueEdit where
  | rename (name : String)
  | drop
  | push (name content : String)
  | synthetic (name : String)
  | clear
  | reverse
  | nothing

/-- An edit that may depend on the content of the last token. -/
structure QueueStep where
  onContent : Option String
  edit : QueueEdit

/-- The result of an edit. New tokens take the place of the last one, if there is one. -/
def QueueEdit.perform (edit : QueueEdit) (tokens : List Token) : List Token :=
  let place := (tokens.getLast?.map (·.position)).getD .zero
  match edit with
  | rename name => match tokens.getLast? with
    | some t => tokens.dropLast ++ [{ t with name }]
    | none => tokens
  | drop => tokens.dropLast
  | push name content => tokens ++ [⟨name, content, place⟩]
  | synthetic name => tokens ++ [.synthetic name place]
  | clear => []
  | reverse => tokens.reverse
  | nothing => tokens

def QueueStep.perform (tokens : List Token) (step : QueueStep) : List Token :=
  let holds : Bool := match step.onContent with
    | none => true
    | some content => tokens.getLast?.any (·.content == content)
  if holds then step.edit.perform tokens else tokens

def queueAction (steps : List QueueStep) (tokens : List Token) : List Token :=
  steps.foldl QueueStep.perform tokens

end CanonicalLR.Script
