import CanonicalLR.Parser

/-! Parser callbacks written as data: rules that look at the run and edit its feed, with a journal of
all calls. -/
namespace CanonicalLR.Script

def cursorLimit : Nat := Nat.pow 2 64 - 1

/-- An edit of a feed. Offsets count from the cursor. A new token without content is synthetic. -/
inductive Edit where
  | insert (offset : Nat) (name : String) (content : Option String)
  | append (name : String) (content : Option String)
  | remove (offset : Nat)
  | rename (offset : Nat) (name : String)
  | truncate (length : Nat)
  | move (distance : Int)
  | seek (index : Nat)
  | nothing

/-- A new token at an index of the input. It takes the place of the token there, or else of the last
token. -/
def newToken (input : List Token) (index : Nat) (name : String) (content : Option String) : Token :=
  let place := ((input[index]?.or input.getLast?).map (·.position)).getD .zero
  match content with
  | some content => ⟨name, content, place⟩
  | none => .synthetic name place

def Edit.perform {υ : Type} (feed : Feed υ) (edit : Edit) : Feed υ :=
  let input := feed.input
  match edit with
  | insert offset name content =>
    let index := min (feed.cursor + offset) input.length
    { feed with input := input.take index ++ newToken input index name content :: input.drop index }
  | append name content =>
    { feed with input := input ++ [newToken input input.length name content] }
  | remove offset => { feed with input := input.eraseIdx (feed.cursor + offset) }
  | rename offset name =>
    { feed with input := input.modify (feed.cursor + offset) fun t => { t with name } }
  | truncate length => { feed with input := input.take length }
  | move distance => { feed with cursor := min ((feed.cursor : Int) + distance).toNat cursorLimit }
  | seek index => { feed with cursor := index }
  | nothing => feed

/-- What a rule asks of the run. Every part that is given has to hold. -/
structure Condition where
  /-- The name of the lookahead, or that there is none. -/
  lookahead : Option (Option String) := none
  state : Option Nat := none
  index : Option Nat := none
  /-- The name of the node on top of the stack. -/
  top : Option String := none
  /-- The alternative of the node on top of the stack, which then is no leaf. -/
  alternative : Option Nat := none
  /-- There were fewer calls before this one. -/
  maxCalls : Option Nat := none

def Condition.holds {υ : Type} (c : Condition) (calls : Nat) (context : Context υ) : Bool :=
  c.lookahead.all (context.feed.lookahead?.map (·.name) = ·)
    && c.state.all (context.state? = some ·)
    && c.index.all (context.feed.cursor = ·)
    && c.top.all (context.top?.map Tree.name = some ·)
    && c.alternative.all (context.top?.bind Tree.alternative? = some ·)
    && c.maxCalls.all (calls < ·)

/-- Edits to perform under a condition, and the answer to give then. -/
structure Rule where
  condition : Condition
  edits : List Edit
  answer : Bool

/-- One call of a callback. -/
inductive Note where
  /-- The hook gave an answer at a cursor, lookahead and state stack, and left the cursor and the
  number of tokens as they are noted. -/
  | hook (answer : Bool) (index : Nat) (lookahead : Option String) (states : List Nat)
      (indexAfter lengthAfter : Nat)
  | reduce (node : Tree) (states : List Nat) (index : Nat)

/-- How often the callbacks were called, and all calls, the last one first. -/
structure Journal where
  hookCalls : Nat := 0
  reduceCalls : Nat := 0
  notes : List Note := []

def firstRule? {υ : Type} (rules : List Rule) (calls : Nat) (context : Context υ) : Option Rule :=
  rules.find? (·.condition.holds calls context)

/-- The hook of a list of rules. Where no rule holds, the answer is `otherwise`. -/
def hook (rules : List Rule) (otherwise : Bool) : Hook Journal := fun context =>
  let journal := context.feed.user
  let (answer, feed) := match firstRule? rules journal.hookCalls context with
    | some rule => (rule.answer, rule.edits.foldl Edit.perform context.feed)
    | none => (otherwise, context.feed)
  let note := Note.hook answer context.feed.cursor (context.feed.lookahead?.map (·.name))
    context.states.reverse feed.cursor feed.input.length
  let user := { journal with hookCalls := journal.hookCalls + 1, notes := note :: journal.notes }
  (answer, { feed with user })

def reducer (rules : List Rule) : Reducer Journal := fun context =>
  let journal := context.feed.user
  let feed := match firstRule? rules journal.reduceCalls context with
    | some rule => rule.edits.foldl Edit.perform context.feed
    | none => context.feed
  let notes := match context.top? with
    | some node => Note.reduce node context.states.reverse context.feed.cursor :: journal.notes
    | none => journal.notes
  { feed with user := { journal with reduceCalls := journal.reduceCalls + 1, notes } }

end CanonicalLR.Script
