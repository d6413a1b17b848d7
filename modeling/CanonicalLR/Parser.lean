import CanonicalLR.Grammar
import CanonicalLR.Parser.Context
import CanonicalLR.Parser.Error

/-! The shift-reduce driver that interprets a parse table. One step is a function of the run so far,
so that what holds of every step holds of every run. -/
namespace CanonicalLR

/-- A table with the callbacks to use on it. -/
structure Parser (υ : Type) where
  table : Table
  reducer : Option (Reducer υ) := none
  onBadInput : Option (Hook υ) := none
  /-- The number of recoveries allowed between two shifts. -/
  maxRecoveryAttempts : Nat := 32

/-- What a run did. -/
inductive Event where
  | shifted (token : Token) (state : Nat)
  /-- The node was built and the state behind it entered; then the reducer was called. -/
  | reduced (node : Tree) (state : Nat)
  | recovered (index : Nat)
  | accepted (state : Nat)

/-- A run between two steps. -/
structure Run (υ : Type) where
  context : Context υ
  /-- Recoveries since the last shift. -/
  attempts : Nat
  /-- What happened so far, the last event first. -/
  events : List Event

/-- What a step leads to. -/
inductive Step (υ : Type) where
  | next (run : Run υ)
  /-- The loop is left, by acceptance or because the cursor is behind the end of the input. -/
  | left (run : Run υ)
  | failed (error : ParseError) (run : Run υ)

namespace Run

variable {υ : Type}

def start (parser : Parser υ) (context : Context υ) : Run υ :=
  ⟨context.reset parser.table.start, 0, []⟩

def withFeed (run : Run υ) (feed : Feed υ) : Run υ :=
  { run with context := { run.context with feed } }

def record (run : Run υ) (event : Event) : Run υ :=
  { run with events := event :: run.events }

end Run

namespace Parser

variable {υ : Type}

/-- The error of a state without an action for the lookahead. The state is the one before the hook
was asked, the token the one that stands at the cursor now. -/
def badInput (p : Parser υ) (feed : Feed υ) (state : Nat) : ParseError :=
  match feed.lookahead? with
  | some token => .unexpectedToken feed.cursor token.name token.position (p.table.expected state)
  | none => .unexpectedEnd feed.cursor feed.place?

/-- Asks the hook to repair the input. A repair has to change the cursor, the number of tokens or
the name of the lookahead, or else the same step would fail again. -/
def recover (p : Parser υ) (run : Run υ) (state : Nat) : Step υ :=
  match p.onBadInput with
  | none => .failed (p.badInput run.context.feed state) run
  | some hook =>
    let feed := run.context.feed
    if run.attempts ≥ p.maxRecoveryAttempts then
      .failed (.tooManyRecoveries feed.cursor run.attempts) run
    else
      let (repaired, after) := hook run.context
      let run := run.withFeed after
      if !repaired then .failed (p.badInput after state) run
      else if after.sight = feed.sight then .failed (.idleRecovery after.cursor) run
      else .next ({ run with attempts := run.attempts + 1 }.record (.recovered feed.cursor))

def shift (run : Run υ) (state : Nat) : Step υ :=
  let feed := run.context.feed
  match feed.lookahead? with
  | none => .failed (.unexpectedEnd feed.cursor feed.place?) run
  | some token =>
    .next {
      context := ⟨{ feed with cursor := feed.cursor + 1 }, state :: run.context.states,
        .leaf token :: run.context.nodes⟩
      attempts := 0
      events := .shifted token state :: run.events }

def reduce (p : Parser υ) (run : Run υ) (expression : String) (alternative len : Nat) : Step υ :=
  let context := run.context
  if context.states.length ≤ len ∨ context.nodes.length < len then
    .failed (.stackTooShort expression alternative len) run
  else
    let node := Tree.node expression alternative (context.nodes.take len).reverse
    let context : Context υ :=
      ⟨context.feed, context.states.drop len, context.nodes.drop len⟩
    match context.states with
    | [] => .failed .emptyStateStack { run with context }
    | exposed :: _ => match p.table.goto? exposed expression with
      | none => .failed (.noGoto exposed expression) { run with context }
      | some next =>
        let context : Context υ :=
          ⟨context.feed, next :: context.states, node :: context.nodes⟩
        let run := { run with context }.record (.reduced node next)
        match p.reducer with
        | none => .next run
        | some reducer => .next (run.withFeed (reducer context))

def step (p : Parser υ) (run : Run υ) : Step υ :=
  let feed := run.context.feed
  if feed.input.length < feed.cursor then .left run
  else match run.context.states with
    | [] => .failed .emptyStateStack run
    | state :: _ => match p.table.action? state feed.lookaheadName with
      | none => p.recover run state
      | some .accept => .left (run.record (.accepted state))
      | some (.shift next) => shift run next
      | some (.reduce expression alternative len) => p.reduce run expression alternative len

/-- The outcome of a run. A run that was cut short has neither a tree nor an error. -/
inductive Outcome where
  | tree (t : Tree)
  | error (e : ParseError)
  | cutShort

/-- The checks after the loop: one node is left and all input is read. If the cursor is behind the
end of the input, the hook is asked once more. -/
def finish (p : Parser υ) (run : Run υ) : Outcome × Run υ :=
  let context := run.context
  let feed := context.feed
  match context.nodes with
  | [node] =>
    if feed.cursor < feed.input.length then
      (.error (.inputLeft feed.cursor feed.place?), run)
    else if feed.input.length < feed.cursor then
      let (handled, feed) := match p.onBadInput with
        | none => (false, feed)
        | some hook => hook context
      let run := run.withFeed feed
      if handled then (.tree node, { run with context := { run.context with nodes := [] } })
      else (.error (.unexpectedEnd feed.cursor feed.place?), run)
    else (.tree node, { run with context := { context with nodes := [] } })
  | nodes => (.error (.nodesLeft nodes.length), run)

def loop (p : Parser υ) : Nat → Run υ → Outcome × Run υ
  | 0, run => (.cutShort, run)
  | fuel + 1, run => match p.step run with
    | .next run => p.loop fuel run
    | .left run => p.finish run
    | .failed e run => (.error e, run)

def parse (p : Parser υ) (fuel : Nat) (context : Context υ) : Outcome × Run υ :=
  p.loop fuel (.start p context)

end Parser

def Table.parseTokens (t : Table) (fuel : Nat) (input : List Token) : Parser.Outcome :=
  (Parser.parse { table := t } fuel (Context.ofInput input ())).1

/-- The reducer that calls the actions of a grammar: that of the alternative of the node on top. -/
def Grammar.reducer {υ : Type} (g : Grammar (Reducer υ)) : Reducer υ := fun context =>
  match context.top? with
  | some (.node expression alternative _) => match g.action? expression alternative with
    | some act => act context
    | none => context.feed
  | _ => context.feed

end CanonicalLR
