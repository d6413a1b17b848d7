import CanonicalLR.Data.NatSet
import CanonicalLR.Pattern.Program

/-! Running a pattern program over a text: the match that begins first, and among those the one that
the preferences of the pattern name. -/
namespace CanonicalLR.Pattern

/-- The ways to go on at one place: the character sets waited for, the preferred one first, and
whether the program ends here. What is less preferred than an end is left out. -/
structure Front where
  waiting : List (CharSet × Nat)
  ended : Bool

/-- Follows the instructions that read nothing. `seen` holds the addresses met at this place; they are
not followed again, so a round of an iteration that reads nothing is not repeated. `waiting` holds what
has been found, the least preferred first. -/
def Program.follow (prog : Program) (before after : Option Char) :
    Nat → List Nat → NatSet → List (CharSet × Nat) → Front
  | 0, _, _, waiting => ⟨waiting.reverse, false⟩
  | _ + 1, [], _, waiting => ⟨waiting.reverse, false⟩
  | fuel + 1, pc :: todo, seen, waiting =>
    if seen.contains pc then prog.follow before after fuel todo seen waiting
    else
      let seen := seen.insert pc
      match prog.instrs[pc]? with
      | none => prog.follow before after fuel todo seen waiting
      | some .accept => ⟨waiting.reverse, true⟩
      | some (.read set next) => prog.follow before after fuel todo seen ((set, next) :: waiting)
      | some (.check a next) =>
        let todo := if a.holds before after then next :: todo else todo
        prog.follow before after fuel todo seen waiting
      | some (.fork first second) =>
        prog.follow before after fuel (first :: second :: todo) seen waiting
      | some (.jump next) => prog.follow before after fuel (next :: todo) seen waiting

/-- The front of a list of addresses, the preferred one first. Each address adds at most two more,
so the bound on the number of rounds is never met. -/
def Program.front (prog : Program) (before after : Option Char) (todo : List Nat) : Front :=
  prog.follow before after (todo.length + 2 * prog.instrs.size + 1) todo .empty []

/-- The number of characters that a match from the addresses in `todo` reads, after `taken` have
been read already and `best` is the end found so far. -/
def Program.run (prog : Program) :
    Option Char → List Char → List Nat → Nat → Option Nat → Option Nat
  | before, [], todo, taken, best =>
    if (prog.front before none todo).ended then some taken else best
  | before, c :: text, todo, taken, best =>
    let front := prog.front before (some c) todo
    let best := if front.ended then some taken else best
    let todo := (front.waiting.filter (·.1.contains c)).map (·.2)
    if todo.isEmpty then best else prog.run (some c) text todo (taken + 1) best

/-- How many characters a match that begins at the start of `text` reads, where `before` is the
character in front of it. -/
def Program.matchAt (prog : Program) (before : Option Char) (text : List Char) : Option Nat :=
  prog.run before text [0] 0 none

/-- A match: the characters passed over before it, and those it reads. -/
structure Match where
  skipped : List Char
  taken : List Char
deriving DecidableEq

def Program.searchBehind (prog : Program) : List Char → Option Match
  | [] => none
  | c :: text => match prog.matchAt (some c) text with
    | some n => some ⟨[c], text.take n⟩
    | none => (prog.searchBehind text).map fun m => { m with skipped := c :: m.skipped }

def Program.find (prog : Program) (text : List Char) : Option Match :=
  match prog.matchAt none text with
  | some n => some ⟨[], text.take n⟩
  | none => if prog.atStartOnly then none else prog.searchBehind text

end CanonicalLR.Pattern
