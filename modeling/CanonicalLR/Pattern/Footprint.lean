import CanonicalLR.Pattern.Encoding
import CanonicalLR.Pattern.Simplify

/-! How much memory the automata of a pattern take. A pattern stands for two automata over bytes: one
reads forwards to find the end of a match, the other backwards to find its start. A pattern is refused
when one of them is too large. -/
namespace CanonicalLR.Pattern

/-- Neither automaton may take more bytes than this. -/
def footprintLimit : Nat := 10 * Nat.pow 2 20

namespace Footprint

/-- Which way an automaton reads. -/
inductive Direction where
  | forwards
  | backwards
deriving DecidableEq

def stateSize : Nat := 32

/-- The bytes of a transition on a range of bytes, where a state can have several. -/
def stepSize : Nat := 8

/-- The bytes of a transition that reads nothing, where a state can have several. -/
def linkSize : Nat := 4

/-- The states of an automaton in the order in which they are numbered. -/
inductive Plan where
  /-- A number of states, and the bytes of their transitions. -/
  | states (count extra : Nat)
  /-- The states that read one of several sequences. -/
  | reading (seqs : List (List ByteRange))
  | andThen (a b : Plan)
  | times (n : Nat) (body : Plan)

/-- Writes a plan behind another one. -/
local instance : Append Plan := ⟨Plan.andThen⟩

/-- The words between the empty words of a list. -/
def runs : List (List Nat) → List (List (List Nat))
  | [] => [[]]
  | [] :: rest => [] :: runs rest
  | word :: rest => match runs rest with
    | run :: more => (word :: run) :: more
    | [] => [[word]]

/-- The states at and below a node of a tree in which words with the same beginning share a path.
`words` holds the rest of each word. A word that ends at the node separates the words before it from
those behind it, which share nothing; words that end where none goes on count once. -/
def treePlan : Nat → List (List Nat) → Plan
  | 0, _ => .states 0 0
  | fuel + 1, words =>
    let ends := words.takeWhile (·.isEmpty)
    let pieces := runs (ends.take 1 ++ words.drop ends.length)
    let below (piece : List (List Nat)) (byte : Nat) :=
      let words := (piece.filter (·.head? == some byte)).map (·.drop 1)
      if words.all (·.isEmpty) then Plan.states 0 0 else treePlan fuel words
    let piecePlan (piece : List (List Nat)) :=
      let bytes := (piece.filterMap (·.head?)).eraseDups
      let steps := if bytes.length == 1 then 0 else bytes.length * stepSize
      (bytes.map (below piece)).foldl Plan.andThen (.states (min bytes.length 1) steps)
    let links := (pieces.filter (!·.isEmpty)).length + (pieces.length - 1)
    (pieces.map piecePlan).foldl Plan.andThen (.states 1 (links * linkSize))

def literals? : Pattern → Option (List (List Char))
  | literal text => some [text]
  | choice (literal text) rest => (literals? rest).map (text :: ·)
  | _ => none

def literalsPlan (dir : Direction) (texts : List (List Char)) : Plan :=
  let words := texts.map fun text => match dir with
    | .forwards => Encoding.textBytes text
    | .backwards => (Encoding.textBytes text).reverse
  .states 1 0 ++ treePlan ((words.map (·.length)).foldl max 0 + 1) words

def setPlan (set : CharSet) : Plan :=
  if set.isAscii then .states 2 (set.ranges.length * stepSize) else .reading set.encodings

def iteratePlan (body : Plan) (readsSome : Bool) : Nat → Option Nat → Plan
  | 0, none =>
    if readsSome then .states 1 (2 * linkSize) ++ body else body ++ .states 3 (4 * linkSize)
  | least, none => .times least body ++ .states 1 (2 * linkSize)
  | least, some most =>
    let first := if least == 0 then .states 1 0 else .times least body
    if least == most then first
    else if least == 0 && most == 1 then .states 1 (2 * linkSize) ++ body ++ .states 1 0
    else first ++ .states 1 0 ++ .times (most - least) (.states 1 (2 * linkSize) ++ body)

/-- The states of a pattern. For a branch of a choice behind the first one, `joint` is the number of
states to add behind it that join the branches. -/
def plan (dir : Direction) : Pattern → Option Nat → Plan
  | nothing, joint => join joint (.states 1 0)
  | literal text, joint => join joint (.states (Encoding.textBytes text).length 0)
  | oneOf set, joint => join joint (setPlan set)
  | anchor _, joint => join joint (.states 1 0)
  | capture _ body, joint => join joint <| match dir with
    | .forwards => .states 1 0 ++ plan dir body none ++ .states 1 0
    | .backwards => plan dir body none
  | seq a b, joint => join joint <| match dir with
    | .forwards => plan dir a none ++ plan dir b none
    | .backwards => plan dir b none ++ plan dir a none
  | choice a b, none => match literals? (.choice a b) with
    | some texts => literalsPlan dir texts
    | none => plan dir a none ++ .states 0 linkSize ++ plan dir b (some 2)
  | choice a b, some n => plan dir a none ++ .states n linkSize ++ plan dir b (some 0)
  | iterate body least most _, joint =>
    join joint (iteratePlan (plan dir body none) body.readsSome least most)
where
  /-- Adds the states that join the branches of a choice, and the link to the branch. -/
  join : Option Nat → Plan → Plan
    | none, p => p
    | some n, p => p ++ .states n linkSize

/-- The states of the whole automaton. Unless every match begins at the edge of the text, it can skip
bytes before the match. -/
def automaton (dir : Direction) (p : Pattern) : Plan :=
  let skip := .states 3 (stepSize + 2 * linkSize)
  match dir with
  | .forwards =>
    (if p.startsAt .textStart then .states 1 0 else skip)
      ++ .states 1 0 ++ plan dir p none ++ .states 2 0
  | .backwards =>
    (if p.endsAt .textEnd then .states 1 0 else skip) ++ plan dir p none ++ .states 1 0

def groups : List (List ByteRange) → List (ByteRange × List (List ByteRange))
  | [] => []
  | [] :: rest => groups rest
  | (r :: tail) :: rest => match groups rest with
    | (r', tails) :: more =>
      if r = r' then (r, tail :: tails) :: more else (r, [tail]) :: (r', tails) :: more
    | [] => [(r, [tail])]

/-- What can still be read, for the start and after each beginning of a sequence but whole ones. -/
def residuals : Nat → List (List ByteRange) → List (List (List ByteRange))
  | 0, _ => []
  | fuel + 1, seqs =>
    if seqs.all (·.isEmpty) then []
    else seqs :: (groups seqs).flatMap fun (_, below) => residuals fuel below

/-- The bytes of the states that read one of several sequences forwards. There is one state for each
thing that can still be read. -/
def sharedSize (seqs : List (List ByteRange)) : Nat :=
  (residuals 5 seqs).eraseDups.foldl (fun n rest => n + stateSize + (groups rest).length * stepSize)
    stateSize

namespace Plan

def size : Plan → Nat
  | states count extra => count * stateSize + extra
  | reading seqs => sharedSize seqs
  | andThen a b => a.size + b.size
  | times n body => n * body.size

/-- A bound on the bytes of an automaton, reached if no states are shared. -/
def bound : Plan → Nat
  | states count extra => count * stateSize + extra
  | reading seqs =>
    seqs.foldl (fun n s => n + s.length * (stateSize + stepSize) + linkSize) (2 * stateSize)
  | andThen a b => a.bound + b.bound
  | times n body => n * body.bound

end Plan

/-- The number of states made so far and the bytes they take. -/
structure Tally where
  states : Nat
  bytes : Nat

namespace Tally

def add (t : Tally) (states extra : Nat) : Tally :=
  ⟨t.states + states, t.bytes + states * stateSize + extra⟩

def grow (extend : Tally → Tally) : Nat → Tally → Tally
  | 0, t => t
  | n + 1, t => if footprintLimit < t.bytes then t else grow extend n (extend t)

end Tally

/-- States that can be shared, each in one of a thousand places: what it reads, the state it goes on
to, and its own number. -/
structure Shelf where
  tally : Tally
  places : Array (Option (ByteRange × Nat × Nat))

namespace Shelf

/-- The place of the state that reads `r` and goes on to `next`. The three numbers are hashed one after
the other. -/
def place (r : ByteRange) (next : Nat) : Nat :=
  let mix (h : UInt64) (n : Nat) := (h ^^^ n.toUInt64) * 1099511628211
  (mix (mix (mix 14695981039346656037 next) r.first) r.last).toNat % 1000

/-- The number of the state that reads `r` and goes on to `next`. It is made anew unless it is on the
shelf, and then takes its place from whatever was there. -/
def stateFor (shelf : Shelf) (r : ByteRange) (next : Nat) : Shelf × Nat :=
  let i := place r next
  match shelf.places[i]? with
  | some (some (r', next', state)) =>
    if r = r' && next == next' then (shelf, state) else make shelf i
  | _ => make shelf i
where
  /-- Makes the state and puts it into place `i`. -/
  make (shelf : Shelf) (i : Nat) : Shelf × Nat :=
    let state := shelf.tally.states
    (⟨shelf.tally.add 1 0, shelf.places.setIfInBounds i (some (r, next, state))⟩, state)

end Shelf

/-- Adds the states that read one of several sequences backwards: one that leads to the last bytes of
all sequences, one that the first bytes lead to, and between them one for each range, shared between
sequences with the same beginning as far as the shelf still has it. -/
def readBackwards (seqs : List (List ByteRange)) (t : Tally) : Tally :=
  let final := t.states + 1
  let start : Shelf := ⟨t.add 2 (seqs.length * linkSize), Array.replicate 1000 none⟩
  (seqs.foldl (fun shelf s =>
    (s.foldl (fun (shelf, next) r => shelf.stateFor r next) (shelf, final)).1) start).tally

def Plan.build : Plan → Tally → Tally
  | states count extra, t => t.add count extra
  | reading seqs, t => readBackwards seqs t
  | andThen a b, t => b.build (a.build t)
  | times n body, t => Tally.grow body.build n t

end Footprint

open Footprint in
def fits (p : Pattern) : Bool :=
  let forwards := automaton .forwards p
  let backwards := automaton .backwards p
  (forwards.bound ≤ footprintLimit || forwards.size ≤ footprintLimit)
    && (backwards.bound ≤ footprintLimit || (backwards.build ⟨0, 0⟩).bytes ≤ footprintLimit)

end CanonicalLR.Pattern
