import CanonicalLR.Pattern.Footprint

/-! Patterns as programs for a machine that follows all ways to match at once. -/
namespace CanonicalLR.Pattern

/-- One instruction. Targets are addresses in the program. -/
inductive Instr where
  | accept
  | read (set : CharSet) (next : Nat)
  | check (a : Anchor) (next : Nat)
  /-- Goes on at both targets and prefers the first. -/
  | fork (first second : Nat)
  | jump (next : Nat)
deriving DecidableEq

/-- Goes on at `more` or leaves to `exit`; a greedy iteration prefers `more`. -/
def branch (greedy : Bool) (more exit : Nat) : Instr :=
  if greedy then .fork more exit else .fork exit more

def size : Pattern → Nat
  | nothing => 0
  | literal text => text.length
  | oneOf _ => 1
  | anchor _ => 1
  | capture _ body => body.size
  | seq a b => a.size + b.size
  | choice a b => a.size + b.size + 2
  | iterate body 0 none _ => body.size + 2
  | iterate body (n + 1) none _ => (n + 1) * body.size + 1
  | iterate body n (some m) _ => n * body.size + (m - n) * (body.size + 1)

/-- Writes the instructions of a pattern behind `code`. They end by going on at the address behind the
last one. After an empty round of an unbounded iteration there is no other round at the same place, so
that the way out is taken. -/
def emit : Pattern → Array Instr → Array Instr
  | nothing, code => code
  | literal text, code =>
    text.foldl (fun code c => code.push (.read (.single c) (code.size + 1))) code
  | oneOf set, code => code.push (.read set (code.size + 1))
  | anchor a, code => code.push (.check a (code.size + 1))
  | capture _ body, code => body.emit code
  | seq a b, code => b.emit (a.emit code)
  | choice a b, code =>
    let other := code.size + a.size + 2
    b.emit ((a.emit (code.push (.fork (code.size + 1) other))).push (.jump (other + b.size)))
  | iterate body 0 none greedy, code =>
    let start := code.size
    let exit := start + body.size + 2
    (body.emit (code.push (branch greedy (start + 1) exit))).push
      (if body.readsSome then .jump start else branch greedy (start + 1) exit)
  | iterate body (n + 1) none greedy, code =>
    let last := code.size + n * body.size
    (Nat.repeat body.emit (n + 1) code).push (branch greedy last (last + body.size + 1))
  | iterate body n (some m) greedy, code =>
    let exit := code.size + n * body.size + (m - n) * (body.size + 1)
    let optional (code : Array Instr) :=
      body.emit (code.push (branch greedy (code.size + 1) exit))
    Nat.repeat optional (m - n) (Nat.repeat body.emit n code)

/-- A pattern ready to be matched. -/
structure Program where
  instrs : Array Instr
  /-- No match begins behind the start of the text. -/
  atStartOnly : Bool

def program? (p : Pattern) : Option Program :=
  if p.fits then some ⟨(p.emit #[]).push .accept, p.startsAt .textStart⟩ else none

end CanonicalLR.Pattern
