import CanonicalLR.Text.Class
import CanonicalLR.Text.Fold

/-! Sets of characters as patterns write them. -/
namespace CanonicalLR.Pattern

/-- A set of characters, given by the code points at which membership changes, in ascending order.
Whether a code point that is no character belongs to it does not matter. -/
structure CharSet where
  bounds : List Nat
deriving DecidableEq

namespace CharSet

def contains (s : CharSet) (c : Char) : Bool :=
  Text.inside s.bounds c.toNat

def empty : CharSet := ⟨[]⟩

def range (first last : Char) : CharSet :=
  if first ≤ last then ⟨[first.toNat, last.toNat + 1]⟩ else empty

def single (c : Char) : CharSet := ⟨[c.toNat, c.toNat + 1]⟩

def digit : CharSet := ⟨Text.digitBounds⟩

def blank : CharSet := ⟨Text.blankBounds⟩

def word : CharSet := ⟨Text.wordBounds⟩

def union (a b : CharSet) : CharSet := ⟨Text.combine (fun p q => p || q) a.bounds b.bounds⟩

def inter (a b : CharSet) : CharSet := ⟨Text.combine (fun p q => p && q) a.bounds b.bounds⟩

def diff (a b : CharSet) : CharSet := ⟨Text.combine (fun p q => p && !q) a.bounds b.bounds⟩

def symmDiff (a b : CharSet) : CharSet := ⟨Text.combine (fun p q => p != q) a.bounds b.bounds⟩

def full : CharSet := ⟨[0, 0x110000]⟩

def compl (a : CharSet) : CharSet := full.diff a

def unions (sets : List CharSet) : CharSet :=
  sets.foldl union empty

def folded (a : CharSet) : CharSet := ⟨Text.caseClosure a.bounds⟩

def foldedAscii (a : CharSet) : CharSet := ⟨Text.asciiCaseClosure a.bounds⟩

def variants (c : Char) : CharSet :=
  unions ((Text.caseVariants c).map single)

def ranges (s : CharSet) : List (Nat × Nat) :=
  go s.bounds
where
  /-- Pairs up the bounds; a last one without partner reaches to the end. -/
  go : List Nat → List (Nat × Nat)
    | first :: next :: rest => (first, next - 1) :: go rest
    | [first] => [(first, 0x10ffff)]
    | [] => []

def isAscii (s : CharSet) : Bool :=
  match s.ranges.getLast? with
  | none => true
  | some (_, last) => last < 0x80

def toSingle? (s : CharSet) : Option Char :=
  match s.bounds with
  | [first, next] =>
    if next == first + 1 && first.isValidChar then some (Char.ofNat first) else none
  | _ => none

/-- The named sets of the bracket notation `[:name:]`. They hold ASCII characters only. -/
def named? : String → Option CharSet
  | "alnum" => some (unions [range '0' '9', range 'A' 'Z', range 'a' 'z'])
  | "alpha" => some (unions [range 'A' 'Z', range 'a' 'z'])
  | "ascii" => some (range '\x00' '\x7f')
  | "blank" => some (unions [single '\t', single ' '])
  | "cntrl" => some (unions [range '\x00' '\x1f', single '\x7f'])
  | "digit" => some (range '0' '9')
  | "graph" => some (range '!' '~')
  | "lower" => some (range 'a' 'z')
  | "print" => some (range ' ' '~')
  | "punct" => some (unions [range '!' '/', range ':' '@', range '[' '\x60', range '\x7b' '~'])
  | "space" => some (unions [range '\t' '\r', single ' '])
  | "upper" => some (range 'A' 'Z')
  | "word" => some (unions [range '0' '9', range 'A' 'Z', single '_', range 'a' 'z'])
  | "xdigit" => some (unions [range '0' '9', range 'A' 'F', range 'a' 'f'])
  | _ => none

end CharSet

end CanonicalLR.Pattern
