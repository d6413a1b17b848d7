import CanonicalLR.Pattern.CharSet

/-! Patterns: what a lexical rule recognizes. -/
namespace CanonicalLR

/-- Which characters words are made of. -/
inductive WordKind where
  | allScripts
  | ascii
deriving DecidableEq

namespace WordKind

def holds : WordKind → Char → Bool
  | allScripts, c => Text.isWord c
  | ascii, c => c.val < 0x80 && (c.isAlphanum || c == '_')

end WordKind

/-- A condition on the place between two characters. -/
inductive Anchor where
  | textStart
  | textEnd
  | lineStart
  | lineEnd
  /-- Line starts where a carriage return, a line feed or both in this order end a line. -/
  | recordStart
  | recordEnd
  | wordBoundary (k : WordKind)
  | notWordBoundary (k : WordKind)
  | wordStart (k : WordKind)
  | wordEnd (k : WordKind)
  | beforeWord (k : WordKind)
  | afterWord (k : WordKind)
deriving DecidableEq

namespace Anchor

/-- Whether the anchor holds between two neighbours; `none` is the edge of the text. -/
def holds (before after : Option Char) : Anchor → Bool
  | textStart => before.isNone
  | textEnd => after.isNone
  | lineStart => before.isNone || before == some '\n'
  | lineEnd => after.isNone || after == some '\n'
  | recordStart =>
    before.isNone || before == some '\n' || (before == some '\r' && after != some '\n')
  | recordEnd =>
    after.isNone || after == some '\r' || (after == some '\n' && before != some '\r')
  | wordBoundary k => before.any k.holds != after.any k.holds
  | notWordBoundary k => before.any k.holds == after.any k.holds
  | wordStart k => !before.any k.holds && after.any k.holds
  | wordEnd k => before.any k.holds && !after.any k.holds
  | beforeWord k => !before.any k.holds
  | afterWord k => !after.any k.holds

end Anchor

/-- A regular expression over characters. Of two ways to match, the left branch of a choice is
preferred, and one more round of a greedy iteration. -/
inductive Pattern where
  | nothing
  /-- One or more characters that stand for themselves. -/
  | literal (text : List Char)
  | oneOf (set : Pattern.CharSet)
  | anchor (a : Anchor)
  /-- A group with a number of its own. It matches what its body matches. -/
  | capture (index : Nat) (body : Pattern)
  | seq (a b : Pattern)
  | choice (a b : Pattern)
  /-- At least `least` rounds and, unless `most` is `none`, at most `most`. -/
  | iterate (body : Pattern) (least : Nat) (most : Option Nat) (greedy : Bool)
deriving DecidableEq

namespace Pattern

/-- The least number of characters that a match reads; `none` if that is not known because some part
matches nothing. -/
def minLength : Pattern → Option Nat
  | nothing => some 0
  | literal text => some text.length
  | oneOf set => if set.bounds.isEmpty then none else some 1
  | anchor _ => some 0
  | capture _ body => body.minLength
  | seq a b => do return (← a.minLength) + (← b.minLength)
  | choice a b => do return min (← a.minLength) (← b.minLength)
  | iterate body least _ _ => do return (← body.minLength) * least

/-- The greatest number of characters that a match reads; `none` if it has no bound, or is not known
because some part matches nothing. -/
def maxLength : Pattern → Option Nat
  | nothing => some 0
  | literal text => some text.length
  | oneOf set => if set.bounds.isEmpty then none else some 1
  | anchor _ => some 0
  | capture _ body => body.maxLength
  | seq a b => do return (← a.maxLength) + (← b.maxLength)
  | choice a b => do return max (← a.maxLength) (← b.maxLength)
  | iterate body _ most _ => do return (← body.maxLength) * (← most)

def readsSome (p : Pattern) : Bool :=
  p.minLength.any (0 < ·)

def readsNone (p : Pattern) : Bool :=
  p.maxLength == some 0

/-- Every match begins where an anchor holds. The answer `false` claims nothing. -/
def startsAt (a : Anchor) : Pattern → Bool
  | anchor b => a == b
  | capture _ body => body.startsAt a
  | seq p q => p.startsAt a || p.readsNone && q.startsAt a
  | choice p q => p.startsAt a && q.startsAt a
  | iterate body least _ _ => least != 0 && body.startsAt a
  | _ => false

/-- Every match ends where an anchor holds. The answer `false` claims nothing. -/
def endsAt (a : Anchor) : Pattern → Bool
  | anchor b => a == b
  | capture _ body => body.endsAt a
  | seq p q => q.endsAt a || q.readsNone && p.endsAt a
  | choice p q => p.endsAt a && q.endsAt a
  | iterate body least _ _ => least != 0 && body.endsAt a
  | _ => false

end Pattern

end CanonicalLR
