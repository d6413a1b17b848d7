import CanonicalLR.Pattern.CharSet

/-! Sets of characters as sequences of byte ranges in UTF-8. -/
namespace CanonicalLR.Pattern

/-- The bytes from `first` to `last`. -/
structure ByteRange where
  first : Nat
  last : Nat
deriving DecidableEq

namespace Encoding

def bytes (n : Nat) : List Nat :=
  if n < 0x80 then [n]
  else if n < 0x800 then [0xc0 + n / 0x40, 0x80 + n % 0x40]
  else if n < 0x10000 then [0xe0 + n / 0x1000, 0x80 + n / 0x40 % 0x40, 0x80 + n % 0x40]
  else [0xf0 + n / 0x40000, 0x80 + n / 0x1000 % 0x40, 0x80 + n / 0x40 % 0x40, 0x80 + n % 0x40]

def textBytes (text : List Char) : List Nat :=
  text.flatMap fun c => bytes c.toNat

/-- The first and last code points whose encodings have one length; those of length three are split by
the surrogates, which are no characters. -/
def zones : List (Nat × Nat) :=
  [(0, 0x7f), (0x80, 0x7ff), (0x800, 0xd7ff), (0xe000, 0xffff), (0x10000, 0x10ffff)]

/-- The size of the smallest block of code points that the range from `first` to `last` does not fill
at one of its ends, although it is not inside the block. The blocks agree in all bytes but the last
one, two or three. -/
def ragged? (first last : Nat) : Option Nat :=
  [0x40, 0x1000, 0x40000].find? fun size =>
    first / size != last / size && (first % size != 0 || last % size != size - 1)

/-- Splits a range of code points with encodings of one length into ranges for which each byte runs
through a range of its own. A range is split at most twice for each of three sizes of blocks. -/
def split : Nat → Nat → Nat → List (Nat × Nat)
  | 0, first, last => [(first, last)]
  | fuel + 1, first, last => match ragged? first last with
    | none => [(first, last)]
    | some size =>
      let cut := if first % size != 0 then first - first % size + size else last - last % size
      split fuel first (cut - 1) ++ split fuel cut last

def ofRange (first last : Nat) : List (List ByteRange) :=
  if last < 0x80 then [[⟨first, last⟩]]
  else zones.flatMap fun (lo, hi) =>
    let first := max first lo
    let last := min last hi
    if last < first then []
    else if hi < 0x80 then [[⟨first, last⟩]]
    else (split 7 first last).map fun (first, last) =>
      (bytes first).zipWith ByteRange.mk (bytes last)

end Encoding

def CharSet.encodings (s : CharSet) : List (List ByteRange) :=
  s.ranges.flatMap fun (first, last) => Encoding.ofRange first last

end CanonicalLR.Pattern
