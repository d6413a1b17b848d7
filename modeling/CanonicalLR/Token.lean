import CanonicalLR.Text.Display

/-! Tokens and the places they come from, with the rows and columns of byte offsets. -/
namespace CanonicalLR

/-- A stretch of source text: byte offset, row and byte column counted from one, and byte length. -/
structure Position where
  index : Nat
  row : Nat
  column : Nat
  length : Nat
deriving DecidableEq

namespace Position

/-- The place that stands for no place at all. -/
def zero : Position := ⟨0, 0, 0, 0⟩

/-- `row:column(index)`; the length is not shown. -/
def render (p : Position) : String :=
  toString p.row ++ ":" ++ toString p.column ++ "(" ++ toString p.index ++ ")"

end Position

/-- A lexical token: the terminal it stands for, its text and its place. -/
structure Token where
  name : String
  content : String
  position : Position
deriving DecidableEq

namespace Token

/-- A token that is not in the source text. It has the given place and no extent. -/
def synthetic (name : String) (place : Position) : Token :=
  ⟨name, "", { place with length := 0 }⟩

def render (t : Token) : String :=
  t.name ++ "(" ++ Text.quoted t.content ++ ")"

end Token

/-- The name under which the end of the input is looked up. -/
def endName : String := "$"

def startName : String := "$start"

def Text.byteLength (text : List Char) : Nat :=
  text.foldl (fun n c => n + c.utf8Size) 0

/-- The byte offsets at which the lines of a text start, in ascending order. -/
structure LineStarts where
  offsets : List Nat

namespace LineStarts

def behindLineFeeds : Nat → List Char → List Nat
  | _, [] => []
  | offset, c :: text =>
    let next := offset + c.utf8Size
    if c = '\n' then next :: behindLineFeeds next text else behindLineFeeds next text

/-- A line starts at the beginning of the text and behind every line feed. -/
def ofText (text : List Char) : LineStarts :=
  ⟨0 :: behindLineFeeds 0 text⟩

/-- The place of `length` bytes from `index` on. The row counts the lines that start at or before
`index`, the column the bytes from the start of the last of them. -/
def position (lines : LineStarts) (index length : Nat) : Position :=
  let before := lines.offsets.takeWhile (· ≤ index)
  ⟨index, before.length, index - before.getLastD 0 + 1, length⟩

end LineStarts

end CanonicalLR
