import CanonicalLR.Pattern.Basic

/-! Building patterns in simplified form. Simplifying keeps what a pattern matches and which match it
prefers. Sequences and choices lean to the right: their left part is never of the same kind. -/
namespace CanonicalLR.Pattern

/-- A set of characters; a set with one member is that character. -/
def ofSet (set : CharSet) : Pattern :=
  match set.toSingle? with
  | some c => .literal [c]
  | none => .oneOf set

def parts : Pattern → List Pattern
  | nothing => []
  | seq a b => a :: b.parts
  | p => [p]

def branches : Pattern → List Pattern
  | choice a b => a :: b.branches
  | p => [p]

def joinLiterals : List Pattern → List Pattern
  | [] => []
  | literal s :: rest => match joinLiterals rest with
    | literal t :: rest => literal (s ++ t) :: rest
    | rest => literal s :: rest
  | p :: rest => p :: joinLiterals rest

def nest (op : Pattern → Pattern → Pattern) : List Pattern → Pattern
  | [] => nothing
  | [p] => p
  | p :: rest => op p (nest op rest)

def concat (ps : List Pattern) : Pattern :=
  nest seq (joinLiterals (ps.flatMap parts))

/-- The set of the characters that the branches stand for, when each branch is one character or each is
a set. -/
def commonSet? (ps : List Pattern) : Option CharSet :=
  let char? : Pattern → Option CharSet
    | literal [c] => some (.single c)
    | _ => none
  let set? : Pattern → Option CharSet
    | oneOf set => some set
    | _ => none
  (ps.mapM char? <|> ps.mapM set?).map CharSet.unions

def choices (ps : List Pattern) : Pattern :=
  match ps.flatMap branches with
  | [] => .oneOf .empty
  | [p] => p
  | ps => match commonSet? ps with
    | some set => ofSet set
    | none => nest choice ps

def sharedStart : List Pattern → List Pattern → List Pattern
  | p :: ps, q :: qs => if p = q then p :: sharedStart ps qs else []
  | _, _ => []

def parts? : Pattern → Option (List Pattern)
  | p@(seq _ _) => some p.parts
  | _ => none

def commonStart (ps : List Pattern) : List Pattern :=
  match ps.mapM parts? with
  | some (p :: rest) => rest.foldl sharedStart p
  | _ => []

/-- The patterns as branches, the first one preferred. What all of them begin with is taken out. Behind
it the branches begin differently, so nothing more can be taken out there. -/
def alternation (ps : List Pattern) : Pattern :=
  match choices ps with
  | p@(choice _ _) =>
    let start := commonStart p.branches
    if start.isEmpty then p
    else concat (start ++ [choices (p.branches.map fun q => concat (q.parts.drop start.length))])
  | p => p

/-- A pattern a number of times. More than one round of a pattern that reads nothing is as good as
one. -/
def repetition (body : Pattern) (least : Nat) (most : Option Nat) (greedy : Bool) : Pattern :=
  let (least, most) :=
    if body.readsNone then (min least 1, some (min (most.getD 1) 1)) else (least, most)
  if most == some 0 then .nothing
  else if least == 1 && most == some 1 then body
  else .iterate body least most greedy

end CanonicalLR.Pattern
