import CanonicalLR.Data.Dict
import CanonicalLR.Item
import CanonicalLR.Text.Display

/-! The canonical automaton: all item sets that can be reached from the initial one. -/
namespace CanonicalLR

/-- A state: its items, and for each symbol that can be read next the state behind it. -/
structure State where
  items : ItemSet
  edges : Dict Symbol Nat

/-- States numbered by their places in the list. Numbers are given in the order of discovery,
breadth first from the initial state. -/
structure Automaton where
  states : List State

namespace AugmentedGrammar

/-- The symbols that can be read from an item set, each with the items that advance over it. The
order is that of first appearance. -/
def transitions (g : AugmentedGrammar) (items : ItemSet) : Dict Symbol (List Item) :=
  items.toList.foldl (fun kernels item => match g.next? item with
    | none => kernels
    | some s => kernels.insert s ((kernels.get? s).getD [] ++ [item.advance])) .empty

end AugmentedGrammar

namespace Automaton

/-- The number of an item set among those found, which is one more if it is new. -/
def intern (found : List ItemSet) (items : ItemSet) : Nat × List ItemSet :=
  match found.idxOf? items with
  | some n => (n, found)
  | none => (found.length, found ++ [items])

def connect (g : AugmentedGrammar) (fs : FirstSets) :
    List ItemSet → List (Symbol × List Item) → Dict Symbol Nat → Dict Symbol Nat × List ItemSet
  | found, [], edges => (edges, found)
  | found, (s, kernel) :: rest, edges =>
    let (n, found) := intern found (g.closure fs kernel)
    connect g fs found rest (edges.insert s n)

def explore (g : AugmentedGrammar) (fs : FirstSets) :
    Nat → List ItemSet → List (Dict Symbol Nat) → List ItemSet × List (Dict Symbol Nat)
  | 0, found, done => (found, done)
  | fuel + 1, found, done => match found[done.length]? with
    | none => (found, done)
    | some items =>
      let (edges, found) := connect g fs found (g.transitions items).entries .empty
      explore g fs fuel found (done ++ [edges])

def itemBound (g : AugmentedGrammar) : Nat :=
  g.rules.foldr (fun rule n => (rule.right.length + 1) * g.terminals.length + n) 0

/-- The automaton of a grammar. It has at most as many states as there are sets of items. -/
def ofGrammar (g : AugmentedGrammar) (fs : FirstSets) : Automaton :=
  let (found, edges) := explore g fs (Nat.pow 2 (itemBound g) + 1) [g.initialItems fs] []
  ⟨List.zipWith State.mk found edges⟩

def start : Nat := 0

/-- Neighbours that differ in lookahead only, as one item with all their lookaheads. -/
def coreGroups : List Item → List (Item × List Nat)
  | [] => []
  | item :: rest => match coreGroups rest with
    | [] => [(item, [item.lookahead])]
    | (core, lookaheads) :: groups =>
      if core.rule = item.rule ∧ core.marker = item.marker then
        (item, item.lookahead :: lookaheads) :: groups
      else (item, [item.lookahead]) :: (core, lookaheads) :: groups

def itemLines (g : AugmentedGrammar) (items : List Item) : List String :=
  (coreGroups items).map fun (core, lookaheads) =>
    let rule := match g.rules[core.rule]? with
      | some rule => g.renderRule rule core.marker
      | none => ""
    let names := lookaheads.map fun t => g.symbolName (.terminal t)
    "- " ++ rule ++ "  [" ++ " ".intercalate names ++ "]\n"

def renderState (g : AugmentedGrammar) (id : Nat) (state : State) : String :=
  "#### State " ++ Text.twoDigits id ++ "\n## items\n"
    ++ String.join (itemLines g state.items.toList) ++ "## edges\n"
    ++ String.join (state.edges.entries.map fun (s, target) =>
      "- " ++ g.symbolName s ++ " => " ++ Text.twoDigits target ++ "\n")

def render (g : AugmentedGrammar) (a : Automaton) : String :=
  "\n".intercalate (a.states.mapIdx (renderState g))

end Automaton

end CanonicalLR
