import CanonicalLR.Proofs.Collection
import CanonicalLR.Proofs.Sentential

/-! The automaton against the definition of the canonical collection, in reading order and by
derivations: its paths are the sequences of symbols behind which some item is valid, and each of its
states holds the items that are valid at the ends of the paths to it. -/
namespace CanonicalLR

namespace AugmentedGrammar

/-- The items that are valid behind some symbols, given in reading order. An item in front of a
nonterminal makes the start of each of its rules valid, with each terminal that begins a form derived
from the symbols behind the nonterminal and then the lookahead. -/
inductive Canonical (g : AugmentedGrammar) : List Symbol → Item → Prop
  | start : Canonical g [] ⟨acceptRule, 0, Symbol.endId⟩
  | predict {γ β form : List Symbol} {i : Item} {r b : Nat} {rule : Production} :
      Canonical g γ i → g.remaining i = .nonterminal rule.left :: β → g.rules[r]? = some rule →
      g.Derives (β ++ [.terminal i.lookahead]) (.terminal b :: form) → Canonical g γ ⟨r, 0, b⟩
  | advance {γ : List Symbol} {i : Item} {s : Symbol} : Canonical g γ i → g.next? i = some s →
      Canonical g (γ ++ [s]) i.advance

variable {g : AugmentedGrammar}

private theorem Canonical.valid {γ : List Symbol} {i : Item} (h : g.Canonical γ i) :
    g.Valid γ.reverse i := by
  induction h with
  | start => exact .start
  | predict _ hrem hr hd ih =>
    exact .predict ih ⟨_, _, hr, hrem, rfl, begins_some_iff.2 ⟨_, hd⟩⟩
  | advance _ hs ih =>
    rw [List.reverse_append, List.reverse_singleton]
    exact .advance ih hs

private theorem Valid.canonical {γ : List Symbol} {i : Item} (h : g.Valid γ i) :
    g.Canonical γ.reverse i := by
  induction h with
  | start => exact .start
  | @predict γ i j _ hp ih =>
    obtain ⟨β, rule, hr, hrem, hm, hb⟩ := hp
    obtain ⟨form, hd⟩ := begins_some_iff.1 hb
    have hj : j = ⟨j.rule, 0, j.lookahead⟩ := by rw [← hm]
    rw [hj]
    exact .predict ih hrem hr hd
  | advance _ hs ih =>
    rw [List.reverse_cons]
    exact .advance ih hs

private theorem canonical_iff_valid {γ : List Symbol} {i : Item} :
    g.Canonical γ i ↔ g.Valid γ.reverse i := by
  constructor
  · exact Canonical.valid
  · intro h
    have hc := h.canonical
    rwa [List.reverse_reverse] at hc

private theorem exists_mem_goto_iff (hg : g.Closed) {items : ItemSet} {s : Symbol} :
    (∃ j, j ∈ g.goto (.ofGrammar g) items s) ↔ ∃ i ∈ items, g.next? i = some s := by
  constructor
  · rintro ⟨j, hj⟩
    have hr : g.Reached (g.kernel items.toList s) j := (mem_closure_iff hg).1 hj
    clear hj
    induction hr with
    | kernel hk =>
      obtain ⟨i, hi, hs, -⟩ := mem_kernel.1 hk
      exact ⟨i, hi, hs⟩
    | predicted _ _ ih => exact ih
  · rintro ⟨i, hi, hs⟩
    exact ⟨i.advance, (mem_closure_iff hg).2 (.kernel (mem_kernel.2 ⟨i, hi, hs, rfl⟩))⟩

end AugmentedGrammar

namespace Automaton

/-- The state at the end of a path from the initial state, given by its symbols in reading order. -/
def follow (a : Automaton) (γ : List Symbol) : Option Nat :=
  γ.foldlM (fun q s => (a.states[q]?).bind (·.edges.get? s)) start

/-- Following a path and reading its symbols backwards come to the same state. -/
theorem follow_eq_some_iff {a : Automaton} {γ : List Symbol} {q : Nat} :
    a.follow γ = some q ↔ a.Reads γ.reverse q := by
  induction γ using List.reverseRecOn generalizing q with
  | nil =>
    constructor
    · intro h
      cases h
      exact .start
    · intro h
      cases h
      rfl
  | append_singleton γ s ih =>
    have hfollow : a.follow (γ ++ [s]) =
        (a.follow γ).bind fun p => (a.states[p]?).bind (·.edges.get? s) := by
      simp [follow, List.foldlM_append]
    rw [hfollow, List.reverse_append, List.reverse_singleton]
    constructor
    · intro h
      obtain ⟨p, hp, h⟩ := Option.bind_eq_some_iff.1 h
      obtain ⟨state, hstate, hedge⟩ := Option.bind_eq_some_iff.1 h
      exact .edge (ih.1 hp) hstate hedge
    · intro h
      cases h with
      | edge hr hstate hedge =>
        rw [ih.2 hr, Option.bind_some, hstate, Option.bind_some, hedge]

/-- An edge leads to the one state that holds the items behind its symbol. -/
theorem Explored.edge_iff {g : AugmentedGrammar} (hg : g.Closed) {a : Automaton}
    (ha : Explored g a) {q r : Nat} {state : State} (hq : a.states[q]? = some state) {s : Symbol} :
    state.edges.get? s = some r ↔ (∃ i, i ∈ g.goto (.ofGrammar g) state.items s) ∧
      ∃ next, a.states[r]? = some next ∧ next.items = g.goto (.ofGrammar g) state.items s := by
  rw [AugmentedGrammar.exists_mem_goto_iff hg, ← ha.expected s hq]
  constructor
  · intro he
    exact ⟨⟨r, he⟩, ha.target hq he⟩
  · rintro ⟨⟨p, hp⟩, next, hnext, hitems⟩
    obtain ⟨other, hother, hsame⟩ := ha.target hq hp
    rw [hp, ha.index_unique hother hnext (hsame.trans hitems.symm)]

end Automaton

namespace Grammar

variable {α : Type}

/-- The automaton of a grammar is its canonical collection. Exploring comes to an end with edges for
all item sets. A sequence of symbols can be followed from the initial state if and only if some item
is valid behind it, and then leads to the state of the items that are valid there. No two states hold
the same items, every state is reached, and the edges are the item sets behind a symbol that are not
empty. -/
theorem canonical_collection (g : Grammar α) :
    (∃ found done, found.length = done.length ∧
      (∀ fuel, 2 ^ Automaton.itemBound g.augmented < fuel →
        Automaton.explore g.augmented (.ofGrammar g.augmented) fuel
          [g.augmented.initialItems (.ofGrammar g.augmented)] [] = (found, done)) ∧
      g.automaton.states = List.zipWith State.mk found done) ∧
    (∀ γ, (∃ q, g.automaton.follow γ = some q) ↔ ∃ i, g.augmented.Canonical γ i) ∧
    (∀ γ q, g.automaton.follow γ = some q → ∃ state, g.automaton.states[q]? = some state ∧
      ∀ i, i ∈ state.items ↔ g.augmented.Canonical γ i) ∧
    (g.automaton.states.map (·.items)).Nodup ∧
    (∀ q < g.automaton.states.length, ∃ γ, g.automaton.follow γ = some q) ∧
    ∀ (q : Nat) (state : State), g.automaton.states[q]? = some state → ∀ s r,
      (state.edges.get? s = some r → r < g.automaton.states.length) ∧
      (state.edges.get? s = some r ↔
        (∃ i, i ∈ g.augmented.goto (.ofGrammar g.augmented) state.items s) ∧
        ∃ next, g.automaton.states[r]? = some next ∧
          next.items = g.augmented.goto (.ofGrammar g.augmented) state.items s) := by
  refine ⟨?_, fun γ => ?_, fun γ q hq => ?_, g.explored.distinct, fun q hq => ?_,
    fun q state hq s r => ⟨fun he => ?_, g.explored.edge_iff g.closed hq⟩⟩
  · obtain ⟨found, done, hl, hhalt⟩ :=
      Automaton.explore_halts g.closed (g.fits_of_valid .start)
    refine ⟨found, done, hl, hhalt, ?_⟩
    have hexplored := hhalt (Nat.pow 2 (Automaton.itemBound g.augmented) + 1) (Nat.lt_succ_self _)
    rw [automaton, Automaton.ofGrammar, hexplored]
  · simp only [Automaton.follow_eq_some_iff, AugmentedGrammar.canonical_iff_valid]
    constructor
    · rintro ⟨q, hq⟩
      exact g.exists_valid_of_reads hq
    · rintro ⟨i, hi⟩
      exact g.exists_reads_of_valid hi
  · obtain ⟨state, hstate, hholds, -⟩ := g.state_of_reads (Automaton.follow_eq_some_iff.1 hq)
    refine ⟨state, hstate, fun i => ?_⟩
    rw [AugmentedGrammar.canonical_iff_valid]
    exact hholds i
  · obtain ⟨γ, hγ⟩ := g.exists_reads_of_lt hq
    refine ⟨γ.reverse, Automaton.follow_eq_some_iff.2 ?_⟩
    rwa [List.reverse_reverse]
  · obtain ⟨next, hnext, -⟩ := g.explored.target hq he
    exact (List.getElem?_eq_some_iff.1 hnext).1

/-- `S : C C ; C : c C | d ;` -/
def doubleGrammar : Grammar Unit where
  definitions := [⟨"S", [⟨["C", "C"], none⟩]⟩, ⟨"C", [⟨["c", "C"], none⟩, ⟨["d"], none⟩]⟩]
  distinct := by decide
  unrepeated := by decide
  augmented := ⟨["$", "c", "d"], ["$start", "S", "C"],
    [⟨0, [.nonterminal 1], 0⟩, ⟨1, [.nonterminal 2, .nonterminal 2], 0⟩,
      ⟨2, [.terminal 1, .nonterminal 2], 0⟩, ⟨2, [.terminal 2], 1⟩]⟩
  augmented_eq := by decide +kernel

/-- A `c` in the first `C` and one in the second lead to different states: the items behind them
differ in their lookaheads only. -/
theorem canonical_collection_double :
    doubleGrammar.automaton.follow [.terminal 1] = some 3 ∧
    doubleGrammar.automaton.follow [.nonterminal 2, .terminal 1] = some 6 ∧
    doubleGrammar.augmented.Canonical [.terminal 1] ⟨2, 1, 1⟩ ∧
    doubleGrammar.augmented.Canonical [.nonterminal 2, .terminal 1] ⟨2, 1, 0⟩ ∧
    ¬ doubleGrammar.augmented.Canonical [.nonterminal 2, .terminal 1] ⟨2, 1, 1⟩ := by
  have hfirst : doubleGrammar.automaton.follow [.terminal 1] = some 3 := by decide +kernel
  have hsecond : doubleGrammar.automaton.follow [.nonterminal 2, .terminal 1] = some 6 := by
    decide +kernel
  obtain ⟨-, -, hitems, -⟩ := canonical_collection doubleGrammar
  obtain ⟨first, hq, hone⟩ := hitems _ _ hfirst
  obtain ⟨second, hr, htwo⟩ := hitems _ _ hsecond
  have hq' : (doubleGrammar.automaton.states[3]?).map (·.items.toList) =
      some [⟨2, 0, 1⟩, ⟨2, 0, 2⟩, ⟨2, 1, 1⟩, ⟨2, 1, 2⟩, ⟨3, 0, 1⟩, ⟨3, 0, 2⟩] := by decide +kernel
  have hr' : (doubleGrammar.automaton.states[6]?).map (·.items.toList) =
      some [⟨2, 0, 0⟩, ⟨2, 1, 0⟩, ⟨3, 0, 0⟩] := by decide +kernel
  rw [hq, Option.map_some, Option.some.injEq] at hq'
  rw [hr, Option.map_some, Option.some.injEq] at hr'
  refine ⟨hfirst, hsecond, (hone _).1 ?_, (htwo _).1 ?_, fun h => ?_⟩
  · simp [SortedSet.mem_def, hq']
  · simp [SortedSet.mem_def, hr']
  · have hm := (htwo _).2 h
    simp [SortedSet.mem_def, hr'] at hm

end Grammar

end CanonicalLR
