import Mathlib.Order.Lattice.Nat
import CanonicalLR.Proofs.Canonical
import CanonicalLR.Proofs.Stack

/-! The numbers of the states of an automaton are those of a breadth first search. All follows from
one property of the state that a state was found from: no state before it has an edge to the state
found, or to any with a greater number. -/
namespace CanonicalLR

namespace Automaton

def Edge (a : Automaton) (p q : Nat) : Prop :=
  ∃ state s, a.states[p]? = some state ∧ state.edges.get? s = some q

/-- The number of edges on a shortest path from the initial state to a state. -/
def Distance (a : Automaton) (q n : Nat) : Prop :=
  IsLeast {n | ∃ γ, a.follow γ = some q ∧ γ.length = n} n

/-- The smallest number of a state with an edge to a state. -/
def FirstSource (a : Automaton) (q p : Nat) : Prop :=
  IsLeast {p | a.Edge p q} p

variable {g : AugmentedGrammar} {a : Automaton}

private theorem Explored.edge_lt (ha : Explored g a) {p q : Nat} (h : a.Edge p q) :
    p < a.states.length ∧ q < a.states.length := by
  obtain ⟨state, s, hp, hs⟩ := h
  obtain ⟨next, hq, -⟩ := ha.target hp hs
  exact ⟨(List.getElem?_eq_some_iff.1 hp).1, (List.getElem?_eq_some_iff.1 hq).1⟩

/-- A state other than the initial one was found from a state before it, and up to then no edge led to
it or beyond it. -/
private theorem Explored.exists_finder (ha : Explored g a) {q : Nat} (hq : q ≠ start)
    (hlt : q < a.states.length) :
    ∃ p < q, a.Edge p q ∧ ∀ o r, a.Edge o r → q ≤ r → p ≤ o := by
  obtain ⟨p, state, s, hp, hstate, hs, hfirst⟩ := ha.origin hq hlt
  refine ⟨p, hp, ⟨state, s, hstate, hs⟩, ?_⟩
  rintro o r ⟨earlier, x, ho, hr⟩ hqr
  by_contra hop
  exact absurd (hfirst o (Nat.lt_of_not_le hop) earlier x r ho hr) (Nat.not_lt.2 hqr)

private theorem Explored.exists_firstSource (ha : Explored g a) {q : Nat} (hq : q ≠ start)
    (hlt : q < a.states.length) : ∃ p < q, a.FirstSource q p := by
  obtain ⟨p, hp, hedge, hfirst⟩ := ha.exists_finder hq hlt
  exact ⟨p, hp, hedge, fun o ho => hfirst o q ho (Nat.le_refl q)⟩

private theorem Explored.firstSource_le (ha : Explored g a) {q r p o : Nat} (hq : q ≠ start)
    (hqr : q ≤ r) (hp : a.FirstSource q p) (ho : a.FirstSource r o) : p ≤ o := by
  obtain ⟨finder, -, hedge, hfirst⟩ := ha.exists_finder hq (ha.edge_lt hp.1).2
  have hfinder : p ≤ finder := hp.2 hedge
  exact Nat.le_trans hfinder (hfirst o r ho.1 hqr)

/-- A path to a state is not shorter than some path to each state before it. -/
private theorem Explored.exists_shorter (ha : Explored g a) {γ : List Symbol} {q r : Nat}
    (h : a.Reads γ r) (hqr : q ≤ r) : ∃ δ, a.Reads δ q ∧ δ.length ≤ γ.length := by
  induction h generalizing q with
  | start =>
    obtain rfl : q = start := Nat.le_zero.1 hqr
    exact ⟨[], .start, Nat.le_refl _⟩
  | @edge γ o r x state _ ho hr ih =>
    by_cases hq : q = start
    · exact ⟨[], hq ▸ .start, Nat.zero_le _⟩
    · -- the finder of `q` stands before `o`, and the path to it goes on to `q`
      have hedge : a.Edge o r := ⟨state, x, ho, hr⟩
      have hlt : q < a.states.length := Nat.lt_of_le_of_lt hqr (ha.edge_lt hedge).2
      obtain ⟨p, -, ⟨finder, s, hp, hs⟩, hfirst⟩ := ha.exists_finder hq hlt
      obtain ⟨δ, hδ, hlen⟩ := ih (hfirst o r hedge hqr)
      exact ⟨s :: δ, .edge hδ hp hs, Nat.succ_le_succ hlen⟩

private theorem Explored.distance_le (ha : Explored g a) {q r m n : Nat} (hqr : q ≤ r)
    (hm : a.Distance q m) (hn : a.Distance r n) : m ≤ n := by
  obtain ⟨γ, hγ, rfl⟩ := hn.1
  obtain ⟨δ, hδ, hlen⟩ := ha.exists_shorter (follow_eq_some_iff.1 hγ) hqr
  have hfollow : a.follow δ.reverse = some q := by
    rw [follow_eq_some_iff, List.reverse_reverse]
    exact hδ
  have hle : m ≤ δ.reverse.length := hm.2 ⟨_, hfollow, rfl⟩
  rw [List.length_reverse] at hlen hle
  exact Nat.le_trans hle hlen

end Automaton

namespace Grammar

open AugmentedGrammar Automaton

variable {α : Type} (g : Grammar α)

/-- No path comes back to the initial state, for it alone holds the start of the rule on top of the
start expression. -/
private theorem eq_nil_of_reads_start {γ : List Symbol} (h : g.automaton.Reads γ Automaton.start) :
    γ = [] := by
  obtain ⟨state, hstate, hinitial, -⟩ := g.state_of_reads .start
  obtain ⟨state', hstate', hholds, -⟩ := g.state_of_reads h
  cases hstate.symm.trans hstate'
  exact (bottom_of_valid ((hholds _).1 ((hinitial _).2 .start))).1

private theorem not_edge_start {p : Nat} : ¬ g.automaton.Edge p Automaton.start := by
  rintro ⟨state, s, hp, hs⟩
  obtain ⟨γ, hγ⟩ := g.exists_reads_of_lt (List.getElem?_eq_some_iff.1 hp).1
  cases g.eq_nil_of_reads_start (.edge hγ hp hs)

private theorem start_mem_iff {q : Nat} {state : State} (hq : g.automaton.states[q]? = some state) :
    ⟨acceptRule, 0, Symbol.endId⟩ ∈ state.items ↔ q = Automaton.start := by
  obtain ⟨γ, hγ⟩ := g.exists_reads_of_lt (List.getElem?_eq_some_iff.1 hq).1
  obtain ⟨state', hq', hholds, -⟩ := g.state_of_reads hγ
  cases hq.symm.trans hq'
  rw [hholds]
  constructor
  · intro hv
    obtain ⟨rfl, -⟩ := bottom_of_valid hv
    exact hγ.unique .start
  · rintro rfl
    rw [g.eq_nil_of_reads_start hγ]
    exact .start

private theorem exists_follow_iff {q : Nat} :
    (∃ γ, g.automaton.follow γ = some q) ↔ q < g.automaton.states.length := by
  constructor
  · rintro ⟨γ, hγ⟩
    obtain ⟨state, hstate, -⟩ := g.state_of_reads (follow_eq_some_iff.1 hγ)
    exact (List.getElem?_eq_some_iff.1 hstate).1
  · intro hq
    obtain ⟨γ, hγ⟩ := g.exists_reads_of_lt hq
    refine ⟨γ.reverse, follow_eq_some_iff.2 ?_⟩
    rwa [List.reverse_reverse]

private theorem exists_distance {q : Nat} (hq : q < g.automaton.states.length) :
    ∃ n, g.automaton.Distance q n := by
  obtain ⟨γ, hγ⟩ := g.exists_follow_iff.2 hq
  have hlengths : {n | ∃ γ, g.automaton.follow γ = some q ∧ γ.length = n}.Nonempty :=
    ⟨γ.length, γ, hγ, rfl⟩
  exact ⟨_, Nat.sInf_mem hlengths, fun n hn => Nat.sInf_le hn⟩

/-- States are numbered breadth first. The numbers that paths lead to are those below the number of
states. The initial state alone has no edge to it, and it alone holds the start of the rule on top of
the start expression; every other state has an edge from one with a smaller number. A greater number
means neither a shorter distance from the initial state nor, among the others, an earlier first
source. -/
theorem numbered_breadth_first :
    (∀ q, (∃ γ, g.automaton.follow γ = some q) ↔ q < g.automaton.states.length) ∧
    (∀ q < g.automaton.states.length,
      (¬ ∃ p, g.automaton.Edge p q) ↔ q = Automaton.start) ∧
    (∀ q state, g.automaton.states[q]? = some state →
      (⟨acceptRule, 0, Symbol.endId⟩ ∈ state.items ↔ q = Automaton.start)) ∧
    (∀ q < g.automaton.states.length, q ≠ Automaton.start → ∃ p < q, g.automaton.Edge p q) ∧
    (∀ q < g.automaton.states.length, ∃ n, g.automaton.Distance q n) ∧
    (∀ q r m n, q ≤ r → g.automaton.Distance q m → g.automaton.Distance r n → m ≤ n) ∧
    (∀ q < g.automaton.states.length, q ≠ Automaton.start →
      ∃ p, g.automaton.FirstSource q p) ∧
    ∀ q r p o, q ≠ Automaton.start → q ≤ r → g.automaton.FirstSource q p →
      g.automaton.FirstSource r o → p ≤ o := by
  have hex := g.explored
  refine ⟨fun q => g.exists_follow_iff, fun q hq => ⟨fun hnone => ?_, ?_⟩,
    fun q state hq => g.start_mem_iff hq, fun q hq hne => ?_, fun q hq => g.exists_distance hq,
    fun q r m n hqr hm hn => hex.distance_le hqr hm hn, fun q hq hne => ?_,
    fun q r p o hne hqr hp ho => hex.firstSource_le hne hqr hp ho⟩
  · by_contra hne
    obtain ⟨p, -, hedge, -⟩ := hex.exists_finder hne hq
    exact hnone ⟨p, hedge⟩
  · rintro rfl ⟨p, hp⟩
    exact g.not_edge_start hp
  · obtain ⟨p, hp, hedge, -⟩ := hex.exists_finder hne hq
    exact ⟨p, hp, hedge⟩
  · obtain ⟨p, -, hp⟩ := hex.exists_firstSource hne hq
    exact ⟨p, hp⟩

/-- The states behind the two `c` of the grammar with two `C`: the one that is found later is not nearer
to the initial state, and its first source does not come earlier. -/
theorem numbered_breadth_first_double :
    doubleGrammar.automaton.states.length = 10 ∧
    (∃ m n, doubleGrammar.automaton.Distance 3 m ∧ doubleGrammar.automaton.Distance 6 n ∧
      m ≤ n) ∧
    ∃ p o, doubleGrammar.automaton.FirstSource 3 p ∧ doubleGrammar.automaton.FirstSource 6 o ∧
      p ≤ o ∧ o < 6 := by
  have hlength : doubleGrammar.automaton.states.length = 10 := by decide +kernel
  have hthree : 3 < doubleGrammar.automaton.states.length := by omega
  have hsix : 6 < doubleGrammar.automaton.states.length := by omega
  obtain ⟨-, -, -, hbefore, hdistance, hnear, hsource, hearly⟩ :=
    numbered_breadth_first doubleGrammar
  obtain ⟨m, hm⟩ := hdistance 3 hthree
  obtain ⟨n, hn⟩ := hdistance 6 hsix
  obtain ⟨p, hp⟩ := hsource 3 hthree (by decide)
  obtain ⟨o, ho⟩ := hsource 6 hsix (by decide)
  obtain ⟨q, hq, hedge⟩ := hbefore 6 hsix (by decide)
  exact ⟨hlength, ⟨m, n, hm, hn, hnear 3 6 m n (by decide) hm hn⟩, p, o, hp, ho,
    hearly 3 6 p o (by decide) (by decide) hp ho, Nat.lt_of_le_of_lt (ho.2 hedge) hq⟩

end Grammar

end CanonicalLR
