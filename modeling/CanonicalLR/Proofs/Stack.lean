import CanonicalLR.Proofs.Cells
import CanonicalLR.Proofs.Derivation
import CanonicalLR.Proofs.Runs

/-! The stacks of a run over the table of a grammar: they follow the automaton, and no callback can
get them off it. -/
namespace CanonicalLR

namespace AugmentedGrammar

variable {g : AugmentedGrammar}

/-- What an item has read is on top of the symbols, and its rule was expected below. -/
theorem Valid.read {γ : List Symbol} {i : Item} (h : g.Valid γ i) {rule : Production}
    (hr : g.rules[i.rule]? = some rule) :
    ∃ δ, γ = (rule.right.take i.marker).reverse ++ δ ∧ g.Valid δ ⟨i.rule, 0, i.lookahead⟩ := by
  induction h with
  | start => exact ⟨[], rfl, .start⟩
  | @predict γ i j hi hp _ =>
    have hm : j.marker = 0 := by
      obtain ⟨-, -, -, -, hm, -⟩ := hp
      exact hm
    refine ⟨γ, by rw [hm, List.take_zero]; rfl, ?_⟩
    rw [← hm]
    exact .predict hi hp
  | @advance γ i s _ hs ih =>
    obtain ⟨δ, rfl, hv⟩ := ih hr
    obtain ⟨rule', hr', hs⟩ := next?_eq_some_iff.1 hs
    cases hr.symm.trans hr'
    refine ⟨δ, ?_, hv⟩
    rw [Item.advance, List.take_add_one, hs, List.reverse_append]
    rfl

private theorem Valid.expected {γ : List Symbol} {r a : Nat} (h : g.Valid γ ⟨r, 0, a⟩)
    (hr : r ≠ acceptRule) {rule : Production} (hrule : g.rules[r]? = some rule) :
    ∃ i, g.Valid γ i ∧ g.next? i = some (.nonterminal rule.left) ∧ g.Predicts i ⟨r, 0, a⟩ := by
  generalize hj : (⟨r, 0, a⟩ : Item) = j at h
  cases h with
  | start =>
    cases hj
    exact absurd rfl hr
  | @predict _ i _ hi hp =>
    subst hj
    obtain ⟨rule', hr', hn⟩ := hp.next?
    cases hrule.symm.trans hr'
    exact ⟨i, hi, hn, hp⟩
  | advance => cases hj

end AugmentedGrammar

namespace Grammar

open AugmentedGrammar

variable {α : Type} {g : Grammar α}

/-- No rule refers to a reserved symbol. -/
theorem proper_of_mem_remaining {i : Item} {s : Symbol} (hs : s ∈ g.augmented.remaining i) :
    g.augmented.Proper s := by
  unfold remaining at hs
  split at hs
  · rename_i rule hr
    exact g.proper_of_mem_right (List.mem_of_getElem? hr) (List.mem_of_mem_drop hs)
  · cases hs

theorem proper_of_next? {i : Item} {s : Symbol} (h : g.augmented.next? i = some s) :
    g.augmented.Proper s :=
  proper_of_mem_remaining (List.mem_of_mem_head? h)

/-- The first rule starts at the bottom only, with the end of the input behind it. -/
theorem bottom_of_valid {γ : List Symbol} {a : Nat}
    (h : g.augmented.Valid γ ⟨acceptRule, 0, a⟩) : γ = [] ∧ a = Symbol.endId := by
  generalize hj : (⟨acceptRule, 0, a⟩ : Item) = j at h
  cases h with
  | start =>
    cases hj
    exact ⟨rfl, rfl⟩
  | predict _ hp =>
    subst hj
    obtain ⟨rule, hr, hn⟩ := hp.next?
    cases g.rules_zero.symm.trans hr
    exact absurd (proper_of_next? hn).1 (by simp [Symbol.startId])
  | advance => exact absurd (congrArg Item.marker hj) (by simp [Item.advance])

/-- No path goes over a reserved symbol. -/
theorem proper_of_reads {s : Symbol} {γ : List Symbol} {q : Nat}
    (h : g.automaton.Reads (s :: γ) q) : g.augmented.Proper s := by
  cases h with
  | edge h hq he =>
    obtain ⟨state, hq', -, hall⟩ := g.state_of_reads h
    cases hq.symm.trans hq'
    obtain ⟨i, -, hn⟩ := (hall s).1 ⟨_, he⟩
    exact proper_of_next? hn

/-- Stacks, with their tops first, that follow the automaton: the states are those behind the
symbols, and the nodes are derivation trees of the symbols. -/
inductive Stacked (g : Grammar α) : List Symbol → List Nat → List Tree → Prop
  | bottom : Stacked g [] [Automaton.start] []
  | push {γ : List Symbol} {s : Symbol} {r : Nat} {states : List Nat} {nodes : List Tree}
      {tree : Tree} : Stacked g γ states nodes → g.automaton.Reads (s :: γ) r → tree.Derived g →
      tree.name = g.augmented.symbolName s → Stacked g (s :: γ) (r :: states) (tree :: nodes)

/-- The state on top of the stack is the one that its symbols lead to. -/
theorem Stacked.reads {γ : List Symbol} {states : List Nat} {nodes : List Tree}
    (h : g.Stacked γ states nodes) : ∃ q rest, states = q :: rest ∧ g.automaton.Reads γ q := by
  cases h with
  | bottom => exact ⟨_, _, rfl, .start⟩
  | push _ hr => exact ⟨_, _, rfl, hr⟩

private theorem Stacked.length {γ : List Symbol} {states : List Nat} {nodes : List Tree}
    (h : g.Stacked γ states nodes) : states.length = nodes.length + 1 ∧ nodes.length = γ.length := by
  induction h with
  | bottom => exact ⟨rfl, rfl⟩
  | push _ _ _ _ ih =>
    simp only [List.length_cons]
    omega

/-- The nodes on a stack are derivation trees. -/
theorem Stacked.derived {γ : List Symbol} {states : List Nat} {nodes : List Tree}
    (h : g.Stacked γ states nodes) : ∀ tree ∈ nodes, tree.Derived g := by
  induction h with
  | bottom => simp
  | push _ _ hd _ ih => simpa using ⟨hd, ih⟩

/-- The nodes on a stack stand for its symbols. -/
theorem Stacked.names {γ : List Symbol} {states : List Nat} {nodes : List Tree}
    (h : g.Stacked γ states nodes) : nodes.map Tree.name = γ.map g.augmented.symbolName := by
  induction h with
  | bottom => rfl
  | push _ _ _ hn ih => rw [List.map_cons, List.map_cons, hn, ih]

private theorem Stacked.drop {δ γ : List Symbol} {states : List Nat} {nodes : List Tree}
    (h : g.Stacked (δ ++ γ) states nodes) :
    g.Stacked γ (states.drop δ.length) (nodes.drop δ.length) := by
  induction δ generalizing states nodes with
  | nil => exact h
  | cons s δ ih =>
    cases h with
    | push h => exact ih h

/-- A derivation tree of a nonterminal is a node. -/
theorem eq_node_of_derived {tree : Tree} (hd : tree.Derived g) {n : Nat}
    (hp : g.augmented.Proper (.nonterminal n))
    (hn : tree.name = g.augmented.symbolName (.nonterminal n)) :
    ∃ k children, tree = .node (g.augmented.symbolName (.nonterminal n)) k children := by
  cases tree with
  | leaf token =>
    obtain ⟨t, ht⟩ := hd.terminal_of_leaf hp hn
    cases ht
  | node name k children => exact ⟨k, children, by rw [← hn]; rfl⟩

variable {t : Table}

/-- Acceptance means that the stack holds the start expression and nothing else. -/
theorem Stacked.accept (h : Table.ofGrammar g = .ok t) {γ : List Symbol} {q : Nat}
    {states : List Nat} {nodes : List Tree} (hs : g.Stacked γ (q :: states) nodes) {name : String}
    (ha : t.action? q name = some .accept) :
    γ = [.nonterminal startSymbol] ∧ name = endName ∧
      ∃ k children, nodes = [.node g.start k children] := by
  obtain ⟨_, _, he, hq⟩ := hs.reads
  cases he
  rcases (Table.action?_iff h hq).1 ha with ⟨x, r, -, -, hx⟩ | ⟨i, hv, rule, hr, hm, hl, hc⟩
  · cases hx
  · have h0 : i.rule = acceptRule := by
      by_contra h0
      rw [Table.completion, if_neg h0] at hc
      cases hc
    obtain ⟨δ, rfl, hb⟩ := hv.read hr
    rw [h0] at hb hr
    cases g.rules_zero.symm.trans hr
    obtain ⟨rfl, he⟩ := bottom_of_valid hb
    have ht : [Symbol.nonterminal startSymbol].take i.marker = [.nonterminal startSymbol] :=
      List.take_of_length_le hm
    simp only [ht, List.reverse_singleton, List.append_nil] at hs ⊢
    refine ⟨trivial, by rw [← hl, he, g.symbolName_endId], ?_⟩
    cases hs with
    | push hs _ hd hn =>
      cases hs with
      | bottom =>
        obtain ⟨k, children, rfl⟩ := eq_node_of_derived hd g.startSymbol_proper hn
        exact ⟨k, children, rfl⟩

private theorem Stacked.shift (h : Table.ofGrammar g = .ok t) {γ : List Symbol} {q next : Nat}
    {states : List Nat} {nodes : List Tree} (hs : g.Stacked γ (q :: states) nodes) {token : Token}
    (ha : t.action? q token.name = some (.shift next)) :
    ∃ x, g.Stacked (.terminal x :: γ) (next :: q :: states) (.leaf token :: nodes) := by
  obtain ⟨_, _, he, hq⟩ := hs.reads
  cases he
  rcases (Table.action?_iff h hq).1 ha with ⟨x, r, hr, hx, he⟩ | ⟨i, hv, rule, hr, hm, hl, hc⟩
  · cases he
    have hd := g.definition?_terminal (proper_of_reads hr).known
    rw [hx] at hd
    exact ⟨x, .push hs hr (.leaf hd) hx.symm⟩
  · unfold Table.completion at hc
    split at hc <;> cases hc

/-- The end of the input is never read. -/
theorem Stacked.shift_ne_end (h : Table.ofGrammar g = .ok t) {γ : List Symbol} {q next : Nat}
    {states : List Nat} {nodes : List Tree} (hs : g.Stacked γ (q :: states) nodes) {name : String}
    (ha : t.action? q name = some (.shift next)) : name ≠ endName := by
  rintro rfl
  have ha : t.action? q (Token.synthetic endName .zero).name = some (.shift next) := ha
  obtain ⟨x, hx⟩ := hs.shift h ha
  cases hx with
  | push _ hr _ hn =>
    have hp := proper_of_reads hr
    have he := g.symbolName_inj hp.known g.endId_known (hn.symm.trans g.symbolName_endId.symm)
    cases he
    exact absurd hp.1 (Nat.lt_irrefl 0)

/-- A rule that is completed finds its nodes on the stack, and a goto below them. -/
theorem Stacked.complete (h : Table.ofGrammar g = .ok t) {γ : List Symbol} {states : List Nat}
    {nodes : List Tree} (hs : g.Stacked γ states nodes) {i : Item} (hv : g.augmented.Valid γ i)
    (h0 : i.rule ≠ acceptRule) {rule : Production} (hr : g.augmented.rules[i.rule]? = some rule)
    (hm : rule.right.length ≤ i.marker) :
    rule.right.length ≤ nodes.length ∧ ∃ δ exposed below next, γ = rule.right.reverse ++ δ ∧
      states.drop rule.right.length = exposed :: below ∧
      t.goto? exposed (g.augmented.symbolName (.nonterminal rule.left)) = some next ∧
      g.Stacked (.nonterminal rule.left :: δ) (next :: exposed :: below)
        (.node (g.augmented.symbolName (.nonterminal rule.left)) rule.alternative
          (nodes.take rule.right.length).reverse :: nodes.drop rule.right.length) := by
  have hlen := hs.length.2
  obtain ⟨δ, rfl, hb⟩ := hv.read hr
  rw [List.take_of_length_le hm] at hs hlen ⊢
  obtain ⟨j, hj, hn, -⟩ := hb.expected h0 hr
  have hbelow := hs.drop
  rw [List.length_reverse] at hbelow
  obtain ⟨exposed, below, he, hreads⟩ := hbelow.reads
  obtain ⟨next, hnext⟩ := g.exists_reads hreads hj hn
  rw [he] at hbelow
  refine ⟨by simp at hlen; omega, δ, exposed, below, next, rfl, he,
    (Table.goto?_iff h hreads).2 ⟨_, hnext, rfl⟩, hbelow.push hnext ?_ rfl⟩
  obtain ⟨-, d, a, hd, halt, hright⟩ := g.definition_of_rule hr h0
  refine .node hd halt ?_ fun tree ht => ?_
  · have htake := congrArg (List.take rule.right.length) hs.names
    rw [← List.map_take, ← List.map_take, List.take_left' List.length_reverse] at htake
    rw [List.map_reverse, htake, List.map_reverse, List.reverse_reverse, hright]
  · exact hs.derived tree (List.mem_of_mem_take (List.mem_reverse.1 ht))

/-- A reduction finds its nodes and its goto, and leaves a stack of the same kind. -/
theorem Stacked.reduce (h : Table.ofGrammar g = .ok t) {γ : List Symbol} {q : Nat}
    {states : List Nat} {nodes : List Tree} (hs : g.Stacked γ (q :: states) nodes)
    {name expression : String} {k len : Nat}
    (ha : t.action? q name = some (.reduce expression k len)) :
    len ≤ nodes.length ∧ ∃ δ exposed below next, (q :: states).drop len = exposed :: below ∧
      t.goto? exposed expression = some next ∧
      g.Stacked δ (next :: exposed :: below)
        (.node expression k (nodes.take len).reverse :: nodes.drop len) := by
  obtain ⟨_, _, he, hq⟩ := hs.reads
  cases he
  rcases (Table.action?_iff h hq).1 ha with ⟨x, r, -, -, hx⟩ | ⟨i, hv, rule, hr, hm, -, hc⟩
  · cases hx
  unfold Table.completion at hc
  split at hc
  · cases hc
  rename_i h0
  cases hc
  obtain ⟨hle, δ, exposed, below, next, -, hd, hg, hnew⟩ := hs.complete h hv h0 hr hm
  exact ⟨hle, _, exposed, below, next, hd, hg, hnew⟩

end Grammar

namespace Table

/-- Stacks with their tops first, where each node leads from the state below it to the one that was
pushed with it: a leaf by a shift of its token, any other node by a goto. -/
inductive Linked (t : Table) : List Nat → List Tree → Prop
  | bottom : Linked t [t.start] []
  | leaf {q r : Nat} {states : List Nat} {nodes : List Tree} {token : Token} :
      Linked t (q :: states) nodes → t.action? q token.name = some (.shift r) →
      Linked t (r :: q :: states) (.leaf token :: nodes)
  | node {q r k : Nat} {states : List Nat} {nodes children : List Tree} {expression : String} :
      Linked t (q :: states) nodes → t.goto? q expression = some r →
      Linked t (r :: q :: states) (.node expression k children :: nodes)

private theorem Linked.getLast? {t : Table} {states : List Nat} {nodes : List Tree}
    (h : t.Linked states nodes) : states.getLast? = some t.start := by
  induction h with
  | bottom => rfl
  | leaf _ _ ih => rw [List.getLast?_cons_cons, ih]
  | node _ _ ih => rw [List.getLast?_cons_cons, ih]

end Table

namespace Grammar

variable {α : Type} {g : Grammar α}

private theorem Stacked.linked {t : Table} (h : Table.ofGrammar g = .ok t) {γ : List Symbol}
    {states : List Nat} {nodes : List Tree} (hs : g.Stacked γ states nodes) :
    t.Linked states nodes := by
  induction hs with
  | bottom =>
    rw [← Table.start_of_ofGrammar h]
    exact .bottom
  | @push γ s r states nodes tree hs hr hd hn ih =>
    obtain ⟨q, rest, rfl, hq⟩ := hs.reads
    have hp := proper_of_reads hr
    cases tree with
    | leaf token =>
      obtain ⟨x, rfl⟩ := hd.terminal_of_leaf hp hn
      exact .leaf ih ((Table.action?_iff h hq).2 (.inl ⟨x, r, hr, hn.symm, rfl⟩))
    | node name k children =>
      obtain ⟨-, rule, -, -, rfl, -⟩ := hd.rule_of_node hp hn
      exact .node ih ((Table.goto?_iff h hq).2 ⟨rule.left, hr, hn.symm⟩)

/-- The table of a grammar, or a table without cells if there is a conflict. -/
def tableOrEmpty (g : Grammar α) : Table :=
  match Table.ofGrammar g with
  | .ok t => t
  | .error _ => ⟨0, .empty⟩

end Grammar

namespace Parser

variable {α υ : Type} {g : Grammar α} {p : Parser υ}

private theorem stacked_of_moved (h : Table.ofGrammar g = .ok p.table) {run after : Run υ} {q : Nat}
    {below : List Nat} {γ : List Symbol} (hs : g.Stacked γ (q :: below) run.context.nodes)
    (hq : run.context.states = q :: below) (hm : Moved p run after q) :
    ∃ δ, g.Stacked δ after.context.states after.context.nodes := by
  cases hm with
  | shift token next ha _ he =>
    obtain ⟨x, hx⟩ := hs.shift h ha
    subst he
    exact ⟨_, hq ▸ hx⟩
  | reduce expression k len exposed next rest ha hd hg hst hn =>
    obtain ⟨-, δ, e, b, r, he, hr, hx⟩ := hs.reduce h ha
    rw [hq, he] at hd
    cases hd
    cases hr.symm.trans hg
    rw [hst, hn]
    exact ⟨_, hx⟩
  | recover _ hst hn =>
    rw [hst, hn, hq]
    exact ⟨γ, hs⟩

/-- Whatever the callbacks do to the input and the cursor, the stacks follow the automaton. -/
theorem stacked_of_leads (h : Table.ofGrammar g = .ok p.table) {context : Context υ} {run : Run υ}
    (hl : p.Leads (.start p context) run) :
    ∃ γ, g.Stacked γ run.context.states run.context.nodes := by
  induction hl with
  | refl =>
    refine ⟨[], ?_⟩
    rw [Run.start, Context.reset, Table.start_of_ofGrammar h]
    exact .bottom
  | tail _ hstep ih =>
    obtain ⟨γ, hs⟩ := ih
    obtain ⟨-, q, below, hq, hm⟩ := moved_of_step hstep
    exact stacked_of_moved h (hq ▸ hs) hq hm

/-- Over a stack of this kind, no step fails for want of a state, a node or a goto. -/
theorem not_structural_of_failed (h : Table.ofGrammar g = .ok p.table) {run after : Run υ}
    {γ : List Symbol} (hs : g.Stacked γ run.context.states run.context.nodes) {e : ParseError}
    (hf : p.step run = .failed e after) : ¬ e.Structural := by
  have hst := p.stepped run
  rw [hf] at hst
  cases hst with
  | bare _ hb =>
    obtain ⟨q, rest, hq, -⟩ := hs.reads
    rw [hb] at hq
    cases hq
  | stuck q below expression k len _ _ hq ha hstuck =>
    have hlen := hs.length.1
    rw [hq] at hs
    obtain ⟨hle, -, exposed, rest, next, hd, hg, -⟩ := hs.reduce h ha
    rcases hstuck with hst | hst | ⟨exposed', rest', hd', hg'⟩
    · omega
    · omega
    · rw [hq, hd] at hd'
      cases hd'
      cases hg.symm.trans hg'
  | bad _ _ hb => exact hb

/-- Over the table of a grammar, with any input, hook and reducer: whenever a run is at the head of
the loop, there is one state more than there are nodes, the states begin with the start state and
the nodes lead from each to the next, every node is a derivation tree, and an accepted stack is one
node of the start expression. No run fails on its own stacks. -/
theorem stack_invariant (h : Table.ofGrammar g = .ok p.table) (context : Context υ) :
    (∀ run, p.Leads (.start p context) run →
      run.context.states.length = run.context.nodes.length + 1 ∧
      run.context.states.getLast? = some p.table.start ∧
      p.table.Linked run.context.states run.context.nodes ∧
      (∀ tree ∈ run.context.nodes, tree.Derived g) ∧
      ∀ q name, run.context.states.head? = some q → p.table.action? q name = some .accept →
        ∃ k children, run.context.nodes = [.node g.start k children]) ∧
    ∀ fuel e, (p.parse fuel context).1 = .error e → ¬ e.Structural := by
  refine ⟨fun run hl => ?_, fun fuel e he => ?_⟩
  · obtain ⟨γ, hs⟩ := stacked_of_leads h hl
    have hlink := hs.linked h
    refine ⟨hs.length.1, hlink.getLast?, hlink, hs.derived, fun q name hq ha => ?_⟩
    obtain ⟨q', below, hst, -⟩ := hs.reads
    rw [hst] at hs hq
    cases hq
    exact (hs.accept h ha).2.2
  · rcases error_of_loop he with hb | ⟨last, after, hl, hf⟩
    · exact hb
    · obtain ⟨γ, hs⟩ := stacked_of_leads h hl
      exact not_structural_of_failed h hs hf

/-- `S : A b ; A : a ;` -/
def pairGrammar : Grammar Unit where
  definitions := [⟨"S", [⟨["A", "b"], none⟩]⟩, ⟨"A", [⟨["a"], none⟩]⟩]
  distinct := by decide
  unrepeated := by decide
  augmented := ⟨["$", "b", "a"], ["$start", "S", "A"],
    [⟨0, [.nonterminal 1], 0⟩, ⟨1, [.nonterminal 2, .terminal 1], 0⟩, ⟨2, [.terminal 2], 0⟩]⟩
  augmented_eq := by decide +kernel

def pairTable : Table := pairGrammar.tableOrEmpty

/-- A parser whose reducer moves the cursor behind the end of the input, where its hook says that
the run shall go on. -/
def overshooting : Parser Unit where
  table := pairTable
  reducer := some fun context => { context.feed with cursor := 9 }
  onBadInput := some fun context => (true, context.feed)

/-- The invariant holds also where a reducer has moved the cursor behind the input. -/
theorem stack_invariant_overshooting : Table.ofGrammar pairGrammar = .ok pairTable ∧
    ∃ run, overshooting.Leads
      (.start overshooting (.ofInput [⟨"a", "a", .zero⟩, ⟨"b", "b", .zero⟩] ())) run ∧
      run.context.nodes = [.node "A" 0 [.leaf ⟨"a", "a", .zero⟩]] ∧
      run.context.feed.cursor = 9 ∧ pairTable.Linked run.context.states run.context.nodes := by
  have hl : overshooting.Leads
      (.start overshooting (.ofInput [⟨"a", "a", .zero⟩, ⟨"b", "b", .zero⟩] ())) _ :=
    .tail (.tail .refl rfl) rfl
  exact ⟨rfl, _, hl, rfl, rfl, ((stack_invariant (g := pairGrammar) rfl _).1 _ hl).2.2.1⟩

end Parser

end CanonicalLR
