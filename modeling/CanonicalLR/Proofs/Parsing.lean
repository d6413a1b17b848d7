import CanonicalLR.Proofs.Stack

/-! Tables are correct and complete: without callbacks the driver yields exactly the derivation trees
of the start expression. -/
namespace CanonicalLR

def Table.parser (t : Table) : Parser Unit := { table := t }

/-- A run that stands on derivation trees, with the rest of the input in front of it. -/
structure Grammar.Stands {α : Type} (g : Grammar α) (run : Run Unit) (γ : List Symbol)
    (nodes : List Tree) (rest : List Token) : Prop where
  stacked : g.Stacked γ run.context.states nodes
  nodes_eq : run.context.nodes = nodes
  rest_eq : run.context.feed.input.drop run.context.feed.cursor = rest
  inside : run.context.feed.cursor ≤ run.context.feed.input.length

/-- The lookahead is the first of what the cursor has not passed. -/
theorem Feed.lookaheadName_eq {υ : Type} (f : Feed υ) :
    f.lookaheadName = Tree.firstName (f.input.drop f.cursor) := by
  rw [lookaheadName, lookahead?, ← List.head?_drop]
  cases f.input.drop f.cursor <;> rfl

namespace Parser

open AugmentedGrammar

variable {α : Type} {g : Grammar α} {t : Table} {run : Run Unit} {γ : List Symbol}
  {nodes : List Tree} {rest : List Token}

/-- A run that stands in front of some tokens looks at the first of them. -/
theorem lookahead_of_stands (h : g.Stands run γ nodes rest) :
    run.context.feed.lookahead? = rest.head? ∧
      run.context.feed.lookaheadName = Tree.firstName rest := by
  refine ⟨?_, by rw [Feed.lookaheadName_eq, h.rest_eq]⟩
  rw [Feed.lookahead?, ← List.head?_drop, h.rest_eq]

private theorem step_shift (ht : Table.ofGrammar g = .ok t) {token : Token}
    (h : g.Stands run γ nodes (token :: rest)) {i : Item} (hv : g.augmented.Valid γ i) {x : Nat}
    (hx : g.augmented.next? i = some (.terminal x))
    (hn : token.name = g.augmented.symbolName (.terminal x)) :
    ∃ after, t.parser.step run = .next after ∧
      g.Stands after (.terminal x :: γ) (.leaf token :: nodes) rest := by
  obtain ⟨hl, -⟩ := lookahead_of_stands h
  obtain ⟨hst, rfl, hr, hc⟩ := h
  obtain ⟨q, below, hq, hreads⟩ := hst.reads
  obtain ⟨next, hnext⟩ := g.exists_reads hreads hv hx
  have ha : t.action? q token.name = some (.shift next) :=
    (Table.action?_iff ht hreads).2 (.inl ⟨x, next, hnext, hn.symm, rfl⟩)
  have hd := g.definition?_terminal (Grammar.proper_of_reads hnext).known
  have hlt : run.context.feed.cursor < run.context.feed.input.length := by
    have := congrArg List.length hr
    simp only [List.length_drop, List.length_cons] at this
    omega
  rw [hq] at hst
  refine ⟨_, step_of_shift hc hq hl ha, hst.push hnext (.leaf (hn ▸ hd)) hn, rfl, ?_, hlt⟩
  rw [← List.drop_drop, hr]
  rfl

private theorem step_reduce (ht : Table.ofGrammar g = .ok t) (h : g.Stands run γ nodes rest)
    {i : Item} (hv : g.augmented.Valid γ i) (h0 : i.rule ≠ acceptRule) {rule : Production}
    (hr : g.augmented.rules[i.rule]? = some rule) (hm : rule.right.length ≤ i.marker)
    (hn : Tree.firstName rest = g.augmented.symbolName (.terminal i.lookahead)) :
    ∃ after δ, t.parser.step run = .next after ∧ γ = rule.right.reverse ++ δ ∧
      g.Stands after (.nonterminal rule.left :: δ)
        (.node (g.augmented.symbolName (.nonterminal rule.left)) rule.alternative
          (nodes.take rule.right.length).reverse :: nodes.drop rule.right.length) rest := by
  obtain ⟨-, hln⟩ := lookahead_of_stands h
  obtain ⟨hst, rfl, hrest, hc⟩ := h
  obtain ⟨q, below, hq, hreads⟩ := hst.reads
  have ha : t.action? q (Tree.firstName rest) = some (.reduce
      (g.augmented.symbolName (.nonterminal rule.left)) rule.alternative rule.right.length) :=
    (Table.action?_iff ht hreads).2
      (.inr ⟨i, hv, rule, hr, hm, hn.symm, by rw [Table.completion, if_neg h0]⟩)
  obtain ⟨hle, δ, exposed, below', next, hγ, hd, hg, hnew⟩ := hst.complete ht hv h0 hr hm
  exact ⟨_, δ, step_of_reduce hc hq (hln ▸ ha) (hq ▸ hd) hle hg rfl, hγ, hnew, rfl, hrest, hc⟩

/-- The driver reads the tree wherever its symbol is expected and what comes behind the tree can
follow: it comes to stand on the tree. -/
def Read (g : Grammar α) (t : Table) (tree : Tree) : Prop :=
  ∀ {run : Run Unit} {γ : List Symbol} {nodes : List Tree} {rest : List Token} {i : Item}
    {s : Symbol} {b : Nat}, g.Stands run γ nodes (tree.leaves ++ rest) → g.augmented.Valid γ i →
    g.augmented.next? i = some s → tree.name = g.augmented.symbolName s →
    Tree.firstName rest = g.augmented.symbolName (.terminal b) →
    g.augmented.Begins (g.augmented.remaining i.advance ++ [.terminal i.lookahead]) (some b) →
    ∃ after, t.parser.Leads run after ∧ g.Stands after (s :: γ) (tree :: nodes) rest

/-- Trees for all that an item still expects are read one after the other. -/
private theorem read_forest {trees : List Tree} (hread : ∀ tree ∈ trees, Read g t tree)
    (hd : ∀ tree ∈ trees, tree.Derived g) {i : Item}
    (h : g.Stands run γ nodes (Tree.leavesOfAll trees ++ rest)) (hv : g.augmented.Valid γ i)
    (hn : trees.map Tree.name = (g.augmented.remaining i).map g.augmented.symbolName)
    (hl : Tree.firstName rest = g.augmented.symbolName (.terminal i.lookahead)) :
    ∃ after j, t.parser.Leads run after ∧
      g.Stands after ((g.augmented.remaining i).reverse ++ γ) (trees.reverse ++ nodes) rest ∧
      g.augmented.Valid ((g.augmented.remaining i).reverse ++ γ) j ∧ j.rule = i.rule ∧
      j.lookahead = i.lookahead ∧ g.augmented.remaining j = [] := by
  induction trees generalizing run γ nodes i with
  | nil =>
    have hrem : g.augmented.remaining i = [] := List.map_eq_nil_iff.1 hn.symm
    rw [hrem]
    exact ⟨run, i, .refl, h, hv, rfl, rfl, hrem⟩
  | cons tree trees ih =>
    obtain ⟨s, ss, hrem⟩ : ∃ s ss, g.augmented.remaining i = s :: ss := by
      cases hrem : g.augmented.remaining i with
      | nil =>
        rw [hrem] at hn
        cases hn
      | cons s ss => exact ⟨s, ss, rfl⟩
    have hs : g.augmented.next? i = some s := by rw [AugmentedGrammar.next?, hrem]; rfl
    have hadv : g.augmented.remaining i.advance = ss := by
      rw [AugmentedGrammar.remaining_of_next? hs] at hrem
      exact (List.cons.inj hrem).2
    rw [hrem] at hn
    obtain ⟨hname, hn⟩ := List.cons.inj hn
    have hproper : ∀ r ∈ ss, g.augmented.Proper r := by
      intro r hr
      apply Grammar.proper_of_mem_remaining (i := i)
      rw [hrem]
      exact List.mem_cons_of_mem _ hr
    obtain ⟨-, -, -, hk⟩ := g.fits_of_valid hv
    obtain ⟨b, -, hb, hbegins⟩ := Tree.begins_of_forest (fun u hu => hd u (List.mem_cons_of_mem _ hu))
      hproper hn hk hl
    rw [Tree.leavesOfAll, List.append_assoc] at h
    obtain ⟨mid, hlead, hmid⟩ := hread tree List.mem_cons_self h hv hs hname hb (hadv ▸ hbegins)
    obtain ⟨after, j, hlead', hafter, hj, hjr, hjl, hjrem⟩ :=
      ih (fun u hu => hread u (List.mem_cons_of_mem _ hu))
        (fun u hu => hd u (List.mem_cons_of_mem _ hu)) hmid (.advance hv hs) (hadv ▸ hn) hl
    rw [hrem, List.reverse_cons, List.reverse_cons, List.append_assoc, List.append_assoc]
    rw [hadv] at hafter hj
    exact ⟨after, j, hlead.trans hlead', hafter, hj, hjr, hjl, hjrem⟩

/-- Every derivation tree is read. -/
theorem read_tree (ht : Table.ofGrammar g = .ok t) {tree : Tree} (hd : tree.Derived g) :
    Read g t tree := by
  induction hd with
  | @leaf token hd =>
    intro run γ nodes rest i s b h hv hs hn _ _
    obtain ⟨x, rfl⟩ := (Tree.Derived.leaf hd).terminal_of_leaf (Grammar.proper_of_next? hs) hn
    obtain ⟨after, hstep, hafter⟩ := step_shift ht h hv hs hn
    exact ⟨after, .single hstep, hafter⟩
  | @node name k children d a hd ha hc hall ih =>
    intro run γ nodes rest i s b h hv hs hn hb hbegins
    obtain ⟨r, rule, hr, h0, rfl, rfl, hright, -⟩ :=
      (Tree.Derived.node hd ha hc hall).rule_of_node (Grammar.proper_of_next? hs) hn
    have hpred : g.augmented.Predicts i ⟨r, 0, b⟩ :=
      ⟨_, rule, hr, AugmentedGrammar.remaining_of_next? hs, rfl, hbegins⟩
    have hrem : g.augmented.remaining ⟨r, 0, b⟩ = rule.right :=
      AugmentedGrammar.remaining_eq_right hr rfl
    obtain ⟨mid, j, hlead, hmid, hj, hjr, hjl, hjrem⟩ :=
      read_forest ih hall h (.predict hv hpred) (hrem ▸ hright) hb
    rw [hrem] at hmid hj
    obtain rfl : j.rule = r := hjr
    obtain rfl : j.lookahead = b := hjl
    have hm : rule.right.length ≤ j.marker := (AugmentedGrammar.remaining_eq_nil_iff hr).1 hjrem
    obtain ⟨after, δ, hstep, hδ, hafter⟩ := step_reduce ht hmid hj h0 hr hm hb
    have hlen : children.reverse.length = rule.right.length := by
      simpa using congrArg List.length hright
    cases List.append_cancel_left hδ
    rw [List.take_left' hlen, List.drop_left' hlen, List.reverse_reverse, ← hn, Tree.name] at hafter
    exact ⟨after, hlead.tail hstep, hafter⟩

/-- If callbacks leave alone what was read, it is the leaves of the stack. -/
theorem yield_of_leads {υ : Type} {p : Parser υ} {context : Context υ} (hp : p.Careful context)
    {run : Run υ} (h : p.Leads (.start p context) run) :
    run.context.feed.cursor ≤ run.context.feed.input.length ∧
      Tree.leavesOfAll run.context.nodes.reverse =
        run.context.feed.input.take run.context.feed.cursor := by
  induction h with
  | refl => exact ⟨Nat.zero_le _, rfl⟩
  | @tail run after hl hstep ih =>
    obtain ⟨hc, hy⟩ := ih
    have hspare := hp run after hl hstep
    obtain ⟨-, q, below, -, hm⟩ := moved_of_step hstep
    cases hm with
    | shift token next _ hlook he =>
      subst he
      rw [Feed.lookahead?] at hlook
      refine ⟨(List.getElem?_eq_some_iff.1 hlook).1, ?_⟩
      rw [List.reverse_cons, Tree.leavesOfAll_append, hy, List.take_add_one, hlook]
      rfl
    | reduce expression k len exposed next rest _ _ _ _ hn he =>
      obtain ⟨hle, htake⟩ := (hspare fun token state h => by rw [he] at h; cases h).kept hc
      refine ⟨hle, ?_⟩
      rw [htake, ← hy, hn, Tree.leavesOfAll_fold]
    | recover _ _ hn he =>
      obtain ⟨hle, htake⟩ := (hspare fun token state h => by rw [he] at h; cases h).kept hc
      refine ⟨hle, ?_⟩
      rw [htake, hn, hy]

/-- A driver without callbacks edits nothing. -/
theorem parser_quiet (t : Table) (context : Context Unit) : t.parser.Quiet context :=
  ⟨rfl, passive_of_reducer (fun _ hr => by cases hr) context⟩

/-- Without callbacks, every run stands between the leaves that it has read and the rest of the
input. -/
theorem stands_of_leads (ht : Table.ofGrammar g = .ok t) {ts : List Token}
    (h : t.parser.Leads (.start t.parser (.ofInput ts ())) run) :
    ∃ γ rest, g.Stands run γ run.context.nodes rest ∧
      Tree.leavesOfAll run.context.nodes.reverse ++ rest = ts := by
  obtain ⟨γ, hs⟩ := stacked_of_leads (p := t.parser) ht h
  have hp := parser_quiet t (.ofInput ts ())
  obtain ⟨hc, hy⟩ := yield_of_leads hp.careful h
  refine ⟨γ, _, ⟨hs, rfl, rfl, hc⟩, ?_⟩
  rw [hy, List.take_append_drop, hp.input_eq h]
  rfl

/-- At first nothing is read. -/
theorem stands_start (ht : Table.ofGrammar g = .ok t) (ts : List Token) :
    g.Stands (.start t.parser (.ofInput ts ())) [] [] ts := by
  refine ⟨?_, rfl, rfl, Nat.zero_le _⟩
  rw [Run.start, Context.reset, Table.parser, Table.start_of_ofGrammar ht]
  exact .bottom

theorem parseTokens_eq (t : Table) (fuel : Nat) (ts : List Token) :
    t.parseTokens fuel ts = (t.parser.loop fuel (.start t.parser (.ofInput ts ()))).1 := rfl

/-- If callbacks leave alone what was read, a tree that is returned is a derivation tree of the start
expression for the input that there is in the end. -/
theorem whole_of_careful {υ : Type} {p : Parser υ} (ht : Table.ofGrammar g = .ok p.table)
    {context : Context υ} (hp : p.Careful context) {fuel : Nat} {tree : Tree} {final : Run υ}
    (h : p.parse fuel context = (.tree tree, final)) :
    (∃ last, p.Leads (.start p context) last ∧ final.context.feed = last.context.feed) ∧
      tree.Whole g ∧ tree.leaves = final.context.feed.input := by
  obtain ⟨last, left, hl, hs, hf⟩ := tree_of_loop h
  obtain ⟨γ, hst⟩ := stacked_of_leads ht hl
  obtain ⟨hc, hy⟩ := yield_of_leads hp hl
  rcases left_of_step hs with ⟨hlt, -⟩ | ⟨-, q, below, hq, ha, rfl⟩
  · omega
  · cases hf with
    | tree _ _ hn he _ hfeed =>
      have hn : last.context.nodes = [tree] := hn
      have he : last.context.feed.cursor = last.context.feed.input.length := he
      have hfeed : final.context.feed = last.context.feed := hfeed
      rw [hq, hn] at hst
      obtain ⟨-, -, k, children, hnode⟩ := hst.accept ht ha
      refine ⟨⟨last, hl, hfeed⟩,
        ⟨hst.derived tree List.mem_cons_self, k, children, (List.cons.inj hnode).1⟩, ?_⟩
      rw [hn, he, List.take_length] at hy
      rw [hfeed, ← hy]
      simp [Tree.leavesOfAll]
    | late _ _ _ _ hlt =>
      have hlt : last.context.feed.input.length < last.context.feed.cursor := hlt
      omega

/-- Soundness: a tree that is returned is a derivation tree over the input. -/
theorem whole_of_parse (ht : Table.ofGrammar g = .ok t) {fuel : Nat} {ts : List Token}
    {tree : Tree} (h : t.parseTokens fuel ts = .tree tree) :
    tree.Whole g ∧ tree.leaves = ts := by
  have h : t.parser.parse fuel (.ofInput ts ()) = (.tree tree, _) := Prod.ext h rfl
  have hp := parser_quiet t (.ofInput ts ())
  obtain ⟨⟨last, hl, hf⟩, hw, hy⟩ := whole_of_careful ht hp.careful h
  rw [hf, hp.input_eq hl] at hy
  exact ⟨hw, hy⟩

/-- Over the leaves of a derivation tree of the start expression the driver comes to accept it. -/
theorem accepts_of_whole (ht : Table.ofGrammar g = .ok t) {tree : Tree} (h : tree.Whole g) :
    ∃ run q below, t.parser.Leads (.start t.parser (.ofInput tree.leaves ())) run ∧
      run.context.states = q :: below ∧
      t.action? q run.context.feed.lookaheadName = some .accept ∧ run.context.nodes = [tree] ∧
      run.context.feed.cursor = run.context.feed.input.length := by
  obtain ⟨hd, k, children, rfl⟩ := h
  have hnext : g.augmented.next? ⟨acceptRule, 0, Symbol.endId⟩ =
      some (.nonterminal startSymbol) := next?_eq_some_iff.2 ⟨_, g.rules_zero, rfl⟩
  have hrem : g.augmented.remaining (Item.advance ⟨acceptRule, 0, Symbol.endId⟩) = [] := by
    simp only [AugmentedGrammar.remaining, Item.advance, g.rules_zero]
    rfl
  have hs := stands_start ht (Tree.node g.start k children).leaves
  rw [← List.append_nil (Tree.node g.start k children).leaves] at hs
  obtain ⟨after, hl, hafter⟩ := read_tree ht hd hs .start hnext rfl g.symbolName_endId.symm
    (by rw [hrem]; exact .terminal)
  rw [List.append_nil] at hl
  obtain ⟨-, hln⟩ := lookahead_of_stands hafter
  obtain ⟨hst, hnodes, hrest, hc⟩ := hafter
  obtain ⟨q, below, hq, hreads⟩ := hst.reads
  have ha : t.action? q endName = some .accept :=
    (Table.action?_iff ht hreads).2
      (.inr ⟨_, .advance .start hnext, _, g.rules_zero, le_rfl, g.symbolName_endId, rfl⟩)
  have hcursor : after.context.feed.cursor = after.context.feed.input.length :=
    Nat.le_antisymm hc (List.drop_eq_nil_iff.1 hrest)
  exact ⟨after, q, below, hl, hq, hln ▸ ha, hnodes, hcursor⟩

/-- A derivation tree of the start expression is returned for its leaves. -/
theorem parse_of_whole (ht : Table.ofGrammar g = .ok t) {tree : Tree} (h : tree.Whole g) :
    ∃ fuel, t.parseTokens fuel tree.leaves = .tree tree := by
  obtain ⟨run, q, below, hl, hq, ha, hnodes, hc⟩ := accepts_of_whole ht h
  obtain ⟨n, hn⟩ := loop_of_leads hl
  refine ⟨n + 1, ?_⟩
  rw [parseTokens_eq, hn 1]
  exact loop_of_accept hc hq ha hnodes 0

private theorem parse_unique {ts : List Token} {fuel more : Nat} {tree other : Tree}
    (h : t.parseTokens fuel ts = .tree tree) (h' : t.parseTokens more ts = .tree other) :
    tree = other := by
  rw [parseTokens_eq] at h h'
  have hu := loop_unique (by rw [h]; simp) (by rw [h']; simp)
  rw [hu, h'] at h
  cases h
  rfl

/-- A grammar with a table has at most one derivation tree over given tokens. -/
theorem whole_unique (ht : Table.ofGrammar g = .ok t) {tree other : Tree} (h : tree.Whole g)
    (h' : other.Whole g) (hl : other.leaves = tree.leaves) : tree = other := by
  obtain ⟨fuel, hf⟩ := parse_of_whole ht h
  obtain ⟨more, hm⟩ := parse_of_whole ht h'
  rw [hl] at hm
  exact parse_unique hf hm

/-- Over the table of a grammar the driver returns a tree for some tokens if and only if it is a
derivation tree of the start expression with these leaves. In particular a grammar with two
derivation trees over one sequence of token names has no table. -/
theorem parse_iff_whole (g : Grammar α) :
    (∀ t, Table.ofGrammar g = .ok t → ∀ ts tree,
      (∃ fuel, t.parseTokens fuel ts = .tree tree) ↔ tree.Whole g ∧ tree.leaves = ts) ∧
    ∀ tree other : Tree, tree.Whole g → other.Whole g →
      tree.leaves.map (·.name) = other.leaves.map (·.name) → tree.bare ≠ other.bare →
      ∃ conflict, Table.ofGrammar g = .error conflict := by
  refine ⟨fun t ht ts tree => ⟨fun ⟨fuel, h⟩ => whole_of_parse ht h, ?_⟩, ?_⟩
  · rintro ⟨hw, rfl⟩
    exact parse_of_whole ht hw
  · intro tree other htree hother hnames hne
    cases ht : Table.ofGrammar g with
    | error conflict => exact ⟨conflict, rfl⟩
    | ok t =>
      obtain ⟨fuel, h⟩ := parse_of_whole ht htree.bare
      obtain ⟨more, h'⟩ := parse_of_whole ht hother.bare
      have hleaves : other.bare.leaves = tree.bare.leaves := by
        have := congrArg (List.map fun name => Token.synthetic name .zero) hnames
        rw [List.map_map, List.map_map] at this
        rw [Tree.leaves_bare, Tree.leaves_bare]
        exact this.symm
      rw [hleaves] at h'
      exact absurd (parse_unique h h') hne

def pairTree (a b : Token) : Tree := .node "S" 0 [.node "A" 0 [.leaf a], .leaf b]

/-- The trees of `pairGrammar` over two tokens are derivation trees. -/
theorem pairTree_derived {a b : Token} (ha : a.name = "a") (hb : b.name = "b") :
    (Tree.node "A" 0 [.leaf a]).Derived pairGrammar ∧ (pairTree a b).Derived pairGrammar := by
  have hleaf : (Tree.leaf a).Derived pairGrammar := .leaf (by rw [ha]; rfl)
  have hnode : (Tree.node "A" 0 [.leaf a]).Derived pairGrammar :=
    .node rfl rfl (by simp [Tree.name, ha]) (by simpa using hleaf)
  have hlast : (Tree.leaf b).Derived pairGrammar := .leaf (by rw [hb]; rfl)
  exact ⟨hnode, .node rfl rfl (by simp [Tree.name, hb]) (by simpa using ⟨hnode, hlast⟩)⟩

/-- `S : A | B ; A : x ; B : x ;` -/
def twinGrammar : Grammar Unit where
  definitions := [⟨"S", [⟨["A"], none⟩, ⟨["B"], none⟩]⟩, ⟨"A", [⟨["x"], none⟩]⟩,
    ⟨"B", [⟨["x"], none⟩]⟩]
  distinct := by decide
  unrepeated := by decide
  augmented := ⟨["$", "x"], ["$start", "S", "A", "B"],
    [⟨0, [.nonterminal 1], 0⟩, ⟨1, [.nonterminal 2], 0⟩, ⟨1, [.nonterminal 3], 1⟩,
      ⟨2, [.terminal 1], 0⟩, ⟨3, [.terminal 1], 0⟩]⟩
  augmented_eq := by decide +kernel

/-- A sentence that is parsed, and an ambiguous grammar that has no table. -/
theorem parse_iff_whole_samples :
    (∃ fuel, pairTable.parseTokens fuel [⟨"a", "a", .zero⟩, ⟨"b", "b", .zero⟩] =
      .tree (pairTree ⟨"a", "a", .zero⟩ ⟨"b", "b", .zero⟩)) ∧
    ∃ conflict, Table.ofGrammar twinGrammar = .error conflict := by
  have hleaf : (Tree.leaf ⟨"x", "x", .zero⟩).Derived twinGrammar := .leaf rfl
  have htwin : (Tree.node "A" 0 [.leaf ⟨"x", "x", .zero⟩]).Derived twinGrammar ∧
      (Tree.node "B" 0 [.leaf ⟨"x", "x", .zero⟩]).Derived twinGrammar :=
    ⟨.node rfl rfl rfl (by simpa using hleaf), .node rfl rfl rfl (by simpa using hleaf)⟩
  refine ⟨((parse_iff_whole pairGrammar).1 pairTable rfl _ _).2
    ⟨⟨(pairTree_derived rfl rfl).2, 0, _, rfl⟩, rfl⟩,
    (parse_iff_whole twinGrammar).2 (.node "S" 0 [.node "A" 0 [.leaf ⟨"x", "x", .zero⟩]])
      (.node "S" 1 [.node "B" 0 [.leaf ⟨"x", "x", .zero⟩]]) ⟨?_, 0, _, rfl⟩ ⟨?_, 1, _, rfl⟩ rfl ?_⟩
  · exact .node rfl rfl rfl (by simpa using htwin.1)
  · exact .node rfl rfl rfl (by simpa using htwin.2)
  · simp [Tree.bare]

end Parser

end CanonicalLR
