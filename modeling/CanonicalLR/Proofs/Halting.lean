import Mathlib.Data.Set.Finite.Lattice
import CanonicalLR.Proofs.Parsing

/-! When the driver halts: it goes through the stacks that can be followed by what comes next in the
input, one after the other, and halts if there are finitely many of them. -/
namespace CanonicalLR

open AugmentedGrammar

namespace AugmentedGrammar

variable {g : AugmentedGrammar}

/-- A terminal of this number can come where the item is valid. -/
def Awaits (g : AugmentedGrammar) (i : Item) (b : Nat) : Prop :=
  g.Begins (g.remaining i ++ [.terminal i.lookahead]) (some b)

private theorem Predicts.awaits {i j : Item} (h : g.Predicts i j) {b : Nat} (hb : g.Awaits j b) :
    g.Awaits i b := by
  obtain ⟨rest, rule, hr, hrem, hm, hl⟩ := h
  have hright : g.remaining j = rule.right := remaining_eq_right hr hm
  have hmem := List.mem_of_getElem? hr
  unfold Awaits at hb ⊢
  rw [hright, begins_append_terminal] at hb
  rw [hrem]
  rcases hb with hb | ⟨he, rfl⟩
  · exact .inside hmem hb
  · exact .past hmem he hl

private theorem Valid.awaits {s : Symbol} {γ : List Symbol} {i : Item}
    (h : g.Valid (s :: γ) i) {b : Nat} (hb : g.Awaits i b) :
    ∃ j, g.Valid γ j ∧ g.next? j = some s ∧ g.Awaits j.advance b := by
  generalize hδ : s :: γ = δ at h
  induction h with
  | start => cases hδ
  | predict _ hp ih => exact ih (hp.awaits hb) hδ
  | advance hv hs =>
    cases hδ
    exact ⟨_, hv, hs, hb⟩

end AugmentedGrammar

namespace Grammar

variable {α : Type} {g : Grammar α}

private theorem known_of_awaits {γ : List Symbol} {i : Item} (hv : g.augmented.Valid γ i) {b : Nat}
    (hb : g.augmented.Awaits i b) : g.augmented.Known (.terminal b) := by
  refine FirstSets.begins_known g.closed hb (fun s hs => ?_) rfl
  rcases List.mem_append.1 hs with hs | hs
  · exact known_of_mem_remaining g.closed hs
  · obtain ⟨-, -, -, hk⟩ := g.fits_of_valid hv
    exact List.mem_singleton.1 hs ▸ hk

/-- Derivation trees, from left to right, that a token of this name can follow: it is awaited by an
item that is valid behind their symbols. -/
def Followed (g : Grammar α) (forest : List Tree) (name : String) : Prop :=
  (∀ tree ∈ forest, tree.Derived g) ∧ ∃ γ i b,
    forest.map Tree.name = γ.reverse.map g.augmented.symbolName ∧ g.augmented.Valid γ i ∧
    g.augmented.Awaits i b ∧ g.augmented.symbolName (.terminal b) = name

/-- Derivation trees whose leaves are the first of some tokens, and that the next of these tokens
can follow. -/
def Viable (g : Grammar α) (ts : List Token) (forest : List Tree) : Prop :=
  ∃ rest, Tree.leavesOfAll forest ++ rest = ts ∧ g.Followed forest (Tree.firstName rest)

/-- What a valid item still expects is reachable. -/
theorem used_of_mem_remaining {γ : List Symbol} {i : Item} (hv : g.augmented.Valid γ i) {s : Symbol}
    (hs : s ∈ g.augmented.remaining i) : g.Used s := by
  induction hv generalizing s with
  | start =>
    rw [remaining_eq_right g.rules_zero rfl] at hs
    rw [List.mem_singleton.1 hs]
    exact ⟨g.startSymbol_proper, .start⟩
  | predict _ hp ih =>
    obtain ⟨β, rule, hr, hrem, hm, -⟩ := hp
    rw [remaining_eq_right hr hm] at hs
    apply used_of_mem_right (List.mem_of_getElem? hr) (ih ?_) hs
    rw [hrem]
    exact List.mem_cons_self
  | advance _ hn ih =>
    apply ih
    rw [remaining_of_next? hn]
    exact List.mem_cons_of_mem _ hs

/-- Trees for what an item has read and for what it expects can be made part of a derivation tree of
the start expression. -/
theorem Fertile.exists_whole (hg : g.Fertile) {γ : List Symbol} {i : Item}
    (hv : g.augmented.Valid γ i) {forest trees : List Tree}
    (hf : ∀ tree ∈ forest, tree.Derived g)
    (hfn : forest.map Tree.name = γ.reverse.map g.augmented.symbolName)
    (ht : ∀ tree ∈ trees, tree.Derived g)
    (htn : trees.map Tree.name = (g.augmented.remaining i).map g.augmented.symbolName) :
    ∃ (tree : Tree) (rest : List Token), tree.Whole g ∧
      tree.leaves = Tree.leavesOfAll forest ++ (Tree.leavesOfAll trees ++ rest) ∧
      Tree.firstName rest = g.augmented.symbolName (.terminal i.lookahead) := by
  induction hv generalizing forest trees with
  | start =>
    have hrem : g.augmented.remaining ⟨acceptRule, 0, Symbol.endId⟩ =
        [.nonterminal startSymbol] := by
      rw [remaining_eq_right g.rules_zero rfl]
    obtain rfl : forest = [] := by simpa using hfn
    rw [hrem] at htn
    obtain ⟨tree, rfl, hn⟩ := List.map_eq_singleton_iff.1 htn
    have hd := ht tree List.mem_cons_self
    refine ⟨tree, [], ⟨hd, eq_node_of_derived hd g.startSymbol_proper hn⟩, ?_,
      g.symbolName_endId.symm⟩
    simp [Tree.leavesOfAll]
  | @predict γ i j hi hp ih =>
    obtain ⟨β, rule, hr, hrem, hm, hb⟩ := hp
    have hright : g.augmented.remaining j = rule.right := remaining_eq_right hr hm
    have hused : ∀ s ∈ Symbol.nonterminal rule.left :: β, g.Used s :=
      fun s hs => used_of_mem_remaining hi (hrem ▸ hs)
    have hnode := derived_of_rule (List.mem_of_getElem? hr) (hused _ List.mem_cons_self).1 ht
      (hright ▸ htn)
    obtain ⟨more, hmore, hmn, hfirst⟩ :=
      hg.exists_forest_of_due hb fun s hs => hused s (List.mem_cons_of_mem _ hs)
    have hall := List.forall_mem_cons.2 ⟨hnode, hmore⟩
    obtain ⟨tree, rest, hw, hl, hrest⟩ := ih hf hfn hall
      (by rw [hrem, List.map_cons, List.map_cons, hmn]; rfl)
    refine ⟨tree, Tree.leavesOfAll more ++ rest, hw, ?_, hfirst rest hrest⟩
    rw [hl, Tree.leavesOfAll, Tree.leaves, List.append_assoc]
  | @advance γ i s hi hs ih =>
    rw [List.reverse_cons, List.map_append] at hfn
    obtain ⟨front, last, rfl, hfront, hlast⟩ := List.map_eq_append_iff.1 hfn
    obtain ⟨tree, rfl, hn⟩ := List.map_eq_singleton_iff.1 hlast
    have hall := List.forall_mem_cons.2 ⟨hf tree (by simp), ht⟩
    obtain ⟨whole, rest, hw, hl, hrest⟩ := ih (fun u hu => hf u (by simp [hu])) hfront hall
      (by rw [remaining_of_next? hs, List.map_cons, List.map_cons, hn, htn])
    refine ⟨whole, rest, hw, ?_, hrest⟩
    rw [hl, Tree.leavesOfAll, Tree.leavesOfAll_append, Tree.leavesOfAll, Tree.leavesOfAll]
    simp only [List.append_assoc, List.nil_append]

/-- What can follow trees comes next in an input that the trees begin and that is derived. -/
theorem Fertile.exists_whole_of_followed (hg : g.Fertile) {forest : List Tree} {name : String}
    (h : g.Followed forest name) :
    ∃ (tree : Tree) (rest : List Token), tree.Whole g ∧
      tree.leaves = Tree.leavesOfAll forest ++ rest ∧ Tree.firstName rest = name := by
  obtain ⟨hd, γ, i, b, hn, hv, hb, rfl⟩ := h
  obtain ⟨trees, ht, htn, hfirst⟩ :=
    hg.exists_forest_of_due hb fun s hs => used_of_mem_remaining hv hs
  obtain ⟨tree, rest, hw, hl, hrest⟩ := hg.exists_whole hv hd hn ht htn
  exact ⟨tree, Tree.leavesOfAll trees ++ rest, hw, hl, hfirst rest hrest⟩

end Grammar

namespace Tree

mutual

def count : Tree → Nat
  | leaf _ => 1
  | node _ _ children => countAll children + 1

def countAll : List Tree → Nat
  | [] => 0
  | t :: ts => t.count + countAll ts

end

theorem countAll_append (ts us : List Tree) :
    countAll (ts ++ us) = countAll ts + countAll us := by
  induction ts with
  | nil => rw [countAll, Nat.zero_add, List.nil_append]
  | cons t ts ih => rw [List.cons_append, countAll, countAll, ih, Nat.add_assoc]

/-- Folding the last trees of a stack into one node adds the node. -/
theorem countAll_fold (name : String) (k len : Nat) (nodes : List Tree) :
    countAll (node name k (nodes.take len).reverse :: nodes.drop len).reverse =
      countAll nodes.reverse + 1 := by
  rw [List.reverse_cons, countAll_append, countAll, count, countAll, Nat.add_zero, ← Nat.add_assoc,
    ← countAll_append, ← List.reverse_append, List.take_append_drop]

end Tree

namespace Parser

/-- A run that ended has come to finitely many others. -/
private theorem finite_of_loop {υ : Type} {p : Parser υ} {fuel : Nat} {run : Run υ}
    (h : (p.loop fuel run).1 ≠ .cutShort) : {after | p.Leads run after}.Finite := by
  induction fuel generalizing run with
  | zero => exact absurd rfl h
  | succ fuel ih =>
    have hsub : {after | p.Leads run after} ⊆
        insert run {after | ∃ mid, p.step run = .next mid ∧ p.Leads mid after} := fun after hl => by
      rcases Relation.ReflTransGen.cases_head hl with he | hl
      · exact .inl he.symm
      · exact .inr hl
    refine Set.Finite.subset (Set.Finite.insert run ?_) hsub
    unfold loop at h
    cases hs : p.step run with
    | next mid =>
      rw [hs] at h
      refine (ih h).subset ?_
      rintro after ⟨_, hs', hl⟩
      cases hs'
      exact hl
    | left left => simp
    | failed e failed => simp

variable {α : Type} {g : Grammar α} {t : Table}

private theorem awaits_tree {tree : Tree} (hd : tree.Derived g) {i : Item} {s : Symbol} {b : Nat}
    (hs : g.augmented.next? i = some s) (hn : tree.name = g.augmented.symbolName s)
    (hk : g.augmented.Known (.terminal b)) (hb : g.augmented.Awaits i.advance b)
    {rest : List Token} (hr : Tree.firstName rest = g.augmented.symbolName (.terminal b)) :
    ∃ c, g.augmented.Awaits i c ∧
      g.augmented.symbolName (.terminal c) = Tree.firstName (tree.leaves ++ rest) := by
  have hp := Grammar.proper_of_next? hs
  have hd' : ∀ u ∈ [tree], u.Derived g := by simpa using hd
  have hp' : ∀ r ∈ [s], g.augmented.Proper r := by simpa using hp
  obtain ⟨c, -, hc, hbegins⟩ := Tree.begins_of_forest hd' hp' (by simpa using hn) hk hr
  rw [Tree.leavesOfAll, Tree.leavesOfAll, List.append_nil] at hc
  refine ⟨c, ?_, hc.symm⟩
  unfold Awaits
  rw [remaining_of_next? hs]
  rcases begins_append_terminal.1 hbegins with hin | ⟨he, rfl⟩
  · exact hin.append_left _
  · exact he.append hb

/-- The driver comes to stand on all that its input can follow. -/
private theorem visits_of_followed (ht : Table.ofGrammar g = .ok t) {ts rest : List Token}
    {forest : List Tree} (hd : ∀ tree ∈ forest, tree.Derived g) {γ : List Symbol} {i : Item} {b : Nat}
    (hn : forest.map Tree.name = γ.reverse.map g.augmented.symbolName)
    (hv : g.augmented.Valid γ i) (hb : g.augmented.Awaits i b)
    (hr : g.augmented.symbolName (.terminal b) = Tree.firstName rest)
    (hts : Tree.leavesOfAll forest ++ rest = ts) :
    ∃ run, t.parser.Leads (.start t.parser (.ofInput ts ())) run ∧
      g.Stands run γ forest.reverse rest := by
  induction forest using List.reverseRecOn generalizing γ i b rest with
  | nil =>
    have hγ : γ = [] := by simpa using hn
    subst hγ hts
    exact ⟨_, .refl, stands_start ht _⟩
  | append_singleton forest tree ih =>
    cases γ with
    | nil => simp at hn
    | cons s γ =>
      rw [List.map_append, List.reverse_cons, List.map_append] at hn
      obtain ⟨hn, hname⟩ := List.append_inj' hn rfl
      have hname : tree.name = g.augmented.symbolName s := by simpa using hname
      have htree := hd tree (by simp)
      obtain ⟨j, hj, hs, hbj⟩ := hv.awaits hb
      obtain ⟨c, hc, hcn⟩ := awaits_tree htree hs hname (Grammar.known_of_awaits hv hb) hbj hr.symm
      rw [Tree.leavesOfAll_append, Tree.leavesOfAll, Tree.leavesOfAll, List.append_nil,
        List.append_assoc] at hts
      obtain ⟨run, hl, hstands⟩ := ih (fun u hu => hd u (by simp [hu])) hn hj hc hcn hts
      obtain ⟨after, hl', hafter⟩ := read_tree ht htree hstands hj hs hname hr.symm hbj
      rw [List.reverse_append]
      exact ⟨after, hl.trans hl', hafter⟩

/-- An action is only taken on a token that can follow the stack. -/
theorem followed_of_action (ht : Table.ofGrammar g = .ok t) {γ : List Symbol} {q : Nat}
    {below : List Nat} {nodes : List Tree} (hs : g.Stacked γ (q :: below) nodes) {name : String}
    {act : Action} (ha : t.action? q name = some act) : g.Followed nodes.reverse name := by
  refine ⟨fun tree hm => hs.derived tree (List.mem_reverse.1 hm), γ, ?_⟩
  have hnames : nodes.reverse.map Tree.name = γ.reverse.map g.augmented.symbolName := by
    rw [List.map_reverse, List.map_reverse, hs.names]
  obtain ⟨_, _, he, hq⟩ := hs.reads
  cases he
  rcases (Table.action?_iff ht hq).1 ha with ⟨x, r, hr, hx, -⟩ | ⟨i, hv, rule, hr, hm, hl, -⟩
  · obtain ⟨state, hst, -, hedge⟩ := g.state_of_reads hq
    obtain ⟨i, hv, hn⟩ := (hedge (.terminal x)).1 ⟨r, (hq.edge_iff hst).1 hr⟩
    refine ⟨i, x, hnames, hv, ?_, hx⟩
    rw [Awaits, remaining_of_next? hn]
    exact .terminal
  · refine ⟨i, i.lookahead, hnames, hv, ?_, hl⟩
    have hrem : g.augmented.remaining i = [] := (remaining_eq_nil_iff hr).2 hm
    rw [Awaits, hrem]
    exact .terminal

private theorem viable_of_step (ht : Table.ofGrammar g = .ok t) {ts : List Token}
    {run after : Run Unit} (hl : t.parser.Leads (.start t.parser (.ofInput ts ())) run)
    (hs : t.parser.step run = .next after) : g.Viable ts run.context.nodes.reverse := by
  obtain ⟨γ, rest, hstands, hts⟩ := stands_of_leads ht hl
  obtain ⟨hlook, hname⟩ := lookahead_of_stands hstands
  refine ⟨rest, hts, ?_⟩
  obtain ⟨-, q, below, hq, hm⟩ := moved_of_step hs
  have hst := hstands.stacked
  rw [hq] at hst
  cases hm with
  | shift token next ha htok =>
    have hn : token.name = Tree.firstName rest := by
      rw [← hname, Feed.lookaheadName, htok]
    exact followed_of_action ht hst (hn ▸ ha)
  | reduce expression k len exposed next rest' ha => exact followed_of_action ht hst (hname ▸ ha)
  | recover hb => exact absurd rfl hb

private theorem count_of_leads {ts : List Token} {run : Run Unit}
    (h : t.parser.Leads (.start t.parser (.ofInput ts ())) run) :
    Tree.countAll run.context.nodes.reverse = run.events.length := by
  induction h with
  | refl => rfl
  | tail _ hs ih =>
    rw [length_events_of_step hs, ← ih]
    obtain ⟨-, q, below, -, hm⟩ := moved_of_step hs
    cases hm with
    | shift token next _ _ he =>
      rw [he, List.reverse_cons, Tree.countAll_append]
      rfl
    | reduce expression k len exposed next rest _ _ _ _ hn =>
      rw [hn, Tree.countAll_fold]
    | recover hb => exact absurd rfl hb

private theorem halts_iff (ht : Table.ofGrammar g = .ok t) (ts : List Token) :
    (∃ fuel, t.parseTokens fuel ts ≠ .cutShort) ↔ {forest | g.Viable ts forest}.Finite := by
  constructor
  · rintro ⟨fuel, hf⟩
    refine ((finite_of_loop hf).image fun run => run.context.nodes.reverse).subset ?_
    rintro forest ⟨rest, hts, hd, γ, i, b, hn, hv, hb, hr⟩
    obtain ⟨run, hl, hstands⟩ := visits_of_followed ht hd hn hv hb hr hts
    exact ⟨run, hl, by simp [hstands.nodes_eq]⟩
  · intro hfin
    obtain ⟨bound, hbound⟩ := (hfin.image Tree.countAll).bddAbove
    refine ⟨bound + 2, fun hcut => ?_⟩
    obtain ⟨after, hl, he⟩ := leads_of_cutShort (p := t.parser) hcut
    rcases Relation.ReflTransGen.cases_tail hl with rfl | ⟨run, hl, hs⟩
    · simp at he
    · have hle := hbound (Set.mem_image_of_mem _ (viable_of_step ht hl hs))
      rw [count_of_leads hl] at hle
      have := length_events_of_step hs
      simp only [Run.start, List.length_nil] at he
      omega

/-- If every reachable expression derives some tokens, what follows some trees is also followed up,
and the run on that input goes through all the stacks that have the same leaves and can be followed
in the same way. -/
theorem finite_followed (ht : Table.ofGrammar g = .ok t) (hg : g.Fertile) (leaves : List Token)
    (name : String) :
    {forest | Tree.leavesOfAll forest = leaves ∧ g.Followed forest name}.Finite := by
  rcases Set.eq_empty_or_nonempty
    {forest | Tree.leavesOfAll forest = leaves ∧ g.Followed forest name} with he | hne
  · rw [he]
    exact Set.finite_empty
  · obtain ⟨first, rfl, hfollow⟩ := hne
    obtain ⟨tree, more, hw, hl, hfirst⟩ := hg.exists_whole_of_followed hfollow
    obtain ⟨fuel, hf⟩ := parse_of_whole ht hw
    have hfin := (halts_iff ht tree.leaves).1 ⟨fuel, by rw [hf]; simp⟩
    refine hfin.subset ?_
    rintro forest ⟨hleaves, hfollow'⟩
    exact ⟨more, by rw [hl, hleaves], hfirst ▸ hfollow'⟩

private theorem finite_viable (ht : Table.ofGrammar g = .ok t) (hg : g.Fertile)
    (ts : List Token) : {forest | g.Viable ts forest}.Finite := by
  have hone : ∀ n, {forest | Tree.leavesOfAll forest = ts.take n ∧
      g.Followed forest (Tree.firstName (ts.drop n))}.Finite :=
    fun n => finite_followed ht hg _ _
  refine ((Set.finite_le_nat ts.length).biUnion fun n _ => hone n).subset ?_
  rintro forest ⟨rest, rfl, hfollow⟩
  refine Set.mem_biUnion (x := (Tree.leavesOfAll forest).length) (by simp) ⟨?_, ?_⟩
  · rw [List.take_left]
  · rwa [List.drop_left]

/-- Over the table of a grammar the driver halts on some tokens if and only if finitely many lists of
derivation trees have the first of the tokens for leaves and can be followed by the next. If every
expression that is reachable from the start derives some tokens, it halts on all inputs. -/
theorem parse_halts_iff (ht : Table.ofGrammar g = .ok t) :
    (∀ ts, (∃ fuel, t.parseTokens fuel ts ≠ .cutShort) ↔ {forest | g.Viable ts forest}.Finite) ∧
    (g.Fertile → ∀ ts, ∃ fuel, t.parseTokens fuel ts ≠ .cutShort) :=
  ⟨halts_iff ht, fun hg ts => (halts_iff ht ts).2 (finite_viable ht hg ts)⟩

/-- Both expressions of `pairGrammar` derive some tokens. -/
theorem pairGrammar_fertile : pairGrammar.Fertile := by
  obtain ⟨ha, hs⟩ := pairTree_derived (a := ⟨"a", "a", .zero⟩) (b := ⟨"b", "b", .zero⟩) rfl rfl
  intro d hd _
  have hd : d ∈ [⟨"S", [⟨["A", "b"], none⟩]⟩, ⟨"A", [⟨["a"], none⟩]⟩] := hd
  rcases List.mem_pair.1 hd with rfl | rfl
  · exact ⟨_, hs, rfl⟩
  · exact ⟨_, ha, rfl⟩

/-- The driver halts also on tokens that are no sentence. -/
theorem parse_halts_iff_pair : Table.ofGrammar pairGrammar = .ok pairTable ∧
    pairGrammar.Fertile ∧
    ∃ fuel, pairTable.parseTokens fuel [⟨"b", "b", .zero⟩] ≠ .cutShort :=
  ⟨rfl, pairGrammar_fertile, (parse_halts_iff (g := pairGrammar) rfl).2 pairGrammar_fertile _⟩

/-- `S : A B N ; A : A | ; B : t ;` where `N` has no alternatives. -/
def loopGrammar : Grammar Unit where
  definitions := [⟨"S", [⟨["A", "B", "N"], none⟩]⟩, ⟨"A", [⟨["A"], none⟩, ⟨[], none⟩]⟩,
    ⟨"B", [⟨["t"], none⟩]⟩, ⟨"N", []⟩]
  distinct := by decide
  unrepeated := by decide
  augmented := ⟨["$", "t"], ["$start", "S", "A", "B", "N"],
    [⟨0, [.nonterminal 1], 0⟩, ⟨1, [.nonterminal 2, .nonterminal 3, .nonterminal 4], 0⟩,
      ⟨2, [.nonterminal 2], 0⟩, ⟨2, [], 1⟩, ⟨3, [.terminal 1], 0⟩]⟩
  augmented_eq := by decide +kernel

def loopTable : Table := loopGrammar.tableOrEmpty

/-- In front of `t` an `A` is reduced to an `A` for ever. The shift of `t` that would be in conflict
with it is missing, since nothing can come behind a `B`. -/
private theorem loop_reduces (fuel : Nat) {run : Run Unit}
    (hf : run.context.feed = ⟨[⟨"t", "t", .zero⟩], 0, ()⟩) (hs : run.context.states = [2, 0])
    (hn : 1 ≤ run.context.nodes.length) : (loopTable.parser.loop fuel run).1 = .cutShort := by
  induction fuel generalizing run with
  | zero => rfl
  | succ fuel ih =>
    have ha : loopTable.action? 2 "t" = some (.reduce "A" 0 1) := by decide +kernel
    have hg : loopTable.goto? 0 "A" = some 2 := by decide +kernel
    have hstep := step_of_reduce (p := loopTable.parser) (by rw [hf]; decide) hs
      (by rw [hf]; exact ha) rfl hn hg rfl
    rw [loop, hstep]
    exact ih hf rfl (Nat.le_add_left _ _)

/-- The table of `loopGrammar` has no conflict, and the driver does not halt on one token. -/
theorem parse_diverges : Table.ofGrammar loopGrammar = .ok loopTable ∧
    ∀ fuel, loopTable.parseTokens fuel [⟨"t", "t", .zero⟩] = .cutShort := by
  refine ⟨rfl, fun fuel => ?_⟩
  cases fuel with
  | zero => rfl
  | succ fuel => exact loop_reduces fuel rfl rfl (Nat.le_refl 1)

end Parser

end CanonicalLR
