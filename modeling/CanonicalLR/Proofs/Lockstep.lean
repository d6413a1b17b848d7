import CanonicalLR.Proofs.Parsing

/-! Runs in lockstep: two runs over one table take the same steps as long as they see tokens of the
same names. -/
namespace CanonicalLR

/-- Two runs stand on the same states and have read equally many tokens. -/
structure Run.Alike {υ ω : Type} (run : Run υ) (twin : Run ω) : Prop where
  states : twin.context.states = run.context.states
  nodes : twin.context.nodes.length = run.context.nodes.length
  cursor : twin.context.feed.cursor = run.context.feed.cursor

/-- Where names have the same beginning, the same name comes first. -/
theorem Tree.firstName_drop_eq {ts us : List Token} {i : Nat} {more : List String}
    (hi : i ≤ ts.length) (h : us.map (·.name) = (ts.take i).map (·.name) ++ more) :
    (∀ c < i, firstName (us.drop c) = firstName (ts.drop c)) ∧
      firstName (us.drop i) = more.headD endName := by
  have hlen : ((ts.take i).map (·.name)).length = i := by
    rw [List.length_map, List.length_take_of_le hi]
  constructor
  · intro c hc
    rw [firstName_drop, firstName_drop, h, List.getElem?_append_left (hlen.symm ▸ hc),
      List.map_take, List.getElem?_take_of_lt hc]
  · rw [firstName_drop, h, List.getElem?_append_right hlen.le, hlen, Nat.sub_self]
    cases more <;> rfl

namespace Parser

variable {α υ ω : Type} {g : Grammar α} {p : Parser υ} {o : Parser ω} {context : Context υ}
  {other : Context ω}

/-- If nothing edits the input, the lookahead is read off the input at the start. -/
theorem Quiet.lookaheadName_eq (hp : p.Quiet context) {run : Run υ}
    (hl : p.Leads (.start p context) run) : run.context.feed.lookaheadName =
      Tree.firstName (context.feed.input.drop run.context.feed.cursor) := by
  rw [Feed.lookaheadName_eq, hp.input_eq hl]

/-- On a lookahead of the same name the twin takes the same step. -/
theorem alike_step (h : Table.ofGrammar g = .ok p.table) (ht : o.table = p.table)
    (hp : p.Quiet context) (ho : o.Quiet other) {run after : Run υ} {twin : Run ω}
    (hl : p.Leads (.start p context) run) (hl' : o.Leads (.start o other) twin)
    (ha : run.Alike twin)
    (hn : twin.context.feed.lookaheadName = run.context.feed.lookaheadName)
    (hs : p.step run = .next after) : ∃ next, o.step twin = .next next ∧ after.Alike next := by
  obtain ⟨hc, -⟩ := yield_of_leads ho.careful hl'
  obtain ⟨γ, hst⟩ := stacked_of_leads h hl
  obtain ⟨-, q, below, hq, hm⟩ := moved_of_step hs
  rw [hq] at hst
  have hq' : twin.context.states = q :: below := ha.states.trans hq
  cases hm with
  | shift token next hact hlook he =>
    have hname : run.context.feed.lookaheadName = token.name := by rw [Feed.lookaheadName, hlook]
    rw [hname] at hn
    -- A token of the name of the end would stand for the end of the other input.
    cases hlook' : twin.context.feed.lookahead? with
    | none =>
      have hend : endName = token.name := by rw [← hn, Feed.lookaheadName, hlook']
      exact absurd hend.symm (hst.shift_ne_end h hact)
    | some token' =>
      have hname' : token'.name = token.name := by rw [← hn, Feed.lookaheadName, hlook']
      have hact' : o.table.action? q token'.name = some (.shift next) := by rw [ht, hname', hact]
      refine ⟨_, step_of_shift hc hq' hlook' hact', ?_⟩
      subst he
      exact ⟨by rw [hq], congrArg Nat.succ ha.nodes, congrArg Nat.succ ha.cursor⟩
  | reduce expression k len exposed next rest hact hd hg hstates hnodes he =>
    obtain ⟨hle, -⟩ := hst.reduce h hact
    rw [hq] at hd
    rw [← hn, ← ht] at hact
    rw [← ht] at hg
    obtain ⟨feed, hstep, -⟩ := exists_step_of_reduce hc hq' hact hd (ha.nodes ▸ hle) hg
    refine ⟨_, hstep, hstates.symm, ?_, ?_⟩
    · rw [hnodes, List.length_cons, List.length_cons, List.length_drop, List.length_drop, ha.nodes]
    · rw [(hp.passive _ _ _ _ hl hs he).2, (ho.passive _ _ _ _ hl' hstep rfl).2, ha.cursor]
  | recover hn => exact absurd hp.hookless hn

/-- A run has a twin over every input that has the same names up to and with its lookahead. -/
theorem lockstep (h : Table.ofGrammar g = .ok p.table) (ht : o.table = p.table)
    (hp : p.Quiet context) (ho : o.Quiet other) {run : Run υ}
    (hl : p.Leads (.start p context) run)
    (hagree : ∀ c ≤ run.context.feed.cursor, Tree.firstName (other.feed.input.drop c) =
      Tree.firstName (context.feed.input.drop c)) :
    ∃ twin, o.Leads (.start o other) twin ∧ run.Alike twin := by
  induction hl with
  | refl => exact ⟨_, .refl, by rw [Run.start, Run.start, ht]; rfl, rfl, rfl⟩
  | @tail run after hl hs ih =>
    obtain ⟨-, hle⟩ := hp.step hl hs
    obtain ⟨twin, hl', ha⟩ := ih fun c hc => hagree c (hc.trans hle)
    have hn : twin.context.feed.lookaheadName = run.context.feed.lookaheadName := by
      rw [ho.lookaheadName_eq hl', hp.lookaheadName_eq hl, ha.cursor]
      exact hagree _ hle
    obtain ⟨next, hstep, hnext⟩ := alike_step h ht hp ho hl hl' ha hn hs
    exact ⟨next, hl'.tail hstep, hnext⟩

/-- Where a sentence is read and the end comes next, or a token of its name, the run accepts. -/
theorem accepts_of_sentence (h : Table.ofGrammar g = .ok p.table) (hp : p.Quiet context) {i : Nat}
    (hi : i ≤ context.feed.input.length)
    (hs : g.Sentence ((context.feed.input.take i).map (·.name)))
    (hend : Tree.firstName (context.feed.input.drop i) = endName) :
    ∃ run q below node, p.Leads (.start p context) run ∧ run.context.states = q :: below ∧
      p.table.action? q run.context.feed.lookaheadName = some .accept ∧
      run.context.nodes = [node] ∧ run.context.feed.cursor = i := by
  obtain ⟨tree, hw, hnames⟩ := hs
  have ho := parser_quiet p.table (.ofInput tree.leaves ())
  obtain ⟨run, q, below, hl, hq, ha, hnodes, hc⟩ := accepts_of_whole h hw
  have hcursor : run.context.feed.cursor = i := by
    have hlen := congrArg List.length hnames
    rw [List.length_map, List.length_map, List.length_take_of_le hi] at hlen
    rw [hc, ho.input_eq hl]
    exact hlen
  obtain ⟨hsame, hlast⟩ := Tree.firstName_drop_eq hi (hnames.trans (List.append_nil _).symm)
  have hagree : ∀ c ≤ run.context.feed.cursor, Tree.firstName (context.feed.input.drop c) =
      Tree.firstName (tree.leaves.drop c) := by
    intro c hle
    rw [hcursor] at hle
    rcases Nat.lt_or_eq_of_le hle with hlt | rfl
    · exact (hsame c hlt).symm
    · exact hend.trans hlast.symm
  obtain ⟨twin, htwin, halike⟩ := lockstep (p := p.table.parser) (o := p) h rfl ho hp hl hagree
  have hname : twin.context.feed.lookaheadName = run.context.feed.lookaheadName := by
    rw [hp.lookaheadName_eq htwin, ho.lookaheadName_eq hl, halike.cursor]
    exact hagree _ le_rfl
  obtain ⟨node, hnode⟩ : ∃ node, twin.context.nodes = [node] := by
    rw [← List.length_eq_one_iff, halike.nodes, hnodes]
    rfl
  exact ⟨twin, q, below, node, htwin, halike.states.trans hq, hname.symm ▸ ha, hnode,
    halike.cursor.trans hcursor⟩

private theorem action_of_whole {t : Table} (ht : Table.ofGrammar g = .ok t) {tree : Tree}
    (hw : tree.Whole g) {run : Run Unit}
    (hl : t.parser.Leads (.start t.parser (.ofInput tree.leaves ())) run) {q : Nat}
    {below : List Nat} (hq : run.context.states = q :: below) :
    t.action? q run.context.feed.lookaheadName ≠ none := by
  intro ha
  obtain ⟨fuel, hf⟩ := parse_of_whole ht hw
  rw [parseTokens_eq] at hf
  obtain ⟨hc, -⟩ := yield_of_leads (parser_quiet t _).careful hl
  have hstep := step_of_none (p := t.parser) rfl hc hq ha
  obtain ⟨n, hn⟩ := loop_of_leads hl
  have hfail : t.parser.loop 1 run = (.error (t.parser.badInput run.context.feed q), run) := by
    rw [loop, hstep]
  rw [← hn 1] at hfail
  have hu := loop_unique (by rw [hf]; simp) (by rw [hfail]; simp)
  rw [hu, hfail] at hf
  cases hf

/-- Where a run over a sentence stands on the same states, there is an action for its next name. -/
theorem action_of_twin {t : Table} (ht : Table.ofGrammar g = .ok t) {tree : Tree}
    (hw : tree.Whole g) {twin : Run Unit}
    (hl : t.parser.Leads (.start t.parser (.ofInput tree.leaves ())) twin) {run : Run υ}
    (ha : run.Alike twin) {q : Nat} {below : List Nat} (hq : run.context.states = q :: below) :
    t.action? q (Tree.firstName (tree.leaves.drop run.context.feed.cursor)) ≠ none := by
  have hact := action_of_whole ht hw hl (ha.states.trans hq)
  rw [(parser_quiet t _).lookaheadName_eq hl, ha.cursor] at hact
  exact hact

end Parser

end CanonicalLR
