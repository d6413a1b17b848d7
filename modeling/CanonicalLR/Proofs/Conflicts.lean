import CanonicalLR.Proofs.Parsing

/-! Tables and conflicts against the states of the automaton: a table has exactly the actions that its
states ask for, there is one unless some state asks for two actions on one terminal, and a conflict
names two such actions of the first state that has any. -/
namespace CanonicalLR

namespace AugmentedGrammar

def Completed (g : AugmentedGrammar) (i : Item) (rule : Production) : Prop :=
  g.rules[i.rule]? = some rule ∧ i.marker = rule.right.length

/-- What a state asks for on a terminal: to read it along an edge, or to finish a rule that is
completed in front of it. -/
inductive Demands (g : AugmentedGrammar) (state : State) (x : Nat) : Action → Prop
  | shift {r : Nat} : state.edges.get? (.terminal x) = some r → Demands g state x (.shift r)
  | reduce {i : Item} {rule : Production} : i ∈ state.items → g.Completed i rule →
      i.lookahead = x → i.rule ≠ acceptRule → Demands g state x
        (.reduce (g.symbolName (.nonterminal rule.left)) rule.alternative rule.right.length)
  | accept {i : Item} {rule : Production} : i ∈ state.items → g.Completed i rule →
      i.lookahead = x → i.rule = acceptRule → Demands g state x .accept

/-- The state never asks for two different actions on one terminal. -/
def Settled (g : AugmentedGrammar) (state : State) : Prop :=
  ∀ x act act', g.Demands state x act → g.Demands state x act' → act = act'

variable {g : AugmentedGrammar}

/-- A completed item asks for the completion of its rule. -/
theorem Completed.demands {state : State} {i : Item} {rule : Production} (h : g.Completed i rule)
    (hi : i ∈ state.items) : g.Demands state i.lookahead (Table.completion g i.rule rule) := by
  unfold Table.completion
  split
  · rename_i h0
    exact .accept hi h rfl h0
  · rename_i h0
    exact .reduce hi h rfl h0

/-- A rule is completed in front of a terminal by one item only. -/
theorem Completed.unique {i j : Item} {rule rule' : Production} (hi : g.Completed i rule)
    (hj : g.Completed j rule') (hr : j.rule = i.rule) (hl : j.lookahead = i.lookahead) : j = i := by
  have hrule : rule' = rule := Option.some.inj (hj.1.symm.trans (hr ▸ hi.1))
  have hm : j.marker = i.marker := by rw [hj.2, hi.2, hrule]
  cases i
  cases j
  simp only at hr hm hl
  rw [hr, hm, hl]

end AugmentedGrammar

namespace Grammar

open AugmentedGrammar

variable {α : Type} (g : Grammar α)

/-- No two rules ask for the same completion. -/
theorem completion_inj {r r' : Nat} {rule rule' : Production}
    (h : g.augmented.rules[r]? = some rule) (h' : g.augmented.rules[r']? = some rule')
    (he : Table.completion g.augmented r rule = Table.completion g.augmented r' rule') : r = r' := by
  unfold Table.completion at he
  split at he
  · rename_i h0
    split at he
    · rename_i h0'
      rw [h0, h0']
    · cases he
  · rename_i h0
    split at he
    · cases he
    · rename_i h0'
      obtain ⟨hname, halt, -⟩ := Action.reduce.inj he
      have hleft : Symbol.nonterminal rule.left = .nonterminal rule'.left := by
        apply g.symbolName_inj ?_ ?_ hname
        · exact (g.definition_of_rule h h0).1.known
        · exact (g.definition_of_rule h' h0').1.known
      exact g.rule_unique h h' h0 h0' (Symbol.nonterminal.inj hleft) halt

variable {g} {q : Nat} {state : State}

private theorem fits_of_mem_state (hq : g.automaton.states[q]? = some state) {i : Item}
    (hi : i ∈ state.items) : g.augmented.Fits i := by
  obtain ⟨γ, hγ⟩ := g.exists_holds hq
  exact g.fits_of_valid ((hγ i).1 hi)

private theorem completed_of_le (hq : g.automaton.states[q]? = some state) {i : Item}
    (hi : i ∈ state.items) {rule : Production} (hr : g.augmented.rules[i.rule]? = some rule)
    (hm : rule.right.length ≤ i.marker) : g.augmented.Completed i rule := by
  obtain ⟨rule', hr', hle, -⟩ := fits_of_mem_state hq hi
  cases hr.symm.trans hr'
  exact ⟨hr, Nat.le_antisymm hle hm⟩

private theorem accept_of_completed (hq : g.automaton.states[q]? = some state) {i : Item}
    (hi : i ∈ state.items) {rule : Production} (h : g.augmented.Completed i rule)
    (h0 : i.rule = acceptRule) : i = ⟨acceptRule, 1, Symbol.endId⟩ := by
  obtain ⟨γ, hγ⟩ := g.exists_holds hq
  obtain ⟨hr, hm⟩ := h
  obtain ⟨δ, -, hb⟩ := ((hγ i).1 hi).read hr
  rw [h0] at hb hr
  obtain ⟨-, hend⟩ := bottom_of_valid hb
  cases g.rules_zero.symm.trans hr
  obtain ⟨r, m, a⟩ := i
  simp only [List.length_singleton] at hm h0 hend
  rw [hm, h0, hend]

private theorem known_of_edge (hq : g.automaton.states[q]? = some state) {s : Symbol} {r : Nat}
    (he : state.edges.get? s = some r) : g.augmented.Known s := by
  obtain ⟨i, -, hn⟩ := (g.explored.expected s hq).1 ⟨r, he⟩
  exact (proper_of_next? hn).known

private theorem cell_iff_demands (hq : g.automaton.states[q]? = some state) {name : String}
    {act : Action} :
    ((∃ x r, (.terminal x, r) ∈ state.edges.entries ∧
        g.augmented.symbolName (.terminal x) = name ∧ .shift r = act) ∨
      ∃ i ∈ state.items.toList, g.augmented.Completes i name act) ↔
    ∃ x, g.augmented.symbolName (.terminal x) = name ∧ g.augmented.Demands state x act := by
  constructor
  · rintro (⟨x, r, he, hx, rfl⟩ | ⟨i, hi, rule, hr, hm, hl, rfl⟩)
    · exact ⟨x, hx, .shift (Dict.get?_eq_some_iff.2 he)⟩
    · exact ⟨i.lookahead, hl, (completed_of_le hq hi hr hm).demands hi⟩
  · rintro ⟨x, hx, hd⟩
    cases hd with
    | shift he => exact .inl ⟨x, _, Dict.get?_eq_some_iff.1 he, hx, rfl⟩
    | @reduce i rule hi hc hl h0 =>
      refine .inr ⟨i, hi, rule, hc.1, hc.2.ge, hl ▸ hx, ?_⟩
      rw [Table.completion, if_neg h0]
    | @accept i rule hi hc hl h0 =>
      refine .inr ⟨i, hi, rule, hc.1, hc.2.ge, hl ▸ hx, ?_⟩
      rw [Table.completion, if_pos h0]

private theorem get?_compileRow (hq : g.automaton.states[q]? = some state) {id : Nat} {row : Row}
    (h : Table.compileRow g.augmented id state = .ok row) {name : String} {act : Action} :
    row.actions.get? name = some act ↔
      ∃ x, g.augmented.symbolName (.terminal x) = name ∧ g.augmented.Demands state x act :=
  ((Table.get?_row (Table.nodup_names hq) h name).1 act).trans (cell_iff_demands hq)

/-- A state whose row could be made never asks for two actions on one terminal. -/
theorem settled_of_compileRow (hq : g.automaton.states[q]? = some state) {id : Nat} {row : Row}
    (h : Table.compileRow g.augmented id state = .ok row) : g.augmented.Settled state := by
  intro x act act' hact hact'
  have hone := (get?_compileRow hq h).2 ⟨x, rfl, hact⟩
  have htwo := (get?_compileRow hq h).2 ⟨x, rfl, hact'⟩
  exact Option.some.inj (hone.symm.trans htwo)

end Grammar

/-- The conflict is one of the state: a completed item brings an action to a cell in which another
action of the state stands. -/
structure Conflict.Genuine (g : AugmentedGrammar) (conflict : Conflict) (state : State)
    (i : Item) (rule : Production) : Prop where
  mem : i ∈ state.items
  completed : g.Completed i rule
  expression : conflict.expression = g.symbolName (.nonterminal rule.left)
  right : conflict.right = rule.right.map g.symbolName
  lookahead : conflict.lookahead = g.symbolName (.terminal i.lookahead)
  existing : g.Demands state i.lookahead conflict.existing
  incoming : g.Demands state i.lookahead conflict.incoming
  differ : conflict.existing ≠ conflict.incoming

private theorem Conflict.Genuine.not_settled {g : AugmentedGrammar} {conflict : Conflict}
    {state : State} {i : Item} {rule : Production} (h : conflict.Genuine g state i rule) :
    ¬ g.Settled state :=
  fun hs => h.differ (hs _ _ _ h.existing h.incoming)

namespace Table

variable {g : AugmentedGrammar}

theorem completion_ne_shift (r n : Nat) (rule : Production) : completion g r rule ≠ .shift n := by
  unfold completion
  split
  · exact nofun
  · exact nofun

private theorem addItem_error {id : Nat} {row : Row} {i : Item} {conflict : Conflict}
    (h : addItem g id row i = .error conflict) :
    ∃ rule existing, g.rules[i.rule]? = some rule ∧ rule.right.length ≤ i.marker ∧
      row.actions.get? (g.symbolName (.terminal i.lookahead)) = some existing ∧
      conflict = ⟨id, g.symbolName (.nonterminal rule.left), rule.right.map g.symbolName,
        g.symbolName (.terminal i.lookahead), existing, completion g i.rule rule⟩ := by
  unfold addItem at h
  cases hr : g.rules[i.rule]? with
  | none =>
    rw [hr] at h
    cases h
  | some rule =>
    simp only [hr] at h
    split at h
    · cases h
    · rename_i hm
      cases ha : row.actions.get? (g.symbolName (.terminal i.lookahead)) with
      | none =>
        rw [ha] at h
        cases h
      | some existing =>
        rw [ha] at h
        cases h
        exact ⟨rule, existing, rfl, Nat.le_of_not_lt hm, rfl, rfl⟩

private theorem addItems_error {id : Nat} {items : List Item} {row : Row} {conflict : Conflict}
    (h : items.foldlM (addItem g id) row = .error conflict) :
    ∃ before i after mid, items = before ++ i :: after ∧
      before.foldlM (addItem g id) row = .ok mid ∧ addItem g id mid i = .error conflict := by
  induction items generalizing row with
  | nil => cases h
  | cons j items ih =>
    rw [List.foldlM_cons] at h
    rcases except_bind_error h with hj | ⟨next, hj, h⟩
    · exact ⟨[], j, items, row, rfl, rfl, hj⟩
    · obtain ⟨before, i, after, mid, rfl, hmid, hi⟩ := ih h
      refine ⟨j :: before, i, after, mid, rfl, ?_, hi⟩
      rw [List.foldlM_cons, hj]
      exact hmid

private theorem compileRows_error {states : List State} {id : Nat} {rows : Dict Nat Row}
    {conflict : Conflict} (h : compileRows g id states rows = .error conflict) :
    ∃ (k : Nat) (state : State), states[k]? = some state ∧
      compileRow g (id + k) state = .error conflict ∧
      ∀ (j : Nat) (lower : State), j < k → states[j]? = some lower →
        ∃ row, compileRow g (id + j) lower = .ok row := by
  induction states generalizing id rows with
  | nil => cases h
  | cons first rest ih =>
    rcases except_bind_error h with hrow | ⟨row, hrow, h⟩
    · exact ⟨0, first, rfl, hrow, fun j lower hj => absurd hj (Nat.not_lt_zero j)⟩
    · obtain ⟨k, state, hk, he, hlower⟩ := ih h
      refine ⟨k + 1, state, hk, by rwa [Nat.add_right_comm, Nat.add_assoc] at he, ?_⟩
      intro j lower hj hl
      cases j with
      | zero =>
        cases hl
        exact ⟨row, hrow⟩
      | succ j =>
        obtain ⟨row', hrow'⟩ := hlower j lower (Nat.lt_of_succ_lt_succ hj) hl
        exact ⟨row', by rwa [Nat.add_right_comm, Nat.add_assoc] at hrow'⟩

variable {α : Type} {grammar : Grammar α}

/-- A cell that is taken when an item is completed was taken by an edge or by another item, for
another action than the item asks for. -/
private theorem demands_of_taken {q : Nat} {state : State}
    (hq : grammar.automaton.states[q]? = some state) {before after : List Item} {i : Item}
    (hitems : state.items.toList = before ++ i :: after) {rule : Production}
    (hc : grammar.augmented.Completed i rule) {id : Nat} {mid : Row}
    (hmid : before.foldlM (addItem grammar.augmented id)
      (state.edges.entries.foldl (addEdge grammar.augmented) ⟨.empty, .empty⟩) = .ok mid)
    {existing : Action}
    (hcell : mid.actions.get? (grammar.augmented.symbolName (.terminal i.lookahead)) =
      some existing) :
    grammar.augmented.Demands state i.lookahead existing ∧
      existing ≠ completion grammar.augmented i.rule rule := by
  have hmem : ∀ j ∈ before ++ i :: after, j ∈ state.items := by
    intro j hj
    rwa [SortedSet.mem_def, hitems]
  obtain ⟨-, -, -, hknown⟩ := Grammar.fits_of_mem_state hq (hmem i (by simp))
  rcases ((get?_row (nodup_names hq) hmid _).1 existing).1 hcell with
    ⟨x, r, he, hx, rfl⟩ | ⟨j, hj, rule', hr', hm', hl, rfl⟩
  · have he := Dict.get?_eq_some_iff.2 he
    have hsame := grammar.symbolName_inj (Grammar.known_of_edge hq he) hknown hx
    exact ⟨.shift (hsame ▸ he), (completion_ne_shift _ _ _).symm⟩
  · have hj' := hmem j (List.mem_append_left _ hj)
    have hcj := Grammar.completed_of_le hq hj' hr' hm'
    obtain ⟨-, -, -, hknown'⟩ := Grammar.fits_of_mem_state hq hj'
    have hsame := Symbol.terminal.inj (grammar.symbolName_inj hknown' hknown hl)
    refine ⟨hsame ▸ hcj.demands hj', fun heq => ?_⟩
    -- the same completion would be that of the same item, which is listed only once
    have hij := hc.unique hcj (grammar.completion_inj hr' hc.1 heq) hsame
    have hnodup := state.items.nodup
    rw [hitems, List.nodup_append] at hnodup
    exact hnodup.2.2 j hj i List.mem_cons_self hij

private theorem genuine_of_compileRow {q : Nat} {state : State}
    (hq : grammar.automaton.states[q]? = some state) {id : Nat} {conflict : Conflict}
    (h : compileRow grammar.augmented id state = .error conflict) :
    conflict.state = id ∧ ∃ i rule, conflict.Genuine grammar.augmented state i rule := by
  obtain ⟨before, i, after, mid, hitems, hmid, herror⟩ := addItems_error h
  obtain ⟨rule, existing, hr, hm, hcell, rfl⟩ := addItem_error herror
  have hi : i ∈ state.items := by
    rw [SortedSet.mem_def, hitems]
    simp
  have hc := Grammar.completed_of_le hq hi hr hm
  obtain ⟨hex, hne⟩ := demands_of_taken hq hitems hc hmid hcell
  exact ⟨rfl, i, rule, hi, hc, rfl, rfl, rfl, hex, hc.demands hi, hne⟩

/-- A conflict is one of the state that it names, and the states with smaller numbers are settled. -/
theorem genuine_of_ofGrammar {conflict : Conflict} (h : ofGrammar grammar = .error conflict) :
    ∃ state i rule, grammar.automaton.states[conflict.state]? = some state ∧
      conflict.Genuine grammar.augmented state i rule ∧
      ∀ (p : Nat) (lower : State), p < conflict.state →
        grammar.automaton.states[p]? = some lower → grammar.augmented.Settled lower := by
  have hrows : compileRows grammar.augmented 0 grammar.automaton.states .empty =
      .error conflict := by
    rcases except_bind_error h with hrows | ⟨rows, -, hok⟩
    · exact hrows
    · cases hok
  obtain ⟨k, state, hk, hrow, hlower⟩ := compileRows_error hrows
  rw [Nat.zero_add] at hrow
  obtain ⟨hid, i, rule, hg⟩ := genuine_of_compileRow hk hrow
  subst hid
  refine ⟨state, i, rule, hk, hg, fun p lower hp hl => ?_⟩
  obtain ⟨row, hrow⟩ := hlower p lower hp hl
  exact Grammar.settled_of_compileRow hl hrow

/-- The actions of a table are those that its states ask for. -/
theorem action?_iff_demands {t : Table} (h : ofGrammar grammar = .ok t) {q : Nat} {name : String}
    {act : Action} : t.action? q name = some act ↔
      ∃ state x, grammar.automaton.states[q]? = some state ∧
        grammar.augmented.symbolName (.terminal x) = name ∧
        grammar.augmented.Demands state x act := by
  cases hq : grammar.automaton.states[q]? with
  | none => simp [action?, row?_eq_none h hq]
  | some state =>
    obtain ⟨row, hrow, hr⟩ := row?_of_state h hq
    rw [action?, hr, Option.bind_some, Grammar.get?_compileRow hq hrow]
    simp

/-- The gotos of a table are the edges on nonterminals. -/
theorem goto?_iff_edge {t : Table} (h : ofGrammar grammar = .ok t) {q : Nat} {name : String}
    {r : Nat} : t.goto? q name = some r ↔
      ∃ state n, grammar.automaton.states[q]? = some state ∧
        state.edges.get? (.nonterminal n) = some r ∧
        grammar.augmented.symbolName (.nonterminal n) = name := by
  cases hq : grammar.automaton.states[q]? with
  | none => simp [goto?, row?_eq_none h hq]
  | some state =>
    obtain ⟨row, hrow, hr⟩ := row?_of_state h hq
    rw [goto?, hr, Option.bind_some, (get?_row (nodup_names hq) hrow name).2]
    simp [Dict.get?_eq_some_iff]

private theorem action?_shift_iff {t : Table} (h : ofGrammar grammar = .ok t) {q r : Nat}
    {name : String} : t.action? q name = some (.shift r) ↔
      ∃ state x, grammar.automaton.states[q]? = some state ∧
        state.edges.get? (.terminal x) = some r ∧
        grammar.augmented.symbolName (.terminal x) = name := by
  rw [action?_iff_demands h]
  constructor
  · rintro ⟨state, x, hq, hx, hd⟩
    cases hd with
    | shift he => exact ⟨state, x, hq, he, hx⟩
  · rintro ⟨state, x, hq, he, hx⟩
    exact ⟨state, x, hq, hx, .shift he⟩

private theorem action?_reduce_iff {t : Table} (h : ofGrammar grammar = .ok t) {q k len : Nat}
    {name e : String} : t.action? q name = some (.reduce e k len) ↔
      ∃ state i rule d a, grammar.automaton.states[q]? = some state ∧ i ∈ state.items ∧
        grammar.augmented.Completed i rule ∧
        grammar.augmented.symbolName (.terminal i.lookahead) = name ∧
        grammar.augmented.symbolName (.nonterminal rule.left) = e ∧ rule.alternative = k ∧
        grammar.definition? e = some d ∧ d.alternatives[k]? = some a ∧
        rule.right.map grammar.augmented.symbolName = a.symbols ∧ a.symbols.length = len := by
  rw [action?_iff_demands h]
  constructor
  · rintro ⟨state, x, hq, hx, hd⟩
    cases hd with
    | @reduce i rule hi hc hl h0 =>
      obtain ⟨-, d, a, hdef, ha, hs⟩ := grammar.definition_of_rule hc.1 h0
      refine ⟨state, i, rule, d, a, hq, hi, hc, hl ▸ hx, rfl, rfl, hdef, ha, hs, ?_⟩
      rw [← hs, List.length_map]
  · rintro ⟨state, i, rule, d, a, hq, hi, hc, hx, rfl, rfl, hdef, ha, hs, rfl⟩
    have h0 : i.rule ≠ AugmentedGrammar.acceptRule := by
      intro h0
      have hr := hc.1
      rw [h0, grammar.rules_zero] at hr
      cases hr
      rw [grammar.definition?_start] at hdef
      cases hdef
    rw [← hs, List.length_map]
    exact ⟨state, i.lookahead, hq, hx, .reduce hi hc rfl h0⟩

private theorem action?_accept_iff {t : Table} (h : ofGrammar grammar = .ok t) {q : Nat}
    {name : String} : t.action? q name = some .accept ↔
      ∃ state, grammar.automaton.states[q]? = some state ∧
        ⟨AugmentedGrammar.acceptRule, 1, Symbol.endId⟩ ∈ state.items ∧ name = endName := by
  rw [action?_iff_demands h]
  constructor
  · rintro ⟨state, x, hq, rfl, hd⟩
    cases hd with
    | accept hi hc hl h0 =>
      have hitem := Grammar.accept_of_completed hq hi hc h0
      subst hitem
      exact ⟨state, hq, hi, hl ▸ grammar.symbolName_endId⟩
  · rintro ⟨state, hq, hi, rfl⟩
    exact ⟨state, Symbol.endId, hq, grammar.symbolName_endId,
      .accept hi ⟨grammar.rules_zero, rfl⟩ rfl rfl⟩

/-- The table of an automaton is exact. There is one if and only if no state asks for two different
actions on one terminal. It then has the shifts, reductions, acceptances and gotos that the edges and
the completed items of its states call for, and nothing else. A conflict otherwise is one of the state
that it names, between two different actions that this state asks for, and the states before are free
of any. -/
theorem ofAutomaton_exact (g : Grammar α) :
    ((∃ t, ofAutomaton g.augmented g.automaton = .ok t) ↔
      ∀ state ∈ g.automaton.states, g.augmented.Settled state) ∧
    (∀ t, ofAutomaton g.augmented g.automaton = .ok t → ∀ q name,
      (∀ r, t.action? q name = some (.shift r) ↔
        ∃ state x, g.automaton.states[q]? = some state ∧
          state.edges.get? (.terminal x) = some r ∧
          g.augmented.symbolName (.terminal x) = name) ∧
      (∀ e k len, t.action? q name = some (.reduce e k len) ↔
        ∃ state i rule d a, g.automaton.states[q]? = some state ∧ i ∈ state.items ∧
          g.augmented.Completed i rule ∧
          g.augmented.symbolName (.terminal i.lookahead) = name ∧
          g.augmented.symbolName (.nonterminal rule.left) = e ∧ rule.alternative = k ∧
          g.definition? e = some d ∧ d.alternatives[k]? = some a ∧
          rule.right.map g.augmented.symbolName = a.symbols ∧ a.symbols.length = len) ∧
      (t.action? q name = some .accept ↔
        ∃ state, g.automaton.states[q]? = some state ∧
          ⟨AugmentedGrammar.acceptRule, 1, Symbol.endId⟩ ∈ state.items ∧ name = endName) ∧
      (t.action? q name = none ↔
        ∀ state x act, g.automaton.states[q]? = some state →
          g.augmented.symbolName (.terminal x) = name → ¬ g.augmented.Demands state x act) ∧
      ∀ r, t.goto? q name = some r ↔
        ∃ state n, g.automaton.states[q]? = some state ∧
          state.edges.get? (.nonterminal n) = some r ∧
          g.augmented.symbolName (.nonterminal n) = name) ∧
    ∀ conflict, ofAutomaton g.augmented g.automaton = .error conflict →
      ∃ state i rule, g.automaton.states[conflict.state]? = some state ∧
        conflict.Genuine g.augmented state i rule ∧
        ∀ (p : Nat) (lower : State), p < conflict.state →
          g.automaton.states[p]? = some lower → g.augmented.Settled lower := by
  refine ⟨⟨?_, fun hs => ?_⟩, fun t ht q name => ⟨fun r => action?_shift_iff ht,
    fun e k len => action?_reduce_iff ht, action?_accept_iff ht, ?_, fun r => goto?_iff_edge ht⟩,
    fun conflict hc => genuine_of_ofGrammar hc⟩
  · rintro ⟨t, ht⟩ state hm
    have ht : ofGrammar g = .ok t := ht
    obtain ⟨q, hq⟩ := List.getElem?_of_mem hm
    obtain ⟨row, hrow, -⟩ := row?_of_state ht hq
    exact Grammar.settled_of_compileRow hq hrow
  · cases ht : ofAutomaton g.augmented g.automaton with
    | ok t => exact ⟨t, rfl⟩
    | error conflict =>
      have ht : ofGrammar g = .error conflict := ht
      obtain ⟨state, i, rule, hq, hg, -⟩ := genuine_of_ofGrammar ht
      exact absurd (hs state (List.mem_of_getElem? hq)) hg.not_settled
  · rw [Option.eq_none_iff_forall_ne_some]
    constructor
    · intro hnone state x act hq hx hd
      exact hnone act ((action?_iff_demands ht).2 ⟨state, x, hq, hx, hd⟩)
    · intro hfree act ha
      obtain ⟨state, x, hq, hx, hd⟩ := (action?_iff_demands ht).1 ha
      exact hfree state x act hq hx hd

/-- A shift of one grammar, read back as an edge, and a genuine conflict of another. -/
theorem ofAutomaton_exact_samples :
    (∃ state x, Parser.pairGrammar.automaton.states[2]? = some state ∧
      state.edges.get? (.terminal x) = some 4 ∧
      Parser.pairGrammar.augmented.symbolName (.terminal x) = "b") ∧
    ∃ conflict state i rule,
      ofAutomaton Parser.twinGrammar.augmented Parser.twinGrammar.automaton = .error conflict ∧
      Parser.twinGrammar.automaton.states[conflict.state]? = some state ∧
      conflict.Genuine Parser.twinGrammar.augmented state i rule := by
  have hok : ofAutomaton Parser.pairGrammar.augmented Parser.pairGrammar.automaton =
      .ok Parser.pairTable := rfl
  have hshift : Parser.pairTable.action? 2 "b" = some (.shift 4) := by decide +kernel
  have herror : ofAutomaton Parser.twinGrammar.augmented Parser.twinGrammar.automaton =
      .error _ := rfl
  obtain ⟨state, i, rule, hq, hg, -⟩ := (ofAutomaton_exact Parser.twinGrammar).2.2 _ herror
  exact ⟨(((ofAutomaton_exact Parser.pairGrammar).2.1 _ hok 2 "b").1 4).1 hshift,
    _, state, i, rule, herror, hq, hg⟩

end Table

end CanonicalLR
