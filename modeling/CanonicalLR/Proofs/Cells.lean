import CanonicalLR.Proofs.Collection
import CanonicalLR.Table.Compile

/-! The cells of a table are what is valid: a shift or a goto for each symbol that can be read, and
the completion of each valid item behind its rule. -/
namespace CanonicalLR

namespace AugmentedGrammar

/-- The item is at the end of its rule, and asks for an action on its lookahead. -/
def Completes (g : AugmentedGrammar) (i : Item) (name : String) (act : Action) : Prop :=
  ∃ rule, g.rules[i.rule]? = some rule ∧ rule.right.length ≤ i.marker ∧
    g.symbolName (.terminal i.lookahead) = name ∧ Table.completion g i.rule rule = act

end AugmentedGrammar

namespace Table

variable {g : AugmentedGrammar}

private def shiftCell (g : AugmentedGrammar) : Symbol × Nat → Option (String × Action)
  | (.terminal x, r) => some (g.symbolName (.terminal x), .shift r)
  | (.nonterminal _, _) => none

private def gotoCell (g : AugmentedGrammar) : Symbol × Nat → Option (String × Nat)
  | (.terminal _, _) => none
  | (.nonterminal n, r) => some (g.symbolName (.nonterminal n), r)

private theorem foldl_addEdge (entries : List (Symbol × Nat)) (row : Row) :
    entries.foldl (addEdge g) row =
      ⟨(entries.filterMap (shiftCell g)).foldl (fun d e => d.insert e.1 e.2) row.actions,
        (entries.filterMap (gotoCell g)).foldl (fun d e => d.insert e.1 e.2) row.gotos⟩ := by
  induction entries generalizing row with
  | nil => rfl
  | cons e entries ih =>
    obtain ⟨s, r⟩ := e
    cases s <;> exact ih _

private theorem nodup_cells {entries : List (Symbol × Nat)} {β : Type}
    {cell : Symbol × Nat → Option (String × β)}
    (hc : ∀ e c, cell e = some c → c.1 = g.symbolName e.1)
    (hn : (entries.map fun e => g.symbolName e.1).Nodup) :
    ((entries.filterMap cell).map (·.1)).Nodup := by
  suffices hs : ((entries.filterMap cell).map (·.1)).Sublist
      (entries.map fun e => g.symbolName e.1) from hn.sublist hs
  clear hn
  induction entries with
  | nil => exact .slnil
  | cons e entries ih =>
    cases he : cell e with
    | none =>
      rw [List.filterMap_cons_none he]
      exact .cons _ ih
    | some c =>
      rw [List.filterMap_cons_some he, List.map_cons, List.map_cons, hc e c he]
      exact .cons_cons _ ih

private theorem get?_addEdges {entries : List (Symbol × Nat)}
    (hn : (entries.map fun e => g.symbolName e.1).Nodup) (name : String) :
    let row := entries.foldl (addEdge g) ⟨.empty, .empty⟩
    (∀ act, row.actions.get? name = some act ↔
      ∃ x r, (.terminal x, r) ∈ entries ∧ g.symbolName (.terminal x) = name ∧ .shift r = act) ∧
    ∀ r, row.gotos.get? name = some r ↔
      ∃ n, (.nonterminal n, r) ∈ entries ∧ g.symbolName (.nonterminal n) = name := by
  have hshift : ∀ e c, shiftCell g e = some c → c.1 = g.symbolName e.1 := by
    rintro ⟨_ | _, _⟩ c hc <;> cases hc
    rfl
  have hgoto : ∀ e c, gotoCell g e = some c → c.1 = g.symbolName e.1 := by
    rintro ⟨_ | _, _⟩ c hc <;> cases hc
    rfl
  rw [foldl_addEdge]
  refine ⟨fun act => (Dict.get?_ofList (nodup_cells hshift hn)).trans ?_,
    fun r => (Dict.get?_ofList (nodup_cells hgoto hn)).trans ?_⟩
  · rw [List.mem_filterMap]
    constructor
    · rintro ⟨⟨_ | _, r⟩, hm, hc⟩ <;> cases hc
      exact ⟨_, r, hm, rfl, rfl⟩
    · rintro ⟨x, r, hm, rfl, rfl⟩
      exact ⟨_, hm, rfl⟩
  · rw [List.mem_filterMap]
    constructor
    · rintro ⟨⟨_ | _, r⟩, hm, hc⟩ <;> cases hc
      exact ⟨_, hm, rfl⟩
    · rintro ⟨n, hm, rfl⟩
      exact ⟨_, hm, rfl⟩

private theorem addItem_spec {id : Nat} {row after : Row} {i : Item}
    (h : addItem g id row i = .ok after) : after.gotos = row.gotos ∧
    ∀ name act, after.actions.get? name = some act ↔
      row.actions.get? name = some act ∨ g.Completes i name act := by
  unfold addItem at h
  cases hr : g.rules[i.rule]? with
  | none =>
    rw [hr] at h
    cases h
    exact ⟨rfl, fun name act => by simp [AugmentedGrammar.Completes, hr]⟩
  | some rule =>
    simp only [hr] at h
    have hc : ∀ name act, g.Completes i name act ↔ rule.right.length ≤ i.marker ∧
        g.symbolName (.terminal i.lookahead) = name ∧ completion g i.rule rule = act := by
      simp [AugmentedGrammar.Completes, hr]
    split at h
    · rename_i hm
      cases h
      exact ⟨rfl, fun name act => by simp [hc, hm]⟩
    · rename_i hm
      cases ha : row.actions.get? (g.symbolName (.terminal i.lookahead)) with
      | some existing =>
        rw [ha] at h
        cases h
      | none =>
        rw [ha] at h
        cases h
        refine ⟨rfl, fun name act => ?_⟩
        rw [Dict.get?_insert, hc]
        by_cases hx : name = g.symbolName (.terminal i.lookahead)
        · subst hx
          simp [ha, Nat.le_of_not_lt hm]
        · have hx' : g.symbolName (.terminal i.lookahead) ≠ name := fun he => hx he.symm
          simp [hx, hx']

private theorem addItems_spec {id : Nat} {items : List Item} {row after : Row}
    (h : items.foldlM (addItem g id) row = .ok after) : after.gotos = row.gotos ∧
    ∀ name act, after.actions.get? name = some act ↔
      row.actions.get? name = some act ∨ ∃ i ∈ items, g.Completes i name act := by
  induction items generalizing row with
  | nil =>
    cases h
    simp
  | cons i items ih =>
    rw [List.foldlM_cons] at h
    obtain ⟨mid, hi, h⟩ := except_bind_ok h
    obtain ⟨hg, ha⟩ := addItem_spec hi
    obtain ⟨hg', ha'⟩ := ih h
    refine ⟨hg'.trans hg, fun name act => ?_⟩
    rw [ha', ha, or_assoc]
    simp

/-- The cells of a row made from edges and items, none of which wanted a cell that was taken. -/
theorem get?_row {entries : List (Symbol × Nat)}
    (hn : (entries.map fun e => g.symbolName e.1).Nodup) {id : Nat} {items : List Item} {row : Row}
    (h : items.foldlM (addItem g id) (entries.foldl (addEdge g) ⟨.empty, .empty⟩) = .ok row)
    (name : String) :
    (∀ act, row.actions.get? name = some act ↔
      (∃ x r, (.terminal x, r) ∈ entries ∧ g.symbolName (.terminal x) = name ∧ .shift r = act) ∨
        ∃ i ∈ items, g.Completes i name act) ∧
    ∀ r, row.gotos.get? name = some r ↔
      ∃ n, (.nonterminal n, r) ∈ entries ∧ g.symbolName (.nonterminal n) = name := by
  obtain ⟨hgotos, hactions⟩ := addItems_spec h
  obtain ⟨hshift, hgoto⟩ := get?_addEdges hn name
  refine ⟨fun act => ?_, fun r => ?_⟩
  · rw [hactions, hshift]
  · rw [hgotos, hgoto]

private theorem compileRows_spec {states : List State} {id : Nat} {rows all : Dict Nat Row}
    (h : compileRows g id states rows = .ok all) :
    (∀ q, q < id ∨ id + states.length ≤ q → all.get? q = rows.get? q) ∧
    ∀ (k : Nat) (state : State), states[k]? = some state →
      ∃ row, compileRow g (id + k) state = .ok row ∧ all.get? (id + k) = some row := by
  induction states generalizing id rows with
  | nil =>
    cases h
    exact ⟨fun _ _ => rfl, by simp⟩
  | cons first rest ih =>
    obtain ⟨row, hr, h⟩ := except_bind_ok h
    obtain ⟨hold, hnew⟩ := ih h
    refine ⟨fun q hq => ?_, fun k state hk => ?_⟩
    · rw [List.length_cons] at hq
      rw [hold q (by omega), Dict.get?_insert, if_neg (by omega)]
    · cases k with
      | zero =>
        cases hk
        exact ⟨row, hr, by rw [Nat.add_zero, hold id (by omega), Dict.get?_insert, if_pos rfl]⟩
      | succ k =>
        rw [List.getElem?_cons_succ] at hk
        have := hnew k state hk
        rwa [Nat.add_right_comm, Nat.add_assoc] at this

variable {α : Type} {grammar : Grammar α} {t : Table}

/-- A table starts where its automaton does. -/
theorem start_of_ofGrammar (h : ofGrammar grammar = .ok t) : t.start = Automaton.start := by
  obtain ⟨rows, -, h⟩ := except_bind_ok h
  cases h
  rfl

/-- Each state has the row that is compiled from it. -/
theorem row?_of_state (h : ofGrammar grammar = .ok t) {q : Nat} {state : State}
    (hq : grammar.automaton.states[q]? = some state) :
    ∃ row, compileRow grammar.augmented q state = .ok row ∧ t.row? q = some row := by
  obtain ⟨rows, hr, h⟩ := except_bind_ok h
  cases h
  have := (compileRows_spec hr).2 q state hq
  rwa [Nat.zero_add] at this

/-- There are rows for states only. -/
theorem row?_eq_none (h : ofGrammar grammar = .ok t) {q : Nat}
    (hq : grammar.automaton.states[q]? = none) : t.row? q = none := by
  obtain ⟨rows, hr, h⟩ := except_bind_ok h
  cases h
  have hlen : grammar.automaton.states.length ≤ q := List.getElem?_eq_none_iff.1 hq
  exact (compileRows_spec hr).1 q (.inr (by rwa [Nat.zero_add]))

/-- The edges of a state have different names, since symbols have. -/
theorem nodup_names {q : Nat} {state : State} (hq : grammar.automaton.states[q]? = some state) :
    (state.edges.entries.map fun e => grammar.augmented.symbolName e.1).Nodup := by
  have hk : ∀ s ∈ state.edges.entries.map (·.1), grammar.augmented.Known s := by
    intro s hs
    obtain ⟨e, hm, rfl⟩ := List.mem_map.1 hs
    obtain ⟨i, -, hn⟩ := (grammar.explored.expected e.1 hq).1 ⟨e.2, Dict.get?_eq_some_iff.2 hm⟩
    obtain ⟨rule, hr, hs⟩ := AugmentedGrammar.next?_eq_some_iff.1 hn
    exact (grammar.closed rule (List.mem_of_getElem? hr)).2 _ (List.mem_of_getElem? hs)
  have := List.Nodup.map_on
    (fun s hs r hr h => grammar.symbolName_inj (hk s hs) (hk r hr) h) state.edges.nodup
  rwa [List.map_map] at this

/-- The actions behind some symbols: a shift of each terminal that can be read, and the completion
of each item that is valid at the end of its rule. -/
theorem action?_iff (h : ofGrammar grammar = .ok t) {γ : List Symbol} {q : Nat}
    (hq : grammar.automaton.Reads γ q) {name : String} {act : Action} :
    t.action? q name = some act ↔
      (∃ x r, grammar.automaton.Reads (.terminal x :: γ) r ∧
        grammar.augmented.symbolName (.terminal x) = name ∧ .shift r = act) ∨
      ∃ i, grammar.augmented.Valid γ i ∧ grammar.augmented.Completes i name act := by
  obtain ⟨state, hs, hi, -⟩ := grammar.state_of_reads hq
  obtain ⟨row, hc, hr⟩ := row?_of_state h hs
  have hedge : ∀ x r, (.terminal x, r) ∈ state.edges.entries ↔
      grammar.automaton.Reads (.terminal x :: γ) r := fun x r =>
    Dict.get?_eq_some_iff.symm.trans (hq.edge_iff hs).symm
  rw [action?, hr, Option.bind_some, (get?_row (nodup_names hs) hc name).1]
  refine or_congr (exists₂_congr fun x r => and_congr_left' (hedge x r)) ?_
  exact exists_congr fun i => and_congr_left' (hi i)

/-- The gotos behind some symbols: one for each nonterminal that can be read. -/
theorem goto?_iff (h : ofGrammar grammar = .ok t) {γ : List Symbol} {q : Nat}
    (hq : grammar.automaton.Reads γ q) {name : String} {r : Nat} :
    t.goto? q name = some r ↔
      ∃ n, grammar.automaton.Reads (.nonterminal n :: γ) r ∧
        grammar.augmented.symbolName (.nonterminal n) = name := by
  obtain ⟨state, hs, -, -⟩ := grammar.state_of_reads hq
  obtain ⟨row, hc, hr⟩ := row?_of_state h hs
  rw [goto?, hr, Option.bind_some, (get?_row (nodup_names hs) hc name).2]
  exact exists_congr fun n =>
    and_congr_left' (Dict.get?_eq_some_iff.symm.trans (hq.edge_iff hs).symm)

end Table

end CanonicalLR
