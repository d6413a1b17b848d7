import CanonicalLR.Proofs.Parsing

/-! What reducers see. A reducer that looks at no more than the node just built and the user's value
is called for the nodes of a tree in order, children before their parent. If every reduction lowers
a rank of the state on top, there is a bound on the number of steps. -/
namespace CanonicalLR

namespace Tree

variable {υ : Type}

mutual

/-- Lets every node of a tree take effect on a value, children before their parent. -/
def visit (effect : Tree → υ → υ) : Tree → υ → υ
  | leaf _, u => u
  | node name k children, u => effect (node name k children) (visitAll effect children u)

def visitAll (effect : Tree → υ → υ) : List Tree → υ → υ
  | [], u => u
  | t :: ts, u => visitAll effect ts (t.visit effect u)

end

private theorem visitAll_append (effect : Tree → υ → υ) (ts us : List Tree) (u : υ) :
    visitAll effect (ts ++ us) u = visitAll effect us (visitAll effect ts u) := by
  induction ts generalizing u with
  | nil => rfl
  | cons t ts ih => rw [List.cons_append, visitAll, visitAll, ih]

end Tree

/-- The reducer that lets the node just built take effect on the user's value. -/
def Reducer.ofEffect {υ : Type} (effect : Tree → υ → υ) : Reducer υ := fun context =>
  match context.top? with
  | some node => { context.feed with user := effect node context.feed.user }
  | none => context.feed

namespace Parser

variable {υ : Type} {p : Parser υ} {context : Context υ} {run : Run υ} {effect : Tree → υ → υ}

/-- A reducer that takes effect on the user's value leaves the input alone. -/
theorem quiet_of_effect (hb : p.onBadInput = none) (hr : p.reducer = some (.ofEffect effect))
    (context : Context υ) : p.Quiet context := by
  refine ⟨hb, passive_of_reducer (fun reducer h c => ?_) context⟩
  cases hr.symm.trans h
  unfold Reducer.ofEffect
  split <;> exact ⟨rfl, rfl⟩

/-- The user's value is what the nodes on the stack have made of it, from the bottom up. -/
theorem user_of_leads (hb : p.onBadInput = none) (hr : p.reducer = some (.ofEffect effect))
    (hl : p.Leads (.start p context) run) : run.context.feed.user =
      Tree.visitAll effect run.context.nodes.reverse context.feed.user := by
  induction hl with
  | refl => rfl
  | @tail run after hl hs ih =>
    obtain ⟨-, q, below, -, hm⟩ := moved_of_step hs
    cases hm with
    | shift token next _ _ he =>
      subst he
      rw [List.reverse_cons, Tree.visitAll_append, ← ih]
      rfl
    | reduce expression k len exposed next rest _ _ _ _ hn _ _ hfeed =>
      rw [hfeed _ hr, Reducer.ofEffect, Context.top?, hn]
      simp only [List.head?_cons, List.reverse_cons, Tree.visitAll_append, ih]
      rw [Tree.visitAll, Tree.visitAll, Tree.visit, ← Tree.visitAll_append, ← List.reverse_append,
        List.take_append_drop]
    | recover hn => exact absurd hb hn

/-- What the nodes of the returned tree have made of the user's value. -/
theorem user_of_tree (hb : p.onBadInput = none) (hr : p.reducer = some (.ofEffect effect))
    {fuel : Nat} {tree : Tree} {final : Run υ} (h : p.parse fuel context = (.tree tree, final)) :
    final.context.feed.user = tree.visit effect context.feed.user := by
  obtain ⟨last, left, hl, hs, hf⟩ := tree_of_loop h
  have huser := user_of_leads hb hr hl
  cases hf with
  | tree _ _ hn _ _ hfeed =>
    rw [context_of_left hs] at hn hfeed
    rw [hfeed, huser, hn]
    rfl
  | late _ hook _ _ _ hhook => cases hb.symm.trans hhook

end Parser

/-- A rank of states that every reduction lowers, and that is at most `m` behind a token. -/
structure Table.Ranked (t : Table) (rank : Nat → Nat) (m : Nat) : Prop where
  shift {q next : Nat} {name : String} :
    t.action? q name = some (.shift next) → rank next ≤ m
  reduce {q k len exposed next : Nat} {name expression : String} :
    t.action? q name = some (.reduce expression k len) →
    t.goto? exposed expression = some next → rank next < rank q

namespace Table

def checkRank (t : Table) (rank : Nat → Nat) (m : Nat) : Bool :=
  t.states.entries.all fun (q, row) => row.actions.entries.all fun (_, act) =>
    match act with
    | .shift next => rank next ≤ m
    | .reduce expression _ _ => t.states.entries.all fun (_, other) =>
      other.gotos.entries.all fun (name, next) => name ≠ expression || rank next < rank q
    | .accept => true

/-- Looking through the cells of a table is enough to see that it has a rank. -/
theorem ranked_of_check {t : Table} {rank : Nat → Nat} {m : Nat}
    (h : t.checkRank rank m = true) : t.Ranked rank m := by
  have hcell : ∀ {q name act}, t.action? q name = some act → ∃ row, (q, row) ∈ t.states.entries ∧
      (name, act) ∈ row.actions.entries := by
    intro q name act ha
    obtain ⟨row, hrow, hact⟩ := Option.bind_eq_some_iff.1 ha
    exact ⟨row, Dict.get?_eq_some_iff.1 hrow, Dict.get?_eq_some_iff.1 hact⟩
  simp only [checkRank, List.all_eq_true, Prod.forall] at h
  constructor
  · intro q next name ha
    obtain ⟨row, hrow, hact⟩ := hcell ha
    exact of_decide_eq_true (h q row hrow name _ hact)
  · intro q k len exposed next name expression ha hg
    obtain ⟨row, hrow, hact⟩ := hcell ha
    obtain ⟨other, hother, hnext⟩ := Option.bind_eq_some_iff.1 hg
    have hreduce := h q row hrow name _ hact
    simp only [List.all_eq_true, Prod.forall] at hreduce
    have hlt := hreduce exposed other (Dict.get?_eq_some_iff.1 hother) expression next
      (Dict.get?_eq_some_iff.1 hnext)
    simpa using hlt

end Table

namespace Parser

variable {υ : Type} {p : Parser υ} {context : Context υ} {run : Run υ} {rank : Nat → Nat} {m : Nat}

private theorem length_events_le (h : p.table.Ranked rank m) (hp : p.Quiet context)
    (hl : p.Leads (.start p context) run) :
    ∃ q below, run.context.states = q :: below ∧
      run.events.length + rank q ≤ (m + 1) * run.context.feed.cursor + rank p.table.start := by
  induction hl with
  | refl => exact ⟨_, _, rfl, by simp [Run.start]⟩
  | @tail run after hl hs ih =>
    obtain ⟨q, below, hq, hle⟩ := ih
    obtain ⟨-, q', below', hq', hm⟩ := moved_of_step hs
    cases hq.symm.trans hq'
    cases hm with
    | shift token next ha _ he =>
      subst he
      have := h.shift ha
      refine ⟨next, _, rfl, ?_⟩
      rw [List.length_cons, Nat.mul_succ]
      omega
    | reduce expression k len exposed next rest ha _ hg hstates _ he =>
      have := h.reduce ha hg
      obtain ⟨-, hc⟩ := hp.passive run after _ _ hl hs he
      refine ⟨next, _, hstates, ?_⟩
      rw [he, hc, List.length_cons]
      omega
    | recover hn => exact absurd hp.hookless hn

/-- Steps that a ranked table takes at most: so much fuel is enough. -/
theorem parse_ne_cutShort (h : p.table.Ranked rank m) (hp : p.Quiet context) {fuel : Nat}
    (hf : (m + 1) * context.feed.input.length + rank p.table.start < fuel) :
    (p.parse fuel context).1 ≠ .cutShort := by
  intro hcut
  obtain ⟨run, hl, he⟩ := leads_of_cutShort hcut
  obtain ⟨q, below, -, hle⟩ := length_events_le h hp hl
  obtain ⟨hc, -⟩ := yield_of_leads hp.careful hl
  rw [hp.input_eq hl] at hc
  have hmul := Nat.mul_le_mul_left (m + 1) hc
  have hstart : (Run.start p context).events.length = 0 := rfl
  omega

end Parser

end CanonicalLR
