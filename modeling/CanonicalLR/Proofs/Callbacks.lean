import CanonicalLR.Proofs.Definitions
import CanonicalLR.Proofs.Stack

/-! What reducers are shown: each node of a tree once, behind the nodes below it. This is said of any
reducer by letting it keep a list beside the user's value. -/
namespace CanonicalLR

namespace Tree

mutual

/-- The nodes of a tree, each behind the nodes below it. -/
def postorder : Tree → List Tree
  | leaf _ => []
  | node expression k children => postorderAll children ++ [node expression k children]

def postorderAll : List Tree → List Tree
  | [] => []
  | t :: ts => t.postorder ++ postorderAll ts

end

private theorem postorderAll_append (ts us : List Tree) :
    postorderAll (ts ++ us) = postorderAll ts ++ postorderAll us := by
  induction ts with
  | nil => rfl
  | cons t ts ih => rw [List.cons_append, postorderAll, postorderAll, ih, List.append_assoc]

private theorem postorderAll_singleton (t : Tree) : postorderAll [t] = t.postorder := by
  rw [postorderAll, postorderAll, List.append_nil]

private theorem postorderAll_fold (name : String) (k len : Nat) (nodes : List Tree) :
    postorderAll (node name k (nodes.take len).reverse :: nodes.drop len).reverse =
      postorderAll nodes.reverse ++ [node name k (nodes.take len).reverse] := by
  rw [List.reverse_cons, postorderAll_append, postorderAll_singleton, postorder,
    ← List.append_assoc, ← postorderAll_append, ← List.reverse_append, List.take_append_drop]

private theorem mem_postorderAll {u : Tree} {ts : List Tree} :
    u ∈ postorderAll ts ↔ ∃ t ∈ ts, u ∈ t.postorder := by
  induction ts with
  | nil => simp [postorderAll]
  | cons t ts ih => simp [postorderAll, ih]

private theorem Derived.alternative_of_mem {α : Type} {g : Grammar α} {tree : Tree}
    (h : tree.Derived g) {u : Tree} (hu : u ∈ tree.postorder) :
    ∃ name k children d a, u = .node name k children ∧ g.definition? name = some d ∧
      d.alternatives[k]? = some a := by
  induction h with
  | leaf => cases hu
  | @node name k children d a hd ha _ _ ih =>
    rw [postorder, List.mem_append] at hu
    rcases hu with hu | hu
    · obtain ⟨c, hc, hu⟩ := mem_postorderAll.1 hu
      exact ih c hc hu
    · exact ⟨name, k, children, d, a, List.mem_singleton.1 hu, hd, ha⟩

end Tree

section Logged

variable {υ β : Type}

/-- The feed with a list beside the user's value. -/
def Feed.logged (f : Feed υ) (log : List β) : Feed (υ × List β) :=
  ⟨f.input, f.cursor, (f.user, log)⟩

def Context.logged (c : Context υ) (log : List β) : Context (υ × List β) :=
  ⟨c.feed.logged log, c.states, c.nodes⟩

def Context.unlogged (c : Context (υ × List β)) : Context υ :=
  ⟨⟨c.feed.input, c.feed.cursor, c.feed.user.1⟩, c.states, c.nodes⟩

def Run.logged (run : Run υ) (log : List β) : Run (υ × List β) :=
  ⟨run.context.logged log, run.attempts, run.events⟩

/-- The reducer that also adds to the list what is to be noted of the node that it is shown. -/
def Reducer.noting (note : Tree → Option β) (reducer : Reducer υ) : Reducer (υ × List β) :=
  fun context => (reducer context.unlogged).logged
    (context.feed.user.2 ++ (context.top?.bind note).toList)

def Hook.ignoring (hook : Hook υ) : Hook (υ × List β) := fun context =>
  ((hook context.unlogged).1, (hook context.unlogged).2.logged context.feed.user.2)

/-- The same parser, whose reducer also notes what it is shown. -/
def Parser.noting (p : Parser υ) (note : Tree → Option β) : Parser (υ × List β) where
  table := p.table
  reducer := p.reducer.map (Reducer.noting note)
  onBadInput := p.onBadInput.map Hook.ignoring
  maxRecoveryAttempts := p.maxRecoveryAttempts

private theorem Parser.onBadInput_noting (p : Parser υ) (note : Tree → Option β) :
    (p.noting note).onBadInput = p.onBadInput.map Hook.ignoring := rfl

def Event.node? : Event → Option Tree
  | .reduced node _ => some node
  | _ => none

def Run.built (run : Run υ) : List Tree :=
  run.events.reverse.filterMap Event.node?

private theorem Run.built_of_events {run after : Run υ} {e : Event}
    (h : after.events = e :: run.events) : after.built = run.built ++ e.node?.toList := by
  rw [built, h, List.reverse_cons, List.filterMap_append]
  cases hn : e.node? <;> simp [built, hn]

def Run.noted (note : Tree → Option β) (run : Run υ) : Run (υ × List β) :=
  run.logged (run.built.filterMap note)

variable {note : Tree → Option β} {after : Run υ} {twin : Run (υ × List β)}

private theorem Run.eq_noted_of_events (run : Run υ) (e : Event)
    (h : after.events = e :: run.events)
    (ht : twin = after.logged (run.built.filterMap note ++ (e.node?.bind note).toList)) :
    twin = after.noted note := by
  rw [ht, noted, built_of_events h, List.filterMap_append]
  cases e.node? with
  | none => rfl
  | some node => cases hn : note node <;> simp [hn]

private theorem Run.eq_noted_of_silent (run : Run υ) (e : Event)
    (h : after.events = e :: run.events) (he : e.node? = none)
    (ht : twin = after.logged (run.built.filterMap note)) : twin = after.noted note := by
  apply eq_noted_of_events run e h
  rw [ht, he, Option.bind_none, Option.toList_none, List.append_nil]

def Step.noted (note : Tree → Option β) : Step υ → Step (υ × List β)
  | .next run => .next (run.noted note)
  | .left run => .left (run.noted note)
  | .failed e run => .failed e (run.noted note)

end Logged

namespace Parser

variable {υ β : Type} {p : Parser υ} {context : Context υ} {run after : Run υ}
  {note : Tree → Option β}

/-- At the head of the loop, the nodes built are those on the stack. -/
theorem built_of_leads (h : p.Leads (.start p context) run) :
    run.built = Tree.postorderAll run.context.nodes.reverse := by
  induction h with
  | refl => rfl
  | @tail run after _ hs ih =>
    obtain ⟨-, q, below, -, hm⟩ := moved_of_step hs
    cases hm with
    | shift token next _ _ he =>
      subst he
      rw [Run.built_of_events rfl, ih, List.reverse_cons, Tree.postorderAll_append]
      rfl
    | reduce expression k len exposed next rest _ _ _ _ hn he =>
      rw [Run.built_of_events he, ih, hn, Tree.postorderAll_fold]
      rfl
    | recover _ _ hn he =>
      rw [Run.built_of_events he, ih, hn]
      exact List.append_nil _

/-- With a tree, the nodes built are those of the tree. -/
theorem built_of_tree {fuel : Nat} {tree : Tree} {final : Run υ}
    (h : p.parse fuel context = (.tree tree, final)) : final.built = tree.postorder := by
  obtain ⟨last, left, hl, hs, hnodes, he⟩ := nodes_of_tree h
  have hfinal : final.built = left.built := by rw [Run.built, Run.built, he]
  have hleft : left.built = last.built := by
    rcases left_of_step hs with ⟨-, rfl⟩ | ⟨-, q, below, -, -, rfl⟩
    · rfl
    · have hrecord : (last.record (.accepted q)).events = .accepted q :: last.events := rfl
      rw [Run.built_of_events hrecord]
      exact List.append_nil _
  rw [hfinal, hleft, built_of_leads hl, hnodes, List.reverse_singleton,
    Tree.postorderAll_singleton]

private theorem shift_noted (run : Run υ) (next : Nat) :
    shift (run.noted note) next = (shift run next).noted note := by
  have hl : (run.noted note).context.feed.lookahead? = run.context.feed.lookahead? := rfl
  unfold shift
  dsimp only
  rw [hl]
  cases run.context.feed.lookahead? with
  | none => rfl
  | some token =>
    exact congrArg Step.next (Run.eq_noted_of_silent run (.shifted token next) rfl rfl rfl)

private theorem recover_noted (run : Run υ) (q : Nat) :
    (p.noting note).recover (run.noted note) q = (p.recover run q).noted note := by
  unfold recover
  rw [onBadInput_noting]
  cases p.onBadInput with
  | none => rfl
  | some hook =>
    have ha : (run.noted note).attempts = run.attempts := rfl
    have hm : (p.noting note).maxRecoveryAttempts = p.maxRecoveryAttempts := rfl
    have hrepaired : (hook.ignoring (run.noted note).context).1 = (hook run.context).1 := rfl
    have hsight : (hook.ignoring (run.noted note).context).2.sight =
      (hook run.context).2.sight := rfl
    have hsight' : (run.noted note).context.feed.sight = run.context.feed.sight := rfl
    rw [Option.map_some]
    dsimp only
    rw [ha, hm, hrepaired, hsight, hsight']
    split
    · rfl
    · split
      · rfl
      · split
        · rfl
        · exact congrArg Step.next
            (Run.eq_noted_of_silent run (.recovered run.context.feed.cursor) rfl rfl rfl)

private theorem reduce_noted {reducer : Reducer υ} (hr : p.reducer = some reducer) (run : Run υ)
    (expression : String) (k len : Nat) :
    (p.noting note).reduce (run.noted note) expression k len =
      (p.reduce run expression k len).noted note := by
  have hr' : (p.noting note).reducer = some (Reducer.noting note reducer) := by
    rw [noting, hr]
    rfl
  have hstates : (run.noted note).context.states = run.context.states := rfl
  have hnodes : (run.noted note).context.nodes = run.context.nodes := rfl
  unfold reduce
  dsimp only
  rw [hr, hr', hstates, hnodes]
  split
  · rfl
  · cases run.context.states.drop len with
    | nil => rfl
    | cons exposed rest =>
      have ht : (p.noting note).table = p.table := rfl
      dsimp only
      rw [ht]
      cases p.table.goto? exposed expression with
      | none => rfl
      | some next =>
        exact congrArg Step.next (Run.eq_noted_of_events run
          (.reduced (.node expression k (run.context.nodes.take len).reverse) next) rfl rfl)

/-- The parser that notes takes the same steps, and notes the nodes that they build. -/
theorem step_noting (hr : p.reducer ≠ none) (run : Run υ) :
    (p.noting note).step (run.noted note) = (p.step run).noted note := by
  obtain ⟨reducer, hr⟩ := Option.ne_none_iff_exists'.1 hr
  have hinput : (run.noted note).context.feed.input = run.context.feed.input := rfl
  have hcursor : (run.noted note).context.feed.cursor = run.context.feed.cursor := rfl
  have hstates : (run.noted note).context.states = run.context.states := rfl
  have hname : (run.noted note).context.feed.lookaheadName = run.context.feed.lookaheadName := rfl
  have htable : (p.noting note).table = p.table := rfl
  unfold step
  dsimp only
  rw [hinput, hcursor, hstates, hname, htable]
  split
  · rfl
  · cases run.context.states with
    | nil => rfl
    | cons q below =>
      dsimp only
      cases p.table.action? q run.context.feed.lookaheadName with
      | none => exact recover_noted run q
      | some act =>
        cases act with
        | accept =>
          exact congrArg Step.left (Run.eq_noted_of_silent run (.accepted q) rfl rfl rfl)
        | shift next => exact shift_noted run next
        | reduce expression k len => exact reduce_noted hr run expression k len

private theorem finish_noting (run : Run υ) : (p.noting note).finish (run.noted note) =
    ((p.finish run).1, (p.finish run).2.noted note) := by
  have hinput : (run.noted note).context.feed.input = run.context.feed.input := rfl
  have hcursor : (run.noted note).context.feed.cursor = run.context.feed.cursor := rfl
  have hnodes : (run.noted note).context.nodes = run.context.nodes := rfl
  unfold finish
  dsimp only
  rw [hinput, hcursor, hnodes]
  match run.context.nodes with
  | [] => rfl
  | _ :: _ :: _ => rfl
  | [node] =>
    dsimp only
    split
    · rfl
    · split
      · rw [onBadInput_noting]
        cases p.onBadInput with
        | none => rfl
        | some hook =>
          have hhandled : (hook.ignoring (run.noted note).context).1 = (hook run.context).1 := rfl
          rw [Option.map_some]
          dsimp only
          rw [hhandled]
          split
          · rfl
          · rfl
      · rfl

private theorem loop_noting (hr : p.reducer ≠ none) (fuel : Nat) (run : Run υ) :
    (p.noting note).loop fuel (run.noted note) =
      ((p.loop fuel run).1, (p.loop fuel run).2.noted note) := by
  induction fuel generalizing run with
  | zero => rfl
  | succ fuel ih =>
    rw [loop, loop, step_noting hr]
    cases p.step run with
    | next after => exact ih after
    | left after => exact finish_noting after
    | failed e after => rfl

private theorem leads_noting_iff (hr : p.reducer ≠ none) {last : Run (υ × List β)} :
    (p.noting note).Leads (run.noted note) last ↔ ∃ after, p.Leads run after ∧
      last = after.noted note := by
  constructor
  · intro h
    induction h with
    | refl => exact ⟨run, .refl, rfl⟩
    | tail _ hs ih =>
      obtain ⟨mid, hl, rfl⟩ := ih
      rw [step_noting hr] at hs
      cases hn : p.step mid with
      | next after =>
        rw [hn] at hs
        cases hs
        exact ⟨after, hl.tail hn, rfl⟩
      | left after =>
        rw [hn] at hs
        cases hs
      | failed e after =>
        rw [hn] at hs
        cases hs
  · rintro ⟨after, hl, rfl⟩
    induction hl with
    | refl => exact .refl
    | tail _ hs ih =>
      refine ih.tail ?_
      rw [step_noting hr, hs]
      rfl

end Parser

section Recording

variable {υ : Type}

/-- The definition with actions that also note whose they are and which node they are shown. -/
def Definition.recording (d : Definition (Reducer υ)) :
    Definition (Reducer (υ × List (String × Nat × Tree))) :=
  ⟨d.name, d.alternatives.mapIdx fun k a =>
    ⟨a.symbols, a.action.map (Reducer.noting fun node => some (d.name, k, node))⟩⟩

private theorem Definition.symbols_recording (d : Definition (Reducer υ)) :
    d.recording.alternatives.map (·.symbols) = d.alternatives.map (·.symbols) := by
  apply List.ext_getElem?
  intro k
  simp [recording, Function.comp_def]

private theorem Definition.bare_recording (d : Definition (Reducer υ)) (β : Type) :
    d.recording.bare β = d.bare β := by
  have h := congrArg (List.map fun symbols => (⟨symbols, none⟩ : Alternative β)) d.symbols_recording
  rw [List.map_map, List.map_map] at h
  exact congrArg (Definition.mk d.name) h

namespace Grammar

def recording (g : Grammar (Reducer υ)) : Grammar (Reducer (υ × List (String × Nat × Tree))) where
  definitions := g.definitions.map (·.recording)
  distinct := by
    rw [List.map_map]
    exact g.distinct
  unrepeated := by
    intro e he
    obtain ⟨d, hd, rfl⟩ := List.mem_map.1 he
    rw [d.symbols_recording]
    exact g.unrepeated d hd
  augmented := g.augmented
  augmented_eq := by
    rw [← AugmentedGrammar.ofDefinitions_bare (β := Unit), List.map_map]
    have hbare : (Definition.bare Unit ∘ Definition.recording : Definition (Reducer υ) → _) =
      Definition.bare Unit := funext fun d => d.bare_recording Unit
    rw [hbare, AugmentedGrammar.ofDefinitions_bare]
    exact g.augmented_eq

/-- The action that belongs to a node, with the name and the number of its alternative. -/
def call? (g : Grammar (Reducer υ)) : Tree → Option (String × Nat × Tree)
  | .leaf _ => none
  | .node name k children => (g.action? name k).map fun _ => (name, k, .node name k children)

private theorem definition?_recording (g : Grammar (Reducer υ)) (name : String) :
    g.recording.definition? name = (g.definition? name).map (·.recording) :=
  List.find?_map

private theorem action?_eq {α : Type} {g : Grammar α} {name : String} {k : Nat} {d : Definition α}
    (hd : g.definition? name = some d) :
    g.action? name k = d.alternatives[k]?.bind (·.action) := by
  rw [action?, hd]
  rfl

private theorem action?_recording (g : Grammar (Reducer υ)) (name : String) (k : Nat) :
    g.recording.action? name k =
      (g.action? name k).map (Reducer.noting fun node => some (name, k, node)) := by
  have hd := g.definition?_recording name
  cases hdef : g.definition? name with
  | none =>
    rw [hdef] at hd
    rw [action?, action?, hd, hdef]
    rfl
  | some d =>
    rw [hdef, Option.map_some] at hd
    obtain ⟨-, rfl⟩ := g.definition?_eq_some_iff.1 hdef
    rw [action?_eq hd, action?_eq hdef, Definition.recording, List.getElem?_mapIdx]
    cases d.alternatives[k]? with
    | none => rfl
    | some a => rfl

/-- The actions that note are called for the nodes that they belong to. -/
theorem reducer_recording (g : Grammar (Reducer υ)) :
    g.recording.reducer = Reducer.noting g.call? g.reducer := by
  funext context
  have htop : context.unlogged.top? = context.top? := rfl
  have hfeed : context.feed = context.unlogged.feed.logged (context.feed.user.2 ++ []) := by
    rw [List.append_nil]
    rfl
  unfold reducer Reducer.noting
  dsimp only
  rw [htop]
  cases hnode : context.top? with
  | none => exact hfeed
  | some tree =>
    cases tree with
    | leaf token => exact hfeed
    | node name k children =>
      dsimp only
      rw [action?_recording, Option.bind_some, call?]
      cases g.action? name k with
      | none => exact hfeed
      | some act =>
        dsimp only [Option.map_some]
        rw [Reducer.noting, hnode]
        rfl

end Grammar

end Recording

namespace Parser

variable {υ β : Type}

/-- Over a context, `o` runs as `p` does and has a list beside the user's value: at the head of the
loop what is to be noted of the nodes on the stack, and with a tree what is to be noted of the nodes
of the tree, each node behind the nodes below it. -/
structure Logs (p : Parser υ) (o : Parser (υ × List β)) (context : Context υ)
    (note : Tree → Option β) : Prop where
  head : ∀ last, o.Leads (.start o (context.logged [])) last ↔ ∃ run,
    p.Leads (.start p context) run ∧
      last = run.logged ((Tree.postorderAll run.context.nodes.reverse).filterMap note)
  tree : ∀ fuel tree final, p.parse fuel context = (.tree tree, final) →
    o.parse fuel (context.logged []) = (.tree tree, final.logged (tree.postorder.filterMap note))

private theorem logs_noting {p : Parser υ} (hr : p.reducer ≠ none) (context : Context υ)
    (note : Tree → Option β) : p.Logs (p.noting note) context note := by
  have hstart : Run.start (p.noting note) (context.logged []) =
    (Run.start p context).noted note := rfl
  constructor
  · intro last
    rw [hstart, leads_noting_iff hr]
    constructor
    · rintro ⟨run, hl, rfl⟩
      exact ⟨run, hl, by rw [Run.noted, built_of_leads hl]⟩
    · rintro ⟨run, hl, rfl⟩
      exact ⟨run, hl, by rw [Run.noted, built_of_leads hl]⟩
  · intro fuel tree final h
    have hbuilt := built_of_tree h
    rw [parse] at h
    rw [parse, hstart, loop_noting hr, h, Run.noted, hbuilt]

end Parser

/-- The node belongs to an alternative of the grammar, and the action that is called for it is the
one of this alternative, if it has one. -/
def Grammar.Serves {υ : Type} (g : Grammar (Reducer υ)) (node : Tree) : Prop :=
  ∃ name k children d a, node = .node name k children ∧ g.definition? name = some d ∧
    d.alternatives[k]? = some a ∧ g.call? node = a.action.map fun _ => (name, k, node)

private theorem Tree.Derived.serves {υ : Type} {g : Grammar (Reducer υ)} {tree node : Tree}
    (h : tree.Derived g) (hn : node ∈ tree.postorder) : g.Serves node := by
  obtain ⟨name, k, children, d, a, rfl, hd, ha⟩ := h.alternative_of_mem hn
  refine ⟨name, k, children, d, a, rfl, hd, ha, ?_⟩
  rw [Grammar.call?, Grammar.action?_eq hd, ha, Option.bind_some]

namespace Parser

variable {υ : Type} {p : Parser υ} {context : Context υ} {run : Run υ}

private theorem serves_of_leads {g : Grammar (Reducer υ)} (ht : Table.ofGrammar g = .ok p.table)
    (hl : p.Leads (.start p context) run) {node : Tree}
    (hn : node ∈ Tree.postorderAll run.context.nodes.reverse) : g.Serves node := by
  obtain ⟨γ, hst⟩ := stacked_of_leads ht hl
  obtain ⟨tree, hm, hn⟩ := Tree.mem_postorderAll.1 hn
  exact (hst.derived tree (List.mem_reverse.1 hm)).serves hn

/-- With any table, input, hook and reducer, the reducer is shown the nodes on the stack, each behind
the nodes below it; and with a tree, the nodes of the tree. If it calls the actions of the grammar
that the table is made for, then every node belongs to an alternative of the grammar, and its action
is called once for the node and for no other. -/
theorem reductions_postorder (hr : p.reducer ≠ none) (context : Context υ) :
    p.Logs (p.noting some) context some ∧
    ∀ g : Grammar (Reducer υ), Table.ofGrammar g = .ok p.table → p.reducer = some g.reducer →
      p.Logs { p.noting g.call? with reducer := some g.recording.reducer } context g.call? ∧
      (∀ run, p.Leads (.start p context) run →
        ∀ node ∈ Tree.postorderAll run.context.nodes.reverse, g.Serves node) ∧
      ∀ fuel tree final, p.parse fuel context = (.tree tree, final) →
        ∀ node ∈ tree.postorder, g.Serves node := by
  refine ⟨logs_noting hr context some, fun g ht hg => ⟨?_, ?_, ?_⟩⟩
  · have hsame : { p.noting g.call? with reducer := some g.recording.reducer } =
        p.noting g.call? := by
      rw [g.reducer_recording, noting, hg]
      rfl
    rw [hsame]
    exact logs_noting hr context g.call?
  · intro run hl node hn
    exact serves_of_leads ht hl hn
  · intro fuel tree final h node hn
    obtain ⟨last, left, hl, -, hnodes, -⟩ := nodes_of_tree h
    apply serves_of_leads ht hl
    rw [hnodes, List.reverse_singleton, Tree.postorderAll_singleton]
    exact hn

/-- `S : A b ; A : a ;`, with an action for `S` that counts. -/
def tallyGrammar : Grammar (Reducer Nat) where
  definitions := [⟨"S", [⟨["A", "b"],
    some fun context => { context.feed with user := context.feed.user + 1 }⟩]⟩,
    ⟨"A", [⟨["a"], none⟩]⟩]
  distinct := by decide
  unrepeated := by decide
  augmented := pairGrammar.augmented
  augmented_eq := by decide +kernel

/-- A parser that calls the actions of `tallyGrammar`, and whose hook puts a `b` in front of what it
cannot read. -/
def tallying : Parser Nat where
  table := pairTable
  reducer := some tallyGrammar.reducer
  onBadInput := some fun context => (true, { context.feed with
    input := context.feed.input.take context.feed.cursor ++ .synthetic "b" .zero ::
      context.feed.input.drop context.feed.cursor })

/-- A run that has to be repaired shows its two nodes once each, the inner one first. -/
theorem reductions_postorder_tallying : Table.ofGrammar tallyGrammar = .ok tallying.table ∧
    tallying.reducer = some tallyGrammar.reducer ∧ ∃ inner outer final,
      tallying.parse 9 (.ofInput [⟨"a", "a", .zero⟩] 0) = (.tree outer, final) ∧
      final.context.feed.user = 1 ∧ outer = .node "S" 0 [inner, .leaf (.synthetic "b" .zero)] ∧
      (tallying.noting some).parse 9 ((Context.ofInput [⟨"a", "a", .zero⟩] 0).logged []) =
        (.tree outer, final.logged [inner, outer]) ∧
      parse { tallying.noting tallyGrammar.call? with
          reducer := some tallyGrammar.recording.reducer } 9
          ((Context.ofInput [⟨"a", "a", .zero⟩] 0).logged []) =
        (.tree outer, final.logged [("S", 0, outer)]) := by
  have hparse : tallying.parse 9 (.ofInput [⟨"a", "a", .zero⟩] 0) = (.tree (.node "S" 0
    [.node "A" 0 [.leaf ⟨"a", "a", .zero⟩], .leaf (.synthetic "b" .zero)]), _) := rfl
  have ht : Table.ofGrammar tallyGrammar = .ok tallying.table := rfl
  obtain ⟨hlogs, hgrammar⟩ := reductions_postorder (p := tallying) nofun
    (.ofInput [⟨"a", "a", .zero⟩] 0)
  exact ⟨ht, rfl, _, _, _, hparse, rfl, rfl, hlogs.tree _ _ _ hparse,
    (hgrammar tallyGrammar ht rfl).1.tree _ _ _ hparse⟩

end Parser

end CanonicalLR
