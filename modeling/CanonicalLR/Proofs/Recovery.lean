import CanonicalLR.Proofs.Lockstep

/-! Recovery is transparent: what is returned for a repaired input is what is returned for the same
input without callbacks, and a sentence is never repaired. -/
namespace CanonicalLR

namespace Parser

variable {α υ : Type} {g : Grammar α} {p : Parser υ} {context : Context υ} {run : Run υ}

/-- Callbacks that leave alone what was read, on whatever context they are called. -/
theorem careful_of_callbacks
    (hb : ∀ hook, p.onBadInput = some hook → ∀ c : Context υ,
      c.feed.cursor ≤ c.feed.input.length → c.feed.Spares (hook c).2)
    (hr : ∀ reducer, p.reducer = some reducer → ∀ c : Context υ,
      c.feed.cursor ≤ c.feed.input.length → c.feed.Spares (reducer c))
    (context : Context υ) : p.Careful context := by
  intro run after _ hs hne
  obtain ⟨hc, q, below, -, hm⟩ := moved_of_step hs
  cases hm with
  | shift token next _ _ he => exact absurd (congrArg Run.events he) (hne token next)
  | reduce _ _ _ _ _ _ _ _ _ _ _ _ hnone hsome =>
    cases hr' : p.reducer with
    | none =>
      rw [hnone hr']
      exact ⟨rfl, rfl⟩
    | some reducer =>
      rw [hsome reducer hr']
      exact hr reducer hr' _ hc
  | recover hb' _ _ _ hfeed =>
    obtain ⟨hook, hh⟩ := Option.ne_none_iff_exists'.1 hb'
    rw [hfeed hook hh]
    exact hb hook hh _ hc

/-- The run has come to where the hook is asked: there is no action for the lookahead, or the cursor
is behind the end of the input. -/
def Asks (p : Parser υ) (run : Run υ) : Prop :=
  run.context.feed.input.length < run.context.feed.cursor ∨
    ∃ q below, run.context.states = q :: below ∧
      p.table.action? q run.context.feed.lookaheadName = none

def withHook (p : Parser υ) (hook : Option (Hook υ)) : Parser υ :=
  { p with onBadInput := hook }

/-- Nothing else depends on the hook. -/
theorem step_withHook (h : ¬ p.Asks run) (hook : Option (Hook υ)) :
    (p.withHook hook).step run = p.step run := by
  obtain ⟨hc, ha⟩ := not_or.1 h
  unfold step
  simp only [if_neg hc]
  cases hs : run.context.states with
  | nil => rfl
  | cons q below =>
    cases hact : p.table.action? q run.context.feed.lookaheadName with
    | none => exact absurd ⟨q, below, hs, hact⟩ ha
    | some act =>
      simp only [withHook, hact]
      cases act <;> rfl

private theorem finish_withHook (hc : run.context.feed.cursor ≤ run.context.feed.input.length)
    (hook : Option (Hook υ)) : (p.withHook hook).finish run = p.finish run := by
  unfold finish
  simp only [if_neg (Nat.not_lt_of_le hc)]

private theorem loop_withHook (h : ∀ after, p.Leads run after → ¬ p.Asks after)
    (hook : Option (Hook υ)) (fuel : Nat) : (p.withHook hook).loop fuel run = p.loop fuel run := by
  induction fuel generalizing run with
  | zero => rfl
  | succ fuel ih =>
    have hn := h run .refl
    rw [loop, loop, step_withHook hn]
    cases hs : p.step run with
    | next after => exact ih fun last hl => h last (.head hs hl)
    | failed e after => rfl
    | left after =>
      rcases left_of_step hs with ⟨hlt, -⟩ | ⟨hc, q, below, -, -, rfl⟩
      · exact absurd (.inl hlt) hn
      · have hc : (run.record (.accepted q)).context.feed.cursor ≤
            (run.record (.accepted q)).context.feed.input.length := hc
        exact finish_withHook hc hook

private theorem not_asks_of_step {after : Run υ} (hs : (p.withHook none).step run = .next after) :
    ¬ p.Asks run := by
  obtain ⟨hc, q, below, hq, hm⟩ := moved_of_step hs
  rintro (hlt | ⟨r, rest, hr, hnone⟩)
  · omega
  · rw [hq] at hr
    cases hr
    cases hm with
    | shift token next ha hlook =>
      have hname : run.context.feed.lookaheadName = token.name := by rw [Feed.lookaheadName, hlook]
      rw [hname] at hnone
      cases hnone.symm.trans ha
    | reduce expression k len exposed next rest ha => cases hnone.symm.trans ha
    | recover hb => exact absurd rfl hb

private theorem leads_of_withHook (h : (p.withHook none).Leads (.start p context) run) :
    p.Leads (.start p context) run := by
  induction h with
  | refl => exact .refl
  | tail _ hs ih =>
    have hn := not_asks_of_step hs
    rw [step_withHook hn] at hs
    exact ih.tail hs

private theorem quiet_withHook (hp : p.Passive context) : (p.withHook none).Quiet context := by
  refine ⟨rfl, fun run after node state hl hs he => ?_⟩
  have hn := not_asks_of_step hs
  rw [step_withHook hn] at hs
  exact hp run after node state (leads_of_withHook hl) hs he

section Sentence

variable (h : Table.ofGrammar g = .ok p.table) (hp : p.Passive context)
  (hs : g.Sentence (context.feed.input.map (·.name)))
include h hp hs

private theorem not_asks_withHook (hl : (p.withHook none).Leads (.start p context) run) :
    ¬ p.Asks run := by
  obtain ⟨tree, hw, hnames⟩ := hs
  have hquiet := quiet_withHook hp
  have hagree : ∀ c, Tree.firstName (tree.leaves.drop c) =
      Tree.firstName (context.feed.input.drop c) := by
    intro c
    rw [Tree.firstName_drop, Tree.firstName_drop, hnames]
  have hquiet' := parser_quiet p.table (.ofInput tree.leaves ())
  obtain ⟨twin, htwin, halike⟩ :=
    lockstep (p := p.withHook none) (o := p.table.parser) h rfl hquiet hquiet' hl fun c _ => hagree c
  rintro (hlt | ⟨q, below, hq, hnone⟩)
  · obtain ⟨hc, -⟩ := yield_of_leads hquiet.careful hl
    omega
  · rw [hquiet.lookaheadName_eq hl, ← hagree] at hnone
    exact action_of_twin h hw htwin halike hq hnone

private theorem not_asks_of_sentence (hl : p.Leads (.start p context) run) : ¬ p.Asks run := by
  suffices hl' : (p.withHook none).Leads (.start p context) run from
    not_asks_withHook h hp hs hl'
  induction hl with
  | refl => exact .refl
  | tail _ hstep ih =>
    have hn := not_asks_withHook h hp hs ih
    rw [← step_withHook hn none] at hstep
    exact ih.tail hstep

/-- A sentence is accepted, whatever the callbacks do with the user's value. -/
theorem exists_tree_of_sentence : ∃ fuel tree, (p.parse fuel context).1 = .tree tree := by
  have hnot : ∀ after, p.Leads (.start p context) after → ¬ p.Asks after :=
    fun after hl => not_asks_of_sentence h hp hs hl
  have hquiet := quiet_withHook hp
  obtain ⟨run, q, below, node, hl, hq, ha, hnode, hc⟩ :=
    accepts_of_sentence (p := p.withHook none) h hquiet le_rfl (by rwa [List.take_length])
      (by rw [List.drop_length]; rfl)
  rw [← hquiet.input_eq hl] at hc
  obtain ⟨n, hloop⟩ := loop_of_leads hl
  have htree := loop_of_accept (p := p.withHook none) hc hq ha hnode 0
  rw [← hloop 1] at htree
  refine ⟨n + 1, node, ?_⟩
  rw [parse, ← loop_withHook hnot none]
  exact htree

end Sentence

/-- Over the table of a grammar, with any input, hook and reducer. If the callbacks leave alone what
was read and a tree is returned, it is also returned for the input that there is then, without
callbacks. If the input is a sentence and the reducer does not edit it, the run never comes to where
the hook is asked, it yields the same with any other hook or with none, and it yields a tree. -/
theorem recovery_transparent (h : Table.ofGrammar g = .ok p.table) (context : Context υ) :
    (p.Careful context → ∀ fuel tree final, p.parse fuel context = (.tree tree, final) →
      ∃ more, p.table.parseTokens more final.context.feed.input = .tree tree) ∧
    (p.Passive context → g.Sentence (context.feed.input.map (·.name)) →
      (∀ run, p.Leads (.start p context) run → ¬ p.Asks run) ∧
      (∀ hook fuel, (p.withHook hook).parse fuel context = p.parse fuel context) ∧
      ∃ fuel tree, (p.parse fuel context).1 = .tree tree) := by
  constructor
  · intro hp fuel tree final hparse
    obtain ⟨-, hw, hleaves⟩ := whole_of_careful h hp hparse
    rw [← hleaves]
    exact parse_of_whole h hw
  · intro hp hs
    have hnot : ∀ run, p.Leads (.start p context) run → ¬ p.Asks run :=
      fun run hl => not_asks_of_sentence h hp hs hl
    exact ⟨hnot, fun hook fuel => loop_withHook hnot hook fuel, exists_tree_of_sentence h hp hs⟩

/-- A parser for `pairGrammar` whose hook puts a `b` in front of what it cannot read. -/
def mending : Parser Unit where
  table := pairTable
  onBadInput := some fun context => (true, { context.feed with
    input := context.feed.input.take context.feed.cursor ++ .synthetic "b" .zero ::
      context.feed.input.drop context.feed.cursor })

private theorem mending_careful (context : Context Unit) : mending.Careful context := by
  apply careful_of_callbacks
  · intro hook hh c hc
    cases hh
    exact ⟨rfl, List.take_left' (List.length_take_of_le hc)⟩
  · intro reducer hr
    cases hr

/-- The hook mends `a` to `a b`, and is not asked on `a b`. -/
theorem recovery_transparent_mending : Table.ofGrammar pairGrammar = .ok mending.table ∧
    (∃ final more, mending.parse 9 (.ofInput [⟨"a", "a", .zero⟩] ()) =
        (.tree (pairTree ⟨"a", "a", .zero⟩ (.synthetic "b" .zero)), final) ∧
      pairTable.parseTokens more final.context.feed.input =
        .tree (pairTree ⟨"a", "a", .zero⟩ (.synthetic "b" .zero))) ∧
    ∀ run, mending.Leads (.start mending (.ofInput [⟨"a", "a", .zero⟩, ⟨"b", "b", .zero⟩] ())) run →
      ¬ mending.Asks run := by
  have hparse : mending.parse 9 (.ofInput [⟨"a", "a", .zero⟩] ()) =
    (.tree (pairTree ⟨"a", "a", .zero⟩ (.synthetic "b" .zero)), _) := rfl
  have hg : Table.ofGrammar pairGrammar = .ok mending.table := rfl
  obtain ⟨more, hmore⟩ := (recovery_transparent hg _).1 (mending_careful _) _ _ _ hparse
  have hp : mending.Passive (.ofInput [⟨"a", "a", .zero⟩, ⟨"b", "b", .zero⟩] ()) :=
    passive_of_reducer (fun _ hr => by cases hr) _
  have hs : pairGrammar.Sentence ["a", "b"] :=
    ⟨pairTree ⟨"a", "a", .zero⟩ ⟨"b", "b", .zero⟩, ⟨(pairTree_derived rfl rfl).2, 0, _, rfl⟩, rfl⟩
  exact ⟨hg, ⟨_, more, hparse, hmore⟩, ((recovery_transparent hg _).2 hp hs).1⟩

end Parser

end CanonicalLR
