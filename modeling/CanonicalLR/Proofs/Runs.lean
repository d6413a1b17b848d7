import Mathlib.Logic.Relation
import CanonicalLR.Parser

/-! Runs step by step: what a step can do, for any table and any callbacks, and how the loop goes
through its steps. -/
namespace CanonicalLR

/-- The error says that the table does not fit its own stacks. -/
def ParseError.Structural : ParseError → Prop
  | stackTooShort .. => True
  | noGoto .. => True
  | emptyStateStack => True
  | _ => False

/-- The cursor is where it was, and so is what stands in front of it. -/
def Feed.Spares {υ : Type} (before after : Feed υ) : Prop :=
  after.cursor = before.cursor ∧
    after.input.take before.cursor = before.input.take before.cursor

/-- What stands in front of the cursor is still there, and still within the input. -/
theorem Feed.Spares.kept {υ : Type} {before after : Feed υ} (h : before.Spares after)
    (hc : before.cursor ≤ before.input.length) :
    after.cursor ≤ after.input.length ∧
      after.input.take after.cursor = before.input.take before.cursor := by
  obtain ⟨hcursor, htake⟩ := h
  have hlen := congrArg List.length htake
  rw [List.length_take, List.length_take] at hlen
  exact ⟨by omega, by rw [hcursor, htake]⟩

namespace Parser

variable {υ : Type} {p : Parser υ}

/-- The run comes back to the head of the loop as another one, after some steps or none. -/
def Leads (p : Parser υ) : Run υ → Run υ → Prop :=
  Relation.ReflTransGen fun run after => p.step run = .next after

/-- What a step can do if the loop goes on. -/
inductive Moved (p : Parser υ) (run after : Run υ) (q : Nat) : Prop
  | shift (token : Token) (next : Nat) :
      p.table.action? q token.name = some (.shift next) →
      run.context.feed.lookahead? = some token →
      after = ⟨⟨{ run.context.feed with cursor := run.context.feed.cursor + 1 },
        next :: run.context.states, .leaf token :: run.context.nodes⟩, 0,
        .shifted token next :: run.events⟩ → Moved p run after q
  | reduce (expression : String) (k len exposed next : Nat) (below : List Nat) :
      p.table.action? q run.context.feed.lookaheadName = some (.reduce expression k len) →
      run.context.states.drop len = exposed :: below →
      p.table.goto? exposed expression = some next →
      after.context.states = next :: exposed :: below →
      after.context.nodes = .node expression k (run.context.nodes.take len).reverse ::
        run.context.nodes.drop len →
      after.events = .reduced (.node expression k (run.context.nodes.take len).reverse) next ::
        run.events →
      (p.reducer = none → after.context.feed = run.context.feed) →
      (∀ reducer, p.reducer = some reducer → after.context.feed =
        reducer ⟨run.context.feed, after.context.states, after.context.nodes⟩) →
      after.attempts = run.attempts → Moved p run after q
  | recover : p.onBadInput ≠ none → after.context.states = run.context.states →
      after.context.nodes = run.context.nodes →
      after.events = .recovered run.context.feed.cursor :: run.events →
      (∀ hook, p.onBadInput = some hook → after.context.feed = (hook run.context).2) →
      p.table.action? q run.context.feed.lookaheadName = none →
      run.attempts < p.maxRecoveryAttempts → after.attempts = run.attempts + 1 →
      after.context.feed.sight ≠ run.context.feed.sight → Moved p run after q

/-- All that a step can do. -/
inductive Stepped (p : Parser υ) (run : Run υ) : Step υ → Prop
  | past : run.context.feed.input.length < run.context.feed.cursor → Stepped p run (.left run)
  | accept (q : Nat) (below : List Nat) :
      run.context.feed.cursor ≤ run.context.feed.input.length →
      run.context.states = q :: below →
      p.table.action? q run.context.feed.lookaheadName = some .accept →
      Stepped p run (.left (run.record (.accepted q)))
  | next (q : Nat) (below : List Nat) (after : Run υ) :
      run.context.feed.cursor ≤ run.context.feed.input.length →
      run.context.states = q :: below → Moved p run after q → Stepped p run (.next after)
  | bare (after : Run υ) : run.context.states = [] →
      Stepped p run (.failed .emptyStateStack after)
  | stuck (q : Nat) (below : List Nat) (expression : String) (k len : Nat) (e : ParseError)
      (after : Run υ) : run.context.states = q :: below →
      p.table.action? q run.context.feed.lookaheadName = some (.reduce expression k len) →
      (run.context.states.length ≤ len ∨ run.context.nodes.length < len ∨
        ∃ exposed rest, run.context.states.drop len = exposed :: rest ∧
          p.table.goto? exposed expression = none) → Stepped p run (.failed e after)
  | bad (e : ParseError) (after : Run υ) : ¬ e.Structural → Stepped p run (.failed e after)

variable {run : Run υ} {q : Nat} {below : List Nat}

private theorem stepped_shift (hc : run.context.feed.cursor ≤ run.context.feed.input.length)
    (hs : run.context.states = q :: below) {next : Nat}
    (ha : p.table.action? q run.context.feed.lookaheadName = some (.shift next)) :
    Stepped p run (shift run next) := by
  unfold shift
  dsimp only
  cases hl : run.context.feed.lookahead? with
  | none => exact .bad _ _ id
  | some token =>
    have hn : run.context.feed.lookaheadName = token.name := by rw [Feed.lookaheadName, hl]
    exact .next q below _ hc hs (.shift token next (hn ▸ ha) hl rfl)

private theorem stepped_reduce (hc : run.context.feed.cursor ≤ run.context.feed.input.length)
    (hs : run.context.states = q :: below) {expression : String} {k len : Nat}
    (ha : p.table.action? q run.context.feed.lookaheadName = some (.reduce expression k len)) :
    Stepped p run (p.reduce run expression k len) := by
  unfold reduce
  dsimp only
  split
  · rename_i hl
    exact .stuck q below expression k len _ _ hs ha (hl.imp id .inl)
  · rename_i hl
    cases hd : run.context.states.drop len with
    | nil => exact absurd (List.drop_eq_nil_iff.1 hd) fun h => hl (.inl h)
    | cons exposed rest =>
      dsimp only
      cases hg : p.table.goto? exposed expression with
      | none => exact .stuck q below expression k len _ _ hs ha (.inr (.inr ⟨exposed, rest, hd, hg⟩))
      | some next =>
        dsimp only
        cases hr : p.reducer with
        | none =>
          exact .next q below _ hc hs
            (.reduce expression k len exposed next rest ha hd hg rfl rfl rfl (fun _ => rfl)
              (fun reducer hn => by cases hr.symm.trans hn) rfl)
        | some reducer =>
          exact .next q below _ hc hs
            (.reduce expression k len exposed next rest ha hd hg rfl rfl rfl
              (fun hn => by cases hr.symm.trans hn)
              (fun other hn => by cases hr.symm.trans hn; rfl) rfl)

private theorem not_structural_badInput (feed : Feed υ) (state : Nat) :
    ¬ (p.badInput feed state).Structural := by
  unfold badInput
  split <;> exact id

private theorem stepped_recover (hc : run.context.feed.cursor ≤ run.context.feed.input.length)
    (hs : run.context.states = q :: below)
    (ha : p.table.action? q run.context.feed.lookaheadName = none) :
    Stepped p run (p.recover run q) := by
  unfold recover
  split
  · exact .bad _ _ (not_structural_badInput _ _)
  · rename_i hook hb
    dsimp only
    split
    · exact .bad _ _ id
    · rename_i hlt
      split
      · exact .bad _ _ (not_structural_badInput _ _)
      · split
        · exact .bad _ _ id
        · rename_i hsight
          have hfeed : ∀ other, p.onBadInput = some other →
              (hook run.context).2 = (other run.context).2 := by
            intro other hn
            cases hb.symm.trans hn
            rfl
          exact .next q below _ hc hs (.recover (by simp [hb]) rfl rfl rfl hfeed ha
            (Nat.lt_of_not_le hlt) rfl hsight)

/-- Every step does one of these. -/
theorem stepped (p : Parser υ) (run : Run υ) : Stepped p run (p.step run) := by
  unfold step
  dsimp only
  split
  · rename_i hc
    exact .past hc
  · rename_i hc
    have hc := Nat.le_of_not_lt hc
    cases hs : run.context.states with
    | nil => exact .bare _ hs
    | cons q below =>
      dsimp only
      split
      · rename_i ha
        exact stepped_recover hc hs ha
      · rename_i ha
        exact .accept q below hc hs ha
      · rename_i ha
        exact stepped_shift hc hs ha
      · rename_i ha
        exact stepped_reduce hc hs ha

/-- A step that goes on starts with the cursor within the input, and is one of those that `Moved`
lists. -/
theorem moved_of_step {after : Run υ} (h : p.step run = .next after) :
    run.context.feed.cursor ≤ run.context.feed.input.length ∧
      ∃ q below, run.context.states = q :: below ∧ Moved p run after q := by
  have hs := p.stepped run
  rw [h] at hs
  cases hs with
  | next q below after hc hs hm => exact ⟨hc, q, below, hs, hm⟩

/-- A shift reads the lookahead and sets the count of attempts back. -/
theorem step_of_shift (hc : run.context.feed.cursor ≤ run.context.feed.input.length)
    (hs : run.context.states = q :: below) {token : Token} {next : Nat}
    (hl : run.context.feed.lookahead? = some token)
    (ha : p.table.action? q token.name = some (.shift next)) :
    p.step run = .next ⟨⟨{ run.context.feed with cursor := run.context.feed.cursor + 1 },
      next :: q :: below, .leaf token :: run.context.nodes⟩, 0,
      .shifted token next :: run.events⟩ := by
  have hn : run.context.feed.lookaheadName = token.name := by rw [Feed.lookaheadName, hl]
  simp only [step, if_neg (Nat.not_lt_of_le hc), hs, hn, ha, shift, hl]

/-- The step on a reduction goes on, whatever the reducer does to the feed. -/
theorem exists_step_of_reduce (hc : run.context.feed.cursor ≤ run.context.feed.input.length)
    (hs : run.context.states = q :: below) {expression : String} {k len exposed next : Nat}
    {rest : List Nat}
    (ha : p.table.action? q run.context.feed.lookaheadName = some (.reduce expression k len))
    (hd : (q :: below).drop len = exposed :: rest) (hl : len ≤ run.context.nodes.length)
    (hg : p.table.goto? exposed expression = some next) :
    ∃ feed, p.step run = .next ⟨⟨feed, next :: exposed :: rest,
      .node expression k (run.context.nodes.take len).reverse :: run.context.nodes.drop len⟩,
      run.attempts,
      .reduced (.node expression k (run.context.nodes.take len).reverse) next :: run.events⟩ ∧
      (p.reducer = none → feed = run.context.feed) := by
  have hshort : ¬ ((q :: below).length ≤ len ∨ run.context.nodes.length < len) := by
    have := congrArg List.length hd
    simp only [List.length_drop, List.length_cons] at this ⊢
    omega
  simp only [step, if_neg (Nat.not_lt_of_le hc), hs, ha, reduce, if_neg hshort, hd, hg]
  cases hr : p.reducer with
  | none => exact ⟨_, rfl, fun _ => rfl⟩
  | some reducer => exact ⟨_, rfl, nofun⟩

/-- The step on a reduction without a reducer. -/
theorem step_of_reduce (hc : run.context.feed.cursor ≤ run.context.feed.input.length)
    (hs : run.context.states = q :: below) {expression : String} {k len exposed next : Nat}
    {rest : List Nat}
    (ha : p.table.action? q run.context.feed.lookaheadName = some (.reduce expression k len))
    (hd : (q :: below).drop len = exposed :: rest) (hl : len ≤ run.context.nodes.length)
    (hg : p.table.goto? exposed expression = some next) (hr : p.reducer = none) :
    p.step run = .next ⟨⟨run.context.feed, next :: exposed :: rest,
      .node expression k (run.context.nodes.take len).reverse :: run.context.nodes.drop len⟩,
      run.attempts,
      .reduced (.node expression k (run.context.nodes.take len).reverse) next :: run.events⟩ := by
  obtain ⟨feed, h, hf⟩ := exists_step_of_reduce hc hs ha hd hl hg
  rw [hf hr] at h
  exact h

/-- Without a hook, a cell without an action ends the run. -/
theorem step_of_none (hb : p.onBadInput = none)
    (hc : run.context.feed.cursor ≤ run.context.feed.input.length)
    (hs : run.context.states = q :: below)
    (ha : p.table.action? q run.context.feed.lookaheadName = none) :
    p.step run = .failed (p.badInput run.context.feed q) run := by
  simp only [step, if_neg (Nat.not_lt_of_le hc), hs, ha, recover, hb]

/-- The step on acceptance leaves the loop. -/
theorem step_of_accept (hc : run.context.feed.cursor ≤ run.context.feed.input.length)
    (hs : run.context.states = q :: below)
    (ha : p.table.action? q run.context.feed.lookaheadName = some .accept) :
    p.step run = .left (run.record (.accepted q)) := by
  simp only [step, if_neg (Nat.not_lt_of_le hc), hs, ha]

private theorem structural_of_reduce {expression : String} {k len : Nat} {e : ParseError}
    {after : Run υ} (h : p.reduce run expression k len = .failed e after) : e.Structural := by
  unfold reduce at h
  dsimp only at h
  split at h
  · cases h
    trivial
  · split at h
    · cases h
      trivial
    · split at h
      · cases h
        trivial
      · split at h <;> cases h

/-- The ways in which a step fails, if not on its own stacks: there is no action for the lookahead,
and no hook or one that does not help, or a token is to be read and none is left. -/
inductive Failing (p : Parser υ) (run : Run υ) (q : Nat) : ParseError → Run υ → Prop
  | refused : p.onBadInput = none →
      p.table.action? q run.context.feed.lookaheadName = none →
      Failing p run q (p.badInput run.context.feed q) run
  | declined (hook : Hook υ) (feed : Feed υ) : p.onBadInput = some hook →
      p.table.action? q run.context.feed.lookaheadName = none →
      hook run.context = (false, feed) →
      Failing p run q (p.badInput feed q) (run.withFeed feed)
  | idle (hook : Hook υ) (feed : Feed υ) : p.onBadInput = some hook →
      p.table.action? q run.context.feed.lookaheadName = none →
      hook run.context = (true, feed) → feed.sight = run.context.feed.sight →
      Failing p run q (.idleRecovery feed.cursor) (run.withFeed feed)
  | exhausted : p.onBadInput ≠ none →
      p.table.action? q run.context.feed.lookaheadName = none →
      p.maxRecoveryAttempts ≤ run.attempts →
      Failing p run q (.tooManyRecoveries run.context.feed.cursor run.attempts) run
  | starved (next : Nat) :
      p.table.action? q run.context.feed.lookaheadName = some (.shift next) →
      run.context.feed.lookahead? = none →
      Failing p run q (.unexpectedEnd run.context.feed.cursor run.context.feed.place?) run

private theorem failing_of_recover {e : ParseError} {after : Run υ}
    (ha : p.table.action? q run.context.feed.lookaheadName = none)
    (h : p.recover run q = .failed e after) : Failing p run q e after := by
  unfold recover at h
  cases hb : p.onBadInput with
  | none =>
    simp only [hb] at h
    cases h
    exact .refused hb ha
  | some hook =>
    simp only [hb] at h
    split at h
    · rename_i hmax
      cases h
      exact .exhausted (by simp [hb]) ha hmax
    · cases hh : hook run.context with
      | mk repaired feed =>
        rw [hh] at h
        cases repaired with
        | false =>
          cases h
          exact .declined hook feed hb ha hh
        | true =>
          simp only [Bool.not_true, Bool.false_eq_true, if_false] at h
          split at h
          · rename_i hsight
            cases h
            exact .idle hook feed hb ha hh hsight
          · cases h

/-- A step that fails does so in one of these ways, or on its own stacks. -/
theorem failing_of_step {e : ParseError} {after : Run υ} (h : p.step run = .failed e after)
    (he : ¬ e.Structural) :
    ∃ q below, run.context.states = q :: below ∧ Failing p run q e after := by
  unfold step at h
  dsimp only at h
  split at h
  · cases h
  cases hs : run.context.states with
  | nil =>
    rw [hs] at h
    cases h
    exact absurd trivial he
  | cons q below =>
    rw [hs] at h
    refine ⟨q, below, rfl, ?_⟩
    cases ha : p.table.action? q run.context.feed.lookaheadName with
    | none =>
      simp only [ha] at h
      exact failing_of_recover ha h
    | some act =>
      simp only [ha] at h
      cases act with
      | accept => cases h
      | shift next =>
        unfold shift at h
        cases hl : run.context.feed.lookahead? with
        | none =>
          simp only [hl] at h
          cases h
          exact .starved next ha hl
        | some token =>
          simp only [hl] at h
          cases h
      | reduce expression k len => exact absurd (structural_of_reduce h) he

/-- Without a hook a run fails, if not on its own stacks, where it has no action for its lookahead,
or where it is to read and nothing is left. -/
theorem failed_of_step (hb : p.onBadInput = none) {e : ParseError} {after : Run υ}
    (h : p.step run = .failed e after) (he : ¬ e.Structural) :
    after = run ∧ ∃ q below, run.context.states = q :: below ∧
      (p.table.action? q run.context.feed.lookaheadName = none ∧
          e = p.badInput run.context.feed q ∨
        ∃ next, p.table.action? q run.context.feed.lookaheadName = some (.shift next) ∧
          run.context.feed.lookahead? = none) := by
  obtain ⟨q, below, hs, hf⟩ := failing_of_step h he
  cases hf with
  | refused _ ha => exact ⟨rfl, q, below, hs, .inl ⟨ha, rfl⟩⟩
  | declined hook _ hh => cases hb.symm.trans hh
  | idle hook _ hh => cases hb.symm.trans hh
  | exhausted hn => exact absurd hb hn
  | starved next ha hl => exact ⟨rfl, q, below, hs, .inr ⟨next, ha, hl⟩⟩

/-- The loop is left behind the end of the input, or by acceptance. -/
theorem left_of_step {after : Run υ} (h : p.step run = .left after) :
    run.context.feed.input.length < run.context.feed.cursor ∧ after = run ∨
    run.context.feed.cursor ≤ run.context.feed.input.length ∧
      ∃ q below, run.context.states = q :: below ∧
        p.table.action? q run.context.feed.lookaheadName = some .accept ∧
        after = run.record (.accepted q) := by
  have hs := p.stepped run
  rw [h] at hs
  cases hs with
  | past hc => exact .inl ⟨hc, rfl⟩
  | accept q below hc hs ha => exact .inr ⟨hc, q, below, hs, ha, rfl⟩

/-- Leaving the loop changes nothing but the events. -/
theorem context_of_left {after : Run υ} (h : p.step run = .left after) :
    after.context = run.context := by
  rcases left_of_step h with ⟨-, rfl⟩ | ⟨-, q, below, -, -, rfl⟩
  · rfl
  · rfl

/-- All that the checks after the loop can do: the one node left is the result if the cursor is at
the end of the input, or if it is behind the end and the hook says so. -/
inductive Finished (p : Parser υ) (run : Run υ) : Outcome × Run υ → Prop
  | tree (node : Tree) (after : Run υ) : run.context.nodes = [node] →
      run.context.feed.cursor = run.context.feed.input.length → after.events = run.events →
      after.context.feed = run.context.feed → Finished p run (.tree node, after)
  | late (node : Tree) (hook : Hook υ) (after : Run υ) : run.context.nodes = [node] →
      run.context.feed.input.length < run.context.feed.cursor → p.onBadInput = some hook →
      (hook run.context).1 = true → after.events = run.events →
      Finished p run (.tree node, after)
  | failed (e : ParseError) (after : Run υ) : ¬ e.Structural → Finished p run (.error e, after)

private theorem finished (p : Parser υ) (run : Run υ) : Finished p run (p.finish run) := by
  unfold finish
  dsimp only
  split
  · rename_i node hn
    split
    · exact .failed _ _ id
    · rename_i hlt
      split
      · rename_i hgt
        cases hb : p.onBadInput with
        | none => exact .failed _ _ id
        | some hook =>
          dsimp only
          split
          · rename_i hh
            exact .late node hook _ hn hgt hb hh rfl
          · exact .failed _ _ id
      · exact .tree node _ hn (by omega) rfl rfl
  · exact .failed _ _ id

theorem finish_ne_cutShort (p : Parser υ) (run : Run υ) : (p.finish run).1 ≠ .cutShort := by
  have hf := p.finished run
  intro h
  generalize p.finish run = r at h hf
  cases hf <;> cases h

/-- How the loop ends: it is out of fuel, it fails, or it is left. -/
theorem loop_cases (p : Parser υ) (fuel : Nat) (run : Run υ) :
    ∃ last, p.Leads run last ∧ (p.loop fuel run = (.cutShort, last) ∨
      (∃ e after, p.step last = .failed e after ∧ p.loop fuel run = (.error e, after)) ∨
      ∃ after, p.step last = .left after ∧ p.loop fuel run = p.finish after) := by
  induction fuel generalizing run with
  | zero => exact ⟨run, .refl, .inl rfl⟩
  | succ fuel ih =>
    unfold loop
    cases hs : p.step run with
    | next after =>
      obtain ⟨last, hl, h⟩ := ih after
      exact ⟨last, .head hs hl, h⟩
    | left after => exact ⟨run, .refl, .inr (.inr ⟨after, hs, rfl⟩)⟩
    | failed e after => exact ⟨run, .refl, .inr (.inl ⟨e, after, hs, rfl⟩)⟩

/-- An error about the stacks comes from a step, not from the checks after the loop. -/
theorem error_of_loop {fuel : Nat} {run : Run υ} {e : ParseError}
    (h : (p.loop fuel run).1 = .error e) :
    ¬ e.Structural ∨ ∃ last after, p.Leads run last ∧ p.step last = .failed e after := by
  obtain ⟨last, hl, hc | ⟨e', after, hf, hc⟩ | ⟨after, -, hc⟩⟩ := p.loop_cases fuel run
  · rw [hc] at h
    cases h
  · rw [hc] at h
    cases h
    exact .inr ⟨last, after, hl, hf⟩
  · have hfin := p.finished after
    rw [← hc] at hfin
    generalize p.loop fuel run = r at h hfin
    cases hfin with
    | failed e' _ hb =>
      cases h
      exact .inl hb
    | tree => cases h
    | late => cases h

/-- A tree comes from the checks after a step that left the loop. -/
theorem tree_of_loop {fuel : Nat} {run final : Run υ} {tree : Tree}
    (h : p.loop fuel run = (.tree tree, final)) :
    ∃ last left, p.Leads run last ∧ p.step last = .left left ∧
      Finished p left (.tree tree, final) := by
  obtain ⟨last, hl, hc | ⟨e, after, -, hc⟩ | ⟨after, hs, hc⟩⟩ := p.loop_cases fuel run
  · rw [hc] at h
    cases h
  · rw [hc] at h
    cases h
  · exact ⟨last, after, hl, hs, h ▸ hc ▸ p.finished after⟩

/-- A tree that is returned is the one node on the stack when the loop is left. -/
theorem nodes_of_tree {fuel : Nat} {run final : Run υ} {tree : Tree}
    (h : p.loop fuel run = (.tree tree, final)) :
    ∃ last left, p.Leads run last ∧ p.step last = .left left ∧ last.context.nodes = [tree] ∧
      final.events = left.events := by
  obtain ⟨last, left, hl, hs, hf⟩ := tree_of_loop h
  refine ⟨last, left, hl, hs, ?_⟩
  rw [← context_of_left hs]
  cases hf with
  | tree _ _ hn _ he => exact ⟨hn, he⟩
  | late _ _ _ hn _ _ _ he => exact ⟨hn, he⟩

/-- A run at the head of the loop has not accepted. -/
theorem not_accepted_of_leads {context : Context υ} {run : Run υ}
    (h : p.Leads (.start p context) run) (q : Nat) : .accepted q ∉ run.events := by
  induction h with
  | refl => exact List.not_mem_nil
  | tail _ hs ih =>
    obtain ⟨-, _, -, -, hm⟩ := moved_of_step hs
    cases hm with
    | shift _ _ _ _ he =>
      subst he
      simpa using ih
    | reduce _ _ _ _ _ _ _ _ _ _ _ he =>
      rw [he]
      simpa using ih
    | recover _ _ _ he =>
      rw [he]
      simpa using ih

/-- In the runs over a context, callbacks leave the cursor and what was read before it alone: no step
but a shift changes them. -/
def Careful (p : Parser υ) (context : Context υ) : Prop :=
  ∀ run after, p.Leads (.start p context) run → p.step run = .next after →
    (∀ token state, after.events ≠ .shifted token state :: run.events) →
    run.context.feed.Spares after.context.feed

/-- In the runs over a context, the reducer leaves the cursor and the tokens alone. -/
def Passive (p : Parser υ) (context : Context υ) : Prop :=
  ∀ run after node state, p.Leads (.start p context) run → p.step run = .next after →
    after.events = .reduced node state :: run.events →
    after.context.feed.input = run.context.feed.input ∧
      after.context.feed.cursor = run.context.feed.cursor

/-- A reducer that edits nothing, on whatever context it is called. -/
theorem passive_of_reducer
    (hr : ∀ reducer, p.reducer = some reducer → ∀ c : Context υ,
      (reducer c).input = c.feed.input ∧ (reducer c).cursor = c.feed.cursor)
    (context : Context υ) : p.Passive context := by
  intro run after node state _ hs he
  obtain ⟨-, q, below, -, hm⟩ := moved_of_step hs
  cases hm with
  | shift token next _ _ h =>
    subst h
    cases he
  | reduce _ _ _ _ _ _ _ _ _ _ _ _ hnone hsome =>
    cases hr' : p.reducer with
    | none =>
      rw [hnone hr']
      exact ⟨rfl, rfl⟩
    | some reducer =>
      rw [hsome reducer hr']
      exact hr reducer hr' _
  | recover _ _ _ h =>
    rw [h] at he
    cases he

/-- Nothing edits the input in the runs over a context: there is no hook, and the reducer leaves the
input alone. -/
structure Quiet (p : Parser υ) (context : Context υ) : Prop where
  hookless : p.onBadInput = none
  passive : p.Passive context

variable {context : Context υ}

/-- Callbacks that edit nothing are careful. -/
theorem Quiet.careful (hp : p.Quiet context) : p.Careful context := by
  intro run after hl hs hne
  obtain ⟨-, q, below, -, hm⟩ := moved_of_step hs
  cases hm with
  | shift token next _ _ he => exact absurd (congrArg Run.events he) (hne token next)
  | reduce _ _ _ _ _ _ _ _ _ _ _ he =>
    obtain ⟨hi, hc⟩ := hp.passive run after _ _ hl hs he
    exact ⟨hc, by rw [hi]⟩
  | recover hn => exact absurd hp.hookless hn

/-- A step leaves the input alone, and moves the cursor forward if at all. -/
theorem Quiet.step (hp : p.Quiet context) {run after : Run υ}
    (hl : p.Leads (.start p context) run) (hs : p.step run = .next after) :
    after.context.feed.input = run.context.feed.input ∧
      run.context.feed.cursor ≤ after.context.feed.cursor := by
  obtain ⟨-, q, below, -, hm⟩ := moved_of_step hs
  cases hm with
  | shift token next _ _ he =>
    subst he
    exact ⟨rfl, Nat.le_succ _⟩
  | reduce _ _ _ _ _ _ _ _ _ _ _ he =>
    obtain ⟨hi, hc⟩ := hp.passive run after _ _ hl hs he
    exact ⟨hi, Nat.le_of_eq hc.symm⟩
  | recover hn => exact absurd hp.hookless hn

/-- If nothing edits the input, it is the same at every step. -/
theorem Quiet.input_eq (hp : p.Quiet context) {run : Run υ} (h : p.Leads (.start p context) run) :
    run.context.feed.input = context.feed.input := by
  induction h with
  | refl => rfl
  | tail hl hs ih => rw [(hp.step hl hs).1, ih]

/-- Steps that a run takes can be taken off the fuel. -/
theorem loop_of_leads {run after : Run υ} (h : p.Leads run after) :
    ∃ n, ∀ fuel, p.loop (n + fuel) run = p.loop fuel after := by
  induction h using Relation.ReflTransGen.head_induction_on with
  | refl => exact ⟨0, fun fuel => by rw [Nat.zero_add]⟩
  | head hs _ ih =>
    obtain ⟨n, hn⟩ := ih
    refine ⟨n + 1, fun fuel => ?_⟩
    rw [Nat.add_right_comm, loop, hs]
    exact hn fuel

/-- Every step leaves one event. -/
theorem length_events_of_step {after : Run υ} (h : p.step run = .next after) :
    after.events.length = run.events.length + 1 := by
  obtain ⟨-, _, -, -, hm⟩ := moved_of_step h
  cases hm with
  | shift _ _ _ _ he => rw [he, List.length_cons]
  | reduce _ _ _ _ _ _ _ _ _ _ _ he => rw [he, List.length_cons]
  | recover _ _ _ he => rw [he, List.length_cons]

/-- A run that is cut short has taken as many steps as it had fuel. -/
theorem leads_of_cutShort {fuel : Nat} {run : Run υ} (h : (p.loop fuel run).1 = .cutShort) :
    ∃ after, p.Leads run after ∧ after.events.length = run.events.length + fuel := by
  induction fuel generalizing run with
  | zero => exact ⟨run, .refl, rfl⟩
  | succ fuel ih =>
    unfold loop at h
    split at h
    · rename_i mid hs
      obtain ⟨after, hl, he⟩ := ih h
      have := length_events_of_step hs
      exact ⟨after, .head hs hl, by omega⟩
    · exact absurd h (p.finish_ne_cutShort _)
    · cases h

/-- A run that ended is not changed by more fuel. -/
theorem loop_add {fuel : Nat} {run : Run υ} (h : (p.loop fuel run).1 ≠ .cutShort) (n : Nat) :
    p.loop (fuel + n) run = p.loop fuel run := by
  induction fuel generalizing run with
  | zero => exact absurd rfl h
  | succ fuel ih =>
    rw [Nat.add_right_comm]
    unfold loop at h ⊢
    split
    · rename_i hs
      rw [hs] at h
      exact ih h
    · rfl
    · rfl

/-- A run ends in one way only, whatever fuel it is given. -/
theorem loop_unique {fuel more : Nat} {run : Run υ} (h : (p.loop fuel run).1 ≠ .cutShort)
    (h' : (p.loop more run).1 ≠ .cutShort) : p.loop fuel run = p.loop more run := by
  rw [← loop_add h more, ← loop_add h' fuel, Nat.add_comm]

/-- Input that is left is an error. -/
theorem finish_of_lt {node : Tree} (hn : run.context.nodes = [node])
    (hc : run.context.feed.cursor < run.context.feed.input.length) : p.finish run =
      (.error (.inputLeft run.context.feed.cursor run.context.feed.place?), run) := by
  simp only [finish, hn, if_pos hc]

/-- With all input read, the one node on the stack is the result. -/
theorem finish_of_eq {node : Tree} (hn : run.context.nodes = [node])
    (hc : run.context.feed.cursor = run.context.feed.input.length) : p.finish run =
      (.tree node, { run with context := { run.context with nodes := [] } }) := by
  simp only [finish, hn, hc, Nat.lt_irrefl, if_false]

/-- An accepted node at the end of the input is the result. -/
theorem loop_of_accept (hc : run.context.feed.cursor = run.context.feed.input.length)
    (hs : run.context.states = q :: below)
    (ha : p.table.action? q run.context.feed.lookaheadName = some .accept) {node : Tree}
    (hn : run.context.nodes = [node]) (fuel : Nat) : (p.loop (fuel + 1) run).1 = .tree node := by
  have hrecord : (run.record (.accepted q)).context = run.context := rfl
  rw [loop, step_of_accept (Nat.le_of_eq hc) hs ha]
  dsimp only
  rw [finish_of_eq (hrecord ▸ hn) (hrecord ▸ hc)]

end Parser

end CanonicalLR
