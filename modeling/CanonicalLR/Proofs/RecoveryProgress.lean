import CanonicalLR.Proofs.Halting
import CanonicalLR.Proofs.Recovery

/-! Recovery cannot stall the driver: between two shifts the hook is called a bounded number of times
and finitely many reductions are made, whatever the hook does to the input. -/
namespace CanonicalLR

def Feed.unread {υ : Type} (f : Feed υ) : Nat :=
  f.input.length - f.cursor

namespace Parser

/-- The recoveries since the last shift, the last event first. -/
def recoveries : List Event → Nat
  | [] => 0
  | .shifted .. :: _ => 0
  | .recovered _ :: events => recoveries events + 1
  | .reduced .. :: events => recoveries events
  | .accepted _ :: events => recoveries events

variable {α υ : Type} {g : Grammar α} {p : Parser υ} {context : Context υ} {run after : Run υ}

/-- The next step calls the hook: there is one, and what the step leads to depends on what the hook
answers. -/
def Consults (p : Parser υ) (run : Run υ) : Prop :=
  p.onBadInput ≠ none ∧ ∃ hook other,
    (p.withHook (some hook)).step run ≠ (p.withHook (some other)).step run

/-- The hook is called where there is no action, as long as there are attempts left. -/
theorem consults_iff : p.Consults run ↔ p.onBadInput ≠ none ∧
    run.context.feed.cursor ≤ run.context.feed.input.length ∧
    (∃ q below, run.context.states = q :: below ∧
      p.table.action? q run.context.feed.lookaheadName = none) ∧
    run.attempts < p.maxRecoveryAttempts := by
  constructor
  · rintro ⟨hb, hook, other, hne⟩
    have hasks : p.Asks run := by
      by_contra h
      rw [step_withHook h, step_withHook h] at hne
      exact hne rfl
    have hc : run.context.feed.cursor ≤ run.context.feed.input.length := by
      by_contra h
      simp only [step, if_pos (Nat.lt_of_not_le h)] at hne
      exact hne rfl
    rcases hasks with hlt | ⟨q, below, hq, ha⟩
    · omega
    refine ⟨hb, hc, ⟨q, below, hq, ha⟩, ?_⟩
    by_contra h
    apply hne
    simp [step, Nat.not_lt_of_le hc, hq, withHook, ha, recover, Nat.le_of_not_lt h]
  · rintro ⟨hb, hc, ⟨q, below, hq, ha⟩, hlt⟩
    -- One hook declines, the other one moves the cursor.
    refine ⟨hb, fun c => (false, c.feed),
      fun c => (true, { c.feed with cursor := c.feed.cursor + 1 }), ?_⟩
    simp [step, Nat.not_lt_of_le hc, hq, withHook, ha, recover, Nat.not_le_of_lt hlt, Feed.sight]

private theorem consults_iff_of_step (h : p.step run = .next after) :
    (p.Consults run ↔ after.events = .recovered run.context.feed.cursor :: run.events) ∧
      (p.Consults run → after.context.feed.sight ≠ run.context.feed.sight) := by
  obtain ⟨hc, q, below, hq, hm⟩ := moved_of_step h
  have hnot : ∀ act, p.table.action? q run.context.feed.lookaheadName = some act →
      ¬ p.Consults run := by
    intro act ha hcall
    obtain ⟨-, -, ⟨r, rest, hr, hnone⟩, -⟩ := consults_iff.1 hcall
    cases hq.symm.trans hr
    cases ha.symm.trans hnone
  cases hm with
  | shift token next ha hlook he =>
    have hname : run.context.feed.lookaheadName = token.name := by rw [Feed.lookaheadName, hlook]
    have hcall := hnot _ (hname ▸ ha)
    exact ⟨⟨fun h => absurd h hcall, fun h => by rw [he] at h; cases h⟩, fun h => absurd h hcall⟩
  | reduce expression k len exposed next rest ha _ _ _ _ he =>
    have hcall := hnot _ ha
    exact ⟨⟨fun h => absurd h hcall, fun h => by rw [he] at h; cases h⟩, fun h => absurd h hcall⟩
  | recover hb _ _ he _ ha hlt _ hsight =>
    have hcall : p.Consults run := consults_iff.2 ⟨hb, hc, ⟨q, below, hq, ha⟩, hlt⟩
    exact ⟨⟨fun _ => he, fun _ => hcall⟩, fun _ => hsight⟩

private theorem attempts_of_leads (h : p.Leads (.start p context) run) :
    run.attempts = recoveries run.events := by
  induction h with
  | refl => rfl
  | tail _ hs ih =>
    obtain ⟨-, q, below, -, hm⟩ := moved_of_step hs
    cases hm with
    | shift token next _ _ he =>
      rw [he]
      rfl
    | reduce _ _ _ _ _ _ _ _ _ _ _ he _ _ hn => rw [hn, he, recoveries, ih]
    | recover _ _ _ he _ _ _ hn => rw [hn, he, recoveries, ih]

section Progress

variable (ht : Table.ofGrammar g = .ok p.table) (hg : g.Fertile) (hr : p.reducer = none)
include ht hg hr

/-- Finitely many reductions are made on one lookahead: each makes a node, and only finitely many
stacks with the same leaves can be followed by it. -/
private theorem reductions_end (hl : p.Leads (.start p context) run) :
    ∃ last, p.Leads run last ∧ last.attempts = run.attempts ∧
      last.context.feed = run.context.feed ∧ ∀ next, p.step last = .next next →
        ∀ node state, next.events ≠ .reduced node state :: last.events := by
  generalize hleaves : Tree.leavesOfAll run.context.nodes.reverse = leaves
  generalize hname : run.context.feed.lookaheadName = name
  obtain ⟨bound, hbound⟩ := ((finite_followed ht hg leaves name).image Tree.countAll).bddAbove
  generalize hn : bound + 1 - Tree.countAll run.context.nodes.reverse = n
  induction n using Nat.strong_induction_on generalizing run with
  | h n ih =>
    by_cases hred : ∃ next node state, p.step run = .next next ∧
        next.events = .reduced node state :: run.events
    · obtain ⟨next, node, state, hs, he⟩ := hred
      obtain ⟨γ, hst⟩ := stacked_of_leads ht hl
      obtain ⟨-, q, below, hq, hm⟩ := moved_of_step hs
      rw [hq] at hst
      cases hm with
      | shift _ _ _ _ h =>
        rw [h] at he
        cases he
      | recover _ _ _ h =>
        rw [h] at he
        cases he
      | reduce expression k len exposed r rest ha _ _ _ hnodes _ hfeed _ hatt =>
        have hfollow : g.Followed run.context.nodes.reverse name :=
          hname ▸ followed_of_action ht hst ha
        have hle : Tree.countAll run.context.nodes.reverse ≤ bound :=
          hbound (Set.mem_image_of_mem _ ⟨hleaves, hfollow⟩)
        have hcount : Tree.countAll next.context.nodes.reverse =
            Tree.countAll run.context.nodes.reverse + 1 := by rw [hnodes, Tree.countAll_fold]
        have hfeed := hfeed hr
        obtain ⟨last, hlast, hatt', hfeed', hend⟩ := ih _ (by omega) (hl.tail hs)
          (by rw [hnodes, Tree.leavesOfAll_fold, hleaves]) (by rw [hfeed, hname]) rfl
        exact ⟨last, .head hs hlast, hatt'.trans hatt, hfeed'.trans hfeed, hend⟩
    · refine ⟨run, .refl, rfl, rfl, fun next hs node state he => ?_⟩
      exact hred ⟨next, node, state, hs, he⟩

/-- The loop is left or a token is read: there are only so many attempts, and finitely many
reductions before each. -/
private theorem exists_exit_or_shift (hl : p.Leads (.start p context) run) :
    ∃ last, p.Leads run last ∧ ∀ next, p.step last = .next next →
      ∃ token state, next.events = .shifted token state :: last.events := by
  generalize hn : p.maxRecoveryAttempts - run.attempts = n
  induction n using Nat.strong_induction_on generalizing run with
  | h n ih =>
    obtain ⟨mid, hmid, hatt, -, hend⟩ := reductions_end ht hg hr hl
    by_cases hrec : ∃ next, p.step mid = .next next ∧
        next.events = .recovered mid.context.feed.cursor :: mid.events
    · obtain ⟨next, hs, he⟩ := hrec
      have hcall := (consults_iff_of_step hs).1.2 he
      obtain ⟨-, -, -, hlt⟩ := consults_iff.1 hcall
      have hmore : next.attempts = mid.attempts + 1 := by
        rw [attempts_of_leads ((hl.trans hmid).tail hs), attempts_of_leads (hl.trans hmid), he,
          recoveries]
      obtain ⟨last, hlast, hexit⟩ := ih _ (by omega) ((hl.trans hmid).tail hs) rfl
      exact ⟨last, hmid.trans (.head hs hlast), hexit⟩
    · refine ⟨mid, hmid, fun next hs => ?_⟩
      obtain ⟨-, q, below, -, hm⟩ := moved_of_step hs
      cases hm with
      | shift token state _ _ he => exact ⟨token, state, by rw [he]⟩
      | reduce _ _ _ _ _ _ _ _ _ _ _ he => exact absurd he (hend next hs _ _)
      | recover _ _ _ he => exact absurd ⟨next, hs, he⟩ hrec

end Progress

section Shrinking

/-- The hook is never called in such a way that more tokens are left behind the call than before. -/
def Shrinking (p : Parser υ) (context : Context υ) : Prop :=
  ∀ run hook, p.Leads (.start p context) run → p.Consults run → p.onBadInput = some hook →
    (hook run.context).2.unread ≤ run.context.feed.unread

variable (hr : p.reducer = none) (hu : p.Shrinking context)
include hr hu

private theorem unread_of_step (hl : p.Leads (.start p context) run)
    (hs : p.step run = .next after) :
    after.context.feed.unread ≤ run.context.feed.unread ∧
      ∀ token state, after.events = .shifted token state :: run.events →
        after.context.feed.unread < run.context.feed.unread := by
  have hcall := (consults_iff_of_step hs).1
  obtain ⟨-, q, below, -, hm⟩ := moved_of_step hs
  cases hm with
  | shift token next _ hlook he =>
    have hlt := (List.getElem?_eq_some_iff.1 hlook).1
    subst he
    simp only [Feed.unread]
    exact ⟨by omega, fun _ _ _ => by omega⟩
  | reduce _ _ _ _ _ _ _ _ _ _ _ he hfeed =>
    rw [hfeed hr]
    refine ⟨Nat.le_refl _, fun token state h => ?_⟩
    rw [he] at h
    cases h
  | recover hb _ _ he hfeed =>
    obtain ⟨hook, hh⟩ := Option.ne_none_iff_exists'.1 hb
    rw [hfeed hook hh]
    refine ⟨hu run hook hl (hcall.2 he) hh, fun token state h => ?_⟩
    rw [he] at h
    cases h

private theorem unread_of_leads (hl : p.Leads (.start p context) run) (h : p.Leads run after) :
    after.context.feed.unread ≤ run.context.feed.unread := by
  induction h with
  | refl => exact Nat.le_refl _
  | tail hmid hs ih => exact ((unread_of_step hr hu (hl.trans hmid) hs).1).trans ih

/-- Each shift leaves fewer tokens unread, and from shift to shift the loop goes on for finitely many
steps. -/
private theorem exists_end (ht : Table.ofGrammar g = .ok p.table) (hg : g.Fertile)
    (hl : p.Leads (.start p context) run) : ∃ fuel, (p.loop fuel run).1 ≠ .cutShort := by
  generalize hn : run.context.feed.unread = n
  induction n using Nat.strong_induction_on generalizing run with
  | h n ih =>
    obtain ⟨last, hlast, hexit⟩ := exists_exit_or_shift ht hg hr hl
    obtain ⟨steps, hsteps⟩ := loop_of_leads hlast
    suffices h : ∃ fuel, (p.loop fuel last).1 ≠ .cutShort by
      obtain ⟨fuel, hf⟩ := h
      exact ⟨steps + fuel, by rwa [hsteps]⟩
    cases hs : p.step last with
    | next next =>
      obtain ⟨token, state, he⟩ := hexit next hs
      have hle := unread_of_leads hr hu hl hlast
      have hlt := (unread_of_step hr hu (hl.trans hlast) hs).2 token state he
      obtain ⟨fuel, hf⟩ := ih _ (by omega) ((hl.trans hlast).tail hs) rfl
      exact ⟨fuel + 1, by rwa [loop, hs]⟩
    | left left =>
      refine ⟨1, ?_⟩
      rw [loop, hs]
      exact p.finish_ne_cutShort left
    | failed e failed => exact ⟨1, by simp [loop, hs]⟩

end Shrinking

/-- Over the table of a grammar in which every reachable expression derives some tokens, with any
input, hook and limit of attempts, and without a reducer: between two shifts the hook is called at
most as often as the limit says, each call after which the loop goes on has changed the cursor, the
number of tokens or the name of the lookahead, and the loop always comes to its end or to another
shift. If no call makes more tokens unread, the run ends. -/
theorem recovery_progress (ht : Table.ofGrammar g = .ok p.table) (hg : g.Fertile)
    (hr : p.reducer = none) (context : Context υ) :
    (∀ run, p.Leads (.start p context) run →
      (p.Consults run → recoveries run.events < p.maxRecoveryAttempts) ∧
      (∀ after, p.step run = .next after →
        (p.Consults run ↔ after.events = .recovered run.context.feed.cursor :: run.events) ∧
        (p.Consults run → after.context.feed.sight ≠ run.context.feed.sight)) ∧
      ∃ last, p.Leads run last ∧ ∀ next, p.step last = .next next →
        ∃ token state, next.events = .shifted token state :: last.events) ∧
    (p.Shrinking context → ∃ fuel, (p.parse fuel context).1 ≠ .cutShort) := by
  refine ⟨fun run hl => ⟨fun hcall => ?_, fun after hs => consults_iff_of_step hs,
    exists_exit_or_shift ht hg hr hl⟩, fun hu => exists_end hr hu ht hg .refl⟩
  obtain ⟨-, -, -, hlt⟩ := consults_iff.1 hcall
  rwa [attempts_of_leads hl] at hlt

/-- A parser for `pairGrammar` whose hook moves the cursor over what it cannot read, at most once
between two shifts. -/
def skipping : Parser Unit where
  table := pairTable
  onBadInput := some fun context => (true, { context.feed with cursor := context.feed.cursor + 1 })
  maxRecoveryAttempts := 1

private theorem skipping_shrinking (context : Context Unit) : skipping.Shrinking context := by
  intro run hook _ _ hh
  cases hh
  simp only [Feed.unread]
  omega

/-- A hook that passes over a token is asked once, and the run ends. -/
theorem recovery_progress_skipping : Table.ofGrammar pairGrammar = .ok skipping.table ∧
    pairGrammar.Fertile ∧ skipping.Shrinking (.ofInput [⟨"x", "x", .zero⟩, ⟨"a", "a", .zero⟩] ()) ∧
    (∃ run, skipping.Leads
        (.start skipping (.ofInput [⟨"x", "x", .zero⟩, ⟨"a", "a", .zero⟩] ())) run ∧
      recoveries run.events = 1 ∧ ¬ skipping.Consults run ∧
      ∃ last, skipping.Leads run last ∧ ∀ next, skipping.step last = .next next →
        ∃ token state, next.events = .shifted token state :: last.events) ∧
    ∃ fuel, (skipping.parse fuel
      (.ofInput [⟨"x", "x", .zero⟩, ⟨"a", "a", .zero⟩] ())).1 ≠ .cutShort := by
  have hg := pairGrammar_fertile
  have ht : Table.ofGrammar pairGrammar = .ok skipping.table := rfl
  have hl : skipping.Leads
      (.start skipping (.ofInput [⟨"x", "x", .zero⟩, ⟨"a", "a", .zero⟩] ())) _ :=
    .tail .refl rfl
  obtain ⟨hruns, hends⟩ := recovery_progress ht hg rfl
    (.ofInput [⟨"x", "x", .zero⟩, ⟨"a", "a", .zero⟩] ())
  obtain ⟨hcall, -, hexit⟩ := hruns _ hl
  refine ⟨ht, hg, skipping_shrinking _, ⟨_, hl, rfl, fun h => ?_, hexit⟩,
    hends (skipping_shrinking _)⟩
  exact absurd (hcall h) (Nat.lt_irrefl 1)

end Parser

end CanonicalLR
