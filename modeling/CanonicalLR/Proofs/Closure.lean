import Mathlib.Data.Finset.Prod
import CanonicalLR.Item
import CanonicalLR.Proofs.FirstSets

/-! Closures are exact: the closure of a kernel holds the items that the kernel leads to by
predictions, and nothing else. -/
namespace CanonicalLR

namespace AugmentedGrammar

/-- In front of a nonterminal an item predicts the start of each of its rules, with each terminal
that can come behind the nonterminal. -/
def Predicts (g : AugmentedGrammar) (i j : Item) : Prop :=
  ∃ rest rule, g.rules[j.rule]? = some rule ∧ g.remaining i = .nonterminal rule.left :: rest ∧
    j.marker = 0 ∧ g.Begins (rest ++ [.terminal i.lookahead]) (some j.lookahead)

/-- The items that some items lead to by predictions. -/
inductive Reached (g : AugmentedGrammar) (kernel : List Item) : Item → Prop
  | kernel {i : Item} : i ∈ kernel → Reached g kernel i
  | predicted {i j : Item} : Reached g kernel i → g.Predicts i j → Reached g kernel j

variable {g : AugmentedGrammar}

private theorem mem_rulesOf {n r : Nat} :
    r ∈ g.rulesOf n ↔ ∃ rule, g.rules[r]? = some rule ∧ rule.left = n := by
  rw [rulesOf, List.mem_filter, List.mem_range]
  constructor
  · rintro ⟨hr, h⟩
    rw [List.getElem?_eq_getElem hr] at h
    exact ⟨_, List.getElem?_eq_getElem hr, by simpa using h⟩
  · rintro ⟨rule, hr, hn⟩
    exact ⟨(List.getElem?_eq_some_iff.1 hr).1, by simp [hr, hn]⟩

private theorem mem_predicted_iff (hg : g.Closed) {i j : Item} :
    j ∈ g.predicted (.ofGrammar g) i ↔ g.Predicts i j := by
  unfold predicted Predicts
  constructor
  · intro h
    split at h
    · rename_i n rest hrem
      obtain ⟨r, hr, h⟩ := List.mem_flatMap.1 h
      obtain ⟨t, ht, rfl⟩ := List.mem_map.1 h
      obtain ⟨rule, hrule, rfl⟩ := mem_rulesOf.1 hr
      exact ⟨rest, rule, hrule, hrem, rfl, (FirstSets.mem_lookaheads_iff hg).1 ht⟩
    · cases h
  · rintro ⟨rest, rule, hrule, hrem, hm, hb⟩
    rw [hrem]
    refine List.mem_flatMap.2 ⟨j.rule, mem_rulesOf.2 ⟨rule, hrule, rfl⟩, List.mem_map.2 ?_⟩
    exact ⟨j.lookahead, (FirstSets.mem_lookaheads_iff hg).2 hb, by rw [← hm]⟩

/-- What an item still expects has a number. -/
theorem known_of_mem_remaining (hg : g.Closed) {i : Item} {s : Symbol} (h : s ∈ g.remaining i) :
    g.Known s := by
  unfold remaining at h
  split at h
  · rename_i rule hrule
    exact (hg rule (List.mem_of_getElem? hrule)).2 s (List.mem_of_mem_drop h)
  · cases h

/-- A prediction keeps the lookahead or takes one that has a number. -/
theorem Predicts.lookahead (hg : g.Closed) {i j : Item} (h : g.Predicts i j) :
    j.lookahead = i.lookahead ∨ g.Known (.terminal j.lookahead) := by
  obtain ⟨rest, rule, hrule, hrem, -, hb⟩ := h
  rcases begins_append_terminal.1 hb with hb | ⟨-, he⟩
  · right
    refine FirstSets.begins_known hg hb (fun s hs => known_of_mem_remaining (i := i) hg ?_) rfl
    rw [hrem]
    exact List.mem_cons_of_mem _ hs
  · exact .inl he

private def pool (g : AugmentedGrammar) (kernel : List Item) : Finset Item :=
  kernel.toFinset ∪
    (Finset.range g.rules.length ×ˢ
      (Finset.range g.terminals.length ∪ (kernel.map (·.lookahead)).toFinset)).image
      fun x => ⟨x.1, 0, x.2⟩

private theorem card_pool_le (kernel : List Item) :
    (pool g kernel).card ≤ g.closureBound kernel := by
  unfold pool closureBound
  refine (Finset.card_union_le _ _).trans (Nat.add_le_add (List.toFinset_card_le _) ?_)
  refine Finset.card_image_le.trans ?_
  rw [Finset.card_product, Finset.card_range]
  refine Nat.mul_le_mul_left _ ((Finset.card_union_le _ _).trans ?_)
  rw [Finset.card_range]
  exact Nat.add_le_add_left ((List.toFinset_card_le _).trans (List.length_map _).le) _

private theorem Reached.mem_pool (hg : g.Closed) {kernel : List Item} {i : Item}
    (h : g.Reached kernel i) : i ∈ pool g kernel ∧
      (g.Known (.terminal i.lookahead) ∨ i.lookahead ∈ kernel.map (·.lookahead)) := by
  induction h with
  | @kernel i hi =>
    exact ⟨Finset.mem_union_left _ (List.mem_toFinset.2 hi), .inr (List.mem_map_of_mem hi)⟩
  | @predicted i j _ hp ih =>
    have hl : g.Known (.terminal j.lookahead) ∨ j.lookahead ∈ kernel.map (·.lookahead) := by
      rcases hp.lookahead hg with he | hk
      · rw [he]
        exact ih.2
      · exact .inl hk
    obtain ⟨rest, rule, hrule, -, hm, -⟩ := hp
    refine ⟨Finset.mem_union_right _ (Finset.mem_image.2 ⟨(j.rule, j.lookahead), ?_, ?_⟩), hl⟩
    · refine Finset.mem_product.2 ⟨Finset.mem_range.2 (List.getElem?_eq_some_iff.1 hrule).1, ?_⟩
      exact Finset.mem_union.2 (hl.imp Finset.mem_range.2 List.mem_toFinset.2)
    · rw [← hm]

private theorem foldl_discover (js : List Item) (items : ItemSet) (pending : List Item) :
    (∀ x, x ∈ (js.foldl discover (items, pending)).1 ↔ x ∈ items ∨ x ∈ js) ∧
    (∀ x, x ∈ (js.foldl discover (items, pending)).2 ↔
      x ∈ pending ∨ x ∈ (js.foldl discover (items, pending)).1 ∧ x ∉ items) ∧
    (js.foldl discover (items, pending)).1.size + pending.length =
      items.size + (js.foldl discover (items, pending)).2.length := by
  induction js generalizing items pending with
  | nil => simp
  | cons j js ih =>
    rw [List.foldl_cons, discover]
    by_cases hj : j ∈ items
    · rw [if_pos hj]
      obtain ⟨h1, h2, h3⟩ := ih items pending
      refine ⟨fun x => ?_, h2, h3⟩
      rw [h1, List.mem_cons]
      by_cases hx : x = j <;> simp [hx, hj]
    · rw [if_neg hj]
      obtain ⟨h1, h2, h3⟩ := ih (items.insert j) (j :: pending)
      refine ⟨fun x => ?_, fun x => ?_, ?_⟩
      · rw [h1, SortedSet.mem_insert, List.mem_cons]
        tauto
      · rw [h2, h1, SortedSet.mem_insert, List.mem_cons]
        by_cases hx : x = j
        · simp [hx, hj]
        · simp [hx]
      · rw [SortedSet.size_insert hj, List.length_cons] at h3
        dsimp only
        omega

/-- What holds while pending items are looked at: all items are reached from the kernel, and those
that are not pending have their predictions. -/
private structure Search (g : AugmentedGrammar) (kernel : List Item) (items : ItemSet)
    (pending : List Item) : Prop where
  reached : ∀ i ∈ items, g.Reached kernel i
  base : ∀ i ∈ kernel, i ∈ items
  queued : ∀ i ∈ pending, i ∈ items
  done : ∀ i ∈ items, i ∈ pending ∨ ∀ j, g.Predicts i j → j ∈ items

private theorem Search.step (hg : g.Closed) {kernel pending : List Item} {items : ItemSet}
    {i : Item} (h : Search g kernel items (i :: pending)) :
    Search g kernel ((g.predicted (.ofGrammar g) i).foldl discover (items, pending)).1
      ((g.predicted (.ofGrammar g) i).foldl discover (items, pending)).2 := by
  obtain ⟨h1, h2, -⟩ := foldl_discover (g.predicted (.ofGrammar g) i) items pending
  have hi := h.queued i List.mem_cons_self
  refine ⟨fun x hx => ?_, fun x hx => (h1 x).2 (.inl (h.base x hx)), fun x hx => ?_,
    fun x hx => ?_⟩
  · rcases (h1 x).1 hx with hx | hx
    · exact h.reached x hx
    · exact .predicted (h.reached i hi) ((mem_predicted_iff hg).1 hx)
  · rcases (h2 x).1 hx with hx | hx
    · exact (h1 x).2 (.inl (h.queued x (List.mem_cons_of_mem _ hx)))
    · exact hx.1
  · by_cases hold : x ∈ items
    · rcases h.done x hold with hp | hp
      · rcases List.mem_cons.1 hp with rfl | hp
        · exact .inr fun j hj => (h1 j).2 (.inr ((mem_predicted_iff hg).2 hj))
        · exact .inl ((h2 x).2 (.inl hp))
      · exact .inr fun j hj => (h1 j).2 (.inl (hp j hj))
    · exact .inl ((h2 x).2 (.inr ⟨hx, hold⟩))

private theorem Search.size_le (hg : g.Closed) {kernel pending : List Item} {items : ItemSet}
    (h : Search g kernel items pending) : items.size ≤ g.closureBound kernel := by
  refine le_trans ?_ (card_pool_le kernel)
  rw [SortedSet.size, ← List.toFinset_card_of_nodup items.nodup]
  exact Finset.card_le_card fun x hx =>
    (Reached.mem_pool hg (h.reached x (List.mem_toFinset.1 hx))).1

private theorem Search.mem_iff {kernel : List Item} {items : ItemSet}
    (h : Search g kernel items []) {j : Item} : j ∈ items ↔ g.Reached kernel j := by
  refine ⟨h.reached j, fun hj => ?_⟩
  induction hj with
  | kernel hi => exact h.base _ hi
  | predicted _ hp ih => exact ((h.done _ ih).resolve_left List.not_mem_nil) _ hp

def look (g : AugmentedGrammar) (fs : FirstSets) : ItemSet × List Item → ItemSet × List Item
  | (items, []) => (items, [])
  | (items, item :: pending) => (g.predicted fs item).foldl discover (items, pending)

/-- Pending items run out before the fuel is spent. Items are looked at once: the number of looks is
that of the items in the end less those that were there and not pending. -/
private theorem expand_rests (hg : g.Closed) {kernel pending : List Item} {items : ItemSet}
    {fuel : Nat} (h : Search g kernel items pending)
    (hf : g.closureBound kernel + pending.length < items.size + fuel) :
    ∃ final n, g.expand (.ofGrammar g) fuel (items, pending) = final ∧
      Search g kernel final [] ∧ (g.look (.ofGrammar g))^[n] (items, pending) = (final, []) ∧
      items.size + n = final.size + pending.length := by
  induction fuel generalizing items pending with
  | zero =>
    have := h.size_le hg
    omega
  | succ fuel ih =>
    cases pending with
    | nil => exact ⟨items, 0, rfl, h, rfl, rfl⟩
    | cons i pending =>
      obtain ⟨-, -, h3⟩ := foldl_discover (g.predicted (.ofGrammar g) i) items pending
      rw [List.length_cons] at hf
      obtain ⟨final, n, hexpand, hsearch, hlook, hn⟩ := ih (h.step hg) (by omega)
      refine ⟨final, n + 1, hexpand, hsearch, hlook, ?_⟩
      rw [List.length_cons]
      omega

private theorem closure_spec (hg : g.Closed) (kernel : List Item) :
    Search g kernel (g.closure (.ofGrammar g) kernel) [] ∧
      (g.look (.ofGrammar g))^[(g.closure (.ofGrammar g) kernel).size]
        (kernel.foldl discover (.empty, [])) = (g.closure (.ofGrammar g) kernel, []) := by
  obtain ⟨h1, h2, h3⟩ := foldl_discover kernel .empty []
  have hs : Search g kernel (kernel.foldl discover (.empty, [])).1
      (kernel.foldl discover (.empty, [])).2 :=
    ⟨fun x hx => .kernel (((h1 x).1 hx).resolve_left SortedSet.not_mem_empty),
      fun x hx => (h1 x).2 (.inr hx),
      fun x hx => (((h2 x).1 hx).resolve_left List.not_mem_nil).1,
      fun x hx => .inl ((h2 x).2 (.inr ⟨hx, SortedSet.not_mem_empty⟩))⟩
  have h0 : (SortedSet.empty : ItemSet).size = 0 := rfl
  rw [h0, List.length_nil] at h3
  obtain ⟨final, n, hexpand, hsearch, hlook, hn⟩ :=
    expand_rests hg hs (show _ < _ + (g.closureBound kernel + 1) by omega)
  have hclosure : g.closure (.ofGrammar g) kernel = final := hexpand
  obtain rfl : n = final.size := by omega
  rw [hclosure]
  exact ⟨hsearch, hlook⟩

/-- The search for a closure is over when each of its items was looked at. -/
theorem iterate_look (hg : g.Closed) (kernel : List Item) :
    (g.look (.ofGrammar g))^[(g.closure (.ofGrammar g) kernel).size]
      (kernel.foldl discover (.empty, [])) = (g.closure (.ofGrammar g) kernel, []) :=
  (closure_spec hg kernel).2

/-- The closure of a kernel is the least set that holds the kernel and what its members predict. -/
theorem mem_closure_iff (hg : g.Closed) {kernel : List Item} {j : Item} :
    j ∈ g.closure (.ofGrammar g) kernel ↔ g.Reached kernel j :=
  (closure_spec hg kernel).1.mem_iff

end AugmentedGrammar

end CanonicalLR
