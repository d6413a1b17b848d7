import Mathlib.Data.Finset.Powerset
import CanonicalLR.Automaton
import CanonicalLR.Proofs.Closure

/-! The automaton is the canonical collection: the state behind a sequence of symbols holds the items
that are valid there, and has an edge for each symbol that one of them expects. -/
namespace CanonicalLR

namespace AugmentedGrammar

/-- The items that are valid behind some symbols, the last of which stands first. -/
inductive Valid (g : AugmentedGrammar) : List Symbol → Item → Prop
  | start : Valid g [] ⟨acceptRule, 0, Symbol.endId⟩
  | predict {γ : List Symbol} {i j : Item} : Valid g γ i → g.Predicts i j → Valid g γ j
  | advance {γ : List Symbol} {i : Item} {s : Symbol} : Valid g γ i → g.next? i = some s →
      Valid g (s :: γ) i.advance

/-- The item is one of a rule, with its marker in the rule and a lookahead that has a number. -/
def Fits (g : AugmentedGrammar) (i : Item) : Prop :=
  ∃ rule, g.rules[i.rule]? = some rule ∧ i.marker ≤ rule.right.length ∧
    g.Known (.terminal i.lookahead)

variable {g : AugmentedGrammar}

theorem next?_eq_some_iff {i : Item} {s : Symbol} : g.next? i = some s ↔
    ∃ rule, g.rules[i.rule]? = some rule ∧ rule.right[i.marker]? = some s := by
  unfold next? remaining
  split
  · rename_i rule hr
    rw [List.head?_drop]
    exact ⟨fun h => ⟨rule, hr, h⟩, fun ⟨_, hr', h⟩ => Option.some.inj (hr.symm.trans hr') ▸ h⟩
  · rename_i hr
    simp [hr]

theorem remaining_eq_right {i : Item} {rule : Production} (hr : g.rules[i.rule]? = some rule)
    (hm : i.marker = 0) : g.remaining i = rule.right := by
  simp only [remaining, hr, hm, List.drop_zero]

theorem remaining_eq_nil_iff {i : Item} {rule : Production} (hr : g.rules[i.rule]? = some rule) :
    g.remaining i = [] ↔ rule.right.length ≤ i.marker := by
  simp only [remaining, hr, List.drop_eq_nil_iff]

/-- An item that expects a symbol expects, behind it, what the advanced item does. -/
theorem remaining_of_next? {i : Item} {s : Symbol} (h : g.next? i = some s) :
    g.remaining i = s :: g.remaining i.advance := by
  obtain ⟨rule, hr, hs⟩ := next?_eq_some_iff.1 h
  obtain ⟨hm, hs⟩ := List.getElem?_eq_some_iff.1 hs
  simp only [remaining, Item.advance, hr]
  rw [List.drop_eq_getElem_cons hm, hs]

theorem Predicts.next? {i j : Item} (h : g.Predicts i j) :
    ∃ rule, g.rules[j.rule]? = some rule ∧ g.next? i = some (.nonterminal rule.left) := by
  obtain ⟨rest, rule, hr, hrem, -, -⟩ := h
  exact ⟨rule, hr, by rw [AugmentedGrammar.next?, hrem]; rfl⟩

private theorem Predicts.fits (hg : g.Closed) {i j : Item} (h : g.Predicts i j) (hi : g.Fits i) :
    g.Fits j := by
  have hl := h.lookahead hg
  obtain ⟨rest, rule, hr, -, hm, -⟩ := h
  obtain ⟨-, -, -, hk⟩ := hi
  refine ⟨rule, hr, by omega, ?_⟩
  rcases hl with he | hl
  · rw [he]
    exact hk
  · exact hl

private theorem fits_advance {i : Item} {s : Symbol} (h : g.next? i = some s) (hi : g.Fits i) :
    g.Fits i.advance := by
  obtain ⟨rule, hr, hs⟩ := next?_eq_some_iff.1 h
  obtain ⟨-, -, -, hk⟩ := hi
  exact ⟨rule, hr, (List.getElem?_eq_some_iff.1 hs).1, hk⟩

private theorem fits_closure (hg : g.Closed) {items : List Item} (h : ∀ i ∈ items, g.Fits i)
    {j : Item} (hj : j ∈ g.closure (.ofGrammar g) items) : g.Fits j := by
  have hr := (mem_closure_iff hg).1 hj
  clear hj
  induction hr with
  | kernel hi => exact h _ hi
  | predicted _ hp ih => exact hp.fits hg ih

def kernel (g : AugmentedGrammar) (items : List Item) (s : Symbol) : List Item :=
  (items.filter fun i => g.next? i = some s).map Item.advance

/-- The kernel holds the items that were moved over the symbol. -/
theorem mem_kernel {items : List Item} {s : Symbol} {j : Item} :
    j ∈ g.kernel items s ↔ ∃ i ∈ items, g.next? i = some s ∧ i.advance = j := by
  simp [kernel, and_assoc]

private theorem kernel_append (items : List Item) (i : Item) (s : Symbol) :
    g.kernel (items ++ [i]) s =
      g.kernel items s ++ if g.next? i = some s then [i.advance] else [] := by
  by_cases h : g.next? i = some s <;> simp [kernel, h]

private theorem get?_transitions {items : ItemSet} {s : Symbol} {k : List Item} :
    (g.transitions items).get? s = some k ↔
      k = g.kernel items.toList s ∧ ∃ i ∈ items, g.next? i = some s := by
  unfold transitions
  simp only [SortedSet.mem_def]
  generalize items.toList = l
  induction l using List.reverseRecOn generalizing s k with
  | nil => simp
  | append_singleton l i ih =>
    rw [List.foldl_append, List.foldl_cons, List.foldl_nil, kernel_append]
    generalize l.foldl _ _ = d at ih
    cases hn : g.next? i with
    | none => simp [ih, hn]
    | some r =>
      have hd : (d.get? r).getD [] = g.kernel l r := by
        cases hr : d.get? r with
        | some k => exact ((ih.1 hr).1)
        | none =>
          refine (List.eq_nil_iff_forall_not_mem.2 fun j hj => ?_).symm
          obtain ⟨x, hx, hnx, -⟩ := mem_kernel.1 hj
          have := ih.2 ⟨rfl, x, hx, hnx⟩
          rw [hr] at this
          cases this
      rw [Dict.get?_insert, hd]
      by_cases hs : s = r
      · subst hs
        simp [hn, eq_comm]
      · have hs' : r ≠ s := fun h => hs h.symm
        simp [hs, hs', ih, hn]

private theorem Valid.exists_next {s : Symbol} {γ : List Symbol} {i : Item}
    (h : g.Valid (s :: γ) i) : ∃ j, g.Valid γ j ∧ g.next? j = some s := by
  generalize hδ : s :: γ = δ at h
  induction h with
  | start => cases hδ
  | predict _ _ ih => exact ih hδ
  | advance hv hs =>
    cases hδ
    exact ⟨_, hv, hs⟩

/-- The set holds the items that are valid behind some symbols. -/
def Holds (g : AugmentedGrammar) (items : ItemSet) (γ : List Symbol) : Prop :=
  ∀ i, i ∈ items ↔ g.Valid γ i

private theorem holds_initialItems (hg : g.Closed) :
    g.Holds (g.initialItems (.ofGrammar g)) [] := by
  intro i
  refine (mem_closure_iff hg).trans ⟨fun h => ?_, fun h => ?_⟩
  · induction h with
    | kernel hi => exact List.mem_singleton.1 hi ▸ .start
    | predicted _ hp ih => exact .predict ih hp
  · generalize hγ : [] = γ at h
    induction h with
    | start => exact .kernel (List.mem_singleton.2 rfl)
    | predict _ hp ih => exact .predicted (ih hγ) hp
    | advance => cases hγ

private theorem Holds.closure_kernel (hg : g.Closed) {items : ItemSet} {γ : List Symbol}
    (h : g.Holds items γ) (s : Symbol) :
    g.Holds (g.closure (.ofGrammar g) (g.kernel items.toList s)) (s :: γ) := by
  intro j
  refine (mem_closure_iff hg).trans ⟨fun hj => ?_, fun hj => ?_⟩
  · induction hj with
    | kernel hk =>
      obtain ⟨i, hi, hs, rfl⟩ := mem_kernel.1 hk
      exact .advance ((h i).1 hi) hs
    | predicted _ hp ih => exact .predict ih hp
  · generalize hγ : s :: γ = δ at hj
    induction hj with
    | start => cases hγ
    | predict _ hp ih => exact .predicted (ih hγ) hp
    | advance hi hs =>
      cases hγ
      exact .kernel (mem_kernel.2 ⟨_, (h _).2 hi, hs, rfl⟩)

private def everyItem (g : AugmentedGrammar) : List Item :=
  g.rules.zipIdx.flatMap fun x => (List.range (x.1.right.length + 1)).flatMap fun m =>
    (List.range g.terminals.length).map fun t => ⟨x.2, m, t⟩

private theorem length_everyItem : (everyItem g).length = Automaton.itemBound g := by
  have h : ∀ (rules : List Production) (first : Nat),
      ((rules.zipIdx first).flatMap fun x => (List.range (x.1.right.length + 1)).flatMap fun m =>
        (List.range g.terminals.length).map fun t => (⟨x.2, m, t⟩ : Item)).length =
      rules.foldr (fun rule n => (rule.right.length + 1) * g.terminals.length + n) 0 := by
    intro rules
    induction rules with
    | nil => exact fun _ => rfl
    | cons rule rules ih =>
      intro first
      rw [List.zipIdx_cons, List.flatMap_cons, List.length_append, ih, List.foldr_cons]
      simp
  exact h g.rules 0

private theorem Fits.mem_everyItem {i : Item} (h : g.Fits i) : i ∈ everyItem g := by
  obtain ⟨rule, hr, hm, ht⟩ := h
  refine List.mem_flatMap.2 ⟨(rule, i.rule), List.mk_mem_zipIdx_iff_getElem?.2 hr, ?_⟩
  refine List.mem_flatMap.2 ⟨i.marker, List.mem_range.2 (Nat.lt_succ_of_le hm), ?_⟩
  exact List.mem_map.2 ⟨i.lookahead, List.mem_range.2 ht, rfl⟩

private theorem length_le_of_fits {found : List ItemSet} (hn : found.Nodup)
    (hf : ∀ items ∈ found, ∀ i ∈ items, g.Fits i) :
    found.length ≤ Nat.pow 2 (Automaton.itemBound g) := by
  have hinj : Function.Injective fun items : ItemSet => items.toList.toFinset := by
    intro a b hab
    refine SortedSet.ext_mem fun i => ?_
    have := congrArg (i ∈ ·) hab
    simpa [SortedSet.mem_def] using this
  have hsub : (found.map fun items => items.toList.toFinset).toFinset ⊆
      (everyItem g).toFinset.powerset := by
    intro x hx
    obtain ⟨items, hi, rfl⟩ := List.mem_map.1 (List.mem_toFinset.1 hx)
    exact Finset.mem_powerset.2 fun i h =>
      List.mem_toFinset.2 (hf items hi i (List.mem_toFinset.1 h)).mem_everyItem
  calc found.length = (found.map fun items => items.toList.toFinset).toFinset.card := by
        rw [List.toFinset_card_of_nodup (hn.map hinj), List.length_map]
    _ ≤ 2 ^ (everyItem g).toFinset.card := by
        rw [← Finset.card_powerset]
        exact Finset.card_le_card hsub
    _ ≤ Nat.pow 2 (Automaton.itemBound g) := by
        rw [← length_everyItem]
        exact Nat.pow_le_pow_right (by omega) (List.toFinset_card_le _)

end AugmentedGrammar

namespace Automaton

open AugmentedGrammar

variable {g : AugmentedGrammar}

private theorem intern_spec (found : List ItemSet) (items : ItemSet) :
    found <+: (intern found items).2 ∧
    (intern found items).2[(intern found items).1]? = some items ∧
    (found.Nodup → (intern found items).2.Nodup) ∧
    ∀ x ∈ (intern found items).2, x ∈ found ∨ x = items := by
  unfold intern
  cases h : found.idxOf? items with
  | some n =>
    obtain ⟨hn, he, -⟩ := List.idxOf?_eq_some_iff.1 h
    exact ⟨List.prefix_rfl, List.getElem?_eq_some_iff.2 ⟨hn, by simpa using he⟩, id,
      fun _ hx => .inl hx⟩
  | none =>
    have hm : items ∉ found := by simpa using List.idxOf?_eq_none_iff.1 h
    refine ⟨List.prefix_append _ _, by simp, fun hd => ?_, fun x hx => by simpa using hx⟩
    exact List.nodup_append.2 ⟨hd, by simp, fun a ha b hb hab =>
      hm (List.mem_singleton.1 hb ▸ hab ▸ ha)⟩

private theorem connect_spec (entries : List (Symbol × List Item))
    (hk : (entries.map (·.1)).Nodup) (found : List ItemSet) (edges : Dict Symbol Nat) :
    let r := connect g (.ofGrammar g) found entries edges
    found <+: r.2 ∧ (found.Nodup → r.2.Nodup) ∧
    (∀ x ∈ r.2, x ∈ found ∨ ∃ e ∈ entries, x = g.closure (.ofGrammar g) e.2) ∧
    (∀ e ∈ entries, ∃ n, r.1.get? e.1 = some n ∧
      r.2[n]? = some (g.closure (.ofGrammar g) e.2)) ∧
    ∀ s, s ∉ entries.map (·.1) → r.1.get? s = edges.get? s := by
  induction entries generalizing found edges with
  | nil => exact ⟨List.prefix_rfl, id, fun _ hx => .inl hx, by simp, fun _ _ => rfl⟩
  | cons e entries ih =>
    obtain ⟨s, kernel⟩ := e
    obtain ⟨hs, hk⟩ := List.nodup_cons.1 hk
    obtain ⟨hp, hn, hd, hm⟩ := intern_spec found (g.closure (.ofGrammar g) kernel)
    obtain ⟨hp', hd', hm', ht, hold⟩ := ih hk (intern found (g.closure (.ofGrammar g) kernel)).2
      (edges.insert s (intern found (g.closure (.ofGrammar g) kernel)).1)
    refine ⟨hp.trans hp', hd' ∘ hd, fun x hx => ?_, fun e he => ?_, fun x hx => ?_⟩
    · rcases hm' x hx with hx | ⟨e, he, hx⟩
      · exact (hm x hx).imp id fun hx => ⟨_, List.mem_cons_self, hx⟩
      · exact .inr ⟨e, List.mem_cons_of_mem _ he, hx⟩
    · rcases List.mem_cons.1 he with rfl | he
      · refine ⟨_, (hold s hs).trans (by rw [Dict.get?_insert, if_pos rfl]), ?_⟩
        obtain ⟨l, hl⟩ := hp'
        rw [connect, ← hl, List.getElem?_append_left (List.getElem?_eq_some_iff.1 hn).1, hn]
      · exact ht e he
    · have hne : x ≠ s := fun h => hx (h ▸ List.mem_cons_self)
      have hx' : x ∉ entries.map (·.1) := fun h => hx (List.mem_cons_of_mem _ h)
      exact (hold x hx').trans (by rw [Dict.get?_insert, if_neg hne])

private theorem exists_edge_of_new {entries : List (Symbol × List Item)}
    (hk : (entries.map (·.1)).Nodup) {found : List ItemSet} (hd : found.Nodup)
    {edges : Dict Symbol Nat} {n : Nat} (hn : found.length ≤ n)
    (hlt : n < (connect g (.ofGrammar g) found entries edges).2.length) :
    ∃ s, (connect g (.ofGrammar g) found entries edges).1.get? s = some n := by
  obtain ⟨⟨l, hl⟩, hnodup, hm, ht, -⟩ := connect_spec (g := g) entries hk found edges
  have hnodup := hnodup hd
  generalize connect g (.ofGrammar g) found entries edges = r at *
  rcases hm _ (List.getElem_mem hlt) with hold | ⟨e, he, hnew⟩
  · -- an old item set has an old number, and no item set has two
    obtain ⟨m, hm, hx⟩ := List.getElem_of_mem hold
    have hsame : r.2[m]? = r.2[n]? := by
      rw [← hl, List.getElem?_append_left hm, hl, List.getElem?_eq_getElem hm, hx,
        List.getElem?_eq_getElem hlt]
    have := (List.getElem?_inj (by rw [← hl, List.length_append]; omega) hnodup).1 hsame
    omega
  · obtain ⟨m, hedge, hx⟩ := ht e he
    have hsame : r.2[n]? = r.2[m]? := by rw [hx, List.getElem?_eq_getElem hlt, hnew]
    obtain rfl := (List.getElem?_inj hlt hnodup).1 hsame
    exact ⟨e.1, hedge⟩

private def Leads (g : AugmentedGrammar) (found : List ItemSet) (items : ItemSet)
    (edges : Dict Symbol Nat) : Prop :=
  ∀ s, (∀ n, edges.get? s = some n →
      found[n]? = some (g.closure (.ofGrammar g) (g.kernel items.toList s))) ∧
    ((∃ n, edges.get? s = some n) ↔ ∃ i ∈ items, g.next? i = some s)

/-- What holds while item sets are expanded: those found are distinct and fit the grammar, those that
are done have their edges, and each but the first is the target of an edge of one found before. The
edges of those before that one lead to what was found earlier. -/
private structure Progress (g : AugmentedGrammar) (found : List ItemSet)
    (done : List (Dict Symbol Nat)) : Prop where
  distinct : found.Nodup
  first : found[start]? = some (g.initialItems (.ofGrammar g))
  fits : ∀ items ∈ found, ∀ i ∈ items, g.Fits i
  behind : done.length ≤ found.length
  leads : ∀ (q : Nat) (items : ItemSet) (edges : Dict Symbol Nat), found[q]? = some items →
    done[q]? = some edges → Leads g found items edges
  origin : ∀ q, q ≠ start → q < found.length →
    ∃ p edges s, p < q ∧ done[p]? = some edges ∧ edges.get? s = some q ∧
      ∀ o < p, ∀ earlier x r, done[o]? = some earlier → earlier.get? x = some r → r < q

private theorem Leads.mono {found more : List ItemSet} {items : ItemSet} {edges : Dict Symbol Nat}
    (h : Leads g found items edges) (hp : found <+: more) : Leads g more items edges := by
  obtain ⟨l, rfl⟩ := hp
  refine fun s => ⟨fun n hn => ?_, (h s).2⟩
  have hf := (h s).1 n hn
  rw [List.getElem?_append_left (List.getElem?_eq_some_iff.1 hf).1, hf]

private theorem leads_connect (found : List ItemSet) (items : ItemSet) :
    let r := connect g (.ofGrammar g) found (g.transitions items).entries .empty
    Leads g r.2 items r.1 := by
  obtain ⟨-, -, -, ht, hold⟩ := connect_spec (g := g) _ (g.transitions items).nodup found .empty
  have hkey : ∀ s n, (connect g (.ofGrammar g) found (g.transitions items).entries .empty).1.get? s =
      some n → ∃ k, (s, k) ∈ (g.transitions items).entries := by
    intro s n hn
    by_contra hs
    rw [hold s fun hm => ?_] at hn
    · cases hn
    · obtain ⟨e, he, rfl⟩ := List.mem_map.1 hm
      exact hs ⟨e.2, he⟩
  refine fun s => ⟨fun n hn => ?_, fun ⟨n, hn⟩ => ?_, fun hi => ?_⟩
  · obtain ⟨k, hk⟩ := hkey s n hn
    obtain ⟨m, hm, hf⟩ := ht _ hk
    cases hm.symm.trans hn
    rw [hf, (get?_transitions.1 (Dict.get?_eq_some_iff.2 hk)).1]
  · obtain ⟨k, hk⟩ := hkey s n hn
    exact (get?_transitions.1 (Dict.get?_eq_some_iff.2 hk)).2
  · obtain ⟨n, hn, -⟩ := ht _ (Dict.get?_eq_some_iff.1 (get?_transitions.2 ⟨rfl, hi⟩))
    exact ⟨n, hn⟩

private theorem Progress.step (hg : g.Closed) {found : List ItemSet}
    {done : List (Dict Symbol Nat)} (h : Progress g found done) {items : ItemSet}
    (hi : found[done.length]? = some items) :
    let r := connect g (.ofGrammar g) found (g.transitions items).entries .empty
    Progress g r.2 (done ++ [r.1]) := by
  obtain ⟨hp, hd, hm, -, -⟩ := connect_spec (g := g) _ (g.transitions items).nodup found .empty
  have hlead := leads_connect (g := g) found items
  obtain ⟨l, hl⟩ := hp
  have hat : ∀ q, q < found.length →
      (connect g (.ofGrammar g) found (g.transitions items).entries .empty).2[q]? = found[q]? := by
    intro q hq
    rw [← hl, List.getElem?_append_left hq]
  have hlt := (List.getElem?_eq_some_iff.1 hi).1
  refine ⟨hd h.distinct, ?_, fun x hx => ?_, ?_, fun q x edges hx he => ?_, fun q hq hlen => ?_⟩
  · rw [hat _ (List.getElem?_eq_some_iff.1 h.first).1, h.first]
  · rcases hm x hx with hx | ⟨⟨s, k⟩, hk, rfl⟩
    · exact h.fits x hx
    · rw [(get?_transitions.1 (Dict.get?_eq_some_iff.2 hk)).1]
      refine fun j hj => fits_closure hg (fun j hj => ?_) hj
      obtain ⟨i, hm, hn, rfl⟩ := mem_kernel.1 hj
      exact fits_advance hn (h.fits items (List.mem_of_getElem? hi) i hm)
  · rw [← hl, List.length_append, List.length_append]
    simp only [List.length_cons, List.length_nil]
    omega
  · have hq : q ≤ done.length := by
      have := (List.getElem?_eq_some_iff.1 he).1
      simp only [List.length_append, List.length_cons, List.length_nil] at this
      omega
    rw [hat q (by omega)] at hx
    rcases Nat.lt_or_eq_of_le hq with hq | rfl
    · rw [List.getElem?_append_left hq] at he
      exact (h.leads q x edges hx he).mono ⟨l, hl⟩
    · rw [hi] at hx
      cases hx
      rw [List.getElem?_concat_length] at he
      cases he
      exact hlead
  · by_cases hold : q < found.length
    · obtain ⟨p, edges, s, hp, he, hs, hfirst⟩ := h.origin q hq hold
      have hlt := (List.getElem?_eq_some_iff.1 he).1
      refine ⟨p, edges, s, hp, by rw [List.getElem?_append_left hlt, he], hs, ?_⟩
      intro o ho earlier x r ho' hr
      rw [List.getElem?_append_left (by omega)] at ho'
      exact hfirst o ho earlier x r ho' hr
    · have hnew : found.length ≤ q := Nat.le_of_not_lt hold
      obtain ⟨s, hs⟩ := exists_edge_of_new (g.transitions items).nodup h.distinct hnew hlen
      refine ⟨done.length, _, s, by omega, List.getElem?_concat_length, hs, ?_⟩
      intro o ho earlier x r ho' hr
      rw [List.getElem?_append_left ho] at ho'
      have hfound := List.getElem?_eq_getElem (l := found) (i := o) (by omega)
      have hr' := (h.leads o _ earlier hfound ho' x).1 r hr
      exact Nat.lt_of_lt_of_le (List.getElem?_eq_some_iff.1 hr').1 hnew

/-- The fuel is enough: there are not more item sets to expand than it allows. -/
private theorem explore_spec (hg : g.Closed) (fuel : Nat) {found : List ItemSet}
    {done : List (Dict Symbol Nat)} (h : Progress g found done)
    (hf : Nat.pow 2 (itemBound g) < fuel + done.length) :
    let r := explore g (.ofGrammar g) fuel found done
    Progress g r.1 r.2 ∧ r.1.length = r.2.length := by
  induction fuel generalizing found done with
  | zero =>
    have hl := length_le_of_fits h.distinct h.fits
    have hb := h.behind
    omega
  | succ fuel ih =>
    cases hi : found[done.length]? with
    | none =>
      rw [explore, hi]
      exact ⟨h, Nat.le_antisymm (List.getElem?_eq_none_iff.1 hi) h.behind⟩
    | some items =>
      rw [explore, hi]
      refine ih (h.step hg hi) ?_
      rw [List.length_append, List.length_singleton]
      omega

private theorem progress_start (hg : g.Closed) (hz : g.Fits ⟨acceptRule, 0, Symbol.endId⟩) :
    Progress g [g.initialItems (.ofGrammar g)] [] := by
  refine ⟨List.nodup_singleton _, rfl, fun x hx i hi => ?_, Nat.zero_le _,
    fun q x edges _ he => ?_, fun q hq hlen => ?_⟩
  · rw [List.mem_singleton.1 hx] at hi
    exact fits_closure hg (fun j hj => List.mem_singleton.1 hj ▸ hz) hi
  · cases he
  · exact absurd (Nat.lt_one_iff.1 hlen) hq

private theorem explore_add {fuel : Nat} {found : List ItemSet} {done : List (Dict Symbol Nat)}
    (h : (explore g (.ofGrammar g) fuel found done).1.length =
      (explore g (.ofGrammar g) fuel found done).2.length) (more : Nat) :
    explore g (.ofGrammar g) (fuel + more) found done =
      explore g (.ofGrammar g) fuel found done := by
  induction fuel generalizing found done with
  | zero =>
    have hl : found.length = done.length := h
    have hnone : found[done.length]? = none := List.getElem?_eq_none_iff.2 (le_of_eq hl)
    cases more with
    | zero => rfl
    | succ more => simp only [explore, hnone]
  | succ fuel ih =>
    rw [Nat.add_right_comm]
    unfold explore at h ⊢
    cases hi : found[done.length]? with
    | none => rfl
    | some items =>
      rw [hi] at h
      exact ih h

/-- Exploring ends by itself, when each item set that was found has its edges. -/
theorem explore_halts (hg : g.Closed) (hz : g.Fits ⟨acceptRule, 0, Symbol.endId⟩) :
    ∃ found done, found.length = done.length ∧ ∀ fuel, 2 ^ itemBound g < fuel →
      explore g (.ofGrammar g) fuel [g.initialItems (.ofGrammar g)] [] = (found, done) := by
  have hr := explore_spec hg (Nat.pow 2 (itemBound g) + 1) (progress_start hg hz)
    (Nat.lt_succ_self _)
  refine ⟨_, _, hr.2, fun fuel hf => ?_⟩
  obtain ⟨more, rfl⟩ := Nat.exists_eq_add_of_le hf
  exact explore_add hr.2 more

/-- What holds of the states of an automaton: the first holds the initial items, no two hold the same
items, each has its edges, and each but the first is the target of an edge of one with a smaller
number. The edges of the states before that one lead to smaller numbers. -/
structure Explored (g : AugmentedGrammar) (a : Automaton) : Prop where
  first : ∃ state, a.states[start]? = some state ∧ state.items = g.initialItems (.ofGrammar g)
  distinct : (a.states.map (·.items)).Nodup
  target {q r : Nat} {state : State} {s : Symbol} : a.states[q]? = some state →
    state.edges.get? s = some r → ∃ next, a.states[r]? = some next ∧
      next.items = g.goto (.ofGrammar g) state.items s
  expected {q : Nat} {state : State} (s : Symbol) : a.states[q]? = some state →
    ((∃ r, state.edges.get? s = some r) ↔ ∃ i ∈ state.items, g.next? i = some s)
  origin {q : Nat} : q ≠ start → q < a.states.length →
    ∃ p state s, p < q ∧ a.states[p]? = some state ∧ state.edges.get? s = some q ∧
      ∀ o < p, ∀ earlier x r, a.states[o]? = some earlier → earlier.edges.get? x = some r → r < q

/-- No two states have the same items. -/
theorem Explored.index_unique {a : Automaton} (ha : Explored g a) {q r : Nat} {state other : State}
    (hq : a.states[q]? = some state) (hr : a.states[r]? = some other)
    (h : state.items = other.items) : q = r := by
  have hindex : (a.states.map (·.items))[q]? = (a.states.map (·.items))[r]? := by
    rw [List.getElem?_map, List.getElem?_map, hq, hr, Option.map_some, Option.map_some, h]
  have hlt : q < (a.states.map (·.items)).length := by
    rw [List.length_map]
    exact (List.getElem?_eq_some_iff.1 hq).1
  exact (List.getElem?_inj hlt ha.distinct).1 hindex

private theorem explored (hg : g.Closed) (hz : g.Fits ⟨acceptRule, 0, Symbol.endId⟩) :
    Explored g (ofGrammar g (.ofGrammar g)) := by
  have hr := explore_spec hg (Nat.pow 2 (itemBound g) + 1) (progress_start hg hz)
    (Nat.lt_succ_self _)
  unfold ofGrammar
  generalize explore g _ _ _ _ = r at hr
  obtain ⟨found, done⟩ := r
  obtain ⟨h, hl⟩ := hr
  have hget : ∀ {q : Nat} {items : ItemSet}, found[q]? = some items →
      ∃ state, (List.zipWith State.mk found done)[q]? = some state ∧ state.items = items := by
    intro q items hq
    obtain ⟨hlt, -⟩ := List.getElem?_eq_some_iff.1 hq
    have hd := List.getElem?_eq_getElem (l := done) (i := q) (hl ▸ hlt)
    exact ⟨_, List.getElem?_zipWith_eq_some.2 ⟨items, _, hq, hd, rfl⟩, rfl⟩
  have hitems : (List.zipWith State.mk found done).map (·.items) = found := by
    rw [List.map_zipWith, ← List.map_uncurry_zip_eq_zipWith]
    exact List.map_fst_zip hl.le
  refine ⟨hget h.first, hitems.symm ▸ h.distinct, fun hq he => ?_, fun s hq => ?_,
    @fun q hq hlen => ?_⟩
  · obtain ⟨items, edges, hi, hd, rfl⟩ := List.getElem?_zipWith_eq_some.1 hq
    exact hget ((h.leads _ items edges hi hd _).1 _ he)
  · obtain ⟨items, edges, hi, hd, rfl⟩ := List.getElem?_zipWith_eq_some.1 hq
    exact (h.leads _ items edges hi hd s).2
  · have hlt : q < found.length := by
      rw [← hitems, List.length_map]
      exact hlen
    obtain ⟨p, edges, s, hp, hd, he, hfirst⟩ := h.origin q hq hlt
    have hi := List.getElem?_eq_getElem (Nat.lt_trans hp hlt)
    refine ⟨p, _, s, hp, List.getElem?_zipWith_eq_some.2 ⟨_, _, hi, hd, rfl⟩, he, ?_⟩
    intro o ho earlier x r ho' hr
    obtain ⟨items, edges, -, hd', rfl⟩ := List.getElem?_zipWith_eq_some.1 ho'
    exact hfirst o ho edges x r hd' hr

/-- The state of an automaton behind some symbols, the last of which stands first. -/
inductive Reads (a : Automaton) : List Symbol → Nat → Prop
  | start : Reads a [] start
  | edge {γ : List Symbol} {q r : Nat} {s : Symbol} {state : State} : Reads a γ q →
      a.states[q]? = some state → state.edges.get? s = some r → Reads a (s :: γ) r

/-- An automaton is deterministic. -/
theorem Reads.unique {a : Automaton} {γ : List Symbol} {q r : Nat} (h : a.Reads γ q)
    (hr : a.Reads γ r) : q = r := by
  induction h generalizing r with
  | start =>
    cases hr
    rfl
  | edge _ hq he ih =>
    cases hr with
    | edge hr hq' he' =>
      cases ih hr
      cases hq.symm.trans hq'
      exact Option.some.inj (he.symm.trans he')

/-- A path goes on along an edge of the state where it ends. -/
theorem Reads.edge_iff {a : Automaton} {γ : List Symbol} {q r : Nat} {s : Symbol} {state : State}
    (h : a.Reads γ q) (hq : a.states[q]? = some state) :
    a.Reads (s :: γ) r ↔ state.edges.get? s = some r := by
  refine ⟨fun hr => ?_, fun hr => .edge h hq hr⟩
  cases hr with
  | edge h' hq' he =>
    cases h.unique h'
    cases hq.symm.trans hq'
    exact he

end Automaton

namespace Grammar

open AugmentedGrammar

variable {α : Type} (g : Grammar α)

def automaton : Automaton :=
  .ofGrammar g.augmented (.ofGrammar g.augmented)

/-- Valid items have a rule, a marker within it and a lookahead with a number. -/
theorem fits_of_valid {γ : List Symbol} {i : Item} (h : g.augmented.Valid γ i) :
    g.augmented.Fits i := by
  induction h with
  | start => exact ⟨_, g.rules_zero, Nat.zero_le _, g.endId_known⟩
  | predict _ hp ih => exact hp.fits g.closed ih
  | advance _ hs ih => exact fits_advance hs ih

/-- The automaton of a grammar has explored all of its item sets. -/
theorem explored : Automaton.Explored g.augmented g.automaton :=
  Automaton.explored g.closed (g.fits_of_valid .start)

/-- The state behind some symbols holds what is valid there, and can read what is expected there. -/
theorem state_of_reads {γ : List Symbol} {q : Nat} (h : g.automaton.Reads γ q) :
    ∃ state, g.automaton.states[q]? = some state ∧ g.augmented.Holds state.items γ ∧
      ∀ s, (∃ r, state.edges.get? s = some r) ↔
        ∃ i, g.augmented.Valid γ i ∧ g.augmented.next? i = some s := by
  have hex := g.explored
  suffices hs : ∃ state, g.automaton.states[q]? = some state ∧ g.augmented.Holds state.items γ by
    obtain ⟨state, hq, hh⟩ := hs
    refine ⟨state, hq, hh, fun s => (hex.expected s hq).trans ?_⟩
    exact exists_congr fun i => and_congr_left' (hh i)
  induction h with
  | start =>
    obtain ⟨first, hf, hi⟩ := hex.first
    exact ⟨first, hf, hi ▸ holds_initialItems g.closed⟩
  | @edge γ q r s state _ hq hr ih =>
    obtain ⟨state', hq', hh⟩ := ih
    cases hq.symm.trans hq'
    obtain ⟨next, hn, he⟩ := hex.target hq hr
    exact ⟨next, hn, he ▸ hh.closure_kernel g.closed s⟩

/-- Where a symbol is expected it can be read. -/
theorem exists_reads {γ : List Symbol} {q : Nat} (h : g.automaton.Reads γ q) {i : Item}
    (hv : g.augmented.Valid γ i) {s : Symbol} (hs : g.augmented.next? i = some s) :
    ∃ r, g.automaton.Reads (s :: γ) r := by
  obtain ⟨state, hq, -, he⟩ := g.state_of_reads h
  obtain ⟨r, hr⟩ := (he s).2 ⟨i, hv, hs⟩
  exact ⟨r, .edge h hq hr⟩

/-- Where a path leads some item is valid. -/
theorem exists_valid_of_reads {γ : List Symbol} {q : Nat} (h : g.automaton.Reads γ q) :
    ∃ i, g.augmented.Valid γ i := by
  cases h with
  | start => exact ⟨_, .start⟩
  | edge h hq hr =>
    obtain ⟨state, hq', -, he⟩ := g.state_of_reads h
    cases hq.symm.trans hq'
    obtain ⟨i, hv, hs⟩ := (he _).1 ⟨_, hr⟩
    exact ⟨_, .advance hv hs⟩

/-- There is a path wherever some item is valid. -/
theorem exists_reads_of_valid {γ : List Symbol} {i : Item} (h : g.augmented.Valid γ i) :
    ∃ q, g.automaton.Reads γ q := by
  induction γ generalizing i with
  | nil => exact ⟨_, .start⟩
  | cons s γ ih =>
    obtain ⟨j, hj, hs⟩ := h.exists_next
    obtain ⟨q, hq⟩ := ih hj
    exact g.exists_reads hq hj hs

/-- Every state stands behind some symbols. -/
theorem exists_reads_of_lt {q : Nat} (hq : q < g.automaton.states.length) :
    ∃ γ, g.automaton.Reads γ q := by
  induction q using Nat.strongRecOn with
  | ind q ih =>
    by_cases h0 : q = Automaton.start
    · exact ⟨[], h0 ▸ .start⟩
    · obtain ⟨p, state, s, hp, hstate, hedge, -⟩ := g.explored.origin h0 hq
      obtain ⟨γ, hγ⟩ := ih p hp (Nat.lt_trans hp hq)
      exact ⟨s :: γ, .edge hγ hstate hedge⟩

/-- Every state is at the end of some path, and holds what is valid behind it. -/
theorem exists_holds {q : Nat} {state : State} (hq : g.automaton.states[q]? = some state) :
    ∃ γ, g.augmented.Holds state.items γ := by
  obtain ⟨γ, hγ⟩ := g.exists_reads_of_lt (List.getElem?_eq_some_iff.1 hq).1
  obtain ⟨state', hq', hh, -⟩ := g.state_of_reads hγ
  cases hq.symm.trans hq'
  exact ⟨γ, hh⟩

end Grammar

end CanonicalLR
