import Mathlib.Data.List.Nodup
import CanonicalLR.Grammar

/-! The numbered form of a grammar: every symbol has a name of its own, and the rules behind the
first are the alternatives of the definitions. -/
namespace CanonicalLR

/-- A computation that succeeds has succeeded at each of its steps. -/
theorem except_bind_ok {ε α β : Type} {x : Except ε α} {f : α → Except ε β} {b : β}
    (h : (x >>= f) = .ok b) : ∃ a, x = .ok a ∧ f a = .ok b := by
  cases x with
  | error e => cases h
  | ok a => exact ⟨a, rfl, h⟩

theorem except_bind_of_ok {ε α β : Type} {x : Except ε α} {f : α → Except ε β} {a : α} {b : β}
    (h : x = .ok a) (hf : f a = .ok b) : (x >>= f) = .ok b := by
  rw [h]
  exact hf

/-- A computation that fails has failed at one of its steps, the ones before having succeeded. -/
theorem except_bind_error {ε α β : Type} {x : Except ε α} {f : α → Except ε β} {e : ε}
    (h : (x >>= f) = .error e) : x = .error e ∨ ∃ a, x = .ok a ∧ f a = .error e := by
  cases x with
  | error e =>
    cases h
    exact .inl rfl
  | ok a => exact .inr ⟨a, rfl, h⟩

namespace AugmentedGrammar

/-- The symbol has a number in the grammar. The reserved symbols are known too. -/
def Known (g : AugmentedGrammar) : Symbol → Prop
  | .terminal t => t < g.terminals.length
  | .nonterminal n => n < g.nonterminals.length

/-- The symbol is known and not reserved. -/
def Proper (g : AugmentedGrammar) : Symbol → Prop
  | .terminal t => 0 < t ∧ t < g.terminals.length
  | .nonterminal n => 0 < n ∧ n < g.nonterminals.length

/-- Symbols that are not reserved are known. -/
theorem Proper.known {g : AugmentedGrammar} {s : Symbol} (h : g.Proper s) : g.Known s := by
  cases s <;> exact h.2

def Closed (g : AugmentedGrammar) : Prop :=
  ∀ rule ∈ g.rules, g.Known (.nonterminal rule.left) ∧ ∀ s ∈ rule.right, g.Known s

/-- Terminal names that a numbering may hand out: distinct, not defined, and fit for use. -/
private def Fresh (defined terminals : List String) : Prop :=
  terminals.Nodup ∧ ∀ x ∈ terminals, x ∉ defined ∧ checkName x = .ok ()

private def Extends (defined terminals more : List String) : Prop :=
  terminals <+: more ∧ (Fresh defined terminals → Fresh defined more)

private theorem Extends.trans {defined a b c : List String} (h : Extends defined a b)
    (k : Extends defined b c) : Extends defined a c :=
  ⟨h.1.trans k.1, k.2 ∘ h.2⟩

private def Uses (g : AugmentedGrammar) (defined terminals : List String) : Prop :=
  g.nonterminals = startName :: defined ∧ endName :: terminals <+: g.terminals

private theorem Uses.mono {g : AugmentedGrammar} {defined a b : List String} (h : a <+: b)
    (hg : Uses g defined b) : Uses g defined a :=
  ⟨hg.1, (List.prefix_cons_inj _ |>.2 h).trans hg.2⟩

private theorem getD_of_prefix {l m : List String} (h : l <+: m) {i : Nat} {x : String}
    (hx : l[i]? = some x) : m.getD i "" = x ∧ i < m.length := by
  obtain ⟨r, rfl⟩ := h
  obtain ⟨hi, hx⟩ := List.getElem?_eq_some_iff.1 hx
  rw [List.getD_eq_getElem?_getD, List.getElem?_append_left hi, List.getElem?_eq_getElem hi, hx,
    List.length_append]
  exact ⟨rfl, by omega⟩

private theorem classify_spec {defined terminals more : List String} {name : String} {s : Symbol}
    (h : classify defined terminals name = .ok (s, more)) :
    Extends defined terminals more ∧ ∀ g, Uses g defined more →
      g.symbolName s = name ∧ g.Proper s := by
  unfold classify at h
  cases hd : defined.idxOf? name with
  | some n =>
    simp only [hd, Except.ok.injEq, Prod.mk.injEq] at h
    obtain ⟨rfl, rfl⟩ := h
    refine ⟨⟨List.prefix_rfl, id⟩, fun g hg => ?_⟩
    obtain ⟨hn, he, -⟩ := List.idxOf?_eq_some_iff.1 hd
    have hx : g.nonterminals[n + 1]? = some name := by
      rw [hg.1, List.getElem?_cons_succ, List.getElem?_eq_getElem hn, he]
    obtain ⟨ha, hb⟩ := getD_of_prefix List.prefix_rfl hx
    exact ⟨ha, Nat.succ_pos n, hb⟩
  | none =>
    have hnd : name ∉ defined := by simpa using List.idxOf?_eq_none_iff.1 hd
    cases ht : terminals.idxOf? name with
    | some t =>
      simp only [hd, ht, Except.ok.injEq, Prod.mk.injEq] at h
      obtain ⟨rfl, rfl⟩ := h
      refine ⟨⟨List.prefix_rfl, id⟩, fun g hg => ?_⟩
      obtain ⟨hn, he, -⟩ := List.idxOf?_eq_some_iff.1 ht
      have hx : (endName :: terminals)[t + 1]? = some name := by
        rw [List.getElem?_cons_succ, List.getElem?_eq_getElem hn, he]
      obtain ⟨ha, hb⟩ := getD_of_prefix hg.2 hx
      exact ⟨ha, Nat.succ_pos t, hb⟩
    | none =>
      have hnt : name ∉ terminals := by simpa using List.idxOf?_eq_none_iff.1 ht
      simp only [hd, ht] at h
      obtain ⟨_, hc, h⟩ := except_bind_ok h
      cases h
      refine ⟨⟨List.prefix_append _ _, fun hf => ⟨?_, fun x hx => ?_⟩⟩, fun g hg => ?_⟩
      · rw [List.nodup_append]
        refine ⟨hf.1, by simp, fun a ha b hb hab => ?_⟩
        rw [List.mem_singleton.1 hb] at hab
        exact hnt (hab ▸ ha)
      · rcases List.mem_append.1 hx with hx | hx
        · exact hf.2 x hx
        · rw [List.mem_singleton.1 hx]
          exact ⟨hnd, hc⟩
      · have hx : (endName :: (terminals ++ [name]))[terminals.length + 1]? = some name := by simp
        obtain ⟨ha, hb⟩ := getD_of_prefix hg.2 hx
        exact ⟨ha, Nat.succ_pos _, hb⟩

private theorem classifyAll_spec {defined terminals more names : List String} {ss : List Symbol}
    (h : classifyAll defined terminals names = .ok (ss, more)) :
    Extends defined terminals more ∧ ∀ g, Uses g defined more →
      ss.map g.symbolName = names ∧ ∀ s ∈ ss, g.Proper s := by
  induction names generalizing terminals ss with
  | nil =>
    cases h
    exact ⟨⟨List.prefix_rfl, id⟩, fun g _ => ⟨rfl, by simp⟩⟩
  | cons name names ih =>
    obtain ⟨⟨s, mid⟩, hs, h⟩ := except_bind_ok h
    obtain ⟨⟨rest, last⟩, hr, h⟩ := except_bind_ok h
    cases h
    obtain ⟨he, hg⟩ := classify_spec hs
    obtain ⟨he', hg'⟩ := ih hr
    refine ⟨he.trans he', fun g hu => ?_⟩
    obtain ⟨hn, hp⟩ := hg g (hu.mono he'.1)
    obtain ⟨hn', hp'⟩ := hg' g hu
    refine ⟨by rw [List.map_cons, hn, hn'], fun x hx => ?_⟩
    rcases List.mem_cons.1 hx with rfl | hx
    · exact hp
    · exact hp' x hx

/-- What the definitions say of a rule: its expression, which alternative it is, and the names on
its right side. -/
def reading (g : AugmentedGrammar) (rule : Production) : Nat × Nat × List String :=
  (rule.left, rule.alternative, rule.right.map g.symbolName)

private theorem alternativeRules_spec {defined terminals more : List String} {left index : Nat}
    {alternatives : List (List String)} {rules : List Production}
    (h : alternativeRules defined left index terminals alternatives = .ok (rules, more)) :
    Extends defined terminals more ∧ ∀ g, Uses g defined more →
      rules.map g.reading = (alternatives.zipIdx index).map (fun x => (left, x.2, x.1)) ∧
        ∀ rule ∈ rules, ∀ s ∈ rule.right, g.Proper s := by
  induction alternatives generalizing terminals index rules with
  | nil =>
    cases h
    exact ⟨⟨List.prefix_rfl, id⟩, fun g _ => ⟨rfl, by simp⟩⟩
  | cons names rest ih =>
    obtain ⟨⟨right, mid⟩, hs, h⟩ := except_bind_ok h
    obtain ⟨⟨tail, last⟩, hr, h⟩ := except_bind_ok h
    cases h
    obtain ⟨he, hg⟩ := classifyAll_spec hs
    obtain ⟨he', hg'⟩ := ih hr
    refine ⟨he.trans he', fun g hu => ?_⟩
    obtain ⟨hn, hp⟩ := hg g (hu.mono he'.1)
    obtain ⟨hn', hp'⟩ := hg' g hu
    refine ⟨?_, fun x hx => ?_⟩
    · rw [List.map_cons, hn', List.zipIdx_cons, List.map_cons, reading, hn]
    · rcases List.mem_cons.1 hx with rfl | hx
      · exact hp
      · exact hp' x hx

def readings {α : Type} (left : Nat) (definitions : List (Definition α)) :
    List (Nat × Nat × List String) :=
  (definitions.zipIdx left).flatMap fun d =>
    ((d.1.alternatives.map (·.symbols)).zipIdx).map fun x => (d.2, x.2, x.1)

theorem readings_cons {α : Type} (left : Nat) (d : Definition α) (rest : List (Definition α)) :
    readings left (d :: rest) =
      ((d.alternatives.map (·.symbols)).zipIdx.map fun x => (left, x.2, x.1)) ++
        readings (left + 1) rest := by
  rw [readings, List.zipIdx_cons, List.flatMap_cons]
  rfl

private theorem definitionRules_spec {α : Type} {defined terminals more : List String} {left : Nat}
    {definitions : List (Definition α)} {rules : List Production}
    (h : definitionRules defined left terminals definitions = .ok (rules, more)) :
    Extends defined terminals more ∧ ∀ g, Uses g defined more →
      rules.map g.reading = readings left definitions ∧
        ∀ rule ∈ rules, ∀ s ∈ rule.right, g.Proper s := by
  induction definitions generalizing terminals left rules with
  | nil =>
    cases h
    exact ⟨⟨List.prefix_rfl, id⟩, fun g _ => ⟨rfl, by simp⟩⟩
  | cons d rest ih =>
    obtain ⟨⟨front, mid⟩, hs, h⟩ := except_bind_ok h
    obtain ⟨⟨back, last⟩, hr, h⟩ := except_bind_ok h
    cases h
    obtain ⟨he, hg⟩ := alternativeRules_spec hs
    obtain ⟨he', hg'⟩ := ih hr
    refine ⟨he.trans he', fun g hu => ?_⟩
    obtain ⟨hn, hp⟩ := hg g (hu.mono he'.1)
    obtain ⟨hn', hp'⟩ := hg' g hu
    refine ⟨?_, fun x hx => ?_⟩
    · rw [List.map_append, hn, hn', readings_cons]
    · rcases List.mem_append.1 hx with hx | hx
      · exact hp x hx
      · exact hp' x hx

private theorem forM_checkName {α : Type} {definitions : List (Definition α)}
    (h : definitions.forM (fun d => checkName d.name) = .ok ()) :
    ∀ d ∈ definitions, checkName d.name = .ok () := by
  induction definitions with
  | nil => simp
  | cons d rest ih =>
    obtain ⟨_, hd, h⟩ := except_bind_ok h
    intro e he
    rcases List.mem_cons.1 he with rfl | he
    · exact hd
    · exact ih h e he

/-- All that a numbering settles, in one place: the names behind the reserved ones, and the readings
of the rules behind the first. -/
private theorem ofDefinitions_spec {α : Type} {definitions : List (Definition α)}
    {g : AugmentedGrammar} (h : ofDefinitions definitions = .ok g) :
    definitions ≠ [] ∧ (∀ d ∈ definitions, checkName d.name = .ok ()) ∧
    g.nonterminals = startName :: definitions.map (·.name) ∧
    (∃ names, g.terminals = endName :: names ∧ Fresh (definitions.map (·.name)) names) ∧
    ∃ rules, g.rules = ⟨Symbol.startId, [.nonterminal startSymbol], 0⟩ :: rules ∧
      rules.map g.reading = readings startSymbol definitions ∧
      ∀ rule ∈ rules, ∀ s ∈ rule.right, g.Proper s := by
  unfold ofDefinitions at h
  cases definitions with
  | nil => cases h
  | cons d rest =>
    obtain ⟨_, hc, h⟩ := except_bind_ok h
    obtain ⟨⟨rules, names⟩, hr, h⟩ := except_bind_ok h
    cases h
    obtain ⟨he, hg⟩ := definitionRules_spec hr
    obtain ⟨hm, hp⟩ := hg ⟨endName :: names, startName :: (d :: rest).map (·.name), _⟩
      ⟨rfl, List.prefix_rfl⟩
    exact ⟨List.cons_ne_nil _ _, forM_checkName hc, rfl, ⟨names, rfl, he.2 ⟨.nil, by simp⟩⟩,
      rules, rfl, hm, hp⟩

/-- Names that pass the check are not reserved. -/
theorem checkName_ne {name : String} (h : checkName name = .ok ()) :
    name ≠ endName ∧ name ≠ startName := by
  have hd : name.toList.head? ≠ some '$' := by
    intro hd
    unfold checkName at h
    rw [if_pos hd] at h
    split at h <;> cases h
  exact ⟨fun he => hd (he ▸ rfl), fun he => hd (he ▸ rfl)⟩

end AugmentedGrammar

namespace Grammar

variable {α : Type} (g : Grammar α)

open AugmentedGrammar

/-- Nonterminals are numbered in the order of the definitions, behind the reserved one. -/
theorem nonterminals_eq : g.augmented.nonterminals = startName :: g.definitions.map (·.name) :=
  (ofDefinitions_spec g.augmented_eq).2.2.1

theorem definitions_ne_nil : g.definitions ≠ [] :=
  (ofDefinitions_spec g.augmented_eq).1

private theorem name_ne_reserved {name : String} (h : name ∈ g.definitions.map (·.name)) :
    name ≠ endName ∧ name ≠ startName := by
  obtain ⟨d, hd, rfl⟩ := List.mem_map.1 h
  exact checkName_ne ((ofDefinitions_spec g.augmented_eq).2.1 d hd)

private theorem nodup_nonterminals : g.augmented.nonterminals.Nodup := by
  rw [nonterminals_eq]
  exact List.nodup_cons.2 ⟨fun h => (g.name_ne_reserved h).2 rfl, g.distinct⟩

private theorem nodup_terminals : g.augmented.terminals.Nodup := by
  obtain ⟨names, he, hf⟩ := (ofDefinitions_spec g.augmented_eq).2.2.2.1
  rw [he]
  exact List.nodup_cons.2 ⟨fun h => (checkName_ne (hf.2 _ h).2).1 rfl, hf.1⟩

private theorem terminal_not_nonterminal {name : String} (ht : name ∈ g.augmented.terminals) :
    name ∉ g.augmented.nonterminals := by
  obtain ⟨names, he, hf⟩ := (ofDefinitions_spec g.augmented_eq).2.2.2.1
  rw [he] at ht
  rw [nonterminals_eq]
  intro hn
  rcases List.mem_cons.1 ht with rfl | ht <;> rcases List.mem_cons.1 hn with hn | hn
  · exact absurd hn (by decide)
  · exact (g.name_ne_reserved hn).1 rfl
  · exact (checkName_ne (hf.2 _ ht).2).2 hn
  · exact (hf.2 _ ht).1 hn

private theorem getD_mem {l : List String} {i : Nat} (h : i < l.length) : l.getD i "" ∈ l := by
  rw [List.getD_eq_getElem?_getD, List.getElem?_eq_getElem h]
  exact List.getElem_mem h

private theorem getD_inj {l : List String} (hl : l.Nodup) {i j : Nat} (hi : i < l.length)
    (hj : j < l.length) (h : l.getD i "" = l.getD j "") : i = j := by
  rw [List.getD_eq_getElem?_getD, List.getElem?_eq_getElem hi, List.getD_eq_getElem?_getD,
    List.getElem?_eq_getElem hj] at h
  exact (List.Nodup.getElem_inj_iff hl).1 h

/-- No two symbols share a name, the reserved symbols included. -/
theorem symbolName_inj {s r : Symbol} (hs : g.augmented.Known s) (hr : g.augmented.Known r)
    (h : g.augmented.symbolName s = g.augmented.symbolName r) : s = r := by
  cases s with
  | terminal t =>
    cases r with
    | terminal u => rw [getD_inj g.nodup_terminals hs hr h]
    | nonterminal n =>
      have hm : g.augmented.symbolName (.terminal t) ∈ g.augmented.nonterminals := h ▸ getD_mem hr
      exact absurd hm (g.terminal_not_nonterminal (getD_mem hs))
  | nonterminal n =>
    cases r with
    | terminal u =>
      have hm : g.augmented.symbolName (.terminal u) ∈ g.augmented.nonterminals := h ▸ getD_mem hs
      exact absurd hm (g.terminal_not_nonterminal (getD_mem hr))
    | nonterminal m => rw [getD_inj g.nodup_nonterminals hs hr h]

theorem endId_known : g.augmented.Known (.terminal Symbol.endId) := by
  obtain ⟨names, he, -⟩ := (ofDefinitions_spec g.augmented_eq).2.2.2.1
  simp [Known, he, Symbol.endId]

theorem symbolName_endId : g.augmented.symbolName (.terminal Symbol.endId) = endName := by
  obtain ⟨names, he, -⟩ := (ofDefinitions_spec g.augmented_eq).2.2.2.1
  simp [symbolName, he, Symbol.endId]

/-- The start expression has a number, and is not reserved. -/
theorem startSymbol_proper : g.augmented.Proper (.nonterminal startSymbol) := by
  have h := List.length_pos_iff.2 g.definitions_ne_nil
  simp [Proper, nonterminals_eq, startSymbol, h]

/-- The first rule stands on top of the start expression. -/
theorem rules_zero : g.augmented.rules[acceptRule]? =
    some ⟨Symbol.startId, [.nonterminal startSymbol], 0⟩ := by
  obtain ⟨rules, he, -⟩ := (ofDefinitions_spec g.augmented_eq).2.2.2.2
  rw [he]
  rfl

/-- The rules behind the first read as the definitions do. -/
theorem map_reading_rules : ∃ rules, g.augmented.rules =
      ⟨Symbol.startId, [.nonterminal startSymbol], 0⟩ :: rules ∧
    rules.map g.augmented.reading = readings startSymbol g.definitions := by
  obtain ⟨rules, he, hm, -⟩ := (ofDefinitions_spec g.augmented_eq).2.2.2.2
  exact ⟨rules, he, hm⟩

/-- Reserved symbols stand on no right side. -/
theorem proper_of_mem_right {rule : Production} (h : rule ∈ g.augmented.rules) {s : Symbol}
    (hs : s ∈ rule.right) : g.augmented.Proper s := by
  obtain ⟨rules, he, -, hp⟩ := (ofDefinitions_spec g.augmented_eq).2.2.2.2
  rw [he] at h
  rcases List.mem_cons.1 h with rfl | h
  · rw [List.mem_singleton.1 hs]
    exact g.startSymbol_proper
  · exact hp rule h s hs

private theorem mem_readings {left n k : Nat} {names : List String}
    {definitions : List (Definition α)} :
    (n, k, names) ∈ readings left definitions ↔ ∃ d a, left ≤ n ∧
      definitions[n - left]? = some d ∧ d.alternatives[k]? = some a ∧ a.symbols = names := by
  simp only [readings, List.mem_flatMap, List.mem_map, Prod.mk.injEq, Prod.exists]
  constructor
  · rintro ⟨d, i, hd, x, j, hx, rfl, rfl, rfl⟩
    obtain ⟨hl, hd⟩ := List.mk_mem_zipIdx_iff_le_and_getElem?_sub.1 hd
    rw [List.mk_mem_zipIdx_iff_getElem?, List.getElem?_map, Option.map_eq_some_iff] at hx
    obtain ⟨a, ha, rfl⟩ := hx
    exact ⟨d, a, hl, hd, ha, rfl⟩
  · rintro ⟨d, a, hl, hd, ha, rfl⟩
    refine ⟨d, n, List.mk_mem_zipIdx_iff_le_and_getElem?_sub.2 ⟨hl, hd⟩, a.symbols, k, ?_, rfl, rfl,
      rfl⟩
    rw [List.mk_mem_zipIdx_iff_getElem?, List.getElem?_map, ha]
    rfl

theorem le_of_mem_readings {left : Nat} {definitions : List (Definition α)}
    {x : Nat × Nat × List String} (h : x ∈ readings left definitions) : left ≤ x.1 := by
  obtain ⟨-, -, hle, -⟩ := mem_readings.1 h
  exact hle

private theorem nodup_readings (left : Nat) (definitions : List (Definition α)) :
    ((readings left definitions).map fun x => (x.1, x.2.1)).Nodup := by
  induction definitions generalizing left with
  | nil => exact .nil
  | cons d rest ih =>
    rw [readings_cons, List.map_append, List.map_map, List.nodup_append]
    refine ⟨?_, ih (left + 1), ?_⟩
    · have hindex := List.nodup_range' (s := 0) (n := (d.alternatives.map (·.symbols)).length)
      rw [← List.zipIdx_map_snd] at hindex
      have hpairs := hindex.map (f := fun k => (left, k)) fun a b hab => (Prod.mk.inj hab).2
      rwa [List.map_map] at hpairs
    · rintro x hx y hy rfl
      obtain ⟨a, -, rfl⟩ := List.mem_map.1 hx
      obtain ⟨⟨n, k, names⟩, hmem, heq⟩ := List.mem_map.1 hy
      have hle : left + 1 ≤ n := le_of_mem_readings hmem
      have hn : n = left := congrArg Prod.fst heq
      omega

private theorem symbolName_nonterminal {n : Nat} {d : Definition α} (h0 : startSymbol ≤ n)
    (hd : g.definitions[n - startSymbol]? = some d) :
    g.augmented.symbolName (.nonterminal n) = d.name ∧ g.augmented.Proper (.nonterminal n) := by
  obtain ⟨m, rfl⟩ : ∃ m, n = m + 1 := ⟨n - 1, by simp [startSymbol] at h0; omega⟩
  simp only [startSymbol, Nat.add_sub_cancel] at hd
  obtain ⟨hm, -⟩ := List.getElem?_eq_some_iff.1 hd
  constructor
  · simp [symbolName, nonterminals_eq, hd]
  · simpa [Proper, nonterminals_eq] using hm

private theorem definition?_name {i : Nat} {d : Definition α} (h : g.definitions[i]? = some d) :
    g.definition? d.name = some d := by
  obtain ⟨hi, hd⟩ := List.getElem?_eq_some_iff.1 h
  refine List.find?_eq_some_iff_getElem.2 ⟨by simp, i, hi, hd, fun j hj => ?_⟩
  have hj' := Nat.lt_trans hj hi
  have hne : g.definitions[j].name ≠ d.name := by
    intro he
    have hij : (g.definitions.map (·.name))[j]? = (g.definitions.map (·.name))[i]? := by
      rw [List.getElem?_map, List.getElem?_map, h, List.getElem?_eq_getElem hj']
      exact congrArg some he
    have := (List.getElem?_inj (by rw [List.length_map]; omega) g.distinct).1 hij
    omega
  simpa using hne

/-- Names of definitions are distinct, so each finds its own. -/
theorem definition?_eq_some_iff {name : String} {d : Definition α} :
    g.definition? name = some d ↔ d ∈ g.definitions ∧ d.name = name := by
  constructor
  · intro h
    exact ⟨List.mem_of_find?_eq_some h, by simpa using List.find?_some h⟩
  · rintro ⟨hd, rfl⟩
    obtain ⟨i, hi⟩ := List.getElem?_of_mem hd
    exact g.definition?_name hi

/-- A rule other than the first is an alternative of a definition, with the symbols of the
alternative on its right side. -/
theorem definition_of_rule {r : Nat} {rule : Production} (h : g.augmented.rules[r]? = some rule)
    (hr : r ≠ acceptRule) : g.augmented.Proper (.nonterminal rule.left) ∧
    ∃ d a, g.definition? (g.augmented.symbolName (.nonterminal rule.left)) = some d ∧
      d.alternatives[rule.alternative]? = some a ∧
      rule.right.map g.augmented.symbolName = a.symbols := by
  obtain ⟨rules, he, hm, -⟩ := (ofDefinitions_spec g.augmented_eq).2.2.2.2
  obtain ⟨i, rfl⟩ : ∃ i, r = i + 1 := ⟨r - 1, by simp [acceptRule] at hr; omega⟩
  rw [he, List.getElem?_cons_succ] at h
  have hx : g.augmented.reading rule ∈ readings startSymbol g.definitions := by
    rw [← hm]
    exact List.mem_map_of_mem (List.mem_of_getElem? h)
  obtain ⟨d, a, hl, hd, ha, hs⟩ := mem_readings.1 hx
  obtain ⟨hn, hp⟩ := g.symbolName_nonterminal hl hd
  exact ⟨hp, d, a, hn ▸ g.definition?_name hd, ha, hs.symm⟩

/-- No two rules behind the first are the same alternative of one nonterminal. -/
theorem rule_unique {r r' : Nat} {rule rule' : Production}
    (h : g.augmented.rules[r]? = some rule) (h' : g.augmented.rules[r']? = some rule')
    (hr : r ≠ acceptRule) (hr' : r' ≠ acceptRule) (hl : rule.left = rule'.left)
    (ha : rule.alternative = rule'.alternative) : r = r' := by
  obtain ⟨rules, he, hm, -⟩ := (ofDefinitions_spec g.augmented_eq).2.2.2.2
  obtain ⟨i, rfl⟩ := Nat.exists_eq_succ_of_ne_zero hr
  obtain ⟨j, rfl⟩ := Nat.exists_eq_succ_of_ne_zero hr'
  rw [he, List.getElem?_cons_succ] at h h'
  have hnodup := nodup_readings startSymbol g.definitions
  rw [← hm, List.map_map] at hnodup
  have hsame : (rules.map ((fun x => (x.1, x.2.1)) ∘ g.augmented.reading))[i]? =
      (rules.map ((fun x => (x.1, x.2.1)) ∘ g.augmented.reading))[j]? := by
    rw [List.getElem?_map, List.getElem?_map, h, h', Option.map_some, Option.map_some]
    simp only [Function.comp, reading, hl, ha]
  have hlt : i < (rules.map ((fun x => (x.1, x.2.1)) ∘ g.augmented.reading)).length := by
    rw [List.length_map]
    exact (List.getElem?_eq_some_iff.1 h).1
  rw [(List.getElem?_inj hlt hnodup).1 hsame]

/-- No two rules have the same sides. -/
theorem rule_ext {r p : Nat} {rule other : Production} (h : g.augmented.rules[r]? = some rule)
    (h' : g.augmented.rules[p]? = some other) (hl : rule.left = other.left)
    (hs : rule.right = other.right) : r = p := by
  -- the left side of the first rule is reserved
  have hfirst : ∀ {x : Nat} {y : Production}, g.augmented.rules[x]? = some y →
      (x = acceptRule ↔ y.left = Symbol.startId) := by
    intro x y hx
    constructor
    · rintro rfl
      cases g.rules_zero.symm.trans hx
      rfl
    · intro hy
      by_contra hne
      have hp := (g.definition_of_rule hx hne).1
      rw [hy] at hp
      exact absurd hp.1 (Nat.lt_irrefl _)
  by_cases hr : r = acceptRule
  · rw [hr, (hfirst h').2 (hl ▸ (hfirst h).1 hr)]
  · have hp : p ≠ acceptRule := fun hp => hr ((hfirst h).2 (hl ▸ (hfirst h').1 hp))
    obtain ⟨-, d, a, hd, ha, hright⟩ := g.definition_of_rule h hr
    obtain ⟨-, e, b, he, hb, hright'⟩ := g.definition_of_rule h' hp
    rw [hl, he, Option.some.injEq] at hd
    subst hd
    have hsame : (e.alternatives.map (·.symbols))[rule.alternative]? =
        (e.alternatives.map (·.symbols))[other.alternative]? := by
      rw [List.getElem?_map, List.getElem?_map, ha, hb, Option.map_some, Option.map_some, ← hright,
        ← hright', hs]
    have hlt : rule.alternative < (e.alternatives.map (·.symbols)).length := by
      rw [List.length_map]
      exact (List.getElem?_eq_some_iff.1 ha).1
    have hnodup := g.unrepeated e (g.definition?_eq_some_iff.1 he).1
    exact g.rule_unique h h' hr hp hl ((List.getElem?_inj hlt hnodup).1 hsame)

/-- Every alternative of a definition is a rule. -/
theorem rule_of_definition {name : String} {d : Definition α} {k : Nat} {a : Alternative α}
    (hd : g.definition? name = some d) (ha : d.alternatives[k]? = some a) :
    ∃ r rule, g.augmented.rules[r]? = some rule ∧ r ≠ acceptRule ∧ rule.alternative = k ∧
      g.augmented.symbolName (.nonterminal rule.left) = name ∧
      rule.right.map g.augmented.symbolName = a.symbols := by
  obtain ⟨rules, he, hm, -⟩ := (ofDefinitions_spec g.augmented_eq).2.2.2.2
  obtain ⟨hname, i, hi, hdi, -⟩ := List.find?_eq_some_iff_getElem.1 hd
  have hdi : g.definitions[i]? = some d := List.getElem?_eq_some_iff.2 ⟨hi, hdi⟩
  have hx : (i + 1, k, a.symbols) ∈ rules.map g.augmented.reading := by
    rw [hm]
    exact mem_readings.2 ⟨d, a, by simp [startSymbol], by simpa [startSymbol] using hdi, ha, rfl⟩
  obtain ⟨rule, hr, hk⟩ := List.mem_map.1 hx
  obtain ⟨j, hj⟩ := List.getElem?_of_mem hr
  simp only [reading, Prod.mk.injEq] at hk
  refine ⟨j + 1, rule, by rw [he, List.getElem?_cons_succ, hj], by simp [acceptRule], hk.2.1, ?_,
    hk.2.2⟩
  rw [hk.1, (g.symbolName_nonterminal (by simp [startSymbol]) (by simpa [startSymbol] using hdi)).1]
  simpa using hname

/-- Terminals are the symbols that no definition defines. -/
theorem definition?_terminal {t : Nat} (h : g.augmented.Known (.terminal t)) :
    g.definition? (g.augmented.symbolName (.terminal t)) = none := by
  have hn := g.terminal_not_nonterminal (getD_mem h)
  rw [nonterminals_eq] at hn
  refine List.find?_eq_none.2 fun d hd he => hn (List.mem_cons_of_mem _ ?_)
  have he : d.name = g.augmented.symbolName (.terminal t) := by simpa using he
  exact List.mem_map.2 ⟨d, hd, he⟩

/-- The nonterminal on top of the start expression is not defined. -/
theorem definition?_start : g.definition? (g.augmented.symbolName (.nonterminal Symbol.startId)) =
    none := by
  refine List.find?_eq_none.2 fun d hd he => ?_
  have hname : d.name = startName := by simpa [symbolName, nonterminals_eq, Symbol.startId] using he
  exact (g.name_ne_reserved (List.mem_map_of_mem hd)).2 hname

/-- Nonterminals that are not reserved are defined. -/
theorem definition?_nonterminal {n : Nat} (h : g.augmented.Proper (.nonterminal n)) :
    ∃ d, g.definition? (g.augmented.symbolName (.nonterminal n)) = some d := by
  obtain ⟨h0, hn⟩ := h
  rw [nonterminals_eq, List.length_cons, List.length_map] at hn
  have hi : n - startSymbol < g.definitions.length := by
    rw [startSymbol]
    omega
  have hd := List.getElem?_eq_getElem hi
  exact ⟨_, (g.symbolName_nonterminal h0 hd).1 ▸ g.definition?_name hd⟩

theorem symbolName_startId : g.augmented.symbolName (.nonterminal Symbol.startId) = startName := by
  simp [symbolName, nonterminals_eq, Symbol.startId]

theorem startId_known : g.augmented.Known (.nonterminal Symbol.startId) := by
  simp [Known, nonterminals_eq, Symbol.startId]

/-- Terminals are the symbols that are not defined, but for the one on top of the start expression. -/
theorem terminal_iff {s : Symbol} (hs : g.augmented.Known s) : (∃ t, s = .terminal t) ↔
    g.definition? (g.augmented.symbolName s) = none ∧ g.augmented.symbolName s ≠ startName := by
  constructor
  · rintro ⟨t, rfl⟩
    refine ⟨g.definition?_terminal hs, fun he => ?_⟩
    cases g.symbolName_inj hs g.startId_known (he.trans g.symbolName_startId.symm)
  · rintro ⟨hnone, hne⟩
    cases s with
    | terminal t => exact ⟨t, rfl⟩
    | nonterminal n =>
      have h0 : 0 < n := by
        apply Nat.pos_of_ne_zero
        rintro rfl
        exact hne g.symbolName_startId
      obtain ⟨d, hd⟩ := g.definition?_nonterminal ⟨h0, hs⟩
      cases hnone.symm.trans hd

/-- No rule refers to a symbol without a number. -/
theorem closed : g.augmented.Closed := by
  intro rule h
  refine ⟨?_, fun s hs => (g.proper_of_mem_right h hs).known⟩
  obtain ⟨r, hr⟩ := List.getElem?_of_mem h
  by_cases h0 : r = acceptRule
  · rw [h0, rules_zero] at hr
    cases hr
    exact g.startId_known
  · exact (g.definition_of_rule hr h0).1.known

/-- The start expression is the first that is defined. -/
theorem start_eq : g.definitions.head?.map (·.name) = some g.start := by
  cases hd : g.definitions with
  | nil => exact absurd hd g.definitions_ne_nil
  | cons d rest => simp [Grammar.start, symbolName, nonterminals_eq, hd, startSymbol]

/-- The names of symbols that are not reserved have passed the check. -/
theorem checkName_symbolName {s : Symbol} (h : g.augmented.Proper s) :
    checkName (g.augmented.symbolName s) = .ok () := by
  obtain ⟨-, hcheck, hnames, ⟨names, he, hf⟩, -⟩ := ofDefinitions_spec g.augmented_eq
  cases s with
  | terminal t =>
    obtain ⟨h0, ht⟩ := h
    obtain ⟨i, rfl⟩ := Nat.exists_eq_succ_of_ne_zero (Nat.pos_iff_ne_zero.1 h0)
    rw [he] at ht
    have hm : names.getD i "" ∈ names := getD_mem (by simpa using ht)
    simpa [symbolName, he] using (hf.2 _ hm).2
  | nonterminal n =>
    obtain ⟨h0, hn⟩ := h
    obtain ⟨i, rfl⟩ := Nat.exists_eq_succ_of_ne_zero (Nat.pos_iff_ne_zero.1 h0)
    rw [hnames] at hn
    have hm : (g.definitions.map (·.name)).getD i "" ∈ g.definitions.map (·.name) :=
      getD_mem (by simpa using hn)
    obtain ⟨d, hd, heq⟩ := List.mem_map.1 hm
    have hname : g.augmented.symbolName (.nonterminal (i + 1)) = d.name := by
      rw [symbolName, hnames, List.getD_cons_succ]
      exact heq.symm
    rw [hname]
    exact hcheck d hd

/-- All names in the definitions of a grammar pass the check. -/
theorem checkName_of_mem {d : Definition α} (hd : d ∈ g.definitions) :
    checkName d.name = .ok () ∧ ∀ a ∈ d.alternatives, ∀ s ∈ a.symbols, checkName s = .ok () := by
  refine ⟨(ofDefinitions_spec g.augmented_eq).2.1 d hd, fun a ha s hs => ?_⟩
  obtain ⟨i, hi⟩ := List.getElem?_of_mem hd
  obtain ⟨k, hk⟩ := List.getElem?_of_mem ha
  obtain ⟨r, rule, hr, -, -, -, hright⟩ := g.rule_of_definition (g.definition?_name hi) hk
  rw [← hright] at hs
  obtain ⟨x, hx, rfl⟩ := List.mem_map.1 hs
  exact g.checkName_symbolName (g.proper_of_mem_right (List.mem_of_getElem? hr) hx)

end Grammar

end CanonicalLR
