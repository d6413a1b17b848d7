import Mathlib.Data.List.GetD
import CanonicalLR.Proofs.Definitions
import CanonicalLR.Proofs.Numbering

/-! Definitions make a grammar exactly when they are well formed. Names and symbols of its numbered
form then belong to each other one to one, and the definitions can be read back from it. -/
namespace CanonicalLR

/-- A name that symbols can have: not empty, without white space, and without a dollar sign in
front. -/
def Nameable (name : String) : Prop :=
  name ≠ "" ∧ (∀ c ∈ name.toList, Text.isBlank c = false) ∧ name.toList.head? ≠ some '$'

private theorem nameable_iff {name : String} : Nameable name ↔ name ≠ "" ∧
    name.toList.any Text.isBlank = false ∧ name.toList.head? ≠ some '$' := by
  simp [Nameable]

instance (name : String) : Decidable (Nameable name) := decidable_of_iff _ nameable_iff.symm

private theorem checkName_eq_ok_iff {name : String} : checkName name = .ok () ↔ Nameable name := by
  rw [nameable_iff]
  unfold checkName
  by_cases hempty : name = ""
  · simp [hempty]
  · cases name.toList.any Text.isBlank <;> by_cases hd : name.toList.head? = some '$' <;>
      simp [hempty, hd]

/-- Definitions are well formed if there are some, no name is defined twice, no definition has two
equal alternatives, and all names are such as symbols can have. -/
structure WellFormed {α : Type} (definitions : List (Definition α)) : Prop where
  nonempty : definitions ≠ []
  distinct : (definitions.map (·.name)).Nodup
  unrepeated : ∀ d ∈ definitions, (d.alternatives.map (·.symbols)).Nodup
  names : ∀ d ∈ definitions, Nameable d.name
  symbols : ∀ d ∈ definitions, ∀ a ∈ d.alternatives, ∀ s ∈ a.symbols, Nameable s

namespace AugmentedGrammar

variable {α : Type}

private theorem exists_classify (defined terminals : List String) {name : String}
    (h : Nameable name) : ∃ s more, classify defined terminals name = .ok (s, more) := by
  unfold classify
  cases defined.idxOf? name with
  | some n => exact ⟨_, _, rfl⟩
  | none =>
    cases terminals.idxOf? name with
    | some t => exact ⟨_, _, rfl⟩
    | none => exact ⟨_, _, except_bind_of_ok (checkName_eq_ok_iff.2 h) rfl⟩

private theorem exists_classifyAll (defined terminals : List String) {names : List String}
    (h : ∀ name ∈ names, Nameable name) :
    ∃ ss more, classifyAll defined terminals names = .ok (ss, more) := by
  induction names generalizing terminals with
  | nil => exact ⟨_, _, rfl⟩
  | cons name names ih =>
    obtain ⟨s, mid, hs⟩ := exists_classify defined terminals (h name List.mem_cons_self)
    obtain ⟨ss, more, hss⟩ := ih mid fun x hx => h x (List.mem_cons_of_mem _ hx)
    exact ⟨s :: ss, more, except_bind_of_ok hs (except_bind_of_ok hss rfl)⟩

private theorem exists_alternativeRules (defined terminals : List String) (left index : Nat)
    {alternatives : List (List String)} (h : ∀ names ∈ alternatives, ∀ name ∈ names, Nameable name) :
    ∃ rules more, alternativeRules defined left index terminals alternatives = .ok (rules, more) := by
  induction alternatives generalizing terminals index with
  | nil => exact ⟨_, _, rfl⟩
  | cons names rest ih =>
    obtain ⟨right, mid, hright⟩ :=
      exists_classifyAll defined terminals (h names List.mem_cons_self)
    obtain ⟨rules, more, hrules⟩ := ih mid (index + 1) fun x hx => h x (List.mem_cons_of_mem _ hx)
    exact ⟨_, more, except_bind_of_ok hright (except_bind_of_ok hrules rfl)⟩

private theorem exists_definitionRules (defined terminals : List String) (left : Nat)
    {definitions : List (Definition α)}
    (h : ∀ d ∈ definitions, ∀ a ∈ d.alternatives, ∀ s ∈ a.symbols, Nameable s) :
    ∃ rules more, definitionRules defined left terminals definitions = .ok (rules, more) := by
  induction definitions generalizing terminals left with
  | nil => exact ⟨_, _, rfl⟩
  | cons d rest ih =>
    have hd : ∀ names ∈ d.alternatives.map (·.symbols), ∀ name ∈ names, Nameable name := by
      intro names hn
      obtain ⟨a, ha, rfl⟩ := List.mem_map.1 hn
      exact h d List.mem_cons_self a ha
    obtain ⟨rules, mid, hrules⟩ := exists_alternativeRules defined terminals left 0 hd
    obtain ⟨more, last, hmore⟩ := ih mid (left + 1) fun x hx => h x (List.mem_cons_of_mem _ hx)
    exact ⟨_, last, except_bind_of_ok hrules (except_bind_of_ok hmore rfl)⟩

private theorem forM_checkName_of_nameable {definitions : List (Definition α)}
    (h : ∀ d ∈ definitions, Nameable d.name) :
    definitions.forM (fun d => checkName d.name) = .ok () := by
  induction definitions with
  | nil => rfl
  | cons d rest ih =>
    exact except_bind_of_ok (checkName_eq_ok_iff.2 (h d List.mem_cons_self))
      (ih fun x hx => h x (List.mem_cons_of_mem _ hx))

/-- Nothing but a name that is unfit can stop the numbering of definitions. -/
private theorem exists_ofDefinitions {definitions : List (Definition α)}
    (h : WellFormed definitions) : ∃ g, ofDefinitions definitions = .ok g := by
  obtain ⟨rules, terminals, hrules⟩ :=
    exists_definitionRules (definitions.map (·.name)) [] startSymbol h.symbols
  have hempty : definitions.isEmpty = false := by simpa using h.nonempty
  unfold ofDefinitions
  rw [hempty]
  exact ⟨_, except_bind_of_ok (forM_checkName_of_nameable h.names) (except_bind_of_ok hrules rfl)⟩

/-- The definitions as the numbered form has them: for each nonterminal behind the reserved one, in
order, its name and the right sides of its rules with the numbers of their alternatives. -/
def readBack (g : AugmentedGrammar) : List (String × List (List String × Nat)) :=
  (List.range' startSymbol (g.nonterminals.length - 1)).map fun n =>
    (g.symbolName (.nonterminal n), (g.rulesOf n).filterMap fun r =>
      (g.rules[r]?).map fun rule => (rule.right.map g.symbolName, rule.alternative))

private theorem filterMap_rulesOf {β : Type} (g : AugmentedGrammar) (n : Nat) (f : Production → β) :
    (g.rulesOf n).filterMap (fun r => (g.rules[r]?).map f) =
      (g.rules.filter (·.left = n)).map f := by
  unfold rulesOf
  induction g.rules with
  | nil => rfl
  | cons rule rules ih =>
    rw [List.length_cons, List.range_succ_eq_map, List.filter_cons, List.filter_map,
      List.filter_cons]
    by_cases hn : rule.left = n
    · simpa [hn, List.filterMap_map, Function.comp_def] using ih
    · simpa [hn, List.filterMap_map, Function.comp_def] using ih

private theorem filter_readings {definitions : List (Definition α)} (left : Nat) {i : Nat}
    {d : Definition α} (hd : definitions[i]? = some d) :
    (readings left definitions).filter (·.1 = left + i) =
      (d.alternatives.map (·.symbols)).zipIdx.map fun x => (left + i, x.2, x.1) := by
  induction definitions generalizing left i with
  | nil => cases hd
  | cons e rest ih =>
    rw [readings_cons, List.filter_append]
    cases i with
    | zero =>
      cases hd
      have hrest : (readings (left + 1) rest).filter (·.1 = left + 0) = [] := by
        refine List.filter_eq_nil_iff.2 fun x hx he => ?_
        have hle := Grammar.le_of_mem_readings hx
        simp only [Nat.add_zero, decide_eq_true_eq] at he
        omega
      rw [hrest, List.append_nil]
      apply List.filter_eq_self.2
      intro x hx
      obtain ⟨y, -, rfl⟩ := List.mem_map.1 hx
      simp
    | succ i =>
      have hfront : ((e.alternatives.map (·.symbols)).zipIdx.map
          fun x => (left, x.2, x.1)).filter (·.1 = left + (i + 1)) = [] := by
        refine List.filter_eq_nil_iff.2 fun x hx he => ?_
        obtain ⟨y, -, rfl⟩ := List.mem_map.1 hx
        simp only [decide_eq_true_eq] at he
        omega
      rw [hfront, List.nil_append, ← Nat.add_assoc, Nat.add_right_comm]
      exact ih (left + 1) hd

private theorem symbolName_terminal_mem {g : AugmentedGrammar} {t : Nat}
    (h : g.Known (.terminal t)) : g.symbolName (.terminal t) ∈ g.terminals := by
  rw [symbolName, List.getD_eq_getElem _ _ h]
  exact List.getElem_mem h

private theorem symbolName_nonterminal_mem {g : AugmentedGrammar} {n : Nat}
    (h : g.Known (.nonterminal n)) : g.symbolName (.nonterminal n) ∈ g.nonterminals := by
  rw [symbolName, List.getD_eq_getElem _ _ h]
  exact List.getElem_mem h

end AugmentedGrammar

namespace Grammar

open AugmentedGrammar

variable {α : Type}

private theorem exists_define_iff {ds : List (Definition α)} :
    (∃ g, define ds = .ok g) ↔ WellFormed ds := by
  constructor
  · rintro ⟨g, hg⟩
    obtain rfl := define_eq_ok_iff.1 hg
    refine ⟨g.definitions_ne_nil, g.distinct, g.unrepeated, fun d hd => ?_, fun d hd a ha s hs => ?_⟩
    · exact checkName_eq_ok_iff.1 (g.checkName_of_mem hd).1
    · exact checkName_eq_ok_iff.1 ((g.checkName_of_mem hd).2 a ha s hs)
  · intro h
    obtain ⟨augmented, heq⟩ := exists_ofDefinitions h
    exact ⟨⟨⟨ds, h.distinct, h.unrepeated⟩, augmented, heq⟩, define_eq_ok_iff.2 rfl⟩

variable (g : Grammar α)

private theorem of_symbol? {name : String} {s : Symbol} (h : g.augmented.symbol? name = some s) :
    g.augmented.Known s ∧ g.augmented.symbolName s = name := by
  unfold symbol? at h
  split at h
  · rename_i hend
    cases h
    exact ⟨g.endId_known, hend ▸ g.symbolName_endId⟩
  · split at h
    · rename_i hstart
      cases h
      exact ⟨g.startId_known, hstart ▸ g.symbolName_startId⟩
    · split at h
      · rename_i n hn
        cases h
        obtain ⟨hlt, hname, -⟩ := List.idxOf?_eq_some_iff.1 hn
        exact ⟨hlt, by rw [symbolName, List.getD_eq_getElem _ _ hlt, hname]⟩
      · obtain ⟨t, ht, rfl⟩ := Option.map_eq_some_iff.1 h
        obtain ⟨hlt, hname, -⟩ := List.idxOf?_eq_some_iff.1 ht
        exact ⟨hlt, by rw [symbolName, List.getD_eq_getElem _ _ hlt, hname]⟩

private theorem exists_symbol? {s : Symbol} (h : g.augmented.Known s) :
    ∃ r, g.augmented.symbol? (g.augmented.symbolName s) = some r := by
  unfold symbol?
  split
  · exact ⟨_, rfl⟩
  · split
    · exact ⟨_, rfl⟩
    · split
      · exact ⟨_, rfl⟩
      · rename_i hnone
        cases s with
        | nonterminal n =>
          exact absurd (symbolName_nonterminal_mem h)
            (by simpa using List.idxOf?_eq_none_iff.1 hnone)
        | terminal t =>
          cases hi : g.augmented.terminals.idxOf? (g.augmented.symbolName (.terminal t)) with
          | some i => exact ⟨_, rfl⟩
          | none =>
            exact absurd (symbolName_terminal_mem h) (by simpa using List.idxOf?_eq_none_iff.1 hi)

private theorem symbol?_symbolName {s : Symbol} (h : g.augmented.Known s) :
    g.augmented.symbol? (g.augmented.symbolName s) = some s := by
  obtain ⟨r, hr⟩ := g.exists_symbol? h
  obtain ⟨hk, hname⟩ := g.of_symbol? hr
  rw [hr, g.symbolName_inj hk h hname]

private theorem symbol?_nonterminal_iff {name : String} :
    (∃ n, g.augmented.symbol? name = some (.nonterminal n)) ↔
      name = startName ∨ name ∈ g.definitions.map (·.name) := by
  rw [← List.mem_cons, ← g.nonterminals_eq]
  constructor
  · rintro ⟨n, hn⟩
    obtain ⟨hlt, hname⟩ := g.of_symbol? hn
    rw [← hname]
    exact symbolName_nonterminal_mem hlt
  · intro hm
    obtain ⟨n, hlt, hn⟩ := List.getElem_of_mem hm
    have hname : g.augmented.symbolName (.nonterminal n) = name := by
      rw [symbolName, List.getD_eq_getElem _ _ hlt, hn]
    exact ⟨n, hname ▸ g.symbol?_symbolName hlt⟩

private theorem readBack_eq : g.augmented.readBack =
    g.definitions.map fun d => (d.name, (d.alternatives.map (·.symbols)).zipIdx) := by
  obtain ⟨rules, hrules, hreading⟩ := g.map_reading_rules
  have hlen : g.augmented.nonterminals.length - 1 = g.definitions.length := by
    simp [g.nonterminals_eq]
  unfold readBack
  rw [hlen]
  apply List.ext_getElem (by simp)
  intro i hi hi'
  have hd : i < g.definitions.length := by simpa using hi'
  rw [List.getElem_map, List.getElem_map, List.getElem_range', Nat.one_mul, filterMap_rulesOf, hrules]
  refine Prod.ext ?_ ?_
  · simp [symbolName, g.nonterminals_eq, startSymbol, Nat.add_comm 1 i, hd]
  · have hfilter := filter_readings startSymbol (List.getElem?_eq_getElem hd)
    rw [← hreading, List.filter_map] at hfilter
    have hread := congrArg (List.map fun x : Nat × Nat × List String => (x.2.2, x.2.1)) hfilter
    rw [List.map_map, List.map_map] at hread
    have hfirst : ¬ Symbol.startId = startSymbol + i := by
      simp only [Symbol.startId, startSymbol]
      omega
    rw [List.filter_cons, if_neg (by simpa using hfirst)]
    exact hread.trans (List.map_id _)

/-- Definitions make a grammar if and only if they are well formed. Every symbol of the grammar, the
reserved ones included, is then the symbol of its name, and every symbol of a name has that name. The
nonterminals are the names that are defined, and the reserved one on top of them. Read back from the
numbered form, the definitions are as they were, each alternative with its position. -/
theorem define_exact (ds : List (Definition α)) :
    ((∃ g, define ds = .ok g) ↔ WellFormed ds) ∧
    ∀ g, define ds = .ok g →
      (∀ s, g.augmented.Known s → g.augmented.symbol? (g.augmented.symbolName s) = some s) ∧
      (∀ name s, g.augmented.symbol? name = some s →
        g.augmented.Known s ∧ g.augmented.symbolName s = name) ∧
      g.augmented.symbol? endName = some (.terminal Symbol.endId) ∧
      g.augmented.symbol? startName = some (.nonterminal Symbol.startId) ∧
      (∀ name, (∃ n, g.augmented.symbol? name = some (.nonterminal n)) ↔
        name = startName ∨ name ∈ ds.map (·.name)) ∧
      g.augmented.readBack =
        ds.map fun d => (d.name, (d.alternatives.map (·.symbols)).zipIdx) := by
  refine ⟨exists_define_iff, fun g hg => ?_⟩
  obtain rfl := define_eq_ok_iff.1 hg
  exact ⟨fun s => g.symbol?_symbolName, fun name s => g.of_symbol?, rfl, rfl,
    fun name => g.symbol?_nonterminal_iff, g.readBack_eq⟩

/-- `A` is referred to before it is defined; a name with a dollar sign in front is refused. -/
theorem define_exact_samples :
    (∃ g : Grammar Unit,
      define [⟨"S", [⟨["A", "b"], none⟩, ⟨["b"], none⟩]⟩, ⟨"A", [⟨[], none⟩, ⟨["S"], none⟩]⟩] = .ok g ∧
      (∃ n, g.augmented.symbol? "A" = some (.nonterminal n)) ∧
      g.augmented.readBack = [("S", [(["A", "b"], 0), (["b"], 1)]), ("A", [([], 0), (["S"], 1)])]) ∧
    ¬ ∃ g : Grammar Unit, define [⟨"S", [⟨["$x"], none⟩]⟩] = .ok g := by
  constructor
  · obtain ⟨hiff, hnumbered⟩ := define_exact (α := Unit)
      [⟨"S", [⟨["A", "b"], none⟩, ⟨["b"], none⟩]⟩, ⟨"A", [⟨[], none⟩, ⟨["S"], none⟩]⟩]
    obtain ⟨g, hg⟩ := hiff.2 ⟨by decide, by decide, by decide, by decide +kernel, by decide +kernel⟩
    obtain ⟨-, -, -, -, hdefined, hread⟩ := hnumbered g hg
    exact ⟨g, hg, (hdefined "A").2 (by decide), hread⟩
  · intro h
    exact absurd ((define_exact _).1.1 h).symbols (by decide +kernel)

end Grammar

end CanonicalLR
