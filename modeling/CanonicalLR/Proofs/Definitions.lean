import CanonicalLR.Table.Compile

/-! When definitions make a grammar. A grammar is made again from its definitions; whether there is
one, its numbered form and its table depend on the names and symbols, and not on the actions. -/
namespace CanonicalLR

private theorem firstRepeated?_eq_none {κ : Type} [DecidableEq κ] {seen as : List κ} (h : as.Nodup)
    (hs : ∀ a ∈ as, a ∉ seen) : firstRepeated? seen as = none := by
  induction as generalizing seen with
  | nil => rfl
  | cons a as ih =>
    obtain ⟨ha, has⟩ := List.nodup_cons.1 h
    rw [firstRepeated?, if_neg (hs a List.mem_cons_self)]
    refine ih has fun b hb hm => ?_
    rcases List.mem_cons.1 hm with rfl | hm
    · exact ha hb
    · exact hs b (List.mem_cons_of_mem _ hb) hm

namespace Draft

variable {α : Type}

private theorem ext {draft other : Draft α} (h : draft.definitions = other.definitions) :
    draft = other := by
  cases draft
  cases other
  cases h
  rfl

private theorem definitions_of_add {draft next : Draft α} {d : Definition α}
    (h : draft.add d = .ok next) : next.definitions = draft.definitions ++ [d] := by
  unfold add at h
  split at h
  · cases h
  · split at h
    · cases h
    · cases h
      rfl

private theorem exists_add {draft : Draft α} {d : Definition α}
    (hd : d.name ∉ draft.definitions.map (·.name))
    (ha : (d.alternatives.map (·.symbols)).Nodup) : ∃ next, draft.add d = .ok next := by
  have hnone : firstRepeated? [] (d.alternatives.map (·.symbols)) = none :=
    firstRepeated?_eq_none ha (by simp)
  unfold add
  rw [dif_neg hd]
  split
  · rename_i hsome
    cases hnone.symm.trans hsome
  · exact ⟨_, rfl⟩

private theorem definitions_of_foldlM {ds : List (Definition α)} {draft last : Draft α}
    (h : ds.foldlM add draft = .ok last) : last.definitions = draft.definitions ++ ds := by
  induction ds generalizing draft with
  | nil =>
    cases h
    simp
  | cons d ds ih =>
    rw [List.foldlM_cons] at h
    cases hadd : draft.add d with
    | error e =>
      rw [hadd] at h
      cases h
    | ok next =>
      rw [hadd] at h
      rw [ih h, definitions_of_add hadd, List.append_assoc]
      rfl

private theorem exists_foldlM {ds : List (Definition α)} {draft : Draft α}
    (hn : ((draft.definitions ++ ds).map (·.name)).Nodup)
    (ha : ∀ d ∈ ds, (d.alternatives.map (·.symbols)).Nodup) :
    ∃ last, ds.foldlM add draft = .ok last := by
  induction ds generalizing draft with
  | nil => exact ⟨draft, rfl⟩
  | cons d ds ih =>
    have hd : d.name ∉ draft.definitions.map (·.name) := by
      rw [List.map_append, List.nodup_append] at hn
      exact fun hm => hn.2.2 _ hm _ List.mem_cons_self rfl
    obtain ⟨next, hnext⟩ := exists_add hd (ha d List.mem_cons_self)
    rw [List.foldlM_cons, hnext]
    apply ih
    · rwa [definitions_of_add hnext, List.append_assoc]
    · exact fun e he => ha e (List.mem_cons_of_mem _ he)

private theorem ofList_eq_ok_iff {ds : List (Definition α)} {draft : Draft α} :
    ofList ds = .ok draft ↔ draft.definitions = ds := by
  constructor
  · intro h
    simpa [empty] using definitions_of_foldlM h
  · rintro rfl
    obtain ⟨last, hlast⟩ : ∃ last, draft.definitions.foldlM add empty = .ok last :=
      exists_foldlM draft.distinct draft.unrepeated
    rw [ofList, hlast, ext (definitions_of_foldlM hlast)]

end Draft

namespace Grammar

variable {α β : Type}

/-- A grammar is determined by its definitions. -/
theorem ext {g g' : Grammar α} (h : g.definitions = g'.definitions) : g = g' := by
  obtain ⟨draft, augmented, heq⟩ := g
  obtain ⟨draft', augmented', heq'⟩ := g'
  cases Draft.ext h
  cases heq.symm.trans heq'
  rfl

private theorem finish_toDraft (g : Grammar α) : g.toDraft.finish = .ok g := by
  unfold Draft.finish
  split
  · rename_i augmented h
    cases g.augmented_eq.symm.trans h
    rfl
  · rename_i e h
    cases g.augmented_eq.symm.trans h

/-- The grammar of some definitions is the one that has these definitions. -/
theorem define_eq_ok_iff {ds : List (Definition α)} {g : Grammar α} :
    define ds = .ok g ↔ g.definitions = ds := by
  constructor
  · intro h
    unfold define at h
    cases hdraft : Draft.ofList ds with
    | error e =>
      rw [hdraft] at h
      cases h
    | ok draft =>
      rw [hdraft] at h
      have h : draft.finish = .ok g := h
      unfold Draft.finish at h
      split at h
      · cases h
        exact Draft.ofList_eq_ok_iff.1 hdraft
      · cases h
  · rintro rfl
    have hdraft : Draft.ofList g.definitions = .ok g.toDraft := Draft.ofList_eq_ok_iff.2 rfl
    rw [define, hdraft]
    exact finish_toDraft g

end Grammar

def Definition.bare {α : Type} (β : Type) (d : Definition α) : Definition β :=
  ⟨d.name, d.alternatives.map fun a => ⟨a.symbols, none⟩⟩

namespace AugmentedGrammar

variable {α β : Type}

private theorem definitionRules_bare (defined terminals : List String) (left : Nat)
    (ds : List (Definition α)) : definitionRules defined left terminals (ds.map (.bare β)) =
      definitionRules defined left terminals ds := by
  induction ds generalizing left terminals with
  | nil => rfl
  | cons d ds ih =>
    have hsymbols : (d.bare β).alternatives.map (·.symbols) = d.alternatives.map (·.symbols) := by
      simp [Definition.bare, Function.comp_def]
    simp only [List.map_cons, definitionRules, hsymbols, ih]

/-- Actions play no part in the numbering. -/
theorem ofDefinitions_bare (ds : List (Definition α)) :
    ofDefinitions (ds.map (.bare β)) = ofDefinitions ds := by
  have hnames : (ds.map (Definition.bare β)).map (·.name) = ds.map (·.name) := by
    simp [Function.comp_def, Definition.bare]
  have hcheck : ((ds.map (Definition.bare β)).forM fun d => checkName d.name) =
      ds.forM fun d => checkName d.name := by
    simp [Definition.bare]
  unfold ofDefinitions
  rw [hcheck]
  simp only [List.isEmpty_map, hnames, definitionRules_bare]

end AugmentedGrammar

def Grammar.bare {α : Type} (β : Type) (g : Grammar α) : Grammar β where
  definitions := g.definitions.map (.bare β)
  distinct := by simpa [Function.comp_def, Definition.bare] using g.distinct
  unrepeated := by
    intro e he
    obtain ⟨d, hd, rfl⟩ := List.mem_map.1 he
    simpa [Function.comp_def, Definition.bare] using g.unrepeated d hd
  augmented := g.augmented
  augmented_eq := (AugmentedGrammar.ofDefinitions_bare g.definitions).trans g.augmented_eq

/-- The table of a grammar is that of its numbered form. -/
theorem Table.ofGrammar_congr {α β : Type} {g : Grammar α} {g' : Grammar β}
    (h : g'.augmented = g.augmented) : ofGrammar g' = ofGrammar g := by
  simp only [ofGrammar, h]

end CanonicalLR
