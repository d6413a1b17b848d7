/-! Dictionaries that list their entries in the order in which the keys first came in. -/
namespace CanonicalLR

/-- Sets the value of a key: in place if the key is there, else at the end. -/
def setEntry {κ ν : Type} [DecidableEq κ] (k : κ) (v : ν) : List (κ × ν) → List (κ × ν)
  | [] => [(k, v)]
  | e :: es => if e.1 = k then (k, v) :: es else e :: setEntry k v es

private theorem fst_mem_setEntry {κ ν : Type} [DecidableEq κ] {k x : κ} {v : ν}
    {es : List (κ × ν)} (h : x ∈ (setEntry k v es).map (·.1)) : x = k ∨ x ∈ es.map (·.1) := by
  induction es with
  | nil => simpa [setEntry] using h
  | cons e es ih =>
    unfold setEntry at h
    split at h
    · rename_i he
      rcases List.mem_cons.1 h with rfl | h
      · exact .inl rfl
      · exact .inr (List.mem_cons_of_mem _ h)
    · rcases List.mem_cons.1 h with rfl | h
      · exact .inr List.mem_cons_self
      · exact (ih h).imp id (List.mem_cons_of_mem _)

private theorem nodup_setEntry {κ ν : Type} [DecidableEq κ] {k : κ} {v : ν} {es : List (κ × ν)}
    (h : (es.map (·.1)).Nodup) : ((setEntry k v es).map (·.1)).Nodup := by
  induction es with
  | nil => simp [setEntry]
  | cons e es ih =>
    have hc := List.nodup_cons.1 h
    unfold setEntry
    split
    · rename_i he
      subst he
      exact h
    · rename_i he
      refine List.nodup_cons.2 ⟨fun hm => ?_, ih hc.2⟩
      rcases fst_mem_setEntry hm with hk | hm
      · exact he hk
      · exact hc.1 hm

/-- A finite map whose entries stand in the order in which their keys were first set. -/
structure Dict (κ ν : Type) where
  entries : List (κ × ν)
  nodup : (entries.map (·.1)).Nodup

namespace Dict

variable {κ ν : Type}

private theorem ext {d e : Dict κ ν} (h : d.entries = e.entries) : d = e := by
  cases d; cases e; simp_all

instance [DecidableEq κ] [DecidableEq ν] : DecidableEq (Dict κ ν) := fun d e =>
  if h : d.entries = e.entries then isTrue (ext h) else isFalse fun he => h (he ▸ rfl)

def empty : Dict κ ν := ⟨[], .nil⟩

def size (d : Dict κ ν) : Nat := d.entries.length

def keys (d : Dict κ ν) : List κ := d.entries.map (·.1)

variable [DecidableEq κ]

def get? (d : Dict κ ν) (k : κ) : Option ν :=
  (d.entries.find? (·.1 = k)).map (·.2)

def insert (d : Dict κ ν) (k : κ) (v : ν) : Dict κ ν :=
  ⟨setEntry k v d.entries, nodup_setEntry d.nodup⟩

def ofList (es : List (κ × ν)) : Dict κ ν :=
  es.foldl (fun d e => d.insert e.1 e.2) empty

@[simp] theorem get?_empty (k : κ) : (empty : Dict κ ν).get? k = none := rfl

/-- A key has the value of its only entry. -/
theorem get?_eq_some_iff {d : Dict κ ν} {k : κ} {v : ν} :
    d.get? k = some v ↔ (k, v) ∈ d.entries := by
  obtain ⟨es, h⟩ := d
  simp only [get?]
  induction es with
  | nil => simp
  | cons e es ih =>
    have hc := List.nodup_cons.1 h
    by_cases he : e.1 = k
    · subst he
      have hn : (e.1, v) ∉ es := fun hm => hc.1 (List.mem_map.2 ⟨_, hm, rfl⟩)
      simp [hn, Prod.ext_iff, eq_comm]
    · have hne : (k, v) ≠ e := fun hke => he (hke ▸ rfl)
      simpa [he, hne] using ih hc.2

/-- Setting one key leaves the values of the others alone. -/
theorem get?_insert (d : Dict κ ν) (k x : κ) (v : ν) :
    (d.insert k v).get? x = if x = k then some v else d.get? x := by
  obtain ⟨es, h⟩ := d
  simp only [get?, insert]
  clear h
  induction es with
  | nil => by_cases hx : x = k <;> simp [setEntry, hx, eq_comm]
  | cons e es ih =>
    unfold setEntry
    by_cases he : e.1 = k
    · subst he
      by_cases hx : x = e.1
      · simp [hx]
      · simp [hx, Ne.symm hx]
    · by_cases hx : x = k
      · subst hx
        simpa [he] using ih
      · by_cases hex : e.1 = x
        · simp [hex, hx]
        · simpa [he, hex, hx] using ih

private theorem setEntry_of_not_mem {k : κ} {v : ν} {es : List (κ × ν)}
    (h : k ∉ es.map (·.1)) : setEntry k v es = es ++ [(k, v)] := by
  induction es with
  | nil => rfl
  | cons e es ih =>
    obtain ⟨he, hes⟩ := not_or.1 (mt List.mem_cons.2 h)
    rw [setEntry, if_neg (Ne.symm he), ih hes, List.cons_append]

private theorem entries_foldl_insert {es : List (κ × ν)} {d : Dict κ ν}
    (h : ((d.entries ++ es).map (·.1)).Nodup) :
    (es.foldl (fun d e => d.insert e.1 e.2) d).entries = d.entries ++ es := by
  induction es generalizing d with
  | nil => simp
  | cons e es ih =>
    have hk : e.1 ∉ d.entries.map (·.1) := by
      rw [List.map_append, List.nodup_append] at h
      intro hm
      exact h.2.2 _ hm _ List.mem_cons_self rfl
    have hd : (d.insert e.1 e.2).entries = d.entries ++ [e] := setEntry_of_not_mem hk
    rw [List.foldl_cons, ih, hd, List.append_assoc, List.singleton_append]
    rw [hd, List.append_assoc]
    exact h

/-- A dictionary is made again from its entries, in the same order. -/
theorem ofList_entries (d : Dict κ ν) : ofList d.entries = d := by
  apply ext
  rw [ofList, entries_foldl_insert]
  · rfl
  · simpa [empty] using d.nodup

/-- Entries with distinct keys make a dictionary that has them all. -/
theorem get?_ofList {es : List (κ × ν)} (h : (es.map (·.1)).Nodup) {k : κ} {v : ν} :
    (ofList es).get? k = some v ↔ (k, v) ∈ es := by
  rw [get?_eq_some_iff, ofList, entries_foldl_insert (by simpa [empty] using h)]
  rfl

end Dict

end CanonicalLR
