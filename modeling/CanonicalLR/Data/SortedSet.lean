/-! Finite sets as strictly ascending lists: equal sets are equal lists, and the members are listed
in ascending order. -/
namespace CanonicalLR

def insertSorted {α : Type} [LT α] [DecidableLT α] (a : α) : List α → List α
  | [] => [a]
  | b :: bs =>
    if a < b then a :: b :: bs else if b < a then b :: insertSorted a bs else b :: bs

private theorem mem_insertSorted {α : Type} [LT α] [DecidableLT α]
    [Std.Trichotomous (α := α) (· < ·)] {a x : α} {l : List α} :
    x ∈ insertSorted a l ↔ x = a ∨ x ∈ l := by
  induction l with
  | nil => simp [insertSorted]
  | cons b bs ih =>
    by_cases hab : a < b
    · simp [insertSorted, hab]
    · by_cases hba : b < a
      · simp [insertSorted, hab, hba, ih, or_left_comm]
      · have : a = b := Std.Trichotomous.trichotomous (r := (· < ·)) a b hab hba
        subst this
        simp [insertSorted, hab]

private theorem length_insertSorted {α : Type} [LT α] [DecidableLT α]
    [Std.Trichotomous (α := α) (· < ·)] {a : α} {l : List α} (h : a ∉ l) :
    (insertSorted a l).length = l.length + 1 := by
  induction l with
  | nil => rfl
  | cons b bs ih =>
    obtain ⟨hab, hbs⟩ := not_or.1 (mt List.mem_cons.2 h)
    unfold insertSorted
    split
    · rfl
    · rename_i hlt
      split
      · rw [List.length_cons, List.length_cons, ih hbs]
      · rename_i hgt
        exact absurd (Std.Trichotomous.trichotomous (r := (· < ·)) a b hlt hgt) hab

private theorem mem_of_mem_insertSorted {α : Type} [LT α] [DecidableLT α] {a x : α} {l : List α}
    (h : x ∈ insertSorted a l) : x = a ∨ x ∈ l := by
  induction l with
  | nil => simpa [insertSorted] using h
  | cons b bs ih =>
    unfold insertSorted at h
    split at h
    · simpa using h
    · split at h
      · rcases List.mem_cons.1 h with rfl | h
        · simp
        · rcases ih h with h | h <;> simp [h]
      · exact .inr h

private theorem pairwise_insertSorted {α : Type} [LT α] [DecidableLT α]
    [Trans (α := α) (· < ·) (· < ·) (· < ·)] {a : α} {l : List α}
    (h : l.Pairwise (· < ·)) : (insertSorted a l).Pairwise (· < ·) := by
  induction l with
  | nil => simp [insertSorted]
  | cons b bs ih =>
    have hb := List.pairwise_cons.1 h
    unfold insertSorted
    split
    · rename_i hab
      refine List.pairwise_cons.2 ⟨fun x hx => ?_, h⟩
      rcases List.mem_cons.1 hx with rfl | hx
      · exact hab
      · exact Trans.trans hab (hb.1 x hx)
    · split
      · rename_i hba
        refine List.pairwise_cons.2 ⟨fun x hx => ?_, ih hb.2⟩
        rcases mem_of_mem_insertSorted hx with rfl | hx
        · exact hba
        · exact hb.1 x hx
      · exact h

/-- A finite set whose members are listed in ascending order. -/
structure SortedSet (α : Type) [LT α] where
  toList : List α
  sorted : toList.Pairwise (· < ·)

namespace SortedSet

variable {α : Type} [LT α]

private theorem ext {s t : SortedSet α} (h : s.toList = t.toList) : s = t := by
  cases s; cases t; simp_all

instance [DecidableEq α] : DecidableEq (SortedSet α) := fun s t =>
  if h : s.toList = t.toList then isTrue (ext h) else isFalse fun e => h (e ▸ rfl)

instance : Membership α (SortedSet α) := ⟨fun s a => a ∈ s.toList⟩

theorem mem_def {a : α} {s : SortedSet α} : a ∈ s ↔ a ∈ s.toList := Iff.rfl

instance [DecidableEq α] (a : α) (s : SortedSet α) : Decidable (a ∈ s) :=
  inferInstanceAs (Decidable (a ∈ s.toList))

/-- No member is listed twice. -/
theorem nodup [Std.Irrefl (α := α) (· < ·)] (s : SortedSet α) : s.toList.Nodup := by
  refine s.sorted.imp fun {a b} h e => ?_
  subst e
  exact Std.Irrefl.irrefl (r := (· < ·)) a h

/-- Sets with the same members are equal. -/
theorem ext_mem [Trans (α := α) (· < ·) (· < ·) (· < ·)] [Std.Irrefl (α := α) (· < ·)]
    {s t : SortedSet α} (h : ∀ x, x ∈ s ↔ x ∈ t) : s = t := by
  have hp : s.toList.Perm t.toList := (List.perm_ext_iff_of_nodup s.nodup t.nodup).2 h
  refine ext (hp.eq_of_pairwise (fun a b _ _ hab hba => ?_) s.sorted t.sorted)
  exact absurd (Trans.trans hab hba) (Std.Irrefl.irrefl (r := (· < ·)) a)

def empty : SortedSet α := ⟨[], .nil⟩

@[simp] theorem not_mem_empty {a : α} : a ∉ (empty : SortedSet α) := List.not_mem_nil

def size (s : SortedSet α) : Nat := s.toList.length

def isEmpty (s : SortedSet α) : Bool := s.toList.isEmpty

variable [DecidableLT α] [Trans (α := α) (· < ·) (· < ·) (· < ·)]

def insert (s : SortedSet α) (a : α) : SortedSet α :=
  ⟨insertSorted a s.toList, pairwise_insertSorted s.sorted⟩

def insertMany (s : SortedSet α) (as : List α) : SortedSet α :=
  as.foldl insert s

def ofList (as : List α) : SortedSet α :=
  empty.insertMany as

def union (s t : SortedSet α) : SortedSet α :=
  s.insertMany t.toList

variable [Std.Trichotomous (α := α) (· < ·)]

@[simp] theorem mem_insert {s : SortedSet α} {a x : α} : x ∈ s.insert a ↔ x = a ∨ x ∈ s :=
  mem_insertSorted

/-- A new member makes a set larger by one. -/
theorem size_insert {s : SortedSet α} {a : α} (h : a ∉ s) : (s.insert a).size = s.size + 1 :=
  length_insertSorted h

@[simp] theorem mem_insertMany {s : SortedSet α} {as : List α} {x : α} :
    x ∈ s.insertMany as ↔ x ∈ s ∨ x ∈ as := by
  induction as generalizing s with
  | nil => simp [insertMany]
  | cons a as ih =>
    have : s.insertMany (a :: as) = (s.insert a).insertMany as := rfl
    rw [this, ih, mem_insert, List.mem_cons, or_assoc, or_left_comm]

@[simp] theorem mem_ofList {as : List α} {x : α} : x ∈ ofList as ↔ x ∈ as := by
  rw [ofList, mem_insertMany]
  simp [mem_def, empty]

@[simp] theorem mem_union {s t : SortedSet α} {x : α} : x ∈ s.union t ↔ x ∈ s ∨ x ∈ t :=
  mem_insertMany

end SortedSet

end CanonicalLR
