/-! Sets of code points written as the sorted list of places where membership changes. -/
namespace CanonicalLR.Text

/-- Membership starts outside and changes at each listed place at or below `n`. -/
def inside : List Nat → Nat → Bool
  | [], _ => false
  | b :: bs, n => if n < b then false else !inside bs n

/-- Combines two sets place by place. The flags say whether the place before the heads of the lists
is in the first set, in the second set and in the result. -/
def combineFrom (op : Bool → Bool → Bool) :
    Nat → Bool → Bool → Bool → List Nat → List Nat → List Nat
  | 0, _, _, _, _, _ => []
  | fuel + 1, p, q, r, as, bs =>
    let next (n : Nat) (p' q' : Bool) (as' bs' : List Nat) :=
      if op p' q' == r then combineFrom op fuel p' q' r as' bs'
      else n :: combineFrom op fuel p' q' (!r) as' bs'
    match as, bs with
    | [], [] => []
    | a :: as', [] => next a (!p) q as' []
    | [], b :: bs' => next b p (!q) [] bs'
    | a :: as', b :: bs' =>
      if a < b then next a (!p) q as' bs
      else if b < a then next b p (!q) as bs'
      else next a (!p) (!q) as' bs'

/-- The code points for which `op` holds of the memberships in two sets. No more rounds are needed
than there are places; `op` does not hold outside both sets. -/
def combine (op : Bool → Bool → Bool) (as bs : List Nat) : List Nat :=
  combineFrom op (as.length + bs.length + 1) false false false as bs

private theorem inside_eq_false {as : List Nat} {n : Nat} (h : ∀ a ∈ as, n < a) :
    inside as n = false := by
  cases as with
  | nil => rfl
  | cons a as => simp [inside, h a (by simp)]

/-- One round: membership of `n` is settled by the place `a` if `n` is below it, and by the places behind
it otherwise. -/
private theorem inside_round (op : Bool → Bool → Bool) {p' q' r : Bool} {a n : Nat}
    {f : Bool → List Nat} {u v u' v' : Bool}
    (below : n < a → u' = false ∧ v' = false ∧ op u v = r)
    (behind : ¬ n < a → (p' ^^ u') = u ∧ (q' ^^ v') = v)
    (ih : (inside (f (op p' q')) n ^^ op p' q') = op (p' ^^ u') (q' ^^ v')) :
    (inside (if op p' q' == r then f r else a :: f (!r)) n ^^ r) = op u v := by
  by_cases hr : op p' q' = r
  · subst hr
    by_cases hn : n < a
    · obtain ⟨rfl, rfl, huv⟩ := below hn
      simpa [huv] using ih
    · obtain ⟨rfl, rfl⟩ := behind hn
      simpa using ih
  · have hne : op p' q' = !r := by cases r <;> cases h : op p' q' <;> simp_all
    by_cases hn : n < a
    · obtain ⟨_, _, huv⟩ := below hn
      simp [hne, inside, hn, huv]
    · obtain ⟨rfl, rfl⟩ := behind hn
      rw [← ih, hne]
      simp [inside, hn]

private theorem inside_combineFrom (op : Bool → Bool → Bool) (n fuel : Nat) (p q : Bool)
    (as bs : List Nat) (ha : as.Pairwise (· < ·)) (hb : bs.Pairwise (· < ·))
    (hf : as.length + bs.length < fuel) :
    (inside (combineFrom op fuel p q (op p q) as bs) n ^^ op p q)
      = op (p ^^ inside as n) (q ^^ inside bs n) := by
  induction fuel generalizing p q as bs with
  | zero => omega
  | succ fuel ih =>
    match as, bs with
    | [], [] => simp [combineFrom, inside]
    | a :: as', [] =>
      have ha' := List.pairwise_cons.mp ha
      simp only [combineFrom]
      refine inside_round op (f := fun r => combineFrom op fuel (!p) q r as' [])
        (fun hn => ?_) (fun hn => ?_) (ih (!p) q as' [] ha'.2 hb (by simp at hf ⊢; omega))
      · simp [inside, hn, inside_eq_false fun x hx => Nat.lt_trans hn (ha'.1 x hx)]
      · simp [inside, hn]
    | [], b :: bs' =>
      have hb' := List.pairwise_cons.mp hb
      simp only [combineFrom]
      refine inside_round op (f := fun r => combineFrom op fuel p (!q) r [] bs')
        (fun hn => ?_) (fun hn => ?_) (ih p (!q) [] bs' ha hb'.2 (by simp at hf ⊢; omega))
      · simp [inside, hn, inside_eq_false fun x hx => Nat.lt_trans hn (hb'.1 x hx)]
      · simp [inside, hn]
    | a :: as', b :: bs' =>
      have ha' := List.pairwise_cons.mp ha
      have hb' := List.pairwise_cons.mp hb
      have below_as {m : Nat} (h : m ≤ a) (hn : n < m) : inside as' n = false :=
        inside_eq_false fun x hx => by have := ha'.1 x hx; omega
      have below_bs {m : Nat} (h : m ≤ b) (hn : n < m) : inside bs' n = false :=
        inside_eq_false fun x hx => by have := hb'.1 x hx; omega
      simp only [combineFrom]
      split
      next hab =>
        refine inside_round op (f := fun r => combineFrom op fuel (!p) q r as' (b :: bs'))
          (fun hn => ?_) (fun hn => ?_) (ih (!p) q as' (b :: bs') ha'.2 hb (by simp at hf ⊢; omega))
        · simp [inside, hn, below_as (Nat.le_refl a) hn, Nat.lt_trans hn hab]
        · simp [inside, hn]
      next hab =>
        split
        next hba =>
          refine inside_round op (f := fun r => combineFrom op fuel p (!q) r (a :: as') bs')
            (fun hn => ?_) (fun hn => ?_) (ih p (!q) (a :: as') bs' ha hb'.2 (by simp at hf ⊢; omega))
          · simp [inside, hn, below_bs (Nat.le_refl b) hn, Nat.lt_trans hn hba]
          · simp [inside, hn]
        next hba =>
          obtain rfl : a = b := by omega
          refine inside_round op (f := fun r => combineFrom op fuel (!p) (!q) r as' bs')
            (fun hn => ?_) (fun hn => ?_) (ih (!p) (!q) as' bs' ha'.2 hb'.2 (by simp at hf ⊢; omega))
          · simp [inside, hn, below_as (Nat.le_refl a) hn, below_bs (Nat.le_refl a) hn]
          · simp [inside, hn]

/-- Membership in a combination of two ascending lists of places. -/
theorem inside_combine (op : Bool → Bool → Bool) (h : op false false = false) {as bs : List Nat}
    (ha : as.Pairwise (· < ·)) (hb : bs.Pairwise (· < ·)) (n : Nat) :
    inside (combine op as bs) n = op (inside as n) (inside bs n) := by
  have hc := inside_combineFrom op n (as.length + bs.length + 1) false false as bs ha hb
    (Nat.lt_succ_self _)
  simpa [h, combine] using hc

end CanonicalLR.Text
