import FieldValidation.Number.Basic

/-!
# Rounding keeps the order

A quotient is rounded to 53 binary digits: the rest of its digits are dropped, how many depends on
how large it is, and what is left is rounded to a whole number. Of two quotients the larger may
drop more digits than the smaller. It is never rounded to the smaller number for that, since the
power of two from which it drops them stands between the two.

## Main definitions

* `droppedBits`, `roundedUnits`: how many digits are dropped, and the number that is left

## Main results

* `roundDiv_mono`, `roundedUnits_mono`: rounding keeps the order
* `roundDiv_mul_left`: a quotient may be extended
* `roundedUnits_of_fits`: what has at most 53 digits is not rounded
-/

namespace FieldValidation

/-! ## Powers of two -/

theorem twoTo_add (j k : Nat) : twoTo (j + k) = twoTo j * twoTo k := Nat.pow_add 2 j k

theorem twoTo_pos (k : Nat) : 0 < twoTo k := Nat.two_pow_pos k

theorem twoTo_le_twoTo {j k : Nat} (h : j ≤ k) : twoTo j ≤ twoTo k :=
  Nat.pow_le_pow_right (by decide) h

theorem le_log2_iff {n k : Nat} (hn : n ≠ 0) : k ≤ n.log2 ↔ twoTo k ≤ n := Nat.le_log2 hn

theorem lt_twoTo_log2_succ (n : Nat) : n < twoTo (n.log2 + 1) := Nat.lt_log2_self

theorem log2_mono {m n : Nat} (h : m ≤ n) : m.log2 ≤ n.log2 := by
  by_cases hm : m = 0
  · simp [hm]
  · apply (le_log2_iff (by omega)).mpr
    exact Nat.le_trans (Nat.log2_self_le hm) h

/-! ## Rounding a quotient -/

variable {n d n' d' : Nat}

/-- The larger quotient does not have the smaller whole part. -/
theorem div_le_div_of_mul_le (hd : 0 < d) (hd' : 0 < d') (h : n * d' ≤ n' * d) :
    n / d ≤ n' / d' := by
  rw [Nat.le_div_iff_mul_le hd']
  apply Nat.le_of_mul_le_mul_right _ hd
  calc n / d * d' * d = n / d * d * d' := Nat.mul_right_comm _ _ _
    _ ≤ n * d' := Nat.mul_le_mul_right d' (Nat.div_mul_le_self n d)
    _ ≤ n' * d := h

theorem le_roundDiv (n d : Nat) : n / d ≤ roundDiv n d := by
  unfold roundDiv
  dsimp only
  repeat' split
  all_goals omega

theorem roundDiv_le (n d : Nat) : roundDiv n d ≤ n / d + 1 := by
  unfold roundDiv
  dsimp only
  repeat' split
  all_goals omega

/-- Whole numbers that a quotient lies between bound its rounding. -/
theorem le_roundDiv_of_mul_le {k : Nat} (hd : 0 < d) (h : d * k ≤ n) : k ≤ roundDiv n d :=
  Nat.le_trans ((Nat.le_div_iff_mul_le hd).mpr (by rwa [Nat.mul_comm])) (le_roundDiv n d)

theorem roundDiv_le_of_lt_mul {k : Nat} (h : n < d * k) : roundDiv n d ≤ k :=
  Nat.le_trans (roundDiv_le n d) (Nat.div_lt_of_lt_mul h)

/-- A whole quotient is not rounded. -/
theorem roundDiv_mul_right {k : Nat} (hd : 0 < d) : roundDiv (d * k) d = k := by
  unfold roundDiv
  dsimp only
  rw [Nat.mul_mod_right, Nat.mul_div_cancel_left k hd, if_pos (by omega)]

/-- A quotient may be extended. -/
theorem roundDiv_mul_left {c : Nat} (hc : 0 < c) (n d : Nat) :
    roundDiv (c * n) (c * d) = roundDiv n d := by
  have hlt (r s : Nat) : c * r < c * s ↔ r < s := Nat.mul_lt_mul_left hc
  unfold roundDiv
  dsimp only
  rw [Nat.mul_div_mul_left n d hc, Nat.mul_mod_mul_left, Nat.mul_left_comm]
  simp only [hlt]

/-- Of two quotients with the same whole part, the larger leaves the larger remainder. -/
theorem mod_mul_le (hq : n / d = n' / d') (h : n * d' ≤ n' * d) : n % d * d' ≤ n' % d' * d := by
  have hn : n * d' = n / d * (d * d') + n % d * d' := by
    rw [← Nat.mul_assoc, ← Nat.add_mul, Nat.div_add_mod']
  have hn' : n' * d = n / d * (d * d') + n' % d' * d := by
    rw [hq, Nat.mul_comm d d', ← Nat.mul_assoc, ← Nat.add_mul, Nat.div_add_mod']
  omega

/-- The larger quotient is not rounded to the smaller number. -/
theorem roundDiv_mono (hd : 0 < d) (hd' : 0 < d') (h : n * d' ≤ n' * d) :
    roundDiv n d ≤ roundDiv n' d' := by
  rcases Nat.lt_or_eq_of_le (div_le_div_of_mul_le hd hd' h) with hlt | heq
  · exact Nat.le_trans (roundDiv_le n d) (Nat.le_trans hlt (le_roundDiv n' d'))
  · have hmod := mod_mul_le heq h
    have hhalf (hup : d ≤ 2 * (n % d)) : d' ≤ 2 * (n' % d') := by
      apply Nat.le_of_mul_le_mul_right _ hd
      calc d' * d ≤ 2 * (n % d) * d' := by
            rw [Nat.mul_comm d' d]
            exact Nat.mul_le_mul_right d' hup
        _ ≤ 2 * (n' % d') * d := by
            rw [Nat.mul_assoc, Nat.mul_assoc]
            exact Nat.mul_le_mul_left 2 hmod
    have hmore (hup : d < 2 * (n % d)) : d' < 2 * (n' % d') := by
      apply Nat.lt_of_mul_lt_mul_right (a := d)
      calc d' * d < 2 * (n % d) * d' := by
            rw [Nat.mul_comm d' d]
            exact Nat.mul_lt_mul_of_pos_right hup hd'
        _ ≤ 2 * (n' % d') * d := by
            rw [Nat.mul_assoc, Nat.mul_assoc]
            exact Nat.mul_le_mul_left 2 hmod
    unfold roundDiv
    dsimp only
    rw [heq]
    repeat' split
    all_goals omega

/-! ## Fifty-three digits -/

/-- How many binary digits of a quotient are dropped. -/
def droppedBits (n d : Nat) : Nat := (n / d).log2 - 52

/-- A quotient rounded to what is left when digits are dropped. -/
def roundedUnits (n d : Nat) : Nat :=
  roundDiv n (d * twoTo (droppedBits n d)) * twoTo (droppedBits n d)

theorem lt_mul_twoTo_droppedBits (hd : 0 < d) (n : Nat) :
    n < d * twoTo (droppedBits n d) * twoTo 53 := by
  have hbits : (n / d).log2 + 1 ≤ droppedBits n d + 53 := by
    unfold droppedBits
    omega
  rw [Nat.mul_assoc, ← twoTo_add, Nat.mul_comm]
  exact (Nat.div_lt_iff_lt_mul hd).mp
    (Nat.lt_of_lt_of_le (lt_twoTo_log2_succ _) (twoTo_le_twoTo hbits))

theorem mul_twoTo_droppedBits_le (hd : 0 < d) (hdropped : 0 < droppedBits n d) :
    d * twoTo (droppedBits n d) * twoTo 52 ≤ n := by
  have hbits : droppedBits n d + 52 = (n / d).log2 := by
    unfold droppedBits at hdropped ⊢
    omega
  have hpos : n / d ≠ 0 := by
    intro hzero
    rw [hzero] at hbits
    simp at hbits
  rw [Nat.mul_assoc, ← twoTo_add, hbits, Nat.mul_comm]
  exact (Nat.le_div_iff_mul_le hd).mp ((le_log2_iff hpos).mp (Nat.le_refl _))

/-- What is left has at most 53 digits, or is the first number of 54. -/
theorem roundDiv_le_twoTo (hd : 0 < d) (n : Nat) :
    roundDiv n (d * twoTo (droppedBits n d)) ≤ twoTo 53 :=
  roundDiv_le_of_lt_mul (lt_mul_twoTo_droppedBits hd n)

/-- Where digits are dropped, 53 are left. -/
theorem twoTo_le_roundDiv (hd : 0 < d) (hdropped : 0 < droppedBits n d) :
    twoTo 52 ≤ roundDiv n (d * twoTo (droppedBits n d)) :=
  le_roundDiv_of_mul_le (Nat.mul_pos hd (twoTo_pos _)) (mul_twoTo_droppedBits_le hd hdropped)

/-- The larger quotient is not rounded to the smaller number, however many digits each drops:
between the two stands the power of two from which the larger drops more. -/
theorem roundedUnits_mono (hd : 0 < d) (hd' : 0 < d') (h : n * d' ≤ n' * d) :
    roundedUnits n d ≤ roundedUnits n' d' := by
  have hbits : droppedBits n d ≤ droppedBits n' d' :=
    Nat.sub_le_sub_right (log2_mono (div_le_div_of_mul_le hd hd' h)) 52
  unfold roundedUnits
  rcases Nat.lt_or_eq_of_le hbits with hlt | heq
  · calc roundDiv n (d * twoTo (droppedBits n d)) * twoTo (droppedBits n d)
        ≤ twoTo 53 * twoTo (droppedBits n d) :=
          Nat.mul_le_mul_right _ (roundDiv_le_twoTo hd n)
      _ = twoTo (53 + droppedBits n d) := (twoTo_add _ _).symm
      _ ≤ twoTo (52 + droppedBits n' d') := twoTo_le_twoTo (by omega)
      _ = twoTo 52 * twoTo (droppedBits n' d') := twoTo_add _ _
      _ ≤ roundDiv n' (d' * twoTo (droppedBits n' d')) * twoTo (droppedBits n' d') :=
          Nat.mul_le_mul_right _ (twoTo_le_roundDiv hd' (by omega))
  · rw [heq]
    apply Nat.mul_le_mul_right
    apply roundDiv_mono (Nat.mul_pos hd (twoTo_pos _)) (Nat.mul_pos hd' (twoTo_pos _))
    rw [← Nat.mul_assoc, ← Nat.mul_assoc]
    exact Nat.mul_le_mul_right _ h

/-- What has at most 53 digits before its zeros is not rounded. -/
theorem roundedUnits_of_fits {s t : Nat} (hd : 0 < d) (hs : s < twoTo 53) :
    roundedUnits (d * (s * twoTo t)) d = s * twoTo t := by
  have hbits : droppedBits (d * (s * twoTo t)) d ≤ t := by
    unfold droppedBits
    rw [Nat.mul_div_cancel_left _ hd]
    by_cases hzero : s * twoTo t = 0
    · simp [hzero]
    · have hlt : s * twoTo t < twoTo (53 + t) := by
        rw [twoTo_add]
        exact Nat.mul_lt_mul_of_pos_right hs (twoTo_pos t)
      have hlog : ¬ 53 + t ≤ (s * twoTo t).log2 :=
        fun hle => Nat.not_le_of_lt hlt ((le_log2_iff hzero).mp hle)
      omega
  unfold roundedUnits
  generalize droppedBits (d * (s * twoTo t)) d = dropped at hbits
  have hsplit : s * twoTo t = twoTo dropped * (s * twoTo (t - dropped)) := by
    rw [Nat.mul_left_comm, ← twoTo_add, Nat.add_sub_cancel' hbits]
  rw [hsplit, ← Nat.mul_assoc, roundDiv_mul_right (Nat.mul_pos hd (twoTo_pos _)), Nat.mul_comm]

end FieldValidation
