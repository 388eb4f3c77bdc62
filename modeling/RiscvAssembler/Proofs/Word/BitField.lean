import Mathlib.Algebra.Order.Ring.Int
import Mathlib.Tactic.Linarith
import Mathlib.Tactic.Ring
import RiscvAssembler.Field

/-!
# Sums of bit fields

A word is a sum of fields, each moved up to its own position. Reading a field back from such a sum
needs two facts only: the fields above it do not reach down to it, and the fields below it add up to
less than its lowest bit.

## Main results

* `slice_add_place`, `slice_add_place_self`: a field of a sum, by what stands above and below it.
* `emod_add_place_slice`: the low bits of a number and the field on top of them.
* `signExtend_emod`, `le_signExtend`, `signExtend_lt`: sign extension is the signed remainder.
* `signExtend_of_bounds`: a number that fits its sign is not changed.
* `splitConstant_eq`: the parts of a constant add up to it.
-/

namespace RiscvAssembler

private theorem two_pow_pos (n : Nat) : (0 : Int) < 2 ^ n :=
  Int.pow_pos (by decide)

/-! ### Powers of two

The definitions of fields in terms of the powers that the ring lemmas are about. -/

theorem place_def (low width : Nat) (n : Int) : place low width n = n % 2 ^ width * 2 ^ low := rfl

theorem slice_def (low width : Nat) (n : Int) : slice low width n = n / 2 ^ low % 2 ^ width := rfl

theorem signExtend_def (n : Int) (bits : Nat) :
    signExtend n (bits + 1) = n % 2 ^ bits - place bits 1 (slice bits 1 n) := rfl

theorem slice_nonneg (low width : Nat) (n : Int) : 0 ≤ slice low width n :=
  Int.emod_nonneg _ (two_pow_pos width).ne'

theorem slice_lt (low width : Nat) (n : Int) : slice low width n < 2 ^ width :=
  Int.emod_lt_of_pos _ (two_pow_pos width)

/-! ### Low bits

Fields and stored values depend on low bits only, so a number may be exchanged for any other with
the same remainder. -/

theorem slice_add_two_pow_mul (low width : Nat) (n k : Int) :
    slice low width (n + 2 ^ (low + width) * k) = slice low width n := by
  rw [slice_def, slice_def, show n + 2 ^ (low + width) * k = n + 2 ^ low * (2 ^ width * k) by ring,
    Int.add_mul_ediv_left _ _ (two_pow_pos low).ne', Int.add_mul_emod_self_left]

/-- A field depends on the bits up to its end. -/
theorem slice_congr {low width bits : Nat} {m n : Int} (hw : low + width ≤ bits)
    (h : m % 2 ^ bits = n % 2 ^ bits) : slice low width m = slice low width n := by
  have hmod : m % 2 ^ (low + width) = n % 2 ^ (low + width) := by
    rw [← Int.emod_emod_of_dvd m (pow_dvd_pow 2 hw), h, Int.emod_emod_of_dvd n (pow_dvd_pow 2 hw)]
  have hm : m = n + 2 ^ (low + width) * (m / 2 ^ (low + width) - n / 2 ^ (low + width)) := by
    have h₁ := Int.emod_add_mul_ediv m (2 ^ (low + width))
    have h₂ := Int.emod_add_mul_ediv n (2 ^ (low + width))
    rw [mul_sub]
    linarith
  rw [hm, slice_add_two_pow_mul]

/-- What is stored of a number depends on its low bits. -/
theorem place_congr {low width bits : Nat} {m n : Int} (hw : width ≤ bits)
    (h : m % 2 ^ bits = n % 2 ^ bits) : place low width m = place low width n := by
  rw [place_def, place_def, ← Int.emod_emod_of_dvd m (pow_dvd_pow 2 hw), h,
    Int.emod_emod_of_dvd n (pow_dvd_pow 2 hw)]

@[simp] theorem place_slice_emod (low width : Nat) (n : Int) :
    place low width (n % 2 ^ width) = place low width n :=
  place_congr (le_refl width) (Int.emod_emod_of_dvd n (dvd_refl _))

/-! ### Fields of sums -/

/-- The number has no bits from `bits` on. -/
def Below (bits : Nat) (n : Int) : Prop :=
  0 ≤ n ∧ n < 2 ^ bits

theorem below_emod (bits : Nat) (n : Int) : Below bits (n % 2 ^ bits) :=
  ⟨Int.emod_nonneg _ (two_pow_pos bits).ne', Int.emod_lt_of_pos _ (two_pow_pos bits)⟩

theorem Below.emod_eq {bits : Nat} {n : Int} (h : Below bits n) : n % 2 ^ bits = n :=
  Int.emod_eq_of_lt h.1 h.2

@[simp] theorem below_place_zero (width : Nat) (n : Int) : Below width (place 0 width n) := by
  simpa [place_def] using below_emod width n

/-- A field on top of a number takes up the bits that follow it. -/
theorem Below.add_place {low : Nat} {x : Int} (h : Below low x) (width : Nat) (n : Int) :
    Below (low + width) (x + place low width n) := by
  obtain ⟨hn, hlt⟩ := below_emod width n
  refine ⟨add_nonneg h.1 (mul_nonneg hn (two_pow_pos low).le), ?_⟩
  calc x + n % 2 ^ width * 2 ^ low
      < 2 ^ low + n % 2 ^ width * 2 ^ low := by linarith [h.2]
    _ = (n % 2 ^ width + 1) * 2 ^ low := by ring
    _ ≤ 2 ^ width * 2 ^ low := mul_le_mul_of_nonneg_right hlt (two_pow_pos low).le
    _ = 2 ^ (low + width) := by rw [pow_add, mul_comm]

/-- **A field below.** What is put on top does not change it. -/
theorem slice_add_place {low width low' : Nat} (h : low + width ≤ low') (x : Int) (width' : Nat)
    (n : Int) : slice low width (x + place low' width' n) = slice low width x := by
  obtain ⟨d, rfl⟩ := Nat.exists_eq_add_of_le h
  rw [place_def, show n % 2 ^ width' * 2 ^ (low + width + d)
      = 2 ^ (low + width) * (n % 2 ^ width' * 2 ^ d) by ring, slice_add_two_pow_mul]

/-- **The field on top.** It is read back as it was stored. -/
theorem slice_add_place_self {low : Nat} {x : Int} (h : Below low x) (width : Nat) (n : Int) :
    slice low width (x + place low width n) = n % 2 ^ width := by
  rw [slice_def, place_def, Int.add_mul_ediv_right _ _ (two_pow_pos low).ne',
    Int.ediv_eq_zero_of_lt h.1 h.2, zero_add, Int.emod_emod_of_dvd _ (dvd_refl _)]

@[simp] theorem slice_place_zero (width : Nat) (n : Int) :
    slice 0 width (place 0 width n) = n % 2 ^ width := by
  simp [slice_def, place_def]

/-- The low bits of a number with the field that follows them. -/
theorem emod_add_place_slice (low width : Nat) (n : Int) :
    n % 2 ^ low + place low width (slice low width n) = n % 2 ^ (low + width) := by
  have hsum : n = n % 2 ^ low + place low width (slice low width n)
      + 2 ^ (low + width) * (n / 2 ^ low / 2 ^ width) := by
    have hlow := Int.emod_add_mul_ediv n (2 ^ low)
    have hhigh := Int.emod_add_mul_ediv (n / 2 ^ low) (2 ^ width)
    rw [slice_def, place_slice_emod, place_def]
    calc n = n % 2 ^ low + 2 ^ low * (n / 2 ^ low % 2 ^ width
          + 2 ^ width * (n / 2 ^ low / 2 ^ width)) := by rw [hhigh, hlow]
      _ = _ := by ring
  have hbelow := (below_emod low n).add_place width (slice low width n)
  rw [← hbelow.emod_eq]
  conv_rhs => rw [hsum]
  rw [Int.add_mul_emod_self_left]

/-! ### Sign extension -/

/-- Of the numbers with one remainder, at most one fits a sign and `bits` bits. -/
theorem eq_of_emod_eq {bits : Nat} {m n : Int} (hm : -2 ^ bits ≤ m) (hm' : m < 2 ^ bits)
    (hn : -2 ^ bits ≤ n) (hn' : n < 2 ^ bits)
    (h : m % 2 ^ (bits + 1) = n % 2 ^ (bits + 1)) : m = n := by
  have hdvd : (2 : Int) ^ (bits + 1) ∣ m - n :=
    Int.dvd_of_emod_eq_zero (Int.emod_eq_emod_iff_emod_sub_eq_zero.mp h)
  have habs : |m - n| < 2 ^ (bits + 1) := by
    rw [abs_lt, pow_succ]
    constructor <;> linarith
  linarith [Int.eq_zero_of_abs_lt_dvd hdvd habs]

/-- A stored bit is either missing or there. -/
theorem place_one_bounds (low : Nat) (n : Int) : 0 ≤ place low 1 n ∧ place low 1 n ≤ 2 ^ low := by
  rcases Int.emod_two_eq n with h | h <;> simp [place_def, h, (two_pow_pos low).le]

/-- The sign bit has a negative weight. -/
theorem signExtend_eq (n : Int) (bits : Nat) :
    signExtend n (bits + 1)
      = n % 2 ^ (bits + 1) + 2 ^ (bits + 1) * -slice bits 1 n := by
  have hslice : slice bits 1 n % 2 ^ 1 = slice bits 1 n := Int.emod_emod_of_dvd _ (dvd_refl _)
  have hsplit := emod_add_place_slice bits 1 n
  rw [place_def, hslice] at hsplit
  rw [signExtend_def, place_def, hslice, ← hsplit]
  ring

/-- Sign extension keeps the low bits. -/
theorem signExtend_emod (n : Int) (bits : Nat) :
    signExtend n (bits + 1) % 2 ^ (bits + 1) = n % 2 ^ (bits + 1) := by
  rw [signExtend_eq, Int.add_mul_emod_self_left, Int.emod_emod_of_dvd _ (dvd_refl _)]

theorem le_signExtend (n : Int) (bits : Nat) : -2 ^ bits ≤ signExtend n (bits + 1) := by
  rw [signExtend_def]
  linarith [(below_emod bits n).1, (place_one_bounds bits (slice bits 1 n)).2]

theorem signExtend_lt (n : Int) (bits : Nat) : signExtend n (bits + 1) < 2 ^ bits := by
  rw [signExtend_def]
  linarith [(below_emod bits n).2, (place_one_bounds bits (slice bits 1 n)).1]

/-- An even number of at least two bits stays even, and so is less than its bound by two. -/
theorem signExtend_of_even {n : Int} (h : n % 2 = 0) (bits : Nat) :
    signExtend n (bits + 2) % 2 = 0 ∧ -2 ^ (bits + 1) ≤ signExtend n (bits + 2) ∧
      signExtend n (bits + 2) ≤ 2 ^ (bits + 1) - 2 := by
  have hdvd : (2 : Int) ∣ 2 ^ (bits + 2) := dvd_pow_self 2 (Nat.succ_ne_zero _)
  have heven : signExtend n (bits + 2) % 2 = 0 := by
    rw [← Int.emod_emod_of_dvd _ hdvd, signExtend_emod n (bits + 1), Int.emod_emod_of_dvd _ hdvd, h]
  have hlt : signExtend n (bits + 2) < 2 ^ (bits + 1) := signExtend_lt n (bits + 1)
  refine ⟨heven, le_signExtend n (bits + 1), ?_⟩
  rw [pow_succ] at hlt ⊢
  omega

theorem signExtend_congr {m n : Int} {bits : Nat} (h : m % 2 ^ (bits + 1) = n % 2 ^ (bits + 1)) :
    signExtend m (bits + 1) = signExtend n (bits + 1) := by
  rw [signExtend_eq, signExtend_eq, h, slice_congr (le_refl (bits + 1)) h]

/-- A number that fits its sign is not changed. -/
theorem signExtend_of_bounds {n : Int} {bits : Nat} (h : -2 ^ bits ≤ n) (h' : n < 2 ^ bits) :
    signExtend n (bits + 1) = n :=
  eq_of_emod_eq (le_signExtend n bits) (signExtend_lt n bits) h h' (signExtend_emod n bits)

/-! ### Parts of a constant -/

/-- The parts of a constant fit their fields and add up to it. -/
theorem splitConstant_eq {n upper lower : Int} (h : splitConstant n = (upper, lower)) :
    (0 ≤ upper ∧ upper ≤ 0xFFFFF) ∧ (-2048 ≤ lower ∧ lower ≤ 2047) ∧
      (upper * 4096 + lower) % 2 ^ 32 = n % 2 ^ 32 ∧ (lower = 0 ↔ n % 4096 = 0) := by
  obtain ⟨rfl, rfl⟩ := Prod.mk.inj h
  omega

end RiscvAssembler
