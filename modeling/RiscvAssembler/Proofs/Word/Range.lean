import Mathlib.Data.Int.Bitwise
import RiscvAssembler.Proofs.Word.BitField
import RiscvAssembler.Proofs.Word.Encoding

/-!
# Ranges of fields

A number fits a field if the field gives it back. With a sign, what the field gives back is the sign
extension of the low bits, and without one it is the remainder. The tests on immediates compare the
number with two bounds instead. Both are the same at every width, for numbers of either sign and any
size.

## Main definitions

* `IsSignedRemainder`: a number that fits a sign and has the low bits of another.
* `IsSplit`: an upper part without a sign and a lower part with one that add up to a constant.

## Main results

* `land_mask`: a field in its place is what a mask leaves in two's complement.
* `isSignedRemainder_iff`: the sign extension is the only signed remainder.
* `checkSigned_iff_signExtend`, `checkUnsigned_iff_emod`: the tests by what is given back.
* `ranges_agree`: all of it at every width, with the parts of a constant.
-/

namespace RiscvAssembler

/-! ### Masks

Fields are remainders of quotients here. In two's complement, the same bits are left by a mask. -/

private theorem land_zero (n : Int) : Int.land n 0 = 0 := by
  cases n with
  | ofNat k => exact congrArg Int.ofNat (Nat.and_zero k)
  | negSucc k => exact congrArg Int.ofNat (by simp [Nat.ldiff])

/-- The lowest bit of a number, and the bits above it. -/
private theorem eq_bit_half (n : Int) : n = Int.bit n.bodd (n / 2) := by
  rw [← Int.div2_val, Int.bit_decomp]

/-- The low bits are what a mask of ones leaves. -/
theorem land_two_pow_sub_one (bits : Nat) (n : Int) :
    Int.land n (2 ^ bits - 1) = n % 2 ^ bits := by
  induction bits generalizing n with
  | zero => simpa using land_zero n
  | succ bits ih =>
    -- the mask and the number lose their lowest bit together, also below zero
    have hmask : (2 : Int) ^ (bits + 1) - 1 = Int.bit true (2 ^ bits - 1) := by
      rw [Int.bit_val, pow_succ, cond_true]
      ring
    have hodd : (bif n.bodd then 1 else 0) = n % 2 := by
      have hsum := Int.bodd_add_div2 n
      rw [Int.div2_val] at hsum
      omega
    have hlow := emod_add_place_slice 1 bits n
    rw [slice_def, place_slice_emod, place_def, pow_one, Nat.add_comm 1 bits] at hlow
    conv_lhs => rw [hmask, eq_bit_half n]
    rw [Int.land_bit, ih, Bool.and_true, Int.bit_val, hodd, ← hlow]
    ring

/-- **A field in its place** is what a mask of ones in that place leaves. -/
theorem land_mask (low width : Nat) (n : Int) :
    Int.land n ((2 ^ width - 1) * 2 ^ low) = place low width (slice low width n) := by
  induction low generalizing n with
  | zero =>
    rw [pow_zero, mul_one, land_two_pow_sub_one, slice_def, place_slice_emod, place_def, pow_zero,
      Int.ediv_one, mul_one]
  | succ low ih =>
    have hmask : ((2 : Int) ^ width - 1) * 2 ^ (low + 1)
        = Int.bit false ((2 ^ width - 1) * 2 ^ low) := by
      rw [Int.bit_val, pow_succ, cond_false]
      ring
    conv_lhs => rw [hmask, eq_bit_half n]
    rw [Int.land_bit, ih, Bool.and_false, Int.bit_val, cond_false, add_zero, slice_def, slice_def,
      place_def, place_def, Int.ediv_ediv_of_nonneg (by decide), ← pow_succ', pow_succ]
    ring

/-- The sign bit is taken away from the bits below it. -/
theorem signExtend_eq_land (n : Int) (bits : Nat) :
    signExtend n (bits + 1) = Int.land n (2 ^ bits - 1) - Int.land n (2 ^ bits) := by
  have hsign : (2 : Int) ^ bits = (2 ^ 1 - 1) * 2 ^ bits := by rw [pow_one]; ring
  rw [signExtend_def, land_two_pow_sub_one, ← land_mask, ← hsign]

/-! ### Signed remainders -/

/-- The number fits a sign and `bits` bits in all, and its low bits are those of `n`. -/
structure IsSignedRemainder (n : Int) (bits : Nat) (m : Int) : Prop where
  lower : -2 ^ (bits - 1) ≤ m
  upper : m ≤ 2 ^ (bits - 1) - 1
  congruent : m % 2 ^ bits = n % 2 ^ bits

variable {n m : Int} {bits : Nat}

theorem isSignedRemainder_signExtend (hbits : 1 ≤ bits) :
    IsSignedRemainder n bits (signExtend n bits) := by
  obtain ⟨width, rfl⟩ := Nat.exists_eq_add_of_le' hbits
  exact ⟨le_signExtend n width, Int.le_sub_one_of_lt (signExtend_lt n width),
    signExtend_emod n width⟩

/-- **The sign extension is the signed remainder.** -/
theorem isSignedRemainder_iff (hbits : 1 ≤ bits) :
    IsSignedRemainder n bits m ↔ m = signExtend n bits := by
  constructor
  · intro h
    have hextended := isSignedRemainder_signExtend (n := n) hbits
    obtain ⟨width, rfl⟩ := Nat.exists_eq_add_of_le' hbits
    exact eq_of_emod_eq h.lower (Int.lt_of_le_sub_one h.upper) hextended.lower
      (Int.lt_of_le_sub_one hextended.upper) (h.congruent.trans hextended.congruent.symm)
  · rintro rfl
    exact isSignedRemainder_signExtend hbits

/-! ### Tests on ranges -/

/-- A number passes the test with a sign if its sign extension is the number. -/
theorem checkSigned_iff_signExtend (hbits : 1 ≤ bits) (what : String) :
    checkSigned what n bits = .ok () ↔ signExtend n bits = n := by
  rw [checkSigned_eq_ok]
  constructor
  · rintro ⟨hlower, hupper⟩
    exact ((isSignedRemainder_iff hbits).mp ⟨hlower, hupper, rfl⟩).symm
  · intro h
    have hextended := isSignedRemainder_signExtend (n := n) hbits
    rw [h] at hextended
    exact ⟨hextended.lower, hextended.upper⟩

/-- A number passes the test without a sign if its remainder is the number. -/
theorem checkUnsigned_iff_emod (what : String) (n : Int) (bits : Nat) :
    checkUnsigned what n bits = .ok () ↔ n = n % 2 ^ bits := by
  rw [checkUnsigned_eq_ok]
  constructor
  · rintro ⟨hlower, hupper⟩
    exact (Below.emod_eq ⟨hlower, Int.lt_of_le_sub_one hupper⟩).symm
  · intro h
    obtain ⟨hlower, hupper⟩ := below_emod bits n
    rw [← h] at hlower hupper
    exact ⟨hlower, Int.le_sub_one_of_lt hupper⟩

/-! ### Parts of a constant -/

/-- The parts fit twenty bits and a signed twelve, add up to the constant, and the lower one has the
low bits of it. -/
structure IsSplit (n upper lower : Int) : Prop where
  upper_nonneg : 0 ≤ upper
  upper_lt : upper < 2 ^ 20
  le_lower : -2048 ≤ lower
  lower_le : lower ≤ 2047
  sum : (upper * 4096 + lower) % 2 ^ 32 = n % 2 ^ 32
  lower_eq : lower = signExtend n 12

theorem isSplit_splitConstant {upper lower : Int} (h : splitConstant n = (upper, lower)) :
    IsSplit n upper lower := by
  obtain ⟨⟨hnonneg, hle⟩, ⟨hlower, hlower'⟩, hsum, -⟩ := splitConstant_eq h
  have hcongruent : lower % 2 ^ 12 = n % 2 ^ 12 := by omega
  exact ⟨hnonneg, by omega, hlower, hlower', hsum,
    (isSignedRemainder_iff (by decide)).mp ⟨hlower, hlower', hcongruent⟩⟩

/-! ### All widths -/

/-- **Sign extension and the tests on ranges agree at every width.** The sign extension, which is a
difference of two masks, is the only number with a sign and that width that has the low bits. The
tests pass exactly the numbers that are given back, and a constant is split along the extension of
its low bits. -/
theorem ranges_agree (n : Int) :
    (∀ bits, 1 ≤ bits →
      signExtend n bits = Int.land n (2 ^ (bits - 1) - 1) - Int.land n (2 ^ (bits - 1)) ∧
        (∀ m, IsSignedRemainder n bits m ↔ m = signExtend n bits) ∧
        ∀ what, (checkSigned what n bits = .ok () ↔ signExtend n bits = n) ∧
          (checkUnsigned what n bits = .ok () ↔ n = n % 2 ^ bits)) ∧
      ∃ upper lower, splitConstant n = (upper, lower) ∧ IsSplit n upper lower := by
  refine ⟨fun bits hbits => ⟨?_, fun m => isSignedRemainder_iff hbits, fun what => ?_⟩, ?_⟩
  · obtain ⟨width, rfl⟩ := Nat.exists_eq_add_of_le' hbits
    exact signExtend_eq_land n width
  · exact ⟨checkSigned_iff_signExtend hbits what, checkUnsigned_iff_emod what n bits⟩
  · exact ⟨_, _, rfl, isSplit_splitConstant rfl⟩

/-- One below the least number with twelve bits is given back as the greatest. -/
theorem ranges_agree_below :
    1 ≤ 12 ∧ IsSignedRemainder (-2049) 12 2047 ∧ checkSigned "offset" (-2049) 12 ≠ .ok () ∧
      checkUnsigned "offset" (-2049) 12 ≠ .ok () ∧ IsSplit (-2049) 0xFFFFF 2047 := by
  obtain ⟨hwidth, upper, lower, hsplit, hparts⟩ := ranges_agree (-2049)
  obtain ⟨-, hunique, hchecks⟩ := hwidth 12 (by decide)
  obtain ⟨hsigned, hunsigned⟩ := hchecks "offset"
  obtain ⟨rfl, rfl⟩ := Prod.mk.inj hsplit
  exact ⟨by decide, (hunique 2047).mpr (by decide), mt hsigned.mp (by decide),
    mt hunsigned.mp (by decide), hparts⟩

end RiscvAssembler
