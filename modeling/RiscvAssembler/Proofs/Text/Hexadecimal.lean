import Mathlib.Data.List.Forall2
import Mathlib.Data.Nat.Digits.Defs
import RiscvAssembler.Proofs.Literal

/-!
# Numbers in base sixteen

The digits of a number are filled up with zeros to a width. A number that has room in the width
takes up all of it, and is read back from its digits.

## Main definitions

* `IsHexLower`: the text of a number, filled up to a width.

## Main results

* `mem_hexChars`: the characters of a number.
* `length_hexChars`: a number that has room takes up the width.
* `digitsValue?_hexChars`: a number is read back.
* `isHexLower_hexLower`: the text that stands for a number.
-/

namespace RiscvAssembler.Text

/-- The characters of a number are digits, and a sign. -/
theorem mem_hexChars {width : Nat} {n : Int} {c : Char} (h : c ∈ hexChars width n) :
    c = '-' ∨ ∃ d < 16, c = d.digitChar := by
  rcases List.mem_append.mp h with h | h
  · rcases List.mem_append.mp h with h | h
    · rw [sign] at h
      split at h
      · exact .inl (List.mem_singleton.mp h)
      · cases h
    · exact .inr ⟨0, by decide, List.eq_of_mem_replicate h⟩
  · exact .inr (exists_digitChar_of_mem_toDigits (by decide) h)

/-- A number is written on one line. -/
theorem newline_notMem_hexUpper (width : Nat) (n : Int) : '\n' ∉ (hexUpper width n).toList := by
  have hdigits : ∀ d < 16, d.digitChar.toUpper ≠ '\n' := by decide
  rw [hexUpper, String.toList_ofList]
  intro h
  obtain ⟨c, hc, heq⟩ := List.mem_map.mp h
  rcases mem_hexChars hc with rfl | ⟨d, hd, rfl⟩
  · exact absurd heq (by decide)
  · exact hdigits d hd heq

section

variable {width : Nat} {n : Int}

theorem hexChars_eq_append (hn : 0 ≤ n) :
    hexChars width n
      = List.replicate (width - (Nat.toDigits 16 n.natAbs).length) '0'
        ++ Nat.toDigits 16 n.natAbs := by
  have hsign : sign n = [] := if_neg (by omega)
  rw [hexChars, hsign]
  rfl

/-- **A number that has room** takes up the width. -/
theorem length_hexChars (hn : 0 ≤ n) (hwidth : 0 < width) (hroom : n < 16 ^ width) :
    (hexChars width n).length = width := by
  have hlength : (Nat.toDigits 16 n.natAbs).length ≤ width := by
    refine Nat.toDigits_length 16 _ _ hwidth ?_
    zify
    rwa [abs_of_nonneg hn]
  rw [hexChars_eq_append hn, List.length_append, List.length_replicate]
  omega

theorem digitsValueFrom_replicate_zero (count : Nat) :
    digitsValueFrom 16 0 (List.replicate count '0') = some 0 := by
  induction count with
  | zero => rfl
  | succ count ih =>
    have hzero : digitValue? 16 '0' = some 0 := by decide
    rw [List.replicate_succ, digitsValueFrom, hzero]
    exact ih

/-- **A number is read back**, whatever the width is. -/
theorem digitsValue?_hexChars (hn : 0 ≤ n) :
    digitsValue? 16 (hexChars width n) = some n.natAbs := by
  have hne : hexChars width n ≠ [] := by
    rw [hexChars_eq_append hn]
    exact List.append_ne_nil_of_right_ne_nil _ Nat.toDigits_ne_nil
  have hvalue : digitsValueFrom 16 0 (hexChars width n) = some n.natAbs := by
    rw [hexChars_eq_append hn, digitsValueFrom_append, digitsValueFrom_replicate_zero,
      Option.bind_some, digitsValueFrom_toDigits (by decide) (by decide)]
  cases h : hexChars width n with
  | nil => exact absurd h hne
  | cons c cs =>
    rw [h] at hvalue
    exact hvalue

/-- The text is the number in base sixteen: as many digits as the width, with small letters. -/
structure IsHexLower (width : Nat) (n : Int) (text : String) : Prop where
  length : text.length = width
  digit : ∀ c ∈ text.toList, c.isDigit = true ∨ 'a' ≤ c ∧ c ≤ 'f'
  value : ∃ value : Nat, digitsValue? 16 text.toList = some value ∧ (value : Int) = n

/-- **The text of a number** that has room in the width. -/
theorem isHexLower_hexLower (hn : 0 ≤ n) (hwidth : 0 < width) (hroom : n < 16 ^ width) :
    IsHexLower width n (hexLower width n) where
  length := by
    rw [hexLower, String.length_ofList]
    exact length_hexChars hn hwidth hroom
  digit := by
    have hdigit : ∀ d < 16, d.digitChar.isDigit = true ∨ 'a' ≤ d.digitChar ∧ d.digitChar ≤ 'f' := by
      decide
    intro c hc
    rw [hexLower, String.toList_ofList, hexChars_eq_append hn] at hc
    rcases List.mem_append.mp hc with hc | hc
    · rw [List.eq_of_mem_replicate hc]
      exact .inl rfl
    · obtain ⟨d, hd, rfl⟩ := exists_digitChar_of_mem_toDigits (by decide) hc
      exact hdigit d hd
  value := by
    rw [hexLower, String.toList_ofList]
    exact ⟨n.natAbs, digitsValue?_hexChars hn, Int.natAbs_of_nonneg hn⟩

/-- **Numbers that have room**, one after the other. -/
theorem forall₂_isHexLower {ns : List Int} (hwidth : 0 < width)
    (h : ∀ n ∈ ns, 0 ≤ n ∧ n < 16 ^ width) :
    List.Forall₂ (IsHexLower width) ns (ns.map (hexLower width)) := by
  rw [List.forall₂_map_right_iff, List.forall₂_same]
  intro n hn
  obtain ⟨hlow, hhigh⟩ := h n hn
  exact isHexLower_hexLower hlow hwidth hhigh

theorem IsHexLower.ne_nil {text : String} (h : IsHexLower width n text) (hwidth : 0 < width) :
    text.toList ≠ [] := by
  intro hnil
  have hlength := h.length
  rw [← String.length_toList, hnil, List.length_nil] at hlength
  omega

theorem IsHexLower.newline_notMem {text : String} (h : IsHexLower width n text) :
    '\n' ∉ text.toList := by
  intro hmem
  rcases h.digit _ hmem with hdigit | ⟨hletter, -⟩
  · cases hdigit
  · exact absurd hletter (by decide)

end

end RiscvAssembler.Text
