import RiscvAssembler.Literal
import RiscvAssembler.Proofs.Token

/-!
# Numerals are literals

A number written in base ten, or in base sixteen after `0x`, is read back as the same number. The
name of a label is never read as a number, so an operand is a literal or a label and not both.

## Main results

* `digitsValue?_toDigits`: the digits of a number have its value.
* `parseImmediate_decimal`, `parseImmediate_hexLower`: a written number is read back.
* `isLiteral_of_isLabelName`: the name of a label is no literal.
-/

namespace RiscvAssembler

open Text

/-! ### Digits -/

/-- Digits after other digits are worth as much as they are after the value of those. -/
theorem digitsValueFrom_append (base acc : Nat) (ds es : List Char) :
    digitsValueFrom base acc (ds ++ es)
      = (digitsValueFrom base acc ds).bind fun value => digitsValueFrom base value es := by
  induction ds generalizing acc with
  | nil => rfl
  | cons c ds ih =>
    rw [List.cons_append, digitsValueFrom, digitsValueFrom]
    cases digitValue? base c with
    | none => rfl
    | some d => exact ih _

theorem digitValue?_digitChar {base n : Nat} (hbase : base ≤ 16) (hn : n < base) :
    digitValue? base n.digitChar = some n := by
  have hdigit : ∀ n < 16, digitValue? 16 n.digitChar = some n := by decide
  have h := hdigit n (by omega)
  rw [digitValue?, Option.filter_eq_some_iff] at h ⊢
  exact ⟨h.1, by simpa using hn⟩

/-- The digits of a number are worth the number. Taking off the last digit divides by the base. -/
theorem digitsValueFrom_toDigits {base : Nat} (hlow : 1 < base) (hhigh : base ≤ 16) (n : Nat) :
    digitsValueFrom base 0 (Nat.toDigits base n) = some n := by
  induction n using Nat.strongRecOn with
  | ind n ih =>
    by_cases hn : n < base
    · rw [Nat.toDigits_of_lt_base hn, digitsValueFrom, digitValue?_digitChar hhigh hn]
      simp [digitsValueFrom]
    · have hdiv : n / base < n := Nat.div_lt_self (by omega) hlow
      have hmod : n % base < base := Nat.mod_lt n (by omega)
      rw [Nat.toDigits_of_base_le hlow (by omega), digitsValueFrom_append, ih _ hdiv,
        Option.bind_some, digitsValueFrom, digitValue?_digitChar hhigh hmod]
      simp [digitsValueFrom, Nat.div_add_mod']

theorem digitsValue?_toDigits {base : Nat} (hlow : 1 < base) (hhigh : base ≤ 16) (n : Nat) :
    digitsValue? base (Nat.toDigits base n) = some n := by
  cases h : Nat.toDigits base n with
  | nil => exact absurd h Nat.toDigits_ne_nil
  | cons c cs =>
    rw [← digitsValueFrom_toDigits hlow hhigh n, h]
    rfl

theorem exists_digitChar_of_mem_toDigits {base n : Nat} (hbase : 1 < base) {c : Char}
    (h : c ∈ Nat.toDigits base n) : ∃ d < base, c = d.digitChar := by
  induction n using Nat.strongRecOn with
  | ind n ih =>
    by_cases hn : n < base
    · rw [Nat.toDigits_of_lt_base hn, List.mem_singleton] at h
      exact ⟨n, hn, h⟩
    · have hdiv : n / base < n := Nat.div_lt_self (by omega) hbase
      rw [Nat.toDigits_of_base_le hbase (by omega), List.mem_append, List.mem_singleton] at h
      rcases h with h | h
      · exact ih _ hdiv h
      · exact ⟨n % base, Nat.mod_lt n (by omega), h⟩

/-- Digits stand in tokens only. -/
theorem plain_toDigits {base : Nat} (hlow : 1 < base) (hhigh : base ≤ 16) (n : Nat) :
    Plain (Nat.toDigits base n) := by
  have hplain : ∀ d < 16, isPlain d.digitChar = true := by decide
  intro c hc
  obtain ⟨d, hd, rfl⟩ := exists_digitChar_of_mem_toDigits hlow hc
  exact hplain d (by omega)

theorem plain_sign (n : Int) : Plain (sign n) := by
  rw [sign]
  split <;> decide

theorem plain_numeral (n : Int) : Plain (numeral 10 n) := by
  rw [numeral]
  exact List.forall_mem_append.mpr ⟨plain_sign n, plain_toDigits (by decide) (by decide) _⟩

/-! ### Literals -/

theorem isDigit_iff {c : Char} : c.isDigit = true ↔ 48 ≤ c.toNat ∧ c.toNat ≤ 57 := by
  simp [Char.isDigit, UInt32.le_iff_toNat_le]

/-- A digit after a zero announces no base. -/
theorem announcedBase?_of_isDigit {c : Char} (h : c.isDigit = true) :
    Literal.announcedBase? c = none := by
  rw [Literal.announcedBase?.eq_def]
  split <;> first | rfl | exact absurd h (by decide)

theorem magnitude?_of_isDigit {ds : List Char} (h : ∀ c ∈ ds, c.isDigit = true) :
    Literal.magnitude? ds = digitsValue? 10 ds := by
  rw [Literal.magnitude?.eq_def]
  split
  · rename_i marker digits
    rw [announcedBase?_of_isDigit (h marker (by simp))]
  · rfl

theorem isDigit_of_mem_toDigits {n : Nat} : ∀ c ∈ Nat.toDigits 10 n, c.isDigit = true :=
  fun _ hc => Nat.isDigit_of_mem_toDigits (by decide) (by decide) hc

/-- The digits of a number are a literal. -/
theorem magnitude?_toDigits (n : Nat) : Literal.magnitude? (Nat.toDigits 10 n) = some n := by
  rw [magnitude?_of_isDigit isDigit_of_mem_toDigits,
    digitsValue?_toDigits (by decide) (by decide)]

/-- A literal that does not start with a sign has the value of its digits. -/
theorem value?_of_ne_sign {c : Char} (hminus : c ≠ '-') (hplus : c ≠ '+') (cs : List Char) :
    Literal.value? (c :: cs) = (Literal.magnitude? (c :: cs)).map Int.ofNat := by
  rw [Literal.value?.eq_def]
  split
  · rename_i heq
    cases heq
    exact absurd rfl hminus
  · rename_i heq
    cases heq
    exact absurd rfl hplus
  · cases Literal.magnitude? (c :: cs) <;> rfl

theorem ne_of_isDigit {c d : Char} (hc : c.isDigit = true) (hd : d.isDigit = false) : c ≠ d := by
  rintro rfl
  rw [hc] at hd
  cases hd

theorem value?_numeral (n : Int) : Literal.value? (numeral 10 n) = some n := by
  have hdigits := magnitude?_toDigits n.natAbs
  rw [numeral, sign]
  split
  · rw [List.singleton_append, Literal.value?, hdigits]
    exact congrArg some (show -(n.natAbs : Int) = n by omega)
  · cases h : Nat.toDigits 10 n.natAbs with
    | nil => exact absurd h Nat.toDigits_ne_nil
    | cons c cs =>
      have hc : c.isDigit = true := isDigit_of_mem_toDigits c (h ▸ List.mem_cons_self)
      rw [List.nil_append, value?_of_ne_sign (ne_of_isDigit hc rfl) (ne_of_isDigit hc rfl), ← h,
        hdigits]
      exact congrArg some (show (n.natAbs : Int) = n by omega)

theorem hexChars_of_nonneg {n : Int} (hn : 0 ≤ n) : hexChars 0 n = Nat.toDigits 16 n.natAbs := by
  have hsign : sign n = [] := if_neg (by omega)
  rw [hexChars, hsign, Nat.zero_sub, Nat.zero_sub, List.replicate_zero, List.nil_append,
    List.nil_append]

theorem value?_hexChars {n : Int} (hn : 0 ≤ n) :
    Literal.value? ('0' :: 'x' :: hexChars 0 n) = some n := by
  have hdigits : Literal.magnitude? ('0' :: 'x' :: hexChars 0 n) = some n.natAbs := by
    rw [hexChars_of_nonneg hn]
    exact digitsValue?_toDigits (by decide) (by decide) _
  rw [value?_of_ne_sign (by decide) (by decide), hdigits]
  exact congrArg some (show (n.natAbs : Int) = n by omega)

/-- Text without blanks is read as a literal just as it stands. -/
theorem parseImmediate_of_value? {text : String} {n : Int} (h : Unblanked text)
    (hvalue : Literal.value? text.toList = some n) : parseImmediate text = .ok n := by
  rw [parseImmediate, trimChars_eq h]
  cases hcs : text.toList with
  | nil =>
    rw [hcs] at hvalue
    cases hvalue
  | cons c cs =>
    rw [hcs] at hvalue
    dsimp only
    rw [hvalue]

theorem unblanked_decimal (n : Int) : Unblanked (decimal n) := by
  rw [Unblanked, decimal, String.toList_ofList]
  exact (plain_numeral n).isBlank_eq

/-- **A number in base ten is read back.** -/
theorem parseImmediate_decimal (n : Int) : parseImmediate (decimal n) = .ok n := by
  refine parseImmediate_of_value? (unblanked_decimal n) ?_
  rw [decimal, String.toList_ofList, value?_numeral]

theorem toList_hexLower (n : Int) : ("0x" ++ hexLower 0 n).toList = '0' :: 'x' :: hexChars 0 n := by
  rw [hexLower, String.toList_append, String.toList_ofList, String.toList_ofList]
  rfl

theorem plain_hexLower {n : Int} (hn : 0 ≤ n) : Plain ("0x" ++ hexLower 0 n).toList := by
  rw [toList_hexLower, hexChars_of_nonneg hn]
  refine List.forall_mem_cons.mpr ⟨by decide, List.forall_mem_cons.mpr ⟨by decide, ?_⟩⟩
  exact plain_toDigits (by decide) (by decide) _

/-- **A number in base sixteen is read back**, if it has no sign. -/
theorem parseImmediate_hexLower {n : Int} (hn : 0 ≤ n) :
    parseImmediate ("0x" ++ hexLower 0 n) = .ok n := by
  refine parseImmediate_of_value? (plain_hexLower hn).isBlank_eq ?_
  rw [toList_hexLower, value?_hexChars hn]

/-! ### Characters of literals -/

theorem isAlphanum_of_digitValue? {base d : Nat} {c : Char} (h : digitValue? base c = some d) :
    c.isAlphanum = true := by
  rw [digitValue?, Option.filter_eq_some_iff] at h
  obtain ⟨h, -⟩ := h
  rw [isAlphanum_iff]
  split at h
  · rename_i hdigit
    exact Or.inr (Or.inr (isDigit_iff.mp hdigit))
  · split at h
    · rename_i hletter
      have hlow : 97 ≤ c.toNat := UInt32.le_iff_toNat_le.mp hletter.1
      have hhigh : c.toNat ≤ 102 := UInt32.le_iff_toNat_le.mp hletter.2
      omega
    · split at h
      · rename_i hletter
        have hlow : 65 ≤ c.toNat := UInt32.le_iff_toNat_le.mp hletter.1
        have hhigh : c.toNat ≤ 70 := UInt32.le_iff_toNat_le.mp hletter.2
        omega
      · cases h

theorem isAlphanum_of_digitsValueFrom {base acc value : Nat} {cs : List Char}
    (h : digitsValueFrom base acc cs = some value) : ∀ c ∈ cs, c.isAlphanum = true := by
  induction cs generalizing acc with
  | nil => exact fun _ hc => absurd hc List.not_mem_nil
  | cons c cs ih =>
    obtain ⟨d, hd, h⟩ := Option.bind_eq_some_iff.mp h
    exact List.forall_mem_cons.mpr ⟨isAlphanum_of_digitValue? hd, ih h⟩

theorem isAlphanum_of_digitsValue? {base value : Nat} {cs : List Char}
    (h : digitsValue? base cs = some value) : ∀ c ∈ cs, c.isAlphanum = true := by
  cases cs with
  | nil => cases h
  | cons c cs => exact isAlphanum_of_digitsValueFrom h

theorem isAlphanum_of_announcedBase? {c : Char} {base : Nat}
    (h : Literal.announcedBase? c = some base) : c.isAlphanum = true := by
  rw [Literal.announcedBase?.eq_def] at h
  split at h <;> first | rfl | cases h

theorem isAlphanum_of_magnitude? {cs : List Char} {n : Nat}
    (h : Literal.magnitude? cs = some n) : ∀ c ∈ cs, c.isAlphanum = true := by
  rw [Literal.magnitude?.eq_def] at h
  split at h
  · rename_i marker digits
    split at h
    · rename_i base hbase
      exact List.forall_mem_cons.mpr ⟨rfl, List.forall_mem_cons.mpr
        ⟨isAlphanum_of_announcedBase? hbase, isAlphanum_of_digitsValue? h⟩⟩
    · exact isAlphanum_of_digitsValue? h
  · exact isAlphanum_of_digitsValue? h

/-- The value of a literal comes from its digits and its sign. -/
theorem map_magnitude?_eq_some {cs : List Char} {f : Int → Int} {n : Int} :
    (Literal.magnitude? cs >>= fun m => pure (m : Int)).map f = some n ↔
      ∃ m : Nat, Literal.magnitude? cs = some m ∧ f m = n := by
  cases Literal.magnitude? cs <;> simp

/-- A literal consists of its sign, letters and digits. -/
theorem plain_of_value? {cs : List Char} {n : Int} (h : Literal.value? cs = some n) : Plain cs := by
  have hplain : ∀ {ds : List Char} {m : Nat}, Literal.magnitude? ds = some m → Plain ds :=
    fun hm c hc => isPlain_of_isAlphanum (isAlphanum_of_magnitude? hm c hc)
  rw [Literal.value?.eq_def] at h
  split at h
  all_goals obtain ⟨m, hm, -⟩ := map_magnitude?_eq_some.mp h
  · exact List.forall_mem_cons.mpr ⟨by decide, hplain hm⟩
  · exact List.forall_mem_cons.mpr ⟨by decide, hplain hm⟩
  · exact hplain hm

theorem exists_value?_of_parseImmediate {text : String} {n : Int} (h : Unblanked text)
    (hn : parseImmediate text = .ok n) :
    text.toList ≠ [] ∧ Literal.value? text.toList = some n := by
  rw [parseImmediate, trimChars_eq h] at hn
  split at hn
  · cases hn
  · rename_i hne
    refine ⟨hne, ?_⟩
    split at hn
    · rename_i hvalue
      cases hn
      exact hvalue
    · cases hn

/-! ### Names of labels -/

/-- Letters are worth ten and more. -/
theorem digitValue?_of_not_isDigit {c : Char} (h : c.isDigit = false) :
    digitValue? 10 c = none := by
  rw [digitValue?, h, Option.filter_eq_none_iff]
  intro n hn
  simp only [Bool.false_eq_true, if_false] at hn
  split at hn
  · cases hn
    simp
  · split at hn
    · cases hn
      simp
    · cases hn

theorem magnitude?_of_not_isDigit {c : Char} (h : c.isDigit = false) (cs : List Char) :
    Literal.magnitude? (c :: cs) = none := by
  rw [Literal.magnitude?.eq_def]
  split
  · rename_i heq
    cases heq
    exact absurd h (by decide)
  · rw [digitsValue?, digitsValueFrom, digitValue?_of_not_isDigit h]
    · rfl
    · simp

/-- The letters come after the digits. -/
theorem le_toNat_of_isAlpha {c : Char} (h : c.isAlpha = true) : 65 ≤ c.toNat := by
  rcases Bool.or_eq_true_iff.mp h with hupper | hlower
  · exact UInt32.le_iff_toNat_le.mp (of_decide_eq_true hupper).1
  · have hle : 97 ≤ c.toNat :=
      UInt32.le_iff_toNat_le.mp (of_decide_eq_true (Bool.and_eq_true_iff.mp hlower).1)
    omega

theorem isDigit_of_isLabelStart {c : Char} (h : isLabelStart c = true) : c.isDigit = false := by
  simp only [isLabelStart, Bool.or_eq_true, beq_iff_eq] at h
  rcases h with ((h | rfl) | rfl) | rfl
  · have hle := le_toNat_of_isAlpha h
    rw [← Bool.not_eq_true, isDigit_iff]
    omega
  all_goals decide

/-- A literal does not start like the name of a label. -/
theorem value?_of_isLabelStart {c : Char} (h : isLabelStart c = true) (cs : List Char) :
    Literal.value? (c :: cs) = none := by
  rw [value?_of_ne_sign, magnitude?_of_not_isDigit (isDigit_of_isLabelStart h)]
  · rfl
  · rintro rfl
    exact absurd h (by decide)
  · rintro rfl
    exact absurd h (by decide)

/-- **The name of a label is no literal.** It does not start with a digit or a sign. -/
theorem isLiteral_of_isLabelName {text : String} (hblank : Unblanked text)
    (h : isLabelName text = true) : isLiteral text = false := by
  rw [isLabelName] at h
  cases hcs : text.toList with
  | nil =>
    rw [hcs] at h
    cases h
  | cons c cs =>
    rw [hcs] at h
    have hstart : isLabelStart c = true := (Bool.and_eq_true_iff.mp h).1
    rw [isLiteral, parseImmediate, trimChars_eq hblank, hcs]
    dsimp only
    rw [value?_of_isLabelStart hstart]
    rfl

end RiscvAssembler
