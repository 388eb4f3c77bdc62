import RiscvAssembler.Text.Lowercase

/-!
# Small letters stay small

Lower-casing changes capitals and nothing else. The capitals lie in runs of code points, and what is
added to a run leads out of every one of them, so that there is no capital among the characters of a
text in lower case: another pass leaves it as it is.

## Main definitions

* `IsCapital`: the characters that lower-casing changes.
* `leadsOut`: what is added to a run of capitals leads out of all of them.

## Main results

* `mem_lowercaseAfter`: a character that is no capital is kept.
* `not_isCapital_of_mem_lowercaseAfter`: no capital is left.
* `lowercase_lowercase`: lower-casing twice is lower-casing once.
-/

namespace RiscvAssembler.Text

/-! ### Capitals -/

/-- The code point is one of the run. -/
def inRun (n : Nat) : Nat × Nat × Nat × Int → Bool
  | (first, last, step, _) => first ≤ n && n ≤ last && (n - first) % step == 0

theorem inRun_iff {n first last step : Nat} {shift : Int} :
    inRun n (first, last, step, shift) = true ↔
      first ≤ n ∧ n ≤ last ∧ (n - first) % step = 0 := by
  simp [inRun, and_assoc]

/-- The runs of all capitals, those of ASCII and the capital I with dot included. -/
def capitalRuns : List (Nat × Nat × Nat × Int) :=
  (0x41, 0x5A, 1, 32) :: (0x130, 0x130, 1, 0) :: lowercaseRuns

/-- The character has a small form other than itself. -/
def IsCapital (c : Char) : Prop :=
  ∃ run ∈ capitalRuns, inRun c.toNat run = true

instance (c : Char) : Decidable (IsCapital c) :=
  decidable_of_iff (capitalRuns.any (inRun c.toNat) = true) List.any_eq_true

/-- The characters that lower-casing treats on their own are capitals, and what they become is
not. -/
theorem isCapital_special :
    (IsCapital 'Σ' ∧ IsCapital 'İ') ∧
      ¬ IsCapital 'σ' ∧ ¬ IsCapital 'ς' ∧ ¬ IsCapital '\u0307' := by
  decide +kernel

theorem isCapital_sigma : IsCapital 'Σ' :=
  isCapital_special.1.1

theorem isCapital_dotted : IsCapital 'İ' :=
  isCapital_special.1.2

theorem lowerCharacter_eq (c : Char) :
    lowerCharacter c = if c.toNat < 0x80 then c.toLower
      else match lowercaseRuns.find? (inRun c.toNat) with
        | some (_, _, _, shift) => Char.ofNat (c.toNat + shift).toNat
        | none => c := rfl

theorem inRun_of_isUpper {c : Char} :
    inRun c.toNat (0x41, 0x5A, 1, 32) = true ↔ c.isUpper = true := by
  have hupper : c.isUpper = decide (65 ≤ c.val ∧ c.val ≤ 90) := rfl
  simp [inRun, hupper, UInt32.le_iff_toNat_le, Nat.mod_one]

theorem toLower_of_isUpper_eq_false {c : Char} (h : c.isUpper = false) : c.toLower = c :=
  dif_neg (of_decide_eq_false h)

/-- What is no capital is its own small form. -/
theorem lowerCharacter_of_not_isCapital {c : Char} (h : ¬ IsCapital c) :
    lowerCharacter c = c := by
  have hnone : lowercaseRuns.find? (inRun c.toNat) = none :=
    List.find?_eq_none.mpr fun run hrun hc =>
      h ⟨run, List.mem_cons_of_mem _ (List.mem_cons_of_mem _ hrun), hc⟩
  have hupper : c.isUpper = false := Bool.eq_false_iff.mpr fun hc =>
    h ⟨_, List.mem_cons_self, inRun_of_isUpper.mpr hc⟩
  rw [lowerCharacter_eq, hnone, toLower_of_isUpper_eq_false hupper, ite_self]

/-! ### Small forms -/

/-- No code point from `low` to `high` is one of the run, or none that is an even number away from
`low` if only these are `spaced`. -/
def avoids (low high : Nat) (spaced : Bool) : Nat × Nat × Nat × Int → Bool
  | (first, last, step, _) =>
    Nat.blt last low || Nat.blt high first ||
      (spaced && Nat.beq step 2 && Nat.beq ((low + first) % 2) 1)

theorem not_inRun_of_avoids {low high m : Nat} {spaced : Bool} {run : Nat × Nat × Nat × Int}
    (h : avoids low high spaced run = true) (hlow : low ≤ m) (hhigh : m ≤ high)
    (hspaced : spaced = true → (m - low) % 2 = 0) : ¬ inRun m run = true := by
  obtain ⟨first, last, step, shift⟩ := run
  simp only [avoids, Bool.or_eq_true, Bool.and_eq_true, Nat.blt_eq, Nat.beq_eq] at h
  rw [inRun_iff]
  rcases h with (h | h) | ⟨⟨hs, rfl⟩, hodd⟩
  · omega
  · omega
  · have := hspaced hs
    omega

/-- The run lies beyond ASCII, what is added to it leaves code points, and none of those is the code
point of a capital. -/
def leadsOut : Nat × Nat × Nat × Int → Bool
  | (first, last, step, shift) =>
    Nat.ble 0x80 first && decide (0 ≤ first + shift) &&
      capitalRuns.all (avoids (first + shift).toNat (last + shift).toNat
        (Nat.beq first last || Nat.beq step 2))

theorem all_leadsOut : lowercaseRuns.all leadsOut = true := by
  decide +kernel

section

variable {first last step : Nat} {shift : Int}

/-- What is known of a run of capitals. -/
theorem of_mem_lowercaseRuns (h : (first, last, step, shift) ∈ lowercaseRuns) :
    0x80 ≤ first ∧ 0 ≤ first + shift ∧
      ∀ run ∈ capitalRuns, avoids (first + shift).toNat (last + shift).toNat
        (Nat.beq first last || Nat.beq step 2) run = true := by
  have hleads := List.all_eq_true.mp all_leadsOut _ h
  simp only [leadsOut, Bool.and_eq_true, Nat.ble_eq, decide_eq_true_eq, List.all_eq_true] at hleads
  exact ⟨hleads.1.1, hleads.1.2, hleads.2⟩

/-- Beyond ASCII, the small form of a capital is none. -/
theorem not_inRun_add_shift {n : Nat} (hrun : (first, last, step, shift) ∈ lowercaseRuns)
    (hn : inRun n (first, last, step, shift) = true) :
    ∀ run ∈ capitalRuns, ¬ inRun (n + shift).toNat run = true := by
  intro run hmem
  obtain ⟨-, hnonneg, havoids⟩ := of_mem_lowercaseRuns hrun
  obtain ⟨hlow, hhigh, hstep⟩ := inRun_iff.mp hn
  refine not_inRun_of_avoids (havoids run hmem) (by omega) (by omega) fun hspaced => ?_
  simp only [Bool.or_eq_true, Nat.beq_eq] at hspaced
  rcases hspaced with rfl | rfl <;> omega

end

/-- A number that is no code point stands for the character zero. -/
theorem toNat_ofNat (n : Nat) : (Char.ofNat n).toNat = n ∨ (Char.ofNat n).toNat = 0 := by
  by_cases h : n.isValidChar
  · exact Or.inl (congrArg Char.toNat (dif_pos h))
  · exact Or.inr (congrArg Char.toNat (dif_neg h))

/-- Beyond the letters of ASCII there are no capitals in it. -/
theorem not_isCapital_of_lt {c : Char} (hc : c.toNat < 0x80) (hupper : c.isUpper = false) :
    ¬ IsCapital c := by
  rintro ⟨⟨first, last, step, shift⟩, hmem, hrun⟩
  have hle : first ≤ c.toNat := (inRun_iff.mp hrun).1
  rcases List.mem_cons.mp hmem with heq | hmem
  · rw [heq, inRun_of_isUpper, hupper] at hrun
    cases hrun
  · rcases List.mem_cons.mp hmem with heq | hmem
    · cases heq
      omega
    · have := (of_mem_lowercaseRuns hmem).1
      omega

theorem toLower_of_lt {c : Char} (hc : c.toNat < 0x80) :
    c.toLower.toNat < 0x80 ∧ c.toLower.isUpper = false := by
  have hall : ∀ n < 0x80, (Char.ofNat n).toLower.toNat < 0x80 ∧
      (Char.ofNat n).toLower.isUpper = false := by decide
  have h := hall c.toNat hc
  rwa [Char.ofNat_toNat] at h

/-- **No small form is a capital.** The capital I with dot has no small form of one character. -/
theorem not_isCapital_lowerCharacter {c : Char} (hdot : c ≠ 'İ') :
    ¬ IsCapital (lowerCharacter c) := by
  rw [lowerCharacter_eq]
  split
  · rename_i hc
    exact not_isCapital_of_lt (toLower_of_lt hc).1 (toLower_of_lt hc).2
  · rename_i hc
    split
    · rename_i first last step shift hfind
      have hsmall := not_inRun_add_shift (List.mem_of_find?_eq_some hfind) (List.find?_some hfind)
      rintro ⟨run, hmem, hrun⟩
      rcases toNat_ofNat (c.toNat + shift).toNat with h | h
      · rw [h] at hrun
        exact hsmall run hmem hrun
      · have hzero : Char.ofNat (c.toNat + shift).toNat = Char.ofNat 0 := Char.toNat_inj.mp h
        rw [hzero] at hrun
        exact not_isCapital_of_lt (by decide) rfl ⟨run, hmem, hrun⟩
    · rename_i hnone
      rintro ⟨run, hmem, hrun⟩
      rcases List.mem_cons.mp hmem with rfl | hmem
      · have := inRun_iff.mp hrun
        omega
      rcases List.mem_cons.mp hmem with rfl | hmem
      · have hrange := inRun_iff.mp hrun
        exact hdot (Char.toNat_inj.mp (by simp; omega))
      · exact List.find?_eq_none.mp hnone run hmem hrun

/-! ### Texts -/

/-- A text without capitals is in lower case. -/
theorem lowercaseAfter_of_not_isCapital {cs : List Char} (h : ∀ c ∈ cs, ¬ IsCapital c)
    (before : List Char) : lowercaseAfter before cs = cs := by
  induction cs generalizing before with
  | nil => rfl
  | cons c cs ih =>
    obtain ⟨hc, hcs⟩ := List.forall_mem_cons.mp h
    have hsigma : (c == 'Σ') = false := beq_false_of_ne fun heq => hc (heq ▸ isCapital_sigma)
    have hdotted : (c == 'İ') = false := beq_false_of_ne fun heq => hc (heq ▸ isCapital_dotted)
    simp [lowercaseAfter, hsigma, hdotted, lowerCharacter_of_not_isCapital hc, ih hcs]

/-- **No capital is left** in a text in lower case. -/
theorem not_isCapital_of_mem_lowercaseAfter {before cs : List Char} :
    ∀ c ∈ lowercaseAfter before cs, ¬ IsCapital c := by
  induction cs generalizing before with
  | nil => exact fun c hc => absurd hc List.not_mem_nil
  | cons c cs ih =>
    rw [lowercaseAfter]
    refine List.forall_mem_append.mpr ⟨?_, ih⟩
    split
    · obtain ⟨-, hsmall, hfinal, -⟩ := isCapital_special
      rw [List.forall_mem_singleton]
      split
      · exact hfinal
      · exact hsmall
    · split
      · obtain ⟨-, -, -, hdot⟩ := isCapital_special
        rw [List.forall_mem_cons, List.forall_mem_singleton]
        exact ⟨not_isCapital_of_lt (by decide) rfl, hdot⟩
      · rename_i hdotted
        rw [List.forall_mem_singleton]
        exact not_isCapital_lowerCharacter (by simpa using hdotted)

/-- A character that is no capital is kept. -/
theorem mem_lowercaseAfter {before cs : List Char} {c : Char} (hc : ¬ IsCapital c) (h : c ∈ cs) :
    c ∈ lowercaseAfter before cs := by
  induction cs generalizing before with
  | nil => cases h
  | cons d cs ih =>
    rw [lowercaseAfter]
    rcases List.mem_cons.mp h with rfl | h
    · have hsigma : (c == 'Σ') = false := beq_false_of_ne fun heq => hc (heq ▸ isCapital_sigma)
      have hdotted : (c == 'İ') = false := beq_false_of_ne fun heq => hc (heq ▸ isCapital_dotted)
      simp [hsigma, hdotted, lowerCharacter_of_not_isCapital hc]
    · exact List.mem_append_right _ (ih h)

/-- **Lower-casing twice is lower-casing once.** -/
theorem lowercase_lowercase (s : String) : lowercase (lowercase s) = lowercase s := by
  rw [lowercase, lowercase, String.toList_ofList,
    lowercaseAfter_of_not_isCapital not_isCapital_of_mem_lowercaseAfter]

end RiscvAssembler.Text
