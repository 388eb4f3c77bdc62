import RiscvAssembler.Proofs.Dictionary
import RiscvAssembler.Proofs.Text.Lowercase
import RiscvAssembler.Proofs.Token
import RiscvAssembler.Register

/-!
# Names and numbers of registers

A name is read as a register if it is one of those known, and the name by role that is written for
a register is read as that register.
-/

namespace RiscvAssembler.Register

open Text

theorem resolve_eq_ok {name : String} {n : Int} :
    resolve name = .ok n ↔ ∃ k, find? name = some k ∧ n = k := by
  rw [resolve]
  split
  · rename_i k h
    simp [h, eq_comm]
  · rename_i h
    simp [h]

theorem exists_resolve_of_isValid {name : String} (h : isValid name = true) :
    ∃ n, resolve name = .ok n := by
  obtain ⟨k, hk⟩ := Option.isSome_iff_exists.mp h
  exact ⟨k, resolve_eq_ok.mpr ⟨k, hk, rfl⟩⟩

theorem lt_of_mem_names : ∀ p ∈ names, p.2 < 32 := by
  decide

/-- A name denotes one of the thirty-two registers or none. -/
theorem bounds_of_resolve {name : String} {n : Int} (h : resolve name = .ok n) :
    0 ≤ n ∧ n ≤ 31 := by
  obtain ⟨k, hk, rfl⟩ := resolve_eq_ok.mp h
  have := lt_of_mem_names _ (Dictionary.mem_of_lookup hk)
  omega

/-! ### Characters of names -/

theorem plain_of_mem_names : ∀ p ∈ names, p.1.toList ≠ [] ∧ Plain p.1.toList := by
  decide

/-- Lower-casing and trimming change capitals and blanks only, so a character that is neither is in
the name that is known, too. -/
theorem not_mem_of_find? {name : String} {n : Nat} (h : find? name = some n) {c : Char}
    (hcapital : ¬ IsCapital c) (hblank : isBlank c = false) (hplain : isPlain c = false) :
    c ∉ name.toList := by
  intro hc
  have hkey : c ∈ (trim (lowercase name)).toList := by
    rw [toList_trim, lowercase, String.toList_ofList]
    exact mem_trimChars hblank (mem_lowercaseAfter hcapital hc)
  have hknown := (plain_of_mem_names _ (Dictionary.mem_of_lookup h)).2 c hkey
  rw [hplain] at hknown
  cases hknown

/-- **A name of a register without delimiters is plain.** -/
theorem plain_of_resolve {name : String} (hname : Undelimited name) {n : Int}
    (h : resolve name = .ok n) : name.toList ≠ [] ∧ Plain name.toList := by
  obtain ⟨k, hk, -⟩ := resolve_eq_ok.mp h
  refine ⟨fun hnil => ?_, fun c hc => ?_⟩
  · have hkey : (trim (lowercase name)).toList = [] := by
      rw [toList_trim, lowercase, String.toList_ofList, hnil]
      rfl
    exact (plain_of_mem_names _ (Dictionary.mem_of_lookup hk)).1 hkey
  · simp only [isPlain, hname c hc, Bool.not_false, Bool.true_and, Bool.and_eq_true, bne_iff_ne]
    constructor
    · rintro rfl
      exact not_mem_of_find? hk (by decide +kernel) (by decide) (by decide) hc
    · rintro rfl
      exact not_mem_of_find? hk (by decide +kernel) (by decide) (by decide) hc

/-! ### Names by role -/

theorem find?_roleName : ∀ n < 32, find? (roleName n) = some n := by
  decide

theorem plain_roleName : ∀ n < 32, Plain (roleName n).toList := by
  decide

theorem roleName_ne_nil : ∀ n < 32, (roleName n).toList ≠ [] := by
  decide

/-- **The name of a register by role is read back.** -/
theorem resolve_roleName {n : Int} (hlow : 0 ≤ n) (hhigh : n < 32) :
    resolve (roleName n.toNat) = .ok n := by
  refine resolve_eq_ok.mpr ⟨n.toNat, find?_roleName _ (by omega), ?_⟩
  omega

theorem isValid_roleName {n : Int} (hlow : 0 ≤ n) (hhigh : n < 32) :
    isValid (roleName n.toNat) = true := by
  rw [isValid, find?_roleName _ (by omega)]
  rfl

end RiscvAssembler.Register
