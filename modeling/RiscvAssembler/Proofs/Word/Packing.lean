import RiscvAssembler.Proofs.Word.BitField
import RiscvAssembler.Word.Fields

/-!
# Packing and unpacking words

Unpacking a packed word gives back every field, cut down to the bits that the word has room for, and
packing what was unpacked gives back the word. Both hold for all integers in the fields.

## Main results

* `Fields.unpack_pack`: the fields of a packed word.
* `Fields.slice_opcode_pack`, `Fields.slice_funct3_pack`, `Fields.slice_selector_pack`,
  `Fields.below_pack`: its opcode, its function codes, and its size.
* `Fields.pack_unpack`: no bit of a word is lost.
-/

namespace RiscvAssembler

namespace Fields

/-- The fields as a word keeps them: each reduced to the bits that it has room for. -/
def stored : Fields → Fields
  | R rd rs1 rs2 funct3 funct7 =>
    R (rd % 2 ^ 5) (rs1 % 2 ^ 5) (rs2 % 2 ^ 5) (funct3 % 2 ^ 3) (funct7 % 2 ^ 7)
  | I rd rs1 funct3 imm => I (rd % 2 ^ 5) (rs1 % 2 ^ 5) (funct3 % 2 ^ 3) (signExtend imm 12)
  | S rs1 rs2 funct3 imm => S (rs1 % 2 ^ 5) (rs2 % 2 ^ 5) (funct3 % 2 ^ 3) (signExtend imm 12)
  | B rs1 rs2 funct3 imm =>
    B (rs1 % 2 ^ 5) (rs2 % 2 ^ 5) (funct3 % 2 ^ 3) (signExtend (imm - imm % 2) 13)
  | U rd imm => U (rd % 2 ^ 5) (imm % 2 ^ 20)
  | J rd imm => J (rd % 2 ^ 5) (signExtend (imm - imm % 2) 21)

@[simp] theorem format_stored (f : Fields) : f.stored.format = f.format := by
  cases f <;> rfl

@[simp] theorem rd?_stored (f : Fields) : f.stored.rd? = f.rd?.map (· % 2 ^ 5) := by
  cases f <;> rfl

@[simp] theorem rs1?_stored (f : Fields) : f.stored.rs1? = f.rs1?.map (· % 2 ^ 5) := by
  cases f <;> rfl

@[simp] theorem rs2?_stored (f : Fields) : f.stored.rs2? = f.rs2?.map (· % 2 ^ 5) := by
  cases f <;> rfl

@[simp] theorem funct3?_stored (f : Fields) : f.stored.funct3? = f.funct3?.map (· % 2 ^ 3) := by
  cases f <;> rfl

@[simp] theorem funct7?_stored (f : Fields) : f.stored.funct7? = f.funct7?.map (· % 2 ^ 7) := by
  cases f <;> rfl

/-! ### Immediates in pieces

The pieces of an immediate, put together again, agree with it on all the bits that are stored. -/

theorem signExtend_store_pieces (imm : Int) :
    signExtend (slice 5 7 imm % 2 ^ 7 * 32 + imm % 2 ^ 5) 12 = signExtend imm 12 :=
  signExtend_congr (by simp only [slice_def]; omega)

theorem signExtend_branch_pieces (imm : Int) :
    signExtend (slice 12 1 imm % 2 ^ 1 * 4096 + slice 11 1 imm % 2 ^ 1 * 2048
      + slice 5 6 imm % 2 ^ 6 * 32 + slice 1 4 imm % 2 ^ 4 * 2) 13
      = signExtend (imm - imm % 2) 13 :=
  signExtend_congr (by simp only [slice_def]; omega)

theorem signExtend_jump_pieces (imm : Int) :
    signExtend (slice 20 1 imm % 2 ^ 1 * 0x100000 + slice 12 8 imm % 2 ^ 8 * 4096
      + slice 11 1 imm % 2 ^ 1 * 2048 + slice 1 10 imm % 2 ^ 10 * 2) 21
      = signExtend (imm - imm % 2) 21 :=
  signExtend_congr (by simp only [slice_def]; omega)

/-! ### Unpacking a packed word -/

theorem slice_opcode_pack (opcode : Int) (f : Fields) :
    slice 0 7 (f.pack opcode) = opcode % 2 ^ 7 := by
  cases f <;> simp [pack, slice_add_place]

/-- **A packed word unpacks to what it was made of.** The sums below each field are bounded one
after the other, from the opcode up. -/
theorem unpack_pack (opcode : Int) (f : Fields) : unpack (f.pack opcode) f.format = f.stored := by
  have h₇ : Below 7 (place 0 7 opcode) := below_place_zero 7 opcode
  cases f with
  | R rd rs1 rs2 funct3 funct7 =>
    have h₁₂ : Below 12 _ := h₇.add_place 5 rd
    have h₁₅ : Below 15 _ := h₁₂.add_place 3 funct3
    have h₂₀ : Below 20 _ := h₁₅.add_place 5 rs1
    have h₂₅ : Below 25 _ := h₂₀.add_place 5 rs2
    simp [pack, unpack, stored, format, slice_add_place, slice_add_place_self, *]
  | I rd rs1 funct3 imm =>
    have h₁₂ : Below 12 _ := h₇.add_place 5 rd
    have h₁₅ : Below 15 _ := h₁₂.add_place 3 funct3
    have h₂₀ : Below 20 _ := h₁₅.add_place 5 rs1
    have himm : signExtend (imm % 2 ^ 12) 12 = signExtend imm 12 :=
      signExtend_congr (by omega)
    simpa [pack, unpack, stored, format, slice_add_place, slice_add_place_self, *] using himm
  | S rs1 rs2 funct3 imm =>
    have h₁₂ : Below 12 _ := h₇.add_place 5 imm
    have h₁₅ : Below 15 _ := h₁₂.add_place 3 funct3
    have h₂₀ : Below 20 _ := h₁₅.add_place 5 rs1
    have h₂₅ : Below 25 _ := h₂₀.add_place 5 rs2
    have himm := signExtend_store_pieces imm
    simpa [pack, unpack, stored, format, slice_add_place, slice_add_place_self, *] using himm
  | B rs1 rs2 funct3 imm =>
    have h₈ : Below 8 _ := h₇.add_place 1 (slice 11 1 imm)
    have h₁₂ : Below 12 _ := h₈.add_place 4 (slice 1 4 imm)
    have h₁₅ : Below 15 _ := h₁₂.add_place 3 funct3
    have h₂₀ : Below 20 _ := h₁₅.add_place 5 rs1
    have h₂₅ : Below 25 _ := h₂₀.add_place 5 rs2
    have h₃₁ : Below 31 _ := h₂₅.add_place 6 (slice 5 6 imm)
    have himm := signExtend_branch_pieces imm
    simpa [pack, unpack, stored, format, slice_add_place, slice_add_place_self, *] using himm
  | U rd imm =>
    have h₁₂ : Below 12 _ := h₇.add_place 5 rd
    simp [pack, unpack, stored, format, slice_add_place, slice_add_place_self, *]
  | J rd imm =>
    have h₁₂ : Below 12 _ := h₇.add_place 5 rd
    have h₂₀ : Below 20 _ := h₁₂.add_place 8 (slice 12 8 imm)
    have h₂₁ : Below 21 _ := h₂₀.add_place 1 (slice 11 1 imm)
    have h₃₁ : Below 31 _ := h₂₁.add_place 10 (slice 1 10 imm)
    have himm := signExtend_jump_pieces imm
    simpa [pack, unpack, stored, format, slice_add_place, slice_add_place_self, *] using himm

/-- The three-bit function code stands at the same place in all formats that store it. -/
theorem slice_funct3_pack {opcode n : Int} {f : Fields} (h : f.funct3? = some n) :
    slice 12 3 (f.pack opcode) = n % 2 ^ 3 := by
  have hstored := congrArg funct3? (unpack_pack opcode f)
  rw [funct3?_stored, h] at hstored
  cases f <;> first | exact Option.some.inj hstored | cases h

/-- The seven-bit selector of `R` and `I` is at the top of the word. -/
theorem slice_selector_pack {opcode : Int} {f : Fields} (h : f.format = .R ∨ f.format = .I) :
    slice 25 7 (f.pack opcode) = f.selector % 2 ^ 7 := by
  have hstored := unpack_pack opcode f
  cases f with
  | R rd rs1 rs2 funct3 funct7 => exact congrArg selector hstored
  | I rd rs1 funct3 imm =>
    have himm := Option.some.inj (congrArg imm? hstored)
    have hlow := congrArg (· % (2 : Int) ^ 12) himm
    rw [signExtend_emod _ 11, signExtend_emod _ 11] at hlow
    set w := pack opcode (I rd rs1 funct3 imm)
    calc slice 25 7 w = slice 5 7 (slice 20 12 w) := by simp only [slice_def]; omega
      _ = slice 5 7 imm := slice_congr (by decide) hlow
      _ = slice 5 7 imm % 2 ^ 7 := (Int.emod_emod_of_dvd _ (dvd_refl _)).symm
  | S | B | U | J => simp [format] at h

/-- A packed word has thirty-two bits. -/
theorem below_pack (opcode : Int) (f : Fields) : Below 32 (f.pack opcode) := by
  have h₇ : Below 7 (place 0 7 opcode) := below_place_zero 7 opcode
  cases f with
  | R => exact ((((h₇.add_place 5 _).add_place 3 _).add_place 5 _).add_place 5 _).add_place 7 _
  | I => exact (((h₇.add_place 5 _).add_place 3 _).add_place 5 _).add_place 12 _
  | S => exact ((((h₇.add_place 5 _).add_place 3 _).add_place 5 _).add_place 5 _).add_place 7 _
  | B rs1 rs2 funct3 imm =>
    have h₁₂ : Below 12 _ := (h₇.add_place 1 (slice 11 1 imm)).add_place 4 (slice 1 4 imm)
    exact ((((h₁₂.add_place 3 _).add_place 5 _).add_place 5 _).add_place 6 _).add_place 1 _
  | U => exact (h₇.add_place 5 _).add_place 20 _
  | J => exact ((((h₇.add_place 5 _).add_place 8 _).add_place 1 _).add_place 10 _).add_place 1 _

/-! ### Packing an unpacked word

An immediate that was put together has the pieces that it was put together from. -/

theorem pieces_of_store (w : Int) :
    let imm := signExtend (slice 25 7 w * 32 + slice 7 5 w) 12
    imm % 2 ^ 5 = slice 7 5 w ∧ slice 5 7 imm = slice 25 7 w := by
  intro imm
  have himm : imm % 2 ^ 12 = (slice 25 7 w * 32 + slice 7 5 w) % 2 ^ 12 := signExtend_emod _ 11
  have h₇ := And.intro (slice_nonneg 7 5 w) (slice_lt 7 5 w)
  have h₂₅ := And.intro (slice_nonneg 25 7 w) (slice_lt 25 7 w)
  change imm % 2 ^ 5 = _ ∧ imm / 2 ^ 5 % 2 ^ 7 = _
  omega

theorem pieces_of_branch (w : Int) :
    let imm := signExtend (slice 31 1 w * 4096 + slice 7 1 w * 2048 + slice 25 6 w * 32
      + slice 8 4 w * 2) 13
    slice 12 1 imm = slice 31 1 w ∧ slice 11 1 imm = slice 7 1 w ∧ slice 5 6 imm = slice 25 6 w
      ∧ slice 1 4 imm = slice 8 4 w := by
  intro imm
  have himm : imm % 2 ^ 13 = (slice 31 1 w * 4096 + slice 7 1 w * 2048 + slice 25 6 w * 32
    + slice 8 4 w * 2) % 2 ^ 13 := signExtend_emod _ 12
  have h₇ := And.intro (slice_nonneg 7 1 w) (slice_lt 7 1 w)
  have h₈ := And.intro (slice_nonneg 8 4 w) (slice_lt 8 4 w)
  have h₂₅ := And.intro (slice_nonneg 25 6 w) (slice_lt 25 6 w)
  have h₃₁ := And.intro (slice_nonneg 31 1 w) (slice_lt 31 1 w)
  change imm / 2 ^ 12 % 2 ^ 1 = _ ∧ imm / 2 ^ 11 % 2 ^ 1 = _ ∧ imm / 2 ^ 5 % 2 ^ 6 = _
    ∧ imm / 2 ^ 1 % 2 ^ 4 = _
  omega

theorem pieces_of_jump (w : Int) :
    let imm := signExtend (slice 31 1 w * 0x100000 + slice 12 8 w * 4096 + slice 20 1 w * 2048
      + slice 21 10 w * 2) 21
    slice 20 1 imm = slice 31 1 w ∧ slice 12 8 imm = slice 12 8 w ∧ slice 11 1 imm = slice 20 1 w
      ∧ slice 1 10 imm = slice 21 10 w := by
  intro imm
  have himm : imm % 2 ^ 21 = (slice 31 1 w * 0x100000 + slice 12 8 w * 4096 + slice 20 1 w * 2048
    + slice 21 10 w * 2) % 2 ^ 21 := signExtend_emod _ 20
  have h₁₂ := And.intro (slice_nonneg 12 8 w) (slice_lt 12 8 w)
  have h₂₀ := And.intro (slice_nonneg 20 1 w) (slice_lt 20 1 w)
  have h₂₁ := And.intro (slice_nonneg 21 10 w) (slice_lt 21 10 w)
  have h₃₁ := And.intro (slice_nonneg 31 1 w) (slice_lt 31 1 w)
  change imm / 2 ^ 20 % 2 ^ 1 = _ ∧ imm / 2 ^ 12 % 2 ^ 8 = _ ∧ imm / 2 ^ 11 % 2 ^ 1 = _
    ∧ imm / 2 ^ 1 % 2 ^ 10 = _
  omega

theorem place_opcode (w : Int) : place 0 7 (slice 0 7 w) = w % 2 ^ 7 := by
  simpa using emod_add_place_slice 0 7 w

/-- **No bit of a word is lost.** The fields of the word, one after the other, add up to more and
more of its low bits. -/
theorem pack_unpack {w : Int} (h : Below 32 w) (f : Format) :
    (unpack w f).pack (slice 0 7 w) = w := by
  cases f with
  | R =>
    rw [unpack, pack, place_opcode, emod_add_place_slice 7 5, emod_add_place_slice 12 3,
      emod_add_place_slice 15 5, emod_add_place_slice 20 5, emod_add_place_slice 25 7]
    exact h.emod_eq
  | I =>
    rw [unpack, pack, place_congr (le_refl 12) (signExtend_emod _ 11), place_opcode,
      emod_add_place_slice 7 5, emod_add_place_slice 12 3, emod_add_place_slice 15 5,
      emod_add_place_slice 20 12]
    exact h.emod_eq
  | S =>
    obtain ⟨hlow, hhigh⟩ := pieces_of_store w
    rw [unpack, pack, hhigh, ← place_slice_emod 7 5, hlow, place_opcode, emod_add_place_slice 7 5,
      emod_add_place_slice 12 3, emod_add_place_slice 15 5, emod_add_place_slice 20 5,
      emod_add_place_slice 25 7]
    exact h.emod_eq
  | B =>
    obtain ⟨h₁₂, h₁₁, h₅, h₁⟩ := pieces_of_branch w
    rw [unpack, pack, h₁₂, h₁₁, h₅, h₁, place_opcode, emod_add_place_slice 7 1,
      emod_add_place_slice 8 4, emod_add_place_slice 12 3, emod_add_place_slice 15 5,
      emod_add_place_slice 20 5, emod_add_place_slice 25 6, emod_add_place_slice 31 1]
    exact h.emod_eq
  | U =>
    rw [unpack, pack, place_opcode, emod_add_place_slice 7 5, emod_add_place_slice 12 20]
    exact h.emod_eq
  | J =>
    obtain ⟨h₂₀, h₁₂, h₁₁, h₁⟩ := pieces_of_jump w
    rw [unpack, pack, h₂₀, h₁₂, h₁₁, h₁, place_opcode, emod_add_place_slice 7 5,
      emod_add_place_slice 12 8, emod_add_place_slice 20 1, emod_add_place_slice 21 10,
      emod_add_place_slice 31 1]
    exact h.emod_eq

end Fields

end RiscvAssembler
