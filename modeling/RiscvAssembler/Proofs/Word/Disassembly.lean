import RiscvAssembler.Proofs.Literal
import RiscvAssembler.Proofs.Register
import RiscvAssembler.Proofs.Word.BitField
import RiscvAssembler.Word.Disassembly

/-!
# The tokens of a disassembled word

The text of a word is a mnemonic and its operands. As tokens of a line it is the mnemonic, and after
it the names of registers and the numerals that the operands are made of, without the parentheses
around an address register.

## Main definitions

* `Decoded.operandTokens`: the tokens of the operands of a decoded word.

## Main results

* `InstructionTable.flatMap_operandTexts`: they are the tokens of the text of the operands.
-/

namespace RiscvAssembler

open Text

/-! ### Pieces of text -/

section

variable {n : Int}

theorem plain_registerText (hlow : 0 ≤ n) (hhigh : n < 32) : Plain (registerText n).toList :=
  Register.plain_roleName _ (by omega)

theorem pieceTokens_registerText (hlow : 0 ≤ n) (hhigh : n < 32) :
    pieceTokens (registerText n) = [registerText n] :=
  pieceTokens_of_plain (Register.roleName_ne_nil _ (by omega)) (plain_registerText hlow hhigh)

theorem plain_decimal (n : Int) : Plain (decimal n).toList := by
  rw [decimal, String.toList_ofList]
  exact plain_numeral n

theorem decimal_ne_nil (n : Int) : (decimal n).toList ≠ [] := by
  rw [decimal, String.toList_ofList, numeral]
  exact List.append_ne_nil_of_right_ne_nil _ Nat.toDigits_ne_nil

theorem pieceTokens_decimal (n : Int) : pieceTokens (decimal n) = [decimal n] :=
  pieceTokens_of_plain (decimal_ne_nil n) (plain_decimal n)

theorem pieceTokens_hexLower (hlow : 0 ≤ n) :
    pieceTokens ("0x" ++ hexLower 0 n) = ["0x" ++ hexLower 0 n] := by
  refine pieceTokens_of_plain ?_ (plain_hexLower hlow)
  rw [toList_hexLower]
  exact List.cons_ne_nil _ _

theorem toList_memoryText (offset base : Int) :
    (memoryText offset base).toList
      = (decimal offset).toList ++ '(' :: ((registerText base).toList ++ [')']) := by
  simp [memoryText]

/-- The parentheses around an address register separate it from the offset. -/
theorem pieceTokens_memoryText (offset : Int) (hlow : 0 ≤ n) (hhigh : n < 32) :
    pieceTokens (memoryText offset n) = [decimal offset, registerText n] := by
  have hoffset := pieceTokens_decimal offset
  have hbase := pieceTokens_registerText hlow hhigh
  rw [pieceTokens] at hoffset hbase
  rw [pieceTokens, toList_memoryText, runs_append_cons (by decide), runs_append_cons (by decide),
    List.map_append, List.map_append, hoffset, hbase]
  rfl

theorem inline_memoryText (offset : Int) (hlow : 0 ≤ n) (hhigh : n < 32) :
    Inline (memoryText offset n).toList := by
  rw [toList_memoryText]
  have hbase := (plain_registerText hlow hhigh).inline.append (show Inline [')'] by decide)
  exact (plain_decimal offset).inline.append (List.forall_mem_cons.mpr ⟨by decide, hbase⟩)

end

/-! ### Operands -/

/-- The tokens of the operands of a decoded word. Of the immediate of a shift only the amount is
left. -/
def Decoded.operandTokens (d : Decoded) (isShift : Bool) : List String :=
  match d.fields with
  | .R rd rs1 rs2 _ _ => [registerText rd, registerText rs1, registerText rs2]
  | .I rd rs1 _ imm =>
    if d.opcode = Opcode.load then [registerText rd, decimal imm, registerText rs1]
    else [registerText rd, registerText rs1, decimal (if isShift then imm % 32 else imm)]
  | .S rs1 rs2 _ imm => [registerText rs2, decimal imm, registerText rs1]
  | .B rs1 rs2 _ imm => [registerText rs1, registerText rs2, decimal imm]
  | .U rd imm => [registerText rd, "0x" ++ hexLower 0 imm]
  | .J rd imm => [registerText rd, decimal imm]

namespace InstructionTable

/-! ### The text and its mnemonic -/

section

variable {t : InstructionTable} {d : Decoded} {m : String}

theorem mnemonicText_of_some (hm : t.mnemonic? d = some m) (hne : m ≠ "") :
    t.mnemonicText d = m := by
  have hempty : m.isEmpty ≠ true := by simpa using hne
  rw [mnemonicText, hm]
  exact if_neg hempty

theorem disassemble_of_decode {w : Int} (hd : t.decode w = .ok d) :
    t.disassemble w = .ok (t.mnemonicText d ++ " "
      ++ String.intercalate ", " (t.operandTexts (t.mnemonicText d) d)) := by
  rw [disassemble, hd]
  rfl

theorem mnemonicText_of_none (hm : t.mnemonic? d = none) :
    t.mnemonicText d = "0x" ++ hexLower 2 d.opcode := by
  rw [mnemonicText, hm]

end

/-! ### The tokens of the operands -/

variable (t : InstructionTable) (m : String) (w opcode : Int) (f : Format)

/-- **The tokens of the operands** are those of their text. -/
theorem flatMap_operandTexts :
    (t.operandTexts m ⟨w, opcode, Fields.unpack w f⟩).flatMap pieceTokens
      = (⟨w, opcode, Fields.unpack w f⟩ : Decoded).operandTokens
          ((t.find? m).bind (·.funct7)).isSome := by
  have hregister : ∀ low, pieceTokens (registerText (slice low 5 w))
      = [registerText (slice low 5 w)] :=
    fun low => pieceTokens_registerText (slice_nonneg low 5 w) (slice_lt low 5 w)
  have hmemory : ∀ offset low, pieceTokens (memoryText offset (slice low 5 w))
      = [decimal offset, registerText (slice low 5 w)] :=
    fun offset low => pieceTokens_memoryText offset (slice_nonneg low 5 w) (slice_lt low 5 w)
  have hupper := pieceTokens_hexLower (slice_nonneg 12 20 w)
  cases f with
  | I =>
    simp only [operandTexts, Decoded.operandTokens, Fields.unpack]
    split <;> simp [hregister, hmemory, pieceTokens_decimal]
  | _ =>
    simp [operandTexts, Decoded.operandTokens, Fields.unpack, hregister, hmemory, hupper,
      pieceTokens_decimal]

theorem inline_operandTexts :
    ∀ operand ∈ t.operandTexts m ⟨w, opcode, Fields.unpack w f⟩, Inline operand.toList := by
  have hregister : ∀ low, Inline (registerText (slice low 5 w)).toList :=
    fun low => (plain_registerText (slice_nonneg low 5 w) (slice_lt low 5 w)).inline
  have hmemory : ∀ offset low, Inline (memoryText offset (slice low 5 w)).toList :=
    fun offset low => inline_memoryText offset (slice_nonneg low 5 w) (slice_lt low 5 w)
  have hdecimal : ∀ n, Inline (decimal n).toList := fun n => (plain_decimal n).inline
  have hupper := (plain_hexLower (slice_nonneg 12 20 w)).inline
  cases f with
  | I =>
    simp only [operandTexts, Fields.unpack]
    split <;> simp [hregister, hmemory, hdecimal]
  | U =>
    rw [operandTexts, Fields.unpack, List.forall_mem_cons, List.forall_mem_singleton]
    exact ⟨hregister 7, hupper⟩
  | _ => simp [operandTexts, Fields.unpack, hregister, hmemory, hdecimal]

end InstructionTable

end RiscvAssembler
