import Mathlib.Data.List.Forall2
import Mathlib.Data.Nat.Digits.Defs
import RiscvAssembler.Proofs.Literal

/-!
# The grammar of literals

A literal is a sign or none, the mark of a base or none, and digits of that base. Its value is the
one that the digits have by their positions, with the sign. An operand is read as a number exactly
if it is a literal between blanks; then it is no name of a label, and every number is the value of
its own numerals.

## Main definitions

* `Literal.IsDigit`, `Literal.IsNumeral`: digits, and the value of digits in a base.
* `Literal.signs`, `Literal.marks`: what may stand in front of the digits.
* `Literal.Denotes`: the literals and their values.
* `Literal.rendering`: the numeral of a number, with the mark of a base.
* `DenotesBetweenBlanks`, `HasLabelShape`: operands that are literals, and names of labels.

## Main results

* `Literal.digitsValue?_eq_some`, `Literal.magnitude?_eq_some`, `Literal.value?_eq_some`: reading
  follows the grammar, one part after the other.
* `exists_trimChars`, `trimChars_append`: what is left between the blanks.
* `parseImmediate_literal`: the operands that are read as numbers.
-/

namespace RiscvAssembler

open Text

namespace Literal

/-! ### Digits -/

/-- The digits in the order of their values, with small letters. -/
def smallDigits : List Char := "0123456789abcdef".toList

/-- The digits in the order of their values, with capitals. -/
def capitalDigits : List Char := "0123456789ABCDEF".toList

/-- The character is the digit with the given value. -/
def IsDigit (c : Char) (value : Nat) : Prop :=
  smallDigits[value]? = some c ∨ capitalDigits[value]? = some c

instance (c : Char) (value : Nat) : Decidable (IsDigit c value) :=
  inferInstanceAs (Decidable (_ ∨ _))

/-- The characters are digits below the base, and have the given value by their positions: the last
digit counts ones. -/
def IsNumeral (base : Nat) (cs : List Char) (value : Nat) : Prop :=
  ∃ ds : List Nat, ds ≠ [] ∧ List.Forall₂ IsDigit cs ds ∧ (∀ d ∈ ds, d < base) ∧
    value = Nat.ofDigits base ds.reverse

/-- The signs of a literal, and what they multiply its value by. -/
def signs : List (List Char × Int) :=
  [([], 1), (['+'], 1), (['-'], -1)]

/-- The marks in front of the digits of a literal, and the bases that they announce. -/
def marks : List (List Char × Nat) :=
  [([], 10), (['0', 'x'], 16), (['0', 'X'], 16), (['0', 'b'], 2), (['0', 'B'], 2), (['0', 'o'], 8),
   (['0', 'O'], 8)]

/-- The characters are a literal with the given value. -/
inductive Denotes : List Char → Int → Prop
  | intro {sign mark digits : List Char} {factor : Int} {base value : Nat}
      (hsign : (sign, factor) ∈ signs) (hmark : (mark, base) ∈ marks)
      (hdigits : IsNumeral base digits value) : Denotes (sign ++ mark ++ digits) (factor * value)

/-- The numeral of a number: its sign, the mark, and the digits in the base. -/
def rendering (mark : List Char) (base : Nat) (n : Int) : String :=
  String.ofList (sign n ++ mark ++ Nat.toDigits base n.natAbs)

theorem isDigit_of_digitValue? {c : Char} {d : Nat} (h : digitValue? 16 c = some d) :
    IsDigit c d := by
  have hall : ∀ n < 128, ∀ d ∈ digitValue? 16 (Char.ofNat n), IsDigit (Char.ofNat n) d := by
    decide +kernel
  have hlt : c.toNat < 128 := by
    have := isAlphanum_iff.mp (isAlphanum_of_digitValue? h)
    omega
  have hdigit := hall c.toNat hlt
  rw [Char.ofNat_toNat] at hdigit
  exact hdigit d h

theorem digitValue?_of_isDigit {c : Char} {d : Nat} (h : IsDigit c d) :
    digitValue? 16 c = some d := by
  have hsmall : ∀ p ∈ smallDigits.zipIdx, digitValue? 16 p.1 = some p.2 := by decide
  have hcapital : ∀ p ∈ capitalDigits.zipIdx, digitValue? 16 p.1 = some p.2 := by decide
  rcases h with h | h
  · exact hsmall (c, d) (List.mem_zipIdx_iff_getElem?.mpr h)
  · exact hcapital (c, d) (List.mem_zipIdx_iff_getElem?.mpr h)

/-- A digit is read as its value if the base has it. -/
theorem digitValue?_eq_some {base d : Nat} {c : Char} (hbase : base ≤ 16) :
    digitValue? base c = some d ↔ IsDigit c d ∧ d < base := by
  have hfilter : digitValue? base c = some d ↔ digitValue? 16 c = some d ∧ d < base := by
    rw [digitValue?, digitValue?, Option.filter_eq_some_iff, Option.filter_eq_some_iff]
    simp only [decide_eq_true_eq]
    constructor
    · rintro ⟨hd, hlt⟩
      exact ⟨⟨hd, by omega⟩, hlt⟩
    · rintro ⟨⟨hd, -⟩, hlt⟩
      exact ⟨hd, hlt⟩
  rw [hfilter]
  exact and_congr_left fun _ => ⟨isDigit_of_digitValue?, digitValue?_of_isDigit⟩

theorem ofDigits_reverse_cons (base d : Nat) (ds : List Nat) :
    Nat.ofDigits base (d :: ds).reverse = d * base ^ ds.length + Nat.ofDigits base ds.reverse := by
  rw [List.reverse_cons, Nat.ofDigits_append, List.length_reverse, Nat.ofDigits_singleton]
  ring

/-- Digits that are read after others count with those moved up by their number. -/
theorem digitsValueFrom_eq_some {base acc value : Nat} (hbase : base ≤ 16) {cs : List Char} :
    digitsValueFrom base acc cs = some value ↔
      ∃ ds : List Nat, List.Forall₂ IsDigit cs ds ∧ (∀ d ∈ ds, d < base) ∧
        value = acc * base ^ ds.length + Nat.ofDigits base ds.reverse := by
  induction cs generalizing acc with
  | nil => simp [digitsValueFrom, List.forall₂_nil_left_iff, eq_comm]
  | cons c cs ih =>
    rw [digitsValueFrom, Option.bind_eq_some_iff]
    constructor
    · rintro ⟨d, hd, h⟩
      obtain ⟨hdigit, hlt⟩ := (digitValue?_eq_some hbase).mp hd
      obtain ⟨ds, hds, hall, rfl⟩ := ih.mp h
      refine ⟨d :: ds, .cons hdigit hds, List.forall_mem_cons.mpr ⟨hlt, hall⟩, ?_⟩
      rw [ofDigits_reverse_cons, List.length_cons]
      ring
    · rintro ⟨_, hdigits, hall, rfl⟩
      obtain ⟨d, ds, hdigit, hds, rfl⟩ := List.forall₂_cons_left_iff.mp hdigits
      obtain ⟨hlt, hall⟩ := List.forall_mem_cons.mp hall
      refine ⟨d, (digitValue?_eq_some hbase).mpr ⟨hdigit, hlt⟩, ih.mpr ⟨ds, hds, hall, ?_⟩⟩
      rw [ofDigits_reverse_cons, List.length_cons]
      ring

/-- **Digits are worth what their positions say.** -/
theorem digitsValue?_eq_some {base value : Nat} (hbase : base ≤ 16) {cs : List Char} :
    digitsValue? base cs = some value ↔ IsNumeral base cs value := by
  cases cs with
  | nil => simp [digitsValue?, IsNumeral, List.forall₂_nil_left_iff]
  | cons c cs =>
    rw [digitsValue?, digitsValueFrom_eq_some hbase, IsNumeral]
    · refine exists_congr fun ds => ?_
      rw [Nat.zero_mul, Nat.zero_add]
      refine ⟨fun h => ⟨?_, h⟩, And.right⟩
      rintro rfl
      cases h.1
    · simp

/-! ### Marks and signs -/

theorem le_of_mem_marks : ∀ p ∈ marks, p.2 ≤ 16 := by
  decide

/-- A mark is a zero and the character that announces the base; digits in base ten have none. -/
theorem mark_cases {mark : List Char} {base : Nat} (h : (mark, base) ∈ marks) :
    (mark = [] ∧ base = 10) ∨ ∃ c, mark = ['0', c] ∧ announcedBase? c = some base := by
  simp only [marks, List.mem_cons, Prod.mk.injEq, List.not_mem_nil, or_false] at h
  rcases h with h | ⟨rfl, rfl⟩ | ⟨rfl, rfl⟩ | ⟨rfl, rfl⟩ | ⟨rfl, rfl⟩ | ⟨rfl, rfl⟩ | ⟨rfl, rfl⟩
  · exact .inl h
  all_goals exact .inr ⟨_, rfl, rfl⟩

theorem mem_marks_of_announcedBase? {c : Char} {base : Nat} (h : announcedBase? c = some base) :
    (['0', c], base) ∈ marks := by
  rw [announcedBase?.eq_def] at h
  split at h <;> cases h <;> decide

theorem isDigit_of_lt_ten {c : Char} {d : Nat} (h : IsDigit c d) (hlt : d < 10) :
    c.isDigit = true := by
  have hsmall : ∀ p ∈ smallDigits.zipIdx, p.2 < 10 → p.1.isDigit = true := by decide
  have hcapital : ∀ p ∈ capitalDigits.zipIdx, p.2 < 10 → p.1.isDigit = true := by decide
  rcases h with h | h
  · exact hsmall (c, d) (List.mem_zipIdx_iff_getElem?.mpr h) hlt
  · exact hcapital (c, d) (List.mem_zipIdx_iff_getElem?.mpr h) hlt

/-- Numerals in base ten have no letters. -/
theorem IsNumeral.isDigit {cs : List Char} {value : Nat} (h : IsNumeral 10 cs value) :
    ∀ c ∈ cs, c.isDigit = true := by
  obtain ⟨ds, -, hds, hall, -⟩ := h
  induction hds with
  | nil => exact fun c hc => absurd hc List.not_mem_nil
  | cons hdigit _ ih =>
    obtain ⟨hlt, hall⟩ := List.forall_mem_cons.mp hall
    exact List.forall_mem_cons.mpr ⟨isDigit_of_lt_ten hdigit hlt, ih hall⟩

/-- **A literal without its sign** is a mark and digits of the base that it announces. -/
theorem magnitude?_eq_some {cs : List Char} {value : Nat} :
    magnitude? cs = some value ↔ ∃ mark base digits,
      (mark, base) ∈ marks ∧ cs = mark ++ digits ∧ IsNumeral base digits value := by
  constructor
  · intro h
    rw [magnitude?.eq_def] at h
    split at h
    · rename_i marker digits
      split at h
      · rename_i base hbase
        have hmark := mem_marks_of_announcedBase? hbase
        exact ⟨_, base, digits, hmark, rfl,
          (digitsValue?_eq_some (le_of_mem_marks _ hmark)).mp h⟩
      · exact ⟨[], 10, _, by decide, rfl, (digitsValue?_eq_some (by decide)).mp h⟩
    · exact ⟨[], 10, _, by decide, rfl, (digitsValue?_eq_some (by decide)).mp h⟩
  · rintro ⟨mark, base, digits, hmark, rfl, hdigits⟩
    have hvalue := (digitsValue?_eq_some (le_of_mem_marks _ hmark)).mpr hdigits
    rcases mark_cases hmark with ⟨rfl, rfl⟩ | ⟨c, rfl, hbase⟩
    · rwa [List.nil_append, magnitude?_of_isDigit hdigits.isDigit]
    · have hmagnitude : magnitude? ('0' :: c :: digits) = digitsValue? base digits := by
        rw [magnitude?, hbase]
      exact hmagnitude.trans hvalue

/-- A literal without its sign starts with a digit. -/
theorem exists_cons_of_magnitude? {cs : List Char} {value : Nat}
    (h : magnitude? cs = some value) : ∃ c rest, cs = c :: rest ∧ c.isDigit = true := by
  cases cs with
  | nil => cases h
  | cons c rest =>
    refine ⟨c, rest, rfl, ?_⟩
    cases hc : c.isDigit with
    | true => rfl
    | false =>
      rw [magnitude?_of_not_isDigit hc] at h
      cases h

/-- A literal is a sign and a literal without one. -/
theorem value?_eq_some_iff_magnitude? {cs : List Char} {n : Int} :
    value? cs = some n ↔ ∃ sign factor rest value, (sign, factor) ∈ signs ∧ cs = sign ++ rest ∧
      magnitude? rest = some value ∧ n = factor * (value : Int) := by
  constructor
  · intro h
    rw [value?.eq_def] at h
    split at h
    all_goals obtain ⟨m, hm, rfl⟩ := map_magnitude?_eq_some.mp h
    · exact ⟨['-'], -1, _, m, by decide, rfl, hm, by simp⟩
    · exact ⟨['+'], 1, _, m, by decide, rfl, hm, by simp⟩
    · exact ⟨[], 1, _, m, by decide, rfl, hm, by simp⟩
  · rintro ⟨sign, factor, rest, m, hsign, rfl, hm, rfl⟩
    simp only [signs, List.mem_cons, Prod.mk.injEq, List.not_mem_nil, or_false] at hsign
    rcases hsign with ⟨rfl, rfl⟩ | ⟨rfl, rfl⟩ | ⟨rfl, rfl⟩
    · -- the first character is a digit, and so no sign
      obtain ⟨c, rest, rfl, hc⟩ := exists_cons_of_magnitude? hm
      rw [List.nil_append, value?_of_ne_sign (ne_of_isDigit hc rfl) (ne_of_isDigit hc rfl), hm]
      simp
    · rw [List.singleton_append, value?]
      exact map_magnitude?_eq_some.mpr ⟨m, hm, by simp⟩
    · rw [List.singleton_append, value?]
      exact map_magnitude?_eq_some.mpr ⟨m, hm, by simp⟩

/-- **Literals are read as the grammar has them.** -/
theorem value?_eq_some {cs : List Char} {n : Int} : value? cs = some n ↔ Denotes cs n := by
  rw [value?_eq_some_iff_magnitude?]
  constructor
  · rintro ⟨sign, factor, rest, value, hsign, rfl, hrest, rfl⟩
    obtain ⟨mark, base, digits, hmark, rfl, hdigits⟩ := magnitude?_eq_some.mp hrest
    rw [← List.append_assoc]
    exact .intro hsign hmark hdigits
  · rintro ⟨hsign, hmark, hdigits⟩
    exact ⟨_, _, _, _, hsign, List.append_assoc _ _ _,
      magnitude?_eq_some.mpr ⟨_, _, _, hmark, rfl, hdigits⟩, rfl⟩

/-! ### Numerals of numbers -/

theorem one_lt_of_mem_marks : ∀ p ∈ marks, 1 < p.2 := by
  decide

theorem denotes_rendering {mark : List Char} {base : Nat} (hmark : (mark, base) ∈ marks) (n : Int) :
    Denotes (sign n ++ mark ++ Nat.toDigits base n.natAbs) n := by
  have hle := le_of_mem_marks _ hmark
  have hdigits : IsNumeral base (Nat.toDigits base n.natAbs) n.natAbs :=
    (digitsValue?_eq_some hle).mp (digitsValue?_toDigits (one_lt_of_mem_marks _ hmark) hle _)
  rw [sign]
  split
  · have hminus : Denotes (['-'] ++ mark ++ Nat.toDigits base n.natAbs) (-1 * n.natAbs) :=
      .intro (by decide) hmark hdigits
    rwa [show -1 * (n.natAbs : Int) = n by omega] at hminus
  · have hplain : Denotes ([] ++ mark ++ Nat.toDigits base n.natAbs) (1 * n.natAbs) :=
      .intro (by decide) hmark hdigits
    rwa [show 1 * (n.natAbs : Int) = n by omega] at hplain

end Literal

/-! ### Operands -/

section

variable {text : String} {n : Int} {fault : Fault}

/-- The text is a literal between blanks. -/
def DenotesBetweenBlanks (text : String) (n : Int) : Prop :=
  ∃ front literal back, text.toList = front ++ literal ++ back ∧
    (∀ c ∈ front, isBlank c = true) ∧ (∀ c ∈ back, isBlank c = true) ∧ Literal.Denotes literal n

/-- The text is the name of a label, or is that but for a line feed at its end. -/
def HasLabelShape (text : String) : Prop :=
  ∃ name, isLabelName name = true ∧ (text = name ∨ text = name ++ "\n")

/-- What is left between blanks is read as a literal. -/
theorem parseImmediate_eq_ok :
    parseImmediate text = .ok n ↔ Literal.value? (trimChars text.toList) = some n := by
  rw [parseImmediate]
  split
  · rename_i hnil
    rw [hnil]
    constructor <;> rintro ⟨⟩
  · split
    · rename_i hvalue
      rw [hvalue]
      simp
    · rename_i hvalue
      rw [hvalue]
      constructor <;> rintro ⟨⟩

theorem family_of_parseImmediate (h : parseImmediate text = .error fault) :
    fault.family = .immediateParsing := by
  rw [parseImmediate] at h
  split at h
  · cases h
    rfl
  · split at h <;> cases h
    rfl

/-- **An operand is read as a number** exactly if it is a literal between blanks. -/
theorem parseImmediate_eq_ok_iff_denotes :
    parseImmediate text = .ok n ↔ DenotesBetweenBlanks text n := by
  rw [parseImmediate_eq_ok]
  constructor
  · intro h
    obtain ⟨front, back, hsplit, hfront, hback⟩ := exists_trimChars text.toList
    exact ⟨front, _, back, hsplit, hfront, hback, Literal.value?_eq_some.mp h⟩
  · rintro ⟨front, literal, back, hsplit, hfront, hback, hliteral⟩
    have hvalue := Literal.value?_eq_some.mpr hliteral
    rw [hsplit, trimChars_append hfront (plain_of_value? hvalue).isBlank_eq hback, hvalue]

theorem parseImmediate_rendering {mark : List Char} {base : Nat}
    (hmark : (mark, base) ∈ Literal.marks) (n : Int) :
    parseImmediate (Literal.rendering mark base n) = .ok n := by
  refine parseImmediate_eq_ok_iff_denotes.mpr ⟨[], _, [], ?_, by simp, by simp,
    Literal.denotes_rendering hmark n⟩
  rw [Literal.rendering, String.toList_ofList, List.nil_append, List.append_nil]

theorem isBlank_of_isLabelStart {c : Char} (h : isLabelStart c = true) : isBlank c = false := by
  simp only [isLabelStart, Bool.or_eq_true, beq_iff_eq] at h
  rcases h with ((h | rfl) | rfl) | rfl
  · have halphanum : c.isAlphanum = true := by simp [Char.isAlphanum, h]
    have hplain := isPlain_of_isAlphanum halphanum
    simp only [isPlain, Bool.and_eq_true, Bool.not_eq_true'] at hplain
    exact isBlank_of_not_isDelimiter hplain.1.1
  all_goals decide

theorem exists_cons_of_hasLabelShape (h : HasLabelShape text) :
    ∃ c rest, text.toList = c :: rest ∧ isLabelStart c = true := by
  obtain ⟨name, hname, htext⟩ := h
  rw [isLabelName] at hname
  cases hcs : name.toList with
  | nil =>
    rw [hcs] at hname
    cases hname
  | cons c cs =>
    rw [hcs] at hname
    have hc : isLabelStart c = true := (Bool.and_eq_true_iff.mp hname).1
    rcases htext with rfl | rfl
    · exact ⟨c, cs, hcs, hc⟩
    · exact ⟨c, cs ++ ['\n'], by simp [hcs], hc⟩

/-- **A literal has not the shape of the name of a label**: the first character, be it a blank or
part of the literal, does not start a name. -/
theorem not_hasLabelShape (h : DenotesBetweenBlanks text n) : ¬ HasLabelShape text := by
  intro hshape
  obtain ⟨c, rest, hcons, hc⟩ := exists_cons_of_hasLabelShape hshape
  obtain ⟨front, literal, back, hsplit, hfront, -, hliteral⟩ := h
  rw [hcons, List.append_assoc] at hsplit
  cases front with
  | cons b front =>
    obtain ⟨rfl, -⟩ := List.cons.inj hsplit
    have hblank := hfront c List.mem_cons_self
    rw [isBlank_of_isLabelStart hc] at hblank
    cases hblank
  | nil =>
    have hvalue := Literal.value?_eq_some.mpr hliteral
    cases literal with
    | nil => cases hvalue
    | cons d literal =>
      obtain ⟨rfl, -⟩ := List.cons.inj hsplit
      rw [value?_of_isLabelStart hc] at hvalue
      cases hvalue

end

end RiscvAssembler
