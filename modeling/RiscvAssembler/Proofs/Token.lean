import RiscvAssembler.Text.Lines
import RiscvAssembler.Token

/-!
# Tokens and the text between them

Delimiters only separate: text before a delimiter and text after it have their tokens independently
of each other. Blanks are delimiters, so that trimming a token changes nothing.

## Main results

* `runs_append_cons`: the tokens on both sides of a delimiter.
* `runs_intercalate`: the tokens of pieces joined by delimiters.
* `Unblanked.trim_eq`, `unblanked_of_mem_tokenize`: no token has blanks at its ends.
-/

namespace RiscvAssembler

open Text

/-! ### Blanks -/

/-- The text has no blanks. -/
def Unblanked (s : String) : Prop :=
  ∀ c ∈ s.toList, isBlank c = false

instance (s : String) : Decidable (Unblanked s) :=
  List.decidableBAll _ s.toList

theorem dropWhile_isBlank {cs : List Char} (h : ∀ c ∈ cs, isBlank c = false) :
    cs.dropWhile isBlank = cs := by
  cases cs with
  | nil => rfl
  | cons c cs => exact List.dropWhile_cons_of_neg (by simp [h c List.mem_cons_self])

theorem trimChars_eq {cs : List Char} (h : ∀ c ∈ cs, isBlank c = false) : trimChars cs = cs := by
  have hreverse : ∀ c ∈ cs.reverse, isBlank c = false := fun c hc => h c (List.mem_reverse.mp hc)
  rw [trimChars, dropWhile_isBlank h, dropWhile_isBlank hreverse, List.reverse_reverse]

/-- Only blanks are cut off, at either end. -/
theorem exists_trimChars (cs : List Char) : ∃ front back, cs = front ++ trimChars cs ++ back ∧
    (∀ c ∈ front, isBlank c = true) ∧ ∀ c ∈ back, isBlank c = true := by
  refine ⟨cs.takeWhile isBlank, ((cs.dropWhile isBlank).reverse.takeWhile isBlank).reverse, ?_,
    List.all_eq_true.mp List.all_takeWhile, fun c hc => ?_⟩
  · rw [trimChars, List.append_assoc, ← List.reverse_append, List.takeWhile_append_dropWhile,
      List.reverse_reverse, List.takeWhile_append_dropWhile]
  · exact List.all_eq_true.mp List.all_takeWhile c (List.mem_reverse.mp hc)

/-- **What stands between blanks is left** when these are cut off, if it has none itself. -/
theorem trimChars_append {front cs back : List Char} (hfront : ∀ c ∈ front, isBlank c = true)
    (hcs : ∀ c ∈ cs, isBlank c = false) (hback : ∀ c ∈ back, isBlank c = true) :
    trimChars (front ++ cs ++ back) = cs := by
  have hreverse : ∀ c ∈ back.reverse, isBlank c = true :=
    fun c hc => hback c (List.mem_reverse.mp hc)
  have hlast : ∀ c ∈ cs.reverse, isBlank c = false := fun c hc => hcs c (List.mem_reverse.mp hc)
  rw [trimChars, List.append_assoc, List.dropWhile_append_of_pos hfront]
  cases cs with
  | nil =>
    have hall : (back ++ []).dropWhile isBlank = [] := List.dropWhile_append_of_pos hback
    rw [List.append_nil] at hall
    rw [List.nil_append, hall]
    rfl
  | cons c cs =>
    have hfirst : (c :: cs ++ back).dropWhile isBlank = c :: cs ++ back :=
      List.dropWhile_cons_of_neg (by simp [hcs c List.mem_cons_self])
    rw [hfirst, List.reverse_append, List.dropWhile_append_of_pos hreverse,
      dropWhile_isBlank hlast, List.reverse_reverse]

/-- Nothing is trimmed off a text without blanks. -/
theorem Unblanked.trim_eq {s : String} (h : Unblanked s) : trim s = s := by
  rw [trim, trimChars_eq h, String.ofList_toList]

theorem mem_dropWhile_isBlank {c : Char} {cs : List Char} (hc : isBlank c = false) (h : c ∈ cs) :
    c ∈ cs.dropWhile isBlank := by
  rw [← List.takeWhile_append_dropWhile (p := isBlank) (l := cs)] at h
  rcases List.mem_append.mp h with h | h
  · rw [List.all_eq_true.mp List.all_takeWhile c h] at hc
    cases hc
  · exact h

/-- Only blanks are trimmed off. -/
theorem mem_trimChars {c : Char} {cs : List Char} (hc : isBlank c = false) (h : c ∈ cs) :
    c ∈ trimChars cs := by
  rw [trimChars, List.mem_reverse]
  exact mem_dropWhile_isBlank hc (List.mem_reverse.mpr (mem_dropWhile_isBlank hc h))

/-- The operand at a position, which is empty if there is none. -/
theorem unblanked_getD {tokens : List String} (h : ∀ token ∈ tokens, Unblanked token) (n : Nat) :
    Unblanked (tokens.getD n "") := by
  rw [List.getD_eq_getElem?_getD]
  cases hn : tokens[n]? with
  | none => decide
  | some token => exact h token (List.mem_of_getElem? hn)

/-! ### Runs -/

/-- **A delimiter separates** the runs before it from those after it. -/
theorem runs_append_cons {d : Char} (hd : isDelimiter d = true) (x y : List Char) :
    runs (x ++ d :: y) = runs x ++ runs y := by
  rw [runs, List.splitOnP_append_cons x y hd, List.filter_append]
  rfl

theorem runs_cons {d : Char} (hd : isDelimiter d = true) (y : List Char) : runs (d :: y) = runs y :=
  runs_append_cons hd [] y

theorem runs_eq_singleton {w : List Char} (hne : w ≠ []) (h : ∀ c ∈ w, isDelimiter c = false) :
    runs w = [w] := by
  rw [runs, List.splitOnP_eq_singleton h]
  simp [hne]

/-- Delimiters in front of a text are no part of its runs. -/
theorem runs_append {sep : List Char} (hsep : ∀ c ∈ sep, isDelimiter c = true) (y : List Char) :
    runs (sep ++ y) = runs y := by
  induction sep with
  | nil => rfl
  | cons d sep ih =>
    obtain ⟨hd, hsep⟩ := List.forall_mem_cons.mp hsep
    rw [List.cons_append, runs_cons hd, ih hsep]

/-- Pieces with delimiters between them have the runs of each piece. -/
theorem runs_intercalate {sep : List Char} (hne : sep ≠ [])
    (hsep : ∀ c ∈ sep, isDelimiter c = true) (pieces : List (List Char)) :
    runs (sep.intercalate pieces) = pieces.flatMap runs := by
  obtain ⟨d, ds, rfl⟩ := List.exists_cons_of_ne_nil hne
  obtain ⟨hd, hds⟩ := List.forall_mem_cons.mp hsep
  induction pieces with
  | nil => rfl
  | cons piece pieces ih =>
    cases pieces with
    | nil => simp
    | cons next pieces =>
      rw [List.intercalate_cons_cons, List.append_assoc, List.cons_append, runs_append_cons hd,
        runs_append hds, ih]
      rfl

/-- The pieces of a list that is split have no element at which it is split. -/
theorem forall_not_of_mem_splitOnP {p : Char → Bool} {cs piece : List Char}
    (h : piece ∈ cs.splitOnP p) :
    ∀ c ∈ piece, p c = false := by
  induction cs generalizing piece with
  | nil =>
    rw [List.splitOnP_nil, List.mem_singleton] at h
    simp [h]
  | cons c cs ih =>
    rw [List.splitOnP_cons_eq_if_modifyHead] at h
    split at h
    · rcases List.mem_cons.mp h with rfl | h
      · simp
      · exact ih h
    · rename_i hc
      obtain ⟨first, rest, hsplit⟩ := List.exists_cons_of_ne_nil (List.splitOnP_ne_nil p cs)
      rw [hsplit] at ih h
      rcases List.mem_cons.mp h with rfl | h
      · exact List.forall_mem_cons.mpr ⟨Bool.of_not_eq_true hc, ih List.mem_cons_self⟩
      · exact ih (List.mem_cons_of_mem _ h)

theorem isBlank_of_not_isDelimiter {c : Char} (h : isDelimiter c = false) : isBlank c = false := by
  simp only [isDelimiter, Bool.or_eq_false_iff] at h
  exact h.1.1.1

/-- The text has no delimiters. -/
def Undelimited (s : String) : Prop :=
  ∀ c ∈ s.toList, isDelimiter c = false

instance (s : String) : Decidable (Undelimited s) :=
  List.decidableBAll _ s.toList

theorem Undelimited.unblanked {s : String} (h : Undelimited s) : Unblanked s :=
  fun c hc => isBlank_of_not_isDelimiter (h c hc)

theorem unblanked_of_mem_tokenize {line token : String} (h : token ∈ tokenize line) :
    Unblanked token := by
  obtain ⟨run, hrun, rfl⟩ := List.mem_map.mp h
  intro c hc
  rw [String.toList_ofList] at hc
  exact isBlank_of_not_isDelimiter (forall_not_of_mem_splitOnP (List.mem_filter.mp hrun).1 c hc)

theorem mem_of_mem_stripLabel {tokens : List String} {token : String}
    (h : token ∈ stripLabel tokens) : token ∈ tokens := by
  cases tokens with
  | nil => exact h
  | cons first rest =>
    rw [stripLabel] at h
    split at h
    · exact List.mem_cons_of_mem _ h
    · exact h

/-! ### Plain text

Text without delimiters and comment markers is part of a single token. -/

/-- The character is no delimiter and does not belong to a comment marker. -/
def isPlain (c : Char) : Bool :=
  !isDelimiter c && c != '#' && c != '/'

/-- The characters are all plain. -/
def Plain (cs : List Char) : Prop :=
  ∀ c ∈ cs, isPlain c = true

instance (cs : List Char) : Decidable (Plain cs) :=
  List.decidableBAll _ cs

theorem Plain.isDelimiter_eq {cs : List Char} (h : Plain cs) :
    ∀ c ∈ cs, isDelimiter c = false := by
  intro c hc
  have hplain := h c hc
  simp only [isPlain, Bool.and_eq_true, Bool.not_eq_true'] at hplain
  exact hplain.1.1

theorem Plain.isBlank_eq {cs : List Char} (h : Plain cs) : ∀ c ∈ cs, isBlank c = false :=
  fun c hc => isBlank_of_not_isDelimiter (h.isDelimiter_eq c hc)

theorem isAlphanum_iff {c : Char} : c.isAlphanum = true ↔
    (65 ≤ c.toNat ∧ c.toNat ≤ 90) ∨ (97 ≤ c.toNat ∧ c.toNat ≤ 122) ∨
      (48 ≤ c.toNat ∧ c.toNat ≤ 57) := by
  have halphanum : c.isAlphanum = (decide (65 ≤ c.val ∧ c.val ≤ 90) ||
      (decide (97 ≤ c.val) && decide (c.val ≤ 122)) ||
      (decide (48 ≤ c.val) && decide (c.val ≤ 57))) := rfl
  simp [halphanum, UInt32.le_iff_toNat_le, or_assoc]

/-- Letters and digits are plain. -/
theorem isPlain_of_isAlphanum {c : Char} (h : c.isAlphanum = true) : isPlain c = true := by
  have hall : ∀ n < 128, (Char.ofNat n).isAlphanum = true → isPlain (Char.ofNat n) = true := by
    decide +kernel
  have hlt : c.toNat < 128 := by
    have := isAlphanum_iff.mp h
    omega
  have hplain := hall c.toNat hlt
  rw [Char.ofNat_toNat] at hplain
  exact hplain h

/-- The tokens of a piece of text in which there is no comment. -/
def pieceTokens (piece : String) : List String :=
  (runs piece.toList).map String.ofList

theorem pieceTokens_of_plain {piece : String} (hne : piece.toList ≠ []) (h : Plain piece.toList) :
    pieceTokens piece = [piece] := by
  rw [pieceTokens, runs_eq_singleton hne h.isDelimiter_eq, List.map_singleton, String.ofList_toList]

/-! ### Lines without a comment -/

/-- The characters do not end the line and do not start a comment. -/
def Inline (cs : List Char) : Prop :=
  ∀ c ∈ cs, c ≠ '#' ∧ c ≠ '/' ∧ c ≠ '\n'

instance (cs : List Char) : Decidable (Inline cs) :=
  List.decidableBAll _ cs

theorem Plain.inline {cs : List Char} (h : Plain cs) : Inline cs := by
  intro c hc
  have hplain := h c hc
  refine ⟨?_, ?_, ?_⟩ <;>
    · rintro rfl
      exact absurd hplain (by decide)

theorem Inline.append {cs ds : List Char} (hc : Inline cs) (hd : Inline ds) : Inline (cs ++ ds) :=
  List.forall_mem_append.mpr ⟨hc, hd⟩

/-- What holds of the characters of the pieces and between them holds of all. -/
theorem forall_mem_intercalate {P : Char → Prop} {sep : List Char} {pieces : List (List Char)}
    (hsep : ∀ c ∈ sep, P c) (h : ∀ piece ∈ pieces, ∀ c ∈ piece, P c) :
    ∀ c ∈ sep.intercalate pieces, P c := by
  induction pieces with
  | nil => exact fun c hc => absurd hc List.not_mem_nil
  | cons piece pieces ih =>
    obtain ⟨hpiece, hpieces⟩ := List.forall_mem_cons.mp h
    cases pieces with
    | nil => simpa using hpiece
    | cons next pieces =>
      rw [List.intercalate_cons_cons]
      exact List.forall_mem_append.mpr
        ⟨List.forall_mem_append.mpr ⟨hpiece, hsep⟩, ih hpieces⟩

theorem Inline.beforeComment_eq {cs : List Char} (h : Inline cs) : beforeComment cs = cs := by
  induction cs with
  | nil => rfl
  | cons c cs ih =>
    obtain ⟨⟨hhash, hslash, -⟩, hcs⟩ := List.forall_mem_cons.mp h
    rw [beforeComment, ih hcs]
    · exact hhash
    · rintro rest rfl
      exact absurd rfl hslash

theorem Inline.newline_notMem {cs : List Char} (h : Inline cs) : '\n' ∉ cs :=
  fun hmem => (h _ hmem).2.2 rfl

/-- Texts without line feeds are what stands between the line feeds that join them. -/
theorem splitOn_toList_unlines {ls : List String} (hls : ls ≠ [])
    (h : ∀ line ∈ ls, '\n' ∉ line.toList) :
    (unlines ls).toList.splitOn '\n' = ls.map String.toList := by
  have hchars : (unlines ls).toList = ['\n'].intercalate (ls.map String.toList) :=
    String.toList_intercalate
  rw [hchars]
  refine List.splitOn_intercalate '\n' (List.forall_mem_map.mpr h) ?_
  simpa using hls

/-- What stands between the line feeds are the lines of a text, if none of it is empty. -/
theorem lines_of_splitOn {text : String} {ls : List String}
    (h : text.toList.splitOn '\n' = ls.map String.toList) (hne : ∀ line ∈ ls, line.toList ≠ []) :
    lines text = ls := by
  have hlast : (ls.map String.toList).getLast? ≠ some [] := fun hlast => by
    obtain ⟨line, hline, hnil⟩ := List.mem_map.mp (List.mem_of_getLast? hlast)
    exact hne line hline hnil
  rw [lines, linesOf, h, if_neg hlast, List.map_map]
  exact List.map_id'' (fun _ => String.ofList_toList) ls

/-- **Texts without line feeds are the lines** of the text that they are put together to. -/
theorem lines_unlines {ls : List String} (hne : ∀ line ∈ ls, line.toList ≠ [])
    (h : ∀ line ∈ ls, '\n' ∉ line.toList) : lines (unlines ls) = ls := by
  by_cases hls : ls = []
  · subst hls
    rfl
  · exact lines_of_splitOn (splitOn_toList_unlines hls h) hne

/-- A line feed after every text, or between them and one more at the end. -/
theorem endLines_eq_append {ls : List String} (hls : ls ≠ []) :
    endLines ls = unlines ls ++ "\n" := by
  induction ls with
  | nil => exact absurd rfl hls
  | cons line ls ih =>
    have hcons : endLines (line :: ls) = line ++ "\n" ++ endLines ls := String.join_cons
    cases ls with
    | nil =>
      have hone : unlines [line] = line := String.intercalate_singleton
      rw [hcons, hone]
      exact String.append_empty
    | cons next ls =>
      have hjoin : unlines (line :: next :: ls) = line ++ "\n" ++ unlines (next :: ls) :=
        String.intercalate_cons_cons
      rw [hcons, ih (List.cons_ne_nil next ls), hjoin, String.append_assoc, String.append_assoc,
        String.append_assoc]

/-- A text within a line is a line. -/
theorem Inline.lines_eq {text : String} (hne : text.toList ≠ []) (h : Inline text.toList) :
    lines text = [text] := by
  have hlines : lines (unlines [text]) = [text] :=
    lines_unlines (List.forall_mem_singleton.mpr hne)
      (List.forall_mem_singleton.mpr h.newline_notMem)
  rwa [unlines, String.intercalate_singleton] at hlines

section

variable {mnemonic : String} {operands : List String}

theorem toList_mnemonic_append :
    (mnemonic ++ " " ++ String.intercalate ", " operands).toList
      = mnemonic.toList ++ ' ' :: [',', ' '].intercalate (operands.map String.toList) := by
  simp

theorem inline_mnemonic_append (hm : Plain mnemonic.toList)
    (ho : ∀ operand ∈ operands, Inline operand.toList) :
    Inline (mnemonic ++ " " ++ String.intercalate ", " operands).toList := by
  have hsep : Inline [',', ' '] := by decide
  have hoperands : Inline ([',', ' '].intercalate (operands.map String.toList)) :=
    forall_mem_intercalate hsep (List.forall_mem_map.mpr ho)
  rw [toList_mnemonic_append]
  exact hm.inline.append (List.forall_mem_cons.mpr ⟨by decide, hoperands⟩)

/-- **The tokens of a mnemonic and its operands**, a space after the one and a comma and a space
between the others. -/
theorem tokenize_mnemonic_append (hne : mnemonic.toList ≠ []) (hm : Plain mnemonic.toList)
    (ho : ∀ operand ∈ operands, Inline operand.toList) :
    tokenize (mnemonic ++ " " ++ String.intercalate ", " operands)
      = mnemonic :: operands.flatMap pieceTokens := by
  rw [tokenize, (inline_mnemonic_append hm ho).beforeComment_eq, toList_mnemonic_append,
    runs_append_cons (by decide), runs_eq_singleton hne hm.isDelimiter_eq,
    runs_intercalate (by decide) (List.all_eq_true.mp rfl), List.flatMap_map, List.map_append,
    List.map_flatMap, List.map_singleton, String.ofList_toList]
  rfl

end

end RiscvAssembler
