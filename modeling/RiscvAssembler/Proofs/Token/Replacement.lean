import Mathlib.Data.List.Forall2
import RiscvAssembler.Proofs.Text.Lowercase
import RiscvAssembler.Proofs.Token.Spacing

/-!
# Other tokens in their places

A token can be written over in a text: the delimiters around it stay, and so do the comments and the
ends of lines. The text then has the new token where it had the old one, if the new one is plain. So
a text can be changed token by token, and its tokens are the ones that were written.

## Main definitions

* `HasRuns`: characters as delimiters and the runs between them.
* `replaceRuns`, `retokenLine`, `retoken`: other tokens in the places of those of a text.
* `Replaces`: the tokens that may be written over a token.

## Main results

* `hasRuns_runs`: any characters are delimiters and runs.
* `tokenize_retokenLine`, `tokenize_retoken`: the tokens are those that were written.
* `plain_of_lowercase`: a token is plain in any letter case if it is in small letters.
-/

namespace RiscvAssembler

open Text

/-! ### Runs and delimiters -/

/-- The characters are delimiters, and the given runs of other characters between them. -/
inductive HasRuns : List Char → List (List Char) → Prop
  | nil : HasRuns [] []
  | delimiter {d : Char} {cs : List Char} {rs : List (List Char)} (hd : isDelimiter d = true)
      (h : HasRuns cs rs) : HasRuns (d :: cs) rs
  | last {run : List Char} (hne : run ≠ []) (hrun : ∀ c ∈ run, isDelimiter c = false) :
      HasRuns run [run]
  | run {run cs : List Char} {d : Char} {rs : List (List Char)} (hne : run ≠ [])
      (hrun : ∀ c ∈ run, isDelimiter c = false) (hd : isDelimiter d = true)
      (h : HasRuns cs rs) : HasRuns (run ++ d :: cs) (run :: rs)

/-- What has been read of a run is kept in front. -/
theorem hasRuns_append (front : List Char) (hfront : ∀ c ∈ front, isDelimiter c = false)
    (cs : List Char) : HasRuns (front ++ cs) (runs (front ++ cs)) := by
  induction cs generalizing front with
  | nil =>
    rw [List.append_nil]
    by_cases hne : front = []
    · rw [hne]
      exact .nil
    · rw [runs_eq_singleton hne hfront]
      exact .last hne hfront
  | cons c cs ih =>
    have hrest : HasRuns cs (runs cs) := ih [] fun _ h => absurd h List.not_mem_nil
    cases hc : isDelimiter c with
    | true =>
      rw [runs_append_cons hc]
      by_cases hne : front = []
      · rw [hne]
        exact .delimiter hc hrest
      · rw [runs_eq_singleton hne hfront]
        exact .run hne hfront hc hrest
    | false =>
      have hlonger := ih (front ++ [c])
        (List.forall_mem_append.mpr ⟨hfront, List.forall_mem_singleton.mpr hc⟩)
      rwa [List.append_assoc, List.singleton_append] at hlonger

/-- **Any characters are delimiters and runs.** -/
theorem hasRuns_runs (cs : List Char) : HasRuns cs (runs cs) :=
  hasRuns_append [] (fun _ h => absurd h List.not_mem_nil) cs

/-- The characters with the runs `rs` in the places of their own. A run is written over where it
starts, and the rest of it is left out. -/
def replaceRuns : Bool → List (List Char) → List Char → List Char
  | _, _, [] => []
  | inside, rs, c :: cs =>
    if isDelimiter c then c :: replaceRuns false rs cs
    else if inside then replaceRuns true rs cs
    else rs.headD [] ++ replaceRuns true rs.tail cs

section

variable {cs : List Char} {rs : List (List Char)} {d : Char}

theorem replaceRuns_delimiter (hd : isDelimiter d = true) (inside : Bool) :
    replaceRuns inside rs (d :: cs) = d :: replaceRuns false rs cs := by
  rw [replaceRuns, if_pos hd]

/-- The rest of a run is left out. -/
theorem replaceRuns_inside {run : List Char} (hrun : ∀ c ∈ run, isDelimiter c = false) :
    replaceRuns true rs (run ++ cs) = replaceRuns true rs cs := by
  induction run with
  | nil => rfl
  | cons c run ih =>
    obtain ⟨hc, hrun⟩ := List.forall_mem_cons.mp hrun
    rw [List.cons_append, replaceRuns, hc, if_neg Bool.false_ne_true, if_pos rfl, ih hrun]

theorem replaceRuns_run {run new : List Char} (hne : run ≠ [])
    (hrun : ∀ c ∈ run, isDelimiter c = false) :
    replaceRuns false (new :: rs) (run ++ cs) = new ++ replaceRuns true rs cs := by
  obtain ⟨c, run, rfl⟩ := List.exists_cons_of_ne_nil hne
  obtain ⟨hc, hrun⟩ := List.forall_mem_cons.mp hrun
  rw [List.cons_append, replaceRuns, hc, if_neg Bool.false_ne_true, if_neg Bool.false_ne_true,
    List.headD_cons, List.tail_cons, replaceRuns_inside hrun]

theorem replaceRuns_last {run new : List Char} (hne : run ≠ [])
    (hrun : ∀ c ∈ run, isDelimiter c = false) : replaceRuns false [new] run = new := by
  have h : replaceRuns false [new] (run ++ []) = new ++ replaceRuns true [] [] :=
    replaceRuns_run hne hrun
  rwa [List.append_nil, replaceRuns, List.append_nil] at h

/-- No characters come up but those of the text and of the new runs. -/
theorem mem_replaceRuns {inside : Bool} {c : Char} (h : c ∈ replaceRuns inside rs cs) :
    c ∈ cs ∨ ∃ run ∈ rs, c ∈ run := by
  induction cs generalizing inside rs with
  | nil => cases h
  | cons first cs ih =>
    rw [replaceRuns] at h
    split at h
    · rcases List.mem_cons.mp h with rfl | h
      · exact .inl List.mem_cons_self
      · exact (ih h).imp_left (List.mem_cons_of_mem _)
    split at h
    · exact (ih h).imp_left (List.mem_cons_of_mem _)
    · cases rs with
      | nil => exact (ih h).imp_left (List.mem_cons_of_mem _)
      | cons run rs =>
        rcases List.mem_append.mp h with h | h
        · exact .inr ⟨run, List.mem_cons_self, h⟩
        · rcases ih h with h | ⟨other, hother, h⟩
          · exact .inl (List.mem_cons_of_mem _ h)
          · exact .inr ⟨other, List.mem_cons_of_mem _ hother, h⟩

/-- **The tokens are those that were written**, if there is one for each run. -/
theorem hasTokens_replaceRuns (h : HasRuns cs rs) {tokens : List String}
    (hlength : tokens.length = rs.length) (htokens : ∀ token ∈ tokens, IsToken token) :
    HasTokens (replaceRuns false (tokens.map String.toList) cs) tokens := by
  induction h generalizing tokens with
  | nil =>
    rw [List.length_eq_zero_iff.mp hlength]
    exact .nil
  | delimiter hd _ ih =>
    rw [replaceRuns_delimiter hd]
    exact (ih hlength htokens).delimiter_cons hd
  | last hne hrun =>
    obtain ⟨token, rfl⟩ := List.length_eq_one_iff.mp hlength
    rw [List.map_singleton, replaceRuns_last hne hrun]
    exact .single (htokens token (List.mem_singleton_self _))
  | run hne hrun hd _ ih =>
    obtain ⟨token, tokens, rfl⟩ := List.exists_cons_of_length_eq_add_one hlength
    obtain ⟨htoken, htokens⟩ := List.forall_mem_cons.mp htokens
    rw [List.map_cons, replaceRuns_run hne hrun, replaceRuns_delimiter hd]
    exact (ih (Nat.succ.inj hlength) htokens).token_append htoken hd

end

/-! ### Lines -/

/-- The token may be written over the old one: it is the same, or plain. -/
def Replaces (old new : String) : Prop :=
  new = old ∨ new.toList ≠ [] ∧ Plain new.toList

/-- The line with other tokens in the places of its own, and its comment. -/
def retokenLine (tokens : List String) (line : List Char) : List Char :=
  replaceRuns false (tokens.map String.toList) (beforeComment line) ++
    line.drop (beforeComment line).length

theorem Replaces.isToken {old new : String} (h : Replaces old new) (hold : IsToken old) :
    IsToken new := by
  rcases h with rfl | ⟨hne, hplain⟩
  · exact hold
  · exact isToken_of_plain hne hplain

/-- A comment starts with one of the two markers, and no slash stands in front of the second one. -/
theorem comment_cases (line : List Char) :
    line.drop (beforeComment line).length = [] ∨
      (∃ rest, line.drop (beforeComment line).length = '#' :: rest) ∨
      (∃ rest, line.drop (beforeComment line).length = '/' :: '/' :: rest) ∧
        (beforeComment line).getLast? ≠ some '/' := by
  fun_induction beforeComment line with
  | case1 => exact .inl rfl
  | case2 rest => exact .inr (.inl ⟨rest, rfl⟩)
  | case3 rest => exact .inr (.inr ⟨⟨rest, rfl⟩, by simp⟩)
  | case4 c cs hhash hslashes ih =>
    rw [List.length_cons, List.drop_succ_cons]
    rcases ih with ih | ih | ⟨⟨rest, hrest⟩, ih⟩
    · exact .inl ih
    · exact .inr (.inl ih)
    · refine .inr (.inr ⟨⟨rest, hrest⟩, ?_⟩)
      cases hcode : beforeComment cs with
      | nil =>
        -- a slash here would be part of the marker
        rw [hcode, List.length_nil, List.drop_zero] at hrest
        rw [List.getLast?_singleton]
        rintro ⟨⟩
        exact hslashes ('/' :: rest) rfl (hrest ▸ rfl)
      | cons first code =>
        rw [List.getLast?_cons_cons, ← hcode]
        exact ih

/-- A comment that is put behind characters without a marker is cut off again. -/
theorem beforeComment_append {cs comment : List Char} (h : CommentFree cs)
    (hcomment : comment = [] ∨ (∃ rest, comment = '#' :: rest) ∨
      (∃ rest, comment = '/' :: '/' :: rest) ∧ cs.getLast? ≠ some '/') :
    beforeComment (cs ++ comment) = cs := by
  induction cs with
  | nil =>
    rcases hcomment with rfl | ⟨rest, rfl⟩ | ⟨⟨rest, rfl⟩, -⟩ <;> rfl
  | cons c cs ih =>
    have hrest : beforeComment (cs ++ comment) = cs := by
      refine ih (h.of_isInfix (List.infix_cons List.infix_rfl)) ?_
      refine hcomment.imp_right (Or.imp_right (And.imp_right fun hlast => ?_))
      cases cs with
      | nil => simp
      | cons first cs =>
        rw [List.getLast?_cons_cons] at hlast
        exact hlast
    rw [List.cons_append, beforeComment, hrest]
    · rintro rfl
      exact h.hash List.mem_cons_self
    · rintro rest rfl heq
      -- two slashes stand among the characters, or the first one right before the comment
      cases cs with
      | nil =>
        rcases hcomment with rfl | ⟨_, rfl⟩ | ⟨-, hlast⟩
        · cases heq
        · cases heq
        · exact hlast rfl
      | cons first cs =>
        obtain ⟨rfl, -⟩ := List.cons.inj heq
        exact h.slashes ⟨[], cs, rfl⟩

section

variable {cs : List Char} {rs : List (List Char)} {tokens : List String}

theorem getLast?_cons_eq_slash {d : Char} (hd : isDelimiter d = true) :
    (d :: cs).getLast? = some '/' ↔ cs.getLast? = some '/' := by
  cases cs with
  | nil =>
    rw [List.getLast?_singleton, List.getLast?_nil]
    constructor
    · rintro ⟨⟩
      cases hd
    · rintro ⟨⟩
  | cons c cs => rw [List.getLast?_cons_cons]

theorem getLast?_append_cons (front : List Char) (d : Char) :
    (front ++ d :: cs).getLast? = (d :: cs).getLast? := by
  rw [List.getLast?_append, List.getLast?_eq_some_getLast (List.cons_ne_nil d cs), Option.some_or]

/-- A slash at the end is one that was there. -/
theorem getLast?_replaceRuns (h : HasRuns cs rs)
    (htokens : List.Forall₂ (fun run token => Replaces (String.ofList run) token) rs tokens)
    (hlast : (replaceRuns false (tokens.map String.toList) cs).getLast? = some '/') :
    cs.getLast? = some '/' := by
  induction h generalizing tokens with
  | nil =>
    cases htokens
    cases hlast
  | delimiter hd _ ih =>
    rw [replaceRuns_delimiter hd, getLast?_cons_eq_slash hd] at hlast
    exact (getLast?_cons_eq_slash hd).mpr (ih htokens hlast)
  | last hne hrun =>
    obtain _ | ⟨hreplaces, hnil⟩ := htokens
    cases hnil
    rw [List.map_singleton, replaceRuns_last hne hrun] at hlast
    rcases hreplaces with rfl | ⟨-, hplain⟩
    · rwa [String.toList_ofList] at hlast
    · cases hplain '/' (List.mem_of_getLast? hlast)
  | run hne hrun hd _ ih =>
    obtain _ | ⟨-, htokens⟩ := htokens
    rw [List.map_cons, replaceRuns_run hne hrun, replaceRuns_delimiter hd, getLast?_append_cons,
      getLast?_cons_eq_slash hd] at hlast
    rw [getLast?_append_cons, getLast?_cons_eq_slash hd]
    exact ih htokens hlast

/-- Nothing is written over by nothing. -/
theorem replaceRuns_ne_nil (h : HasRuns cs rs) (hlength : tokens.length = rs.length)
    (htokens : ∀ token ∈ tokens, IsToken token) (hne : cs ≠ []) :
    replaceRuns false (tokens.map String.toList) cs ≠ [] := by
  cases h with
  | nil => exact absurd rfl hne
  | delimiter hd =>
    rw [replaceRuns_delimiter hd]
    exact List.cons_ne_nil _ _
  | last hrunne hrun =>
    obtain ⟨token, rfl⟩ := List.length_eq_one_iff.mp hlength
    rw [List.map_singleton, replaceRuns_last hrunne hrun]
    exact (htokens token (List.mem_singleton_self _)).ne_nil
  | run hrunne hrun hd =>
    obtain ⟨token, tokens, rfl⟩ := List.exists_cons_of_length_eq_add_one hlength
    rw [List.map_cons, replaceRuns_run hrunne hrun]
    exact List.append_ne_nil_of_left_ne_nil (htokens token List.mem_cons_self).ne_nil _

end

/-- What is written over tokens are tokens. -/
theorem forall_isToken_of_replaces {olds news : List String} (h : List.Forall₂ Replaces olds news)
    (holds : ∀ old ∈ olds, IsToken old) : ∀ new ∈ news, IsToken new := by
  induction h with
  | nil => exact fun _ h => absurd h List.not_mem_nil
  | cons hreplaces _ ih =>
    obtain ⟨hold, holds⟩ := List.forall_mem_cons.mp holds
    exact List.forall_mem_cons.mpr ⟨hreplaces.isToken hold, ih holds⟩

section

variable {line : List Char} {tokens : List String}
  (h : List.Forall₂ Replaces (tokenize (String.ofList line)) tokens)

include h

theorem isToken_of_replaces : ∀ token ∈ tokens, IsToken token :=
  forall_isToken_of_replaces h fun _ hold => isToken_of_mem_tokenize hold

theorem length_of_replaces : tokens.length = (runs (beforeComment line)).length := by
  have hlength := h.length_eq
  rw [tokenize, String.toList_ofList, List.length_map] at hlength
  exact hlength.symm

/-- **The tokens of the line are those that were written.** -/
theorem tokenize_retokenLine : tokenize (String.ofList (retokenLine tokens line)) = tokens := by
  have hruns := hasRuns_runs (beforeComment line)
  have htokens := hasTokens_replaceRuns hruns (length_of_replaces h) (isToken_of_replaces h)
  rw [tokenize, String.toList_ofList, List.forall₂_map_left_iff] at h
  have hcomment := comment_cases line
  have hcode : beforeComment (retokenLine tokens line)
      = replaceRuns false (tokens.map String.toList) (beforeComment line) := by
    refine beforeComment_append htokens.commentFree ?_
    refine hcomment.imp_right (Or.imp_right (And.imp_right fun hlast hnew => ?_))
    exact hlast (getLast?_replaceRuns hruns h hnew)
  rw [tokenize, String.toList_ofList, hcode, htokens.runs_eq, List.map_map]
  exact List.map_id'' (fun _ => String.ofList_toList) tokens

theorem retokenLine_ne_nil (hne : line ≠ []) : retokenLine tokens line ≠ [] := by
  rw [retokenLine]
  by_cases hcode : beforeComment line = []
  · rw [hcode, List.length_nil, List.drop_zero]
    exact List.append_ne_nil_of_right_ne_nil _ hne
  · refine List.append_ne_nil_of_left_ne_nil ?_ _
    exact replaceRuns_ne_nil (hasRuns_runs _) (length_of_replaces h) (isToken_of_replaces h) hcode

theorem newline_notMem_retokenLine (hline : '\n' ∉ line) : '\n' ∉ retokenLine tokens line := by
  intro hmem
  rcases List.mem_append.mp hmem with hmem | hmem
  · rcases mem_replaceRuns hmem with hmem | ⟨run, hrun, hmem⟩
    · exact hline ((isPrefix_beforeComment line).mem hmem)
    · obtain ⟨token, htoken, rfl⟩ := List.mem_map.mp hrun
      exact (isToken_of_replaces h token htoken).newline_notMem hmem
  · exact hline (List.mem_of_mem_drop hmem)

end

/-! ### Texts -/

/-- The text with other tokens in the places of those of its lines. Whatever comes after the last
line feed stays. -/
def retoken (rows : List (List String)) (text : String) : String :=
  String.ofList
    (['\n'].intercalate (List.zipWith retokenLine (rows ++ [[]]) (text.toList.splitOn '\n')))

section

variable {ls : List (List Char)} {rows : List (List String)}
  (h : List.Forall₂ (fun line tokens =>
    List.Forall₂ Replaces (tokenize (String.ofList line)) tokens) ls rows)

include h

theorem tokenize_zipWith_retokenLine :
    (List.zipWith retokenLine rows ls).map (fun line => tokenize (String.ofList line)) = rows := by
  induction h with
  | nil => rfl
  | cons hline _ ih => rw [List.zipWith_cons_cons, List.map_cons, tokenize_retokenLine hline, ih]

theorem newline_notMem_zipWith_retokenLine (hls : ∀ line ∈ ls, '\n' ∉ line) :
    ∀ line ∈ List.zipWith retokenLine rows ls, '\n' ∉ line := by
  induction h with
  | nil => exact fun _ h => absurd h List.not_mem_nil
  | cons hline _ ih =>
    obtain ⟨hfirst, hls⟩ := List.forall_mem_cons.mp hls
    rw [List.zipWith_cons_cons]
    exact List.forall_mem_cons.mpr ⟨newline_notMem_retokenLine hline hfirst, ih hls⟩

/-- The last line stays empty or not. -/
theorem getLast?_zipWith_retokenLine
    (hlast : (List.zipWith retokenLine rows ls).getLast? = some []) : ls.getLast? = some [] := by
  induction h with
  | nil => exact hlast
  | @cons line tokens ls rows hline htail ih =>
    rw [List.zipWith_cons_cons] at hlast
    cases htail with
    | nil =>
      rw [List.zipWith_nil_left, List.getLast?_singleton, Option.some_inj] at hlast
      by_cases hne : line = []
      · rw [hne]
        rfl
      · exact absurd hlast (retokenLine_ne_nil hline hne)
    | cons hnext hrest =>
      rw [List.zipWith_cons_cons, List.getLast?_cons_cons] at hlast
      rw [List.getLast?_cons_cons]
      exact ih hlast

end

/-- An empty piece at the end of a text is no line of it. -/
theorem linesOf_intercalate {pieces : List (List Char)} (h : ∀ piece ∈ pieces, '\n' ∉ piece)
    (hne : pieces ≠ []) :
    linesOf (['\n'].intercalate pieces)
      = if pieces.getLast? = some [] then pieces.dropLast else pieces := by
  rw [linesOf, List.splitOn_intercalate '\n' h hne]

/-- **The tokens of the text are those that were written.** -/
theorem tokenize_retoken {text : String} {rows : List (List String)}
    (h : List.Forall₂ (List.Forall₂ Replaces) ((lines text).map tokenize) rows) :
    (lines (retoken rows text)).map tokenize = rows := by
  rw [lines, List.map_map, List.forall₂_map_left_iff] at h
  have hlength := h.length_eq
  have hpieces : ∀ piece ∈ text.toList.splitOn '\n', '\n' ∉ piece := by
    intro piece hpiece hmem
    have hnot := forall_not_of_mem_splitOnP hpiece '\n' hmem
    rw [beq_self_eq_true] at hnot
    cases hnot
  have hmap : (lines (retoken rows text)).map tokenize
      = (linesOf (['\n'].intercalate
          (List.zipWith retokenLine (rows ++ [[]]) (text.toList.splitOn '\n')))).map
        fun line => tokenize (String.ofList line) := by
    rw [lines, retoken, String.toList_ofList, List.map_map]
    rfl
  rw [hmap]
  by_cases hlast : (text.toList.splitOn '\n').getLast? = some []
  · -- the text ends in a line feed, and so does the new one
    have hlines : linesOf text.toList = (text.toList.splitOn '\n').dropLast := if_pos hlast
    rw [← List.dropLast_append_getLast? _ hlast, ← hlines] at hpieces
    have hnews := newline_notMem_zipWith_retokenLine h (List.forall_mem_append.mp hpieces).1
    have hzip : List.zipWith retokenLine (rows ++ [[]]) (linesOf text.toList ++ [[]])
        = List.zipWith retokenLine rows (linesOf text.toList) ++ [[]] :=
      List.zipWith_append hlength.symm
    rw [← List.dropLast_append_getLast? _ hlast, ← hlines, hzip,
      linesOf_intercalate (List.forall_mem_append.mpr ⟨hnews, by decide⟩) (by simp),
      if_pos List.getLast?_concat, List.dropLast_concat]
    exact tokenize_zipWith_retokenLine h
  · have hlines : linesOf text.toList = text.toList.splitOn '\n' := if_neg hlast
    rw [← hlines] at hpieces hlast
    have hnews := newline_notMem_zipWith_retokenLine h hpieces
    have hzip : List.zipWith retokenLine (rows ++ [[]]) (linesOf text.toList)
        = List.zipWith retokenLine rows (linesOf text.toList) := by
      have happend : List.zipWith retokenLine (rows ++ [[]]) (linesOf text.toList ++ [])
          = List.zipWith retokenLine rows (linesOf text.toList)
            ++ List.zipWith retokenLine [[]] [] :=
        List.zipWith_append hlength.symm
      rwa [List.append_nil, List.zipWith_nil_right, List.append_nil] at happend
    have hne : List.zipWith retokenLine rows (linesOf text.toList) ≠ [] := by
      intro hnil
      have hcount := congrArg List.length hnil
      rw [List.length_zipWith, ← hlength, Nat.min_self, hlines] at hcount
      exact List.splitOn_ne_nil '\n' _ (List.length_eq_zero_iff.mp hcount)
    rw [← hlines, hzip, linesOf_intercalate hnews hne,
      if_neg (mt (getLast?_zipWith_retokenLine h) hlast)]
    exact tokenize_zipWith_retokenLine h

/-! ### Letter case -/

/-- The code points of blanks. -/
def blankRanges : List (Nat × Nat) :=
  [(0x09, 0x0D), (0x1C, 0x20), (0x85, 0x85), (0xA0, 0xA0), (0x1680, 0x1680), (0x2000, 0x200A),
    (0x2028, 0x2029), (0x202F, 0x202F), (0x205F, 0x205F), (0x3000, 0x3000)]

theorem exists_blankRange {c : Char} (h : isBlank c = true) :
    ∃ range ∈ blankRanges, range.1 ≤ c.toNat ∧ c.toNat ≤ range.2 := by
  simp only [isBlank, Bool.or_eq_true, Bool.and_eq_true, decide_eq_true_eq, beq_iff_eq] at h
  simp only [blankRanges, List.mem_cons, List.not_mem_nil, or_false, exists_eq_or_imp,
    exists_eq_left]
  omega

/-- A blank is no capital. -/
theorem not_isCapital_of_isBlank {c : Char} (h : isBlank c = true) : ¬ IsCapital c := by
  have havoids : ∀ range ∈ blankRanges,
      capitalRuns.all (avoids range.1 range.2 false) = true := by decide +kernel
  obtain ⟨range, hrange, hlow, hhigh⟩ := exists_blankRange h
  rintro ⟨run, hrun, hin⟩
  have hrunAvoids := List.all_eq_true.mp (havoids range hrange) run hrun
  exact not_inRun_of_avoids hrunAvoids hlow hhigh (fun hspaced => by cases hspaced) hin

theorem not_isCapital_of_not_isPlain {c : Char} (h : ¬ isPlain c = true) : ¬ IsCapital c := by
  simp only [isPlain, isDelimiter, Bool.and_eq_true, Bool.not_eq_true', Bool.or_eq_false_iff,
    bne_iff_ne, not_and_or, not_not, Bool.not_eq_false, beq_eq_false_iff_ne, ne_eq] at h
  rcases h with ((((hblank | rfl) | rfl) | rfl) | rfl) | rfl
  · exact not_isCapital_of_isBlank hblank
  all_goals decide +kernel

/-- **What is plain in small letters** is plain in any letter case. -/
theorem plain_of_lowercase {s : String} (h : Plain (lowercase s).toList) : Plain s.toList := by
  intro c hc
  by_contra hplain
  refine hplain (h c ?_)
  rw [lowercase, String.toList_ofList]
  exact mem_lowercaseAfter (not_isCapital_of_not_isPlain hplain) hc

theorem ne_nil_of_lowercase {s : String} (h : (lowercase s).toList ≠ []) : s.toList ≠ [] := by
  intro hnil
  refine h ?_
  rw [lowercase, hnil]
  rfl

end RiscvAssembler
