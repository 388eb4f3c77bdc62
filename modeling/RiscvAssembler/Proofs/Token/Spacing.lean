import Mathlib.Data.List.Basic
import RiscvAssembler.Proofs.Token

/-!
# Tokens with delimiters between them

What is a token of some line is a token by itself: it has characters, no delimiter among them, and
no comment marker, since the line was cut off at the first one. Spaces between tokens separate them
again and bring in no comment marker, not even between two single slashes. So does any other
delimiter, and several of them.

## Main definitions

* `CommentFree`: characters without a comment marker.
* `IsToken`: the texts that are tokens.
* `spaced`: tokens on one line.
* `HasTokens`: characters with given tokens, built up a token or a delimiter at a time.

## Main results

* `isToken_of_mem_tokenize`: the tokens of a line are tokens by themselves.
* `tokenize_spaced`: tokens on one line are the tokens of that line.
-/

namespace RiscvAssembler

open Text

/-! ### Comment markers -/

/-- The characters have no comment marker among them. -/
structure CommentFree (cs : List Char) : Prop where
  hash : '#' ∉ cs
  slashes : ¬ ['/', '/'] <:+: cs

namespace CommentFree

theorem of_isInfix {cs piece : List Char} (h : CommentFree cs) (hpiece : piece <:+: cs) :
    CommentFree piece :=
  ⟨fun hmem => h.hash (hpiece.mem hmem), fun hslashes => h.slashes (hslashes.trans hpiece)⟩

theorem nil : CommentFree [] :=
  ⟨List.not_mem_nil, by simp⟩

/-- Nothing is cut off characters without a comment marker. -/
theorem beforeComment_eq {cs : List Char} (h : CommentFree cs) : beforeComment cs = cs := by
  induction cs with
  | nil => rfl
  | cons c cs ih =>
    rw [beforeComment, ih (h.of_isInfix (List.infix_cons List.infix_rfl))]
    · rintro rfl
      exact h.hash List.mem_cons_self
    · rintro rest rfl rfl
      exact h.slashes ⟨[], rest, rfl⟩

/-- No marker comes up around a character that is part of none. -/
theorem append_cons {x y : List Char} (hx : CommentFree x) (hy : CommentFree y) {d : Char}
    (hhash : d ≠ '#') (hslash : d ≠ '/') : CommentFree (x ++ d :: y) := by
  constructor
  · rw [List.mem_append, List.mem_cons]
    rintro (h | h | h)
    · exact hx.hash h
    · exact hhash h.symm
    · exact hy.hash h
  · rw [List.infix_append_iff]
    rintro (h | h | ⟨front, rest, hsplit, hfront, hrest⟩)
    · exact hx.slashes h
    · rcases List.infix_cons_iff.mp h with h | h
      · exact hslash (List.cons_prefix_cons.mp h).1.symm
      · exact hy.slashes h
    -- the marker would start before the character and end with it, or stand before it
    · rcases List.prefix_cons_iff.mp hrest with rfl | ⟨tail, rfl, -⟩
      · rw [List.append_nil] at hsplit
        exact hx.slashes (hsplit ▸ hfront.isInfix)
      · have hmem : d ∈ ['/', '/'] := hsplit ▸ List.mem_append_right _ List.mem_cons_self
        simp [hslash] at hmem

theorem intercalate {d : Char} (hhash : d ≠ '#') (hslash : d ≠ '/') {pieces : List (List Char)}
    (h : ∀ piece ∈ pieces, CommentFree piece) : CommentFree ([d].intercalate pieces) := by
  induction pieces with
  | nil => exact nil
  | cons piece pieces ih =>
    obtain ⟨hpiece, hpieces⟩ := List.forall_mem_cons.mp h
    cases pieces with
    | nil => simpa using hpiece
    | cons next pieces =>
      rw [List.intercalate_cons_cons, List.append_assoc, List.singleton_append]
      exact hpiece.append_cons (ih hpieces) hhash hslash

end CommentFree

theorem isPrefix_beforeComment (cs : List Char) : beforeComment cs <+: cs := by
  fun_induction beforeComment cs with
  | case1 => exact List.prefix_rfl
  | case2 rest => exact List.nil_prefix
  | case3 rest => exact List.nil_prefix
  | case4 c cs _ _ ih => exact List.cons_prefix_cons.mpr ⟨rfl, ih⟩

/-- **There is no comment marker before the comment.** -/
theorem commentFree_beforeComment (cs : List Char) : CommentFree (beforeComment cs) := by
  fun_induction beforeComment cs with
  | case1 => exact .nil
  | case2 rest => exact .nil
  | case3 rest => exact .nil
  | case4 c cs hhash hslashes ih =>
    constructor
    · rw [List.mem_cons]
      rintro (rfl | h)
      · exact hhash rfl
      · exact ih.hash h
    · intro h
      rcases List.infix_cons_iff.mp h with hstart | hlater
      · obtain ⟨hfirst, hsecond⟩ := List.cons_prefix_cons.mp hstart
        obtain ⟨rest, hrest⟩ := hsecond.trans (isPrefix_beforeComment cs)
        exact hslashes rest hfirst.symm hrest.symm
      · exact ih.slashes hlater

/-! ### Tokens -/

/-- Every piece of a list that is split stands somewhere in it, the first one at its start. -/
theorem isInfix_of_splitOnP {p : Char → Bool} {cs first : List Char} {rest : List (List Char)}
    (h : cs.splitOnP p = first :: rest) : first <+: cs ∧ ∀ piece ∈ rest, piece <:+: cs := by
  induction cs generalizing first rest with
  | nil =>
    rw [List.splitOnP_nil] at h
    cases h
    exact ⟨List.prefix_rfl, fun _ hpiece => absurd hpiece List.not_mem_nil⟩
  | cons c cs ih =>
    obtain ⟨next, more, hsplit⟩ := List.exists_cons_of_ne_nil (List.splitOnP_ne_nil p cs)
    obtain ⟨hnext, hmore⟩ := ih hsplit
    rw [List.splitOnP_cons_eq_if_modifyHead, hsplit] at h
    split at h
    · cases h
      exact ⟨List.nil_prefix, List.forall_mem_cons.mpr
        ⟨List.infix_cons hnext.isInfix, fun piece hpiece => List.infix_cons (hmore piece hpiece)⟩⟩
    · cases h
      exact ⟨List.cons_prefix_cons.mpr ⟨rfl, hnext⟩,
        fun piece hpiece => List.infix_cons (hmore piece hpiece)⟩

theorem isInfix_of_mem_runs {cs run : List Char} (h : run ∈ runs cs) : run <:+: cs := by
  have hmem := (List.mem_filter.mp h).1
  obtain ⟨first, rest, hsplit⟩ :=
    List.exists_cons_of_ne_nil (List.splitOnP_ne_nil isDelimiter cs)
  obtain ⟨hfirst, hrest⟩ := isInfix_of_splitOnP hsplit
  rw [hsplit] at hmem
  rcases List.mem_cons.mp hmem with rfl | hmem
  · exact hfirst.isInfix
  · exact hrest run hmem

/-- The text is a token: it has characters, none of them a delimiter, and no comment marker. -/
structure IsToken (token : String) : Prop where
  ne_nil : token.toList ≠ []
  undelimited : Undelimited token
  commentFree : CommentFree token.toList

/-- **The tokens of a line are tokens by themselves.** -/
theorem isToken_of_mem_tokenize {line token : String} (h : token ∈ tokenize line) :
    IsToken token := by
  obtain ⟨run, hrun, rfl⟩ := List.mem_map.mp h
  obtain ⟨hpiece, hne⟩ := List.mem_filter.mp hrun
  refine ⟨?_, ?_, ?_⟩
  · rintro hnil
    rw [String.toList_ofList] at hnil
    rw [hnil] at hne
    cases hne
  · rw [Undelimited, String.toList_ofList]
    exact forall_not_of_mem_splitOnP hpiece
  · rw [String.toList_ofList]
    exact (commentFree_beforeComment _).of_isInfix (isInfix_of_mem_runs hrun)

/-- Plain text is a token. -/
theorem isToken_of_plain {token : String} (hne : token.toList ≠ []) (h : Plain token.toList) :
    IsToken token := by
  refine ⟨hne, h.isDelimiter_eq, fun hhash => ?_, fun hslashes => ?_⟩
  · exact (h.inline _ hhash).1 rfl
  · exact (h.inline _ (hslashes.mem List.mem_cons_self)).2.1 rfl

/-- The tokens on one line, a space between each two. -/
def spaced (tokens : List String) : String :=
  String.intercalate " " tokens

theorem toList_spaced (tokens : List String) :
    (spaced tokens).toList = [' '].intercalate (tokens.map String.toList) :=
  String.toList_intercalate

/-- Tokens with runs of their own. -/
theorem runs_token {token : String} (h : IsToken token) : runs token.toList = [token.toList] :=
  runs_eq_singleton h.ne_nil h.undelimited

/-- **Tokens on one line are the tokens of that line.** -/
theorem tokenize_spaced {tokens : List String} (h : ∀ token ∈ tokens, IsToken token) :
    tokenize (spaced tokens) = tokens := by
  have hfree : CommentFree (spaced tokens).toList := by
    rw [toList_spaced]
    exact .intercalate (by decide) (by decide)
      (List.forall_mem_map.mpr fun token htoken => (h token htoken).commentFree)
  have hruns : tokens.flatMap (fun token => runs token.toList) = tokens.map String.toList := by
    rw [List.map_eq_flatMap]
    exact List.flatMap_congr fun token htoken => runs_token (h token htoken)
  rw [tokenize, hfree.beforeComment_eq, toList_spaced,
    runs_intercalate (by decide) (List.all_eq_true.mp rfl), List.flatMap_map, hruns, List.map_map]
  exact List.map_id'' (fun _ => String.ofList_toList) tokens

/-- A token alone on a line is its only token. -/
theorem IsToken.tokenize_eq {token : String} (h : IsToken token) : tokenize token = [token] := by
  have htokens := tokenize_spaced (List.forall_mem_singleton.mpr h)
  rwa [spaced, String.intercalate_singleton] at htokens

theorem IsToken.newline_notMem {token : String} (h : IsToken token) : '\n' ∉ token.toList :=
  fun hmem => nomatch h.undelimited _ hmem

/-- Tokens on one line are a line that is not empty. -/
theorem spaced_ne_nil {tokens : List String} (hne : tokens ≠ [])
    (h : ∀ token ∈ tokens, IsToken token) : (spaced tokens).toList ≠ [] := by
  intro hnil
  have htokens := tokenize_spaced h
  rw [tokenize, hnil] at htokens
  exact hne htokens.symm

theorem newline_notMem_spaced {tokens : List String} (h : ∀ token ∈ tokens, IsToken token) :
    '\n' ∉ (spaced tokens).toList := by
  have hchars : ∀ c ∈ (spaced tokens).toList, c ≠ '\n' := by
    rw [toList_spaced]
    refine forall_mem_intercalate (List.forall_mem_singleton.mpr (by decide))
      (List.forall_mem_map.mpr fun token htoken c hc => ?_)
    rintro rfl
    exact (h token htoken).newline_notMem hc
  exact fun hmem => hchars _ hmem rfl

/-! ### Tokens with other delimiters -/

/-- The characters have the given tokens, and no comment. -/
structure HasTokens (cs : List Char) (tokens : List String) : Prop where
  commentFree : CommentFree cs
  runs_eq : runs cs = tokens.map String.toList

namespace HasTokens

variable {cs : List Char} {tokens : List String} {token : String} {d : Char}

/-- The tokens of a line are those of the characters before its comment. -/
theorem tokenize_eq_of_beforeComment {line : String}
    (h : HasTokens (beforeComment line.toList) tokens) : tokenize line = tokens := by
  rw [tokenize, h.runs_eq, List.map_map]
  exact List.map_id'' (fun _ => String.ofList_toList) tokens

theorem tokenize_eq {line : String} (h : HasTokens line.toList tokens) : tokenize line = tokens :=
  tokenize_eq_of_beforeComment (h.commentFree.beforeComment_eq.symm ▸ h)

theorem nil : HasTokens [] [] := ⟨.nil, rfl⟩

theorem single (htoken : IsToken token) : HasTokens token.toList [token] :=
  ⟨htoken.commentFree, runs_token htoken⟩

/-- **A delimiter separates** the tokens before it from those after it. -/
theorem append_cons {front : List Char} {tokensBefore : List String}
    (hfront : HasTokens front tokensBefore) (hd : isDelimiter d = true) (h : HasTokens cs tokens) :
    HasTokens (front ++ d :: cs) (tokensBefore ++ tokens) where
  commentFree := by
    refine hfront.commentFree.append_cons h.commentFree ?_ ?_ <;>
      · rintro rfl
        cases hd
  runs_eq := by
    rw [runs_append_cons hd, hfront.runs_eq, h.runs_eq, List.map_append]

/-- Between tokens there is a delimiter. -/
theorem token_append (htoken : IsToken token) (hd : isDelimiter d = true)
    (h : HasTokens cs tokens) : HasTokens (token.toList ++ d :: cs) (token :: tokens) :=
  (single htoken).append_cons hd h

theorem delimiter_cons (hd : isDelimiter d = true) (h : HasTokens cs tokens) :
    HasTokens (d :: cs) tokens :=
  nil.append_cons hd h

end HasTokens

end RiscvAssembler
