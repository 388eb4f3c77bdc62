import RiscvAssembler.Proofs.Token.Replacement

/-!
# What the tokens of a line are

The comment of a line begins at the first place where `#` or two slashes stand; a single slash is a
character like any other. The tokens are the maximal runs in front of it: the places where some
characters stand that are no delimiters, while their neighbours, if they have any, are. Nothing else
about a line matters for its tokens, so that they can be set down again with other delimiters
between and around them, and with another comment behind them if a delimiter separates it.

## Main definitions

* `BeginsComment`, `IsCode`: where a comment begins, and the part of a line before the first one.
* `IsMaximalRun`, `ListsRuns`: a maximal run and its place, and all of them in order.
* `Joined`, `Spread`, `Renders`: the texts in which given tokens are set down.

## Main results

* `isCode_beforeComment`: the comment is cut off at the first marker.
* `HasRuns.exists_listsRuns`: the runs between delimiters are the maximal runs, in order.
* `tokenize_of_renders`: tokens are read back from every text in which they are set down.
-/

namespace RiscvAssembler

/-! ### Where the comment begins -/

/-- A comment begins here, with `#` or with two slashes. -/
def BeginsComment (cs : List Char) : Prop :=
  ['#'] <+: cs ∨ ['/', '/'] <+: cs

/-- The code is the line up to the first place where a comment begins. -/
structure IsCode (line code : List Char) : Prop where
  isPrefix : code <+: line
  ends : code = line ∨ BeginsComment (line.drop code.length)
  first : ∀ n < code.length, ¬ BeginsComment (line.drop n)

theorem not_beginsComment_cons {c : Char} {cs : List Char} (hhash : c ≠ '#')
    (hslashes : ∀ rest, c = '/' → cs ≠ '/' :: rest) : ¬ BeginsComment (c :: cs) := by
  rintro (h | h)
  · exact hhash (List.cons_prefix_cons.mp h).1.symm
  · obtain ⟨hc, rest, rfl⟩ := List.cons_prefix_cons.mp h
    exact hslashes rest hc.symm rfl

/-- **The comment is cut off at the first marker.** -/
theorem isCode_beforeComment (line : List Char) : IsCode line (beforeComment line) where
  isPrefix := isPrefix_beforeComment line
  ends := by
    rcases comment_cases line with h | ⟨rest, h⟩ | ⟨⟨rest, h⟩, -⟩
    · refine .inl ((isPrefix_beforeComment line).eq_of_length_le ?_)
      exact List.drop_eq_nil_iff.mp h
    · exact .inr (.inl ⟨rest, h.symm⟩)
    · exact .inr (.inr ⟨rest, h.symm⟩)
  first := by
    fun_induction beforeComment line with
    | case1 => exact fun n hn => absurd hn (Nat.not_lt_zero n)
    | case2 rest => exact fun n hn => absurd hn (Nat.not_lt_zero n)
    | case3 rest => exact fun n hn => absurd hn (Nat.not_lt_zero n)
    | case4 c cs hhash hslashes ih =>
      intro n hn
      cases n with
      | zero => exact not_beginsComment_cons hhash fun rest hc hcs => hslashes rest hc hcs
      | succ n => exact ih n (Nat.lt_of_succ_lt_succ hn)

/-! ### Maximal runs -/

/-- Behind `before` the run stands among the characters. It has no delimiter, but what stands next
to it on either side is one. -/
structure IsMaximalRun (cs before run : List Char) : Prop where
  ne_nil : run ≠ []
  undelimited : ∀ c ∈ run, isDelimiter c = false
  left : ∀ c ∈ before.getLast?, isDelimiter c = true
  right : ∃ behind, cs = before ++ run ++ behind ∧ ∀ c ∈ behind.head?, isDelimiter c = true

/-- The places are those of the maximal runs, each with what stands before it, from left to
right. -/
structure ListsRuns (cs : List Char) (places : List (List Char × List Char)) : Prop where
  ordered : places.Pairwise fun place next => place.1.length < next.1.length
  mem_iff : ∀ before run, (before, run) ∈ places ↔ IsMaximalRun cs before run

/-- A list without the element `d` stands in front of it, or behind it. -/
theorem append_cons_eq_append {α : Type} {d : α} {front cs before run behind : List α}
    (hne : run ≠ []) (hd : d ∉ run) (h : front ++ d :: cs = before ++ run ++ behind) :
    (∃ rest, front = before ++ run ++ rest ∧ behind = rest ++ d :: cs) ∨
      ∃ between, before = front ++ d :: between ∧ cs = between ++ run ++ behind := by
  rw [List.append_assoc] at h
  -- the run starts behind the front, and then behind `d`, or it starts within the front
  rcases List.append_eq_append_iff.mp h with ⟨middle, rfl, hmiddle⟩ | ⟨middle, rfl, hmiddle⟩
  · cases middle with
    | nil =>
      obtain ⟨c, run, rfl⟩ := List.exists_cons_of_ne_nil hne
      obtain ⟨rfl, -⟩ := List.cons.inj hmiddle
      exact absurd List.mem_cons_self hd
    | cons e between =>
      rw [List.cons_append, List.cons.injEq] at hmiddle
      obtain ⟨rfl, rfl⟩ := hmiddle
      exact .inr ⟨between, rfl, (List.append_assoc _ _ _).symm⟩
  · rcases List.append_eq_append_iff.mp hmiddle with ⟨rest, rfl, rfl⟩ | ⟨rest, rfl, hrest⟩
    · exact .inl ⟨rest, (List.append_assoc _ _ _).symm, rfl⟩
    · cases rest with
      | nil => exact .inl ⟨[], by simp, hrest.symm⟩
      | cons e rest =>
        rw [List.cons_append, List.cons.injEq] at hrest
        obtain ⟨rfl, -⟩ := hrest
        exact absurd (List.mem_append_right _ List.mem_cons_self) hd

namespace IsMaximalRun

variable {cs front before run : List Char} {d : Char}

theorem length_le (h : IsMaximalRun cs before run) : before.length ≤ cs.length := by
  obtain ⟨behind, rfl, -⟩ := h.right
  simp only [List.length_append]
  omega

theorem notMem (h : IsMaximalRun cs before run) (hd : isDelimiter d = true) : d ∉ run := by
  intro hmem
  rw [h.undelimited d hmem] at hd
  cases hd

/-- A run in front of a delimiter. -/
theorem append_right (h : IsMaximalRun front before run) (hd : isDelimiter d = true)
    (cs : List Char) : IsMaximalRun (front ++ d :: cs) before run := by
  obtain ⟨behind, rfl, hright⟩ := h.right
  refine ⟨h.ne_nil, h.undelimited, h.left, behind ++ d :: cs, List.append_assoc _ _ _, ?_⟩
  cases behind with
  | nil => simpa using hd
  | cons c behind => exact hright

/-- A run behind a delimiter. -/
theorem append_left (h : IsMaximalRun cs before run) (hd : isDelimiter d = true)
    (front : List Char) : IsMaximalRun (front ++ d :: cs) (front ++ d :: before) run := by
  obtain ⟨behind, rfl, hright⟩ := h.right
  refine ⟨h.ne_nil, h.undelimited, ?_, behind, by simp, hright⟩
  rw [getLast?_append_cons]
  cases before with
  | nil => simpa using hd
  | cons c before =>
    rw [List.getLast?_cons_cons]
    exact h.left

/-- **A delimiter separates** the runs in front of it from those behind it. -/
theorem append_cons_iff (hd : isDelimiter d = true) :
    IsMaximalRun (front ++ d :: cs) before run ↔ IsMaximalRun front before run ∨
      ∃ between, before = front ++ d :: between ∧ IsMaximalRun cs between run := by
  constructor
  · intro h
    obtain ⟨behind, hsplit, hright⟩ := h.right
    rcases append_cons_eq_append h.ne_nil (h.notMem hd) hsplit with
      ⟨rest, hfront, rfl⟩ | ⟨between, rfl, hcs⟩
    · refine .inl ⟨h.ne_nil, h.undelimited, h.left, rest, hfront, fun c hc => hright c ?_⟩
      rw [List.head?_append, Option.mem_def.mp hc]
      exact rfl
    · refine .inr ⟨between, rfl, h.ne_nil, h.undelimited, fun c hc => h.left c ?_, behind, hcs,
        hright⟩
      rw [getLast?_append_cons, List.getLast?_cons, Option.mem_def.mp hc]
      exact rfl
  · rintro (h | ⟨between, rfl, h⟩)
    · exact h.append_right hd cs
    · exact h.append_left hd front

end IsMaximalRun

namespace ListsRuns

variable {cs front : List Char} {placesBefore places : List (List Char × List Char)} {d : Char}

theorem nil : ListsRuns [] [] where
  ordered := .nil
  mem_iff := by
    intro before run
    refine ⟨fun h => absurd h List.not_mem_nil, fun h => ?_⟩
    obtain ⟨behind, hsplit, -⟩ := h.right
    have hall := List.append_eq_nil_iff.mp hsplit.symm
    exact absurd (List.append_eq_nil_iff.mp hall.1).2 h.ne_nil

/-- Characters without a delimiter are a single run. -/
theorem single {run : List Char} (hne : run ≠ []) (hrun : ∀ c ∈ run, isDelimiter c = false) :
    ListsRuns run [([], run)] where
  ordered := List.pairwise_singleton _ _
  mem_iff := by
    intro before other
    rw [List.mem_singleton, Prod.mk.injEq]
    constructor
    · rintro ⟨rfl, rfl⟩
      exact ⟨hne, hrun, by simp, [], by simp, by simp⟩
    · rintro ⟨-, -, hleft, behind, rfl, hright⟩
      -- a character next to the other run would be a delimiter
      have hbefore : before = [] := by
        rw [← List.getLast?_eq_none_iff, Option.eq_none_iff_forall_not_mem]
        intro c hc
        have hmem := List.mem_append_left behind
          (List.mem_append_left other (List.mem_of_getLast? hc))
        exact absurd (hleft c hc) (by simp [hrun c hmem])
      have hbehind : behind = [] := by
        rw [← List.head?_eq_none_iff, Option.eq_none_iff_forall_not_mem]
        intro c hc
        have hmem := List.mem_append_right (before ++ other) (List.mem_of_head? hc)
        exact absurd (hright c hc) (by simp [hrun c hmem])
      rw [hbefore, hbehind, List.nil_append, List.append_nil]
      exact ⟨rfl, rfl⟩

/-- The runs in front of a delimiter and behind it. -/
theorem append_cons (hfront : ListsRuns front placesBefore) (hd : isDelimiter d = true)
    (h : ListsRuns cs places) :
    ListsRuns (front ++ d :: cs)
      (placesBefore ++ places.map fun place => (front ++ d :: place.1, place.2)) where
  ordered := by
    refine List.pairwise_append.mpr ⟨hfront.ordered, ?_, ?_⟩
    · refine List.pairwise_map.mpr (h.ordered.imp fun hlt => ?_)
      simp only [List.length_append, List.length_cons]
      omega
    · intro place hplace next hnext
      obtain ⟨later, -, rfl⟩ := List.mem_map.mp hnext
      have hle := ((hfront.mem_iff place.1 place.2).mp hplace).length_le
      simp only [List.length_append, List.length_cons]
      omega
  mem_iff := by
    intro before run
    rw [List.mem_append, IsMaximalRun.append_cons_iff hd, hfront.mem_iff, List.mem_map]
    refine or_congr_right ⟨?_, ?_⟩
    · rintro ⟨⟨between, _⟩, hplace, heq⟩
      obtain ⟨rfl, rfl⟩ := Prod.mk.inj heq
      exact ⟨between, rfl, (h.mem_iff _ _).mp hplace⟩
    · rintro ⟨between, rfl, hrun⟩
      exact ⟨(between, run), (h.mem_iff _ _).mpr hrun, rfl⟩

end ListsRuns

/-- **The runs between delimiters are the maximal runs**, in order. -/
theorem HasRuns.exists_listsRuns {cs : List Char} {rs : List (List Char)} (h : HasRuns cs rs) :
    ∃ places, ListsRuns cs places ∧ rs = places.map Prod.snd := by
  induction h with
  | nil => exact ⟨[], .nil, rfl⟩
  | delimiter hd _ ih =>
    obtain ⟨places, hplaces, rfl⟩ := ih
    exact ⟨_, ListsRuns.nil.append_cons hd hplaces, by simp⟩
  | last hne hrun => exact ⟨_, .single hne hrun, rfl⟩
  | run hne hrun hd _ ih =>
    obtain ⟨places, hplaces, rfl⟩ := ih
    exact ⟨_, (ListsRuns.single hne hrun).append_cons hd hplaces, by simp⟩

/-! ### Tokens set down in a text -/

/-- The characters are all delimiters. -/
def Delimiters (cs : List Char) : Prop :=
  ∀ c ∈ cs, isDelimiter c = true

instance (cs : List Char) : Decidable (Delimiters cs) :=
  List.decidableBAll _ cs

/-- The tokens one after the other, with delimiters between each two. -/
inductive Joined : List String → List Char → Prop
  | nil : Joined [] []
  | single (token : String) : Joined [token] token.toList
  | cons {token next : String} {tokens : List String} {gap cs : List Char} (hne : gap ≠ [])
      (hgap : Delimiters gap) (h : Joined (next :: tokens) cs) :
      Joined (token :: next :: tokens) (token.toList ++ gap ++ cs)

/-- The tokens with delimiters between and around them. -/
inductive Spread (tokens : List String) : List Char → Prop
  | around {front body back : List Char} (hfront : Delimiters front) (hbody : Joined tokens body)
      (hback : Delimiters back) : Spread tokens (front ++ body ++ back)

/-- The tokens with delimiters between and around them, and then nothing, or a comment that a
delimiter separates. -/
inductive Renders (tokens : List String) : List Char → Prop
  | bare {cs : List Char} (h : Spread tokens cs) : Renders tokens cs
  | commented {cs gap comment : List Char} (h : Spread tokens cs) (hne : gap ≠ [])
      (hgap : Delimiters gap) (hcomment : BeginsComment comment) :
      Renders tokens (cs ++ gap ++ comment)

namespace HasTokens

variable {cs gap : List Char} {tokens : List String}

/-- Delimiters in front change nothing. -/
theorem delimiters_append (hgap : Delimiters gap) (h : HasTokens cs tokens) :
    HasTokens (gap ++ cs) tokens := by
  induction gap with
  | nil => exact h
  | cons d gap ih =>
    obtain ⟨hd, hgap⟩ := List.forall_mem_cons.mp hgap
    exact (ih hgap).delimiter_cons hd

/-- Delimiters separate what stands on both sides of them. -/
theorem append_delimiters_append {front : List Char} {tokensBefore : List String}
    (hfront : HasTokens front tokensBefore) (hne : gap ≠ []) (hgap : Delimiters gap)
    (h : HasTokens cs tokens) : HasTokens (front ++ gap ++ cs) (tokensBefore ++ tokens) := by
  obtain ⟨d, gap, rfl⟩ := List.exists_cons_of_ne_nil hne
  obtain ⟨hd, hgap⟩ := List.forall_mem_cons.mp hgap
  rw [List.append_assoc, List.cons_append]
  exact hfront.append_cons hd (h.delimiters_append hgap)

/-- Delimiters behind change nothing. -/
theorem append_delimiters (h : HasTokens cs tokens) (hgap : Delimiters gap) :
    HasTokens (cs ++ gap) tokens := by
  by_cases hne : gap = []
  · rw [hne, List.append_nil]
    exact h
  · have hall := h.append_delimiters_append hne hgap .nil
    rwa [List.append_nil, List.append_nil] at hall

theorem of_joined (h : Joined tokens cs) (htokens : ∀ token ∈ tokens, IsToken token) :
    HasTokens cs tokens := by
  induction h with
  | nil => exact .nil
  | single token => exact .single (htokens token List.mem_cons_self)
  | cons hne hgap _ ih =>
    obtain ⟨htoken, htokens⟩ := List.forall_mem_cons.mp htokens
    exact (single htoken).append_delimiters_append hne hgap (ih htokens)

theorem of_spread (h : Spread tokens cs) (htokens : ∀ token ∈ tokens, IsToken token) :
    HasTokens cs tokens := by
  obtain ⟨hfront, hbody, hback⟩ := h
  exact ((of_joined hbody htokens).delimiters_append hfront).append_delimiters hback

/-- A comment begins behind the delimiters that separate it, and not before. -/
theorem beforeComment_eq (h : HasTokens cs tokens) (hne : gap ≠ []) (hgap : Delimiters gap)
    {comment : List Char} (hcomment : BeginsComment comment) :
    beforeComment (cs ++ gap ++ comment) = cs ++ gap := by
  refine beforeComment_append (h.append_delimiters hgap).commentFree (.inr ?_)
  refine hcomment.imp ?_ ?_
  · rintro ⟨rest, rfl⟩
    exact ⟨rest, rfl⟩
  · rintro ⟨rest, rfl⟩
    refine ⟨⟨rest, rfl⟩, fun hlast => ?_⟩
    rw [List.getLast?_append_of_ne_nil cs hne] at hlast
    cases hgap '/' (List.mem_of_getLast? hlast)

end HasTokens

/-- **Tokens are read back** from every text in which they are set down. -/
theorem tokenize_of_renders {tokens : List String} {text : String}
    (h : Renders tokens text.toList) (htokens : ∀ token ∈ tokens, IsToken token) :
    tokenize text = tokens := by
  refine HasTokens.tokenize_eq_of_beforeComment ?_
  generalize text.toList = cs at h
  cases h with
  | bare hspread =>
    have hall := HasTokens.of_spread hspread htokens
    rwa [hall.commentFree.beforeComment_eq]
  | commented hspread hne hgap hcomment =>
    have hall := HasTokens.of_spread hspread htokens
    rw [hall.beforeComment_eq hne hgap hcomment]
    exact hall.append_delimiters hgap

/-- **The tokens of a line are the maximal runs before its comment, and any rendering of them has
the same tokens.** None of them is empty or has a delimiter or a comment marker in it. -/
theorem tokenize_maximalRuns (line : String) :
    (∃ code places, IsCode line.toList code ∧ ListsRuns code places ∧
      tokenize line = places.map fun place => String.ofList place.2) ∧
    (∀ token ∈ tokenize line, IsToken token) ∧
    ∀ text : String, Renders (tokenize line) text.toList → tokenize text = tokenize line := by
  refine ⟨?_, fun token htoken => isToken_of_mem_tokenize htoken, fun text htext => ?_⟩
  · obtain ⟨places, hplaces, hruns⟩ := (hasRuns_runs (beforeComment line.toList)).exists_listsRuns
    refine ⟨_, places, isCode_beforeComment _, hplaces, ?_⟩
    rw [tokenize, hruns, List.map_map]
    rfl
  · exact tokenize_of_renders htext fun token htoken => isToken_of_mem_tokenize htoken

/-- A single slash belongs to its token, also when the tokens are set down anew. -/
theorem tokenize_maximalRuns_slash :
    tokenize "sw a/b,4(sp) // c # d" = ["sw", "a/b", "4", "sp"] ∧
      Renders ["sw", "a/b", "4", "sp"] "(sw a/b\t4,(sp)) #//".toList ∧
      tokenize "(sw a/b\t4,(sp)) #//" = tokenize "sw a/b,4(sp) // c # d" := by
  have htokens : tokenize "sw a/b,4(sp) // c # d" = ["sw", "a/b", "4", "sp"] := by decide
  have hbody : Joined ["sw", "a/b", "4", "sp"] ("sw".toList ++ [' '] ++ ("a/b".toList ++ ['\t'] ++
      ("4".toList ++ [',', '('] ++ "sp".toList))) :=
    .cons (by decide) (by decide) <| .cons (by decide) (by decide) <|
      .cons (by decide) (by decide) <| .single "sp"
  have hrenders : Renders ["sw", "a/b", "4", "sp"]
      (['('] ++ _ ++ [')', ')'] ++ [' '] ++ ['#', '/', '/']) :=
    .commented (.around (by decide) hbody (by decide)) (by decide) (by decide) (.inl ⟨_, rfl⟩)
  exact ⟨htokens, hrenders, (tokenize_maximalRuns _).2.2 _ (htokens ▸ hrenders)⟩

end RiscvAssembler
