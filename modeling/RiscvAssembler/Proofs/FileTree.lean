import Mathlib.Data.List.Infix
import RiscvAssembler.FileTree
import RiscvAssembler.Proofs.Dictionary

/-!
# Reading what has been written

A path leads from directory to directory, so that there are directories all the way above the place
that it leads to. A file that is put there makes no new ones, and nothing stands anywhere else that
did not stand there before. The path leads to the file afterwards, since no directory on the way has
changed.

## Main definitions

* `FileTree.Grounded`: there are directories all the way above a place.
* `FileTree.Wrote`: a text has been written to a path, and nothing else has changed.

## Main results

* `FileTree.entry?_put_of_ne`: what stands at other places.
* `FileTree.wrote_of_write`: what is written is read, and nothing else has changed.
-/

namespace RiscvAssembler

open Text

namespace FileTree

variable {t : FileTree} {p q : Place} {text : String}

/-! ### Directories -/

theorem isDirectory_eq_true : t.isDirectory p = true ↔
    p.all (· == "..") = true ∨ p ∈ systemDirectories ∨ (∃ d ∈ t.directories, p <+: d) ∨
      ∃ file ∈ t.files.map Prod.fst, p <+: file ∧ p ≠ file := by
  simp only [isDirectory, Bool.or_eq_true, List.contains_iff_mem, List.any_eq_true,
    List.isPrefixOf_iff_prefix, Bool.and_eq_true, bne_iff_ne, or_assoc, List.mem_map,
    exists_exists_and_eq_and]

/-- **What is above a directory** is one. -/
theorem isDirectory_of_isPrefix (hq : t.isDirectory q = true) (h : p <+: q) :
    t.isDirectory p = true := by
  rw [isDirectory_eq_true] at hq ⊢
  rcases hq with hup | hsystem | ⟨d, hd, hqd⟩ | ⟨file, hfile, hqfile, hne⟩
  · exact .inl (List.all_eq_true.mpr fun name hname => List.all_eq_true.mp hup name (h.mem hname))
  · have habove : ∀ q ∈ systemDirectories, ∀ p ∈ q.inits,
        p.all (· == "..") = true ∨ p ∈ systemDirectories := by decide
    exact (habove q hsystem p ((List.mem_inits p q).mpr h)).imp_right .inl
  · exact .inr (.inr (.inl ⟨d, hd, h.trans hqd⟩))
  · refine .inr (.inr (.inr ⟨file, hfile, h.trans hqfile, ?_⟩))
    rintro rfl
    exact hne (hqfile.eq_of_length (Nat.le_antisymm hqfile.length_le h.length_le))

theorem isDirectory_of_eq_directory (h : t.entry? p = some .directory) :
    t.isDirectory p = true := by
  unfold entry? at h
  split at h
  · cases h
  · split at h
    · cases h
    · split at h
      · assumption
      · cases h

/-- There are directories all the way above the place. -/
def Grounded (t : FileTree) (p : Place) : Prop :=
  ∀ q, q <+: p → q ≠ p → t.isDirectory q = true

theorem grounded_of_isDirectory (h : t.isDirectory p = true) : t.Grounded p :=
  fun _ hq _ => isDirectory_of_isPrefix h hq

theorem grounded_append (h : t.isDirectory p = true) (name : String) :
    t.Grounded (p ++ [name]) := by
  intro q hq hne
  refine isDirectory_of_isPrefix h ?_
  rcases List.prefix_concat_iff.mp hq with heq | hq
  · exact absurd heq hne
  · exact hq

/-- A place that is entered from a directory. -/
theorem grounded_enter (h : t.isDirectory p = true) (part : String) :
    t.Grounded (enter p part) := by
  rw [enter]
  split
  · exact grounded_of_isDirectory h
  split
  · rw [parent]
    split
    · exact grounded_of_isDirectory h
    split
    · exact grounded_append h _
    · exact grounded_of_isDirectory (isDirectory_of_isPrefix h (List.dropLast_prefix p))
  · exact grounded_append h _

/-! ### Paths -/

theorem follow_cons_eq_ok {part : String} {rest : List String} :
    t.follow p (part :: rest) = .ok q ↔ t.entry? p = some .directory ∧
      ¬ longestPart < part.utf8ByteSize ∧ t.follow (enter p part) rest = .ok q := by
  rw [follow]
  split
  · simp_all
  · simp_all
  · split <;> simp_all

theorem follow_append_eq_ok {first rest : List String} :
    t.follow p (first ++ rest) = .ok q ↔
      ∃ middle, t.follow p first = .ok middle ∧ t.follow middle rest = .ok q := by
  induction first generalizing p with
  | nil => simp [follow]
  | cons part first ih =>
    simp only [List.cons_append, follow_cons_eq_ok, ih]
    constructor
    · rintro ⟨hentry, hpart, middle, hfirst, hrest⟩
      exact ⟨middle, ⟨hentry, hpart, hfirst⟩, hrest⟩
    · rintro ⟨middle, ⟨hentry, hpart, hfirst⟩, hrest⟩
      exact ⟨hentry, hpart, middle, hfirst, hrest⟩

/-- **The places on a path** have directories above them. -/
theorem grounded_of_follow {parts : List String} (hp : t.Grounded p)
    (h : t.follow p parts = .ok q) : t.Grounded q := by
  induction parts generalizing p with
  | nil =>
    cases h
    exact hp
  | cons part rest ih =>
    obtain ⟨hentry, -, hrest⟩ := follow_cons_eq_ok.mp h
    exact ih (grounded_enter (isDirectory_of_eq_directory hentry) part) hrest

/-- A path leads on as long as its directories are there. -/
theorem follow_mono {t' : FileTree} (hdirectories : ∀ r, t.entry? r = some .directory →
      t'.entry? r = some .directory) {parts : List String} (h : t.follow p parts = .ok q) :
    t'.follow p parts = .ok q := by
  induction parts generalizing p with
  | nil => exact h
  | cons part rest ih =>
    obtain ⟨hentry, hpart, hrest⟩ := follow_cons_eq_ok.mp h
    exact follow_cons_eq_ok.mpr ⟨hdirectories p hentry, hpart, ih hrest⟩

theorem locateParts_eq_ok {path : String} {parts : List String} :
    t.locateParts path parts = .ok p ↔ ¬ path.isEmpty = true ∧
      ¬ longestPath < path.utf8ByteSize ∧
      t.follow (if path.toList.head? == some '/' then ["/"] else []) parts = .ok p := by
  rw [locateParts]
  split
  · simp_all
  split <;> simp_all

theorem grounded_of_locateParts {path : String} {parts : List String}
    (h : t.locateParts path parts = .ok p) : t.Grounded p := by
  refine grounded_of_follow (grounded_of_isDirectory ?_) (locateParts_eq_ok.mp h).2.2
  rw [isDirectory_eq_true]
  split
  · exact .inr (.inl (by decide))
  · exact .inl rfl

theorem locateParts_mono {t' : FileTree} (hdirectories : ∀ r, t.entry? r = some .directory →
      t'.entry? r = some .directory) {path : String} {parts : List String}
    (h : t.locateParts path parts = .ok p) : t'.locateParts path parts = .ok p := by
  obtain ⟨hempty, hlength, hfollow⟩ := locateParts_eq_ok.mp h
  exact locateParts_eq_ok.mpr ⟨hempty, hlength, follow_mono hdirectories hfollow⟩

/-! ### Files -/

theorem entry?_put_self (hp : p ≠ nullDevice) : entry? (t.put p text) p = some (.file text) := by
  unfold entry?
  rw [put, beq_false_of_ne hp]
  simp only [Bool.false_eq_true, if_false, Dictionary.lookup_insert_self]

/-- A file makes no directories if they are there already. -/
theorem isDirectory_put (hp : t.Grounded p) : (t.put p text).isDirectory q = t.isDirectory q := by
  rw [put]
  split
  · rfl
  rw [Bool.eq_iff_iff, isDirectory_eq_true, isDirectory_eq_true]
  dsimp only
  constructor
  · rintro (hup | hsystem | hdirectory | ⟨file, hfile, hqfile, hne⟩)
    · exact .inl hup
    · exact .inr (.inl hsystem)
    · exact .inr (.inr (.inl hdirectory))
    · rcases Dictionary.mem_keys_insert.mp hfile with hfile | rfl
      · exact .inr (.inr (.inr ⟨file, hfile, hqfile, hne⟩))
      · exact isDirectory_eq_true.mp (hp q hqfile hne)
  · refine Or.imp_right (Or.imp_right (Or.imp_right ?_))
    rintro ⟨file, hfile, hqfile, hne⟩
    exact ⟨file, Dictionary.mem_keys_insert.mpr (.inl hfile), hqfile, hne⟩

/-- **Nothing changes at other places.** -/
theorem entry?_put_of_ne (hp : t.Grounded p) (hq : q ≠ p) :
    entry? (t.put p text) q = t.entry? q := by
  have hfiles : (t.put p text).files.lookup q = t.files.lookup q := by
    rw [put]
    split
    · rfl
    · exact Dictionary.lookup_insert_of_ne hq text t.files
  unfold entry?
  rw [hfiles, isDirectory_put hp]

/-! ### Writing and reading -/

/-- The text is in the file at the end of the path, and nothing stands at another place that did not
stand there before. The null device keeps no text. -/
def Wrote (t : FileTree) (path text : String) (t' : FileTree) : Prop :=
  ∃ p, t.locate path = .ok p ∧ (∀ q, q ≠ p → t'.entry? q = t.entry? q) ∧
    if p = nullDevice then t' = t else t'.read path = .ok text

theorem write_eq_ok {path : String} {t' : FileTree} : t.write path text = .ok t' ↔
    ∃ p, t.locateParts path (writeParts path) = .ok p ∧ t.entry? p ≠ some .directory ∧
      t.put p text = t' := by
  rw [write]
  split
  · simp_all
  · split <;> simp_all

/-- A path that leads to a file has no slashes at its end. -/
theorem locate_of_locateParts_writeParts {path : String}
    (h : t.locateParts path (writeParts path) = .ok p) (hp : t.entry? p ≠ some .directory) :
    t.locate path = .ok p := by
  rw [writeParts] at h
  split at h
  · obtain ⟨-, -, hfollow⟩ := locateParts_eq_ok.mp h
    obtain ⟨middle, -, hdot⟩ := follow_append_eq_ok.mp hfollow
    obtain ⟨hentry, -, hrest⟩ := follow_cons_eq_ok.mp hdot
    cases hrest
    exact absurd hentry hp
  · exact h

/-- **What is written is read**, and nothing else has changed. -/
theorem wrote_of_write {path : String} {t' : FileTree} (h : t.write path text = .ok t') :
    t.Wrote path text t' := by
  obtain ⟨p, hp, hentry, rfl⟩ := write_eq_ok.mp h
  have hlocate := locate_of_locateParts_writeParts hp hentry
  have hother : ∀ q, q ≠ p → entry? (t.put p text) q = t.entry? q :=
    fun q hq => entry?_put_of_ne (grounded_of_locateParts hp) hq
  refine ⟨p, hlocate, hother, ?_⟩
  split
  · rename_i hnull
    rw [put, hnull, beq_self_eq_true, if_pos rfl]
  · rename_i hnull
    have hdirectories : ∀ r, t.entry? r = some .directory →
        entry? (t.put p text) r = some .directory := by
      intro r hr
      rw [hother r fun heq => hentry (heq ▸ hr)]
      exact hr
    have hthere : (t.put p text).locate path = .ok p := locateParts_mono hdirectories hlocate
    rw [read, hthere]
    dsimp only
    rw [entry?_put_self hnull]

/-- A text can be written or not, whatever it is. -/
theorem exists_write_eq_ok_iff {path other : String} :
    (∃ t', t.write path text = .ok t') ↔ ∃ t', t.write path other = .ok t' := by
  simp only [write_eq_ok]
  constructor <;> rintro ⟨_, p, hp, hentry, -⟩ <;> exact ⟨_, p, hp, hentry, rfl⟩

end FileTree

end RiscvAssembler
