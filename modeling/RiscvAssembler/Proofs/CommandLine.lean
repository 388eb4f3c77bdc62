import RiscvAssembler.CommandLine.Run
import RiscvAssembler.Proofs.FileTree
import RiscvAssembler.Proofs.Program.Verbosity

/-!
# Runs of the command line program

What may fail in a run is done first: the table and the input are read, the input is assembled, and
the words are written last of all. A step that only reads changes no file, writing changes one or
fails, and what comes after that cannot fail any more. So a run that fails has changed no file, and
as each of these steps prints nothing but the log, it has printed nothing either.

The input is looked for before anything else, and what goes wrong there is not caught. A path that
is too long is the only such case.

## Main definitions

* `Does`, `Reads`: when a step succeeds, with what answers, and what it changes and prints.
* `Runnable`: all that a run needs.
* `Delivers`: what a run leaves behind for its words.
* `AllOrNothing`: a run that delivers if it has what it needs, and does nothing otherwise.

## Main results

* `Does.bind`, `Does.bind_reads`: steps one after the other.
* `does_build`: when all that may fail succeeds.
* `Runnable.delivers`: a run that has all that it needs delivers.
* `allOrNothing_iff`: the program does all or nothing, unless the path of the input is too long.
-/

namespace RiscvAssembler.CommandLine

open Text

/-! ### Steps -/

/-- The step succeeds with the answers and the files that are `good`, and with no others. If it
fails it has changed no file. It prints nothing unless it is loud. -/
def Does {α : Type} (loud : Bool) (files : FileTree) (x : Step α) (good : α → FileTree → Prop) :
    Prop :=
  ∀ printed, ∃ answer after more, x.run.run ⟨files, printed⟩ = (answer, ⟨after, printed ++ more⟩) ∧
    (loud = false → more = []) ∧ (∀ a f, answer = .ok a ∧ after = f ↔ good a f) ∧
    ((∀ a, answer ≠ .ok a) → after = files)

/-- The step changes no file, and succeeds with the answers that are `good`. -/
def Reads {α : Type} (loud : Bool) (files : FileTree) (x : Step α) (good : α → Prop) : Prop :=
  Does loud files x fun a after => good a ∧ after = files

theorem run_bind {α β : Type} {x : Step α} {w w' : World} {answer : Except Trouble α}
    (h : x.run.run w = (answer, w')) (f : α → Step β) :
    (x >>= f).run.run w = (ExceptT.bindCont f answer).run w' := by
  have hbind : (x >>= f).run.run w
      = (ExceptT.bindCont f (x.run.run w).1).run (x.run.run w).2 := rfl
  rw [hbind, h]

namespace Does

variable {α β : Type} {loud : Bool} {files : FileTree} {x : Step α}
  {good good' : α → FileTree → Prop}

theorem congr (h : Does loud files x good) (hgood : ∀ a f, good a f ↔ good' a f) :
    Does loud files x good' := by
  intro printed
  obtain ⟨answer, after, more, hrun, hquiet, hanswer, hfails⟩ := h printed
  exact ⟨answer, after, more, hrun, hquiet, fun a f => (hanswer a f).trans (hgood a f), hfails⟩

/-- One step after another that has changed no file. -/
theorem bind {f : α → Step β} {good : α → Prop} (good' : α → β → FileTree → Prop)
    (hx : Reads loud files x good) (hf : ∀ a, good a → Does loud files (f a) (good' a)) :
    Does loud files (x >>= f) fun b after => ∃ a, good a ∧ good' a b after := by
  intro printed
  obtain ⟨answer, after, more, hrun, hquiet, hanswer, hfails⟩ := hx printed
  cases answer with
  | error trouble =>
    refine ⟨.error trouble, after, more, run_bind hrun f, hquiet, fun b g => ⟨?_, ?_⟩,
      fun _ => hfails nofun⟩
    · rintro ⟨⟨⟩, -⟩
    · rintro ⟨a, ha, -⟩
      cases ((hanswer a files).mpr ⟨ha, rfl⟩).1
  | ok a =>
    obtain ⟨ha, rfl⟩ := (hanswer a after).mp ⟨rfl, rfl⟩
    obtain ⟨answer', after', more', hrun', hquiet', hanswer', hfails'⟩ := hf a ha (printed ++ more)
    refine ⟨answer', after', more ++ more', ?_, fun h => ?_, fun b g => ?_, hfails'⟩
    · rw [run_bind hrun, ← List.append_assoc]
      exact hrun'
    · rw [hquiet h, hquiet' h, List.append_nil]
    · rw [hanswer' b g]
      refine ⟨fun h => ⟨a, ha, h⟩, ?_⟩
      rintro ⟨other, hother, h⟩
      cases ((hanswer other after).mpr ⟨hother, rfl⟩).1
      exact h

/-- What has been done stays done if nothing that comes after can fail. -/
theorem bind_reads {f : α → Step β} {g : α → β} (hx : Does loud files x good)
    (hf : ∀ a after, Reads loud after (f a) fun b => b = g a) :
    Does loud files (x >>= f) fun b after => ∃ a, good a after ∧ b = g a := by
  intro printed
  obtain ⟨answer, after, more, hrun, hquiet, hanswer, hfails⟩ := hx printed
  cases answer with
  | error trouble =>
    refine ⟨.error trouble, after, more, run_bind hrun f, hquiet, fun b h => ⟨?_, ?_⟩,
      fun _ => hfails nofun⟩
    · rintro ⟨⟨⟩, -⟩
    · rintro ⟨a, ha, -⟩
      cases ((hanswer a h).mpr ha).1
  | ok a =>
    obtain ⟨answer', after', more', hrun', hquiet', hanswer', -⟩ := hf a after (printed ++ more)
    obtain ⟨rfl, rfl⟩ := (hanswer' (g a) after).mpr ⟨rfl, rfl⟩
    refine ⟨.ok (g a), after', more ++ more', ?_, fun h => ?_, fun b h => ?_,
      fun hne => absurd rfl (hne (g a))⟩
    · rw [run_bind hrun, ← List.append_assoc]
      exact hrun'
    · rw [hquiet h, hquiet' h, List.append_nil]
    · constructor
      · rintro ⟨hb, rfl⟩
        exact ⟨a, (hanswer a after').mp ⟨rfl, rfl⟩, (Except.ok.inj hb).symm⟩
      · rintro ⟨other, hother, rfl⟩
        obtain ⟨hok, rfl⟩ := (hanswer other h).mpr hother
        rw [Except.ok.inj hok]
        exact ⟨rfl, rfl⟩

/-- A step that only looks whether to go on. -/
theorem guard_bind {y : Step Unit} {f : Unit → Step α} {p : Prop}
    (hy : Reads loud files y fun _ => p) (hf : p → Does loud files (f ()) good) :
    Does loud files (y >>= f) fun a after => p ∧ good a after :=
  (bind (fun _ => good) hy fun _ => hf).congr fun _ _ =>
    ⟨fun ⟨_, h⟩ => h, fun h => ⟨(), h⟩⟩

/-- The files are looked at. -/
theorem get_bind {f : World → Step α} (h : ∀ w, w.files = files → Does loud files (f w) good) :
    Does loud files (get >>= f) good :=
  fun printed => h ⟨files, printed⟩ rfl printed

/-- The files are changed. -/
theorem store (after : FileTree) :
    Does loud files (modify fun w => { w with files := after } : Step Unit) fun _ f => f = after :=
  fun printed => ⟨.ok (), after, [], by rw [List.append_nil]; rfl, fun _ => rfl,
    fun _ _ => ⟨fun h => h.2.symm, fun h => ⟨rfl, h.symm⟩⟩, fun h => absurd rfl (h ())⟩

end Does

namespace Reads

variable {α β : Type} {loud : Bool} {files : FileTree} {x : Step α} {good good' : α → Prop}

theorem congr (h : Reads loud files x good) (hgood : ∀ a, good a ↔ good' a) :
    Reads loud files x good' :=
  Does.congr h fun a _ => and_congr_left' (hgood a)

protected theorem pure (a : α) : Reads loud files (pure a) fun b => b = a := by
  intro printed
  refine ⟨.ok a, files, [], ?_, fun _ => rfl, fun b f => ?_, fun _ => rfl⟩
  · rw [List.append_nil]
    rfl
  · rw [Except.ok.injEq, eq_comm, eq_comm (a := files)]

protected theorem throw (trouble : Trouble) :
    Reads loud files (throw trouble : Step α) fun _ => False := by
  intro printed
  refine ⟨.error trouble, files, [], ?_, fun _ => rfl, fun b f => ?_, fun _ => rfl⟩
  · rw [List.append_nil]
    rfl
  · exact ⟨nofun, fun h => h.1.elim⟩

theorem say {lines : List String} (h : loud = false → lines = []) :
    Reads loud files (say lines) fun u => u = () :=
  fun _ => ⟨.ok (), files, lines, rfl, h, fun _ _ => ⟨fun h => ⟨rfl, h.2.symm⟩,
    fun h => ⟨rfl, h.2.symm⟩⟩, fun _ => rfl⟩

/-- One step after another. -/
theorem bind {f : α → Step β} (good' : α → β → Prop) (hx : Reads loud files x good)
    (hf : ∀ a, good a → Reads loud files (f a) (good' a)) :
    Reads loud files (x >>= f) fun b => ∃ a, good a ∧ good' a b :=
  (Does.bind (fun a b after => good' a b ∧ after = files) hx hf).congr fun _ _ =>
    by simp only [exists_and_right, ← and_assoc]

/-- What is printed first does not count. -/
theorem say_bind {lines : List String} {f : Unit → Step α} (h : loud = false → lines = [])
    (hf : Reads loud files (f ()) good) : Reads loud files (CommandLine.say lines >>= f) good :=
  ((say h).bind (fun _ => good) fun _ _ => hf).congr fun _ => by simp

end Reads

/-! ### Files -/

section

variable (files : FileTree)

/-- The file at the path has the text. A path with a null character in it leads nowhere. -/
def HasText (path text : String) : Prop :=
  '\x00' ∉ path.toList ∧ files.read path = .ok text

/-- A text can be written to the path. -/
def Writable (path : String) : Prop :=
  '\x00' ∉ path.toList ∧ ∀ text, ∃ after, files.write path text = .ok after

/-- The table that the options ask for: none, or the one in a file. -/
def HasTable (o : Options) : Option InstructionTable → Prop
  | none => nonEmpty? o.isa = none
  | some t => ∃ path text, nonEmpty? o.isa = some path ∧ HasText files path text ∧
      InstructionTable.ofText (normalizeNewlines text) = .ok t

end

section

variable {files : FileTree} {loud : Bool}

theorem reads_checkPath (path : String) :
    Reads loud files (checkPath path) fun _ => '\x00' ∉ path.toList := by
  rw [checkPath]
  split
  · rename_i hnull
    exact (Reads.throw _).congr fun _ => by simpa using hnull
  · rename_i hnull
    exact (Reads.pure ()).congr fun _ => by simpa using hnull

/-- A text is read. -/
theorem reads_readText (path : String) :
    Reads loud files (readText path) fun s => ∃ text, HasText files path text ∧
      s = normalizeNewlines text := by
  have hread : Does loud files (readText path) fun s after => '\x00' ∉ path.toList ∧
      (∃ text, files.read path = .ok text ∧ s = normalizeNewlines text) ∧ after = files := by
    refine Does.guard_bind (reads_checkPath path) fun _ => Does.get_bind fun w hw => ?_
    rw [hw]
    split
    · rename_i text htext
      exact (Reads.pure _).congr fun s => by simp [htext]
    · rename_i e he
      exact (Reads.throw _).congr fun s => by simp [he]
  refine hread.congr fun s after => ⟨?_, ?_⟩
  · rintro ⟨hnull, ⟨text, hread, rfl⟩, hafter⟩
    exact ⟨⟨text, ⟨hnull, hread⟩, rfl⟩, hafter⟩
  · rintro ⟨⟨text, ⟨hnull, hread⟩, rfl⟩, hafter⟩
    exact ⟨hnull, ⟨text, hread, rfl⟩, hafter⟩

/-- **A text is written, or nothing is.** -/
theorem does_writeText (path text : String) :
    Does loud files (writeText path text) fun _ after =>
      '\x00' ∉ path.toList ∧ files.write path text = .ok after := by
  refine Does.guard_bind (reads_checkPath path) fun _ => Does.get_bind fun w hw => ?_
  rw [hw]
  split
  · rename_i after hafter
    exact (Does.store after).congr fun _ f => by simp [hafter, eq_comm]
  · rename_i e he
    exact Does.congr (Reads.throw _) fun _ f => by simp [he]

/-- The table is loaded if there is one. -/
theorem reads_loadTable (o : Options) :
    Reads o.verbose files (loadTable o) (HasTable files o) := by
  rw [loadTable]
  split
  · rename_i hisa
    refine (Reads.pure none).congr fun table? => ?_
    cases table? with
    | none => exact ⟨fun _ => hisa, fun _ => rfl⟩
    | some t =>
      refine ⟨nofun, ?_⟩
      rintro ⟨path, -, hpath, -⟩
      rw [hisa] at hpath
      cases hpath
  · rename_i path hpath
    refine (Reads.bind (fun text table? => ∃ t, InstructionTable.ofText text = .ok t ∧
      table? = some t) (reads_readText path) fun text _ => ?_).congr fun table? => ?_
    · split
      · rename_i failure hfailure
        exact (Reads.throw _).congr fun table? => by simp [hfailure]
      · rename_i t ht
        have hreturn : Reads o.verbose files (pure (some t)) fun table? =>
            ∃ t, InstructionTable.ofText text = .ok t ∧ table? = some t :=
          (Reads.pure _).congr fun table? => by simp [ht]
        dsimp only
        split
        · rename_i hverbose
          exact .say_bind (fun hquiet => absurd hverbose (by rw [hquiet]; decide)) hreturn
        · exact hreturn
    · cases table? with
      | none => simp [HasTable, hpath]
      | some t => simp [HasTable, hpath]

/-- The input is assembled. Nothing is printed if the session has no log. -/
theorem reads_assembleInput (s : Session) (path : String) :
    Reads s.verbose files (assembleInput s path) fun s' => ∃ text words,
      HasText files path text ∧ (s.assemble (normalizeNewlines text)).result = .ok words ∧
        s' = (s.assemble (normalizeNewlines text)).session := by
  rw [assembleInput]
  refine .say_bind (fun hquiet => s.printed_of_quiet hquiet (.log _)) ?_
  refine (Reads.bind (fun source s' => ∃ words, (s.assemble source).result = .ok words ∧
    s' = (s.assemble source).session) (reads_readText path) fun source _ => ?_).congr fun s' => ?_
  · refine .say_bind (fun hquiet => Session.printed_of_quiet hquiet (.assemble source)) ?_
    split
    · rename_i words hwords
      exact (Reads.pure _).congr fun s' => by simp [hwords]
    · rename_i failure hfailure
      exact (Reads.throw _).congr fun s' => by simp [hfailure]
  · constructor
    · rintro ⟨_, ⟨text, htext, rfl⟩, words, hwords, hsession⟩
      exact ⟨text, words, htext, hwords, hsession⟩
    · rintro ⟨text, words, htext, hwords, hsession⟩
      exact ⟨_, ⟨text, htext, rfl⟩, words, hwords, hsession⟩

/-- The files afterwards: the words of the session have been written if there is an output. -/
def Leaves (files : FileTree) (o : Options) (s : Session) (after : FileTree) : Prop :=
  match nonEmpty? o.output with
  | none => after = files
  | some path => '\x00' ∉ path.toList ∧ files.write path s.hexFile = .ok after

/-- The words are written if there is an output. The log comes after that. -/
theorem does_writeOutput (o : Options) (s : Session) :
    Does s.verbose files (writeOutput o s) fun _ after => Leaves files o s after := by
  rw [writeOutput]
  split
  · rename_i houtput
    refine Does.congr (Reads.pure ()) fun _ after => ?_
    rw [Leaves, houtput]
    exact and_iff_right rfl
  · rename_i path hpath
    refine ((does_writeText path s.hexFile).bind_reads (g := id) fun _ after =>
      .say fun hquiet => Session.printed_of_quiet hquiet (.log _)).congr fun _ after => ?_
    rw [Leaves, hpath]
    exact ⟨fun ⟨_, h, _⟩ => h, fun h => ⟨(), h, rfl⟩⟩

/-- What may fail has succeeded: the input has been assembled to the session, and its words have
been written if there is an output. -/
def Builds (files : FileTree) (o : Options) (s : Session) (after : FileTree) : Prop :=
  ∃ table? text words, HasTable files o table? ∧ HasText files (normalizePath o.input) text ∧
    ((Session.start table? o.verbose).assemble (normalizeNewlines text)).result = .ok words ∧
    s = ((Session.start table? o.verbose).assemble (normalizeNewlines text)).session ∧
    Leaves files o s after

/-- **All that may fail** succeeds, or changes nothing. -/
theorem does_build (o : Options) : Does o.verbose files (build o) (Builds files o) := by
  refine (Does.bind (fun table? s after => ∃ text words,
    HasText files (normalizePath o.input) text ∧
    ((Session.start table? o.verbose).assemble (normalizeNewlines text)).result = .ok words ∧
    s = ((Session.start table? o.verbose).assemble (normalizeNewlines text)).session ∧
    Leaves files o s after) (reads_loadTable o) fun table? _ => ?_).congr fun s after => ?_
  · refine (Does.bind (fun s s' after => s' = s ∧ Leaves files o s after)
      (reads_assembleInput (Session.start table? o.verbose) _) fun s hs => ?_).congr
        fun s after => ?_
    · have hverbose : s.verbose = o.verbose := by
        obtain ⟨text, words, -, -, hsession⟩ := hs
        rw [hsession]
        exact Session.verbose_assemble _ _
      rw [← hverbose]
      refine ((does_writeOutput o s).bind_reads (g := fun _ => s) fun _ _ => .pure s).congr
        fun s' after => ?_
      exact ⟨fun ⟨_, h, heq⟩ => ⟨heq, h⟩, fun ⟨heq, h⟩ => ⟨(), h, heq⟩⟩
    · constructor
      · rintro ⟨s', ⟨text, words, htext, hwords, hsession⟩, rfl, hleaves⟩
        exact ⟨text, words, htext, hwords, hsession, hleaves⟩
      · rintro ⟨text, words, htext, hwords, hsession, hleaves⟩
        exact ⟨s, ⟨text, words, htext, hwords, hsession⟩, rfl, hleaves⟩
  · constructor
    · rintro ⟨table?, htable, text, words, hrest⟩
      exact ⟨table?, text, words, htable, hrest⟩
    · rintro ⟨table?, text, words, htable, hrest⟩
      exact ⟨table?, htable, text, words, hrest⟩

end

/-! ### Outcomes -/

/-- The path of the input is longer than a path may be, or a part of it is. -/
def InputTooLong (files : FileTree) (o : Options) : Prop :=
  '\x00' ∉ (normalizePath o.input).toList ∧
    files.locate (normalizePath o.input) = .error .nameTooLong

section

variable {files : FileTree} {o : Options}

theorem inputExists_of_hasText {text : String} (h : HasText files (normalizePath o.input) text) :
    inputExists files o = .ok true := by
  obtain ⟨hnull, hread⟩ := h
  rw [inputExists, if_neg (by simpa using hnull), FileTree.pathExists]
  rw [FileTree.read] at hread
  split at hread
  · cases hread
  · rename_i p hp
    rw [hp]
    split at hread
    · rename_i hentry
      simp only [hentry, Option.isSome_some]
    · cases hread
    · cases hread

theorem exists_inputExists_eq_error :
    (∃ e, inputExists files o = .error e) ↔ InputTooLong files o := by
  rw [inputExists, InputTooLong]
  split
  · simp_all
  · rw [FileTree.pathExists]
    split <;> simp_all

/-- **What a run leaves behind** if everything succeeds. -/
theorem runOptions_of_builds {s : Session} {after : FileTree} (h : Builds files o s after) :
    (runOptions files o).ending = .exit 0 ∧ (runOptions files o).files = after ∧
      (o.verbose = false → (runOptions files o).stdout = endLines (summary o s)) := by
  have hbuild : Does o.verbose files (build o) (Builds files o) := does_build o
  obtain ⟨answer, after', more, hrun, hquiet, hanswer, -⟩ := hbuild []
  obtain ⟨rfl, rfl⟩ := (hanswer s after).mpr h
  have hinput : inputExists files o = .ok true := by
    obtain ⟨_, _, _, -, htext, -⟩ := h
    exact inputExists_of_hasText htext
  have hperform : (perform o).run.run ⟨files, []⟩ = (.ok (), ⟨after', more ++ summary o s⟩) :=
    run_bind hrun _
  rw [runOptions, hinput]
  dsimp only
  rw [hperform]
  refine ⟨rfl, rfl, fun hverbose => ?_⟩
  rw [hquiet hverbose]
  rfl

/-- **What a run leaves behind** if something fails. -/
theorem runOptions_of_not_builds (h : ¬ ∃ s after, Builds files o s after) :
    (runOptions files o).files = files ∧
      (o.verbose = false → (runOptions files o).stdout = "") ∧
      (InputTooLong files o → ∃ e, (runOptions files o).ending = .uncaught e) ∧
      (¬ InputTooLong files o → (runOptions files o).ending = .exit 1) := by
  rw [← exists_inputExists_eq_error, runOptions]
  cases hinput : inputExists files o with
  | error e => exact ⟨rfl, fun _ => rfl, fun _ => ⟨e, rfl⟩, fun hnot => absurd ⟨e, rfl⟩ hnot⟩
  | ok found =>
    cases found with
    | false => exact ⟨rfl, fun _ => rfl, nofun, fun _ => rfl⟩
    | true =>
      have hbuild : Does o.verbose files (build o) (Builds files o) := does_build o
      obtain ⟨answer, after, more, hrun, hquiet, hanswer, hfails⟩ := hbuild []
      cases answer with
      | ok s => exact absurd ⟨s, after, (hanswer s after).mp ⟨rfl, rfl⟩⟩ h
      | error trouble =>
        have hperform : (perform o).run.run ⟨files, []⟩ = (.error trouble, ⟨after, more⟩) :=
          run_bind hrun _
        dsimp only
        rw [hperform]
        refine ⟨hfails nofun, fun hverbose => ?_, nofun, fun _ => rfl⟩
        rw [hquiet hverbose]
        rfl

end

/-! ### All or nothing -/

/-- All that a run needs: an input and a table that can be read, a program that is assembled, and a
place for the words. The input is looked for under the shortest path to it. -/
structure Runnable (files : FileTree) (o : Options) (table? : Option InstructionTable)
    (text : String) (words : List Int) : Prop where
  input : HasText files (normalizePath o.input) text
  table : HasTable files o table?
  words : assemble table? (normalizeNewlines text) = .ok words
  output : ∀ path, nonEmpty? o.output = some path → Writable files path

/-- What a run leaves behind for the words: a line for each of them in the output and no other
change, or else no change at all, and the words on the screen if nothing more was asked for. -/
structure Delivers (files : FileTree) (o : Options) (table? : Option InstructionTable)
    (text : String) (words : List Int) (outcome : Outcome) : Prop where
  toFile : ∀ path, nonEmpty? o.output = some path → ∃ rows,
    List.Forall₂ (IsHexLower 8) words rows ∧ files.Wrote path (endLines rows) outcome.files
  toScreen : nonEmpty? o.output = none → outcome.files = files ∧
    (o.listing = false → o.verbose = false → outcome.stdout =
      ((Session.start table? false).assemble (normalizeNewlines text)).session.hexImage ++ "\n")

/-- A run succeeds if it has all that it needs, and then it delivers. Otherwise it ends with exit
code 1, and leaves and prints nothing. -/
structure AllOrNothing (files : FileTree) (o : Options) (outcome : Outcome) : Prop where
  succeeds : outcome.ending = .exit 0 ↔ ∃ table? text words, Runnable files o table? text words
  fails : outcome.ending ≠ .exit 0 → outcome.ending = .exit 1
  all : ∀ table? text words, Runnable files o table? text words →
    Delivers files o table? text words outcome
  nothing : outcome.ending ≠ .exit 0 →
    outcome.files = files ∧ (o.verbose = false → outcome.stdout = "")

section

variable {files : FileTree} {o : Options} {table? : Option InstructionTable} {text : String}
  {words : List Int}

/-- A program is assembled alike with and without a log. -/
theorem assemble_start (table? : Option InstructionTable) (verbose : Bool) (source : String) :
    ((Session.start table? verbose).assemble source).result = assemble table? source :=
  (Session.assemble_setVerbose (Session.start table? false) verbose source).1

theorem forall₂_isHexLower_of_assemble {source : String}
    (h : assemble table? source = .ok words) :
    List.Forall₂ (IsHexLower 8) words (words.map (hexLower 8)) := by
  refine forall₂_isHexLower (by decide) fun w hw => ?_
  obtain ⟨-, hwords⟩ := Session.assemble_eq_ok.mp h
  obtain ⟨p, -, hp⟩ := List.mem_map.mp (hwords ▸ List.mem_map_of_mem hw)
  exact below_of_assembleInstruction hp

/-- If nothing more is asked for, the words are shown. -/
theorem summary_quiet (houtput : nonEmpty? o.output = none) (hlisting : o.listing = false)
    (hverbose : o.verbose = false) (s : Session) : summary o s = [s.hexImage] := by
  rw [summary, houtput, hlisting, hverbose]
  rfl

/-- A run that has all that it needs does all of its work. -/
theorem Runnable.exists_builds (h : Runnable files o table? text words) :
    ∃ after, Builds files o
        ((Session.start table? o.verbose).assemble (normalizeNewlines text)).session after := by
  have hwords := (assemble_start table? o.verbose _).trans h.words
  suffices hleaves : ∃ after, Leaves files o
      ((Session.start table? o.verbose).assemble (normalizeNewlines text)).session after by
    obtain ⟨after, hleaves⟩ := hleaves
    exact ⟨after, table?, text, words, h.table, h.input, hwords, rfl, hleaves⟩
  simp only [Leaves]
  split
  · exact ⟨files, rfl⟩
  · rename_i path hpath
    obtain ⟨hnull, hwrite⟩ := h.output path hpath
    obtain ⟨after, hafter⟩ := hwrite _
    exact ⟨after, hnull, hafter⟩

theorem exists_builds_iff :
    (∃ s after, Builds files o s after) ↔
      ∃ table? text words, Runnable files o table? text words := by
  constructor
  · rintro ⟨s, after, table?, text, words, htable, htext, hwords, -, hleaves⟩
    refine ⟨table?, text, words, htext, htable, (assemble_start _ _ _).symm.trans hwords, ?_⟩
    intro path hpath
    rw [Leaves, hpath] at hleaves
    obtain ⟨hnull, hafter⟩ := hleaves
    exact ⟨hnull, fun other => FileTree.exists_write_eq_ok_iff.mp ⟨after, hafter⟩⟩
  · rintro ⟨table?, text, words, h⟩
    exact ⟨_, h.exists_builds⟩

/-- **A run that has all that it needs** delivers. -/
theorem Runnable.delivers (h : Runnable files o table? text words) :
    Delivers files o table? text words (runOptions files o) := by
  obtain ⟨after, hbuilds⟩ := h.exists_builds
  have hresult := (assemble_start table? o.verbose _).trans h.words
  obtain ⟨-, hwords, -⟩ := Session.holds_of_ok hresult
  obtain ⟨-, hfiles, hstdout⟩ := runOptions_of_builds hbuilds
  obtain ⟨_, _, _, -, -, -, -, hleaves⟩ := hbuilds
  rw [Leaves] at hleaves
  constructor
  · intro path hpath
    rw [hpath] at hleaves
    refine ⟨_, forall₂_isHexLower_of_assemble h.words, ?_⟩
    rw [hfiles]
    have hwrote := FileTree.wrote_of_write hleaves.2
    rwa [Session.hexFile, hwords] at hwrote
  · intro houtput
    rw [houtput] at hleaves
    refine ⟨hfiles.trans hleaves, fun hlisting hverbose => ?_⟩
    rw [hstdout hverbose, summary_quiet houtput hlisting hverbose,
      endLines_eq_append (List.cons_ne_nil _ _), unlines, String.intercalate_singleton, hverbose]

/-- **A run does all or nothing**, unless the path of the input is too long. -/
theorem runOptions_allOrNothing_iff (files : FileTree) (o : Options) :
    AllOrNothing files o (runOptions files o) ↔ ¬ InputTooLong files o := by
  by_cases hbuilds : ∃ s after, Builds files o s after
  · have hrunnable := exists_builds_iff.mp hbuilds
    obtain ⟨s, after, hbuilds⟩ := hbuilds
    have hending := (runOptions_of_builds hbuilds).1
    refine iff_of_true ⟨⟨fun _ => hrunnable, fun _ => hending⟩, fun hnot => absurd hending hnot,
      fun _ _ _ h => h.delivers, fun hnot => absurd hending hnot⟩ fun hlong => ?_
    obtain ⟨_, _, _, htext, -⟩ := hrunnable
    obtain ⟨e, he⟩ := exists_inputExists_eq_error.mpr hlong
    rw [inputExists_of_hasText htext] at he
    cases he
  · obtain ⟨hfiles, hstdout, hlong, hshort⟩ := runOptions_of_not_builds hbuilds
    rw [exists_builds_iff] at hbuilds
    constructor
    · intro hall htooLong
      obtain ⟨e, he⟩ := hlong htooLong
      have hending : (runOptions files o).ending ≠ .exit 0 := by
        rw [he]
        nofun
      rw [hall.fails hending] at he
      cases he
    · intro hnot
      have hending := hshort hnot
      have hne : (runOptions files o).ending ≠ .exit 0 := by
        rw [hending]
        decide
      exact ⟨⟨fun h => absurd h hne, fun h => absurd h hbuilds⟩, fun _ => hending,
        fun table? text words h => absurd ⟨table?, text, words, h⟩ hbuilds,
        fun _ => ⟨hfiles, hstdout⟩⟩

/-- A directory with a program in it. -/
def someFiles : FileTree where
  files := [(["loop.S"], "start: li a0, 0x12345\r\nj start\r\n")]

/-- A name of three hundred letters. -/
def longName : String :=
  String.ofList (List.replicate 300 'a')

theorem toList_longName : longName.toList = List.replicate 300 'a' :=
  String.toList_ofList

theorem parts_longName : FileTree.parts longName = [longName] := by
  have hsplit : (List.replicate 300 'a').splitOn '/' = [List.replicate 300 'a'] := by
    decide +kernel
  rw [FileTree.parts, toList_longName, hsplit]
  rfl

theorem inputExists_longName :
    inputExists {} { input := longName } = .error ⟨.nameTooLong, longName⟩ := by
  have hnormal : normalizePath longName = longName := by
    rw [normalizePath, parts_longName, toList_longName]
    decide +kernel
  have hlocate : FileTree.locate {} longName = .error .nameTooLong := by
    rw [FileTree.locate, parts_longName, FileTree.locateParts, toList_longName]
    decide +kernel
  rw [inputExists]
  dsimp only
  rw [hnormal, toList_longName, if_neg (by decide +kernel), FileTree.pathExists, hlocate]

theorem ofArguments_longName : Options.ofArguments [longName] = .ok { input := longName } := by
  have hstring : Argument.ofString longName = .ok (.text longName) := by
    rw [Argument.ofString, toList_longName]
    rfl
  have hstrings : Argument.ofStrings [longName] = .ok [.text longName] := by
    rw [Argument.ofStrings, hstring]
    decide +kernel
  rw [Options.ofArguments, hstrings]
  rfl

end

end RiscvAssembler.CommandLine
