import RiscvAssembler.Proofs.Program.Concatenation
import RiscvAssembler.Proofs.Program.History
import RiscvAssembler.Proofs.Text.Hexadecimal

/-!
# The words of a session as text

Every word that a session can hold has room in eight digits. So an image has a row of eight digits
for each of them, and a line feed can only be the end of a row. That is all that a reader needs to
get the words back, from the image that is shown and from the file that is written: what has the
same image has the same words, whatever tables and programs it comes from.

## Main definitions

* `Session.Reachable`: the sessions that calls can lead to.
* `IsImage`: images of words, by what stands between their line feeds.
* `readWords?`: the words in the lines of a text.

## Main results

* `Session.Reachable.below`: the words of a session have thirty-two bits.
* `IsImage.readWords?_eq`, `IsImage.readWords?_append`: an image is read back, with a line feed at
  its end or without one.
* `Session.hexImage_determines_words`: the words of a session and its images.
-/

namespace RiscvAssembler

open Text

/-! ### Images and how they are read -/

/-- What stands between the line feeds of a text. -/
def pieces (text : String) : List String :=
  (text.toList.splitOn '\n').map String.ofList

/-- The words in the lines of a text, if these are all numbers in base sixteen. -/
def readWords? (text : String) : Option (List Int) :=
  (lines text).mapM fun row => (digitsValue? 16 row.toList).map fun value => (value : Int)

/-- The image of no words is empty. Else there is a row of eight digits for each of them, and a line
feed between each two. -/
structure IsImage (words : List Int) (image : String) : Prop where
  empty : words = [] → image = ""
  rows : words ≠ [] → List.Forall₂ (IsHexLower 8) words (pieces image)

theorem map_toList_pieces (text : String) :
    (pieces text).map String.toList = text.toList.splitOn '\n' := by
  rw [pieces, List.map_map]
  exact List.map_id'' (fun _ => String.toList_ofList) _

/-- A line feed at the end only ends the last line. -/
theorem lines_append_newline (text : String) : lines (text ++ "\n") = pieces text := by
  have hchars : (text ++ "\n").toList = text.toList ++ '\n' :: [] := String.toList_append
  rw [lines, hchars, linesOf_append_cons]
  exact congrArg (List.map String.ofList) (List.append_nil _)

theorem readWords?_of_lines {words : List Int} {text : String}
    (h : List.Forall₂ (IsHexLower 8) words (lines text)) : readWords? text = some words := by
  rw [readWords?]
  generalize lines text = rows at h
  induction h with
  | nil => rfl
  | cons hrow _ ih =>
    obtain ⟨value, hvalue, rfl⟩ := hrow.value
    rw [List.mapM_cons, hvalue, ih]
    rfl

namespace IsImage

variable {words : List Int} {image : String}

/-- **An image is read back.** -/
theorem readWords?_eq (h : IsImage words image) : readWords? image = some words := by
  by_cases hwords : words = []
  · rw [h.empty hwords, hwords]
    rfl
  · have hrows := h.rows hwords
    have hne : ∀ row ∈ pieces image, row.toList ≠ [] :=
      ((List.forall₂_and_left _ _).mp
        (hrows.flip.imp fun _ _ hrow => ⟨hrow.ne_nil (by decide), hrow⟩)).1
    have hlines := lines_of_splitOn (map_toList_pieces image).symm hne
    exact readWords?_of_lines (hlines ▸ hrows)

/-- An image with a line feed at its end is read back. -/
theorem readWords?_append (h : IsImage words image) (hwords : words ≠ []) :
    readWords? (image ++ "\n") = some words :=
  readWords?_of_lines ((lines_append_newline image).symm ▸ h.rows hwords)

end IsImage

/-- **Words that have room in eight digits** have their image. -/
theorem isImage_unlines {words : List Int} (h : ∀ w ∈ words, 0 ≤ w ∧ w < 2 ^ 32) :
    IsImage words (unlines (words.map (hexLower 8))) where
  empty hwords := by
    rw [hwords]
    rfl
  rows hwords := by
    have hrows : List.Forall₂ (IsHexLower 8) words (words.map (hexLower 8)) :=
      forall₂_isHexLower (by decide) h
    have hnewline : ∀ row ∈ words.map (hexLower 8), '\n' ∉ row.toList := by
      intro row hrow
      obtain ⟨w, hw, rfl⟩ := List.mem_map.mp hrow
      obtain ⟨hlow, hhigh⟩ := h w hw
      exact (isHexLower_hexLower hlow (by decide) hhigh).newline_notMem
    have hpieces : pieces (unlines (words.map (hexLower 8))) = words.map (hexLower 8) := by
      rw [pieces, splitOn_toList_unlines (by simpa using hwords) hnewline, List.map_map]
      exact List.map_id'' (fun _ => String.ofList_toList) _
    rwa [hpieces]

/-! ### Sessions -/

namespace Session

/-- The sessions that calls can lead to, from the start against any table. -/
def Reachable (s : Session) : Prop :=
  ∃ table? verbose calls, s = (start table? verbose).run calls

variable {s : Session}

/-- **Words have thirty-two bits**, whatever the table is and whatever was asked for. -/
theorem Reachable.below (h : s.Reachable) : ∀ w ∈ s.words, 0 ≤ w ∧ w < 2 ^ 32 := by
  obtain ⟨table?, verbose, calls, rfl⟩ := h
  have hstart : (start table? verbose).HoldsFront [] := .of_cleared rfl rfl
  exact (hstart.run calls).consistent.word

theorem Reachable.isImage (h : s.Reachable) : IsImage s.words s.hexImage :=
  isImage_unlines h.below

/-- The file has the image, and a line feed at its end. -/
theorem hexFile_eq (s : Session) :
    s.hexFile = if s.words = [] then "" else s.hexImage ++ "\n" := by
  rw [hexFile, hexImage]
  split
  · rename_i hwords
    rw [hwords]
    rfl
  · rename_i hwords
    exact endLines_eq_append (by simpa using hwords)

theorem Reachable.readWords?_hexFile (h : s.Reachable) : readWords? s.hexFile = some s.words := by
  rw [hexFile_eq]
  split
  · rename_i hwords
    rw [hwords]
    rfl
  · rename_i hwords
    exact h.isImage.readWords?_append hwords

/-- **Either image determines the words**, at any time. The one that is shown has a row of eight
digits for each word, the file that is written a line feed at its end as well; the words are read
back from both, so that sessions with equal images have equal words. -/
theorem hexImage_determines_words (h : s.Reachable) :
    IsImage s.words s.hexImage ∧
      s.hexFile = (if s.words = [] then "" else s.hexImage ++ "\n") ∧
      readWords? s.hexImage = some s.words ∧ readWords? s.hexFile = some s.words ∧
      ∀ s' : Session, s'.Reachable → s'.hexImage = s.hexImage ∨ s'.hexFile = s.hexFile →
        s'.words = s.words := by
  refine ⟨h.isImage, s.hexFile_eq, h.isImage.readWords?_eq, h.readWords?_hexFile, ?_⟩
  rintro s' h' (himage | hfile)
  · have hread := h'.isImage.readWords?_eq
    rw [himage, h.isImage.readWords?_eq] at hread
    exact (Option.some.inj hread).symm
  · have hread := h'.readWords?_hexFile
    rw [hfile, h.readWords?_hexFile] at hread
    exact (Option.some.inj hread).symm

/-- A program that is given up after one word, and the same word by another way. -/
theorem hexImage_determines_words_lui :
    let s := (start (some bareTable) false).run [.assemble "lui a0, 1\nend: add a0, a0, a0"]
    let s' := (start none true).run [.assemble "nop\nfoo", .log "again", .assemble "lui a0, 1"]
    s.Reachable ∧ s'.Reachable ∧ s'.hexImage = s.hexImage ∧ s.hexImage = "00001537" ∧
      s'.words = s.words := by
  intro s s'
  have h : s.Reachable := ⟨_, _, _, rfl⟩
  have h' : s'.Reachable := ⟨_, _, _, rfl⟩
  have himage : s'.hexImage = s.hexImage := by decide +kernel
  have htext : s.hexImage = "00001537" := by decide +kernel
  exact ⟨h, h', himage, htext, (hexImage_determines_words h).2.2.2.2 s' h' (.inl himage)⟩

end Session

end RiscvAssembler
