import RiscvAssembler.Fault

/-!
# Answers that may be failures

A computation that goes on after another one gives an answer exactly if both do. Proofs about
operations with many tests take them apart by these equivalences, one test after the other.
-/

namespace RiscvAssembler

variable {ε α β : Type}

theorem bind_eq_ok {x : Except ε α} {f : α → Except ε β} {b : β} :
    (x >>= f) = .ok b ↔ ∃ a, x = .ok a ∧ f a = .ok b := by
  cases x <;> simp [bind, Except.bind]

theorem bind_eq_error {x : Except ε α} {f : α → Except ε β} {e : ε} :
    (x >>= f) = .error e ↔ x = .error e ∨ ∃ a, x = .ok a ∧ f a = .error e := by
  cases x <;> simp [bind, Except.bind]

theorem map_eq_ok {x : Except ε α} {f : α → β} {b : β} :
    x.map f = .ok b ↔ ∃ a, x = .ok a ∧ f a = b := by
  cases x <;> simp [Except.map]

theorem map_eq_error {x : Except ε α} {f : α → β} {e : ε} :
    x.map f = .error e ↔ x = .error e := by
  cases x <;> simp [Except.map]

@[simp] theorem pure_eq_ok {a b : α} : (pure a : Except ε α) = .ok b ↔ a = b := by
  simp [pure, Except.pure]

@[simp] theorem liftFault_eq_ok {x : Except Fault α} {a : α} : liftFault x = .ok a ↔ x = .ok a := by
  cases x <;> simp

theorem liftFault_eq_error {x : Except Fault α} {failure : Failure Fault} :
    liftFault x = .error failure ↔ ∃ fault, x = .error fault ∧ failure = .fault fault := by
  cases x <;> simp [eq_comm]

/-- All elements have answers exactly if there is a list of them. -/
theorem exists_map_eq_ok {f : α → Except ε β} {l : List α} :
    (∃ bs : List β, l.map f = bs.map .ok) ↔ ∀ a ∈ l, ∃ b, f a = .ok b := by
  induction l with
  | nil => simp
  | cons a l ih =>
    rw [List.forall_mem_cons, ← ih]
    constructor
    · rintro ⟨bs, h⟩
      obtain ⟨b, bs, rfl, hb, hbs⟩ := List.map_eq_cons_iff.mp h.symm
      exact ⟨⟨b, hb.symm⟩, bs, hbs.symm⟩
    · rintro ⟨⟨b, hb⟩, bs, hbs⟩
      exact ⟨b :: bs, by rw [List.map_cons, List.map_cons, hb, hbs]⟩

/-- The answers of all elements are kept by a computation that keeps each of them. -/
theorem map_eq_ok_of_forall {f g : α → Except ε β} {l : List α} {bs : List β}
    (h : l.map f = bs.map .ok) (hg : ∀ a ∈ l, ∀ b, f a = .ok b → g a = .ok b) :
    l.map g = bs.map .ok := by
  rw [← h]
  refine List.map_congr_left fun a ha => ?_
  obtain ⟨b, hb⟩ := exists_map_eq_ok.mp ⟨bs, h⟩ a ha
  rw [hg a ha b hb, hb]

end RiscvAssembler
