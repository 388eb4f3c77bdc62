/-!
# Dictionaries

A dictionary is a list of pairs with distinct keys, in the order in which the keys first came. A
later value for a known key replaces the earlier one in place; `List.lookup` finds it.
-/

namespace RiscvAssembler.Dictionary

variable {α β : Type} [BEq α]

/-- Puts `value` under `key`, at the end if the key is new. -/
def insert (key : α) (value : β) : List (α × β) → List (α × β)
  | [] => [(key, value)]
  | (k, v) :: rest => if k == key then (k, value) :: rest else (k, v) :: insert key value rest

/-- Puts the pairs in one after the other. -/
def ofList (pairs : List (α × β)) : List (α × β) :=
  pairs.foldl (fun d p => insert p.1 p.2 d) []

/-- The key is in the dictionary. -/
def contains (key : α) (d : List (α × β)) : Bool :=
  (d.lookup key).isSome

@[simp] theorem lookup_insert_self [LawfulBEq α] (key : α) (value : β) (d : List (α × β)) :
    (insert key value d).lookup key = some value := by
  induction d with
  | nil => simp [insert]
  | cons p d ih =>
    obtain ⟨k, v⟩ := p
    by_cases h : k = key
    · simp [insert, h]
    · have hk : (key == k) = false := beq_false_of_ne (Ne.symm h)
      simp [insert, h, hk, List.lookup_cons, ih]

theorem lookup_insert_of_ne [LawfulBEq α] {key other : α} (h : other ≠ key) (value : β)
    (d : List (α × β)) : (insert key value d).lookup other = d.lookup other := by
  have ho : (other == key) = false := beq_false_of_ne h
  induction d with
  | nil => simp [insert, List.lookup_cons, ho]
  | cons p d ih =>
    obtain ⟨k, v⟩ := p
    by_cases hk : k = key
    · simp [insert, hk, List.lookup_cons, ho]
    · simp [insert, hk, List.lookup_cons, ih]

/-- Every value of a dictionary was put in. -/
theorem exists_mem_of_mem_insert {key : α} {value : β} {d : List (α × β)} {p : α × β}
    (h : p ∈ insert key value d) : p.2 = value ∨ p ∈ d := by
  induction d with
  | nil => simp_all [insert]
  | cons q d ih =>
    unfold insert at h
    split at h
    · rcases List.mem_cons.mp h with rfl | h
      · exact Or.inl rfl
      · exact Or.inr (List.mem_cons_of_mem _ h)
    · rcases List.mem_cons.mp h with rfl | h
      · exact Or.inr (List.mem_cons_self ..)
      · exact (ih h).imp_right (List.mem_cons_of_mem _)

private theorem mem_values_foldl {d pairs : List (α × β)} {p : α × β}
    (h : p ∈ pairs.foldl (fun d q => insert q.1 q.2 d) d) :
    p.2 ∈ d.map Prod.snd ∨ p.2 ∈ pairs.map Prod.snd := by
  induction pairs generalizing d with
  | nil => exact Or.inl (List.mem_map_of_mem h)
  | cons q pairs ih =>
    rcases ih h with h | h
    · obtain ⟨r, hr, hv⟩ := List.mem_map.mp h
      rcases exists_mem_of_mem_insert hr with h | h
      · exact Or.inr (by simp [← hv, h])
      · exact Or.inl (by rw [← hv]; exact List.mem_map_of_mem h)
    · exact Or.inr (List.mem_cons_of_mem _ h)

theorem mem_values_of_mem_ofList {pairs : List (α × β)} {p : α × β} (h : p ∈ ofList pairs) :
    p.2 ∈ pairs.map Prod.snd := by
  simpa using mem_values_foldl h

end RiscvAssembler.Dictionary
