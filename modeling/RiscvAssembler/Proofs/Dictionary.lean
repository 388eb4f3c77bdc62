import RiscvAssembler.Dictionary

/-!
# Looking up and membership

A dictionary is a list of pairs, and what is looked up in it is in the list. Putting pairs in keeps
the keys distinct, so that what is in the list is also what is found.

## Main results

* `mem_of_lookup`, `lookup_of_mem`: what is found under a key, and what stands there.
* `nodup_ofList`, `mem_keys_of_mem_ofList`: the keys of a dictionary.
* `ofList_eq_self`: pairs with distinct keys.
-/

namespace RiscvAssembler.Dictionary

variable {α β : Type} [BEq α] [LawfulBEq α] {key : α} {d : List (α × β)}

theorem contains_iff : contains key d = true ↔ key ∈ d.map Prod.fst := by
  rw [contains, List.lookup_isSome_iff, List.mem_map]
  constructor
  · rintro ⟨p, hp, hkey⟩
    exact ⟨p, hp, (eq_of_beq hkey).symm⟩
  · rintro ⟨p, hp, rfl⟩
    exact ⟨p, hp, beq_self_eq_true _⟩

/-- What is found under a key stands there. -/
theorem mem_of_lookup {value : β} (h : d.lookup key = some value) : (key, value) ∈ d := by
  obtain ⟨front, rest, rfl, -⟩ := List.lookup_eq_some_iff.mp h
  exact List.mem_append_right _ List.mem_cons_self

/-- What stands under a key is found, if the keys are distinct. -/
theorem lookup_of_mem {value : β} (hd : (d.map Prod.fst).Nodup) (h : (key, value) ∈ d) :
    d.lookup key = some value := by
  obtain ⟨front, rest, rfl⟩ := List.append_of_mem h
  rw [List.map_append, List.map_cons, List.nodup_append] at hd
  refine List.lookup_eq_some_iff.mpr ⟨front, rest, rfl, fun p hp => ?_⟩
  have hne := hd.2.2 p.1 (List.mem_map_of_mem hp) key List.mem_cons_self
  exact bne_iff_ne.mpr hne.symm

/-! ### Keys -/

/-- A key that is put in stands at its old place or at the end. -/
theorem map_fst_insert (key : α) (value : β) (d : List (α × β)) :
    (insert key value d).map Prod.fst =
      if contains key d then d.map Prod.fst else d.map Prod.fst ++ [key] := by
  induction d with
  | nil => rfl
  | cons p d ih =>
    obtain ⟨k, v⟩ := p
    by_cases hk : k = key
    · simp [insert, contains, hk]
    · have hkey : (key == k) = false := beq_false_of_ne (Ne.symm hk)
      rw [contains] at ih ⊢
      rw [List.lookup_cons, hkey]
      simp only [insert, beq_iff_eq, hk, if_false, List.map_cons, ih]
      split <;> rfl

/-- The keys are those that were there, and the one that is put in. -/
theorem mem_keys_insert {other : α} {value : β} :
    other ∈ (insert key value d).map Prod.fst ↔ other ∈ d.map Prod.fst ∨ other = key := by
  rw [map_fst_insert]
  split
  · rename_i hkey
    rw [contains_iff] at hkey
    exact ⟨.inl, fun h => h.elim id fun heq => heq ▸ hkey⟩
  · rw [List.mem_append, List.mem_singleton]

/-- A new key is put at the end. -/
theorem insert_of_notMem (hkey : key ∉ d.map Prod.fst) (value : β) :
    insert key value d = d ++ [(key, value)] := by
  induction d with
  | nil => rfl
  | cons p d ih =>
    obtain ⟨k, v⟩ := p
    rw [List.map_cons, List.mem_cons, not_or] at hkey
    simp [insert, Ne.symm hkey.1, ih hkey.2]

theorem nodup_insert (hd : (d.map Prod.fst).Nodup) (key : α) (value : β) :
    ((insert key value d).map Prod.fst).Nodup := by
  rw [map_fst_insert]
  split
  · exact hd
  · rename_i hnew
    rw [contains_iff] at hnew
    refine List.nodup_append.mpr ⟨hd, List.pairwise_singleton _ _, fun k hk other hother => ?_⟩
    rw [List.mem_singleton.mp hother]
    rintro rfl
    exact hnew hk

private theorem nodup_foldl (pairs : List (α × β)) (hd : (d.map Prod.fst).Nodup) :
    ((pairs.foldl (fun d p => insert p.1 p.2 d) d).map Prod.fst).Nodup := by
  induction pairs generalizing d with
  | nil => exact hd
  | cons p pairs ih => exact ih (nodup_insert hd p.1 p.2)

/-- **The keys of a dictionary are distinct**, whatever pairs were put in. -/
theorem nodup_ofList (pairs : List (α × β)) : ((ofList pairs).map Prod.fst).Nodup :=
  nodup_foldl pairs List.nodup_nil

private theorem foldl_insert_eq {pairs : List (α × β)} (h : ((d ++ pairs).map Prod.fst).Nodup) :
    pairs.foldl (fun d p => insert p.1 p.2 d) d = d ++ pairs := by
  induction pairs generalizing d with
  | nil => exact (List.append_nil d).symm
  | cons p pairs ih =>
    have hkey : p.1 ∉ d.map Prod.fst := by
      rw [List.map_append, List.nodup_append] at h
      exact fun hmem => h.2.2 _ hmem _ List.mem_cons_self rfl
    rw [List.append_cons] at h ⊢
    rw [List.foldl_cons, insert_of_notMem hkey, ih h]

/-- **Pairs with distinct keys are a dictionary.** -/
theorem ofList_eq_self {pairs : List (α × β)} (h : (pairs.map Prod.fst).Nodup) :
    ofList pairs = pairs :=
  foldl_insert_eq h

private theorem mem_keys_foldl {pairs : List (α × β)}
    (h : key ∈ (pairs.foldl (fun d p => insert p.1 p.2 d) d).map Prod.fst) :
    key ∈ d.map Prod.fst ∨ key ∈ pairs.map Prod.fst := by
  induction pairs generalizing d with
  | nil => exact Or.inl h
  | cons p pairs ih =>
    rcases ih h with h | h
    · rw [map_fst_insert] at h
      split at h
      · exact Or.inl h
      · rcases List.mem_append.mp h with h | h
        · exact Or.inl h
        · exact Or.inr (List.mem_singleton.mp h ▸ List.mem_cons_self)
    · exact Or.inr (List.mem_cons_of_mem _ h)

theorem mem_keys_of_mem_ofList {pairs : List (α × β)} (h : key ∈ (ofList pairs).map Prod.fst) :
    key ∈ pairs.map Prod.fst := by
  simpa using mem_keys_foldl h

end RiscvAssembler.Dictionary
