import RiscvAssembler.Proofs.Answer
import RiscvAssembler.Yaml.Document

/-!
# Keys of mappings

In the value of a document no mapping has two entries under one key. Entries are only ever put into
a mapping by `Value.put`, which keeps the keys apart; so the values that are put together from the
values of scalars have the property from the inside out.

## Main definitions

* `Value.KeysApart`: in every mapping of a value the keys are different.

## Main results

* `Value.keysApart_put`: putting in an entry keeps the keys apart.
* `Value.keysApart_of_ofText`: the value of a text has its keys apart.
-/

namespace RiscvAssembler

namespace Yaml

namespace Value

/-- In every mapping that the value has in it, the keys are different. -/
inductive KeysApart : Value → Prop
  | scalar {v : Value} (h : v.isCollection = false) : KeysApart v
  | seq {items : List Value} (h : ∀ v ∈ items, KeysApart v) : KeysApart (.seq items)
  | map {entries : List (Value × Value)}
    (different : entries.Pairwise fun e e' => sameKey e.1 e'.1 = false)
    (keys : ∀ e ∈ entries, KeysApart e.1) (values : ∀ e ∈ entries, KeysApart e.2) :
    KeysApart (.map entries)

@[simp] theorem keysApart_int (n : Int) : KeysApart (.int n) := .scalar rfl

@[simp] theorem keysApart_str (s : String) : KeysApart (.str s) := .scalar rfl

theorem keysApart_map {entries : List (Value × Value)} :
    KeysApart (.map entries) ↔ (entries.Pairwise fun e e' => sameKey e.1 e'.1 = false) ∧
      (∀ e ∈ entries, KeysApart e.1) ∧ ∀ e ∈ entries, KeysApart e.2 := by
  constructor
  · intro h
    cases h with
    | scalar h => cases h
    | map different keys values => exact ⟨different, keys, values⟩
  · rintro ⟨different, keys, values⟩
    exact .map different keys values

/-! ### Putting in entries -/

section

variable {key value : Value} {entries : List (Value × Value)}

theorem forall_key_put {P : Value → Prop} (hkey : P key) (h : ∀ e ∈ entries, P e.1) :
    ∀ e ∈ put key value entries, P e.1 := by
  induction entries with
  | nil => exact List.forall_mem_singleton.mpr hkey
  | cons first rest ih =>
    obtain ⟨hfirst, hrest⟩ := List.forall_mem_cons.mp h
    rw [put]
    split
    · exact List.forall_mem_cons.mpr ⟨hfirst, hrest⟩
    · exact List.forall_mem_cons.mpr ⟨hfirst, ih hrest⟩

theorem forall_value_put {P : Value → Prop} (hvalue : P value) (h : ∀ e ∈ entries, P e.2) :
    ∀ e ∈ put key value entries, P e.2 := by
  induction entries with
  | nil => exact List.forall_mem_singleton.mpr hvalue
  | cons first rest ih =>
    obtain ⟨hfirst, hrest⟩ := List.forall_mem_cons.mp h
    rw [put]
    split
    · exact List.forall_mem_cons.mpr ⟨hvalue, hrest⟩
    · exact List.forall_mem_cons.mpr ⟨hfirst, ih hrest⟩

/-- A key that is put in was not there before, or it replaces the value in place. -/
theorem pairwise_put (h : entries.Pairwise fun e e' => sameKey e.1 e'.1 = false) :
    (put key value entries).Pairwise fun e e' => sameKey e.1 e'.1 = false := by
  induction entries with
  | nil => exact List.pairwise_singleton _ _
  | cons first rest ih =>
    obtain ⟨hfirst, hrest⟩ := List.pairwise_cons.mp h
    rw [put]
    split
    · exact List.pairwise_cons.mpr ⟨hfirst, hrest⟩
    · rename_i hkey
      have hnew : ∀ e ∈ put key value rest, sameKey first.1 e.1 = false :=
        forall_key_put (P := fun k => sameKey first.1 k = false) (Bool.eq_false_iff.mpr hkey) hfirst
      exact List.pairwise_cons.mpr ⟨hnew, ih hrest⟩

/-- **An entry is put in under a key of its own.** -/
theorem keysApart_put (hentries : KeysApart (.map entries)) (hkey : key.KeysApart)
    (hvalue : value.KeysApart) : KeysApart (.map (put key value entries)) := by
  obtain ⟨hdifferent, hkeys, hvalues⟩ := keysApart_map.mp hentries
  exact .map (pairwise_put hdifferent) (forall_key_put hkey hkeys) (forall_value_put hvalue hvalues)

end

theorem keysApart_emptyMap : KeysApart (.map []) :=
  .map .nil (by simp) (by simp)

theorem keysApart_emptySeq : KeysApart (.seq []) :=
  .seq (by simp)

/-- The entries of a mapping that are put in one after the other. -/
theorem keysApart_foldl_put {α : Type} {key value : α → Value} (hkey : ∀ a, (key a).KeysApart)
    (hvalue : ∀ a, (value a).KeysApart) {l : List α} {entries : List (Value × Value)}
    (h : KeysApart (.map entries)) :
    KeysApart (.map (l.foldl (fun m a => put (key a) (value a) m) entries)) := by
  induction l generalizing entries with
  | nil => exact h
  | cons a l ih => exact ih (keysApart_put h (hkey a) (hvalue a))

end Value

/-! ### Values by number -/

/-- All values have their keys apart. -/
def AllKeysApart (values : Array Value) : Prop :=
  ∀ v ∈ values, v.KeysApart

namespace AllKeysApart

variable {values : Array Value}

theorem getD (h : AllKeysApart values) (id : Nat) : (values.getD id .null).KeysApart := by
  rw [Array.getD_eq_getD_getElem?]
  cases hv : values[id]? with
  | none => exact .scalar rfl
  | some v => exact h v (Array.mem_of_getElem? hv)

theorem setIfInBounds (h : AllKeysApart values) (id : Nat) {v : Value} (hv : v.KeysApart) :
    AllKeysApart (values.setIfInBounds id v) := by
  intro w hw
  rcases Array.mem_or_eq_of_mem_setIfInBounds hw with hw | rfl
  · exact h w hw
  · exact hv

end AllKeysApart

/-! ### Meeting nodes -/

theorem isCollection_of_valueUnder {tag : Tag} {text : String} {v : Value}
    (h : Scalar.valueUnder tag text = .ok v) : v.isCollection = false := by
  cases tag <;> simp only [Scalar.valueUnder, map_eq_ok, Except.ok.injEq, reduceCtorEq] at h
  case null | str =>
    subst h
    rfl
  case bool | int | real | binary | timestamp =>
    obtain ⟨_, -, rfl⟩ := h
    rfl

namespace Meeting

variable {m m' : Meeting}

theorem allKeysApart_start (nodes : Nodes) : AllKeysApart (start nodes).values := by
  intro v hv
  obtain ⟨node, -, rfl⟩ := Array.mem_map.mp hv
  split
  · exact Value.keysApart_emptyMap
  · exact Value.keysApart_emptySeq

theorem keysApart_scalarValue {nodes : Nodes} {id : Nat} {v : Value}
    (h : scalarValue nodes id = .ok v) : v.KeysApart := by
  rw [scalarValue] at h
  obtain ⟨text, -, h⟩ := bind_eq_ok.mp h
  split at h
  · cases h
  · exact .scalar (isCollection_of_valueUnder h)

theorem allKeysApart_meet (hm : AllKeysApart m.values) {id : Nat} (h : m.meet id = .ok m') :
    AllKeysApart m'.values := by
  rw [meet] at h
  split at h
  · cases h
    exact hm
  · dsimp only at h
    split at h
    iterate 3 cases h
    · split at h
      · cases h
        exact hm
      · obtain ⟨v, hv, rfl⟩ := map_eq_ok.mp h
        exact hm.setIfInBounds id (keysApart_scalarValue hv)

/-- What is met step after step has its keys apart if every step keeps them so. -/
theorem allKeysApart_foldlM {α : Type} {f : Meeting → α → Except Problem Meeting}
    {l : List α} (h : l.foldlM f m = .ok m') (hm : AllKeysApart m.values)
    (hstep : ∀ m a m', AllKeysApart m.values → f m a = .ok m' → AllKeysApart m'.values) :
    AllKeysApart m'.values := by
  induction l generalizing m with
  | nil =>
    cases h
    exact hm
  | cons a l ih =>
    rw [List.foldlM_cons] at h
    obtain ⟨m₁, hm₁, h⟩ := bind_eq_ok.mp h
    exact ih h (hstep m a m₁ hm hm₁)

theorem allKeysApart_meetEntry (hm : AllKeysApart m.values) {e : Nat × Nat}
    (h : m.meetEntry e = .ok m') : AllKeysApart m'.values := by
  rw [meetEntry] at h
  obtain ⟨m₁, hkey, h⟩ := bind_eq_ok.mp h
  split at h
  · cases h
  · exact allKeysApart_meet (allKeysApart_meet hm hkey) h

theorem allKeysApart_meetPair (hm : AllKeysApart m.values) {id : Nat}
    (h : m.meetPair id = .ok m') : AllKeysApart m'.values := by
  rw [meetPair] at h
  split at h
  · obtain ⟨m₁, hkey, h⟩ := bind_eq_ok.mp h
    exact allKeysApart_meet (allKeysApart_meet hm hkey) h
  · cases h

theorem allKeysApart_expand (hm : AllKeysApart m.values) {id : Nat} (h : m.expand id = .ok m') :
    AllKeysApart m'.values := by
  rw [expand] at h
  split at h
  iterate 2
    split at h
    · cases h
    · obtain ⟨nodes, -, h⟩ := bind_eq_ok.mp h
      exact allKeysApart_foldlM h hm fun _ _ _ hm h => allKeysApart_meetEntry hm h
  · split at h
    · cases h
    · refine allKeysApart_foldlM h hm fun _ _ _ hm h => ?_
      split at h
      · exact allKeysApart_meet hm h
      · exact allKeysApart_meetPair hm h

theorem allKeysApart_expandAll {fuel : Nat} (hm : AllKeysApart m.values)
    (h : expandAll fuel m = .ok m') : AllKeysApart m'.values := by
  induction fuel generalizing m with
  | zero =>
    cases h
    exact hm
  | succ fuel ih =>
    rw [expandAll] at h
    split at h
    · cases h
      exact hm
    · obtain ⟨m₁, hopened, h⟩ := bind_eq_ok.mp h
      refine ih (allKeysApart_foldlM hopened hm fun _ _ _ hm h => ?_) h
      exact allKeysApart_expand hm h

end Meeting

/-! ### Values of documents -/

theorem keysApart_assemble {values : Array Value} (h : AllKeysApart values) (nodes : Nodes)
    (id : Nat) : (nodes.assemble values id).KeysApart := by
  have hentries : ∀ entries : List (Nat × Nat), Value.KeysApart (.map (entries.foldl
      (fun m e => Value.put (values.getD e.1 .null) (values.getD e.2 .null) m) [])) :=
    fun entries => Value.keysApart_foldl_put (fun e : Nat × Nat => h.getD e.1)
      (fun e => h.getD e.2) Value.keysApart_emptyMap
  rw [Nodes.assemble]
  dsimp only
  split
  · rename_i entries _
    split
    · refine .seq (List.forall_mem_map.mpr fun e he => ?_)
      exact (Value.keysApart_map.mp (hentries entries)).2.1 e he
    · exact hentries entries
  · exact .seq (List.forall_mem_map.mpr fun part _ => h.getD part)
  · refine .seq (List.forall_mem_map.mpr fun item _ => .seq fun v hv => ?_)
    obtain ⟨e, -, he⟩ := List.mem_flatMap.mp hv
    rcases List.mem_cons.mp he with rfl | he
    · exact h.getD e.1
    · exact List.mem_singleton.mp he ▸ h.getD e.2
  · exact .scalar rfl

theorem allKeysApart_assembleAll {values : Array Value} (h : AllKeysApart values) (nodes : Nodes)
    (collections : List Nat) : AllKeysApart (nodes.assembleAll collections values) := by
  induction collections generalizing values with
  | nil => exact h
  | cons id collections ih =>
    rw [Nodes.assembleAll, List.foldl_cons]
    refine ih ?_
    split
    · exact h.setIfInBounds id (keysApart_assemble h nodes id)
    · exact h

theorem Document.keysApart_value {d : Document} {v : Value} (h : d.value = .ok v) :
    v.KeysApart := by
  obtain ⟨m, hm, h⟩ := bind_eq_ok.mp h
  obtain ⟨m₁, hroot, hall⟩ := bind_eq_ok.mp hm
  have hvalues := Meeting.allKeysApart_expandAll
    (Meeting.allKeysApart_meet (Meeting.allKeysApart_start d.nodes) hroot) hall
  cases h
  have hunfolded : ∀ (rounds : List Nat) (values : Array Value), AllKeysApart values →
      AllKeysApart
        (rounds.foldl (fun values _ => m.nodes.assembleAll d.collections values) values) := by
    intro rounds values hvalues
    induction rounds generalizing values with
    | nil => exact hvalues
    | cons round rounds ih => exact ih _ (allKeysApart_assembleAll hvalues m.nodes d.collections)
  exact (hunfolded _ _ hvalues).getD d.root

/-- **The value of a text** has its keys apart. -/
theorem Value.keysApart_of_ofText {text : String} {v : Value} (h : Value.ofText text = .ok v) :
    v.KeysApart := by
  obtain ⟨d?, -, h⟩ := bind_eq_ok.mp h
  cases d? with
  | none =>
    cases h
    exact .scalar rfl
  | some d => exact Document.keysApart_value h

end Yaml

end RiscvAssembler
