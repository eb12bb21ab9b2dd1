import Mathlib.Algebra.GroupWithZero.Nat
import Mathlib.Data.List.AList
/-!
# Tables

A finite map with no duplicate keys, read through `get?`. It is Mathlib's
association list at a constant family, with the operations a hash table
has: `insert`, `erase`, an in-place pass over the values (`mapValues`) and
the listing of its entries. The listing order is the list's own, which
stands for the unspecified order a hash table iterates in.
-/

namespace Xacpp

/-- A finite map from `K` to `V`. -/
abbrev Table (K V : Type*) := AList fun _ : K => V

namespace Table

variable {K V W : Type*} [DecidableEq K]

variable {t : Table K V} {k : K} {v : V}

/-- The value stored under a key. -/
def get? (t : Table K V) (k : K) : Option V := t.lookup k

/-- Whether a key is stored. -/
def contains (t : Table K V) (k : K) : Bool := (t.get? k).isSome

/-- Store a value, replacing the one under the same key. -/
def insert (t : Table K V) (k : K) (v : V) : Table K V := AList.insert k v t

/-- Remove a key. -/
def erase (t : Table K V) (k : K) : Table K V := AList.erase k t

omit [DecidableEq K] in
/-- The entries, in the table's own order. -/
def toList (t : Table K V) : List (K × V) := t.entries.map fun e => (e.1, e.2)

omit [DecidableEq K] in
/-- The stored values, in the table's own order. -/
def values (t : Table K V) : List V := t.toList.map Prod.snd

omit [DecidableEq K] in
/-- Rewrite every value in place. -/
def mapValues (t : Table K V) (f : K → V → W) : Table K W where
  entries := t.entries.map fun e => ⟨e.1, f e.1 e.2⟩
  nodupKeys := by
    have h := t.nodupKeys
    unfold List.NodupKeys List.keys at h ⊢
    rw [List.map_map]
    exact h

/-- Rewrite the value under one key, if there is one. -/
def modify (t : Table K V) (k : K) (f : V → V) : Table K V :=
  match t.get? k with
  | none => t
  | some v => t.insert k (f v)

/-! ## Reading back -/

@[simp] theorem get?_empty (k : K) : (∅ : Table K V).get? k = none := AList.lookup_empty k

theorem get?_insert (t : Table K V) (k k' : K) (v : V) :
    (t.insert k v).get? k' = if k' = k then some v else t.get? k' := by
  unfold get? insert
  split
  · next h => subst h; exact AList.lookup_insert t
  · next h => exact AList.lookup_insert_ne h

@[simp] theorem get?_insert_self (t : Table K V) (k : K) (v : V) :
    (t.insert k v).get? k = some v := by
  rw [get?_insert, if_pos rfl]

theorem get?_insert_of_ne (t : Table K V) {k k' : K} (v : V) (h : k' ≠ k) :
    (t.insert k v).get? k' = t.get? k' := by
  rw [get?_insert, if_neg h]

theorem eq_of_get?_insert {t t' : Table K V} {v w : V} (h : t' = t.insert k v)
    (hget : t'.get? k = some w) : w = v := by
  rw [h, get?_insert_self, Option.some.injEq] at hget
  exact hget.symm

theorem of_get?_insert {k k' : K} {v w : V}
    (h : (t.insert k v).get? k' = some w) : k' = k ∧ w = v ∨ k' ≠ k ∧ t.get? k' = some w := by
  rw [get?_insert] at h
  split at h
  · next hk =>
    cases h
    exact .inl ⟨hk, rfl⟩
  · next hk => exact .inr ⟨hk, h⟩

theorem get?_erase (t : Table K V) (k k' : K) :
    (t.erase k).get? k' = if k' = k then none else t.get? k' := by
  unfold get? erase
  split
  · next h => subst h; exact AList.lookup_erase _ t
  · next h => exact AList.lookup_erase_ne h

theorem of_get?_erase {k k' : K} (h : (t.erase k).get? k' = some v) :
    k' ≠ k ∧ t.get? k' = some v := by
  rw [get?_erase] at h
  split at h
  · cases h
  · next hne => exact ⟨hne, h⟩

@[simp] theorem get?_erase_self (t : Table K V) (k : K) : (t.erase k).get? k = none := by
  rw [get?_erase, if_pos rfl]

theorem get?_erase_of_ne (t : Table K V) {k k' : K} (h : k' ≠ k) :
    (t.erase k).get? k' = t.get? k' := by
  rw [get?_erase, if_neg h]

theorem get?_foldl_erase (t : Table K V) (ks : List K) (k : K) :
    (ks.foldl erase t).get? k = if k ∈ ks then none else t.get? k := by
  induction ks generalizing t with
  | nil => simp
  | cons k' rest ih =>
    rw [List.foldl_cons, ih, get?_erase]
    by_cases hrest : k ∈ rest
    · rw [if_pos hrest, if_pos (List.mem_cons_of_mem _ hrest)]
    · rw [if_neg hrest]
      by_cases hk : k = k'
      · rw [if_pos hk, if_pos (List.mem_cons.2 (.inl hk))]
      · rw [if_neg hk, if_neg fun h => (List.mem_cons.1 h).elim hk hrest]

theorem get?_modify (t : Table K V) (k k' : K) (f : V → V) :
    (t.modify k f).get? k' = if k' = k then (t.get? k).map f else t.get? k' := by
  unfold modify
  split
  · next h =>
    split
    · next hk => rw [hk, h]; rfl
    · rfl
  · next v h =>
    rw [get?_insert, h]
    rfl

theorem mem_toList : (k, v) ∈ t.toList ↔ t.get? k = some v := by
  unfold toList get?
  rw [← Option.mem_def, AList.mem_lookup_iff, List.mem_map]
  constructor
  · rintro ⟨⟨k', v'⟩, hmem, heq⟩
    simp only [Prod.mk.injEq] at heq
    obtain ⟨rfl, rfl⟩ := heq
    exact hmem
  · intro h
    exact ⟨⟨k, v⟩, h, rfl⟩

theorem mem_values : v ∈ t.values ↔ ∃ k, t.get? k = some v := by
  rw [values, List.mem_map]
  constructor
  · rintro ⟨⟨k, w⟩, hmem, rfl⟩
    exact ⟨k, mem_toList.1 hmem⟩
  · rintro ⟨k, hget⟩
    exact ⟨(k, v), mem_toList.2 hget, rfl⟩

theorem contains_iff : t.contains k = true ↔ ∃ v, t.get? k = some v :=
  Option.isSome_iff_exists

/-- A key that is not in the table is not one that is. -/
theorem ne_of_fresh {k k' : K} (hget : t.get? k = some v)
    (hfresh : t.contains k' = false) : k ≠ k' := by
  rintro rfl
  rw [contains, hget] at hfresh
  cases hfresh

theorem mem_keys_iff : k ∈ t.keys ↔ ∃ v, t.get? k = some v := by
  rw [← AList.mem_keys, ← AList.lookup_isSome]
  exact Option.isSome_iff_exists

omit [DecidableEq K] in
theorem toList_mapValues (t : Table K V) (f : K → V → W) :
    (t.mapValues f).toList = t.toList.map fun e => (e.1, f e.1 e.2) := by
  rw [toList, mapValues, toList, List.map_map, List.map_map]
  rfl

/-! ## Listing by one key -/

/-- Where a listing is cut at the entry of a key, neither part has the key
again. -/
theorem toList_split (h : t.get? k = some v) :
    ∃ l₁ l₂, t.toList = l₁ ++ (k, v) :: l₂ ∧ ∀ e ∈ l₁ ++ l₂, e.1 ≠ k := by
  obtain ⟨l₁, l₂, hsplit⟩ := List.append_of_mem (mem_toList.2 h)
  have hnodup : (t.toList.map Prod.fst).Nodup := by
    rw [toList, List.map_map]
    exact t.nodupKeys
  rw [hsplit, List.map_append, List.map_cons, List.nodup_middle] at hnodup
  have hkey : k ∉ (l₁ ++ l₂).map Prod.fst := by
    rw [List.map_append]
    exact (List.nodup_cons.1 hnodup).1
  exact ⟨l₁, l₂, hsplit, fun e he heq => hkey (heq ▸ List.mem_map_of_mem he)⟩

/-- **What a listing says of one key** comes from the entry of that key, if
the others have nothing to say of it. -/
theorem filter_flatMap_toList {β : Type*} (t : Table K V) (k : K) {g : K × V → List β}
    {p : β → Bool}
    (hothers : ∀ k' v, t.get? k' = some v → k' ≠ k → ∀ b ∈ g (k', v), ¬ p b = true) :
    (t.toList.flatMap g).filter p = (t.get? k).elim [] fun v => (g (k, v)).filter p := by
  have hnone : ∀ e ∈ t.toList, e.1 ≠ k → (g e).filter p = [] := fun e he hne =>
    List.filter_eq_nil_iff.2 (hothers e.1 e.2 (mem_toList.1 he) hne)
  rw [List.filter_flatMap]
  cases hget : t.get? k with
  | none =>
    refine List.flatMap_eq_nil_iff.2 fun e he => hnone e he fun heq => ?_
    have hmem := mem_toList.1 (show (e.1, e.2) ∈ t.toList from he)
    rw [heq, hget] at hmem
    cases hmem
  | some v =>
    obtain ⟨l₁, l₂, hsplit, hne⟩ := toList_split hget
    have hrest : ∀ l : List (K × V), (∀ e ∈ l, e ∈ l₁ ++ l₂) →
        (l.flatMap fun e => (g e).filter p) = [] := by
      intro l hl
      refine List.flatMap_eq_nil_iff.2 fun e he => hnone e ?_ (hne e (hl e he))
      rw [hsplit, List.mem_append, List.mem_cons]
      exact (List.mem_append.1 (hl e he)).imp_right .inr
    rw [hsplit, List.flatMap_append, List.flatMap_cons,
      hrest l₁ fun e he => List.mem_append_left _ he,
      hrest l₂ fun e he => List.mem_append_right _ he, List.nil_append, List.append_nil]
    rfl

/-! ## Summing over the values -/

section FlatMap

variable {β : Type*} (f : V → List β)

theorem flatMap_values_insert (t : Table K V) (k : K) (v : V) :
    (t.insert k v).values.flatMap f = f v ++ (t.erase k).values.flatMap f := rfl

theorem flatMap_values_perm (t : Table K V) (k : K) :
    (t.values.flatMap f).Perm ((t.get? k).elim [] f ++ (t.erase k).values.flatMap f) := by
  cases hget : t.get? k with
  | none =>
    have hout : k ∉ t.keys := fun hmem => by
      obtain ⟨v, hv⟩ := mem_keys_iff.1 hmem
      rw [hget] at hv
      cases hv
    have hsame : (t.erase k).entries = t.entries := List.kerase_of_notMem_keys hout
    rw [Option.elim_none, List.nil_append, values, toList, values, toList, hsame]
  | some v =>
    obtain ⟨v', l₁, l₂, -, heq, herase⟩ := List.exists_of_kerase (mem_keys_iff.2 ⟨v, hget⟩)
    have hv : v' = v := by
      have hmem : (k, v') ∈ t.toList := by
        rw [toList, heq, List.map_append, List.map_cons]
        exact List.mem_append_right _ List.mem_cons_self
      rw [mem_toList, hget, Option.some.injEq] at hmem
      exact hmem.symm
    subst hv
    have hrest : (t.erase k).entries = l₁ ++ l₂ := herase
    rw [values, toList, heq, values, toList, hrest]
    simp only [List.map_append, List.map_cons, List.flatMap_append, List.flatMap_cons,
      Option.elim_some]
    exact List.perm_append_comm_assoc _ _ _

end FlatMap

section Sum

variable (f : V → ℕ)

theorem sum_values_insert (t : Table K V) (k : K) (v : V) :
    ((t.insert k v).values.map f).sum = f v + ((t.erase k).values.map f).sum := by
  rw [← List.sum_cons]
  rfl

theorem sum_values (t : Table K V) (k : K) :
    (t.values.map f).sum = ((t.get? k).map f).getD 0 + ((t.erase k).values.map f).sum := by
  have hperm := (t.flatMap_values_perm (fun v => [f v]) k).sum_nat
  rw [List.sum_append, ← List.map_eq_flatMap, ← List.map_eq_flatMap] at hperm
  rw [hperm]
  cases t.get? k with
  | none | some v => rfl

/-- Tables that read the same add up to the same. -/
theorem sum_values_congr {t t' : Table K V} (h : ∀ k, t.get? k = t'.get? k) :
    (t.values.map f).sum = (t'.values.map f).sum := by
  have hperm : t.entries.Perm t'.entries :=
    List.lookup_ext t.nodupKeys t'.nodupKeys fun k v => by
      rw [← AList.lookup, ← AList.lookup]
      exact Eq.to_iff (congrArg (v ∈ ·) (h k))
  exact (((hperm.map _).map Prod.snd).map f).sum_nat

end Sum

theorem get?_mapValues (t : Table K V) (f : K → V → W) (k : K) :
    (t.mapValues f).get? k = (t.get? k).map (f k) := by
  have key : ∀ w, (t.mapValues f).get? k = some w ↔ (t.get? k).map (f k) = some w := by
    intro w
    rw [← mem_toList, Option.map_eq_some_iff]
    simp only [toList, mapValues, List.map_map, List.mem_map, Function.comp_apply,
      Prod.mk.injEq]
    constructor
    · rintro ⟨⟨k', v⟩, hmem, rfl, rfl⟩
      exact ⟨v, mem_toList.1 (List.mem_map.2 ⟨⟨k', v⟩, hmem, rfl⟩), rfl⟩
    · rintro ⟨v, hv, rfl⟩
      obtain ⟨⟨k', v'⟩, hmem, heq⟩ := List.mem_map.1 (mem_toList.2 hv)
      simp only [Prod.mk.injEq] at heq
      obtain ⟨rfl, rfl⟩ := heq
      exact ⟨⟨k', v'⟩, hmem, rfl, rfl⟩
  cases h : (t.get? k).map (f k) with
  | some w => exact (key w).2 h
  | none =>
    cases h' : (t.mapValues f).get? k with
    | none => rfl
    | some w => rw [(key w).1 h'] at h; cases h

theorem of_get?_mapValues {f : K → V → W} {w : W}
    (h : (t.mapValues f).get? k = some w) : ∃ v, t.get? k = some v ∧ w = f k v := by
  rw [get?_mapValues] at h
  obtain ⟨v, hget, heq⟩ := Option.map_eq_some_iff.1 h
  exact ⟨v, hget, heq.symm⟩

end Table

end Xacpp
