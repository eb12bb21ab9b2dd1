import Mathlib.Data.List.Sort
import Mathlib.Algebra.Order.BigOperators.Group.List
import Mathlib.Algebra.GroupWithZero.Nat
import Mathlib.Algebra.Order.Group.Nat
import Mathlib.Order.Interval.Finset.Nat
import Std.Data.TreeMap.Lemmas
/-!
# Maps from positions

An ordered map on naturals whose entries agree with a list lists a sublist
of it (`toList_sublist_numbered`), so its total weight is at most the
list's and reaches it only where nothing is missing
(`toList_eq_numbered_of_weight`). The scan for the first missing key is
bounded by the number of keys (`size_le_of_forall_mem`), and the keys
missing below the highest are its `gaps`.
-/

namespace Xacpp

variable {β : Type*}

variable {m : Std.TreeMap ℕ β} {l : List β} {i : ℕ} {x : β}

/-- A list with its positions. -/
def numbered (l : List β) : List (ℕ × β) := l.mapIdx Prod.mk

theorem mem_numbered : (i, x) ∈ numbered l ↔ l[i]? = some x := by
  rw [numbered, List.mem_mapIdx]
  constructor
  · rintro ⟨j, hj, heq⟩
    simp only [Prod.mk.injEq] at heq
    obtain ⟨rfl, rfl⟩ := heq
    exact List.getElem?_eq_getElem hj
  · intro h
    obtain ⟨hi, hx⟩ := List.getElem?_eq_some_iff.1 h
    exact ⟨i, hi, by rw [hx]⟩

theorem map_snd_numbered (l : List β) : (numbered l).map Prod.snd = l := by
  refine List.ext_getElem? fun i => ?_
  rw [numbered, List.getElem?_map, List.getElem?_mapIdx]
  cases l[i]? <;> rfl

theorem numbered_pairwise (l : List β) : (numbered l).Pairwise fun a b => a.1 < b.1 := by
  rw [List.pairwise_iff_getElem]
  intro i j hi hj hij
  simp only [numbered, List.getElem_mapIdx]
  exact hij

/-- Every entry of the map is the list's at that position. -/
def Agrees (m : Std.TreeMap ℕ β) (l : List β) : Prop :=
  ∀ (i : ℕ) (x : β), m[i]? = some x → l[i]? = some x

theorem agrees_empty (l : List β) : Agrees (∅ : Std.TreeMap ℕ β) l := by
  intro i x h
  rw [Std.TreeMap.getElem?_emptyc] at h
  cases h

theorem Agrees.append (h : Agrees m l) (l' : List β) : Agrees m (l ++ l') := by
  intro i x hx
  have hl := h i x hx
  rw [List.getElem?_append_left (List.getElem?_eq_some_iff.1 hl).1, hl]

theorem Agrees.insert (h : Agrees m l) (hx : l[i]? = some x) : Agrees (m.insert i x) l := by
  intro j y hy
  rw [Std.TreeMap.getElem?_insert] at hy
  split at hy
  · next hij =>
    rw [← Nat.compare_eq_eq.1 hij, hx, hy]
  · exact h j y hy

/-- **A map that agrees with a list lists a sublist of it**, both being in
position order. -/
theorem toList_sublist_numbered (h : Agrees m l) : m.toList.Sublist (numbered l) := by
  have hord : m.toList.Pairwise fun a b => a.1 < b.1 :=
    m.ordered_keys_toList.imp fun hab => Nat.compare_eq_lt.1 hab
  have : Std.Antisymm fun a b : ℕ × β => a.1 < b.1 :=
    ⟨fun a b hab hba => absurd (Nat.lt_trans hab hba) (Nat.lt_irrefl _)⟩
  have hnodup : m.toList.Nodup := hord.imp fun hab heq => by
    rw [heq] at hab
    exact Nat.lt_irrefl _ hab
  refine List.sublist_of_subperm_of_pairwise (hnodup.subperm fun e he => ?_) hord
    (numbered_pairwise l)
  obtain ⟨i, x⟩ := e
  exact mem_numbered.2 (h i x (Std.TreeMap.mem_toList_iff_getElem?_eq_some.1 he))

/-- A sublist that weighs as much as the whole, every element weighing
something, is the whole. -/
theorem eq_of_sublist_of_sum_eq {l₁ l₂ : List β} {w : β → ℕ} (hsub : l₁.Sublist l₂)
    (hpos : ∀ x ∈ l₂, 0 < w x) (hsum : (l₁.map w).sum = (l₂.map w).sum) : l₁ = l₂ := by
  induction hsub with
  | slnil => rfl
  | @cons l₁ l₂ a hsub ih =>
    have hle := List.Sublist.sum_le_sum (hsub.map w) fun _ _ => Nat.zero_le _
    have ha := hpos a (List.mem_cons_self ..)
    rw [List.map_cons, List.sum_cons] at hsum
    omega
  | @cons_cons l₁ l₂ a hsub ih =>
    rw [List.map_cons, List.sum_cons, List.map_cons, List.sum_cons] at hsum
    rw [ih (fun x hx => hpos x (List.mem_cons_of_mem _ hx)) (by omega)]

/-- The same for maps: where the weights agree, nothing is missing. -/
theorem toList_eq_numbered_of_weight {w : β → ℕ} (h : Agrees m l) (hpos : ∀ x ∈ l, 0 < w x)
    (hsum : (m.toList.map fun e => w e.2).sum = (l.map w).sum) : m.toList = numbered l := by
  refine eq_of_sublist_of_sum_eq (w := fun e => w e.2) (toList_sublist_numbered h) ?_ ?_
  · rintro ⟨i, x⟩ hmem
    exact hpos x (List.mem_of_getElem? (mem_numbered.1 hmem))
  · rw [hsum]
    conv_lhs => rw [← map_snd_numbered l]
    rw [List.map_map]
    rfl

/-- The weight of a map that agrees with a list is at most the list's. -/
theorem weight_le_of_agrees {w : β → ℕ} (h : Agrees m l) :
    (m.toList.map fun e => w e.2).sum ≤ (l.map w).sum := by
  have hle := List.Sublist.sum_le_sum ((toList_sublist_numbered h).map fun e => w e.2)
    fun _ _ => Nat.zero_le _
  refine hle.trans (le_of_eq ?_)
  conv_rhs => rw [← map_snd_numbered l]
  rw [List.map_map]
  rfl

/-- A map holding every key of an interval has at least as many entries. -/
theorem size_le_of_forall_mem {a b : ℕ} (h : ∀ i, a ≤ i → i < b → i ∈ m) : b - a ≤ m.size := by
  have hsub : Finset.Ico a b ⊆ m.keys.toFinset := by
    intro i hi
    rw [Finset.mem_Ico] at hi
    rw [List.mem_toFinset, Std.TreeMap.mem_keys]
    exact h i hi.1 hi.2
  have hcard := (Finset.card_le_card hsub).trans m.keys.toFinset_card_le
  rwa [Nat.card_Ico, Std.TreeMap.length_keys] at hcard

/-- A map that agrees with a list and has all its positions lists it. -/
theorem toList_eq_numbered_of_forall_mem (h : Agrees m l)
    (hall : ∀ i < l.length, i ∈ m) : m.toList = numbered l := by
  refine (toList_sublist_numbered h).eq_of_length_le ?_
  have hsize := size_le_of_forall_mem (a := 0) fun i _ hi => hall i hi
  rw [Std.TreeMap.length_toList, numbered, List.length_mapIdx]
  omega

theorem size_le_of_agrees (h : Agrees m l) : m.size ≤ l.length := by
  have hle := (toList_sublist_numbered h).length_le
  rwa [Std.TreeMap.length_toList, numbered, List.length_mapIdx] at hle

theorem mem_of_toList_eq_numbered (h : m.toList = numbered l) (hi : i < l.length) : i ∈ m := by
  have hmem : (i, l[i]) ∈ m.toList := by
    rw [h]
    exact mem_numbered.2 (List.getElem?_eq_getElem hi)
  rw [Std.TreeMap.mem_iff_isSome_getElem?, Std.TreeMap.mem_toList_iff_getElem?_eq_some.1 hmem]
  rfl

/-- As many entries as positions: every position is there. -/
theorem mem_of_size_eq (h : Agrees m l)
    (hsize : m.size = l.length) (hi : i < l.length) : i ∈ m := by
  refine mem_of_toList_eq_numbered ((toList_sublist_numbered h).eq_of_length ?_) hi
  rw [Std.TreeMap.length_toList, numbered, List.length_mapIdx, hsize]

/-- A new key is listed once, beside the rest. -/
theorem toList_insert_perm_cons (hnew : i ∉ m) :
    (m.insert i x).toList.Perm ((i, x) :: m.toList) := by
  have hfilter : m.toList.filter (fun e => decide ¬(i == e.1) = true) = m.toList := by
    refine List.filter_eq_self.2 fun e he => ?_
    have hmem : e.1 ∈ m := by
      rw [Std.TreeMap.mem_iff_isSome_getElem?,
        Std.TreeMap.mem_toList_iff_getElem?_eq_some.1 he]
      rfl
    have hne : i ≠ e.1 := fun heq => hnew (heq ▸ hmem)
    simpa using hne
  have hperm := Std.TreeMap.toList_insert_perm (t := m) (k := i) (v := x)
  rw [hfilter] at hperm
  exact hperm

/-- The weight of a map with one more key. -/
theorem weight_insert {w : β → ℕ} (hnew : i ∉ m) :
    ((m.insert i x).toList.map fun e => w e.2).sum = (m.toList.map fun e => w e.2).sum + w x := by
  have hperm := (toList_insert_perm_cons (x := x) hnew).map fun e => w e.2
  rw [hperm.sum_eq, List.map_cons, List.sum_cons, Nat.add_comm]

/-- A new key leaves the others in their order. -/
theorem toList_sublist_insert (hnew : i ∉ m) : m.toList.Sublist (m.insert i x).toList := by
  have hord : ∀ m : Std.TreeMap ℕ β, m.toList.Pairwise fun a b => a.1 < b.1 := fun m =>
    m.ordered_keys_toList.imp fun hab => Nat.compare_eq_lt.1 hab
  have : Std.Antisymm fun a b : ℕ × β => a.1 < b.1 :=
    ⟨fun a b hab hba => absurd (Nat.lt_trans hab hba) (Nat.lt_irrefl _)⟩
  refine List.sublist_of_subperm_of_pairwise ?_ (hord m) (hord _)
  exact ((List.sublist_cons_self (i, x) m.toList).subperm).trans
    (toList_insert_perm_cons hnew).symm.subperm

/-! ## Gaps -/

/-- The keys below the highest that are not there, ascending. -/
def gaps (m : Std.TreeMap ℕ β) : List ℕ :=
  (List.range (m.keys.foldr max 0)).filter fun i => !m.contains i

theorem lt_foldr_max {l : List ℕ} : i < l.foldr max 0 ↔ ∃ j ∈ l, i < j := by
  induction l with
  | nil => simp
  | cons a l ih => simp [List.foldr_cons, ih]

theorem mem_gaps : i ∈ gaps m ↔ i ∉ m ∧ ∃ j ∈ m, i < j := by
  rw [gaps, List.mem_filter, List.mem_range, lt_foldr_max]
  simp only [Std.TreeMap.mem_keys, Bool.not_eq_true', Bool.eq_false_iff, ne_eq,
    Std.TreeMap.contains_iff_mem]
  exact and_comm

end Xacpp
