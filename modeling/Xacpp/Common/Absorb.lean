import Mathlib.Data.List.Dedup
import Mathlib.Data.List.Perm.Basic
/-!
# Absorbing updates

Updates that commute and of which a repetition does nothing: where a list
of them leads depends only on which updates it contains
(`foldl_eq_of_mem_iff`).
-/

namespace Xacpp

variable {σ α : Type*}

/-- Updates may be swapped and repeated. -/
structure Absorbing (f : σ → α → σ) : Prop where
  comm : ∀ s a b, f (f s a) b = f (f s b) a
  idem : ∀ s a, f (f s a) a = f s a

namespace Absorbing

variable {f : σ → α → σ} {l l' : List α}

theorem foldl_perm (h : Absorbing f) (hperm : l.Perm l') (s : σ) : l.foldl f s = l'.foldl f s :=
  haveI : RightCommutative f := ⟨h.comm⟩
  hperm.foldl_eq s

/-- An update that comes again does nothing. -/
theorem foldl_of_mem (h : Absorbing f) {a : α} (ha : a ∈ l) (s : σ) :
    l.foldl f (f s a) = l.foldl f s := by
  obtain ⟨l₁, l₂, rfl⟩ := List.append_of_mem ha
  have hfront : (l₁ ++ a :: l₂).Perm (a :: (l₁ ++ l₂)) := List.perm_middle
  rw [h.foldl_perm hfront, h.foldl_perm hfront, List.foldl_cons, List.foldl_cons, h.idem]

variable [DecidableEq α]

theorem foldl_dedup (h : Absorbing f) (l : List α) (s : σ) : l.dedup.foldl f s = l.foldl f s := by
  induction l generalizing s with
  | nil => rfl
  | cons a l ih =>
    by_cases ha : a ∈ l
    · rw [List.dedup_cons_of_mem ha, ih, List.foldl_cons, h.foldl_of_mem ha]
    · rw [List.dedup_cons_of_notMem ha, List.foldl_cons, ih, List.foldl_cons]

/-- **Only the set of updates matters.** -/
theorem foldl_eq_of_mem_iff (h : Absorbing f) (hmem : ∀ a, a ∈ l ↔ a ∈ l') (s : σ) :
    l.foldl f s = l'.foldl f s := by
  have hperm : l.dedup.Perm l'.dedup :=
    (List.perm_ext_iff_of_nodup l.nodup_dedup l'.nodup_dedup).2 fun a => by
      rw [List.mem_dedup, List.mem_dedup, hmem]
  rw [← h.foldl_dedup l, h.foldl_perm hperm, h.foldl_dedup]

end Absorbing

end Xacpp
