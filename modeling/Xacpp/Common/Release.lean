import Mathlib.Data.List.ReduceOption
import Mathlib.Data.Nat.Basic
/-!
# Releasing from the front

A list of places of which a front part is given back: `blank n l` has
`none` in the first `n` places. Blanking again blanks up to the larger
bound (`blank_blank`), appending does not disturb it (`blank_append`), and
what is still there is what lies beyond the bound (`reduceOption_blank`).
`releaseUpTo` is the case of a list all of whose places were filled.
-/

namespace Xacpp

variable {α : Type*}

/-- The list with its first `n` places given back. -/
def blank (n : ℕ) (l : List (Option α)) : List (Option α) :=
  l.mapIdx fun i x => if i < n then none else x

@[simp] theorem length_blank (n : ℕ) (l : List (Option α)) : (blank n l).length = l.length :=
  List.length_mapIdx

theorem getElem?_blank (n : ℕ) (l : List (Option α)) (i : ℕ) :
    (blank n l)[i]? = l[i]?.map fun x => if i < n then none else x :=
  List.getElem?_mapIdx

theorem blank_zero (l : List (Option α)) : blank 0 l = l := by
  refine List.ext_getElem? fun i => ?_
  rw [getElem?_blank]
  exact Option.map_id'

theorem blank_append {n : ℕ} {l : List (Option α)} (h : n ≤ l.length) (l' : List (Option α)) :
    blank n (l ++ l') = blank n l ++ l' := by
  rw [blank, List.mapIdx_append, ← blank]
  congr 1
  refine List.ext_getElem? fun i => ?_
  have hi : ¬ i + l.length < n := by omega
  simp only [List.getElem?_mapIdx, hi, if_false, Option.map_id']

/-- **Giving back more.** -/
theorem blank_blank (n k : ℕ) (l : List (Option α)) : blank k (blank n l) = blank (max n k) l := by
  rw [blank, blank, List.mapIdx_mapIdx, blank]
  congr 1
  funext i x
  by_cases hk : i < k
  · have hmax : i < max n k := by omega
    simp only [Function.comp_apply, hk, if_true, hmax]
  · by_cases hn : i < n
    · have hmax : i < max n k := by omega
      simp only [Function.comp_apply, hk, hn, hmax, if_true, if_false]
    · have hmax : ¬ i < max n k := by omega
      simp only [Function.comp_apply, hk, hn, hmax, if_false]

theorem take_blank (n k : ℕ) (l : List (Option α)) : (blank n l).take k = blank n (l.take k) := by
  refine List.ext_getElem? fun i => ?_
  rw [List.getElem?_take, getElem?_blank, getElem?_blank, List.getElem?_take]
  split
  · rfl
  · rfl

theorem blank_cons_succ (n : ℕ) (x : Option α) (l : List (Option α)) :
    blank (n + 1) (x :: l) = none :: blank n l := by
  rw [blank, List.mapIdx_cons, if_pos (Nat.succ_pos n), blank]
  simp only [Nat.add_lt_add_iff_right]

/-- **What is still there.** -/
theorem reduceOption_blank (n : ℕ) (l : List (Option α)) :
    (blank n l).reduceOption = (l.drop n).reduceOption := by
  induction l generalizing n with
  | nil => rw [List.drop_nil]; rfl
  | cons x l ih =>
    cases n with
    | zero => rw [blank_zero, List.drop_zero]
    | succ n => rw [blank_cons_succ, List.reduceOption_cons_of_none, ih, List.drop_succ_cons]

/-- What is kept splits at a further bound. -/
theorem drop_eq_drop_take_append (n k : ℕ) (l : List α) :
    l.drop n = (l.take k).drop n ++ l.drop (max n k) := by
  rcases Nat.le_total n k with h | h
  · rw [Nat.max_eq_right h, List.drop_take, ← Nat.add_sub_cancel' h, ← List.drop_drop,
      Nat.add_sub_cancel_left, List.take_append_drop]
  · have hnil : (l.take k).drop n = [] :=
      List.drop_eq_nil_of_le (by rw [List.length_take]; omega)
    rw [Nat.max_eq_left h, hnil, List.nil_append]

/-- **Two releases give back what one up to the larger bound does.** -/
theorem reduceOption_take_append {n k : ℕ} (h : n ≤ k) (l : List (Option α)) :
    (l.take n).reduceOption ++ ((blank n l).take k).reduceOption = (l.take k).reduceOption := by
  have hfront : (l.take k).take n = l.take n := by rw [List.take_take, Nat.min_eq_left h]
  have hsplit : l.take n ++ (l.take k).drop n = l.take k := by
    rw [← hfront, List.take_append_drop]
  rw [take_blank, reduceOption_blank, ← List.reduceOption_append, hsplit]

/-- A list of filled places, the first `n` given back. -/
def releaseUpTo (n : ℕ) (l : List α) : List (Option α) := blank n (l.map some)

@[simp] theorem length_releaseUpTo (n : ℕ) (l : List α) : (releaseUpTo n l).length = l.length := by
  rw [releaseUpTo, length_blank, List.length_map]

theorem getElem?_releaseUpTo (n : ℕ) (l : List α) (i : ℕ) :
    (releaseUpTo n l)[i]? = l[i]?.map fun x => if i < n then none else some x := by
  rw [releaseUpTo, getElem?_blank, List.getElem?_map, Option.map_map]
  rfl

theorem releaseUpTo_zero (l : List α) : releaseUpTo 0 l = l.map some := blank_zero _

theorem releaseUpTo_append {n : ℕ} {l : List α} (h : n ≤ l.length) (l' : List α) :
    releaseUpTo n (l ++ l') = releaseUpTo n l ++ l'.map some := by
  rw [releaseUpTo, List.map_append, blank_append (by rw [List.length_map]; exact h), releaseUpTo]

theorem reduceOption_map_some (l : List α) : (l.map some).reduceOption = l := by
  induction l with
  | nil => rfl
  | cons x l ih => rw [List.map_cons, List.reduceOption_cons_of_some, ih]

theorem reduceOption_releaseUpTo (n : ℕ) (l : List α) :
    (releaseUpTo n l).reduceOption = l.drop n := by
  rw [releaseUpTo, reduceOption_blank, ← List.map_drop, reduceOption_map_some]

/-- **What a further release gives back.** -/
theorem reduceOption_take_releaseUpTo (n k : ℕ) (l : List α) :
    ((releaseUpTo n l).take k).reduceOption = (l.take k).drop n := by
  rw [releaseUpTo, take_blank, ← List.map_take, ← releaseUpTo, reduceOption_releaseUpTo]

end Xacpp
