import Mathlib.Data.List.Infix
import Mathlib.Data.Nat.Find
/-!
# Searching a list for a pattern

The position of the first occurrence of a pattern, and the three facts a
scanner over a growing buffer rests on: an occurrence that was found stays
the first when the list grows (`position_append`); a list without one may
be cut down to its last elements, one fewer than the pattern has
(`position_trim`); and a pattern that does not overlap itself is found
behind a list without it exactly where it starts (`position_behind`).
-/

namespace Xacpp

variable {α : Type*} {pat l r : List α} {n : ℕ}

/-- Where the pattern still fits, only what is there decides whether it begins. -/
theorem begins_drop_append {m : ℕ} (hfits : m + pat.length ≤ l.length) :
    pat <+: (l ++ r).drop m ↔ pat <+: l.drop m := by
  have hm : m ≤ l.length := by omega
  rw [List.drop_append_of_le_length hm]
  constructor
  · intro h
    refine List.prefix_of_prefix_length_le h (List.prefix_append _ _) ?_
    rw [List.length_drop]
    omega
  · intro h
    exact h.trans (List.prefix_append _ _)

variable [DecidableEq α]

/-- The position of the first occurrence of the pattern. -/
def position (pat : List α) : List α → Option ℕ
  | [] => if pat <+: [] then some 0 else none
  | a :: l => if pat <+: a :: l then some 0 else (position pat l).map (· + 1)

/-- No proper suffix of the pattern begins it again. -/
def Borderless (pat : List α) : Prop :=
  ∀ k < pat.length, 0 < k → ¬ pat.drop k <+: pat

instance (pat : List α) : Decidable (Borderless pat) :=
  inferInstanceAs (Decidable (∀ k < pat.length, 0 < k → ¬ pat.drop k <+: pat))

theorem position_eq_some_iff :
    position pat l = some n ↔
      n ≤ l.length ∧ pat <+: l.drop n ∧ ∀ m < n, ¬ pat <+: l.drop m := by
  induction l generalizing n with
  | nil =>
    rw [position]
    split
    · next hpat =>
      constructor
      · intro h
        cases h
        exact ⟨Nat.le_refl _, hpat, fun m hm => absurd hm (Nat.not_lt_zero m)⟩
      · rintro ⟨hn, -, -⟩
        rw [Nat.le_zero.1 hn]
    · next hpat =>
      constructor
      · intro h
        cases h
      · rintro ⟨hn, hat, -⟩
        rw [Nat.le_zero.1 hn] at hat
        exact absurd hat hpat
  | cons a l ih =>
    rw [position]
    split
    · next hpat =>
      constructor
      · intro h
        cases h
        exact ⟨Nat.zero_le _, hpat, fun m hm => absurd hm (Nat.not_lt_zero m)⟩
      · rintro ⟨-, -, hfirst⟩
        rcases Nat.eq_zero_or_pos n with rfl | hpos
        · rfl
        · exact absurd hpat (hfirst 0 hpos)
    · next hpat =>
      rw [Option.map_eq_some_iff]
      constructor
      · rintro ⟨m, hm, rfl⟩
        obtain ⟨hle, hat, hfirst⟩ := ih.1 hm
        refine ⟨Nat.succ_le_succ hle, hat, fun i hi => ?_⟩
        cases i with
        | zero => exact hpat
        | succ i => exact hfirst i (Nat.lt_of_succ_lt_succ hi)
      · rintro ⟨hle, hat, hfirst⟩
        cases n with
        | zero => exact absurd hat hpat
        | succ n =>
          exact ⟨n, ih.2 ⟨Nat.le_of_succ_le_succ hle, hat,
            fun m hm => hfirst (m + 1) (Nat.succ_lt_succ hm)⟩, rfl⟩

theorem position_eq_none_iff : position pat l = none ↔ ¬ pat <:+: l := by
  constructor
  · rintro hnone ⟨s, t, rfl⟩
    -- the first place where the pattern begins would have been found
    have hex : ∃ n, pat <+: (s ++ pat ++ t).drop n := by
      refine ⟨s.length, ?_⟩
      rw [List.append_assoc, List.drop_left]
      exact List.prefix_append _ _
    have hle : Nat.find hex ≤ (s ++ pat ++ t).length := by
      refine (Nat.find_min' hex (m := s.length) ?_).trans ?_
      · rw [List.append_assoc, List.drop_left]
        exact List.prefix_append _ _
      · rw [List.append_assoc, List.length_append]
        exact Nat.le_add_right _ _
    have hsome := position_eq_some_iff.2 ⟨hle, Nat.find_spec hex, fun m hm => Nat.find_min hex hm⟩
    rw [hnone] at hsome
    cases hsome
  · intro hinfix
    cases hpos : position pat l with
    | none => rfl
    | some n =>
      obtain ⟨-, hat, -⟩ := position_eq_some_iff.1 hpos
      exact absurd (hat.isInfix.trans (List.drop_suffix n l).isInfix) hinfix

theorem le_length_of_position (h : position pat l = some n) : n + pat.length ≤ l.length := by
  obtain ⟨hle, hat, -⟩ := position_eq_some_iff.1 h
  have := hat.length_le
  rw [List.length_drop] at this
  omega

/-- **An occurrence that was found stays the first** when the list grows. -/
theorem position_append (h : position pat l = some n) : position pat (l ++ r) = some n := by
  have hfits := le_length_of_position h
  obtain ⟨hle, hat, hfirst⟩ := position_eq_some_iff.1 h
  refine position_eq_some_iff.2 ⟨?_, ?_, fun m hm => ?_⟩
  · rw [List.length_append]
    omega
  · exact (begins_drop_append hfits).2 hat
  · rw [begins_drop_append (by omega)]
    exact hfirst m hm

/-- Elements before which the pattern does not begin may be dropped. -/
theorem position_drop {d : ℕ} (hd : d ≤ l.length) (hfirst : ∀ m < d, ¬ pat <+: l.drop m) :
    position pat l = (position pat (l.drop d)).map (· + d) := by
  cases hpos : position pat (l.drop d) with
  | none =>
    rw [Option.map_none, position_eq_none_iff]
    rintro ⟨s, t, rfl⟩
    rw [position_eq_none_iff] at hpos
    have hat : pat <+: (s ++ pat ++ t).drop s.length := by
      rw [List.append_assoc, List.drop_left]
      exact List.prefix_append _ _
    rcases Nat.lt_or_ge s.length d with hlt | hge
    · exact hfirst _ hlt hat
    · refine hpos (hat.isInfix.trans ?_)
      rw [← Nat.add_sub_of_le hge, ← List.drop_drop]
      exact (List.drop_suffix _ _).isInfix
  | some n =>
    obtain ⟨hle, hat, hmin⟩ := position_eq_some_iff.1 hpos
    rw [List.length_drop] at hle
    rw [Option.map_some]
    refine position_eq_some_iff.2 ⟨by omega, ?_, fun m hm => ?_⟩
    · rw [Nat.add_comm, ← List.drop_drop]
      exact hat
    · rcases Nat.lt_or_ge m d with hlt | hge
      · exact hfirst m hlt
      · have hrest := hmin (m - d) (by omega)
        rwa [List.drop_drop, Nat.add_sub_of_le hge] at hrest

/-- **A list without the pattern may be cut down** to its last elements, one
fewer than the pattern has, without losing an occurrence to come. -/
theorem position_trim {d : ℕ} (hnone : position pat l = none) (hd : d + pat.length ≤ l.length + 1)
    (hpat : pat ≠ []) : position pat (l ++ r) = (position pat (l.drop d ++ r)).map (· + d) := by
  have hpos := List.length_pos_iff.2 hpat
  have hdl : d ≤ l.length := by omega
  rw [← List.drop_append_of_le_length hdl]
  refine position_drop (by rw [List.length_append]; omega) fun m hm hat => ?_
  rw [begins_drop_append (by omega)] at hat
  exact position_eq_none_iff.1 hnone (hat.isInfix.trans (List.drop_suffix m l).isInfix)

/-- **A pattern that does not overlap itself is found where it starts**,
behind a list that does not hold it. -/
theorem position_behind (hborder : Borderless pat) (hnone : ¬ pat <:+: l) :
    position pat (l ++ (pat ++ r)) = some l.length := by
  refine position_eq_some_iff.2 ⟨?_, ?_, fun m hm hat => ?_⟩
  · rw [List.length_append]
    omega
  · rw [List.drop_left]
    exact List.prefix_append _ _
  · rcases Nat.lt_or_ge l.length (m + pat.length) with hover | hfits
    · -- the occurrence reaches into the pattern behind the list: a border
      have hm' : m ≤ l.length := by omega
      rw [List.drop_append_of_le_length hm'] at hat
      obtain ⟨t, ht⟩ := hat
      have hsuffix : pat.drop (l.length - m) ++ t = pat ++ r := by
        have hdrop := congrArg (List.drop (l.length - m)) ht
        rw [List.drop_append_of_le_length (by omega),
          List.drop_left' (by rw [List.length_drop])] at hdrop
        exact hdrop
      refine hborder (l.length - m) (by omega) (by omega) ?_
      refine List.prefix_of_prefix_length_le ⟨t, hsuffix⟩ (List.prefix_append _ _) ?_
      rw [List.length_drop]
      omega
    · rw [begins_drop_append hfits] at hat
      exact hnone (hat.isInfix.trans (List.drop_suffix m l).isInfix)

end Xacpp
