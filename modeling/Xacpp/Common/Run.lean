import Mathlib.Logic.Basic
import Mathlib.Data.Option.Basic
/-!
# Runs of a transition system

A system is a partial step function: `step s a` is the state action `a`
leads to, or `none` where the action is not enabled. Nondeterminism is the
choice of the action, so a run is a list of actions and is computed by
`run`. `run_induct` and `run_induct_of` are the two induction rules: an
invariant of every step is an invariant of every run, and an invariant of
the steps that meet a guard is one of the runs whose steps all meet it.
-/

namespace Xacpp

variable {σ α : Type*}

/-- The state a list of actions leads to. -/
def run (step : σ → α → Option σ) (s : σ) : List α → Option σ
  | [] => some s
  | a :: as => (step s a).bind fun s' => run step s' as

/-- Every step of the run meets the guard, read in the state before it. -/
def RunMeets (step : σ → α → Option σ) (C : σ → α → Prop) (s : σ) : List α → Prop
  | [] => True
  | a :: as => C s a ∧ ∀ s', step s a = some s' → RunMeets step C s' as

instance decidableRunMeets (step : σ → α → Option σ) (C : σ → α → Prop)
    [∀ s a, Decidable (C s a)] : ∀ s as, Decidable (RunMeets step C s as)
  | _, [] => isTrue trivial
  | s, a :: as =>
    match hs : step s a with
    | none => decidable_of_iff (C s a) ⟨fun h => ⟨h, fun _ ht => by rw [hs] at ht; cases ht⟩,
        fun h => h.1⟩
    | some t =>
      have := decidableRunMeets step C t as
      decidable_of_iff (C s a ∧ RunMeets step C t as)
        ⟨fun h => ⟨h.1, fun t' ht => by rw [hs, Option.some.injEq] at ht; exact ht ▸ h.2⟩,
          fun h => ⟨h.1, h.2 t hs⟩⟩

/-! ## What is decided by running

A statement that a run ends in a state with some properties is decided by
computing the state. -/

instance decidableExistsSome (o : Option σ) (P : σ → Prop) [DecidablePred P] :
    Decidable (∃ s, o = some s ∧ P s) :=
  match o with
  | none => isFalse fun h => by obtain ⟨s, hs, -⟩ := h; cases hs
  | some s => decidable_of_iff (P s)
      ⟨fun h => ⟨s, rfl, h⟩, fun h => by obtain ⟨t, ht, hP⟩ := h; cases ht; exact hP⟩

instance decidableExistsAnd (p : Prop) (P : σ → Prop) [Decidable p] [Decidable (∃ s, P s)] :
    Decidable (∃ s, p ∧ P s) :=
  decidable_of_iff (p ∧ ∃ s, P s) exists_and_left.symm

instance decidableExistsExists (o : Option σ) (P : σ → α → Prop)
    [∀ s, Decidable (∃ a, P s a)] : Decidable (∃ s a, o = some s ∧ P s a) :=
  decidable_of_iff (∃ s, o = some s ∧ ∃ a, P s a) (exists_congr fun _ => exists_and_left.symm)

/-! ## Runs -/

variable {step : σ → α → Option σ} {s s' : σ} {a : α} {as bs : List α}

theorem RunMeets.of_mem {C : σ → α → Prop} (h : ∀ a ∈ as, ∀ t, C t a) : RunMeets step C s as := by
  induction as generalizing s with
  | nil => trivial
  | cons a as ih =>
    exact ⟨h a List.mem_cons_self s, fun _ _ => ih fun b hb => h b (List.mem_cons_of_mem a hb)⟩

theorem RunMeets.and {C D : σ → α → Prop} (hC : RunMeets step C s as)
    (hD : RunMeets step D s as) : RunMeets step (fun t a => C t a ∧ D t a) s as := by
  induction as generalizing s with
  | nil => trivial
  | cons a as ih => exact ⟨⟨hC.1, hD.1⟩, fun t ht => ih (hC.2 t ht) (hD.2 t ht)⟩

@[simp] theorem run_nil : run step s [] = some s := rfl

theorem run_cons : run step s (a :: as) = (step s a).bind fun s' => run step s' as := rfl

theorem run_cons_eq_some :
    run step s (a :: as) = some s' ↔ ∃ t, step s a = some t ∧ run step t as = some s' := by
  rw [run_cons, Option.bind_eq_some_iff]

theorem run_append : run step s (as ++ bs) = (run step s as).bind fun t => run step t bs := by
  induction as generalizing s with
  | nil => rfl
  | cons a as ih =>
    rw [List.cons_append, run_cons, run_cons, Option.bind_assoc]
    exact congrArg _ (funext fun t => ih)

theorem run_snoc {t : σ} (h : run step s as = some t) (hstep : step t a = some s') :
    run step s (as ++ [a]) = some s' := by
  rw [run_append, h, Option.bind_some, run_cons, hstep]
  rfl

theorem RunMeets.snoc {C : σ → α → Prop} {t : σ} (hC : RunMeets step C s as)
    (h : run step s as = some t) (ha : C t a) : RunMeets step C s (as ++ [a]) := by
  induction as generalizing s with
  | nil =>
    rw [run_nil, Option.some.injEq] at h
    exact ⟨h ▸ ha, fun _ _ => trivial⟩
  | cons b as ih =>
    obtain ⟨u, hu, hrest⟩ := run_cons_eq_some.1 h
    refine ⟨hC.1, fun u' hu' => ?_⟩
    rw [hu, Option.some.injEq] at hu'
    exact hu' ▸ ih (hC.2 u hu) hrest

/-- **An invariant of the steps that meet a guard** is one of the runs whose
steps all meet it. -/
theorem run_induct_of {I : σ → Prop} {C : σ → α → Prop}
    (hstep : ∀ t a t', I t → C t a → step t a = some t' → I t')
    (hs : I s) (hC : RunMeets step C s as) (h : run step s as = some s') : I s' := by
  induction as generalizing s with
  | nil =>
    rw [run_nil, Option.some.injEq] at h
    exact h ▸ hs
  | cons a as ih =>
    obtain ⟨t, ht, hrest⟩ := run_cons_eq_some.1 h
    exact ih (hstep s a t hs hC.1 ht) (hC.2 t ht) hrest

/-- **An invariant of every step is one of every run.** -/
theorem run_induct {I : σ → Prop} (hstep : ∀ t a t', I t → step t a = some t' → I t')
    (hs : I s) (h : run step s as = some s') : I s' :=
  run_induct_of (C := fun _ _ => True) (fun t a t' ht _ hsucc => hstep t a t' ht hsucc) hs
    (.of_mem fun _ _ _ => trivial) h

/-- **A reflexive and transitive relation every update is in** relates the
two ends of a fold. -/
theorem foldl_rel {R : σ → σ → Prop} (hrefl : ∀ s, R s s)
    (htrans : ∀ s t u, R s t → R t u → R s u) {f : σ → α → σ} (hf : ∀ s a, R s (f s a))
    (as : List α) (s : σ) : R s (as.foldl f s) := by
  induction as generalizing s with
  | nil => exact hrefl s
  | cons a as ih => exact htrans _ _ _ (hf s a) (ih (f s a))

/-! ## What a run puts out -/

section Outputs

variable {β : Type*}

/-- What the steps of a run put out, in order. -/
def outputs (step : σ → α → Option σ) (out : σ → α → List β) (s : σ) : List α → List β
  | [] => []
  | a :: as => out s a ++ (step s a).elim [] fun s' => outputs step out s' as

/-- **An invariant of the state and of what was put out so far**, kept by
every step of a list of actions. -/
theorem run_induct_outputs {out : σ → α → List β} {I : σ → List β → Prop}
    (hstep : ∀ t acc a t', a ∈ as → I t acc → step t a = some t' → I t' (acc ++ out t a))
    (hs : I s []) (h : run step s as = some s') : I s' (outputs step out s as) := by
  suffices hgen : ∀ acc, I s acc → I s' (acc ++ outputs step out s as) from hgen [] hs
  clear hs
  induction as generalizing s with
  | nil =>
    rw [run_nil, Option.some.injEq] at h
    intro acc hacc
    rw [outputs, List.append_nil]
    exact h ▸ hacc
  | cons a as ih =>
    obtain ⟨t, ht, hrest⟩ := run_cons_eq_some.1 h
    intro acc hacc
    rw [outputs, ht, Option.elim_some, ← List.append_assoc]
    exact ih (fun t acc b t' hb => hstep t acc b t' (List.mem_cons_of_mem a hb)) hrest _
      (hstep s acc a t List.mem_cons_self hacc ht)

end Outputs

end Xacpp
