import Mathlib.Data.List.Basic
import Mathlib.Data.List.Infix
import Mathlib.Data.List.Perm.Subperm
import Mathlib.Tactic.Tauto

/-!
# Machines with partial steps

A machine is a step function `σ → α → Option σ`: the event `a` is enabled in `s`
when `step s a` is a state. Whatever is left open in the system being modelled
(which message arrives, which request fails) is in the event, so a list of
events is one interleaving and a `Run` is one execution.

Rules, in the order a development uses them:

* `Run.invariant`, `Run.invariant_of_always` — what every step preserves holds
  at the end of every run; the second form only asks it of the steps that meet
  a side condition, when all steps of the run meet it (`Run.always_of_invariant` says what
  else these steps then meet);
* `Run.foldl` — what every step changes in the same way is the fold of the events;
* `exists_run_of_progress` — the progress rule: what can always be brought nearer is reached;
* `Run.collect_invariant`, `Run.collect_invariant_of_always` — the invariant rules for an
  invariant that also speaks of what has been observed so far;
* `Run.balance` — what the states hold, and what the steps take in and give out, balances;
* `Run.subperm_of_balance`, `Run.perm_iff_always` — what is given out was taken in, and all that
  is taken in is given out exactly if no step loses anything;
* `throughout_iff_always` — when a step re-establishes the invariant exactly if
  it meets a condition, all states of a run satisfy the invariant exactly if
  all its steps meet the condition;
* `grows_iff_always` — the same for a preorder between earlier and later states;
* `Run.always_or` — when missing the condition once cannot be made good later, the end
  of the run tells whether all its steps met it;
* `Run.simulate` — forward simulation.
-/

namespace Machine

variable {σ τ α β : Type*}

/-! ## Runs -/

/-- Execute the events in order, stopping at the first one that is not enabled. -/
def exec (step : σ → α → Option σ) : σ → List α → Option σ
  | s, [] => some s
  | s, a :: as => (step s a).bind fun t => exec step t as

/-- The events `as` are all enabled in turn and lead from `s` to `t`. -/
def Run (step : σ → α → Option σ) (s : σ) (as : List α) (t : σ) : Prop :=
  exec step s as = some t

variable {step : σ → α → Option σ} {s t u : σ} {a : α} {as bs : List α}

@[simp] theorem run_nil : Run step s [] t ↔ s = t := by
  simp [Run, exec]

@[simp] theorem run_cons : Run step s (a :: as) u ↔ ∃ t, step s a = some t ∧ Run step t as u := by
  simp [Run, exec, Option.bind_eq_some_iff]

theorem run_append : Run step s (as ++ bs) u ↔ ∃ t, Run step s as t ∧ Run step t bs u := by
  induction as generalizing s with
  | nil => simp
  | cons a as ih =>
    simp only [List.cons_append, run_cons, ih]
    constructor
    · rintro ⟨v, hv, w, hw, hu⟩
      exact ⟨w, ⟨v, hv, hw⟩, hu⟩
    · rintro ⟨w, ⟨v, hv, hw⟩, hu⟩
      exact ⟨v, hv, w, hw, hu⟩

theorem run_singleton : Run step s [a] t ↔ step s a = some t := by
  simp

/-! ## Invariants -/

/-- The invariant rule. -/
theorem Run.invariant {I : σ → Prop} (hstep : ∀ s a t, I s → step s a = some t → I t)
    (h : Run step s as t) (hs : I s) : I t := by
  induction as generalizing s with
  | nil => exact run_nil.mp h ▸ hs
  | cons a as ih =>
    obtain ⟨v, hv, hrun⟩ := run_cons.mp h
    exact ih hrun (hstep s a v hs hv)

/-- If, under an invariant, `f` of the state goes with each event as `g` says, then over a run it
goes as the fold of `g`. -/
theorem Run.foldl {I : σ → Prop} {f : σ → τ} {g : τ → α → τ}
    (hinv : ∀ s a t, I s → step s a = some t → I t)
    (hstep : ∀ s a t, I s → step s a = some t → f t = g (f s) a)
    (h : Run step s as t) (hs : I s) : f t = as.foldl g (f s) := by
  induction as generalizing s with
  | nil => rw [run_nil.mp h, List.foldl_nil]
  | cons a as ih =>
    obtain ⟨v, hv, hrun⟩ := run_cons.mp h
    rw [List.foldl_cons, ← hstep s a v hs hv]
    exact ih hrun (hinv s a v hs hv)

/-- Every step of the run, taken where the run takes it, meets `G`. -/
def Always (step : σ → α → Option σ) (G : σ → α → Prop) : σ → List α → Prop
  | _, [] => True
  | s, a :: as => G s a ∧ (step s a).elim True fun t => Always step G t as

@[simp] theorem always_nil {G : σ → α → Prop} : Always step G s [] := trivial

theorem always_cons {G : σ → α → Prop} (h : step s a = some t) :
    Always step G s (a :: as) ↔ G s a ∧ Always step G t as := by
  simp [Always, h]

theorem Always.mono {G H : σ → α → Prop} (hGH : ∀ s a, G s a → H s a)
    (h : Always step G s as) : Always step H s as := by
  induction as generalizing s with
  | nil => trivial
  | cons a as ih =>
    obtain ⟨hG, hrest⟩ := h
    refine ⟨hGH s a hG, ?_⟩
    cases hstep : step s a with
    | none => trivial
    | some t =>
      rw [hstep] at hrest
      exact ih hrest

theorem always_of_forall_mem {G : σ → α → Prop} (h : ∀ a ∈ as, ∀ s, G s a) (s : σ) :
    Always step G s as := by
  induction as generalizing s with
  | nil => trivial
  | cons a as ih =>
    obtain ⟨ha, hrest⟩ := List.forall_mem_cons.mp h
    refine ⟨ha s, ?_⟩
    cases step s a with
    | none => trivial
    | some t => exact ih hrest t

/-- What holds at the end, and is not regained once lost, holds all along. -/
theorem Run.always_of_end {A : σ → Prop} (hback : ∀ s a t, step s a = some t → A t → A s)
    (h : Run step s as t) (ht : A t) :
    A s ∧ Always step (fun s a => A s ∧ ∀ t, step s a = some t → A t) s as := by
  induction as generalizing s with
  | nil =>
    rw [run_nil.mp h]
    exact ⟨ht, trivial⟩
  | cons a as ih =>
    obtain ⟨v, hv, hrun⟩ := run_cons.mp h
    obtain ⟨hAv, hrest⟩ := ih hrun
    have hs : A s := hback s a v hv hAv
    refine ⟨hs, ?_⟩
    rw [always_cons hv]
    refine ⟨⟨hs, ?_⟩, hrest⟩
    intro w hw
    have hsame : v = w := Option.some.inj (hv.symm.trans hw)
    exact hsame ▸ hAv

theorem always_congr {G H : σ → α → Prop} (h : ∀ s a, G s a ↔ H s a) (s : σ) (as : List α) :
    Always step G s as ↔ Always step H s as :=
  ⟨Always.mono fun s a => (h s a).mp, Always.mono fun s a => (h s a).mpr⟩

theorem always_and {G H : σ → α → Prop} :
    Always step (fun s a => G s a ∧ H s a) s as ↔ Always step G s as ∧ Always step H s as := by
  induction as generalizing s with
  | nil => simp
  | cons a as ih =>
    cases hstep : step s a with
    | none =>
      -- nothing is asked beyond the event that is not enabled
      simp [Always, hstep]
    | some t =>
      rw [always_cons hstep, always_cons hstep, always_cons hstep, ih]
      tauto

/-- A run that does not meet `G` throughout takes some step that does not. -/
theorem Run.exists_of_not_always {G : σ → α → Prop} (h : Run step s as t)
    (hG : ¬Always step G s as) :
    ∃ pre a post u v, as = pre ++ a :: post ∧ Run step s pre u ∧ ¬G u a ∧
      step u a = some v ∧ Run step v post t := by
  induction as generalizing s with
  | nil => exact absurd trivial hG
  | cons a as ih =>
    obtain ⟨v, hv, hrun⟩ := run_cons.mp h
    rw [always_cons hv] at hG
    by_cases ha : G s a
    · -- the step is further on
      have hrest : ¬Always step G v as := fun hrest => hG ⟨ha, hrest⟩
      obtain ⟨pre, b, post, u, w, rfl, hpre, hb, hw, hpost⟩ := ih hrun hrest
      exact ⟨a :: pre, b, post, u, w, rfl, run_cons.mpr ⟨v, hv, hpre⟩, hb, hw, hpost⟩
    · exact ⟨[], a, as, s, v, rfl, run_nil.mpr rfl, ha, hv, hrun⟩

/-- The invariant rule for the runs whose steps all meet `G`. -/
theorem Run.invariant_of_always {G : σ → α → Prop} {I : σ → Prop}
    (hstep : ∀ s a t, I s → G s a → step s a = some t → I t)
    (h : Run step s as t) (hG : Always step G s as) (hs : I s) : I t := by
  induction as generalizing s with
  | nil => exact run_nil.mp h ▸ hs
  | cons a as ih =>
    obtain ⟨v, hv, hrun⟩ := run_cons.mp h
    rw [always_cons hv] at hG
    exact ih hrun hG.2 (hstep s a v hs hG.1 hv)

/-- What the steps that meet `G` meet besides, under an invariant they keep. -/
theorem Run.always_of_invariant {G H : σ → α → Prop} {I : σ → Prop}
    (hstep : ∀ s a t, I s → G s a → step s a = some t → I t ∧ H s a)
    (h : Run step s as t) (hG : Always step G s as) (hs : I s) : Always step H s as := by
  induction as generalizing s with
  | nil => trivial
  | cons a as ih =>
    obtain ⟨v, hv, hrun⟩ := run_cons.mp h
    rw [always_cons hv] at hG ⊢
    obtain ⟨hIv, hH⟩ := hstep s a v hs hG.1 hv
    exact ⟨hH, ih hrun hG.2 hIv⟩

/-- The progress rule: if from each state short of the goal some event that meets `G` leads on, at a
smaller measure, then a run of such events leads to the goal. `I n s` says that the measure of `s`
is `n`, and whatever else the steps keep. -/
theorem exists_run_of_progress {G : σ → α → Prop} {I : Nat → σ → Prop} {goal : σ → Prop}
    (hstep : ∀ n s, I n s → goal s ∨ ∃ a t m, step s a = some t ∧ G s a ∧ m < n ∧ I m t) (n : Nat) :
    ∀ s, I n s → ∃ as t, Run step s as t ∧ goal t ∧ Always step G s as := by
  induction n using Nat.strong_induction_on with
  | _ n ih =>
    intro s hs
    rcases hstep n s hs with hgoal | ⟨a, v, m, hv, ha, hless, hm⟩
    · exact ⟨[], s, run_nil.mpr rfl, hgoal, trivial⟩
    · obtain ⟨as, t, hrun, hgoal, hG⟩ := ih m hless v hm
      exact ⟨a :: as, t, run_cons.mpr ⟨v, hv, hrun⟩, hgoal, (always_cons hv).mpr ⟨ha, hG⟩⟩

/-! ## Observations -/

/-- What `obs` sees of the steps of a run, in order. -/
def collect (step : σ → α → Option σ) (obs : σ → α → List β) : σ → List α → List β
  | _, [] => []
  | s, a :: as => obs s a ++ (step s a).elim [] fun t => collect step obs t as

theorem collect_cons {obs : σ → α → List β} (h : step s a = some t) :
    collect step obs s (a :: as) = obs s a ++ collect step obs t as := by
  simp [collect, h]

theorem Run.collect_append (h : Run step s as t) (obs : σ → α → List β) (bs : List α) :
    collect step obs s (as ++ bs) = collect step obs s as ++ collect step obs t bs := by
  induction as generalizing s with
  | nil => rw [run_nil.mp h, List.nil_append, collect, List.nil_append]
  | cons a as ih =>
    obtain ⟨v, hv, hrun⟩ := run_cons.mp h
    rw [List.cons_append, collect_cons hv, collect_cons hv, ih hrun, List.append_assoc]

theorem Run.collect_event (h : Run step s as t) : collect step (fun _ a => [a]) s as = as := by
  induction as generalizing s with
  | nil => rfl
  | cons a as ih =>
    obtain ⟨v, hv, hrun⟩ := run_cons.mp h
    rw [collect_cons hv, ih hrun, List.singleton_append]

/-- The invariant rule with the observations made so far as a parameter. -/
theorem Run.collect_invariant {obs : σ → α → List β} {I : List β → σ → Prop} {seen : List β}
    (hstep : ∀ seen s a t, I seen s → step s a = some t → I (seen ++ obs s a) t)
    (h : Run step s as t) (hs : I seen s) : I (seen ++ collect step obs s as) t := by
  induction as generalizing s seen with
  | nil => simpa [collect, ← run_nil.mp h] using hs
  | cons a as ih =>
    obtain ⟨v, hv, hrun⟩ := run_cons.mp h
    rw [collect_cons hv, ← List.append_assoc]
    exact ih hrun (hstep seen s a v hs hv)

/-- The same for the runs whose steps all meet `G`. -/
theorem Run.collect_invariant_of_always {G : σ → α → Prop} {obs : σ → α → List β}
    {I : List β → σ → Prop} {seen : List β}
    (hstep : ∀ seen s a t, I seen s → G s a → step s a = some t → I (seen ++ obs s a) t)
    (h : Run step s as t) (hG : Always step G s as) (hs : I seen s) :
    I (seen ++ collect step obs s as) t := by
  induction as generalizing s seen with
  | nil => simpa [collect, ← run_nil.mp h] using hs
  | cons a as ih =>
    obtain ⟨v, hv, hrun⟩ := run_cons.mp h
    rw [always_cons hv] at hG
    rw [collect_cons hv, ← List.append_assoc]
    exact ih hrun hG.2 (hstep seen s a v hs hG.1 hv)

theorem collect_eq_nil_iff {obs : σ → α → List β} :
    collect step obs s as = [] ↔ Always step (fun s a => obs s a = []) s as := by
  induction as generalizing s with
  | nil => simp [collect]
  | cons a as ih =>
    cases hstep : step s a with
    | none => simp [collect, Always, hstep]
    | some t => rw [collect_cons hstep, always_cons hstep, List.append_eq_nil_iff, ih]

/-- All observations have a property when those of each step have it. -/
theorem forall_mem_collect {obs : σ → α → List β} {P : β → Prop}
    (h : Always step (fun s a => ∀ b ∈ obs s a, P b) s as) : ∀ b ∈ collect step obs s as, P b := by
  induction as generalizing s with
  | nil => exact List.forall_mem_nil _
  | cons a as ih =>
    obtain ⟨ha, hrest⟩ := h
    cases hstep : step s a with
    | none => simpa [collect, hstep] using ha
    | some t =>
      rw [hstep] at hrest
      rw [collect_cons hstep, List.forall_mem_append]
      exact ⟨ha, ih hrest⟩

theorem collect_congr {obs obs' : σ → α → List β}
    (h : Always step (fun s a => obs s a = obs' s a) s as) :
    collect step obs s as = collect step obs' s as := by
  induction as generalizing s with
  | nil => rfl
  | cons a as ih =>
    cases hstep : step s a with
    | none => simp [collect, hstep, h.1]
    | some t =>
      rw [always_cons hstep] at h
      rw [collect_cons hstep, collect_cons hstep, h.1, ih h.2]

theorem collect_map {γ : Type*} (f : β → γ) (obs : σ → α → List β) (s : σ) (as : List α) :
    collect step (fun s a => (obs s a).map f) s as = (collect step obs s as).map f := by
  induction as generalizing s with
  | nil => rfl
  | cons a as ih => cases hstep : step s a <;> simp [collect, hstep, ih]

theorem collect_filter (p : β → Bool) (obs : σ → α → List β) (s : σ) (as : List α) :
    collect step (fun s a => (obs s a).filter p) s as = (collect step obs s as).filter p := by
  induction as generalizing s with
  | nil => rfl
  | cons a as ih => cases hstep : step s a <;> simp [collect, hstep, ih]

/-- Two observations made together are those made apart, in another order. -/
theorem collect_append_perm (obs obs' : σ → α → List β) (s : σ) (as : List α) :
    (collect step (fun s a => obs s a ++ obs' s a) s as).Perm
      (collect step obs s as ++ collect step obs' s as) := by
  induction as generalizing s with
  | nil => exact List.Perm.nil
  | cons a as ih =>
    cases hstep : step s a with
    | none => simp [collect, hstep]
    | some t =>
      have hrest : (obs' s a ++ collect step (fun s a => obs s a ++ obs' s a) t as).Perm
          (collect step obs t as ++ (obs' s a ++ collect step obs' t as)) :=
        ((ih t).append_left _).trans (List.perm_append_comm_assoc _ _ _)
      rw [collect_cons hstep, collect_cons hstep, collect_cons hstep, List.append_assoc,
        List.append_assoc]
      exact hrest.append_left _

/-- The conservation rule: if what a state holds of each key changes by what a step takes in and
gives out, then over a run it changes by all that is taken in and given out. -/
theorem Run.balance [DecidableEq β] {G : σ → α → Prop} {I : σ → Prop} {held : σ → β → Nat}
    {taken given : σ → α → List β} (hinv : ∀ s a t, I s → step s a = some t → I t)
    (hstep : ∀ s a t, I s → G s a → step s a = some t →
      ∀ x, held s x + (taken s a).count x = (given s a).count x + held t x)
    (h : Run step s as t) (hG : Always step G s as) (hs : I s) (x : β) :
    held s x + (collect step taken s as).count x =
      (collect step given s as).count x + held t x := by
  induction as generalizing s with
  | nil =>
    rw [run_nil.mp h]
    simp [collect]
  | cons a as ih =>
    obtain ⟨v, hv, hrun⟩ := run_cons.mp h
    rw [always_cons hv] at hG
    have hfirst := hstep s a v hs hG.1 hv x
    have hrest := ih hrun hG.2 (hinv s a v hs hv)
    rw [collect_cons hv, collect_cons hv, List.count_append, List.count_append]
    omega

/-- The conservation rule when steps may also lose something. -/
theorem Run.balance_with_losses [DecidableEq β] {I : σ → Prop} {held : σ → β → Nat}
    {taken given lost : σ → α → List β} (hinv : ∀ s a t, I s → step s a = some t → I t)
    (hstep : ∀ s a t, I s → step s a = some t →
      ∀ x, held s x + (taken s a).count x = (given s a ++ lost s a).count x + held t x)
    (h : Run step s as t) (hs : I s) (x : β) :
    held s x + (collect step taken s as).count x =
      (collect step given s as).count x + (collect step lost s as).count x + held t x := by
  have hall : held s x + (collect step taken s as).count x =
      (collect step (fun s a => given s a ++ lost s a) s as).count x + held t x :=
    h.balance (G := fun _ _ => True) hinv (fun s a t hI _ => hstep s a t hI)
      (always_of_forall_mem (fun _ _ _ => trivial) s) hs x
  have hsplit : (collect step (fun s a => given s a ++ lost s a) s as).Perm
      (collect step given s as ++ collect step lost s as) := collect_append_perm given lost s as
  rw [hsplit.count_eq, List.count_append] at hall
  exact hall

/-- The conservation rule with losses: what is given out is exactly what is taken in, over a run
that holds nothing at either end, if and only if no step loses anything. -/
theorem Run.perm_iff_always [DecidableEq β] {G : σ → α → Prop} {I : σ → Prop}
    {taken given : σ → α → List β} (held : σ → β → Nat) (lost : σ → α → List β)
    (hinv : ∀ s a t, I s → step s a = some t → I t)
    (hstep : ∀ s a t, I s → step s a = some t →
      ∀ x, held s x + (taken s a).count x = (given s a ++ lost s a).count x + held t x)
    (hlost : ∀ s a t, I s → step s a = some t → (lost s a = [] ↔ G s a))
    (h : Run step s as t) (hs : I s)
    (hstart : ∀ x, held s x = 0) (hend : ∀ x, held t x = 0) :
    (collect step given s as).Perm (collect step taken s as) ↔ Always step G s as := by
  have hbalance : ∀ x, (collect step taken s as).count x =
      (collect step given s as).count x + (collect step lost s as).count x := by
    intro x
    have hall := h.balance_with_losses hinv hstep hs x
    rw [hstart, hend] at hall
    omega
  have hnothing : collect step lost s as = [] ↔ Always step G s as := by
    rw [collect_eq_nil_iff]
    constructor
    · intro hnone
      refine h.always_of_invariant (I := I) ?_ hnone hs
      exact fun s a t hI hnil hstep => ⟨hinv s a t hI hstep, (hlost s a t hI hstep).mp hnil⟩
    · intro hG
      refine h.always_of_invariant (I := I) ?_ hG hs
      exact fun s a t hI hmet hstep => ⟨hinv s a t hI hstep, (hlost s a t hI hstep).mpr hmet⟩
  rw [← hnothing, List.perm_iff_count, List.eq_nil_iff_forall_not_mem]
  refine forall_congr' fun x => ?_
  rw [hbalance, ← List.count_eq_zero]
  omega

/-! ## Exact conditions -/

/-- The rule for a condition that cannot be made good once it was missed: a run whose steps all
meet `G` ends in `I`, and any other run ends in `D`. -/
theorem Run.always_or {G : σ → α → Prop} {obs : σ → α → List β} {I D : List β → σ → Prop}
    {seen : List β}
    (hmet : ∀ seen s a t, I seen s → G s a → step s a = some t → I (seen ++ obs s a) t)
    (hmissed : ∀ seen s a t, I seen s → ¬G s a → step s a = some t → D (seen ++ obs s a) t)
    (hlost : ∀ seen s a t, D seen s → step s a = some t → D (seen ++ obs s a) t)
    (h : Run step s as t) (hs : I seen s) :
    (Always step G s as ∧ I (seen ++ collect step obs s as) t) ∨
      (¬Always step G s as ∧ D (seen ++ collect step obs s as) t) := by
  induction as generalizing s seen with
  | nil =>
    rw [← run_nil.mp h, collect, List.append_nil]
    exact Or.inl ⟨trivial, hs⟩
  | cons a as ih =>
    obtain ⟨v, hv, hrun⟩ := run_cons.mp h
    rw [always_cons hv, collect_cons hv, ← List.append_assoc]
    by_cases ha : G s a
    · simp only [ha, true_and]
      exact ih hrun (hmet seen s a v hs ha hv)
    · -- missed here, whatever the rest of the run does
      have hv' : D (seen ++ obs s a) v := hmissed seen s a v hs ha hv
      have hend := hrun.collect_invariant hlost hv'
      exact Or.inr ⟨fun hG => ha hG.1, hend⟩

/-- Every state the run goes through satisfies `I`. -/
def Throughout (step : σ → α → Option σ) (I : σ → Prop) (s : σ) (as : List α) : Prop :=
  ∀ pre t, pre <+: as → Run step s pre t → I t

theorem throughout_cons {I : σ → Prop} (h : step s a = some t) :
    Throughout step I s (a :: as) ↔ I s ∧ Throughout step I t as := by
  constructor
  · intro hI
    have hs : I s := hI [] s List.nil_prefix (run_nil.mpr rfl)
    refine ⟨hs, ?_⟩
    intro pre u hpre hrun
    have hpre' : a :: pre <+: a :: as := List.cons_prefix_cons.mpr ⟨rfl, hpre⟩
    exact hI (a :: pre) u hpre' (run_cons.mpr ⟨t, h, hrun⟩)
  · rintro ⟨hs, hI⟩ pre u hpre hrun
    cases pre with
    | nil => exact run_nil.mp hrun ▸ hs
    | cons b pre =>
      obtain ⟨rfl, hpre'⟩ := List.cons_prefix_cons.mp hpre
      obtain ⟨v, hv, hrun'⟩ := run_cons.mp hrun
      have heq : t = v := Option.some.inj (h.symm.trans hv)
      exact hI pre u hpre' (heq ▸ hrun')

/-- If, under an invariant `J`, a step out of a state satisfying `I` leads to one
satisfying `I` exactly when it meets `G`, then a run stays in `I` exactly when its
steps all meet `G`. -/
theorem throughout_iff_always {G : σ → α → Prop} {I J : σ → Prop}
    (hinv : ∀ s a t, J s → step s a = some t → J t)
    (hstep : ∀ s a t, J s → I s → step s a = some t → (I t ↔ G s a))
    (h : Run step s as t) (hJ : J s) (hs : I s) :
    Throughout step I s as ↔ Always step G s as := by
  induction as generalizing s with
  | nil =>
    refine ⟨fun _ => trivial, ?_⟩
    intro _ pre u hpre hrun
    rw [List.prefix_nil.mp hpre] at hrun
    exact run_nil.mp hrun ▸ hs
  | cons a as ih =>
    obtain ⟨v, hv, hrun⟩ := run_cons.mp h
    have hJv : J v := hinv s a v hJ hv
    rw [throughout_cons hv, always_cons hv]
    constructor
    · rintro ⟨-, hI⟩
      have hIv : I v := hI [] v List.nil_prefix (run_nil.mpr rfl)
      exact ⟨(hstep s a v hJ hs hv).mp hIv, (ih hrun hJv hIv).mp hI⟩
    · rintro ⟨hG, hrest⟩
      have hIv : I v := (hstep s a v hJ hs hv).mpr hG
      exact ⟨hs, (ih hrun hJv hIv).mpr hrest⟩

/-- Any state of the run is related by `R` to any later one. -/
def Grows (step : σ → α → Option σ) (R : σ → σ → Prop) (s : σ) (as : List α) : Prop :=
  ∀ pre mid t u, pre ++ mid <+: as → Run step s pre t → Run step t mid u → R t u

/-- If, under an invariant, a step moves along a preorder exactly when it meets
`G`, then a run moves along it exactly when its steps all meet `G`. -/
theorem grows_iff_always {G : σ → α → Prop} {I : σ → Prop} {R : σ → σ → Prop}
    (hrefl : ∀ s, R s s) (htrans : ∀ s t u, R s t → R t u → R s u)
    (hinv : ∀ s a t, I s → step s a = some t → I t)
    (hstep : ∀ s a t, I s → step s a = some t → (R s t ↔ G s a))
    (h : Run step s as t) (hs : I s) :
    Grows step R s as ↔ Always step G s as := by
  induction as generalizing s with
  | nil =>
    refine ⟨fun _ => trivial, ?_⟩
    intro _ pre mid t u hpre ht hu
    obtain ⟨rfl, rfl⟩ := List.append_eq_nil_iff.mp (List.prefix_nil.mp hpre)
    exact run_nil.mp hu ▸ hrefl t
  | cons a as ih =>
    obtain ⟨v, hv, hrun⟩ := run_cons.mp h
    have hIv : I v := hinv s a v hs hv
    rw [always_cons hv, ← ih hrun hIv, ← hstep s a v hs hv]
    constructor
    · intro hR
      refine ⟨hR [] [a] s v ?_ (run_nil.mpr rfl) (run_singleton.mpr hv), ?_⟩
      · -- the first step
        exact List.cons_prefix_cons.mpr ⟨rfl, List.nil_prefix⟩
      · -- the steps after it
        intro pre mid t u hpre ht hu
        have hpre' : a :: pre ++ mid <+: a :: as := List.cons_prefix_cons.mpr ⟨rfl, hpre⟩
        exact hR (a :: pre) mid t u hpre' (run_cons.mpr ⟨v, hv, ht⟩) hu
    · rintro ⟨hsv, hR⟩ pre mid t u hpre ht hu
      cases pre with
      | nil =>
        -- from the first state on: the first step, and then the rest
        rw [← run_nil.mp ht] at hu ⊢
        cases mid with
        | nil => exact run_nil.mp hu ▸ hrefl s
        | cons b mid =>
          obtain ⟨rfl, hmid⟩ := List.cons_prefix_cons.mp hpre
          obtain ⟨w, hw, hu'⟩ := run_cons.mp hu
          have hsame : v = w := Option.some.inj (hv.symm.trans hw)
          subst hsame
          have hvu : R v u := hR [] mid v u hmid (run_nil.mpr rfl) hu'
          exact htrans s v u hsv hvu
      | cons b pre =>
        obtain ⟨rfl, hpre'⟩ := List.cons_prefix_cons.mp hpre
        obtain ⟨w, hw, ht'⟩ := run_cons.mp ht
        have hsame : v = w := Option.some.inj (hv.symm.trans hw)
        subst hsame
        exact hR pre mid t u hpre' ht' hu

/-! ## Simulation -/

/-- Forward simulation: the abstract machine follows every step that meets `G`
by the abstract events `label` names, so it follows the run. -/
theorem Run.simulate {abs : τ → β → Option τ} {G : σ → α → Prop} {R : σ → τ → Prop}
    {label : σ → α → List β} {x : τ}
    (hsim : ∀ s a t x, R s x → G s a → step s a = some t →
      ∃ y, Run abs x (label s a) y ∧ R t y)
    (h : Run step s as t) (hG : Always step G s as) (hx : R s x) :
    ∃ y, Run abs x (collect step label s as) y ∧ R t y := by
  induction as generalizing s x with
  | nil => exact ⟨x, by simp [collect], run_nil.mp h ▸ hx⟩
  | cons a as ih =>
    obtain ⟨v, hv, hrun⟩ := run_cons.mp h
    rw [always_cons hv] at hG
    obtain ⟨y, hy, hRy⟩ := hsim s a v x hx hG.1 hv
    obtain ⟨z, hz, hRz⟩ := ih hrun hG.2 hRy
    refine ⟨z, ?_, hRz⟩
    rw [collect_cons hv]
    exact run_append.mpr ⟨y, hy, hz⟩

end Machine
