/-!
# Repeated steps

A step that may be impossible, taken a number of times or until it is impossible.

* `steps_counted`: what a step keeps, with the number of the steps, repeated steps keep.
* `steps_le`, `steps_stop`, `steps_possible`: how many steps are taken.
* `steps_of_stuck`: once no step is possible, allowing more of them changes nothing.
* `steps_exhausted`, `steps_of_enough`: steps that use something up.
* `steps_related`: what two kinds of step keep in common, repeated steps keep in common.
-/

namespace RegistryLoad

variable {σ : Type}

/-- Takes up to `n` further steps after `taken` ones. -/
def stepsFrom (step : σ → Option σ) : Nat → Nat → σ → Nat × σ
  | 0, taken, s => (taken, s)
  | n + 1, taken, s => match step s with
    | some s => stepsFrom step n (taken + 1) s
    | none => (taken, s)

/-- Takes up to `n` steps, and tells how many it took. -/
def steps (step : σ → Option σ) (n : Nat) (s : σ) : Nat × σ := stepsFrom step n 0 s

theorem stepsFrom_counted {P : Nat → σ → Prop} {step : σ → Option σ}
    (hstep : ∀ k s s', P k s → step s = some s' → P (k + 1) s') :
    ∀ (n taken : Nat) (s : σ), P taken s →
      P (stepsFrom step n taken s).1 (stepsFrom step n taken s).2
  | 0, _, _, h => h
  | n + 1, taken, s, h => by
    rw [stepsFrom]
    cases hs : step s with
    | none => exact h
    | some s' => exact stepsFrom_counted hstep n (taken + 1) s' (hstep taken s s' h hs)

theorem steps_counted {P : Nat → σ → Prop} {step : σ → Option σ}
    (hstep : ∀ k s s', P k s → step s = some s' → P (k + 1) s') (n : Nat) {s : σ} (h : P 0 s) :
    P (steps step n s).1 (steps step n s).2 :=
  stepsFrom_counted hstep n 0 s h

/-- What each step keeps, repeated steps keep. -/
theorem steps_preserves {P : σ → Prop} {step : σ → Option σ}
    (hstep : ∀ s s', P s → step s = some s' → P s') (n : Nat) {s : σ} (h : P s) :
    P (steps step n s).2 :=
  steps_counted (P := fun _ s => P s) (fun _ => hstep) n h

theorem stepsFrom_le (step : σ → Option σ) :
    ∀ (n taken : Nat) (s : σ), (stepsFrom step n taken s).1 ≤ taken + n
  | 0, _, _ => Nat.le_refl _
  | n + 1, taken, s => by
    rw [stepsFrom]
    cases step s with
    | none => exact Nat.le_add_right taken (n + 1)
    | some s' =>
      have hle := stepsFrom_le step n (taken + 1) s'
      rw [Nat.add_right_comm] at hle
      exact hle

theorem steps_le (step : σ → Option σ) (n : Nat) (s : σ) : (steps step n s).1 ≤ n := by
  have hle := stepsFrom_le step n 0 s
  rwa [Nat.zero_add] at hle

/-- Repeated steps end because there were enough, or because none is possible any more. -/
theorem stepsFrom_stop (step : σ → Option σ) :
    ∀ (n taken : Nat) (s : σ), (stepsFrom step n taken s).1 = taken + n ∨
      step (stepsFrom step n taken s).2 = none
  | 0, _, _ => .inl rfl
  | n + 1, taken, s => by
    rw [stepsFrom]
    cases hs : step s with
    | none => exact .inr hs
    | some s' =>
      have hstop := stepsFrom_stop step n (taken + 1) s'
      rw [Nat.add_right_comm] at hstop
      exact hstop

theorem steps_stop (step : σ → Option σ) (n : Nat) (s : σ) :
    (steps step n s).1 = n ∨ step (steps step n s).2 = none := by
  have hstop := stepsFrom_stop step n 0 s
  rwa [Nat.zero_add] at hstop

/-- Each of the steps that were taken was possible where it was taken. -/
theorem stepsFrom_possible (step : σ → Option σ) :
    ∀ (n taken k : Nat) (s : σ), taken + k < (stepsFrom step n taken s).1 →
      ∃ s', step (stepsFrom step k taken s).2 = some s'
  | 0, _, k, _, hk => absurd hk (Nat.not_lt_of_le (Nat.le_add_right _ k))
  | n + 1, taken, k, s, hk => by
    rw [stepsFrom] at hk
    cases hs : step s with
    | none =>
      rw [hs] at hk
      exact absurd hk (Nat.not_lt_of_le (Nat.le_add_right taken k))
    | some s' =>
      rw [hs] at hk
      cases k with
      | zero => exact ⟨s', hs⟩
      | succ k =>
        rw [stepsFrom, hs]
        rw [← Nat.add_assoc, Nat.add_right_comm] at hk
        exact stepsFrom_possible step n (taken + 1) k s' hk

theorem steps_possible {step : σ → Option σ} {n k : Nat} {s : σ} (hk : k < (steps step n s).1) :
    ∃ s', step (steps step k s).2 = some s' :=
  stepsFrom_possible step n 0 k s (by rwa [Nat.zero_add])

/-- Where steps end because none is possible any more, more of them would not be taken either. -/
theorem stepsFrom_of_stuck (step : σ → Option σ) :
    ∀ (n m taken : Nat) (s : σ), step (stepsFrom step n taken s).2 = none → n ≤ m →
      stepsFrom step m taken s = stepsFrom step n taken s
  | 0, 0, _, _, _, _ => rfl
  | 0, m + 1, taken, s, stuck, _ => by
    have none : step s = none := stuck
    simp only [stepsFrom, none]
  | n + 1, 0, _, _, _, more => absurd more (Nat.not_succ_le_zero n)
  | n + 1, m + 1, taken, s, stuck, more => by
    rw [stepsFrom] at stuck ⊢
    rw [stepsFrom]
    cases hs : step s with
    | none => rfl
    | some s' =>
      rw [hs] at stuck
      exact stepsFrom_of_stuck step n m (taken + 1) s' stuck (Nat.le_of_succ_le_succ more)

theorem steps_of_stuck {step : σ → Option σ} {n m : Nat} {s : σ}
    (stuck : step (steps step n s).2 = none) (more : n ≤ m) : steps step m s = steps step n s :=
  stepsFrom_of_stuck step n m 0 s stuck more

/-- Steps that each use something up come to an end if as many are allowed as there is of it. -/
theorem steps_exhausted {step : σ → Option σ} (measure : σ → Nat)
    (uses : ∀ s s', step s = some s' → measure s' < measure s) {n : Nat} {s : σ}
    (enough : measure s ≤ n) : step (steps step n s).2 = none := by
  have counted : measure (steps step n s).2 + (steps step n s).1 ≤ measure s := by
    refine steps_counted (P := fun k s' => measure s' + k ≤ measure s) ?_ n (Nat.le_refl _)
    intro k s₁ s₂ bound next
    have fewer := uses s₁ s₂ next
    omega
  rcases steps_stop step n s with full | stuck
  · cases next : step (steps step n s).2 with
    | none => rfl
    | some s' =>
      have fewer := uses _ s' next
      omega
  · exact stuck

/-- More of them make no difference. -/
theorem steps_of_enough {step : σ → Option σ} (measure : σ → Nat)
    (uses : ∀ s s', step s = some s' → measure s' < measure s) {n : Nat} {s : σ}
    (enough : measure s ≤ n) : steps step n s = steps step (measure s) s :=
  steps_of_stuck (steps_exhausted measure uses (Nat.le_refl _)) enough

/-- Steps that are possible on either side alike, and keep a relation, are taken as often and keep
it. -/
theorem stepsFrom_related {σ' : Type} {R : σ → σ' → Prop} {step : σ → Option σ}
    {step' : σ' → Option σ'} (hstep : ∀ s s', R s s' → Option.Rel R (step s) (step' s')) :
    ∀ (n taken : Nat) (s : σ) (s' : σ'), R s s' →
      (stepsFrom step n taken s).1 = (stepsFrom step' n taken s').1 ∧
        R (stepsFrom step n taken s).2 (stepsFrom step' n taken s').2
  | 0, _, _, _, h => ⟨rfl, h⟩
  | n + 1, taken, s, s', h => by
    rw [stepsFrom, stepsFrom]
    have related := hstep s s' h
    generalize step s = next, step' s' = next' at related ⊢
    cases related with
    | none => exact ⟨rfl, h⟩
    | some hnext => exact stepsFrom_related hstep n (taken + 1) _ _ hnext

theorem steps_related {σ' : Type} {R : σ → σ' → Prop} {step : σ → Option σ}
    {step' : σ' → Option σ'} (hstep : ∀ s s', R s s' → Option.Rel R (step s) (step' s')) (n : Nat)
    {s : σ} {s' : σ'} (h : R s s') :
    (steps step n s).1 = (steps step' n s').1 ∧ R (steps step n s).2 (steps step' n s').2 :=
  stepsFrom_related hstep n 0 s s' h

end RegistryLoad
