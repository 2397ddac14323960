import Mathlib.Logic.Relation

namespace Rifflex.Transition

variable {σ α : Type}

def run (exec : σ → α → Option σ) : σ → List α → Option σ
  | s, [] => some s
  | s, a :: as =>
      match exec s a with
      | some t => run exec t as
      | none => none

def Step (exec : σ → α → Option σ) (allowed : σ → α → Prop) (s t : σ) : Prop :=
  ∃ a, allowed s a ∧ exec s a = some t

def Reach (exec : σ → α → Option σ) (allowed : σ → α → Prop) (init t : σ) : Prop :=
  Relation.ReflTransGen (Step exec allowed) init t

def Always (_ : σ) (_ : α) : Prop := True

def EndsIn (exec : σ → α → Option σ) (init : σ) (as : List α) (P : σ → Prop) : Prop :=
  ∃ t, run exec init as = some t ∧ P t

instance (exec : σ → α → Option σ) (init : σ) (as : List α) (P : σ → Prop) [DecidablePred P] :
    Decidable (EndsIn exec init as P) :=
  match h : run exec init as with
  | some t => decidable_of_iff (P t)
      ⟨fun hp => ⟨t, h, hp⟩, fun ⟨t', h', hp⟩ => by rw [h] at h'; cases h'; exact hp⟩
  | none => isFalse (fun ⟨_, h', _⟩ => by rw [h] at h'; cases h')

def runAllowed (exec : σ → α → Option σ) (allowed : σ → α → Prop) [∀ s a, Decidable (allowed s a)] :
    σ → List α → Option σ
  | s, [] => some s
  | s, a :: as =>
      if allowed s a then
        match exec s a with
        | some t => runAllowed exec allowed t as
        | none => none
      else none

def EndsInAllowed (exec : σ → α → Option σ) (allowed : σ → α → Prop) [∀ s a, Decidable (allowed s a)]
    (init : σ) (as : List α) (P : σ → Prop) : Prop :=
  ∃ t, runAllowed exec allowed init as = some t ∧ P t

instance (exec : σ → α → Option σ) (allowed : σ → α → Prop) [∀ s a, Decidable (allowed s a)]
    (init : σ) (as : List α) (P : σ → Prop) [DecidablePred P] :
    Decidable (EndsInAllowed exec allowed init as P) :=
  match h : runAllowed exec allowed init as with
  | some t => decidable_of_iff (P t)
      ⟨fun hp => ⟨t, h, hp⟩, fun ⟨t', h', hp⟩ => by rw [h] at h'; cases h'; exact hp⟩
  | none => isFalse (fun ⟨_, h', _⟩ => by rw [h] at h'; cases h')

variable {exec : σ → α → Option σ} {allowed : σ → α → Prop}

@[simp] theorem run_nil (s : σ) : run exec s [] = some s := rfl

theorem reach_of_run {s t : σ} {as : List α} (hall : ∀ a ∈ as, ∀ u, allowed u a)
    (h : run exec s as = some t) : Reach exec allowed s t := by
  induction as generalizing s with
  | nil =>
      simp only [run_nil, Option.some.injEq] at h
      subst h
      exact .refl
  | cons a as ih =>
      simp only [run] at h
      cases hs : exec s a with
      | none => rw [hs] at h; cases h
      | some u =>
          rw [hs] at h
          have hstep : Step exec allowed s u := ⟨a, hall a (by simp) s, hs⟩
          exact Relation.ReflTransGen.head hstep (ih (fun b hb => hall b (by simp [hb])) h)

theorem reach_of_endsIn {s : σ} {as : List α} {P : σ → Prop} (hall : ∀ a ∈ as, ∀ u, allowed u a)
    (h : EndsIn exec s as P) : ∃ t, Reach exec allowed s t ∧ P t := by
  obtain ⟨t, hrun, hp⟩ := h
  exact ⟨t, reach_of_run hall hrun, hp⟩

theorem reach_of_runAllowed [∀ s a, Decidable (allowed s a)] {s t : σ} {as : List α}
    (h : runAllowed exec allowed s as = some t) : Reach exec allowed s t := by
  induction as generalizing s with
  | nil =>
      simp only [runAllowed, Option.some.injEq] at h
      subst h
      exact .refl
  | cons a as ih =>
      simp only [runAllowed] at h
      by_cases ha : allowed s a
      · rw [if_pos ha] at h
        cases hs : exec s a with
        | none => rw [hs] at h; cases h
        | some u =>
            rw [hs] at h
            exact Relation.ReflTransGen.head ⟨a, ha, hs⟩ (ih h)
      · rw [if_neg ha] at h
        cases h

theorem reach_of_endsInAllowed [∀ s a, Decidable (allowed s a)] {s : σ} {as : List α} {P : σ → Prop}
    (h : EndsInAllowed exec allowed s as P) : ∃ t, Reach exec allowed s t ∧ P t := by
  obtain ⟨t, hrun, hp⟩ := h
  exact ⟨t, reach_of_runAllowed hrun, hp⟩

theorem reach_invariant {P : σ → Prop}
    (hstep : ∀ s a t, P s → allowed s a → exec s a = some t → P t) {s t : σ}
    (h0 : P s) (h : Reach exec allowed s t) : P t := by
  induction h with
  | refl => exact h0
  | tail _ hst ih =>
      obtain ⟨a, ha, he⟩ := hst
      exact hstep _ a _ ih ha he

end Rifflex.Transition
