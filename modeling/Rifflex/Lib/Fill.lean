import Mathlib.Tactic

namespace Rifflex.Fill

variable {α : Type} (w : α → Int) (budget : Int)

-- Items taken in order while the weight taken before each stays below the budget.
def fill : Int → List α → List α
  | _, [] => []
  | acc, x :: xs => if acc ≥ budget then [] else x :: fill (acc + w x) xs

def weight (xs : List α) : Int := (xs.map w).sum

def StartsBelow (acc : Int) (R : List α) : Prop :=
  ∀ i < R.length, acc + weight w (R.take i) < budget

@[simp] theorem weight_nil : weight w [] = 0 := rfl

@[simp] theorem weight_cons (x : α) (xs : List α) : weight w (x :: xs) = w x + weight w xs := by
  simp [weight]

theorem fill_isPrefix (acc : Int) (xs : List α) : fill w budget acc xs <+: xs := by
  induction xs generalizing acc with
  | nil => exact List.prefix_refl []
  | cons x xs ih =>
      by_cases h : acc ≥ budget
      · simp [fill, h]
      · simpa [fill, h] using ih (acc + w x)

theorem fill_startsBelow (acc : Int) (xs : List α) : StartsBelow w budget acc (fill w budget acc xs) := by
  induction xs generalizing acc with
  | nil => intro i hi; simp [fill] at hi
  | cons x xs ih =>
      by_cases h : acc ≥ budget
      · intro i hi; simp [fill, h] at hi
      · intro i hi
        rw [fill, if_neg h] at hi ⊢
        cases i with
        | zero => simpa using h
        | succ i =>
            have := ih (acc + w x) i (by simpa using hi)
            simp only [List.take_succ_cons, weight_cons]
            omega

theorem fill_full {acc : Int} {xs : List α} (h : (fill w budget acc xs).length < xs.length) :
    budget ≤ acc + weight w (fill w budget acc xs) := by
  induction xs generalizing acc with
  | nil => simp at h
  | cons x xs ih =>
      by_cases hb : acc ≥ budget
      · simp [fill, hb]
      · rw [fill, if_neg hb] at h ⊢
        have := @ih (acc + w x) (by simpa using h)
        simp only [weight_cons]
        omega

theorem fill_longest {acc : Int} {xs R : List α} (hR : R <+: xs) (hb : StartsBelow w budget acc R) :
    R.length ≤ (fill w budget acc xs).length := by
  induction xs generalizing acc R with
  | nil => simp [List.prefix_nil.mp hR]
  | cons x xs ih =>
      cases R with
      | nil => simp
      | cons y R =>
          obtain ⟨rfl, hR'⟩ := List.cons_prefix_cons.mp hR
          have h0 : acc < budget := by simpa using hb 0 (by simp)
          have htail : StartsBelow w budget (acc + w y) R := by
            intro i hi
            have := hb (i + 1) (by simpa using hi)
            simp only [List.take_succ_cons, weight_cons] at this
            omega
          rw [fill, if_neg (by omega)]
          simpa using ih hR' htail

theorem fill_of_weight_lt {acc : Int} {xs : List α} (hw : ∀ x ∈ xs, 0 ≤ w x)
    (h : acc + weight w xs < budget) : fill w budget acc xs = xs := by
  induction xs generalizing acc with
  | nil => rfl
  | cons x xs ih =>
      have hx := hw x (by simp)
      have hrest : 0 ≤ weight w xs := by
        simp only [weight]
        exact List.sum_nonneg (by simpa using fun y hy => hw y (by simp [hy]))
      simp only [weight_cons] at h
      rw [fill, if_neg (by omega), ih (fun y hy => hw y (by simp [hy])) (by omega)]

end Rifflex.Fill
