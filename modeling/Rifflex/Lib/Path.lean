import Mathlib.Data.List.Basic

namespace Rifflex.Path

theorem append_cons_inj_of_not_mem {α : Type} {c : α} : ∀ {l₁ l₂ m₁ m₂ : List α},
    l₁ ++ c :: m₁ = l₂ ++ c :: m₂ → c ∉ m₁ → c ∉ m₂ → l₁ = l₂ ∧ m₁ = m₂
  | [], [], _, _, h, _, _ => ⟨rfl, by simpa using h⟩
  | [], x :: l₂, m₁, m₂, h, h₁, _ => by
      simp only [List.nil_append, List.cons_append, List.cons.injEq] at h
      exact absurd (h.2 ▸ List.mem_append_right l₂ List.mem_cons_self) h₁
  | x :: l₁, [], m₁, m₂, h, _, h₂ => by
      simp only [List.nil_append, List.cons_append, List.cons.injEq] at h
      exact absurd (h.2 ▸ List.mem_append_right l₁ List.mem_cons_self) h₂
  | x :: l₁, y :: l₂, m₁, m₂, h, h₁, h₂ => by
      simp only [List.cons_append, List.cons.injEq] at h
      obtain ⟨hl, hm⟩ := append_cons_inj_of_not_mem h.2 h₁ h₂
      exact ⟨by rw [h.1, hl], hm⟩

theorem not_mem_toString_int {c : Char} (hd : c.isDigit = false) (hm : c ≠ '-') (n : Int) :
    c ∉ (toString n).toList := by
  have hnat : ∀ k : Nat, c ∉ k.repr.toList := by
    intro k hk
    rw [Nat.toList_repr] at hk
    have := Nat.isDigit_of_mem_toDigits (by omega) (by omega) hk
    rw [hd] at this
    exact absurd this (by simp)
  rw [Int.toString_eq_repr, Int.repr_eq_if]
  split
  · exact hnat _
  · intro h
    rw [String.toList_append] at h
    rcases List.mem_append.mp h with h | h
    · simp at h
      exact hm h
    · exact hnat _ h

end Rifflex.Path
