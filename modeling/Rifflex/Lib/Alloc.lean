import Mathlib.Tactic

namespace Rifflex.Alloc

/-! A counter that issues ids to holders, each of which later records its id in a store:
every id is issued once, so a record never meets its id in the store already. -/

inductive Move : List Int → Int → Option Int → List Int → Int → Option Int → Prop
  | keep {ids ids' : List Int} {c c' : Int} (hids : ids'.Sublist ids) (hc : c' = c) :
      Move ids c none ids' c' none
  | issue (ids : List Int) (c : Int) : Move ids c none ids (c + 1) (some (c + 1))
  | record (ids : List Int) (c id : Int) :
      Move ids c (some id) (if id ∈ ids then ids else ids ++ [id]) c none

structure Fresh (ids : List Int) (c : Int) (held : List (Option Int)) : Prop where
  nodup : ids.Nodup
  issued : ∀ id ∈ ids, id ≤ c
  heldIssued : ∀ id, some id ∈ held → id ≤ c
  unique : ∀ id, held.count (some id) + (if id ∈ ids then 1 else 0) ≤ 1

variable {ids ids' : List Int} {c c' : Int} {held : List (Option Int)}

theorem Fresh.not_mem_of_held (h : Fresh ids c held) {id : Int} (hid : some id ∈ held) : id ∉ ids := by
  intro hmem
  have hcount := List.count_pos_iff.mpr hid
  have := h.unique id
  rw [if_pos hmem] at this
  omega

theorem Fresh.append_none (h : Fresh ids c held) : Fresh ids c (held ++ [none]) where
  nodup := h.nodup
  issued := h.issued
  heldIssued id hid := by
    rcases List.mem_append.mp hid with hid | hid
    · exact h.heldIssued id hid
    · simp at hid
  unique id := by
    have := h.unique id
    simp only [List.count_append, List.count_singleton] at this ⊢
    simpa using this

theorem Fresh.sublist (h : Fresh ids c held) (hsub : ids'.Sublist ids) : Fresh ids' c held where
  nodup := hsub.nodup h.nodup
  issued id hid := h.issued id (hsub.subset hid)
  heldIssued := h.heldIssued
  unique id := by
    have := h.unique id
    by_cases hmem : id ∈ ids'
    · rw [if_pos hmem, if_pos (hsub.subset hmem)] at *
      exact this
    · rw [if_neg hmem]
      omega

section Move

variable {i : Nat} {before after : Option Int}

theorem count_set (hi : held[i]? = some before) (a b : Option Int) :
    (held.set i a).count b + (if before = b then 1 else 0) =
      held.count b + (if a = b then 1 else 0) := by
  obtain ⟨hlt, hget⟩ := List.getElem?_eq_some_iff.mp hi
  have hle : (if before = b then 1 else 0) ≤ held.count b := by
    split
    · rename_i hb
      exact List.count_pos_iff.mpr (hb ▸ hget ▸ List.getElem_mem hlt)
    · exact Nat.zero_le _
  rw [List.count_set hlt, hget]
  simp only [beq_iff_eq]
  omega

theorem mem_set_of_ne_none {b : Option Int} (hb : b ∈ held.set i after) (hne : b ≠ after) : b ∈ held := by
  rcases List.mem_or_eq_of_mem_set hb with hb | hb
  · exact hb
  · exact absurd hb hne

theorem Fresh.keep (h : Fresh ids c held) (hi : held[i]? = some none) (hsub : ids'.Sublist ids) :
    Fresh ids' c (held.set i none) := by
  have hs := h.sublist hsub
  refine ⟨hs.nodup, hs.issued, fun id hid => h.heldIssued id (mem_set_of_ne_none hid (by simp)), ?_⟩
  intro id
  have hcount := count_set hi none (some id)
  have := hs.unique id
  simp only [reduceCtorEq, if_false] at hcount
  omega

theorem Fresh.issue (h : Fresh ids c held) (hi : held[i]? = some none) :
    Fresh ids (c + 1) (held.set i (some (c + 1))) := by
  refine ⟨h.nodup, fun id hid => by have := h.issued id hid; omega, ?_, ?_⟩
  · intro id hid
    rcases List.mem_or_eq_of_mem_set hid with hid | hid
    · have := h.heldIssued id hid
      omega
    · cases hid
      exact le_refl _
  · intro id
    have hcount := count_set hi (some (c + 1)) (some id)
    have hold := h.unique id
    simp only [reduceCtorEq, if_false, Option.some.injEq] at hcount
    by_cases hnew : c + 1 = id
    · -- nothing held or stored the new id before
      subst hnew
      have hnotHeld : held.count (some (c + 1)) = 0 :=
        List.count_eq_zero.mpr (fun hmem => by have := h.heldIssued _ hmem; omega)
      have hnotStored : c + 1 ∉ ids := fun hmem => by have := h.issued _ hmem; omega
      rw [if_pos rfl] at hcount
      rw [if_neg hnotStored]
      omega
    · rw [if_neg hnew] at hcount
      omega

theorem Fresh.record (h : Fresh ids c held) {id : Int} (hi : held[i]? = some (some id)) :
    Fresh (if id ∈ ids then ids else ids ++ [id]) c (held.set i none) := by
  have hheld : some id ∈ held := List.mem_of_getElem? hi
  have hfresh := h.not_mem_of_held hheld
  rw [if_neg hfresh]
  refine ⟨?_, ?_, ?_, ?_⟩
  · exact h.nodup.append (List.nodup_singleton id) (List.disjoint_singleton.mpr hfresh)
  · intro id' hid'
    rcases List.mem_append.mp hid' with hid' | hid'
    · exact h.issued id' hid'
    · rw [List.mem_singleton.mp hid']
      exact h.heldIssued id hheld
  · exact fun id' hid' => h.heldIssued id' (mem_set_of_ne_none hid' (by simp))
  · intro id'
    have hcount := count_set hi none (some id')
    have hold := h.unique id'
    simp only [reduceCtorEq, if_false, Option.some.injEq] at hcount
    by_cases hsame : id = id'
    · subst hsame
      rw [if_pos rfl] at hcount
      rw [if_neg hfresh] at hold
      rw [if_pos (List.mem_append_right _ (List.mem_singleton_self _))]
      omega
    · have hmem : id' ∈ ids ++ [id] ↔ id' ∈ ids := by
        simp only [List.mem_append, List.mem_singleton]
        exact ⟨fun h' => h'.resolve_right (Ne.symm hsame), Or.inl⟩
      rw [if_neg hsame] at hcount
      simp only [hmem]
      omega

theorem Fresh.move (h : Fresh ids c held) (hi : held[i]? = some before)
    (hmove : Move ids c before ids' c' after) : Fresh ids' c' (held.set i after) := by
  cases hmove with
  | keep hsub hc =>
      subst hc
      exact h.keep hi hsub
  | issue => exact h.issue hi
  | record => exact h.record hi

end Move

end Rifflex.Alloc
