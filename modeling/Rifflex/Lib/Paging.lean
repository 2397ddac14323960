import Mathlib.Data.List.Infix
import Mathlib.Data.List.Nodup

namespace Rifflex.Paging

variable {α β κ : Type} [DecidableEq κ] (key : α → κ)

def after (k : κ) : List α → Option (List α)
  | [] => none
  | x :: xs => if key x = k then some xs else after k xs

def resume (L : List α) (k : κ) : List α := (after key k L).getD L

def readAll (fetch : κ → List β) (keyOf : β → κ) : Nat → κ → Option (List (List β))
  | 0, _ => none
  | n + 1, k =>
      match (fetch k).getLast? with
      | none => some []
      | some b => (readAll fetch keyOf n (keyOf b)).map (fetch k :: ·)

theorem after_eq_none {k : κ} {L : List α} (h : k ∉ L.map key) : after key k L = none := by
  induction L with
  | nil => rfl
  | cons x xs ih =>
      have hx : key x ≠ k := fun e => h (by simp [← e])
      have hxs : k ∉ xs.map key := fun hm => h (by simp at hm ⊢; exact Or.inr hm)
      simp [after, hx, ih hxs]

theorem after_split {pre post : List α} {x : α} (hnd : ((pre ++ x :: post).map key).Nodup) :
    after key (key x) (pre ++ x :: post) = some post := by
  induction pre with
  | nil => simp [after]
  | cons y ys ih =>
      have hcons : (key y :: (ys ++ x :: post).map key).Nodup := by
        simpa only [List.cons_append, List.map_cons] using hnd
      have hy : key y ≠ key x := by
        intro e
        exact (List.nodup_cons.mp hcons).1 (by simp [e])
      simpa [after, hy] using ih (List.nodup_cons.mp hcons).2

theorem after_suffix {k : κ} {L post : List α} (h : after key k L = some post) : post <:+ L := by
  induction L with
  | nil => cases h
  | cons x xs ih =>
      by_cases hx : key x = k
      · simp only [after, hx, if_true, Option.some.injEq] at h
        exact h ▸ List.suffix_cons x xs
      · simp only [after, hx, if_false] at h
        exact (ih h).trans (List.suffix_cons x xs)

theorem resume_suffix (L : List α) (k : κ) : resume key L k <:+ L := by
  cases h : after key k L with
  | none => simp [resume, h]
  | some post => simpa [resume, h] using after_suffix key h

theorem resume_not_mem {k : κ} {L : List α} (h : k ∉ L.map key) : resume key L k = L := by
  simp [resume, after_eq_none key h]

theorem resume_split {pre post : List α} {x : α} (hnd : ((pre ++ x :: post).map key).Nodup) :
    resume key (pre ++ x :: post) (key x) = post := by
  simp [resume, after_split key hnd]

theorem forall₂_snoc_left {R : β → α → Prop} {front : List β} {b : β} {p : List α}
    (h : List.Forall₂ R (front ++ [b]) p) :
    ∃ init x, p = init ++ [x] ∧ List.Forall₂ R front init ∧ R b x := by
  have hr : List.Forall₂ R (b :: front.reverse) p.reverse := by
    simpa using (List.forall₂_reverse_iff.mpr h)
  obtain ⟨x, rest, hx, hrest, hp⟩ := List.forall₂_cons_left_iff.mp hr
  refine ⟨rest.reverse, x, ?_, ?_, hx⟩
  · rw [← List.reverse_reverse p, hp]; simp
  · exact List.forall₂_reverse_iff.mp (by simpa using hrest)

section Reader

variable (fetch : κ → List β) (keyOf : β → κ) (R : β → α → Prop) (page : List α → List α)

theorem readAll_suffix (L : List α) (hnd : (L.map key).Nodup)
    (hpre : ∀ S, page S <+: S) (hne : ∀ S, S ≠ [] → page S ≠ [])
    (hkey : ∀ b a, R b a → keyOf b = key a)
    (hfetch : ∀ k, k ∈ L.map key → List.Forall₂ R (fetch k) (page (resume key L k))) :
    ∀ (n : Nat) (pre S : List α) (k : κ), L = pre ++ S → S.length < n →
      List.Forall₂ R (fetch k) (page S) →
      ∃ pages, readAll fetch keyOf n k = some pages ∧ List.Forall₂ R pages.flatten S := by
  intro n
  induction n with
  | zero => intro pre S k _ hlt; omega
  | succ n ih =>
      intro pre S k hL hlt hk
      cases hlast : (fetch k).getLast? with
      | none =>
          have hnil : fetch k = [] := List.getLast?_eq_none_iff.mp hlast
          have hS : S = [] := by
            by_contra hS
            rw [hnil, List.forall₂_nil_left_iff] at hk
            exact hne S hS hk
          exact ⟨[], by simp [readAll, hlast], by simp [hS]⟩
      | some b =>
          obtain ⟨front, hfront⟩ := List.getLast?_eq_some_iff.mp hlast
          rw [hfront] at hk
          obtain ⟨init, x, hpage, hinit, hbx⟩ := forall₂_snoc_left hk
          obtain ⟨rest, hrest⟩ := hpre S
          have hS : S = init ++ x :: rest := by rw [← hrest, hpage]; simp
          have hL' : L = (pre ++ init) ++ x :: rest := by rw [hL, hS]; simp
          have hres : resume key L (key x) = rest := by
            rw [hL']; exact resume_split key (hL' ▸ hnd)
          have hmem : key x ∈ L.map key := by rw [hL']; simp
          have hnext : List.Forall₂ R (fetch (keyOf b)) (page rest) := by
            rw [hkey b x hbx, ← hres]; exact hfetch _ hmem
          have hlen : rest.length < n := by
            have := congrArg List.length hS
            simp at this; omega
          obtain ⟨pages, hrun, hflat⟩ :=
            ih (pre ++ init ++ [x]) rest (keyOf b) (by rw [hL']; simp) hlen hnext
          refine ⟨fetch k :: pages, by simp [readAll, hlast, hrun], ?_⟩
          rw [List.flatten_cons, hfront, hS, List.append_assoc]
          exact List.rel_append hinit (List.rel_append (List.Forall₂.cons hbx .nil) hflat)

theorem readAll_exact (L : List α) (hnd : (L.map key).Nodup)
    (hpre : ∀ S, page S <+: S) (hne : ∀ S, S ≠ [] → page S ≠ [])
    (hkey : ∀ b a, R b a → keyOf b = key a) (k0 : κ) (hk0 : k0 ∉ L.map key)
    (hfetch : ∀ k, k = k0 ∨ k ∈ L.map key → List.Forall₂ R (fetch k) (page (resume key L k))) :
    ∃ pages, readAll fetch keyOf (L.length + 1) k0 = some pages ∧
      List.Forall₂ R pages.flatten L := by
  have h0 : List.Forall₂ R (fetch k0) (page L) := by
    simpa only [resume_not_mem key hk0] using hfetch k0 (.inl rfl)
  exact readAll_suffix key fetch keyOf R page L hnd hpre hne hkey
    (fun k hk => hfetch k (.inr hk)) (L.length + 1) [] L k0 (by simp) (by omega) h0

end Reader

end Rifflex.Paging
