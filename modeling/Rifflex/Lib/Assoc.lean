import Mathlib

namespace Rifflex.Assoc

variable {κ ν : Type} [DecidableEq κ]

def find? (k : κ) : List (κ × ν) → Option ν
  | [] => none
  | p :: ps => if p.1 = k then some p.2 else find? k ps

def insert (k : κ) (v : ν) (l : List (κ × ν)) : List (κ × ν) :=
  match find? k l with
  | some _ => l.map (fun p => if p.1 = k then (k, v) else p)
  | none => l ++ [(k, v)]

def erase (k : κ) (l : List (κ × ν)) : List (κ × ν) := l.filter (fun p => !decide (p.1 = k))

def keys (l : List (κ × ν)) : List κ := l.map Prod.fst

@[simp] theorem find?_nil (k : κ) : find? k ([] : List (κ × ν)) = none := rfl

theorem find?_eq_none {k : κ} {l : List (κ × ν)} : find? k l = none ↔ k ∉ keys l := by
  induction l with
  | nil => simp [keys]
  | cons p ps ih =>
      by_cases hp : p.1 = k
      · simp [find?, hp, keys]
      · simp [find?, hp, keys, ih, Ne.symm hp]

theorem mem_of_find? {k : κ} {v : ν} {l : List (κ × ν)} (h : find? k l = some v) :
    (k, v) ∈ l := by
  induction l with
  | nil => simp at h
  | cons p ps ih =>
      by_cases hp : p.1 = k
      · simp only [find?, hp, if_true, Option.some.injEq] at h
        subst h
        exact List.mem_cons.mpr (.inl (by rw [← hp]))
      · simp only [find?, hp, if_false] at h
        exact List.mem_cons_of_mem _ (ih h)

theorem find?_of_mem {k : κ} {v : ν} {l : List (κ × ν)} (hnd : (keys l).Nodup) (hm : (k, v) ∈ l) :
    find? k l = some v := by
  induction l with
  | nil => simp at hm
  | cons p ps ih =>
      obtain ⟨hp, hps⟩ := List.nodup_cons.mp hnd
      rcases List.mem_cons.mp hm with rfl | hm
      · simp [find?]
      · have hk : p.1 ≠ k := fun h => hp (h ▸ List.mem_map_of_mem hm)
        simp [find?, hk, ih hps hm]

theorem find?_append (k : κ) (l₁ l₂ : List (κ × ν)) :
    find? k (l₁ ++ l₂) = (find? k l₁).or (find? k l₂) := by
  induction l₁ with
  | nil => simp
  | cons p ps ih =>
      by_cases hp : p.1 = k
      · simp [find?, hp]
      · simp [find?, hp, ih]

theorem find?_insert_self (k : κ) (v : ν) (l : List (κ × ν)) : find? k (insert k v l) = some v := by
  unfold insert
  cases hf : find? k l with
  | none => simp [find?_append, hf, find?]
  | some w =>
      induction l with
      | nil => simp at hf
      | cons p ps ih =>
          by_cases hp : p.1 = k
          · simp [find?, hp]
          · simp only [find?, hp, if_false] at hf
            simp [find?, hp, ih hf]

theorem find?_insert_ne {k k' : κ} (h : k' ≠ k) (v : ν) (l : List (κ × ν)) :
    find? k' (insert k v l) = find? k' l := by
  unfold insert
  cases find? k l with
  | none =>
      have : find? k' [(k, v)] = none := by simp [find?, Ne.symm h]
      simp [find?_append, this]
  | some w =>
      induction l with
      | nil => rfl
      | cons p ps ih =>
          by_cases hp : p.1 = k
          · simp [find?, hp, Ne.symm h, ih]
          · simp [find?, hp, ih]

theorem find?_erase_self (k : κ) (l : List (κ × ν)) : find? k (erase k l) = none := by
  induction l with
  | nil => rfl
  | cons p ps ih =>
      by_cases hp : p.1 = k
      · simpa [erase, hp] using ih
      · simpa [erase, find?, hp] using ih

theorem find?_erase_ne {k k' : κ} (h : k' ≠ k) (l : List (κ × ν)) :
    find? k' (erase k l) = find? k' l := by
  induction l with
  | nil => rfl
  | cons p ps ih =>
      by_cases hp : p.1 = k
      · simpa [erase, find?, hp, Ne.symm h] using ih
      · simp only [erase] at ih
        simp [erase, hp, find?, ih]

theorem find?_erase_of_none {k : κ} {l : List (κ × ν)} (h : find? k l = none) (k' : κ) :
    find? k (erase k' l) = none := by
  by_cases hc : k = k'
  · rw [hc, find?_erase_self]
  · rw [find?_erase_ne hc, h]

theorem find?_append_of_none {k k' : κ} {l : List (κ × ν)} (h : find? k l = none) (hk : k' ≠ k) (v : ν) :
    find? k (l ++ [(k', v)]) = none := by
  simp [find?_append, h, find?, hk]

theorem find?_append_of_some {k : κ} {v : ν} {l₁ : List (κ × ν)} (h : find? k l₁ = some v)
    (l₂ : List (κ × ν)) : find? k (l₁ ++ l₂) = some v := by
  rw [find?_append, h, Option.some_or]

theorem find?_append_singleton_cases {k k' : κ} {v r : ν} {l : List (κ × ν)}
    (h : find? k (l ++ [(k', v)]) = some r) :
    find? k l = some r ∨ (find? k l = none ∧ k = k' ∧ r = v) := by
  rw [find?_append] at h
  cases hk : find? k l with
  | some u =>
      rw [hk, Option.some_or] at h
      exact .inl h
  | none =>
      rw [hk, Option.none_or] at h
      simp only [find?] at h
      split_ifs at h with hk'
      cases h
      exact .inr ⟨rfl, hk'.symm, rfl⟩

theorem find?_of_append_none {k : κ} {l₁ l₂ : List (κ × ν)} (h : find? k (l₁ ++ l₂) = none) :
    find? k l₁ = none := by
  rw [find?_append] at h
  cases hk : find? k l₁ with
  | none => rfl
  | some u => rw [hk, Option.some_or] at h; cases h

theorem keys_insert_of_find?_none {k : κ} {v : ν} {l : List (κ × ν)} (h : find? k l = none) :
    insert k v l = l ++ [(k, v)] := by
  simp [insert, h]

theorem sum_erase {f : κ × ν → Int} {k : κ} {v : ν} {l : List (κ × ν)} (hnd : (keys l).Nodup)
    (h : find? k l = some v) : ((erase k l).map f).sum = (l.map f).sum - f (k, v) := by
  induction l with
  | nil => simp at h
  | cons p ps ih =>
      simp only [keys, List.map_cons, List.nodup_cons] at hnd
      by_cases hp : p.1 = k
      · simp only [find?, hp, if_true, Option.some.injEq] at h
        have hrest : erase k ps = ps := by
          refine List.filter_eq_self.mpr (fun q hq => ?_)
          have : q.1 ≠ k := fun hq' => hnd.1 (hp ▸ hq' ▸ List.mem_map_of_mem hq)
          simpa using this
        have herase : erase k (p :: ps) = ps := by
          simp only [erase, List.filter_cons, hp, decide_true, Bool.not_true] at hrest ⊢
          exact hrest
        rw [herase, show p = (k, v) from Prod.ext hp h]
        simp
      · simp only [find?, hp, if_false] at h
        have := ih hnd.2 h
        simp only [erase, List.filter_cons, hp, decide_false, Bool.not_false, if_true,
          List.map_cons, List.sum_cons] at this ⊢
        omega

theorem keys_erase (k : κ) (l : List (κ × ν)) : keys (erase k l) = (keys l).filter (· ≠ k) := by
  simp [keys, erase, List.filter_map, Function.comp_def]

theorem keys_insert (k : κ) (v : ν) (l : List (κ × ν)) :
    keys (insert k v l) = if k ∈ keys l then keys l else keys l ++ [k] := by
  unfold insert
  cases hf : find? k l with
  | none =>
      rw [if_neg (find?_eq_none.mp hf)]
      simp [keys]
  | some w =>
      have hk : k ∈ keys l := by
        by_contra h
        rw [find?_eq_none.mpr h] at hf
        cases hf
      rw [if_pos hk]
      simp only [keys, List.map_map]
      refine List.map_congr_left (fun p _ => ?_)
      by_cases hp : p.1 = k <;> simp [hp]

theorem keys_insert_nodup (k : κ) (v : ν) {l : List (κ × ν)} (hnd : (keys l).Nodup) :
    (keys (insert k v l)).Nodup := by
  rw [keys_insert]
  split_ifs with hk
  · exact hnd
  · refine List.nodup_append.mpr ⟨hnd, by simp, fun a ha b hb => ?_⟩
    rw [List.mem_singleton.mp hb]
    exact fun h => hk (h ▸ ha)

theorem mem_keys_insert {k k' : κ} {v : ν} {l : List (κ × ν)} :
    k' ∈ keys (insert k v l) ↔ k' ∈ keys l ∨ k' = k := by
  rw [keys_insert]
  split_ifs with hk
  · exact ⟨.inl, fun h => h.elim id (fun h => h ▸ hk)⟩
  · simp

theorem mem_keys_erase {k k' : κ} {l : List (κ × ν)} :
    k' ∈ keys (erase k l) ↔ k' ∈ keys l ∧ k' ≠ k := by
  simp [keys_erase]

theorem sum_replace_le {f : κ × ν → Int} {k : κ} {v : ν} {l : List (κ × ν)} (hnd : (keys l).Nodup)
    (hf : ∀ p ∈ l, 0 ≤ f p) (hv : 0 ≤ f (k, v)) :
    ((l.map (fun p => if p.1 = k then (k, v) else p)).map f).sum ≤ (l.map f).sum + f (k, v) := by
  induction l with
  | nil => simpa using hv
  | cons p ps ih =>
      simp only [keys, List.map_cons, List.nodup_cons] at hnd
      have hps : ∀ q ∈ ps, 0 ≤ f q := fun q hq => hf q (List.mem_cons_of_mem p hq)
      by_cases hp : p.1 = k
      · have hrest : ps.map (fun q => if q.1 = k then (k, v) else q) = ps := by
          refine (List.map_congr_left (g := id) (fun q hq => ?_)).trans (List.map_id ps)
          have : q.1 ≠ k := fun h => hnd.1 (hp ▸ h ▸ List.mem_map_of_mem hq)
          simp [this]
        have hp0 := hf p List.mem_cons_self
        simp only [List.map_cons, hp, if_true, hrest, List.sum_cons]
        omega
      · have := ih hnd.2 hps
        simp only [List.map_cons, hp, if_false, List.sum_cons]
        omega

theorem sum_insert_le {f : κ × ν → Int} {k : κ} {v : ν} {l : List (κ × ν)} (hnd : (keys l).Nodup)
    (hf : ∀ p ∈ l, 0 ≤ f p) (hv : 0 ≤ f (k, v)) :
    ((insert k v l).map f).sum ≤ (l.map f).sum + f (k, v) := by
  unfold insert
  split
  · exact sum_replace_le hnd hf hv
  · simp

theorem sum_map_update {α β : Type} [DecidableEq β] {l : List α} {g : α → β} (hnd : (l.map g).Nodup)
    {x : α} (hx : x ∈ l) {F F' : α → Int} (hF : ∀ e ∈ l, g e ≠ g x → F' e = F e) :
    (l.map F').sum = (l.map F).sum - F x + F' x := by
  induction l with
  | nil => simp at hx
  | cons p ps ih =>
      simp only [List.map_cons, List.nodup_cons] at hnd
      simp only [List.map_cons, List.sum_cons]
      rcases List.mem_cons.mp hx with rfl | hx
      · have hrest : ps.map F' = ps.map F :=
          List.map_congr_left (fun e he => hF e (List.mem_cons_of_mem _ he)
            (fun h => hnd.1 (h ▸ List.mem_map_of_mem he)))
        rw [hrest]
        omega
      · have hp : g p ≠ g x := fun h => hnd.1 (h ▸ List.mem_map_of_mem hx)
        rw [hF p List.mem_cons_self hp,
          ih hnd.2 hx (fun e he => hF e (List.mem_cons_of_mem _ he))]
        omega

theorem mem_insert {k : κ} {v : ν} {l : List (κ × ν)} {p : κ × ν} (h : p ∈ insert k v l) :
    p ∈ l ∨ p = (k, v) := by
  unfold insert at h
  split at h
  · obtain ⟨q, hq, rfl⟩ := List.mem_map.mp h
    by_cases hk : q.1 = k
    · simp [hk]
    · simp [hk, hq]
  · rcases List.mem_append.mp h with h | h
    · exact .inl h
    · exact .inr (List.mem_singleton.mp h)

end Rifflex.Assoc
