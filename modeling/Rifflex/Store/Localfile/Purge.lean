import Rifflex.Store.Localfile

namespace Rifflex.LocalFileStore

theorem removeKey_of_find? {s : LocalFileStore} {key : String} {r : Nat}
    (h : Assoc.find? key s.partitionLocks = some r) :
    s.removeKey key = ({ s with partitionLocks := Assoc.erase key s.partitionLocks }, some r) := by
  simp [removeKey, h]

theorem removeKeys_sublist (F : List (String × Nat)) (s : LocalFileStore)
    (hF : F.Sublist s.partitionLocks) (hnd : (s.partitionLocks.map Prod.fst).Nodup) :
    (s.removeKeys (F.map Prod.fst)).1 =
        { s with partitionLocks := s.partitionLocks.filter (fun e => !decide (e.1 ∈ F.map Prod.fst)) } ∧
      (s.removeKeys (F.map Prod.fst)).2 = (F.map (fun e => (s.lockedObj e.2).pointer)).sum := by
  induction F generalizing s with
  | nil => simp [removeKeys]
  | cons e rest ih =>
      obtain ⟨k, r⟩ := e
      have hfind : Assoc.find? k s.partitionLocks = some r := Assoc.find?_of_mem hnd (hF.subset (by simp))
      have hrest : ∀ e' ∈ rest, e'.1 ≠ k := by
        have hnd' := (hF.map Prod.fst).nodup hnd
        simp only [List.map_cons, List.nodup_cons] at hnd'
        exact fun e' he' h => hnd'.1 (h ▸ List.mem_map_of_mem he')
      have hsub : rest.Sublist (Assoc.erase k s.partitionLocks) := by
        have := (List.sublist_of_cons_sublist hF).filter (fun p => !decide (p.1 = k))
        rwa [List.filter_eq_self.mpr (by simpa using hrest)] at this
      obtain ⟨h1, h2⟩ := ih { s with partitionLocks := Assoc.erase k s.partitionLocks } hsub
        ((List.filter_sublist.map Prod.fst).nodup hnd)
      simp only [List.map_cons, removeKeys, removeKey_of_find? hfind, h1, h2]
      refine ⟨?_, rfl⟩
      simp only [Assoc.erase, List.filter_filter, List.mem_cons]
      congr 2
      funext e
      by_cases he : e.1 = k <;> simp [he]

theorem keysToDelete_eq (s : LocalFileStore) (dir : String) :
    s.keysToDelete dir = (s.partitionLocks.filter (fun e => e.1.startsWith dir)).map Prod.fst := by
  simp [keysToDelete, List.filter_map, Function.comp_def]

theorem purge_eq (s : LocalFileStore) (appId : String) (shuffleId : Option Int)
    (hnd : (s.partitionLocks.map Prod.fst).Nodup) :
    let dir := purgeDir appId shuffleId
    (s.purge appId shuffleId).1.partitionLocks = s.partitionLocks.filter (fun e => !e.1.startsWith dir) ∧
      (s.purge appId shuffleId).2 =
        ((s.partitionLocks.filter (fun e => e.1.startsWith dir)).map (fun e => (s.lockedObj e.2).pointer)).sum := by
  intro dir
  let s' : LocalFileStore := { s with localDisks := s.localDisks.map (fun d : LocalDisk => d.delete dir) }
  have hF : (s'.partitionLocks.filter (fun e => e.1.startsWith dir)).Sublist s'.partitionLocks :=
    List.filter_sublist
  obtain ⟨h1, h2⟩ := removeKeys_sublist _ s' hF hnd
  have hkeep : ∀ e ∈ s'.partitionLocks, (!decide (e.1 ∈ s'.keysToDelete dir)) = !e.1.startsWith dir := by
    intro e he
    rw [keysToDelete_eq]
    by_cases hp : e.1.startsWith dir = true
    · simp only [hp, Bool.not_true, Bool.not_eq_false', decide_eq_true_eq, List.mem_map,
        List.mem_filter]
      exact ⟨e, ⟨he, hp⟩, rfl⟩
    · simp only [hp, Bool.not_false, Bool.not_eq_true', decide_eq_false_iff_not, List.mem_map,
        List.mem_filter, not_exists, not_and]
      rintro e' ⟨-, hp'⟩ he'
      exact hp (he' ▸ hp')
  refine ⟨?_, ?_⟩
  · simp only [purge, ← keysToDelete_eq] at h1 ⊢
    rw [h1]
    exact List.filter_congr hkeep
  · simp only [purge, ← keysToDelete_eq] at h2 ⊢
    exact h2

def twoApps : LocalFileStore :=
  ⟨[LocalDisk.new "/data"], 0, [("a1/0/partition-0.data", 0), ("a10/0/partition-0.data", 1)],
    [⟨0, 10, false⟩, ⟨0, 20, false⟩]⟩

theorem purge_app_removes_prefixed_app :
    (twoApps.purge "a1" none).1.partitionLocks = [] ∧ (twoApps.purge "a1" none).2 = 30 := by
  have h := purge_eq twoApps "a1" none (by decide)
  exact ⟨h.1.trans (by decide +kernel), h.2.trans (by decide +kernel)⟩

end Rifflex.LocalFileStore
