import Rifflex.Store.Hybrid
import Rifflex.Lib.Fill
import Rifflex.App

namespace Rifflex.MemoryStore

open Fill

def flatPairs (m : List (Int × List PartitionedUId)) : List (Int × PartitionedUId) :=
  m.flatMap (fun g => g.2.map (fun pid => (g.1, pid)))

@[simp] theorem flatPairs_nil : flatPairs [] = [] := rfl

@[simp] theorem flatPairs_cons (g : Int × List PartitionedUId) (m : List (Int × List PartitionedUId)) :
    flatPairs (g :: m) = g.2.map (fun pid => (g.1, pid)) ++ flatPairs m := rfl

theorem pickupLoop_eq_fill (required acc : Int) (l : List (Int × PartitionedUId)) :
    pickupLoop required acc l = (fill Prod.fst required acc l).map Prod.snd := by
  induction l generalizing acc with
  | nil => rfl
  | cons e rest ih =>
      obtain ⟨size, pid⟩ := e
      by_cases h : acc ≥ required
      · simp [pickupLoop, fill, h]
      · simp [pickupLoop, fill, h, ih]

theorem btreePush_perm (size : Int) (uid : PartitionedUId) (m : List (Int × List PartitionedUId)) :
    (flatPairs (btreePush size uid m)).Perm ((size, uid) :: flatPairs m) := by
  induction m with
  | nil => simp [btreePush]
  | cons g rest ih =>
      obtain ⟨k, vals⟩ := g
      by_cases heq : size = k
      · subst heq
        simp [btreePush]
      · by_cases hlt : size < k
        · simp [btreePush, heq, hlt]
        · simp only [btreePush, heq, hlt, if_false, flatPairs_cons]
          exact (ih.append_left _).trans List.perm_middle

theorem btreePush_key (size : Int) (uid : PartitionedUId) (m : List (Int × List PartitionedUId)) :
    ∀ g ∈ btreePush size uid m, g.1 = size ∨ ∃ g' ∈ m, g.1 = g'.1 := by
  induction m with
  | nil => simp [btreePush]
  | cons e rest ih =>
      obtain ⟨k, vals⟩ := e
      intro g hg
      simp only [btreePush] at hg
      split_ifs at hg with heq hlt
      · rcases List.mem_cons.mp hg with rfl | hg
        · exact .inr ⟨_, List.mem_cons_self, rfl⟩
        · exact .inr ⟨g, List.mem_cons_of_mem _ hg, rfl⟩
      · rcases List.mem_cons.mp hg with rfl | hg
        · exact .inl rfl
        · exact .inr ⟨g, hg, rfl⟩
      · rcases List.mem_cons.mp hg with rfl | hg
        · exact .inr ⟨_, List.mem_cons_self, rfl⟩
        · rcases ih g hg with h | ⟨g', hg', h⟩
          · exact .inl h
          · exact .inr ⟨g', List.mem_cons_of_mem _ hg', h⟩

theorem btreePush_sorted (size : Int) (uid : PartitionedUId) {m : List (Int × List PartitionedUId)}
    (hm : m.Pairwise (fun a b => a.1 < b.1)) : (btreePush size uid m).Pairwise (fun a b => a.1 < b.1) := by
  induction m with
  | nil => simp [btreePush]
  | cons e rest ih =>
      obtain ⟨k, vals⟩ := e
      obtain ⟨hk, hrest⟩ := List.pairwise_cons.mp hm
      simp only [btreePush]
      split_ifs with heq hlt
      · exact List.Pairwise.cons hk hrest
      · refine List.Pairwise.cons ?_ hm
        intro g hg
        rcases List.mem_cons.mp hg with rfl | hg
        · exact hlt
        · exact lt_trans hlt (hk g hg)
      · refine List.Pairwise.cons ?_ (ih hrest)
        intro g hg
        rcases btreePush_key size uid rest g hg with h | ⟨g', hg', h⟩
        · rw [h]
          omega
        · rw [h]
          exact hk g' hg'

theorem sortedTreeMap_spec (snapshot : List (PartitionedUId × Int)) :
    (flatPairs (sortedTreeMap snapshot)).Perm (snapshot.map (fun e => (e.2, e.1))) ∧
      (sortedTreeMap snapshot).Pairwise (fun a b => a.1 < b.1) := by
  suffices h : ∀ (m : List (Int × List PartitionedUId)), m.Pairwise (fun a b => a.1 < b.1) →
      (flatPairs (snapshot.foldl (fun m entry => btreePush entry.2 entry.1 m) m)).Perm
          (snapshot.reverse.map (fun e => (e.2, e.1)) ++ flatPairs m) ∧
        (snapshot.foldl (fun m entry => btreePush entry.2 entry.1 m) m).Pairwise (fun a b => a.1 < b.1) by
    obtain ⟨hperm, hsorted⟩ := h [] List.Pairwise.nil
    refine ⟨hperm.trans ?_, hsorted⟩
    rw [flatPairs_nil, List.append_nil, List.map_reverse]
    exact List.reverse_perm _
  induction snapshot with
  | nil => intro m hm; simpa using hm
  | cons e rest ih =>
      intro m hm
      obtain ⟨hperm, hsorted⟩ := ih (btreePush e.2 e.1 m) (btreePush_sorted e.2 e.1 hm)
      refine ⟨hperm.trans ?_, hsorted⟩
      simpa using (btreePush_perm e.2 e.1 m).append_left ((rest.map (fun e => (e.2, e.1))).reverse)

theorem flatPairs_reverse_antitone {m : List (Int × List PartitionedUId)}
    (hm : m.Pairwise (fun a b => a.1 < b.1)) :
    (flatPairs m.reverse).Pairwise (fun a b => b.1 ≤ a.1) := by
  apply List.pairwise_flatMap.mpr
  constructor
  · intro g _
    apply List.pairwise_map.mpr
    exact List.pairwise_of_forall (fun _ _ => le_refl g.1)
  · apply (List.pairwise_reverse.mpr hm).imp
    intro g h hlt x hx y hy
    obtain ⟨_, _, rfl⟩ := List.mem_map.mp hx
    obtain ⟨_, _, rfl⟩ := List.mem_map.mp hy
    exact le_of_lt hlt

theorem sum_dropLast_lt {required : Int} (hreq : 0 < required) (l : List (Int × PartitionedUId)) :
    ((fill Prod.fst required 0 l).dropLast.map Prod.fst).sum < required := by
  have hbelow := fill_startsBelow Prod.fst required 0 l
  cases hc : fill Prod.fst required 0 l using List.reverseRecOn with
  | nil => simpa using hreq
  | append_singleton init last _ =>
      rw [hc] at hbelow
      have := hbelow init.length (by simp)
      simpa [weight, List.take_left'] using this

theorem pickup_shortest_largest_first (s : MemoryStore) (memTargetLen : Int)
    (hreq : 0 < s.budget.inner.used - memTargetLen) (hsizes : ∀ e ∈ s.stagingSnapshot, 0 ≤ e.2) :
    ∃ order chosen : List (Int × PartitionedUId),
      order.Perm (s.stagingSnapshot.map (fun e => (e.2, e.1))) ∧
      order.Pairwise (fun a b => b.1 ≤ a.1) ∧
      chosen <+: order ∧
      s.pickupSpilledBlocks memTargetLen = some (chosen.map Prod.snd) ∧
      (s.budget.inner.used - memTargetLen ≤ (s.stagingSnapshot.map Prod.snd).sum →
        s.budget.inner.used - memTargetLen ≤ (chosen.map Prod.fst).sum) ∧
      ((s.stagingSnapshot.map Prod.snd).sum < s.budget.inner.used - memTargetLen → chosen = order) ∧
      (chosen.dropLast.map Prod.fst).sum < s.budget.inner.used - memTargetLen := by
  set required := s.budget.inner.used - memTargetLen
  set order := flatPairs (sortedTreeMap s.stagingSnapshot).reverse
  obtain ⟨hperm, hsorted⟩ := sortedTreeMap_spec s.stagingSnapshot
  have horder : order.Perm (s.stagingSnapshot.map (fun e => (e.2, e.1))) :=
    ((List.reverse_perm _).flatMap_right _).trans hperm
  have htotal : (order.map Prod.fst).sum = (s.stagingSnapshot.map Prod.snd).sum := by
    rw [(horder.map Prod.fst).sum_eq, List.map_map]
    rfl
  have hnonneg : ∀ x ∈ order, 0 ≤ x.1 := by
    intro x hx
    obtain ⟨e, he, rfl⟩ := List.mem_map.mp (horder.subset hx)
    exact hsizes e he
  refine ⟨order, fill Prod.fst required 0 order, horder, flatPairs_reverse_antitone hsorted,
    fill_isPrefix _ _ _ _, ?_, ?_, ?_, sum_dropLast_lt hreq order⟩
  · rw [pickupSpilledBlocks, if_neg (by omega)]
    exact congrArg some (pickupLoop_eq_fill required 0 order)
  · intro hle
    rcases Nat.lt_or_ge (fill Prod.fst required 0 order).length order.length with hlt | hge
    · simpa [weight] using fill_full Prod.fst required hlt
    · have heq := (fill_isPrefix Prod.fst required 0 order).eq_of_length
        (le_antisymm (fill_isPrefix Prod.fst required 0 order).length_le hge)
      rw [heq, htotal]
      exact hle
  · intro hlt
    apply fill_of_weight_lt Prod.fst required hnonneg
    simpa [weight, htotal] using hlt

def twoPartitionStore (second : Block) : MemoryStore :=
  { MemoryStore.new 100 with
    state := [(⟨"a", 0, 0⟩, 0), (⟨"a", 0, 1⟩, 1)]
    buffers := [Mem.BufferInternal.new.append [⟨1, 10, 10, 0, List.replicate 10 0, 0⟩] 10,
      Mem.BufferInternal.new.append [second] (App.insertLen [second])]
    budget := ⟨100, ⟨0, 8, 0⟩⟩ }

theorem twoPartitionStore_pickup :
    0 < (twoPartitionStore ⟨2, 3, 3, 0, [0, 0, 0], 0⟩).budget.inner.used - 0 ∧
      (∀ e ∈ (twoPartitionStore ⟨2, 3, 3, 0, [0, 0, 0], 0⟩).stagingSnapshot, 0 ≤ e.2) ∧
      ∃ order chosen : List (Int × PartitionedUId),
        order.Perm ((twoPartitionStore ⟨2, 3, 3, 0, [0, 0, 0], 0⟩).stagingSnapshot.map
          (fun e => (e.2, e.1))) ∧
        order.Pairwise (fun a b => b.1 ≤ a.1) ∧
        chosen <+: order ∧
        (twoPartitionStore ⟨2, 3, 3, 0, [0, 0, 0], 0⟩).pickupSpilledBlocks 0 = some (chosen.map Prod.snd) ∧
        ((twoPartitionStore ⟨2, 3, 3, 0, [0, 0, 0], 0⟩).budget.inner.used - 0 ≤
            ((twoPartitionStore ⟨2, 3, 3, 0, [0, 0, 0], 0⟩).stagingSnapshot.map Prod.snd).sum →
          (twoPartitionStore ⟨2, 3, 3, 0, [0, 0, 0], 0⟩).budget.inner.used - 0 ≤
            (chosen.map Prod.fst).sum) ∧
        (((twoPartitionStore ⟨2, 3, 3, 0, [0, 0, 0], 0⟩).stagingSnapshot.map Prod.snd).sum <
            (twoPartitionStore ⟨2, 3, 3, 0, [0, 0, 0], 0⟩).budget.inner.used - 0 → chosen = order) ∧
        (chosen.dropLast.map Prod.fst).sum <
          (twoPartitionStore ⟨2, 3, 3, 0, [0, 0, 0], 0⟩).budget.inner.used - 0 :=
  ⟨by decide, by decide,
    pickup_shortest_largest_first (twoPartitionStore ⟨2, 3, 3, 0, [0, 0, 0], 0⟩) 0 (by decide) (by decide)⟩

theorem negative_staging_stops_early :
    (twoPartitionStore ⟨2, -5, 0, 0, [], 0⟩).stagingSnapshot.map Prod.snd = [10, -5] ∧
      (twoPartitionStore ⟨2, -5, 0, 0, [], 0⟩).budget.inner.used - 0 = 8 ∧
      (twoPartitionStore ⟨2, -5, 0, 0, [], 0⟩).pickupSpilledBlocks 0 = some [⟨"a", 0, 0⟩] := by
  decide

end Rifflex.MemoryStore
