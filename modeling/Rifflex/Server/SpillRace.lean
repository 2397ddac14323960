import Rifflex.Server.Capacity

namespace Rifflex

namespace MemoryStore

theorem lookupCandidates_eq_none {s : MemoryStore} : ∀ {candidates : List PartitionedUId},
    s.lookupCandidates candidates = none ↔ ∃ c ∈ candidates, s.getUnderlyingPartitionBuffer c = none
  | [] => by simp [lookupCandidates]
  | uid :: rest => by
      have ih := @lookupCandidates_eq_none s rest
      cases h : s.getUnderlyingPartitionBuffer uid with
      | none => simp [lookupCandidates, h]
      | some r =>
          cases hr : s.lookupCandidates rest with
          | none => simpa [lookupCandidates, h, hr] using ih.mp hr
          | some refs =>
              have hall : ∀ c ∈ rest, s.getUnderlyingPartitionBuffer c ≠ none := by
                intro c hc hn
                rw [ih.mpr ⟨c, hc, hn⟩] at hr
                cases hr
              simpa [lookupCandidates, h, hr] using hall

end MemoryStore

namespace Server

open Transition Mem MemoryStore

variable (conf : ServerConfig)

theorem stepSpill_lookup_panicked (s : Server) (candidates : List PartitionedUId) :
    (stepSpill conf s (.lookup candidates)).2 = .panicked ↔
      ∃ c ∈ candidates, s.hotStore.getUnderlyingPartitionBuffer c = none := by
  rw [← lookupCandidates_eq_none]
  cases h : s.hotStore.lookupCandidates candidates <;> simp [stepSpill, h]

def purgeBeforeLookup : List Action :=
  [.request (.registerShuffle "a" 0), .request (.requireBuffer "a" 0 10)] ++ advanceAll 0 3 ++
  [.request (.sendShuffleData ⟨.grpc, "a", 0, 1, [(0, [tenBytes])]⟩)] ++ advanceAll 1 8 ++
  [.request (.requireBuffer "a" 0 1)] ++ advanceAll 2 3 ++
  [.request (.sendShuffleData ⟨.grpc, "a", 0, 2, [(1, [oneByte])]⟩)] ++ advanceAll 3 7 ++
  [.request (.unregisterApp "a"), .purge, .purge]

def pickedSend : SendTask :=
  ⟨⟨.grpc, "a", 0, 2, [(1, [oneByte])]⟩, 0, 1, [], 0, .spilling (.lookup [⟨"a", 0, 0⟩]) 1⟩

theorem purge_before_lookup_panics :
    ∃ s, Reach (exec smallConf) Always (init smallConf) s ∧
      s.tasks[3]? = some (.send pickedSend) ∧
      s.hotStore.getUnderlyingPartitionBuffer ⟨"a", 0, 0⟩ = none ∧
      (stepSpill smallConf s (.lookup [⟨"a", 0, 0⟩])).2 = .panicked ∧
      ∃ u, exec smallConf s (.advance 3 true) = some u ∧ u.tasks[3]? = some .done ∧
        u.memorySpillLock = false := by
  have h : EndsIn (exec smallConf) (init smallConf) purgeBeforeLookup (fun s =>
      s.tasks[3]? = some (.send pickedSend) ∧
        s.hotStore.getUnderlyingPartitionBuffer ⟨"a", 0, 0⟩ = none ∧
        EndsIn (exec smallConf) s [.advance 3 true] (fun u =>
          u.tasks[3]? = some .done ∧ u.memorySpillLock = false)) := by
    decide +kernel
  obtain ⟨s, hs, htask, hgone, u, hu, hdone⟩ := reach_of_endsIn (fun _ _ _ => trivial) h
  have hpanic := (stepSpill_lookup_panicked smallConf s [⟨"a", 0, 0⟩]).2 ⟨⟨"a", 0, 0⟩, by simp, hgone⟩
  have hstep : run (exec smallConf) s [.advance 3 true] = exec smallConf s (.advance 3 true) := by
    cases he : exec smallConf s (.advance 3 true) <;> simp [run, he]
  exact ⟨s, hs, htask, hgone, hpanic, u, hstep ▸ hu, hdone⟩

def handlerOvertakesSpill : List Action :=
  [.request (.registerShuffle "a" 0), .request (.requireBuffer "a" 0 10)] ++ advanceAll 0 3 ++
  [.request (.sendShuffleData ⟨.grpc, "a", 0, 1, [(0, [tenBytes])]⟩)] ++ advanceAll 1 8 ++
  [.request (.requireBuffer "a" 0 1)] ++ advanceAll 2 3 ++
  [.request (.sendShuffleData ⟨.grpc, "a", 0, 2, [(1, [oneByte])]⟩)] ++ advanceAll 3 10 ++
  [.dispatch] ++ advanceAll 4 9

theorem spill_counters_wrap :
    ∃ s, Reach (exec smallConf) Always (init smallConf) s ∧
      s.eventQueue = [] ∧ s.runningHandlers = 0 ∧
      s.memorySpillEventNum = 2 ^ 64 - 1 ∧ s.hotStore.inFlushBufferSize = 2 ^ 64 - 10 ∧
      s.hotStore.usageNumerator = s.hotStore.budget.inner.used + 10 ∧
      ∃ t, run (exec smallConf) s (advanceAll 3 4) = some t ∧ Quiet t ∧
        t.memorySpillEventNum = 0 ∧ t.hotStore.inFlushBufferSize = 0 := by
  have h : EndsIn (exec smallConf) (init smallConf) handlerOvertakesSpill (fun s =>
      s.eventQueue = [] ∧ s.runningHandlers = 0 ∧
        s.memorySpillEventNum = 2 ^ 64 - 1 ∧ s.hotStore.inFlushBufferSize = 2 ^ 64 - 10 ∧
        s.hotStore.usageNumerator = s.hotStore.budget.inner.used + 10 ∧
        EndsIn (exec smallConf) s (advanceAll 3 4) (fun t =>
          Quiet t ∧ t.memorySpillEventNum = 0 ∧ t.hotStore.inFlushBufferSize = 0)) := by
    decide +kernel
  obtain ⟨s, hs, hq, hr, hnum, hsize, hratio, t, ht, hquiet⟩ := reach_of_endsIn (fun _ _ _ => trivial) h
  exact ⟨s, hs, hq, hr, hnum, hsize, hratio, t, ht, hquiet⟩

end Server

end Rifflex
