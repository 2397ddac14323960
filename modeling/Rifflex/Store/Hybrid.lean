import Rifflex.Store.Memory
import Rifflex.Store.Localfile

namespace Rifflex

open Word Mem

structure SpillWritingViewContext where
  uid : PartitionedUId
  dataBlocks : BatchMemoryBlock
deriving DecidableEq, Repr

structure SpillMessage where
  ctx : SpillWritingViewContext
  size : Int
  retryCnt : Int
  flightId : Nat
deriving DecidableEq, Repr

-- The `f32` watermark tests are parameters: `(used as f32 / capacity as f32) > high` and
-- `(capacity as f32 * low) as i64`.
structure HybridStoreConfig where
  memorySpillHighWatermark : Int → Int → Bool
  memorySpillLowWatermark : Int → Int
  memorySpillMaxConcurrency : Nat

inductive SpillOutcome where
  | release
  | drop
  | retry
deriving DecidableEq, Repr

def spillOutcome : Except WorkerError Unit → SpillOutcome
  | .ok _ => .release
  | .error (.spillEventExceedRetryMaxLimit _) => .drop
  | .error (.partialDataLost _) => .drop
  | .error (.localDiskUnhealthy _) => .drop
  | .error _ => .retry

def SpillMessage.ofSpill (uid : PartitionedUId) (res : BufferSpillResult) : SpillMessage :=
  ⟨⟨uid, res.blocks⟩, asI64 res.flightLen, 0, res.flightId⟩

def SpillMessage.retried (m : SpillMessage) : SpillMessage := { m with retryCnt := m.retryCnt + 1 }

namespace MemoryStore

-- `calculate_usage_ratio() > memory_spill_high_watermark`.
def aboveHighWatermark (s : MemoryStore) (conf : HybridStoreConfig) : Bool :=
  conf.memorySpillHighWatermark s.usageNumerator s.budget.capacity

-- `none` is the error of `pickup_spilled_blocks` for nothing to spill.
def spillCandidates (s : MemoryStore) (conf : HybridStoreConfig) : Option (List PartitionedUId) :=
  let required := s.budget.inner.used - conf.memorySpillLowWatermark s.memoryCapacity
  if required ≤ 0 then none else some (s.pickupCandidates required)

-- `none` is the panic of `get_underlying_partition_buffer`.
def lookupCandidates (s : MemoryStore) : List PartitionedUId → Option (List (PartitionedUId × Nat))
  | [] => some []
  | uid :: rest => match s.getUnderlyingPartitionBuffer uid, s.lookupCandidates rest with
    | some r, some refs => some ((uid, r) :: refs)
    | _, _ => none

theorem lookupCandidates_mem {s : MemoryStore} : ∀ {candidates : List PartitionedUId}
    {buffers : List (PartitionedUId × Nat)}, s.lookupCandidates candidates = some buffers →
    ∀ e ∈ buffers, e ∈ s.state
  | [], buffers, h, e, he => by
      simp only [lookupCandidates, Option.some.injEq] at h
      subst h
      simp at he
  | uid :: rest, buffers, h, e, he => by
      simp only [lookupCandidates] at h
      split at h
      · rename_i r refs hr hrefs
        simp only [Option.some.injEq] at h
        subst h
        rcases List.mem_cons.mp he with rfl | he
        · exact Assoc.mem_of_find? hr
        · exact lookupCandidates_mem hrefs e he
      · cases h

end MemoryStore

end Rifflex
