import Rifflex.Server.LocalIndex
import Rifflex.Store.Mem.Served

namespace Rifflex.LocalFileStore

-- The index lists a record per block, in order, each naming its block's bytes in the data
-- file, and the pointer is the data file's length.
def IndexServes (P : Block → Prop) (index data : List UInt8) (pointer : Int) : Prop :=
  ∃ blocks, (∀ b ∈ blocks, P b) ∧ index = ((indexRecords 0 blocks).map IndexRecord.encode).flatten ∧
    pointer = data.length ∧
    ∀ (i : Nat) (record : IndexRecord) (block : Block), (indexRecords 0 blocks)[i]? = some record →
      blocks[i]? = some block →
      record = indexRecord record.offset block ∧
        (data.drop record.offset.toNat).take record.length.toNat = block.data

theorem SpilledFiles.serves {P : Block → Prop} {index data : List UInt8} {blocks : List Block}
    (h : SpilledFiles P index data blocks) (hwf : ∀ b ∈ blocks, b.length = b.data.length)
    {pointer : Int} (hp : pointer = lengthSum blocks) : IndexServes P index data pointer := by
  refine ⟨blocks, h.satisfy, by rw [h.index_eq, buildIndex_records], ?_, ?_⟩
  · rw [hp, h.data_eq, lengthSum_eq_data hwf, List.length_flatten]
  · intro i record block hr hb
    have hrec := indexRecords_getElem? 0 blocks i hr hb
    rw [zero_add] at hrec
    refine ⟨by rw [hrec]; rfl, ?_⟩
    rw [hrec, h.data_eq]
    exact data_slice hwf hb

end Rifflex.LocalFileStore

namespace Rifflex.Server

open Transition LocalFileStore Mem.BufferInternal

variable (conf : ServerConfig)

theorem served_bytes_match_descriptors (P : Block → Prop) (hP : ∀ b, P b → b.WellFormed) {s : Server}
    (h : Reach (exec conf) (SpillsComplete P) (init conf) s) :
    (∀ e ∈ s.hotStore.state, ∀ lastBlockId batchLen taskIds, batchLen < 2 ^ 63 →
      ServesBlocks ((s.hotStore.buffer e.2).getV2 lastBlockId batchLen taskIds)
        ((s.hotStore.buffer e.2).getV2Blocks lastBlockId batchLen taskIds) ∧
      ∀ b ∈ (s.hotStore.buffer e.2).getV2Blocks lastBlockId batchLen taskIds, P b) ∧
    (∀ uid r, Assoc.find? (genRelativePathForPartition uid).1 s.warmStore.partitionLocks = some r →
      (s.warmStore.lockedObj r).locked = false →
      IndexServes P (s.warmStore.objFile r (genRelativePathForPartition uid).2)
        (s.warmStore.objFile r (genRelativePathForPartition uid).1) (s.warmStore.lockedObj r).pointer) := by
  obtain ⟨hindex, hblocks⟩ := reach_index conf h
  refine ⟨fun e _ lastBlockId batchLen taskIds hbatch => ?_, fun uid r hf hl => ?_⟩
  · have hbuf := hblocks.buffers.buffer e.2
    refine ⟨getV2_served _ lastBlockId batchLen taskIds hbatch (fun b hb => hP b (hbuf b hb)), ?_⟩
    exact fun b hb => hbuf b ((getV2Blocks_sublist _ lastBlockId batchLen taskIds).subset hb)
  · obtain ⟨blocks, hspilled, hp⟩ := hindex.settled uid r hf hl
    exact hspilled.serves (fun b hb => (hP b (hspilled.satisfy b hb)).1) hp

def spillB : List Action :=
  [.request (.registerShuffle "b" 0), .request (.requireBuffer "b" 0 10)] ++ advanceAll 0 3 ++
  [.request (.sendShuffleData ⟨.grpc, "b", 0, 1, [(0, [tenBytes])]⟩)] ++ advanceAll 1 8 ++
  [.request (.requireBuffer "b" 0 10)] ++ advanceAll 2 3 ++
  [.request (.sendShuffleData ⟨.grpc, "b", 0, 2, [(1, [tenBytes])]⟩)] ++ advanceAll 3 14 ++
  [.dispatch] ++ advanceAll 4 9

def spilledB : Server := (run (exec smallConf) (init smallConf) spillB).getD (init smallConf)

theorem spillB_complete : ∀ act ∈ spillB, ∀ s, SpillsComplete Block.WellFormed s act := by
  intro act hact _
  refine ⟨fun req hreq => ?_, fun hp => ?_, fun i hi => ?_⟩
  · subst hreq
    simp [spillB, advanceAll] at hact
    rcases hact with rfl | rfl <;> simp [BatchesSatisfy, Block.WellFormed, tenBytes]
  · subst hp
    simp [spillB, advanceAll] at hact
  · subst hi
    simp [spillB, advanceAll] at hact

theorem spilledB_serves :
    (∀ e ∈ spilledB.hotStore.state, ∀ lastBlockId batchLen taskIds, batchLen < 2 ^ 63 →
      ServesBlocks ((spilledB.hotStore.buffer e.2).getV2 lastBlockId batchLen taskIds)
        ((spilledB.hotStore.buffer e.2).getV2Blocks lastBlockId batchLen taskIds) ∧
      ∀ b ∈ (spilledB.hotStore.buffer e.2).getV2Blocks lastBlockId batchLen taskIds, b.WellFormed) ∧
    (∀ uid r, Assoc.find? (genRelativePathForPartition uid).1 spilledB.warmStore.partitionLocks = some r →
      (spilledB.warmStore.lockedObj r).locked = false →
      IndexServes Block.WellFormed (spilledB.warmStore.objFile r (genRelativePathForPartition uid).2)
        (spilledB.warmStore.objFile r (genRelativePathForPartition uid).1)
        (spilledB.warmStore.lockedObj r).pointer) :=
  served_bytes_match_descriptors smallConf Block.WellFormed (fun _ h => h)
    (reach_of_run spillB_complete
      (show run (exec smallConf) (init smallConf) spillB = some spilledB by decide +kernel))

end Rifflex.Server
