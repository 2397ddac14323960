import Rifflex.Server.Served
import Rifflex.Store.Localfile.Read

namespace Rifflex

namespace LocalFileStore

theorem buildIndex_eq_nil {blocks : List Block} (h : (buildIndex 0 blocks).1 = []) : blocks = [] := by
  cases blocks with
  | nil => rfl
  | cons block rest =>
      rw [buildIndex_records] at h
      have hlen := congrArg List.length h
      simp [indexRecords, IndexRecord.encode] at hlen

end LocalFileStore

namespace LocalDisk

theorem find?_of_file_ne_nil {d : LocalDisk} {path : String} (h : d.file path ≠ []) :
    Assoc.find? path d.files = some (d.file path) := by
  unfold file at h ⊢
  cases hf : Assoc.find? path d.files with
  | none => simp [hf] at h
  | some data => rfl

theorem file_of_find? {d : LocalDisk} {path : String} {data : List UInt8}
    (h : Assoc.find? path d.files = some data) : d.file path = data := by
  simp [file, h]

end LocalDisk

end Rifflex

namespace Rifflex.Server

open Transition LocalFileStore

variable (conf : ServerConfig)

section Reads

variable {blocks : List Block} (hwf : ∀ b ∈ blocks, b.WellFormed)
include hwf

theorem lengthSum_eq_length : lengthSum blocks = ((blocks.map Block.data).flatten.length : Int) := by
  rw [lengthSum_eq_data (fun b hb => (hwf b hb).1), List.length_flatten]

theorem lengthSum_toNat : (lengthSum blocks).toNat = (blocks.map Block.data).flatten.length := by
  rw [lengthSum_eq_length hwf, Int.toNat_natCast]

theorem lengthSum_nonneg_of_wf : 0 ≤ lengthSum blocks := by
  rw [lengthSum_eq_length hwf]
  exact Int.natCast_nonneg _

theorem data_range (i n : Nat) :
    ((blocks.map Block.data).flatten.drop (lengthSum (blocks.take i)).toNat).take
        (lengthSum ((blocks.drop i).take n)).toNat = (((blocks.drop i).take n).map Block.data).flatten := by
  have hwfBefore : ∀ b ∈ blocks.take i, b.WellFormed := fun b hb => hwf b (List.mem_of_mem_take hb)
  have hwfRange : ∀ b ∈ (blocks.drop i).take n, b.WellFormed :=
    fun b hb => hwf b (List.mem_of_mem_drop (List.mem_of_mem_take hb))
  have hsplit : (blocks.map Block.data).flatten = ((blocks.take i).map Block.data).flatten ++
      (((blocks.drop i).take n).map Block.data).flatten ++ (((blocks.drop i).drop n).map Block.data).flatten := by
    rw [List.append_assoc, ← List.flatten_append, ← List.map_append, List.take_append_drop,
      ← List.flatten_append, ← List.map_append, List.take_append_drop]
  rw [lengthSum_toNat hwfBefore, lengthSum_toNat hwfRange, hsplit]
  simp

theorem find?_data {s : LocalFileStore} {r : Nat} {path : String}
    (hdata : s.objFile r path = (blocks.map Block.data).flatten) (hpos : 0 < lengthSum blocks) :
    Assoc.find? path (s.disk (s.lockedObj r).disk).files = some (blocks.map Block.data).flatten := by
  rw [← hdata]
  refine LocalDisk.find?_of_file_ne_nil fun hnil => ?_
  have hzero : ((blocks.map Block.data).flatten.length : Int) = 0 := by
    rw [← hdata, objFile, hnil]
    rfl
  rw [lengthSum_eq_length hwf, hzero] at hpos
  exact lt_irrefl 0 hpos

theorem get_range {s : LocalFileStore} {uid : PartitionedUId} {r : Nat}
    (hknown : Assoc.find? (genRelativePathForPartition uid).1 s.partitionLocks = some r)
    (hc : (s.disk (s.lockedObj r).disk).isCorrupted = false)
    (hdata : s.objFile r (genRelativePathForPartition uid).1 = (blocks.map Block.data).flatten)
    (hfit : lengthSum blocks < 2 ^ 63) (i n : Nat) :
    s.get ⟨uid, .fileOffsetAndLen (lengthSum (blocks.take i)) (lengthSum ((blocks.drop i).take n))⟩ =
      .ok (.local ⟨(((blocks.drop i).take n).map Block.data).flatten⟩) := by
  have hwfBefore : ∀ b ∈ blocks.take i, b.WellFormed := fun b hb => hwf b (List.mem_of_mem_take hb)
  have hwfRange : ∀ b ∈ (blocks.drop i).take n, b.WellFormed :=
    fun b hb => hwf b (List.mem_of_mem_drop (List.mem_of_mem_take hb))
  have hwfAfter : ∀ b ∈ (blocks.drop i).drop n, b.WellFormed :=
    fun b hb => hwf b (List.mem_of_mem_drop (List.mem_of_mem_drop hb))
  have hbefore := lengthSum_nonneg_of_wf hwfBefore
  have hrange := lengthSum_nonneg_of_wf hwfRange
  have hafter := lengthSum_nonneg_of_wf hwfAfter
  have hsplit : lengthSum blocks = lengthSum (blocks.take i) + lengthSum ((blocks.drop i).take n) +
      lengthSum ((blocks.drop i).drop n) := by
    conv_lhs => rw [← List.take_append_drop i blocks, ← List.take_append_drop n (blocks.drop i)]
    rw [lengthSum_append, lengthSum_append, add_assoc]
  by_cases hzero : lengthSum ((blocks.drop i).take n) = 0
  · -- an empty run is the early return for a zero length
    have hempty : (((blocks.drop i).take n).map Block.data).flatten = [] := by
      have hlen := lengthSum_eq_length hwfRange
      rw [hzero] at hlen
      exact List.eq_nil_of_length_eq_zero (by omega)
    rw [hzero, hempty]
    exact get_zero_len s uid _
  · have hfile := find?_data hwf hdata (by omega)
    have hend : lengthSum (blocks.take i) + lengthSum ((blocks.drop i).take n) ≤
        (blocks.map Block.data).flatten.length := by
      rw [← lengthSum_eq_length hwf]
      omega
    rw [get_in_range hknown hc hfile hbefore (by omega) (by omega) (by omega) hend, data_range hwf i n]

theorem get_record {s : LocalFileStore} {uid : PartitionedUId} {r : Nat}
    (hknown : Assoc.find? (genRelativePathForPartition uid).1 s.partitionLocks = some r)
    (hc : (s.disk (s.lockedObj r).disk).isCorrupted = false)
    (hdata : s.objFile r (genRelativePathForPartition uid).1 = (blocks.map Block.data).flatten)
    (hfit : lengthSum blocks < 2 ^ 63) {i : Nat} {record : IndexRecord} {block : Block}
    (hr : (indexRecords 0 blocks)[i]? = some record) (hb : blocks[i]? = some block) :
    s.get ⟨uid, .fileOffsetAndLen record.offset record.length⟩ = .ok (.local ⟨block.data⟩) := by
  have hrec := indexRecords_getElem? 0 blocks i hr hb
  rw [zero_add] at hrec
  subst hrec
  obtain ⟨hlt, hget⟩ := List.getElem?_eq_some_iff.mp hb
  have hone : (blocks.drop i).take 1 = [block] := by
    rw [List.drop_eq_getElem_cons hlt, hget]
    rfl
  have hread := get_range hwf hknown hc hdata hfit i 1
  rw [hone] at hread
  simpa [indexRecord] using hread

theorem getIndex_blocks {s : LocalFileStore} {uid : PartitionedUId} {r : Nat}
    (hknown : Assoc.find? (genRelativePathForPartition uid).1 s.partitionLocks = some r)
    (hc : (s.disk (s.lockedObj r).disk).isCorrupted = false)
    (hindex : s.objFile r (genRelativePathForPartition uid).2 = (buildIndex 0 blocks).1)
    (hdata : s.objFile r (genRelativePathForPartition uid).1 = (blocks.map Block.data).flatten)
    (hfit : lengthSum blocks < 2 ^ 63) :
    s.getIndex uid = .ok ⟨((indexRecords 0 blocks).map IndexRecord.encode).flatten, lengthSum blocks⟩ ∨
      (lengthSum blocks = 0 ∧ s.getIndex uid = .err (.other "NotFound")) := by
  have hlen := lengthSum_eq_length hwf
  cases hidx : Assoc.find? (genRelativePathForPartition uid).2 (s.disk (s.lockedObj r).disk).files with
  | none =>
      have hnil : (buildIndex 0 blocks).1 = [] := by
        rw [← hindex, objFile, LocalDisk.file, hidx]
        rfl
      have hblocks := buildIndex_eq_nil hnil
      subst hblocks
      exact .inr ⟨rfl, getIndex_missing hknown hc (.inl hidx)⟩
  | some indexData =>
      cases hdat : Assoc.find? (genRelativePathForPartition uid).1 (s.disk (s.lockedObj r).disk).files with
      | none =>
          have hnil : (blocks.map Block.data).flatten = [] := by
            rw [← hdata, objFile, LocalDisk.file, hdat]
            rfl
          refine .inr ⟨?_, getIndex_missing hknown hc (.inr hdat)⟩
          rw [hlen, hnil]
          rfl
      | some data =>
          left
          have hidxData : indexData = ((indexRecords 0 blocks).map IndexRecord.encode).flatten := by
            rw [← buildIndex_records, ← hindex, objFile, LocalDisk.file_of_find? hidx]
          have hdataLen : Word.asI64 data.length = lengthSum blocks := by
            have hd : data = (blocks.map Block.data).flatten := by
              rw [← hdata, objFile, LocalDisk.file_of_find? hdat]
            rw [hd, Word.asI64_of_lt (by omega), ← hlen]
          rw [getIndex_read hknown hc hidx hdat, hidxData, hdataLen]

end Reads

theorem reach_settled_files (P : Block → Prop) (hP : ∀ b, P b → b.WellFormed) {s : Server}
    (h : Reach (exec conf) (SpillsComplete P) (init conf) s) {uid : PartitionedUId} {r : Nat}
    (hknown : Assoc.find? (genRelativePathForPartition uid).1 s.warmStore.partitionLocks = some r)
    (hunlocked : (s.warmStore.lockedObj r).locked = false)
    (hfit : (s.warmStore.objFile r (genRelativePathForPartition uid).1).length < 2 ^ 63) :
    ∃ blocks, (∀ b ∈ blocks, P b) ∧ (∀ b ∈ blocks, b.WellFormed) ∧
      s.warmStore.objFile r (genRelativePathForPartition uid).2 = (buildIndex 0 blocks).1 ∧
      s.warmStore.objFile r (genRelativePathForPartition uid).1 = (blocks.map Block.data).flatten ∧
      lengthSum blocks < 2 ^ 63 := by
  obtain ⟨blocks, hspilled, -⟩ := (reach_index conf h).1.settled uid r hknown hunlocked
  have hwf : ∀ b ∈ blocks, b.WellFormed := fun b hb => hP b (hspilled.satisfy b hb)
  have hlenFit : lengthSum blocks < 2 ^ 63 := by
    rw [lengthSum_eq_length hwf, ← hspilled.data_eq]
    exact_mod_cast hfit
  exact ⟨blocks, hspilled.satisfy, hwf, hspilled.index_eq, hspilled.data_eq, hlenFit⟩

theorem reach_local_reads_serve (P : Block → Prop) (hP : ∀ b, P b → b.WellFormed) {s : Server}
    (h : Reach (exec conf) (SpillsComplete P) (init conf) s) {uid : PartitionedUId} {r : Nat}
    (hknown : Assoc.find? (genRelativePathForPartition uid).1 s.warmStore.partitionLocks = some r)
    (hunlocked : (s.warmStore.lockedObj r).locked = false)
    (hc : (s.warmStore.disk (s.warmStore.lockedObj r).disk).isCorrupted = false)
    (hfit : (s.warmStore.objFile r (genRelativePathForPartition uid).1).length < 2 ^ 63) :
    ∃ blocks, (∀ b ∈ blocks, P b) ∧
      s.warmStore.objFile r (genRelativePathForPartition uid).2 = (buildIndex 0 blocks).1 ∧
      s.warmStore.objFile r (genRelativePathForPartition uid).1 = (blocks.map Block.data).flatten ∧
      (s.warmStore.getIndex uid =
          .ok ⟨((indexRecords 0 blocks).map IndexRecord.encode).flatten, lengthSum blocks⟩ ∨
        (lengthSum blocks = 0 ∧ s.warmStore.getIndex uid = .err (.other "NotFound"))) ∧
      ∀ (i : Nat) (record : IndexRecord) (block : Block), (indexRecords 0 blocks)[i]? = some record →
        blocks[i]? = some block →
        s.warmStore.get ⟨uid, .fileOffsetAndLen record.offset record.length⟩ = .ok (.local ⟨block.data⟩) := by
  obtain ⟨blocks, hsat, hwf, hindex, hdata, hlenFit⟩ := reach_settled_files conf P hP h hknown hunlocked hfit
  exact ⟨blocks, hsat, hindex, hdata, getIndex_blocks hwf hknown hc hindex hdata hlenFit,
    fun i record block hr hb => get_record hwf hknown hc hdata hlenFit hr hb⟩

theorem spilledB_reads_served :
    ∃ blocks, (∀ b ∈ blocks, b.WellFormed) ∧
      spilledB.warmStore.objFile 0 (genRelativePathForPartition ⟨"b", 0, 0⟩).2 = (buildIndex 0 blocks).1 ∧
      spilledB.warmStore.objFile 0 (genRelativePathForPartition ⟨"b", 0, 0⟩).1 =
        (blocks.map Block.data).flatten ∧
      (spilledB.warmStore.getIndex ⟨"b", 0, 0⟩ =
          .ok ⟨((indexRecords 0 blocks).map IndexRecord.encode).flatten, lengthSum blocks⟩ ∨
        (lengthSum blocks = 0 ∧ spilledB.warmStore.getIndex ⟨"b", 0, 0⟩ = .err (.other "NotFound"))) ∧
      ∀ (i : Nat) (record : IndexRecord) (block : Block), (indexRecords 0 blocks)[i]? = some record →
        blocks[i]? = some block →
        spilledB.warmStore.get ⟨⟨"b", 0, 0⟩, .fileOffsetAndLen record.offset record.length⟩ =
          .ok (.local ⟨block.data⟩) := by
  have hfacts : Assoc.find? (genRelativePathForPartition ⟨"b", 0, 0⟩).1 spilledB.warmStore.partitionLocks = some 0 ∧
      (spilledB.warmStore.lockedObj 0).locked = false ∧
      (spilledB.warmStore.disk (spilledB.warmStore.lockedObj 0).disk).isCorrupted = false ∧
      (spilledB.warmStore.objFile 0 (genRelativePathForPartition ⟨"b", 0, 0⟩).1).length < 2 ^ 63 := by
    decide +kernel
  exact reach_local_reads_serve smallConf Block.WellFormed (fun _ h => h)
    (reach_of_run spillB_complete
      (show run (exec smallConf) (init smallConf) spillB = some spilledB by decide +kernel))
    hfacts.1 hfacts.2.1 hfacts.2.2.1 hfacts.2.2.2

end Rifflex.Server
