import Rifflex.Store.Mem.Buffer
import Rifflex.Lib.Paging

namespace Rifflex.Mem

open Word

namespace BufferInternal

def traversal (b : BufferInternal) : List Block :=
  (b.flight.map (fun entry => entry.2.flatten)).flatten ++ b.staging.flatten

@[simp] theorem traversal_new : new.traversal = [] := rfl

@[simp] theorem traversal_append (b : BufferInternal) (blocks : List Block) (size : Nat) :
    (b.append blocks size).traversal = b.traversal ++ blocks := by
  simp [traversal, append]

theorem mem_traversal_spill {b : BufferInternal} {x : Block} (h : x ∈ b.spill.1.traversal) :
    x ∈ b.traversal := by
  simp only [traversal, spill_flight, spill_staging, List.flatten_nil, List.append_nil,
    List.mem_flatten, List.mem_map] at h
  obtain ⟨_, ⟨e, he, rfl⟩, hx⟩ := h
  rcases Assoc.mem_insert he with he | rfl
  · exact List.mem_append_left _ (List.mem_flatten.mpr ⟨_, List.mem_map_of_mem he, hx⟩)
  · exact List.mem_append_right _ hx

theorem mem_traversal_of_staging {b : BufferInternal} {x : Block} (h : x ∈ b.staging.flatten) :
    x ∈ b.traversal :=
  List.mem_append_right _ h

theorem mem_traversal_clear {b : BufferInternal} {flightId flightSize : Nat} {x : Block}
    (h : x ∈ (b.clear flightId flightSize).traversal) : x ∈ b.traversal := by
  unfold clear at h
  split at h
  · simp only [traversal, List.mem_append, List.mem_flatten, List.mem_map] at h ⊢
    rcases h with ⟨_, ⟨e, he, rfl⟩, hx⟩ | h
    · exact .inl ⟨_, ⟨e, List.mem_of_mem_filter he, rfl⟩, hx⟩
    · exact .inr h
  · exact h

-- `scanBlocks` with its `break` read as a skip: past a full page no block changes the state.
def scanStep (lastBlockId batchLen : Int) (taskIds : Option Treemap) (st : ScanState)
    (block : Block) : ScanState :=
  if !st.flightFound && block.blockId == lastBlockId then { st with flightFound := true }
  else if !st.flightFound then st
  else if st.readLen ≥ batchLen then st
  else if !expected taskIds block then st
  else { st with readLen := st.readLen + block.length, readResult := st.readResult ++ [block] }

def page (batchLen : Int) (taskIds : Option Treemap) : Int → List Block → List Block
  | _, [] => []
  | readLen, block :: rest =>
      if readLen ≥ batchLen then []
      else if !expected taskIds block then page batchLen taskIds readLen rest
      else block :: page batchLen taskIds (readLen + block.length) rest

def anchored (b : BufferInternal) (lastBlockId : Int) : List Block :=
  if lastBlockId = 0 then b.traversal else Paging.resume Block.blockId b.traversal lastBlockId

def getV2Blocks (b : BufferInternal) (lastBlockId batchLen : Int) (taskIds : Option Treemap) :
    List Block :=
  page batchLen taskIds 0 (b.anchored lastBlockId)

def DataSegment.Describes (seg : DataSegment) (block : Block) : Prop :=
  seg.blockId = block.blockId ∧ seg.length = block.length ∧
    seg.uncompressLength = block.uncompressLength ∧ seg.crc = block.crc ∧
    seg.taskAttemptId = block.taskAttemptId

theorem buildSegments_describes (offset : Int) (blocks : List Block) :
    List.Forall₂ DataSegment.Describes (buildSegments offset blocks).1 blocks := by
  induction blocks generalizing offset with
  | nil => exact .nil
  | cons block rest ih =>
      exact .cons ⟨rfl, rfl, rfl, rfl, rfl⟩ (ih (offset + block.length))

theorem buildSegments_data (offset : Int) (blocks : List Block) :
    (buildSegments offset blocks).2.1 = blocks.map Block.data := by
  induction blocks generalizing offset with
  | nil => rfl
  | cons block rest ih => simp [buildSegments, ih]

theorem buildSegments_offset (offset : Int) (blocks : List Block) :
    (buildSegments offset blocks).2.2 = offset + lengthSum blocks := by
  induction blocks generalizing offset with
  | nil => simp [buildSegments]
  | cons block rest ih => simp [buildSegments, ih, add_assoc]

theorem page_prefix (batchLen readLen : Int) (blocks : List Block) :
    page batchLen none readLen blocks <+: blocks := by
  induction blocks generalizing readLen with
  | nil => exact List.nil_prefix
  | cons block rest ih =>
      by_cases hc : readLen ≥ batchLen
      · simp [page, hc]
      · simpa [page, hc, expected] using ih (readLen + block.length)

theorem page_ne_nil {batchLen readLen : Int} {blocks : List Block} (hb : blocks ≠ [])
    (hl : readLen < batchLen) : page batchLen none readLen blocks ≠ [] := by
  cases blocks with
  | nil => exact absurd rfl hb
  | cons block rest => simp [page, expected, not_le.mpr hl]

section Scan

variable (lastBlockId batchLen : Int) (taskIds : Option Treemap)

theorem foldl_scanStep_stopped (st : ScanState) (hf : st.flightFound = true)
    (hl : batchLen ≤ st.readLen) (blocks : List Block) :
    blocks.foldl (scanStep lastBlockId batchLen taskIds) st = st := by
  induction blocks with
  | nil => rfl
  | cons block rest ih =>
      have hstep : scanStep lastBlockId batchLen taskIds st block = st := by
        simp [scanStep, hf, hl]
      rw [List.foldl_cons, hstep, ih]

theorem scanBlocks_eq_foldl (st : ScanState) (blocks : List Block) :
    scanBlocks lastBlockId batchLen taskIds st blocks =
      blocks.foldl (scanStep lastBlockId batchLen taskIds) st := by
  induction blocks generalizing st with
  | nil => rfl
  | cons block rest ih =>
      obtain ⟨result, readLen, found⟩ := st
      rw [scanBlocks, List.foldl_cons]
      cases found with
      | false =>
          by_cases ha : block.blockId = lastBlockId
          · simp [scanStep, ha, ih]
          · simp [scanStep, ha, ih]
      | true =>
          by_cases hc : readLen ≥ batchLen
          · have hstop := foldl_scanStep_stopped lastBlockId batchLen taskIds
              ⟨result, readLen, true⟩ rfl hc rest
            simp [scanStep, hc, hstop]
          · cases he : expected taskIds block with
            | false => simp [scanStep, hc, he, ih]
            | true => simp [scanStep, hc, he, ih]

theorem scanBatch_eq (st : ScanState) (batch : BatchMemoryBlock) :
    scanBatch lastBlockId batchLen taskIds st batch =
      batch.flatten.foldl (scanStep lastBlockId batchLen taskIds) st := by
  induction batch generalizing st with
  | nil => rfl
  | cons blocks rest ih =>
      simp only [scanBatch, List.foldl_cons, List.flatten_cons, List.foldl_append] at ih ⊢
      rw [scanBlocks_eq_foldl, ih]

theorem scanPass_eq (b : BufferInternal) (st : ScanState) :
    scanPass b lastBlockId batchLen taskIds st =
      b.traversal.foldl (scanStep lastBlockId batchLen taskIds)
        (if lastBlockId = 0 then { st with flightFound := true } else st) := by
  have hflights : ∀ (fs : List (Nat × BatchMemoryBlock)) (s : ScanState),
      fs.foldl (fun s entry => scanBatch lastBlockId batchLen taskIds s entry.2) s =
        (fs.map (fun entry => entry.2.flatten)).flatten.foldl
          (scanStep lastBlockId batchLen taskIds) s := by
    intro fs
    induction fs with
    | nil => intro s; rfl
    | cons f fs ih =>
        intro s
        simp only [List.foldl_cons, List.map_cons, List.flatten_cons, List.foldl_append]
        rw [scanBatch_eq, ih]
  simp only [scanPass, traversal, List.foldl_append]
  rw [hflights, scanBatch_eq]

theorem foldl_scanStep_found (blocks : List Block) (result : List Block) (readLen : Int) :
    blocks.foldl (scanStep lastBlockId batchLen taskIds) ⟨result, readLen, true⟩ =
      ⟨result ++ page batchLen taskIds readLen blocks,
       readLen + lengthSum (page batchLen taskIds readLen blocks), true⟩ := by
  induction blocks generalizing result readLen with
  | nil => simp [page]
  | cons block rest ih =>
      rw [List.foldl_cons]
      by_cases hc : readLen ≥ batchLen
      · have hstop := foldl_scanStep_stopped lastBlockId batchLen taskIds
          ⟨result, readLen, true⟩ rfl hc rest
        simp [scanStep, hc, hstop, page]
      · cases he : expected taskIds block with
        | false =>
            have hstep : scanStep lastBlockId batchLen taskIds ⟨result, readLen, true⟩ block =
                ⟨result, readLen, true⟩ := by simp [scanStep, hc, he]
            rw [hstep, ih]
            simp [page, hc, he]
        | true =>
            have hstep : scanStep lastBlockId batchLen taskIds ⟨result, readLen, true⟩ block =
                ⟨result ++ [block], readLen + block.length, true⟩ := by simp [scanStep, hc, he]
            rw [hstep, ih]
            simp [page, hc, he, add_assoc]

theorem foldl_scanStep_searching (blocks : List Block) (result : List Block) (readLen : Int) :
    blocks.foldl (scanStep lastBlockId batchLen taskIds) ⟨result, readLen, false⟩ =
      match Paging.after Block.blockId lastBlockId blocks with
      | some rest => rest.foldl (scanStep lastBlockId batchLen taskIds) ⟨result, readLen, true⟩
      | none => ⟨result, readLen, false⟩ := by
  induction blocks with
  | nil => rfl
  | cons block rest ih =>
      rw [List.foldl_cons]
      by_cases ha : block.blockId = lastBlockId
      · simp [scanStep, ha, Paging.after]
      · have hstep : scanStep lastBlockId batchLen taskIds ⟨result, readLen, false⟩ block =
            ⟨result, readLen, false⟩ := by simp [scanStep, ha]
        rw [hstep, ih]
        simp [Paging.after, ha]

theorem readLoop_eq (b : BufferInternal) :
    readLoop b lastBlockId batchLen taskIds =
      ⟨b.getV2Blocks lastBlockId batchLen taskIds,
       lengthSum (b.getV2Blocks lastBlockId batchLen taskIds), true⟩ := by
  unfold readLoop getV2Blocks anchored
  by_cases h0 : lastBlockId = 0
  · simp [scanPass_eq, h0, foldl_scanStep_found]
  · simp only [scanPass_eq, h0, if_false, foldl_scanStep_searching, Paging.resume]
    cases hafter : Paging.after Block.blockId lastBlockId b.traversal with
    | some rest => simp [foldl_scanStep_found]
    | none => simp [foldl_scanStep_found]

theorem getV2_eq (b : BufferInternal) :
    b.getV2 lastBlockId batchLen taskIds =
      let r := buildSegments 0 (b.getV2Blocks lastBlockId batchLen taskIds)
      { shuffleDataBlockSegments := r.1,
        data := .composed (ComposedBytes.from r.2.1 (toU64 r.2.2)) } := by
  simp only [getV2, readLoop_eq]

end Scan

end BufferInternal

end Rifflex.Mem
