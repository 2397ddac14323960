import Rifflex.Store.Mem.Read
import Rifflex.App
import Mathlib.Algebra.BigOperators.Group.List.Lemmas

namespace Rifflex.Mem.BufferInternal

open Word

theorem buildSegments_getElem? (offset : Int) (blocks : List Block) (i : Nat) {seg : DataSegment}
    {block : Block} (h : (buildSegments offset blocks).1[i]? = some seg) (hb : blocks[i]? = some block) :
    DataSegment.Describes seg block ∧ seg.offset = offset + lengthSum (blocks.take i) := by
  induction blocks generalizing offset i with
  | nil => simp at hb
  | cons head rest ih =>
      cases i with
      | zero =>
          simp only [buildSegments, List.getElem?_cons_zero, Option.some.injEq] at h hb
          subst h hb
          exact ⟨⟨rfl, rfl, rfl, rfl, rfl⟩, by simp⟩
      | succ i =>
          simp only [buildSegments, List.getElem?_cons_succ] at h hb
          obtain ⟨hd, ho⟩ := ih (offset + head.length) i h hb
          exact ⟨hd, by rw [ho]; simp [add_assoc]⟩

theorem page_sublist (batchLen : Int) (taskIds : Option Treemap) (readLen : Int) (blocks : List Block) :
    (page batchLen taskIds readLen blocks).Sublist blocks := by
  induction blocks generalizing readLen with
  | nil => exact List.Sublist.slnil
  | cons block rest ih =>
      by_cases hc : readLen ≥ batchLen
      · simp [page, hc]
      · by_cases he : expected taskIds block = true
        · simpa [page, hc, he] using ih (readLen + block.length)
        · simpa [page, hc, he] using (ih readLen).cons block

theorem page_lengthSum_lt {batchLen bound : Int} (taskIds : Option Treemap) {blocks : List Block}
    (hb : ∀ block ∈ blocks, block.length < bound) :
    ∀ readLen, readLen < batchLen + bound →
      readLen + lengthSum (page batchLen taskIds readLen blocks) < batchLen + bound := by
  induction blocks with
  | nil => intro readLen h; simpa [page] using h
  | cons block rest ih =>
      intro readLen h
      have hrest : ∀ b ∈ rest, b.length < bound := fun b hm => hb b (by simp [hm])
      by_cases hc : readLen ≥ batchLen
      · simpa [page, hc] using h
      · have hblock := hb block (by simp)
        by_cases he : expected taskIds block = true
        · have := ih hrest (readLen + block.length) (by omega)
          simp only [page, hc, he, if_false, Bool.not_true, Bool.false_eq_true, lengthSum_cons]
          omega
        · simpa [page, hc, he] using ih hrest readLen h

theorem anchored_sublist (b : BufferInternal) (lastBlockId : Int) :
    (b.anchored lastBlockId).Sublist b.traversal := by
  unfold anchored
  split
  · exact List.Sublist.refl _
  · exact (Paging.resume_suffix _ _ _).sublist

theorem getV2Blocks_sublist (b : BufferInternal) (lastBlockId batchLen : Int) (taskIds : Option Treemap) :
    (b.getV2Blocks lastBlockId batchLen taskIds).Sublist b.traversal :=
  (page_sublist _ _ _ _).trans (anchored_sublist b lastBlockId)

theorem buildSegments_lengths (offset : Int) (blocks : List Block) :
    (buildSegments offset blocks).1.map DataSegment.length = blocks.map Block.length := by
  induction blocks generalizing offset with
  | nil => rfl
  | cons block rest ih => simp [buildSegments, ih]

structure ServesBlocks (r : PartitionedMemoryData) (blocks : List Block) : Prop where
  describes : List.Forall₂ DataSegment.Describes r.shuffleDataBlockSegments blocks
  len_freeze : r.data.len = r.data.freeze.length
  len_sum : (r.data.len : Int) = (r.shuffleDataBlockSegments.map DataSegment.length).sum
  slices : ∀ i seg block, r.shuffleDataBlockSegments[i]? = some seg → blocks[i]? = some block →
    seg.offset = ((r.shuffleDataBlockSegments.take i).map DataSegment.length).sum ∧
      (r.data.freeze.drop seg.offset.toNat).take seg.length.toNat = block.data

theorem getV2_served (b : BufferInternal) (lastBlockId batchLen : Int) (taskIds : Option Treemap)
    (hbatch : batchLen < 2 ^ 63) (hlen : ∀ block ∈ b.traversal, block.WellFormed) :
    ServesBlocks (b.getV2 lastBlockId batchLen taskIds) (b.getV2Blocks lastBlockId batchLen taskIds) := by
  set r := b.getV2 lastBlockId batchLen taskIds
  set blocks := b.getV2Blocks lastBlockId batchLen taskIds
  have hsegs : r.shuffleDataBlockSegments = (buildSegments 0 blocks).1 := by
    simp only [r, blocks, getV2_eq]
  have hbytes : r.data = .composed ⟨blocks.map Block.data, toU64 (0 + lengthSum blocks)⟩ := by
    simp only [r, blocks, getV2_eq, buildSegments_data, buildSegments_offset, ComposedBytes.from]
  have hblocks : ∀ block ∈ blocks, block.length = block.data.length ∧ block.length < 2 ^ 31 :=
    fun block hm => hlen block ((getV2Blocks_sublist b lastBlockId batchLen taskIds).subset hm)
  have hdata : ∀ block ∈ blocks, block.length = block.data.length := fun block hm => (hblocks block hm).1
  have hsum := lengthSum_eq_data hdata
  have hnonneg : 0 ≤ lengthSum blocks := by rw [hsum]; positivity
  have hbound : lengthSum blocks < 2 ^ 64 := by
    by_cases hpos : 0 < batchLen
    · have : 0 + lengthSum (page batchLen taskIds 0 (b.anchored lastBlockId)) < batchLen + 2 ^ 31 :=
        page_lengthSum_lt taskIds
          (fun block hm => (hlen block ((anchored_sublist b lastBlockId).subset hm)).2) 0 (by omega)
      simp only [blocks, getV2Blocks] at this ⊢
      omega
    · have hnil : blocks = [] := by
        simp only [blocks, getV2Blocks]
        cases b.anchored lastBlockId with
        | nil => rfl
        | cons _ _ => simp [page, not_lt.mp hpos]
      simp [hnil]
  have hlenU : (toU64 (0 + lengthSum blocks) : Int) = lengthSum blocks := by
    rw [toU64_of_range (by omega) (by omega), zero_add]
  have hfreeze : ((blocks.map Block.data).flatten.length : Int) = lengthSum blocks := by
    rw [hsum, List.length_flatten]
  refine ⟨hsegs ▸ buildSegments_describes 0 blocks, ?_, ?_, ?_⟩
  · rw [hbytes]
    show toU64 (0 + lengthSum blocks) = (blocks.map Block.data).flatten.length
    omega
  · rw [hsegs, hbytes]
    show (toU64 (0 + lengthSum blocks) : Int) = ((buildSegments 0 blocks).1.map DataSegment.length).sum
    rw [hlenU, buildSegments_lengths]
    rfl
  · intro i seg block hseg hblock
    rw [hsegs] at hseg ⊢
    obtain ⟨hdesc, hoff⟩ := buildSegments_getElem? 0 blocks i hseg hblock
    have hprefix : (((buildSegments 0 blocks).1.take i).map DataSegment.length).sum =
        lengthSum (blocks.take i) := by
      rw [List.map_take, buildSegments_lengths, ← List.map_take]
      rfl
    refine ⟨by rw [hoff, hprefix, zero_add], ?_⟩
    rw [hbytes, hoff, zero_add, hdesc.2.1]
    exact data_slice hdata hblock

def shortBlock : Block := ⟨1, 5, 5, 0, [1, 2, 3], 0⟩

def shortBlockRead : PartitionedMemoryData :=
  (new.append [shortBlock] (App.insertLen [shortBlock])).getV2 (-1) 10 none

theorem short_block_len_exceeds_bytes :
    shortBlockRead.data.len = 5 ∧ shortBlockRead.data.freeze.length = 3 := by
  decide

def segmentsEnd (segments : List DataSegment) : Int :=
  match segments.getLast? with
  | some seg => seg.offset + seg.length
  | none => 0

theorem buildSegments_end (offset : Int) : ∀ {blocks : List Block}, blocks ≠ [] →
    segmentsEnd (buildSegments offset blocks).1 = offset + lengthSum blocks
  | [block], _ => by simp [segmentsEnd, buildSegments, lengthSum]
  | block :: next :: rest, _ => by
      have ih := buildSegments_end (offset + block.length) (List.cons_ne_nil next rest)
      simp only [buildSegments, segmentsEnd, List.getLast?_cons_cons] at ih ⊢
      rw [ih]
      simp [lengthSum, add_assoc]

theorem get_eq (b : BufferInternal) (lastBlockId batchLen : Int) (taskIds : Option Treemap) :
    b.get lastBlockId batchLen taskIds =
      ⟨toU64 (lengthSum (b.getV2Blocks lastBlockId batchLen taskIds)), b.getV2Blocks lastBlockId batchLen taskIds⟩ := by
  simp only [get, readLoop_eq]

theorem get_agrees_getV2 (b : BufferInternal) (lastBlockId batchLen : Int) (taskIds : Option Treemap) :
    List.Forall₂ DataSegment.Describes (b.getV2 lastBlockId batchLen taskIds).shuffleDataBlockSegments
        (b.get lastBlockId batchLen taskIds).blocks ∧
      (b.getV2 lastBlockId batchLen taskIds).data.freeze =
        ((b.get lastBlockId batchLen taskIds).blocks.map Block.data).flatten ∧
      segmentsEnd (b.getV2 lastBlockId batchLen taskIds).shuffleDataBlockSegments =
        lengthSum (b.get lastBlockId batchLen taskIds).blocks ∧
      (b.get lastBlockId batchLen taskIds).readLen =
        toU64 (lengthSum (b.get lastBlockId batchLen taskIds).blocks) ∧
      (b.getV2 lastBlockId batchLen taskIds).data.len = (b.get lastBlockId batchLen taskIds).readLen := by
  set blocks := b.getV2Blocks lastBlockId batchLen taskIds
  have hend : segmentsEnd (buildSegments 0 blocks).1 = lengthSum blocks := by
    rcases eq_or_ne blocks [] with h | h
    · simp [h, segmentsEnd, buildSegments, lengthSum]
    · rw [buildSegments_end 0 h, zero_add]
  rw [get_eq, getV2_eq]
  refine ⟨buildSegments_describes 0 blocks, ?_, hend, rfl, ?_⟩
  · simp [BytesWrapper.freeze, ComposedBytes.freeze, ComposedBytes.from, buildSegments_data]
  · simp [BytesWrapper.len, ComposedBytes.len, ComposedBytes.from, buildSegments_offset]

def negativeBlock : Block := ⟨1, -1, 0, 0, [], 0⟩

def negativeBlockRead : BufferReadResult :=
  (new.append [negativeBlock] (App.insertLen [negativeBlock])).get 0 10 none

theorem negative_block_read_len_wraps :
    negativeBlockRead.blocks = [negativeBlock] ∧ lengthSum negativeBlockRead.blocks = -1 ∧
      negativeBlockRead.readLen = 2 ^ 64 - 1 := by
  decide

end Rifflex.Mem.BufferInternal
