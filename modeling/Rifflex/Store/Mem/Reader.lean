import Rifflex.Store.Mem.Read

namespace Rifflex.Mem

open Word

namespace BufferInternal

-- `get_v2(-1, batch_len)`, then from the last segment's block id, until a page is empty.
def readerLoop (b : BufferInternal) (batchLen : Int) : Nat → Int → Option (List (List DataSegment)) :=
  Paging.readAll (fun lastBlockId => (b.getV2 lastBlockId batchLen none).shuffleDataBlockSegments)
    DataSegment.blockId

def PagedReadExact : Prop :=
  ∀ (b : BufferInternal) (batchLen : Int), (b.traversal.map Block.blockId).Nodup →
    (∀ blk ∈ b.traversal, 0 ≤ blk.blockId) → 0 < batchLen →
    ∃ fuel pages, b.readerLoop batchLen fuel (-1) = some pages ∧
      List.Forall₂ DataSegment.Describes pages.flatten b.traversal

theorem getV2_segments_describe (b : BufferInternal) (lastBlockId batchLen : Int) :
    List.Forall₂ DataSegment.Describes (b.getV2 lastBlockId batchLen none).shuffleDataBlockSegments
      (page batchLen none 0 (b.anchored lastBlockId)) := by
  rw [getV2_eq]
  exact buildSegments_describes 0 _

theorem reader_pages_exact (b : BufferInternal) (batchLen : Int)
    (hnd : (b.traversal.map Block.blockId).Nodup) (hpos : ∀ blk ∈ b.traversal, 0 < blk.blockId)
    (hbl : 0 < batchLen) :
    ∃ pages, b.readerLoop batchLen (b.traversal.length + 1) (-1) = some pages ∧
      List.Forall₂ DataSegment.Describes pages.flatten b.traversal := by
  have hneg : (-1 : Int) ∉ b.traversal.map Block.blockId := by
    intro hm
    obtain ⟨blk, hblk, he⟩ := List.mem_map.mp hm
    have := hpos blk hblk
    omega
  refine Paging.readAll_exact Block.blockId _ DataSegment.blockId DataSegment.Describes
    (page batchLen none 0) b.traversal hnd (fun S => page_prefix batchLen 0 S)
    (fun S hS => page_ne_nil hS hbl) (fun seg blk h => h.1) (-1) hneg ?_
  intro k hk
  have hk0 : k ≠ 0 := by
    rcases hk with rfl | hm
    · decide
    · obtain ⟨blk, hblk, he⟩ := List.mem_map.mp hm
      have := hpos blk hblk
      omega
  have ha : b.anchored k = Paging.resume Block.blockId b.traversal k := by
    simp [anchored, hk0]
  rw [← ha]
  exact getV2_segments_describe b k batchLen

def positiveBuffer : BufferInternal :=
  ((new.append [⟨1, 10, 0, 0, [], 0⟩] 10).spill.1.append [⟨2, 10, 0, 0, [], 0⟩] 10)

theorem positiveBuffer_reader :
    (positiveBuffer.traversal.map Block.blockId).Nodup ∧
      (∀ blk ∈ positiveBuffer.traversal, 0 < blk.blockId) ∧ (0 : Int) < 10 ∧
      ∃ pages, positiveBuffer.readerLoop 10 (positiveBuffer.traversal.length + 1) (-1) = some pages ∧
        List.Forall₂ DataSegment.Describes pages.flatten positiveBuffer.traversal :=
  ⟨by decide, by decide, by decide,
    reader_pages_exact positiveBuffer 10 (by decide) (by decide) (by decide)⟩

def zeroBlock : Block := ⟨0, 10, 0, 0, [], 0⟩

def zeroBuffer : BufferInternal := new.append [zeroBlock] 10

theorem zeroBuffer_pages (lastBlockId : Int) (h : lastBlockId = -1 ∨ lastBlockId = 0) :
    (zeroBuffer.getV2 lastBlockId 10 none).shuffleDataBlockSegments = [⟨0, 0, 10, 0, 0, 0⟩] := by
  rcases h with rfl | rfl <;> decide

theorem zeroBuffer_reader_stuck (fuel : Nat) :
    zeroBuffer.readerLoop 10 fuel 0 = none ∧ zeroBuffer.readerLoop 10 fuel (-1) = none := by
  induction fuel with
  | zero => exact ⟨rfl, rfl⟩
  | succ n ih =>
      have h0 : zeroBuffer.readerLoop 10 n 0 = none := ih.1
      unfold readerLoop at h0 ⊢
      constructor
      · simp [Paging.readAll, zeroBuffer_pages 0 (.inr rfl), h0]
      · simp [Paging.readAll, zeroBuffer_pages (-1) (.inl rfl), h0]

theorem paged_read_not_exact : ¬ PagedReadExact := by
  intro h
  obtain ⟨fuel, pages, hrun, -⟩ := h zeroBuffer 10 (by decide) (by decide) (by decide)
  rw [(zeroBuffer_reader_stuck fuel).2] at hrun
  cases hrun

-- `HashMap` may iterate its flights in any order after an insert or a remove.
def Rehash (b b' : BufferInternal) : Prop :=
  b'.flight.Perm b.flight ∧ b' = { b with flight := b'.flight }

instance (b b' : BufferInternal) : Decidable (Rehash b b') :=
  inferInstanceAs (Decidable (_ ∧ _))

def firstBlock : Block := ⟨1, 10, 0, 0, [], 0⟩

def secondBlock : Block := ⟨2, 10, 0, 0, [], 0⟩

def flightBuffer : BufferInternal := ((new.append [firstBlock] 10).spill.1).append [secondBlock] 10

def rehashedBuffer : BufferInternal :=
  { flightBuffer.spill.1 with flight := flightBuffer.spill.1.flight.reverse }

theorem spill_rehash_skips_flight :
    (flightBuffer.getV2 (-1) 10 none).shuffleDataBlockSegments.map DataSegment.blockId = [1] ∧
      Rehash flightBuffer.spill.1 rehashedBuffer ∧
      (rehashedBuffer.getV2 1 10 none).shuffleDataBlockSegments = [] ∧
      secondBlock ∈ flightBuffer.traversal ∧ secondBlock ∈ rehashedBuffer.traversal := by
  decide

end BufferInternal

end Rifflex.Mem
