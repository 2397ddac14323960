import Rifflex.Store.Mem.Read
import Rifflex.Lib.Fill

namespace Rifflex.Mem.BufferInternal

open Fill

theorem fill_of_ge {budget acc : Int} (h : acc ≥ budget) (xs : List Block) :
    fill Block.length budget acc xs = [] := by
  cases xs with
  | nil => rfl
  | cons x xs => simp [fill, h]

theorem page_eq_fill (batchLen : Int) (taskIds : Option Treemap) (readLen : Int) (blocks : List Block) :
    page batchLen taskIds readLen blocks =
      fill Block.length batchLen readLen (blocks.filter (expected taskIds)) := by
  induction blocks generalizing readLen with
  | nil => rfl
  | cons block rest ih =>
      by_cases hfull : readLen ≥ batchLen
      · rw [page, if_pos hfull, fill_of_ge hfull]
      · by_cases hexp : expected taskIds block = true
        · rw [page, if_neg hfull, if_neg (by simp [hexp]), List.filter_cons_of_pos hexp, fill,
            if_neg hfull, ih]
        · rw [page, if_neg hfull, if_pos (by simpa using hexp), List.filter_cons_of_neg hexp, ih]

theorem getV2_longest_page (b : BufferInternal) (lastBlockId batchLen : Int)
    (taskIds : Option Treemap) :
    ∃ R, R <+: (b.anchored lastBlockId).filter (expected taskIds) ∧
      StartsBelow Block.length batchLen 0 R ∧
      (∀ R', R' <+: (b.anchored lastBlockId).filter (expected taskIds) →
        StartsBelow Block.length batchLen 0 R' → R'.length ≤ R.length) ∧
      List.Forall₂ DataSegment.Describes
        (b.getV2 lastBlockId batchLen taskIds).shuffleDataBlockSegments R ∧
      (b.getV2 lastBlockId batchLen taskIds).data.freeze = (R.map Block.data).flatten := by
  have hpage : b.getV2Blocks lastBlockId batchLen taskIds =
      fill Block.length batchLen 0 ((b.anchored lastBlockId).filter (expected taskIds)) := by
    rw [getV2Blocks, page_eq_fill]
  refine ⟨b.getV2Blocks lastBlockId batchLen taskIds, ?_, ?_, ?_, ?_, ?_⟩
  · rw [hpage]
    exact fill_isPrefix _ _ _ _
  · rw [hpage]
    exact fill_startsBelow _ _ _ _
  · intro R' hR' hbelow
    rw [hpage]
    exact fill_longest _ _ hR' hbelow
  · rw [getV2_eq]
    exact buildSegments_describes 0 _
  · simp [getV2_eq, BytesWrapper.freeze, ComposedBytes.freeze, ComposedBytes.from, buildSegments_data]

-- A block may carry the id 0, while `last_block_id == 0` also means "from the start".
def zeroAnchorBuffer : BufferInternal := new.append [⟨0, 1, 1, 0, [0], 0⟩, ⟨1, 1, 1, 0, [1], 0⟩] 2

theorem zero_anchor_served_again :
    zeroAnchorBuffer.traversal.map Block.blockId = [0, 1] ∧
      (zeroAnchorBuffer.getV2 0 10 none).shuffleDataBlockSegments.map DataSegment.blockId = [0, 1] := by
  decide

end Rifflex.Mem.BufferInternal
