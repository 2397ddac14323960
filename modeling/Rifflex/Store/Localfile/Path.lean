import Rifflex.Store.Localfile
import Rifflex.Lib.Path

namespace Rifflex.LocalFileStore

open Rifflex.Path

theorem genRelativePathForPartition_toList (uid : PartitionedUId) :
    let stem := uid.appId.toList ++ '/' :: ((toString uid.shuffleId).toList ++
      '/' :: ("partition-".toList ++ (toString uid.partitionId).toList))
    (genRelativePathForPartition uid).1.toList = stem ++ ".data".toList ∧
      (genRelativePathForPartition uid).2.toList = stem ++ ".index".toList := by
  simp [genRelativePathForPartition, String.toList_append]

theorem dataPath_ne_indexPath (u v : PartitionedUId) :
    (genRelativePathForPartition u).1 ≠ (genRelativePathForPartition v).2 := by
  intro h
  have hl := congrArg (fun p : String => p.toList.reverse.head?) h
  simp only [(genRelativePathForPartition_toList u).1, (genRelativePathForPartition_toList v).2] at hl
  simp at hl

theorem dataPath_eq_iff_indexPath_eq (u v : PartitionedUId) :
    (genRelativePathForPartition u).1 = (genRelativePathForPartition v).1 ↔
      (genRelativePathForPartition u).2 = (genRelativePathForPartition v).2 := by
  obtain ⟨hu1, hu2⟩ := genRelativePathForPartition_toList u
  obtain ⟨hv1, hv2⟩ := genRelativePathForPartition_toList v
  rw [← String.toList_inj, ← String.toList_inj, hu1, hu2, hv1, hv2, List.append_cancel_right_eq,
    List.append_cancel_right_eq]

theorem dataPath_toList_split (uid : PartitionedUId) :
    (genRelativePathForPartition uid).1.toList =
      (uid.appId.toList ++ '/' :: (toString uid.shuffleId).toList) ++
        '/' :: ("partition-".toList ++ (toString uid.partitionId).toList ++ ".data".toList) := by
  simp [genRelativePathForPartition, String.toList_append]

theorem appId_of_dataPath_eq {u v : PartitionedUId}
    (h : (genRelativePathForPartition u).1 = (genRelativePathForPartition v).1) : u.appId = v.appId := by
  have hsep : ∀ n : Int, '/' ∉ (toString n).toList := not_mem_toString_int (by decide) (by decide)
  have hrest : ∀ n : Int, '/' ∉ "partition-".toList ++ (toString n).toList ++ ".data".toList := by
    intro n hm
    simp only [List.mem_append] at hm
    rcases hm with (hm | hm) | hm
    · simp at hm
    · exact hsep n hm
    · simp at hm
  have hl := congrArg String.toList h
  rw [dataPath_toList_split, dataPath_toList_split] at hl
  obtain ⟨hstem, -⟩ := append_cons_inj_of_not_mem hl (hrest _) (hrest _)
  obtain ⟨happ, -⟩ := append_cons_inj_of_not_mem hstem (hsep _) (hsep _)
  exact String.toList_inj.mp happ

theorem partitionPaths_ne {u v : PartitionedUId}
    (h : (genRelativePathForPartition u).1 ≠ (genRelativePathForPartition v).1) :
    (genRelativePathForPartition u).1 ≠ (genRelativePathForPartition v).1 ∧
      (genRelativePathForPartition u).1 ≠ (genRelativePathForPartition v).2 ∧
      (genRelativePathForPartition u).2 ≠ (genRelativePathForPartition v).1 ∧
      (genRelativePathForPartition u).2 ≠ (genRelativePathForPartition v).2 :=
  ⟨h, dataPath_ne_indexPath u v, fun he => dataPath_ne_indexPath v u he.symm,
   fun he => h ((dataPath_eq_iff_indexPath_eq u v).mpr he)⟩

end Rifflex.LocalFileStore
