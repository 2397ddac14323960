import Rifflex.Store.Mem.Buffer
import Rifflex.App

namespace Rifflex.Mem.BufferInternal

open Word

def flightLength (b : BufferInternal) : Int := (b.flight.map (fun e => lengthSum e.2.flatten)).sum

structure SizeRepr (b : BufferInternal) : Prop where
  staging : b.stagingSize = lengthSum b.staging.flatten
  flight : b.flightSize = b.flightLength
  total : b.totalSize = b.stagingSize + b.flightSize

instance (b : BufferInternal) : Decidable (SizeRepr b) :=
  decidable_of_iff (b.stagingSize = lengthSum b.staging.flatten ∧ b.flightSize = b.flightLength ∧
      b.totalSize = b.stagingSize + b.flightSize)
    ⟨fun ⟨h1, h2, h3⟩ => ⟨h1, h2, h3⟩, fun ⟨h1, h2, h3⟩ => ⟨h1, h2, h3⟩⟩

def tenByteBlock : Block := ⟨1, 10, 10, 0, [0, 0, 0, 0, 0, 0, 0, 0, 0, 0], 0⟩

def limitedApp : App := App.from "a" ⟨5, some 1000, some 1000⟩ 0

def limitedStaged : BufferInternal :=
  let ctx := (limitedApp.insertContext 0 (WritingViewContext.from ⟨"a", 0, 0⟩ [tenByteBlock])).2
  new.append ctx.dataBlocks ctx.dataSize

theorem limited_small_partition_stages_no_size :
    limitedStaged.stagingSize = 0 ∧ lengthSum limitedStaged.staging.flatten = 10 ∧
      ¬ SizeRepr limitedStaged := by
  decide

end Rifflex.Mem.BufferInternal
