import Rifflex.Lib.Word
import Rifflex.Lib.Bytes

namespace Rifflex

open Word

structure Block where
  blockId : Int
  length : Int
  uncompressLength : Int
  crc : Int
  data : List UInt8
  taskAttemptId : Int
deriving DecidableEq, Repr

structure PartitionedUId where
  appId : String
  shuffleId : Int
  partitionId : Int
deriving DecidableEq, Repr

structure DataSegment where
  blockId : Int
  offset : Int
  length : Int
  uncompressLength : Int
  crc : Int
  taskAttemptId : Int
deriving DecidableEq, Repr

structure Treemap where
  values : List Nat
deriving DecidableEq, Repr

def Treemap.contains (t : Treemap) (x : Nat) : Bool := t.values.contains x

structure ComposedBytes where
  composed : List (List UInt8)
  totalLen : Nat
deriving DecidableEq, Repr

def ComposedBytes.from (all : List (List UInt8)) (totalSize : Nat) : ComposedBytes := ⟨all, totalSize⟩

def ComposedBytes.freeze (c : ComposedBytes) : List UInt8 := c.composed.flatten

def ComposedBytes.len (c : ComposedBytes) : Nat := c.totalLen

inductive BytesWrapper where
  | direct (bytes : List UInt8)
  | composed (bytes : ComposedBytes)
deriving DecidableEq, Repr

def BytesWrapper.len : BytesWrapper → Nat
  | .direct bytes => bytes.length
  | .composed bytes => bytes.len

def BytesWrapper.freeze : BytesWrapper → List UInt8
  | .direct bytes => bytes
  | .composed bytes => bytes.freeze

def BytesWrapper.alwaysComposed : BytesWrapper → ComposedBytes
  | .composed bytes => bytes
  | .direct data => ComposedBytes.from [data] data.length

@[simp] theorem BytesWrapper.alwaysComposed_freeze (w : BytesWrapper) :
    w.alwaysComposed.freeze = w.freeze := by
  cases w <;> simp [BytesWrapper.alwaysComposed, BytesWrapper.freeze, ComposedBytes.freeze,
    ComposedBytes.from]

structure PartitionedMemoryData where
  shuffleDataBlockSegments : List DataSegment
  data : BytesWrapper
deriving DecidableEq, Repr

structure PartitionedLocalData where
  data : List UInt8
deriving DecidableEq, Repr

inductive ResponseData where
  | local (data : PartitionedLocalData)
  | mem (data : PartitionedMemoryData)
deriving DecidableEq, Repr

structure LocalDataIndex where
  indexData : List UInt8
  dataFileLen : Int
deriving DecidableEq, Repr

structure WritingViewContext where
  uid : PartitionedUId
  dataBlocks : List Block
  ownedByHugePartition : Bool
  dataSize : Nat
deriving DecidableEq, Repr

def WritingViewContext.from (uid : PartitionedUId) (dataBlocks : List Block) : WritingViewContext :=
  ⟨uid, dataBlocks, false, 0⟩

def WritingViewContext.new (uid : PartitionedUId) (dataBlocks : List Block)
    (ownedByHugePartition : Bool) (dataSize : Nat) : WritingViewContext :=
  ⟨uid, dataBlocks, ownedByHugePartition, dataSize⟩

def Block.WellFormed (b : Block) : Prop := b.length = b.data.length ∧ b.length < 2 ^ 31

instance (b : Block) : Decidable b.WellFormed :=
  inferInstanceAs (Decidable (b.length = b.data.length ∧ b.length < 2 ^ 31))

def lengthSum (blocks : List Block) : Int := (blocks.map Block.length).sum

@[simp] theorem lengthSum_nil : lengthSum [] = 0 := rfl

@[simp] theorem lengthSum_cons (b : Block) (bs : List Block) :
    lengthSum (b :: bs) = b.length + lengthSum bs := by
  simp [lengthSum]

@[simp] theorem lengthSum_append (bs cs : List Block) :
    lengthSum (bs ++ cs) = lengthSum bs + lengthSum cs := by
  simp [lengthSum]

theorem lengthSum_eq_data {blocks : List Block} (h : ∀ block ∈ blocks, block.length = block.data.length) :
    lengthSum blocks = ((blocks.map Block.data).map List.length).sum := by
  induction blocks with
  | nil => rfl
  | cons block rest ih =>
      simp only [lengthSum_cons, List.map_cons, List.sum_cons]
      rw [h block (by simp), ih (fun b hm => h b (by simp [hm]))]
      push_cast
      rfl

theorem data_slice {blocks : List Block} (h : ∀ block ∈ blocks, block.length = block.data.length)
    {i : Nat} {block : Block} (hb : blocks[i]? = some block) :
    ((blocks.map Block.data).flatten.drop (lengthSum (blocks.take i)).toNat).take block.length.toNat =
      block.data := by
  have htake : lengthSum (blocks.take i) = (((blocks.map Block.data).take i).map List.length).sum := by
    rw [lengthSum_eq_data (fun b hm => h b (List.mem_of_mem_take hm)), List.map_take]
  have hlen : block.length.toNat = block.data.length := by
    rw [h block (List.mem_of_getElem? hb)]
    simp
  rw [htake, Int.toNat_natCast, hlen]
  exact Bytes.flatten_drop_take _ i block.data (by simp [List.getElem?_map, hb])

end Rifflex
