import Rifflex.Store.Block
import Rifflex.Lib.Assoc

namespace Rifflex.Mem

open Word

abbrev BatchMemoryBlock := List (List Block)

-- Each method is one step under the `RwLock`; the flight map's iteration order is the list's.
structure BufferInternal where
  totalSize : Int
  stagingSize : Int
  flightSize : Int
  staging : BatchMemoryBlock
  flight : List (Nat × BatchMemoryBlock)
  flightCounter : Nat
deriving DecidableEq, Repr

structure BufferSpillResult where
  flightId : Nat
  flightLen : Nat
  blocks : BatchMemoryBlock
deriving DecidableEq, Repr

structure BufferReadResult where
  readLen : Nat
  blocks : List Block
deriving DecidableEq, Repr

structure ScanState where
  readResult : List Block
  readLen : Int
  flightFound : Bool
deriving DecidableEq, Repr

namespace BufferInternal

def new : BufferInternal := ⟨0, 0, 0, [], [], 0⟩

def append (b : BufferInternal) (blocks : List Block) (size : Nat) : BufferInternal :=
  { b with staging := b.staging ++ [blocks],
           stagingSize := b.stagingSize + asI64 size,
           totalSize := b.totalSize + asI64 size }

def spill (b : BufferInternal) : BufferInternal × BufferSpillResult :=
  ({ b with staging := [],
            flight := Assoc.insert b.flightCounter b.staging b.flight,
            flightCounter := b.flightCounter + 1,
            flightSize := b.flightSize + b.stagingSize,
            stagingSize := 0 },
   ⟨b.flightCounter, toU64 b.stagingSize, b.staging⟩)

def clear (b : BufferInternal) (flightId flightSize : Nat) : BufferInternal :=
  match Assoc.find? flightId b.flight with
  | some _ => { b with flight := Assoc.erase flightId b.flight,
                       totalSize := b.totalSize - asI64 flightSize,
                       flightSize := b.flightSize - asI64 flightSize }
  | none => b

def expected (taskIds : Option Treemap) (block : Block) : Bool :=
  match taskIds with
  | some expectedTaskId => expectedTaskId.contains (toU64 block.taskAttemptId)
  | none => true

-- The innermost `for block in blocks` of `get_v2`; `break` leaves only this loop.
def scanBlocks (lastBlockId batchLen : Int) (taskIds : Option Treemap) :
    ScanState → List Block → ScanState
  | st, [] => st
  | st, block :: rest =>
      if !st.flightFound && block.blockId == lastBlockId then
        scanBlocks lastBlockId batchLen taskIds { st with flightFound := true } rest
      else if !st.flightFound then
        scanBlocks lastBlockId batchLen taskIds st rest
      else if st.readLen ≥ batchLen then
        st
      else if !expected taskIds block then
        scanBlocks lastBlockId batchLen taskIds st rest
      else
        scanBlocks lastBlockId batchLen taskIds
          { st with readLen := st.readLen + block.length, readResult := st.readResult ++ [block] } rest

def scanBatch (lastBlockId batchLen : Int) (taskIds : Option Treemap) (st : ScanState)
    (batch : BatchMemoryBlock) : ScanState :=
  batch.foldl (scanBlocks lastBlockId batchLen taskIds) st

def scanPass (b : BufferInternal) (lastBlockId batchLen : Int) (taskIds : Option Treemap)
    (st : ScanState) : ScanState :=
  let st := if lastBlockId = 0 then { st with flightFound := true } else st
  let st := b.flight.foldl (fun st entry => scanBatch lastBlockId batchLen taskIds st entry.2) st
  scanBatch lastBlockId batchLen taskIds st b.staging

-- A second pass runs only when the first found no anchor, with `flight_found` set.
def readLoop (b : BufferInternal) (lastBlockId batchLen : Int) (taskIds : Option Treemap) :
    ScanState :=
  let st := scanPass b lastBlockId batchLen taskIds ⟨[], 0, false⟩
  if !st.flightFound then scanPass b lastBlockId batchLen taskIds { st with flightFound := true }
  else st

def buildSegments : Int → List Block → List DataSegment × List (List UInt8) × Int
  | offset, [] => ([], [], offset)
  | offset, block :: rest =>
      let r := buildSegments (offset + block.length) rest
      (⟨block.blockId, offset, block.length, block.uncompressLength, block.crc,
        block.taskAttemptId⟩ :: r.1, block.data :: r.2.1, r.2.2)

def getV2 (b : BufferInternal) (lastBlockId batchLen : Int) (taskIds : Option Treemap) :
    PartitionedMemoryData :=
  let r := buildSegments 0 (readLoop b lastBlockId batchLen taskIds).readResult
  { shuffleDataBlockSegments := r.1,
    data := .composed (ComposedBytes.from r.2.1 (toU64 r.2.2)) }

def get (b : BufferInternal) (lastBlockId batchLen : Int) (taskIds : Option Treemap) :
    BufferReadResult :=
  let st := readLoop b lastBlockId batchLen taskIds
  ⟨toU64 st.readLen, st.readResult⟩

@[simp] theorem append_staging (b : BufferInternal) (blocks : List Block) (size : Nat) :
    (b.append blocks size).staging = b.staging ++ [blocks] := rfl

@[simp] theorem append_flight (b : BufferInternal) (blocks : List Block) (size : Nat) :
    (b.append blocks size).flight = b.flight := rfl

@[simp] theorem append_stagingSize (b : BufferInternal) (blocks : List Block) (size : Nat) :
    (b.append blocks size).stagingSize = b.stagingSize + asI64 size := rfl

@[simp] theorem append_flightSize (b : BufferInternal) (blocks : List Block) (size : Nat) :
    (b.append blocks size).flightSize = b.flightSize := rfl

@[simp] theorem append_totalSize (b : BufferInternal) (blocks : List Block) (size : Nat) :
    (b.append blocks size).totalSize = b.totalSize + asI64 size := rfl

@[simp] theorem append_flightCounter (b : BufferInternal) (blocks : List Block) (size : Nat) :
    (b.append blocks size).flightCounter = b.flightCounter := rfl

@[simp] theorem spill_staging (b : BufferInternal) : b.spill.1.staging = [] := rfl

@[simp] theorem spill_flight (b : BufferInternal) :
    b.spill.1.flight = Assoc.insert b.flightCounter b.staging b.flight := rfl

@[simp] theorem spill_stagingSize (b : BufferInternal) : b.spill.1.stagingSize = 0 := rfl

@[simp] theorem spill_flightSize (b : BufferInternal) :
    b.spill.1.flightSize = b.flightSize + b.stagingSize := rfl

@[simp] theorem spill_totalSize (b : BufferInternal) : b.spill.1.totalSize = b.totalSize := rfl

@[simp] theorem spill_flightCounter (b : BufferInternal) :
    b.spill.1.flightCounter = b.flightCounter + 1 := rfl

@[simp] theorem spill_result (b : BufferInternal) :
    b.spill.2 = ⟨b.flightCounter, toU64 b.stagingSize, b.staging⟩ := rfl

theorem clear_of_find? {b : BufferInternal} {flightId : Nat} {batch : BatchMemoryBlock}
    (h : Assoc.find? flightId b.flight = some batch) (flightSize : Nat) :
    b.clear flightId flightSize =
      { b with flight := Assoc.erase flightId b.flight,
               totalSize := b.totalSize - asI64 flightSize,
               flightSize := b.flightSize - asI64 flightSize } := by
  simp [clear, h]

@[simp] theorem clear_staging (b : BufferInternal) (flightId flightSize : Nat) :
    (b.clear flightId flightSize).staging = b.staging := by
  unfold clear; split <;> rfl

@[simp] theorem clear_stagingSize (b : BufferInternal) (flightId flightSize : Nat) :
    (b.clear flightId flightSize).stagingSize = b.stagingSize := by
  unfold clear; split <;> rfl

@[simp] theorem clear_flightCounter (b : BufferInternal) (flightId flightSize : Nat) :
    (b.clear flightId flightSize).flightCounter = b.flightCounter := by
  unfold clear; split <;> rfl

end BufferInternal

end Rifflex.Mem
