import Rifflex.Server.Exec
import Rifflex.Lib.Transition
import Rifflex.Urpc.Frame

namespace Rifflex.Server

open Transition Mem Decode Decoder

def firstByte : Block := ⟨2, 1, 1, 0, [1], 0⟩

def secondByte : Block := ⟨3, 1, 1, 0, [2], 0⟩

def ticketed : List Action :=
  [.request (.registerShuffle "a" 0), .request (.requireBuffer "a" 0 2)] ++ advanceAll 0 3

def repeatedSend (frontend : Frontend) : List Action :=
  [.request (.sendShuffleData ⟨frontend, "a", 0, 1, [(0, [firstByte]), (0, [secondByte])]⟩)] ++
    advanceAll 1 8

theorem frontends_store_different_blocks :
    ∃ s, Reach (exec smallConf) Always (init smallConf) s ∧
      EndsIn (exec smallConf) s (repeatedSend .grpc) (fun t => Quiet t ∧
        t.hotStore.partitionBlocks ⟨"a", 0, 0⟩ = [firstByte, secondByte] ∧
        t.hotStore.budget.inner.used = 2) ∧
      EndsIn (exec smallConf) s (repeatedSend .urpc) (fun t => Quiet t ∧
        t.hotStore.partitionBlocks ⟨"a", 0, 0⟩ = [secondByte] ∧
        t.hotStore.budget.inner.used = 1) :=
  reach_of_endsIn (fun _ _ _ => trivial)
    (show EndsIn (exec smallConf) (init smallConf) ticketed _ by decide +kernel)

theorem parseToSendShuffleDataCommand_blocks {c c' : Cursor} {cmd : Urpc.SendDataRequestCommand}
    (h : Urpc.parseToSendShuffleDataCommand c = .ok cmd c') :
    ∃ partitions, cmd.blocks =
      (SendRequest.mk .urpc cmd.appId cmd.shuffleId cmd.ticketId partitions).blocksMap := by
  obtain ⟨requestId, c1, -, h⟩ := bind_eq_ok h
  obtain ⟨appId, c2, -, h⟩ := bind_eq_ok h
  obtain ⟨shuffleId, c3, -, h⟩ := bind_eq_ok h
  obtain ⟨requireId, c4, -, h⟩ := bind_eq_ok h
  obtain ⟨partitionBatchSize, c5, -, h⟩ := bind_eq_ok h
  obtain ⟨partitions, c6, -, h⟩ := bind_eq_ok h
  obtain ⟨timestamp, c7, -, h⟩ := bind_eq_ok h
  cases h
  exact ⟨partitions, rfl⟩

inductive StatusCode where
  | success
  | doubleRegister
  | noBuffer
  | invalidStorage
  | noRegister
  | noPartition
  | internalError
  | timeout
  | noBufferForHugePartition
deriving DecidableEq, Repr

def StatusCode.toI32 : StatusCode → Int
  | .success => 0
  | .doubleRegister => 1
  | .noBuffer => 2
  | .invalidStorage => 3
  | .noRegister => 4
  | .noPartition => 5
  | .internalError => 6
  | .timeout => 7
  | .noBufferForHugePartition => 8

-- `App::select` of a memory read: the heartbeat, the buffer (created when missing), `get_v2`.
def selectMemory (s : Server) (r : Nat) (uid : PartitionedUId) (lastBlockId maxSize : Int)
    (taskIds : Option Treemap) : Server × PartitionedMemoryData :=
  let s := s.setApp r ((s.app r).heartbeat s.now)
  let res := s.hotStore.getOrCreateMemoryBuffer uid
  (s.setHot res.1, (res.1.buffer res.2).getV2 lastBlockId maxSize taskIds)

structure GetMemoryShuffleDataRequest where
  appId : String
  shuffleId : Int
  partitionId : Int
  lastBlockId : Int
  readBufferSize : Int
  timestamp : Int
  serializedExpectedTaskIdsBitmap : List UInt8
deriving DecidableEq, Repr

structure GetMemoryShuffleDataResponse where
  shuffleDataBlockSegments : List DataSegment
  data : List UInt8
  status : Int
  retMsg : String
deriving DecidableEq, Repr

-- `none` is an error of `Treemap::deserialize`, which the handler logs and reads as no filter.
def expectedTaskIdsFilter (deserialize : List UInt8 → Option Treemap) (bytes : List UInt8) :
    Option Treemap :=
  if !bytes.isEmpty then deserialize bytes else none

def getMemoryShuffleData (deserialize : List UInt8 → Option Treemap) (s : Server)
    (req : GetMemoryShuffleDataRequest) : Server × GetMemoryShuffleDataResponse :=
  match s.getApp req.appId with
  | none => (s, ⟨[], [], StatusCode.noRegister.toI32, "No such app in this shuffle server"⟩)
  | some r =>
      let res := s.selectMemory r ⟨req.appId, req.shuffleId, req.partitionId⟩ req.lastBlockId
        req.readBufferSize (expectedTaskIdsFilter deserialize req.serializedExpectedTaskIdsBitmap)
      (res.1, ⟨res.2.shuffleDataBlockSegments, res.2.data.freeze, StatusCode.success.toI32, ""⟩)

theorem getMemoryShuffleData_congr {d₁ d₂ : List UInt8 → Option Treemap} {s : Server}
    {req : GetMemoryShuffleDataRequest}
    (h : expectedTaskIdsFilter d₁ req.serializedExpectedTaskIdsBitmap =
      expectedTaskIdsFilter d₂ req.serializedExpectedTaskIdsBitmap) :
    getMemoryShuffleData d₁ s req = getMemoryShuffleData d₂ s req := by
  unfold getMemoryShuffleData
  rw [h]

def GetMemoryShuffleDataResponse.memoryRead (resp : GetMemoryShuffleDataResponse) :
    Int × List DataSegment × List UInt8 :=
  (resp.status, resp.shuffleDataBlockSegments, resp.data)

-- `get_bytes` gives `None` for an empty bitmap.
def GetMemoryShuffleDataRequest.ofCommand (cmd : Urpc.GetMemoryDataRequestCommand) :
    GetMemoryShuffleDataRequest :=
  ⟨cmd.appId, cmd.shuffleId, cmd.partitionId, cmd.lastBlockId, cmd.readBufferSize, cmd.timestamp,
    cmd.expectedTasksBitmapRaw.getD []⟩

end Rifflex.Server

namespace Rifflex.Urpc

open Server

def GetMemoryDataRequestCommand.apply (s : Server) (cmd : GetMemoryDataRequestCommand) :
    Server × Frame :=
  match s.getApp cmd.appId with
  | none => (s, .rpcResponse ⟨cmd.requestId, StatusCode.noRegister.toI32, "No such app in server side"⟩)
  | some r =>
      -- `serialized_expected_task_ids_bitmap: None`: the bitmap the decoder read is dropped.
      let res := s.selectMemory r ⟨cmd.appId, cmd.shuffleId, cmd.partitionId⟩ cmd.lastBlockId
        cmd.readBufferSize none
      (res.1, .getMemoryDataResponse ⟨cmd.requestId, StatusCode.success.toI32, "", .mem res.2⟩)

def Frame.memoryRead : Frame → Option (Int × List DataSegment × List UInt8)
  | .rpcResponse resp => some (resp.statusCode, [], [])
  | .getMemoryDataResponse ⟨_, status, _, .mem data⟩ =>
      some (status, data.shuffleDataBlockSegments, data.data.freeze)
  | _ => none

end Rifflex.Urpc

namespace Rifflex.Server

open Transition

theorem memory_reads_agree_without_filter (deserialize : List UInt8 → Option Treemap) (s : Server)
    (cmd : Urpc.GetMemoryDataRequestCommand)
    (hfilter : expectedTaskIdsFilter deserialize (cmd.expectedTasksBitmapRaw.getD []) = none) :
    (cmd.apply s).1 = (getMemoryShuffleData deserialize s (.ofCommand cmd)).1 ∧
      (cmd.apply s).2.memoryRead =
        some (getMemoryShuffleData deserialize s (.ofCommand cmd)).2.memoryRead := by
  cases happ : s.getApp cmd.appId with
  | none =>
      simp [Urpc.GetMemoryDataRequestCommand.apply, getMemoryShuffleData, happ,
        GetMemoryShuffleDataRequest.ofCommand, Urpc.Frame.memoryRead,
        GetMemoryShuffleDataResponse.memoryRead]
  | some r =>
      simp [Urpc.GetMemoryDataRequestCommand.apply, getMemoryShuffleData, happ, hfilter,
        GetMemoryShuffleDataRequest.ofCommand, Urpc.Frame.memoryRead,
        GetMemoryShuffleDataResponse.memoryRead]

def otherTaskByte : Block := ⟨4, 1, 1, 0, [3], 1⟩

def twoTaskPartition : List Action :=
  ticketed ++
  [.request (.sendShuffleData ⟨.grpc, "a", 0, 1, [(0, [firstByte, otherTaskByte])]⟩)] ++ advanceAll 1 8

-- `JvmSerializer` bytes of {0}: `signedLongs`, map length and high bits (u32 BE), then the
-- portable bitmap: cookie 12346, one container, key 0, cardinality 1, offset 16, value 0 (LE).
def jvmTaskZero : List UInt8 :=
  [0, 0, 0, 0, 1, 0, 0, 0, 0, 0x3A, 0x30, 0, 0, 1, 0, 0, 0, 0, 0, 0, 0, 16, 0, 0, 0, 0, 0]

def filteredRead : Urpc.GetMemoryDataRequestCommand := ⟨0, "a", 0, 0, -1, 10, some jvmTaskZero, 0⟩

theorem filtered_memory_reads_differ (deserialize : List UInt8 → Option Treemap)
    (h : deserialize jvmTaskZero = some ⟨[0]⟩) :
    (∀ s (cmd : Urpc.GetMemoryDataRequestCommand),
        expectedTaskIdsFilter deserialize (cmd.expectedTasksBitmapRaw.getD []) = none →
        (cmd.apply s).2.memoryRead = some (getMemoryShuffleData deserialize s (.ofCommand cmd)).2.memoryRead) ∧
    ∃ s, Reach (exec smallConf) Always (init smallConf) s ∧
      (filteredRead.apply s).2.memoryRead = some (0, [⟨2, 0, 1, 1, 0, 0⟩, ⟨4, 1, 1, 1, 0, 1⟩], [1, 3]) ∧
      (getMemoryShuffleData deserialize s (.ofCommand filteredRead)).2.memoryRead =
        (0, [⟨2, 0, 1, 1, 0, 0⟩], [1]) := by
  refine ⟨fun s cmd hfilter => (memory_reads_agree_without_filter deserialize s cmd hfilter).2, ?_⟩
  have hd : expectedTaskIdsFilter deserialize jvmTaskZero =
      expectedTaskIdsFilter (fun _ => some ⟨[0]⟩) jvmTaskZero := by
    simp [expectedTaskIdsFilter, h]
  obtain ⟨s, hs, hurpc, hgrpc⟩ := reach_of_endsIn (fun _ _ _ => trivial)
    (show EndsIn (exec smallConf) (init smallConf) twoTaskPartition (fun s =>
      (filteredRead.apply s).2.memoryRead = some (0, [⟨2, 0, 1, 1, 0, 0⟩, ⟨4, 1, 1, 1, 0, 1⟩], [1, 3]) ∧
      (getMemoryShuffleData (fun _ => some ⟨[0]⟩) s (.ofCommand filteredRead)).2.memoryRead =
        (0, [⟨2, 0, 1, 1, 0, 0⟩], [1])) by decide +kernel)
  exact ⟨s, hs, hurpc, by rw [getMemoryShuffleData_congr hd]; exact hgrpc⟩

def readsTaskZero (bytes : List UInt8) : Option Treemap :=
  if bytes = jvmTaskZero then some ⟨[0]⟩ else none

theorem filtered_memory_reads_differ_at :
    readsTaskZero jvmTaskZero = some ⟨[0]⟩ ∧
    (∀ s (cmd : Urpc.GetMemoryDataRequestCommand),
        expectedTaskIdsFilter readsTaskZero (cmd.expectedTasksBitmapRaw.getD []) = none →
        (cmd.apply s).2.memoryRead = some (getMemoryShuffleData readsTaskZero s (.ofCommand cmd)).2.memoryRead) ∧
    ∃ s, Reach (exec smallConf) Always (init smallConf) s ∧
      (filteredRead.apply s).2.memoryRead = some (0, [⟨2, 0, 1, 1, 0, 0⟩, ⟨4, 1, 1, 1, 0, 1⟩], [1, 3]) ∧
      (getMemoryShuffleData readsTaskZero s (.ofCommand filteredRead)).2.memoryRead =
        (0, [⟨2, 0, 1, 1, 0, 0⟩], [1]) :=
  ⟨by simp [readsTaskZero], filtered_memory_reads_differ readsTaskZero (by simp [readsTaskZero])⟩

end Rifflex.Server
