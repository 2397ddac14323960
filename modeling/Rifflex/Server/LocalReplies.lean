import Rifflex.Server.Frontends
import Rifflex.Server.LocalRead

namespace Rifflex

-- The `Debug` texts of an error, `{:?}` and `{:#?}`, that the replies put into `ret_msg`.
structure ErrorTexts where
  debug : WorkerError → String
  prettyDebug : WorkerError → String

def ResponseData.fromLocal : ResponseData → List UInt8
  | .local data => data.data
  | .mem _ => []

end Rifflex

namespace Rifflex.Server

open LocalFileStore

def listIndex (s : Server) (r : Nat) (uid : PartitionedUId) : Server × ReadOutcome LocalDataIndex :=
  let s := s.setApp r ((s.app r).heartbeat s.now)
  (s, s.warmStore.getIndex uid)

def selectLocal (s : Server) (r : Nat) (uid : PartitionedUId) (offset length : Int) :
    Server × ReadOutcome ResponseData :=
  let s := s.setApp r ((s.app r).heartbeat s.now)
  (s, s.warmStore.get ⟨uid, .fileOffsetAndLen offset length⟩)

structure GetLocalShuffleIndexRequest where
  appId : String
  shuffleId : Int
  partitionId : Int
deriving DecidableEq, Repr

structure GetLocalShuffleIndexResponse where
  indexData : List UInt8
  status : Int
  retMsg : String
  dataFileLen : Int
deriving DecidableEq, Repr

structure GetLocalShuffleDataRequest where
  appId : String
  shuffleId : Int
  partitionId : Int
  offset : Int
  length : Int
deriving DecidableEq, Repr

structure GetLocalShuffleDataResponse where
  data : List UInt8
  status : Int
  retMsg : String
deriving DecidableEq, Repr

-- `none` is a panic of the read; the error is formatted as the `Option` the handler took.
def getLocalShuffleIndex (texts : ErrorTexts) (s : Server) (req : GetLocalShuffleIndexRequest) :
    Option (Server × GetLocalShuffleIndexResponse) :=
  match s.getApp req.appId with
  | none => some (s, ⟨[], StatusCode.noRegister.toI32, "App not found", 0⟩)
  | some r =>
      let res := s.listIndex r ⟨req.appId, req.shuffleId, req.partitionId⟩
      match res.2 with
      | .ok index => some (res.1, ⟨index.indexData, StatusCode.success.toI32, "", index.dataFileLen⟩)
      | .err e =>
          some (res.1, ⟨[], StatusCode.internalError.toI32, "Some(" ++ texts.debug e ++ ")", 0⟩)
      | .panicked => none

def getLocalShuffleData (texts : ErrorTexts) (s : Server) (req : GetLocalShuffleDataRequest) :
    Option (Server × GetLocalShuffleDataResponse) :=
  match s.getApp req.appId with
  | none => some (s, ⟨[], StatusCode.noRegister.toI32, "No such app in this shuffle server"⟩)
  | some r =>
      let res := s.selectLocal r ⟨req.appId, req.shuffleId, req.partitionId⟩ req.offset req.length
      match res.2 with
      | .ok data => some (res.1, ⟨data.fromLocal, StatusCode.success.toI32, ""⟩)
      | .err e => some (res.1, ⟨[], StatusCode.internalError.toI32, "Some(" ++ texts.debug e ++ ")"⟩)
      | .panicked => none

def GetLocalShuffleIndexResponse.localIndex (resp : GetLocalShuffleIndexResponse) :
    Int × List UInt8 × Int :=
  (resp.status, resp.indexData, resp.dataFileLen)

def GetLocalShuffleDataResponse.localData (resp : GetLocalShuffleDataResponse) : Int × List UInt8 :=
  (resp.status, resp.data)

end Rifflex.Server

namespace Rifflex.Urpc

open Server

def GetLocalDataIndexRequestCommand.uid (cmd : GetLocalDataIndexRequestCommand) : PartitionedUId :=
  ⟨cmd.appId, cmd.shuffleId, cmd.partitionId⟩

def GetLocalDataRequestCommand.uid (cmd : GetLocalDataRequestCommand) : PartitionedUId :=
  ⟨cmd.appId, cmd.shuffleId, cmd.partitionId⟩

def GetLocalDataIndexRequestCommand.apply (texts : ErrorTexts) (s : Server)
    (cmd : GetLocalDataIndexRequestCommand) : Option (Server × Frame) :=
  match s.getApp cmd.appId with
  | none => some (s, .getLocalDataIndexResponse
      ⟨cmd.requestId, StatusCode.noRegister.toI32, "No such app in server side", ⟨[], 0⟩⟩)
  | some r =>
      let res := s.listIndex r cmd.uid
      match res.2 with
      | .ok index => some (res.1, .getLocalDataIndexResponse
          ⟨cmd.requestId, StatusCode.success.toI32, "", index⟩)
      | .err e => some (res.1, .getLocalDataIndexResponse ⟨cmd.requestId, StatusCode.internalError.toI32,
          "Errors on listing local index. err: " ++ texts.prettyDebug e, ⟨[], 0⟩⟩)
      | .panicked => none

def GetLocalDataRequestCommand.apply (texts : ErrorTexts) (s : Server)
    (cmd : GetLocalDataRequestCommand) : Option (Server × Frame) :=
  match s.getApp cmd.appId with
  | none => some (s, .getLocalDataResponse
      ⟨cmd.requestId, StatusCode.noRegister.toI32, "No such app in server side", []⟩)
  | some r =>
      let res := s.selectLocal r cmd.uid cmd.offset cmd.length
      match res.2 with
      | .ok (.local data) => some (res.1, .getLocalDataResponse
          ⟨cmd.requestId, StatusCode.success.toI32, "", data.data⟩)
      | .ok (.mem _) => some (res.1, .getLocalDataResponse
          ⟨cmd.requestId, StatusCode.internalError.toI32, "Incorrect local data type.", []⟩)
      | .err e => some (res.1, .getLocalDataResponse ⟨cmd.requestId, StatusCode.internalError.toI32,
          "Errors on getting file data. err: " ++ texts.prettyDebug e, []⟩)
      | .panicked => none

def Frame.localIndex : Frame → Option (Int × List UInt8 × Int)
  | .getLocalDataIndexResponse resp =>
      some (resp.statusCode, resp.dataIndex.indexData, resp.dataIndex.dataFileLen)
  | _ => none

def Frame.localData : Frame → Option (Int × List UInt8)
  | .getLocalDataResponse resp => some (resp.statusCode, resp.data)
  | _ => none

end Rifflex.Urpc

namespace Rifflex.Server

open Transition LocalFileStore Urpc

def GetLocalShuffleIndexRequest.ofCommand (cmd : GetLocalDataIndexRequestCommand) :
    GetLocalShuffleIndexRequest :=
  ⟨cmd.appId, cmd.shuffleId, cmd.partitionId⟩

def GetLocalShuffleDataRequest.ofCommand (cmd : GetLocalDataRequestCommand) :
    GetLocalShuffleDataRequest :=
  ⟨cmd.appId, cmd.shuffleId, cmd.partitionId, cmd.offset, cmd.length⟩

theorem local_index_replies_agree (texts : ErrorTexts) (s : Server) (cmd : GetLocalDataIndexRequestCommand) :
    (cmd.apply texts s).map (fun res => (res.1, res.2.localIndex)) =
      (getLocalShuffleIndex texts s (.ofCommand cmd)).map (fun res => (res.1, some res.2.localIndex)) := by
  cases happ : s.getApp cmd.appId with
  | none =>
      simp [GetLocalDataIndexRequestCommand.apply, getLocalShuffleIndex, GetLocalShuffleIndexRequest.ofCommand,
        happ, Frame.localIndex, GetLocalShuffleIndexResponse.localIndex]
  | some r =>
      cases hread : (s.listIndex r cmd.uid).2 <;>
        simp_all [GetLocalDataIndexRequestCommand.apply, getLocalShuffleIndex,
          GetLocalShuffleIndexRequest.ofCommand, GetLocalDataIndexRequestCommand.uid, Frame.localIndex,
          GetLocalShuffleIndexResponse.localIndex]

theorem selectLocal_ne_mem (s : Server) (r : Nat) (uid : PartitionedUId) (offset length : Int)
    (data : PartitionedMemoryData) : (s.selectLocal r uid offset length).2 ≠ .ok (.mem data) := by
  simp only [selectLocal, setApp_warmStore, LocalFileStore.get]
  by_cases hlen : length = 0
  · simp [hlen, ReadingOptions.fileOffsetAndLen?]
  · cases hf : Assoc.find? (genRelativePathForPartition uid).1 s.warmStore.partitionLocks with
    | none => simp [hlen, ReadingOptions.fileOffsetAndLen?]
    | some r =>
        by_cases hc : (s.warmStore.disk (s.warmStore.lockedObj r).disk).isCorrupted
        · simp [hlen, hc, ReadingOptions.fileOffsetAndLen?]
        · cases hread : (s.warmStore.disk (s.warmStore.lockedObj r).disk).read
              (genRelativePathForPartition uid).1 offset length <;>
            simp [hlen, hc, hread, ReadingOptions.fileOffsetAndLen?, ReadOutcome.map]

theorem local_data_replies_agree (texts : ErrorTexts) (s : Server) (cmd : GetLocalDataRequestCommand) :
    (cmd.apply texts s).map (fun res => (res.1, res.2.localData)) =
      (getLocalShuffleData texts s (.ofCommand cmd)).map (fun res => (res.1, some res.2.localData)) := by
  cases happ : s.getApp cmd.appId with
  | none =>
      simp [GetLocalDataRequestCommand.apply, getLocalShuffleData, GetLocalShuffleDataRequest.ofCommand,
        happ, Frame.localData, GetLocalShuffleDataResponse.localData]
  | some r =>
      cases hread : (s.selectLocal r cmd.uid cmd.offset cmd.length).2 with
      | ok data =>
          cases data with
          | «local» data =>
              simp_all [GetLocalDataRequestCommand.apply, getLocalShuffleData,
                GetLocalShuffleDataRequest.ofCommand, GetLocalDataRequestCommand.uid, Frame.localData,
                GetLocalShuffleDataResponse.localData, ResponseData.fromLocal]
          | mem data => exact absurd hread (selectLocal_ne_mem s r _ _ _ data)
      | err e =>
          simp_all [GetLocalDataRequestCommand.apply, getLocalShuffleData,
            GetLocalShuffleDataRequest.ofCommand, GetLocalDataRequestCommand.uid, Frame.localData,
            GetLocalShuffleDataResponse.localData]
      | panicked =>
          simp_all [GetLocalDataRequestCommand.apply, getLocalShuffleData,
            GetLocalShuffleDataRequest.ofCommand, GetLocalDataRequestCommand.uid]

section Replies

variable (conf : ServerConfig)

theorem reach_local_replies_serve (texts : ErrorTexts) (P : Block → Prop) (hP : ∀ b, P b → b.WellFormed)
    {s : Server} (h : Reach (exec conf) (SpillsComplete P) (init conf) s) {uid : PartitionedUId} {a r : Nat}
    (happ : s.getApp uid.appId = some a)
    (hknown : Assoc.find? (genRelativePathForPartition uid).1 s.warmStore.partitionLocks = some r)
    (hunlocked : (s.warmStore.lockedObj r).locked = false)
    (hc : (s.warmStore.disk (s.warmStore.lockedObj r).disk).isCorrupted = false)
    (hfit : (s.warmStore.objFile r (genRelativePathForPartition uid).1).length < 2 ^ 63) :
    ∃ blocks, (∀ b ∈ blocks, P b) ∧
      s.warmStore.objFile r (genRelativePathForPartition uid).2 = (buildIndex 0 blocks).1 ∧
      s.warmStore.objFile r (genRelativePathForPartition uid).1 = (blocks.map Block.data).flatten ∧
      (∀ cmd : GetLocalDataIndexRequestCommand, cmd.uid = uid →
        (cmd.apply texts s).map (fun res => res.2.localIndex) =
            some (some (0, ((indexRecords 0 blocks).map IndexRecord.encode).flatten, lengthSum blocks)) ∨
          (lengthSum blocks = 0 ∧ (cmd.apply texts s).map (fun res => res.2.localIndex) = some (some (6, [], 0)))) ∧
      ∀ (cmd : GetLocalDataRequestCommand) (i n : Nat), cmd.uid = uid →
        cmd.offset = lengthSum (blocks.take i) → cmd.length = lengthSum ((blocks.drop i).take n) →
        (cmd.apply texts s).map (fun res => res.2.localData) =
          some (some (0, (((blocks.drop i).take n).map Block.data).flatten)) := by
  obtain ⟨blocks, hsat, hwf, hindex, hdata, hlenFit⟩ := reach_settled_files conf P hP h hknown hunlocked hfit
  refine ⟨blocks, hsat, hindex, hdata, fun cmd hcmd => ?_, fun cmd i n hcmd hoff hlen => ?_⟩
  · have happ' : s.getApp cmd.appId = some a := by
      rw [show cmd.appId = uid.appId from congrArg PartitionedUId.appId hcmd]
      exact happ
    rcases getIndex_blocks hwf hknown hc hindex hdata hlenFit with hok | ⟨hzero, hmissing⟩
    · left
      simp [GetLocalDataIndexRequestCommand.apply, happ', listIndex, hcmd, hok, Frame.localIndex,
        StatusCode.toI32]
    · right
      refine ⟨hzero, ?_⟩
      simp [GetLocalDataIndexRequestCommand.apply, happ', listIndex, hcmd, hmissing, Frame.localIndex,
        StatusCode.toI32]
  · have happ' : s.getApp cmd.appId = some a := by
      rw [show cmd.appId = uid.appId from congrArg PartitionedUId.appId hcmd]
      exact happ
    have hread := get_range hwf hknown hc hdata hlenFit i n
    rw [← hoff, ← hlen] at hread
    simp [GetLocalDataRequestCommand.apply, happ', selectLocal, hcmd, hread, Frame.localData,
      StatusCode.toI32]

def emptyTexts : ErrorTexts := ⟨fun _ => "", fun _ => ""⟩

theorem spilledB_replies_served :
    ∃ blocks, (∀ b ∈ blocks, b.WellFormed) ∧
      spilledB.warmStore.objFile 0 (genRelativePathForPartition ⟨"b", 0, 0⟩).2 = (buildIndex 0 blocks).1 ∧
      spilledB.warmStore.objFile 0 (genRelativePathForPartition ⟨"b", 0, 0⟩).1 =
        (blocks.map Block.data).flatten ∧
      (∀ cmd : GetLocalDataIndexRequestCommand, cmd.uid = ⟨"b", 0, 0⟩ →
        (cmd.apply emptyTexts spilledB).map (fun res => res.2.localIndex) =
            some (some (0, ((indexRecords 0 blocks).map IndexRecord.encode).flatten, lengthSum blocks)) ∨
          (lengthSum blocks = 0 ∧
            (cmd.apply emptyTexts spilledB).map (fun res => res.2.localIndex) = some (some (6, [], 0)))) ∧
      ∀ (cmd : GetLocalDataRequestCommand) (i n : Nat), cmd.uid = ⟨"b", 0, 0⟩ →
        cmd.offset = lengthSum (blocks.take i) → cmd.length = lengthSum ((blocks.drop i).take n) →
        (cmd.apply emptyTexts spilledB).map (fun res => res.2.localData) =
          some (some (0, (((blocks.drop i).take n).map Block.data).flatten)) := by
  have hfacts : spilledB.getApp "b" = some 0 ∧
      Assoc.find? (genRelativePathForPartition ⟨"b", 0, 0⟩).1 spilledB.warmStore.partitionLocks = some 0 ∧
      (spilledB.warmStore.lockedObj 0).locked = false ∧
      (spilledB.warmStore.disk (spilledB.warmStore.lockedObj 0).disk).isCorrupted = false ∧
      (spilledB.warmStore.objFile 0 (genRelativePathForPartition ⟨"b", 0, 0⟩).1).length < 2 ^ 63 := by
    decide +kernel
  exact reach_local_replies_serve smallConf emptyTexts Block.WellFormed (fun _ h => h)
    (reach_of_run spillB_complete
      (show run (exec smallConf) (init smallConf) spillB = some spilledB by decide +kernel))
    hfacts.1 hfacts.2.1 hfacts.2.2.1 hfacts.2.2.2.1 hfacts.2.2.2.2

end Replies

theorem local_reads_agree_across_frontends (texts : ErrorTexts) (s : Server)
    (indexCmd : GetLocalDataIndexRequestCommand) (dataCmd : GetLocalDataRequestCommand) :
    (indexCmd.apply texts s).map (fun res => (res.1, res.2.localIndex)) =
        (getLocalShuffleIndex texts s (.ofCommand indexCmd)).map (fun res => (res.1, some res.2.localIndex)) ∧
      (dataCmd.apply texts s).map (fun res => (res.1, res.2.localData)) =
        (getLocalShuffleData texts s (.ofCommand dataCmd)).map (fun res => (res.1, some res.2.localData)) :=
  ⟨local_index_replies_agree texts s indexCmd, local_data_replies_agree texts s dataCmd⟩

end Rifflex.Server
