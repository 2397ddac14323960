import Rifflex.Lib.Decode
import Rifflex.Lib.Assoc
import Rifflex.Store.Block
import Rifflex.Error

namespace Rifflex.Urpc

open Decode Decoder Word Bytes

inductive MessageType where
  | sendShuffleData
  | getMemoryData
  | getMemoryDataResponse
  | getLocalDataIndex
  | getLocalDataIndexResponse
  | getLocalData
  | getLocalDataResponse
  | rpcResponse
deriving DecidableEq, Repr

def MessageType.toU8 : MessageType → UInt8
  | .sendShuffleData => 3
  | .getMemoryData => 6
  | .getMemoryDataResponse => 16
  | .getLocalDataIndex => 4
  | .getLocalDataIndexResponse => 14
  | .getLocalData => 5
  | .getLocalDataResponse => 15
  | .rpcResponse => 0

def MessageType.tryFrom (b : UInt8) : Option MessageType :=
  [MessageType.sendShuffleData, .getMemoryData, .getMemoryDataResponse, .getLocalDataIndex,
    .getLocalDataIndexResponse, .getLocalData, .getLocalDataResponse, .rpcResponse].find?
    (fun t => t.toU8 == b)

@[simp] theorem MessageType.tryFrom_toU8 (t : MessageType) : MessageType.tryFrom t.toU8 = some t := by
  cases t <;> rfl

structure GetLocalDataRequestCommand where
  requestId : Int
  appId : String
  shuffleId : Int
  partitionId : Int
  partitionNumPerRange : Int
  partitionNum : Int
  offset : Int
  length : Int
  timestamp : Int
deriving DecidableEq, Repr

structure GetLocalDataIndexRequestCommand where
  requestId : Int
  appId : String
  shuffleId : Int
  partitionId : Int
  partitionNumPerRange : Int
  partitionNum : Int
deriving DecidableEq, Repr

structure GetMemoryDataRequestCommand where
  requestId : Int
  appId : String
  shuffleId : Int
  partitionId : Int
  lastBlockId : Int
  readBufferSize : Int
  expectedTasksBitmapRaw : Option (List UInt8)
  timestamp : Int
deriving DecidableEq, Repr

structure SendDataRequestCommand where
  requestId : Int
  appId : String
  shuffleId : Int
  blocks : List (Int × List Block)
  ticketId : Int
  timestamp : Int
deriving DecidableEq, Repr

structure RpcResponseCommand where
  requestId : Int
  statusCode : Int
  retMsg : String
deriving DecidableEq, Repr

structure GetMemoryDataResponseCommand where
  requestId : Int
  statusCode : Int
  retMsg : String
  data : ResponseData
deriving DecidableEq, Repr

structure GetLocalDataResponseCommand where
  requestId : Int
  statusCode : Int
  retMsg : String
  data : List UInt8
deriving DecidableEq, Repr

structure GetLocalDataIndexResponseCommand where
  requestId : Int
  statusCode : Int
  retMsg : String
  dataIndex : LocalDataIndex
deriving DecidableEq, Repr

inductive Frame where
  | sendShuffleData (req : SendDataRequestCommand)
  | getMemoryData (req : GetMemoryDataRequestCommand)
  | getMemoryDataResponse (resp : GetMemoryDataResponseCommand)
  | getLocalDataIndex (req : GetLocalDataIndexRequestCommand)
  | getLocalDataIndexResponse (resp : GetLocalDataIndexResponseCommand)
  | getLocalData (req : GetLocalDataRequestCommand)
  | getLocalDataResponse (resp : GetLocalDataResponseCommand)
  | rpcResponse (resp : RpcResponseCommand)
deriving DecidableEq, Repr

def headerLen : Nat := 4 + 1 + 4

-- The readers check `has_remaining` only; the `Buf` getter panics on fewer bytes than its width.
def getI64 : Decoder WorkerError Int := do
  if (← remaining) = 0 then fail (.streamIncorrect "get_i64")
  else return fromBeI64 (← take 8)

def getI32 : Decoder WorkerError Int := do
  if (← remaining) = 0 then fail (.streamIncorrect "get_i32")
  else return fromBeI32 (← take 4)

def getU8 : Decoder WorkerError UInt8 := do
  if (← remaining) = 0 then fail (.streamIncorrect "get_u8")
  else return ((← take 1).headD 0)

def skip (n : Nat) : Decoder WorkerError Unit := do
  if (← remaining) < n then fail (.streamIncorrect "skip")
  else advance n

def getBytes : Decoder WorkerError (Option (List UInt8)) := do
  if (← remaining) = 0 then fail (.streamIncorrect "get_bytes")
  else
    let bytesDataLen ← getI32
    if bytesDataLen ≤ 0 then return none
    else
      let rem ← remaining
      if rem < bytesDataLen.toNat then
        fail (.streamIncorrect ("get_bytes but not have enough remaining bytes. expected: " ++
          toString bytesDataLen ++ ", real: " ++ toString rem))
      else
        let data ← peek bytesDataLen.toNat
        skip bytesDataLen.toNat
        return some data

def getString : Decoder WorkerError String := do
  if (← remaining) = 0 then fail (.streamIncorrect "get_string 1")
  else
    -- `as usize` sign-extends a negative length.
    let len := toU64 (← getI32)
    if len ≤ 0 then return ""
    else
      let rem ← remaining
      if rem < len then
        fail (.streamIncorrect ("get string. src remaining: " ++ toString rem ++ ". len: " ++
          toString len))
      else
        let msg ← peek len
        skip len
        match String.fromUTF8? ⟨msg.toArray⟩ with
        | some s => return s
        | none => fail (.other "invalid utf-8 sequence")

def check : Decoder WorkerError Unit := do
  if (← remaining) < headerLen then fail .streamIncomplete
  else
    let msgLen ← getI32
    let _msgType ← getU8
    let bodyLen ← getI32
    -- The i32 sum wraps, and its `as usize` sign-extends.
    if (← remaining) < toU64 (wrapI32 (msgLen + bodyLen)) then fail .streamIncomplete
    else skip (toU64 (wrapI32 (msgLen + bodyLen)))

def parseToGetLocalfileDataCommand : Decoder WorkerError GetLocalDataRequestCommand := do
  let requestId ← getI64
  let appId ← getString
  let shuffleId ← getI32
  let partitionId ← getI32
  let partitionNumPerRange ← getI32
  let partitionNum ← getI32
  let offset ← getI64
  let length ← getI32
  let timestamp ← getI64
  return ⟨requestId, appId, shuffleId, partitionId, partitionNumPerRange, partitionNum, offset,
    length, timestamp⟩

def skipShuffleServer : Decoder WorkerError Unit := do
  let _ ← getString
  let _ ← getString
  let _ ← getI32
  let _ ← getI32

def parseBlock : Decoder WorkerError Block := do
  let _pid ← getI32
  let blockId ← getI64
  let length ← getI32
  let _shuffleId ← getI32
  let crc ← getI64
  let taskAttemptId ← getI64
  let buffer := (← getBytes).getD []
  let lengthOfShuffleServers ← getI32
  let _ ← replicate lengthOfShuffleServers.toNat skipShuffleServer
  let uncompressLen ← getI32
  let _freeMem ← getI64
  return ⟨blockId, length, uncompressLen, crc, buffer, taskAttemptId⟩

def parsePartition : Decoder WorkerError (Int × List Block) := do
  let partitionId ← getI32
  let blockBatchSize ← getI32
  -- `Vec::with_capacity` of a negative count cast to usize overflows the capacity.
  if blockBatchSize < 0 then abort
  else return (partitionId, ← replicate blockBatchSize.toNat parseBlock)

def parseToSendShuffleDataCommand : Decoder WorkerError SendDataRequestCommand := do
  let requestId ← getI64
  let appId ← getString
  let shuffleId ← getI32
  let requireId ← getI64
  let partitionBatchSize ← getI32
  let partitions ← replicate partitionBatchSize.toNat parsePartition
  -- `blocks_map.insert`: a repeated partition id keeps the blocks read last.
  let blocksMap := partitions.foldl (fun m p => Assoc.insert p.1 p.2 m) []
  let timestamp ← getI64
  return ⟨requestId, appId, shuffleId, blocksMap, requireId, timestamp⟩

def parseToGetLocalfileIndexCommand : Decoder WorkerError GetLocalDataIndexRequestCommand := do
  let requestId ← getI64
  let appId ← getString
  let shuffleId ← getI32
  let partitionId ← getI32
  let partitionNumPerRange ← getI32
  let partitionNum ← getI32
  return ⟨requestId, appId, shuffleId, partitionId, partitionNumPerRange, partitionNum⟩

def parseToGetMemoryDataCommand : Decoder WorkerError GetMemoryDataRequestCommand := do
  let requestId ← getI64
  let appId ← getString
  let shuffleId ← getI32
  let partitionId ← getI32
  let lastBlockId ← getI64
  let readBufferSize ← getI32
  let timestamp ← getI64
  let expectedTaskBitmapRawOption ← getBytes
  return ⟨requestId, appId, shuffleId, partitionId, lastBlockId, readBufferSize,
    expectedTaskBitmapRawOption, timestamp⟩

def parseMessage : Option MessageType → Decoder WorkerError Frame
  | none => fail .streamMessageTypeNotFound
  | some .getLocalData => return .getLocalData (← parseToGetLocalfileDataCommand)
  | some .getLocalDataIndex => return .getLocalDataIndex (← parseToGetLocalfileIndexCommand)
  | some .getMemoryData => return .getMemoryData (← parseToGetMemoryDataCommand)
  | some .sendShuffleData => return .sendShuffleData (← parseToSendShuffleDataCommand)
  | some .rpcResponse => do
      let requestId ← getI64
      let statusCode ← getI32
      let retMsg ← getString
      return .rpcResponse ⟨requestId, statusCode, retMsg⟩
  -- The three response types reach `todo!()`.
  | some _ => abort

def parse : Decoder WorkerError Frame := do
  let encodeMsgLen ← getI32
  let msgType ← getU8
  let bodyLen ← getI32
  if (← remaining) < toU64 (wrapI32 (encodeMsgLen + bodyLen)) then fail .streamAbnormal
  else parseMessage (MessageType.tryFrom msgType)

inductive Command where
  | send (req : SendDataRequestCommand)
  | getMem (req : GetMemoryDataRequestCommand)
  | getLocalIndex (req : GetLocalDataIndexRequestCommand)
  | getLocalData (req : GetLocalDataRequestCommand)
deriving DecidableEq, Repr

-- `none` is the `todo!()` arm, reached by every response frame.
def Command.fromFrame : Frame → Option Command
  | .sendShuffleData req => some (.send req)
  | .getMemoryData req => some (.getMem req)
  | .getLocalDataIndex req => some (.getLocalIndex req)
  | .getLocalData req => some (.getLocalData req)
  | _ => none

section Readers

variable {c : Cursor}

theorem getI32_of_le (h : 4 ≤ c.remaining) :
    getI32 c = .ok (fromBeI32 (c.chunk.take 4)) (c.advance 4) := by
  have h0 : c.remaining ≠ 0 := by omega
  simp [getI32, bind_apply, h0, take_of_le h]

theorem getI64_of_le (h : 8 ≤ c.remaining) :
    getI64 c = .ok (fromBeI64 (c.chunk.take 8)) (c.advance 8) := by
  have h0 : c.remaining ≠ 0 := by omega
  simp [getI64, bind_apply, h0, take_of_le h]

theorem getI64_short (h0 : 0 < c.remaining) (h : c.remaining < 8) : getI64 c = .panicked := by
  have h0 : c.remaining ≠ 0 := by omega
  simp [getI64, bind_apply, h0, take_of_lt h]

theorem getU8_of_pos (h : 0 < c.remaining) :
    getU8 c = .ok ((c.chunk.take 1).headD 0) (c.advance 1) := by
  have h0 : c.remaining ≠ 0 := by omega
  simp [getU8, bind_apply, h0, take_of_le (show 1 ≤ c.remaining by omega)]

theorem skip_of_le {n : Nat} (h : n ≤ c.remaining) : skip n c = .ok () (c.advance n) := by
  have h' : ¬ c.remaining < n := by omega
  simp [skip, bind_apply, h', advance_of_le h]

end Readers

def headerMsgLen (bytes : List UInt8) : Int := fromBeI32 (bytes.take 4)

def headerMsgType (bytes : List UInt8) : UInt8 := ((bytes.drop 4).take 1).headD 0

def headerBodyLen (bytes : List UInt8) : Int := fromBeI32 ((bytes.drop 5).take 4)

def contentLen (bytes : List UInt8) : Nat :=
  toU64 (wrapI32 (headerMsgLen bytes + headerBodyLen bytes))

theorem readHeader {β : Type} {c : Cursor} (h : headerLen ≤ c.remaining)
    (k : Int → UInt8 → Int → Decoder WorkerError β) :
    (getI32 >>= fun m => getU8 >>= fun t => getI32 >>= fun b => k m t b) c =
      k (headerMsgLen c.chunk) (headerMsgType c.chunk) (headerBodyLen c.chunk)
        (c.advance headerLen) := by
  have h9 : 9 ≤ c.remaining := by simpa [headerLen] using h
  have hmsg := getI32_of_le (c := c) (by omega)
  have htype := getU8_of_pos (c := c.advance 4) (by simp; omega)
  have hbody := getI32_of_le (c := (c.advance 4).advance 1) (by simp; omega)
  have htypeByte : ((c.advance 4).chunk.take 1).headD 0 = headerMsgType c.chunk := by
    simp [headerMsgType]
  have hbodyLen : fromBeI32 (((c.advance 4).advance 1).chunk.take 4) = headerBodyLen c.chunk := by
    simp [headerBodyLen, List.drop_drop]
  have hend : ((c.advance 4).advance 1).advance 4 = c.advance headerLen := by
    simp [Cursor.advance_advance, headerLen]
  rw [bind_ok hmsg, bind_ok htype, bind_ok hbody, htypeByte, hbodyLen, hend]
  rfl

theorem check_spec (c : Cursor) :
    check c =
      if c.remaining < headerLen then .err .streamIncomplete
      else if c.remaining - headerLen < contentLen c.chunk then .err .streamIncomplete
      else .ok () (c.advance (headerLen + contentLen c.chunk)) := by
  by_cases hshort : c.remaining < headerLen
  · rw [check, bind_ok (remaining_apply c), if_pos hshort, if_pos hshort, fail_apply]
  · have hcontent : toU64 (wrapI32 (headerMsgLen c.chunk + headerBodyLen c.chunk)) =
        contentLen c.chunk := rfl
    rw [check, bind_ok (remaining_apply c), if_neg hshort, if_neg hshort,
      readHeader (Nat.le_of_not_lt hshort), bind_ok (remaining_apply _), Cursor.advance_remaining,
      hcontent]
    by_cases hfit : c.remaining - headerLen < contentLen c.chunk
    · simp [hfit]
    · rw [if_neg hfit, if_neg hfit, skip_of_le (by simpa using hfit), Cursor.advance_advance]

theorem parse_spec {c : Cursor} (h : headerLen ≤ c.remaining) :
    parse c =
      if c.remaining - headerLen < contentLen c.chunk then .err .streamAbnormal
      else parseMessage (MessageType.tryFrom (headerMsgType c.chunk)) (c.advance headerLen) := by
  have hcontent : toU64 (wrapI32 (headerMsgLen c.chunk + headerBodyLen c.chunk)) =
      contentLen c.chunk := rfl
  rw [parse, readHeader h, bind_ok (remaining_apply _), Cursor.advance_remaining, hcontent]
  by_cases hfit : c.remaining - headerLen < contentLen c.chunk
  · simp [hfit]
  · rw [if_neg hfit, if_neg hfit]

def putHeader (msgLen : Int) (msgType : UInt8) (bodyLen : Int) : List UInt8 :=
  putI32 msgLen ++ msgType :: putI32 bodyLen

@[simp] theorem putHeader_length (msgLen : Int) (msgType : UInt8) (bodyLen : Int) :
    (putHeader msgLen msgType bodyLen).length = headerLen := by
  simp [putHeader, headerLen]

section PutHeader

variable (msgLen : Int) (msgType : UInt8) (bodyLen : Int) (content : List UInt8)

@[simp] theorem headerMsgLen_putHeader :
    headerMsgLen (putHeader msgLen msgType bodyLen ++ content) = wrapI32 msgLen := by
  simp [headerMsgLen, putHeader, List.take_left']

@[simp] theorem headerMsgType_putHeader :
    headerMsgType (putHeader msgLen msgType bodyLen ++ content) = msgType := by
  have hdrop : (putHeader msgLen msgType bodyLen ++ content).drop 4 =
      msgType :: (putI32 bodyLen ++ content) := by
    simp [putHeader]
  simp [headerMsgType, hdrop]

@[simp] theorem headerBodyLen_putHeader :
    headerBodyLen (putHeader msgLen msgType bodyLen ++ content) = wrapI32 bodyLen := by
  have hdrop : (putHeader msgLen msgType bodyLen ++ content).drop 5 = putI32 bodyLen ++ content := by
    simp [putHeader, List.drop_append]
  simp [headerBodyLen, hdrop, List.take_left']

theorem check_putHeader :
    check ⟨putHeader msgLen msgType bodyLen ++ content, 0⟩ =
      if content.length < toU64 (wrapI32 (wrapI32 msgLen + wrapI32 bodyLen)) then .err .streamIncomplete
      else .ok () ⟨putHeader msgLen msgType bodyLen ++ content,
        headerLen + toU64 (wrapI32 (wrapI32 msgLen + wrapI32 bodyLen))⟩ := by
  rw [check_spec]
  simp [contentLen, Cursor.advance]

end PutHeader

theorem check_misreads_negative_lengths :
    (∃ bytes : List UInt8, headerMsgLen bytes < 0 ∧ check ⟨bytes, 0⟩ = .ok () ⟨bytes, bytes.length⟩) ∧
    ∀ (msgLen bodyLen : Int) (msgType : UInt8) (content : List UInt8),
      wrapI32 (wrapI32 msgLen + wrapI32 bodyLen) < 0 → content.length < 2 ^ 63 →
        check ⟨putHeader msgLen msgType bodyLen ++ content, 0⟩ = .err .streamIncomplete := by
  constructor
  · exact ⟨putHeader (-1) 0 5 ++ [0, 0, 0, 0], by decide, by decide⟩
  · intro msgLen bodyLen msgType content hneg hbuf
    have hrange := wrapI32_range (wrapI32 msgLen + wrapI32 bodyLen)
    have hcast := toU64_of_neg (by omega) hneg
    rw [check_putHeader, if_pos (by omega)]

theorem negative_sum_header_stalls :
    wrapI32 (wrapI32 (-1) + wrapI32 0) < 0 ∧ ([] : List UInt8).length < 2 ^ 63 ∧
      check ⟨putHeader (-1) 0 0 ++ [], 0⟩ = .err .streamIncomplete :=
  ⟨by decide, by decide, check_misreads_negative_lengths.2 (-1) 0 0 [] (by decide) (by decide)⟩

theorem checked_memory_read_panics (content : List UInt8) (h0 : 0 < content.length)
    (h8 : content.length < 8) :
    check ⟨putHeader content.length MessageType.getMemoryData.toU8 0 ++ content, 0⟩ =
      .ok () ⟨putHeader content.length MessageType.getMemoryData.toU8 0 ++ content,
        headerLen + content.length⟩ ∧
    parse ⟨putHeader content.length MessageType.getMemoryData.toU8 0 ++ content, 0⟩ = .panicked := by
  have hw : wrapI32 (content.length : Int) = content.length := wrapI32_of_range (by omega) (by omega)
  have hz : wrapI32 0 = 0 := wrapI32_of_range (by omega) (by omega)
  have hu : toU64 (content.length : Int) = content.length := by
    have := toU64_of_range (x := content.length) (by omega) (by omega)
    omega
  constructor
  · rw [check_putHeader]
    simp only [hz, Int.add_zero, hw, hu, Nat.lt_irrefl, if_false]
  · have hcontent : contentLen (putHeader content.length MessageType.getMemoryData.toU8 0 ++ content) =
        content.length := by
      simp [contentLen, hw, hz, hu]
    have hrem : (Cursor.advance ⟨putHeader content.length MessageType.getMemoryData.toU8 0 ++ content, 0⟩
        headerLen).remaining = content.length := by
      simp [Cursor.remaining, headerLen]
    rw [parse_spec (by simp), Cursor.chunk_start, hcontent, if_neg (by simp), headerMsgType_putHeader,
      MessageType.tryFrom_toU8]
    exact bind_panicked (bind_panicked (getI64_short (by omega) (by omega)))

theorem checked_short_memory_read_panics :
    0 < [(0 : UInt8)].length ∧ [(0 : UInt8)].length < 8 ∧
      (check ⟨putHeader [(0 : UInt8)].length MessageType.getMemoryData.toU8 0 ++ [0], 0⟩ =
        .ok () ⟨putHeader [(0 : UInt8)].length MessageType.getMemoryData.toU8 0 ++ [0],
          headerLen + [(0 : UInt8)].length⟩ ∧
      parse ⟨putHeader [(0 : UInt8)].length MessageType.getMemoryData.toU8 0 ++ [0], 0⟩ = .panicked) :=
  ⟨by decide, by decide, checked_memory_read_panics [0] (by decide) (by decide)⟩

end Rifflex.Urpc
