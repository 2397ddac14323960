import Rifflex.Urpc.Frame
import Rifflex.Store.Mem.Served
import Rifflex.Store.Mem.Size

namespace Rifflex.Urpc

open Decode Word Bytes

def msgBytes (s : String) : List UInt8 := s.toUTF8.data.toList

def putResponseInfo (requestId statusCode : Int) (msg : List UInt8) : List UInt8 :=
  putI64 requestId ++ putI32 statusCode ++ putI32 (wrapI32 msg.length) ++ msg

def putSegment (segment : DataSegment) : List UInt8 :=
  putI64 segment.blockId ++ putI32 (wrapI32 segment.offset) ++ putI32 segment.length ++
    putI32 segment.uncompressLength ++ putI64 segment.crc ++ putI64 segment.taskAttemptId

-- `none` is a panic: a memory response without memory data, or a request frame.
def Frame.write : Frame → Option (List UInt8)
  | .getLocalDataResponse resp =>
      let msg := msgBytes resp.retMsg
      some (putHeader (wrapI32 (wrapI32 msg.length + 8 + 4 + 4)) MessageType.getLocalDataResponse.toU8
          (wrapI32 resp.data.length) ++
        putResponseInfo resp.requestId resp.statusCode msg ++ resp.data)
  | .getLocalDataIndexResponse resp =>
      let msg := msgBytes resp.retMsg
      let indexBytes := resp.dataIndex.indexData
      some (putHeader (wrapI32 (wrapI32 msg.length + 8 + 4 + 4 + 8))
          MessageType.getLocalDataIndexResponse.toU8 (wrapI32 indexBytes.length) ++
        putResponseInfo resp.requestId resp.statusCode msg ++ putI64 resp.dataIndex.dataFileLen ++
          indexBytes)
  | .getMemoryDataResponse resp =>
      match resp.data with
      | .mem memData =>
          let msg := msgBytes resp.retMsg
          let dataBytesLen := wrapI32 memData.data.len
          let segments := memData.shuffleDataBlockSegments
          let segmentsEncodeLen := wrapI32 (4 + segments.length * (3 * 8 + 3 * 4))
          some (putHeader (wrapI32 (wrapI32 msg.length + 8 + 4 + 4 + segmentsEncodeLen))
              MessageType.getMemoryDataResponse.toU8 dataBytesLen ++
            putResponseInfo resp.requestId resp.statusCode msg ++ putI32 (wrapI32 segments.length) ++
              (segments.map putSegment).flatten ++ memData.data.alwaysComposed.composed.flatten)
      | .local _ => none
  | .rpcResponse resp =>
      let msg := msgBytes resp.retMsg
      some (putHeader (wrapI32 (wrapI32 msg.length + 8 + 4 + 4)) MessageType.rpcResponse.toU8 0 ++
        putResponseInfo resp.requestId resp.statusCode msg)
  | _ => none

@[simp] theorem putResponseInfo_length (requestId statusCode : Int) (msg : List UInt8) :
    (putResponseInfo requestId statusCode msg).length = 16 + msg.length := by
  simp [putResponseInfo]
  omega

@[simp] theorem putSegment_length (segment : DataSegment) : (putSegment segment).length = 36 := by
  simp [putSegment]

theorem segments_length (segments : List DataSegment) :
    (segments.map putSegment).flatten.length = 36 * segments.length := by
  induction segments with
  | nil => rfl
  | cons segment rest ih =>
      simp only [List.map_cons, List.flatten_cons, List.length_append, putSegment_length, ih,
        List.length_cons]
      ring

structure Framed (bytes : List UInt8) : Prop where
  msgLen_nonneg : 0 ≤ headerMsgLen bytes
  bodyLen_nonneg : 0 ≤ headerBodyLen bytes
  length_eq : bytes.length = headerLen + (headerMsgLen bytes).toNat + (headerBodyLen bytes).toNat
  check_eq : ∀ rest, check ⟨bytes ++ rest, 0⟩ = .ok () ⟨bytes ++ rest, bytes.length⟩

theorem wrapI32_natCast {n : Nat} (h : n < 2 ^ 31) : wrapI32 n = n :=
  wrapI32_of_range (by omega) (by exact_mod_cast h)

theorem framed_putHeader (msgLen bodyLen : Nat) (msgType : UInt8) (content : List UInt8)
    (hlen : content.length = msgLen + bodyLen) (hfit : msgLen + bodyLen < 2 ^ 31) :
    Framed (putHeader msgLen msgType bodyLen ++ content) := by
  have hm := wrapI32_natCast (show msgLen < 2 ^ 31 by omega)
  have hb := wrapI32_natCast (show bodyLen < 2 ^ 31 by omega)
  have hsum : wrapI32 ((msgLen : Int) + bodyLen) = ((msgLen + bodyLen : Nat) : Int) := by
    rw [← wrapI32_natCast hfit]
    push_cast
    rfl
  have hu : toU64 ((msgLen + bodyLen : Nat) : Int) = msgLen + bodyLen := by
    have := toU64_of_range (x := ((msgLen + bodyLen : Nat) : Int)) (by omega) (by omega)
    omega
  refine ⟨by simp [hm], by simp [hb], ?_, ?_⟩
  · simp [hm, hb, hlen]
    omega
  · intro rest
    rw [List.append_assoc, check_putHeader, hm, hb, hsum, hu, if_neg (by simp [hlen])]
    simp [hlen]

-- The content fits the `i32` header, and a memory response's data is as long as its `len()`.
def Frame.Framable : Frame → Prop
  | .getLocalDataResponse resp => (msgBytes resp.retMsg).length + 16 + resp.data.length < 2 ^ 31
  | .getLocalDataIndexResponse resp =>
      (msgBytes resp.retMsg).length + 24 + resp.dataIndex.indexData.length < 2 ^ 31
  | .getMemoryDataResponse resp =>
      match resp.data with
      | .mem memData =>
          memData.data.len = memData.data.freeze.length ∧
            (msgBytes resp.retMsg).length + 20 + 36 * memData.shuffleDataBlockSegments.length +
              memData.data.len < 2 ^ 31
      | .local _ => False
  | .rpcResponse resp => (msgBytes resp.retMsg).length + 16 < 2 ^ 31
  | _ => False

instance (f : Frame) : Decidable f.Framable :=
  match f with
  | .getLocalDataResponse resp =>
      inferInstanceAs (Decidable ((msgBytes resp.retMsg).length + 16 + resp.data.length < 2 ^ 31))
  | .getLocalDataIndexResponse resp =>
      inferInstanceAs
        (Decidable ((msgBytes resp.retMsg).length + 24 + resp.dataIndex.indexData.length < 2 ^ 31))
  | .getMemoryDataResponse ⟨_, _, retMsg, .mem memData⟩ =>
      inferInstanceAs (Decidable (memData.data.len = memData.data.freeze.length ∧
        (msgBytes retMsg).length + 20 + 36 * memData.shuffleDataBlockSegments.length +
          memData.data.len < 2 ^ 31))
  | .getMemoryDataResponse ⟨_, _, _, .local _⟩ => isFalse id
  | .rpcResponse resp => inferInstanceAs (Decidable ((msgBytes resp.retMsg).length + 16 < 2 ^ 31))
  | .sendShuffleData _ => isFalse id
  | .getMemoryData _ => isFalse id
  | .getLocalDataIndex _ => isFalse id
  | .getLocalData _ => isFalse id

theorem wrapI32_of_natCast {x : Int} {n : Nat} (hx : x = n) (h : n < 2 ^ 31) : wrapI32 x = n := by
  rw [hx]
  exact wrapI32_natCast h

theorem wrapI32_add_natCast {x : Int} {n k : Nat} (hx : x = wrapI32 n + k) (h : n + k < 2 ^ 31) :
    wrapI32 x = (n + k : Nat) := by
  refine wrapI32_of_natCast ?_ h
  rw [hx, wrapI32_natCast (by omega)]
  push_cast
  rfl

theorem written_frame_checks (f : Frame) (hf : f.Framable) :
    ∃ bytes, f.write = some bytes ∧ Framed bytes := by
  cases f with
  | getLocalDataResponse resp =>
      have hfit : (msgBytes resp.retMsg).length + 16 + resp.data.length < 2 ^ 31 := hf
      have hm : wrapI32 (wrapI32 (msgBytes resp.retMsg).length + 8 + 4 + 4) =
          ((msgBytes resp.retMsg).length + 16 : Nat) := wrapI32_add_natCast (by push_cast; ring) (by omega)
      have hb := wrapI32_natCast (show resp.data.length < 2 ^ 31 by omega)
      refine ⟨_, rfl, ?_⟩
      rw [hm, hb, List.append_assoc]
      exact framed_putHeader _ _ _ _ (by simp; omega) (by omega)
  | getLocalDataIndexResponse resp =>
      have hfit : (msgBytes resp.retMsg).length + 24 + resp.dataIndex.indexData.length < 2 ^ 31 := hf
      have hm : wrapI32 (wrapI32 (msgBytes resp.retMsg).length + 8 + 4 + 4 + 8) =
          ((msgBytes resp.retMsg).length + 24 : Nat) := wrapI32_add_natCast (by push_cast; ring) (by omega)
      have hb := wrapI32_natCast (show resp.dataIndex.indexData.length < 2 ^ 31 by omega)
      refine ⟨_, rfl, ?_⟩
      rw [hm, hb, List.append_assoc]
      exact framed_putHeader _ _ _ _ (by simp; omega) (by omega)
  | getMemoryDataResponse resp =>
      obtain ⟨requestId, statusCode, retMsg, data⟩ := resp
      cases data with
      | «local» _ => exact hf.elim
      | mem memData =>
          obtain ⟨hlen, hfit⟩ : memData.data.len = memData.data.freeze.length ∧
              (msgBytes retMsg).length + 20 + 36 * memData.shuffleDataBlockSegments.length +
                memData.data.len < 2 ^ 31 := hf
          have hseg : wrapI32 (4 + (memData.shuffleDataBlockSegments.length : Int) * (3 * 8 + 3 * 4)) =
              ((4 + 36 * memData.shuffleDataBlockSegments.length : Nat) : Int) :=
            wrapI32_of_natCast (by push_cast; ring) (by omega)
          have hm : wrapI32 (wrapI32 (msgBytes retMsg).length + 8 + 4 + 4 +
              wrapI32 (4 + (memData.shuffleDataBlockSegments.length : Int) * (3 * 8 + 3 * 4))) =
              ((msgBytes retMsg).length + (20 + 36 * memData.shuffleDataBlockSegments.length) : Nat) :=
            wrapI32_add_natCast (by rw [hseg]; push_cast; ring) (by omega)
          have hb := wrapI32_natCast (show memData.data.len < 2 ^ 31 by omega)
          have hdata : memData.data.alwaysComposed.composed.flatten = memData.data.freeze :=
            BytesWrapper.alwaysComposed_freeze memData.data
          refine ⟨_, rfl, ?_⟩
          rw [hm, hb, hdata]
          simp only [List.append_assoc]
          refine framed_putHeader _ _ _ _ ?_ (by omega)
          simp only [List.length_append, putResponseInfo_length, putI32_length, segments_length, ← hlen]
          omega
  | rpcResponse resp =>
      have hfit : (msgBytes resp.retMsg).length + 16 < 2 ^ 31 := hf
      have hm : wrapI32 (wrapI32 (msgBytes resp.retMsg).length + 8 + 4 + 4) =
          ((msgBytes resp.retMsg).length + 16 : Nat) := wrapI32_add_natCast (by push_cast; ring) (by omega)
      refine ⟨_, rfl, ?_⟩
      rw [hm, ← Nat.cast_zero]
      exact framed_putHeader _ _ _ _ (by simp; omega) (by omega)
  | sendShuffleData _ => exact hf.elim
  | getMemoryData _ => exact hf.elim
  | getLocalDataIndex _ => exact hf.elim
  | getLocalData _ => exact hf.elim

theorem short_block_response_misframed :
    ∃ bytes, (Frame.getMemoryDataResponse ⟨0, 0, "", .mem Mem.BufferInternal.shortBlockRead⟩).write =
        some bytes ∧
      bytes.length + 2 = headerLen + (headerMsgLen bytes).toNat + (headerBodyLen bytes).toNat ∧
      check ⟨bytes, 0⟩ = .err .streamIncomplete :=
  ⟨_, rfl, by decide, by decide⟩

def tenByteRead : PartitionedMemoryData :=
  (Mem.BufferInternal.new.append [Mem.BufferInternal.tenByteBlock] 10).getV2 (-1) 10 none

theorem tenByteRead_framed :
    (Frame.getMemoryDataResponse ⟨0, 0, "", .mem tenByteRead⟩).Framable ∧
      ∃ bytes, (Frame.getMemoryDataResponse ⟨0, 0, "", .mem tenByteRead⟩).write = some bytes ∧
        Framed bytes :=
  ⟨by decide, written_frame_checks _ (by decide)⟩

end Rifflex.Urpc
