import Rifflex.Urpc.Write

namespace Rifflex.Urpc

open Decode Decoder Word Bytes

theorem fromUTF8?_msgBytes (s : String) : String.fromUTF8? ⟨(msgBytes s).toArray⟩ = some s := by
  have hv : ByteArray.IsValidUTF8 ⟨(msgBytes s).toArray⟩ := by
    simpa [msgBytes, String.toUTF8] using s.isValidUTF8
  rw [String.fromUTF8?, dif_pos hv]
  simp [String.fromUTF8, msgBytes, String.toUTF8]

theorem eq_empty_of_msgBytes {s : String} (h : msgBytes s = []) : s = "" := by
  have hb : s.toByteArray = ByteArray.empty := by
    apply ByteArray.ext
    simpa [msgBytes, String.toUTF8] using h
  exact String.toByteArray_eq_empty_iff.mp hb

section Readers

variable {c : Cursor} {rest : List UInt8}

theorem remaining_of_chunk (h : c.chunk = rest) : c.remaining = rest.length := by
  rw [← Cursor.chunk_length, h]

theorem getI64_put {x : Int} (h : c.chunk = putI64 x ++ rest) :
    getI64 c = .ok (asI64 (toU64 x)) (c.advance 8) := by
  have hlen : 8 ≤ c.remaining := by simp [remaining_of_chunk h]
  rw [getI64_of_le hlen, h, List.take_left' (putI64_length x), fromBeI64_putI64]

theorem getI32_put {x : Int} (h : c.chunk = putI32 x ++ rest) :
    getI32 c = .ok (wrapI32 x) (c.advance 4) := by
  have hlen : 4 ≤ c.remaining := by simp [remaining_of_chunk h]
  rw [getI32_of_le hlen, h, List.take_left' (putI32_length x), fromBeI32_putI32]

theorem getString_put {s : String} (hfit : (msgBytes s).length < 2 ^ 31)
    (h : c.chunk = putI32 (wrapI32 (msgBytes s).length) ++ msgBytes s ++ rest) :
    getString c = .ok s (c.advance (4 + (msgBytes s).length)) := by
  have hlen := wrapI32_natCast hfit
  have hchunk : c.chunk = putI32 (wrapI32 (msgBytes s).length) ++ (msgBytes s ++ rest) := by
    rw [h, List.append_assoc]
  have hrem : c.remaining ≠ 0 := by simp [remaining_of_chunk hchunk]
  have hlenU : toU64 (wrapI32 (wrapI32 (msgBytes s).length)) = (msgBytes s).length := by
    rw [hlen, hlen]
    exact Nat.cast_injective (toU64_of_range (by omega) (by omega))
  have hafter : (c.advance 4).chunk = msgBytes s ++ rest := by
    rw [Cursor.advance_chunk, hchunk, List.drop_left' (putI32_length _)]
  rw [getString, bind_ok (remaining_apply c), if_neg hrem, bind_ok (getI32_put hchunk)]
  simp only [hlenU]
  rcases Nat.eq_zero_or_pos (msgBytes s).length with h0 | hpos
  · rw [if_pos (by omega), pure_apply, h0, eq_empty_of_msgBytes (List.length_eq_zero_iff.mp h0)]
  · have hfits : (msgBytes s).length ≤ (c.advance 4).remaining := by
      simp [remaining_of_chunk hafter]
    have hpeek : (peek (msgBytes s).length : Decoder WorkerError _) (c.advance 4) =
        .ok (msgBytes s) (c.advance 4) := by
      rw [peek_of_le hfits, hafter, List.take_left' rfl]
    rw [if_neg (by omega), bind_ok (remaining_apply _), if_neg (Nat.not_lt.mpr hfits), bind_ok hpeek,
      bind_ok (skip_of_le hfits)]
    simp only [fromUTF8?_msgBytes, pure_apply, Cursor.advance_advance]

end Readers

theorem rpcResponse_write (r : RpcResponseCommand) (hmsg : (msgBytes r.retMsg).length + 16 < 2 ^ 31) :
    (Frame.rpcResponse r).write = some (putHeader ((msgBytes r.retMsg).length + 16 : Nat)
      MessageType.rpcResponse.toU8 0 ++ putResponseInfo r.requestId r.statusCode (msgBytes r.retMsg)) := by
  have hm : wrapI32 (wrapI32 (msgBytes r.retMsg).length + 8 + 4 + 4) =
      ((msgBytes r.retMsg).length + 16 : Nat) := wrapI32_add_natCast (by push_cast; ring) hmsg
  simp only [Frame.write, hm]

theorem parseMessage_rpcResponse {c : Cursor} (r : RpcResponseCommand)
    (hid : -2 ^ 63 ≤ r.requestId ∧ r.requestId < 2 ^ 63)
    (hstatus : -2 ^ 31 ≤ r.statusCode ∧ r.statusCode < 2 ^ 31)
    (hmsg : (msgBytes r.retMsg).length < 2 ^ 31)
    (h : c.chunk = putResponseInfo r.requestId r.statusCode (msgBytes r.retMsg)) :
    parseMessage (some .rpcResponse) c =
      .ok (.rpcResponse r) (c.advance (16 + (msgBytes r.retMsg).length)) := by
  have h₁ : c.chunk = putI64 r.requestId ++ (putI32 r.statusCode ++
      putI32 (wrapI32 (msgBytes r.retMsg).length) ++ msgBytes r.retMsg) := by
    simp [h, putResponseInfo]
  have h₂ : (c.advance 8).chunk = putI32 r.statusCode ++
      (putI32 (wrapI32 (msgBytes r.retMsg).length) ++ msgBytes r.retMsg) := by
    rw [Cursor.advance_chunk, h₁, List.drop_left' (putI64_length _), List.append_assoc]
  have h₃ : ((c.advance 8).advance 4).chunk =
      putI32 (wrapI32 (msgBytes r.retMsg).length) ++ msgBytes r.retMsg ++ [] := by
    rw [Cursor.advance_chunk, h₂, List.drop_left' (putI32_length _), List.append_nil]
  rw [parseMessage, bind_ok (getI64_put h₁), bind_ok (getI32_put h₂), bind_ok (getString_put hmsg h₃),
    pure_apply, asI64_toU64 hid.1 hid.2, wrapI32_of_range hstatus.1 hstatus.2, Cursor.advance_advance,
    Cursor.advance_advance]
  congr 2
  omega

theorem rpcResponse_round_trip (r : RpcResponseCommand)
    (hid : -2 ^ 63 ≤ r.requestId ∧ r.requestId < 2 ^ 63)
    (hstatus : -2 ^ 31 ≤ r.statusCode ∧ r.statusCode < 2 ^ 31)
    (hmsg : (msgBytes r.retMsg).length < 2 ^ 31 - 16) :
    ∃ bytes, (Frame.rpcResponse r).write = some bytes ∧
      check ⟨bytes, 0⟩ = .ok () ⟨bytes, bytes.length⟩ ∧
      parse ⟨bytes, 0⟩ = .ok (.rpcResponse r) ⟨bytes, bytes.length⟩ := by
  set content := putResponseInfo r.requestId r.statusCode (msgBytes r.retMsg)
  set bytes := putHeader ((msgBytes r.retMsg).length + 16 : Nat) MessageType.rpcResponse.toU8 0 ++ content
  have hlen : content.length = (msgBytes r.retMsg).length + 16 + 0 := by
    simp [content]
    omega
  have hframed := framed_putHeader ((msgBytes r.retMsg).length + 16) 0 MessageType.rpcResponse.toU8
    content hlen (by omega)
  have hbytes : bytes.length = headerLen + ((msgBytes r.retMsg).length + 16) := by
    simp [bytes, hlen]
  have hcontent : contentLen bytes = (msgBytes r.retMsg).length + 16 := by
    have hm := wrapI32_natCast (show (msgBytes r.retMsg).length + 16 < 2 ^ 31 by omega)
    have hz : wrapI32 0 = 0 := wrapI32_of_range (by norm_num) (by norm_num)
    simp only [contentLen, bytes, headerMsgLen_putHeader, headerBodyLen_putHeader, hm, hz, add_zero]
    exact Nat.cast_injective (toU64_of_range (by omega) (by omega))
  have hafter : ((⟨bytes, 0⟩ : Cursor).advance headerLen).chunk = content := by
    simp [Cursor.chunk, Cursor.advance, bytes, List.drop_left']
  have hcheck := hframed.check_eq []
  rw [List.append_nil] at hcheck
  refine ⟨bytes, rpcResponse_write r (by omega), hcheck, ?_⟩
  rw [parse_spec (by simp [hbytes]), if_neg (by simp [hbytes, hcontent]), Cursor.chunk_start,
    headerMsgType_putHeader, MessageType.tryFrom_toU8,
    parseMessage_rpcResponse r hid hstatus (by omega) hafter, Cursor.advance_advance]
  simp [Cursor.advance, hbytes]
  omega

def okResponse : RpcResponseCommand := ⟨7, 0, "ok"⟩

theorem okResponse_round_trip :
    (-2 ^ 63 ≤ okResponse.requestId ∧ okResponse.requestId < 2 ^ 63) ∧
      (-2 ^ 31 ≤ okResponse.statusCode ∧ okResponse.statusCode < 2 ^ 31) ∧
      (msgBytes okResponse.retMsg).length < 2 ^ 31 - 16 ∧
      ∃ bytes, (Frame.rpcResponse okResponse).write = some bytes ∧
        check ⟨bytes, 0⟩ = .ok () ⟨bytes, bytes.length⟩ ∧
        parse ⟨bytes, 0⟩ = .ok (.rpcResponse okResponse) ⟨bytes, bytes.length⟩ := by
  have hid : -2 ^ 63 ≤ okResponse.requestId ∧ okResponse.requestId < 2 ^ 63 := by
    simp only [okResponse]
    norm_num
  have hstatus : -2 ^ 31 ≤ okResponse.statusCode ∧ okResponse.statusCode < 2 ^ 31 := by
    simp only [okResponse]
    norm_num
  have hmsg : (msgBytes okResponse.retMsg).length < 2 ^ 31 - 16 := by decide
  exact ⟨hid, hstatus, hmsg, rpcResponse_round_trip okResponse hid hstatus hmsg⟩

end Rifflex.Urpc
