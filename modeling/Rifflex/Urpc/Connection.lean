import Rifflex.Urpc.Frame

namespace Rifflex

-- The `#[error(...)]` texts; `WorkerError::Other` shows the one of the error it wraps.
def WorkerError.display : WorkerError → String
  | .noAvailableLocalDisk => "There is no available disks in local file store"
  | .internalError => "Internal error, it should not happen"
  | .partialDataLost root => "Partial data has been lost, corrupted path: " ++ root
  | .localDiskUnhealthy root => "Local disk:[" ++ root ++ "] is not healthy"
  | .localDiskOwnedByPartitionCorrupted root =>
      "Local disk:[" ++ root ++ "] owned by current partition has been corrupted"
  | .noEnoughMemoryToBeAllocated => "No enough memory to be allocated."
  | .memoryUsageLimitedByHugePartition => "The memory usage is limited by huge partition mechanism"
  | .other message => message
  | .ticketIdNotExist ticketId => "Ticket id: " ++ toString ticketId ++ " not exist"
  | .spillEventExceedRetryMaxLimit appId =>
      "Spill event has been retried exceed the max limit for app: " ++ appId
  | .streamIncomplete => "urpc stream is incomplete"
  | .streamIncorrect message => "urpc stream is incorrect: " ++ message
  | .streamAbnormal => "urpc stream is abnormal"
  | .streamMessageTypeNotFound => "urpc stream message type not found"

end Rifflex

namespace Rifflex.Urpc

open Decode Decoder Word Bytes

section Stable

theorem nonempty_upward (r r' : Nat) (h : r ≤ r') (h0 : ¬ r = 0) : ¬ r' = 0 := by omega

theorem stable_getI64 : Stable getI64 :=
  stable_remaining_bind (stableFrom_guard nonempty_upward _
    (stableFrom_const (stable_bind (stable_take 8) fun _ => stable_pure _)))

theorem stable_getI32 : Stable getI32 :=
  stable_remaining_bind (stableFrom_guard nonempty_upward _
    (stableFrom_const (stable_bind (stable_take 4) fun _ => stable_pure _)))

theorem stable_getU8 : Stable getU8 :=
  stable_remaining_bind (stableFrom_guard nonempty_upward _
    (stableFrom_const (stable_bind (stable_take 1) fun _ => stable_pure _)))

theorem stable_skip (n : Nat) : Stable (skip n) :=
  stable_remaining_bind (stableFrom_guard (fun _ _ h hr => by omega) _
    (stableFrom_const (stable_advance n)))

theorem stable_getBytes : Stable getBytes := by
  refine stable_remaining_bind (stableFrom_guard nonempty_upward _ (stableFrom_const ?_))
  refine stable_bind stable_getI32 fun len => stable_ite (stable_pure _) ?_
  exact stable_remaining_bind (stableFrom_guard (fun _ _ h hr => by omega) _
    (stableFrom_const (stable_bind (stable_peek _) fun _ =>
      stable_bind (stable_skip _) fun _ => stable_pure _)))

theorem stable_getString : Stable getString := by
  refine stable_remaining_bind (stableFrom_guard nonempty_upward _ (stableFrom_const ?_))
  refine stable_bind stable_getI32 fun len => stable_ite (stable_pure _) ?_
  refine stable_remaining_bind (stableFrom_guard (fun _ _ h hr => by omega) _
    (stableFrom_const (stable_bind (stable_peek _) fun msg => stable_bind (stable_skip _) fun _ => ?_)))
  split
  · exact stable_pure _
  · exact stable_fail _

theorem stable_parseToGetLocalfileDataCommand : Stable parseToGetLocalfileDataCommand :=
  stable_bind stable_getI64 fun _ => stable_bind stable_getString fun _ =>
  stable_bind stable_getI32 fun _ => stable_bind stable_getI32 fun _ =>
  stable_bind stable_getI32 fun _ => stable_bind stable_getI32 fun _ =>
  stable_bind stable_getI64 fun _ => stable_bind stable_getI32 fun _ =>
  stable_bind stable_getI64 fun _ => stable_pure _

theorem stable_skipShuffleServer : Stable skipShuffleServer :=
  stable_bind stable_getString fun _ => stable_bind stable_getString fun _ =>
  stable_bind stable_getI32 fun _ => stable_bind stable_getI32 fun _ => stable_pure _

theorem stable_parseBlock : Stable parseBlock :=
  stable_bind stable_getI32 fun _ => stable_bind stable_getI64 fun _ =>
  stable_bind stable_getI32 fun _ => stable_bind stable_getI32 fun _ =>
  stable_bind stable_getI64 fun _ => stable_bind stable_getI64 fun _ =>
  stable_bind stable_getBytes fun _ => stable_bind stable_getI32 fun _ =>
  stable_bind (stable_replicate stable_skipShuffleServer _) fun _ =>
  stable_bind stable_getI32 fun _ => stable_bind stable_getI64 fun _ => stable_pure _

theorem stable_parsePartition : Stable parsePartition :=
  stable_bind stable_getI32 fun _ => stable_bind stable_getI32 fun _ =>
  stable_ite stable_abort (stable_bind (stable_replicate stable_parseBlock _) fun _ => stable_pure _)

theorem stable_parseToSendShuffleDataCommand : Stable parseToSendShuffleDataCommand :=
  stable_bind stable_getI64 fun _ => stable_bind stable_getString fun _ =>
  stable_bind stable_getI32 fun _ => stable_bind stable_getI64 fun _ =>
  stable_bind stable_getI32 fun _ =>
  stable_bind (stable_replicate stable_parsePartition _) fun _ =>
  stable_bind stable_getI64 fun _ => stable_pure _

theorem stable_parseToGetLocalfileIndexCommand : Stable parseToGetLocalfileIndexCommand :=
  stable_bind stable_getI64 fun _ => stable_bind stable_getString fun _ =>
  stable_bind stable_getI32 fun _ => stable_bind stable_getI32 fun _ =>
  stable_bind stable_getI32 fun _ => stable_bind stable_getI32 fun _ => stable_pure _

theorem stable_parseToGetMemoryDataCommand : Stable parseToGetMemoryDataCommand :=
  stable_bind stable_getI64 fun _ => stable_bind stable_getString fun _ =>
  stable_bind stable_getI32 fun _ => stable_bind stable_getI32 fun _ =>
  stable_bind stable_getI64 fun _ => stable_bind stable_getI32 fun _ =>
  stable_bind stable_getI64 fun _ => stable_bind stable_getBytes fun _ => stable_pure _

theorem stable_parseMessage : ∀ t, Stable (parseMessage t)
  | none => stable_fail _
  | some .getLocalData => stable_bind stable_parseToGetLocalfileDataCommand fun _ => stable_pure _
  | some .getLocalDataIndex =>
      stable_bind stable_parseToGetLocalfileIndexCommand fun _ => stable_pure _
  | some .getMemoryData => stable_bind stable_parseToGetMemoryDataCommand fun _ => stable_pure _
  | some .sendShuffleData =>
      stable_bind stable_parseToSendShuffleDataCommand fun _ => stable_pure _
  | some .rpcResponse =>
      stable_bind stable_getI64 fun _ => stable_bind stable_getI32 fun _ =>
      stable_bind stable_getString fun _ => stable_pure _
  | some .getMemoryDataResponse => stable_abort
  | some .getLocalDataIndexResponse => stable_abort
  | some .getLocalDataResponse => stable_abort

theorem stable_parse : Stable parse :=
  stable_bind stable_getI32 fun _ => stable_bind stable_getU8 fun _ => stable_bind stable_getI32 fun _ =>
  stable_remaining_bind (stableFrom_guard (fun _ _ h hr => by omega) _
    (stableFrom_const (stable_parseMessage _)))

theorem stable_check : Stable check :=
  stable_remaining_bind (stableFrom_guard (fun _ _ h hr => by omega) _ (stableFrom_const
    (stable_bind stable_getI32 fun _ => stable_bind stable_getU8 fun _ => stable_bind stable_getI32 fun _ =>
      stable_remaining_bind (stableFrom_guard (fun _ _ h hr => by omega) _
        (stableFrom_const (stable_skip _))))))

end Stable

-- What `Connection::parse_frame` makes of the buffered bytes.
inductive Parsed where
  | frame (frame : Frame) (rest : List UInt8)
  | incomplete
  | failed (e : WorkerError)
  | panicked
deriving DecidableEq, Repr

def parseFrame (buffer : List UInt8) : Parsed :=
  match check ⟨buffer, 0⟩ with
  | .ok () c =>
      -- `set_position(0)`: `parse` reads the whole buffer, `advance` takes what `check` found.
      match parse ⟨buffer, 0⟩ with
      | .ok frame _ => .frame frame (buffer.drop c.position)
      | .err e => .failed e
      | .panicked => .panicked
  | .err .streamIncomplete => .incomplete
  | .err e => .failed e
  | .panicked => .panicked

-- `Connection::read_frame`, with the buffer and the unread socket after a frame.
inductive FrameRead where
  | frame (frame : Frame) (buffer : List UInt8) (socket : List (List UInt8))
  | closed
  | failed (e : WorkerError)
  | panicked
deriving DecidableEq, Repr

def endOfStream (buffer : List UInt8) : FrameRead :=
  if buffer.isEmpty then .closed else .failed .streamAbnormal

-- The socket is what the `read_buf` calls append; an empty read or the end of the list is EOF.
def readFrame (buffer : List UInt8) (socket : List (List UInt8)) : FrameRead :=
  match parseFrame buffer with
  | .frame frame rest => .frame frame rest socket
  -- `parse_frame()?` wraps the anyhow error in `WorkerError::Other`.
  | .failed e => .failed (.other e.display)
  | .panicked => .panicked
  | .incomplete =>
      match socket with
      | [] => endOfStream buffer
      | chunk :: more => if chunk.isEmpty then endOfStream buffer else readFrame (buffer ++ chunk) more

inductive Ending where
  | closed
  | failed (e : WorkerError)
  | panicked
deriving DecidableEq, Repr

-- `Command::apply`: `Ok`, an error `?` passes out of `Handler::run`, or a panic; it rests on
-- the store and the socket, so it is given per position.
inductive ApplyOutcome where
  | ok
  | failed (e : WorkerError)
  | panicked
deriving DecidableEq, Repr

-- `Handler::run` without shutdown, over at most `fuel` rounds: the commands handed to `apply`
-- and how it ends.
def serve : (Nat → Command → ApplyOutcome) → Nat → List UInt8 → List (List UInt8) →
    List Command × Option Ending
  | _, 0, _, _ => ([], none)
  | apply, fuel + 1, buffer, socket =>
      match readFrame buffer socket with
      | .closed => ([], some .closed)
      | .failed e => ([], some (.failed e))
      | .panicked => ([], some .panicked)
      | .frame frame buffer socket =>
          match Command.fromFrame frame with
          -- the `todo!()` arm of a response frame
          | none => ([], some .panicked)
          | some cmd =>
              match apply 0 cmd with
              | .ok =>
                  let rest := serve (fun n => apply (n + 1)) fuel buffer socket
                  (cmd :: rest.1, rest.2)
              | .failed e => ([cmd], some (.failed e))
              | .panicked => ([cmd], some .panicked)

-- The same loop over a list of commands, with `rest` after the last.
def applyInOrder (apply : Nat → Command → ApplyOutcome) (rest : List Command × Option Ending) :
    List Command → List Command × Option Ending
  | [] => rest
  | cmd :: cmds =>
      match apply 0 cmd with
      | .ok =>
          let r := applyInOrder (fun n => apply (n + 1)) rest cmds
          (cmd :: r.1, r.2)
      | .failed e => ([cmd], some (.failed e))
      | .panicked => ([cmd], some .panicked)

theorem applyInOrder_append (xs ys : List Command) :
    ∀ (apply : Nat → Command → ApplyOutcome) (rest : List Command × Option Ending),
      applyInOrder apply rest (xs ++ ys) =
        applyInOrder apply (applyInOrder (fun n => apply (n + xs.length)) rest ys) xs := by
  induction xs with
  | nil => intro apply rest; rfl
  | cons cmd xs ih =>
      intro apply rest
      simp only [List.cons_append, applyInOrder, ih]
      cases apply 0 cmd <;> rfl

theorem applyInOrder_head? (apply : Nat → Command → ApplyOutcome) (rest : List Command × Option Ending)
    (cmd : Command) (cmds : List Command) : (applyInOrder apply rest (cmd :: cmds)).1.head? = some cmd := by
  simp only [applyInOrder]
  cases apply 0 cmd <;> rfl

-- A frame as a client writes it: `check` takes exactly its bytes.
def Delimited (bytes : List UInt8) : Prop := check ⟨bytes, 0⟩ = .ok () ⟨bytes, bytes.length⟩

instance (bytes : List UInt8) : Decidable (Delimited bytes) :=
  inferInstanceAs (Decidable (check ⟨bytes, 0⟩ = _))

-- A delimited frame that parses into one `Command::from_frame` accepts.
def RequestFrame (bytes : List UInt8) (cmd : Command) : Prop :=
  Delimited bytes ∧ ∃ frame c, parse ⟨bytes, 0⟩ = .ok frame c ∧ Command.fromFrame frame = some cmd

section Buffer

theorem contentLen_append {bytes : List UInt8} (h : headerLen ≤ bytes.length) (more : List UInt8) :
    contentLen (bytes ++ more) = contentLen bytes := by
  have h4 : (bytes ++ more).take 4 = bytes.take 4 :=
    List.take_append_of_le_length (by simp [headerLen] at h; omega)
  have h5 : ((bytes ++ more).drop 5).take 4 = (bytes.drop 5).take 4 := by
    rw [List.drop_append_of_le_length (by simp [headerLen] at h; omega)]
    exact List.take_append_of_le_length (by simp [headerLen] at h ⊢; omega)
  simp only [contentLen, headerMsgLen, headerBodyLen, h4, h5]

theorem Delimited.length_eq {bytes : List UInt8} (h : Delimited bytes) :
    headerLen ≤ bytes.length ∧ headerLen + contentLen bytes = bytes.length := by
  rw [Delimited, check_spec] at h
  simp only [Cursor.remaining_start, Cursor.chunk_start] at h
  split at h
  · cases h
  · split at h
    · cases h
    · have hpos := congrArg Cursor.position (Outcome.ok.inj h).2
      simp only [Cursor.advance_position, Nat.zero_add] at hpos
      omega

theorem Delimited.check_append {bytes : List UInt8} (h : Delimited bytes) (more : List UInt8) :
    check ⟨bytes ++ more, 0⟩ = .ok () ⟨bytes ++ more, bytes.length⟩ :=
  (stable_check ⟨bytes, 0⟩ more () _ (Cursor.valid_start bytes) h).2.2

theorem Delimited.check_cut {bytes cut lost : List UInt8} (h : Delimited bytes)
    (hcut : cut ++ lost = bytes) (hlost : lost ≠ []) : check ⟨cut, 0⟩ = .err .streamIncomplete := by
  obtain ⟨hhead, hlen⟩ := h.length_eq
  have hshort : cut.length < bytes.length := by
    rw [← hcut, List.length_append]
    have := List.length_pos_iff.mpr hlost
    omega
  rw [check_spec]
  simp only [Cursor.remaining_start, Cursor.chunk_start]
  by_cases hc : cut.length < headerLen
  · rw [if_pos hc]
  · have hsame : contentLen cut = contentLen bytes := by
      rw [← hcut, contentLen_append (Nat.le_of_not_lt hc)]
    rw [if_neg hc, if_pos (by omega)]

theorem parseFrame_append {bytes : List UInt8} {frame : Frame} {c : Cursor} (h : Delimited bytes)
    (hparse : parse ⟨bytes, 0⟩ = .ok frame c) (more : List UInt8) :
    parseFrame (bytes ++ more) = .frame frame more := by
  have hmore := (stable_parse ⟨bytes, 0⟩ more frame c (Cursor.valid_start bytes) hparse).2.2
  simp only [parseFrame, h.check_append more]
  rw [show (⟨bytes ++ more, 0⟩ : Cursor) = (⟨bytes, 0⟩ : Cursor).extend more from rfl, hmore]
  simp

theorem parseFrame_cut {bytes cut lost : List UInt8} (h : Delimited bytes) (hcut : cut ++ lost = bytes)
    (hlost : lost ≠ []) : parseFrame cut = .incomplete := by
  simp only [parseFrame, h.check_cut hcut hlost]

theorem parseFrame_nil : parseFrame [] = .incomplete := by
  simp [parseFrame, check_spec, headerLen]

end Buffer

section Read

theorem readFrame_of_frame {buffer rest : List UInt8} {frame : Frame}
    (h : parseFrame buffer = .frame frame rest) (socket : List (List UInt8)) :
    readFrame buffer socket = .frame frame rest socket := by
  cases socket <;> simp [readFrame, h]

theorem readFrame_cons {buffer chunk : List UInt8} (h : parseFrame buffer = .incomplete)
    (hchunk : chunk ≠ []) (more : List (List UInt8)) :
    readFrame buffer (chunk :: more) = readFrame (buffer ++ chunk) more := by
  simp [readFrame, h, hchunk]

theorem readFrame_nil {buffer : List UInt8} (h : parseFrame buffer = .incomplete) :
    readFrame buffer [] = endOfStream buffer := by
  simp [readFrame, h]

theorem readFrame_framed {bytes more : List UInt8} {frame : Frame} {c : Cursor} (h : Delimited bytes)
    (hparse : parse ⟨bytes, 0⟩ = .ok frame c) :
    ∀ (socket : List (List UInt8)) (buffer : List UInt8), (∀ chunk ∈ socket, chunk ≠ []) →
      buffer ++ socket.flatten = bytes ++ more →
      ∃ buffer' socket', readFrame buffer socket = .frame frame buffer' socket' ∧
        buffer' ++ socket'.flatten = more ∧ ∀ chunk ∈ socket', chunk ≠ []
  | socket, buffer, hne, hstream => by
      rcases List.append_eq_append_iff.mp hstream with ⟨lost, hbytes, hflat⟩ | ⟨rest, hbuf, hmore⟩
      · by_cases hlost : lost = []
        · -- the buffer holds exactly the frame
          subst hlost
          rw [List.append_nil] at hbytes
          subst hbytes
          refine ⟨[], socket, ?_, by simpa using hflat, hne⟩
          rw [← List.append_nil bytes]
          exact readFrame_of_frame (parseFrame_append h hparse []) socket
        · -- a cut of the frame: one more read
          have hinc := parseFrame_cut h hbytes.symm hlost
          cases socket with
          | nil =>
              simp at hflat
              exact absurd hflat.1 hlost
          | cons chunk rest =>
              have hchunk := hne chunk (List.mem_cons_self)
              rw [readFrame_cons hinc hchunk]
              exact readFrame_framed h hparse rest (buffer ++ chunk)
                (fun x hx => hne x (List.mem_cons_of_mem _ hx)) (by simpa using hstream)
      · -- the buffer holds the frame and more
        subst hbuf
        exact ⟨rest, socket, readFrame_of_frame (parseFrame_append h hparse rest) socket,
          by simpa using hmore.symm, hne⟩

theorem readFrame_closed : ∀ (socket : List (List UInt8)) (buffer : List UInt8),
    (∀ chunk ∈ socket, chunk ≠ []) → buffer ++ socket.flatten = [] → readFrame buffer socket = .closed
  | socket, buffer, hne, hstream => by
      obtain ⟨rfl, hflat⟩ := List.append_eq_nil_iff.mp hstream
      cases socket with
      | nil => rw [readFrame_nil parseFrame_nil]; rfl
      | cons chunk rest =>
          have hchunk := hne chunk List.mem_cons_self
          simp at hflat
          exact absurd hflat.1 hchunk

theorem readFrame_truncated {bytes cut lost : List UInt8} (h : Delimited bytes)
    (hcut : cut ++ lost = bytes) (hlost : lost ≠ []) (hcut0 : cut ≠ []) :
    ∀ (socket : List (List UInt8)) (buffer : List UInt8), (∀ chunk ∈ socket, chunk ≠ []) →
      buffer ++ socket.flatten = cut → readFrame buffer socket = .failed .streamAbnormal
  | socket, buffer, hne, hstream => by
      have hinc : parseFrame buffer = .incomplete :=
        parseFrame_cut h (by rw [← hcut, ← hstream, List.append_assoc])
          (by simp [hlost])
      cases socket with
      | nil =>
          rw [readFrame_nil hinc, endOfStream]
          simp only [List.flatten_nil, List.append_nil] at hstream
          subst hstream
          simp [hcut0]
      | cons chunk rest =>
          have hchunk := hne chunk List.mem_cons_self
          rw [readFrame_cons hinc hchunk]
          exact readFrame_truncated h hcut hlost hcut0 rest (buffer ++ chunk)
            (fun x hx => hne x (List.mem_cons_of_mem _ hx)) (by simpa using hstream)

end Read

section Serve

theorem serve_frame {fuel : Nat} {buffer buffer' : List UInt8} {socket socket' : List (List UInt8)}
    {frame : Frame} {cmd : Command} (h : readFrame buffer socket = .frame frame buffer' socket')
    (hcmd : Command.fromFrame frame = some cmd) (apply : Nat → Command → ApplyOutcome) :
    serve apply (fuel + 1) buffer socket =
      applyInOrder apply (serve (fun n => apply (n + 1)) fuel buffer' socket') [cmd] := by
  simp only [serve, h, hcmd, applyInOrder]

def indexRequest : List UInt8 :=
  putHeader 29 MessageType.getLocalDataIndex.toU8 0 ++ putI64 7 ++ putI32 1 ++ [97] ++ putI32 0 ++
    putI32 1 ++ putI32 1 ++ putI32 1

def indexCommand : Command := .getLocalIndex ⟨7, "a", 0, 1, 1, 1⟩

theorem indexRequest_framed : RequestFrame indexRequest indexCommand :=
  ⟨by decide, .getLocalDataIndex ⟨7, "a", 0, 1, 1, 1⟩, ⟨indexRequest, 38⟩, by decide, rfl⟩

theorem serve_closed {buffer : List UInt8} {socket : List (List UInt8)}
    (hne : ∀ chunk ∈ socket, chunk ≠ []) (hstream : buffer ++ socket.flatten = [])
    (apply : Nat → Command → ApplyOutcome) (fuel : Nat) :
    serve apply (fuel + 1) buffer socket = ([], some .closed) := by
  simp [serve, readFrame_closed socket buffer hne hstream]

theorem serve_framed {frames : List (List UInt8)} {cmds : List Command}
    (hframes : List.Forall₂ RequestFrame frames cmds) (tail : List UInt8) :
    ∀ (apply : Nat → Command → ApplyOutcome) (fuel : Nat) (buffer : List UInt8)
      (socket : List (List UInt8)), (∀ chunk ∈ socket, chunk ≠ []) →
      frames.length ≤ fuel → buffer ++ socket.flatten = frames.flatten ++ tail →
      ∃ buffer' socket', (∀ chunk ∈ socket', chunk ≠ []) ∧ buffer' ++ socket'.flatten = tail ∧
        serve apply fuel buffer socket =
          applyInOrder apply
            (serve (fun n => apply (n + cmds.length)) (fuel - frames.length) buffer' socket') cmds := by
  induction hframes with
  | nil =>
      intro apply fuel buffer socket hne _ hstream
      exact ⟨buffer, socket, hne, by simpa using hstream, rfl⟩
  | @cons bytes cmd frames cmds hframe _ ih =>
      intro apply fuel buffer socket hne hfuel hstream
      obtain ⟨hdelim, frame, c, hparse, hcmd⟩ := hframe
      obtain ⟨fuel, rfl⟩ : ∃ k, fuel = k + 1 := ⟨fuel - 1, by simp at hfuel; omega⟩
      obtain ⟨buffer₁, socket₁, hread, hstream₁, hne₁⟩ :=
        readFrame_framed hdelim hparse socket buffer hne (by simpa using hstream)
      obtain ⟨buffer', socket', hne', htail, hserve⟩ :=
        ih (fun n => apply (n + 1)) fuel buffer₁ socket₁ hne₁ (by simp at hfuel; omega) hstream₁
      have hleft : fuel + 1 - (frames.length + 1) = fuel - frames.length := by omega
      refine ⟨buffer', socket', hne', htail, ?_⟩
      rw [serve_frame hread hcmd, hserve, List.length_cons, List.length_cons, hleft]
      exact (applyInOrder_append [cmd] cmds apply _).symm

theorem serve_framed_with_fuel {frames : List (List UInt8)} {cmds : List Command}
    (hframes : List.Forall₂ RequestFrame frames cmds) (tail : List UInt8) (apply : Nat → Command → ApplyOutcome)
    {socket : List (List UInt8)} (hne : ∀ chunk ∈ socket, chunk ≠ [])
    (hstream : socket.flatten = frames.flatten ++ tail) {fuel : Nat} (hfuel : frames.length < fuel) :
    ∃ buffer' socket' k, (∀ chunk ∈ socket', chunk ≠ []) ∧ buffer' ++ socket'.flatten = tail ∧
      serve apply fuel [] socket =
        applyInOrder apply (serve (fun n => apply (n + cmds.length)) (k + 1) buffer' socket') cmds := by
  obtain ⟨buffer', socket', hne', htail, hserve⟩ :=
    serve_framed hframes tail apply fuel [] socket hne hfuel.le (by simpa using hstream)
  refine ⟨buffer', socket', fuel - frames.length - 1, hne', htail, ?_⟩
  rw [hserve, show fuel - frames.length - 1 + 1 = fuel - frames.length by omega]

theorem serve_frames {frames : List (List UInt8)} {cmds : List Command}
    (hframes : List.Forall₂ RequestFrame frames cmds) {socket : List (List UInt8)}
    (hne : ∀ chunk ∈ socket, chunk ≠ []) (hstream : socket.flatten = frames.flatten) {fuel : Nat}
    (hfuel : frames.length < fuel) (apply : Nat → Command → ApplyOutcome) :
    serve apply fuel [] socket = applyInOrder apply ([], some .closed) cmds := by
  obtain ⟨buffer', socket', k, hne', hend, hserve⟩ :=
    serve_framed_with_fuel hframes [] apply hne (by simpa using hstream) hfuel
  rw [hserve, serve_closed hne' hend]

def twoReadsSocket : List (List UInt8) :=
  [indexRequest.take 5, indexRequest.drop 5 ++ indexRequest.take 12, indexRequest.drop 12]

def secondWriteFails : Nat → Command → ApplyOutcome :=
  fun n _ => if n = 0 then .ok else .failed (.other "Broken pipe")

theorem two_index_reads_served :
    List.Forall₂ RequestFrame [indexRequest, indexRequest] [indexCommand, indexCommand] ∧
      (∀ chunk ∈ twoReadsSocket, chunk ≠ []) ∧
      twoReadsSocket.flatten = [indexRequest, indexRequest].flatten ∧
      [indexRequest, indexRequest].length < 3 ∧
      serve (fun _ _ => .ok) 3 [] twoReadsSocket = ([indexCommand, indexCommand], some .closed) ∧
      serve secondWriteFails 3 [] twoReadsSocket =
        ([indexCommand, indexCommand], some (.failed (.other "Broken pipe"))) := by
  have hframes : List.Forall₂ RequestFrame [indexRequest, indexRequest] [indexCommand, indexCommand] :=
    .cons indexRequest_framed (.cons indexRequest_framed .nil)
  have hne : ∀ chunk ∈ twoReadsSocket, chunk ≠ [] := by decide
  have hstream : twoReadsSocket.flatten = [indexRequest, indexRequest].flatten := by decide
  exact ⟨hframes, hne, hstream, by decide, serve_frames hframes hne hstream (by decide) _,
    serve_frames hframes hne hstream (by decide) _⟩

theorem serve_truncated {frames : List (List UInt8)} {cmds : List Command}
    (hframes : List.Forall₂ RequestFrame frames cmds) {bytes cut lost : List UInt8} (hbytes : Delimited bytes)
    (hcut : cut ++ lost = bytes) (hlost : lost ≠ []) (hcut0 : cut ≠ []) {socket : List (List UInt8)}
    (hne : ∀ chunk ∈ socket, chunk ≠ []) (hstream : socket.flatten = frames.flatten ++ cut)
    {fuel : Nat} (hfuel : frames.length < fuel) (apply : Nat → Command → ApplyOutcome) :
    serve apply fuel [] socket = applyInOrder apply ([], some (.failed .streamAbnormal)) cmds := by
  obtain ⟨buffer', socket', k, hne', hend, hserve⟩ := serve_framed_with_fuel hframes cut apply hne hstream hfuel
  have hread := readFrame_truncated hbytes hcut hlost hcut0 socket' buffer' hne' hend
  rw [hserve]
  simp [serve, hread]

def cutReadSocket : List (List UInt8) := [indexRequest.take 7, indexRequest.drop 7 ++ indexRequest.take 12]

theorem cut_index_read_abnormal :
    Delimited indexRequest ∧ (∀ chunk ∈ cutReadSocket, chunk ≠ []) ∧
      cutReadSocket.flatten = [indexRequest].flatten ++ indexRequest.take 12 ∧
      serve (fun _ _ => .ok) 2 [] cutReadSocket = ([indexCommand], some (.failed .streamAbnormal)) ∧
      serve (fun _ _ => .panicked) 2 [] cutReadSocket = ([indexCommand], some .panicked) := by
  have hframes : List.Forall₂ RequestFrame [indexRequest] [indexCommand] := .cons indexRequest_framed .nil
  have hbytes : Delimited indexRequest := indexRequest_framed.1
  have hne : ∀ chunk ∈ cutReadSocket, chunk ≠ [] := by decide
  have hstream : cutReadSocket.flatten = [indexRequest].flatten ++ indexRequest.take 12 := by decide
  have hcut := List.take_append_drop 12 indexRequest
  exact ⟨hbytes, hne, hstream,
    serve_truncated hframes hbytes hcut (by decide) (by decide) hne hstream (by decide) _,
    serve_truncated hframes hbytes hcut (by decide) (by decide) hne hstream (by decide) _⟩

theorem serve_depends_on_cut {bytes next : List UInt8} {frame : Frame} {c : Cursor} {cmd : Command}
    (hbytes : Delimited bytes) (hshort : parse ⟨bytes, 0⟩ = .panicked)
    (hlong : parse ⟨bytes ++ next, 0⟩ = .ok frame c) (hcmd : Command.fromFrame frame = some cmd)
    (apply : Nat → Command → ApplyOutcome) (fuel : Nat) :
    serve apply (fuel + 1) [] [bytes, next] = ([], some .panicked) ∧
      (serve apply (fuel + 1) [] [bytes ++ next]).1.head? = some cmd := by
  have hbytes0 : bytes ≠ [] := by
    have := hbytes.length_eq.1
    intro h
    simp [h, headerLen] at this
  have halone : parseFrame bytes = .panicked := by
    simp only [parseFrame, show check ⟨bytes, 0⟩ = .ok () ⟨bytes, bytes.length⟩ from hbytes, hshort]
  have htogether : parseFrame (bytes ++ next) = .frame frame next := by
    simp only [parseFrame, hbytes.check_append next, hlong, List.drop_left']
  have hnext : bytes ++ next ≠ [] := by simp [hbytes0]
  constructor
  · have hread : readFrame [] [bytes, next] = .panicked := by
      rw [readFrame_cons parseFrame_nil hbytes0, List.nil_append]
      simp [readFrame, halone]
    simp [serve, hread]
  · have hread : readFrame [] [bytes ++ next] = .frame frame next [] := by
      rw [readFrame_cons parseFrame_nil hnext, List.nil_append]
      exact readFrame_of_frame htogether []
    rw [serve_frame hread hcmd]
    exact applyInOrder_head? _ _ cmd []

def shortMemoryRead : List UInt8 := putHeader 1 MessageType.getMemoryData.toU8 0 ++ [0]

def zeroMemoryRead : GetMemoryDataRequestCommand := ⟨0, "", 0, 0, 0, 0, none, 0⟩

theorem short_memory_read_depends_on_cut :
    Delimited shortMemoryRead ∧ parse ⟨shortMemoryRead, 0⟩ = .panicked ∧
      parse ⟨shortMemoryRead ++ List.replicate 43 0, 0⟩ =
        .ok (.getMemoryData zeroMemoryRead) ⟨shortMemoryRead ++ List.replicate 43 0, 53⟩ ∧
      Command.fromFrame (.getMemoryData zeroMemoryRead) = some (.getMem zeroMemoryRead) ∧
      serve (fun _ _ => .ok) 1 [] [shortMemoryRead, List.replicate 43 0] = ([], some .panicked) ∧
      (serve (fun _ _ => .ok) 1 [] [shortMemoryRead ++ List.replicate 43 0]).1.head? =
        some (.getMem zeroMemoryRead) := by
  have hbytes : Delimited shortMemoryRead := by decide
  have hshort : parse ⟨shortMemoryRead, 0⟩ = .panicked := by decide
  have hlong : parse ⟨shortMemoryRead ++ List.replicate 43 0, 0⟩ =
      .ok (.getMemoryData zeroMemoryRead) ⟨shortMemoryRead ++ List.replicate 43 0, 53⟩ := by decide
  exact ⟨hbytes, hshort, hlong, rfl, serve_depends_on_cut hbytes hshort hlong rfl _ 0⟩

end Serve

end Rifflex.Urpc
