import Rifflex.Server.State

namespace Rifflex

open Word Mem

inductive SpillStep where
  | next (phase : SpillPhase)
  | finished
  | panicked
deriving DecidableEq, Repr

def SendTask.inserted (t : SendTask) (inserted : Int) : SendTask :=
  { t with insertedTotalSize := t.insertedTotalSize + inserted, phase := .appInsert }

namespace Server

variable (conf : ServerConfig)

def setHot (s : Server) (hot : MemoryStore) : Server := { s with hotStore := hot }

def setWarm (s : Server) (warm : LocalFileStore) : Server := { s with warmStore := warm }

-- One step of `watermark_spill`; a missing candidate is the `unwrap` panic.
def stepSpill (s : Server) : SpillPhase → Server × SpillStep
  | .pickup => match s.hotStore.spillCandidates conf.hybrid with
    | none => ({ s with memorySpillLock := false }, .finished)
    | some candidates => (s, .next (.lookup candidates))
  | .lookup candidates => match s.hotStore.lookupCandidates candidates with
    | none => ({ s with memorySpillLock := false }, .panicked)
    | some buffers => (s, .next (.spill buffers 0))
  | .spill [] flushedSize =>
      ({ s with hotStore := s.hotStore.incInflight flushedSize, memorySpillLock := false }, .finished)
  | .spill ((uid, r) :: rest) flushedSize =>
      let res := s.hotStore.spill r
      (s.setHot res.1,
       .next (.publish (SpillMessage.ofSpill uid res.2) rest (addU64 flushedSize res.2.flightLen)))
  | .publish message rest flushedSize =>
      ({ s with eventQueue := s.eventQueue ++ [message] }, .next (.incEventNum rest flushedSize))
  | .incEventNum rest flushedSize =>
      ({ s with memorySpillEventNum := addU64 s.memorySpillEventNum 1 }, .next (.spill rest flushedSize))

def stepSend (s : Server) (t : SendTask) : Server × Task :=
  match t.phase with
  | .getApp => match s.getApp t.req.appId with
    | none => (s, .done)
    | some r => (s, .send { t with app := r, phase := .releaseTicket })
  | .releaseTicket =>
      let res := s.hotStore.ticketManager.delete t.req.ticketId
      let s := s.setHot { s.hotStore with ticketManager := res.1 }
      match res.2 with
      | .error _ => (s, .done)
      | .ok len => (s, .send { t with ticketLen := len, pending := t.req.blocksMap, phase := .appInsert })
  | .appInsert => match t.pending with
    | [] => (s.setHot (s.hotStore.moveAllocatedToUsed t.insertedTotalSize),
        .send { t with phase := .releaseUnused })
    | (partitionId, blocks) :: rest =>
        let uid : PartitionedUId := ⟨t.req.appId, t.req.shuffleId, partitionId⟩
        let res := (s.app t.app).insertContext s.now (WritingViewContext.from uid blocks)
        (s.setApp t.app res.1,
         .send { t with pending := rest, phase := .getOrCreate res.2 (App.insertedSize blocks) })
  | .getOrCreate ctx inserted =>
      let res := s.hotStore.getOrCreateMemoryBuffer ctx.uid
      (s.setHot res.1, .send { t with phase := .append res.2 ctx inserted })
  | .append r ctx inserted =>
      (s.setHot (s.hotStore.append r ctx.dataBlocks ctx.dataSize), .send { t with phase := .trySpill inserted })
  | .trySpill inserted =>
      -- `try_lock` fails while another insert spills.
      if !s.memorySpillLock && s.hotStore.aboveHighWatermark conf.hybrid then
        ({ s with memorySpillLock := true }, .send { t with phase := .spilling .pickup inserted })
      else (s, .send (t.inserted inserted))
  | .spilling phase inserted =>
      let res := stepSpill conf s phase
      match res.2 with
      | .next phase => (res.1, .send { t with phase := .spilling phase inserted })
      | .finished => (res.1, .send (t.inserted inserted))
      | .panicked => (res.1, .done)
  | .releaseUnused =>
      let unused := t.ticketLen - t.insertedTotalSize
      -- grpc releases any nonzero remainder, urpc only a positive one.
      let release := match t.req.frontend with
        | .grpc => unused != 0
        | .urpc => decide (unused > 0)
      (if release then s.setHot (s.hotStore.decAllocated unused) else s, .done)

def stepRequire (s : Server) (t : RequireTask) : Server × Task :=
  match t.phase with
  | .getApp => match s.getApp t.uid.appId with
    | none => (s, .done)
    | some r =>
        let app := (s.app r).heartbeat s.now
        let s := s.setApp r app
        let bufferSize := (s.hotStore.getUnderlyingPartitionBuffer t.uid).map
          (fun b => (s.hotStore.buffer b).totalSize)
        if app.isLimitHugePartition then
          match app.isBackpressureForHugePartition t.uid bufferSize with
          | some false => (s, .require { t with phase := .requireAllocated })
          | _ => (s, .done)
        else (s, .require { t with phase := .requireAllocated })
  | .requireAllocated =>
      let res := s.hotStore.requireAllocated t.size
      if res.2.1 then (s.setHot res.1, .require { t with phase := .insertTicket res.2.2 s.now })
      else (s.setHot res.1, .done)
  | .insertTicket ticketId allocatedTimestamp =>
      (s.setHot { s.hotStore with ticketManager :=
          s.hotStore.ticketManager.insert ticketId t.size allocatedTimestamp t.uid.appId }, .done)

def stepMemRead (s : Server) (t : MemReadTask) : Server × Task :=
  match t.phase with
  | .getApp => match s.getApp t.uid.appId with
    | none => (s, .done)
    | some r => (s, .memRead { t with phase := .getOrCreate r })
  | .getOrCreate r =>
      let s := s.setApp r ((s.app r).heartbeat s.now)
      (s.setHot (s.hotStore.getOrCreateMemoryBuffer t.uid).1, .done)

-- The `or_insert_with` after `contains_key` selects a disk and unwraps it.
def stepLocalRead (s : Server) (t : LocalReadTask) : Server × Task :=
  let dataFilePath := (LocalFileStore.genRelativePathForPartition t.uid).1
  match t.phase with
  | .getApp => match s.getApp t.uid.appId with
    | none => (s, .done)
    | some r => (s, .localRead { t with phase := .containsKey r })
  | .containsKey r =>
      let s := s.setApp r ((s.app r).heartbeat s.now)
      if (!t.index && t.length == 0) || (Assoc.find? dataFilePath s.warmStore.partitionLocks).isNone then
        (s, .done)
      else (s, .localRead { t with phase := .entry })
  | .entry => match s.warmStore.lockEntry conf.getHash t.uid with
    | .ok res => (s.setWarm res.1, .done)
    | .error _ => (s, .done)

def afterSpill (s : Server) (t : HandlerTask) (res : Except WorkerError Unit) : Server × Task :=
  match spillOutcome res with
  | .release => (s, .handler { t with phase := .release false .getOrCreate })
  | .drop => (s, .handler { t with phase := .release true .getOrCreate })
  | .retry => (s, .handler { t with phase := .republish })

def stepHandler (s : Server) (t : HandlerTask) (diskOk : Bool) : Option (Server × Task) :=
  let m := t.message
  let paths := LocalFileStore.genRelativePathForPartition m.ctx.uid
  match t.phase with
  | .start =>
      if m.retryCnt > 3 then some (afterSpill s t (.error (.spillEventExceedRetryMaxLimit m.ctx.uid.appId)))
      else match s.warmStore.lockEntry conf.getHash m.ctx.uid with
        | .error e => some (afterSpill s t (.error e))
        | .ok res => some (s.setWarm res.1, .handler { t with phase := .lock res.2.1 res.2.2 })
  | .lock obj _ =>
      let o := s.warmStore.lockedObj obj
      let disk := s.warmStore.disk o.disk
      if o.locked then none
      else if disk.isCorrupted then some (afterSpill s t (.error (.partialDataLost disk.root)))
      else if !disk.isHealthy then some (afterSpill s t (.error (.localDiskUnhealthy disk.root)))
      else
        -- `create_dir` of the parent directory is taken to succeed; its `?` is not modelled.
        let built := LocalFileStore.buildIndex o.pointer (LocalFileStore.spillBlocks m.ctx.dataBlocks)
        some (s.setWarm (s.warmStore.setLockedObj obj { o with locked := true }),
          .handler { t with phase := .appendData obj built.2.2.2 built.1 built.2.1.flatten })
  | .appendData obj nextOffset index data =>
      if diskOk then
        let disk := (s.warmStore.lockedObj obj).disk
        some (s.setWarm (s.warmStore.appendData disk paths.1 data),
          .handler { t with phase := .appendIndex obj nextOffset index })
      else
        -- `let _ = handler.await?` drops the writer's error.
        some (afterSpill (s.setWarm (s.warmStore.storePointer obj nextOffset)) t (.ok ()))
  | .appendIndex obj nextOffset index =>
      let disk := (s.warmStore.lockedObj obj).disk
      let warm := if diskOk then s.warmStore.appendData disk paths.2 index else s.warmStore
      some (afterSpill (s.setWarm (warm.storePointer obj nextOffset)) t (.ok ()))
  | .release dropped .getOrCreate =>
      let res := s.hotStore.getOrCreateMemoryBuffer m.ctx.uid
      some (s.setHot res.1, .handler { t with phase := .release dropped (.clear res.2) })
  | .release dropped (.clear r) =>
      some (s.setHot (s.hotStore.clear r m.flightId (toU64 m.size)),
        .handler { t with phase := .release dropped .decUsed })
  | .release dropped .decUsed =>
      some (s.setHot (s.hotStore.decUsed m.size), .handler { t with phase := .release dropped .decInflight })
  | .release dropped .decInflight =>
      some (s.setHot (s.hotStore.decInflight (toU64 m.size)),
        .handler { t with phase := .release dropped .decSpillEventNum })
  | .release _ .decSpillEventNum =>
      some ({ s with memorySpillEventNum := subU64 s.memorySpillEventNum 1 }, .done)
  | .republish =>
      some ({ s with eventQueue := s.eventQueue ++ [m.retried] }, .handler { t with phase := .incSpillEventNum })
  | .incSpillEventNum =>
      some ({ s with memorySpillEventNum := addU64 s.memorySpillEventNum 1 }, .done)

def stepTask (s : Server) (t : Task) (diskOk : Bool) : Option (Server × Task) :=
  match t with
  | .send t => some (stepSend conf s t)
  | .require t => some (stepRequire s t)
  | .memRead t => some (stepMemRead s t)
  | .localRead t => some (stepLocalRead conf s t)
  | .handler t => stepHandler conf s t diskOk
  | .done => none

def PurgeDataContext.ofEvent : PurgeEvent → PurgeDataContext
  | .heartbeatTimeout appId => ⟨appId, none⟩
  | .appPartialShufflesPurge appId shuffleId => ⟨appId, some shuffleId⟩
  | .appPurge appId => ⟨appId, none⟩

-- The purge loop, one event at a time; `none` while it waits for an event or a write lock.
def stepPurge (s : Server) : Option Server :=
  match s.purging with
  | none => match s.purgeChannel with
    | [] => none
    | event :: rest =>
        let ctx := PurgeDataContext.ofEvent event
        let s := { s with purgeChannel := rest }
        match s.getApp ctx.appId with
        | none => some s
        | some _ =>
            let pids := s.hotStore.purgeSnapshot ctx.appId ctx.shuffleId
            some { s with purging := some (ctx, .memRemove pids 0) }
  | some (ctx, .memRemove (pid :: rest) used) =>
      let res := s.hotStore.removeEntry pid
      some { s with hotStore := res.1, purging := some (ctx, .memRemove rest (used + res.2)) }
  | some (ctx, .memRemove [] used) =>
      some { s with hotStore := s.hotStore.decUsed used, purging := some (ctx, .diskDelete 0) }
  | some (ctx, .diskDelete i) =>
      let dir := LocalFileStore.purgeDir ctx.appId ctx.shuffleId
      if i < s.warmStore.localDisks.length then
        some { s with warmStore := s.warmStore.setDisk i ((s.warmStore.disk i).delete dir),
                      purging := some (ctx, .diskDelete (i + 1)) }
      else some { s with purging := some (ctx, .localRemove (s.warmStore.keysToDelete dir) 0) }
  | some (ctx, .localRemove (key :: rest) size) =>
      let res := s.warmStore.removeKey key
      match res.2 with
      | some obj => some { s with warmStore := res.1, purging := some (ctx, .localWait obj rest size) }
      | none => some { s with warmStore := res.1, purging := some (ctx, .localRemove rest size) }
  | some (ctx, .localRemove [] _) =>
      some { s with apps := if ctx.shuffleId.isNone then Assoc.erase ctx.appId s.apps else s.apps,
                    purging := none }
  | some (ctx, .localWait obj rest size) =>
      let o := s.warmStore.lockedObj obj
      if o.locked then none
      else some { s with purging := some (ctx, .localRemove rest (size + o.pointer)) }

def stepTicketCheck (s : Server) : Server :=
  match s.ticketCheck with
  | none =>
      let tm := s.hotStore.ticketManager
      let res := tm.removeTickets (tm.discardTickets s.now)
      { s with hotStore := { s.hotStore with ticketManager := res.1 }, ticketCheck := some res.2 }
  | some total =>
      let hot := if total != 0 then s.hotStore.releaseAllocated total else s.hotStore
      { s with hotStore := hot, ticketCheck := none }

def heartbeatCheck (s : Server) : Server :=
  { s with purgeChannel := s.purgeChannel ++
      ((s.apps.filter (fun e => heartbeatTimedOut conf.app s.now (s.app e.2))).map
        (fun e => PurgeEvent.heartbeatTimeout e.1)) }

def handleRequest (s : Server) : Request → Server
  | .registerShuffle appId _ =>
      let res := registerApp s.apps s.appHeap conf.app appId s.now
      { s with apps := res.1, appHeap := res.2 }
  | .unregisterShuffle appId shuffleId =>
      { s with purgeChannel := s.purgeChannel ++ [.appPartialShufflesPurge appId shuffleId] }
  | .unregisterApp appId => { s with purgeChannel := s.purgeChannel ++ [.appPurge appId] }
  | .appHeartbeat appId => match s.getApp appId with
    | some r => s.setApp r ((s.app r).heartbeat s.now)
    | none => s
  | .requireBuffer appId shuffleId size => s.spawn (.require ⟨⟨appId, shuffleId, 1⟩, size, .getApp⟩)
  | .sendShuffleData req => s.spawn (.send ⟨req, 0, 0, [], 0, .getApp⟩)
  | .getMemoryShuffleData uid lastBlockId readBufferSize taskIds =>
      s.spawn (.memRead ⟨uid, lastBlockId, readBufferSize, taskIds, .getApp⟩)
  | .getLocalShuffleData uid _ length => s.spawn (.localRead ⟨uid, false, length, .getApp⟩)
  | .getLocalShuffleIndex uid => s.spawn (.localRead ⟨uid, true, 0, .getApp⟩)

def updateDisk (s : Server) (i : Nat) (f : LocalDisk → LocalDisk) : Server :=
  s.setWarm (s.warmStore.setDisk i (f (s.warmStore.disk i)))

def exec (s : Server) : Action → Option Server
  | .request r => some (handleRequest conf s r)
  | .advance i diskOk => match s.tasks[i]? with
    | some t => (stepTask conf s t diskOk).map (fun res => res.1.setTask i res.2)
    | none => none
  | .dispatch => match s.eventQueue with
    | [] => none
    | message :: rest =>
        if s.runningHandlers < conf.hybrid.memorySpillMaxConcurrency then
          some (Server.spawn { s with eventQueue := rest } (.handler ⟨message, .start⟩))
        else none
  | .purge => stepPurge s
  | .ticketCheck => some (stepTicketCheck s)
  | .heartbeatCheck => some (heartbeatCheck conf s)
  | .tick => some { s with now := s.now + 1 }
  | .markCorrupted i => some (s.updateDisk i (fun d => { d with isCorrupted := true }))
  | .markUnhealthy i => some (s.updateDisk i (fun d => { d with isHealthy := false }))
  | .markHealthy i => some (s.updateDisk i (fun d => { d with isHealthy := true }))

-- One disk, 100 bytes, spilling above 5% down to 2%, one-second tickets.
def smallConf : ServerConfig where
  app := ⟨5, none, none⟩
  hybrid := ⟨fun used capacity => decide (used * 20 > capacity), fun capacity => capacity / 50, 10⟩
  memory := ⟨100, 1, 10⟩
  localfile := ⟨["/data"], 0⟩
  getHash := fun _ => 0

def Quiet (s : Server) : Prop := ∀ t ∈ s.tasks, t = .done

instance (s : Server) : Decidable (Quiet s) := inferInstanceAs (Decidable (∀ t ∈ s.tasks, t = .done))

def tenBytes : Block := ⟨1, 10, 10, 0, [1, 2, 3, 4, 5, 6, 7, 8, 9, 10], 0⟩

def oneByte : Block := ⟨2, 1, 1, 0, [1], 0⟩

def advanceAll (i n : Nat) : List Action := List.replicate n (.advance i true)

end Server

end Rifflex
