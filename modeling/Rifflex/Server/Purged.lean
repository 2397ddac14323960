import Rifflex.Server.Frame
import Rifflex.Lib.Transition
import Rifflex.Store.Localfile.Path

namespace Rifflex.Server

open Transition LocalFileStore

variable (conf : ServerConfig)

section Clear

variable (a : String)

def SpillClear : SpillPhase → Prop
  | .pickup => True
  | .lookup _ => True
  | .spill buffers _ => ∀ e ∈ buffers, e.1.appId ≠ a
  | .publish message buffers _ => message.ctx.uid.appId ≠ a ∧ ∀ e ∈ buffers, e.1.appId ≠ a
  | .incEventNum buffers _ => ∀ e ∈ buffers, e.1.appId ≠ a

def SendClear (t : SendTask) : Prop :=
  match t.phase with
  | .getApp => True
  | .getOrCreate ctx _ => t.req.appId ≠ a ∧ ctx.uid.appId ≠ a
  | .append _ ctx _ => t.req.appId ≠ a ∧ ctx.uid.appId ≠ a
  | .spilling phase _ => t.req.appId ≠ a ∧ SpillClear a phase
  | _ => t.req.appId ≠ a

def TaskClear : Task → Prop
  | .send t => SendClear a t
  | .require _ => True
  | .memRead t => t.phase = .getApp ∨ t.uid.appId ≠ a
  | .localRead t => t.phase = .getApp ∨ t.uid.appId ≠ a
  | .handler t => t.message.ctx.uid.appId ≠ a
  | .done => True

structure StoreClear (s : Server) : Prop where
  unregistered : s.getApp a = none
  noBuffer : ∀ e ∈ s.hotStore.state, e.1.appId ≠ a
  noLock : ∀ e ∈ s.warmStore.partitionLocks, ∀ uid : PartitionedUId, uid.appId = a →
    e.1 ≠ (genRelativePathForPartition uid).1
  noMessage : ∀ m ∈ s.eventQueue, m.ctx.uid.appId ≠ a

structure Purged (s : Server) : Prop extends StoreClear a s where
  tasksClear : ∀ t ∈ s.tasks, TaskClear a t

variable {a}

theorem StoreClear.setHot {s : Server} (h : StoreClear a s) (hot : MemoryStore)
    (hstate : ∀ e ∈ hot.state, e ∈ s.hotStore.state ∨ e.1.appId ≠ a) : StoreClear a (s.setHot hot) where
  unregistered := h.unregistered
  noBuffer e he := (hstate e he).elim (h.noBuffer e) id
  noLock := h.noLock
  noMessage := h.noMessage

theorem StoreClear.setWarm {s : Server} (h : StoreClear a s) {warm : LocalFileStore}
    (hlocks : ∀ e ∈ warm.partitionLocks, e ∈ s.warmStore.partitionLocks ∨
      ∃ uid : PartitionedUId, uid.appId ≠ a ∧ e.1 = (genRelativePathForPartition uid).1) :
    StoreClear a (s.setWarm warm) where
  unregistered := h.unregistered
  noBuffer := h.noBuffer
  noLock e he uid hu := by
    rcases hlocks e he with he | ⟨v, hv, hk⟩
    · exact h.noLock e he uid hu
    · rw [hk]
      intro heq
      exact hv (hu ▸ appId_of_dataPath_eq heq)
  noMessage := h.noMessage

theorem StoreClear.setApp {s : Server} (h : StoreClear a s) (r : Nat) (app : App) :
    StoreClear a (s.setApp r app) :=
  ⟨h.unregistered, h.noBuffer, h.noLock, h.noMessage⟩

theorem stepSpill_clear {s : Server} {phase : SpillPhase} (h : StoreClear a s)
    (hp : SpillClear a phase) :
    StoreClear a (stepSpill conf s phase).1 ∧
      ∀ next, (stepSpill conf s phase).2 = .next next → SpillClear a next := by
  cases phase with
  | pickup =>
      simp only [stepSpill]
      cases s.hotStore.spillCandidates conf.hybrid with
      | none => exact ⟨⟨h.unregistered, h.noBuffer, h.noLock, h.noMessage⟩, by simp⟩
      | some candidates => exact ⟨h, by simp [SpillClear]⟩
  | lookup candidates =>
      simp only [stepSpill]
      cases hl : s.hotStore.lookupCandidates candidates with
      | none => exact ⟨⟨h.unregistered, h.noBuffer, h.noLock, h.noMessage⟩, by simp⟩
      | some buffers =>
          refine ⟨h, ?_⟩
          rintro next ⟨⟩
          exact fun e he => h.noBuffer e (MemoryStore.lookupCandidates_mem hl e he)
  | spill buffers flushedSize =>
      cases buffers with
      | nil => exact ⟨⟨h.unregistered, h.noBuffer, h.noLock, h.noMessage⟩, by simp [stepSpill]⟩
      | cons entry rest =>
          simp only [SpillClear, List.mem_cons, forall_eq_or_imp] at hp
          refine ⟨h.setHot _ (fun e he => .inl (by simpa using he)), ?_⟩
          rintro next ⟨⟩
          exact ⟨hp.1, hp.2⟩
  | publish message buffers flushedSize =>
      refine ⟨⟨h.unregistered, h.noBuffer, h.noLock, ?_⟩, ?_⟩
      · simp only [stepSpill, List.mem_append, List.mem_singleton]
        rintro m (hm | rfl)
        · exact h.noMessage m hm
        · exact hp.1
      · rintro next ⟨⟩
        exact hp.2
  | incEventNum buffers flushedSize =>
      refine ⟨⟨h.unregistered, h.noBuffer, h.noLock, h.noMessage⟩, ?_⟩
      rintro next ⟨⟩
      exact hp

theorem StoreClear.with_lock {s : Server} (h : StoreClear a s) (b : Bool) :
    StoreClear a { s with memorySpillLock := b } :=
  ⟨h.unregistered, h.noBuffer, h.noLock, h.noMessage⟩

theorem stepSend_clear {s : Server} {t : SendTask} (h : StoreClear a s) (ht : SendClear a t) :
    StoreClear a (stepSend conf s t).1 ∧ TaskClear a (stepSend conf s t).2 := by
  rcases t with ⟨req, app, ticketLen, pending, insertedTotalSize, phase⟩
  cases phase with
  | getApp =>
      simp only [stepSend]
      cases hg : s.getApp req.appId with
      | none => exact ⟨h, trivial⟩
      | some r =>
          refine ⟨h, fun heq => ?_⟩
          rw [heq, h.unregistered] at hg
          cases hg
  | releaseTicket =>
      simp only [stepSend]
      have h' := h.setHot ({ s.hotStore with ticketManager :=
        (s.hotStore.ticketManager.delete req.ticketId).1 }) (fun e he => .inl he)
      split
      · exact ⟨h', trivial⟩
      · exact ⟨h', ht⟩
  | appInsert =>
      cases pending with
      | nil => exact ⟨h.setHot _ (fun e he => .inl (by simpa using he)), ht⟩
      | cons entry rest =>
          refine ⟨h.setApp _ _, ht, ?_⟩
          rw [App.insertContext_uid]
          exact ht
  | getOrCreate ctx inserted =>
      refine ⟨h.setHot _ (fun e he => ?_), ht⟩
      rcases MemoryStore.getOrCreateMemoryBuffer_state he with he | he
      · exact .inl he
      · exact .inr (he ▸ ht.2)
  | append r ctx inserted => exact ⟨h.setHot _ (fun e he => .inl (by simpa using he)), ht.1⟩
  | trySpill inserted =>
      simp only [stepSend]
      split
      · exact ⟨h.with_lock true, ht, trivial⟩
      · exact ⟨h, ht⟩
  | spilling phase inserted =>
      simp only [stepSend]
      obtain ⟨hs, hnext⟩ := stepSpill_clear conf h ht.2
      split
      · rename_i next hn
        exact ⟨hs, ht.1, hnext next hn⟩
      · exact ⟨hs, ht.1⟩
      · exact ⟨hs, trivial⟩
  | releaseUnused =>
      have hdec := h.setHot (s.hotStore.decAllocated (ticketLen - insertedTotalSize))
        (fun e he => .inl (by simpa using he))
      refine ⟨?_, trivial⟩
      simp only [stepSend]
      split <;> split_ifs <;> assumption

theorem stepRequire_clear {s : Server} {t : RequireTask} (h : StoreClear a s) :
    StoreClear a (stepRequire s t).1 ∧ TaskClear a (stepRequire s t).2 := by
  rcases t with ⟨uid, size, phase⟩
  cases phase with
  | getApp =>
      simp only [stepRequire]
      cases s.getApp uid.appId with
      | none => exact ⟨h, trivial⟩
      | some r =>
          have h' := h.setApp r ((s.app r).heartbeat s.now)
          simp only
          split
          · split <;> exact ⟨h', trivial⟩
          · exact ⟨h', trivial⟩
  | requireAllocated =>
      have h' := h.setHot ((s.hotStore.requireAllocated size).1) (fun e he => .inl (by simpa using he))
      simp only [stepRequire]
      split <;> exact ⟨h', trivial⟩
  | insertTicket ticketId allocatedTimestamp => exact ⟨h.setHot _ (fun e he => .inl he), trivial⟩

theorem appId_ne_of_getApp {s : Server} (h : StoreClear a s) {appId : String} {r : Nat}
    (hg : s.getApp appId = some r) : appId ≠ a := by
  rintro rfl
  rw [h.unregistered] at hg
  cases hg

theorem stepMemRead_clear {s : Server} {t : MemReadTask} (h : StoreClear a s) (ht : TaskClear a (.memRead t)) :
    StoreClear a (stepMemRead s t).1 ∧ TaskClear a (stepMemRead s t).2 := by
  rcases t with ⟨uid, lastBlockId, readBufferSize, taskIds, phase⟩
  cases phase with
  | getApp =>
      simp only [stepMemRead]
      cases hg : s.getApp uid.appId with
      | none => exact ⟨h, trivial⟩
      | some r => exact ⟨h, .inr (appId_ne_of_getApp h hg)⟩
  | getOrCreate r =>
      have hu : uid.appId ≠ a := ht.resolve_left (by simp)
      refine ⟨(h.setApp _ _).setHot _ (fun e he => ?_), trivial⟩
      rcases MemoryStore.getOrCreateMemoryBuffer_state he with he | he
      · exact .inl he
      · exact .inr (he ▸ hu)

theorem stepLocalRead_clear {s : Server} {t : LocalReadTask} (h : StoreClear a s)
    (ht : TaskClear a (.localRead t)) :
    StoreClear a (stepLocalRead conf s t).1 ∧ TaskClear a (stepLocalRead conf s t).2 := by
  rcases t with ⟨uid, index, length, phase⟩
  cases phase with
  | getApp =>
      simp only [stepLocalRead]
      cases hg : s.getApp uid.appId with
      | none => exact ⟨h, trivial⟩
      | some r => exact ⟨h, .inr (appId_ne_of_getApp h hg)⟩
  | containsKey r =>
      have hu : uid.appId ≠ a := ht.resolve_left (by simp)
      simp only [stepLocalRead]
      split
      · exact ⟨h.setApp _ _, trivial⟩
      · exact ⟨h.setApp _ _, .inr hu⟩
  | entry =>
      have hu : uid.appId ≠ a := ht.resolve_left (by simp)
      simp only [stepLocalRead]
      cases hl : s.warmStore.lockEntry conf.getHash uid with
      | error err => exact ⟨h, trivial⟩
      | ok res =>
          refine ⟨h.setWarm (fun e he => ?_), trivial⟩
          rcases LocalFileStore.lockEntry_partitionLocks hl he with he | he
          · exact .inl he
          · exact .inr ⟨uid, hu, he⟩

theorem afterSpill_clear {s : Server} (h : StoreClear a s) {t : HandlerTask}
    (ht : t.message.ctx.uid.appId ≠ a) (res : Except WorkerError Unit) :
    StoreClear a (afterSpill s t res).1 ∧ TaskClear a (afterSpill s t res).2 := by
  obtain ⟨phase, hp⟩ := afterSpill_snd s t res
  rw [afterSpill_fst, hp]
  exact ⟨h, ht⟩

theorem handlerRelease_clear {s : Server} {m : SpillMessage} {dropped : Bool} {phase : ReleasePhase}
    {diskOk : Bool} {res : Server × Task} (h : StoreClear a s) (ht : m.ctx.uid.appId ≠ a)
    (hstep : stepHandler conf s ⟨m, .release dropped phase⟩ diskOk = some res) :
    StoreClear a res.1 ∧ TaskClear a res.2 := by
  cases phase with
  | getOrCreate =>
      simp only [stepHandler, Option.some.injEq] at hstep
      subst hstep
      refine ⟨h.setHot _ (fun e he => ?_), ht⟩
      rcases MemoryStore.getOrCreateMemoryBuffer_state he with he | he
      · exact .inl he
      · exact .inr (he ▸ ht)
  | clear r =>
      simp only [stepHandler, Option.some.injEq] at hstep
      subst hstep
      exact ⟨h.setHot _ (fun e he => .inl (by simpa using he)), ht⟩
  | decUsed =>
      simp only [stepHandler, Option.some.injEq] at hstep
      subst hstep
      exact ⟨h.setHot _ (fun e he => .inl (by simpa using he)), ht⟩
  | decInflight =>
      simp only [stepHandler, Option.some.injEq] at hstep
      subst hstep
      exact ⟨h.setHot _ (fun e he => .inl (by simpa using he)), ht⟩
  | decSpillEventNum =>
      simp only [stepHandler, Option.some.injEq] at hstep
      subst hstep
      exact ⟨⟨h.unregistered, h.noBuffer, h.noLock, h.noMessage⟩, trivial⟩

theorem stepHandler_clear {s : Server} {t : HandlerTask} {diskOk : Bool} {res : Server × Task}
    (h : StoreClear a s) (ht : t.message.ctx.uid.appId ≠ a) (hstep : stepHandler conf s t diskOk = some res) :
    StoreClear a res.1 ∧ TaskClear a res.2 := by
  rcases t with ⟨m, phase⟩
  simp only at ht
  cases phase with
  | start =>
      simp only [stepHandler] at hstep
      split at hstep
      · cases hstep
        exact afterSpill_clear h ht _
      · cases hl : s.warmStore.lockEntry conf.getHash m.ctx.uid with
        | error err =>
            rw [hl] at hstep
            cases hstep
            exact afterSpill_clear h ht _
        | ok r =>
            rw [hl] at hstep
            cases hstep
            refine ⟨h.setWarm (fun e he => ?_), ht⟩
            rcases LocalFileStore.lockEntry_partitionLocks hl he with he | he
            · exact .inl he
            · exact .inr ⟨m.ctx.uid, ht, he⟩
  | lock obj parentDirIsCreated =>
      simp only [stepHandler] at hstep
      split_ifs at hstep
      · cases hstep
        exact afterSpill_clear h ht _
      · cases hstep
        exact afterSpill_clear h ht _
      · cases hstep
        exact ⟨h.setWarm (fun e he => .inl (by simpa using he)), ht⟩
  | appendData obj nextOffset index data =>
      simp only [stepHandler] at hstep
      split_ifs at hstep
      · cases hstep
        exact ⟨h.setWarm (fun e he => .inl (by simpa using he)), ht⟩
      · cases hstep
        exact afterSpill_clear (h.setWarm (fun e he => .inl (by simpa using he))) ht _
  | appendIndex obj nextOffset index =>
      simp only [stepHandler] at hstep
      cases hstep
      refine afterSpill_clear (h.setWarm (fun e he => .inl ?_)) ht _
      split_ifs at he <;> simpa using he
  | release dropped phase => exact handlerRelease_clear conf h ht hstep
  | republish =>
      simp only [stepHandler, Option.some.injEq] at hstep
      subst hstep
      refine ⟨⟨h.unregistered, h.noBuffer, h.noLock, ?_⟩, ht⟩
      simp only [List.mem_append, List.mem_singleton]
      rintro m' (hm | rfl)
      · exact h.noMessage m' hm
      · exact ht
  | incSpillEventNum =>
      simp only [stepHandler, Option.some.injEq] at hstep
      subst hstep
      exact ⟨⟨h.unregistered, h.noBuffer, h.noLock, h.noMessage⟩, trivial⟩

theorem stepPurge_clear {s s' : Server} (h : StoreClear a s) (hstep : stepPurge s = some s') :
    StoreClear a s' ∧ s'.tasks = s.tasks := by
  rcases stepPurge_cases hstep with
    ⟨event, rest, -, -, ⟨-, rfl⟩ | ⟨-, rfl⟩⟩ | ⟨ctx, pid, rest, used, -, rfl⟩ | ⟨ctx, used, -, rfl⟩ |
    ⟨ctx, i, -, ⟨-, rfl⟩ | ⟨-, rfl⟩⟩ | ⟨ctx, key, rest, size, -, ⟨obj, -, rfl⟩ | ⟨-, rfl⟩⟩ |
    ⟨ctx, size, -, rfl⟩ | ⟨ctx, obj, rest, size, -, -, rfl⟩
  · exact ⟨⟨h.unregistered, h.noBuffer, h.noLock, h.noMessage⟩, rfl⟩
  · exact ⟨⟨h.unregistered, h.noBuffer, h.noLock, h.noMessage⟩, rfl⟩
  · exact ⟨⟨h.unregistered, fun e he => h.noBuffer e (MemoryStore.removeEntry_state he), h.noLock,
      h.noMessage⟩, rfl⟩
  · exact ⟨⟨h.unregistered, by simpa using h.noBuffer, h.noLock, h.noMessage⟩, rfl⟩
  · exact ⟨⟨h.unregistered, h.noBuffer, by simpa using h.noLock, h.noMessage⟩, rfl⟩
  · exact ⟨⟨h.unregistered, h.noBuffer, h.noLock, h.noMessage⟩, rfl⟩
  · exact ⟨⟨h.unregistered, h.noBuffer,
      fun e he => h.noLock e (LocalFileStore.removeKey_partitionLocks he), h.noMessage⟩, rfl⟩
  · exact ⟨⟨h.unregistered, h.noBuffer,
      fun e he => h.noLock e (LocalFileStore.removeKey_partitionLocks he), h.noMessage⟩, rfl⟩
  · refine ⟨⟨?_, h.noBuffer, h.noLock, h.noMessage⟩, rfl⟩
    have hu : Assoc.find? a s.apps = none := h.unregistered
    show Assoc.find? a (if ctx.shuffleId.isNone then Assoc.erase ctx.appId s.apps else s.apps) = none
    split
    · exact Assoc.find?_erase_of_none hu ctx.appId
    · exact hu
  · exact ⟨⟨h.unregistered, h.noBuffer, h.noLock, h.noMessage⟩, rfl⟩

theorem stepTask_clear {s : Server} {t : Task} {diskOk : Bool} {res : Server × Task}
    (h : StoreClear a s) (ht : TaskClear a t) (hstep : stepTask conf s t diskOk = some res) :
    StoreClear a res.1 ∧ TaskClear a res.2 := by
  cases t with
  | send t => cases hstep; exact stepSend_clear conf h ht
  | require t => cases hstep; exact stepRequire_clear h
  | memRead t => cases hstep; exact stepMemRead_clear h ht
  | localRead t => cases hstep; exact stepLocalRead_clear conf h ht
  | handler t => exact stepHandler_clear conf h ht hstep
  | done => cases hstep

theorem Purged.spawn {s : Server} (h : StoreClear a s) (ht : ∀ u ∈ s.tasks, TaskClear a u) {t : Task}
    (hnew : TaskClear a t) : Purged a (s.spawn t) where
  toStoreClear := ⟨h.unregistered, h.noBuffer, h.noLock, h.noMessage⟩
  tasksClear u hu := by
    rcases List.mem_append.mp hu with hu | hu
    · exact ht u hu
    · rw [List.mem_singleton.mp hu]
      exact hnew

theorem handleRequest_purged {s : Server} {r : Request} (h : Purged a s)
    (hr : ∀ sid, r ≠ .registerShuffle a sid) : Purged a (handleRequest conf s r) := by
  have hs := h.toStoreClear
  cases r with
  | registerShuffle appId shuffleId =>
      have hne : appId ≠ a := fun he => hr shuffleId (by rw [he])
      refine ⟨⟨?_, hs.noBuffer, hs.noLock, hs.noMessage⟩, h.tasksClear⟩
      have hu : Assoc.find? a s.apps = none := hs.unregistered
      show Assoc.find? a (registerApp s.apps s.appHeap conf.app appId s.now).1 = none
      unfold registerApp
      split
      · exact hu
      · exact Assoc.find?_append_of_none hu hne _
  | unregisterShuffle appId shuffleId =>
      exact ⟨⟨hs.unregistered, hs.noBuffer, hs.noLock, hs.noMessage⟩, h.tasksClear⟩
  | unregisterApp appId => exact ⟨⟨hs.unregistered, hs.noBuffer, hs.noLock, hs.noMessage⟩, h.tasksClear⟩
  | appHeartbeat appId =>
      simp only [handleRequest]
      split
      · exact ⟨hs.setApp _ _, h.tasksClear⟩
      · exact h
  | requireBuffer appId shuffleId size => exact Purged.spawn hs h.tasksClear trivial
  | sendShuffleData req => exact Purged.spawn hs h.tasksClear trivial
  | getMemoryShuffleData uid lastBlockId readBufferSize taskIds =>
      exact Purged.spawn hs h.tasksClear (.inl rfl)
  | getLocalShuffleData uid offset length => exact Purged.spawn hs h.tasksClear (.inl rfl)
  | getLocalShuffleIndex uid => exact Purged.spawn hs h.tasksClear (.inl rfl)

theorem exec_purged {s s' : Server} {act : Action} (h : Purged a s)
    (hact : ∀ sid, act ≠ .request (.registerShuffle a sid)) (hexec : exec conf s act = some s') :
    Purged a s' := by
  have hs := h.toStoreClear
  cases act with
  | request r =>
      cases hexec
      exact handleRequest_purged conf h (fun sid hr => hact sid (by rw [hr]))
  | advance i diskOk =>
      obtain ⟨t, res, hi, hres, rfl⟩ := exec_advance_cases conf hexec
      obtain ⟨hc, hn⟩ := stepTask_clear conf hs (h.tasksClear t (List.mem_of_getElem? hi)) hres
      refine ⟨⟨hc.unregistered, hc.noBuffer, hc.noLock, hc.noMessage⟩, fun u hu => ?_⟩
      rcases mem_setTask_of_step conf hres hu with hu | rfl
      · exact h.tasksClear u hu
      · exact hn
  | dispatch =>
      obtain ⟨message, rest, hq, rfl⟩ := exec_dispatch_cases conf hexec
      have hm : ∀ m ∈ message :: rest, m.ctx.uid.appId ≠ a := hq ▸ hs.noMessage
      refine Purged.spawn (s := { s with eventQueue := rest })
        ⟨hs.unregistered, hs.noBuffer, hs.noLock, ?_⟩ h.tasksClear ?_
      · exact fun m hm' => hm m (List.mem_cons_of_mem _ hm')
      · exact hm message List.mem_cons_self
  | purge =>
      obtain ⟨hc, ht⟩ := stepPurge_clear hs hexec
      exact ⟨hc, ht ▸ h.tasksClear⟩
  | ticketCheck =>
      cases hexec
      unfold stepTicketCheck
      split
      · exact ⟨⟨hs.unregistered, hs.noBuffer, hs.noLock, hs.noMessage⟩, h.tasksClear⟩
      · exact ⟨⟨hs.unregistered, by split_ifs <;> simpa using hs.noBuffer, hs.noLock, hs.noMessage⟩,
          h.tasksClear⟩
  | heartbeatCheck => cases hexec; exact ⟨⟨hs.unregistered, hs.noBuffer, hs.noLock, hs.noMessage⟩, h.tasksClear⟩
  | tick => cases hexec; exact ⟨⟨hs.unregistered, hs.noBuffer, hs.noLock, hs.noMessage⟩, h.tasksClear⟩
  | markCorrupted i => cases hexec; exact ⟨⟨hs.unregistered, hs.noBuffer, hs.noLock, hs.noMessage⟩, h.tasksClear⟩
  | markUnhealthy i => cases hexec; exact ⟨⟨hs.unregistered, hs.noBuffer, hs.noLock, hs.noMessage⟩, h.tasksClear⟩
  | markHealthy i => cases hexec; exact ⟨⟨hs.unregistered, hs.noBuffer, hs.noLock, hs.noMessage⟩, h.tasksClear⟩

end Clear

def KeepsUnregistered (a : String) (_ : Server) (act : Action) : Prop :=
  ∀ shuffleId, act ≠ .request (.registerShuffle a shuffleId)

theorem purged_app_not_recreated (a : String) {s t : Server} (hs : Purged a s)
    (h : Reach (exec conf) (KeepsUnregistered a) s t) :
    t.getApp a = none ∧ (∀ e ∈ t.hotStore.state, e.1.appId ≠ a) ∧
      ∀ e ∈ t.warmStore.partitionLocks, ∀ uid : PartitionedUId, uid.appId = a →
        e.1 ≠ (genRelativePathForPartition uid).1 := by
  have ht : Purged a t := reach_invariant (fun _ _ _ hp ha he => exec_purged conf hp ha he) hs h
  exact ⟨ht.unregistered, ht.noBuffer, ht.noLock⟩

def readAcrossPurge : List Action :=
  [.request (.registerShuffle "a" 0), .request (.getMemoryShuffleData ⟨"a", 0, 0⟩ (-1) 10 none),
   .advance 0 true, .request (.unregisterApp "a")] ++ List.replicate 5 .purge ++ [.advance 0 true]

theorem read_after_purge_recreates_buffer :
    ∃ s, Reach (exec smallConf) Always (init smallConf) s ∧ s.getApp "a" = none ∧
      s.purging = none ∧ s.purgeChannel = [] ∧ Quiet s ∧
      (Assoc.find? ⟨"a", 0, 0⟩ s.hotStore.state).isSome :=
  reach_of_endsIn (fun _ _ _ => trivial)
    (show EndsIn (exec smallConf) (init smallConf) readAcrossPurge _ by decide +kernel)

def purgeA : List Action :=
  [.request (.registerShuffle "a" 0), .request (.unregisterApp "a")] ++ List.replicate 5 .purge

def purgedA : Server := (run (exec smallConf) (init smallConf) purgeA).getD (init smallConf)

theorem purgedA_purged : Purged "a" purgedA := by
  have hlocks : purgedA.warmStore.partitionLocks = [] := by decide +kernel
  have htasks : purgedA.tasks = [] := by decide +kernel
  refine ⟨⟨by decide +kernel, by decide +kernel, ?_, by decide +kernel⟩, ?_⟩
  · simp [hlocks]
  · simp [htasks]

def sendB : List Action :=
  [.request (.registerShuffle "b" 0), .request (.requireBuffer "b" 0 10)] ++ advanceAll 0 3 ++
  [.request (.sendShuffleData ⟨.grpc, "b", 0, 1, [(0, [tenBytes])]⟩)] ++ advanceAll 1 8 ++
  [.request (.requireBuffer "b" 0 10)] ++ advanceAll 2 3 ++
  [.request (.sendShuffleData ⟨.grpc, "b", 0, 2, [(1, [tenBytes])]⟩)] ++ advanceAll 3 14 ++
  [.dispatch] ++ advanceAll 4 9

def sentB : Server := (run (exec smallConf) purgedA sendB).getD purgedA

theorem purgedA_not_recreated_by_b :
    sentB.getApp "a" = none ∧ (∀ e ∈ sentB.hotStore.state, e.1.appId ≠ "a") ∧
      ∀ e ∈ sentB.warmStore.partitionLocks, ∀ uid : PartitionedUId, uid.appId = "a" →
        e.1 ≠ (genRelativePathForPartition uid).1 :=
  purged_app_not_recreated smallConf "a" purgedA_purged
    (reach_of_run (fun act hact _ sid heq => by subst heq; simp [sendB, advanceAll] at hact)
      (show run (exec smallConf) purgedA sendB = some sentB by decide +kernel))

def lateHeartbeat : List Action :=
  [.request (.registerShuffle "a" 0)] ++ List.replicate 301 .tick ++
  [.heartbeatCheck, .request (.appHeartbeat "a")]

theorem stale_timeout_purges_live_app :
    ∃ s, Reach (exec smallConf) Always (init smallConf) s ∧
      s.purgeChannel = [.heartbeatTimeout "a"] ∧ s.getApp "a" = some 0 ∧
      heartbeatTimedOut smallConf.app s.now (s.app 0) = false ∧
      ∃ t, run (exec smallConf) s (List.replicate 5 .purge) = some t ∧ t.getApp "a" = none := by
  have h : EndsIn (exec smallConf) (init smallConf) lateHeartbeat (fun s =>
      s.purgeChannel = [.heartbeatTimeout "a"] ∧ s.getApp "a" = some 0 ∧
        heartbeatTimedOut smallConf.app s.now (s.app 0) = false ∧
        EndsIn (exec smallConf) s (List.replicate 5 .purge) (fun t => t.getApp "a" = none)) := by
    decide +kernel
  obtain ⟨s, hs, hchannel, happ, hlive, t, hrun, hgone⟩ := reach_of_endsIn (fun _ _ _ => trivial) h
  exact ⟨s, hs, hchannel, happ, hlive, t, hrun, hgone⟩

end Rifflex.Server
