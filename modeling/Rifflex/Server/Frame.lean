import Rifflex.Server.Exec

namespace Rifflex

def Task.isHandler : Task → Bool
  | .handler _ => true
  | _ => false

def Server.control (s : Server) : List Task × Option (PurgeDataContext × PurgePhase) × Option Int :=
  (s.tasks, s.purging, s.ticketCheck)

end Rifflex

namespace Rifflex.Server

variable (conf : ServerConfig)

@[simp] theorem setHot_apps (s : Server) (hot : MemoryStore) : (s.setHot hot).apps = s.apps := rfl
@[simp] theorem setHot_warmStore (s : Server) (hot : MemoryStore) : (s.setHot hot).warmStore = s.warmStore := rfl
@[simp] theorem setHot_eventQueue (s : Server) (hot : MemoryStore) : (s.setHot hot).eventQueue = s.eventQueue := rfl
@[simp] theorem setHot_tasks (s : Server) (hot : MemoryStore) : (s.setHot hot).tasks = s.tasks := rfl
@[simp] theorem setHot_hotStore (s : Server) (hot : MemoryStore) : (s.setHot hot).hotStore = hot := rfl
@[simp] theorem setWarm_apps (s : Server) (warm : LocalFileStore) : (s.setWarm warm).apps = s.apps := rfl
@[simp] theorem setWarm_hotStore (s : Server) (warm : LocalFileStore) : (s.setWarm warm).hotStore = s.hotStore := rfl
@[simp] theorem setWarm_eventQueue (s : Server) (warm : LocalFileStore) : (s.setWarm warm).eventQueue = s.eventQueue := rfl
@[simp] theorem setWarm_tasks (s : Server) (warm : LocalFileStore) : (s.setWarm warm).tasks = s.tasks := rfl
@[simp] theorem setWarm_warmStore (s : Server) (warm : LocalFileStore) : (s.setWarm warm).warmStore = warm := rfl
@[simp] theorem setApp_apps (s : Server) (r : Nat) (a : App) : (s.setApp r a).apps = s.apps := rfl
@[simp] theorem setApp_hotStore (s : Server) (r : Nat) (a : App) : (s.setApp r a).hotStore = s.hotStore := rfl
@[simp] theorem setApp_warmStore (s : Server) (r : Nat) (a : App) : (s.setApp r a).warmStore = s.warmStore := rfl
@[simp] theorem setApp_eventQueue (s : Server) (r : Nat) (a : App) : (s.setApp r a).eventQueue = s.eventQueue := rfl
@[simp] theorem setApp_tasks (s : Server) (r : Nat) (a : App) : (s.setApp r a).tasks = s.tasks := rfl
@[simp] theorem setApp_getApp (s : Server) (r : Nat) (a : App) (appId : String) :
    (s.setApp r a).getApp appId = s.getApp appId := rfl

theorem afterSpill_fst (s : Server) (t : HandlerTask) (res : Except WorkerError Unit) :
    (afterSpill s t res).1 = s := by
  unfold afterSpill
  split <;> rfl

theorem afterSpill_snd (s : Server) (t : HandlerTask) (res : Except WorkerError Unit) :
    ∃ phase, (afterSpill s t res).2 = .handler { t with phase := phase } := by
  unfold afterSpill
  split <;> exact ⟨_, rfl⟩

theorem stepSpill_frame (s : Server) (phase : SpillPhase) :
    (stepSpill conf s phase).1.control = s.control ∧ (stepSpill conf s phase).1.warmStore = s.warmStore := by
  cases phase with
  | pickup => simp only [stepSpill]; split <;> exact ⟨rfl, rfl⟩
  | lookup candidates => simp only [stepSpill]; split <;> exact ⟨rfl, rfl⟩
  | spill buffers flushedSize => cases buffers <;> exact ⟨rfl, rfl⟩
  | publish message buffers flushedSize => exact ⟨rfl, rfl⟩
  | incEventNum buffers flushedSize => exact ⟨rfl, rfl⟩

theorem stepSend_frame (s : Server) (t : SendTask) :
    (stepSend conf s t).1.control = s.control ∧ (stepSend conf s t).1.warmStore = s.warmStore ∧
      (stepSend conf s t).2.isHandler = false := by
  rcases t with ⟨req, app, ticketLen, pending, insertedTotalSize, phase⟩
  cases phase with
  | getApp => simp only [stepSend]; split <;> exact ⟨rfl, rfl, rfl⟩
  | releaseTicket => simp only [stepSend]; split <;> exact ⟨rfl, rfl, rfl⟩
  | appInsert => cases pending <;> exact ⟨rfl, rfl, rfl⟩
  | spilling phase inserted =>
      obtain ⟨ht, hw⟩ := stepSpill_frame conf s phase
      simp only [stepSend]
      split <;> exact ⟨ht, hw, rfl⟩
  | trySpill inserted => simp only [stepSend]; split <;> exact ⟨rfl, rfl, rfl⟩
  | releaseUnused => simp only [stepSend]; split <;> split_ifs <;> exact ⟨rfl, rfl, rfl⟩
  | _ => exact ⟨rfl, rfl, rfl⟩

theorem stepRequire_frame (s : Server) (t : RequireTask) :
    (stepRequire s t).1.control = s.control ∧ (stepRequire s t).1.warmStore = s.warmStore ∧
      (stepRequire s t).2.isHandler = false := by
  rcases t with ⟨uid, size, phase⟩
  cases phase with
  | getApp =>
      simp only [stepRequire]
      split
      · exact ⟨rfl, rfl, rfl⟩
      · split
        · split <;> exact ⟨rfl, rfl, rfl⟩
        · exact ⟨rfl, rfl, rfl⟩
  | requireAllocated => simp only [stepRequire]; split <;> exact ⟨rfl, rfl, rfl⟩
  | insertTicket => exact ⟨rfl, rfl, rfl⟩

theorem stepMemRead_frame (s : Server) (t : MemReadTask) :
    (stepMemRead s t).1.control = s.control ∧ (stepMemRead s t).1.warmStore = s.warmStore ∧
      (stepMemRead s t).2.isHandler = false := by
  rcases t with ⟨uid, lastBlockId, readBufferSize, taskIds, phase⟩
  cases phase with
  | getApp => simp only [stepMemRead]; split <;> exact ⟨rfl, rfl, rfl⟩
  | getOrCreate r => exact ⟨rfl, rfl, rfl⟩

theorem stepLocalRead_frame (s : Server) (t : LocalReadTask) :
    (stepLocalRead conf s t).1.control = s.control ∧ (stepLocalRead conf s t).2.isHandler = false ∧
      ((stepLocalRead conf s t).1.warmStore = s.warmStore ∨
        ∃ res, s.warmStore.lockEntry conf.getHash t.uid = .ok res ∧
          (stepLocalRead conf s t).1.warmStore = res.1) := by
  rcases t with ⟨uid, index, length, phase⟩
  cases phase with
  | getApp => simp only [stepLocalRead]; split <;> exact ⟨rfl, rfl, .inl rfl⟩
  | containsKey r => simp only [stepLocalRead]; split <;> exact ⟨rfl, rfl, .inl rfl⟩
  | entry =>
      simp only [stepLocalRead]
      split
      · rename_i res hres
        exact ⟨rfl, rfl, .inr ⟨res, hres, rfl⟩⟩
      · exact ⟨rfl, rfl, .inl rfl⟩

theorem stepHandler_control {s : Server} {t : HandlerTask} {diskOk : Bool} {res : Server × Task}
    (h : stepHandler conf s t diskOk = some res) : res.1.control = s.control := by
  rcases t with ⟨m, phase⟩
  cases phase with
  | start =>
      simp only [stepHandler] at h
      split at h
      · cases h; rw [afterSpill_fst]
      · split at h <;> cases h
        · rw [afterSpill_fst]
        · rfl
  | lock obj p =>
      simp only [stepHandler] at h
      split_ifs at h <;> cases h <;> rfl
  | appendData obj nextOffset index data =>
      simp only [stepHandler] at h
      split_ifs at h <;> cases h <;> rfl
  | appendIndex obj nextOffset index =>
      simp only [stepHandler] at h
      cases h
      rw [afterSpill_fst]
      rfl
  | release dropped phase =>
      cases phase <;> simp only [stepHandler, Option.some.injEq] at h <;> subst h <;> rfl
  | republish => simp only [stepHandler, Option.some.injEq] at h; subst h; rfl
  | incSpillEventNum => simp only [stepHandler, Option.some.injEq] at h; subst h; rfl

theorem stepTask_control {s : Server} {t : Task} {diskOk : Bool} {res : Server × Task}
    (h : stepTask conf s t diskOk = some res) : res.1.control = s.control := by
  cases t with
  | send t => cases h; exact (stepSend_frame conf s t).1
  | require t => cases h; exact (stepRequire_frame s t).1
  | memRead t => cases h; exact (stepMemRead_frame s t).1
  | localRead t => cases h; exact (stepLocalRead_frame conf s t).1
  | handler t => exact stepHandler_control conf h
  | done => cases h

theorem stepTask_tasks {s : Server} {t : Task} {diskOk : Bool} {res : Server × Task}
    (h : stepTask conf s t diskOk = some res) : res.1.tasks = s.tasks :=
  congrArg Prod.fst (stepTask_control conf h)

theorem mem_setTask_of_step {s : Server} {t : Task} {diskOk : Bool} {res : Server × Task} {i : Nat}
    (h : stepTask conf s t diskOk = some res) {u : Task} (hu : u ∈ (res.1.setTask i res.2).tasks) :
    u ∈ s.tasks ∨ u = res.2 := by
  rcases List.mem_or_eq_of_mem_set hu with hu | rfl
  · exact .inl (stepTask_tasks conf h ▸ hu)
  · exact .inr rfl

theorem exec_advance_cases {s s' : Server} {i : Nat} {diskOk : Bool}
    (h : exec conf s (.advance i diskOk) = some s') :
    ∃ t res, s.tasks[i]? = some t ∧ stepTask conf s t diskOk = some res ∧ s' = res.1.setTask i res.2 := by
  cases hi : s.tasks[i]? with
  | none => simp [exec, hi] at h
  | some t =>
      simp only [exec, hi, Option.map_eq_some_iff] at h
      obtain ⟨res, hres, rfl⟩ := h
      exact ⟨t, res, rfl, hres, rfl⟩

theorem exec_dispatch_cases {s s' : Server} (h : exec conf s .dispatch = some s') :
    ∃ message rest, s.eventQueue = message :: rest ∧
      s' = Server.spawn { s with eventQueue := rest } (.handler ⟨message, .start⟩) := by
  cases hq : s.eventQueue with
  | nil => simp [exec, hq] at h
  | cons message rest =>
      simp only [exec, hq] at h
      split_ifs at h
      exact ⟨message, rest, rfl, (Option.some.inj h).symm⟩

theorem stepPurge_cases {s s' : Server} (h : stepPurge s = some s') :
    (∃ event rest, s.purging = none ∧ s.purgeChannel = event :: rest ∧
      (s.getApp (PurgeDataContext.ofEvent event).appId = none ∧ s' = { s with purgeChannel := rest } ∨
       (s.getApp (PurgeDataContext.ofEvent event).appId).isSome ∧
        s' = { s with purgeChannel := rest, purging := some (PurgeDataContext.ofEvent event,
          .memRemove (s.hotStore.purgeSnapshot (PurgeDataContext.ofEvent event).appId
            (PurgeDataContext.ofEvent event).shuffleId) 0) })) ∨
    (∃ ctx pid rest used, s.purging = some (ctx, .memRemove (pid :: rest) used) ∧
      s' = { s with hotStore := (s.hotStore.removeEntry pid).1,
                    purging := some (ctx, .memRemove rest (used + (s.hotStore.removeEntry pid).2)) }) ∨
    (∃ ctx used, s.purging = some (ctx, .memRemove [] used) ∧
      s' = { s with hotStore := s.hotStore.decUsed used, purging := some (ctx, .diskDelete 0) }) ∨
    (∃ ctx i, s.purging = some (ctx, .diskDelete i) ∧
      (i < s.warmStore.localDisks.length ∧
        s' = { s with warmStore := s.warmStore.setDisk i ((s.warmStore.disk i).delete
                        (LocalFileStore.purgeDir ctx.appId ctx.shuffleId)),
                      purging := some (ctx, .diskDelete (i + 1)) } ∨
       s.warmStore.localDisks.length ≤ i ∧
        s' = { s with purging := some (ctx, .localRemove (s.warmStore.keysToDelete
                        (LocalFileStore.purgeDir ctx.appId ctx.shuffleId)) 0) })) ∨
    (∃ ctx key rest size, s.purging = some (ctx, .localRemove (key :: rest) size) ∧
      ((∃ obj, (s.warmStore.removeKey key).2 = some obj ∧
        s' = { s with warmStore := (s.warmStore.removeKey key).1, purging := some (ctx, .localWait obj rest size) }) ∨
       (s.warmStore.removeKey key).2 = none ∧
        s' = { s with warmStore := (s.warmStore.removeKey key).1, purging := some (ctx, .localRemove rest size) })) ∨
    (∃ ctx size, s.purging = some (ctx, .localRemove [] size) ∧
      s' = { s with apps := if ctx.shuffleId.isNone then Assoc.erase ctx.appId s.apps else s.apps,
                    purging := none }) ∨
    (∃ ctx obj rest size, s.purging = some (ctx, .localWait obj rest size) ∧
      (s.warmStore.lockedObj obj).locked = false ∧
      s' = { s with purging := some (ctx, .localRemove rest (size + (s.warmStore.lockedObj obj).pointer)) }) := by
  rcases hp : s.purging with _ | ⟨ctx, phase⟩
  · cases hc : s.purgeChannel with
    | nil => simp [stepPurge, hp, hc] at h
    | cons event rest =>
        refine .inl ⟨event, rest, rfl, rfl, ?_⟩
        cases hg : s.getApp (PurgeDataContext.ofEvent event).appId with
        | none =>
            simp only [stepPurge, hp, hc, getApp] at h hg
            simp only [hg, Option.some.injEq] at h
            exact .inl ⟨rfl, h.symm⟩
        | some r =>
            simp only [stepPurge, hp, hc, getApp] at h hg
            simp only [hg, Option.some.injEq] at h
            exact .inr ⟨rfl, h.symm⟩
  · cases phase with
    | memRemove pids used =>
        cases pids with
        | cons pid rest =>
            simp only [stepPurge, hp, Option.some.injEq] at h
            exact .inr (.inl ⟨ctx, pid, rest, used, rfl, h.symm⟩)
        | nil =>
            simp only [stepPurge, hp, Option.some.injEq] at h
            exact .inr (.inr (.inl ⟨ctx, used, rfl, h.symm⟩))
    | diskDelete i =>
        simp only [stepPurge, hp] at h
        refine .inr (.inr (.inr (.inl ⟨ctx, i, rfl, ?_⟩)))
        split_ifs at h with hi
        · exact .inl ⟨hi, (Option.some.inj h).symm⟩
        · exact .inr ⟨by omega, (Option.some.inj h).symm⟩
    | localRemove keys size =>
        cases keys with
        | cons key rest =>
            simp only [stepPurge, hp] at h
            refine .inr (.inr (.inr (.inr (.inl ⟨ctx, key, rest, size, rfl, ?_⟩))))
            cases hk : (s.warmStore.removeKey key).2 with
            | some obj =>
                simp only [hk, Option.some.injEq] at h
                exact .inl ⟨obj, rfl, h.symm⟩
            | none =>
                simp only [hk, Option.some.injEq] at h
                exact .inr ⟨rfl, h.symm⟩
        | nil =>
            simp only [stepPurge, hp, Option.some.injEq] at h
            exact .inr (.inr (.inr (.inr (.inr (.inl ⟨ctx, size, rfl, h.symm⟩)))))
    | localWait obj rest size =>
        simp only [stepPurge, hp] at h
        split_ifs at h with hl
        refine .inr (.inr (.inr (.inr (.inr (.inr ⟨ctx, obj, rest, size, rfl, ?_, (Option.some.inj h).symm⟩)))))
        simpa using hl

theorem stepPurge_tasks_lock {s s' : Server} (h : stepPurge s = some s') :
    s'.tasks = s.tasks ∧ s'.memorySpillLock = s.memorySpillLock := by
  rcases stepPurge_cases h with
    ⟨event, rest, -, -, ⟨-, rfl⟩ | ⟨-, rfl⟩⟩ | ⟨ctx, pid, rest, used, -, rfl⟩ | ⟨ctx, used, -, rfl⟩ |
    ⟨ctx, i, -, ⟨-, rfl⟩ | ⟨-, rfl⟩⟩ | ⟨ctx, key, rest, size, -, ⟨obj, -, rfl⟩ | ⟨-, rfl⟩⟩ |
    ⟨ctx, size, -, rfl⟩ | ⟨ctx, obj, rest, size, -, -, rfl⟩
  all_goals exact ⟨rfl, rfl⟩

end Rifflex.Server
