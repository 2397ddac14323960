import Rifflex.Server.Frame
import Rifflex.Lib.Transition

namespace Rifflex

open Mem

def BatchesSatisfy (P : Block → Prop) (m : List (Int × List Block)) : Prop := ∀ e ∈ m, ∀ b ∈ e.2, P b

theorem BatchesSatisfy.insert {P : Block → Prop} {m : List (Int × List Block)} (h : BatchesSatisfy P m)
    (k : Int) {v : List Block} (hv : ∀ b ∈ v, P b) : BatchesSatisfy P (Assoc.insert k v m) := by
  intro e he b hb
  rcases Assoc.mem_insert he with he | rfl
  · exact h e he b hb
  · exact hv b hb

theorem BatchesSatisfy.find? {P : Block → Prop} {m : List (Int × List Block)} (h : BatchesSatisfy P m)
    (k : Int) : ∀ b ∈ (Assoc.find? k m).getD [], P b := by
  intro b hb
  cases hf : Assoc.find? k m with
  | none => simp [hf] at hb
  | some v =>
      rw [hf, Option.getD_some] at hb
      exact h _ (Assoc.mem_of_find? hf) b hb

theorem BatchesSatisfy.foldl {P : Block → Prop} {f : List (Int × List Block) → Int × List Block →
      List (Int × List Block)}
    (hf : ∀ m d, BatchesSatisfy P m → (∀ b ∈ d.2, P b) → BatchesSatisfy P (f m d)) :
    ∀ (data : List (Int × List Block)) (m : List (Int × List Block)), BatchesSatisfy P m →
      BatchesSatisfy P data → BatchesSatisfy P (data.foldl f m)
  | [], _, hm, _ => hm
  | d :: rest, m, hm, hd =>
      BatchesSatisfy.foldl hf rest (f m d) (hf m d hm (hd d List.mem_cons_self))
        (fun e he => hd e (List.mem_cons_of_mem _ he))

theorem SendRequest.blocksMap_satisfy {P : Block → Prop} (req : SendRequest)
    (h : BatchesSatisfy P req.shuffleData) : BatchesSatisfy P req.blocksMap := by
  have hnil : BatchesSatisfy P [] := fun _ he => absurd he (List.not_mem_nil)
  unfold SendRequest.blocksMap
  split
  · refine BatchesSatisfy.foldl (fun m d hm hd => hm.insert d.1 (fun b hb => ?_)) _ _ hnil h
    rcases List.mem_append.mp hb with hb | hb
    · exact hm.find? d.1 b hb
    · exact hd b hb
  · exact BatchesSatisfy.foldl (fun m d hm hd => hm.insert d.1 hd) _ _ hnil h

def SpillPhase.blocks : SpillPhase → List Block
  | .publish message _ _ => message.ctx.dataBlocks.flatten
  | _ => []

def SendTask.phaseBlocks (t : SendTask) : List Block :=
  match t.phase with
  | .getOrCreate ctx _ => ctx.dataBlocks
  | .append _ ctx _ => ctx.dataBlocks
  | .spilling phase _ => phase.blocks
  | _ => []

def Task.BlocksSatisfy (P : Block → Prop) : Task → Prop
  | .send t => BatchesSatisfy P t.req.shuffleData ∧ BatchesSatisfy P t.pending ∧ ∀ b ∈ t.phaseBlocks, P b
  | .handler t => ∀ b ∈ t.message.ctx.dataBlocks.flatten, P b
  | _ => True

end Rifflex

namespace Rifflex.Server

open Mem Transition

variable (conf : ServerConfig)

section Blocks

variable {P : Block → Prop}

structure StoreSatisfies (P : Block → Prop) (s : Server) : Prop where
  buffers : s.hotStore.BuffersSatisfy P
  queue : ∀ m ∈ s.eventQueue, ∀ b ∈ m.ctx.dataBlocks.flatten, P b

structure BlocksSatisfy (P : Block → Prop) (s : Server) : Prop extends StoreSatisfies P s where
  tasks : ∀ t ∈ s.tasks, t.BlocksSatisfy P

theorem StoreSatisfies.setHot {s : Server} (h : StoreSatisfies P s) {hot : MemoryStore}
    (hb : hot.BuffersSatisfy P) : StoreSatisfies P (s.setHot hot) :=
  ⟨hb, h.queue⟩

theorem stepSpill_satisfies {s : Server} {phase : SpillPhase} (h : StoreSatisfies P s)
    (hp : ∀ b ∈ phase.blocks, P b) :
    StoreSatisfies P (stepSpill conf s phase).1 ∧
      ∀ next, (stepSpill conf s phase).2 = .next next → ∀ b ∈ next.blocks, P b := by
  cases phase with
  | pickup =>
      simp only [stepSpill]
      split
      · exact ⟨⟨h.buffers, h.queue⟩, by simp⟩
      · exact ⟨h, by rintro next ⟨⟩; simp [SpillPhase.blocks]⟩
  | lookup candidates =>
      simp only [stepSpill]
      split
      · exact ⟨⟨h.buffers, h.queue⟩, by simp⟩
      · exact ⟨h, by rintro next ⟨⟩; simp [SpillPhase.blocks]⟩
  | spill buffers flushedSize =>
      cases buffers with
      | nil => exact ⟨⟨h.buffers, h.queue⟩, by simp [stepSpill]⟩
      | cons entry rest =>
          obtain ⟨hbuf, hres⟩ := h.buffers.spill entry.2
          refine ⟨h.setHot hbuf, ?_⟩
          rintro next ⟨⟩
          exact hres
  | publish message buffers flushedSize =>
      refine ⟨⟨h.buffers, ?_⟩, by rintro next ⟨⟩; simp [SpillPhase.blocks]⟩
      simp only [stepSpill, List.mem_append, List.mem_singleton]
      rintro m (hm | rfl)
      · exact h.queue m hm
      · exact hp
  | incEventNum buffers flushedSize =>
      exact ⟨⟨h.buffers, h.queue⟩, by rintro next ⟨⟩; simp [SpillPhase.blocks]⟩

theorem stepSend_satisfies {s : Server} {t : SendTask} (h : StoreSatisfies P s)
    (ht : (Task.send t).BlocksSatisfy P) :
    StoreSatisfies P (stepSend conf s t).1 ∧ (stepSend conf s t).2.BlocksSatisfy P := by
  obtain ⟨hreq, hpending, hphase⟩ := ht
  rcases t with ⟨req, app, ticketLen, pending, insertedTotalSize, phase⟩
  cases phase with
  | getApp =>
      simp only [stepSend]
      split
      · exact ⟨h, trivial⟩
      · exact ⟨h, hreq, hpending, by simp [SendTask.phaseBlocks]⟩
  | releaseTicket =>
      simp only [stepSend]
      split
      · exact ⟨⟨h.buffers, h.queue⟩, trivial⟩
      · exact ⟨⟨h.buffers, h.queue⟩, hreq, req.blocksMap_satisfy hreq, by simp [SendTask.phaseBlocks]⟩
  | appInsert =>
      cases pending with
      | nil => exact ⟨⟨h.buffers, h.queue⟩, hreq, hpending, by simp [SendTask.phaseBlocks]⟩
      | cons entry rest =>
          refine ⟨⟨h.buffers, h.queue⟩, hreq, fun e he => hpending e (List.mem_cons_of_mem _ he), ?_⟩
          simp only [SendTask.phaseBlocks, App.insertContext_dataBlocks, WritingViewContext.from]
          exact hpending entry List.mem_cons_self
  | getOrCreate ctx inserted =>
      exact ⟨h.setHot (h.buffers.getOrCreate ctx.uid), hreq, hpending, hphase⟩
  | append r ctx inserted =>
      exact ⟨h.setHot (h.buffers.append r hphase _), hreq, hpending, by simp [SendTask.phaseBlocks]⟩
  | trySpill inserted =>
      simp only [stepSend]
      split
      · exact ⟨⟨h.buffers, h.queue⟩, hreq, hpending, by simp [SendTask.phaseBlocks, SpillPhase.blocks]⟩
      · exact ⟨h, hreq, hpending, by simp [SendTask.inserted, SendTask.phaseBlocks]⟩
  | spilling phase inserted =>
      simp only [stepSend]
      obtain ⟨hs, hnext⟩ := stepSpill_satisfies conf h hphase
      split
      · rename_i next hn
        exact ⟨hs, hreq, hpending, hnext next hn⟩
      · exact ⟨hs, hreq, hpending, by simp [SendTask.inserted, SendTask.phaseBlocks]⟩
      · exact ⟨hs, trivial⟩
  | releaseUnused =>
      refine ⟨?_, trivial⟩
      simp only [stepSend]
      split <;> split_ifs
      all_goals first | exact h | exact ⟨h.buffers, h.queue⟩

theorem stepRequire_satisfies {s : Server} {t : RequireTask} (h : StoreSatisfies P s) :
    StoreSatisfies P (stepRequire s t).1 ∧ (stepRequire s t).2.BlocksSatisfy P := by
  rcases t with ⟨uid, size, phase⟩
  cases phase with
  | getApp =>
      simp only [stepRequire]
      split
      · exact ⟨h, trivial⟩
      · split
        · split <;> exact ⟨⟨h.buffers, h.queue⟩, trivial⟩
        · exact ⟨⟨h.buffers, h.queue⟩, trivial⟩
  | requireAllocated => simp only [stepRequire]; split <;> exact ⟨⟨h.buffers, h.queue⟩, trivial⟩
  | insertTicket => exact ⟨⟨h.buffers, h.queue⟩, trivial⟩

theorem stepMemRead_satisfies {s : Server} {t : MemReadTask} (h : StoreSatisfies P s) :
    StoreSatisfies P (stepMemRead s t).1 ∧ (stepMemRead s t).2.BlocksSatisfy P := by
  rcases t with ⟨uid, lastBlockId, readBufferSize, taskIds, phase⟩
  cases phase with
  | getApp => simp only [stepMemRead]; split <;> exact ⟨h, trivial⟩
  | getOrCreate r => exact ⟨⟨h.buffers.getOrCreate uid, h.queue⟩, trivial⟩

theorem stepLocalRead_satisfies {s : Server} {t : LocalReadTask} (h : StoreSatisfies P s) :
    StoreSatisfies P (stepLocalRead conf s t).1 ∧ (stepLocalRead conf s t).2.BlocksSatisfy P := by
  rcases t with ⟨uid, index, length, phase⟩
  cases phase with
  | getApp => simp only [stepLocalRead]; split <;> exact ⟨h, trivial⟩
  | containsKey r => simp only [stepLocalRead]; split <;> exact ⟨⟨h.buffers, h.queue⟩, trivial⟩
  | entry => simp only [stepLocalRead]; split <;> exact ⟨⟨h.buffers, h.queue⟩, trivial⟩

theorem afterSpill_satisfies {s : Server} (h : StoreSatisfies P s) {t : HandlerTask}
    (ht : ∀ b ∈ t.message.ctx.dataBlocks.flatten, P b) (res : Except WorkerError Unit) :
    StoreSatisfies P (afterSpill s t res).1 ∧ (afterSpill s t res).2.BlocksSatisfy P := by
  obtain ⟨phase, hp⟩ := afterSpill_snd s t res
  rw [afterSpill_fst, hp]
  exact ⟨h, ht⟩

theorem stepHandler_satisfies {s : Server} {t : HandlerTask} {diskOk : Bool} {res : Server × Task}
    (h : StoreSatisfies P s) (ht : ∀ b ∈ t.message.ctx.dataBlocks.flatten, P b)
    (hstep : stepHandler conf s t diskOk = some res) :
    StoreSatisfies P res.1 ∧ res.2.BlocksSatisfy P := by
  rcases t with ⟨m, phase⟩
  simp only at ht
  have hw : ∀ {s' : Server}, s'.hotStore = s.hotStore → s'.eventQueue = s.eventQueue →
      StoreSatisfies P s' := fun hh hq => ⟨hh ▸ h.buffers, hq ▸ h.queue⟩
  cases phase with
  | start =>
      simp only [stepHandler] at hstep
      split at hstep
      · cases hstep
        exact afterSpill_satisfies h ht _
      · split at hstep <;> cases hstep
        · exact afterSpill_satisfies h ht _
        · exact ⟨hw rfl rfl, ht⟩
  | lock obj parentDirIsCreated =>
      simp only [stepHandler] at hstep
      split_ifs at hstep <;> cases hstep
      · exact afterSpill_satisfies h ht _
      · exact afterSpill_satisfies h ht _
      · exact ⟨hw rfl rfl, ht⟩
  | appendData obj nextOffset index data =>
      simp only [stepHandler] at hstep
      split_ifs at hstep <;> cases hstep
      · exact ⟨hw rfl rfl, ht⟩
      · refine afterSpill_satisfies ?_ ht _
        exact hw rfl rfl
  | appendIndex obj nextOffset index =>
      simp only [stepHandler] at hstep
      cases hstep
      refine afterSpill_satisfies ?_ ht _
      exact hw rfl rfl
  | release dropped phase =>
      cases phase <;> simp only [stepHandler, Option.some.injEq] at hstep <;> subst hstep
      · exact ⟨h.setHot (h.buffers.getOrCreate _), ht⟩
      · exact ⟨h.setHot (h.buffers.clear _ _ _), ht⟩
      · exact ⟨h.setHot h.buffers, ht⟩
      · exact ⟨h.setHot h.buffers, ht⟩
      · exact ⟨⟨h.buffers, h.queue⟩, trivial⟩
  | republish =>
      simp only [stepHandler, Option.some.injEq] at hstep
      subst hstep
      refine ⟨⟨h.buffers, ?_⟩, ht⟩
      simp only [List.mem_append, List.mem_singleton]
      rintro m' (hm | rfl)
      · exact h.queue m' hm
      · exact ht
  | incSpillEventNum =>
      simp only [stepHandler, Option.some.injEq] at hstep
      subst hstep
      exact ⟨⟨h.buffers, h.queue⟩, trivial⟩

theorem stepTask_satisfies {s : Server} {t : Task} {diskOk : Bool} {res : Server × Task}
    (h : StoreSatisfies P s) (ht : t.BlocksSatisfy P) (hstep : stepTask conf s t diskOk = some res) :
    StoreSatisfies P res.1 ∧ res.2.BlocksSatisfy P := by
  cases t with
  | send t => cases hstep; exact stepSend_satisfies conf h ht
  | require t => cases hstep; exact stepRequire_satisfies h
  | memRead t => cases hstep; exact stepMemRead_satisfies h
  | localRead t => cases hstep; exact stepLocalRead_satisfies conf h
  | handler t => exact stepHandler_satisfies conf h ht hstep
  | done => cases hstep

theorem stepPurge_satisfies {s s' : Server} (h : StoreSatisfies P s) (hstep : stepPurge s = some s') :
    StoreSatisfies P s' ∧ s'.tasks = s.tasks := by
  have hrm : ∀ pid, (s.hotStore.removeEntry pid).1.BuffersSatisfy P := by
    intro pid
    unfold MemoryStore.removeEntry
    split
    · exact h.buffers
    · exact h.buffers
  rcases stepPurge_cases hstep with
    ⟨event, rest, -, -, ⟨-, rfl⟩ | ⟨-, rfl⟩⟩ | ⟨ctx, pid, rest, used, -, rfl⟩ | ⟨ctx, used, -, rfl⟩ |
    ⟨ctx, i, -, ⟨-, rfl⟩ | ⟨-, rfl⟩⟩ | ⟨ctx, key, rest, size, -, ⟨obj, -, rfl⟩ | ⟨-, rfl⟩⟩ |
    ⟨ctx, size, -, rfl⟩ | ⟨ctx, obj, rest, size, -, -, rfl⟩
  all_goals first
    | exact ⟨⟨hrm pid, h.queue⟩, rfl⟩
    | exact ⟨⟨h.buffers, h.queue⟩, rfl⟩

theorem blocksSatisfy_spawn {s : Server} (h : StoreSatisfies P s) (ht : ∀ u ∈ s.tasks, u.BlocksSatisfy P)
    {t : Task} (hnew : t.BlocksSatisfy P) : BlocksSatisfy P (s.spawn t) where
  toStoreSatisfies := ⟨h.buffers, h.queue⟩
  tasks u hu := by
    rcases List.mem_append.mp hu with hu | hu
    · exact ht u hu
    · rw [List.mem_singleton.mp hu]
      exact hnew

def SendsSatisfy (P : Block → Prop) (act : Action) : Prop :=
  ∀ req, act = .request (.sendShuffleData req) → BatchesSatisfy P req.shuffleData

theorem handleRequest_satisfies {s : Server} {r : Request} (h : BlocksSatisfy P s)
    (hr : SendsSatisfy P (.request r)) : BlocksSatisfy P (handleRequest conf s r) := by
  have hs := h.toStoreSatisfies
  have hnil : BatchesSatisfy P [] := fun _ he => absurd he (List.not_mem_nil)
  cases r with
  | registerShuffle appId shuffleId => exact ⟨⟨hs.buffers, hs.queue⟩, h.tasks⟩
  | unregisterShuffle appId shuffleId => exact ⟨⟨hs.buffers, hs.queue⟩, h.tasks⟩
  | unregisterApp appId => exact ⟨⟨hs.buffers, hs.queue⟩, h.tasks⟩
  | appHeartbeat appId =>
      simp only [handleRequest]
      split
      · exact ⟨⟨hs.buffers, hs.queue⟩, h.tasks⟩
      · exact h
  | requireBuffer appId shuffleId size => exact blocksSatisfy_spawn hs h.tasks trivial
  | sendShuffleData req =>
      exact blocksSatisfy_spawn hs h.tasks ⟨hr req rfl, hnil, by simp [SendTask.phaseBlocks]⟩
  | getMemoryShuffleData uid lastBlockId readBufferSize taskIds => exact blocksSatisfy_spawn hs h.tasks trivial
  | getLocalShuffleData uid offset length => exact blocksSatisfy_spawn hs h.tasks trivial
  | getLocalShuffleIndex uid => exact blocksSatisfy_spawn hs h.tasks trivial

theorem exec_satisfies {s s' : Server} {act : Action} (h : BlocksSatisfy P s) (hact : SendsSatisfy P act)
    (hexec : exec conf s act = some s') : BlocksSatisfy P s' := by
  have hs := h.toStoreSatisfies
  cases act with
  | request r =>
      cases hexec
      exact handleRequest_satisfies conf h hact
  | advance i diskOk =>
      obtain ⟨t, res, hi, hres, rfl⟩ := exec_advance_cases conf hexec
      obtain ⟨hc, hn⟩ := stepTask_satisfies conf hs (h.tasks t (List.mem_of_getElem? hi)) hres
      refine ⟨⟨hc.buffers, hc.queue⟩, fun u hu => ?_⟩
      rcases mem_setTask_of_step conf hres hu with hu | rfl
      · exact h.tasks u hu
      · exact hn
  | dispatch =>
      obtain ⟨message, rest, hq, rfl⟩ := exec_dispatch_cases conf hexec
      have hm : ∀ m ∈ message :: rest, ∀ b ∈ m.ctx.dataBlocks.flatten, P b := hq ▸ hs.queue
      refine blocksSatisfy_spawn (s := { s with eventQueue := rest })
        ⟨hs.buffers, fun m hm' => hm m (List.mem_cons_of_mem _ hm')⟩ h.tasks ?_
      exact hm message List.mem_cons_self
  | purge =>
      obtain ⟨hc, ht⟩ := stepPurge_satisfies hs hexec
      exact ⟨hc, ht ▸ h.tasks⟩
  | ticketCheck =>
      cases hexec
      unfold stepTicketCheck
      split
      · exact ⟨⟨hs.buffers, hs.queue⟩, h.tasks⟩
      · refine ⟨⟨?_, hs.queue⟩, h.tasks⟩
        split_ifs
        · unfold MemoryStore.releaseAllocated
          split
          · exact hs.buffers
          · exact hs.buffers
        · exact hs.buffers
  | heartbeatCheck => cases hexec; exact ⟨⟨hs.buffers, hs.queue⟩, h.tasks⟩
  | tick => cases hexec; exact ⟨⟨hs.buffers, hs.queue⟩, h.tasks⟩
  | markCorrupted i => cases hexec; exact ⟨⟨hs.buffers, hs.queue⟩, h.tasks⟩
  | markUnhealthy i => cases hexec; exact ⟨⟨hs.buffers, hs.queue⟩, h.tasks⟩
  | markHealthy i => cases hexec; exact ⟨⟨hs.buffers, hs.queue⟩, h.tasks⟩

theorem init_satisfies : BlocksSatisfy P (init conf) :=
  ⟨⟨fun _ hb => absurd hb (List.not_mem_nil), fun _ hm => absurd hm (List.not_mem_nil)⟩,
   fun _ ht => absurd ht (List.not_mem_nil)⟩

end Blocks

end Rifflex.Server
