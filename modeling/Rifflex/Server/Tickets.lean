import Rifflex.Lib.Alloc
import Rifflex.Server.DataInsert

namespace Rifflex

def Task.pendingTicket : Task → Option Int
  | .require t => match t.phase with
    | .insertTicket ticketId _ => some ticketId
    | _ => none
  | _ => none

namespace Mem.TicketManager

theorem delete_keys_sublist (m : TicketManager) (ticketId : Int) :
    (Assoc.keys (m.delete ticketId).1.ticketStore).Sublist (Assoc.keys m.ticketStore) := by
  rcases delete_cases m ticketId with ⟨hsame, -⟩ | ⟨t, -, hdel⟩
  · rw [hsame]
  · rw [hdel, Assoc.keys_erase]
    exact List.filter_sublist

theorem removeTickets_keys_sublist : ∀ (m : TicketManager) (tickets : List Ticket),
    (Assoc.keys (m.removeTickets tickets).1.ticketStore).Sublist (Assoc.keys m.ticketStore)
  | m, [] => List.Sublist.refl _
  | m, t :: rest => by
      have hone : (Assoc.keys (m.removeTicket t.id).1.ticketStore).Sublist (Assoc.keys m.ticketStore) := by
        unfold removeTicket
        split
        · rw [Assoc.keys_erase]
          exact List.filter_sublist
        · exact List.Sublist.refl _
      exact (removeTickets_keys_sublist _ rest).trans hone

end Mem.TicketManager

end Rifflex

namespace Rifflex.Server

open Mem Transition

variable (conf : ServerConfig)

def ticketIds (s : Server) : List Int := Assoc.keys s.hotStore.ticketManager.ticketStore

def ticketCounter (s : Server) : Int := s.hotStore.budget.inner.allocationIncCounter

def TicketStep (s s' : Server) (t u : Task) : Prop :=
  Alloc.Move (ticketIds s) (ticketCounter s) t.pendingTicket (ticketIds s') (ticketCounter s')
    u.pendingTicket

theorem ticketStep_same {s s' : Server} {t u : Task} (hids : ticketIds s' = ticketIds s)
    (hc : ticketCounter s' = ticketCounter s) (ht : t.pendingTicket = none) (hu : u.pendingTicket = none) :
    TicketStep s s' t u := by
  unfold TicketStep
  rw [hids, hc, ht, hu]
  exact .keep (List.Sublist.refl _) rfl

theorem stepSpill_tickets (s : Server) (phase : SpillPhase) :
    ticketIds (stepSpill conf s phase).1 = ticketIds s ∧
      ticketCounter (stepSpill conf s phase).1 = ticketCounter s := by
  cases phase with
  | pickup => simp only [stepSpill]; split <;> exact ⟨rfl, rfl⟩
  | lookup candidates => simp only [stepSpill]; split <;> exact ⟨rfl, rfl⟩
  | spill buffers flushedSize => cases buffers <;> exact ⟨rfl, rfl⟩
  | publish message buffers flushedSize => exact ⟨rfl, rfl⟩
  | incEventNum buffers flushedSize => exact ⟨rfl, rfl⟩

theorem stepSend_ticketStep (s : Server) (t : SendTask) :
    TicketStep s (stepSend conf s t).1 (.send t) (stepSend conf s t).2 := by
  rcases t with ⟨req, app, ticketLen, pending, insertedTotalSize, phase⟩
  cases phase with
  | getApp => simp only [stepSend]; split <;> exact ticketStep_same rfl rfl rfl rfl
  | releaseTicket =>
      have hsub := s.hotStore.ticketManager.delete_keys_sublist req.ticketId
      simp only [stepSend]
      split <;> exact .keep hsub rfl
  | appInsert =>
      cases pending with
      | nil =>
          simp only [stepSend]
          exact ticketStep_same rfl (by simp [ticketCounter, MemoryStore.moveAllocatedToUsed]) rfl rfl
      | cons p rest => exact ticketStep_same rfl rfl rfl rfl
  | getOrCreate ctx inserted =>
      have hbooks := s.hotStore.getOrCreateMemoryBuffer_books ctx.uid
      simp only [stepSend]
      exact ticketStep_same (by simp [ticketIds, hbooks.2]) (by simp [ticketCounter, hbooks.1]) rfl rfl
  | append r ctx inserted => exact ticketStep_same rfl rfl rfl rfl
  | trySpill inserted => simp only [stepSend]; split_ifs <;> exact ticketStep_same rfl rfl rfl rfl
  | spilling phase inserted =>
      obtain ⟨hids, hc⟩ := stepSpill_tickets conf s phase
      simp only [stepSend]
      split <;> exact ticketStep_same hids hc rfl rfl
  | releaseUnused =>
      simp only [stepSend]
      split <;> split_ifs <;>
        exact ticketStep_same rfl (by simp [ticketCounter, MemoryStore.decAllocated]) rfl rfl

theorem stepRequire_ticketStep (s : Server) (t : RequireTask) :
    TicketStep s (stepRequire s t).1 (.require t) (stepRequire s t).2 := by
  rcases t with ⟨uid, size, phase⟩
  cases phase with
  | getApp =>
      simp only [stepRequire]
      split
      · exact ticketStep_same rfl rfl rfl rfl
      · split
        · split <;> exact ticketStep_same rfl rfl rfl rfl
        · exact ticketStep_same rfl rfl rfl rfl
  | requireAllocated =>
      simp only [stepRequire]
      split_ifs with hok
      · obtain ⟨-, hinner, hid⟩ := @BudgetInner.requireAllocated_ok s.hotStore.budget.inner
          s.hotStore.budget.capacity size hok
        have hc : ticketCounter (s.setHot (s.hotStore.requireAllocated size).1) = ticketCounter s + 1 := by
          simp [ticketCounter, MemoryStore.requireAllocated, hinner]
        unfold TicketStep
        rw [hc]
        simp only [Task.pendingTicket]
        rw [show (s.hotStore.requireAllocated size).2.2 = ticketCounter s + 1 from hid]
        exact .issue _ _
      · have hinner := @BudgetInner.requireAllocated_rejected s.hotStore.budget.inner
          s.hotStore.budget.capacity size (Bool.eq_false_iff.mpr hok)
        exact ticketStep_same rfl (by simp [ticketCounter, MemoryStore.requireAllocated, hinner]) rfl rfl
  | insertTicket ticketId allocatedTimestamp =>
      have hids : ticketIds (stepRequire s ⟨uid, size, .insertTicket ticketId allocatedTimestamp⟩).1 =
          if ticketId ∈ ticketIds s then ticketIds s else ticketIds s ++ [ticketId] :=
        Assoc.keys_insert _ _ _
      unfold TicketStep
      rw [hids]
      exact .record _ _ _

theorem stepMemRead_ticketStep (s : Server) (t : MemReadTask) :
    TicketStep s (stepMemRead s t).1 (.memRead t) (stepMemRead s t).2 := by
  rcases t with ⟨uid, lastBlockId, readBufferSize, taskIds, phase⟩
  cases phase with
  | getApp => simp only [stepMemRead]; split <;> exact ticketStep_same rfl rfl rfl rfl
  | getOrCreate r =>
      have hbooks := s.hotStore.getOrCreateMemoryBuffer_books uid
      exact ticketStep_same (by simp [ticketIds, stepMemRead, hbooks.2])
        (by simp [ticketCounter, stepMemRead, hbooks.1]) rfl rfl

theorem stepLocalRead_ticketStep (s : Server) (t : LocalReadTask) :
    TicketStep s (stepLocalRead conf s t).1 (.localRead t) (stepLocalRead conf s t).2 := by
  rcases t with ⟨uid, index, length, phase⟩
  cases phase with
  | getApp => simp only [stepLocalRead]; split <;> exact ticketStep_same rfl rfl rfl rfl
  | containsKey r => simp only [stepLocalRead]; split <;> exact ticketStep_same rfl rfl rfl rfl
  | entry => simp only [stepLocalRead]; split <;> exact ticketStep_same rfl rfl rfl rfl

theorem afterSpill_ticketStep {s s₀ : Server} (t : HandlerTask) (res : Except WorkerError Unit)
    (hids : ticketIds s = ticketIds s₀) (hc : ticketCounter s = ticketCounter s₀) :
    TicketStep s₀ (afterSpill s t res).1 (.handler t) (afterSpill s t res).2 := by
  obtain ⟨phase, hphase⟩ := afterSpill_snd s t res
  rw [afterSpill_fst, hphase]
  exact ticketStep_same hids hc rfl rfl

theorem stepHandler_ticketStep {s : Server} {t : HandlerTask} {diskOk : Bool} {res : Server × Task}
    (h : stepHandler conf s t diskOk = some res) : TicketStep s res.1 (.handler t) res.2 := by
  rcases t with ⟨m, phase⟩
  cases phase with
  | start =>
      simp only [stepHandler] at h
      split at h
      · cases h; exact afterSpill_ticketStep _ _ rfl rfl
      · split at h <;> cases h
        · exact afterSpill_ticketStep _ _ rfl rfl
        · exact ticketStep_same rfl rfl rfl rfl
  | lock obj p =>
      simp only [stepHandler] at h
      split_ifs at h <;> cases h
      all_goals first
        | exact afterSpill_ticketStep _ _ rfl rfl
        | exact ticketStep_same rfl rfl rfl rfl
  | appendData obj nextOffset index data =>
      simp only [stepHandler] at h
      split_ifs at h <;> cases h
      · exact ticketStep_same rfl rfl rfl rfl
      · exact afterSpill_ticketStep _ _ rfl rfl
  | appendIndex obj nextOffset index =>
      simp only [stepHandler] at h
      cases h
      exact afterSpill_ticketStep _ _ rfl rfl
  | release dropped phase =>
      cases phase with
      | getOrCreate =>
          simp only [stepHandler, Option.some.injEq] at h
          subst h
          have hbooks := s.hotStore.getOrCreateMemoryBuffer_books m.ctx.uid
          exact ticketStep_same (by simp [ticketIds, hbooks.2]) (by simp [ticketCounter, hbooks.1]) rfl rfl
      | decUsed =>
          simp only [stepHandler, Option.some.injEq] at h
          subst h
          exact ticketStep_same rfl (by simp [ticketCounter, MemoryStore.decUsed]) rfl rfl
      | _ =>
          simp only [stepHandler, Option.some.injEq] at h
          subst h
          exact ticketStep_same rfl rfl rfl rfl
  | republish => simp only [stepHandler, Option.some.injEq] at h; subst h; exact ticketStep_same rfl rfl rfl rfl
  | incSpillEventNum =>
      simp only [stepHandler, Option.some.injEq] at h; subst h; exact ticketStep_same rfl rfl rfl rfl

theorem stepTask_ticketStep {s : Server} {t : Task} {diskOk : Bool} {res : Server × Task}
    (h : stepTask conf s t diskOk = some res) : TicketStep s res.1 t res.2 := by
  cases t with
  | send t => cases h; exact stepSend_ticketStep conf s t
  | require t => cases h; exact stepRequire_ticketStep s t
  | memRead t => cases h; exact stepMemRead_ticketStep s t
  | localRead t => cases h; exact stepLocalRead_ticketStep conf s t
  | handler t => exact stepHandler_ticketStep conf h
  | done => cases h

section Fresh

def TicketsFresh (s : Server) : Prop :=
  Alloc.Fresh (ticketIds s) (ticketCounter s) (s.tasks.map Task.pendingTicket)

theorem TicketsFresh.setTask {s s' : Server} {i : Nat} {t u : Task} (h : TicketsFresh s)
    (hi : s.tasks[i]? = some t) (htasks : s'.tasks = s.tasks) (hstep : TicketStep s s' t u) :
    TicketsFresh (s'.setTask i u) := by
  have hheld : (s.tasks.map Task.pendingTicket)[i]? = some t.pendingTicket := by simp [hi]
  have hfresh := Alloc.Fresh.move h hheld hstep
  unfold TicketsFresh
  rw [show (s'.setTask i u).tasks = s.tasks.set i u by simp [Server.setTask, htasks], List.map_set]
  exact hfresh

theorem TicketsFresh.spawn {s : Server} (h : TicketsFresh s) {t : Task} (ht : t.pendingTicket = none) :
    TicketsFresh (s.spawn t) := by
  unfold TicketsFresh
  rw [show (s.spawn t).tasks = s.tasks ++ [t] from rfl, List.map_append, List.map_singleton, ht]
  exact Alloc.Fresh.append_none h

theorem stepPurge_tickets {s s' : Server} (h : stepPurge s = some s') :
    ticketIds s' = ticketIds s ∧ ticketCounter s' = ticketCounter s := by
  rcases stepPurge_cases h with
    ⟨event, rest, -, -, ⟨-, rfl⟩ | ⟨-, rfl⟩⟩ | ⟨ctx, pid, rest, used, -, rfl⟩ | ⟨ctx, used, -, rfl⟩ |
    ⟨ctx, i, -, ⟨-, rfl⟩ | ⟨-, rfl⟩⟩ | ⟨ctx, key, rest, size, -, ⟨obj, -, rfl⟩ | ⟨-, rfl⟩⟩ |
    ⟨ctx, size, -, rfl⟩ | ⟨ctx, obj, rest, size, -, -, rfl⟩
  · exact ⟨rfl, rfl⟩
  · exact ⟨rfl, rfl⟩
  · have hbooks := s.hotStore.removeEntry_books pid
    exact ⟨by simp [ticketIds, hbooks.2.1], by simp [ticketCounter, hbooks.1]⟩
  · exact ⟨rfl, by simp [ticketCounter, MemoryStore.decUsed]⟩
  all_goals exact ⟨rfl, rfl⟩

theorem stepTicketCheck_tickets (s : Server) :
    (ticketIds (stepTicketCheck s)).Sublist (ticketIds s) ∧
      ticketCounter (stepTicketCheck s) = ticketCounter s ∧ (stepTicketCheck s).tasks = s.tasks := by
  unfold stepTicketCheck
  split
  · exact ⟨TicketManager.removeTickets_keys_sublist _ _, rfl, rfl⟩
  · split_ifs
    · refine ⟨by simp [ticketIds], ?_, rfl⟩
      unfold MemoryStore.releaseAllocated
      split
      · simp [ticketCounter, MemoryStore.decAllocated]
      · rfl
    · exact ⟨List.Sublist.refl _, rfl, rfl⟩

theorem handleRequest_ticketsFresh {s : Server} (h : TicketsFresh s) (r : Request) :
    TicketsFresh (handleRequest conf s r) := by
  cases r with
  | appHeartbeat appId => simp only [handleRequest]; split <;> exact h
  | requireBuffer appId shuffleId size => exact h.spawn rfl
  | sendShuffleData req => exact h.spawn rfl
  | getMemoryShuffleData uid lastBlockId readBufferSize taskIds => exact h.spawn rfl
  | getLocalShuffleData uid offset length => exact h.spawn rfl
  | getLocalShuffleIndex uid => exact h.spawn rfl
  | _ => exact h

theorem exec_ticketsFresh {s s' : Server} {act : Action} (h : TicketsFresh s)
    (hexec : exec conf s act = some s') : TicketsFresh s' := by
  cases act with
  | request r => cases hexec; exact handleRequest_ticketsFresh conf h r
  | advance i diskOk =>
      obtain ⟨t, res, hi, hres, rfl⟩ := exec_advance_cases conf hexec
      exact h.setTask hi (stepTask_tasks conf hres) (stepTask_ticketStep conf hres)
  | dispatch =>
      obtain ⟨message, rest, -, rfl⟩ := exec_dispatch_cases conf hexec
      exact TicketsFresh.spawn (s := { s with eventQueue := rest }) h rfl
  | purge =>
      obtain ⟨hids, hc⟩ := stepPurge_tickets hexec
      unfold TicketsFresh
      rw [hids, hc, (stepPurge_tasks_lock hexec).1]
      exact h
  | ticketCheck =>
      cases hexec
      obtain ⟨hsub, hc, htasks⟩ := stepTicketCheck_tickets s
      unfold TicketsFresh
      rw [hc, htasks]
      exact Alloc.Fresh.sublist h hsub
  | heartbeatCheck => cases hexec; exact h
  | tick => cases hexec; exact h
  | markCorrupted i => cases hexec; exact h
  | markUnhealthy i => cases hexec; exact h
  | markHealthy i => cases hexec; exact h

theorem init_ticketsFresh : TicketsFresh (init conf) where
  nodup := List.nodup_nil
  issued _ h := absurd h (List.not_mem_nil)
  heldIssued _ h := absurd h (List.not_mem_nil)
  unique _ := by simp [ticketIds, init, MemoryStore.from, TicketManager.new, Assoc.keys]

theorem reach_ticketsFresh {allowed : Server → Action → Prop} {s : Server}
    (h : Reach (exec conf) allowed (init conf) s) : TicketsFresh s :=
  reach_invariant (fun _ _ _ hs _ he => exec_ticketsFresh conf hs he) (init_ticketsFresh conf) h

theorem reach_ticket_insert_fresh {allowed : Server → Action → Prop} {s : Server}
    (h : Reach (exec conf) allowed (init conf) s) {i : Nat} {t : RequireTask} {ticketId : Int}
    {allocatedTimestamp : Nat} (hi : s.tasks[i]? = some (.require t))
    (hphase : t.phase = .insertTicket ticketId allocatedTimestamp) :
    (s.hotStore.ticketManager.insert ticketId t.size allocatedTimestamp t.uid.appId).ticketStore =
        s.hotStore.ticketManager.ticketStore ++
          [(ticketId, ⟨ticketId, allocatedTimestamp, t.size, t.uid.appId⟩)] ∧
      (s.hotStore.ticketManager.insert ticketId t.size allocatedTimestamp t.uid.appId).sizeSum =
        s.hotStore.ticketManager.sizeSum + t.size := by
  have hheld : some ticketId ∈ s.tasks.map Task.pendingTicket :=
    List.mem_map.mpr ⟨_, List.mem_of_getElem? hi, by simp [Task.pendingTicket, hphase]⟩
  have hfresh : ticketId ∉ ticketIds s := (reach_ticketsFresh conf h).not_mem_of_held hheld
  have happend : (s.hotStore.ticketManager.insert ticketId t.size allocatedTimestamp t.uid.appId).ticketStore =
      s.hotStore.ticketManager.ticketStore ++ [(ticketId, ⟨ticketId, allocatedTimestamp, t.size, t.uid.appId⟩)] :=
    Assoc.keys_insert_of_find?_none (Assoc.find?_eq_none.mpr hfresh)
  refine ⟨happend, ?_⟩
  simp only [TicketManager.sizeSum, happend, List.map_append, List.sum_append]
  simp

theorem first_ticket_insert_fresh :
    ∃ s, Reach (exec smallConf) Always (init smallConf) s ∧
      s.tasks[0]? = some (.require ⟨⟨"a", 0, 1⟩, 10, .insertTicket 1 0⟩) ∧
      (s.hotStore.ticketManager.insert 1 10 0 "a").ticketStore =
        s.hotStore.ticketManager.ticketStore ++ [(1, ⟨1, 0, 10, "a"⟩)] ∧
      (s.hotStore.ticketManager.insert 1 10 0 "a").sizeSum = s.hotStore.ticketManager.sizeSum + 10 := by
  have h : EndsIn (exec smallConf) (init smallConf) (spillWithFailedAppend.take 4)
      (fun s => s.tasks[0]? = some (.require ⟨⟨"a", 0, 1⟩, 10, .insertTicket 1 0⟩)) := by
    decide +kernel
  obtain ⟨s, hs, hi⟩ := reach_of_endsIn (fun _ _ _ => trivial) h
  exact ⟨s, hs, hi, reach_ticket_insert_fresh smallConf hs hi rfl⟩

end Fresh

def evictedTicket : List Action :=
  [.request (.registerShuffle "a" 0), .request (.requireBuffer "a" 0 10)] ++ advanceAll 0 3 ++
  [.tick, .tick, .ticketCheck, .ticketCheck]

theorem evicted_ticket_stays_allocated :
    ∃ s, Reach (exec smallConf) Always (init smallConf) s ∧ Quiet s ∧
      s.hotStore.budget.inner.allocated = 10 ∧ s.hotStore.ticketManager.sizeSum = 0 :=
  reach_of_endsIn (fun _ _ _ => trivial)
    (show EndsIn (exec smallConf) (init smallConf) evictedTicket _ by decide +kernel)

end Rifflex.Server
