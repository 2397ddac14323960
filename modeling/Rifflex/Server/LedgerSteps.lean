import Rifflex.Server.Ledger

namespace Rifflex

open Word Mem MemoryStore

def SendTask.underTicket (tm : TicketManager) (t : SendTask) : Bool :=
  match t.phase, Assoc.find? t.req.ticketId tm.ticketStore with
  | .releaseTicket, some ticket => decide (batchBytes t.req.blocksMap ≤ ticket.size)
  | _, _ => true

-- One task's part of the accounting; `E` are the other flights and `R P Q` the reserved,
-- unsettled and releasing bytes of everything else.
structure Local (hot : MemoryStore) (queue E : List SpillMessage) (R P Q : Int) (t : Task) : Prop where
  wf : hot.StateWF
  flights : hot.FlightsWF (t.flights ++ queue ++ E)
  tickets : hot.ticketManager.WF
  task : t.WF hot.state
  books : Budgeted hot (R + t.reserved) (P + t.unsettled) (Q + t.releasing)

namespace Local

variable {hot : MemoryStore} {queue E : List SpillMessage} {R P Q : Int} {t : Task}

theorem keep (h : Local hot queue E R P Q t) {t' : Task} (hf : t'.flights = t.flights)
    (hr : t'.reserved = t.reserved) (hu : t'.unsettled = t.unsettled) (hl : t'.releasing = t.releasing)
    (hw : t'.WF hot.state) : Local hot queue E R P Q t' :=
  ⟨h.wf, hf ▸ h.flights, h.tickets, hw, hr ▸ hu ▸ hl ▸ h.books⟩

theorem congr (h : Local hot queue E R P Q t) {hot' : MemoryStore} (hs : hot'.state = hot.state)
    (hb : hot'.buffers = hot.buffers) (hbud : hot'.budget = hot.budget)
    (ht : hot'.ticketManager = hot.ticketManager) : Local hot' queue E R P Q t :=
  ⟨h.wf.congr hs (hb ▸ rfl), h.flights.congr hs hb, ht ▸ h.tickets, hs ▸ h.task,
   h.books.congr hbud ht (heldBytes_congr hs hb)⟩

theorem held_le (h : Local hot queue E R P Q t) (hPR : P ≤ R) (hQ : 0 ≤ Q) :
    hot.heldBytes ≤ hot.budget.capacity := by
  obtain ⟨hu, hr, hl⟩ := h.task.ledger
  have hT := h.tickets.sizeSum_nonneg
  have h3 := h.books.within
  have h5 := h.books.reserve
  have h6 := h.books.held
  omega

theorem inserted {t : SendTask} {ins : Int} (h : Local hot queue E R P Q (.send t)) (hf : t.Fits ins)
    (hfl : (Task.send t).flights = []) (hr : (Task.send t).reserved = t.ticketLen)
    (hu : (Task.send t).unsettled = t.insertedTotalSize + ins) :
    Local hot queue E R P Q (.send (t.inserted ins)) := by
  refine h.keep hfl.symm hr.symm ?_ rfl ⟨h.task.inRange, ⟨hf.suffix, ?_, hf.ticket, ?_, le_refl 0⟩⟩
  · rw [hu]
    rfl
  · have := hf.total
    simp only [SendTask.inserted]
    omega
  · have := hf.inserted_nonneg
    have := hf.cur_nonneg
    simp only [SendTask.inserted]
    omega

theorem handler_early {m : SpillMessage} {p p' : HandlerPhase} (h : Local hot queue E R P Q (.handler ⟨m, p⟩))
    (hp : p.holdsFlight = true) (hp' : p'.holdsFlight = true) (hw : HandlerTask.WF hot.state ⟨m, p'⟩)
    (hr : HandlerTask.releasing ⟨m, p⟩ = 0) (hr' : HandlerTask.releasing ⟨m, p'⟩ = 0) :
    Local hot queue E R P Q (.handler ⟨m, p'⟩) :=
  h.keep (by simp [Task.flights, hp, hp']) rfl rfl (by simp [Task.releasing, hr, hr']) hw

end Local

namespace Server

variable (conf : ServerConfig) {E : List SpillMessage} {R P Q : Int}

theorem releaseTicket_local {s : Server} {t : SendTask} (hph : t.phase = .releaseTicket)
    (hfit : t.underTicket s.hotStore.ticketManager = true)
    (h : Local s.hotStore s.eventQueue E R P Q (.send t)) :
    Local (stepSend conf s t).1.hotStore (stepSend conf s t).1.eventQueue E R P Q (stepSend conf s t).2 := by
  obtain ⟨req, app, ticketLen, pending, insertedTotalSize, phase⟩ := t
  subst hph
  have h0 : insertedTotalSize = 0 := h.task.phase
  rcases TicketManager.delete_cases s.hotStore.ticketManager req.ticketId with ⟨hm, e, he⟩ | ⟨ticket, hfind, hdel⟩
  · have hstep : stepSend conf s ⟨req, app, ticketLen, pending, insertedTotalSize, .releaseTicket⟩ =
        (s.setHot { s.hotStore with ticketManager := s.hotStore.ticketManager }, .done) := by
      simp only [stepSend, he, hm]
    rw [hstep]
    exact h.keep rfl rfl rfl rfl trivial
  · have hstep : stepSend conf s ⟨req, app, ticketLen, pending, insertedTotalSize, .releaseTicket⟩ =
        (s.setHot { s.hotStore with ticketManager :=
          { s.hotStore.ticketManager with ticketStore := Assoc.erase req.ticketId s.hotStore.ticketManager.ticketStore } },
        .send ⟨req, app, ticket.size, req.blocksMap, insertedTotalSize, .appInsert⟩) := by
      simp only [stepSend, hdel]
    have hcover : batchBytes req.blocksMap ≤ ticket.size := by
      simpa [SendTask.underTicket, hfind] using hfit
    rw [hstep]
    dsimp only [setHot]
    refine ⟨h.wf.congr rfl rfl, h.flights.congr rfl rfl, h.tickets.erase _, ⟨h.task.inRange, ?_⟩, ?_⟩
    · exact ⟨List.suffix_refl _, by simp [h0], hcover, by simp [h0], le_refl 0⟩
    · refine Budgeted.shift (h.books.tickets ?_ ?_ ?_) rfl ?_ rfl
      · rfl
      · rfl
      · rw [TicketManager.sizeSum_erase h.tickets hfind]
        simp only [Task.reserved, SendTask.reserved]
        omega
      · simp [Task.unsettled, SendTask.unsettled, h0]

theorem appInsert_local {s : Server} {t : SendTask} (hph : t.phase = .appInsert) (hR : 0 ≤ R)
    (h : Local s.hotStore s.eventQueue E R P Q (.send t)) :
    Local (stepSend conf s t).1.hotStore (stepSend conf s t).1.eventQueue E R P Q (stepSend conf s t).2 := by
  obtain ⟨req, app, ticketLen, pending, insertedTotalSize, phase⟩ := t
  subst hph
  have hr : req.InRange := h.task.inRange
  have hfits : SendTask.Fits ⟨req, app, ticketLen, pending, insertedTotalSize, .appInsert⟩ 0 := h.task.phase
  have hle : insertedTotalSize ≤ ticketLen := by simpa using hfits.le_ticket hr
  cases pending with
  | nil =>
      have hstep : stepSend conf s ⟨req, app, ticketLen, [], insertedTotalSize, .appInsert⟩ =
          (s.setHot (s.hotStore.moveAllocatedToUsed insertedTotalSize),
            .send ⟨req, app, ticketLen, [], insertedTotalSize, .releaseUnused⟩) := by
        simp only [stepSend]
      rw [hstep]
      dsimp only [setHot]
      refine ⟨h.wf.congr rfl rfl, h.flights.congr rfl rfl, h.tickets,
        ⟨hr, hfits.inserted_nonneg, hle⟩, ?_⟩
      refine h.books.move h.tickets.sizeSum_nonneg hfits.inserted_nonneg
        (show 0 ≤ R + (ticketLen - insertedTotalSize) by omega) ?_ ?_
      · simp only [Task.reserved, SendTask.reserved]
        omega
      · simp only [Task.unsettled, SendTask.unsettled]
        omega
  | cons e rest =>
      obtain ⟨partitionId, blocks⟩ := e
      set res := (s.app app).insertContext s.now
        (WritingViewContext.from ⟨req.appId, req.shuffleId, partitionId⟩ blocks) with hres
      have hstep : stepSend conf s ⟨req, app, ticketLen, (partitionId, blocks) :: rest, insertedTotalSize,
          .appInsert⟩ = (s.setApp app res.1,
            .send ⟨req, app, ticketLen, rest, insertedTotalSize, .getOrCreate res.2 (App.insertedSize blocks)⟩) := by
        simp only [stepSend, hres]
      have hmem : (partitionId, blocks) ∈ req.blocksMap := hfits.suffix.subset List.mem_cons_self
      obtain ⟨hb0, hb1⟩ : 0 ≤ lengthSum blocks ∧ lengthSum blocks < 2 ^ 31 := hr _ hmem
      have hins : App.insertedSize blocks = lengthSum blocks := App.insertedSize_of_range hb0 hb1
      have hsize : asI64 res.2.dataSize = 0 ∨ asI64 res.2.dataSize = lengthSum blocks := by
        rw [hres]
        exact App.insertContext_size (s.app app) s.now _ hb0 hb1
      have htotal : insertedTotalSize + (lengthSum blocks + batchBytes rest) = batchBytes req.blocksMap := by
        simpa using hfits.total
      rw [hstep]
      refine h.keep rfl rfl rfl rfl ⟨hr, ⟨?_, ?_, hfits.ticket, hfits.inserted_nonneg, by omega⟩, ?_⟩
      · exact (List.suffix_cons _ _).trans hfits.suffix
      · show insertedTotalSize + App.insertedSize blocks + batchBytes rest = batchBytes req.blocksMap
        rw [hins]
        omega
      · rw [hins]
        omega

theorem getOrCreate_local {s : Server} {t : SendTask} {ctx : WritingViewContext} {inserted : Int}
    (hph : t.phase = .getOrCreate ctx inserted) (h : Local s.hotStore s.eventQueue E R P Q (.send t)) :
    Local (stepSend conf s t).1.hotStore (stepSend conf s t).1.eventQueue E R P Q (stepSend conf s t).2 := by
  obtain ⟨req, app, ticketLen, pending, insertedTotalSize, phase⟩ := t
  subst hph
  have hstep : stepSend conf s ⟨req, app, ticketLen, pending, insertedTotalSize, .getOrCreate ctx inserted⟩ =
      (s.setHot (s.hotStore.getOrCreateMemoryBuffer ctx.uid).1,
        .send ⟨req, app, ticketLen, pending, insertedTotalSize,
          .append (s.hotStore.getOrCreateMemoryBuffer ctx.uid).2 ctx inserted⟩) := by
    simp only [stepSend]
  obtain ⟨hbud, htm⟩ := getOrCreateMemoryBuffer_books s.hotStore ctx.uid
  rw [hstep]
  dsimp only [setHot]
  obtain ⟨hfits, hd0, hd⟩ := h.task.phase
  exact ⟨h.wf.getOrCreate _, h.flights.getOrCreate h.wf _, htm ▸ h.tickets,
    ⟨h.task.inRange, hfits.phase _, hd0, hd⟩, h.books.congr hbud htm (heldBytes_getOrCreate h.wf _)⟩

theorem append_local {s : Server} {t : SendTask} {r : Nat} {ctx : WritingViewContext} {inserted : Int}
    (hph : t.phase = .append r ctx inserted) (h : Local s.hotStore s.eventQueue E R P Q (.send t)) :
    Local (stepSend conf s t).1.hotStore (stepSend conf s t).1.eventQueue E R P Q (stepSend conf s t).2 := by
  obtain ⟨req, app, ticketLen, pending, insertedTotalSize, phase⟩ := t
  subst hph
  have hstep : stepSend conf s ⟨req, app, ticketLen, pending, insertedTotalSize, .append r ctx inserted⟩ =
      (s.setHot (s.hotStore.append r ctx.dataBlocks ctx.dataSize),
        .send ⟨req, app, ticketLen, pending, insertedTotalSize, .trySpill inserted⟩) := by
    simp only [stepSend]
  obtain ⟨hfits, hd0, hd⟩ := h.task.phase
  rw [hstep]
  dsimp only [setHot]
  refine ⟨h.wf.setBuffer _ _, h.flights.append r ctx.dataBlocks hd0, h.tickets,
    ⟨h.task.inRange, hfits.phase _⟩, ?_⟩
  have hheld := heldBytes_append h.wf r ctx.dataBlocks hd0
  refine Budgeted.shift (h.books.insert (x := inserted) ?_ ?_ ?_) rfl ?_ rfl
  · rfl
  · rfl
  · show (s.hotStore.append r ctx.dataBlocks ctx.dataSize).heldBytes ≤ s.hotStore.heldBytes + inserted
    omega
  · simp only [Task.unsettled, SendTask.unsettled]
    omega

theorem trySpill_local {s : Server} {t : SendTask} {inserted : Int} (hph : t.phase = .trySpill inserted)
    (h : Local s.hotStore s.eventQueue E R P Q (.send t)) :
    Local (stepSend conf s t).1.hotStore (stepSend conf s t).1.eventQueue E R P Q (stepSend conf s t).2 := by
  obtain ⟨req, app, ticketLen, pending, insertedTotalSize, phase⟩ := t
  subst hph
  have hfits : SendTask.Fits ⟨req, app, ticketLen, pending, insertedTotalSize, .trySpill inserted⟩ inserted :=
    h.task.phase
  simp only [stepSend]
  split_ifs
  · exact h.keep rfl rfl rfl rfl ⟨h.task.inRange, hfits.phase _, trivial⟩
  · exact h.inserted hfits rfl rfl rfl

theorem spilling_local {s : Server} {t : SendTask} {p : SpillPhase} {inserted : Int}
    (hph : t.phase = .spilling p inserted) (hPR : P ≤ R) (hQ : 0 ≤ Q)
    (h : Local s.hotStore s.eventQueue E R P Q (.send t)) :
    Local (stepSend conf s t).1.hotStore (stepSend conf s t).1.eventQueue E R P Q (stepSend conf s t).2 := by
  obtain ⟨req, app, ticketLen, pending, insertedTotalSize, phase⟩ := t
  subst hph
  obtain ⟨hfits, hpicked⟩ := h.task.phase
  cases p with
  | pickup =>
      cases hc : s.hotStore.spillCandidates conf.hybrid with
      | none =>
          simp only [stepSend, stepSpill, hc]
          exact h.inserted hfits rfl rfl rfl
      | some candidates =>
          simp only [stepSend, stepSpill, hc]
          exact h.keep rfl rfl rfl rfl ⟨h.task.inRange, hfits.phase _, spillCandidates_mem hc⟩
  | lookup candidates =>
      obtain ⟨buffers, hb⟩ := lookupCandidates_some hpicked
      simp only [stepSend, stepSpill, hb]
      exact h.keep rfl rfl rfl rfl ⟨h.task.inRange, hfits.phase _, lookupCandidates_mem hb⟩
  | spill buffers flushedSize =>
      cases buffers with
      | nil =>
          simp only [stepSend, stepSpill]
          refine (h.congr ?_ ?_ ?_ ?_).inserted hfits rfl rfl rfl <;> rfl
      | cons e rest =>
          obtain ⟨uid, r⟩ := e
          have he : (uid, r) ∈ s.hotStore.state := hpicked _ List.mem_cons_self
          have hlt : (s.hotStore.buffer r).stagingSize < 2 ^ 63 :=
            lt_of_le_of_lt ((h.flights.staging_le_held he).trans (h.held_le hPR hQ)) h.books.capacity_lt
          simp only [stepSend, stepSpill]
          exact ⟨h.wf.setBuffer _ _, h.flights.spill h.wf he hlt, h.tickets,
            ⟨h.task.inRange, hfits.phase _, fun e' he' => hpicked e' (List.mem_cons_of_mem _ he')⟩,
            h.books.congr rfl rfl (heldBytes_spill r)⟩
  | publish message buffers flushedSize =>
      simp only [stepSend, stepSpill]
      refine ⟨h.wf, h.flights.perm ?_, h.tickets, ⟨h.task.inRange, hfits.phase _, hpicked⟩, h.books⟩
      exact (List.perm_append_singleton message s.eventQueue).symm.append_right E
  | incEventNum buffers flushedSize =>
      simp only [stepSend, stepSpill]
      exact h.keep rfl rfl rfl rfl ⟨h.task.inRange, hfits.phase _, hpicked⟩

theorem releaseUnused_local {s : Server} {t : SendTask} (hph : t.phase = .releaseUnused) (hR : 0 ≤ R)
    (h : Local s.hotStore s.eventQueue E R P Q (.send t)) :
    Local (stepSend conf s t).1.hotStore (stepSend conf s t).1.eventQueue E R P Q (stepSend conf s t).2 := by
  obtain ⟨req, app, ticketLen, pending, insertedTotalSize, phase⟩ := t
  subst hph
  obtain ⟨h0, hle⟩ : 0 ≤ insertedTotalSize ∧ insertedTotalSize ≤ ticketLen := h.task.phase
  have hbooks : Budgeted s.hotStore (R + (ticketLen - insertedTotalSize)) (P + 0) (Q + 0) := h.books
  simp only [stepSend]
  split_ifs with hrel
  · refine ⟨h.wf.congr rfl rfl, h.flights.congr rfl rfl, h.tickets, trivial, ?_⟩
    exact (hbooks.release h.tickets.sizeSum_nonneg (by omega) (show 0 ≤ R + 0 by omega) (by omega)).shift
      rfl rfl rfl
  · -- A remainder neither frontend releases is zero.
    have hzero : ticketLen - insertedTotalSize = 0 := by
      cases hf : req.frontend <;> simp [hf] at hrel <;> omega
    exact ⟨h.wf, h.flights, h.tickets, trivial, hbooks.shift (by simp [Task.reserved, hzero]) rfl rfl⟩

theorem getApp_local {s : Server} {t : SendTask} (hph : t.phase = .getApp)
    (h : Local s.hotStore s.eventQueue E R P Q (.send t)) :
    Local (stepSend conf s t).1.hotStore (stepSend conf s t).1.eventQueue E R P Q (stepSend conf s t).2 := by
  obtain ⟨req, app, ticketLen, pending, insertedTotalSize, phase⟩ := t
  subst hph
  simp only [stepSend]
  split
  · exact h.keep rfl rfl rfl rfl trivial
  · exact h.keep rfl rfl rfl rfl ⟨h.task.inRange, h.task.phase⟩

theorem stepSpill_state (s : Server) (phase : SpillPhase) :
    (stepSpill conf s phase).1.hotStore.state = s.hotStore.state := by
  cases phase with
  | pickup => simp only [stepSpill]; split <;> rfl
  | lookup candidates => simp only [stepSpill]; split <;> rfl
  | spill buffers flushedSize => cases buffers <;> rfl
  | publish message buffers flushedSize => rfl
  | incEventNum buffers flushedSize => rfl

theorem stepSend_state (s : Server) (t : SendTask) :
    ∀ e ∈ s.hotStore.state, e ∈ (stepSend conf s t).1.hotStore.state := by
  intro e he
  obtain ⟨req, app, ticketLen, pending, insertedTotalSize, phase⟩ := t
  cases phase with
  | getApp => simp only [stepSend]; split <;> exact he
  | releaseTicket => simp only [stepSend]; split <;> exact he
  | appInsert => cases pending <;> exact he
  | getOrCreate ctx inserted => exact mem_getOrCreate_state he _
  | append r ctx inserted => exact he
  | trySpill inserted => simp only [stepSend]; split_ifs <;> exact he
  | spilling p inserted =>
      simp only [stepSend]
      split <;> (rw [stepSpill_state]; exact he)
  | releaseUnused => simp only [stepSend]; split_ifs <;> exact he

theorem stepSend_local {s : Server} {t : SendTask} (hfit : t.underTicket s.hotStore.ticketManager = true)
    (hR : 0 ≤ R) (hPR : P ≤ R) (hQ : 0 ≤ Q) (h : Local s.hotStore s.eventQueue E R P Q (.send t)) :
    Local (stepSend conf s t).1.hotStore (stepSend conf s t).1.eventQueue E R P Q (stepSend conf s t).2 := by
  cases hp : t.phase with
  | getApp => exact getApp_local conf hp h
  | releaseTicket => exact releaseTicket_local conf hp hfit h
  | appInsert => exact appInsert_local conf hp hR h
  | getOrCreate ctx inserted => exact getOrCreate_local conf hp h
  | append r ctx inserted => exact append_local conf hp h
  | trySpill inserted => exact trySpill_local conf hp h
  | spilling p inserted => exact spilling_local conf hp hPR hQ h
  | releaseUnused => exact releaseUnused_local conf hp hR h

theorem stepRequire_local {s : Server} {t : RequireTask} (h : Local s.hotStore s.eventQueue E R P Q (.require t)) :
    Local (stepRequire s t).1.hotStore (stepRequire s t).1.eventQueue E R P Q (stepRequire s t).2 ∧
      ∀ e ∈ s.hotStore.state, e ∈ (stepRequire s t).1.hotStore.state := by
  obtain ⟨uid, size, phase⟩ := t
  have hs : 0 ≤ size := h.task
  cases phase with
  | getApp =>
      simp only [stepRequire]
      split
      · exact ⟨h.keep rfl rfl rfl rfl trivial, fun e he => he⟩
      · split
        · split
          · exact ⟨h.keep rfl rfl rfl rfl hs, fun e he => he⟩
          · exact ⟨h.keep rfl rfl rfl rfl trivial, fun e he => he⟩
        · exact ⟨h.keep rfl rfl rfl rfl hs, fun e he => he⟩
  | requireAllocated =>
      simp only [stepRequire]
      split_ifs with hok
      · refine ⟨⟨h.wf.congr rfl rfl, h.flights.congr rfl rfl, h.tickets, hs, ?_⟩, fun e he => he⟩
        exact (h.books.requireAllocated hs hok).shift (by simp [Task.reserved, RequireTask.reserved]) rfl rfl
      · have hinner := @BudgetInner.requireAllocated_rejected s.hotStore.budget.inner
          s.hotStore.budget.capacity size (Bool.eq_false_iff.mpr hok)
        refine ⟨?_, fun e he => he⟩
        refine (h.congr ?_ ?_ ?_ ?_).keep rfl rfl rfl rfl trivial
        · rfl
        · rfl
        · simp only [setHot_hotStore, MemoryStore.requireAllocated, MemoryStore.updateInner, hinner]
        · rfl
  | insertTicket ticketId allocatedTimestamp =>
      simp only [stepRequire]
      refine ⟨⟨h.wf.congr rfl rfl, h.flights.congr rfl rfl, h.tickets.insert hs _ _ _, trivial, ?_⟩,
        fun e he => he⟩
      refine Budgeted.shift (h.books.tickets ?_ ?_ ?_) rfl rfl rfl
      · rfl
      · rfl
      · have := TicketManager.sizeSum_insert_le h.tickets hs ticketId allocatedTimestamp uid.appId
        simp only [setHot_hotStore, Task.reserved, RequireTask.reserved]
        omega

theorem stepMemRead_local {s : Server} {t : MemReadTask} (h : Local s.hotStore s.eventQueue E R P Q (.memRead t)) :
    Local (stepMemRead s t).1.hotStore (stepMemRead s t).1.eventQueue E R P Q (stepMemRead s t).2 ∧
      ∀ e ∈ s.hotStore.state, e ∈ (stepMemRead s t).1.hotStore.state := by
  obtain ⟨uid, lastBlockId, readBufferSize, taskIds, phase⟩ := t
  cases phase with
  | getApp =>
      simp only [stepMemRead]
      split
      · exact ⟨h.keep rfl rfl rfl rfl trivial, fun e he => he⟩
      · exact ⟨h.keep rfl rfl rfl rfl trivial, fun e he => he⟩
  | getOrCreate r =>
      simp only [stepMemRead]
      obtain ⟨hbud, htm⟩ := getOrCreateMemoryBuffer_books s.hotStore uid
      exact ⟨⟨h.wf.getOrCreate _, h.flights.getOrCreate h.wf _, htm ▸ h.tickets, trivial,
        h.books.congr hbud htm (heldBytes_getOrCreate h.wf _)⟩, fun e he => mem_getOrCreate_state he _⟩

theorem stepLocalRead_hot (s : Server) (t : LocalReadTask) :
    (stepLocalRead conf s t).1.hotStore = s.hotStore ∧ (stepLocalRead conf s t).1.eventQueue = s.eventQueue ∧
      (stepLocalRead conf s t).2.flights = [] ∧ (stepLocalRead conf s t).2.WF s.hotStore.state ∧
      (stepLocalRead conf s t).2.reserved = 0 ∧ (stepLocalRead conf s t).2.unsettled = 0 ∧
      (stepLocalRead conf s t).2.releasing = 0 := by
  obtain ⟨uid, index, length, phase⟩ := t
  cases phase with
  | getApp => simp only [stepLocalRead]; split <;> exact ⟨rfl, rfl, rfl, trivial, rfl, rfl, rfl⟩
  | containsKey r => simp only [stepLocalRead]; split <;> exact ⟨rfl, rfl, rfl, trivial, rfl, rfl, rfl⟩
  | entry => simp only [stepLocalRead]; split <;> exact ⟨rfl, rfl, rfl, trivial, rfl, rfl, rfl⟩

theorem stepLocalRead_local {s : Server} {t : LocalReadTask}
    (h : Local s.hotStore s.eventQueue E R P Q (.localRead t)) :
    Local (stepLocalRead conf s t).1.hotStore (stepLocalRead conf s t).1.eventQueue E R P Q
      (stepLocalRead conf s t).2 := by
  obtain ⟨hhot, hq, hfl, hw, hr, hu, hl⟩ := stepLocalRead_hot conf s t
  rw [hhot, hq]
  exact h.keep hfl hr hu hl hw

theorem afterSpill_local {s : Server} {m : SpillMessage} {p : HandlerPhase} (hp : p.holdsFlight = true)
    (hr : HandlerTask.releasing ⟨m, p⟩ = 0) (h : Local s.hotStore s.eventQueue E R P Q (.handler ⟨m, p⟩))
    (res : Except WorkerError Unit) :
    Local (afterSpill s ⟨m, p⟩ res).1.hotStore (afterSpill s ⟨m, p⟩ res).1.eventQueue E R P Q
      (afterSpill s ⟨m, p⟩ res).2 := by
  unfold afterSpill
  split
  · exact h.handler_early hp rfl trivial hr rfl
  · exact h.handler_early hp rfl trivial hr rfl
  · exact h.handler_early hp rfl trivial hr rfl

theorem handlerRelease_local {s : Server} {m : SpillMessage} {dropped : Bool} {phase : ReleasePhase}
    {diskOk : Bool} {res : Server × Task} (hres : stepHandler conf s ⟨m, .release dropped phase⟩ diskOk = some res)
    (h : Local s.hotStore s.eventQueue E R P Q (.handler ⟨m, .release dropped phase⟩)) :
    Local res.1.hotStore res.1.eventQueue E R P Q res.2 ∧ ∀ e ∈ s.hotStore.state, e ∈ res.1.hotStore.state := by
  cases phase with
  | getOrCreate =>
      simp only [stepHandler, Option.some.injEq] at hres
      subst hres
      obtain ⟨r, he, -⟩ := h.flights.held m (by simp [Task.flights, HandlerPhase.holdsFlight])
      rw [getOrCreate_of_mem h.wf he]
      exact ⟨h.handler_early rfl rfl he rfl rfl, fun e he => he⟩
  | clear r =>
      simp only [stepHandler, Option.some.injEq] at hres
      subst hres
      have he : (m.ctx.uid, r) ∈ s.hotStore.state := h.task
      have hf : s.hotStore.FlightsWF (m :: (s.eventQueue ++ E)) := by
        simpa [Task.flights, HandlerPhase.holdsFlight] using h.flights
      obtain ⟨r₀, he₀, hkey, -, hpos, hlt⟩ := hf.held m List.mem_cons_self
      rw [h.wf.ref_eq he₀ he] at hkey
      have hheld := heldBytes_clear h.wf he hkey (toU64 m.size)
      rw [asI64_toU64 (by omega) hlt] at hheld
      refine ⟨⟨h.wf.setBuffer _ _, hf.clear h.wf he, h.tickets, hpos, ?_⟩, fun e he => he⟩
      refine Budgeted.shift (h.books.unhold (x := m.size) ?_ ?_ ?_) rfl rfl ?_
      · rfl
      · rfl
      · simp only [setHot_hotStore]
        omega
      · simp [Task.releasing, HandlerTask.releasing]
  | decUsed =>
      simp only [stepHandler, Option.some.injEq] at hres
      subst hres
      have hpos : 0 ≤ m.size := h.task
      refine ⟨⟨h.wf.congr rfl rfl, h.flights.congr rfl rfl, h.tickets, trivial, ?_⟩, fun e he => he⟩
      exact (h.books.decUsed hpos (show Q + m.size = Q + 0 + m.size by omega)).shift rfl rfl rfl
  | decInflight =>
      simp only [stepHandler, Option.some.injEq] at hres
      subst hres
      refine ⟨(h.congr ?_ ?_ ?_ ?_).keep rfl rfl rfl rfl trivial, fun e he => he⟩ <;> rfl
  | decSpillEventNum =>
      simp only [stepHandler, Option.some.injEq] at hres
      subst hres
      exact ⟨h.keep rfl rfl rfl rfl trivial, fun e he => he⟩

theorem stepHandler_local {s : Server} {t : HandlerTask} {diskOk : Bool} {res : Server × Task}
    (hres : stepHandler conf s t diskOk = some res) (h : Local s.hotStore s.eventQueue E R P Q (.handler t)) :
    Local res.1.hotStore res.1.eventQueue E R P Q res.2 ∧ ∀ e ∈ s.hotStore.state, e ∈ res.1.hotStore.state := by
  obtain ⟨m, phase⟩ := t
  cases phase with
  | start =>
      simp only [stepHandler] at hres
      split at hres
      · cases hres
        exact ⟨afterSpill_local rfl rfl h _, fun e he => by rwa [afterSpill_fst]⟩
      · split at hres <;> cases hres
        · exact ⟨afterSpill_local rfl rfl h _, fun e he => by rwa [afterSpill_fst]⟩
        · exact ⟨h.handler_early rfl rfl trivial rfl rfl, fun e he => he⟩
  | lock obj parentDirIsCreated =>
      simp only [stepHandler] at hres
      split_ifs at hres <;> cases hres
      · exact ⟨afterSpill_local rfl rfl h _, fun e he => by rwa [afterSpill_fst]⟩
      · exact ⟨afterSpill_local rfl rfl h _, fun e he => by rwa [afterSpill_fst]⟩
      · exact ⟨h.handler_early rfl rfl trivial rfl rfl, fun e he => he⟩
  | appendData obj nextOffset index data =>
      simp only [stepHandler] at hres
      split_ifs at hres <;> cases hres
      · exact ⟨h.handler_early rfl rfl trivial rfl rfl, fun e he => he⟩
      · refine ⟨afterSpill_local rfl rfl ?_ _, fun e he => by rwa [afterSpill_fst]⟩
        exact h
  | appendIndex obj nextOffset index =>
      simp only [stepHandler] at hres
      cases hres
      refine ⟨afterSpill_local rfl rfl ?_ _, fun e he => by rwa [afterSpill_fst]⟩
      exact h
  | release dropped phase => exact handlerRelease_local conf hres h
  | republish =>
      simp only [stepHandler, Option.some.injEq] at hres
      subst hres
      have hf : s.hotStore.FlightsWF (m.retried :: (s.eventQueue ++ E)) :=
        FlightsWF.replace (m := m) (by simpa [Task.flights, HandlerPhase.holdsFlight] using h.flights) rfl rfl
      refine ⟨⟨h.wf, hf.perm ?_, h.tickets, trivial, h.books⟩, fun e he => he⟩
      exact ((List.perm_append_singleton m.retried s.eventQueue).append_right E).symm
  | incSpillEventNum =>
      simp only [stepHandler, Option.some.injEq] at hres
      subst hres
      exact ⟨h.keep rfl rfl rfl rfl trivial, fun e he => he⟩

theorem stepTask_local {s : Server} {t : Task} {diskOk : Bool} {res : Server × Task}
    (hres : stepTask conf s t diskOk = some res)
    (hfit : ∀ u, t = .send u → u.underTicket s.hotStore.ticketManager = true)
    (hR : 0 ≤ R) (hPR : P ≤ R) (hQ : 0 ≤ Q) (h : Local s.hotStore s.eventQueue E R P Q t) :
    Local res.1.hotStore res.1.eventQueue E R P Q res.2 ∧ ∀ e ∈ s.hotStore.state, e ∈ res.1.hotStore.state := by
  cases t with
  | send u =>
      cases hres
      exact ⟨stepSend_local conf (hfit u rfl) hR hPR hQ h, stepSend_state conf s u⟩
  | require u =>
      cases hres
      exact stepRequire_local h
  | memRead u =>
      cases hres
      exact stepMemRead_local h
  | localRead u =>
      cases hres
      refine ⟨stepLocalRead_local conf h, fun e he => ?_⟩
      rw [(stepLocalRead_hot conf s u).1]
      exact he
  | handler u => exact stepHandler_local conf hres h
  | done => cases hres

end Server

end Rifflex
