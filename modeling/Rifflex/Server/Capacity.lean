import Rifflex.Server.LedgerSteps
import Rifflex.Lib.Transition

namespace Rifflex

open Word Mem MemoryStore Transition

theorem Task.WF.sums {state : List (PartitionedUId × Nat)} {l : List Task} (h : ∀ t ∈ l, t.WF state) :
    0 ≤ (l.map Task.unsettled).sum ∧ (l.map Task.unsettled).sum ≤ (l.map Task.reserved).sum ∧
      0 ≤ (l.map Task.releasing).sum := by
  refine ⟨List.sum_nonneg ?_, List.sum_le_sum (fun t ht => (h t ht).ledger.2.1), List.sum_nonneg ?_⟩
  · intro x hx
    obtain ⟨t, ht, rfl⟩ := List.mem_map.mp hx
    exact (h t ht).ledger.1
  · intro x hx
    obtain ⟨t, ht, rfl⟩ := List.mem_map.mp hx
    exact (h t ht).ledger.2.2

theorem Task.sum_map_of_perm {l O : List Task} {t : Task} (hp : l.Perm (t :: O)) (f : Task → Int) :
    (l.map f).sum = f t + (O.map f).sum := by
  rw [(hp.map f).sum_eq, List.map_cons, List.sum_cons]

theorem Task.flights_of_perm (q : List SpillMessage) {l O : List Task} {t : Task} (hp : l.Perm (t :: O)) :
    (q ++ l.flatMap Task.flights).Perm (t.flights ++ q ++ O.flatMap Task.flights) := by
  have h1 : (q ++ l.flatMap Task.flights).Perm (q ++ (t.flights ++ O.flatMap Task.flights)) := by
    have := (hp.flatMap_right Task.flights).append_left q
    rwa [List.flatMap_cons] at this
  rw [List.append_assoc]
  exact h1.trans (List.perm_append_comm_assoc q t.flights _)

namespace Server

variable (conf : ServerConfig)

-- Buffers required for non-negative sizes, `i32` batch sums within the released ticket, and no
-- purge of a partition a spill has picked or holds a flight of.
def admissible (s : Server) : Action → Bool
  | .request (.requireBuffer _ _ size) => decide (0 ≤ size)
  | .request (.sendShuffleData req) =>
      req.blocksMap.all (fun e => decide (0 ≤ lengthSum e.2 ∧ lengthSum e.2 < 2 ^ 31))
  | .advance i _ => match s.tasks[i]? with
    | some (.send t) => t.underTicket s.hotStore.ticketManager
    | _ => true
  | .purge => match s.purging with
    | some (_, .memRemove (pid :: _) _) => decide (pid ∉ s.spilling)
    | _ => true
  | _ => true

def Admissible (s : Server) (act : Action) : Prop := s.admissible act = true

instance (s : Server) (act : Action) : Decidable (Admissible s act) :=
  inferInstanceAs (Decidable (s.admissible act = true))

structure Accounted (s : Server) : Prop where
  wf : s.hotStore.StateWF
  flights : s.hotStore.FlightsWF s.flights
  tickets : s.hotStore.ticketManager.WF
  tasks : ∀ t ∈ s.tasks, t.WF s.hotStore.state
  purging : 0 ≤ purgeReleasing s.purging
  ticketCheck : 0 ≤ s.ticketCheck.getD 0
  books : Budgeted s.hotStore s.reserved s.unsettled s.releasing

section Rest

variable (s : Server) (i : Nat)

def restFlights : List SpillMessage := (s.tasks.eraseIdx i).flatMap Task.flights

def restReserved : Int := ((s.tasks.eraseIdx i).map Task.reserved).sum + s.ticketCheck.getD 0

def restUnsettled : Int := ((s.tasks.eraseIdx i).map Task.unsettled).sum

def restReleasing : Int := ((s.tasks.eraseIdx i).map Task.releasing).sum + purgeReleasing s.purging

end Rest

namespace Accounted

variable {s : Server}

theorem of_eq (h : Accounted s) {s' : Server} (hh : s'.hotStore = s.hotStore) (hq : s'.eventQueue = s.eventQueue)
    (ht : s'.tasks = s.tasks) (hp : purgeReleasing s'.purging = purgeReleasing s.purging)
    (hc : s'.ticketCheck = s.ticketCheck) : Accounted s' := by
  have hfl : s'.flights = s.flights := by simp only [Server.flights, hq, ht]
  have hr : s'.reserved = s.reserved := by simp only [Server.reserved, ht, hc]
  have hu : s'.unsettled = s.unsettled := by simp only [Server.unsettled, ht]
  have hl : s'.releasing = s.releasing := by simp only [Server.releasing, ht, hp]
  obtain ⟨h1, h2, h3, h4, h5, h6, h7⟩ := h
  refine ⟨?_, ?_, ?_, ?_, ?_, ?_, ?_⟩
  · rwa [hh]
  · rwa [hh, hfl]
  · rwa [hh]
  · rwa [hh, ht]
  · rwa [hp]
  · rwa [hc]
  · rwa [hh, hr, hu, hl]

theorem spawn (h : Accounted s) {q : List SpillMessage} {t : Task} (hq : (q ++ t.flights).Perm s.eventQueue)
    (hr : t.reserved = 0) (hu : t.unsettled = 0) (hl : t.releasing = 0) (hw : t.WF s.hotStore.state) :
    Accounted ({ s with eventQueue := q }.spawn t) := by
  have hfl : ({ s with eventQueue := q }.spawn t).flights.Perm s.flights := by
    simp only [Server.flights, Server.spawn, List.flatMap_append, List.flatMap_singleton]
    have h1 : (q ++ (s.tasks.flatMap Task.flights ++ t.flights)).Perm
        (q ++ t.flights ++ s.tasks.flatMap Task.flights) := by
      rw [List.append_assoc]
      exact List.perm_append_comm.append_left q
    exact h1.trans (hq.append_right _)
  refine ⟨h.wf, h.flights.perm hfl.symm, h.tickets, ?_, h.purging, h.ticketCheck, ?_⟩
  · intro u hu
    rcases List.mem_append.mp hu with hu | hu
    · exact h.tasks u hu
    · rw [List.mem_singleton.mp hu]
      exact hw
  · refine h.books.shift ?_ ?_ ?_ <;> simp [Server.reserved, Server.unsettled, Server.releasing, Server.spawn, hr, hu, hl]

theorem taskLocal (h : Accounted s) {i : Nat} {t : Task} (hi : s.tasks[i]? = some t) :
    Local s.hotStore s.eventQueue (s.restFlights i) (s.restReserved i) (s.restUnsettled i)
      (s.restReleasing i) t := by
  obtain ⟨hlt, rfl⟩ := List.getElem?_eq_some_iff.mp hi
  have hp := (List.getElem_cons_eraseIdx_perm hlt).symm
  refine ⟨h.wf, h.flights.perm (Task.flights_of_perm _ hp), h.tickets, h.tasks _ (List.getElem_mem hlt), ?_⟩
  refine h.books.shift ?_ ?_ ?_
  · simp only [Server.reserved, restReserved, Task.sum_map_of_perm hp]
    omega
  · simp only [Server.unsettled, restUnsettled, Task.sum_map_of_perm hp]
    omega
  · simp only [Server.releasing, restReleasing, Task.sum_map_of_perm hp]
    omega

theorem rest (h : Accounted s) (i : Nat) :
    0 ≤ s.restReserved i ∧ s.restUnsettled i ≤ s.restReserved i ∧ 0 ≤ s.restReleasing i := by
  obtain ⟨h1, h2, h3⟩ := Task.WF.sums (l := s.tasks.eraseIdx i) (fun t ht => h.tasks t (List.mem_of_mem_eraseIdx ht))
  have h4 := h.purging
  have h5 := h.ticketCheck
  simp only [restReserved, restUnsettled, restReleasing]
  omega

theorem setTask (h : Accounted s) {i : Nat} {t : Task} (hi : s.tasks[i]? = some t) {s1 : Server} {t' : Task}
    (hl : Local s1.hotStore s1.eventQueue (s.restFlights i) (s.restReserved i) (s.restUnsettled i)
      (s.restReleasing i) t')
    (hctl : s1.control = s.control) (hmono : ∀ e ∈ s.hotStore.state, e ∈ s1.hotStore.state) :
    Accounted (s1.setTask i t') := by
  obtain ⟨hlt, -⟩ := List.getElem?_eq_some_iff.mp hi
  simp only [control, Prod.mk.injEq] at hctl
  obtain ⟨htasks, hpurging, hcheck⟩ := hctl
  have hp : (s1.tasks.set i t').Perm (t' :: s.tasks.eraseIdx i) := by
    rw [htasks]
    exact List.set_perm_cons_eraseIdx hlt t'
  refine ⟨hl.wf, hl.flights.perm (Task.flights_of_perm _ hp).symm, hl.tickets, ?_, ?_, ?_, ?_⟩
  · intro u hu
    rcases List.mem_cons.mp (hp.subset hu) with rfl | hu
    · exact hl.task
    · exact (h.tasks u (List.mem_of_mem_eraseIdx hu)).mono hmono
  · simp only [Server.setTask, hpurging]
    exact h.purging
  · simp only [Server.setTask, hcheck]
    exact h.ticketCheck
  · refine hl.books.shift ?_ ?_ ?_
    · simp only [Server.reserved, restReserved, Task.sum_map_of_perm hp, Server.setTask, hcheck]
      omega
    · simp only [Server.unsettled, restUnsettled, Server.setTask, Task.sum_map_of_perm hp]
      omega
    · simp only [Server.releasing, restReleasing, Task.sum_map_of_perm hp, Server.setTask, hpurging]
      omega

theorem advance (h : Accounted s) {i : Nat} {diskOk : Bool} (ha : s.admissible (.advance i diskOk) = true)
    {s' : Server} (he : exec conf s (.advance i diskOk) = some s') : Accounted s' := by
  obtain ⟨t, res, hi, hres, rfl⟩ := exec_advance_cases conf he
  have hfit : ∀ u, t = .send u → u.underTicket s.hotStore.ticketManager = true := by
    rintro u rfl
    simpa [admissible, hi] using ha
  obtain ⟨hR, hPR, hQ⟩ := h.rest i
  obtain ⟨hl, hmono⟩ := stepTask_local conf hres hfit hR hPR hQ (h.taskLocal hi)
  exact h.setTask hi hl (stepTask_control conf hres) hmono

theorem dispatch (h : Accounted s) {s' : Server} (he : exec conf s .dispatch = some s') : Accounted s' := by
  obtain ⟨message, rest, hq, rfl⟩ := exec_dispatch_cases conf he
  refine h.spawn ?_ rfl rfl rfl trivial
  rw [hq]
  exact List.perm_append_singleton message rest

theorem request (h : Accounted s) {r : Request} (ha : s.admissible (.request r) = true) :
    Accounted (handleRequest conf s r) := by
  have hq : (s.eventQueue ++ []).Perm s.eventQueue := by rw [List.append_nil]
  cases r with
  | registerShuffle appId shuffleId => exact h.of_eq rfl rfl rfl rfl rfl
  | unregisterShuffle appId shuffleId => exact h.of_eq rfl rfl rfl rfl rfl
  | unregisterApp appId => exact h.of_eq rfl rfl rfl rfl rfl
  | appHeartbeat appId =>
      simp only [handleRequest]
      split
      · exact h.of_eq rfl rfl rfl rfl rfl
      · exact h
  | requireBuffer appId shuffleId size =>
      have hs : 0 ≤ size := by simpa [admissible] using ha
      exact h.spawn hq rfl rfl rfl hs
  | sendShuffleData req =>
      have hr : req.InRange := by simpa [admissible, SendRequest.InRange] using ha
      exact h.spawn hq rfl rfl rfl ⟨hr, rfl⟩
  | getMemoryShuffleData uid lastBlockId readBufferSize taskIds => exact h.spawn hq rfl rfl rfl trivial
  | getLocalShuffleData uid offset length => exact h.spawn hq rfl rfl rfl trivial
  | getLocalShuffleIndex uid => exact h.spawn hq rfl rfl rfl trivial

theorem removeEntry (h : Accounted s) {ctx : PurgeDataContext} {pid : PartitionedUId} {rest : List PartitionedUId}
    {used : Int} (hp : s.purging = some (ctx, .memRemove (pid :: rest) used)) (hpid : pid ∉ s.spilling) :
    Accounted { s with hotStore := (s.hotStore.removeEntry pid).1,
                       purging := some (ctx, .memRemove rest (used + (s.hotStore.removeEntry pid).2)) } := by
  obtain ⟨hbud, htm, -⟩ := removeEntry_books s.hotStore pid
  have hflight : ∀ m ∈ s.flights, m.ctx.uid ≠ pid := fun m hm heq =>
    hpid (List.mem_append_left _ (List.mem_map.mpr ⟨m, hm, heq⟩))
  have hused : 0 ≤ used := by simpa [purgeReleasing, hp] using h.purging
  have hx := h.flights.removeEntry_nonneg pid
  refine ⟨h.wf.removeEntry pid, h.flights.removeEntry hflight, htm ▸ h.tickets, ?_, ?_, h.ticketCheck, ?_⟩
  · intro t ht
    rw [removeEntry_state_eq]
    refine (h.tasks t ht).erase (fun uid hu heq => hpid ?_)
    subst heq
    rcases List.mem_append.mp hu with hu | hu
    · obtain ⟨m, hm, rfl⟩ := List.mem_map.mp hu
      exact List.mem_append_left _ (List.mem_map_of_mem
        (List.mem_append_right _ (List.mem_flatMap.mpr ⟨t, ht, hm⟩)))
    · exact List.mem_append_right _ (List.mem_flatMap.mpr ⟨t, ht, hu⟩)
  · show 0 ≤ used + (s.hotStore.removeEntry pid).2
    omega
  · refine (h.books.unhold hbud htm (heldBytes_removeEntry h.wf pid)).shift rfl rfl ?_
    simp only [Server.releasing, hp, purgeReleasing]
    omega

theorem purgeUsed (h : Accounted s) {ctx : PurgeDataContext} {used : Int}
    (hp : s.purging = some (ctx, .memRemove [] used)) :
    Accounted { s with hotStore := s.hotStore.decUsed used, purging := some (ctx, .diskDelete 0) } := by
  have hused : 0 ≤ used := by simpa [purgeReleasing, hp] using h.purging
  refine ⟨h.wf.congr rfl rfl, h.flights.congr rfl rfl, h.tickets, h.tasks, le_refl 0, h.ticketCheck, ?_⟩
  refine h.books.decUsed hused ?_
  simp only [Server.releasing, hp, purgeReleasing]
  omega

theorem purge (h : Accounted s) (ha : s.admissible .purge = true) {s' : Server}
    (he : stepPurge s = some s') : Accounted s' := by
  rcases stepPurge_cases he with
    ⟨event, rest, hp, -, ⟨-, rfl⟩ | ⟨-, rfl⟩⟩ | ⟨ctx, pid, rest, used, hp, rfl⟩ | ⟨ctx, used, hp, rfl⟩ |
    ⟨ctx, i, hp, ⟨-, rfl⟩ | ⟨-, rfl⟩⟩ | ⟨ctx, key, rest, size, hp, ⟨obj, -, rfl⟩ | ⟨-, rfl⟩⟩ |
    ⟨ctx, size, hp, rfl⟩ | ⟨ctx, obj, rest, size, hp, -, rfl⟩
  · exact h.of_eq rfl rfl rfl rfl rfl
  · exact h.of_eq rfl rfl rfl (by simp only [purgeReleasing, hp]) rfl
  · have hpid : pid ∉ s.spilling := by simpa [admissible, hp] using ha
    exact h.removeEntry hp hpid
  · exact h.purgeUsed hp
  all_goals exact h.of_eq rfl rfl rfl (by simp only [purgeReleasing, hp]) rfl

theorem checkTickets (h : Accounted s) : Accounted (stepTicketCheck s) := by
  obtain ⟨h1, h2, -⟩ := Task.WF.sums h.tasks
  cases hc : s.ticketCheck with
  | none =>
      obtain ⟨hwf, hsum, hpos⟩ := TicketManager.removeTickets_wf h.tickets
        (s.hotStore.ticketManager.discardTickets s.now)
      simp only [stepTicketCheck, hc]
      refine ⟨h.wf.congr rfl rfl, h.flights.congr rfl rfl, hwf, h.tasks, h.purging, hpos,
        h.books.tickets rfl rfl ?_⟩
      simp only [Server.reserved, hc, Option.getD]
      omega
  | some total =>
      have ht : 0 ≤ total := by simpa [hc] using h.ticketCheck
      have hb : Budgeted s.hotStore ((s.tasks.map Task.reserved).sum + total) s.unsettled s.releasing :=
        h.books.shift (by simp [Server.reserved, hc]) rfl rfl
      simp only [stepTicketCheck, hc]
      split_ifs
      · refine ⟨h.wf.congr (releaseAllocated_state _ _) (by rw [releaseAllocated_buffers]),
          h.flights.congr (releaseAllocated_state _ _) (releaseAllocated_buffers _ _),
          (releaseAllocated_ticketManager _ _).symm ▸ h.tickets,
          fun t ht => (releaseAllocated_state s.hotStore total).symm ▸ h.tasks t ht, h.purging, le_refl 0, ?_⟩
        refine (hb.releaseAllocated h.tickets.sizeSum_nonneg ht (by omega)).shift ?_ rfl rfl
        simp [Server.reserved]
      · refine ⟨h.wf, h.flights, h.tickets, h.tasks, h.purging, le_refl 0, h.books.shift ?_ rfl rfl⟩
        simp_all [Server.reserved]

end Accounted

theorem exec_accounted {s : Server} (h : Accounted s) {act : Action} (ha : Admissible s act) {s' : Server}
    (he : exec conf s act = some s') : Accounted s' := by
  cases act with
  | advance i diskOk => exact h.advance conf ha he
  | dispatch => exact h.dispatch conf he
  | purge => exact h.purge ha he
  | request r =>
      obtain rfl := Option.some.inj he
      exact h.request conf ha
  | ticketCheck =>
      obtain rfl := Option.some.inj he
      exact h.checkTickets
  | _ =>
      obtain rfl := Option.some.inj he
      exact h.of_eq rfl rfl rfl rfl rfl

theorem init_accounted (hcap0 : 0 ≤ conf.memory.capacity) (hcap : conf.memory.capacity < 2 ^ 63) :
    Accounted (init conf) := by
  refine ⟨⟨List.nodup_nil, List.nodup_nil, ?_⟩, ⟨?_, List.nodup_nil, ?_, ?_⟩, ⟨List.nodup_nil, ?_⟩, ?_,
    le_refl 0, le_refl 0, ⟨le_refl 0, le_refl 0, ?_, hcap, ?_, ?_⟩⟩
  · intro e he
    cases he
  · intro m hm
    cases hm
  · intro e he
    cases he
  · intro e he
    cases he
  · intro p hp
    cases hp
  · intro t ht
    cases ht
  · show (0 : Int) + 0 ≤ conf.memory.capacity
    omega
  · show (0 : Int) + (0 + 0) ≤ 0
    omega
  · show (0 : Int) + (0 + 0) ≤ 0 + 0
    omega

theorem reach_accounted (hcap0 : 0 ≤ conf.memory.capacity) (hcap : conf.memory.capacity < 2 ^ 63) {s : Server}
    (h : Reach (exec conf) Admissible (init conf) s) : Accounted s :=
  reach_invariant (fun _ _ _ hs ha he => exec_accounted conf hs ha he) (init_accounted conf hcap0 hcap) h

namespace Accounted

variable {s : Server}

theorem held_add_allocated_le (h : Accounted s) (hs : ∀ t ∈ s.tasks, t.settling = false) :
    s.hotStore.heldBytes + s.hotStore.budget.inner.allocated ≤ s.hotStore.budget.capacity := by
  have hu : s.unsettled = 0 := List.sum_eq_zero (fun x hx => by
    obtain ⟨t, ht, rfl⟩ := List.mem_map.mp hx
    exact (h.tasks t ht).unsettled_eq_zero (hs t ht))
  obtain ⟨-, -, h3⟩ := Task.WF.sums h.tasks
  have h4 := h.purging
  have h7 := h.books.within
  have h9 := h.books.held
  rw [hu] at h9
  simp only [Server.releasing] at h9
  omega

end Accounted

theorem held_within_capacity (hcap0 : 0 ≤ conf.memory.capacity) (hcap : conf.memory.capacity < 2 ^ 63)
    {s : Server} (h : Reach (exec conf) Admissible (init conf) s) (hs : ∀ t ∈ s.tasks, t.settling = false) :
    s.hotStore.heldBytes + s.hotStore.budget.inner.allocated ≤ s.hotStore.budget.capacity :=
  (reach_accounted conf hcap0 hcap h).held_add_allocated_le hs

def spillThenPurge : List Action :=
  [.request (.registerShuffle "a" 0), .request (.registerShuffle "b" 0),
   .request (.requireBuffer "a" 0 10)] ++ advanceAll 0 3 ++
  [.request (.sendShuffleData ⟨.grpc, "a", 0, 1, [(0, [tenBytes])]⟩)] ++ advanceAll 1 8 ++
  [.request (.requireBuffer "b" 0 10)] ++ advanceAll 2 3 ++
  [.request (.sendShuffleData ⟨.grpc, "b", 0, 2, [(0, [tenBytes])]⟩)] ++ advanceAll 3 14 ++
  [.dispatch] ++ advanceAll 4 9 ++ [.request (.unregisterApp "a")] ++ List.replicate 8 .purge

theorem spillThenPurge_within_capacity :
    0 ≤ smallConf.memory.capacity ∧ smallConf.memory.capacity < 2 ^ 63 ∧
      ∃ s, Reach (exec smallConf) Admissible (init smallConf) s ∧ (∀ t ∈ s.tasks, t.settling = false) ∧
        s.hotStore.heldBytes + s.hotStore.budget.inner.allocated ≤ s.hotStore.budget.capacity := by
  obtain ⟨s, hr, hs⟩ := reach_of_endsInAllowed (show EndsInAllowed (exec smallConf) Admissible (init smallConf)
    spillThenPurge (fun s => ∀ t ∈ s.tasks, t.settling = false) by decide +kernel)
  exact ⟨by decide, by decide, s, hr, hs, held_within_capacity smallConf (by decide) (by decide) hr hs⟩

def thousandBytes : Block := ⟨1, 1000, 1000, 0, [], 0⟩

def overSend : List Action :=
  [.request (.registerShuffle "a" 0), .request (.requireBuffer "a" 0 10)] ++ advanceAll 0 3 ++
  [.request (.sendShuffleData ⟨.grpc, "a", 0, 1, [(0, [thousandBytes])]⟩)] ++ advanceAll 1 8

theorem over_send_exceeds_capacity :
    ∃ s, Reach (exec smallConf) Always (init smallConf) s ∧ Quiet s ∧
      s.hotStore.heldBytes = 1000 ∧ s.hotStore.budget.inner.allocated = 990 :=
  reach_of_endsIn (fun _ _ _ => trivial)
    (show EndsIn (exec smallConf) (init smallConf) overSend _ by decide +kernel)

def purgeDuringSpill : List Action :=
  [.request (.registerShuffle "a" 0), .request (.registerShuffle "b" 0),
   .request (.requireBuffer "a" 0 10)] ++ advanceAll 0 3 ++
  [.request (.sendShuffleData ⟨.grpc, "a", 0, 1, [(0, [tenBytes])]⟩)] ++ advanceAll 1 8 ++
  [.request (.requireBuffer "b" 0 10)] ++ advanceAll 2 3 ++
  [.request (.sendShuffleData ⟨.grpc, "b", 0, 2, [(0, [tenBytes])]⟩)] ++ advanceAll 3 14 ++
  [.request (.unregisterApp "a")] ++ List.replicate 6 .purge ++
  [.dispatch] ++ advanceAll 4 9

theorem purge_during_spill_used_below_held :
    ∃ s, Reach (exec smallConf) Always (init smallConf) s ∧ Quiet s ∧
      s.hotStore.budget.inner.used = 0 ∧ s.hotStore.heldBytes = 10 :=
  reach_of_endsIn (fun _ _ _ => trivial)
    (show EndsIn (exec smallConf) (init smallConf) purgeDuringSpill _ by decide +kernel)

end Server

end Rifflex
