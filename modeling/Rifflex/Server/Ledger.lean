import Rifflex.Server.Frame
import Rifflex.Store.Mem.Held

namespace Rifflex

open Word Mem MemoryStore

def batchBytes (batches : List (Int × List Block)) : Int := (batches.map (fun e => lengthSum e.2)).sum

@[simp] theorem batchBytes_nil : batchBytes [] = 0 := rfl

@[simp] theorem batchBytes_cons (e : Int × List Block) (rest : List (Int × List Block)) :
    batchBytes (e :: rest) = lengthSum e.2 + batchBytes rest := by
  simp [batchBytes]

def SendRequest.InRange (req : SendRequest) : Prop :=
  ∀ e ∈ req.blocksMap, 0 ≤ lengthSum e.2 ∧ lengthSum e.2 < 2 ^ 31

theorem batchBytes_nonneg {req : SendRequest} (h : req.InRange) {batches : List (Int × List Block)}
    (hsub : batches <:+ req.blocksMap) : 0 ≤ batchBytes batches :=
  List.sum_nonneg (fun x hx => by
    obtain ⟨e, he, rfl⟩ := List.mem_map.mp hx
    exact (h e (hsub.subset he)).1)

namespace SpillPhase

def message : SpillPhase → List SpillMessage
  | .publish m _ _ => [m]
  | _ => []

def picked : SpillPhase → List PartitionedUId
  | .pickup => []
  | .lookup candidates => candidates
  | .spill buffers _ => buffers.map Prod.fst
  | .publish _ buffers _ => buffers.map Prod.fst
  | .incEventNum buffers _ => buffers.map Prod.fst

def Picked (state : List (PartitionedUId × Nat)) : SpillPhase → Prop
  | .pickup => True
  | .lookup candidates => ∀ c ∈ candidates, c ∈ Assoc.keys state
  | .spill buffers _ => ∀ e ∈ buffers, e ∈ state
  | .publish _ buffers _ => ∀ e ∈ buffers, e ∈ state
  | .incEventNum buffers _ => ∀ e ∈ buffers, e ∈ state

end SpillPhase

-- A handler holds its flight until `clear_spilled_memory_buffer` or a retry.
def HandlerPhase.holdsFlight : HandlerPhase → Bool
  | .release _ .decUsed => false
  | .release _ .decInflight => false
  | .release _ .decSpillEventNum => false
  | .incSpillEventNum => false
  | _ => true

namespace Task

def flights : Task → List SpillMessage
  | .send t => match t.phase with
    | .spilling phase _ => phase.message
    | _ => []
  | .handler t => if t.phase.holdsFlight then [t.message] else []
  | _ => []

def picked : Task → List PartitionedUId
  | .send t => match t.phase with
    | .spilling phase _ => phase.picked
    | _ => []
  | _ => []

end Task

namespace SendTask

-- The bytes a send holds of `allocated`: its released ticket less what it moved to `used`.
def reserved (t : SendTask) : Int :=
  match t.phase with
  | .getApp => 0
  | .releaseTicket => 0
  | .releaseUnused => t.ticketLen - t.insertedTotalSize
  | _ => t.ticketLen

def unsettled (t : SendTask) : Int :=
  match t.phase with
  | .appInsert => t.insertedTotalSize
  | .getOrCreate _ _ => t.insertedTotalSize
  | .append _ _ _ => t.insertedTotalSize
  | .trySpill inserted => t.insertedTotalSize + inserted
  | .spilling _ inserted => t.insertedTotalSize + inserted
  | _ => 0

def settling (t : SendTask) : Bool :=
  match t.phase with
  | .getApp => false
  | .releaseTicket => false
  | .releaseUnused => false
  | .appInsert => decide (t.pending.length < t.req.blocksMap.length)
  | _ => true

structure Fits (t : SendTask) (cur : Int) : Prop where
  suffix : t.pending <:+ t.req.blocksMap
  total : t.insertedTotalSize + cur + batchBytes t.pending = batchBytes t.req.blocksMap
  ticket : batchBytes t.req.blocksMap ≤ t.ticketLen
  inserted_nonneg : 0 ≤ t.insertedTotalSize
  cur_nonneg : 0 ≤ cur

def PhaseWF (state : List (PartitionedUId × Nat)) (t : SendTask) : Prop :=
  match t.phase with
  | .getApp => t.insertedTotalSize = 0
  | .releaseTicket => t.insertedTotalSize = 0
  | .appInsert => t.Fits 0
  | .getOrCreate ctx inserted => t.Fits inserted ∧ 0 ≤ asI64 ctx.dataSize ∧ asI64 ctx.dataSize ≤ inserted
  | .append _ ctx inserted => t.Fits inserted ∧ 0 ≤ asI64 ctx.dataSize ∧ asI64 ctx.dataSize ≤ inserted
  | .trySpill inserted => t.Fits inserted
  | .spilling phase inserted => t.Fits inserted ∧ phase.Picked state
  | .releaseUnused => 0 ≤ t.insertedTotalSize ∧ t.insertedTotalSize ≤ t.ticketLen

structure WF (state : List (PartitionedUId × Nat)) (t : SendTask) : Prop where
  inRange : t.req.InRange
  phase : t.PhaseWF state

end SendTask

def RequireTask.reserved (t : RequireTask) : Int :=
  match t.phase with
  | .insertTicket _ _ => t.size
  | _ => 0

def HandlerTask.releasing (t : HandlerTask) : Int :=
  match t.phase with
  | .release _ .decUsed => t.message.size
  | _ => 0

def HandlerTask.WF (state : List (PartitionedUId × Nat)) (t : HandlerTask) : Prop :=
  match t.phase with
  | .release _ (.clear r) => (t.message.ctx.uid, r) ∈ state
  | .release _ .decUsed => 0 ≤ t.message.size
  | _ => True

namespace Task

def reserved : Task → Int
  | .send t => t.reserved
  | .require t => t.reserved
  | _ => 0

def unsettled : Task → Int
  | .send t => t.unsettled
  | _ => 0

def releasing : Task → Int
  | .handler t => t.releasing
  | _ => 0

def settling : Task → Bool
  | .send t => t.settling
  | _ => false

def WF (state : List (PartitionedUId × Nat)) : Task → Prop
  | .send t => t.WF state
  | .require t => 0 ≤ t.size
  | .handler t => t.WF state
  | _ => True

end Task

def purgeReleasing : Option (PurgeDataContext × PurgePhase) → Int
  | some (_, .memRemove _ used) => used
  | _ => 0

namespace Server

def flights (s : Server) : List SpillMessage := s.eventQueue ++ s.tasks.flatMap Task.flights

def spilling (s : Server) : List PartitionedUId :=
  s.flights.map (fun m => m.ctx.uid) ++ s.tasks.flatMap Task.picked

def reserved (s : Server) : Int := (s.tasks.map Task.reserved).sum + s.ticketCheck.getD 0

def unsettled (s : Server) : Int := (s.tasks.map Task.unsettled).sum

def releasing (s : Server) : Int := (s.tasks.map Task.releasing).sum + purgeReleasing s.purging

end Server

section TaskFacts

variable {state state' : List (PartitionedUId × Nat)}

theorem SendTask.Fits.pending_nonneg {t : SendTask} {cur : Int} (hf : t.Fits cur) (hr : t.req.InRange) :
    0 ≤ batchBytes t.pending :=
  batchBytes_nonneg hr hf.suffix

theorem SendTask.Fits.phase {t : SendTask} {cur : Int} (hf : t.Fits cur) (p : SendPhase) :
    ({ t with phase := p } : SendTask).Fits cur :=
  ⟨hf.suffix, hf.total, hf.ticket, hf.inserted_nonneg, hf.cur_nonneg⟩

theorem SendTask.Fits.le_ticket {t : SendTask} {cur : Int} (hf : t.Fits cur) (hr : t.req.InRange) :
    t.insertedTotalSize + cur ≤ t.ticketLen := by
  have := hf.pending_nonneg hr
  have := hf.total
  have := hf.ticket
  omega

theorem SpillPhase.Picked.mono {p : SpillPhase} (h : p.Picked state) (hs : ∀ e ∈ state, e ∈ state') :
    p.Picked state' := by
  have hkeys : ∀ c ∈ Assoc.keys state, c ∈ Assoc.keys state' := fun c hc => by
    obtain ⟨e, he, rfl⟩ := List.mem_map.mp hc
    exact List.mem_map_of_mem (hs e he)
  cases p with
  | pickup => trivial
  | lookup candidates => exact fun c hc => hkeys c (h c hc)
  | spill buffers _ => exact fun e he => hs e (h e he)
  | publish _ buffers _ => exact fun e he => hs e (h e he)
  | incEventNum buffers _ => exact fun e he => hs e (h e he)

theorem Task.WF.mono {t : Task} (h : t.WF state) (hs : ∀ e ∈ state, e ∈ state') : t.WF state' := by
  cases t with
  | send t =>
      refine ⟨h.inRange, ?_⟩
      have hp := h.phase
      rcases t with ⟨req, app, ticketLen, pending, insertedTotalSize, phase⟩
      cases phase with
      | spilling p inserted => exact ⟨hp.1, hp.2.mono hs⟩
      | _ => exact hp
  | handler t =>
      rcases t with ⟨m, phase⟩
      cases phase with
      | release dropped phase =>
          cases phase with
          | clear r => exact hs _ h
          | _ => exact h
      | _ => exact h
  | _ => exact h

theorem Task.WF.erase {t : Task} (h : t.WF state) {pid : PartitionedUId}
    (hp : ∀ uid ∈ t.flights.map (fun m => m.ctx.uid) ++ t.picked, uid ≠ pid) :
    t.WF (Assoc.erase pid state) := by
  have hmem : ∀ e ∈ state, e.1 ≠ pid → e ∈ Assoc.erase pid state := fun e he hne =>
    List.mem_filter.mpr ⟨he, by simpa using hne⟩
  cases t with
  | send t =>
      refine ⟨h.inRange, ?_⟩
      have hph := h.phase
      rcases t with ⟨req, app, ticketLen, pending, insertedTotalSize, phase⟩
      cases phase with
      | spilling p inserted =>
          refine ⟨hph.1, ?_⟩
          have hpk : ∀ uid ∈ p.picked, uid ≠ pid := fun uid hu => hp uid (List.mem_append_right _ hu)
          cases p with
          | pickup => trivial
          | lookup candidates =>
              exact fun c hc => Assoc.mem_keys_erase.mpr ⟨hph.2 c hc, hpk c hc⟩
          | spill buffers _ =>
              exact fun e he => hmem e (hph.2 e he) (hpk e.1 (List.mem_map_of_mem he))
          | publish _ buffers _ =>
              exact fun e he => hmem e (hph.2 e he) (hpk e.1 (List.mem_map_of_mem he))
          | incEventNum buffers _ =>
              exact fun e he => hmem e (hph.2 e he) (hpk e.1 (List.mem_map_of_mem he))
      | _ => exact hph
  | handler t =>
      rcases t with ⟨m, phase⟩
      cases phase with
      | release dropped phase =>
          cases phase with
          | clear r =>
              exact hmem _ h (hp _ (by simp [Task.flights, HandlerPhase.holdsFlight]))
          | _ => exact h
      | _ => exact h
  | _ => exact h

theorem SendTask.Fits.bounds {t : SendTask} {cur : Int} (hf : t.Fits cur) (hr : t.req.InRange) :
    0 ≤ t.insertedTotalSize ∧ 0 ≤ cur ∧ t.insertedTotalSize + cur ≤ t.ticketLen :=
  ⟨hf.inserted_nonneg, hf.cur_nonneg, hf.le_ticket hr⟩

theorem SendTask.WF.ledger {t : SendTask} (h : t.WF state) : 0 ≤ t.unsettled ∧ t.unsettled ≤ t.reserved := by
  have hr := h.inRange
  have hp := h.phase
  rcases t with ⟨req, app, ticketLen, pending, insertedTotalSize, phase⟩
  cases phase with
  | getApp => exact ⟨le_refl 0, le_refl 0⟩
  | releaseTicket => exact ⟨le_refl 0, le_refl 0⟩
  | appInsert =>
      obtain ⟨h1, -, h3⟩ := hp.bounds hr
      simp only [SendTask.unsettled, SendTask.reserved] at h1 h3 ⊢
      omega
  | getOrCreate ctx inserted =>
      obtain ⟨h1, h2, h3⟩ := hp.1.bounds hr
      simp only [SendTask.unsettled, SendTask.reserved] at h1 h3 ⊢
      omega
  | append r ctx inserted =>
      obtain ⟨h1, h2, h3⟩ := hp.1.bounds hr
      simp only [SendTask.unsettled, SendTask.reserved] at h1 h3 ⊢
      omega
  | trySpill inserted =>
      obtain ⟨h1, h2, h3⟩ := hp.bounds hr
      simp only [SendTask.unsettled, SendTask.reserved] at h1 h3 ⊢
      omega
  | spilling p inserted =>
      obtain ⟨h1, h2, h3⟩ := hp.1.bounds hr
      simp only [SendTask.unsettled, SendTask.reserved] at h1 h3 ⊢
      omega
  | releaseUnused =>
      obtain ⟨h1, h2⟩ : 0 ≤ insertedTotalSize ∧ insertedTotalSize ≤ ticketLen := hp
      simp only [SendTask.unsettled, SendTask.reserved]
      omega

theorem Task.WF.ledger {t : Task} (h : t.WF state) :
    0 ≤ t.unsettled ∧ t.unsettled ≤ t.reserved ∧ 0 ≤ t.releasing := by
  cases t with
  | send t => exact ⟨(SendTask.WF.ledger h).1, (SendTask.WF.ledger h).2, le_refl 0⟩
  | require t =>
      rcases t with ⟨uid, size, phase⟩
      have h1 : 0 ≤ size := h
      cases phase <;> simp [Task.unsettled, Task.reserved, Task.releasing, RequireTask.reserved, h1]
  | handler t =>
      rcases t with ⟨m, phase⟩
      refine ⟨le_refl 0, le_refl 0, ?_⟩
      cases phase with
      | release dropped phase =>
          cases phase with
          | decUsed => exact h
          | _ => exact le_refl 0
      | _ => exact le_refl 0
  | memRead t => exact ⟨le_refl 0, le_refl 0, le_refl 0⟩
  | localRead t => exact ⟨le_refl 0, le_refl 0, le_refl 0⟩
  | done => exact ⟨le_refl 0, le_refl 0, le_refl 0⟩

theorem Task.WF.unsettled_eq_zero {t : Task} (h : t.WF state) (hs : t.settling = false) :
    t.unsettled = 0 := by
  cases t with
  | send t =>
      have hp := h.phase
      rcases t with ⟨req, app, ticketLen, pending, insertedTotalSize, phase⟩
      cases phase with
      | appInsert =>
          have hlen : req.blocksMap.length ≤ pending.length := by
            simpa [Task.settling, SendTask.settling] using hs
          have hpend : pending = req.blocksMap := hp.suffix.eq_of_length_le hlen
          have := hp.total
          simp only [hpend] at this
          simp only [Task.unsettled, SendTask.unsettled]
          omega
      | getApp => rfl
      | releaseTicket => rfl
      | releaseUnused => rfl
      | _ => simp [Task.settling, SendTask.settling] at hs
  | _ => rfl

end TaskFacts

-- `allocated` covers tickets and reservations; `used` covers the held bytes but for what sends
-- have yet to move into it, beside what is released and yet to leave it.
structure Budgeted (hot : MemoryStore) (reserved unsettled releasing : Int) : Prop where
  used_nonneg : 0 ≤ hot.budget.inner.used
  allocated_nonneg : 0 ≤ hot.budget.inner.allocated
  within : hot.budget.inner.used + hot.budget.inner.allocated ≤ hot.budget.capacity
  capacity_lt : hot.budget.capacity < 2 ^ 63
  reserve : hot.ticketManager.sizeSum + reserved ≤ hot.budget.inner.allocated
  held : hot.heldBytes + releasing ≤ hot.budget.inner.used + unsettled

namespace Budgeted

variable {hot hot' : MemoryStore} {R P Q R' P' Q' : Int}

theorem congr (h : Budgeted hot R P Q) (hb : hot'.budget = hot.budget)
    (ht : hot'.ticketManager = hot.ticketManager) (hh : hot'.heldBytes = hot.heldBytes) :
    Budgeted hot' R P Q := by
  obtain ⟨h1, h2, h3, h4, h5, h6⟩ := h
  exact ⟨hb ▸ h1, hb ▸ h2, hb ▸ h3, hb ▸ h4, ht ▸ hb ▸ h5, hh ▸ hb ▸ h6⟩

theorem shift (h : Budgeted hot R P Q) (hR : R' = R) (hP : P' = P) (hQ : Q' = Q) : Budgeted hot R' P' Q' :=
  hR ▸ hP ▸ hQ ▸ h

theorem insert (h : Budgeted hot R P Q) (hb : hot'.budget = hot.budget)
    (ht : hot'.ticketManager = hot.ticketManager) {x : Int} (hh : hot'.heldBytes ≤ hot.heldBytes + x) :
    Budgeted hot' R (P + x) Q := by
  obtain ⟨h1, h2, h3, h4, h5, h6⟩ := h
  refine ⟨hb ▸ h1, hb ▸ h2, hb ▸ h3, hb ▸ h4, ht ▸ hb ▸ h5, ?_⟩
  rw [hb]
  omega

theorem move (h : Budgeted hot R P Q) (hT : 0 ≤ hot.ticketManager.sizeSum) {x : Int} (hx : 0 ≤ x)
    (hR' : 0 ≤ R') (hR : R = R' + x) (hP : P = P' + x) : Budgeted (hot.moveAllocatedToUsed x) R' P' Q := by
  obtain ⟨h1, h2, h3, h4, h5, h6⟩ := h
  have hA : min hot.budget.inner.allocated x = x := min_eq_right (by omega)
  refine ⟨?_, ?_, ?_, ?_, ?_, ?_⟩ <;>
    simp only [MemoryStore.moveAllocatedToUsed_eq, MemoryStore.updateInner_inner,
      MemoryStore.updateInner_capacity, MemoryStore.updateInner_ticketManager,
      MemoryStore.updateInner_heldBytes, BudgetInner.moveAllocatedToUsed_used,
      BudgetInner.moveAllocatedToUsed_allocated, hA] <;> omega

theorem release (h : Budgeted hot R P Q) (hT : 0 ≤ hot.ticketManager.sizeSum) {x : Int} (hx : 0 ≤ x)
    (hR' : 0 ≤ R') (hR : R = R' + x) : Budgeted (hot.decAllocated x) R' P Q := by
  obtain ⟨h1, h2, h3, h4, h5, h6⟩ := h
  have hA : ¬ hot.budget.inner.allocated < x := by omega
  refine ⟨?_, ?_, ?_, ?_, ?_, ?_⟩ <;>
    simp only [MemoryStore.decAllocated_eq, MemoryStore.updateInner_inner,
      MemoryStore.updateInner_capacity, MemoryStore.updateInner_ticketManager,
      MemoryStore.updateInner_heldBytes, BudgetInner.decAllocated_used,
      BudgetInner.decAllocated_allocated, hA, if_false] <;> omega

theorem decUsed (h : Budgeted hot R P Q) {x : Int} (hx : 0 ≤ x) (hQ : Q = Q' + x) :
    Budgeted (hot.decUsed x) R P Q' := by
  obtain ⟨h1, h2, h3, h4, h5, h6⟩ := h
  have hU : hot.budget.inner.used - x ≤ (hot.budget.inner.decUsed x).used ∧
      0 ≤ (hot.budget.inner.decUsed x).used ∧ (hot.budget.inner.decUsed x).used ≤ hot.budget.inner.used := by
    rw [BudgetInner.decUsed_used]
    split_ifs <;> omega
  refine ⟨?_, ?_, ?_, ?_, ?_, ?_⟩ <;>
    simp only [MemoryStore.decUsed_eq, MemoryStore.updateInner_inner,
      MemoryStore.updateInner_capacity, MemoryStore.updateInner_ticketManager,
      MemoryStore.updateInner_heldBytes, BudgetInner.decUsed_allocated] <;> omega

theorem unhold (h : Budgeted hot R P Q) (hb : hot'.budget = hot.budget)
    (ht : hot'.ticketManager = hot.ticketManager) {x : Int} (hh : hot'.heldBytes + x = hot.heldBytes) :
    Budgeted hot' R P (Q + x) := by
  obtain ⟨h1, h2, h3, h4, h5, h6⟩ := h
  refine ⟨hb ▸ h1, hb ▸ h2, hb ▸ h3, hb ▸ h4, ht ▸ hb ▸ h5, ?_⟩
  rw [hb]
  omega

theorem tickets (h : Budgeted hot R P Q) (hb : hot'.budget = hot.budget) (hh : hot'.heldBytes = hot.heldBytes)
    (hT : hot'.ticketManager.sizeSum + R' ≤ hot.ticketManager.sizeSum + R) : Budgeted hot' R' P Q := by
  obtain ⟨h1, h2, h3, h4, h5, h6⟩ := h
  refine ⟨hb ▸ h1, hb ▸ h2, hb ▸ h3, hb ▸ h4, ?_, hh ▸ hb ▸ h6⟩
  rw [hb]
  omega

theorem releaseAllocated {x : Int} (h : Budgeted hot (R' + x) P Q) (hT : 0 ≤ hot.ticketManager.sizeSum)
    (hx : 0 ≤ x) (hR' : 0 ≤ R') : Budgeted (hot.releaseAllocated x) R' P Q := by
  unfold MemoryStore.releaseAllocated
  split
  · exact h.release hT hx hR' rfl
  · refine (h.congr rfl rfl rfl).tickets rfl rfl ?_
    show hot.ticketManager.sizeSum + R' ≤ hot.ticketManager.sizeSum + (R' + x)
    omega

theorem requireAllocated (h : Budgeted hot R P Q) {size : Int} (hs : 0 ≤ size)
    (hok : (hot.requireAllocated size).2.1 = true) : Budgeted (hot.requireAllocated size).1 (R + size) P Q := by
  obtain ⟨hle, hinner, -⟩ := @BudgetInner.requireAllocated_ok hot.budget.inner hot.budget.capacity size hok
  have heq : (hot.requireAllocated size).1 = hot.updateInner (fun _ => { hot.budget.inner with
      allocated := hot.budget.inner.allocated + size,
      allocationIncCounter := hot.budget.inner.allocationIncCounter + 1 }) := by
    simp only [MemoryStore.requireAllocated, hinner]
  obtain ⟨h1, h2, h3, h4, h5, h6⟩ := h
  rw [heq]
  refine ⟨?_, ?_, ?_, ?_, ?_, ?_⟩ <;>
    simp only [MemoryStore.updateInner_inner, MemoryStore.updateInner_capacity,
      MemoryStore.updateInner_ticketManager, MemoryStore.updateInner_heldBytes] <;> omega

end Budgeted

end Rifflex
