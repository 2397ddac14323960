import Rifflex.Store.Mem.Read
import Rifflex.Store.Mem.Budget
import Rifflex.Store.Mem.Ticket

namespace Rifflex

open Word Mem

structure MemoryStoreConfig where
  capacity : Int
  bufferTicketTimeoutSec : Int
  bufferTicketCheckIntervalSec : Int
deriving DecidableEq, Repr

-- `state` maps a partition to an index into `buffers`, where every buffer created stays;
-- `releaseBudget` is the budget the eviction closure frees into, `none` when shared.
structure MemoryStore where
  state : List (PartitionedUId × Nat)
  buffers : List BufferInternal
  budget : MemoryBudget
  memoryCapacity : Int
  inFlushBufferSize : Nat
  ticketManager : TicketManager
  releaseBudget : Option BudgetInner
deriving DecidableEq, Repr

namespace MemoryStore

def new (maxMemorySize : Int) : MemoryStore :=
  ⟨[], [], MemoryBudget.new maxMemorySize, maxMemorySize, 0, TicketManager.new (5 * 60) 10, none⟩

-- The eviction closure keeps a clone of the first budget, the store a second `MemoryBudget::new`.
def «from» (conf : MemoryStoreConfig) : MemoryStore :=
  ⟨[], [], MemoryBudget.new conf.capacity, conf.capacity, 0,
    TicketManager.new conf.bufferTicketTimeoutSec conf.bufferTicketCheckIntervalSec,
    some BudgetInner.new⟩

def buffer (s : MemoryStore) (r : Nat) : BufferInternal := s.buffers.getD r BufferInternal.new

def setBuffer (s : MemoryStore) (r : Nat) (b : BufferInternal) : MemoryStore :=
  { s with buffers := s.buffers.set r b }

def updateInner (s : MemoryStore) (f : BudgetInner → BudgetInner) : MemoryStore :=
  { s with budget := { s.budget with inner := f s.budget.inner } }

def getOrCreateMemoryBuffer (s : MemoryStore) (uid : PartitionedUId) : MemoryStore × Nat :=
  match Assoc.find? uid s.state with
  | some r => (s, r)
  | none =>
      ({ s with state := s.state ++ [(uid, s.buffers.length)],
                buffers := s.buffers ++ [BufferInternal.new] }, s.buffers.length)

-- `self.state.get(pid).unwrap()`: `none` is the panic.
def getUnderlyingPartitionBuffer (s : MemoryStore) (uid : PartitionedUId) : Option Nat :=
  Assoc.find? uid s.state

def append (s : MemoryStore) (r : Nat) (blocks : List Block) (size : Nat) : MemoryStore :=
  s.setBuffer r ((s.buffer r).append blocks size)

def spill (s : MemoryStore) (r : Nat) : MemoryStore × BufferSpillResult :=
  let res := (s.buffer r).spill
  (s.setBuffer r res.1, res.2)

def clear (s : MemoryStore) (r flightId flightLen : Nat) : MemoryStore :=
  s.setBuffer r ((s.buffer r).clear flightId flightLen)

def incInflight (s : MemoryStore) (size : Nat) : MemoryStore :=
  { s with inFlushBufferSize := addU64 s.inFlushBufferSize size }

def decInflight (s : MemoryStore) (size : Nat) : MemoryStore :=
  { s with inFlushBufferSize := subU64 s.inFlushBufferSize size }

def decUsed (s : MemoryStore) (size : Int) : MemoryStore := s.updateInner (·.decUsed size)

def decAllocated (s : MemoryStore) (size : Int) : MemoryStore := s.updateInner (·.decAllocated size)

def moveAllocatedToUsed (s : MemoryStore) (size : Int) : MemoryStore :=
  s.updateInner (·.moveAllocatedToUsed size)

def usageNumerator (s : MemoryStore) : Int := s.budget.inner.used - asI64 s.inFlushBufferSize

def releaseAllocated (s : MemoryStore) (size : Int) : MemoryStore :=
  match s.releaseBudget with
  | none => s.decAllocated size
  | some other => { s with releaseBudget := some (other.decAllocated size) }

-- `sorted_tree_map.entry(staging_size).or_insert_with(|| vec![]).push(key)`, keys ascending.
def btreePush (size : Int) (uid : PartitionedUId) :
    List (Int × List PartitionedUId) → List (Int × List PartitionedUId)
  | [] => [(size, [uid])]
  | (k, vals) :: rest =>
      if size = k then (k, vals ++ [uid]) :: rest
      else if size < k then (size, [uid]) :: (k, vals) :: rest
      else (k, vals) :: btreePush size uid rest

def sortedTreeMap (snapshot : List (PartitionedUId × Int)) : List (Int × List PartitionedUId) :=
  snapshot.foldl (fun m entry => btreePush entry.2 entry.1 m) []

-- `break 'outer` leaves both loops of `sorted_tree_map.iter().rev()`: one loop over the pairs.
def pickupLoop (required : Int) : Int → List (Int × PartitionedUId) → List PartitionedUId
  | _, [] => []
  | acc, (size, pid) :: rest =>
      if acc ≥ required then [] else pid :: pickupLoop required (acc + size) rest

def stagingSnapshot (s : MemoryStore) : List (PartitionedUId × Int) :=
  s.state.map (fun entry => (entry.1, (s.buffer entry.2).stagingSize))

def pickupCandidates (s : MemoryStore) (required : Int) : List PartitionedUId :=
  pickupLoop required 0
    ((sortedTreeMap s.stagingSnapshot).reverse.flatMap (fun g => g.2.map (fun pid => (g.1, pid))))

def pickupSpilledBlocks (s : MemoryStore) (memTargetLen : Int) : Option (List PartitionedUId) :=
  let requiredSpilledSize := s.budget.inner.used - memTargetLen
  if requiredSpilledSize ≤ 0 then none else some (s.pickupCandidates requiredSpilledSize)

def purgeMatches (appId : String) (shuffleId : Option Int) (uid : PartitionedUId) : Bool :=
  uid.appId == appId && match shuffleId with
    | some s => uid.shuffleId == s
    | none => true

def purgeSnapshot (s : MemoryStore) (appId : String) (shuffleId : Option Int) :
    List PartitionedUId :=
  (s.state.map Prod.fst).filter (purgeMatches appId shuffleId)

def removeEntry (s : MemoryStore) (uid : PartitionedUId) : MemoryStore × Int :=
  match Assoc.find? uid s.state with
  | some r => ({ s with state := Assoc.erase uid s.state }, (s.buffer r).totalSize)
  | none => (s, 0)

def requireAllocated (s : MemoryStore) (size : Int) : MemoryStore × Bool × Int :=
  let res := s.budget.inner.requireAllocated s.budget.capacity size
  (s.updateInner (fun _ => res.1), res.2)

def partitionBlocks (s : MemoryStore) (uid : PartitionedUId) : List Block :=
  match s.getUnderlyingPartitionBuffer uid with
  | some r => (s.buffer r).staging.flatten ++ ((s.buffer r).flight.map (fun e => e.2.flatten)).flatten
  | none => []

def heldBytes (s : MemoryStore) : Int := (s.state.map (fun entry => (s.buffer entry.2).totalSize)).sum

@[simp] theorem setBuffer_state (s : MemoryStore) (r : Nat) (b : BufferInternal) :
    (s.setBuffer r b).state = s.state := rfl
@[simp] theorem updateInner_state (s : MemoryStore) (f : BudgetInner → BudgetInner) :
    (s.updateInner f).state = s.state := rfl
@[simp] theorem append_state (s : MemoryStore) (r : Nat) (blocks : List Block) (size : Nat) :
    (s.append r blocks size).state = s.state := rfl
@[simp] theorem spill_state (s : MemoryStore) (r : Nat) : (s.spill r).1.state = s.state := rfl
@[simp] theorem clear_state (s : MemoryStore) (r flightId flightLen : Nat) :
    (s.clear r flightId flightLen).state = s.state := rfl
@[simp] theorem incInflight_state (s : MemoryStore) (size : Nat) : (s.incInflight size).state = s.state := rfl
@[simp] theorem decInflight_state (s : MemoryStore) (size : Nat) : (s.decInflight size).state = s.state := rfl
@[simp] theorem decUsed_state (s : MemoryStore) (size : Int) : (s.decUsed size).state = s.state := rfl
@[simp] theorem decAllocated_state (s : MemoryStore) (size : Int) : (s.decAllocated size).state = s.state := rfl
@[simp] theorem moveAllocatedToUsed_state (s : MemoryStore) (size : Int) :
    (s.moveAllocatedToUsed size).state = s.state := rfl
@[simp] theorem requireAllocated_state (s : MemoryStore) (size : Int) :
    (s.requireAllocated size).1.state = s.state := rfl
@[simp] theorem releaseAllocated_state (s : MemoryStore) (size : Int) :
    (s.releaseAllocated size).state = s.state := by
  unfold releaseAllocated
  split <;> rfl
@[simp] theorem releaseAllocated_buffers (s : MemoryStore) (size : Int) :
    (s.releaseAllocated size).buffers = s.buffers := by
  unfold releaseAllocated
  split <;> rfl
@[simp] theorem releaseAllocated_ticketManager (s : MemoryStore) (size : Int) :
    (s.releaseAllocated size).ticketManager = s.ticketManager := by
  unfold releaseAllocated
  split <;> rfl

@[simp] theorem setBuffer_budget (s : MemoryStore) (r : Nat) (b : BufferInternal) :
    (s.setBuffer r b).budget = s.budget := rfl
@[simp] theorem setBuffer_ticketManager (s : MemoryStore) (r : Nat) (b : BufferInternal) :
    (s.setBuffer r b).ticketManager = s.ticketManager := rfl
@[simp] theorem append_budget (s : MemoryStore) (r : Nat) (blocks : List Block) (size : Nat) :
    (s.append r blocks size).budget = s.budget := rfl
@[simp] theorem append_ticketManager (s : MemoryStore) (r : Nat) (blocks : List Block) (size : Nat) :
    (s.append r blocks size).ticketManager = s.ticketManager := rfl
@[simp] theorem spill_budget (s : MemoryStore) (r : Nat) : (s.spill r).1.budget = s.budget := rfl
@[simp] theorem spill_ticketManager (s : MemoryStore) (r : Nat) :
    (s.spill r).1.ticketManager = s.ticketManager := rfl
@[simp] theorem clear_budget (s : MemoryStore) (r flightId flightLen : Nat) :
    (s.clear r flightId flightLen).budget = s.budget := rfl
@[simp] theorem clear_ticketManager (s : MemoryStore) (r flightId flightLen : Nat) :
    (s.clear r flightId flightLen).ticketManager = s.ticketManager := rfl
@[simp] theorem updateInner_inner (s : MemoryStore) (f : BudgetInner → BudgetInner) :
    (s.updateInner f).budget.inner = f s.budget.inner := rfl
@[simp] theorem updateInner_capacity (s : MemoryStore) (f : BudgetInner → BudgetInner) :
    (s.updateInner f).budget.capacity = s.budget.capacity := rfl
@[simp] theorem updateInner_ticketManager (s : MemoryStore) (f : BudgetInner → BudgetInner) :
    (s.updateInner f).ticketManager = s.ticketManager := rfl
@[simp] theorem updateInner_heldBytes (s : MemoryStore) (f : BudgetInner → BudgetInner) :
    (s.updateInner f).heldBytes = s.heldBytes := rfl
theorem decUsed_eq (s : MemoryStore) (size : Int) : s.decUsed size = s.updateInner (·.decUsed size) := rfl
theorem decAllocated_eq (s : MemoryStore) (size : Int) :
    s.decAllocated size = s.updateInner (·.decAllocated size) := rfl
theorem moveAllocatedToUsed_eq (s : MemoryStore) (size : Int) :
    s.moveAllocatedToUsed size = s.updateInner (·.moveAllocatedToUsed size) := rfl
@[simp] theorem incInflight_budget (s : MemoryStore) (size : Nat) : (s.incInflight size).budget = s.budget := rfl
@[simp] theorem incInflight_ticketManager (s : MemoryStore) (size : Nat) :
    (s.incInflight size).ticketManager = s.ticketManager := rfl
@[simp] theorem incInflight_heldBytes (s : MemoryStore) (size : Nat) :
    (s.incInflight size).heldBytes = s.heldBytes := rfl
@[simp] theorem decInflight_budget (s : MemoryStore) (size : Nat) : (s.decInflight size).budget = s.budget := rfl
@[simp] theorem decInflight_ticketManager (s : MemoryStore) (size : Nat) :
    (s.decInflight size).ticketManager = s.ticketManager := rfl
@[simp] theorem decInflight_heldBytes (s : MemoryStore) (size : Nat) :
    (s.decInflight size).heldBytes = s.heldBytes := rfl

theorem getOrCreateMemoryBuffer_books (s : MemoryStore) (uid : PartitionedUId) :
    (s.getOrCreateMemoryBuffer uid).1.budget = s.budget ∧
      (s.getOrCreateMemoryBuffer uid).1.ticketManager = s.ticketManager := by
  unfold getOrCreateMemoryBuffer
  split <;> exact ⟨rfl, rfl⟩

theorem removeEntry_books (s : MemoryStore) (uid : PartitionedUId) :
    (s.removeEntry uid).1.budget = s.budget ∧ (s.removeEntry uid).1.ticketManager = s.ticketManager ∧
      (s.removeEntry uid).1.buffers = s.buffers := by
  unfold removeEntry
  split <;> exact ⟨rfl, rfl, rfl⟩

theorem getOrCreateMemoryBuffer_state {s : MemoryStore} {uid : PartitionedUId} {e : PartitionedUId × Nat}
    (h : e ∈ (s.getOrCreateMemoryBuffer uid).1.state) : e ∈ s.state ∨ e.1 = uid := by
  unfold getOrCreateMemoryBuffer at h
  split at h
  · exact .inl h
  · rcases List.mem_append.mp h with h | h
    · exact .inl h
    · simp only [List.mem_singleton] at h
      exact .inr (by rw [h])

theorem removeEntry_state {s : MemoryStore} {uid : PartitionedUId} {e : PartitionedUId × Nat}
    (h : e ∈ (s.removeEntry uid).1.state) : e ∈ s.state := by
  unfold removeEntry at h
  split at h
  · exact List.mem_of_mem_filter h
  · exact h

def BuffersSatisfy (P : Block → Prop) (s : MemoryStore) : Prop :=
  ∀ buf ∈ s.buffers, ∀ b ∈ buf.traversal, P b

section BuffersSatisfy

open BufferInternal

variable {P : Block → Prop} {s : MemoryStore}

theorem BuffersSatisfy.buffer (h : BuffersSatisfy P s) (r : Nat) : ∀ b ∈ (s.buffer r).traversal, P b := by
  intro b hb
  unfold MemoryStore.buffer at hb
  rw [List.getD_eq_getElem?_getD] at hb
  cases hr : s.buffers[r]? with
  | none => simp [hr] at hb
  | some buf =>
      rw [hr, Option.getD_some] at hb
      exact h buf (List.mem_of_getElem? hr) b hb

theorem BuffersSatisfy.setBuffer (h : BuffersSatisfy P s) {buf : BufferInternal}
    (hbuf : ∀ b ∈ buf.traversal, P b) (r : Nat) : BuffersSatisfy P (s.setBuffer r buf) := by
  intro x hx b hb
  rcases List.mem_or_eq_of_mem_set hx with hx | rfl
  · exact h x hx b hb
  · exact hbuf b hb

theorem BuffersSatisfy.append (h : BuffersSatisfy P s) (r : Nat) {blocks : List Block}
    (hblocks : ∀ b ∈ blocks, P b) (size : Nat) : BuffersSatisfy P (s.append r blocks size) := by
  refine h.setBuffer (fun b hb => ?_) r
  rw [traversal_append] at hb
  rcases List.mem_append.mp hb with hb | hb
  · exact h.buffer r b hb
  · exact hblocks b hb

theorem BuffersSatisfy.spill (h : BuffersSatisfy P s) (r : Nat) :
    BuffersSatisfy P (s.spill r).1 ∧ ∀ b ∈ (s.spill r).2.blocks.flatten, P b :=
  ⟨h.setBuffer (fun b hb => h.buffer r b (mem_traversal_spill hb)) r,
   fun b hb => h.buffer r b (mem_traversal_of_staging hb)⟩

theorem BuffersSatisfy.clear (h : BuffersSatisfy P s) (r flightId flightLen : Nat) :
    BuffersSatisfy P (s.clear r flightId flightLen) :=
  h.setBuffer (fun b hb => h.buffer r b (mem_traversal_clear hb)) r

theorem BuffersSatisfy.getOrCreate (h : BuffersSatisfy P s) (uid : PartitionedUId) :
    BuffersSatisfy P (s.getOrCreateMemoryBuffer uid).1 := by
  unfold getOrCreateMemoryBuffer
  split
  · exact h
  · intro x hx b hb
    rcases List.mem_append.mp hx with hx | hx
    · exact h x hx b hb
    · rw [List.mem_singleton.mp hx, traversal_new] at hb
      cases hb

end BuffersSatisfy

end MemoryStore

end Rifflex
