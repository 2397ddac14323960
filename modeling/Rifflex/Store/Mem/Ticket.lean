import Rifflex.Error
import Rifflex.Lib.Assoc
import Rifflex.Lib.Word

namespace Rifflex.Mem

open Word

structure Ticket where
  id : Int
  createdTime : Nat
  size : Int
  ownedByAppId : String
deriving DecidableEq, Repr

-- `(now_timestamp_as_sec() - self.created_time) as i64`: the subtraction is on `u64`.
def Ticket.isTimeout (t : Ticket) (now : Nat) (timeoutSec : Int) : Bool :=
  asI64 (subU64 now t.createdTime) > timeoutSec

structure TicketManager where
  ticketStore : List (Int × Ticket)
  ticketTimeoutSec : Int
  ticketTimeoutCheckIntervalSec : Int
deriving DecidableEq, Repr

namespace TicketManager

def new (ticketTimeoutSec ticketTimeoutCheckIntervalSec : Int) : TicketManager :=
  ⟨[], ticketTimeoutSec, ticketTimeoutCheckIntervalSec⟩

def exist (m : TicketManager) (ticketId : Int) : Bool := (Assoc.find? ticketId m.ticketStore).isSome

def delete (m : TicketManager) (ticketId : Int) : TicketManager × Except WorkerError Int :=
  match Assoc.find? ticketId m.ticketStore with
  | some t => ({ m with ticketStore := Assoc.erase ticketId m.ticketStore }, .ok t.size)
  | none => (m, .error (.ticketIdNotExist ticketId))

def insert (m : TicketManager) (ticketId size : Int) (createdTimestamp : Nat) (appId : String) :
    TicketManager :=
  { m with ticketStore := Assoc.insert ticketId ⟨ticketId, createdTimestamp, size, appId⟩ m.ticketStore }

def discardTickets (m : TicketManager) (now : Nat) : List Ticket :=
  (m.ticketStore.map Prod.snd).filter (fun t => t.isTimeout now m.ticketTimeoutSec)

def removeTicket (m : TicketManager) (ticketId : Int) : TicketManager × Int :=
  match Assoc.find? ticketId m.ticketStore with
  | some t => ({ m with ticketStore := Assoc.erase ticketId m.ticketStore }, t.size)
  | none => (m, 0)

def removeTickets (m : TicketManager) : List Ticket → TicketManager × Int
  | [] => (m, 0)
  | t :: rest =>
      let r := m.removeTicket t.id
      let q := r.1.removeTickets rest
      (q.1, r.2 + q.2)

def sizeSum (m : TicketManager) : Int := (m.ticketStore.map (fun p => p.2.size)).sum

structure WF (m : TicketManager) : Prop where
  keys : (Assoc.keys m.ticketStore).Nodup
  sizes : ∀ p ∈ m.ticketStore, 0 ≤ p.2.size

variable {m : TicketManager}

theorem WF.sizeSum_nonneg (h : m.WF) : 0 ≤ m.sizeSum :=
  List.sum_nonneg (fun x hx => by
    obtain ⟨p, hp, rfl⟩ := List.mem_map.mp hx
    exact h.sizes p hp)

theorem WF.insert (h : m.WF) {size : Int} (hs : 0 ≤ size) (ticketId : Int) (createdTimestamp : Nat)
    (appId : String) : (m.insert ticketId size createdTimestamp appId).WF := by
  refine ⟨Assoc.keys_insert_nodup _ _ h.keys, fun p hp => ?_⟩
  rcases Assoc.mem_insert hp with hp | rfl
  · exact h.sizes p hp
  · exact hs

theorem sizeSum_insert_le (h : m.WF) {size : Int} (hs : 0 ≤ size) (ticketId : Int)
    (createdTimestamp : Nat) (appId : String) :
    (m.insert ticketId size createdTimestamp appId).sizeSum ≤ m.sizeSum + size :=
  Assoc.sum_insert_le h.keys h.sizes hs

theorem WF.erase (h : m.WF) (ticketId : Int) :
    ({ m with ticketStore := Assoc.erase ticketId m.ticketStore } : TicketManager).WF :=
  ⟨(List.filter_sublist.map Prod.fst).nodup h.keys,
   fun p hp => h.sizes p (List.mem_of_mem_filter hp)⟩

theorem sizeSum_erase (h : m.WF) {ticketId : Int} {t : Ticket}
    (hf : Assoc.find? ticketId m.ticketStore = some t) :
    ({ m with ticketStore := Assoc.erase ticketId m.ticketStore } : TicketManager).sizeSum =
      m.sizeSum - t.size :=
  Assoc.sum_erase h.keys hf

theorem delete_cases (m : TicketManager) (ticketId : Int) :
    ((m.delete ticketId).1 = m ∧ ∃ e, (m.delete ticketId).2 = .error e) ∨
      ∃ t, Assoc.find? ticketId m.ticketStore = some t ∧
        m.delete ticketId = ({ m with ticketStore := Assoc.erase ticketId m.ticketStore }, .ok t.size) := by
  unfold delete
  split
  · rename_i t ht
    exact .inr ⟨t, ht, rfl⟩
  · exact .inl ⟨rfl, _, rfl⟩

theorem removeTicket_wf (h : m.WF) (ticketId : Int) :
    (m.removeTicket ticketId).1.WF ∧
      (m.removeTicket ticketId).1.sizeSum + (m.removeTicket ticketId).2 = m.sizeSum ∧
      0 ≤ (m.removeTicket ticketId).2 := by
  unfold removeTicket
  split
  · rename_i t ht
    refine ⟨h.erase ticketId, ?_, h.sizes _ (Assoc.mem_of_find? ht)⟩
    rw [sizeSum_erase h ht]
    omega
  · exact ⟨h, by simp, le_refl 0⟩

theorem removeTickets_wf (h : m.WF) (tickets : List Ticket) :
    (m.removeTickets tickets).1.WF ∧
      (m.removeTickets tickets).1.sizeSum + (m.removeTickets tickets).2 = m.sizeSum ∧
      0 ≤ (m.removeTickets tickets).2 := by
  induction tickets generalizing m with
  | nil => exact ⟨h, by simp [removeTickets], by simp [removeTickets]⟩
  | cons t rest ih =>
      obtain ⟨h1, hsum1, hpos1⟩ := removeTicket_wf h t.id
      obtain ⟨h2, hsum2, hpos2⟩ := ih h1
      simp only [removeTickets]
      exact ⟨h2, by omega, by omega⟩

end TicketManager

end Rifflex.Mem
