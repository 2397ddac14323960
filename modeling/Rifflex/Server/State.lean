import Rifflex.App
import Rifflex.Store.Hybrid

namespace Rifflex

open Mem

structure ServerConfig where
  app : AppConfig
  hybrid : HybridStoreConfig
  memory : MemoryStoreConfig
  localfile : LocalfileStoreConfig
  getHash : PartitionedUId → Nat

inductive Frontend where
  | grpc
  | urpc
deriving DecidableEq, Repr

structure SendRequest where
  frontend : Frontend
  appId : String
  shuffleId : Int
  ticketId : Int
  shuffleData : List (Int × List Block)
deriving DecidableEq, Repr

-- `blocks_map`: grpc extends a repeated partition's blocks, the urpc parser replaces them.
def SendRequest.blocksMap (req : SendRequest) : List (Int × List Block) :=
  match req.frontend with
  | .grpc => req.shuffleData.foldl
      (fun m d => Assoc.insert d.1 ((Assoc.find? d.1 m).getD [] ++ d.2) m) []
  | .urpc => req.shuffleData.foldl (fun m d => Assoc.insert d.1 d.2 m) []

inductive Request where
  | registerShuffle (appId : String) (shuffleId : Int)
  | unregisterShuffle (appId : String) (shuffleId : Int)
  | unregisterApp (appId : String)
  | appHeartbeat (appId : String)
  | requireBuffer (appId : String) (shuffleId : Int) (size : Int)
  | sendShuffleData (req : SendRequest)
  | getMemoryShuffleData (uid : PartitionedUId) (lastBlockId readBufferSize : Int)
      (taskIds : Option Treemap)
  | getLocalShuffleData (uid : PartitionedUId) (offset length : Int)
  | getLocalShuffleIndex (uid : PartitionedUId)
deriving DecidableEq, Repr

-- `watermark_spill`, run under `memory_spill_lock` by the insert that won `try_lock`.
inductive SpillPhase where
  | pickup
  | lookup (candidates : List PartitionedUId)
  | spill (buffers : List (PartitionedUId × Nat)) (flushedSize : Nat)
  | publish (message : SpillMessage) (buffers : List (PartitionedUId × Nat)) (flushedSize : Nat)
  | incEventNum (buffers : List (PartitionedUId × Nat)) (flushedSize : Nat)
deriving DecidableEq, Repr

-- `inserted` is the `len as i32` of the `App::insert` under way.
inductive SendPhase where
  | getApp
  | releaseTicket
  | appInsert
  | getOrCreate (ctx : WritingViewContext) (inserted : Int)
  | append (buffer : Nat) (ctx : WritingViewContext) (inserted : Int)
  | trySpill (inserted : Int)
  | spilling (phase : SpillPhase) (inserted : Int)
  | releaseUnused
deriving DecidableEq, Repr

-- `app` is the captured `Arc<App>`, `ticketLen` what the ticket release returned.
structure SendTask where
  req : SendRequest
  app : Nat
  ticketLen : Int
  pending : List (Int × List Block)
  insertedTotalSize : Int
  phase : SendPhase
deriving DecidableEq, Repr

inductive RequirePhase where
  | getApp
  | requireAllocated
  | insertTicket (ticketId : Int) (allocatedTimestamp : Nat)
deriving DecidableEq, Repr

structure RequireTask where
  uid : PartitionedUId
  size : Int
  phase : RequirePhase
deriving DecidableEq, Repr

inductive MemReadPhase where
  | getApp
  | getOrCreate (app : Nat)
deriving DecidableEq, Repr

structure MemReadTask where
  uid : PartitionedUId
  lastBlockId : Int
  readBufferSize : Int
  taskIds : Option Treemap
  phase : MemReadPhase
deriving DecidableEq, Repr

-- `LocalFileStore::get` (`index = false`, with its `len`) or `get_index` (`index = true`).
inductive LocalReadPhase where
  | getApp
  | containsKey (app : Nat)
  | entry
deriving DecidableEq, Repr

structure LocalReadTask where
  uid : PartitionedUId
  index : Bool
  length : Int
  phase : LocalReadPhase
deriving DecidableEq, Repr

-- `release_data_in_memory`, after a success (`dropped = false`) or a dropped event.
inductive ReleasePhase where
  | getOrCreate
  | clear (buffer : Nat)
  | decUsed
  | decInflight
  | decSpillEventNum
deriving DecidableEq, Repr

-- `data_insert` holds the write lock from `lock` until its pointer is stored.
inductive HandlerPhase where
  | start
  | lock (obj : Nat) (parentDirIsCreated : Bool)
  | appendData (obj : Nat) (nextOffset : Int) (index : List UInt8) (data : List UInt8)
  | appendIndex (obj : Nat) (nextOffset : Int) (index : List UInt8)
  | release (dropped : Bool) (phase : ReleasePhase)
  | republish
  | incSpillEventNum
deriving DecidableEq, Repr

structure HandlerTask where
  message : SpillMessage
  phase : HandlerPhase
deriving DecidableEq, Repr

inductive Task where
  | send (t : SendTask)
  | require (t : RequireTask)
  | memRead (t : MemReadTask)
  | localRead (t : LocalReadTask)
  | handler (t : HandlerTask)
  | done
deriving DecidableEq, Repr

structure PurgeDataContext where
  appId : String
  shuffleId : Option Int
deriving DecidableEq, Repr

inductive PurgePhase where
  | memRemove (pids : List PartitionedUId) (used : Int)
  | diskDelete (disk : Nat)
  | localRemove (keys : List String) (removedDataSize : Int)
  | localWait (obj : Nat) (keys : List String) (removedDataSize : Int)
deriving DecidableEq, Repr

structure Server where
  now : Nat
  hotStore : MemoryStore
  warmStore : LocalFileStore
  memorySpillLock : Bool
  memorySpillEventNum : Nat
  eventQueue : List SpillMessage
  apps : List (String × Nat)
  appHeap : List App
  purgeChannel : List PurgeEvent
  purging : Option (PurgeDataContext × PurgePhase)
  ticketCheck : Option Int
  tasks : List Task
deriving DecidableEq, Repr

inductive Action where
  | request (r : Request)
  | advance (task : Nat) (diskOk : Bool)
  | dispatch
  | purge
  | ticketCheck
  | heartbeatCheck
  | tick
  | markCorrupted (disk : Nat)
  | markUnhealthy (disk : Nat)
  | markHealthy (disk : Nat)
deriving DecidableEq, Repr

namespace Server

-- `HybridStore::from` with `MEMORY_LOCALFILE`: the production `MemoryStore::from`.
def init (conf : ServerConfig) : Server :=
  ⟨0, MemoryStore.from conf.memory, LocalFileStore.from conf.localfile, false, 0, [], [], [], [],
    none, none, []⟩

def app (s : Server) (r : Nat) : App := s.appHeap.getD r ⟨"", 0, [], none, none⟩

def getApp (s : Server) (appId : String) : Option Nat := Assoc.find? appId s.apps

def setApp (s : Server) (r : Nat) (a : App) : Server := { s with appHeap := s.appHeap.set r a }

def setTask (s : Server) (i : Nat) (t : Task) : Server := { s with tasks := s.tasks.set i t }

def spawn (s : Server) (t : Task) : Server := { s with tasks := s.tasks ++ [t] }

def runningHandlers (s : Server) : Nat :=
  (s.tasks.filter (fun t => match t with | .handler _ => true | _ => false)).length

end Server

end Rifflex
