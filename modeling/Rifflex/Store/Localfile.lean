import Rifflex.Store.Block
import Rifflex.Error
import Rifflex.Lib.Assoc
import Rifflex.Lib.Bytes
import Mathlib.Data.List.Sort

namespace Rifflex

open Word Bytes

-- `append` writes all its bytes or fails having written none; the caller picks which.
structure LocalDisk where
  root : String
  isCorrupted : Bool
  isHealthy : Bool
  files : List (String × List UInt8)
deriving DecidableEq, Repr

namespace LocalDisk

def new (root : String) : LocalDisk := ⟨root, false, true, []⟩

def file (d : LocalDisk) (path : String) : List UInt8 := (Assoc.find? path d.files).getD []

def append (d : LocalDisk) (path : String) (data : List UInt8) : LocalDisk :=
  { d with files := Assoc.insert path (d.file path ++ data) d.files }

-- `operator.remove_all(path)`: the path and everything below it.
def delete (d : LocalDisk) (path : String) : LocalDisk :=
  { d with files := d.files.filter (fun f => !(f.1 == path || f.1.startsWith (path ++ "/"))) }

@[simp] theorem append_file_self (d : LocalDisk) (path : String) (data : List UInt8) :
    (d.append path data).file path = d.file path ++ data := by
  simp [append, file, Assoc.find?_insert_self]

theorem append_file_ne (d : LocalDisk) {path path' : String} (h : path' ≠ path)
    (data : List UInt8) : (d.append path data).file path' = d.file path' := by
  simp [append, file, Assoc.find?_insert_ne h]

end LocalDisk

-- `locked` is the write half of the partition's `RwLock`.
structure LockedObj where
  disk : Nat
  pointer : Int
  locked : Bool
deriving DecidableEq, Repr

structure LocalfileStoreConfig where
  dataPaths : List String
  healthyCheckMinDisks : Int
deriving DecidableEq, Repr

-- `partitionLocks` maps a data file path to an index into `lockedObjs`; removed entries keep
-- their object for the holders of the `Arc`.
structure LocalFileStore where
  localDisks : List LocalDisk
  healthyCheckMinDisks : Int
  partitionLocks : List (String × Nat)
  lockedObjs : List LockedObj
deriving DecidableEq, Repr

structure IndexRecord where
  offset : Int
  length : Int
  uncompressLength : Int
  crc : Int
  blockId : Int
  taskAttemptId : Int
deriving DecidableEq, Repr

def IndexRecord.encode (r : IndexRecord) : List UInt8 :=
  putI64 r.offset ++ putI32 r.length ++ putI32 r.uncompressLength ++ putI64 r.crc ++
    putI64 r.blockId ++ putI64 r.taskAttemptId

namespace LocalFileStore

def «from» (conf : LocalfileStoreConfig) : LocalFileStore :=
  ⟨conf.dataPaths.map LocalDisk.new, conf.healthyCheckMinDisks, [], []⟩

def genRelativePathForApp (appId : String) : String := appId

def genRelativePathForShuffle (appId : String) (shuffleId : Int) : String :=
  appId ++ "/" ++ toString shuffleId

def genRelativePathForPartition (uid : PartitionedUId) : String × String :=
  (uid.appId ++ "/" ++ toString uid.shuffleId ++ "/partition-" ++ toString uid.partitionId ++ ".data",
   uid.appId ++ "/" ++ toString uid.shuffleId ++ "/partition-" ++ toString uid.partitionId ++ ".index")

def disk (s : LocalFileStore) (i : Nat) : LocalDisk := s.localDisks.getD i (LocalDisk.new "")

def setDisk (s : LocalFileStore) (i : Nat) (d : LocalDisk) : LocalFileStore :=
  { s with localDisks := s.localDisks.set i d }

def lockedObj (s : LocalFileStore) (r : Nat) : LockedObj := s.lockedObjs.getD r ⟨0, 0, false⟩

def setLockedObj (s : LocalFileStore) (r : Nat) (o : LockedObj) : LocalFileStore :=
  { s with lockedObjs := s.lockedObjs.set r o }

def healthyCheck (s : LocalFileStore) : Bool :=
  decide ((s.localDisks.filter (fun d => d.isHealthy && !d.isCorrupted)).length > s.healthyCheckMinDisks)

-- `hash` is `PartitionedUId::get_hash`, whose `DefaultHasher` algorithm std leaves unspecified.
def selectDisk (s : LocalFileStore) (hash : PartitionedUId → Nat) (uid : PartitionedUId) :
    Except WorkerError Nat :=
  let candidates := (List.range s.localDisks.length).filter
    (fun i => !(s.disk i).isCorrupted && (s.disk i).isHealthy)
  match candidates with
  | [] => .error .noAvailableLocalDisk
  | _ => match candidates[hash uid % candidates.length]? with
    | some i => .ok i
    | none => .error .internalError

-- The `partition_locks.entry` match of `data_insert`: the lock object and `parent_dir_is_created`.
def lockEntry (s : LocalFileStore) (hash : PartitionedUId → Nat) (uid : PartitionedUId) :
    Except WorkerError (LocalFileStore × Nat × Bool) :=
  let dataFilePath := (genRelativePathForPartition uid).1
  match Assoc.find? dataFilePath s.partitionLocks with
  | some r => .ok (s, r, false)
  | none => match s.selectDisk hash uid with
    | .error e => .error e
    | .ok d =>
        .ok ({ s with partitionLocks := s.partitionLocks ++ [(dataFilePath, s.lockedObjs.length)],
                      lockedObjs := s.lockedObjs ++ [⟨d, 0, false⟩] },
             s.lockedObjs.length, true)

def indexRecord (offset : Int) (block : Block) : IndexRecord :=
  ⟨offset, block.length, block.uncompressLength, block.crc, block.blockId, block.taskAttemptId⟩

-- The block loop of `data_insert`: index bytes, data parts, `total_size`, `next_offset`.
def buildIndex : Int → List Block → List UInt8 × List (List UInt8) × Nat × Int
  | nextOffset, [] => ([], [], 0, nextOffset)
  | nextOffset, block :: rest =>
      let r := buildIndex (nextOffset + block.length) rest
      ((indexRecord nextOffset block).encode ++ r.1, block.data :: r.2.1,
       addU64 (toU64 block.length) r.2.2.1, r.2.2.2)

def appendData (s : LocalFileStore) (d : Nat) (path : String) (data : List UInt8) : LocalFileStore :=
  s.setDisk d ((s.disk d).append path data)

def keysToDelete (s : LocalFileStore) (dir : String) : List String :=
  (s.partitionLocks.map Prod.fst).filter (fun key => key.startsWith dir)

def removeKey (s : LocalFileStore) (key : String) : LocalFileStore × Option Nat :=
  match Assoc.find? key s.partitionLocks with
  | some r => ({ s with partitionLocks := Assoc.erase key s.partitionLocks }, some r)
  | none => (s, none)

def purgeDir (appId : String) (shuffleId : Option Int) : String :=
  match shuffleId with
  | some sid => genRelativePathForShuffle appId sid
  | none => genRelativePathForApp appId

def storePointer (s : LocalFileStore) (r : Nat) (nextOffset : Int) : LocalFileStore :=
  s.setLockedObj r { s.lockedObj r with pointer := nextOffset, locked := false }

-- `LocalFileStore::purge`: every disk's directory removed, then the keys under it.
def removeKeys (s : LocalFileStore) : List String → LocalFileStore × Int
  | [] => (s, 0)
  | key :: rest =>
      let r := s.removeKey key
      let size := match r.2 with
        | some obj => (r.1.lockedObj obj).pointer
        | none => 0
      let t := r.1.removeKeys rest
      (t.1, size + t.2)

def purge (s : LocalFileStore) (appId : String) (shuffleId : Option Int) : LocalFileStore × Int :=
  let dir := purgeDir appId shuffleId
  let s := { s with localDisks := s.localDisks.map (fun d : LocalDisk => d.delete dir) }
  s.removeKeys (s.keysToDelete dir)

-- `spill_insert`'s blocks, flattened and stably sorted by `task_attempt_id`.
def spillBlocks (batches : List (List Block)) : List Block :=
  batches.flatten.insertionSort (fun a b => a.taskAttemptId ≤ b.taskAttemptId)

@[simp] theorem setDisk_partitionLocks (s : LocalFileStore) (i : Nat) (d : LocalDisk) :
    (s.setDisk i d).partitionLocks = s.partitionLocks := rfl
@[simp] theorem setLockedObj_partitionLocks (s : LocalFileStore) (r : Nat) (o : LockedObj) :
    (s.setLockedObj r o).partitionLocks = s.partitionLocks := rfl
@[simp] theorem appendData_partitionLocks (s : LocalFileStore) (d : Nat) (path : String)
    (data : List UInt8) : (s.appendData d path data).partitionLocks = s.partitionLocks := rfl
@[simp] theorem storePointer_partitionLocks (s : LocalFileStore) (r : Nat) (nextOffset : Int) :
    (s.storePointer r nextOffset).partitionLocks = s.partitionLocks := rfl

theorem lockEntry_partitionLocks {s : LocalFileStore} {hash : PartitionedUId → Nat}
    {uid : PartitionedUId} {res : LocalFileStore × Nat × Bool} (h : s.lockEntry hash uid = .ok res)
    {e : String × Nat} (he : e ∈ res.1.partitionLocks) :
    e ∈ s.partitionLocks ∨ e.1 = (genRelativePathForPartition uid).1 := by
  simp only [lockEntry] at h
  cases hf : Assoc.find? (genRelativePathForPartition uid).1 s.partitionLocks with
  | some r =>
      simp only [hf, Except.ok.injEq] at h
      subst h
      exact .inl he
  | none =>
      cases hd : s.selectDisk hash uid with
      | error err => simp [hf, hd] at h
      | ok d =>
          simp only [hf, hd, Except.ok.injEq] at h
          subst h
          rcases List.mem_append.mp he with he | he
          · exact .inl he
          · simp only [List.mem_singleton] at he
            exact .inr (by rw [he])

theorem removeKey_partitionLocks {s : LocalFileStore} {key : String} {e : String × Nat}
    (h : e ∈ (s.removeKey key).1.partitionLocks) : e ∈ s.partitionLocks := by
  unfold removeKey at h
  split at h
  · exact List.mem_of_mem_filter h
  · exact h

@[simp] theorem localDisks_length_setDisk (s : LocalFileStore) (i : Nat) (d : LocalDisk) :
    (s.setDisk i d).localDisks.length = s.localDisks.length := List.length_set

theorem disk_setDisk_self {s : LocalFileStore} {i : Nat} (h : i < s.localDisks.length) (d : LocalDisk) :
    (s.setDisk i d).disk i = d := by
  simp [disk, setDisk, List.getD_eq_getElem?_getD, h]

theorem disk_setDisk_ne (s : LocalFileStore) {i j : Nat} (h : j ≠ i) (d : LocalDisk) :
    (s.setDisk i d).disk j = s.disk j := by
  simp [disk, setDisk, List.getD_eq_getElem?_getD, Ne.symm h]

@[simp] theorem lockedObjs_length_setLockedObj (s : LocalFileStore) (r : Nat) (o : LockedObj) :
    (s.setLockedObj r o).lockedObjs.length = s.lockedObjs.length := List.length_set

theorem lockedObj_setLockedObj_self {s : LocalFileStore} {r : Nat} (h : r < s.lockedObjs.length)
    (o : LockedObj) : (s.setLockedObj r o).lockedObj r = o := by
  simp [lockedObj, setLockedObj, List.getD_eq_getElem?_getD, h]

theorem lockedObj_setLockedObj_ne (s : LocalFileStore) {r r' : Nat} (h : r' ≠ r) (o : LockedObj) :
    (s.setLockedObj r o).lockedObj r' = s.lockedObj r' := by
  simp [lockedObj, setLockedObj, List.getD_eq_getElem?_getD, Ne.symm h]

@[simp] theorem setDisk_lockedObj (s : LocalFileStore) (i : Nat) (d : LocalDisk) (r : Nat) :
    (s.setDisk i d).lockedObj r = s.lockedObj r := rfl
@[simp] theorem setDisk_lockedObjs (s : LocalFileStore) (i : Nat) (d : LocalDisk) :
    (s.setDisk i d).lockedObjs = s.lockedObjs := rfl
@[simp] theorem setLockedObj_disk (s : LocalFileStore) (r : Nat) (o : LockedObj) (i : Nat) :
    (s.setLockedObj r o).disk i = s.disk i := rfl
@[simp] theorem setLockedObj_localDisks (s : LocalFileStore) (r : Nat) (o : LockedObj) :
    (s.setLockedObj r o).localDisks = s.localDisks := rfl

theorem selectDisk_lt {s : LocalFileStore} {hash : PartitionedUId → Nat} {uid : PartitionedUId} {d : Nat}
    (h : s.selectDisk hash uid = .ok d) : d < s.localDisks.length := by
  simp only [selectDisk] at h
  split at h
  · cases h
  · split at h
    · rename_i i hi
      cases h
      have hm := List.mem_of_getElem? hi
      simp only [List.mem_filter, List.mem_range] at hm
      exact hm.1
    · cases h

theorem lockEntry_cases {s : LocalFileStore} {hash : PartitionedUId → Nat} {uid : PartitionedUId}
    {res : LocalFileStore × Nat × Bool} (h : s.lockEntry hash uid = .ok res) :
    (Assoc.find? (genRelativePathForPartition uid).1 s.partitionLocks = some res.2.1 ∧ res.1 = s) ∨
    (Assoc.find? (genRelativePathForPartition uid).1 s.partitionLocks = none ∧
      ∃ d, d < s.localDisks.length ∧ res.2.1 = s.lockedObjs.length ∧
        res.1 = { s with partitionLocks := s.partitionLocks ++ [((genRelativePathForPartition uid).1, s.lockedObjs.length)],
                         lockedObjs := s.lockedObjs ++ [⟨d, 0, false⟩] }) := by
  simp only [lockEntry] at h
  cases hf : Assoc.find? (genRelativePathForPartition uid).1 s.partitionLocks with
  | some r =>
      simp only [hf, Except.ok.injEq] at h
      subst h
      exact .inl ⟨rfl, rfl⟩
  | none =>
      cases hd : s.selectDisk hash uid with
      | error err => simp [hf, hd] at h
      | ok d =>
          simp only [hf, hd, Except.ok.injEq] at h
          subst h
          exact .inr ⟨rfl, d, selectDisk_lt hd, rfl, rfl⟩

theorem lockEntry_find? {s : LocalFileStore} {hash : PartitionedUId → Nat} {uid : PartitionedUId}
    {res : LocalFileStore × Nat × Bool} (h : s.lockEntry hash uid = .ok res) :
    Assoc.find? (genRelativePathForPartition uid).1 res.1.partitionLocks = some res.2.1 := by
  rcases lockEntry_cases h with ⟨hf, hres⟩ | ⟨hf, d, -, hr, hres⟩
  · rw [hres]
    exact hf
  · rw [hres, hr, Assoc.find?_append, hf]
    simp [Assoc.find?]

theorem appendData_file_self {s : LocalFileStore} {d : Nat} (hd : d < s.localDisks.length) (path : String)
    (data : List UInt8) : ((s.appendData d path data).disk d).file path = (s.disk d).file path ++ data := by
  rw [appendData, disk_setDisk_self hd, LocalDisk.append_file_self]

theorem appendData_file_ne (s : LocalFileStore) {d i : Nat} {path p : String} (h : i ≠ d ∨ p ≠ path)
    (data : List UInt8) : ((s.appendData d path data).disk i).file p = (s.disk i).file p := by
  rw [appendData]
  rcases h with h | h
  · rw [disk_setDisk_ne _ h]
  · by_cases hi : i = d
    · subst hi
      by_cases hd : i < s.localDisks.length
      · rw [disk_setDisk_self hd, LocalDisk.append_file_ne _ h]
      · simp [disk, setDisk, List.getD_eq_getElem?_getD, hd]
    · rw [disk_setDisk_ne _ hi]

@[simp] theorem appendData_lockedObj (s : LocalFileStore) (d : Nat) (path : String) (data : List UInt8)
    (r : Nat) : (s.appendData d path data).lockedObj r = s.lockedObj r := rfl
@[simp] theorem appendData_lockedObjs (s : LocalFileStore) (d : Nat) (path : String) (data : List UInt8) :
    (s.appendData d path data).lockedObjs = s.lockedObjs := rfl
@[simp] theorem appendData_localDisks_length (s : LocalFileStore) (d : Nat) (path : String)
    (data : List UInt8) : (s.appendData d path data).localDisks.length = s.localDisks.length :=
  List.length_set
@[simp] theorem storePointer_disk (s : LocalFileStore) (r : Nat) (nextOffset : Int) (i : Nat) :
    (s.storePointer r nextOffset).disk i = s.disk i := rfl
@[simp] theorem storePointer_localDisks (s : LocalFileStore) (r : Nat) (nextOffset : Int) :
    (s.storePointer r nextOffset).localDisks = s.localDisks := rfl
@[simp] theorem storePointer_lockedObjs_length (s : LocalFileStore) (r : Nat) (nextOffset : Int) :
    (s.storePointer r nextOffset).lockedObjs.length = s.lockedObjs.length := List.length_set

end LocalFileStore

end Rifflex
