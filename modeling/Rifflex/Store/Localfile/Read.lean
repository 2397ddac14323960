import Rifflex.Store.Localfile

namespace Rifflex

open Word

inductive ReadingOptions where
  | memoryLastBlockIdAndMaxSize (lastBlockId maxSize : Int)
  | fileOffsetAndLen (offset len : Int)
deriving DecidableEq, Repr

structure ReadingViewContext where
  uid : PartitionedUId
  readingOptions : ReadingOptions
deriving DecidableEq, Repr

inductive ReadOutcome (α : Type) where
  | ok (value : α)
  | err (e : WorkerError)
  | panicked
deriving DecidableEq, Repr

def ReadOutcome.map {α β : Type} (f : α → β) : ReadOutcome α → ReadOutcome β
  | .ok a => .ok (f a)
  | .err e => .err e
  | .panicked => .panicked

-- `Vec::with_capacity` panics with "capacity overflow" past `isize::MAX`.
def isizeMax : Nat := 2 ^ 63 - 1

namespace LocalDisk

-- `seek` reaches `lseek`, which takes the offset as an `i64`; `read_exact` fails at the end of
-- the file unless it has no byte to read.
def read (d : LocalDisk) (path : String) (offset length : Int) : ReadOutcome (List UInt8) :=
  let length := toU64 length
  match Assoc.find? path d.files with
  | none => .err (.other "NotFound")
  | some data =>
      let offset := toU64 offset
      if offset > isizeMax then .err (.other "Invalid argument (os error 22)")
      else if length > isizeMax then .panicked
      else if length = 0 ∨ offset + length ≤ data.length then .ok ((data.drop offset).take length)
      else .err (.other "early eof")

section Read

variable {d : LocalDisk} {path : String} {data : List UInt8}

theorem read_negative_length (h : Assoc.find? path d.files = some data) {offset length : Int}
    (h0 : 0 ≤ offset) (h1 : offset < 2 ^ 63) (hl1 : -2 ^ 63 ≤ length) (hl2 : length < 0) :
    d.read path offset length = .panicked := by
  have hoff : (toU64 offset : Int) = offset := toU64_of_range h0 (by omega)
  have hlen : (toU64 length : Int) = length + 2 ^ 64 := toU64_of_neg (by omega) hl2
  have hseek : ¬ toU64 offset > isizeMax := by
    simp only [isizeMax]
    omega
  have halloc : toU64 length > isizeMax := by
    simp only [isizeMax]
    omega
  simp [read, h, hseek, halloc]

section InRange

variable {offset length : Int} (h0 : 0 ≤ offset) (h1 : offset < 2 ^ 63) (hl0 : 0 ≤ length)
  (hl1 : length < 2 ^ 63)
include h0 h1 hl0 hl1

theorem read_of_range (h : Assoc.find? path d.files = some data) :
    d.read path offset length = if length.toNat = 0 ∨ offset.toNat + length.toNat ≤ data.length
      then .ok ((data.drop offset.toNat).take length.toNat) else .err (.other "early eof") := by
  have hoff : toU64 offset = offset.toNat := by
    have := toU64_of_range h0 (by omega)
    omega
  have hlen : toU64 length = length.toNat := by
    have := toU64_of_range hl0 (by omega)
    omega
  have hseek : ¬ offset.toNat > isizeMax := by
    simp only [isizeMax]
    omega
  have halloc : ¬ length.toNat > isizeMax := by
    simp only [isizeMax]
    omega
  simp only [read, h, hoff, hlen, hseek, halloc, ↓reduceIte]

theorem read_in_range (h : Assoc.find? path d.files = some data) (hend : offset + length ≤ data.length) :
    d.read path offset length = .ok ((data.drop offset.toNat).take length.toNat) := by
  rw [read_of_range h0 h1 hl0 hl1 h, if_pos (by omega)]

end InRange

end Read

end LocalDisk

def ReadingOptions.fileOffsetAndLen? : ReadingOptions → Int × Int
  | .fileOffsetAndLen offset len => (offset, len)
  | _ => (0, 0)

namespace LocalFileStore

-- The `or_insert_with` after `contains_key` runs only if a purge came in between, which one
-- state does not show; the read lock is granted once no spill holds the write lock.
def get (s : LocalFileStore) (ctx : ReadingViewContext) : ReadOutcome ResponseData :=
  let uid := ctx.uid
  let offset := ctx.readingOptions.fileOffsetAndLen?.1
  let len := ctx.readingOptions.fileOffsetAndLen?.2
  if len = 0 then .ok (.local ⟨[]⟩)
  else
    let dataFilePath := (genRelativePathForPartition uid).1
    match Assoc.find? dataFilePath s.partitionLocks with
    | none => .ok (.local ⟨[]⟩)
    | some r =>
        let localDisk := s.disk (s.lockedObj r).disk
        if localDisk.isCorrupted then .err (.localDiskOwnedByPartitionCorrupted localDisk.root)
        else (localDisk.read dataFilePath offset len).map (fun data => .local ⟨data⟩)

section Get

variable (s : LocalFileStore) (uid : PartitionedUId)

theorem get_zero_len (offset : Int) : s.get ⟨uid, .fileOffsetAndLen offset 0⟩ = .ok (.local ⟨[]⟩) := by
  simp [get, ReadingOptions.fileOffsetAndLen?]

variable {s uid} {r : Nat} (hknown : Assoc.find? (genRelativePathForPartition uid).1 s.partitionLocks = some r)
include hknown

theorem get_read (hc : (s.disk (s.lockedObj r).disk).isCorrupted = false) {offset len : Int}
    (hlen : len ≠ 0) : s.get ⟨uid, .fileOffsetAndLen offset len⟩ =
      ((s.disk (s.lockedObj r).disk).read (genRelativePathForPartition uid).1 offset len).map
        (fun data => .local ⟨data⟩) := by
  simp [get, ReadingOptions.fileOffsetAndLen?, hlen, hknown, hc]

variable {data : List UInt8} (hc : (s.disk (s.lockedObj r).disk).isCorrupted = false)
  (hfile : Assoc.find? (genRelativePathForPartition uid).1 (s.disk (s.lockedObj r).disk).files = some data)
include hc hfile

theorem get_in_range {offset len : Int} (h0 : 0 ≤ offset) (h1 : offset < 2 ^ 63) (hl0 : 0 < len)
    (hl1 : len < 2 ^ 63) (hend : offset + len ≤ data.length) :
    s.get ⟨uid, .fileOffsetAndLen offset len⟩ = .ok (.local ⟨(data.drop offset.toNat).take len.toNat⟩) := by
  rw [get_read hknown hc (by omega), LocalDisk.read_in_range h0 h1 (by omega) hl1 hfile hend]
  rfl

theorem get_negative_length_panics {offset len : Int} (h0 : 0 ≤ offset) (h1 : offset < 2 ^ 63)
    (hl1 : -2 ^ 31 ≤ len) (hl2 : len < 0) : s.get ⟨uid, .fileOffsetAndLen offset len⟩ = .panicked := by
  rw [get_read hknown hc (by omega), LocalDisk.read_negative_length hfile h0 h1 (by omega) hl2]
  rfl

end Get

def onePartitionStore : LocalFileStore :=
  ⟨[⟨"/data", false, true, [("a/0/partition-0.data", [1, 2, 3])]⟩], 0, [("a/0/partition-0.data", 0)],
   [⟨0, 3, false⟩]⟩

theorem onePartition_negative_read_panics :
    Assoc.find? (genRelativePathForPartition ⟨"a", 0, 0⟩).1 onePartitionStore.partitionLocks = some 0 ∧
      (onePartitionStore.disk (onePartitionStore.lockedObj 0).disk).isCorrupted = false ∧
      Assoc.find? (genRelativePathForPartition ⟨"a", 0, 0⟩).1
        (onePartitionStore.disk (onePartitionStore.lockedObj 0).disk).files = some [1, 2, 3] ∧
      onePartitionStore.get ⟨⟨"a", 0, 0⟩, .fileOffsetAndLen 0 (-1)⟩ = .panicked := by
  have hknown : Assoc.find? (genRelativePathForPartition ⟨"a", 0, 0⟩).1 onePartitionStore.partitionLocks =
      some 0 := by decide
  have hc : (onePartitionStore.disk (onePartitionStore.lockedObj 0).disk).isCorrupted = false := by decide
  have hfile : Assoc.find? (genRelativePathForPartition ⟨"a", 0, 0⟩).1
      (onePartitionStore.disk (onePartitionStore.lockedObj 0).disk).files = some [1, 2, 3] := by decide
  exact ⟨hknown, hc, hfile, get_negative_length_panics hknown hc hfile (le_refl 0) (by norm_num)
    (by norm_num) (by norm_num)⟩

end LocalFileStore

namespace LocalDisk

def readAll (d : LocalDisk) (path : String) : ReadOutcome (List UInt8) :=
  match Assoc.find? path d.files with
  | none => .err (.other "NotFound")
  | some data => .ok data

-- `get_index` keeps `content_length as i64` of the metadata.
def stat (d : LocalDisk) (path : String) : ReadOutcome Int :=
  match Assoc.find? path d.files with
  | none => .err (.other "NotFound")
  | some data => .ok (asI64 data.length)

end LocalDisk

namespace LocalFileStore

def getIndex (s : LocalFileStore) (uid : PartitionedUId) : ReadOutcome LocalDataIndex :=
  let paths := genRelativePathForPartition uid
  match Assoc.find? paths.1 s.partitionLocks with
  | none => .ok ⟨[], 0⟩
  | some r =>
      let localDisk := s.disk (s.lockedObj r).disk
      if localDisk.isCorrupted then .err (.localDiskOwnedByPartitionCorrupted localDisk.root)
      else match localDisk.readAll paths.2 with
        | .ok indexData => (localDisk.stat paths.1).map (fun len => ⟨indexData, len⟩)
        | .err e => .err e
        | .panicked => .panicked

section GetIndex

variable (s : LocalFileStore) (uid : PartitionedUId)

variable {s uid} {r : Nat} (hknown : Assoc.find? (genRelativePathForPartition uid).1 s.partitionLocks = some r)
include hknown

variable (hc : (s.disk (s.lockedObj r).disk).isCorrupted = false)
include hc

theorem getIndex_missing
    (hmissing : Assoc.find? (genRelativePathForPartition uid).2 (s.disk (s.lockedObj r).disk).files = none ∨
      Assoc.find? (genRelativePathForPartition uid).1 (s.disk (s.lockedObj r).disk).files = none) :
    s.getIndex uid = .err (.other "NotFound") := by
  rcases hmissing with hidx | hdata
  · simp [getIndex, hknown, hc, LocalDisk.readAll, hidx]
  · cases hidx : Assoc.find? (genRelativePathForPartition uid).2 (s.disk (s.lockedObj r).disk).files <;>
      simp [getIndex, hknown, hc, LocalDisk.readAll, LocalDisk.stat, hidx, hdata, ReadOutcome.map]

theorem getIndex_read {indexData data : List UInt8}
    (hidx : Assoc.find? (genRelativePathForPartition uid).2 (s.disk (s.lockedObj r).disk).files = some indexData)
    (hdata : Assoc.find? (genRelativePathForPartition uid).1 (s.disk (s.lockedObj r).disk).files = some data) :
    s.getIndex uid = .ok ⟨indexData, asI64 data.length⟩ := by
  simp [getIndex, hknown, hc, LocalDisk.readAll, LocalDisk.stat, hidx, hdata, ReadOutcome.map]

end GetIndex

end LocalFileStore

end Rifflex
