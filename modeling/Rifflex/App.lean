import Rifflex.Store.Block
import Rifflex.Lib.Assoc

namespace Rifflex

open Word

structure AppConfig where
  appHeartbeatTimeoutMin : Nat
  hugePartitionMarkedThreshold : Option Nat
  hugePartitionMemoryMaxAvailableSize : Option Nat
deriving DecidableEq, Repr

-- `bitmap_of_blocks` keeps a `total_size` per `(shuffle_id, partition_id)`.
structure App where
  appId : String
  latestHeartbeatTime : Nat
  partitionMeta : List ((Int × Int) × Nat)
  hugePartitionMarkedThreshold : Option Nat
  hugePartitionMemoryMaxAvailableSize : Option Nat
deriving DecidableEq, Repr

inductive PurgeEvent where
  | heartbeatTimeout (appId : String)
  | appPartialShufflesPurge (appId : String) (shuffleId : Int)
  | appPurge (appId : String)
deriving DecidableEq, Repr

namespace App

def «from» (appId : String) (conf : AppConfig) (now : Nat) : App :=
  ⟨appId, now, [], conf.hugePartitionMarkedThreshold, conf.hugePartitionMemoryMaxAvailableSize⟩

def heartbeat (app : App) (now : Nat) : App := { app with latestHeartbeatTime := now }

def isLimitHugePartition (app : App) : Bool :=
  app.hugePartitionMarkedThreshold.isSome && app.hugePartitionMemoryMaxAvailableSize.isSome

def partitionSize (app : App) (uid : PartitionedUId) : Nat :=
  (Assoc.find? (uid.shuffleId, uid.partitionId) app.partitionMeta).getD 0

-- `PartitionedMeta::inc_size`: the `i32` is sign-extended to `u64`.
def incSize (app : App) (uid : PartitionedUId) (dataSize : Int) : App :=
  let size := addU64 (app.partitionSize uid) (toU64 dataSize)
  { app with partitionMeta := Assoc.insert (uid.shuffleId, uid.partitionId) size app.partitionMeta }

-- The comparison of `is_huge_partition`, which only runs under `is_limit_huge_partition`.
def overHugeThreshold (app : App) (uid : PartitionedUId) : Bool :=
  match app.hugePartitionMarkedThreshold with
  | some threshold => decide (app.partitionSize uid > threshold)
  | none => false

-- `len` of `App::insert`: the lengths summed as `i32`, then cast to `u64`.
def insertLen (blocks : List Block) : Nat := toU64 (wrapI32 (lengthSum blocks))

-- `App::insert` up to `store.insert`: a partition not huge under limiting keeps the caller's
-- context.
def insertContext (app : App) (now : Nat) (ctx : WritingViewContext) : App × WritingViewContext :=
  let app := app.heartbeat now
  let len := insertLen ctx.dataBlocks
  if app.isLimitHugePartition then
    let app := app.incSize ctx.uid (wrapI32 len)
    if app.overHugeThreshold ctx.uid then
      (app, WritingViewContext.new ctx.uid ctx.dataBlocks true len)
    else (app, ctx)
  else (app, WritingViewContext.new ctx.uid ctx.dataBlocks false len)

def insertedSize (blocks : List Block) : Int := wrapI32 (insertLen blocks)

-- `is_backpressure_for_huge_partition`, given the partition's buffer `total_size`
-- (`none` is the panic of `get_underlying_partition_buffer`).
def isBackpressureForHugePartition (app : App) (uid : PartitionedUId) (bufferSize : Option Int) :
    Option Bool :=
  if !app.overHugeThreshold uid then some false
  else match bufferSize, app.hugePartitionMemoryMaxAvailableSize with
    | some size, some limit => some (decide (toU64 size > limit))
    | some _, none => some false
    | none, _ => none

theorem insertLen_of_range {blocks : List Block} (h0 : 0 ≤ lengthSum blocks)
    (h1 : lengthSum blocks < 2 ^ 31) : (insertLen blocks : Int) = lengthSum blocks := by
  rw [insertLen, wrapI32_of_range (by omega) h1, toU64_of_range h0 (by omega)]

theorem insertedSize_of_range {blocks : List Block} (h0 : 0 ≤ lengthSum blocks)
    (h1 : lengthSum blocks < 2 ^ 31) : insertedSize blocks = lengthSum blocks := by
  rw [insertedSize, insertLen_of_range h0 h1, wrapI32_of_range (by omega) h1]

theorem insertContext_dataBlocks (app : App) (now : Nat) (ctx : WritingViewContext) :
    (app.insertContext now ctx).2.dataBlocks = ctx.dataBlocks := by
  simp only [insertContext]
  split_ifs <;> rfl

theorem insertContext_dataSize (app : App) (now : Nat) (ctx : WritingViewContext) :
    (app.insertContext now ctx).2.dataSize = insertLen ctx.dataBlocks ∨
      (app.insertContext now ctx).2 = ctx := by
  simp only [insertContext]
  split_ifs
  · exact .inl rfl
  · exact .inr rfl
  · exact .inl rfl

theorem insertContext_size (app : App) (now : Nat) (uid : PartitionedUId) {blocks : List Block}
    (h0 : 0 ≤ lengthSum blocks) (h1 : lengthSum blocks < 2 ^ 31) :
    asI64 (app.insertContext now (WritingViewContext.from uid blocks)).2.dataSize = 0 ∨
      asI64 (app.insertContext now (WritingViewContext.from uid blocks)).2.dataSize = lengthSum blocks := by
  rcases insertContext_dataSize app now (WritingViewContext.from uid blocks) with hd | hd
  · have hlen : (insertLen blocks : Int) = lengthSum blocks := insertLen_of_range h0 h1
    refine .inr ?_
    rw [hd]
    show asI64 (insertLen blocks) = lengthSum blocks
    rw [asI64_of_lt (by omega), hlen]
  · refine .inl ?_
    rw [hd]
    show asI64 0 = 0
    exact asI64_of_lt (by norm_num)

theorem insertContext_uid (app : App) (now : Nat) (ctx : WritingViewContext) :
    (app.insertContext now ctx).2.uid = ctx.uid := by
  simp only [insertContext]
  split_ifs <;> rfl

end App

-- `AppManager::register`; `apps` maps an app id to its `Arc<App>`, an index into `appHeap`.
def registerApp (apps : List (String × Nat)) (appHeap : List App) (conf : AppConfig)
    (appId : String) (now : Nat) : List (String × Nat) × List App :=
  match Assoc.find? appId apps with
  | some r => (apps, appHeap.set r ((appHeap.getD r (App.from appId conf now)).heartbeat now))
  | none => (apps ++ [(appId, appHeap.length)], appHeap ++ [App.from appId conf now])

-- The heartbeat checker's test `current - last_time > (timeout_min * 60) as u64`; the
-- product is `u32`.
def heartbeatTimedOut (conf : AppConfig) (now : Nat) (app : App) : Bool :=
  decide (subU64 now app.latestHeartbeatTime > (conf.appHeartbeatTimeoutMin * 60) % 2 ^ 32)

end Rifflex
