import Rifflex.Server.Frontends
import Mathlib.Data.List.Sort

namespace Rifflex

open Word

-- A `Treemap` is kept as the ascending list its iterator yields.
def Treemap.add (t : Treemap) (x : Nat) : Treemap :=
  if x ∈ t.values then t else ⟨t.values.orderedInsert (· ≤ ·) x⟩

-- `for id in ids { blocks_bitmap.add(id as u64) }` of `PartitionedMeta::report_block_ids`.
def Treemap.addIds (t : Treemap) (ids : List Int) : Treemap := ids.foldl (fun t id => t.add (toU64 id)) t

namespace Treemap

theorem mem_add {t : Treemap} {x y : Nat} : y ∈ (t.add x).values ↔ y = x ∨ y ∈ t.values := by
  unfold Treemap.add
  split
  · rename_i hx
    constructor
    · exact Or.inr
    · rintro (rfl | hy)
      · exact hx
      · exact hy
  · simp [List.mem_orderedInsert]

theorem mem_foldl_add {l : List Nat} {t : Treemap} {x : Nat} :
    x ∈ (l.foldl Treemap.add t).values ↔ x ∈ t.values ∨ x ∈ l := by
  induction l generalizing t with
  | nil => simp
  | cons y l ih =>
      rw [List.foldl_cons, ih, mem_add, List.mem_cons]
      tauto

theorem mem_addIds {t : Treemap} {ids : List Int} {x : Nat} :
    x ∈ (t.addIds ids).values ↔ x ∈ t.values ∨ ∃ id ∈ ids, toU64 id = x := by
  induction ids generalizing t with
  | nil => simp [Treemap.addIds]
  | cons id rest ih =>
      simp only [Treemap.addIds, List.foldl_cons] at ih ⊢
      rw [ih, mem_add]
      constructor
      · rintro ((rfl | hx) | ⟨id', hid', rfl⟩)
        · exact .inr ⟨id, List.mem_cons_self, rfl⟩
        · exact .inl hx
        · exact .inr ⟨id', List.mem_cons_of_mem _ hid', rfl⟩
      · rintro (hx | ⟨id', hid', rfl⟩)
        · exact .inl (.inr hx)
        · rcases List.mem_cons.mp hid' with rfl | hid'
          · exact .inl (.inl rfl)
          · exact .inr ⟨id', hid', rfl⟩

end Treemap

namespace Results

-- An `App` as the result reports see it: per key of `bitmap_of_blocks`, its `blocks_bitmap`.
structure ResultApp where
  appId : String
  bitmapOfBlocks : List ((Int × Int) × Treemap)
deriving DecidableEq, Repr

namespace ResultApp

def «from» (appId : String) : ResultApp := ⟨appId, []⟩

def blockIds (app : ResultApp) (key : Int × Int) : Treemap :=
  (Assoc.find? key app.bitmapOfBlocks).getD ⟨[]⟩

-- `get_partition_meta`: `bitmap_of_blocks.entry(key).or_insert_with(PartitionedMeta::new)`.
def getPartitionMeta (app : ResultApp) (key : Int × Int) : ResultApp × Treemap :=
  match Assoc.find? key app.bitmapOfBlocks with
  | some bitmap => (app, bitmap)
  | none => ({ app with bitmapOfBlocks := app.bitmapOfBlocks ++ [(key, ⟨[]⟩)] }, ⟨[]⟩)

-- `App::report_block_ids`: the partition's meta, then its bitmap under the write lock.
def reportBlockIds (app : ResultApp) (key : Int × Int) (ids : List Int) : ResultApp :=
  let res := app.getPartitionMeta key
  { res.1 with bitmapOfBlocks := Assoc.insert key (res.2.addIds ids) res.1.bitmapOfBlocks }

@[simp] theorem blockIds_from (appId : String) (key : Int × Int) : (ResultApp.from appId).blockIds key = ⟨[]⟩ :=
  rfl

@[simp] theorem getPartitionMeta_appId (app : ResultApp) (key : Int × Int) :
    (app.getPartitionMeta key).1.appId = app.appId := by
  unfold getPartitionMeta
  split <;> rfl

theorem getPartitionMeta_snd (app : ResultApp) (key : Int × Int) :
    (app.getPartitionMeta key).2 = app.blockIds key := by
  unfold getPartitionMeta blockIds
  split <;> simp_all

@[simp] theorem blockIds_getPartitionMeta (app : ResultApp) (key k : Int × Int) :
    (app.getPartitionMeta key).1.blockIds k = app.blockIds k := by
  unfold getPartitionMeta blockIds
  split
  · rfl
  · rename_i hnone
    by_cases hk : k = key
    · subst hk
      simp [Assoc.find?_append, Assoc.find?, hnone]
    · simp [Assoc.find?_append, Assoc.find?, Ne.symm hk]

@[simp] theorem reportBlockIds_appId (app : ResultApp) (key : Int × Int) (ids : List Int) :
    (app.reportBlockIds key ids).appId = app.appId := by
  simp [reportBlockIds]

theorem blockIds_reportBlockIds_self (app : ResultApp) (key : Int × Int) (ids : List Int) :
    (app.reportBlockIds key ids).blockIds key = (app.blockIds key).addIds ids := by
  simp [reportBlockIds, blockIds, Assoc.find?_insert_self, getPartitionMeta_snd]

theorem blockIds_reportBlockIds_ne (app : ResultApp) {key k : Int × Int} (hk : k ≠ key) (ids : List Int) :
    (app.reportBlockIds key ids).blockIds k = app.blockIds k := by
  have h := blockIds_getPartitionMeta app key k
  unfold blockIds at h ⊢
  simp only [reportBlockIds, Assoc.find?_insert_ne hk]
  exact h

end ResultApp

inductive ReportPhase where
  | getApp
  | report (app : Nat)
  | replied (status : Int) (retMsg : String)
deriving DecidableEq, Repr

-- `request` is `partition_to_block_ids`, `pending` what the loop has left, `report r` its `Arc<App>`.
structure ReportTask where
  appId : String
  shuffleId : Int
  request : List (Int × List Int)
  pending : List (Int × List Int)
  phase : ReportPhase
deriving DecidableEq, Repr

-- A purged app stays in `appHeap` for the handlers that still hold it.
structure ResultServer where
  apps : List (String × Nat)
  appHeap : List ResultApp
  tasks : List ReportTask
deriving DecidableEq, Repr

inductive ResultAction where
  | register (appId : String)
  | purge (appId : String)
  | purgeShuffle (appId : String) (shuffleId : Int)
  | reportShuffleResult (appId : String) (shuffleId : Int) (partitionToBlockIds : List (Int × List Int))
  | getShuffleResult (appId : String) (shuffleId partitionId : Int)
  | getShuffleResultForMultiPart (appId : String) (shuffleId : Int) (partitions : List Int)
  | advance (task : Nat)
deriving DecidableEq, Repr

namespace ResultServer

open Server

def init : ResultServer := ⟨[], [], []⟩

def app (s : ResultServer) (r : Nat) : ResultApp := s.appHeap.getD r (ResultApp.from "")

def setApp (s : ResultServer) (r : Nat) (a : ResultApp) : ResultServer :=
  { s with appHeap := s.appHeap.set r a }

def getApp (s : ResultServer) (appId : String) : Option Nat := Assoc.find? appId s.apps

-- `AppManager::register`: `apps.entry(app_id).or_insert_with(App::from)`.
def register (s : ResultServer) (appId : String) : ResultServer :=
  match s.getApp appId with
  | some _ => s
  | none => { s with apps := s.apps ++ [(appId, s.appHeap.length)],
                     appHeap := s.appHeap ++ [ResultApp.from appId] }

-- `purge_app_data(app_id, None)`: `apps.remove(&app_id)`; a missing app is its error.
def purge (s : ResultServer) (appId : String) : ResultServer :=
  match s.getApp appId with
  | some _ => { s with apps := Assoc.erase appId s.apps }
  | none => s

def touchPartitions (app : ResultApp) (shuffleId : Int) (partitions : List Int) : ResultApp :=
  partitions.foldl (fun app p => (app.getPartitionMeta (shuffleId, p)).1) app

def multiPartIds (app : ResultApp) (shuffleId : Int) (partitions : List Int) : Treemap :=
  partitions.foldl (fun t p => (app.blockIds (shuffleId, p)).values.foldl Treemap.add t) ⟨[]⟩

def stepReport (s : ResultServer) (t : ReportTask) : Option (ResultServer × ReportTask) :=
  match t.phase with
  | .getApp => match s.getApp t.appId with
    | none => some (s, { t with phase := .replied StatusCode.noRegister.toI32 "No such app in this shuffle server" })
    | some r => some (s, { t with phase := .report r })
  | .report r => match t.pending with
    | [] => some (s, { t with phase := .replied StatusCode.success.toI32 "" })
    | (p, ids) :: rest =>
        some (s.setApp r ((s.app r).reportBlockIds (t.shuffleId, p) ids), { t with pending := rest })
  | .replied _ _ => none

def exec (s : ResultServer) : ResultAction → Option ResultServer
  | .register appId => some (s.register appId)
  | .purge appId => some (s.purge appId)
  -- `purge_app_data(app_id, Some(shuffle_id))` purges the store only: the app and its bitmaps stay.
  | .purgeShuffle _ _ => some s
  | .reportShuffleResult appId shuffleId parts =>
      some { s with tasks := s.tasks ++ [⟨appId, shuffleId, parts, parts, .getApp⟩] }
  | .getShuffleResult appId shuffleId partitionId => match s.getApp appId with
    | some r => some (s.setApp r ((s.app r).getPartitionMeta (shuffleId, partitionId)).1)
    | none => some s
  | .getShuffleResultForMultiPart appId shuffleId partitions => match s.getApp appId with
    | some r => some (s.setApp r (touchPartitions (s.app r) shuffleId partitions))
    | none => some s
  | .advance i => match s.tasks[i]? with
    | some t => (stepReport s t).map (fun res => { res.1 with tasks := res.1.tasks.set i res.2 })
    | none => none

variable {s : ResultServer}

theorem app_of_le {r : Nat} (h : s.appHeap.length ≤ r) : s.app r = ResultApp.from "" := by
  simp [app, List.getD_eq_getElem?_getD, List.getElem?_eq_none h]

@[simp] theorem length_setApp (r : Nat) (a : ResultApp) : (s.setApp r a).appHeap.length = s.appHeap.length := by
  simp [setApp]

@[simp] theorem getApp_setApp (r : Nat) (a : ResultApp) : (s.setApp r a).getApp = s.getApp := rfl

@[simp] theorem tasks_setApp (r : Nat) (a : ResultApp) : (s.setApp r a).tasks = s.tasks := rfl

theorem app_setApp_self {r : Nat} (h : r < s.appHeap.length) (a : ResultApp) : (s.setApp r a).app r = a := by
  simp [app, setApp, List.getD_eq_getElem?_getD, h]

theorem app_setApp_ne {r r' : Nat} (h : r' ≠ r) (a : ResultApp) : (s.setApp r a).app r' = s.app r' := by
  simp [app, setApp, List.getD_eq_getElem?_getD, Ne.symm h]

theorem app_setApp_of_le {r : Nat} (h : s.appHeap.length ≤ r) (a : ResultApp) (r' : Nat) :
    (s.setApp r a).app r' = s.app r' := by
  by_cases hr : r' = r
  · subst hr
    rw [app_of_le h, app_of_le (by simpa using h)]
  · exact app_setApp_ne hr a

theorem app_setApp_cases (r : Nat) (a : ResultApp) (r' : Nat) :
    (s.setApp r a).app r' = s.app r' ∨ (r' = r ∧ r < s.appHeap.length ∧ (s.setApp r a).app r' = a) := by
  by_cases hr : r' = r
  · subst hr
    rcases Nat.lt_or_ge r' s.appHeap.length with hlt | hge
    · exact .inr ⟨rfl, hlt, app_setApp_self hlt a⟩
    · exact .inl (app_setApp_of_le hge a r')
  · exact .inl (app_setApp_ne hr a)

theorem register_of_some {A : String} {r : Nat} (h : s.getApp A = some r) : s.register A = s := by
  simp [register, h]

theorem length_register_le (A : String) : s.appHeap.length ≤ (s.register A).appHeap.length := by
  unfold register
  split <;> simp

@[simp] theorem tasks_register (A : String) : (s.register A).tasks = s.tasks := by
  unfold register
  split <;> rfl

theorem app_register_lt (A : String) {r : Nat} (hr : r < s.appHeap.length) : (s.register A).app r = s.app r := by
  unfold register
  split
  · rfl
  · simp [app, List.getD_eq_getElem?_getD, List.getElem?_append_left hr]

theorem app_register_length {A : String} (h : s.getApp A = none) :
    (s.register A).app s.appHeap.length = ResultApp.from A := by
  simp [register, h, app, List.getD_eq_getElem?_getD]

@[simp] theorem blockIds_register (A : String) (r : Nat) (key : Int × Int) :
    ((s.register A).app r).blockIds key = (s.app r).blockIds key := by
  rcases Nat.lt_or_ge r s.appHeap.length with hr | hr
  · rw [app_register_lt A hr]
  · cases hA : s.getApp A with
    | some _ => rw [register_of_some hA]
    | none =>
        rw [app_of_le hr]
        rcases Nat.eq_or_lt_of_le hr with rfl | hr'
        · rw [app_register_length hA]
          rfl
        · rw [app_of_le (by simp [register, hA]; omega)]

theorem getApp_register_cases {A A' : String} {r : Nat} (h : (s.register A).getApp A' = some r) :
    s.getApp A' = some r ∨ (s.getApp A = none ∧ A' = A ∧ r = s.appHeap.length) := by
  unfold register at h
  split at h
  · exact .inl h
  · rename_i hA
    rcases Assoc.find?_append_singleton_cases h with h | ⟨-, rfl, rfl⟩
    · exact .inl h
    · exact .inr ⟨hA, rfl, rfl⟩

theorem getApp_register_of_some {A A' : String} {r : Nat} (h : s.getApp A' = some r) :
    (s.register A).getApp A' = some r := by
  unfold register
  split
  · exact h
  · exact Assoc.find?_append_of_some h _

@[simp] theorem app_purge (A : String) : (s.purge A).app = s.app := by
  unfold purge
  split <;> rfl

@[simp] theorem appHeap_purge (A : String) : (s.purge A).appHeap = s.appHeap := by
  unfold purge
  split <;> rfl

@[simp] theorem tasks_purge (A : String) : (s.purge A).tasks = s.tasks := by
  unfold purge
  split <;> rfl

theorem getApp_purge_of_ne {A A' : String} (hA : A' ≠ A) : (s.purge A).getApp A' = s.getApp A' := by
  unfold purge
  split
  · exact Assoc.find?_erase_ne hA s.apps
  · rfl

theorem getApp_purge_of_some {A A' : String} {r : Nat} (h : (s.purge A).getApp A' = some r) :
    s.getApp A' = some r := by
  by_cases hA : A' = A
  · subst hA
    unfold purge at h
    split at h
    · simp [getApp, Assoc.find?_erase_self] at h
    · exact h
  · rwa [getApp_purge_of_ne hA] at h

@[simp] theorem touchPartitions_appId (app : ResultApp) (shuffleId : Int) (partitions : List Int) :
    (touchPartitions app shuffleId partitions).appId = app.appId := by
  induction partitions generalizing app with
  | nil => rfl
  | cons p ps ih =>
      simp only [touchPartitions, List.foldl_cons] at ih ⊢
      rw [ih, ResultApp.getPartitionMeta_appId]

@[simp] theorem blockIds_touchPartitions (app : ResultApp) (shuffleId : Int) (partitions : List Int)
    (key : Int × Int) : (touchPartitions app shuffleId partitions).blockIds key = app.blockIds key := by
  induction partitions generalizing app with
  | nil => rfl
  | cons p ps ih =>
      simp only [touchPartitions, List.foldl_cons] at ih ⊢
      rw [ih, ResultApp.blockIds_getPartitionMeta]

theorem mem_foldl_partitions (app : ResultApp) (shuffleId : Int) (partitions : List Int) (t : Treemap)
    (x : Nat) :
    x ∈ (partitions.foldl (fun t p => (app.blockIds (shuffleId, p)).values.foldl Treemap.add t) t).values ↔
      x ∈ t.values ∨ ∃ p ∈ partitions, x ∈ (app.blockIds (shuffleId, p)).values := by
  induction partitions generalizing t with
  | nil => simp
  | cons p ps ih =>
      rw [List.foldl_cons, ih, Treemap.mem_foldl_add]
      constructor
      · rintro ((hx | hx) | ⟨q, hq, hx⟩)
        · exact .inl hx
        · exact .inr ⟨p, List.mem_cons_self, hx⟩
        · exact .inr ⟨q, List.mem_cons_of_mem _ hq, hx⟩
      · rintro (hx | ⟨q, hq, hx⟩)
        · exact .inl (.inl hx)
        · rcases List.mem_cons.mp hq with rfl | hq
          · exact .inl (.inr hx)
          · exact .inr ⟨q, hq, hx⟩

theorem mem_multiPartIds {app : ResultApp} {shuffleId : Int} {partitions : List Int} {x : Nat} :
    x ∈ (multiPartIds app shuffleId partitions).values ↔
      ∃ p ∈ partitions, x ∈ (app.blockIds (shuffleId, p)).values := by
  simp [multiPartIds, mem_foldl_partitions]

inductive ReportStep (s : ResultServer) (t : ReportTask) : ResultServer → ReportTask → Prop
  | noApp (hphase : t.phase = .getApp) (happ : s.getApp t.appId = none) :
      ReportStep s t s { t with phase := .replied StatusCode.noRegister.toI32 "No such app in this shuffle server" }
  | gotApp {r : Nat} (hphase : t.phase = .getApp) (happ : s.getApp t.appId = some r) :
      ReportStep s t s { t with phase := .report r }
  | success {r : Nat} (hphase : t.phase = .report r) (hpending : t.pending = []) :
      ReportStep s t s { t with phase := .replied StatusCode.success.toI32 "" }
  | write {r : Nat} {p : Int} {ids : List Int} {rest : List (Int × List Int)} (hphase : t.phase = .report r)
      (hpending : t.pending = (p, ids) :: rest) :
      ReportStep s t (s.setApp r ((s.app r).reportBlockIds (t.shuffleId, p) ids)) { t with pending := rest }

theorem stepReport_step {t t' : ReportTask} {s' : ResultServer} (h : stepReport s t = some (s', t')) :
    ReportStep s t s' t' := by
  unfold stepReport at h
  cases hphase : t.phase with
  | getApp =>
      cases happ : s.getApp t.appId with
      | none =>
          simp only [hphase, happ, Option.some.injEq, Prod.mk.injEq] at h
          obtain ⟨rfl, rfl⟩ := h
          exact .noApp hphase happ
      | some r =>
          simp only [hphase, happ, Option.some.injEq, Prod.mk.injEq] at h
          obtain ⟨rfl, rfl⟩ := h
          exact .gotApp hphase happ
  | report r =>
      cases hpending : t.pending with
      | nil =>
          simp only [hphase, hpending, Option.some.injEq, Prod.mk.injEq] at h
          obtain ⟨rfl, rfl⟩ := h
          rw [← hpending]
          exact .success hphase hpending
      | cons e rest =>
          obtain ⟨p, ids⟩ := e
          simp only [hphase, hpending, Option.some.injEq, Prod.mk.injEq] at h
          obtain ⟨rfl, rfl⟩ := h
          rw [← hphase]
          exact .write hphase hpending
  | replied status msg => simp [hphase] at h

-- Everything one action can do: the reads only create empty partition entries.
inductive Effect (s : ResultServer) : ResultAction → ResultServer → Prop
  | register (appId : String) : Effect s (.register appId) (s.register appId)
  | purge (appId : String) : Effect s (.purge appId) (s.purge appId)
  | spawn (appId : String) (shuffleId : Int) (parts : List (Int × List Int)) :
      Effect s (.reportShuffleResult appId shuffleId parts)
        { s with tasks := s.tasks ++ [⟨appId, shuffleId, parts, parts, .getApp⟩] }
  | read {a : ResultAction} (r : Nat) (b : ResultApp) (happId : b.appId = (s.app r).appId)
      (hblockIds : ∀ key, b.blockIds key = (s.app r).blockIds key) : Effect s a (s.setApp r b)
  | unchanged {a : ResultAction} : Effect s a s
  | advance {i : Nat} {t t' : ReportTask} {s' : ResultServer} (hi : s.tasks[i]? = some t)
      (hstep : ReportStep s t s' t') : Effect s (.advance i) { s' with tasks := s'.tasks.set i t' }

theorem exec_effect {a : ResultAction} {t : ResultServer} (h : exec s a = some t) : Effect s a t := by
  cases a with
  | register A =>
      simp only [exec, Option.some.injEq] at h
      subst h
      exact .register A
  | purge A =>
      simp only [exec, Option.some.injEq] at h
      subst h
      exact .purge A
  | purgeShuffle A shuffleId =>
      simp only [exec, Option.some.injEq] at h
      subst h
      exact .unchanged
  | reportShuffleResult A shuffleId parts =>
      simp only [exec, Option.some.injEq] at h
      subst h
      exact .spawn A shuffleId parts
  | getShuffleResult A shuffleId p =>
      simp only [exec] at h
      cases hA : s.getApp A with
      | none =>
          simp only [hA, Option.some.injEq] at h
          subst h
          exact .unchanged
      | some r =>
          simp only [hA, Option.some.injEq] at h
          subst h
          exact .read r _ (by simp) (fun key => by simp)
  | getShuffleResultForMultiPart A shuffleId ps =>
      simp only [exec] at h
      cases hA : s.getApp A with
      | none =>
          simp only [hA, Option.some.injEq] at h
          subst h
          exact .unchanged
      | some r =>
          simp only [hA, Option.some.injEq] at h
          subst h
          exact .read r _ (by simp) (fun key => by simp)
  | advance i =>
      simp only [exec] at h
      cases hi : s.tasks[i]? with
      | none => simp [hi] at h
      | some task =>
          simp only [hi, Option.map_eq_some_iff] at h
          obtain ⟨⟨s', task'⟩, hstep, rfl⟩ := h
          exact .advance hi (stepReport_step hstep)

end ResultServer

structure GetShuffleResultResponse where
  status : Int
  retMsg : String
  serializedBitmap : List UInt8
deriving DecidableEq, Repr

open Server in
def getShuffleResult (serialize : Treemap → List UInt8) (s : ResultServer) (appId : String)
    (shuffleId partitionId : Int) : GetShuffleResultResponse :=
  match s.getApp appId with
  | none => ⟨StatusCode.noRegister.toI32, "No such app in this shuffle server", []⟩
  | some r => ⟨StatusCode.success.toI32, "", serialize ((s.app r).blockIds (shuffleId, partitionId))⟩

open Server in
-- `get_shuffle_result_for_multi_part`, whose success status is a literal 0.
def getShuffleResultForMultiPart (serialize : Treemap → List UInt8) (s : ResultServer) (appId : String)
    (shuffleId : Int) (partitions : List Int) : GetShuffleResultResponse :=
  match s.getApp appId with
  | none => ⟨StatusCode.noRegister.toI32, "No such app in this shuffle server", []⟩
  | some r => ⟨0, "", serialize (ResultServer.multiPartIds (s.app r) shuffleId partitions)⟩

end Results

end Rifflex
