import Rifflex.Server.LocalIndex

namespace Rifflex.LocalFileStore

theorem storePointer_lockedObj_disk (w : LocalFileStore) (r : Nat) (nextOffset : Int) (r' : Nat) :
    ((w.storePointer r nextOffset).lockedObj r').disk = (w.lockedObj r').disk := by
  by_cases h : r' = r
  · subst h
    by_cases hlt : r' < w.lockedObjs.length
    · rw [storePointer, lockedObj_setLockedObj_self hlt]
    · simp [storePointer, setLockedObj, lockedObj, List.getD_eq_getElem?_getD, hlt]
  · rw [storePointer, lockedObj_setLockedObj_ne _ h]

theorem setLockedObj_lockedObj_disk {w : LocalFileStore} {r : Nat} {o : LockedObj}
    (h : o.disk = (w.lockedObj r).disk) (r' : Nat) :
    ((w.setLockedObj r o).lockedObj r').disk = (w.lockedObj r').disk := by
  by_cases hr : r' = r
  · subst hr
    by_cases hlt : r' < w.lockedObjs.length
    · rw [lockedObj_setLockedObj_self hlt, h]
    · simp [setLockedObj, lockedObj, List.getD_eq_getElem?_getD, hlt]
  · rw [lockedObj_setLockedObj_ne _ hr]

@[simp] theorem objFile_storePointer (w : LocalFileStore) (r : Nat) (nextOffset : Int) (r' : Nat)
    (p : String) : (w.storePointer r nextOffset).objFile r' p = w.objFile r' p := by
  rw [objFile, storePointer_lockedObj_disk, storePointer_disk, objFile]

theorem objFile_setLockedObj {w : LocalFileStore} {r : Nat} {o : LockedObj}
    (h : o.disk = (w.lockedObj r).disk) (r' : Nat) (p : String) :
    (w.setLockedObj r o).objFile r' p = w.objFile r' p := by
  rw [objFile, setLockedObj_lockedObj_disk h, setLockedObj_disk, objFile]

theorem objFile_appendData_self {w : LocalFileStore} {r d : Nat} (hr : (w.lockedObj r).disk = d)
    (hd : d < w.localDisks.length) (p : String) (data : List UInt8) :
    (w.appendData d p data).objFile r p = w.objFile r p ++ data := by
  rw [objFile, appendData_lockedObj, hr, appendData_file_self hd, objFile, hr]

theorem objFile_appendData_ne (w : LocalFileStore) {r d : Nat} (hr : (w.lockedObj r).disk = d)
    {p p' : String} (h : p' ≠ p) (data : List UInt8) :
    (w.appendData d p data).objFile r p' = w.objFile r p' := by
  rw [objFile, appendData_lockedObj, hr, appendData_file_ne _ (.inr h), objFile, hr]

end Rifflex.LocalFileStore

namespace Rifflex.Server

open LocalFileStore Transition

variable (conf : ServerConfig)

structure Writable (w : LocalFileStore) (obj : Nat) : Prop where
  obj_lt : obj < w.lockedObjs.length
  disk_lt : (w.lockedObj obj).disk < w.localDisks.length
  free : (w.lockedObj obj).locked = false
  intact : (w.disk (w.lockedObj obj).disk).isCorrupted = false
  healthy : (w.disk (w.lockedObj obj).disk).isHealthy = true

def insertRun (i : Nat) (dataOk indexOk : Bool) : List Action :=
  .advance i true :: .advance i dataOk :: (if dataOk then [.advance i indexOk] else [])

theorem exec_advance_handler {s : Server} {i : Nat} {t : HandlerTask} {diskOk : Bool}
    {res : Server × Task} (hi : s.tasks[i]? = some (.handler t))
    (h : stepHandler conf s t diskOk = some res) :
    exec conf s (.advance i diskOk) = some (res.1.setTask i res.2) := by
  simp [exec, hi, stepTask, h]

@[simp] theorem setTask_warmStore (s : Server) (i : Nat) (t : Task) :
    (s.setTask i t).warmStore = s.warmStore := rfl

@[simp] theorem setTask_tasks_length (s : Server) (i : Nat) (t : Task) :
    (s.setTask i t).tasks.length = s.tasks.length := List.length_set

theorem setTask_getElem?_self {s : Server} {i : Nat} {t : Task} (hi : i < s.tasks.length) :
    (s.setTask i t).tasks[i]? = some t := by
  simp [setTask, hi]

theorem stepHandler_lock {s : Server} {m : SpillMessage} {obj : Nat} {created : Bool} (diskOk : Bool)
    (h : Writable s.warmStore obj) :
    stepHandler conf s ⟨m, .lock obj created⟩ diskOk = some
      (s.setWarm (s.warmStore.setLockedObj obj { s.warmStore.lockedObj obj with locked := true }),
       .handler ⟨m, .appendData obj
          ((s.warmStore.lockedObj obj).pointer + lengthSum (spillBlocks m.ctx.dataBlocks))
          (buildIndex (s.warmStore.lockedObj obj).pointer (spillBlocks m.ctx.dataBlocks)).1
          ((spillBlocks m.ctx.dataBlocks).map Block.data).flatten⟩) := by
  simp [stepHandler, h.free, h.intact, h.healthy, buildIndex_next, buildIndex_data]

theorem stepHandler_appendData_ok {s : Server} {m : SpillMessage} {obj : Nat} {nextOffset : Int}
    {index data : List UInt8} :
    stepHandler conf s ⟨m, .appendData obj nextOffset index data⟩ true = some
      (s.setWarm (s.warmStore.appendData (s.warmStore.lockedObj obj).disk
          (genRelativePathForPartition m.ctx.uid).1 data),
       .handler ⟨m, .appendIndex obj nextOffset index⟩) := rfl

theorem stepHandler_appendData_failed {s : Server} {m : SpillMessage} {obj : Nat} {nextOffset : Int}
    {index data : List UInt8} :
    stepHandler conf s ⟨m, .appendData obj nextOffset index data⟩ false = some
      (s.setWarm (s.warmStore.storePointer obj nextOffset), .handler ⟨m, .release false .getOrCreate⟩) := rfl

theorem stepHandler_appendIndex {s : Server} {m : SpillMessage} {obj : Nat} {nextOffset : Int}
    {index : List UInt8} (diskOk : Bool) :
    stepHandler conf s ⟨m, .appendIndex obj nextOffset index⟩ diskOk = some
      (s.setWarm ((if diskOk then s.warmStore.appendData (s.warmStore.lockedObj obj).disk
          (genRelativePathForPartition m.ctx.uid).2 index else s.warmStore).storePointer obj nextOffset),
       .handler ⟨m, .release false .getOrCreate⟩) := rfl

theorem lockedObj_storePointer_self {w : LocalFileStore} {r : Nat} (h : r < w.lockedObjs.length)
    (nextOffset : Int) :
    (w.storePointer r nextOffset).lockedObj r = { w.lockedObj r with pointer := nextOffset, locked := false } :=
  lockedObj_setLockedObj_self h _

theorem appends_store_pointer {u : Server} {i obj : Nat} {m : SpillMessage} {nextOffset : Int}
    {index data : List UInt8} (hi : u.tasks[i]? = some (.handler ⟨m, .appendData obj nextOffset index data⟩))
    (hobj : obj < u.warmStore.lockedObjs.length)
    (hdisk : (u.warmStore.lockedObj obj).disk < u.warmStore.localDisks.length) (dataOk indexOk : Bool) :
    ∃ u', run (exec conf) u (.advance i dataOk :: if dataOk then [.advance i indexOk] else []) = some u' ∧
      u'.tasks[i]? = some (.handler ⟨m, .release false .getOrCreate⟩) ∧
      u'.warmStore.lockedObj obj = { u.warmStore.lockedObj obj with pointer := nextOffset, locked := false } ∧
      u'.warmStore.objFile obj (genRelativePathForPartition m.ctx.uid).1 =
        u.warmStore.objFile obj (genRelativePathForPartition m.ctx.uid).1 ++ (if dataOk then data else []) ∧
      u'.warmStore.objFile obj (genRelativePathForPartition m.ctx.uid).2 =
        u.warmStore.objFile obj (genRelativePathForPartition m.ctx.uid).2 ++
          (if dataOk && indexOk then index else []) := by
  set d := (u.warmStore.lockedObj obj).disk
  set paths := genRelativePathForPartition m.ctx.uid
  have hlen : i < u.tasks.length := (List.getElem?_eq_some_iff.mp hi).1
  cases dataOk with
  | false =>
      have h₁ := exec_advance_handler conf hi (stepHandler_appendData_failed conf)
      refine ⟨(u.setWarm (u.warmStore.storePointer obj nextOffset)).setTask i
          (.handler ⟨m, .release false .getOrCreate⟩),
        by simp only [run, h₁, Bool.false_eq_true, ↓reduceIte], setTask_getElem?_self (by simpa using hlen),
        lockedObj_storePointer_self hobj _, by simp, by simp⟩
  | true =>
      set w₁ := u.warmStore.appendData d paths.1 data
      set u₁ := (u.setWarm w₁).setTask i (.handler ⟨m, .appendIndex obj nextOffset index⟩)
      have h₁ : exec conf u (.advance i true) = some u₁ :=
        exec_advance_handler conf hi (stepHandler_appendData_ok conf)
      have hi₁ : u₁.tasks[i]? = some (.handler ⟨m, .appendIndex obj nextOffset index⟩) :=
        setTask_getElem?_self (by simpa using hlen)
      have h₂ := exec_advance_handler conf hi₁ (stepHandler_appendIndex conf indexOk)
      have hobj₁ : obj < w₁.lockedObjs.length := by simpa [w₁] using hobj
      have hdata : w₁.objFile obj paths.1 = u.warmStore.objFile obj paths.1 ++ data :=
        objFile_appendData_self rfl hdisk _ _
      have hindex : w₁.objFile obj paths.2 = u.warmStore.objFile obj paths.2 :=
        objFile_appendData_ne _ rfl (dataPath_ne_indexPath _ _).symm _
      cases indexOk with
      | false =>
          refine ⟨(u₁.setWarm (w₁.storePointer obj nextOffset)).setTask i
              (.handler ⟨m, .release false .getOrCreate⟩),
            by simp only [run, h₁, h₂, Bool.false_eq_true, ↓reduceIte]; rfl,
            setTask_getElem?_self (by simpa [u₁] using hlen), lockedObj_storePointer_self hobj₁ _, ?_, ?_⟩
          · simp only [setTask_warmStore, setWarm_warmStore, objFile_storePointer, hdata, ↓reduceIte]
          · simp only [setTask_warmStore, setWarm_warmStore, objFile_storePointer, hindex, Bool.and_false,
              Bool.false_eq_true, ↓reduceIte, List.append_nil]
      | true =>
          have hd₁ : (w₁.lockedObj obj).disk = d := rfl
          refine ⟨(u₁.setWarm ((w₁.appendData d paths.2 index).storePointer obj nextOffset)).setTask i
              (.handler ⟨m, .release false .getOrCreate⟩),
            by simp only [run, h₁, h₂, ↓reduceIte]; rfl, setTask_getElem?_self (by simpa [u₁] using hlen),
            lockedObj_storePointer_self (by simpa using hobj₁) _, ?_, ?_⟩
          · simp only [setTask_warmStore, setWarm_warmStore, ↓reduceIte, objFile_storePointer]
            rw [objFile_appendData_ne _ hd₁ (dataPath_ne_indexPath _ _), hdata]
          · simp only [setTask_warmStore, setWarm_warmStore, objFile_storePointer]
            rw [objFile_appendData_self hd₁ (by simpa [w₁] using hdisk), hindex]
            simp

theorem data_insert_ok_for_every_append {s : Server} {i obj : Nat} {m : SpillMessage} {created : Bool}
    (hi : s.tasks[i]? = some (.handler ⟨m, .lock obj created⟩)) (hw : Writable s.warmStore obj)
    (dataOk indexOk : Bool) :
    ∃ s', run (exec conf) s (insertRun i dataOk indexOk) = some s' ∧
      s'.tasks[i]? = some (.handler ⟨m, .release false .getOrCreate⟩) ∧
      s'.warmStore.lockedObj obj = { s.warmStore.lockedObj obj with
        pointer := (s.warmStore.lockedObj obj).pointer + lengthSum (spillBlocks m.ctx.dataBlocks) } ∧
      s'.warmStore.objFile obj (genRelativePathForPartition m.ctx.uid).1 =
        s.warmStore.objFile obj (genRelativePathForPartition m.ctx.uid).1 ++
          (if dataOk then ((spillBlocks m.ctx.dataBlocks).map Block.data).flatten else []) ∧
      s'.warmStore.objFile obj (genRelativePathForPartition m.ctx.uid).2 =
        s.warmStore.objFile obj (genRelativePathForPartition m.ctx.uid).2 ++
          (if dataOk && indexOk then
            (buildIndex (s.warmStore.lockedObj obj).pointer (spillBlocks m.ctx.dataBlocks)).1 else []) := by
  set o := s.warmStore.lockedObj obj
  set w₁ := s.warmStore.setLockedObj obj { o with locked := true }
  have h₁ := exec_advance_handler conf hi (stepHandler_lock conf true hw)
  have hobj₁ : w₁.lockedObj obj = { o with locked := true } := lockedObj_setLockedObj_self hw.obj_lt _
  have hfile₁ : ∀ p, w₁.objFile obj p = s.warmStore.objFile obj p :=
    objFile_setLockedObj (o := { o with locked := true }) rfl obj
  obtain ⟨s', hrun, htask, hptr, hdata, hindex⟩ := appends_store_pointer conf
    (setTask_getElem?_self (s := s.setWarm w₁) (by simpa using (List.getElem?_eq_some_iff.mp hi).1))
    (by simpa [w₁] using hw.obj_lt) (by simpa [w₁, hobj₁] using hw.disk_lt) dataOk indexOk
  refine ⟨s', by rw [insertRun, run, h₁]; exact hrun, htask, ?_, ?_, ?_⟩
  · rw [hptr, setTask_warmStore, setWarm_warmStore, hobj₁]
    simp only [LockedObj.mk.injEq, true_and]
    exact ⟨rfl, hw.free.symm⟩
  · simpa [hfile₁] using hdata
  · simpa [hfile₁] using hindex

def writableServer : Server :=
  { init smallConf with
    warmStore := ⟨[LocalDisk.new "/data"], 0, [("a/0/partition-0.data", 0)], [⟨0, 0, false⟩]⟩
    tasks := [.handler ⟨⟨⟨⟨"a", 0, 0⟩, [[tenBytes]]⟩, 10, 0, 0⟩, .lock 0 true⟩] }

theorem writableServer_failed_data_append :
    writableServer.tasks[0]? = some (.handler ⟨⟨⟨⟨"a", 0, 0⟩, [[tenBytes]]⟩, 10, 0, 0⟩, .lock 0 true⟩) ∧
      Writable writableServer.warmStore 0 ∧
      ∃ s', run (exec smallConf) writableServer (insertRun 0 false true) = some s' ∧
        s'.tasks[0]? = some (.handler ⟨⟨⟨⟨"a", 0, 0⟩, [[tenBytes]]⟩, 10, 0, 0⟩, .release false .getOrCreate⟩) ∧
        s'.warmStore.lockedObj 0 = { writableServer.warmStore.lockedObj 0 with
          pointer := (writableServer.warmStore.lockedObj 0).pointer + lengthSum (spillBlocks [[tenBytes]]) } ∧
        s'.warmStore.objFile 0 (genRelativePathForPartition ⟨"a", 0, 0⟩).1 =
          writableServer.warmStore.objFile 0 (genRelativePathForPartition ⟨"a", 0, 0⟩).1 ++
            (if false then ((spillBlocks [[tenBytes]]).map Block.data).flatten else []) ∧
        s'.warmStore.objFile 0 (genRelativePathForPartition ⟨"a", 0, 0⟩).2 =
          writableServer.warmStore.objFile 0 (genRelativePathForPartition ⟨"a", 0, 0⟩).2 ++
            (if false && true then
              (buildIndex (writableServer.warmStore.lockedObj 0).pointer (spillBlocks [[tenBytes]])).1
            else []) := by
  have hw : Writable writableServer.warmStore 0 := ⟨by decide, by decide, by decide, by decide, by decide⟩
  exact ⟨rfl, hw, data_insert_ok_for_every_append smallConf rfl hw false true⟩

def spillWithFailedAppend : List Action :=
  [.request (.registerShuffle "a" 0), .request (.requireBuffer "a" 0 10)] ++ advanceAll 0 3 ++
  [.request (.sendShuffleData ⟨.grpc, "a", 0, 1, [(0, [tenBytes])]⟩)] ++ advanceAll 1 8 ++
  [.request (.requireBuffer "a" 0 1)] ++ advanceAll 2 3 ++
  [.request (.sendShuffleData ⟨.grpc, "a", 0, 2, [(1, [oneByte])]⟩)] ++ advanceAll 3 14 ++
  [.dispatch, .advance 4 true, .advance 4 true, .advance 4 false]

def spilledMessage : SpillMessage := ⟨⟨⟨"a", 0, 0⟩, [[tenBytes]]⟩, 10, 0, 0⟩

theorem failed_append_loses_block :
    ∃ s, Reach (exec smallConf) Always (init smallConf) s ∧
      tenBytes ∈ s.hotStore.partitionBlocks ⟨"a", 0, 0⟩ ∧
      s.tasks[4]? = some (.handler ⟨spilledMessage, .release false .getOrCreate⟩) ∧
      ∃ t, Reach (exec smallConf) Always s t ∧ Quiet t ∧
        tenBytes ∉ t.hotStore.partitionBlocks ⟨"a", 0, 0⟩ ∧
        (t.warmStore.disk 0).file "a/0/partition-0.index" = [] := by
  have h : EndsIn (exec smallConf) (init smallConf) spillWithFailedAppend (fun s =>
      (tenBytes ∈ s.hotStore.partitionBlocks ⟨"a", 0, 0⟩ ∧
        s.tasks[4]? = some (.handler ⟨spilledMessage, .release false .getOrCreate⟩)) ∧
      EndsIn (exec smallConf) s (advanceAll 4 5) (fun t => Quiet t ∧
        tenBytes ∉ t.hotStore.partitionBlocks ⟨"a", 0, 0⟩ ∧
        (t.warmStore.disk 0).file "a/0/partition-0.index" = [])) := by
    decide +kernel
  obtain ⟨s, hs, ⟨hmem, htask⟩, hrest⟩ := reach_of_endsIn (fun _ _ _ => trivial) h
  obtain ⟨t, ht, hlost⟩ := reach_of_endsIn (fun _ _ _ => trivial) hrest
  exact ⟨s, hs, hmem, htask, t, ht, hlost⟩

end Rifflex.Server
