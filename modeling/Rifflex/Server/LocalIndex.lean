import Rifflex.Server.Blocks
import Rifflex.Store.Localfile.Path
import Rifflex.Store.Localfile.Spill

namespace Rifflex

def HandlerPhase.writer : HandlerPhase → Option Nat
  | .appendData obj _ _ _ => some obj
  | .appendIndex obj _ _ => some obj
  | _ => none

def Task.writer : Task → Option Nat
  | .handler t => t.phase.writer
  | _ => none

end Rifflex

namespace Rifflex.Server

open LocalFileStore Transition

variable (conf : ServerConfig)

theorem getElem?_set_cases {α : Type} {l : List α} {i k : Nat} {a v : α} (h : (l.set i a)[k]? = some v) :
    (k = i ∧ v = a) ∨ (k ≠ i ∧ l[k]? = some v) := by
  rw [List.getElem?_set] at h
  by_cases hki : i = k
  · subst hki
    rw [if_pos rfl] at h
    split_ifs at h
    cases h
    exact .inl ⟨rfl, rfl⟩
  · rw [if_neg hki] at h
    exact .inr ⟨Ne.symm hki, h⟩

theorem mem_set_cases {α : Type} {l : List α} {i : Nat} {a v : α} (h : v ∈ l.set i a) :
    v = a ∨ ∃ k, k ≠ i ∧ l[k]? = some v := by
  obtain ⟨k, hk⟩ := List.getElem?_of_mem h
  rcases getElem?_set_cases hk with ⟨-, rfl⟩ | ⟨hki, hk⟩
  · exact .inl rfl
  · exact .inr ⟨k, hki, hk⟩

section Index

variable (P : Block → Prop)

-- A handler holding a write lock has written nothing at `appendData` and the data at
-- `appendIndex`; `blocks` are the partition's earlier spills.
def WriterInv (w : LocalFileStore) : Task → Prop
  | .handler ⟨m, .lock obj _⟩ =>
      Assoc.find? (genRelativePathForPartition m.ctx.uid).1 w.partitionLocks = some obj
  | .handler ⟨m, .appendData obj nextOffset index data⟩ =>
      let paths := genRelativePathForPartition m.ctx.uid
      Assoc.find? paths.1 w.partitionLocks = some obj ∧ (w.lockedObj obj).locked = true ∧
        ∃ blocks more, (∀ b ∈ more, P b) ∧
          SpilledFiles P (w.objFile obj paths.2) (w.objFile obj paths.1) blocks ∧
          (w.lockedObj obj).pointer = lengthSum blocks ∧ nextOffset = lengthSum blocks + lengthSum more ∧
          index = (buildIndex (lengthSum blocks) more).1 ∧ data = (more.map Block.data).flatten
  | .handler ⟨m, .appendIndex obj nextOffset index⟩ =>
      let paths := genRelativePathForPartition m.ctx.uid
      Assoc.find? paths.1 w.partitionLocks = some obj ∧ (w.lockedObj obj).locked = true ∧
        ∃ blocks more, (∀ b ∈ blocks ++ more, P b) ∧ w.objFile obj paths.2 = (buildIndex 0 blocks).1 ∧
          w.objFile obj paths.1 = ((blocks ++ more).map Block.data).flatten ∧
          nextOffset = lengthSum blocks + lengthSum more ∧ index = (buildIndex (lengthSum blocks) more).1
  | _ => True

def UniqueWriters (tasks : List Task) : Prop :=
  ∀ (i j r : Nat) (ti tj : Task), tasks[i]? = some ti → tasks[j]? = some tj →
    ti.writer = some r → tj.writer = some r → i = j

structure IndexInv (w : LocalFileStore) (tasks : List Task) : Prop where
  objs : ∀ k r, Assoc.find? k w.partitionLocks = some r →
    r < w.lockedObjs.length ∧ (w.lockedObj r).disk < w.localDisks.length
  inj : ∀ k k' r, Assoc.find? k w.partitionLocks = some r → Assoc.find? k' w.partitionLocks = some r → k = k'
  fresh : ∀ uid, Assoc.find? (genRelativePathForPartition uid).1 w.partitionLocks = none → ∀ i,
    (w.disk i).file (genRelativePathForPartition uid).1 = [] ∧
      (w.disk i).file (genRelativePathForPartition uid).2 = []
  settled : ∀ uid r, Assoc.find? (genRelativePathForPartition uid).1 w.partitionLocks = some r →
    (w.lockedObj r).locked = false → ∃ blocks,
      SpilledFiles P (w.objFile r (genRelativePathForPartition uid).2)
        (w.objFile r (genRelativePathForPartition uid).1) blocks ∧ (w.lockedObj r).pointer = lengthSum blocks
  writers : ∀ t ∈ tasks, WriterInv P w t
  unique : UniqueWriters tasks

variable {P}

theorem UniqueWriters.set {tasks : List Task} (h : UniqueWriters tasks) {i : Nat} {t t' : Task}
    (hi : tasks[i]? = some t)
    (hw : ∀ r, t'.writer = some r →
      t.writer = some r ∨ ∀ j u, j ≠ i → tasks[j]? = some u → u.writer ≠ some r) :
    UniqueWriters (tasks.set i t') := by
  intro k₁ k₂ r u₁ u₂ h₁ h₂ hw₁ hw₂
  rcases getElem?_set_cases h₁ with ⟨rfl, rfl⟩ | ⟨hk₁, ho₁⟩ <;>
    rcases getElem?_set_cases h₂ with ⟨rfl, rfl⟩ | ⟨hk₂, ho₂⟩
  · rfl
  · rcases hw r hw₁ with hw₁ | hfree
    · exact h _ k₂ r t u₂ hi ho₂ hw₁ hw₂
    · exact absurd hw₂ (hfree k₂ u₂ hk₂ ho₂)
  · rcases hw r hw₂ with hw₂ | hfree
    · exact h k₁ _ r u₁ t ho₁ hi hw₁ hw₂
    · exact absurd hw₁ (hfree k₁ u₁ hk₁ ho₁)
  · exact h k₁ k₂ r u₁ u₂ ho₁ ho₂ hw₁ hw₂

theorem UniqueWriters.other_ne {tasks : List Task} (h : UniqueWriters tasks) {i j r : Nat} {t u : Task}
    (hi : tasks[i]? = some t) (ht : t.writer = some r) (hj : tasks[j]? = some u) (hji : j ≠ i) :
    u.writer ≠ some r :=
  fun hu => hji (h j i r u t hj hi hu ht)

theorem IndexInv.setTask {w : LocalFileStore} {tasks : List Task} (h : IndexInv P w tasks) {i : Nat}
    {t t' : Task} (hi : tasks[i]? = some t) (ht' : WriterInv P w t')
    (hw : ∀ r, t'.writer = some r →
      t.writer = some r ∨ ∀ j u, j ≠ i → tasks[j]? = some u → u.writer ≠ some r) :
    IndexInv P w (tasks.set i t') where
  objs := h.objs
  inj := h.inj
  fresh := h.fresh
  settled := h.settled
  writers u hu := by
    rcases List.mem_or_eq_of_mem_set hu with hu | rfl
    · exact h.writers u hu
    · exact ht'
  unique := h.unique.set hi hw

theorem objFile_eq {w w' : LocalFileStore} {r : Nat} (hobj : w'.lockedObj r = w.lockedObj r)
    (hfiles : ∀ i p, (w'.disk i).file p = (w.disk i).file p) (p : String) :
    w'.objFile r p = w.objFile r p := by
  rw [objFile, objFile, hobj, hfiles]

theorem WriterInv.mono {w w' : LocalFileStore}
    (hobjs : ∀ k r, Assoc.find? k w.partitionLocks = some r → r < w.lockedObjs.length)
    (hpl : ∀ k r, Assoc.find? k w.partitionLocks = some r → Assoc.find? k w'.partitionLocks = some r)
    (hobj : ∀ r, r < w.lockedObjs.length → w'.lockedObj r = w.lockedObj r)
    (hfiles : ∀ i p, (w'.disk i).file p = (w.disk i).file p) {t : Task} (ht : WriterInv P w t) :
    WriterInv P w' t := by
  rcases t with _ | _ | _ | _ | ⟨m, phase⟩ | _
  all_goals try trivial
  cases phase with
  | lock obj _ => exact hpl _ _ ht
  | appendData obj nextOffset index data =>
      obtain ⟨hf, hl, blocks, more, hmore, hfilesOk, hp, hrest⟩ := ht
      have hr := hobj obj (hobjs _ _ hf)
      refine ⟨hpl _ _ hf, by rw [hr]; exact hl, blocks, more, hmore, ?_, by rw [hr]; exact hp, hrest⟩
      rw [objFile_eq hr hfiles, objFile_eq hr hfiles]
      exact hfilesOk
  | appendIndex obj nextOffset index =>
      obtain ⟨hf, hl, blocks, more, hall, hidx, hdata, hrest⟩ := ht
      have hr := hobj obj (hobjs _ _ hf)
      refine ⟨hpl _ _ hf, by rw [hr]; exact hl, blocks, more, hall, ?_, ?_, hrest⟩
      · rw [objFile_eq hr hfiles]
        exact hidx
      · rw [objFile_eq hr hfiles]
        exact hdata
  | _ => trivial

theorem IndexInv.of_files {w w' : LocalFileStore} {tasks : List Task} (h : IndexInv P w tasks)
    (hpl : w'.partitionLocks = w.partitionLocks) (hobjs : w'.lockedObjs = w.lockedObjs)
    (hdisks : w'.localDisks.length = w.localDisks.length)
    (hfiles : ∀ i p, (w'.disk i).file p = (w.disk i).file p) : IndexInv P w' tasks := by
  have hobj : ∀ r, w'.lockedObj r = w.lockedObj r := fun r => by rw [lockedObj, lockedObj, hobjs]
  refine ⟨fun k r hk => ?_, fun k k' r hk hk' => ?_, fun uid hu i => ?_, fun uid r hu hl => ?_,
    fun t ht => ?_, h.unique⟩
  · rw [hpl] at hk
    rw [hobjs, hobj, hdisks]
    exact h.objs k r hk
  · rw [hpl] at hk hk'
    exact h.inj k k' r hk hk'
  · rw [hpl] at hu
    rw [hfiles, hfiles]
    exact h.fresh uid hu i
  · rw [hpl] at hu
    rw [hobj] at hl ⊢
    rw [objFile_eq (hobj r) hfiles, objFile_eq (hobj r) hfiles]
    exact h.settled uid r hu hl
  · exact WriterInv.mono (fun k r hk => (h.objs k r hk).1) (fun k r hk => hpl ▸ hk)
      (fun r _ => hobj r) hfiles (h.writers t ht)

theorem IndexInv.lockEntry {w : LocalFileStore} {tasks : List Task} (h : IndexInv P w tasks)
    {hash : PartitionedUId → Nat} {uid : PartitionedUId} {res : LocalFileStore × Nat × Bool}
    (hl : w.lockEntry hash uid = .ok res) : IndexInv P res.1 tasks := by
  rcases lockEntry_cases hl with ⟨-, hres⟩ | ⟨hnone, d, hd, -, hres⟩
  · rw [hres]
    exact h
  rw [hres]
  set D := (genRelativePathForPartition uid).1
  set n := w.lockedObjs.length
  set w' : LocalFileStore := { w with partitionLocks := w.partitionLocks ++ [(D, n)],
                                      lockedObjs := w.lockedObjs ++ [⟨d, 0, false⟩] }
  have hold : ∀ k r, Assoc.find? k w.partitionLocks = some r → Assoc.find? k w'.partitionLocks = some r :=
    fun _ _ hk => Assoc.find?_append_of_some hk _
  have hcases : ∀ k r, Assoc.find? k w'.partitionLocks = some r →
      Assoc.find? k w.partitionLocks = some r ∨ (Assoc.find? k w.partitionLocks = none ∧ k = D ∧ r = n) :=
    fun _ _ hk => Assoc.find?_append_singleton_cases hk
  have hobj : ∀ r, r < n → w'.lockedObj r = w.lockedObj r := by
    intro r hr
    simp only [lockedObj, w', List.getD_eq_getElem?_getD, List.getElem?_append_left hr]
  have hnew : w'.lockedObj n = ⟨d, 0, false⟩ := by
    simp [lockedObj, w', n, List.getD_eq_getElem?_getD]
  have hfiles : ∀ i p, (w'.disk i).file p = (w.disk i).file p := fun _ _ => rfl
  refine ⟨fun k r hk => ?_, fun k k' r hk hk' => ?_, fun u hu i => ?_, fun u r hu hlk => ?_,
    fun t ht => WriterInv.mono (fun k r hk => (h.objs k r hk).1) hold hobj hfiles (h.writers t ht), h.unique⟩
  · rcases hcases k r hk with hk | ⟨-, -, rfl⟩
    · obtain ⟨hr, hdisk⟩ := h.objs k r hk
      rw [hobj r hr]
      exact ⟨by simp [w']; omega, hdisk⟩
    · rw [hnew]
      exact ⟨by simp [w', n], hd⟩
  · rcases hcases k r hk with hk | ⟨-, hkD, hrn⟩ <;> rcases hcases k' r hk' with hk' | ⟨-, hkD', hrn'⟩
    · exact h.inj k k' r hk hk'
    · exact absurd (hrn' ▸ (h.objs k r hk).1) (lt_irrefl _)
    · exact absurd (hrn ▸ (h.objs k' r hk').1) (lt_irrefl _)
    · rw [hkD, hkD']
  · exact h.fresh u (Assoc.find?_of_append_none hu) i
  · rcases hcases _ r hu with hu | ⟨hu0, -, rfl⟩
    · have hr := hobj r (h.objs _ r hu).1
      rw [hr] at hlk
      obtain ⟨blocks, hspilled, hp⟩ := h.settled u r hu hlk
      refine ⟨blocks, ?_, by rw [hr]; exact hp⟩
      rw [objFile_eq hr hfiles, objFile_eq hr hfiles]
      exact hspilled
    · obtain ⟨h1, h2⟩ := h.fresh u hu0 d
      refine ⟨[], ⟨fun _ hb => absurd hb List.not_mem_nil, ?_, ?_⟩, by rw [hnew]; rfl⟩
      · rw [objFile, hnew, hfiles]
        exact h2
      · rw [objFile, hnew, hfiles]
        exact h1

def WritesOnly (w w' : LocalFileStore) (u : PartitionedUId) : Prop :=
  ∀ i p, p ≠ (genRelativePathForPartition u).1 → p ≠ (genRelativePathForPartition u).2 →
    (w'.disk i).file p = (w.disk i).file p

theorem WritesOnly.files {w w' : LocalFileStore} {u uid : PartitionedUId} (hw : WritesOnly w w' u)
    (hne : (genRelativePathForPartition uid).1 ≠ (genRelativePathForPartition u).1) (i : Nat) :
    (w'.disk i).file (genRelativePathForPartition uid).1 = (w.disk i).file (genRelativePathForPartition uid).1 ∧
      (w'.disk i).file (genRelativePathForPartition uid).2 =
        (w.disk i).file (genRelativePathForPartition uid).2 := by
  obtain ⟨h1, h2, h3, h4⟩ := partitionPaths_ne hne
  exact ⟨hw i _ h1 h2, hw i _ h3 h4⟩

theorem WritesOnly.objFile {w w' : LocalFileStore} {u uid : PartitionedUId} (hw : WritesOnly w w' u)
    (hne : (genRelativePathForPartition uid).1 ≠ (genRelativePathForPartition u).1) {r : Nat}
    (hobj : w'.lockedObj r = w.lockedObj r) :
    w'.objFile r (genRelativePathForPartition uid).1 = w.objFile r (genRelativePathForPartition uid).1 ∧
      w'.objFile r (genRelativePathForPartition uid).2 = w.objFile r (genRelativePathForPartition uid).2 := by
  simp only [LocalFileStore.objFile, hobj]
  exact hw.files hne _

theorem key_ne_of_find? {w : LocalFileStore} {k k' : String} {r r' : Nat}
    (h : Assoc.find? k w.partitionLocks = some r) (h' : Assoc.find? k' w.partitionLocks = some r')
    (hne : r ≠ r') : k ≠ k' := by
  rintro rfl
  rw [h] at h'
  exact hne (Option.some.inj h')

theorem WriterInv.frame {w w' : LocalFileStore} {u : PartitionedUId} {r₀ : Nat}
    (hpl : w'.partitionLocks = w.partitionLocks) (hobj : ∀ r, r ≠ r₀ → w'.lockedObj r = w.lockedObj r)
    (h₀ : Assoc.find? (genRelativePathForPartition u).1 w.partitionLocks = some r₀)
    (hw : WritesOnly w w' u) {t : Task} (ht : WriterInv P w t) (hwr : t.writer ≠ some r₀) :
    WriterInv P w' t := by
  rcases t with _ | _ | _ | _ | ⟨m, phase⟩ | _
  all_goals try trivial
  cases phase with
  | lock obj _ =>
      show Assoc.find? _ w'.partitionLocks = some obj
      rw [hpl]
      exact ht
  | appendData obj nextOffset index data =>
      obtain ⟨hf, hl, blocks, more, hmore, hfilesOk, hp, hrest⟩ := ht
      have hne : obj ≠ r₀ := fun he => hwr (by rw [he]; rfl)
      have hr := hobj obj hne
      obtain ⟨hd, hi⟩ := hw.objFile (key_ne_of_find? hf h₀ hne) hr
      refine ⟨hpl ▸ hf, by rw [hr]; exact hl, blocks, more, hmore, ?_, by rw [hr]; exact hp, hrest⟩
      rw [hd, hi]
      exact hfilesOk
  | appendIndex obj nextOffset index =>
      obtain ⟨hf, hl, blocks, more, hall, hidx, hdata, hrest⟩ := ht
      have hne : obj ≠ r₀ := fun he => hwr (by rw [he]; rfl)
      have hr := hobj obj hne
      obtain ⟨hd, hi⟩ := hw.objFile (key_ne_of_find? hf h₀ hne) hr
      exact ⟨hpl ▸ hf, by rw [hr]; exact hl, blocks, more, hall, hi ▸ hidx, hd ▸ hdata, hrest⟩
  | _ => trivial

theorem IndexInv.write {w w' : LocalFileStore} {tasks : List Task} (h : IndexInv P w tasks)
    {i : Nat} {t t' : Task} {u : PartitionedUId} {r₀ : Nat} (hi : tasks[i]? = some t)
    (h₀ : Assoc.find? (genRelativePathForPartition u).1 w.partitionLocks = some r₀)
    (hpl : w'.partitionLocks = w.partitionLocks) (hlen : w'.lockedObjs.length = w.lockedObjs.length)
    (hdisks : w'.localDisks.length = w.localDisks.length)
    (hobj : ∀ r, r ≠ r₀ → w'.lockedObj r = w.lockedObj r)
    (hdisk₀ : (w'.lockedObj r₀).disk = (w.lockedObj r₀).disk) (hw : WritesOnly w w' u)
    (hothers : ∀ j v, j ≠ i → tasks[j]? = some v → v.writer ≠ some r₀)
    (hown : (w'.lockedObj r₀).locked = false → ∃ blocks,
      SpilledFiles P (w'.objFile r₀ (genRelativePathForPartition u).2)
        (w'.objFile r₀ (genRelativePathForPartition u).1) blocks ∧
      (w'.lockedObj r₀).pointer = lengthSum blocks)
    (ht' : WriterInv P w' t')
    (hwt : ∀ r, t'.writer = some r →
      t.writer = some r ∨ ∀ j v, j ≠ i → tasks[j]? = some v → v.writer ≠ some r) :
    IndexInv P w' (tasks.set i t') := by
  refine ⟨fun k r hk => ?_, fun k k' r hk hk' => ?_, fun uid hu j => ?_, fun uid r hu hl => ?_,
    fun v hv => ?_, h.unique.set hi hwt⟩
  · rw [hpl] at hk
    obtain ⟨hr, hd⟩ := h.objs k r hk
    refine ⟨hlen ▸ hr, hdisks ▸ ?_⟩
    by_cases hr₀ : r = r₀
    · subst hr₀
      rw [hdisk₀]
      exact hd
    · rw [hobj r hr₀]
      exact hd
  · rw [hpl] at hk hk'
    exact h.inj k k' r hk hk'
  · rw [hpl] at hu
    have hne : (genRelativePathForPartition uid).1 ≠ (genRelativePathForPartition u).1 := by
      intro he
      rw [he, h₀] at hu
      cases hu
    obtain ⟨h1, h2⟩ := hw.files hne j
    rw [h1, h2]
    exact h.fresh uid hu j
  · rw [hpl] at hu
    by_cases hr₀ : r = r₀
    · subst hr₀
      have hk := h.inj _ _ _ hu h₀
      have hk2 := (dataPath_eq_iff_indexPath_eq uid u).mp hk
      rw [hk, hk2]
      exact hown hl
    · have hr := hobj r hr₀
      rw [hr] at hl ⊢
      obtain ⟨hd, hidx⟩ := hw.objFile (key_ne_of_find? hu h₀ hr₀) hr
      rw [hd, hidx]
      exact h.settled uid r hu hl
  · rcases mem_set_cases hv with rfl | ⟨j, hji, hj⟩
    · exact ht'
    · exact WriterInv.frame hpl hobj h₀ hw (h.writers v (List.mem_of_getElem? hj)) (hothers j v hji hj)

theorem spillBlocks_satisfy {batches : List (List Block)} (h : ∀ b ∈ batches.flatten, P b) :
    ∀ b ∈ spillBlocks batches, P b := fun b hb => h b (List.mem_insertionSort _ |>.mp hb)

theorem IndexInv.acquire {w : LocalFileStore} {tasks : List Task} (h : IndexInv P w tasks) {i : Nat}
    {m : SpillMessage} {obj : Nat} {created : Bool} (hi : tasks[i]? = some (.handler ⟨m, .lock obj created⟩))
    (hfree : (w.lockedObj obj).locked = false) (hblocks : ∀ b ∈ m.ctx.dataBlocks.flatten, P b) :
    IndexInv P (w.setLockedObj obj { w.lockedObj obj with locked := true })
      (tasks.set i (.handler ⟨m, .appendData obj
        (buildIndex (w.lockedObj obj).pointer (spillBlocks m.ctx.dataBlocks)).2.2.2
        (buildIndex (w.lockedObj obj).pointer (spillBlocks m.ctx.dataBlocks)).1
        (buildIndex (w.lockedObj obj).pointer (spillBlocks m.ctx.dataBlocks)).2.1.flatten⟩)) := by
  have h₀ : Assoc.find? (genRelativePathForPartition m.ctx.uid).1 w.partitionLocks = some obj :=
    h.writers _ (List.mem_of_getElem? hi)
  have hlt := (h.objs _ _ h₀).1
  set w' := w.setLockedObj obj { w.lockedObj obj with locked := true }
  have hself : w'.lockedObj obj = { w.lockedObj obj with locked := true } := lockedObj_setLockedObj_self hlt _
  have hobj : ∀ r, r ≠ obj → w'.lockedObj r = w.lockedObj r := fun r hr => lockedObj_setLockedObj_ne _ hr _
  have hfile : ∀ p, w'.objFile obj p = w.objFile obj p := fun p => by
    simp only [objFile, hself, w', setLockedObj_disk]
  have hothers : ∀ j v, j ≠ i → tasks[j]? = some v → v.writer ≠ some obj := by
    intro j v _ hj hv
    rcases v with _ | _ | _ | _ | ⟨m', phase⟩ | _
    all_goals try cases hv
    cases phase with
    | appendData obj' _ _ _ =>
        cases hv
        have hl := (h.writers _ (List.mem_of_getElem? hj)).2.1
        rw [hfree] at hl
        cases hl
    | appendIndex obj' _ _ =>
        cases hv
        have hl := (h.writers _ (List.mem_of_getElem? hj)).2.1
        rw [hfree] at hl
        cases hl
    | _ => cases hv
  obtain ⟨blocks, hspilled, hp⟩ := h.settled m.ctx.uid obj h₀ hfree
  refine h.write hi h₀ rfl (by simp [w']) rfl hobj (by rw [hself]) (fun _ _ _ _ => rfl) hothers
    (fun hl => by rw [hself] at hl; cases hl) ?_ (fun r hr => .inr (by cases hr; exact hothers))
  refine ⟨h₀, by rw [hself], blocks, spillBlocks m.ctx.dataBlocks, spillBlocks_satisfy hblocks, ?_,
    by rw [hself]; exact hp, ?_, ?_, ?_⟩
  · rw [hfile, hfile]
    exact hspilled
  · rw [buildIndex_next, hp]
  · rw [hp]
  · rw [buildIndex_data]

theorem UniqueWriters.others {tasks : List Task} (h : UniqueWriters tasks) {i r : Nat} {t : Task}
    (hi : tasks[i]? = some t) (ht : t.writer = some r) :
    ∀ j v, j ≠ i → tasks[j]? = some v → v.writer ≠ some r :=
  fun _ _ hji hj => h.other_ne hi ht hj hji

theorem IndexInv.appendData {w : LocalFileStore} {tasks : List Task} (h : IndexInv P w tasks) {i : Nat}
    {m : SpillMessage} {obj : Nat} {nextOffset : Int} {index data : List UInt8}
    (hi : tasks[i]? = some (.handler ⟨m, .appendData obj nextOffset index data⟩)) :
    IndexInv P (w.appendData (w.lockedObj obj).disk (genRelativePathForPartition m.ctx.uid).1 data)
      (tasks.set i (.handler ⟨m, .appendIndex obj nextOffset index⟩)) := by
  obtain ⟨h₀, hl, blocks, more, hmore, hspilled, hp, hnext, hidx, hdata⟩ :=
    (h.writers _ (List.mem_of_getElem? hi) : WriterInv P w (.handler ⟨m, .appendData obj nextOffset index data⟩))
  have hd := (h.objs _ _ h₀).2
  set w' := w.appendData (w.lockedObj obj).disk (genRelativePathForPartition m.ctx.uid).1 data
  have hw : WritesOnly w w' m.ctx.uid := fun j p hp1 _ => appendData_file_ne _ (.inr hp1) _
  have hothers := h.unique.others hi rfl
  refine h.write hi h₀ rfl rfl (by simp [w']) (fun _ _ => rfl) rfl hw hothers
    (fun hl' => by simp only [w', appendData_lockedObj] at hl'; rw [hl] at hl'; cases hl') ?_
    (fun r hr => .inl hr)
  refine ⟨h₀, hl, blocks, more, ?_, ?_, ?_, hnext, hidx⟩
  · intro b hb
    rcases List.mem_append.mp hb with hb | hb
    · exact hspilled.satisfy b hb
    · exact hmore b hb
  · rw [objFile, appendData_lockedObj, appendData_file_ne _ (.inr (dataPath_ne_indexPath _ _).symm)]
    exact hspilled.index_eq
  · rw [objFile, appendData_lockedObj, appendData_file_self hd, ← objFile, hspilled.data_eq, hdata]
    simp

theorem IndexInv.appendIndex {w : LocalFileStore} {tasks : List Task} (h : IndexInv P w tasks) {i : Nat}
    {m : SpillMessage} {obj : Nat} {nextOffset : Int} {index : List UInt8}
    (hi : tasks[i]? = some (.handler ⟨m, .appendIndex obj nextOffset index⟩)) {t' : Task}
    (hwt : t'.writer = none) (ht' : ∀ w', WriterInv P w' t') :
    IndexInv P ((w.appendData (w.lockedObj obj).disk (genRelativePathForPartition m.ctx.uid).2 index).storePointer
      obj nextOffset) (tasks.set i t') := by
  obtain ⟨h₀, hl, blocks, more, hall, hidxf, hdataf, hnext, hindex⟩ :=
    (h.writers _ (List.mem_of_getElem? hi) : WriterInv P w (.handler ⟨m, .appendIndex obj nextOffset index⟩))
  obtain ⟨hlt, hd⟩ := h.objs _ _ h₀
  set d := (w.lockedObj obj).disk
  set w₁ := w.appendData d (genRelativePathForPartition m.ctx.uid).2 index
  set w' := w₁.storePointer obj nextOffset
  have hself : w'.lockedObj obj = { w.lockedObj obj with pointer := nextOffset, locked := false } :=
    lockedObj_setLockedObj_self (by simpa [w₁] using hlt) _
  have hobj : ∀ r, r ≠ obj → w'.lockedObj r = w.lockedObj r := fun r hr => lockedObj_setLockedObj_ne _ hr _
  have hw : WritesOnly w w' m.ctx.uid := fun j p _ hp2 => by
    simp only [w', storePointer_disk]
    exact appendData_file_ne _ (.inr hp2) _
  have hfile : ∀ p, w'.objFile obj p = (w₁.disk d).file p := fun p => by
    rw [objFile, hself]
    rfl
  refine h.write hi h₀ rfl (by simp [w', w₁]) (by simp [w', w₁]) hobj (by rw [hself]) hw
    (h.unique.others hi rfl) (fun _ => ⟨blocks ++ more, ⟨hall, ?_, ?_⟩, ?_⟩) (ht' w') (fun r hr => by
      rw [hwt] at hr
      cases hr)
  · rw [hfile, appendData_file_self hd, ← objFile, hidxf, hindex, buildIndex_append, zero_add]
  · rw [hfile, appendData_file_ne _ (.inr (dataPath_ne_indexPath _ _)), ← objFile]
    exact hdataf
  · rw [hself, hnext, lengthSum_append]

theorem writer_of_not_handler {t : Task} (h : t.isHandler = false) : t.writer = none ∧ ∀ w, WriterInv P w t := by
  cases t with
  | handler t => cases h
  | _ => exact ⟨rfl, fun _ => trivial⟩

theorem afterSpill_writer (s : Server) (t : HandlerTask) (res : Except WorkerError Unit) :
    (afterSpill s t res).2.writer = none ∧ ∀ w, WriterInv P w (afterSpill s t res).2 := by
  unfold afterSpill
  split <;> exact ⟨rfl, fun _ => trivial⟩

theorem IndexInv.setTask_free {w : LocalFileStore} {tasks : List Task} (h : IndexInv P w tasks) {i : Nat}
    {t t' : Task} (hi : tasks[i]? = some t) (hwt : t'.writer = none) (ht' : WriterInv P w t') :
    IndexInv P w (tasks.set i t') :=
  h.setTask hi ht' (fun r hr => by rw [hwt] at hr; cases hr)

theorem stepHandler_index {s : Server} {i : Nat} {t : HandlerTask} {res : Server × Task}
    (h : IndexInv P s.warmStore s.tasks) (hb : ∀ b ∈ t.message.ctx.dataBlocks.flatten, P b)
    (hi : s.tasks[i]? = some (.handler t)) (hstep : stepHandler conf s t true = some res) :
    IndexInv P res.1.warmStore (s.tasks.set i res.2) := by
  rcases t with ⟨m, phase⟩
  have hafter : ∀ res', (afterSpill s ⟨m, phase⟩ res').1.warmStore = s.warmStore →
      IndexInv P (afterSpill s ⟨m, phase⟩ res').1.warmStore (s.tasks.set i (afterSpill s ⟨m, phase⟩ res').2) := by
    intro res' hw
    rw [hw]
    obtain ⟨hwt, hwi⟩ := afterSpill_writer (P := P) s ⟨m, phase⟩ res'
    exact h.setTask_free hi hwt (hwi _)
  cases phase with
  | start =>
      simp only [stepHandler] at hstep
      split at hstep
      · cases hstep
        exact hafter _ (by rw [afterSpill_fst])
      · cases hl : s.warmStore.lockEntry conf.getHash m.ctx.uid with
        | error err =>
            rw [hl] at hstep
            cases hstep
            exact hafter _ (by rw [afterSpill_fst])
        | ok r =>
            rw [hl] at hstep
            cases hstep
            exact (h.lockEntry hl).setTask_free hi rfl (lockEntry_find? hl)
  | lock obj created =>
      simp only [stepHandler] at hstep
      split_ifs at hstep with hlocked hcorrupt hhealthy
      · cases hstep
        exact hafter _ (by rw [afterSpill_fst])
      · cases hstep
        exact hafter _ (by rw [afterSpill_fst])
      · cases hstep
        exact h.acquire hi (by simpa using hlocked) hb
  | appendData obj nextOffset index data =>
      simp only [stepHandler, if_true, Option.some.injEq] at hstep
      subst hstep
      exact h.appendData hi
  | appendIndex obj nextOffset index =>
      simp only [stepHandler, if_true, Option.some.injEq] at hstep
      subst hstep
      obtain ⟨hwt, hwi⟩ := afterSpill_writer (P := P) _ ⟨m, .appendIndex obj nextOffset index⟩ (.ok ())
      rw [afterSpill_fst]
      exact h.appendIndex hi hwt hwi
  | release dropped phase =>
      cases phase <;> simp only [stepHandler, Option.some.injEq] at hstep <;> subst hstep <;>
        exact h.setTask_free hi rfl trivial
  | republish =>
      simp only [stepHandler, Option.some.injEq] at hstep
      subst hstep
      exact h.setTask_free hi rfl trivial
  | incSpillEventNum =>
      simp only [stepHandler, Option.some.injEq] at hstep
      subst hstep
      exact h.setTask_free hi rfl trivial

theorem stepTask_index {s : Server} {i : Nat} {t : Task} {res : Server × Task}
    (h : IndexInv P s.warmStore s.tasks) (hb : t.BlocksSatisfy P) (hi : s.tasks[i]? = some t)
    (hstep : stepTask conf s t true = some res) : IndexInv P res.1.warmStore (s.tasks.set i res.2) := by
  cases t with
  | send t =>
      cases hstep
      obtain ⟨-, hw, hh⟩ := stepSend_frame conf s t
      obtain ⟨hwt, hwi⟩ := writer_of_not_handler (P := P) hh
      rw [hw]
      exact h.setTask_free hi hwt (hwi _)
  | require t =>
      cases hstep
      obtain ⟨-, hw, hh⟩ := stepRequire_frame s t
      obtain ⟨hwt, hwi⟩ := writer_of_not_handler (P := P) hh
      rw [hw]
      exact h.setTask_free hi hwt (hwi _)
  | memRead t =>
      cases hstep
      obtain ⟨-, hw, hh⟩ := stepMemRead_frame s t
      obtain ⟨hwt, hwi⟩ := writer_of_not_handler (P := P) hh
      rw [hw]
      exact h.setTask_free hi hwt (hwi _)
  | localRead t =>
      cases hstep
      obtain ⟨-, hh, hw⟩ := stepLocalRead_frame conf s t
      obtain ⟨hwt, hwi⟩ := writer_of_not_handler (P := P) hh
      rcases hw with hw | ⟨r, hl, hw⟩
      · rw [hw]
        exact h.setTask_free hi hwt (hwi _)
      · rw [hw]
        exact (h.lockEntry hl).setTask_free hi hwt (hwi _)
  | handler t => exact stepHandler_index conf h hb hi hstep
  | done => cases hstep

theorem IndexInv.spawn {w : LocalFileStore} {tasks : List Task} (h : IndexInv P w tasks) {t : Task}
    (hwt : t.writer = none) (ht : WriterInv P w t) : IndexInv P w (tasks ++ [t]) where
  objs := h.objs
  inj := h.inj
  fresh := h.fresh
  settled := h.settled
  writers u hu := by
    rcases List.mem_append.mp hu with hu | hu
    · exact h.writers u hu
    · rw [List.mem_singleton.mp hu]
      exact ht
  unique i j r ti tj hi hj hwi hwj := by
    have hold : ∀ (k : Nat) (u : Task), (tasks ++ [t])[k]? = some u → u.writer = some r → tasks[k]? = some u := by
      intro k u hk hu
      rw [List.getElem?_append] at hk
      split_ifs at hk with hlt
      · exact hk
      · rw [List.getElem?_singleton] at hk
        split_ifs at hk
        cases hk
        rw [hwt] at hu
        cases hu
    exact h.unique i j r ti tj (hold i ti hi hwi) (hold j tj hj hwj) hwi hwj

theorem handleRequest_index {s : Server} (h : IndexInv P s.warmStore s.tasks) (r : Request) :
    IndexInv P (handleRequest conf s r).warmStore (handleRequest conf s r).tasks := by
  cases r with
  | appHeartbeat appId =>
      simp only [handleRequest]
      split
      · exact h
      · exact h
  | requireBuffer => exact h.spawn rfl trivial
  | sendShuffleData => exact h.spawn rfl trivial
  | getMemoryShuffleData => exact h.spawn rfl trivial
  | getLocalShuffleData => exact h.spawn rfl trivial
  | getLocalShuffleIndex => exact h.spawn rfl trivial
  | _ => exact h

theorem updateDisk_files (s : Server) (i : Nat) {f : LocalDisk → LocalDisk}
    (hf : ∀ d, (f d).files = d.files) (j : Nat) (p : String) :
    (((s.updateDisk i f).warmStore).disk j).file p = (s.warmStore.disk j).file p := by
  simp only [updateDisk, setWarm_warmStore]
  by_cases hj : j = i
  · subst hj
    by_cases hlt : j < s.warmStore.localDisks.length
    · rw [disk_setDisk_self hlt]
      simp [LocalDisk.file, hf]
    · simp [LocalFileStore.disk, setDisk, List.getD_eq_getElem?_getD, hlt]
  · rw [disk_setDisk_ne _ hj]

theorem IndexInv.updateDisk {s : Server} (h : IndexInv P s.warmStore s.tasks) (i : Nat)
    {f : LocalDisk → LocalDisk} (hf : ∀ d, (f d).files = d.files) :
    IndexInv P (s.updateDisk i f).warmStore (s.updateDisk i f).tasks :=
  h.of_files rfl rfl (by simp [Server.updateDisk]) (updateDisk_files s i hf)

-- Runs whose sends carry blocks satisfying `P`, with no purge, and in which every disk write
-- completes.
def SpillsComplete (P : Block → Prop) (_ : Server) (act : Action) : Prop :=
  SendsSatisfy P act ∧ act ≠ .purge ∧ ∀ i, act ≠ .advance i false

theorem exec_index {s s' : Server} {act : Action} (h : IndexInv P s.warmStore s.tasks)
    (hb : BlocksSatisfy P s) (hact : SpillsComplete P s act) (hexec : exec conf s act = some s') :
    IndexInv P s'.warmStore s'.tasks := by
  obtain ⟨-, hpurge, hok⟩ := hact
  cases act with
  | request r =>
      cases hexec
      exact handleRequest_index conf h r
  | advance i diskOk =>
      cases diskOk with
      | false => exact absurd rfl (hok i)
      | true =>
          obtain ⟨t, res, hi, hres, rfl⟩ := exec_advance_cases conf hexec
          have ht := stepTask_index conf h (hb.tasks t (List.mem_of_getElem? hi)) hi hres
          simpa [setTask, stepTask_tasks conf hres] using ht
  | dispatch =>
      obtain ⟨message, rest, -, rfl⟩ := exec_dispatch_cases conf hexec
      exact h.spawn rfl trivial
  | purge => exact absurd rfl hpurge
  | ticketCheck =>
      cases hexec
      unfold stepTicketCheck
      split <;> exact h
  | heartbeatCheck => cases hexec; exact h
  | tick => cases hexec; exact h
  | markCorrupted i => cases hexec; exact h.updateDisk i (fun _ => rfl)
  | markUnhealthy i => cases hexec; exact h.updateDisk i (fun _ => rfl)
  | markHealthy i => cases hexec; exact h.updateDisk i (fun _ => rfl)

theorem init_index : IndexInv P (init conf).warmStore (init conf).tasks := by
  refine ⟨fun _ _ hk => by simp [init, LocalFileStore.from] at hk,
    fun _ _ _ hk => by simp [init, LocalFileStore.from] at hk, fun uid _ i => ?_,
    fun _ _ hk => by simp [init, LocalFileStore.from] at hk, fun _ ht => by simp [init] at ht,
    fun _ _ _ _ _ hi => by simp [init] at hi⟩
  simp only [init, LocalFileStore.from, LocalFileStore.disk, List.getD_eq_getElem?_getD, List.getElem?_map]
  cases (conf.localfile.dataPaths)[i]? <;> simp [LocalDisk.new, LocalDisk.file]

theorem reach_index {s : Server} (h : Reach (exec conf) (SpillsComplete P) (init conf) s) :
    IndexInv P s.warmStore s.tasks ∧ BlocksSatisfy P s := by
  refine reach_invariant (P := fun s => IndexInv P s.warmStore s.tasks ∧ BlocksSatisfy P s)
    (fun s act s' hp ha he => ⟨exec_index conf hp.1 hp.2 ha he, exec_satisfies conf hp.2 ha.1 he⟩)
    ⟨init_index conf, init_satisfies conf⟩ h

end Index

end Rifflex.Server
