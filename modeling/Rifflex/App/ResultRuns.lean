import Rifflex.App.Results

namespace Rifflex.Results

open Transition Word Server

namespace ResultServer

variable {s t : ResultServer}

def Stored (s : ResultServer) (r : Nat) (shuffleId : Int) (done : List (Int × List Int)) : Prop :=
  ∀ e ∈ done, ∀ id ∈ e.2, toU64 id ∈ ((s.app r).blockIds (shuffleId, e.1)).values

-- Before `get_app` nothing is done; holding app `r`, the partitions before `pending` are stored.
def TaskInv (s : ResultServer) (t : ReportTask) : Prop :=
  match t.phase with
  | .getApp => t.pending = t.request
  | .report r => r < s.appHeap.length ∧ (s.app r).appId = t.appId ∧
      ∃ done, t.request = done ++ t.pending ∧ Stored s r t.shuffleId done
  | .replied _ _ => True

structure WellFormed (s : ResultServer) : Prop where
  owners : ∀ A r, s.getApp A = some r → r < s.appHeap.length ∧ (s.app r).appId = A
  tasks : ∀ t ∈ s.tasks, TaskInv s t

structure Extends (s t : ResultServer) : Prop where
  length_le : s.appHeap.length ≤ t.appHeap.length
  appId : ∀ r < s.appHeap.length, (t.app r).appId = (s.app r).appId
  grows : ∀ r key x, x ∈ ((s.app r).blockIds key).values → x ∈ ((t.app r).blockIds key).values

structure Keeps (s t : ResultServer) : Prop where
  length_le : s.appHeap.length ≤ t.appHeap.length
  appId : ∀ r < s.appHeap.length, (t.app r).appId = (s.app r).appId
  blockIds : ∀ r key, (t.app r).blockIds key = (s.app r).blockIds key

theorem Extends.refl (s : ResultServer) : Extends s s := ⟨le_refl _, fun _ _ => rfl, fun _ _ _ h => h⟩

theorem Extends.trans {u : ResultServer} (h₁ : Extends s t) (h₂ : Extends t u) : Extends s u :=
  ⟨h₁.length_le.trans h₂.length_le,
    fun r hr => (h₂.appId r (lt_of_lt_of_le hr h₁.length_le)).trans (h₁.appId r hr),
    fun r key x hx => h₂.grows r key x (h₁.grows r key x hx)⟩

theorem Keeps.toExtends (h : Keeps s t) : Extends s t :=
  ⟨h.length_le, h.appId, fun r key x hx => by rwa [h.blockIds]⟩

theorem lt_of_mem_blockIds {r : Nat} {key : Int × Int} {x : Nat} (h : x ∈ ((s.app r).blockIds key).values) :
    r < s.appHeap.length := by
  by_contra hr
  rw [app_of_le (Nat.le_of_not_lt hr)] at h
  simp at h

theorem keeps_of_appHeap (h : t.appHeap = s.appHeap) : Keeps s t := by
  have happ : t.app = s.app := by
    funext r
    simp [app, h]
  exact ⟨h ▸ le_refl _, fun r _ => by rw [happ], fun r key => by rw [happ]⟩

theorem keeps_tasks (tasks : List ReportTask) : Keeps s { s with tasks := tasks } := keeps_of_appHeap rfl

theorem keeps_register (A : String) : Keeps s (s.register A) :=
  ⟨length_register_le A, fun _ hr => by rw [app_register_lt A hr], blockIds_register A⟩

theorem keeps_setApp {r : Nat} {b : ResultApp} (happId : b.appId = (s.app r).appId)
    (hblockIds : ∀ key, b.blockIds key = (s.app r).blockIds key) : Keeps s (s.setApp r b) := by
  refine ⟨by simp, fun r' _ => ?_, fun r' key => ?_⟩
  · rcases app_setApp_cases r b r' with h | ⟨rfl, -, h⟩
    · rw [h]
    · rw [h, happId]
  · rcases app_setApp_cases r b r' with h | ⟨rfl, -, h⟩
    · rw [h]
    · rw [h, hblockIds]

theorem extends_report (r : Nat) (key : Int × Int) (ids : List Int) :
    Extends s (s.setApp r ((s.app r).reportBlockIds key ids)) := by
  refine ⟨by simp, fun r' _ => ?_, fun r' key' x hx => ?_⟩
  · rcases app_setApp_cases r ((s.app r).reportBlockIds key ids) r' with h | ⟨rfl, -, h⟩
    · rw [h]
    · rw [h, ResultApp.reportBlockIds_appId]
  · rcases app_setApp_cases r ((s.app r).reportBlockIds key ids) r' with h | ⟨rfl, -, h⟩
    · rwa [h]
    · rw [h]
      by_cases hk : key' = key
      · subst hk
        rw [ResultApp.blockIds_reportBlockIds_self, Treemap.mem_addIds]
        exact .inl hx
      · rwa [ResultApp.blockIds_reportBlockIds_ne _ hk]

theorem Stored.mono (hext : Extends s t) {r : Nat} {shuffleId : Int} {done : List (Int × List Int)}
    (h : Stored s r shuffleId done) : Stored t r shuffleId done :=
  fun e he id hid => hext.grows r _ _ (h e he id hid)

theorem TaskInv.mono (hext : Extends s t) {task : ReportTask} (h : TaskInv s task) : TaskInv t task := by
  unfold TaskInv at h ⊢
  cases hp : task.phase with
  | getApp => simpa [hp] using h
  | report r =>
      simp only [hp] at h ⊢
      obtain ⟨hr, hid, done, hreq, hst⟩ := h
      exact ⟨lt_of_lt_of_le hr hext.length_le, (hext.appId r hr).trans hid, done, hreq, hst.mono hext⟩
  | replied _ _ => trivial

theorem Effect.toExtends {a : ResultAction} (h : Effect s a t) : Extends s t := by
  cases h with
  | register A => exact (keeps_register A).toExtends
  | purge A => exact (keeps_of_appHeap (appHeap_purge A)).toExtends
  | spawn A shuffleId parts => exact (keeps_tasks _).toExtends
  | read r b happId hblockIds => exact (keeps_setApp happId hblockIds).toExtends
  | unchanged => exact Extends.refl s
  | advance hi hstep =>
      cases hstep with
      | noApp => exact (keeps_tasks _).toExtends
      | gotApp => exact (keeps_tasks _).toExtends
      | success => exact (keeps_tasks _).toExtends
      | write => exact (extends_report _ _ _).trans (keeps_tasks _).toExtends

theorem reach_extends {allowed : ResultServer → ResultAction → Prop} {u : ResultServer}
    (h : Reach exec allowed s u) : Extends s u := by
  induction h with
  | refl => exact Extends.refl s
  | tail _ hstep ih =>
      obtain ⟨a, -, he⟩ := hstep
      exact ih.trans (exec_effect he).toExtends

section WellFormedSteps

variable (hw : WellFormed s)
include hw

theorem wellFormed_setTask {i : Nat} {task' : ReportTask} (h : TaskInv s task') :
    WellFormed { s with tasks := s.tasks.set i task' } :=
  ⟨hw.owners, fun task ht => (List.mem_or_eq_of_mem_set ht).elim (hw.tasks task) (fun h' => h' ▸ h)⟩

theorem wellFormed_register (A : String) : WellFormed (s.register A) := by
  have hk := keeps_register (s := s) A
  refine ⟨fun A' r h => ?_, fun task ht => ?_⟩
  · rcases getApp_register_cases h with h | ⟨hA, rfl, rfl⟩
    · obtain ⟨hr, hid⟩ := hw.owners A' r h
      exact ⟨lt_of_lt_of_le hr hk.length_le, (hk.appId r hr).trans hid⟩
    · exact ⟨by simp [register, hA], by rw [app_register_length hA]; rfl⟩
  · rw [tasks_register] at ht
    exact (hw.tasks task ht).mono hk.toExtends

theorem wellFormed_purge (A : String) : WellFormed (s.purge A) := by
  have hk := keeps_of_appHeap (appHeap_purge (s := s) A)
  refine ⟨fun A' r h => ?_, fun task ht => ?_⟩
  · rw [appHeap_purge, app_purge]
    exact hw.owners A' r (getApp_purge_of_some h)
  · rw [tasks_purge] at ht
    exact (hw.tasks task ht).mono hk.toExtends

theorem wellFormed_spawn (A : String) (shuffleId : Int) (parts : List (Int × List Int)) :
    WellFormed { s with tasks := s.tasks ++ [⟨A, shuffleId, parts, parts, .getApp⟩] } := by
  refine ⟨hw.owners, fun task ht => ?_⟩
  rcases List.mem_append.mp ht with ht | ht
  · exact hw.tasks task ht
  · rw [List.mem_singleton] at ht
    subst ht
    rfl

theorem wellFormed_read {r : Nat} {b : ResultApp} (happId : b.appId = (s.app r).appId)
    (hblockIds : ∀ key, b.blockIds key = (s.app r).blockIds key) : WellFormed (s.setApp r b) := by
  have hk := keeps_setApp happId hblockIds
  refine ⟨fun A r' h => ?_, fun task ht => ?_⟩
  · obtain ⟨hr, hid⟩ := hw.owners A r' h
    exact ⟨by simpa using hr, (hk.appId r' hr).trans hid⟩
  · exact (hw.tasks task ht).mono hk.toExtends

theorem wellFormed_write {task : ReportTask} (htask : TaskInv s task) {r : Nat} {p : Int} {ids : List Int}
    {rest : List (Int × List Int)} (hphase : task.phase = .report r) (hpending : task.pending = (p, ids) :: rest) :
    WellFormed (s.setApp r ((s.app r).reportBlockIds (task.shuffleId, p) ids)) ∧
      TaskInv (s.setApp r ((s.app r).reportBlockIds (task.shuffleId, p) ids)) { task with pending := rest } := by
  have hext := extends_report (s := s) r (task.shuffleId, p) ids
  simp only [TaskInv, hphase] at htask
  obtain ⟨hr, hid, done, hreq, hst⟩ := htask
  refine ⟨⟨fun A r' h => ?_, fun task' ht => ?_⟩, ?_⟩
  · obtain ⟨hr', hid'⟩ := hw.owners A r' h
    exact ⟨by simpa using hr', (hext.appId r' hr').trans hid'⟩
  · exact (hw.tasks task' ht).mono hext
  · -- the partition just written joins the stored prefix of the request
    simp only [TaskInv, hphase]
    refine ⟨by simpa using hr, by rw [app_setApp_self hr, ResultApp.reportBlockIds_appId, hid],
      done ++ [(p, ids)], by rw [hreq, hpending]; simp, fun e he id hid => ?_⟩
    rcases List.mem_append.mp he with he | he
    · exact hst.mono hext e he id hid
    · rw [List.mem_singleton] at he
      subst he
      rw [app_setApp_self hr, ResultApp.blockIds_reportBlockIds_self, Treemap.mem_addIds]
      exact .inr ⟨id, hid, rfl⟩

theorem wellFormed_advance {i : Nat} {task task' : ReportTask} {s' : ResultServer} (hi : s.tasks[i]? = some task)
    (hstep : ReportStep s task s' task') : WellFormed { s' with tasks := s'.tasks.set i task' } := by
  have htask := hw.tasks task (List.mem_of_getElem? hi)
  cases hstep with
  | noApp hphase happ => exact wellFormed_setTask hw trivial
  | gotApp hphase happ =>
      obtain ⟨hr, hid⟩ := hw.owners _ _ happ
      have hpending : task.pending = task.request := by simpa [TaskInv, hphase] using htask
      exact wellFormed_setTask hw ⟨hr, hid, [], by simp [hpending], by simp [Stored]⟩
  | success hphase hpending => exact wellFormed_setTask hw trivial
  | write hphase hpending =>
      obtain ⟨hw', ht'⟩ := wellFormed_write hw htask hphase hpending
      exact wellFormed_setTask hw' ht'

theorem wellFormed_exec {a : ResultAction} (h : exec s a = some t) : WellFormed t := by
  cases exec_effect h with
  | register A => exact wellFormed_register hw A
  | purge A => exact wellFormed_purge hw A
  | spawn A shuffleId parts => exact wellFormed_spawn hw A shuffleId parts
  | read r b happId hblockIds => exact wellFormed_read hw happId hblockIds
  | unchanged => exact hw
  | advance hi hstep => exact wellFormed_advance hw hi hstep

end WellFormedSteps

theorem wellFormed_init : WellFormed init :=
  ⟨fun _ _ h => by simp [getApp, init] at h, fun _ h => by simp [init] at h⟩

theorem reach_wellFormed {allowed : ResultServer → ResultAction → Prop} (h : Reach exec allowed init s) :
    WellFormed s :=
  reach_invariant (fun _ _ _ hs _ he => wellFormed_exec hs he) wellFormed_init h

def Reported (R : List (String × Int × List (Int × List Int))) (appId : String) (key : Int × Int) (x : Nat) :
    Prop :=
  ∃ parts, (appId, key.1, parts) ∈ R ∧ ∃ ids, (key.2, ids) ∈ parts ∧ ∃ id ∈ ids, toU64 id = x

def reportedIn (R : List (String × Int × List (Int × List Int))) : ResultAction → Bool
  | .reportShuffleResult appId shuffleId parts => decide ((appId, shuffleId, parts) ∈ R)
  | _ => true

structure Sound (R : List (String × Int × List (Int × List Int))) (s : ResultServer) : Prop where
  requests : ∀ t ∈ s.tasks, (t.appId, t.shuffleId, t.request) ∈ R
  reported : ∀ r key x, x ∈ ((s.app r).blockIds key).values → Reported R (s.app r).appId key x

section SoundSteps

variable {R : List (String × Int × List (Int × List Int))} (hs : Sound R s)
include hs

theorem sound_keeps (hk : Keeps s t) (hreq : ∀ task ∈ t.tasks, (task.appId, task.shuffleId, task.request) ∈ R) :
    Sound R t :=
  ⟨hreq, fun r key x hx => by
    rw [hk.blockIds] at hx
    rw [hk.appId r (lt_of_mem_blockIds hx)]
    exact hs.reported r key x hx⟩

theorem sound_setTask {i : Nat} {task' : ReportTask} (h : (task'.appId, task'.shuffleId, task'.request) ∈ R) :
    Sound R { s with tasks := s.tasks.set i task' } :=
  sound_keeps hs (keeps_tasks _) fun task ht =>
    (List.mem_or_eq_of_mem_set ht).elim (hs.requests task) (fun h' => h' ▸ h)

theorem sound_write (hw : WellFormed s) {task : ReportTask} (hmem : task ∈ s.tasks) {r : Nat} {p : Int}
    {ids : List Int} {rest : List (Int × List Int)} (hphase : task.phase = .report r)
    (hpending : task.pending = (p, ids) :: rest) :
    Sound R (s.setApp r ((s.app r).reportBlockIds (task.shuffleId, p) ids)) := by
  have hinv := hw.tasks task hmem
  simp only [TaskInv, hphase] at hinv
  obtain ⟨-, hid, done, hreq, -⟩ := hinv
  refine ⟨by simpa using hs.requests, fun r' key x hx => ?_⟩
  rcases app_setApp_cases r ((s.app r).reportBlockIds (task.shuffleId, p) ids) r' with h | ⟨rfl, -, h⟩
  · rw [h] at hx ⊢
    exact hs.reported r' key x hx
  · rw [h] at hx ⊢
    rw [ResultApp.reportBlockIds_appId]
    by_cases hk : key = (task.shuffleId, p)
    · subst hk
      rw [ResultApp.blockIds_reportBlockIds_self, Treemap.mem_addIds] at hx
      rcases hx with hx | ⟨id, hid', rfl⟩
      · exact hs.reported r' _ x hx
      · rw [hid]
        exact ⟨task.request, hs.requests task hmem, ids, by rw [hreq, hpending]; simp, id, hid', rfl⟩
    · rw [ResultApp.blockIds_reportBlockIds_ne _ hk] at hx
      exact hs.reported r' key x hx

theorem sound_exec (hw : WellFormed s) {a : ResultAction} (ha : reportedIn R a = true) (h : exec s a = some t) :
    Sound R t := by
  cases exec_effect h with
  | register A => exact sound_keeps hs (keeps_register A) (by simpa using hs.requests)
  | purge A => exact sound_keeps hs (keeps_of_appHeap (appHeap_purge A)) (by simpa using hs.requests)
  | spawn A shuffleId parts =>
      refine sound_keeps hs (keeps_tasks _) (fun task ht => ?_)
      rcases List.mem_append.mp ht with ht | ht
      · exact hs.requests task ht
      · rw [List.mem_singleton] at ht
        subst ht
        simpa [reportedIn] using ha
  | read r b happId hblockIds => exact sound_keeps hs (keeps_setApp happId hblockIds) hs.requests
  | unchanged => exact hs
  | advance hi hstep =>
      have hmem := List.mem_of_getElem? hi
      have hreq := hs.requests _ hmem
      cases hstep with
      | noApp => exact sound_setTask hs hreq
      | gotApp => exact sound_setTask hs hreq
      | success => exact sound_setTask hs hreq
      | write hphase hpending => exact sound_setTask (sound_write hs hw hmem hphase hpending) hreq

end SoundSteps

theorem sound_init (R : List (String × Int × List (Int × List Int))) : Sound R init :=
  ⟨fun _ h => by simp [init] at h, fun r key x hx => by
    rw [app_of_le (by simp [init])] at hx
    simp at hx⟩

theorem reach_sound {R : List (String × Int × List (Int × List Int))}
    (h : Reach exec (fun _ a => reportedIn R a = true) init s) : WellFormed s ∧ Sound R s := by
  have hstep : ∀ s a t, WellFormed s ∧ Sound R s → reportedIn R a = true → exec s a = some t →
      WellFormed t ∧ Sound R t :=
    fun _ _ _ hs ha he => ⟨wellFormed_exec hs.1 he, sound_exec hs.2 hs.1 ha he⟩
  exact reach_invariant hstep ⟨wellFormed_init, sound_init R⟩ h

theorem reach_served_ids_reported (R : List (String × Int × List (Int × List Int)))
    (serialize : Treemap → List UInt8) (h : Reach exec (fun _ a => reportedIn R a = true) init s)
    (A : String) (shuffleId : Int) :
    (∀ p, getShuffleResult serialize s A shuffleId p =
        ⟨StatusCode.noRegister.toI32, "No such app in this shuffle server", []⟩ ∨
      ∃ tm, getShuffleResult serialize s A shuffleId p = ⟨StatusCode.success.toI32, "", serialize tm⟩ ∧
        ∀ x ∈ tm.values, Reported R A (shuffleId, p) x) ∧
    ∀ ps, getShuffleResultForMultiPart serialize s A shuffleId ps =
        ⟨StatusCode.noRegister.toI32, "No such app in this shuffle server", []⟩ ∨
      ∃ tm, getShuffleResultForMultiPart serialize s A shuffleId ps = ⟨0, "", serialize tm⟩ ∧
        ∀ x ∈ tm.values, ∃ p ∈ ps, Reported R A (shuffleId, p) x := by
  obtain ⟨hw, hs⟩ := reach_sound h
  cases hA : s.getApp A with
  | none =>
      exact ⟨fun p => .inl (by simp [getShuffleResult, hA]),
        fun ps => .inl (by simp [getShuffleResultForMultiPart, hA])⟩
  | some r =>
      have hid := (hw.owners A r hA).2
      refine ⟨fun p => .inr ⟨(s.app r).blockIds (shuffleId, p), by simp [getShuffleResult, hA], fun x hx => ?_⟩,
        fun ps => .inr ⟨multiPartIds (s.app r) shuffleId ps, by simp [getShuffleResultForMultiPart, hA],
          fun x hx => ?_⟩⟩
      · exact hid ▸ hs.reported r _ x hx
      · obtain ⟨p, hp, hx⟩ := mem_multiPartIds.mp hx
        exact ⟨p, hp, hid ▸ hs.reported r _ x hx⟩

def valueBytes (tm : Treemap) : List UInt8 := tm.values.map Nat.toUInt8

def ackRun : List ResultAction := [.register "a", .reportShuffleResult "a" 0 [(1, [5, 7])], .advance 0, .advance 0]

def ackState : ResultServer :=
  ⟨[("a", 0)], [⟨"a", [((0, 1), ⟨[5, 7]⟩)]⟩], [⟨"a", 0, [(1, [5, 7])], [], .report 0⟩]⟩

def reportRequests : List (String × Int × List (Int × List Int)) := [("a", 0, [(1, [5, 7])])]

theorem acked_ids_reported :
    (∀ p, getShuffleResult valueBytes ackState "a" 0 p =
        ⟨StatusCode.noRegister.toI32, "No such app in this shuffle server", []⟩ ∨
      ∃ tm, getShuffleResult valueBytes ackState "a" 0 p = ⟨StatusCode.success.toI32, "", valueBytes tm⟩ ∧
        ∀ x ∈ tm.values, Reported reportRequests "a" (0, p) x) ∧
    ∀ ps, getShuffleResultForMultiPart valueBytes ackState "a" 0 ps =
        ⟨StatusCode.noRegister.toI32, "No such app in this shuffle server", []⟩ ∨
      ∃ tm, getShuffleResultForMultiPart valueBytes ackState "a" 0 ps = ⟨0, "", valueBytes tm⟩ ∧
        ∀ x ∈ tm.values, ∃ p ∈ ps, Reported reportRequests "a" (0, p) x := by
  have hall : ∀ a ∈ ackRun, reportedIn reportRequests a = true := by decide
  exact reach_served_ids_reported reportRequests valueBytes
    (reach_of_run (fun a ha _ => hall a ha) (show run exec init ackRun = some ackState by decide)) "a" 0

theorem Effect.getApp_of_ne {a : ResultAction} (h : Effect s a t) {A : String} {r : Nat} (ha : a ≠ .purge A)
    (hA : s.getApp A = some r) : t.getApp A = some r := by
  cases h with
  | register A' => exact getApp_register_of_some hA
  | purge A' =>
      rw [getApp_purge_of_ne (fun h => ha (by rw [h]))]
      exact hA
  | spawn => exact hA
  | read => exact hA
  | unchanged => exact hA
  | advance hi hstep => cases hstep <;> exact hA

theorem reach_getApp {A : String} {r : Nat} {u : ResultServer} (h : Reach exec (fun _ a => a ≠ .purge A) s u)
    (hA : s.getApp A = some r) : u.getApp A = some r := by
  induction h with
  | refl => exact hA
  | tail _ hstep ih =>
      obtain ⟨a, ha, he⟩ := hstep
      exact (exec_effect he).getApp_of_ne ha ih

theorem reach_acknowledged_ids_durable (serialize : Treemap → List UInt8) {allowed : ResultServer → ResultAction → Prop}
    (h : Reach exec allowed init s) {i : Nat} {task : ReportTask} {r : Nat} (hi : s.tasks[i]? = some task)
    (hphase : task.phase = .report r) (hpending : task.pending = []) (happ : s.getApp task.appId = some r)
    {u : ResultServer} (hu : Reach exec (fun _ a => a ≠ .purge task.appId) s u) :
    ∀ e ∈ task.request, ∀ id ∈ e.2,
      (∃ tm, getShuffleResult serialize u task.appId task.shuffleId e.1 =
          ⟨StatusCode.success.toI32, "", serialize tm⟩ ∧ toU64 id ∈ tm.values) ∧
      ∀ ps, e.1 ∈ ps → ∃ tm, getShuffleResultForMultiPart serialize u task.appId task.shuffleId ps =
          ⟨0, "", serialize tm⟩ ∧ toU64 id ∈ tm.values := by
  intro e he id hid
  have hinv := (reach_wellFormed h).tasks task (List.mem_of_getElem? hi)
  simp only [TaskInv, hphase] at hinv
  obtain ⟨-, -, done, hreq, hst⟩ := hinv
  rw [hpending, List.append_nil] at hreq
  have hstored : toU64 id ∈ ((u.app r).blockIds (task.shuffleId, e.1)).values :=
    (reach_extends hu).grows r _ _ (hst e (hreq ▸ he) id hid)
  have happ' := reach_getApp hu happ
  exact ⟨⟨_, by simp [getShuffleResult, happ'], hstored⟩,
    fun ps hps => ⟨_, by simp [getShuffleResultForMultiPart, happ'], mem_multiPartIds.mpr ⟨e.1, hps, hstored⟩⟩⟩

theorem acknowledged_report_served :
    (∃ tm, getShuffleResult valueBytes ackState "a" 0 1 = ⟨StatusCode.success.toI32, "", valueBytes tm⟩ ∧
        toU64 5 ∈ tm.values) ∧
      ∃ tm, getShuffleResultForMultiPart valueBytes ackState "a" 0 [1, 2] = ⟨0, "", valueBytes tm⟩ ∧
        toU64 5 ∈ tm.values := by
  have h := reach_acknowledged_ids_durable valueBytes
    (show Reach exec Always init ackState from
      reach_of_run (fun _ _ _ => trivial) (show run exec init ackRun = some ackState by decide))
    (show ackState.tasks[0]? = some ⟨"a", 0, [(1, [5, 7])], [], .report 0⟩ by decide) rfl rfl
    (show ackState.getApp "a" = some 0 by decide) .refl (1, [5, 7]) (by simp) 5 (by simp)
  exact ⟨h.1, h.2 [1, 2] (by simp)⟩

end ResultServer

end Rifflex.Results
