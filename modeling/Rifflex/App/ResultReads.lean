import Rifflex.App.ResultRuns

namespace Rifflex.Results

open Transition Server

def ResultAction.isRead : ResultAction → Bool
  | .getShuffleResult _ _ _ => true
  | .getShuffleResultForMultiPart _ _ _ => true
  | _ => false

namespace ResultApp

structure Same (a b : ResultApp) : Prop where
  appId : a.appId = b.appId
  blockIds : ∀ key, a.blockIds key = b.blockIds key

theorem Same.refl (a : ResultApp) : Same a a := ⟨rfl, fun _ => rfl⟩

theorem Same.symm {a b : ResultApp} (h : Same a b) : Same b a := ⟨h.appId.symm, fun key => (h.blockIds key).symm⟩

theorem Same.trans {a b c : ResultApp} (h₁ : Same a b) (h₂ : Same b c) : Same a c :=
  ⟨h₁.appId.trans h₂.appId, fun key => (h₁.blockIds key).trans (h₂.blockIds key)⟩

theorem same_getPartitionMeta (a : ResultApp) (key : Int × Int) : Same (a.getPartitionMeta key).1 a :=
  ⟨by simp, fun k => by simp⟩

theorem same_touchPartitions (a : ResultApp) (shuffleId : Int) (partitions : List Int) :
    Same (ResultServer.touchPartitions a shuffleId partitions) a :=
  ⟨by simp, fun k => by simp⟩

theorem Same.reportBlockIds {a b : ResultApp} (h : Same a b) (key : Int × Int) (ids : List Int) :
    Same (a.reportBlockIds key ids) (b.reportBlockIds key ids) := by
  refine ⟨by simp [h.appId], fun k => ?_⟩
  by_cases hk : k = key
  · subst hk
    rw [blockIds_reportBlockIds_self, blockIds_reportBlockIds_self, h.blockIds]
  · rw [blockIds_reportBlockIds_ne _ hk, blockIds_reportBlockIds_ne _ hk, h.blockIds]

theorem Same.multiPartIds {a b : ResultApp} (h : Same a b) (shuffleId : Int) (partitions : List Int) :
    ResultServer.multiPartIds a shuffleId partitions = ResultServer.multiPartIds b shuffleId partitions := by
  simp only [ResultServer.multiPartIds, h.blockIds]

end ResultApp

namespace ResultServer

variable {s s' t : ResultServer}

structure Same (s s' : ResultServer) : Prop where
  apps : s.apps = s'.apps
  tasks : s.tasks = s'.tasks
  length : s.appHeap.length = s'.appHeap.length
  app : ∀ r, ResultApp.Same (s.app r) (s'.app r)

theorem Same.refl (s : ResultServer) : Same s s := ⟨rfl, rfl, rfl, fun _ => .refl _⟩

theorem Same.trans {u : ResultServer} (h₁ : Same s s') (h₂ : Same s' u) : Same s u :=
  ⟨h₁.apps.trans h₂.apps, h₁.tasks.trans h₂.tasks, h₁.length.trans h₂.length,
    fun r => (h₁.app r).trans (h₂.app r)⟩

theorem Same.getApp (h : Same s s') : s.getApp = s'.getApp := by
  funext A
  simp [ResultServer.getApp, h.apps]

theorem setApp_app_self (r : Nat) : s.setApp r (s.app r) = s := by
  rcases Nat.lt_or_ge r s.appHeap.length with hr | hr
  · simp [setApp, app, List.getD_eq_getElem?_getD, hr]
  · simp [setApp, List.set_eq_of_length_le hr]

theorem Same.setApp (h : Same s s') (r : Nat) {a a' : ResultApp} (ha : a.Same a') :
    Same (s.setApp r a) (s'.setApp r a') := by
  refine ⟨h.apps, h.tasks, by simp [h.length], fun r' => ?_⟩
  by_cases hr : r' = r
  · subst hr
    rcases Nat.lt_or_ge r' s.appHeap.length with hlt | hge
    · rw [app_setApp_self hlt, app_setApp_self (h.length ▸ hlt)]
      exact ha
    · rw [app_setApp_of_le hge, app_setApp_of_le (h.length ▸ hge)]
      exact h.app r'
  · rw [app_setApp_ne hr, app_setApp_ne hr]
    exact h.app r'

theorem same_setApp {r : Nat} {b : ResultApp} (hb : b.Same (s.app r)) : Same (s.setApp r b) s := by
  have h := (Same.refl s).setApp r hb
  rwa [setApp_app_self] at h

theorem Same.register (h : Same s s') (A : String) : Same (s.register A) (s'.register A) := by
  cases hA : s.getApp A with
  | some r =>
      rw [register_of_some hA, register_of_some (h.getApp ▸ hA)]
      exact h
  | none =>
      have hA' : s'.getApp A = none := h.getApp ▸ hA
      have hlen := h.length
      refine ⟨by simp [ResultServer.register, hA, hA', h.apps, h.length], by simp [h.tasks],
        by simp [ResultServer.register, hA, hA', h.length], fun r => ?_⟩
      rcases Nat.lt_or_ge r s.appHeap.length with hlt | hge
      · rw [app_register_lt A hlt, app_register_lt A (h.length ▸ hlt)]
        exact h.app r
      · rcases Nat.eq_or_lt_of_le hge with rfl | hgt
        · rw [app_register_length hA, h.length, app_register_length hA']
          exact .refl _
        · rw [app_of_le (by simp [ResultServer.register, hA]; omega),
            app_of_le (by simp [ResultServer.register, hA']; omega)]
          exact .refl _

theorem Same.purge (h : Same s s') (A : String) : Same (s.purge A) (s'.purge A) := by
  unfold ResultServer.purge
  rw [h.getApp]
  split
  · exact ⟨by simp [h.apps], h.tasks, h.length, h.app⟩
  · exact h

theorem Same.setTasks (h : Same s s') (i : Nat) (task : ReportTask) :
    Same { s with tasks := s.tasks.set i task } { s' with tasks := s'.tasks.set i task } :=
  ⟨h.apps, by rw [h.tasks], h.length, h.app⟩

theorem Same.stepReport (h : Same s s') {task task' : ReportTask} {s₁ : ResultServer}
    (hstep : stepReport s task = some (s₁, task')) :
    ∃ s₁', stepReport s' task = some (s₁', task') ∧ Same s₁ s₁' := by
  cases stepReport_step hstep with
  | noApp hphase happ => exact ⟨s', by simp [ResultServer.stepReport, hphase, ← h.getApp, happ], h⟩
  | gotApp hphase happ => exact ⟨s', by simp [ResultServer.stepReport, hphase, ← h.getApp, happ], h⟩
  | success hphase hpending => exact ⟨s', by simp [ResultServer.stepReport, hphase, hpending], h⟩
  | @write r p ids rest hphase hpending =>
      exact ⟨_, by simp [ResultServer.stepReport, hphase, hpending], h.setApp r ((h.app r).reportBlockIds _ ids)⟩

theorem Same.exec (h : Same s s') {a : ResultAction} (he : exec s a = some t) :
    ∃ t', exec s' a = some t' ∧ Same t t' := by
  cases a with
  | register A =>
      simp only [ResultServer.exec, Option.some.injEq] at he
      exact ⟨_, rfl, he ▸ h.register A⟩
  | purge A =>
      simp only [ResultServer.exec, Option.some.injEq] at he
      exact ⟨_, rfl, he ▸ h.purge A⟩
  | purgeShuffle A shuffleId =>
      simp only [ResultServer.exec, Option.some.injEq] at he
      exact ⟨_, rfl, he ▸ h⟩
  | reportShuffleResult A shuffleId parts =>
      simp only [ResultServer.exec, Option.some.injEq] at he
      exact ⟨_, rfl, he ▸ ⟨h.apps, by rw [h.tasks], h.length, h.app⟩⟩
  | getShuffleResult A shuffleId p =>
      simp only [ResultServer.exec, ← h.getApp] at he ⊢
      cases hA : s.getApp A with
      | none =>
          simp only [hA, Option.some.injEq] at he
          exact ⟨_, rfl, he ▸ h⟩
      | some r =>
          simp only [hA, Option.some.injEq] at he
          refine ⟨_, rfl, he ▸ h.setApp r ?_⟩
          exact ((ResultApp.same_getPartitionMeta _ _).trans (h.app r)).trans
            (ResultApp.same_getPartitionMeta _ _).symm
  | getShuffleResultForMultiPart A shuffleId ps =>
      simp only [ResultServer.exec, ← h.getApp] at he ⊢
      cases hA : s.getApp A with
      | none =>
          simp only [hA, Option.some.injEq] at he
          exact ⟨_, rfl, he ▸ h⟩
      | some r =>
          simp only [hA, Option.some.injEq] at he
          refine ⟨_, rfl, he ▸ h.setApp r ?_⟩
          exact ((ResultApp.same_touchPartitions _ _ _).trans (h.app r)).trans
            (ResultApp.same_touchPartitions _ _ _).symm
  | advance i =>
      simp only [ResultServer.exec, ← h.tasks] at he ⊢
      cases hi : s.tasks[i]? with
      | none => simp [hi] at he
      | some task =>
          simp only [hi, Option.map_eq_some_iff] at he ⊢
          obtain ⟨⟨s₁, task'⟩, hstep, rfl⟩ := he
          obtain ⟨s₁', hstep', h₁⟩ := h.stepReport hstep
          exact ⟨_, ⟨(s₁', task'), hstep', rfl⟩, h₁.setTasks i task'⟩

theorem same_of_read {a : ResultAction} (he : exec s a = some t) (ha : a.isRead = true) : Same t s := by
  cases exec_effect he with
  | read r b happId hblockIds => exact same_setApp ⟨happId, hblockIds⟩
  | unchanged => exact .refl s
  | register => simp [ResultAction.isRead] at ha
  | purge => simp [ResultAction.isRead] at ha
  | spawn => simp [ResultAction.isRead] at ha
  | advance => simp [ResultAction.isRead] at ha

theorem run_without_reads (h : Same s s') {as : List ResultAction} (hrun : run exec s as = some t) :
    ∃ t', run exec s' (as.filter (fun a => !a.isRead)) = some t' ∧ Same t t' := by
  induction as generalizing s s' with
  | nil =>
      simp only [run_nil, Option.some.injEq] at hrun
      exact ⟨s', rfl, hrun ▸ h⟩
  | cons a as ih =>
      simp only [run] at hrun
      cases he : exec s a with
      | none => simp [he] at hrun
      | some s₁ =>
          rw [he] at hrun
          cases hr : a.isRead with
          | true =>
              obtain ⟨t', hrun', ht⟩ := ih ((same_of_read he hr).trans h) hrun
              exact ⟨t', by simpa [List.filter_cons, hr] using hrun', ht⟩
          | false =>
              obtain ⟨s₁', he', h₁⟩ := h.exec he
              obtain ⟨t', hrun', ht⟩ := ih h₁ hrun
              exact ⟨t', by simp [hr, run, he', hrun'], ht⟩

theorem Same.getShuffleResult (h : Same s s') (serialize : Treemap → List UInt8) (A : String)
    (shuffleId partitionId : Int) :
    Results.getShuffleResult serialize s A shuffleId partitionId =
      Results.getShuffleResult serialize s' A shuffleId partitionId := by
  unfold Results.getShuffleResult
  rw [h.getApp]
  cases s'.getApp A with
  | none => rfl
  | some r => simp [(h.app r).blockIds]

theorem Same.getShuffleResultForMultiPart (h : Same s s') (serialize : Treemap → List UInt8) (A : String)
    (shuffleId : Int) (partitions : List Int) :
    Results.getShuffleResultForMultiPart serialize s A shuffleId partitions =
      Results.getShuffleResultForMultiPart serialize s' A shuffleId partitions := by
  unfold Results.getShuffleResultForMultiPart
  rw [h.getApp]
  cases s'.getApp A with
  | none => rfl
  | some r => simp [(h.app r).multiPartIds]

theorem reads_unobservable (serialize : Treemap → List UInt8) {as : List ResultAction}
    (h : run exec s as = some t) :
    ∃ t', run exec s (as.filter (fun a => !a.isRead)) = some t' ∧ t'.tasks = t.tasks ∧
      ∀ A shuffleId, (∀ p, getShuffleResult serialize t' A shuffleId p = getShuffleResult serialize t A shuffleId p) ∧
        ∀ ps, getShuffleResultForMultiPart serialize t' A shuffleId ps =
          getShuffleResultForMultiPart serialize t A shuffleId ps := by
  obtain ⟨t', hrun, hsame⟩ := run_without_reads (Same.refl s) h
  exact ⟨t', hrun, hsame.tasks.symm, fun A shuffleId =>
    ⟨fun p => (hsame.getShuffleResult serialize A shuffleId p).symm,
      fun ps => (hsame.getShuffleResultForMultiPart serialize A shuffleId ps).symm⟩⟩

def readingRun : List ResultAction :=
  [.register "a", .getShuffleResult "a" 0 1, .reportShuffleResult "a" 0 [(1, [5])], .advance 0,
    .getShuffleResultForMultiPart "a" 0 [1, 2], .advance 0, .advance 0]

def readingState : ResultServer :=
  ⟨[("a", 0)], [⟨"a", [((0, 1), ⟨[5]⟩), ((0, 2), ⟨[]⟩)]⟩], [⟨"a", 0, [(1, [5])], [], .replied 0 ""⟩]⟩

theorem reading_run_unobservable :
    ∃ t', run exec init (readingRun.filter (fun a => !a.isRead)) = some t' ∧ t'.tasks = readingState.tasks ∧
      ∀ A shuffleId, (∀ p, getShuffleResult valueBytes t' A shuffleId p =
          getShuffleResult valueBytes readingState A shuffleId p) ∧
        ∀ ps, getShuffleResultForMultiPart valueBytes t' A shuffleId ps =
          getShuffleResultForMultiPart valueBytes readingState A shuffleId ps :=
  reads_unobservable valueBytes (show run exec init readingRun = some readingState by decide)

end ResultServer

end Rifflex.Results
