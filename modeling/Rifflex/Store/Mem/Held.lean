import Rifflex.Store.Hybrid

namespace Rifflex

open Word Mem

def SpillMessage.key (m : SpillMessage) : PartitionedUId × Nat := (m.ctx.uid, m.flightId)

@[simp] theorem SpillMessage.key_retried (m : SpillMessage) : m.retried.key = m.key := rfl

@[simp] theorem SpillMessage.size_retried (m : SpillMessage) : m.retried.size = m.size := rfl

@[simp] theorem SpillMessage.uid_retried (m : SpillMessage) : m.retried.ctx.uid = m.ctx.uid := rfl

namespace MemoryStore

def flightBytes (L : List SpillMessage) (uid : PartitionedUId) : Int :=
  ((L.filter (fun m => m.ctx.uid = uid)).map SpillMessage.size).sum

@[simp] theorem flightBytes_nil (uid : PartitionedUId) : flightBytes [] uid = 0 := rfl

theorem flightBytes_cons (m : SpillMessage) (L : List SpillMessage) (uid : PartitionedUId) :
    flightBytes (m :: L) uid = (if m.ctx.uid = uid then m.size else 0) + flightBytes L uid := by
  by_cases h : m.ctx.uid = uid <;> simp [flightBytes, h]

theorem flightBytes_perm {L L' : List SpillMessage} (h : L.Perm L') (uid : PartitionedUId) :
    flightBytes L uid = flightBytes L' uid :=
  ((h.filter _).map _).sum_eq

structure StateWF (s : MemoryStore) : Prop where
  keys : (Assoc.keys s.state).Nodup
  refs : (s.state.map Prod.snd).Nodup
  bound : ∀ e ∈ s.state, e.2 < s.buffers.length

variable {s : MemoryStore}

theorem StateWF.ref_eq (h : s.StateWF) {uid : PartitionedUId} {r₁ r₂ : Nat} (h₁ : (uid, r₁) ∈ s.state)
    (h₂ : (uid, r₂) ∈ s.state) : r₁ = r₂ :=
  (Prod.ext_iff.mp (List.inj_on_of_nodup_map h.keys h₁ h₂ rfl)).2

theorem StateWF.uid_eq (h : s.StateWF) {uid₁ uid₂ : PartitionedUId} {r : Nat} (h₁ : (uid₁, r) ∈ s.state)
    (h₂ : (uid₂, r) ∈ s.state) : uid₁ = uid₂ :=
  (Prod.ext_iff.mp (List.inj_on_of_nodup_map h.refs h₁ h₂ rfl)).1

theorem StateWF.same_or_apart (h : s.StateWF) {uid uid' : PartitionedUId} {r r' : Nat}
    (he : (uid, r) ∈ s.state) (he' : (uid', r') ∈ s.state) :
    (r' = r ∧ uid' = uid) ∨ (r' ≠ r ∧ uid ≠ uid') := by
  by_cases hrr : r' = r
  · subst hrr
    exact .inl ⟨rfl, h.uid_eq he' he⟩
  · exact .inr ⟨hrr, fun hu => hrr (h.ref_eq (hu ▸ he') he)⟩

theorem StateWF.congr {t : MemoryStore} (h : s.StateWF) (hs : t.state = s.state)
    (hb : t.buffers.length = s.buffers.length) : t.StateWF :=
  ⟨hs ▸ h.keys, hs ▸ h.refs, fun e he => hb ▸ h.bound e (hs ▸ he)⟩

theorem StateWF.setBuffer (h : s.StateWF) (r : Nat) (b : BufferInternal) : (s.setBuffer r b).StateWF :=
  h.congr rfl (List.length_set ..)

theorem StateWF.getOrCreate (h : s.StateWF) (uid : PartitionedUId) :
    (s.getOrCreateMemoryBuffer uid).1.StateWF := by
  unfold getOrCreateMemoryBuffer
  split
  · exact h
  · rename_i hnone
    have hk : uid ∉ Assoc.keys s.state := Assoc.find?_eq_none.mp hnone
    have hr : s.buffers.length ∉ s.state.map Prod.snd := fun hm => by
      obtain ⟨e, he, hre⟩ := List.mem_map.mp hm
      exact absurd (h.bound e he) (by omega)
    refine ⟨?_, ?_, fun e he => ?_⟩
    · have hkeys : Assoc.keys (s.state ++ [(uid, s.buffers.length)]) = Assoc.keys s.state ++ [uid] := by
        simp [Assoc.keys]
      rw [hkeys]
      refine List.nodup_append.mpr ⟨h.keys, by simp, fun a ha b hb => ?_⟩
      rw [List.mem_singleton.mp hb]
      exact fun hab => hk (hab ▸ ha)
    · rw [List.map_append]
      refine List.nodup_append.mpr ⟨h.refs, by simp, fun a ha b hb => ?_⟩
      simp only [List.map_cons, List.map_nil, List.mem_singleton] at hb
      rw [hb]
      exact fun hab => hr (hab ▸ ha)
    · simp only [List.length_append, List.length_singleton]
      rcases List.mem_append.mp he with he | he
      · have := h.bound e he
        omega
      · rw [List.mem_singleton.mp he]
        omega

theorem StateWF.removeEntry (h : s.StateWF) (uid : PartitionedUId) : (s.removeEntry uid).1.StateWF := by
  unfold MemoryStore.removeEntry
  split
  · exact ⟨(List.filter_sublist.map Prod.fst).nodup h.keys,
      (List.filter_sublist.map Prod.snd).nodup h.refs,
      fun e he => h.bound e (List.mem_of_mem_filter he)⟩
  · exact h

theorem mem_getOrCreate_state {e : PartitionedUId × Nat} (he : e ∈ s.state) (uid : PartitionedUId) :
    e ∈ (s.getOrCreateMemoryBuffer uid).1.state := by
  unfold getOrCreateMemoryBuffer
  split
  · exact he
  · exact List.mem_append_left _ he

theorem removeEntry_state_eq (s : MemoryStore) (uid : PartitionedUId) :
    (s.removeEntry uid).1.state = Assoc.erase uid s.state := by
  unfold MemoryStore.removeEntry
  split
  · rfl
  · rename_i hnone
    refine (List.filter_eq_self.mpr (fun e he => ?_)).symm
    have : e.1 ≠ uid := fun h => Assoc.find?_eq_none.mp hnone (h ▸ List.mem_map_of_mem he)
    simpa using this

theorem getOrCreate_of_mem (h : s.StateWF) {uid : PartitionedUId} {r : Nat} (he : (uid, r) ∈ s.state) :
    s.getOrCreateMemoryBuffer uid = (s, r) := by
  simp [getOrCreateMemoryBuffer, Assoc.find?_of_mem h.keys he]

theorem buffer_setBuffer (s : MemoryStore) (r r' : Nat) (b : BufferInternal) :
    (s.setBuffer r b).buffer r' = if r' = r ∧ r < s.buffers.length then b else s.buffer r' := by
  unfold buffer setBuffer
  simp only [List.getD_eq_getElem?_getD]
  by_cases hr : r' = r
  · subst hr
    by_cases hl : r' < s.buffers.length
    · simp [hl]
    · simp [hl]
  · simp [hr, List.getElem?_set_ne (Ne.symm hr)]

theorem buffer_getOrCreate (s : MemoryStore) (uid : PartitionedUId) {r : Nat} (hr : r < s.buffers.length) :
    (s.getOrCreateMemoryBuffer uid).1.buffer r = s.buffer r := by
  unfold getOrCreateMemoryBuffer
  split
  · rfl
  · simp [buffer, List.getD_eq_getElem?_getD, List.getElem?_append_left hr]

theorem heldBytes_congr {t : MemoryStore} (hs : t.state = s.state) (hb : t.buffers = s.buffers) :
    t.heldBytes = s.heldBytes := by
  unfold heldBytes buffer
  rw [hs, hb]

theorem heldBytes_setBuffer (h : s.StateWF) {uid : PartitionedUId} {r : Nat} (he : (uid, r) ∈ s.state)
    (b : BufferInternal) :
    (s.setBuffer r b).heldBytes = s.heldBytes - (s.buffer r).totalSize + b.totalSize := by
  have hr : r < s.buffers.length := h.bound _ he
  unfold heldBytes
  rw [setBuffer_state, Assoc.sum_map_update h.refs he (F := fun e => (s.buffer e.2).totalSize)
    (fun e _ hne => by simp [buffer_setBuffer, hne])]
  simp [buffer_setBuffer, hr]

theorem heldBytes_setBuffer_total {r : Nat} {b : BufferInternal} (hb : b.totalSize = (s.buffer r).totalSize) :
    (s.setBuffer r b).heldBytes = s.heldBytes := by
  unfold heldBytes
  refine congrArg List.sum (List.map_congr_left (fun e _ => ?_))
  rw [buffer_setBuffer]
  split_ifs with he
  · rw [he.1, hb]
  · rfl

theorem heldBytes_append (h : s.StateWF) (r : Nat) (blocks : List Block) {size : Nat}
    (hsize : 0 ≤ asI64 size) : (s.append r blocks size).heldBytes ≤ s.heldBytes + asI64 size := by
  by_cases hr : ∃ uid, (uid, r) ∈ s.state
  · obtain ⟨uid, he⟩ := hr
    simp only [append, heldBytes_setBuffer h he, BufferInternal.append_totalSize]
    omega
  · have hsame : (s.append r blocks size).heldBytes = s.heldBytes := by
      unfold append heldBytes
      refine congrArg List.sum (List.map_congr_left (fun e he => ?_))
      have hne : e.2 ≠ r := fun hre => hr ⟨e.1, hre ▸ he⟩
      simp [buffer_setBuffer, hne]
    omega

theorem heldBytes_spill (r : Nat) : (s.spill r).1.heldBytes = s.heldBytes :=
  heldBytes_setBuffer_total (BufferInternal.spill_totalSize _)

theorem heldBytes_clear (h : s.StateWF) {uid : PartitionedUId} {r flightId : Nat} (he : (uid, r) ∈ s.state)
    (hf : flightId ∈ Assoc.keys (s.buffer r).flight) (size : Nat) :
    (s.clear r flightId size).heldBytes = s.heldBytes - asI64 size := by
  obtain ⟨batch, hbatch⟩ : ∃ batch, Assoc.find? flightId (s.buffer r).flight = some batch :=
    Option.ne_none_iff_exists'.mp (fun hn => Assoc.find?_eq_none.mp hn hf)
  simp only [clear, heldBytes_setBuffer h he, BufferInternal.clear_of_find? hbatch]
  omega

theorem heldBytes_getOrCreate (h : s.StateWF) (uid : PartitionedUId) :
    (s.getOrCreateMemoryBuffer uid).1.heldBytes = s.heldBytes := by
  cases hf : Assoc.find? uid s.state with
  | some r => simp [getOrCreateMemoryBuffer, hf]
  | none =>
      have hbuf : ∀ e ∈ s.state, ((s.getOrCreateMemoryBuffer uid).1.buffer e.2).totalSize =
          (s.buffer e.2).totalSize := fun e he => by rw [buffer_getOrCreate s uid (h.bound e he)]
      have hnew : (s.getOrCreateMemoryBuffer uid).1.buffer s.buffers.length = BufferInternal.new := by
        simp [getOrCreateMemoryBuffer, hf, buffer, List.getD_eq_getElem?_getD]
      unfold heldBytes
      simp only [getOrCreateMemoryBuffer, hf] at hbuf hnew ⊢
      rw [List.map_append, List.sum_append, List.map_congr_left hbuf]
      simp only [List.map_cons, List.map_nil, List.sum_cons, List.sum_nil, hnew]
      simp [BufferInternal.new]

theorem heldBytes_removeEntry (h : s.StateWF) (uid : PartitionedUId) :
    (s.removeEntry uid).1.heldBytes + (s.removeEntry uid).2 = s.heldBytes := by
  unfold removeEntry
  split
  · rename_i r hr
    have := Assoc.sum_erase (f := fun e => (s.buffer e.2).totalSize) h.keys hr
    simp only [heldBytes, buffer] at this ⊢
    omega
  · simp

-- Each message names a flight its buffer holds under a fresh id, no two the same, and a
-- buffer's bytes outside staging cover its messages' sizes.
structure FlightsWF (s : MemoryStore) (L : List SpillMessage) : Prop where
  held : ∀ m ∈ L, ∃ r, (m.ctx.uid, r) ∈ s.state ∧ m.flightId ∈ Assoc.keys (s.buffer r).flight ∧
    m.flightId < (s.buffer r).flightCounter ∧ 0 ≤ m.size ∧ m.size < 2 ^ 63
  distinct : (L.map SpillMessage.key).Nodup
  staging : ∀ e ∈ s.state, 0 ≤ (s.buffer e.2).stagingSize
  cover : ∀ e ∈ s.state, flightBytes L e.1 ≤ (s.buffer e.2).totalSize - (s.buffer e.2).stagingSize

variable {L : List SpillMessage}

theorem FlightsWF.flightBytes_nonneg (hf : s.FlightsWF L) (uid : PartitionedUId) : 0 ≤ flightBytes L uid := by
  refine List.sum_nonneg (fun x hx => ?_)
  obtain ⟨m, hm, rfl⟩ := List.mem_map.mp hx
  obtain ⟨r, -, -, -, hpos, -⟩ := hf.held m (List.mem_of_mem_filter hm)
  exact hpos

theorem FlightsWF.staging_le_total (hf : s.FlightsWF L) {e : PartitionedUId × Nat} (he : e ∈ s.state) :
    (s.buffer e.2).stagingSize ≤ (s.buffer e.2).totalSize := by
  have := hf.cover e he
  have := hf.flightBytes_nonneg e.1
  omega

theorem FlightsWF.staging_le_held (hf : s.FlightsWF L) {e : PartitionedUId × Nat} (he : e ∈ s.state) :
    (s.buffer e.2).stagingSize ≤ s.heldBytes := by
  have hnonneg : ∀ x ∈ s.state.map (fun e => (s.buffer e.2).totalSize), 0 ≤ x := by
    intro x hx
    obtain ⟨e', he', rfl⟩ := List.mem_map.mp hx
    exact (hf.staging e' he').trans (hf.staging_le_total he')
  exact (hf.staging_le_total he).trans
    (List.single_le_sum hnonneg _ (List.mem_map_of_mem he))

theorem FlightsWF.removeEntry_nonneg (hf : s.FlightsWF L) (uid : PartitionedUId) :
    0 ≤ (s.removeEntry uid).2 := by
  unfold MemoryStore.removeEntry
  split
  · rename_i r hr
    have he := Assoc.mem_of_find? hr
    exact (hf.staging _ he).trans (hf.staging_le_total he)
  · exact le_refl 0

theorem FlightsWF.perm {L' : List SpillMessage} (hf : s.FlightsWF L) (h : L.Perm L') : s.FlightsWF L' :=
  ⟨fun m hm => hf.held m (h.mem_iff.mpr hm), (h.map _).nodup_iff.mp hf.distinct, hf.staging,
   fun e he => (flightBytes_perm h e.1).symm ▸ hf.cover e he⟩

theorem FlightsWF.congr {t : MemoryStore} (hf : s.FlightsWF L) (hs : t.state = s.state)
    (hb : t.buffers = s.buffers) : t.FlightsWF L := by
  have hbuf : t.buffer = s.buffer := by
    funext r
    simp [buffer, hb]
  exact ⟨hs ▸ hbuf ▸ hf.held, hf.distinct, hs ▸ hbuf ▸ hf.staging, hs ▸ hbuf ▸ hf.cover⟩

theorem FlightsWF.replace {m m' : SpillMessage} (hf : s.FlightsWF (m :: L)) (hk : m'.key = m.key)
    (hsize : m'.size = m.size) : s.FlightsWF (m' :: L) := by
  obtain ⟨huid, hid⟩ := Prod.ext_iff.mp hk
  simp only [SpillMessage.key] at huid hid
  refine ⟨fun x hx => ?_, ?_, hf.staging, fun e he => ?_⟩
  · rcases List.mem_cons.mp hx with rfl | hx
    · rw [huid, hid, hsize]
      exact hf.held m List.mem_cons_self
    · exact hf.held x (List.mem_cons_of_mem _ hx)
  · simpa only [List.map_cons, hk] using hf.distinct
  · have := hf.cover e he
    rw [flightBytes_cons] at this ⊢
    rwa [huid, hsize]

theorem FlightsWF.append (hf : s.FlightsWF L) (r : Nat) (blocks : List Block) {size : Nat}
    (hsize : 0 ≤ asI64 size) : (s.append r blocks size).FlightsWF L := by
  have hbuf : ∀ r', (s.append r blocks size).buffer r' = s.buffer r' ∨
      (s.append r blocks size).buffer r' = (s.buffer r').append blocks size := by
    intro r'
    unfold MemoryStore.append
    rw [buffer_setBuffer]
    split_ifs with hr
    · exact .inr (hr.1 ▸ rfl)
    · exact .inl rfl
  refine ⟨fun m hm => ?_, hf.distinct, fun e he => ?_, fun e he => ?_⟩
  · obtain ⟨r', he, hkey, hlt, hpos⟩ := hf.held m hm
    refine ⟨r', he, ?_⟩
    rcases hbuf r' with hb | hb <;> rw [hb]
    · exact ⟨hkey, hlt, hpos⟩
    · exact ⟨hkey, hlt, hpos⟩
  · have := hf.staging e he
    rcases hbuf e.2 with hb | hb <;> rw [hb]
    · exact this
    · simp only [BufferInternal.append_stagingSize]
      omega
  · have := hf.cover e he
    rcases hbuf e.2 with hb | hb <;> rw [hb]
    · exact this
    · simp only [BufferInternal.append_totalSize, BufferInternal.append_stagingSize]
      omega

theorem ofSpill_spill (s : MemoryStore) (uid : PartitionedUId) (r : Nat) :
    SpillMessage.ofSpill uid (s.spill r).2 =
      ⟨⟨uid, (s.buffer r).staging⟩, asI64 (toU64 (s.buffer r).stagingSize), 0, (s.buffer r).flightCounter⟩ :=
  rfl

theorem buffer_spill {r : Nat} (hr : r < s.buffers.length) (r' : Nat) :
    (s.spill r).1.buffer r' = if r' = r then (s.buffer r).spill.1 else s.buffer r' := by
  simp [MemoryStore.spill, buffer_setBuffer, hr]

theorem buffer_clear {r : Nat} (hr : r < s.buffers.length) (flightId size r' : Nat) :
    (s.clear r flightId size).buffer r' = if r' = r then (s.buffer r).clear flightId size else s.buffer r' := by
  simp [MemoryStore.clear, buffer_setBuffer, hr]

theorem FlightsWF.spill (h : s.StateWF) (hf : s.FlightsWF L) {uid : PartitionedUId} {r : Nat}
    (he : (uid, r) ∈ s.state) (hlt : (s.buffer r).stagingSize < 2 ^ 63) :
    (s.spill r).1.FlightsWF (SpillMessage.ofSpill uid (s.spill r).2 :: L) := by
  have hr : r < s.buffers.length := h.bound _ he
  have h0 : 0 ≤ (s.buffer r).stagingSize := hf.staging _ he
  have hsize : asI64 (toU64 (s.buffer r).stagingSize) = (s.buffer r).stagingSize :=
    asI64_toU64 (by omega) hlt
  have hm : ∀ m ∈ L, m.ctx.uid = uid → m.flightId < (s.buffer r).flightCounter := by
    intro m hm hu
    obtain ⟨r', he', -, hlt', -⟩ := hf.held m hm
    rw [hu] at he'
    rwa [h.ref_eq he' he] at hlt'
  rw [ofSpill_spill]
  refine ⟨fun m hm' => ?_, ?_, fun e he' => ?_, fun e he' => ?_⟩
  · rcases List.mem_cons.mp hm' with rfl | hm'
    · refine ⟨r, he, ?_⟩
      simp only [buffer_spill hr, if_true, BufferInternal.spill_flight, BufferInternal.spill_flightCounter,
        Assoc.mem_keys_insert, hsize]
      exact ⟨.inr trivial, by omega, h0, hlt⟩
    · obtain ⟨r', he', hkey, hlt', hpos⟩ := hf.held m hm'
      refine ⟨r', he', ?_⟩
      rw [buffer_spill hr]
      split_ifs with hrr
      · subst hrr
        simp only [BufferInternal.spill_flight, BufferInternal.spill_flightCounter, Assoc.mem_keys_insert]
        exact ⟨.inl hkey, by omega, hpos⟩
      · exact ⟨hkey, hlt', hpos⟩
  · refine List.nodup_cons.mpr ⟨fun hk => ?_, hf.distinct⟩
    obtain ⟨m, hm', hkm⟩ := List.mem_map.mp hk
    obtain ⟨hu, hid⟩ := Prod.ext_iff.mp hkm
    simp only [SpillMessage.key] at hu hid
    have := hm m hm' hu
    omega
  · rw [buffer_spill hr]
    split_ifs
    · simp
    · exact hf.staging e he'
  · obtain ⟨uid', r'⟩ := e
    have hcov := hf.cover _ he'
    simp only at hcov ⊢
    rw [flightBytes_cons, buffer_spill hr]
    rcases h.same_or_apart he he' with ⟨rfl, rfl⟩ | ⟨hrr, hu⟩
    · simp only [if_true, BufferInternal.spill_totalSize, BufferInternal.spill_stagingSize, hsize]
      omega
    · simp only [hrr, hu, if_false, zero_add]
      exact hcov

theorem FlightsWF.clear (h : s.StateWF) {m : SpillMessage} (hf : s.FlightsWF (m :: L)) {r : Nat}
    (he : (m.ctx.uid, r) ∈ s.state) : (s.clear r m.flightId (toU64 m.size)).FlightsWF L := by
  obtain ⟨r₀, he₀, hkey, -, hpos, hlt⟩ := hf.held m List.mem_cons_self
  rw [h.ref_eq he₀ he] at hkey
  obtain ⟨batch, hbatch⟩ : ∃ batch, Assoc.find? m.flightId (s.buffer r).flight = some batch :=
    Option.ne_none_iff_exists'.mp (fun hn => Assoc.find?_eq_none.mp hn hkey)
  have hr : r < s.buffers.length := h.bound _ he
  have hsize : asI64 (toU64 m.size) = m.size := asI64_toU64 (by omega) hlt
  have hnot : m.key ∉ L.map SpillMessage.key := (List.nodup_cons.mp hf.distinct).1
  refine ⟨fun x hx => ?_, (List.nodup_cons.mp hf.distinct).2, fun e he' => ?_, fun e he' => ?_⟩
  · obtain ⟨r', he', hkey', hlt', hpos'⟩ := hf.held x (List.mem_cons_of_mem _ hx)
    refine ⟨r', he', ?_⟩
    rw [buffer_clear hr]
    split_ifs with hrr
    · subst hrr
      have hu : x.ctx.uid = m.ctx.uid := h.uid_eq he' he
      have hid : x.flightId ≠ m.flightId := fun hid =>
        hnot (List.mem_map.mpr ⟨x, hx, Prod.ext hu hid⟩)
      simp only [BufferInternal.clear_of_find? hbatch]
      exact ⟨Assoc.mem_keys_erase.mpr ⟨hkey', hid⟩, hlt', hpos'⟩
    · exact ⟨hkey', hlt', hpos'⟩
  · rw [buffer_clear hr]
    split_ifs with hrr
    · simp only [BufferInternal.clear_stagingSize]
      exact hrr ▸ hf.staging e he'
    · exact hf.staging e he'
  · obtain ⟨uid', r'⟩ := e
    have hcov := hf.cover _ he'
    simp only [flightBytes_cons] at hcov ⊢
    rw [buffer_clear hr]
    rcases h.same_or_apart he he' with ⟨rfl, rfl⟩ | ⟨hrr, hu⟩
    · simp only [if_true, BufferInternal.clear_of_find? hbatch, hsize] at hcov ⊢
      omega
    · simp only [hrr, hu, if_false, zero_add] at hcov ⊢
      exact hcov

theorem FlightsWF.getOrCreate (h : s.StateWF) (hf : s.FlightsWF L) (uid : PartitionedUId) :
    (s.getOrCreateMemoryBuffer uid).1.FlightsWF L := by
  cases hfind : Assoc.find? uid s.state with
  | some r => simpa [getOrCreateMemoryBuffer, hfind] using hf
  | none =>
      have hbuf : ∀ e ∈ s.state, (s.getOrCreateMemoryBuffer uid).1.buffer e.2 = s.buffer e.2 :=
        fun e he => buffer_getOrCreate s uid (h.bound e he)
      have hnew : (s.getOrCreateMemoryBuffer uid).1.buffer s.buffers.length = BufferInternal.new := by
        simp [getOrCreateMemoryBuffer, hfind, buffer, List.getD_eq_getElem?_getD]
      have hnone : flightBytes L uid = 0 := by
        refine List.sum_eq_zero (fun x hx => ?_)
        obtain ⟨m, hm, -⟩ := List.mem_map.mp hx
        obtain ⟨hmL, hu⟩ := List.mem_filter.mp hm
        obtain ⟨r, he, -⟩ := hf.held m hmL
        rw [of_decide_eq_true hu] at he
        exact absurd (Assoc.find?_of_mem h.keys he) (by rw [hfind]; simp)
      have hstate : (s.getOrCreateMemoryBuffer uid).1.state = s.state ++ [(uid, s.buffers.length)] := by
        simp [getOrCreateMemoryBuffer, hfind]
      refine ⟨fun m hm => ?_, hf.distinct, fun e he => ?_, fun e he => ?_⟩
      · obtain ⟨r, he, hrest⟩ := hf.held m hm
        refine ⟨r, hstate ▸ List.mem_append_left _ he, ?_⟩
        rw [hbuf _ he]
        exact hrest
      · rw [hstate] at he
        rcases List.mem_append.mp he with he | he
        · rw [hbuf e he]
          exact hf.staging e he
        · rw [List.mem_singleton.mp he, hnew]
          exact le_refl 0
      · rw [hstate] at he
        rcases List.mem_append.mp he with he | he
        · rw [hbuf e he]
          exact hf.cover e he
        · rw [List.mem_singleton.mp he, hnew, hnone]
          exact le_refl 0

theorem FlightsWF.removeEntry (hf : s.FlightsWF L) {uid : PartitionedUId} (hu : ∀ m ∈ L, m.ctx.uid ≠ uid) :
    (s.removeEntry uid).1.FlightsWF L := by
  unfold MemoryStore.removeEntry
  split
  · refine ⟨fun m hm => ?_, hf.distinct, fun e he => hf.staging e (List.mem_of_mem_filter he),
      fun e he => hf.cover e (List.mem_of_mem_filter he)⟩
    obtain ⟨r, he, hrest⟩ := hf.held m hm
    exact ⟨r, List.mem_filter.mpr ⟨he, by simpa using hu m hm⟩, hrest⟩
  · exact hf

theorem mem_btreePush {size : Int} {uid pid : PartitionedUId} :
    ∀ {m : List (Int × List PartitionedUId)} {g : Int × List PartitionedUId}, g ∈ btreePush size uid m →
      pid ∈ g.2 → pid = uid ∨ ∃ g' ∈ m, pid ∈ g'.2
  | [], g, hg, hp => by
      simp only [btreePush, List.mem_singleton] at hg
      subst hg
      exact .inl (List.mem_singleton.mp hp)
  | (k, vals) :: rest, g, hg, hp => by
      simp only [btreePush] at hg
      split_ifs at hg with h1 h2
      · rcases List.mem_cons.mp hg with rfl | hg
        · rcases List.mem_append.mp hp with hp | hp
          · exact .inr ⟨(k, vals), List.mem_cons_self, hp⟩
          · exact .inl (List.mem_singleton.mp hp)
        · exact .inr ⟨g, List.mem_cons_of_mem _ hg, hp⟩
      · rcases List.mem_cons.mp hg with rfl | hg
        · exact .inl (List.mem_singleton.mp hp)
        · exact .inr ⟨g, hg, hp⟩
      · rcases List.mem_cons.mp hg with rfl | hg
        · exact .inr ⟨_, List.mem_cons_self, hp⟩
        · rcases mem_btreePush hg hp with h | ⟨g', hg', hp'⟩
          · exact .inl h
          · exact .inr ⟨g', List.mem_cons_of_mem _ hg', hp'⟩

theorem mem_sortedTreeMap {pid : PartitionedUId} :
    ∀ (snapshot : List (PartitionedUId × Int)) (m : List (Int × List PartitionedUId)),
      ∀ g ∈ snapshot.foldl (fun m entry => btreePush entry.2 entry.1 m) m, pid ∈ g.2 →
        pid ∈ snapshot.map Prod.fst ∨ ∃ g' ∈ m, pid ∈ g'.2
  | [], m, g, hg, hp => .inr ⟨g, hg, hp⟩
  | entry :: rest, m, g, hg, hp => by
      rcases mem_sortedTreeMap rest _ g hg hp with h | ⟨g', hg', hp'⟩
      · exact .inl (List.mem_cons_of_mem _ h)
      · rcases mem_btreePush hg' hp' with h | h
        · exact .inl (h ▸ List.mem_cons_self)
        · exact .inr h

theorem mem_pickupLoop {required : Int} {pid : PartitionedUId} :
    ∀ {acc : Int} {l : List (Int × PartitionedUId)}, pid ∈ pickupLoop required acc l → pid ∈ l.map Prod.snd
  | _, [], h => by simp [pickupLoop] at h
  | acc, (size, uid) :: rest, h => by
      simp only [pickupLoop] at h
      split_ifs at h
      · simp at h
      · rcases List.mem_cons.mp h with rfl | h
        · exact List.mem_cons_self
        · exact List.mem_cons_of_mem _ (mem_pickupLoop h)

theorem spillCandidates_mem {conf : HybridStoreConfig} {candidates : List PartitionedUId}
    (h : s.spillCandidates conf = some candidates) : ∀ c ∈ candidates, c ∈ Assoc.keys s.state := by
  intro c hc
  simp only [spillCandidates] at h
  split_ifs at h
  cases h
  obtain ⟨x, hx, rfl⟩ := List.mem_map.mp (mem_pickupLoop hc)
  obtain ⟨g, hg, hx⟩ := List.mem_flatMap.mp hx
  obtain ⟨pid, hpid, rfl⟩ := List.mem_map.mp hx
  rcases mem_sortedTreeMap s.stagingSnapshot [] g (List.mem_reverse.mp hg) hpid with h | ⟨_, h, _⟩
  · simpa [stagingSnapshot, Assoc.keys] using h
  · cases h

theorem lookupCandidates_some : ∀ {candidates : List PartitionedUId},
    (∀ c ∈ candidates, c ∈ Assoc.keys s.state) → ∃ buffers, s.lookupCandidates candidates = some buffers
  | [], _ => ⟨[], rfl⟩
  | uid :: rest, h => by
      obtain ⟨refs, hrefs⟩ := lookupCandidates_some (fun c hc => h c (List.mem_cons_of_mem _ hc))
      obtain ⟨r, hr⟩ : ∃ r, s.getUnderlyingPartitionBuffer uid = some r :=
        Option.ne_none_iff_exists'.mp (fun hn => Assoc.find?_eq_none.mp hn (h uid List.mem_cons_self))
      exact ⟨(uid, r) :: refs, by simp [lookupCandidates, hr, hrefs]⟩

end MemoryStore

end Rifflex
