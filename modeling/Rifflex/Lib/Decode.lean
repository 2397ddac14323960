import Mathlib.Tactic

namespace Rifflex.Decode

structure Cursor where
  buf : List UInt8
  position : Nat
deriving DecidableEq, Repr

namespace Cursor

def remaining (c : Cursor) : Nat := c.buf.length - c.position

def chunk (c : Cursor) : List UInt8 := c.buf.drop c.position

def advance (c : Cursor) (n : Nat) : Cursor := { c with position := c.position + n }

@[simp] theorem advance_buf (c : Cursor) (n : Nat) : (c.advance n).buf = c.buf := rfl

@[simp] theorem advance_position (c : Cursor) (n : Nat) :
    (c.advance n).position = c.position + n := rfl

@[simp] theorem advance_remaining (c : Cursor) (n : Nat) :
    (c.advance n).remaining = c.remaining - n := by
  simp only [remaining, advance]
  omega

@[simp] theorem advance_chunk (c : Cursor) (n : Nat) : (c.advance n).chunk = c.chunk.drop n := by
  simp [chunk, advance, List.drop_drop, Nat.add_comm]

theorem advance_advance (c : Cursor) (m n : Nat) : (c.advance m).advance n = c.advance (m + n) := by
  simp [advance, Nat.add_assoc]

@[simp] theorem advance_zero (c : Cursor) : c.advance 0 = c := rfl

@[simp] theorem remaining_start (bytes : List UInt8) : (Cursor.mk bytes 0).remaining = bytes.length := by
  simp [remaining]

@[simp] theorem chunk_start (bytes : List UInt8) : (Cursor.mk bytes 0).chunk = bytes := rfl

theorem chunk_length (c : Cursor) : c.chunk.length = c.remaining := by
  simp [chunk, remaining]

end Cursor

inductive Outcome (ε α : Type) where
  | ok (value : α) (cursor : Cursor)
  | err (e : ε)
  | panicked
deriving DecidableEq, Repr

def Decoder (ε α : Type) : Type := Cursor → Outcome ε α

namespace Decoder

variable {ε α β : Type}

def pure (a : α) : Decoder ε α := fun c => .ok a c

def bind (m : Decoder ε α) (f : α → Decoder ε β) : Decoder ε β := fun c =>
  match m c with
  | .ok a c' => f a c'
  | .err e => .err e
  | .panicked => .panicked

instance : Monad (Decoder ε) where
  pure := Decoder.pure
  bind := Decoder.bind

def fail (e : ε) : Decoder ε α := fun _ => .err e

-- A panic of the reading code: an out-of-bounds read, a failed allocation, a `todo!()`.
def abort : Decoder ε α := fun _ => .panicked

def remaining : Decoder ε Nat := fun c => .ok c.remaining c

def peek (n : Nat) : Decoder ε (List UInt8) := fun c =>
  if n ≤ c.remaining then .ok (c.chunk.take n) c else .panicked

def advance (n : Nat) : Decoder ε Unit := fun c =>
  if n ≤ c.remaining then .ok () (c.advance n) else .panicked

def take (n : Nat) : Decoder ε (List UInt8) := fun c =>
  if n ≤ c.remaining then .ok (c.chunk.take n) (c.advance n) else .panicked

def replicate : Nat → Decoder ε α → Decoder ε (List α)
  | 0, _ => Decoder.pure []
  | n + 1, m => do
      let a ← m
      let as ← replicate n m
      return a :: as

@[simp] theorem pure_apply (a : α) (c : Cursor) : (Pure.pure a : Decoder ε α) c = .ok a c := rfl

theorem bind_apply (m : Decoder ε α) (f : α → Decoder ε β) (c : Cursor) :
    (m >>= f) c =
      match m c with
      | .ok a c' => f a c'
      | .err e => .err e
      | .panicked => .panicked := rfl

theorem bind_ok {m : Decoder ε α} {f : α → Decoder ε β} {c c' : Cursor} {a : α}
    (h : m c = .ok a c') : (m >>= f) c = f a c' := by
  rw [bind_apply, h]

theorem bind_panicked {m : Decoder ε α} {f : α → Decoder ε β} {c : Cursor}
    (h : m c = .panicked) : (m >>= f) c = .panicked := by
  rw [bind_apply, h]

theorem bind_eq_ok {m : Decoder ε α} {f : α → Decoder ε β} {c c' : Cursor} {b : β}
    (h : (m >>= f) c = .ok b c') : ∃ a c'', m c = .ok a c'' ∧ f a c'' = .ok b c' := by
  rw [bind_apply] at h
  cases hm : m c with
  | ok a c'' =>
      rw [hm] at h
      exact ⟨a, c'', rfl, h⟩
  | err e =>
      rw [hm] at h
      cases h
  | panicked =>
      rw [hm] at h
      cases h

@[simp] theorem fail_apply (e : ε) (c : Cursor) : (fail e : Decoder ε α) c = .err e := rfl

@[simp] theorem abort_apply (c : Cursor) : (abort : Decoder ε α) c = .panicked := rfl

@[simp] theorem remaining_apply (c : Cursor) : (remaining : Decoder ε Nat) c = .ok c.remaining c := rfl

theorem take_of_le {n : Nat} {c : Cursor} (h : n ≤ c.remaining) :
    (take n : Decoder ε (List UInt8)) c = .ok (c.chunk.take n) (c.advance n) := by
  simp [take, h]

theorem take_of_lt {n : Nat} {c : Cursor} (h : c.remaining < n) :
    (take n : Decoder ε (List UInt8)) c = .panicked := by
  simp [take, Nat.not_le.mpr h]

theorem peek_of_le {n : Nat} {c : Cursor} (h : n ≤ c.remaining) :
    (peek n : Decoder ε (List UInt8)) c = .ok (c.chunk.take n) c := by
  simp [peek, h]

theorem advance_of_le {n : Nat} {c : Cursor} (h : n ≤ c.remaining) :
    (advance n : Decoder ε Unit) c = .ok () (c.advance n) := by
  simp [advance, h]

end Decoder

/-! Decoders over a buffer that grows: a result reached on the bytes read so far is reached
again when more bytes arrive behind them. -/

namespace Cursor

def extend (c : Cursor) (more : List UInt8) : Cursor := ⟨c.buf ++ more, c.position⟩

def Valid (c : Cursor) : Prop := c.position ≤ c.buf.length

@[simp] theorem extend_buf (c : Cursor) (more : List UInt8) : (c.extend more).buf = c.buf ++ more := rfl

@[simp] theorem extend_position (c : Cursor) (more : List UInt8) :
    (c.extend more).position = c.position := rfl

theorem advance_extend (c : Cursor) (more : List UInt8) (n : Nat) :
    (c.extend more).advance n = (c.advance n).extend more := rfl

theorem remaining_extend {c : Cursor} (h : c.Valid) (more : List UInt8) :
    (c.extend more).remaining = c.remaining + more.length := by
  simp only [Valid] at h
  simp only [remaining, extend, List.length_append]
  omega

theorem chunk_extend {c : Cursor} (h : c.Valid) (more : List UInt8) :
    (c.extend more).chunk = c.chunk ++ more := by
  simp [chunk, extend, List.drop_append_of_le_length h]

theorem valid_start (bytes : List UInt8) : (Cursor.mk bytes 0).Valid := Nat.zero_le _

theorem Valid.advance {c : Cursor} (h : c.Valid) {n : Nat} (hn : n ≤ c.remaining) :
    (c.advance n).Valid := by
  simp only [Valid, remaining] at h hn ⊢
  simp only [Cursor.advance]
  omega

end Cursor

namespace Decoder

variable {ε α β : Type}

def Stable (m : Decoder ε α) : Prop :=
  ∀ (c : Cursor) (more : List UInt8) (a : α) (c' : Cursor), c.Valid → m c = .ok a c' →
    c'.buf = c.buf ∧ c'.Valid ∧ m (c.extend more) = .ok a (c'.extend more)

def StableFrom (f : Nat → Decoder ε α) : Prop :=
  ∀ (r r' : Nat), r ≤ r' → ∀ (c : Cursor) (more : List UInt8) (a : α) (c' : Cursor), c.Valid →
    f r c = .ok a c' → c'.buf = c.buf ∧ c'.Valid ∧ f r' (c.extend more) = .ok a (c'.extend more)

theorem stable_pure (a : α) : Stable (Pure.pure a : Decoder ε α) := by
  intro c more a' c' hv h
  cases h
  exact ⟨rfl, hv, rfl⟩

theorem stable_abort : Stable (abort : Decoder ε α) := by
  intro c more a c' hv h
  cases h

theorem stable_fail (e : ε) : Stable (fail e : Decoder ε α) := by
  intro c more a c' hv h
  cases h

theorem stable_bind {m : Decoder ε α} {f : α → Decoder ε β} (hm : Stable m)
    (hf : ∀ a, Stable (f a)) : Stable (m >>= f) := by
  intro c more b c₂ hv h
  obtain ⟨a, c₁, h₁, h₂⟩ := bind_eq_ok h
  obtain ⟨hb₁, hv₁, he₁⟩ := hm c more a c₁ hv h₁
  obtain ⟨hb₂, hv₂, he₂⟩ := hf a c₁ more b c₂ hv₁ h₂
  refine ⟨hb₂.trans hb₁, hv₂, ?_⟩
  rw [bind_ok he₁]
  exact he₂

theorem stable_ite {p : Prop} [Decidable p] {m₁ m₂ : Decoder ε α} (h₁ : Stable m₁)
    (h₂ : Stable m₂) : Stable (if p then m₁ else m₂) := by
  split
  · exact h₁
  · exact h₂

theorem stable_replicate {m : Decoder ε α} (hm : Stable m) : ∀ n, Stable (replicate n m)
  | 0 => stable_pure _
  | n + 1 => stable_bind hm fun _ => stable_bind (stable_replicate hm n) fun _ => stable_pure _

theorem stable_remaining_bind {f : Nat → Decoder ε α} (hf : StableFrom f) :
    Stable (remaining >>= f) := by
  intro c more a c' hv h
  rw [bind_ok (remaining_apply c)] at h
  rw [bind_ok (remaining_apply _), Cursor.remaining_extend hv]
  exact hf c.remaining _ (Nat.le_add_right _ _) c more a c' hv h

theorem stableFrom_const {m : Decoder ε α} (hm : Stable m) : StableFrom (fun _ => m) :=
  fun _ _ _ c more a c' hv h => hm c more a c' hv h

theorem stableFrom_guard {P : Nat → Prop} [DecidablePred P] (hP : ∀ r r', r ≤ r' → ¬ P r → ¬ P r')
    (e : Nat → ε) {k : Nat → Decoder ε α} (hk : StableFrom k) :
    StableFrom (fun r => if P r then fail (e r) else k r) := by
  intro r r' hr c more a c' hv h
  by_cases hp : P r
  · simp [hp] at h
  · simp only [hp, if_false] at h
    simp only [if_neg (hP r r' hr hp)]
    exact hk r r' hr c more a c' hv h

theorem stable_take (n : Nat) : Stable (take n : Decoder ε (List UInt8)) := by
  intro c more a c' hv h
  by_cases hn : n ≤ c.remaining
  · rw [take_of_le hn] at h
    cases h
    have hn' : n ≤ (c.extend more).remaining := by rw [Cursor.remaining_extend hv]; omega
    have hprefix : (c.chunk ++ more).take n = c.chunk.take n :=
      List.take_append_of_le_length (by rw [Cursor.chunk_length]; exact hn)
    refine ⟨rfl, hv.advance hn, ?_⟩
    rw [take_of_le hn', Cursor.chunk_extend hv, hprefix, Cursor.advance_extend]
  · rw [take_of_lt (Nat.lt_of_not_le hn)] at h
    cases h

theorem stable_peek (n : Nat) : Stable (peek n : Decoder ε (List UInt8)) := by
  intro c more a c' hv h
  by_cases hn : n ≤ c.remaining
  · rw [peek_of_le hn] at h
    cases h
    have hn' : n ≤ (c.extend more).remaining := by rw [Cursor.remaining_extend hv]; omega
    have hprefix : (c.chunk ++ more).take n = c.chunk.take n :=
      List.take_append_of_le_length (by rw [Cursor.chunk_length]; exact hn)
    refine ⟨rfl, hv, ?_⟩
    rw [peek_of_le hn', Cursor.chunk_extend hv, hprefix]
  · simp [peek, hn] at h

theorem stable_advance (n : Nat) : Stable (advance n : Decoder ε Unit) := by
  intro c more a c' hv h
  by_cases hn : n ≤ c.remaining
  · rw [advance_of_le hn] at h
    cases h
    have hn' : n ≤ (c.extend more).remaining := by rw [Cursor.remaining_extend hv]; omega
    refine ⟨rfl, hv.advance hn, ?_⟩
    rw [advance_of_le hn', Cursor.advance_extend]
  · simp [advance, hn] at h

end Decoder

end Rifflex.Decode
