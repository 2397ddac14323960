import Rifflex.Lib.Word

namespace Rifflex.Bytes

-- The `width` low bytes of `n`, most significant first (`BufMut::put_*` is big-endian).
def beBytes : Nat → Nat → List UInt8
  | 0, _ => []
  | w + 1, n => beBytes w (n / 256) ++ [UInt8.ofNat (n % 256)]

def putI64 (x : Int) : List UInt8 := beBytes 8 (Word.toU64 x)

def putI32 (x : Int) : List UInt8 := beBytes 4 ((x % 2 ^ 32).toNat)

@[simp] theorem beBytes_length (w n : Nat) : (beBytes w n).length = w := by
  induction w generalizing n with
  | zero => rfl
  | succ w ih => simp [beBytes, ih]

@[simp] theorem putI64_length (x : Int) : (putI64 x).length = 8 := beBytes_length 8 _

@[simp] theorem putI32_length (x : Int) : (putI32 x).length = 4 := beBytes_length 4 _

def beNat (bytes : List UInt8) : Nat := bytes.foldl (fun n b => n * 256 + b.toNat) 0

def fromBeI32 (bytes : List UInt8) : Int := Int.bmod (beNat bytes) (2 ^ 32)

def fromBeI64 (bytes : List UInt8) : Int := Int.bmod (beNat bytes) (2 ^ 64)

theorem beNat_append_singleton (bytes : List UInt8) (b : UInt8) :
    beNat (bytes ++ [b]) = beNat bytes * 256 + b.toNat := by
  simp [beNat]

theorem beNat_beBytes (w n : Nat) : beNat (beBytes w n) = n % 256 ^ w := by
  induction w generalizing n with
  | zero => simp [beBytes, beNat, Nat.mod_one]
  | succ w ih =>
      have hsplit : n % 256 ^ (w + 1) = n % 256 + 256 * (n / 256 % 256 ^ w) := by
        rw [pow_succ', Nat.mod_mul]
      rw [beBytes, beNat_append_singleton, ih, hsplit]
      simp
      omega

@[simp] theorem fromBeI32_putI32 (x : Int) : fromBeI32 (putI32 x) = Word.wrapI32 x := by
  have hcast : ((x % 2 ^ 32).toNat : Int) = x % ((2 ^ 32 : Nat) : Int) :=
    Int.toNat_of_nonneg (Int.emod_nonneg x (by positivity))
  have hlt : (x % 2 ^ 32).toNat < 256 ^ 4 := by omega
  unfold fromBeI32 putI32 Word.wrapI32
  simp only [beNat_beBytes, Nat.mod_eq_of_lt hlt, hcast, Int.emod_bmod]

@[simp] theorem fromBeI64_putI64 (x : Int) : fromBeI64 (putI64 x) = Word.asI64 (Word.toU64 x) := by
  have hlt : Word.toU64 x < 256 ^ 8 := by
    have := Word.toU64_cast x
    omega
  unfold fromBeI64 putI64 Word.asI64
  simp only [beNat_beBytes, Nat.mod_eq_of_lt hlt]

theorem flatten_drop_take {α : Type} :
    ∀ (D : List (List α)) (i : Nat) (d : List α), D[i]? = some d →
      (D.flatten.drop ((D.take i).map List.length).sum).take d.length = d
  | [], _, _, h => by simp at h
  | e :: D, 0, d, h => by
      simp only [List.getElem?_cons_zero, Option.some.injEq] at h
      subst h
      simp
  | e :: D, i + 1, d, h => by
      simp only [List.getElem?_cons_succ] at h
      simpa [List.drop_length_add_append] using flatten_drop_take D i d h

end Rifflex.Bytes
