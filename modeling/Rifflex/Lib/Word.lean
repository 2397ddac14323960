import Mathlib.Tactic

namespace Rifflex.Word

def wrapI32 (x : Int) : Int := Int.bmod x (2 ^ 32)

def toU64 (x : Int) : Nat := (x % ((2 ^ 64 : Nat) : Int)).toNat

def asI64 (n : Nat) : Int := Int.bmod n (2 ^ 64)

def subU64 (a b : Nat) : Nat := toU64 ((a : Int) - b)

def addU64 (a b : Nat) : Nat := (a + b) % 2 ^ 64

theorem wrapI32_of_range {x : Int} (h1 : -2 ^ 31 ≤ x) (h2 : x < 2 ^ 31) : wrapI32 x = x :=
  Int.bmod_eq_of_le (by norm_num at h1 ⊢; omega) (by norm_num at h2 ⊢; omega)

theorem wrapI32_range (x : Int) : -2 ^ 31 ≤ wrapI32 x ∧ wrapI32 x < 2 ^ 31 := by
  have h1 := @Int.le_bmod x (2 ^ 32) (by norm_num)
  have h2 := @Int.bmod_lt x (2 ^ 32) (by norm_num)
  unfold wrapI32
  constructor <;> omega

theorem toU64_cast (x : Int) : (toU64 x : Int) = x % ((2 ^ 64 : Nat) : Int) :=
  Int.toNat_of_nonneg (Int.emod_nonneg x (by norm_num))

theorem toU64_of_range {x : Int} (h0 : 0 ≤ x) (h : x < 2 ^ 64) : (toU64 x : Int) = x := by
  rw [toU64_cast, Int.emod_eq_of_lt h0 (by norm_num at h ⊢; omega)]

theorem toU64_of_neg {x : Int} (h1 : -2 ^ 64 ≤ x) (h2 : x < 0) : (toU64 x : Int) = x + 2 ^ 64 := by
  rw [toU64_cast]
  omega

theorem asI64_toU64 {x : Int} (h1 : -2 ^ 63 ≤ x) (h2 : x < 2 ^ 63) : asI64 (toU64 x) = x := by
  have hb : Int.bmod (toU64 x) (2 ^ 64) = Int.bmod x (2 ^ 64) :=
    (congrArg (Int.bmod · (2 ^ 64)) (toU64_cast x)).trans (Int.emod_bmod x _)
  have hx : Int.bmod x (2 ^ 64) = x :=
    Int.bmod_eq_of_le (by norm_num at h1 ⊢; omega) (by norm_num at h2 ⊢; omega)
  exact hb.trans hx

theorem asI64_of_lt {n : Nat} (h : n < 2 ^ 63) : asI64 n = n :=
  Int.bmod_eq_of_le (by omega) (by norm_num at h ⊢; omega)

end Rifflex.Word
