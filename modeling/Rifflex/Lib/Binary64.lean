import Mathlib.Data.Int.Log
import Mathlib.Data.Rat.Floor
import Mathlib.Algebra.Order.Floor.Semifield

namespace Rifflex.Binary64

-- An IEEE 754 binary64 datum; the sign of a zero is dropped.
inductive Value where
  | finite (v : ℚ)
  | inf (neg : Bool)
  | nan
deriving DecidableEq

def roundHalfEven (r : ℚ) : ℕ :=
  let f := ⌊r⌋₊
  if r - f < 1 / 2 then f
  else if 1 / 2 < r - f then f + 1
  else if f % 2 = 0 then f else f + 1

-- The weight of the last significand bit near `r > 0`, never below 2^-1074.
def quantum (r : ℚ) : ℤ := max (Int.log 2 r) (-1022) - 52

def roundMag (r : ℚ) : ℚ := roundHalfEven (r / 2 ^ quantum r) * 2 ^ quantum r

-- Round to nearest, ties to even: a magnitude that rounds to 2^1024 or more is infinite.
def ofRat (q : ℚ) : Value :=
  if 2 ^ 1024 ≤ roundMag |q| then .inf (decide (q < 0))
  else .finite (if q < 0 then -roundMag |q| else roundMag |q|)

-- IEEE multiplication; infinity times zero is NaN.
def mul : Value → Value → Value
  | .finite a, .finite b => ofRat (a * b)
  | .finite a, .inf n => if a = 0 then .nan else .inf (xor n (decide (a < 0)))
  | .inf n, .finite a => if a = 0 then .nan else .inf (xor n (decide (a < 0)))
  | .inf n, .inf m => .inf (xor n m)
  | .nan, _ => .nan
  | _, .nan => .nan

-- Rust's `as` into an unsigned type of largest value `max`: toward zero, saturating, NaN to 0.
def truncSat (max : ℕ) : Value → ℕ
  | .finite v => if v < 0 then 0 else min ⌊v⌋₊ max
  | .inf neg => if neg then 0 else max
  | .nan => 0

@[simp]
theorem mul_finite (a b : ℚ) : mul (.finite a) (.finite b) = ofRat (a * b) := rfl

theorem roundHalfEven_natCast (n : ℕ) : roundHalfEven n = n := by
  simp [roundHalfEven]

theorem roundHalfEven_le (r : ℚ) : roundHalfEven r ≤ ⌊r⌋₊ + 1 := by
  dsimp only [roundHalfEven]
  split_ifs <;> omega

theorem two_zpow_pos (x : ℤ) : (0 : ℚ) < 2 ^ x := zpow_pos (by norm_num) x

theorem quantum_le {r : ℚ} {x : ℤ} (hr : 0 < r) (hlt : r < 2 ^ (x + 53)) (hx : -1074 ≤ x) :
    quantum r ≤ x := by
  have hlog : Int.log 2 r < x + 53 := (Int.lt_zpow_iff_log_lt (b := 2) (by norm_num) hr).mp (by exact_mod_cast hlt)
  unfold quantum
  omega

theorem roundMag_of_quantum_le {n : ℕ} {x : ℤ} (hq : quantum ((n : ℚ) * 2 ^ x) ≤ x) :
    roundMag ((n : ℚ) * 2 ^ x) = n * 2 ^ x := by
  set e := quantum ((n : ℚ) * 2 ^ x) with he
  obtain ⟨k, hk⟩ : ∃ k : ℕ, x = e + k := ⟨(x - e).toNat, by omega⟩
  have hpow : (2 : ℚ) ^ x = 2 ^ e * 2 ^ k := by rw [hk, zpow_add₀ (by norm_num), zpow_natCast]
  have hscaled : (n : ℚ) * 2 ^ x / 2 ^ e = ((n * 2 ^ k : ℕ) : ℚ) := by
    rw [hpow]
    push_cast
    field_simp
  unfold roundMag
  rw [← he, hscaled, roundHalfEven_natCast, hpow]
  push_cast
  ring

theorem roundMag_exact {n : ℕ} {x : ℤ} (hn : n < 2 ^ 53) (hx : -1074 ≤ x) :
    roundMag ((n : ℚ) * 2 ^ x) = n * 2 ^ x := by
  rcases Nat.eq_zero_or_pos n with rfl | hpos
  · simp [roundMag, roundHalfEven]
  · apply roundMag_of_quantum_le
    apply quantum_le (mul_pos (by exact_mod_cast hpos) (two_zpow_pos x)) _ hx
    rw [zpow_add₀ (by norm_num), mul_comm ((2 : ℚ) ^ x)]
    exact mul_lt_mul_of_pos_right (by exact_mod_cast hn) (two_zpow_pos x)

theorem ofRat_exact {n : ℕ} {x : ℤ} (hn : n < 2 ^ 53) (hx : -1074 ≤ x) (hlt : (n : ℚ) * 2 ^ x < 2 ^ 1024) :
    ofRat ((n : ℚ) * 2 ^ x) = .finite (n * 2 ^ x) := by
  have hnonneg : (0 : ℚ) ≤ n * 2 ^ x := mul_nonneg (Nat.cast_nonneg n) (two_zpow_pos x).le
  unfold ofRat
  rw [abs_of_nonneg hnonneg, roundMag_exact hn hx, if_neg (not_le.mpr hlt), if_neg (not_lt.mpr hnonneg)]

theorem ofRat_natCast {n : ℕ} (hn : n < 2 ^ 53) : ofRat n = .finite n := by
  have hlt : (n : ℚ) < 2 ^ 1024 :=
    lt_trans (by exact_mod_cast hn) (pow_lt_pow_right₀ (by norm_num) (by norm_num))
  have h := ofRat_exact (x := 0) hn (by norm_num) (by rwa [zpow_zero, mul_one])
  simpa using h

theorem truncSat_natCast_eq_min (max n : ℕ) : truncSat max (.finite n) = min n max := by
  rw [truncSat, if_neg (not_lt.mpr (Nat.cast_nonneg n)), Nat.floor_natCast]

theorem truncSat_natCast {max n : ℕ} (h : n ≤ max) : truncSat max (.finite n) = n := by
  rw [truncSat_natCast_eq_min, min_eq_left h]

theorem ofRat_natCast_mul_two_pow {m j : ℕ} (hm : m < 2 ^ 53) (hj : j < 970) :
    ofRat ((m * 2 ^ j : ℕ) : ℚ) = .finite ((m * 2 ^ j : ℕ) : ℚ) := by
  have hcast : ((m * 2 ^ j : ℕ) : ℚ) = (m : ℚ) * 2 ^ (j : ℤ) := by push_cast; rw [zpow_natCast]
  have hlt : m * 2 ^ j < 2 ^ (53 + j) := by
    rw [Nat.pow_add]
    exact Nat.mul_lt_mul_of_pos_right hm (Nat.two_pow_pos j)
  have hlt' : ((m * 2 ^ j : ℕ) : ℚ) < 2 ^ (53 + j) := by exact_mod_cast hlt
  have hbound : ((m * 2 ^ j : ℕ) : ℚ) < 2 ^ 1024 :=
    lt_of_lt_of_le hlt' (pow_le_pow_right₀ (by norm_num) (by omega))
  rw [hcast]
  exact ofRat_exact hm (by omega) (by rwa [← hcast])

theorem ofRat_of_binade53 {n : ℕ} (h1 : 2 ^ 53 ≤ n) (h2 : n < 2 ^ 54) :
    ∃ w ≤ 2 ^ 53, ofRat n = .finite ((2 * w : ℕ) : ℚ) := by
  have hlog : Int.log 2 (n : ℚ) = 53 := by
    rw [Int.log_natCast, Nat.log_eq_of_pow_le_of_lt_pow h1 h2]
    rfl
  have hq : quantum (n : ℚ) = 1 := by simp [quantum, hlog]
  have hfloor : ⌊(n : ℚ) / 2⌋₊ = n / 2 := by exact_mod_cast Nat.floor_div_eq_div (K := ℚ) n 2
  have hw : roundHalfEven ((n : ℚ) / 2) ≤ 2 ^ 53 := by
    have := roundHalfEven_le ((n : ℚ) / 2)
    omega
  have hlt : ((2 * roundHalfEven ((n : ℚ) / 2) : ℕ) : ℚ) < 2 ^ 1024 := by
    have h54 : (2 : ℚ) ^ 54 < 2 ^ 1024 := pow_lt_pow_right₀ (by norm_num) (by norm_num)
    have hw' : ((2 * roundHalfEven ((n : ℚ) / 2) : ℕ) : ℚ) ≤ 2 ^ 54 := by exact_mod_cast (by omega : _ ≤ 2 ^ 54)
    exact lt_of_le_of_lt hw' h54
  have hmag : roundMag (n : ℚ) = ((2 * roundHalfEven ((n : ℚ) / 2) : ℕ) : ℚ) := by
    unfold roundMag
    rw [hq, zpow_one]
    push_cast
    ring
  refine ⟨_, hw, ?_⟩
  unfold ofRat
  rw [abs_of_nonneg (Nat.cast_nonneg n), hmag, if_neg (not_le.mpr hlt),
    if_neg (not_lt.mpr (Nat.cast_nonneg n))]

theorem roundMag_nonneg (r : ℚ) : 0 ≤ roundMag r :=
  mul_nonneg (Nat.cast_nonneg _) (two_zpow_pos _).le

theorem ofRat_of_nonpos {q : ℚ} (hq : q ≤ 0) : ofRat q = .inf true ∨ ∃ v ≤ 0, ofRat q = .finite v := by
  rcases hq.lt_or_eq with hlt | rfl
  · unfold ofRat
    split_ifs
    · left
      simp [hlt]
    · right
      exact ⟨_, neg_nonpos.mpr (roundMag_nonneg _), rfl⟩
  · right
    exact ⟨0, le_rfl, by simp [ofRat, roundMag, roundHalfEven]⟩

theorem truncSat_le (max : ℕ) (v : Value) : truncSat max v ≤ max := by
  cases v with
  | finite v => dsimp only [truncSat]; split_ifs <;> omega
  | inf neg => dsimp only [truncSat]; split_ifs <;> omega
  | nan => simp [truncSat]

theorem truncSat_ofRat_of_nonpos (max : ℕ) {q : ℚ} (hq : q ≤ 0) : truncSat max (ofRat q) = 0 := by
  rcases ofRat_of_nonpos hq with h | ⟨v, hv, h⟩
  · simp [h, truncSat]
  · simp [h, truncSat, Nat.floor_of_nonpos hv]

theorem truncSat_mul_of_nonpos (max : ℕ) {q : ℚ} {u : ℕ} (hq : q ≤ 0) (hu : 0 < u) (hu53 : u < 2 ^ 53) :
    truncSat max (mul (ofRat q) (ofRat u)) = 0 := by
  have hupos : (0 : ℚ) < u := by exact_mod_cast hu
  rw [ofRat_natCast hu53]
  rcases ofRat_of_nonpos hq with h | ⟨v, hv, h⟩
  · simp [h, mul, hupos.ne', not_lt.mpr hupos.le, truncSat]
  · rw [h, mul_finite]
    exact truncSat_ofRat_of_nonpos max (mul_nonpos_of_nonpos_of_nonneg hv hupos.le)

end Rifflex.Binary64
