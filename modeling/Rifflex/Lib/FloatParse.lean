import Mathlib.Algebra.Order.Field.Rat
import Mathlib.Algebra.Order.Field.Power
import Mathlib.Data.List.TakeDrop
import Mathlib.Data.List.TakeWhile

namespace Rifflex.FloatParse

def sign : List Char → Bool × List Char
  | '-' :: s => (true, s)
  | '+' :: s => (false, s)
  | s => (false, s)

-- The exponent digits of `parse_scientific`: once the exponent reaches `0x10000` the digits
-- that follow no longer count.
def exponentValue (ds : List Char) : ℕ :=
  ds.foldl (fun e c => if e < 0x10000 then 10 * e + (c.toNat - '0'.toNat) else e) 0

def exponent (s : List Char) : Option ℤ :=
  let (neg, s) := sign s
  match s.span Char.isDigit with
  | (c :: ds, []) => some (if neg then -(exponentValue (c :: ds) : ℤ) else exponentValue (c :: ds))
  | _ => none

-- `parse_number` of `str::parse::<f64>`, as the exact decimal; binary64 rounding comes after.
def parseDecimal (s : List Char) : Option ℚ :=
  let (neg, s) := sign s
  let (intDigits, rest) := s.span Char.isDigit
  let (fracDigits, rest) := match rest with
    | '.' :: r => r.span Char.isDigit
    | r => ([], r)
  if intDigits.isEmpty && fracDigits.isEmpty then none
  else
    let exp : Option ℤ := match rest with
      | [] => some 0
      | c :: r => if c = 'e' ∨ c = 'E' then exponent r else none
    exp.map fun e =>
      let v : ℚ := (Nat.ofDigitChars 10 (intDigits ++ fracDigits) 0 : ℚ) * (10 : ℚ) ^ (e - (fracDigits.length : ℤ))
      if neg then -v else v

theorem sign_of_isDigit {c : Char} (hc : c.isDigit = true) (s : List Char) : sign (c :: s) = (false, c :: s) := by
  unfold sign
  split
  · rename_i h
    simp only [List.cons.injEq] at h
    obtain ⟨rfl, -⟩ := h
    simp at hc
  · rename_i h
    simp only [List.cons.injEq] at h
    obtain ⟨rfl, -⟩ := h
    simp at hc
  · rfl

theorem span_isDigit_of_all {l : List Char} (h : ∀ c ∈ l, c.isDigit = true) :
    l.span Char.isDigit = (l, []) := by
  rw [List.span_eq_takeWhile_dropWhile, List.takeWhile_eq_self_iff.mpr h, List.dropWhile_eq_nil_iff.mpr h]

theorem parseDecimal_digits {c : Char} {ds : List Char} (h : ∀ d ∈ c :: ds, d.isDigit = true) :
    parseDecimal (c :: ds) = some (Nat.ofDigitChars 10 (c :: ds) 0) := by
  have hc : c.isDigit = true := h c List.mem_cons_self
  simp only [parseDecimal, sign_of_isDigit hc, span_isDigit_of_all h]
  simp

theorem parseDecimal_neg_digits {c : Char} {ds : List Char} (h : ∀ d ∈ c :: ds, d.isDigit = true) :
    parseDecimal ('-' :: c :: ds) = some (-(Nat.ofDigitChars 10 (c :: ds) 0 : ℚ)) := by
  simp only [parseDecimal, sign, span_isDigit_of_all h]
  simp

theorem toDigits_isDigit (n : ℕ) : ∀ d ∈ Nat.toDigits 10 n, d.isDigit = true :=
  fun _ hd => Nat.isDigit_of_mem_toDigits (by norm_num) (by norm_num) hd

theorem parseDecimal_toDigits (n : ℕ) : parseDecimal (Nat.toDigits 10 n) = some n := by
  obtain ⟨c, ds, hcd⟩ := List.exists_cons_of_ne_nil (Nat.toDigits_ne_nil (n := n) (b := 10))
  have h := parseDecimal_digits (hcd ▸ toDigits_isDigit n)
  rw [← hcd] at h
  rw [h, Nat.ofDigitChars_ten_toDigits]

theorem parseDecimal_neg_toDigits (n : ℕ) : parseDecimal ('-' :: Nat.toDigits 10 n) = some (-(n : ℚ)) := by
  obtain ⟨c, ds, hcd⟩ := List.exists_cons_of_ne_nil (Nat.toDigits_ne_nil (n := n) (b := 10))
  have h := parseDecimal_neg_digits (hcd ▸ toDigits_isDigit n)
  rw [← hcd] at h
  rw [h, Nat.ofDigitChars_ten_toDigits]

end Rifflex.FloatParse
