import Rifflex.Lib.Binary64
import Rifflex.Lib.FloatParse

namespace Rifflex

open Binary64 FloatParse

structure ReadableSize where
  bytes : UInt64
deriving DecidableEq, Repr

namespace ReadableSize

def unit : UInt64 := 1
def binaryDataMagnitude : UInt64 := 1024
def b : UInt64 := unit
def kib : UInt64 := b * binaryDataMagnitude
def mib : UInt64 := kib * binaryDataMagnitude
def gib : UInt64 := mib * binaryDataMagnitude
def tib : UInt64 := gib * binaryDataMagnitude
def pib : UInt64 := tib * binaryDataMagnitude

def asBytes (self : ReadableSize) : UInt64 := self.bytes

/-! ## The serde data model -/

inductive SerdeValue where
  | u64 (v : UInt64)
  | i64 (v : Int64)
  | str (s : String)
deriving DecidableEq, Repr

-- `impl Serialize`: the largest binary unit dividing the size, else the bare integer.
def serialize (self : ReadableSize) : SerdeValue :=
  let size := self.bytes
  if size = 0 then .str (toString size ++ "KiB")
  else if size % pib = 0 then .str (toString (size / pib) ++ "PiB")
  else if size % tib = 0 then .str (toString (size / tib) ++ "TiB")
  else if size % gib = 0 then .str (toString (size / gib) ++ "GiB")
  else if size % mib = 0 then .str (toString (size / mib) ++ "MiB")
  else if size % kib = 0 then .str (toString (size / kib) ++ "KiB")
  else .u64 size

/-! ## `from_str` -/

-- `char::is_whitespace`: the characters of Unicode's White_Space property.
def isWhitespace (c : Char) : Bool :=
  c.toNat = 32 || (9 ≤ c.toNat && c.toNat ≤ 13) ||
    (0x7f < c.toNat && [0x85, 0xA0, 0x1680, 0x2000, 0x2001, 0x2002, 0x2003, 0x2004, 0x2005, 0x2006,
      0x2007, 0x2008, 0x2009, 0x200A, 0x2028, 0x2029, 0x202F, 0x205F, 0x3000].contains c.toNat)

-- `str::trim`.
def trim (s : List Char) : List Char :=
  ((s.dropWhile isWhitespace).reverse.dropWhile isWhitespace).reverse

def isSizeChar (c : Char) : Bool := c.isDigit || ['.', 'e', 'E', '-', '+'].contains c

def unitOf : String → Option UInt64
  | "K" | "KB" | "KiB" => some kib
  | "M" | "MB" | "MiB" => some mib
  | "G" | "GB" | "GiB" => some gib
  | "T" | "TB" | "TiB" => some tib
  | "P" | "PB" | "PiB" => some pib
  | "B" | "" => some b
  | _ => none

structure SizeTexts where
  debug : String → String

-- `impl FromStr`: number and unit multiplied as `f64`, then cast back to `u64`.
def fromStr (texts : SizeTexts) (s : String) : Except String ReadableSize :=
  let sizeStr := trim s.toList
  if sizeStr.isEmpty then .error (texts.debug s ++ " is not a valid size.")
  else if !sizeStr.all (fun c => c.toNat < 128) then
    .error ("ASCII string is expected, but got " ++ texts.debug s)
  else
    let sizeLen := (sizeStr.takeWhile isSizeChar).length
    let (size, unit) := sizeStr.splitAt sizeLen
    match unitOf (String.ofList (trim unit)) with
    | none =>
        .error ("only B, KB, KiB, MB, MiB, GB, GiB, TB, TiB, PB, and PiB are supported: " ++ texts.debug s)
    | some unit =>
        match parseDecimal size with
        | some n => .ok ⟨UInt64.ofNat (truncSat (2 ^ 64 - 1) (mul (ofRat n) (ofRat unit.toNat)))⟩
        | none => .error ("invalid size string: " ++ texts.debug s)

/-! ## `impl Deserialize` -/

-- serde's `invalid_value` with its expectation, and `custom` with the text of `from_str`.
inductive SizeError where
  | invalidValue (unexpected : Int64) (expected : String)
  | custom (msg : String)
deriving DecidableEq, Repr

-- `SizeVisitor` under `deserialize_any`.
def deserialize (texts : SizeTexts) : SerdeValue → Except SizeError ReadableSize
  | .i64 size => if size ≥ 0 then .ok ⟨size.toUInt64⟩ else .error (.invalidValue size "valid size")
  | .u64 size => .ok ⟨size⟩
  | .str sizeStr => (fromStr texts sizeStr).mapError .custom

/-! ## What `from_str` reads -/

theorem isWhitespace_of_visible {c : Char} (h1 : 32 < c.toNat) (h2 : c.toNat ≤ 0x7f) :
    isWhitespace c = false := by
  simp [isWhitespace]
  omega

theorem digit_isSizeChar {c : Char} (h : c.isDigit = true) :
    isSizeChar c = true ∧ isWhitespace c = false ∧ c.toNat < 128 := by
  have hc := Char.isDigit_iff_toNat.mp h
  have h0 : '0'.toNat = 48 := rfl
  have h9 : '9'.toNat = 57 := rfl
  exact ⟨by simp [isSizeChar, h], isWhitespace_of_visible (by omega) (by omega), by omega⟩

theorem dropWhile_of_forall {p : Char → Bool} {l : List Char} (h : ∀ c ∈ l, p c = false) :
    l.dropWhile p = l := by
  cases l with
  | nil => rfl
  | cons c l => exact List.dropWhile_cons_of_neg (by simp [h c List.mem_cons_self])

theorem trim_of_forall {l : List Char} (h : ∀ c ∈ l, isWhitespace c = false) : trim l = l := by
  have hrev : ∀ c ∈ l.reverse, isWhitespace c = false := fun c hc => h c (List.mem_reverse.mp hc)
  rw [trim, dropWhile_of_forall h, dropWhile_of_forall hrev, List.reverse_reverse]

theorem spelled_of_unitOf {u : String} {U : UInt64} (h : unitOf u = some U) :
    (∀ c ∈ u.toList, isSizeChar c = false ∧ isWhitespace c = false ∧ c.toNat < 128) ∧
      ∃ k ≤ 50, U.toNat = 2 ^ k := by
  unfold unitOf at h
  split at h <;> cases h
  all_goals first
    | exact ⟨by simp <;> decide, 10, by decide, by decide⟩
    | exact ⟨by simp <;> decide, 20, by decide, by decide⟩
    | exact ⟨by simp <;> decide, 30, by decide, by decide⟩
    | exact ⟨by simp <;> decide, 40, by decide, by decide⟩
    | exact ⟨by simp <;> decide, 50, by decide, by decide⟩
    | exact ⟨by simp <;> decide, 0, by decide, by decide⟩

theorem fromStr_number_unit (texts : SizeTexts) {num : List Char} {u : String} {U : UInt64} {q : ℚ}
    (hnum : ∀ c ∈ num, isSizeChar c = true ∧ isWhitespace c = false ∧ c.toNat < 128) (hne : num ≠ [])
    (hu : unitOf u = some U) (hq : parseDecimal num = some q) :
    fromStr texts (String.ofList num ++ u) =
      .ok ⟨UInt64.ofNat (truncSat (2 ^ 64 - 1) (mul (ofRat q) (ofRat U.toNat)))⟩ := by
  obtain ⟨hunit, -⟩ := spelled_of_unitOf hu
  have hblank : ∀ c ∈ num ++ u.toList, isWhitespace c = false := by
    intro c hc
    rcases List.mem_append.mp hc with hc | hc
    · exact (hnum c hc).2.1
    · exact (hunit c hc).2.1
  have htrim : trim (num ++ u.toList) = num ++ u.toList := trim_of_forall hblank
  have htake : (num ++ u.toList).takeWhile isSizeChar = num := by
    rw [List.takeWhile_append_of_pos fun c hc => (hnum c hc).1]
    cases hul : u.toList with
    | nil => simp
    | cons c cs =>
        have hc := (hunit c (by rw [hul]; exact List.mem_cons_self)).1
        simp [hc]
  have hsplit : (num ++ u.toList).splitAt num.length = (num, u.toList) := by
    rw [List.splitAt_eq, List.take_left' rfl, List.drop_left' rfl]
  have hutrim : String.ofList (trim u.toList) = u := by
    rw [trim_of_forall fun c hc => (hunit c hc).2.1, String.ofList_toList]
  have hempty : (num ++ u.toList).isEmpty = false := by simp [hne]
  have hascii : (num ++ u.toList).all (fun c => c.toNat < 128) = true := by
    simp only [List.all_append, Bool.and_eq_true, List.all_eq_true, decide_eq_true_eq]
    exact ⟨fun c hc => (hnum c hc).2.2, fun c hc => (hunit c hc).2.2⟩
  simp only [fromStr, String.toList_append, String.toList_ofList, htrim, hempty, hascii, htake, hsplit,
    hutrim, hu, hq]
  rfl

theorem toString_eq_ofList_toDigits (n : ℕ) : toString n = String.ofList (Nat.toDigits 10 n) := by
  rw [← Nat.toList_repr, ← Nat.toString_eq_repr, String.ofList_toList]

theorem fromStr_toString_unit (texts : SizeTexts) (n : ℕ) {u : String} {U : UInt64}
    (hu : unitOf u = some U) :
    fromStr texts (toString n ++ u) =
      .ok ⟨UInt64.ofNat (truncSat (2 ^ 64 - 1) (mul (ofRat n) (ofRat U.toNat)))⟩ := by
  rw [toString_eq_ofList_toDigits]
  exact fromStr_number_unit texts (fun c hc => digit_isSizeChar (toDigits_isDigit n c hc))
    Nat.toDigits_ne_nil hu (parseDecimal_toDigits n)

theorem fromStr_neg_toString_unit (texts : SizeTexts) (n : ℕ) {u : String} {U : UInt64}
    (hu : unitOf u = some U) :
    fromStr texts ("-" ++ toString n ++ u) =
      .ok ⟨UInt64.ofNat (truncSat (2 ^ 64 - 1) (mul (ofRat (-(n : ℚ))) (ofRat U.toNat)))⟩ := by
  have htext : "-" ++ toString n = String.ofList ('-' :: Nat.toDigits 10 n) := by
    rw [toString_eq_ofList_toDigits]
    exact String.toList_inj.mp (by simp)
  have hnum : ∀ c ∈ '-' :: Nat.toDigits 10 n, isSizeChar c = true ∧ isWhitespace c = false ∧ c.toNat < 128 := by
    intro c hc
    rcases List.mem_cons.mp hc with rfl | hc
    · decide
    · exact digit_isSizeChar (toDigits_isDigit n c hc)
  rw [htext]
  exact fromStr_number_unit texts hnum (List.cons_ne_nil _ _) hu (parseDecimal_neg_toDigits n)

/-! ## Sizes through `f64` -/

theorem scaled_exact {n m j k : ℕ} (hn : n = m * 2 ^ j) (hm : m < 2 ^ 53) (hjk : j + k ≤ 64) (hk : k ≤ 50)
    (hfit : n * 2 ^ k < 2 ^ 64) :
    truncSat (2 ^ 64 - 1) (mul (ofRat n) (ofRat ((2 ^ k : ℕ) : ℚ))) = n * 2 ^ k := by
  have hcount : ofRat (n : ℚ) = .finite n := by rw [hn]; exact ofRat_natCast_mul_two_pow hm (by omega)
  have hunit : ofRat ((2 ^ k : ℕ) : ℚ) = .finite ((2 ^ k : ℕ) : ℚ) :=
    ofRat_natCast (Nat.pow_lt_pow_right (by norm_num) (by omega))
  have hprod : (n : ℚ) * ((2 ^ k : ℕ) : ℚ) = ((m * 2 ^ (j + k) : ℕ) : ℚ) := by
    rw [hn]
    push_cast
    ring
  have hsame : m * 2 ^ (j + k) = n * 2 ^ k := by rw [hn, Nat.pow_add, Nat.mul_assoc]
  rw [hcount, hunit, mul_finite, hprod, ofRat_natCast_mul_two_pow hm (by omega), hsame,
    truncSat_natCast (by omega)]

theorem scaled_odd_ne {n : ℕ} (h1 : 2 ^ 53 ≤ n) (h2 : n < 2 ^ 54) (hodd : n % 2 = 1) :
    truncSat (2 ^ 64 - 1) (mul (ofRat n) (ofRat ((2 ^ 10 : ℕ) : ℚ))) ≠ n * 2 ^ 10 := by
  obtain ⟨w, hw, hround⟩ := ofRat_of_binade53 h1 h2
  have hprod : ((2 * w : ℕ) : ℚ) * ((2 ^ 10 : ℕ) : ℚ) = ((2 * w * 2 ^ 10 : ℕ) : ℚ) := by push_cast; ring
  have hexact : ofRat ((2 * w * 2 ^ 10 : ℕ) : ℚ) = .finite ((2 * w * 2 ^ 10 : ℕ) : ℚ) := by
    rcases hw.lt_or_eq with hlt | rfl
    · rw [show 2 * w * 2 ^ 10 = w * 2 ^ 11 by ring]
      exact ofRat_natCast_mul_two_pow hlt (by norm_num)
    · rw [show 2 * 2 ^ 53 * 2 ^ 10 = 1 * 2 ^ 64 by norm_num]
      exact ofRat_natCast_mul_two_pow (by norm_num) (by norm_num)
  rw [hround, ofRat_natCast (by norm_num), mul_finite, hprod, hexact, truncSat_natCast_eq_min]
  omega

theorem mk_ofNat_eq_iff {M : ℕ} (hM : M ≤ 2 ^ 64 - 1) (x : ReadableSize) :
    (⟨UInt64.ofNat M⟩ : ReadableSize) = x ↔ M = x.bytes.toNat := by
  have hlt : M < UInt64.size := by simp [UInt64.size]; omega
  cases x with
  | mk bytes => rw [ReadableSize.mk.injEq, ← UInt64.toNat_inj, UInt64.toNat_ofNat_of_lt' hlt]

theorem mod_eq_zero_iff (x U : UInt64) : x % U = 0 ↔ x.toNat % U.toNat = 0 := by
  rw [← UInt64.toNat_inj, UInt64.toNat_mod, UInt64.toNat_zero]

theorem deserialize_count_unit (texts : SizeTexts) (x : ReadableSize) {u : String} {U : UInt64}
    (hu : unitOf u = some U) :
    deserialize texts (.str (toString (x.bytes / U) ++ u)) = .ok x ↔
      truncSat (2 ^ 64 - 1) (mul (ofRat (x.bytes.toNat / U.toNat : ℕ)) (ofRat U.toNat)) = x.bytes.toNat := by
  have htext : toString (x.bytes / U) = toString (x.bytes.toNat / U.toNat) := by
    rw [← UInt64.toNat_div]
    rfl
  rw [deserialize, htext, fromStr_toString_unit texts _ hu, Except.mapError, Except.ok.injEq]
  exact mk_ofNat_eq_iff (truncSat_le _ _) x

theorem count_exact {N k : ℕ} (hk : k ≤ 50) (hdiv : N % 2 ^ k = 0) (hcount : N / 2 ^ k < 2 ^ 53)
    (hN : N < 2 ^ 64) :
    truncSat (2 ^ 64 - 1) (mul (ofRat (N / 2 ^ k : ℕ)) (ofRat ((2 ^ k : ℕ) : ℚ))) = N := by
  have hmul : N / 2 ^ k * 2 ^ k = N := Nat.div_mul_cancel (Nat.dvd_of_mod_eq_zero hdiv)
  rw [scaled_exact (m := N / 2 ^ k) (j := 0) (by rw [pow_zero, mul_one]) hcount (by omega) hk
    (by rwa [hmul]), hmul]

theorem even_count_exact {N : ℕ} (hdiv : N % 2 ^ 11 = 0) (hN : N < 2 ^ 64) :
    truncSat (2 ^ 64 - 1) (mul (ofRat (N / 2 ^ 10 : ℕ)) (ofRat ((2 ^ 10 : ℕ) : ℚ))) = N := by
  have hmul : N / 2 ^ 10 * 2 ^ 10 = N := by omega
  rw [scaled_exact (m := N / 2 ^ 11) (j := 1) (by omega) (by omega) (by norm_num) (by norm_num)
    (by rwa [hmul]), hmul]

theorem kib_toNat : kib.toNat = 2 ^ 10 := by decide
theorem mib_toNat : mib.toNat = 2 ^ 20 := by decide
theorem gib_toNat : gib.toNat = 2 ^ 30 := by decide
theorem tib_toNat : tib.toNat = 2 ^ 40 := by decide
theorem pib_toNat : pib.toNat = 2 ^ 50 := by decide

theorem deserialize_large_unit (texts : SizeTexts) (x : ReadableSize) {u : String} {U : UInt64} {k : ℕ}
    (hu : unitOf u = some U) (hU : U.toNat = 2 ^ k) (hk20 : 20 ≤ k) (hk : k ≤ 50) (hdiv : x.bytes % U = 0) :
    deserialize texts (.str (toString (x.bytes / U) ++ u)) = .ok x ↔
      ¬(2 ^ 63 ≤ x.bytes.toNat ∧ x.bytes.toNat % 2048 = 1024) := by
  have hN : x.bytes.toNat < 2 ^ 64 := x.bytes.toNat_lt
  rw [mod_eq_zero_iff, hU] at hdiv
  have hpow : 2 ^ 20 ≤ 2 ^ k := Nat.pow_le_pow_right (by norm_num) hk20
  have hcount : x.bytes.toNat / 2 ^ k < 2 ^ 53 := by
    rw [Nat.div_lt_iff_lt_mul (Nat.two_pow_pos k)]
    calc x.bytes.toNat < 2 ^ 64 := hN
      _ ≤ 2 ^ 53 * 2 ^ 20 := by norm_num
      _ ≤ 2 ^ 53 * 2 ^ k := Nat.mul_le_mul_left _ hpow
  have h2048 : x.bytes.toNat % 2 ^ 11 = 0 :=
    Nat.mod_eq_zero_of_dvd (dvd_trans (Nat.pow_dvd_pow 2 (by omega)) (Nat.dvd_of_mod_eq_zero hdiv))
  rw [deserialize_count_unit texts x hu, hU]
  exact iff_of_true (count_exact hk hdiv hcount hN) (by omega)

/-! ## The round trip -/

theorem deserialize_serialize_iff (texts : SizeTexts) (x : ReadableSize) :
    deserialize texts (serialize x) = .ok x ↔ ¬(2 ^ 63 ≤ x.bytes.toNat ∧ x.bytes.toNat % 2048 = 1024) := by
  have hN : x.bytes.toNat < 2 ^ 64 := x.bytes.toNat_lt
  dsimp only [serialize]
  split_ifs with h0 hp ht hg hm hk
  · -- zero is written as `0KiB`
    have hz : x.bytes.toNat = 0 := by rw [h0]; rfl
    have htext : toString x.bytes = toString (x.bytes / kib) := by rw [h0]; rfl
    rw [htext, deserialize_count_unit texts x (show unitOf "KiB" = some kib from rfl), kib_toNat]
    exact iff_of_true (count_exact (by norm_num) (by omega) (by omega) hN) (by omega)
  · exact deserialize_large_unit texts x (show unitOf "PiB" = some pib from rfl) pib_toNat (by norm_num) le_rfl hp
  · exact deserialize_large_unit texts x (show unitOf "TiB" = some tib from rfl) tib_toNat (by norm_num) (by norm_num) ht
  · exact deserialize_large_unit texts x (show unitOf "GiB" = some gib from rfl) gib_toNat (by norm_num) (by norm_num) hg
  · exact deserialize_large_unit texts x (show unitOf "MiB" = some mib from rfl) mib_toNat le_rfl (by norm_num) hm
  · -- the KiB counts: exact below 2^53 and when even
    rw [deserialize_count_unit texts x (show unitOf "KiB" = some kib from rfl), kib_toNat]
    rw [mod_eq_zero_iff, kib_toNat] at hk
    by_cases hbad : 2 ^ 63 ≤ x.bytes.toNat ∧ x.bytes.toNat % 2048 = 1024
    · have hcount : x.bytes.toNat = x.bytes.toNat / 2 ^ 10 * 2 ^ 10 := by omega
      refine iff_of_false (fun h => scaled_odd_ne (by omega) (by omega) (by omega) (h.trans hcount)) (not_not.mpr hbad)
    · refine iff_of_true ?_ hbad
      rcases Nat.lt_or_ge x.bytes.toNat (2 ^ 63) with hlt | hge
      · exact count_exact (by norm_num) hk (by omega) hN
      · exact even_count_exact (by omega) hN
  · -- no unit divides the size: it is written as a `u64`
    have hk' : x.bytes.toNat % 2 ^ 10 ≠ 0 := by rwa [mod_eq_zero_iff, kib_toNat] at hk
    exact iff_of_true rfl (by omega)

/-! ## Reading sizes from config text -/

theorem fromStr_count_unit_exact (texts : SizeTexts) {n : ℕ} {u : String} {U : UInt64}
    (hu : unitOf u = some U) (hn : n < 2 ^ 53) (hfit : n * U.toNat < 2 ^ 64) :
    fromStr texts (toString n ++ u) = .ok ⟨UInt64.ofNat (n * U.toNat)⟩ := by
  obtain ⟨-, k, hk, hU⟩ := spelled_of_unitOf hu
  rw [fromStr_toString_unit texts n hu, hU,
    scaled_exact (m := n) (j := 0) (by rw [pow_zero, mul_one]) hn (by omega) hk (by rwa [← hU])]

theorem fromStr_787_gib : unitOf "GiB" = some gib ∧ 787 < 2 ^ 53 ∧ 787 * gib.toNat < 2 ^ 64 ∧
    fromStr ⟨id⟩ (toString 787 ++ "GiB") = .ok ⟨UInt64.ofNat (787 * gib.toNat)⟩ :=
  ⟨rfl, by norm_num, by decide, fromStr_count_unit_exact ⟨id⟩ rfl (by norm_num) (by decide)⟩

theorem negative_size_read_as_zero (texts : SizeTexts) {v : Int64} (hv : v < 0) {u : String} {U : UInt64}
    (hu : unitOf u = some U) :
    deserialize texts (.i64 v) = .error (.invalidValue v "valid size") ∧
      deserialize texts (.str (toString v ++ u)) = .ok ⟨0⟩ := by
  obtain ⟨-, k, hk, hU⟩ := spelled_of_unitOf hu
  have hneg : v.toInt < 0 := by rw [← Int64.toInt_zero]; exact Int64.lt_iff_toInt_lt.mp hv
  have hnotNonneg : ¬v ≥ 0 := by
    rw [ge_iff_le, Int64.le_iff_toInt_le, Int64.toInt_zero]
    omega
  obtain ⟨m, hm⟩ := Int.eq_negSucc_of_lt_zero hneg
  have htext : toString v = "-" ++ toString (m + 1) := by
    show toString v.toInt = _
    rw [hm]
    rfl
  have hzero : truncSat (2 ^ 64 - 1) (mul (ofRat (-((m + 1 : ℕ) : ℚ))) (ofRat U.toNat)) = 0 := by
    rw [hU]
    exact truncSat_mul_of_nonpos _ (neg_nonpos.mpr (Nat.cast_nonneg _)) (Nat.two_pow_pos k)
      (Nat.pow_lt_pow_right (by norm_num) (by omega))
  constructor
  · simp [deserialize, hnotNonneg]
  · rw [deserialize, htext, fromStr_neg_toString_unit texts (m + 1) hu, Except.mapError, hzero]
    rfl

theorem negative_five_mb_read_as_zero : (-5 : Int64) < 0 ∧ unitOf "MB" = some mib ∧
    deserialize ⟨id⟩ (.i64 (-5)) = .error (.invalidValue (-5) "valid size") ∧
      deserialize ⟨id⟩ (.str (toString (-5 : Int64) ++ "MB")) = .ok ⟨0⟩ :=
  ⟨by decide, rfl, negative_size_read_as_zero ⟨id⟩ (by decide) rfl⟩

end ReadableSize

end Rifflex
