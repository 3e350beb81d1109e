import Mathlib.Data.UInt
import Mathlib.Tactic.Common

/-!
# Saturating 64-bit words

Rust's `u64::saturating_add`, `u64::saturating_mul`, `u64::saturating_sub`, `u64::div_ceil` and
`u64::checked_add` on `UInt64`, its `i64::saturating_mul` and `i64::saturating_sub` on `Int64`, and
the two wrapping casts between `u64` and `i64`, which Lean has as `UInt64.toInt64` and
`Int64.toUInt64`. The casts are mutually inverse, so a `u64` that is stored in a signed column and
read back is the value that was stored (`UInt64.toUInt64_toInt64`).

## Main definitions

* `Rust.saturatingAdd`, `Rust.saturatingMul`: arithmetic clamped to `u64::MAX`.
* `Rust.saturatingMulI64`, `Rust.saturatingSubI64`: signed arithmetic clamped to the `i64` range.
* `Rust.checkedSucc`: `checked_add(1)`.

## Main results

* `Rust.checkedSucc_eq_some`: the successor exists exactly below `u64::MAX`.
-/

namespace Rust

/-- `u64::MAX`. -/
def u64Max : UInt64 := 18446744073709551615

@[simp] theorem toNat_u64Max : u64Max.toNat = 2 ^ 64 - 1 := rfl

/-- `u64::saturating_add`. -/
def saturatingAdd (a b : UInt64) : UInt64 :=
  if a.toNat + b.toNat < 2 ^ 64 then a + b else u64Max

/-- `u64::saturating_mul`. -/
def saturatingMul (a b : UInt64) : UInt64 :=
  if a.toNat * b.toNat < 2 ^ 64 then a * b else u64Max

/-- `u64::saturating_sub`. -/
def saturatingSub (a b : UInt64) : UInt64 :=
  if b ≤ a then a - b else 0

/-- `u64::try_from(n).unwrap_or(u64::MAX)` of a `usize`. -/
def clampU64 (n : ℕ) : UInt64 :=
  if n < 2 ^ 64 then UInt64.ofNat n else u64Max

/-- `u64::div_ceil`. -/
def divCeil (a b : UInt64) : UInt64 :=
  if a % b = 0 then a / b else a / b + 1

/-- `u64::checked_add(1)`. -/
def checkedSucc (a : UInt64) : Option UInt64 :=
  if a = u64Max then none else some (a + 1)

/-- `i64::saturating_mul`. -/
def saturatingMulI64 (a b : Int64) : Int64 :=
  Int64.ofIntClamp (a.toInt * b.toInt)

/-- `i64::saturating_sub`. -/
def saturatingSubI64 (a b : Int64) : Int64 :=
  Int64.ofIntClamp (a.toInt - b.toInt)

/-- Clamping into the `i64` range. -/
theorem toInt_ofIntClamp (x : ℤ) :
    (Int64.ofIntClamp x).toInt = max (-2 ^ 63) (min x (2 ^ 63 - 1)) := by
  have hmin : Int64.minValue.toInt = -2 ^ 63 := by decide
  have hmax : Int64.maxValue.toInt = 2 ^ 63 - 1 := by decide
  rw [Int64.ofIntClamp]
  split_ifs with hlow hhigh
  · rw [Int64.toInt_ofIntLE]
    omega
  · rw [hmax]
    omega
  · rw [hmin]
    omega

/-- The cast to `i64` wraps from `2 ^ 63` on. -/
theorem toInt_toInt64 (a : UInt64) :
    a.toInt64.toInt = if a.toNat < 2 ^ 63 then (a.toNat : ℤ) else a.toNat - 2 ^ 64 := by
  have h : a.toInt64.toInt = a.toBitVec.toInt := rfl
  rw [h, BitVec.toInt_eq_toNat_cond, UInt64.toNat_toBitVec]
  split_ifs <;> omega

theorem toNat_saturatingAdd (a b : UInt64) :
    (saturatingAdd a b).toNat = min (a.toNat + b.toNat) (2 ^ 64 - 1) := by
  rw [saturatingAdd]
  split_ifs with h
  · rw [UInt64.toNat_add]
    omega
  · rw [toNat_u64Max]
    omega

theorem toNat_saturatingMul (a b : UInt64) :
    (saturatingMul a b).toNat = min (a.toNat * b.toNat) (2 ^ 64 - 1) := by
  rw [saturatingMul]
  split_ifs with h
  · rw [UInt64.toNat_mul, Nat.mod_eq_of_lt h]
    omega
  · rw [toNat_u64Max]
    omega

theorem toNat_saturatingSub (a b : UInt64) :
    (saturatingSub a b).toNat = a.toNat - b.toNat := by
  rw [saturatingSub]
  split_ifs with h
  · exact UInt64.toNat_sub_of_le a b h
  · have hlt := UInt64.lt_iff_toNat_lt.mp (UInt64.not_le.mp h)
    rw [UInt64.toNat_zero]
    omega

theorem toNat_clampU64 (n : ℕ) : (clampU64 n).toNat = min n (2 ^ 64 - 1) := by
  rw [clampU64]
  split_ifs with h
  · rw [UInt64.toNat_ofNat_of_lt' h]
    omega
  · rw [toNat_u64Max]
    omega

theorem toNat_divCeil {a b : UInt64} (hb : b ≠ 0) :
    (divCeil a b).toNat = (a.toNat + (b.toNat - 1)) / b.toNat := by
  have hpos : 0 < b.toNat := by
    rw [Nat.pos_iff_ne_zero]
    exact fun h => hb (UInt64.toNat_inj.mp h)
  have hsplit : b.toNat * (a.toNat / b.toNat) + a.toNat % b.toNat = a.toNat :=
    Nat.div_add_mod ..
  have hmod : a.toNat % b.toNat < b.toNat := Nat.mod_lt _ hpos
  have hrem : a % b = 0 ↔ a.toNat % b.toNat = 0 := by
    rw [← UInt64.toNat_inj, UInt64.toNat_mod, UInt64.toNat_zero]
  rw [divCeil]
  symm
  split_ifs with h
  · rw [UInt64.toNat_div]
    refine Nat.div_eq_of_lt_le ?_ ?_
    · rw [Nat.mul_comm]
      omega
    · rw [Nat.add_mul, Nat.one_mul, Nat.mul_comm]
      have := hrem.mp h
      omega
  · have hne : a.toNat % b.toNat ≠ 0 := fun h' => h (hrem.mpr h')
    have htwo : 2 ≤ b.toNat := by
      by_contra hlt
      obtain hone : b.toNat = 1 := by omega
      rw [hone, Nat.mod_one] at hne
      exact hne rfl
    have hhalf : a.toNat / b.toNat ≤ a.toNat / 2 := Nat.div_le_div_left htwo (by omega)
    have ha := a.toNat_lt
    rw [UInt64.toNat_add, UInt64.toNat_div, UInt64.toNat_one, Nat.mod_eq_of_lt (by omega)]
    refine Nat.div_eq_of_lt_le ?_ ?_
    · rw [Nat.add_mul, Nat.one_mul, Nat.mul_comm]
      omega
    · rw [Nat.add_mul, Nat.add_mul, Nat.one_mul, Nat.mul_comm]
      omega

theorem checkedSucc_eq_some {a b : UInt64} :
    checkedSucc a = some b ↔ b.toNat = a.toNat + 1 := by
  have ha := a.toNat_lt
  have hb := b.toNat_lt
  rw [checkedSucc]
  split_ifs with h
  · subst h
    simp only [toNat_u64Max, false_iff]
    omega
  · have hne : a.toNat ≠ 2 ^ 64 - 1 := fun h' => h (UInt64.toNat_inj.mp h')
    rw [Option.some_inj, ← UInt64.toNat_inj, UInt64.toNat_add, UInt64.toNat_one]
    omega

theorem checkedSucc_eq_none {a : UInt64} : checkedSucc a = none ↔ a = u64Max := by
  rw [checkedSucc]
  split_ifs with h <;> simp [h]

end Rust
