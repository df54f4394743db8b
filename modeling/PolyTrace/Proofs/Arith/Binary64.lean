import Mathlib
import PolyTrace.Arith.Binary64

/-!
# Machine numbers

A machine number is infinite or undefined when all bits of its exponent are set, and a fraction is
read from every other one.  Two machine numbers compare the same way from either side.
-/

namespace PolyTrace.Binary64

open Float.Model

/-- The exponent of a word, with all bits set, as it is read from the word as a number. -/
theorem unpackExponent_eq_iff (bits : UInt64) :
    @UnpackedFloat.unpackExponent Format.binary64 bits.toBitVec = -1#11 ↔
      bits.toNat / twoPow 52 % twoPow 11 = twoPow 11 - 1 := by
  have significand : twoPow 52 = 2 ^ 52 := by decide
  have exponent : twoPow 11 = 2 ^ 11 := by decide
  rw [← BitVec.toNat_inj, significand, exponent]
  simp [UnpackedFloat.unpackExponent, Nat.shiftRight_eq_div_pow, BitVec.extractLsb]

theorem isFinite_unpack_iff (word : BitVec 64) :
    (UnpackedFloat.unpack Format.binary64 word).isFinite = true ↔
      @UnpackedFloat.unpackExponent Format.binary64 word ≠ -1#11 := by
  unfold UnpackedFloat.unpack
  dsimp only
  split
  · split <;> simp_all [UnpackedFloat.isFinite]
  · split
    · split <;> simp_all [UnpackedFloat.isFinite]
    · simp_all [UnpackedFloat.isFinite]

/-- Exactly the finite machine numbers are read as fractions. -/
theorem isFinite_readout_iff (value : Float) :
    (readout value).isFinite = true ↔ value.isFinite = true := by
  change _ ↔ (UnpackedFloat.unpack Format.binary64 value.toBits.toBitVec).isFinite = true
  rw [isFinite_unpack_iff, Ne, unpackExponent_eq_iff]
  unfold readout readoutBits
  dsimp only
  split
  · split <;> simp_all [Readout.isFinite]
  · simp_all [Readout.isFinite]

theorem toRat?_readout_eq_none_iff (value : Float) :
    (readout value).toRat? = none ↔ value.isFinite = false := by
  rw [← Bool.not_eq_true, ← isFinite_readout_iff]
  cases readout value <;> simp [Readout.toRat?, Readout.isFinite]

/-! ## Comparisons -/

/-- Comparing two numbers the other way round turns the result around. -/
theorem compare_swap (a b : UnpackedFloat) : b.compare a = (a.compare b).map Ordering.swap := by
  cases a with
  | notANumber => cases b <;> simp [UnpackedFloat.compare]
  | infinity s =>
      cases b with
      | infinity t => cases s <;> cases t <;> rfl
      | notANumber => cases s <;> rfl
      | zero t => cases s <;> rfl
      | finite t => cases s <;> rfl
  | zero s =>
      cases b with
      | infinity t => cases t <;> rfl
      | notANumber => rfl
      | zero t => rfl
      | finite t => cases t <;> rfl
  | finite s m e positive =>
      cases b with
      | infinity t => cases t <;> cases s <;> rfl
      | notANumber => rfl
      | zero t => cases s <;> rfl
      | finite t m' e' positive' =>
          have flip : (compare e' e).then (compare m' m) =
              ((compare e e').then (compare m m')).swap := by
            rw [Ordering.swap_then, ← Std.OrientedCmp.eq_swap, ← Std.OrientedCmp.eq_swap]
          cases s <;> cases t <;> simp [UnpackedFloat.compare, flip]

/-- No machine number is both below and above another. -/
theorem not_lt_of_le {a b : Float} (le : a ≤ b) : ¬ b < a := by
  intro lt
  have below : a.toModel.unpack.le b.toModel.unpack = true := of_decide_eq_true le
  have above : b.toModel.unpack.lt a.toModel.unpack = true := of_decide_eq_true lt
  unfold UnpackedFloat.le at below
  unfold UnpackedFloat.lt at above
  rw [compare_swap] at above
  cases compared : a.toModel.unpack.compare b.toModel.unpack with
  | none => simp [compared] at below
  | some order =>
      rw [compared] at below above
      cases order
      · simp at above
      · simp at above
      · simp at below

end PolyTrace.Binary64
