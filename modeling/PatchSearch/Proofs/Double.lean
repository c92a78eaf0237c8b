import Mathlib.Algebra.Order.Group.Int
import Mathlib.Data.Prod.Lex
import Mathlib.Order.Compare

namespace PatchSearch.Double

open Float.Model (UnpackedFloat)

theorem compare_neg (a b : ℤ) : compare (-a) (-b) = (compare a b).swap := by
  rw [Int.compare_swap]
  simp only [compare, compareOfLessAndEq, Int.neg_lt_neg_iff, Int.neg_inj, eq_comm]

theorem compare_natCast (m n : ℕ) : compare (m : ℤ) n = compare m n := by
  simp only [compare, compareOfLessAndEq, Int.ofNat_lt, Int.natCast_inj]

/-- The place of a number: its kind, then the exponent and the mantissa, which count backwards below
zero. -/
def place : UnpackedFloat → ℤ ×ₗ ℤ ×ₗ ℤ
  | .infinity .negative => toLex (-2, toLex (0, 0))
  | .finite .negative mantissa exponent _ => toLex (-1, toLex (-exponent, -(mantissa : ℤ)))
  | .zero _ | .notANumber => toLex (0, toLex (0, 0))
  | .finite .positive mantissa exponent _ => toLex (1, toLex (exponent, (mantissa : ℤ)))
  | .infinity .positive => toLex (2, toLex (0, 0))

theorem compare_eq_place {a b : UnpackedFloat} (ha : a.isNaN = false) (hb : b.isNaN = false) :
    a.compare b = some (compare (place a) (place b)) := by
  cases a with
  | notANumber => exact absurd ha.symm Bool.false_ne_true
  | infinity s =>
    cases b with
    | notANumber => exact absurd hb.symm Bool.false_ne_true
    | infinity s' => cases s <;> cases s' <;> rfl
    | zero s' => cases s <;> rfl
    | finite s' m' e' h' => cases s <;> cases s' <;> rfl
  | zero s =>
    cases b with
    | notANumber => exact absurd hb.symm Bool.false_ne_true
    | infinity s' => cases s' <;> rfl
    | zero s' => rfl
    | finite s' m' e' h' => cases s' <;> rfl
  | finite s m e h =>
    cases b with
    | notANumber => exact absurd hb.symm Bool.false_ne_true
    | infinity s' => cases s <;> cases s' <;> rfl
    | zero s' => cases s <;> rfl
    | finite s' m' e' h' =>
      cases s with
      | negative =>
        cases s' with
        | negative =>
          change some ((compare e e').then (compare m m')).swap = _
          rw [Ordering.swap_then, ← compare_neg, ← compare_natCast, ← compare_neg]
          rfl
        | positive => rfl
      | positive =>
        cases s' with
        | negative => rfl
        | positive =>
          change some ((compare e e').then (compare m m')) = _
          rw [← compare_natCast]
          rfl

/-- Nothing compares with what is not a number. -/
theorem numbers_of_compare {a b : UnpackedFloat} {o : Ordering} (h : a.compare b = some o) :
    a.isNaN = false ∧ b.isNaN = false := by
  cases a with
  | notANumber => cases h
  | _ =>
    cases b with
    | notANumber => cases h
    | _ => exact ⟨rfl, rfl⟩

def placeOf (x : Float) : ℤ ×ₗ ℤ ×ₗ ℤ :=
  place x.toModel.unpack

variable {x y z : Float}

theorem lt_iff : x < y ↔ x.isNaN = false ∧ y.isNaN = false ∧ placeOf x < placeOf y := by
  have hdef : x < y ↔ x.toModel.unpack.compare y.toModel.unpack = some .lt := by
    simp [LT.lt, Float.lt, Float.Model.lt, UnpackedFloat.lt]
  rw [hdef]
  constructor
  · intro h
    obtain ⟨hx, hy⟩ := numbers_of_compare h
    rw [compare_eq_place hx hy, Option.some_inj, compare_lt_iff_lt] at h
    exact ⟨hx, hy, h⟩
  · rintro ⟨hx, hy, h⟩
    rw [compare_eq_place hx hy, Option.some_inj, compare_lt_iff_lt]
    exact h

theorem le_iff : x ≤ y ↔ x.isNaN = false ∧ y.isNaN = false ∧ placeOf x ≤ placeOf y := by
  have hdef : x ≤ y ↔ ∃ o, x.toModel.unpack.compare y.toModel.unpack = some o ∧ o ≠ .gt := by
    simp [LE.le, Float.le, Float.Model.le, UnpackedFloat.le, Option.any_eq_true,
      Ordering.isLE_iff_ne_gt]
  rw [hdef]
  constructor
  · rintro ⟨o, h, ho⟩
    obtain ⟨hx, hy⟩ := numbers_of_compare h
    rw [compare_eq_place hx hy, Option.some_inj] at h
    exact ⟨hx, hy, compare_le_iff_le.mp (h ▸ ho)⟩
  · rintro ⟨hx, hy, h⟩
    exact ⟨_, compare_eq_place hx hy, compare_le_iff_le.mpr h⟩

theorem le_refl (h : x.isNaN = false) : x ≤ x :=
  le_iff.mpr ⟨h, h, le_rfl⟩

theorem le_of_lt (h : x < y) : x ≤ y := by
  obtain ⟨hx, hy, h⟩ := lt_iff.mp h
  exact le_iff.mpr ⟨hx, hy, h.le⟩

theorem lt_of_lt_of_le (h : x < y) (h' : y ≤ z) : x < z := by
  obtain ⟨hx, _, h⟩ := lt_iff.mp h
  obtain ⟨_, hz, h'⟩ := le_iff.mp h'
  exact lt_iff.mpr ⟨hx, hz, h.trans_le h'⟩

theorem lt_trans (h : x < y) (h' : y < z) : x < z :=
  lt_of_lt_of_le h (le_of_lt h')

theorem lt_irrefl (x : Float) : ¬x < x :=
  fun h => (lt_iff.mp h).2.2.false

theorem le_of_not_lt (hx : x.isNaN = false) (hy : y.isNaN = false) (h : ¬y < x) : x ≤ y := by
  refine le_iff.mpr ⟨hx, hy, not_lt.mp fun hp => h (lt_iff.mpr ⟨hy, hx, hp⟩)⟩

end PatchSearch.Double
