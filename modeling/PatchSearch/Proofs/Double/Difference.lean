import Mathlib
import PatchSearch.Proofs.Double

namespace PatchSearch.Double

open Float.Model (UnpackedFloat Format totalExponent)
open Float.Model.UnpackedFloat

/-- The mantissa and the exponent that a double other than zero can have. -/
structure Fits (m : ℕ) (e : ℤ) : Prop where
  lt : m < 2 ^ 53
  le : -1074 ≤ e

/-- What is greater than zero and can be packed without loss, but for a too large exponent. -/
inductive Positive : UnpackedFloat → Prop
  | infinity : Positive (.infinity .positive)
  | finite {m e h} : Fits m e → Positive (.finite .positive m e h)

theorem Positive.zero_lt_place {u : UnpackedFloat} (h : Positive u) :
    u.isNaN = false ∧ placeOf 0 < place u := by
  have hz : placeOf 0 = toLex (0, toLex (0, 0)) := by decide +kernel
  rw [hz]
  cases h <;> simp [place, Prod.Lex.toLex_lt_toLex] <;> rfl

theorem zero_lt_of_positive {z : Float} (h : Positive z.toModel.unpack) : 0 < z := by
  obtain ⟨hn, hp⟩ := h.zero_lt_place
  exact lt_iff.mpr ⟨by decide +kernel, hn, hp⟩

/-- Below the smallest exponent there is nothing, and above it there is a leading bit. -/
theorem fits_of_unpack {b : BitVec Format.binary64.numBits} {s m e h}
    (hx : unpack Format.binary64 b = .finite s m e h) :
    Fits m e ∧ (e = -1074 ∨ 2 ^ 52 ≤ m) := by
  have hbias : Format.binary64.exponentBias = 1023 := rfl
  unfold UnpackedFloat.unpack at hx
  extract_lets mantissa exponentVec exponent signVec sign at hx
  have hm : mantissa.toNat < 2 ^ 52 := mantissa.isLt
  split at hx
  · split at hx <;> simp at hx
  · split at hx
    next hz =>
      split at hx
      · simp at hx
      · obtain ⟨_, rfl, rfl⟩ := UnpackedFloat.finite.inj hx
        have he : exponent = -1075 := by simp [exponent, hz, hbias]
        exact ⟨⟨by omega, by omega⟩, Or.inl (by omega)⟩
    next hz =>
      obtain ⟨_, rfl, rfl⟩ := UnpackedFloat.finite.inj hx
      have hv : (1#1 ++ mantissa).toNat = 2 ^ 52 + mantissa.toNat := by
        rw [BitVec.toNat_append, ← Nat.shiftLeft_add_eq_or_of_lt mantissa.isLt]
        rfl
      have he : exponentVec.toNat ≠ 0 := fun h0 => hz (BitVec.eq_of_toNat_eq (by simpa using h0))
      have hexp : exponent = exponentVec.toNat - 1075 := by simp [exponent, hbias]
      exact ⟨⟨by omega, by omega⟩, Or.inr (by omega)⟩

theorem mantissa_shiftRight (em : ExtendedMantissa) (n : ℕ) :
    (em >>> n).mantissa = em.mantissa / 2 ^ n := by
  change (n.repeat ExtendedMantissa.shiftRightOne em).mantissa = _
  induction n with
  | zero => simp [Nat.repeat]
  | succ n ih => rw [Nat.repeat, ExtendedMantissa.shiftRightOne, ih, Nat.div_div_eq_div_mul, pow_succ]

theorem mantissa_ofMantissaAndAccuracy (m : ℕ) (a : Accuracy) :
    (ExtendedMantissa.ofMantissaAndAccuracy m a).mantissa = m := by
  cases a with
  | exact => rfl
  | inexact o => cases o <;> rfl

/-- Bits are dropped only where the mantissa has too many, so some are left. -/
theorem shiftToTargetExponent_fits {m : ℕ} {e : ℤ} (a : Accuracy) (hm : 0 < m) (he : -1074 ≤ e) :
    0 < (shiftToTargetExponent Format.binary64 m e a).1.mantissa ∧
      Fits (shiftToTargetExponent Format.binary64 m e a).1.mantissa
        (shiftToTargetExponent Format.binary64 m e a).2 := by
  have hmin : Format.binary64.minExponent = -1074 := rfl
  have hbits : Format.binary64.mantissaBits = 53 := rfl
  have hshift : (Format.binary64.targetExponent (totalExponent m e) - e).toNat = m.log2 - 52 := by
    rw [Format.targetExponent, totalExponent, hmin, hbits]
    omega
  simp only [shiftToTargetExponent, shiftToExponent, hshift, mantissa_shiftRight,
    mantissa_ofMantissaAndAccuracy]
  have hlow : 2 ^ m.log2 ≤ m := Nat.log2_self_le (by omega)
  have hhigh : m < 2 ^ (m.log2 + 1) := Nat.lt_log2_self
  refine ⟨?_, ?_, by omega⟩
  · refine Nat.div_pos (le_trans ?_ hlow) (Nat.two_pow_pos _)
    exact Nat.pow_le_pow_right (by omega) (by omega)
  · rw [Nat.div_lt_iff_lt_mul (Nat.two_pow_pos _), ← pow_add]
    have hpow : 2 ^ (m.log2 + 1) ≤ 2 ^ (53 + (m.log2 - 52)) := Nat.pow_le_pow_right (by omega) (by omega)
    omega

theorem le_roundedMantissa (em : ExtendedMantissa) : em.mantissa ≤ em.roundedMantissa := by
  obtain ⟨m, r, s⟩ := em
  cases r <;> cases s <;> simp [ExtendedMantissa.roundedMantissa, ExtendedMantissa.accuracy,
    Accuracy.roundToNearestEven]

/-- Rounding keeps what is greater than zero so: the smallest exponent is never passed. -/
theorem positive_round {m : ℕ} {e : ℤ} (hm : 0 < m) (he : -1074 ≤ e) :
    Positive (UnpackedFloat.round Format.binary64 .positive m e) := by
  have hmin : Format.binary64.minExponent = -1074 := rfl
  let target := Format.binary64.targetExponent (totalExponent m e)
  have htarget : -1074 ≤ target := by
    simp only [target, Format.targetExponent, hmin]
    omega
  obtain ⟨first, hfirst⟩ : ∃ first, decreaseExponent m e target = first := ⟨_, rfl⟩
  have hm₁ : 0 < first.1 := by
    rw [← hfirst, decreaseExponent, Nat.shiftLeft_eq]
    positivity
  have he₁ : -1074 ≤ first.2 := by
    rw [← hfirst, decreaseExponent]
    dsimp only
    omega
  have hround : UnpackedFloat.round Format.binary64 .positive m e =
      roundWithAccuracy Format.binary64 .positive first.1 first.2 .exact := by
    rw [← hfirst]
    rfl
  obtain ⟨hpos, hfits⟩ := shiftToTargetExponent_fits .exact hm₁ he₁
  obtain ⟨hpos', hfits'⟩ := shiftToTargetExponent_fits .exact
    (Nat.lt_of_lt_of_le hpos (le_roundedMantissa _)) hfits.le
  rw [hround, roundWithAccuracy]
  dsimp only
  rw [dif_neg (Nat.ne_of_gt hpos')]
  exact .finite hfits'

theorem positive_normalize {m e : ℤ} {s : Sign} (hm : 0 < m) (he : -1074 ≤ e) :
    Positive (UnpackedFloat.normalize Format.binary64 m e s) := by
  have hc : compare m 0 = .gt := Int.compare_eq_gt.mpr hm
  rw [UnpackedFloat.normalize, hc]
  exact positive_round (by omega) he

/-- The components of a number greater than zero: not all of them are zero, and a largest exponent has no
mantissa. -/
theorem positive_unpack_packComponents {exponent : BitVec 11} {mantissa : BitVec 52}
    (hzero : exponent = 0#11 → mantissa ≠ 0#52) (hnan : exponent = -1#11 → mantissa = 0#52) :
    Positive (unpack Format.binary64 (packComponents Format.binary64 .positive exponent mantissa)) := by
  obtain ⟨u, hu⟩ : ∃ u, unpack Format.binary64
    (packComponents Format.binary64 .positive exponent mantissa) = u := ⟨_, rfl⟩
  rw [hu]
  have hunpack := hu
  unfold UnpackedFloat.unpack at hu
  simp only [unpackExponent_packComponents, unpackMantissa_packComponents, unpackSign_packComponents,
    Sign.ofBitVec_toBitVec] at hu
  split at hu
  next he =>
    rw [if_pos (hnan he)] at hu
    rw [← hu]
    exact .infinity
  next he =>
    split at hu
    next hz =>
      rw [dif_neg (hzero hz)] at hu
      subst hu
      exact .finite (fits_of_unpack hunpack).1
    next hz =>
      subst hu
      exact .finite (fits_of_unpack hunpack).1

/-- What is greater than zero stays so when it is packed. -/
theorem Positive.unpack_pack {u : UnpackedFloat} (h : Positive u) :
    Positive (unpack Format.binary64 (pack Format.binary64 u)) := by
  have infinite : Positive (unpack Format.binary64 (packedInfinity Format.binary64 .positive)) :=
    positive_unpack_packComponents (by decide) (fun _ => rfl)
  cases h with
  | infinity => exact infinite
  | @finite m e hm h =>
    have hlog : m.log2 < 53 := (Nat.log2_lt hm.ne').mpr h.lt
    have he := h.le
    have hbits : Format.binary64.mantissaBits = 53 := rfl
    have hbias : Format.binary64.exponentBias = 1023 := rfl
    rw [pack]
    split
    next => exact infinite
    next hmax =>
      split
      next hnormal =>
        refine positive_unpack_packComponents (fun hz => ?_) (fun hz => ?_)
        · have hv := congrArg BitVec.toNat hz
          simp [hbias] at hv hmax
          omega
        · have hv := congrArg BitVec.toNat hz
          simp [hbias] at hv hmax
          omega
      next hsub =>
        refine positive_unpack_packComponents (fun _ hz => ?_) (fun hz => absurd hz (by decide))
        have hv := congrArg BitVec.toNat hz
        have hlt : m < 2 ^ 52 := (Nat.log2_lt hm.ne').mp (by omega)
        simp at hv
        omega

/-- The mantissa with the larger exponent, or the larger one with the same, is the larger one after both
are brought to the smaller exponent. -/
theorem decreaseExponent_lt {m m' : ℕ} {e e' least : ℤ} (hx : Fits m e)
    (hy : Fits m' e' ∧ (e' = -1074 ∨ 2 ^ 52 ≤ m')) (hlt : e < e' ∨ e = e' ∧ m < m') (hl : least = e) :
    (decreaseExponent m e least).1 < (decreaseExponent m' e' least).1 := by
  have hm := hx.lt
  have he := hx.le
  rw [hl]
  simp only [decreaseExponent, Nat.shiftLeft_eq, sub_self, Int.toNat_zero, pow_zero, mul_one]
  rcases hlt with hlt | ⟨rfl, hlt⟩
  · obtain ⟨k, hk⟩ : ∃ k, (e' - e).toNat = k + 1 := Nat.exists_eq_succ_of_ne_zero (by omega)
    have hlead : 2 ^ 52 ≤ m' := hy.2.resolve_left (by omega)
    have hpow : 0 < 2 ^ k := Nat.two_pow_pos k
    rw [hk, pow_succ]
    nlinarith
  · simpa using hlt

theorem apply_decreaseExponent_lt {s s' m m' e e' h h'} (hx : Fits m e ∧ (e = -1074 ∨ 2 ^ 52 ≤ m))
    (hy : Fits m' e' ∧ (e' = -1074 ∨ 2 ^ 52 ≤ m'))
    (hlt : place (.finite s m e h) < place (.finite s' m' e' h')) :
    s.apply (decreaseExponent m e (min e' e)).1 < s'.apply (decreaseExponent m' e' (min e' e)).1 := by
  have hpos : ∀ {n : ℕ} (d t : ℤ), 0 < n → 0 < (decreaseExponent n d t).1 := by
    intro n d t hn
    rw [decreaseExponent, Nat.shiftLeft_eq]
    exact Nat.mul_pos hn (Nat.two_pow_pos _)
  cases s with
  | positive =>
    cases s' with
    | negative => simp [place, Prod.Lex.toLex_lt_toLex] at hlt
    | positive =>
      have hle : e < e' ∨ e = e' ∧ m < m' := by
        simpa [place, Prod.Lex.toLex_lt_toLex] using hlt
      exact Int.ofNat_lt.mpr (decreaseExponent_lt hx.1 hy hle (by omega))
  | negative =>
    cases s' with
    | positive =>
      have := hpos e (min e' e) h
      have := hpos e' (min e' e) h'
      simp only [Sign.apply]
      omega
    | negative =>
      have hle : e' < e ∨ e' = e ∧ m' < m := by
        simpa [place, Prod.Lex.toLex_lt_toLex, eq_comm] using hlt
      exact Int.neg_lt_neg (Int.ofNat_lt.mpr (decreaseExponent_lt hy.1 hx hle (by omega)))

section Sub

/-- What unpacking makes of a finite double. -/
def Unpacked (u : UnpackedFloat) : Prop :=
  ∀ {s m e h}, u = .finite s m e h → Fits m e ∧ (e = -1074 ∨ 2 ^ 52 ≤ m)

variable {a : UnpackedFloat} {s : Sign}

theorem positive_infinity_sub (hn : a.isNaN = false) (hlt : place a < place (.infinity s)) :
    Positive (UnpackedFloat.sub Format.binary64 (.infinity s) a) := by
  cases a with
  | notANumber => simp [UnpackedFloat.isNaN] at hn
  | infinity s' =>
    cases s <;> cases s' <;> simp [place, Prod.Lex.toLex_lt_toLex] at hlt
    exact .infinity
  | zero =>
    cases s <;> simp [place, Prod.Lex.toLex_lt_toLex] at hlt
    exact .infinity
  | finite s' => cases s <;> cases s' <;> simp [place, Prod.Lex.toLex_lt_toLex] at hlt <;> exact .infinity

theorem positive_zero_sub (hn : a.isNaN = false) (ha : Unpacked a) (hlt : place a < place (.zero s)) :
    Positive (UnpackedFloat.sub Format.binary64 (.zero s) a) := by
  cases a with
  | notANumber => simp [UnpackedFloat.isNaN] at hn
  | infinity s' =>
    cases s' <;> simp [place, Prod.Lex.toLex_lt_toLex] at hlt
    exact .infinity
  | zero => simp [place] at hlt
  | finite s' =>
    cases s' <;> simp [place, Prod.Lex.toLex_lt_toLex] at hlt
    exact .finite (ha rfl).1

theorem positive_finite_sub {m e h} (hn : a.isNaN = false) (ha : Unpacked a)
    (hf : Fits m e ∧ (e = -1074 ∨ 2 ^ 52 ≤ m)) (hlt : place a < place (.finite s m e h)) :
    Positive (UnpackedFloat.sub Format.binary64 (.finite s m e h) a) := by
  cases a with
  | notANumber => simp [UnpackedFloat.isNaN] at hn
  | infinity s' => cases s <;> cases s' <;> simp [place, Prod.Lex.toLex_lt_toLex] at hlt <;> exact .infinity
  | zero =>
    cases s <;> simp [place, Prod.Lex.toLex_lt_toLex] at hlt
    exact .finite hf.1
  | finite s' m' e' h' =>
    have hlt' := apply_decreaseExponent_lt (ha rfl) hf hlt
    have he := hf.1.le
    have he' := (ha rfl).1.le
    exact positive_normalize (Int.sub_pos_of_lt hlt') (by omega)

theorem positive_sub_of_place_lt {b : UnpackedFloat} (ha : a.isNaN = false) (hb : b.isNaN = false)
    (hfa : Unpacked a) (hfb : Unpacked b) (hlt : place a < place b) :
    Positive (UnpackedFloat.sub Format.binary64 b a) := by
  cases b with
  | notANumber => simp [UnpackedFloat.isNaN] at hb
  | infinity s => exact positive_infinity_sub ha hlt
  | zero s => exact positive_zero_sub ha hfa hlt
  | finite s m e h => exact positive_finite_sub ha hfa (hfb rfl) hlt

end Sub

theorem unpacked (x : Float) : Unpacked x.toModel.unpack :=
  fun h => fits_of_unpack h

/-- What is left of two mantissas is never below the least double. -/
theorem sub_pos {x y : Float} (h : x < y) : 0 < y - x := by
  obtain ⟨hx, hy, hlt⟩ := lt_iff.mp h
  exact zero_lt_of_positive (positive_sub_of_place_lt hx hy (unpacked x) (unpacked y) hlt).unpack_pack

end PatchSearch.Double
