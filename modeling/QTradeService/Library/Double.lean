import Mathlib

set_option relaxedAutoImplicit false
set_option autoImplicit false

/-!
# The order of the doubles

A `double` is Lean's `Float`, an IEEE 754 number of 64 bits with rounding to the nearest and ties
to even, infinities, signed zeros and NaN. A number that is not infinite is an integer multiple of
the least positive double `2 ^ -1074`, so the numbers are ordered as these multiples are, and a
sum is the multiple that is nearest to the sum of the two. Rounding is monotone, and with it are
the sums.

## Main definitions

* `Double.roundedUnits`, `Double.rounded` — the magnitude, the multiple that a result is rounded
  to.
* `Double.IsNumber`, `Double.value` — the doubles that are no NaN, the multiple that one is.

## Main results

* `Double.value_add` — a sum of doubles is the rounded sum.
* `Double.lt_iff`, `Double.le_iff` — the order of doubles is that of the multiples.
* `Double.lt_add_of_le` — what exceeds a limit on top of a total does so on top of a larger one.
* `Double.lt_add_add_of_nonneg` — and on top of a total to which something was added.
* `Double.not_lt_add_nan`, `Double.add_mul_one` — sums with NaN and with a product by one.
-/

namespace Double

/-- A natural number as a double, rounded. -/
instance instNatCastFloat : NatCast Float := ⟨Float.ofNat⟩

open Float.Model (Format UnpackedFloat totalExponent)
open Float.Model.UnpackedFloat

/-! ## Shifts of a mantissa -/

/-- A mantissa that is exact. -/
abbrev exactly (m : ℕ) : ExtendedMantissa := .ofMantissaAndAccuracy m .exact

/-- A mantissa together with its two residual bits, as one number. -/
def extendedKey (em : ExtendedMantissa) : ℕ :=
  4 * em.mantissa + 2 * em.roundBit.toNat + em.stickyBit.toNat

lemma shift_zero (em : ExtendedMantissa) : em >>> 0 = em := rfl

lemma shift_succ (em : ExtendedMantissa) (n : ℕ) : em >>> (n + 1) = (em >>> n).shiftRightOne := rfl

/-- Two shifts in a row are one. -/
lemma shift_add (em : ExtendedMantissa) (n k : ℕ) : em >>> (n + k) = (em >>> n) >>> k := by
  induction k with
  | zero => rfl
  | succ k ih => rw [← Nat.add_assoc, shift_succ, shift_succ, ih]

/-- A shift divides the mantissa. -/
lemma mantissa_shift (em : ExtendedMantissa) (n : ℕ) :
    (em >>> n).mantissa = em.mantissa / 2 ^ n := by
  induction n with
  | zero => simp [shift_zero]
  | succ n ih =>
    rw [shift_succ, pow_succ, ← Nat.div_div_eq_div_mul, ← ih]
    rfl

/-- A shift that drops zeros only is exact. -/
lemma exactly_shift (m n : ℕ) : exactly (m * 2 ^ n) >>> n = exactly m := by
  induction n generalizing m with
  | zero => simp [shift_zero]
  | succ n ih =>
    rw [shift_succ, pow_succ', ← mul_assoc, ih]
    simp [ExtendedMantissa.ofMantissaAndAccuracy, ExtendedMantissa.shiftRightOne]

/-- What a shift by one bit does to mantissa and residual bits. -/
lemma extendedKey_shiftRightOne (em : ExtendedMantissa) :
    extendedKey em.shiftRightOne = 2 * (extendedKey em / 4) + min 1 (extendedKey em % 4) := by
  obtain ⟨m, r, s⟩ := em
  have hm : (m % 2 != 0).toNat = m % 2 := by
    rcases Nat.mod_two_eq_zero_or_one m with h | h <;> simp [h]
  simp only [extendedKey, ExtendedMantissa.shiftRightOne, hm]
  cases r <;> cases s <;> simp <;> omega

/-- Shifts are monotone, the residual bits included. -/
lemma extendedKey_shift_mono {em em' : ExtendedMantissa} (h : extendedKey em ≤ extendedKey em')
    (n : ℕ) : extendedKey (em >>> n) ≤ extendedKey (em' >>> n) := by
  induction n with
  | zero => exact h
  | succ n ih =>
    rw [shift_succ, shift_succ, extendedKey_shiftRightOne, extendedKey_shiftRightOne]
    omega

/-- Rounding to the nearest, read off the two residual bits. -/
lemma roundedMantissa_eq (em : ExtendedMantissa) : em.roundedMantissa =
    if em.roundBit then if em.stickyBit then em.mantissa + 1 else em.mantissa + em.mantissa % 2
    else em.mantissa := by
  obtain ⟨m, r, s⟩ := em
  cases r <;> cases s <;> rfl

/-- A rounded mantissa is the mantissa or the next one. -/
lemma roundedMantissa_bounds (em : ExtendedMantissa) :
    em.mantissa ≤ em.roundedMantissa ∧ em.roundedMantissa ≤ em.mantissa + 1 := by
  rw [roundedMantissa_eq]
  split_ifs <;> omega

/-- Rounding to the nearest is monotone. -/
lemma roundedMantissa_mono {em em' : ExtendedMantissa} (h : extendedKey em ≤ extendedKey em') :
    em.roundedMantissa ≤ em'.roundedMantissa := by
  obtain ⟨m, r, s⟩ := em
  obtain ⟨m', r', s'⟩ := em'
  rw [roundedMantissa_eq, roundedMantissa_eq]
  simp only [extendedKey] at h
  cases r <;> cases s <;> cases r' <;> cases s' <;> simp at h ⊢ <;> omega

/-! ## Rounded magnitudes -/

/-- The number of low bits of a magnitude that do not fit into the 53 bits of a mantissa. -/
def excess (n : ℕ) : ℕ := n.log2 - 52

/-- The magnitude that a magnitude is rounded to, infinities apart. -/
def roundedUnits (n : ℕ) : ℕ := (exactly n >>> excess n).roundedMantissa * 2 ^ excess n

lemma lt_two_pow_excess (n : ℕ) : n < 2 ^ (53 + excess n) := by
  refine Nat.lt_log2_self.trans_le (Nat.pow_le_pow_right (by decide) ?_)
  unfold excess
  omega

lemma two_pow_excess_le {n : ℕ} (h : excess n ≠ 0) : 2 ^ (52 + excess n) ≤ n := by
  unfold excess at h ⊢
  have hn : n ≠ 0 := by
    rintro rfl
    simp at h
  refine le_trans (Nat.pow_le_pow_right (by decide) ?_) (Nat.log2_self_le hn)
  omega

lemma excess_mono {n n' : ℕ} (h : n ≤ n') : excess n ≤ excess n' := by
  have hlog : n.log2 ≤ n'.log2 := by
    rw [Nat.log2_eq_log_two, Nat.log2_eq_log_two]
    exact Nat.log_mono_right h
  unfold excess
  omega

/-- A rounded mantissa takes 53 bits, or is the next power of two. -/
lemma mantissa_le (n : ℕ) : (exactly n >>> excess n).roundedMantissa ≤ 2 ^ 53 := by
  refine (roundedMantissa_bounds _).2.trans ?_
  rw [mantissa_shift]
  have hlt := lt_two_pow_excess n
  rw [pow_add, mul_comm] at hlt
  exact Nat.div_lt_of_lt_mul hlt

/-- A mantissa from which bits were dropped takes all of the 53 bits. -/
lemma le_mantissa {n : ℕ} (h : excess n ≠ 0) :
    2 ^ 52 ≤ (exactly n >>> excess n).roundedMantissa := by
  refine le_trans ?_ (roundedMantissa_bounds _).1
  rw [mantissa_shift]
  have hle := two_pow_excess_le h
  rw [pow_add] at hle
  exact (Nat.le_div_iff_mul_le (by positivity)).mpr hle

/-- Rounding is monotone.

**Proof sketch.** If as many bits are dropped, it is rounding of the mantissas. Otherwise the power
of two in between separates the results. -/
lemma roundedUnits_mono {n n' : ℕ} (h : n ≤ n') : roundedUnits n ≤ roundedUnits n' := by
  unfold roundedUnits
  rcases (excess_mono h).eq_or_lt with heq | hlt
  · rw [← heq]
    refine Nat.mul_le_mul_right _ (roundedMantissa_mono (extendedKey_shift_mono ?_ _))
    simp [extendedKey, ExtendedMantissa.ofMantissaAndAccuracy, h]
  · calc (exactly n >>> excess n).roundedMantissa * 2 ^ excess n
        ≤ 2 ^ 53 * 2 ^ excess n := Nat.mul_le_mul_right _ (mantissa_le n)
      _ = 2 ^ 52 * 2 ^ (excess n + 1) := by ring
      _ ≤ 2 ^ 52 * 2 ^ excess n' := Nat.mul_le_mul_left _ (Nat.pow_le_pow_right (by decide) hlt)
      _ ≤ _ := Nat.mul_le_mul_right _ (le_mantissa (by omega))

lemma log2_mul_two_pow {m : ℕ} (hm : m ≠ 0) (j : ℕ) : (m * 2 ^ j).log2 = m.log2 + j := by
  have ⟨hlow, hhigh⟩ := (Nat.log2_eq_iff hm).mp rfl
  rw [Nat.log2_eq_iff (by positivity), pow_add, show m.log2 + j + 1 = m.log2 + 1 + j by omega,
    pow_add]
  exact ⟨Nat.mul_le_mul_right _ hlow, Nat.mul_lt_mul_of_pos_right hhigh (by positivity)⟩

/-! ## Mantissas and exponents -/

/-- A mantissa and an exponent as the doubles have them, but for exponents that are too large. -/
structure Canonical (m : ℕ) (e : ℤ) : Prop where
  minExponent : -1074 ≤ e
  lt : m < 2 ^ 53
  normal : e = -1074 ∨ 2 ^ 52 ≤ m

/-- The magnitude with the given mantissa and exponent, as a multiple of `2 ^ -1074`. -/
def magnitude (m : ℕ) (e : ℤ) : ℕ := m * 2 ^ (e + 1074).toNat

lemma magnitude_pos {m : ℕ} (hm : m ≠ 0) (e : ℤ) : 0 < magnitude m e := by
  unfold magnitude
  positivity

lemma magnitude_strictMono {m m' : ℕ} (h : m < m') (e : ℤ) : magnitude m e < magnitude m' e :=
  Nat.mul_lt_mul_of_pos_right h (by positivity)

lemma magnitude_le_of_exponent {e e' : ℤ} (h : e ≤ e') (m : ℕ) : magnitude m e ≤ magnitude m e' :=
  Nat.mul_le_mul_left _ (Nat.pow_le_pow_right (by decide) (by omega))

/-- The carry from a mantissa of 54 bits to the exponent. -/
lemma magnitude_carry {e : ℤ} (h : -1074 ≤ e) :
    magnitude (2 ^ 53) e = magnitude (2 ^ 52) (e + 1) := by
  unfold magnitude
  rw [show (e + 1 + 1074).toNat = (e + 1074).toNat + 1 by omega]
  ring

/-- Canonical magnitudes are ordered by their exponents first. -/
lemma magnitude_lt_of_exponent {m m' : ℕ} {e e' : ℤ} (h : Canonical m e) (h' : Canonical m' e')
    (he : e < e') : magnitude m e < magnitude m' e' := by
  have hmin := h.minExponent
  calc magnitude m e < magnitude (2 ^ 53) e := magnitude_strictMono h.lt e
    _ = magnitude (2 ^ 52) (e + 1) := magnitude_carry hmin
    _ ≤ magnitude (2 ^ 52) e' := magnitude_le_of_exponent (by omega) _
    _ ≤ magnitude m' e' := Nat.mul_le_mul_right _ (h'.normal.resolve_left (by omega))

/-- The exponent at which a magnitude is rounded. -/
lemma targetExponent_eq {m : ℕ} {e : ℤ} (hm : m ≠ 0) (he : -1074 ≤ e) :
    Format.binary64.targetExponent (totalExponent m e) = excess (magnitude m e) - 1074 := by
  have hlog := log2_mul_two_pow hm (e + 1074).toNat
  have hmin : Format.binary64.minExponent = -1074 := rfl
  have hbits : Format.binary64.mantissaBits = 53 := rfl
  unfold Format.targetExponent totalExponent excess magnitude
  rw [hlog, hmin, hbits]
  omega

/-- No bits of a canonical magnitude are dropped. -/
lemma excess_of_canonical {m : ℕ} {e : ℤ} (hm : m ≠ 0) (h : Canonical m e) :
    (excess (magnitude m e) : ℤ) = e + 1074 := by
  obtain ⟨hmin, hlt, hnormal⟩ := h
  have hlog := log2_mul_two_pow hm (e + 1074).toNat
  have hlt' := (Nat.log2_lt hm).mpr hlt
  unfold excess magnitude
  rw [hlog]
  rcases hnormal with rfl | hle
  · omega
  · have hle' := (Nat.le_log2 hm).mpr hle
    omega

/-- A canonical magnitude is not rounded. -/
lemma roundedUnits_magnitude {m : ℕ} {e : ℤ} (hm : m ≠ 0) (h : Canonical m e) :
    roundedUnits (magnitude m e) = magnitude m e := by
  have hexcess : excess (magnitude m e) = (e + 1074).toNat := by
    have := excess_of_canonical hm h
    omega
  unfold roundedUnits
  rw [hexcess, magnitude, exactly_shift]
  rfl

/-! ## Rounding -/

/-- A canonical mantissa stays as it is. -/
lemma shiftToTargetExponent_self {m : ℕ} {e : ℤ} (hm : m ≠ 0) (h : Canonical m e) :
    shiftToTargetExponent Format.binary64 m e .exact = (exactly m, e) := by
  unfold shiftToTargetExponent shiftToExponent
  rw [targetExponent_eq hm h.minExponent, excess_of_canonical hm h]
  simp [shift_zero]

/-- A mantissa whose exponent is not too large is shifted as its magnitude is. -/
lemma shiftToTargetExponent_eq {m : ℕ} {e : ℤ} (hm : m ≠ 0) (hmin : -1074 ≤ e)
    (he : e + 1074 ≤ excess (magnitude m e)) :
    shiftToTargetExponent Format.binary64 m e .exact =
      (exactly (magnitude m e) >>> excess (magnitude m e),
        (excess (magnitude m e) : ℤ) - 1074) := by
  unfold shiftToTargetExponent shiftToExponent
  rw [targetExponent_eq hm hmin]
  generalize hk : excess (magnitude m e) = k at he ⊢
  have hsplit : k = (e + 1074).toNat + ((k : ℤ) - 1074 - e).toNat := by omega
  ext1
  · conv_rhs => rw [hsplit, shift_add, magnitude, exactly_shift]
  · simp only
    omega

/-- The second shift, after rounding: it drops the carry, if there is one.

**Proof sketch.** A rounded mantissa below `2 ^ 53` is canonical. Otherwise it is `2 ^ 53`, which
becomes `2 ^ 52` at the next exponent. -/
lemma shiftToTargetExponent_rounded {n : ℕ} (hn : n ≠ 0) :
    ∃ m e, shiftToTargetExponent Format.binary64 (exactly n >>> excess n).roundedMantissa
        ((excess n : ℤ) - 1074) .exact = (exactly m, e) ∧ m ≠ 0 ∧ Canonical m e ∧
      magnitude m e = roundedUnits n := by
  have hle := mantissa_le n
  have hpos : (exactly n >>> excess n).roundedMantissa ≠ 0 := by
    by_cases h0 : excess n = 0
    · rw [h0, shift_zero]
      exact hn
    · have := le_mantissa h0
      omega
  have hnormal : excess n = 0 ∨ 2 ^ 52 ≤ (exactly n >>> excess n).roundedMantissa :=
    or_iff_not_imp_left.mpr le_mantissa
  have hunits : roundedUnits n = (exactly n >>> excess n).roundedMantissa * 2 ^ excess n := rfl
  rw [hunits]
  generalize (exactly n >>> excess n).roundedMantissa = m at hle hpos hnormal ⊢
  generalize excess n = k at hnormal ⊢
  have hmagnitude (m : ℕ) : magnitude m ((k : ℤ) - 1074) = m * 2 ^ k := by
    unfold magnitude
    rw [show ((k : ℤ) - 1074 + 1074).toNat = k by omega]
  rcases hle.eq_or_lt with rfl | hlt
  · -- the carry
    have hcarry := magnitude_carry (e := (k : ℤ) - 1074) (by omega)
    have hexcess : excess (magnitude (2 ^ 53) ((k : ℤ) - 1074)) = k + 1 := by
      rw [hmagnitude]
      unfold excess
      rw [log2_mul_two_pow (by decide), Nat.log2_two_pow]
      omega
    have hshift : magnitude (2 ^ 53) ((k : ℤ) - 1074) = 2 ^ 52 * 2 ^ (k + 1) := by
      rw [hmagnitude]
      ring
    refine ⟨2 ^ 52, (k : ℤ) - 1074 + 1, ?_, by decide, ⟨by omega, by decide, .inr le_rfl⟩,
      hcarry.symm.trans (hmagnitude _)⟩
    rw [shiftToTargetExponent_eq (by decide) (by omega) (by omega), hexcess, hshift,
      exactly_shift]
    ext1
    · rfl
    · simp only
      omega
  · have hcanonical : Canonical m ((k : ℤ) - 1074) :=
      ⟨by omega, hlt, hnormal.imp_left (by omega)⟩
    exact ⟨m, k - 1074, shiftToTargetExponent_self hpos hcanonical, hpos, hcanonical, hmagnitude m⟩

/-- Rounding of a mantissa whose exponent is not too large. -/
lemma roundWithAccuracy_eq {m : ℕ} {e : ℤ} (s : Sign) (hm : m ≠ 0) (hmin : -1074 ≤ e)
    (he : e + 1074 ≤ excess (magnitude m e)) :
    ∃ m' e', ∃ hm' : 0 < m', roundWithAccuracy Format.binary64 s m e .exact = .finite s m' e' hm' ∧
      Canonical m' e' ∧ magnitude m' e' = roundedUnits (magnitude m e) := by
  obtain ⟨m', e', hshift, hm', hcanonical, hunits⟩ :=
    shiftToTargetExponent_rounded (magnitude_pos hm e).ne'
  refine ⟨m', e', Nat.pos_of_ne_zero hm', ?_, hcanonical, hunits⟩
  unfold roundWithAccuracy
  rw [shiftToTargetExponent_eq hm hmin he]
  simp only
  rw [hshift]
  exact dif_neg hm'

/-- **Rounding.** A number with any mantissa and exponent is rounded as its magnitude is.

**Proof sketch.** The exponent is first lowered to the one at which rounding happens; the magnitude
stays the same, and `roundWithAccuracy_eq` rounds it. -/
lemma round_eq {m : ℕ} {e : ℤ} (s : Sign) (hm : m ≠ 0) (hmin : -1074 ≤ e) :
    ∃ m' e', ∃ hm' : 0 < m', UnpackedFloat.round Format.binary64 s m e = .finite s m' e' hm' ∧
      Canonical m' e' ∧ magnitude m' e' = roundedUnits (magnitude m e) := by
  unfold UnpackedFloat.round decreaseExponent
  rw [targetExponent_eq hm hmin]
  simp only
  generalize hk : excess (magnitude m e) = k
  set j := (e - ((k : ℤ) - 1074)).toNat with hj
  -- lowering the exponent keeps the magnitude
  have hmagnitude : magnitude (m <<< j) (e - j) = magnitude m e := by
    unfold magnitude
    rw [Nat.shiftLeft_eq, mul_assoc, ← pow_add]
    congr 2
    omega
  have hm' : m <<< j ≠ 0 := by
    rw [Nat.shiftLeft_eq]
    positivity
  rw [← hmagnitude]
  exact roundWithAccuracy_eq s hm' (by omega) (by rw [hmagnitude]; omega)

/-! ## The bits of a double -/

lemma exponentBias : Format.binary64.exponentBias = 1023 := rfl

/-- The mantissa of a normal double, with its leading bit. -/
lemma toNat_normal (v : BitVec 52) : (1#1 ++ v).toNat = 2 ^ 52 + v.toNat := by
  have hlt := v.isLt
  rw [BitVec.toNat_append, ← Nat.shiftLeft_add_eq_or_of_lt hlt, Nat.shiftLeft_eq]
  simp

/-- What bits stand for is canonical.

**Proof sketch.** The exponent field is zero for a subnormal number, whose mantissa has at most 52
bits, and between 1 and 2046 for a normal one, whose mantissa gets a leading bit. -/
lemma canonical_unpack {b : BitVec 64} {s : Sign} {m : ℕ} {e : ℤ} {hm : 0 < m}
    (h : UnpackedFloat.unpack Format.binary64 b = .finite s m e hm) :
    Canonical m e ∧ e ≤ 971 := by
  have hmantissa : (@unpackMantissa Format.binary64 b).toNat < 2 ^ 52 := BitVec.isLt _
  have hexponent : (@unpackExponent Format.binary64 b).toNat < 2 ^ 11 := BitVec.isLt _
  unfold UnpackedFloat.unpack at h
  simp only [exponentBias] at h
  split_ifs at h with hmax hinf hmin hzero
  · injection h with _ hm' he'
    rw [hmin] at he'
    simp at he'
    exact ⟨⟨by omega, by omega, .inl (by omega)⟩, by omega⟩
  · injection h with _ hm' he'
    rw [toNat_normal] at hm'
    have hmin' : (@unpackExponent Format.binary64 b).toNat ≠ 0 := fun h =>
      hmin (BitVec.eq_of_toNat_eq h)
    have hmax' : (@unpackExponent Format.binary64 b).toNat ≠ 2047 := fun h =>
      hmax (BitVec.eq_of_toNat_eq h)
    simp at he'
    exact ⟨⟨by omega, by omega, .inr (by omega)⟩, by omega⟩

lemma pack_finite (s : Sign) (m : ℕ) (e : ℤ) (hm : 0 < m) :
    UnpackedFloat.pack Format.binary64 (.finite s m e hm) =
      if 2048 ≤ (e + 1023 + 52).toNat + 1 then packedInfinity Format.binary64 s
      else if m.log2 + 1 = 53 then
        packComponents Format.binary64 s (BitVec.ofNat 11 (e + 1023 + 52).toNat)
          (BitVec.ofNat 52 m)
      else packComponents Format.binary64 s 0#11 (BitVec.ofNat 52 m) := rfl

lemma unpack_normal (s : Sign) {e : BitVec 11} (m : BitVec 52) (hmin : e ≠ 0#11)
    (hmax : e ≠ -1#11) :
    UnpackedFloat.unpack Format.binary64 (packComponents Format.binary64 s e m) =
      .finite s (2 ^ 52 + m.toNat) (e.toNat - 1075) (by positivity) := by
  unfold UnpackedFloat.unpack
  simp only [unpackExponent_packComponents, unpackMantissa_packComponents,
    unpackSign_packComponents, Sign.ofBitVec_toBitVec]
  rw [if_neg hmax, if_neg hmin]
  simp only [toNat_normal]
  rfl

lemma unpack_subnormal (s : Sign) {m : BitVec 52} (hm : m ≠ 0#52) (hpos : 0 < m.toNat) :
    UnpackedFloat.unpack Format.binary64 (packComponents Format.binary64 s 0#11 m) =
      .finite s m.toNat (-1074) hpos := by
  unfold UnpackedFloat.unpack
  simp only [unpackExponent_packComponents, unpackMantissa_packComponents,
    unpackSign_packComponents, Sign.ofBitVec_toBitVec]
  rw [if_neg (by decide), if_pos trivial, dif_neg hm]
  rfl

/-- What is left of a number when it is stored in the 64 bits of a double. -/
def stored (u : UnpackedFloat) : UnpackedFloat :=
  UnpackedFloat.unpack Format.binary64 (UnpackedFloat.pack Format.binary64 u)

@[simp] lemma stored_zero (s : Sign) : stored (.zero s) = .zero s := by
  cases s <;> rfl

@[simp] lemma stored_infinity (s : Sign) : stored (.infinity s) = .infinity s := by
  cases s <;> rfl

@[simp] lemma stored_notANumber : stored .notANumber = .notANumber := rfl

/-- A number with too large an exponent becomes infinite. -/
lemma stored_of_overflow {s : Sign} {m : ℕ} {e : ℤ} {hm : 0 < m} (he : 971 < e) :
    stored (.finite s m e hm) = .infinity s := by
  unfold stored
  rw [pack_finite, if_pos (by omega)]
  cases s <;> rfl

/-- Any other canonical number is a double.

**Proof sketch.** The mantissa of a normal number loses its leading bit, which `unpack` puts back;
that of a subnormal one is below `2 ^ 52` and its exponent is the least one. -/
lemma stored_finite {s : Sign} {m : ℕ} {e : ℤ} {hm : 0 < m} (h : Canonical m e) (he : e ≤ 971) :
    stored (.finite s m e hm) = .finite s m e hm := by
  obtain ⟨hmin, hlt, hnormal⟩ := h
  unfold stored
  rw [pack_finite, if_neg (by omega)]
  by_cases hbits : m.log2 + 1 = 53
  · have hle : 2 ^ 52 ≤ m := (Nat.le_log2 hm.ne').mp (by omega)
    have hexponent : (BitVec.ofNat 11 (e + 1023 + 52).toNat).toNat = (e + 1075).toNat := by
      rw [BitVec.toNat_ofNat]
      omega
    have hmantissa : 2 ^ 52 + (BitVec.ofNat 52 m).toNat = m := by
      rw [BitVec.toNat_ofNat]
      omega
    rw [if_pos hbits, unpack_normal]
    · simp only [hexponent, hmantissa]
      congr 1
      omega
    · intro heq
      rw [heq] at hexponent
      simp at hexponent
      omega
    · intro heq
      rw [heq] at hexponent
      simp at hexponent
      omega
  · have hsmall : m < 2 ^ 52 := by
      have := (Nat.log2_lt hm.ne').mpr hlt
      exact (Nat.log2_lt hm.ne').mp (by omega)
    have hmantissa : (BitVec.ofNat 52 m).toNat = m := by
      rw [BitVec.toNat_ofNat]
      omega
    have he' : e = -1074 := by omega
    have hzero : BitVec.ofNat 52 m ≠ 0#52 := by
      intro heq
      rw [heq] at hmantissa
      simp at hmantissa
      omega
    rw [if_neg hbits, unpack_subnormal s hzero (by omega)]
    simp only [hmantissa, he']

/-- A canonical number is not stored as NaN. -/
lemma stored_finite_ne {s : Sign} {m : ℕ} {e : ℤ} {hm : 0 < m} (h : Canonical m e) :
    stored (.finite s m e hm) ≠ .notANumber := by
  by_cases he : e ≤ 971
  · rw [stored_finite h he]
    exact UnpackedFloat.noConfusion
  · rw [stored_of_overflow (by omega)]
    exact UnpackedFloat.noConfusion

/-! ## Values -/

/-- The least magnitude that no double has. -/
@[irreducible] def overflow : ℕ := magnitude (2 ^ 52) 972

/-- The magnitude that stands for infinity, beyond every sum of two finite doubles. -/
def infinite : ℕ := 2 * overflow

/-- A rounded magnitude, with its infinities. -/
def clamped (n : ℕ) : ℕ := if overflow ≤ n then infinite else n

/-- A number as a multiple of `2 ^ -1074`. -/
def units : UnpackedFloat → ℤ
  | .notANumber => 0
  | .infinity s => s.apply infinite
  | .zero _ => 0
  | .finite s m e _ => s.apply (magnitude m e)

/-- The multiple that an exact result is rounded to. -/
def rounded (z : ℤ) : ℤ := z.sign * clamped (roundedUnits z.natAbs)

lemma overflow_pos : 0 < overflow := by
  unfold overflow
  exact magnitude_pos (by decide) _

/-- The doubles stay below the overflow. -/
lemma magnitude_lt_overflow {m : ℕ} {e : ℤ} (h : Canonical m e) (he : e ≤ 971) :
    magnitude m e < overflow := by
  unfold overflow
  exact magnitude_lt_of_exponent h ⟨by decide, by decide, .inr le_rfl⟩ (by omega)

lemma overflow_le_magnitude {m : ℕ} {e : ℤ} (h : Canonical m e) (he : 971 < e) :
    overflow ≤ magnitude m e := by
  unfold overflow
  calc magnitude (2 ^ 52) 972 ≤ magnitude (2 ^ 52) e := magnitude_le_of_exponent (by omega) _
    _ ≤ magnitude m e := Nat.mul_le_mul_right _ (h.normal.resolve_left (by omega))

/-- The value of a canonical number once it is stored. -/
lemma units_stored {s : Sign} {m : ℕ} {e : ℤ} {hm : 0 < m} (h : Canonical m e) :
    units (stored (.finite s m e hm)) = s.apply (clamped (magnitude m e)) := by
  unfold clamped
  by_cases he : e ≤ 971
  · rw [stored_finite h he, if_neg (magnitude_lt_overflow h he).not_ge]
    rfl
  · rw [stored_of_overflow (by omega), if_pos (overflow_le_magnitude h (by omega))]
    rfl

lemma clamped_mono {n n' : ℕ} (h : n ≤ n') : clamped n ≤ clamped n' := by
  have hinfinite : infinite = 2 * overflow := rfl
  unfold clamped
  split_ifs <;> omega

/-- What is too large is rounded to infinity. -/
lemma clamped_roundedUnits {n : ℕ} (h : overflow ≤ n) : clamped (roundedUnits n) = infinite := by
  have hself : roundedUnits overflow = overflow := by
    unfold overflow
    exact roundedUnits_magnitude (by decide) ⟨by decide, by decide, .inr le_rfl⟩
  have hle : overflow ≤ roundedUnits n := hself ▸ roundedUnits_mono h
  exact if_pos hle

lemma rounded_zero : rounded 0 = 0 := zero_mul _

lemma rounded_neg (z : ℤ) : rounded (-z) = -rounded z := by
  simp [rounded]

lemma rounded_natCast (n : ℕ) : rounded n = clamped (roundedUnits n) := by
  rcases n.eq_zero_or_pos with rfl | hpos
  · have hzero : clamped (roundedUnits 0) = 0 := if_neg overflow_pos.not_ge
    simp [rounded, hzero]
  · simp [rounded, Int.sign_natCast_of_ne_zero hpos.ne']

lemma rounded_apply (s : Sign) (n : ℕ) :
    rounded (s.apply n) = s.apply (clamped (roundedUnits n)) := by
  cases s with
  | positive => exact rounded_natCast n
  | negative => exact (rounded_neg n).trans (congrArg _ (rounded_natCast n))

/-- **Monotone rounding.** A larger exact result is not rounded to a smaller one.

**Proof sketch.** Rounding is odd, so that the magnitudes are compared, where it is monotone;
between the signs lies zero. -/
lemma rounded_mono {z z' : ℤ} (h : z ≤ z') : rounded z ≤ rounded z' := by
  have hmono {n n' : ℕ} (h : n ≤ n') := clamped_mono (roundedUnits_mono h)
  obtain ⟨n, rfl | rfl⟩ := z.eq_nat_or_neg <;> obtain ⟨n', rfl | rfl⟩ := z'.eq_nat_or_neg
  · rw [rounded_natCast, rounded_natCast]
    exact_mod_cast hmono (by omega)
  · obtain rfl : n = 0 := by omega
    obtain rfl : n' = 0 := by omega
    rfl
  · rw [rounded_neg, rounded_natCast, rounded_natCast]
    omega
  · rw [rounded_neg, rounded_neg, rounded_natCast, rounded_natCast]
    have := hmono (show n' ≤ n by omega)
    omega

/-- What is too large in one direction is rounded to the infinity there.

**Proof sketch.** By the sign, a magnitude from the overflow on is rounded and clamped to the
infinite one. -/
lemma rounded_of_overflow {s : Sign} {z : ℤ} (h : overflow ≤ s.apply z) :
    rounded z = s.apply infinite := by
  have hpos := overflow_pos
  cases s with
  | positive =>
    simp only [Sign.apply] at h ⊢
    obtain ⟨n, rfl⟩ := Int.eq_ofNat_of_zero_le (show 0 ≤ z by omega)
    rw [rounded_natCast, clamped_roundedUnits (by omega)]
  | negative =>
    simp only [Sign.apply] at h ⊢
    obtain ⟨n, hn⟩ := Int.eq_ofNat_of_zero_le (show 0 ≤ -z by omega)
    obtain rfl : z = -n := by omega
    rw [rounded_neg, rounded_natCast, clamped_roundedUnits (by omega)]

/-! ## What the bits of a double stand for -/

/-- What `unpack` yields. -/
def IsUnpacked : UnpackedFloat → Prop
  | .finite _ m e _ => Canonical m e ∧ e ≤ 971
  | _ => True

lemma isUnpacked_unpack (x : Float) : IsUnpacked x.toModel.unpack := by
  cases h : x.toModel.unpack with
  | finite s m e hm => exact canonical_unpack h
  | _ => trivial

/-- What a double stands for is stored without loss. -/
lemma stored_of_isUnpacked {a : UnpackedFloat} (h : IsUnpacked a) : stored a = a := by
  cases a with
  | finite s m e hm => exact stored_finite h.1 h.2
  | infinity s => exact stored_infinity s
  | notANumber => rfl
  | zero s => exact stored_zero s

/-- The value of a double is not rounded.

**Proof sketch.** A canonical magnitude is its own rounding and below the overflow; an infinity is
clamped to itself. -/
lemma rounded_units {a : UnpackedFloat} (h : IsUnpacked a) : rounded (units a) = units a := by
  have hpos := overflow_pos
  have hinfinite : infinite = 2 * overflow := rfl
  cases a with
  | finite s m e hm =>
    simp only [units]
    rw [rounded_apply, roundedUnits_magnitude hm.ne' h.1, clamped,
      if_neg (magnitude_lt_overflow h.1 h.2).not_ge]
  | infinity s =>
    refine rounded_of_overflow ?_
    cases s <;> simp only [units, Sign.apply] <;> omega
  | notANumber => exact rounded_zero
  | zero s => exact rounded_zero

/-- Only one infinity reaches the overflow in its direction.

**Proof sketch.** A finite magnitude is below the overflow, and everything in the other direction is
negative. -/
lemma units_lt_overflow {a : UnpackedFloat} (h : IsUnpacked a) {s : Sign}
    (hne : a ≠ .infinity s) : s.apply (units a) < overflow := by
  have hpos := overflow_pos
  have hinfinite : infinite = 2 * overflow := rfl
  cases a with
  | finite s' m e hm =>
    have hlt := magnitude_lt_overflow h.1 h.2
    cases s <;> cases s' <;> simp only [units, Sign.apply] <;> omega
  | infinity s' =>
    cases s <;> cases s' <;> simp only [units, Sign.apply] <;>
      first | exact absurd rfl hne | omega
  | notANumber => cases s <;> simp only [units, Sign.apply] <;> omega
  | zero s' => cases s <;> simp only [units, Sign.apply] <;> omega

/-! ## Sums -/

/-- What does not reach the other overflow does not cancel an infinity. -/
lemma rounded_infinite_add {s : Sign} {z : ℤ} (h : (-s).apply z < overflow) :
    rounded (s.apply infinite + z) = s.apply infinite := by
  have hinfinite : infinite = 2 * overflow := rfl
  have hneg : (-s).apply z = -s.apply z := by
    cases s
    · exact (neg_neg z).symm
    · rfl
  rw [hneg] at h
  refine rounded_of_overflow ?_
  cases s <;> simp only [Sign.apply] at h ⊢ <;> omega

/-- An infinity plus anything but NaN and the other infinity is this infinity. -/
lemma infinity_add {s : Sign} {a : UnpackedFloat} (hnan : a ≠ .notANumber)
    (hne : a ≠ .infinity (-s)) :
    UnpackedFloat.add Format.binary64 (.infinity s) a = .infinity s := by
  cases a with
  | finite s' m e hm => rfl
  | infinity s' => cases s <;> cases s' <;> first | exact absurd rfl hne | rfl
  | notANumber => exact absurd rfl hnan
  | zero s' => rfl

lemma add_infinity {s : Sign} {a : UnpackedFloat} (hnan : a ≠ .notANumber)
    (hne : a ≠ .infinity (-s)) :
    UnpackedFloat.add Format.binary64 a (.infinity s) = .infinity s := by
  cases a with
  | finite s' m e hm => rfl
  | infinity s' => cases s <;> cases s' <;> first | exact absurd rfl hne | rfl
  | notANumber => exact absurd rfl hnan
  | zero s' => rfl

lemma infinity_add_neg (s : Sign) :
    UnpackedFloat.add Format.binary64 (.infinity s) (.infinity (-s)) = .notANumber := by
  cases s <;> rfl

/-- Rounding of a signed mantissa.

**Proof sketch.** By the sign of the mantissa, which is turned into that of the result; the
magnitude is rounded by `round_eq`. -/
lemma units_normalize {m e : ℤ} (he : -1074 ≤ e) (s : Sign) :
    units (stored (UnpackedFloat.normalize Format.binary64 m e s)) =
      rounded (m * 2 ^ (e + 1074).toNat) := by
  have hround (s : Sign) {m : ℕ} (hm : m ≠ 0) :
      units (stored (UnpackedFloat.round Format.binary64 s m e)) =
        rounded (s.apply (magnitude m e)) := by
    obtain ⟨m', e', hm', hround, hcanonical, hunits⟩ := round_eq s hm he
    rw [hround, units_stored hcanonical, hunits, rounded_apply]
  unfold UnpackedFloat.normalize
  rcases lt_trichotomy m 0 with hm | rfl | hm
  · rw [Int.compare_eq_lt.mpr hm]
    simp only
    rw [hround .negative (by omega)]
    congr 1
    simp only [Sign.apply, magnitude]
    push_cast
    rw [Int.toNat_of_nonneg (by omega)]
    ring
  · rw [Int.compare_eq_eq.mpr rfl, zero_mul, rounded_zero]
    simp only [stored_zero]
    rfl
  · rw [Int.compare_eq_gt.mpr hm]
    simp only
    rw [hround .positive (by omega)]
    congr 1
    simp only [Sign.apply, magnitude]
    push_cast
    rw [Int.toNat_of_nonneg (by omega)]

/-- A normalized number is not stored as NaN.

**Proof sketch.** By the sign of the mantissa. What is rounded is finite or an infinity. -/
lemma stored_normalize_ne {m e : ℤ} (he : -1074 ≤ e) (s : Sign) :
    stored (UnpackedFloat.normalize Format.binary64 m e s) ≠ .notANumber := by
  have hround (s : Sign) {m : ℕ} (hm : m ≠ 0) :
      stored (UnpackedFloat.round Format.binary64 s m e) ≠ .notANumber := by
    obtain ⟨m', e', hm', hround, hcanonical, -⟩ := round_eq s hm he
    rw [hround]
    exact stored_finite_ne hcanonical
  unfold UnpackedFloat.normalize
  rcases lt_trichotomy m 0 with hm | rfl | hm
  · rw [Int.compare_eq_lt.mpr hm]
    exact hround .negative (by omega)
  · rw [Int.compare_eq_eq.mpr rfl]
    simp only [stored_zero]
    exact UnpackedFloat.noConfusion
  · rw [Int.compare_eq_gt.mpr hm]
    exact hround .positive (by omega)

/-- Lowering the exponent keeps the value. -/
lemma apply_decreaseExponent (s : Sign) (m : ℕ) {e e' : ℤ} (hmin : -1074 ≤ e') (he : e' ≤ e) :
    s.apply (decreaseExponent m e e').1 * 2 ^ (e' + 1074).toNat = s.apply (magnitude m e) := by
  have hunits : (decreaseExponent m e e').1 * 2 ^ (e' + 1074).toNat = magnitude m e := by
    simp only [decreaseExponent, magnitude]
    rw [Nat.shiftLeft_eq, mul_assoc, ← pow_add]
    congr 2
    omega
  rw [← hunits]
  cases s <;> simp [Sign.apply]

/-- The sum of two numbers with finite mantissas, or zeros.

**Proof sketch.** By the kinds of the two numbers. A zero leaves the other one as it is, and two
finite ones are brought to the smaller exponent, where their mantissas are added and the sum
normalized. -/
lemma units_add_finite {a b : UnpackedFloat} (ha : IsUnpacked a) (hb : IsUnpacked b)
    (hna : a ≠ .notANumber) (hnb : b ≠ .notANumber) (hia : ∀ s, a ≠ .infinity s)
    (hib : ∀ s, b ≠ .infinity s) :
    stored (UnpackedFloat.add Format.binary64 a b) ≠ .notANumber ∧
      units (stored (UnpackedFloat.add Format.binary64 a b)) = rounded (units a + units b) := by
  match a, b with
  | .infinity s, _ => exact absurd rfl (hia s)
  | _, .infinity s => exact absurd rfl (hib s)
  | .notANumber, _ => exact absurd rfl hna
  | _, .notANumber => exact absurd rfl hnb
  | .zero s, .zero s' =>
    rw [show units (.zero s) + units (.zero s') = 0 from rfl, rounded_zero]
    cases s <;> cases s' <;> exact ⟨UnpackedFloat.noConfusion, rfl⟩
  | .zero s, .finite s' m e hm =>
    have hsum : UnpackedFloat.add Format.binary64 (.zero s) (.finite s' m e hm) =
      .finite s' m e hm := rfl
    rw [hsum, stored_of_isUnpacked hb, show units (.zero s) = 0 from rfl, zero_add,
      rounded_units hb]
    exact ⟨hnb, rfl⟩
  | .finite s m e hm, .zero s' =>
    have hsum : UnpackedFloat.add Format.binary64 (.finite s m e hm) (.zero s') =
      .finite s m e hm := rfl
    rw [hsum, stored_of_isUnpacked ha, show units (.zero s') = 0 from rfl, add_zero,
      rounded_units ha]
    exact ⟨hna, rfl⟩
  | .finite s m e hm, .finite s' m' e' hm' =>
    have hmin : -1074 ≤ min e e' := le_min ha.1.minExponent hb.1.minExponent
    unfold UnpackedFloat.add
    simp only
    rw [units_normalize hmin, add_mul, apply_decreaseExponent s m hmin (min_le_left _ _),
      apply_decreaseExponent s' m' hmin (min_le_right _ _)]
    exact ⟨stored_normalize_ne hmin _, rfl⟩

/-- The sum of two numbers that are not opposite infinities.

**Proof sketch.** An infinity swallows the other number: the sum of their values is beyond the
overflow. Without infinities the exact sum is rounded. -/
lemma units_add {a b : UnpackedFloat} (ha : IsUnpacked a) (hb : IsUnpacked b)
    (hna : a ≠ .notANumber) (hnb : b ≠ .notANumber)
    (hopposite : ∀ s, a = .infinity s → b ≠ .infinity (-s)) :
    stored (UnpackedFloat.add Format.binary64 a b) ≠ .notANumber ∧
      units (stored (UnpackedFloat.add Format.binary64 a b)) = rounded (units a + units b) := by
  by_cases hia : ∃ s, a = .infinity s
  · obtain ⟨s, rfl⟩ := hia
    have hlt := units_lt_overflow hb (hopposite s rfl)
    rw [infinity_add hnb (hopposite s rfl), stored_infinity]
    exact ⟨UnpackedFloat.noConfusion, (rounded_infinite_add hlt).symm⟩
  · by_cases hib : ∃ s, b = .infinity s
    · obtain ⟨s, rfl⟩ := hib
      have hne : a ≠ .infinity (-s) := fun heq => hia ⟨_, heq⟩
      have hlt := units_lt_overflow ha hne
      rw [add_infinity hna hne, stored_infinity, add_comm]
      exact ⟨UnpackedFloat.noConfusion, (rounded_infinite_add hlt).symm⟩
    · exact units_add_finite ha hb hna hnb (fun s heq => hia ⟨s, heq⟩)
        (fun s heq => hib ⟨s, heq⟩)

/-! ## Comparisons -/

/-- Canonical magnitudes are compared by exponent and mantissa.

**Proof sketch.** A larger exponent means a larger magnitude, since canonical mantissas fill their
bits; with equal exponents the mantissas decide. -/
lemma compare_magnitude {m m' : ℕ} {e e' : ℤ} (h : Canonical m e) (h' : Canonical m' e') :
    (compare e e').then (compare m m') = compare (magnitude m e : ℤ) (magnitude m' e' : ℤ) := by
  rcases lt_trichotomy e e' with he | rfl | he
  · have hlt := Int.ofNat_lt.mpr (magnitude_lt_of_exponent h h' he)
    rw [compare_lt_iff_lt.mpr he, compare_lt_iff_lt.mpr hlt]
    rfl
  · rw [compare_eq_iff_eq.mpr rfl]
    rcases lt_trichotomy m m' with hm | rfl | hm
    · have hlt := Int.ofNat_lt.mpr (magnitude_strictMono hm e)
      rw [compare_lt_iff_lt.mpr hm, compare_lt_iff_lt.mpr hlt]
      rfl
    · rw [compare_eq_iff_eq.mpr rfl, compare_eq_iff_eq.mpr rfl]
      rfl
    · have hlt := Int.ofNat_lt.mpr (magnitude_strictMono hm e)
      rw [compare_gt_iff_gt.mpr hm, compare_gt_iff_gt.mpr hlt]
      rfl
  · have hlt := Int.ofNat_lt.mpr (magnitude_lt_of_exponent h' h he)
    rw [compare_gt_iff_gt.mpr he, compare_gt_iff_gt.mpr hlt]
    rfl

lemma swap_compare (a b : ℤ) : (compare a b).swap = compare (-a) (-b) := by
  rcases lt_trichotomy a b with h | rfl | h
  · rw [compare_lt_iff_lt.mpr h, compare_gt_iff_gt.mpr (by omega)]
    rfl
  · rw [compare_eq_iff_eq.mpr rfl, compare_eq_iff_eq.mpr rfl]
    rfl
  · rw [compare_gt_iff_gt.mpr h, compare_lt_iff_lt.mpr (by omega)]
    rfl

lemma compare_finite {s s' : Sign} {m m' : ℕ} {e e' : ℤ} {hm : 0 < m} {hm' : 0 < m'}
    (h : Canonical m e) (h' : Canonical m' e') :
    (UnpackedFloat.finite s m e hm).compare (.finite s' m' e' hm') =
      some (compare (s.apply (magnitude m e)) (s'.apply (magnitude m' e'))) := by
  have hpos := magnitude_pos hm.ne' e
  have hpos' := magnitude_pos hm'.ne' e'
  cases s <;> cases s' <;>
    simp only [UnpackedFloat.compare, Sign.apply, compare_magnitude h h', swap_compare]
  · rw [compare_lt_iff_lt.mpr (by omega)]
  · rw [compare_gt_iff_gt.mpr (by omega)]

/-- An infinity compared with another number.

**Proof sketch.** All other numbers are below the overflow in the direction of the infinity. -/
lemma compare_infinity {s : Sign} {a : UnpackedFloat} (h : IsUnpacked a) (hnan : a ≠ .notANumber)
    (hne : a ≠ .infinity s) :
    (UnpackedFloat.infinity s).compare a = some (compare (s.apply infinite) (units a)) ∧
      a.compare (.infinity s) = some (compare (units a) (s.apply infinite)) := by
  have hinfinite : infinite = 2 * overflow := rfl
  have hlt := units_lt_overflow h hne
  cases s with
  | negative =>
    simp only [Sign.apply] at hlt ⊢
    rw [compare_lt_iff_lt.mpr (by omega), compare_gt_iff_gt.mpr (by omega)]
    match a with
    | .notANumber => exact absurd rfl hnan
    | .infinity .negative => exact absurd rfl hne
    | .infinity .positive | .zero _ | .finite .. => exact ⟨rfl, rfl⟩
  | positive =>
    simp only [Sign.apply] at hlt ⊢
    rw [compare_gt_iff_gt.mpr (by omega), compare_lt_iff_lt.mpr (by omega)]
    match a with
    | .notANumber => exact absurd rfl hnan
    | .infinity .positive => exact absurd rfl hne
    | .infinity .negative | .zero _ | .finite .. => exact ⟨rfl, rfl⟩

/-- Numbers are compared by their values.

**Proof sketch.** By the kinds of the two numbers. An infinity is compared with what is below the
overflow, two finite ones by sign, exponent and mantissa, and a finite magnitude is positive. -/
lemma compare_eq {a b : UnpackedFloat} (ha : IsUnpacked a) (hb : IsUnpacked b)
    (hna : a ≠ .notANumber) (hnb : b ≠ .notANumber) :
    a.compare b = some (compare (units a) (units b)) := by
  match a, b with
  | .notANumber, _ => exact absurd rfl hna
  | _, .notANumber => exact absurd rfl hnb
  | .infinity s, b =>
    by_cases heq : b = .infinity s
    · subst heq
      rw [compare_eq_iff_eq.mpr rfl]
      cases s <;> rfl
    · exact (compare_infinity hb hnb heq).1
  | .zero s', .infinity s | .finite s' m e hm, .infinity s =>
    exact (compare_infinity ha hna UnpackedFloat.noConfusion).2
  | .finite s m e hm, .finite s' m' e' hm' => exact compare_finite ha.1 hb.1
  | .zero s, .zero s' => rfl
  | .zero _, .finite s m e hm =>
    have hlt := magnitude_pos hm.ne' e
    cases s <;> simp only [UnpackedFloat.compare, units, Sign.apply]
    · rw [compare_gt_iff_gt.mpr (by omega)]
    · rw [compare_lt_iff_lt.mpr (by omega)]
  | .finite s m e hm, .zero _ =>
    have hlt := magnitude_pos hm.ne' e
    cases s <;> simp only [UnpackedFloat.compare, units, Sign.apply]
    · rw [compare_lt_iff_lt.mpr (by omega)]
    · rw [compare_gt_iff_gt.mpr (by omega)]

/-! ## Doubles -/

/-- The doubles that are no NaN. -/
def IsNumber (x : Float) : Prop := x.toModel.unpack ≠ .notANumber

/-- The value of a double as a multiple of `2 ^ -1074`. -/
def value (x : Float) : ℤ := units x.toModel.unpack

lemma toModel_add (x y : Float) : (x + y).toModel.unpack =
    stored (UnpackedFloat.add Format.binary64 x.toModel.unpack y.toModel.unpack) := rfl

/-- **Sums of doubles.** Unless they are opposite infinities, the sum of two numbers is their exact
sum, rounded. -/
theorem value_add {x y : Float} (hx : IsNumber x) (hy : IsNumber y)
    (hopposite : ∀ s, x.toModel.unpack = .infinity s → y.toModel.unpack ≠ .infinity (-s)) :
    IsNumber (x + y) ∧ value (x + y) = rounded (value x + value y) := by
  unfold IsNumber value
  rw [toModel_add]
  exact units_add (isUnpacked_unpack x) (isUnpacked_unpack y) hx hy hopposite

/-- Only numbers that are not opposite infinities have a sum. -/
lemma of_isNumber_add {x y : Float} (h : IsNumber (x + y)) : IsNumber x ∧ IsNumber y ∧
    ∀ s, x.toModel.unpack = .infinity s → y.toModel.unpack ≠ .infinity (-s) := by
  unfold IsNumber at h ⊢
  rw [toModel_add] at h
  refine ⟨fun hx => h ?_, fun hy => h ?_, fun s hx hy => h ?_⟩
  · rw [hx]
    exact stored_notANumber
  · rw [hy]
    cases x.toModel.unpack <;> exact stored_notANumber
  · rw [hx, hy, infinity_add_neg]
    exact stored_notANumber

lemma value_le_infinite (x : Float) (s : Sign) : s.apply (value x) ≤ infinite := by
  have hinfinite : infinite = 2 * overflow := rfl
  by_cases h : x.toModel.unpack = .infinity s
  · unfold value
    rw [h]
    cases s <;> simp [units, Sign.apply]
  · have hlt := units_lt_overflow (isUnpacked_unpack x) h
    unfold value
    omega

lemma lt_iff_compare {x y : Float} :
    x < y ↔ x.toModel.unpack.compare y.toModel.unpack = some .lt := by
  have hfloat : x < y ↔ decide (x.toModel < y.toModel) = true := Iff.rfl
  have hmodel : x.toModel < y.toModel ↔
      (x.toModel.unpack.compare y.toModel.unpack == some .lt) = true := Iff.rfl
  rw [hfloat, decide_eq_true_iff, hmodel, beq_iff_eq]

lemma le_iff_compare {x y : Float} :
    x ≤ y ↔ ∃ o, x.toModel.unpack.compare y.toModel.unpack = some o ∧ o.isLE = true := by
  have hfloat : x ≤ y ↔ decide (x.toModel ≤ y.toModel) = true := Iff.rfl
  have hmodel : x.toModel ≤ y.toModel ↔
      (x.toModel.unpack.compare y.toModel.unpack).any (·.isLE) = true := Iff.rfl
  rw [hfloat, decide_eq_true_iff, hmodel, Option.any_eq_true]

/-- A NaN is not compared with anything. -/
lemma compare_ne_none {a b : UnpackedFloat} {o : Ordering} (h : a.compare b = some o) :
    a ≠ .notANumber ∧ b ≠ .notANumber := by
  constructor
  · rintro rfl
    cases h
  · rintro rfl
    cases a <;> cases h

/-- **The order of doubles**, strictly. -/
theorem lt_iff {x y : Float} : x < y ↔ IsNumber x ∧ IsNumber y ∧ value x < value y := by
  rw [lt_iff_compare]
  constructor
  · intro h
    obtain ⟨hx, hy⟩ := compare_ne_none h
    rw [compare_eq (isUnpacked_unpack x) (isUnpacked_unpack y) hx hy] at h
    exact ⟨hx, hy, compare_lt_iff_lt.mp (Option.some.inj h)⟩
  · rintro ⟨hx, hy, hlt⟩
    rw [compare_eq (isUnpacked_unpack x) (isUnpacked_unpack y) hx hy]
    exact congrArg some (compare_lt_iff_lt.mpr hlt)

/-- **The order of doubles.** -/
theorem le_iff {x y : Float} : x ≤ y ↔ IsNumber x ∧ IsNumber y ∧ value x ≤ value y := by
  rw [le_iff_compare]
  constructor
  · rintro ⟨o, h, hle⟩
    obtain ⟨hx, hy⟩ := compare_ne_none h
    rw [compare_eq (isUnpacked_unpack x) (isUnpacked_unpack y) hx hy] at h
    obtain rfl := Option.some.inj h
    exact ⟨hx, hy, compare_le_iff_le.mp (Ordering.isLE_iff_ne_gt.mp hle)⟩
  · rintro ⟨hx, hy, hle⟩
    exact ⟨_, compare_eq (isUnpacked_unpack x) (isUnpacked_unpack y) hx hy,
      Ordering.isLE_iff_ne_gt.mpr (compare_le_iff_le.mpr hle)⟩

/-- A sum with an infinity that is a number is this infinity. -/
lemma value_add_infinity {x y : Float} (h : IsNumber (x + y)) {s : Sign}
    (hy : y.toModel.unpack = .infinity s) : value (x + y) = s.apply infinite := by
  obtain ⟨hx, -, hopposite⟩ := of_isNumber_add h
  have hne : x.toModel.unpack ≠ .infinity (-s) := by
    intro heq
    refine hopposite _ heq ?_
    rw [hy]
    cases s <;> rfl
  unfold value
  rw [toModel_add, hy, add_infinity hx hne, stored_infinity]
  rfl

/-- **Sums are monotone.** What exceeds a limit on top of a total also exceeds it on top of a
larger total.

**Proof sketch.** Both sums are the rounded exact sums, and rounding is monotone. Only the second
one might be no number, as a sum of opposite infinities. If the amount is the negative one, the
first sum is the negative infinity and exceeds nothing. If the total is the negative one, the first
total is so as well, and the first sum is no number either. -/
theorem lt_add_of_le {x y amount limit : Float} (hle : x ≤ y) (h : limit < x + amount) :
    limit < y + amount := by
  obtain ⟨hx, hy, hvalue⟩ := le_iff.mp hle
  obtain ⟨hlimit, hsum, hlt⟩ := lt_iff.mp h
  obtain ⟨-, hamount, hopposite⟩ := of_isNumber_add hsum
  have hopposite' (s : Sign) (hs : y.toModel.unpack = .infinity s) :
      amount.toModel.unpack ≠ .infinity (-s) := by
    intro heq
    cases s with
    | positive =>
      have hlow := value_le_infinite limit .negative
      rw [value_add_infinity hsum heq] at hlt
      exact absurd hlt (neg_le.mp hlow).not_gt
    | negative =>
      refine hopposite .negative ?_ heq
      by_contra hne
      have hbound := units_lt_overflow (isUnpacked_unpack x) hne
      have hinfinite : infinite = 2 * overflow := rfl
      have hy' : value y = -infinite := by
        unfold value
        rw [hs]
        rfl
      have hx' : -value x < overflow := hbound
      omega
  obtain ⟨hsum', hvalue'⟩ := value_add hy hamount hopposite'
  refine lt_iff.mpr ⟨hlimit, hsum', hlt.trans_le ?_⟩
  rw [hvalue', (value_add hx hamount hopposite).2]
  exact rounded_mono (by omega)

/-- **Sums only grow.** What exceeds a limit on top of a total also exceeds it once something that
is not negative was added to the total.

**Proof sketch.** If the total is the negative infinity, the first sum is it too and exceeds no
limit. Otherwise the total with the amount is a number that is not smaller, since rounding is
monotone and the total is its own rounding; so `lt_add_of_le` applies. -/
theorem lt_add_add_of_nonneg {x more amount limit : Float} (hmore : 0 ≤ more)
    (h : limit < x + amount) : limit < x + more + amount := by
  obtain ⟨-, hnumber, hnonneg⟩ := le_iff.mp hmore
  obtain ⟨hlimit, hsum, hlt⟩ := lt_iff.mp h
  obtain ⟨hx, hamount, hopposite⟩ := of_isNumber_add hsum
  have hzero : value 0 = 0 := rfl
  rw [hzero] at hnonneg
  have hopposite' (s : Sign) (hs : x.toModel.unpack = .infinity s) :
      more.toModel.unpack ≠ .infinity (-s) := by
    intro heq
    cases s with
    | positive =>
      have hpos := overflow_pos
      have hinfinite : infinite = 2 * overflow := rfl
      have hneg : value more = -infinite := by
        unfold value
        rw [heq]
        rfl
      omega
    | negative =>
      -- the first sum is the negative infinity
      have hlow := value_le_infinite limit .negative
      have hsum' : value (x + amount) = Sign.negative.apply infinite := by
        unfold value
        rw [toModel_add, hs, infinity_add hamount (hopposite _ hs), stored_infinity]
        rfl
      rw [hsum'] at hlt
      exact absurd hlt (neg_le.mp hlow).not_gt
  obtain ⟨hnumber', hvalue⟩ := value_add hx hnumber hopposite'
  have hle : value x ≤ value (x + more) := by
    rw [hvalue]
    calc value x = rounded (value x) := (rounded_units (isUnpacked_unpack x)).symm
      _ ≤ rounded (value x + value more) := rounded_mono (by omega)
  exact lt_add_of_le (le_iff.mpr ⟨hx, hnumber', hle⟩) h

/-! ## NaN -/

/-- A sum with NaN exceeds nothing. -/
lemma not_lt_add_nan (limit x : Float) : ¬limit < x + Float.nan := fun h =>
  (of_isNumber_add (lt_iff.mp h).2.1).2.1 rfl

/-! ## Products with one -/

/-- A canonical mantissa that was multiplied by `2 ^ 52` is shifted back.

**Proof sketch.** The product has the total exponent of the mantissa, so it is shifted by the 52
bits, all of which are zero. -/
lemma roundWithAccuracy_self {m : ℕ} {e : ℤ} (s : Sign) (hm : 0 < m) (h : Canonical m e) :
    roundWithAccuracy Format.binary64 s (m * 2 ^ 52) (e + -52) .exact = .finite s m e hm := by
  have htotal : totalExponent (m * 2 ^ 52) (e + -52) = totalExponent m e := by
    unfold totalExponent
    rw [log2_mul_two_pow hm.ne']
    omega
  have hshift : shiftToTargetExponent Format.binary64 (m * 2 ^ 52) (e + -52) .exact =
      (exactly m, e) := by
    unfold shiftToTargetExponent shiftToExponent
    rw [htotal, targetExponent_eq hm.ne' h.minExponent, excess_of_canonical hm.ne' h]
    simp only
    rw [show (e + 1074 - 1074 - (e + -52)).toNat = 52 by omega, exactly_shift]
    ext1
    · rfl
    · simp only
      omega
  unfold roundWithAccuracy
  rw [hshift]
  simp only
  rw [show (exactly m).roundedMantissa = m from rfl, shiftToTargetExponent_self hm.ne' h]
  exact dif_neg hm.ne'

/-- A double times one stands for the same number.

**Proof sketch.** One has the mantissa `2 ^ 52`, so a finite product is shifted back to the mantissa
of the double. -/
lemma toModel_mul_one (x : Float) : (x * (1 : ℕ)).toModel.unpack = x.toModel.unpack := by
  have hone : ((1 : ℕ) : Float).toModel.unpack = .finite .positive (2 ^ 52) (-52) (by decide) := rfl
  have hmul : (x * (1 : ℕ)).toModel.unpack = stored (UnpackedFloat.mul Format.binary64
      x.toModel.unpack ((1 : ℕ) : Float).toModel.unpack) := rfl
  have hsign (s : Sign) : s * .positive = s := by
    cases s <;> rfl
  have hx := isUnpacked_unpack x
  rw [hmul, hone]
  cases h : x.toModel.unpack with
  | notANumber => exact stored_notANumber
  | infinity s => simp only [UnpackedFloat.mul, hsign, stored_infinity]
  | zero s => simp only [UnpackedFloat.mul, hsign, stored_zero]
  | finite s m e hm =>
    rw [h] at hx
    simp only [UnpackedFloat.mul, hsign]
    rw [roundWithAccuracy_self s hm hx.1]
    exact stored_of_isUnpacked hx

/-- A sum depends on what the double stands for, so a factor of one does not show. -/
lemma add_mul_one (x y : Float) : x + y * (1 : ℕ) = x + y := by
  have hadd (z : Float) : x + z = .ofModel (.pack (UnpackedFloat.add Format.binary64
      x.toModel.unpack z.toModel.unpack)) := rfl
  rw [hadd, hadd, toModel_mul_one]

end Double
