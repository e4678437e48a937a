import GlslCompliance.Proofs.Text.FloatOrder

/-!
# Signs of floating point numbers

A number whose key is not negative has no minus sign. Such numbers are closed under addition,
multiplication and division, and the natural numbers are among them, which is all that a similarity
of names is made of but for the last step. In that step something of unknown sign is added to such a
number. The sum is still no negative zero (`not_isNegativeZero_add`): where the exact sum is zero it
is the other zero, and where it is not it is not rounded to zero, since sums have no digits below
those of the least number there is.

So no similarity is the negative zero (`not_isNegativeZero_jaroWinkler`).
-/

namespace GlslCompliance

open Float.Model Float.Model.UnpackedFloat

/-! ### Unpacked numbers without a minus sign -/

/-- An unpacked number has no minus sign; what is not a number never has one. -/
inductive Unsigned : UnpackedFloat → Prop
  | notANumber : Unsigned .notANumber
  | infinity : Unsigned (.infinity .positive)
  | zero : Unsigned (.zero .positive)
  | finite (m : Nat) (e : Int) (hpos : 0 < m) : Unsigned (.finite .positive m e hpos)

variable {u v : UnpackedFloat}

theorem unsigned_of_mantissa (m : Nat) (e : Int) :
    Unsigned (if h : m = 0 then .zero .positive
      else .finite .positive m e (Nat.pos_of_ne_zero h)) := by
  by_cases h : m = 0
  · rw [dif_pos h]
    exact .zero
  · rw [dif_neg h]
    exact .finite _ _ _

/-- Rounding keeps the sign. -/
theorem unsigned_roundWithAccuracy (spec : Format) (m : Nat) (e : Int) (accuracy : Accuracy) :
    Unsigned (roundWithAccuracy spec .positive m e accuracy) :=
  unsigned_of_mantissa _ _

/-- A mantissa that is not negative is rounded to a number without a minus sign. -/
theorem unsigned_normalize (spec : Format) {m : Int} (hm : 0 ≤ m) (e : Int) :
    Unsigned (UnpackedFloat.normalize spec m e .positive) := by
  unfold UnpackedFloat.normalize
  split
  · next h => exact absurd (Int.compare_eq_lt.mp h) (Int.not_lt.mpr hm)
  · exact .zero
  · exact unsigned_roundWithAccuracy spec _ _ _

/-- A sum of numbers without a minus sign has none. -/
theorem unsigned_add (spec : Format) (hu : Unsigned u) (hv : Unsigned v) :
    Unsigned (UnpackedFloat.add spec u v) := by
  cases hu with
  | notANumber => exact .notANumber
  | infinity => cases hv <;> first | exact .infinity | exact .notANumber
  | zero => cases hv <;> constructor
  | finite m e hm =>
    cases hv with
    | finite k f hk =>
      exact unsigned_normalize spec (Int.add_nonneg (Int.natCast_nonneg _) (Int.natCast_nonneg _)) _
    | _ => constructor

theorem unsigned_mul (spec : Format) (hu : Unsigned u) (hv : Unsigned v) :
    Unsigned (UnpackedFloat.mul spec u v) := by
  cases hu with
  | finite m e hm =>
    cases hv with
    | finite k f hk => exact unsigned_roundWithAccuracy spec _ _ _
    | _ => constructor
  | _ => cases hv <;> constructor

theorem unsigned_div (spec : Format) (hu : Unsigned u) (hv : Unsigned v) :
    Unsigned (UnpackedFloat.div spec u v) := by
  cases hu with
  | finite m e hm =>
    cases hv with
    | finite k f hk => exact unsigned_roundWithAccuracy spec _ _ _
    | _ => constructor
  | _ => cases hv <;> constructor

/-- A natural number times a power of ten has no minus sign. -/
theorem unsigned_ofScientific (spec : Format) (m : Nat) (e : Int) :
    Unsigned (UnpackedFloat.ofScientific spec m e) := by
  unfold UnpackedFloat.ofScientific
  by_cases hm : m = 0
  · rw [dif_pos hm]
    exact .zero
  rw [dif_neg hm]
  by_cases hlarge : e > 2 ^ spec.exponentBits
  · rw [if_pos hlarge]
    exact .infinity
  rw [if_neg hlarge]
  by_cases hsmall : e < -(2 ^ spec.exponentBits + (m.log2 : Int))
  · rw [if_pos hsmall]
    exact .zero
  rw [if_neg hsmall]
  by_cases he : 0 ≤ e
  · rw [if_pos he]
    exact unsigned_mul spec (.finite _ _ _) (.finite _ _ _)
  · rw [if_neg he]
    exact unsigned_div spec (.finite _ _ _) (.finite _ _ _)

/-! ### Packed numbers without a minus sign -/

/-- Packed are the sign, the exponent and the mantissa, one behind the other. -/
theorem toNat_packComponents (s : Sign) (e : BitVec 11) (m : BitVec 52) :
    (packComponents .binary64 s e m).toNat =
      (s.toBitVec.toNat * 2 ^ 11 + e.toNat) * 2 ^ 52 + m.toNat := by
  have happend : packComponents .binary64 s e m = s.toBitVec ++ e ++ m := rfl
  rw [happend, toNat_append_eq, toNat_append_eq]

/-- Packing leaves the sign bit out where there is no minus sign. -/
theorem toNat_pack_lt (hu : Unsigned u) : (UnpackedFloat.pack .binary64 u).toNat < 2 ^ 63 := by
  have hcomponents : ∀ (e : BitVec 11) (m : BitVec 52),
      (packComponents .binary64 .positive e m).toNat < 2 ^ 63 := by
    intro e m
    have he : e.toNat < 2 ^ 11 := e.isLt
    have hm : m.toNat < 2 ^ 52 := m.isLt
    have hsign : Sign.positive.toBitVec.toNat = 0 := rfl
    rw [toNat_packComponents, hsign]
    omega
  cases hu with
  | finite m e hm =>
    unfold UnpackedFloat.pack
    dsimp only
    repeat' split
    all_goals exact hcomponents _ _
  | _ => exact hcomponents _ _

/-- What has no sign bit is unpacked without a minus sign. -/
theorem unsigned_unpack_of_lt {b : BitVec Format.binary64.numBits} (h : b.toNat < 2 ^ 63) :
    Unsigned (UnpackedFloat.unpack .binary64 b) := by
  have hsign : Sign.ofBitVec (unpackSign b) = .positive := by
    have hparts := toNat_eq_unpack b
    have hzero : (0#1).toNat = 0 := rfl
    refine if_pos (BitVec.eq_of_toNat_eq ?_)
    rw [hzero]
    omega
  unfold UnpackedFloat.unpack
  dsimp only
  rw [hsign]
  by_cases hinf : unpackExponent b = -1#11
  · rw [if_pos hinf]
    split
    · exact .infinity
    · exact .notANumber
  rw [if_neg hinf]
  by_cases hleast : unpackExponent b = 0#11
  · rw [if_pos hleast]
    by_cases hzero : unpackMantissa b = 0#52
    · rw [dif_pos hzero]
      exact .zero
    · rw [dif_neg hzero]
      exact .finite _ _ _
  · rw [if_neg hleast]
    exact .finite _ _ _

/-! ### Arithmetic without a minus sign -/

section Arithmetic

variable {x y : Float}

/-- A key is not negative where the sign bit is not set. -/
theorem orderKey_nonneg_iff : 0 ≤ orderKey x ↔ x.toBits.toNat < 2 ^ 63 := by
  unfold orderKey
  rw [Nat.pow_eq]
  dsimp only
  split <;> omega

theorem orderKey_pack_nonneg (hu : Unsigned u) : 0 ≤ orderKey (.ofModel (.pack u)) :=
  orderKey_nonneg_iff.mpr (toNat_pack_lt hu)

theorem unsigned_unpack (hx : 0 ≤ orderKey x) : Unsigned x.toModel.unpack :=
  unsigned_unpack_of_lt (orderKey_nonneg_iff.mp hx)

theorem orderKey_add_nonneg (hx : 0 ≤ orderKey x) (hy : 0 ≤ orderKey y) : 0 ≤ orderKey (x + y) :=
  orderKey_pack_nonneg (unsigned_add .binary64 (unsigned_unpack hx) (unsigned_unpack hy))

theorem orderKey_mul_nonneg (hx : 0 ≤ orderKey x) (hy : 0 ≤ orderKey y) : 0 ≤ orderKey (x * y) :=
  orderKey_pack_nonneg (unsigned_mul .binary64 (unsigned_unpack hx) (unsigned_unpack hy))

theorem orderKey_div_nonneg (hx : 0 ≤ orderKey x) (hy : 0 ≤ orderKey y) : 0 ≤ orderKey (x / y) :=
  orderKey_pack_nonneg (unsigned_div .binary64 (unsigned_unpack hx) (unsigned_unpack hy))

/-- Natural numbers have no minus sign. -/
theorem orderKey_ofNat_nonneg (n : Nat) : 0 ≤ orderKey (.ofNat n) := by
  unfold Float.ofNat
  change 0 ≤ orderKey (Float.ofScientific n false 0)
  unfold Float.ofScientific
  split
  · -- A number of at most 53 bits is converted as it is, and multiplied by one.
    have hn : 0 ≤ orderKey n.toUInt64.toFloat :=
      orderKey_pack_nonneg (unsigned_normalize .binary64 (Int.natCast_nonneg _) 0)
    have hone : 0 ≤ orderKey Float.exactlyRepresentablePowersOfTen[0] := by decide +kernel
    exact orderKey_mul_nonneg hn hone
  · exact orderKey_pack_nonneg (unsigned_ofScientific .binary64 n _)

end Arithmetic

/-! ### Rounding -/

/-- Finite numbers that packing keeps: at most 53 bits in the mantissa, and no exponent below the
least. -/
inductive Fits : UnpackedFloat → Prop
  | notANumber : Fits .notANumber
  | infinity (s : Sign) : Fits (.infinity s)
  | zero (s : Sign) : Fits (.zero s)
  | finite (s : Sign) {m : Nat} {e : Int} (hpos : 0 < m) (hm : m < 2 ^ 53) (he : -1074 ≤ e) :
      Fits (.finite s m e hpos)

theorem mantissa_shiftRight (k : Nat) (em : ExtendedMantissa) :
    (em >>> k).mantissa = em.mantissa / 2 ^ k := by
  induction k with
  | zero => exact (Nat.div_one _).symm
  | succ k ih =>
    have hstep : (em >>> (k + 1)).mantissa = (em >>> k).mantissa / 2 := rfl
    rw [hstep, ih, Nat.div_div_eq_div_mul, Nat.pow_succ]

theorem mantissa_ofMantissaAndAccuracy (m : Nat) (accuracy : Accuracy) :
    (ExtendedMantissa.ofMantissaAndAccuracy m accuracy).mantissa = m := by
  match accuracy with
  | .exact | .inexact .lt | .inexact .eq | .inexact .gt => rfl

/-- Rounding never takes anything off the mantissa. -/
theorem le_roundedMantissa (em : ExtendedMantissa) : em.mantissa ≤ em.roundedMantissa := by
  unfold ExtendedMantissa.roundedMantissa Accuracy.roundToNearestEven
  split
  · exact Nat.le_refl _
  · exact Nat.le_refl _
  · exact Nat.le_add_right _ _
  · exact Nat.le_add_right _ _

/-- How far a mantissa is shifted to the right before it is rounded. -/
def shiftAmount (m : Nat) (e : Int) : Nat :=
  (Format.binary64.targetExponent (totalExponent m e) - e).toNat

/-- A mantissa keeps at least one bit, unless the exponent is below the least, and at most 53. -/
theorem div_shiftAmount_bounds {m : Nat} (hm : 0 < m) {e : Int} (he : -1074 ≤ e) :
    0 < m / 2 ^ shiftAmount m e ∧ m / 2 ^ shiftAmount m e < 2 ^ 53 := by
  have htarget : ∀ t, Format.binary64.targetExponent t = max (t - 53) (-1074) := fun _ => rfl
  have hamount : shiftAmount m e = m.log2 - 52 := by
    rw [shiftAmount, htarget, totalExponent]
    omega
  have hlow : 2 ^ m.log2 ≤ m := Nat.log2_self_le (Nat.ne_of_gt hm)
  have hhigh : m < 2 ^ (m.log2 + 1) := Nat.lt_log2_self
  rw [hamount]
  refine ⟨Nat.div_pos (Nat.le_trans ?_ hlow) (Nat.two_pow_pos _), ?_⟩
  · exact Nat.pow_le_pow_right (by decide) (Nat.sub_le _ _)
  · rw [Nat.div_lt_iff_lt_mul (Nat.two_pow_pos _), ← Nat.pow_add]
    exact Nat.lt_of_lt_of_le hhigh (Nat.pow_le_pow_right (by decide) (by omega))

/-- A mantissa that is not zero is not rounded to zero. -/
theorem exists_roundWithAccuracy_eq (s : Sign) {m : Nat} (hm : 0 < m) {e : Int} (he : -1074 ≤ e)
    (accuracy : Accuracy) :
    ∃ m' e' hpos, roundWithAccuracy .binary64 s m e accuracy = .finite s m' e' hpos ∧
      Fits (.finite s m' e' hpos) := by
  let first := ExtendedMantissa.ofMantissaAndAccuracy m accuracy >>> shiftAmount m e
  let rounded := first.roundedMantissa
  let e' := e + shiftAmount m e
  let second := ExtendedMantissa.ofMantissaAndAccuracy rounded .exact >>> shiftAmount rounded e'
  have he' : -1074 ≤ e' := by omega
  have hrounded : 0 < rounded := by
    have hfirst : first.mantissa = m / 2 ^ shiftAmount m e := by
      rw [mantissa_shiftRight, mantissa_ofMantissaAndAccuracy]
    have hle : first.mantissa ≤ rounded := le_roundedMantissa first
    rw [hfirst] at hle
    exact Nat.lt_of_lt_of_le (div_shiftAmount_bounds hm he).1 hle
  -- Rounding up may carry into one more bit, so there is a second shift.
  have hsecond : second.mantissa = rounded / 2 ^ shiftAmount rounded e' := by
    rw [mantissa_shiftRight, mantissa_ofMantissaAndAccuracy]
  obtain ⟨hpos, hlt⟩ := div_shiftAmount_bounds hrounded he'
  rw [← hsecond] at hpos hlt
  exact ⟨second.mantissa, e' + shiftAmount rounded e', hpos, dif_neg (Nat.ne_of_gt hpos),
    .finite s hpos hlt (by omega)⟩

/-- What is not zero is rounded to something that fits and is no zero. -/
theorem fits_round_and_ne (s : Sign) {m : Nat} (hm : 0 < m) {e : Int} (he : -1074 ≤ e) :
    Fits (UnpackedFloat.round .binary64 s m e) ∧
      UnpackedFloat.round .binary64 s m e ≠ .zero .negative := by
  let target := Format.binary64.targetExponent (totalExponent m e)
  have hshifted : 0 < m <<< (e - target).toNat := by
    rw [Nat.shiftLeft_eq]
    exact Nat.mul_pos hm (Nat.two_pow_pos _)
  have hexponent : -1074 ≤ e - (e - target).toNat := by
    have hleast : -1074 ≤ target := Int.le_max_right _ _
    omega
  obtain ⟨m', e', hpos, heq, hfits⟩ :=
    exists_roundWithAccuracy_eq s hshifted hexponent .exact
  have hround : UnpackedFloat.round .binary64 s m e = .finite s m' e' hpos := heq
  rw [hround]
  exact ⟨hfits, nofun⟩

/-- Nothing but an exact zero is rounded to a zero, and that one has no minus sign. -/
theorem fits_normalize_and_ne {m e : Int} (he : -1074 ≤ e) :
    Fits (UnpackedFloat.normalize .binary64 m e .positive) ∧
      UnpackedFloat.normalize .binary64 m e .positive ≠ .zero .negative := by
  unfold UnpackedFloat.normalize
  split
  · next h =>
    have hm : m < 0 := Int.compare_eq_lt.mp h
    exact fits_round_and_ne .negative (by omega) he
  · exact ⟨.zero _, nofun⟩
  · next h =>
    have hm : 0 < m := Int.compare_eq_gt.mp h
    exact fits_round_and_ne .positive (by omega) he

/-! ### Sums -/

/-- What fits is packed as the negative zero only if it is that. -/
theorem toNat_pack_ne (hu : Fits u) (hne : u ≠ .zero .negative) :
    (UnpackedFloat.pack .binary64 u).toNat ≠ 2 ^ 63 := by
  cases hu with
  | notANumber => decide
  | infinity s => cases s <;> decide
  | zero s =>
    cases s with
    | negative => exact absurd rfl hne
    | positive => decide
  | @finite s m e hpos hm he =>
    have hs : s.toBitVec.toNat < 2 ^ 1 := s.toBitVec.isLt
    have hmantissa : (BitVec.ofNat 52 m).toNat = m % 2 ^ 52 := rfl
    have hbias : (Format.binary64.exponentBias : Int) = 1023 := rfl
    unfold UnpackedFloat.pack
    dsimp only
    rw [hbias]
    split
    · cases s <;> decide
    · next hexponent =>
      split
      · rw [toNat_packComponents, BitVec.toNat_ofNat, hmantissa]
        omega
      · next hbits =>
        -- The mantissa has less than 53 bits, all of which are stored.
        have hbits' : m.log2 + 1 ≠ 53 := hbits
        have hlog : m.log2 < 53 := (Nat.log2_lt (Nat.ne_of_gt hpos)).mpr hm
        have hstored : m < 2 ^ 52 := (Nat.log2_lt (Nat.ne_of_gt hpos)).mp (by omega)
        have hzero : (0#11).toNat = 0 := rfl
        rw [toNat_packComponents, hmantissa, Nat.mod_eq_of_lt hstored, hzero]
        omega

theorem HasRank.fits {i : Int} (h : HasRank u i) : Fits u := by
  cases h with
  | infinity s => exact .infinity s
  | zero s => exact .zero s
  | finite s hpos hm he hnormal => exact .finite s hpos hm he.1

/-- What comes of a packed number fits. -/
theorem fits_unpack (x : Float) : Fits x.toModel.unpack := by
  cases hx : x.isNaN with
  | false => exact (hasRank_rank hx).fits
  | true =>
    unfold Float.isNaN Float.Model.isNaN at hx
    cases hu : x.toModel.unpack with
    | notANumber => exact .notANumber
    | _ =>
      rw [hu] at hx
      exact nomatch hx

/-- What is added to a number without a minus sign never makes it the negative zero. -/
theorem fits_add_and_ne (hu : Unsigned u) (hu' : Fits u) (hv : Fits v) :
    Fits (UnpackedFloat.add .binary64 u v) ∧
      UnpackedFloat.add .binary64 u v ≠ .zero .negative := by
  cases hu with
  | notANumber => exact ⟨.notANumber, nofun⟩
  | infinity =>
    cases hv with
    | infinity t => cases t <;> exact ⟨by constructor, nofun⟩
    | _ => exact ⟨by constructor, nofun⟩
  | zero =>
    cases hv with
    | zero t => cases t <;> exact ⟨.zero _, nofun⟩
    | infinity t => exact ⟨.infinity t, nofun⟩
    | notANumber => exact ⟨.notANumber, nofun⟩
    | finite t hk hk' hf => exact ⟨.finite t hk hk' hf, nofun⟩
  | finite m e hm =>
    cases hv with
    | zero t => exact ⟨hu', nofun⟩
    | infinity t => exact ⟨.infinity t, nofun⟩
    | notANumber => exact ⟨.notANumber, nofun⟩
    | finite t hk hk' hf =>
      cases hu' with
      | finite s hm hm' he => exact fits_normalize_and_ne (Int.le_min.mpr ⟨he, hf⟩)

variable {x : Float}

theorem not_isNegativeZero_of_nonneg (hx : 0 ≤ orderKey x) : ¬ IsNegativeZero x := by
  rw [isNegativeZero_iff]
  omega

/-- **A sum is no negative zero** as soon as one of its parts has no minus sign. -/
theorem not_isNegativeZero_add (hx : 0 ≤ orderKey x) (y : Float) : ¬ IsNegativeZero (x + y) := by
  obtain ⟨hfits, hne⟩ := fits_add_and_ne (unsigned_unpack hx) (fits_unpack x) (fits_unpack y)
  exact fun h => toNat_pack_ne hfits hne (congrArg UInt64.toNat h)

/-! ### Similarities -/

namespace Text

/-- The Jaro similarity has no minus sign. -/
theorem orderKey_jaro_nonneg (cs ds : List Char) : 0 ≤ orderKey (jaro cs ds) := by
  have hone : 0 ≤ orderKey 1.0 := by decide +kernel
  have hzero : 0 ≤ orderKey 0.0 := by decide +kernel
  have hthree : 0 ≤ orderKey 3.0 := by decide +kernel
  have hratio : ∀ m n, 0 ≤ orderKey (Float.ofNat m / Float.ofNat n) := fun m n =>
    orderKey_div_nonneg (orderKey_ofNat_nonneg m) (orderKey_ofNat_nonneg n)
  unfold jaro
  dsimp only
  split
  · exact hone
  · split
    · exact hzero
    · exact orderKey_div_nonneg
        (orderKey_add_nonneg (orderKey_add_nonneg (hratio _ _) (hratio _ _)) (hratio _ _)) hthree

/-- **No similarity is the negative zero.** -/
theorem not_isNegativeZero_jaroWinkler (cs ds : List Char) :
    ¬ IsNegativeZero (jaroWinkler cs ds) := by
  unfold jaroWinkler
  dsimp only
  split
  · exact not_isNegativeZero_add (orderKey_jaro_nonneg cs ds) _
  · exact not_isNegativeZero_of_nonneg (orderKey_jaro_nonneg cs ds)

end Text

end GlslCompliance
