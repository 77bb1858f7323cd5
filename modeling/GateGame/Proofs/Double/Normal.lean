import GateGame.Decimal.Double
import Mathlib

namespace GateGame.Double

/-! Positive doubles with a full mantissa of 53 bits. Rounding leaves them as they
are, so they are multiplied by one, divided by a power of two and compared without
any error, as long as the exponent stays in range. -/

open Float.Model Float.Model.UnpackedFloat

variable {mantissa : Nat} {exponent : Int}

theorem shiftRightOne_repeat (mantissa count rest : Nat) :
    count.repeat ExtendedMantissa.shiftRightOne ⟨mantissa <<< (count + rest), false, false⟩ =
      ⟨mantissa <<< rest, false, false⟩ := by
  induction count generalizing rest with
  | zero => simp [Nat.repeat]
  | succ count ih =>
      have hcount : count + 1 + rest = count + (rest + 1) := by omega
      rw [Nat.repeat, hcount, ih, ExtendedMantissa.shiftRightOne, Nat.shiftLeft_succ]
      simp

theorem log2_shiftLeft {n : Nat} (h : n ≠ 0) (count : Nat) :
    (n <<< count).log2 = n.log2 + count := by
  induction count with
  | zero => simp
  | succ count ih =>
      have hne : n <<< count ≠ 0 := by simpa using h
      rw [Nat.shiftLeft_succ, Nat.log2_two_mul hne, ih, Nat.add_assoc]

theorem log2_of_full (hlow : 4503599627370496 ≤ mantissa)
    (hhigh : mantissa < 9007199254740992) : mantissa.log2 = 52 :=
  (Nat.log2_eq_iff (by omega)).mpr ⟨hlow, hhigh⟩

theorem targetExponent_of_le {total : Int} (h : -1021 ≤ total) :
    Format.binary64.targetExponent total = total - 53 := by
  rw [Format.targetExponent, Format.minExponent, Format.mantissaBits]
  simp
  omega

theorem shiftToTargetExponent_shiftLeft (hlow : 4503599627370496 ≤ mantissa)
    (hhigh : mantissa < 9007199254740992) (hmin : -1074 ≤ exponent) (count : Nat) :
    shiftToTargetExponent .binary64 (mantissa <<< count) (exponent - count) .exact =
      (⟨mantissa, false, false⟩, exponent) := by
  have htotal : totalExponent (mantissa <<< count) (exponent - count) = exponent + 53 := by
    rw [totalExponent, log2_shiftLeft (by omega), log2_of_full hlow hhigh]
    omega
  have htarget : Format.binary64.targetExponent (exponent + 53) = exponent := by
    rw [targetExponent_of_le (by omega)]
    omega
  have hshift : (exponent - (exponent - count)).toNat = count := by omega
  have hrepeat := shiftRightOne_repeat mantissa count 0
  rw [shiftToTargetExponent, htotal, htarget, shiftToExponent, hshift]
  simp only [Prod.mk.injEq]
  exact ⟨hrepeat, by omega⟩

theorem roundWithAccuracy_shiftLeft (hlow : 4503599627370496 ≤ mantissa)
    (hhigh : mantissa < 9007199254740992) (hmin : -1074 ≤ exponent) (sign : Sign)
    (count : Nat) :
    roundWithAccuracy .binary64 sign (mantissa <<< count) (exponent - count) .exact =
      .finite sign mantissa exponent (by omega) := by
  have hfirst := shiftToTargetExponent_shiftLeft hlow hhigh hmin count
  have hsecond := shiftToTargetExponent_shiftLeft hlow hhigh hmin 0
  simp only [Nat.shiftLeft_zero, Int.natCast_zero, Int.sub_zero] at hsecond
  have hpositive : mantissa ≠ 0 := by omega
  simp only [roundWithAccuracy, hfirst, ExtendedMantissa.roundedMantissa,
    ExtendedMantissa.accuracy, Accuracy.roundToNearestEven, hsecond, dif_neg hpositive]

theorem toNat_one_append (hlow : 4503599627370496 ≤ mantissa)
    (hhigh : mantissa < 9007199254740992) :
    (1#1 ++ BitVec.ofNat 52 mantissa).toNat = mantissa := by
  have hrest : mantissa % 4503599627370496 < 4503599627370496 := Nat.mod_lt _ (by decide)
  have hor := @Nat.two_pow_add_eq_or_of_lt 52 _ hrest 1
  rw [BitVec.toNat_append]
  simp at hor ⊢
  omega

theorem unpack_pack (hlow : 4503599627370496 ≤ mantissa)
    (hhigh : mantissa < 9007199254740992) (hmin : -1074 ≤ exponent) (hmax : exponent ≤ 971)
    (sign : Sign) (hpositive : 0 < mantissa) :
    (Float.Model.pack (.finite sign mantissa exponent hpositive)).unpack =
      .finite sign mantissa exponent hpositive := by
  obtain ⟨biased, hbiased⟩ : ∃ biased : Nat, (biased : Int) = exponent + 1075 :=
    ⟨(exponent + 1075).toNat, by omega⟩
  have hpack : UnpackedFloat.pack .binary64 (.finite sign mantissa exponent hpositive) =
      packComponents .binary64 sign (BitVec.ofNat 11 biased) (BitVec.ofNat 52 mantissa) := by
    have hexponent : (exponent + 1023 + 52).toNat = biased := by omega
    have hfinite : ¬ 2047 ≤ biased := by omega
    simp [UnpackedFloat.pack, Format.exponentBias, Format.mantissaBits, hexponent, hfinite,
      log2_of_full hlow hhigh]
  have hbits : (BitVec.ofNat 11 biased).toNat = biased := by
    simp
    omega
  have hones : BitVec.ofNat 11 biased ≠ -1#11 := by
    intro heq
    rw [heq] at hbits
    simp at hbits
    omega
  have hzero : BitVec.ofNat 11 biased ≠ 0#11 := by
    intro heq
    rw [heq] at hbits
    simp at hbits
    omega
  change UnpackedFloat.unpack .binary64 (UnpackedFloat.pack .binary64 _) = _
  rw [hpack, UnpackedFloat.unpack]
  simp only [unpackMantissa_packComponents, unpackExponent_packComponents,
    unpackSign_packComponents, Sign.ofBitVec_toBitVec, if_neg hones, if_neg hzero,
    toNat_one_append hlow hhigh, hbits, Format.exponentBias, UnpackedFloat.finite.injEq,
    true_and]
  omega

/-- The double is `mantissa * 2 ^ exponent`, and the mantissa has all its bits. -/
structure Normal (x : Float) (mantissa : Nat) (exponent : Int) : Prop where
  low : 4503599627370496 ≤ mantissa
  high : mantissa < 9007199254740992
  min_le : -1074 ≤ exponent
  le_max : exponent ≤ 971
  unpack : x.toModel.unpack = .finite .positive mantissa exponent (by omega)

theorem normal_round (hlow : 4503599627370496 ≤ mantissa)
    (hhigh : mantissa < 9007199254740992) (hmin : -1074 ≤ exponent) (hmax : exponent ≤ 971)
    (count : Nat) :
    Normal (.ofModel (.pack (roundWithAccuracy .binary64 .positive (mantissa <<< count)
      (exponent - count) .exact))) mantissa exponent where
  low := hlow
  high := hhigh
  min_le := hmin
  le_max := hmax
  unpack := by
    rw [roundWithAccuracy_shiftLeft hlow hhigh hmin]
    exact unpack_pack hlow hhigh hmin hmax ..

theorem normal_one : Normal 1 4503599627370496 (-52) :=
  ⟨by decide, by decide, by decide, by decide, by rfl⟩

theorem unpack_zero : (0 : Float).toModel.unpack = .zero .positive := by rfl

variable {x : Float}

theorem Normal.mul_one (h : Normal x mantissa exponent) : Normal (x * 1) mantissa exponent := by
  have hround := normal_round h.low h.high h.min_le h.le_max 52
  have hmul : x * 1 = .ofModel (.pack (UnpackedFloat.mul .binary64 x.toModel.unpack
      (1 : Float).toModel.unpack)) := rfl
  have hshift : mantissa * 4503599627370496 = mantissa <<< 52 := by
    rw [Nat.shiftLeft_eq]
  rw [hmul, h.unpack, normal_one.unpack, UnpackedFloat.mul, hshift]
  exact hround

theorem lt_iff {x y : Float} : x < y ↔ x.toModel.unpack.lt y.toModel.unpack = true := by
  change decide (x.toModel < y.toModel) = true ↔ _
  rw [decide_eq_true_iff]
  rfl

theorem Normal.not_lt_zero (h : Normal x mantissa exponent) : ¬ x < 0 := by
  rw [lt_iff, h.unpack, unpack_zero]
  exact Bool.false_ne_true

theorem Normal.lt_one (h : Normal x mantissa exponent) (hexponent : exponent < -52) :
    x < 1 := by
  have hcompare : compare exponent (-52) = .lt := Int.compare_eq_lt.mpr hexponent
  rw [lt_iff, h.unpack, normal_one.unpack, UnpackedFloat.lt, UnpackedFloat.compare, hcompare]
  rfl

theorem normal_twoPow : Normal (Float.ofNat 9007199254740992) 4503599627370496 1 :=
  ⟨by decide, by decide, by decide, by decide, by rfl⟩

theorem Normal.div_twoPow (h : Normal x mantissa exponent) (hmin : -1020 ≤ exponent) :
    Normal (x / Float.ofNat 9007199254740992) mantissa (exponent - 53) := by
  have hround := normal_round h.low h.high (by omega : -1074 ≤ exponent - 53)
    (by have := h.le_max; omega) 1
  have hdiv : x / Float.ofNat 9007199254740992 =
      .ofModel (.pack (UnpackedFloat.div .binary64 x.toModel.unpack
        (Float.ofNat 9007199254740992).toModel.unpack)) := rfl
  have hcore : divCore .binary64 mantissa exponent 4503599627370496 1 =
      (mantissa <<< 1, exponent - 53 - (1 : Nat), .exact) := by
    have hfirst : totalExponent mantissa exponent = exponent + 53 := by
      rw [totalExponent, log2_of_full h.low h.high]
      omega
    have hsecond : totalExponent 4503599627370496 1 = 54 := by decide
    have htarget : min (exponent - 1) (exponent + 53 - 54 - 53) = exponent - 54 := by omega
    have hshift : (exponent - 1 - (exponent - 54)).toNat = 53 := by omega
    have htotal : (-1021 : Int) ≤ exponent + 53 - 54 := by omega
    rw [divCore, hfirst, hsecond, targetExponent_of_le htotal, htarget, hshift]
    have hquotient : mantissa <<< 53 / 4503599627370496 = mantissa <<< 1 := by
      simp only [Nat.shiftLeft_eq]
      omega
    have hremainder : mantissa <<< 53 % 4503599627370496 = 0 := by
      simp only [Nat.shiftLeft_eq]
      omega
    rw [hquotient, hremainder, accuracyOfFraction, if_pos rfl]
    simp only [Prod.mk.injEq, true_and, and_true]
    omega
  rw [hdiv, h.unpack, normal_twoPow.unpack, UnpackedFloat.div, hcore]
  exact hround

theorem shiftLeft_full {n : Nat} (hpositive : 0 < n) (hlt : n < 9007199254740992) :
    n.log2 ≤ 52 ∧ 4503599627370496 ≤ n <<< (52 - n.log2) ∧
      n <<< (52 - n.log2) < 9007199254740992 := by
  have hne : n ≠ 0 := by omega
  have hle : n.log2 ≤ 52 := Nat.le_of_lt_succ ((Nat.log2_lt hne).mpr hlt)
  have hlog : (n <<< (52 - n.log2)).log2 = 52 := by
    rw [log2_shiftLeft hne]
    omega
  have hshift : n <<< (52 - n.log2) ≠ 0 := by simpa using hne
  exact ⟨hle, (Nat.log2_eq_iff hshift).mp hlog⟩

theorem normal_ofNat {n : Nat} (hpositive : 0 < n) (hlt : n < 9007199254740992) :
    ∃ mantissa, Normal (Float.ofNat n) mantissa (n.log2 - 52) := by
  obtain ⟨hle, hlow, hhigh⟩ := shiftLeft_full hpositive hlt
  have hround := normal_round hlow hhigh (by omega : -1074 ≤ (n.log2 : Int) - 52) (by omega) 0
  refine ⟨n <<< (52 - n.log2), ?_⟩
  have hof : Float.ofNat n = .ofModel (.pack (UnpackedFloat.ofNat .binary64 n)) * 1 := by
    have hbound : n < 2 ^ 53 ∧ 0 ≤ 22 := ⟨hlt, by decide⟩
    have hword : n.toUInt64.toNat = n := by
      simp
      omega
    have hone : Float.exactlyRepresentablePowersOfTen[0] = 1 := by rfl
    change Float.ofScientific n false 0 = _
    rw [Float.ofScientific, dif_pos hbound]
    simp only [Bool.false_eq_true, if_false]
    rw [hone, UInt64.toFloat, Float.Model.ofUInt64, UnpackedFloat.ofUInt64, hword]
  have hofNat : UnpackedFloat.ofNat .binary64 n =
      roundWithAccuracy .binary64 .positive (n <<< (52 - n.log2) <<< 0)
        ((n.log2 : Int) - 52 - (0 : Nat)) .exact := by
    have htarget : Format.binary64.targetExponent (totalExponent n 0) = n.log2 - 52 := by
      rw [totalExponent, targetExponent_of_le (by omega)]
      omega
    have hcompare : compare (n : Int) 0 = .gt := Int.compare_eq_gt.mpr (by omega)
    have hshift : ((0 : Int) - (n.log2 - 52)).toNat = 52 - n.log2 := by omega
    rw [UnpackedFloat.ofNat, UnpackedFloat.ofInt, UnpackedFloat.normalize, hcompare]
    simp only [UnpackedFloat.round, Int.toNat_natCast, htarget, decreaseExponent, hshift,
      Nat.shiftLeft_zero]
    congr 1
    omega
  rw [hof, hofNat]
  exact hround.mul_one

theorem normal_fraction {n : Nat} (hpositive : 0 < n) (hlt : n < 9007199254740992) :
    ∃ mantissa exponent, exponent < -52 ∧
      Normal (Float.ofNat n / Float.ofNat 9007199254740992) mantissa exponent := by
  obtain ⟨mantissa, hnormal⟩ := normal_ofNat hpositive hlt
  have hlog : n.log2 ≤ 52 := (shiftLeft_full hpositive hlt).1
  exact ⟨mantissa, _, by omega, hnormal.div_twoPow (by omega)⟩

theorem fraction_bounds {n : Nat} (hlt : n < 9007199254740992) :
    ¬ Float.ofNat n / Float.ofNat 9007199254740992 < 0 ∧
      Float.ofNat n / Float.ofNat 9007199254740992 < 1 := by
  rcases Nat.eq_zero_or_pos n with rfl | hpositive
  · decide +kernel
  · obtain ⟨mantissa, exponent, hexponent, hfraction⟩ := normal_fraction hpositive hlt
    exact ⟨hfraction.not_lt_zero, hfraction.lt_one hexponent⟩

theorem fraction_mul_one_bounds {n : Nat} (hlt : n < 9007199254740992) :
    ¬ Float.ofNat n / Float.ofNat 9007199254740992 * 1 < 0 ∧
      Float.ofNat n / Float.ofNat 9007199254740992 * 1 < 1 := by
  rcases Nat.eq_zero_or_pos n with rfl | hpositive
  · decide +kernel
  · obtain ⟨mantissa, exponent, hexponent, hfraction⟩ := normal_fraction hpositive hlt
    exact ⟨hfraction.mul_one.not_lt_zero, hfraction.mul_one.lt_one hexponent⟩

end GateGame.Double
