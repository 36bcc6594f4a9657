import HybridSearch.Number.Binary64

/-!
# Signs of computed numbers

The difference of two finite numbers is a number, squares and sums of positive numbers and their roots
are positive, and a finite number less itself is zero. A number is read through its unpacked form, which
an operation packs and the next one unpacks again.
-/
namespace HybridSearch

open Float.Model (Format UnpackedFloat)

open Float.Model.UnpackedFloat

namespace Binary64

variable {spec : Format} {s t : Sign} {u v : UnpackedFloat}

/-- A zero, a finite number or an infinity of this sign. -/
def HasSign (s : Sign) : UnpackedFloat → Prop
  | .infinity t => t = s
  | .zero t => t = s
  | .finite t _ _ _ => t = s
  | .notANumber => False

def IsReal : UnpackedFloat → Prop
  | .zero _ => True
  | .finite _ _ _ _ => True
  | _ => False

theorem unpackSign_eq (b : BitVec spec.numBits) : unpackSign b =
    (b.extractLsb (spec.mantissaBitsWithoutImplicit + spec.exponentBits)
      (spec.mantissaBitsWithoutImplicit + spec.exponentBits)).cast (by omega) := rfl

theorem unpackSign_components {exponent : BitVec spec.exponentBits}
    {mantissa : BitVec spec.mantissaBitsWithoutImplicit} :
    Sign.ofBitVec (unpackSign (packComponents spec s exponent mantissa)) = s := by
  have hsign : unpackSign (packComponents spec s exponent mantissa) = s.toBitVec := by
    refine BitVec.eq_of_getLsbD_eq fun i hi => ?_
    have hi0 : i = 0 := Nat.lt_one_iff.mp hi
    subst hi0
    simp [unpackSign_eq, packComponents, BitVec.getLsbD_append, BitVec.getElem_append]
  rw [hsign]
  cases s <;> rfl

theorem ofNat_ne_allOnes {w n : Nat} (h : n + 1 < Nat.pow 2 w) : BitVec.ofNat w n ≠ -1#w := by
  intro heq
  have hbits := congrArg BitVec.toNat heq
  have hpow : Nat.pow 2 w = 2 ^ w := rfl
  rw [BitVec.toNat_ofNat, Nat.mod_eq_of_lt (by omega), BitVec.neg_one_eq_allOnes,
    BitVec.toNat_allOnes] at hbits
  omega

theorem zero_ne_allOnes : (0#_ : BitVec spec.exponentBits) ≠ -1#_ :=
  ofNat_ne_allOnes (Nat.one_lt_two_pow (Nat.pos_iff_ne_zero.mp spec.he))

/-- The four ways to read bits; the exponent of a finite number fits where it was read from. -/
theorem unpack_cases (b : BitVec spec.numBits) :
    unpackExponent b = -1#_ ∧ unpackMantissa b = 0#_ ∧
        unpack spec b = .infinity (Sign.ofBitVec (unpackSign b)) ∨
      unpackExponent b = -1#_ ∧ unpackMantissa b ≠ 0#_ ∧ unpack spec b = .notANumber ∨
      unpackExponent b ≠ -1#_ ∧ unpack spec b = .zero (Sign.ofBitVec (unpackSign b)) ∨
      unpackExponent b ≠ -1#_ ∧ ∃ m e hm,
        unpack spec b = .finite (Sign.ofBitVec (unpackSign b)) m e hm ∧
          (e + spec.exponentBias + spec.mantissaBitsWithoutImplicit).toNat ≤
            max 1 (unpackExponent b).toNat := by
  delta unpack
  dsimp only
  by_cases hones : unpackExponent b = -1#_
  · rw [if_pos hones]
    by_cases hmantissa : unpackMantissa b = 0#_
    · exact .inl ⟨hones, hmantissa, if_pos hmantissa⟩
    · exact .inr (.inl ⟨hones, hmantissa, if_neg hmantissa⟩)
  · rw [if_neg hones]
    by_cases hzero : unpackExponent b = 0#_
    · rw [if_pos hzero]
      by_cases hmantissa : unpackMantissa b = 0#_
      · exact .inr (.inr (.inl ⟨hones, dif_pos hmantissa⟩))
      · have hlowest : (unpackExponent b).toNat = 0 := congrArg BitVec.toNat hzero
        refine .inr (.inr (.inr ⟨hones, _, _, _, dif_neg hmantissa, ?_⟩))
        omega
    · rw [if_neg hzero]
      refine .inr (.inr (.inr ⟨hones, _, _, _, rfl, ?_⟩))
      omega

theorem hasSign_unpack {exponent : BitVec spec.exponentBits}
    {mantissa : BitVec spec.mantissaBitsWithoutImplicit} (h : exponent ≠ -1#_ ∨ mantissa = 0#_) :
    HasSign s (unpack spec (packComponents spec s exponent mantissa)) := by
  rcases unpack_cases (packComponents spec s exponent mantissa) with
    ⟨-, -, hunpack⟩ | ⟨hones, hmantissa, -⟩ | ⟨-, hunpack⟩ | ⟨-, m, e, hm, hunpack, -⟩
  · rw [hunpack, unpackSign_components]
    rfl
  · rw [unpackExponent_packComponents] at hones
    rw [unpackMantissa_packComponents] at hmantissa
    exact absurd hmantissa (not_not_intro (h.resolve_left (not_not_intro hones)))
  · rw [hunpack, unpackSign_components]
    rfl
  · rw [hunpack, unpackSign_components]
    rfl

theorem isReal_unpack {exponent : BitVec spec.exponentBits}
    {mantissa : BitVec spec.mantissaBitsWithoutImplicit} (h : exponent ≠ -1#_) :
    IsReal (unpack spec (packComponents spec s exponent mantissa)) := by
  rcases unpack_cases (packComponents spec s exponent mantissa) with
    ⟨hones, -, -⟩ | ⟨hones, -, -⟩ | ⟨-, hunpack⟩ | ⟨-, m, e, hm, hunpack, -⟩
  · exact absurd (unpackExponent_packComponents.symm.trans hones) h
  · exact absurd (unpackExponent_packComponents.symm.trans hones) h
  · rw [hunpack]
    trivial
  · rw [hunpack]
    trivial

theorem pack_finite {m : Nat} {e : Int} {hm : 0 < m} : pack spec (.finite s m e hm) =
    if Nat.pow 2 spec.exponentBits ≤
        (e + spec.exponentBias + spec.mantissaBitsWithoutImplicit).toNat + 1 then
      packedInfinity spec s
    else if m.log2 + 1 = spec.mantissaBits then
      packComponents spec s
        (BitVec.ofNat _ (e + spec.exponentBias + spec.mantissaBitsWithoutImplicit).toNat)
        (BitVec.ofNat _ m)
    else packComponents spec s 0#_ (BitVec.ofNat _ m) := rfl

theorem isReal_unpack_pack {m : Nat} {e : Int} {hm : 0 < m}
    (hfits : (e + spec.exponentBias + spec.mantissaBitsWithoutImplicit).toNat + 1 <
      Nat.pow 2 spec.exponentBits) : IsReal (unpack spec (pack spec (.finite s m e hm))) := by
  rw [pack_finite, if_neg (Nat.not_le.mpr hfits)]
  split
  · exact isReal_unpack (ofNat_ne_allOnes hfits)
  · exact isReal_unpack zero_ne_allOnes

theorem hasSign_unpack_pack (h : HasSign s u) : HasSign s (unpack spec (pack spec u)) := by
  cases u with
  | notANumber => cases h
  | infinity t =>
    obtain rfl : t = s := h
    exact hasSign_unpack (.inr rfl)
  | zero t =>
    obtain rfl : t = s := h
    exact hasSign_unpack (.inr rfl)
  | finite t m e hm =>
    obtain rfl : t = s := h
    rw [pack_finite]
    split
    · exact hasSign_unpack (.inr rfl)
    · next hfits =>
      split
      · exact hasSign_unpack (.inl (ofNat_ne_allOnes (Nat.not_le.mp hfits)))
      · exact hasSign_unpack (.inl zero_ne_allOnes)

theorem hasSign_zero_or_finite {m : Nat} {e : Int} :
    HasSign s (if h : m = 0 then .zero s else .finite s m e (Nat.pos_of_ne_zero h)) := by
  cases m with
  | zero => rfl
  | succ m => rfl

theorem hasSign_roundWithAccuracy {m : Nat} {e : Int} {a : Accuracy} :
    HasSign s (roundWithAccuracy spec s m e a) :=
  hasSign_zero_or_finite

theorem hasSign_normalize {m e : Int} : ∃ s, HasSign s (UnpackedFloat.normalize spec m e t) := by
  rw [UnpackedFloat.normalize]
  split
  · exact ⟨.negative, hasSign_roundWithAccuracy⟩
  · exact ⟨t, rfl⟩
  · exact ⟨.positive, hasSign_roundWithAccuracy⟩

theorem hasSign_normalize_of_nonneg {m e : Int} (h : 0 ≤ m) :
    HasSign .positive (UnpackedFloat.normalize spec m e .positive) := by
  rw [UnpackedFloat.normalize]
  split
  · next hlt => exact absurd (Int.compare_eq_lt.mp hlt) (Int.not_lt.mpr h)
  · rfl
  · exact hasSign_roundWithAccuracy

theorem hasSign_sub (hu : IsReal u) (hv : IsReal v) : ∃ s, HasSign s (UnpackedFloat.sub spec u v) := by
  cases u with
  | notANumber => cases hu
  | infinity _ => cases hu
  | zero s =>
    cases v with
    | notANumber => cases hv
    | infinity _ => cases hv
    | zero t => cases s <;> cases t <;> exact ⟨_, rfl⟩
    | finite t _ _ _ => exact ⟨-t, rfl⟩
  | finite s _ _ _ =>
    cases v with
    | notANumber => cases hv
    | infinity _ => cases hv
    | zero t => exact ⟨s, rfl⟩
    | finite t _ _ _ => exact hasSign_normalize

theorem sub_self (hu : IsReal u) : UnpackedFloat.sub spec u u = .zero .positive := by
  cases u with
  | notANumber => cases hu
  | infinity _ => cases hu
  | zero s => cases s <;> rfl
  | finite s m e hm =>
    show UnpackedFloat.normalize spec (s.apply _ - s.apply _) _ .positive = .zero .positive
    rw [Int.sub_self]
    rfl

theorem hasSign_mul_self (hu : HasSign s u) : HasSign .positive (UnpackedFloat.mul spec u u) := by
  have hsquare : ∀ t : Sign, t * t = .positive := fun t => by cases t <;> rfl
  cases u with
  | notANumber => cases hu
  | infinity t => exact hsquare t
  | zero t => exact hsquare t
  | finite t m e hm =>
    show HasSign .positive (roundWithAccuracy spec (t * t) (m * m) (e + e) .exact)
    rw [hsquare]
    exact hasSign_roundWithAccuracy

theorem negativeZero_add_unpacked (hv : HasSign .positive v) :
    HasSign .positive (UnpackedFloat.add spec (.zero .negative) v) := by
  cases v with
  | notANumber => cases hv
  | infinity _ => exact hv
  | zero s =>
    obtain rfl : s = .positive := hv
    rfl
  | finite _ _ _ _ => exact hv

theorem hasSign_add (hu : HasSign .positive u) (hv : HasSign .positive v) :
    HasSign .positive (UnpackedFloat.add spec u v) := by
  cases u with
  | notANumber => cases hu
  | infinity s =>
    obtain rfl : s = .positive := hu
    cases v with
    | notANumber => cases hv
    | infinity t =>
      obtain rfl : t = .positive := hv
      rfl
    | zero _ => rfl
    | finite _ _ _ _ => rfl
  | zero s =>
    obtain rfl : s = .positive := hu
    cases v with
    | notANumber => cases hv
    | infinity _ => exact hv
    | zero t =>
      obtain rfl : t = .positive := hv
      rfl
    | finite _ _ _ _ => exact hv
  | finite s m e hm =>
    obtain rfl : s = .positive := hu
    cases v with
    | notANumber => cases hv
    | infinity _ => exact hv
    | zero _ => rfl
    | finite t n f hn =>
      obtain rfl : t = .positive := hv
      exact hasSign_normalize_of_nonneg (Int.add_nonneg (Int.natCast_nonneg _) (Int.natCast_nonneg _))

theorem hasSign_sqrt (hu : HasSign .positive u) : HasSign .positive (UnpackedFloat.sqrt spec u) := by
  cases u with
  | notANumber => cases hu
  | infinity s =>
    obtain rfl : s = .positive := hu
    rfl
  | zero s => exact hu
  | finite s m e hm =>
    obtain rfl : s = .positive := hu
    exact hasSign_roundWithAccuracy

def unpacked (x : Binary64) : UnpackedFloat := UnpackedFloat.unpack .binary64 x.bits.toBitVec

/-- Not below zero: positive zero, a positive number or positive infinity. -/
def IsPositive (x : Binary64) : Prop := HasSign .positive x.unpacked

variable {x y : Binary64}

theorem toNat_unpackExponent :
    (@unpackExponent .binary64 x.bits.toBitVec).toNat = x.exponentField := by
  rw [unpackExponent, BitVec.toNat_cast, BitVec.extractLsb_toNat, exponentField,
    Nat.shiftRight_eq_div_pow]
  rfl

theorem toNat_unpackMantissa :
    (@unpackMantissa .binary64 x.bits.toBitVec).toNat = x.fractionField := by
  rw [unpackMantissa, BitVec.toNat_cast, BitVec.extractLsb_toNat, fractionField]
  rfl

theorem toNat_unpackSign :
    (@unpackSign .binary64 x.bits.toBitVec).toNat = x.bits.toNat / 0x8000000000000000 % 2 := by
  rw [unpackSign_eq, BitVec.toNat_cast, BitVec.extractLsb_toNat, Nat.shiftRight_eq_div_pow]
  rfl

theorem isNaN_of_hasSign (h : HasSign s x.unpacked) : x.isNaN = false := by
  refine Bool.eq_false_iff.mpr fun hnan => ?_
  simp only [isNaN, Bool.and_eq_true, beq_iff_eq, bne_iff_ne] at hnan
  obtain ⟨hexponent, hfraction⟩ := hnan
  have hones : @unpackExponent .binary64 x.bits.toBitVec = -1#11 :=
    BitVec.eq_of_toNat_eq (toNat_unpackExponent.trans hexponent)
  have hmantissa : @unpackMantissa .binary64 x.bits.toBitVec ≠ 0#52 := fun hzero =>
    hfraction (toNat_unpackMantissa.symm.trans (congrArg BitVec.toNat hzero))
  rw [unpacked] at h
  rcases @unpack_cases .binary64 x.bits.toBitVec with
    ⟨-, hzero, -⟩ | ⟨-, -, hunpack⟩ | ⟨hnot, -⟩ | ⟨hnot, -⟩
  · exact hmantissa hzero
  · rw [hunpack] at h
    exact h
  · exact hnot hones
  · exact hnot hones

theorem hasSign_unpackSign (h : HasSign s x.unpacked) :
    Sign.ofBitVec (@unpackSign .binary64 x.bits.toBitVec) = s := by
  rw [unpacked] at h
  rcases @unpack_cases .binary64 x.bits.toBitVec with
    ⟨-, -, hunpack⟩ | ⟨-, -, hunpack⟩ | ⟨-, hunpack⟩ | ⟨-, m, e, hm, hunpack, -⟩
  · rw [hunpack] at h
    exact h
  · rw [hunpack] at h
    cases h
  · rw [hunpack] at h
    exact h
  · rw [hunpack] at h
    exact h

theorem rank_nonneg (h : IsPositive x) : 0 ≤ x.rank := by
  have hsign := hasSign_unpackSign h
  have hbit : @unpackSign .binary64 x.bits.toBitVec = 0#1 := by
    rw [Sign.ofBitVec] at hsign
    split at hsign
    · next hzero => exact hzero
    · cases hsign
  have hnat := toNat_unpackSign.symm.trans (congrArg BitVec.toNat hbit)
  have hbound := x.bits.toNat_lt
  have hpositive : x.isNegative = false := by
    simp only [isNegative, decide_eq_false_iff_not]
    intro hle
    have : x.bits.toNat / 0x8000000000000000 = 1 := by omega
    rw [this] at hnat
    cases hnat
  rw [rank, hpositive]
  exact Int.natCast_nonneg _

theorem isReal_toFloat (h : x.isFinite = true) : IsReal x.toFloat.toModel.unpack := by
  show IsReal (unpack .binary64 (pack .binary64 x.unpacked))
  have hexponent : x.exponentField ≠ 2047 := by simpa [isFinite] using h
  have hlt : x.exponentField < 2048 := Nat.mod_lt _ (by decide)
  have hones : @unpackExponent .binary64 x.bits.toBitVec ≠ -1#11 := fun hones =>
    hexponent (toNat_unpackExponent.symm.trans (congrArg BitVec.toNat hones))
  rw [unpacked]
  rcases @unpack_cases .binary64 x.bits.toBitVec with
    ⟨hall, -⟩ | ⟨hall, -⟩ | ⟨-, hunpack⟩ | ⟨-, m, e, hm, hunpack, hfits⟩
  · exact absurd hall hones
  · exact absurd hall hones
  · rw [hunpack]
    exact isReal_unpack zero_ne_allOnes
  · rw [hunpack]
    refine isReal_unpack_pack ?_
    rw [toNat_unpackExponent] at hfits
    refine Nat.lt_of_le_of_lt (Nat.succ_le_succ hfits) ?_
    show max 1 x.exponentField + 1 < 2048
    omega

theorem hasSign_toFloat (h : HasSign s x.unpacked) : HasSign s x.toFloat.toModel.unpack :=
  hasSign_unpack_pack h

theorem hasSign_settle (h : HasSign s u) : HasSign s (settle (.ofModel (.pack u))).unpacked := by
  have hpacked : HasSign s (ofFloat (.ofModel (.pack u))).unpacked := hasSign_unpack_pack h
  rw [settle, isNaN_of_hasSign hpacked]
  exact hpacked

theorem isNaN_of_isFinite (h : x.isFinite = true) : x.isNaN = false := by
  have hexponent : x.exponentField ≠ 2047 := by simpa [isFinite] using h
  simp [isNaN, hexponent]

theorem sub_hasSign (hx : x.isFinite = true) (hy : y.isFinite = true) :
    ∃ s, HasSign s (x - y).unpacked := by
  obtain ⟨s, hs⟩ : ∃ s, HasSign s (UnpackedFloat.sub .binary64 x.toFloat.toModel.unpack
      y.toFloat.toModel.unpack) :=
    hasSign_sub (isReal_toFloat hx) (isReal_toFloat hy)
  refine ⟨s, ?_⟩
  show HasSign s (binary (· - ·) x y).unpacked
  rw [binary, isNaN_of_isFinite hx, isNaN_of_isFinite hy]
  exact hasSign_settle hs

theorem sub_self_eq (hx : x.isFinite = true) : x - x = zero := by
  show binary (· - ·) x x = zero
  rw [binary, isNaN_of_isFinite hx]
  show settle (.ofModel (.pack (UnpackedFloat.sub .binary64 x.toFloat.toModel.unpack
    x.toFloat.toModel.unpack))) = zero
  rw [sub_self (isReal_toFloat hx)]
  rfl

theorem mul_self_isPositive (hx : HasSign s x.unpacked) : IsPositive (x * x) := by
  show HasSign .positive (binary (· * ·) x x).unpacked
  rw [binary, isNaN_of_hasSign hx]
  exact hasSign_settle (hasSign_mul_self (hasSign_toFloat hx))

theorem IsPositive.add (hx : IsPositive x) (hy : IsPositive y) : IsPositive (x + y) := by
  show HasSign .positive (binary (· + ·) x y).unpacked
  rw [binary, isNaN_of_hasSign hx, isNaN_of_hasSign hy]
  exact hasSign_settle (hasSign_add (hasSign_toFloat hx) (hasSign_toFloat hy))

theorem IsPositive.negativeZero_add (hy : IsPositive y) : IsPositive (negativeZero + y) := by
  show HasSign .positive (binary (· + ·) negativeZero y).unpacked
  rw [binary, isNaN_of_hasSign hy]
  exact hasSign_settle (negativeZero_add_unpacked (hasSign_toFloat hy))

theorem IsPositive.sqrt (hx : IsPositive x) : IsPositive x.sqrt := by
  rw [IsPositive, Binary64.sqrt, isNaN_of_hasSign hx]
  exact hasSign_settle (hasSign_sqrt (hasSign_toFloat hx))

end Binary64

end HybridSearch
