import ExtensionHost.Decimal.Binary
import Mathlib.Algebra.Order.Field.Power
import Mathlib.Algebra.Order.Ring.Rat
import Mathlib.Tactic.FieldSimp
import Mathlib.Tactic.Positivity
import Mathlib.Tactic.Ring

/-!
# Rounding and truncating exactly

A number that a binary format holds is its own rounding, however it is written as a
significand and a place. So a number of four bytes can be widened to eight bytes and be
narrowed again, and comes back as it was. Without its fraction a number lies on the same
side of every integer but zero.
-/

namespace ExtensionHost

/-! ## Parts of a bit pattern -/

theorem BinaryFormat.topField_lt (format : BinaryFormat) :
    format.topField < 2 ^ format.exponent := by
  have := Nat.two_pow_pos format.exponent
  simp only [topField, Nat.shiftLeft_eq, Nat.one_mul]
  omega

/-- The sign, the exponent field and the fraction of a bit pattern. -/
structure BinaryFormat.Parts (format : BinaryFormat) where
  negative : Bool
  field : Nat
  fraction : Nat
  field_lt : field < 2 ^ format.exponent
  fraction_lt : fraction < 2 ^ format.fraction

namespace BinaryFormat.Parts

variable {format : BinaryFormat}

/-- The bit pattern without its sign. -/
def magnitude (p : format.Parts) : Nat :=
  2 ^ format.fraction * p.field + p.fraction

/-- The bit pattern. -/
def bits (p : format.Parts) : Nat :=
  format.signBit p.negative + p.magnitude

/-- What the parts stand for. -/
def reading (p : format.Parts) : Reading :=
  if p.field = format.topField then
    if p.fraction = 0 then .infinite p.negative else .notANumber
  else if p.field = 0 then .finite p.negative p.fraction format.lowestPlace
  else .finite p.negative (2 ^ format.fraction + p.fraction)
    (format.lowestPlace + (p.field - 1 : Nat))

theorem magnitude_lt (p : format.Parts) :
    p.magnitude < 2 ^ (format.fraction + format.exponent) := by
  have hfield := Nat.mul_le_mul_left (2 ^ format.fraction) (Nat.succ_le_of_lt p.field_lt)
  have hfraction := p.fraction_lt
  rw [Nat.pow_add]
  rw [Nat.mul_succ] at hfield
  unfold magnitude
  omega

theorem bits_eq (p : format.Parts) :
    p.bits = 2 ^ (format.fraction + format.exponent) * p.negative.toNat + p.magnitude := by
  unfold bits signBit
  cases p.negative <;> simp [Nat.shiftLeft_eq]

theorem bits_lt (p : format.Parts) : p.bits < 2 ^ (format.fraction + format.exponent + 1) := by
  have hmagnitude := p.magnitude_lt
  have hsign : p.negative.toNat ≤ 1 := Bool.toNat_le _
  rw [bits_eq, Nat.pow_succ]
  have := Nat.mul_le_mul_left (2 ^ (format.fraction + format.exponent)) hsign
  omega

theorem bits_fraction (p : format.Parts) : p.bits % 2 ^ format.fraction = p.fraction := by
  rw [bits_eq, magnitude, Nat.pow_add, Nat.mul_assoc, ← Nat.add_assoc, ← Nat.mul_add,
    Nat.mul_add_mod, Nat.mod_eq_of_lt p.fraction_lt]

theorem bits_field (p : format.Parts) :
    p.bits / 2 ^ format.fraction % 2 ^ format.exponent = p.field := by
  rw [bits_eq, magnitude, Nat.pow_add, Nat.mul_assoc, ← Nat.add_assoc, ← Nat.mul_add,
    Nat.mul_add_div (Nat.two_pow_pos _), Nat.div_eq_of_lt p.fraction_lt, Nat.add_zero,
    Nat.mul_add_mod, Nat.mod_eq_of_lt p.field_lt]

theorem bits_negative (p : format.Parts) :
    p.bits / 2 ^ (format.fraction + format.exponent) = p.negative.toNat := by
  rw [bits_eq, Nat.mul_add_div (Nat.two_pow_pos _), Nat.div_eq_of_lt p.magnitude_lt, Nat.add_zero]

/-- A bit pattern stands for what its parts stand for. -/
theorem read_bits (p : format.Parts) : format.read p.bits = p.reading := by
  have hnegative : (p.negative.toNat % 2 == 1) = p.negative := by cases p.negative <;> rfl
  simp only [read, reading, Nat.shiftLeft_eq, Nat.one_mul, Nat.shiftRight_eq_div_pow, bits_fraction,
    bits_field, bits_negative, hnegative, beq_iff_eq]

/-- Every bit pattern of the format's width has parts. -/
theorem exists_bits {bits : Nat} (h : bits < 2 ^ (format.fraction + format.exponent + 1)) :
    ∃ p : format.Parts, p.bits = bits := by
  refine ⟨⟨bits / 2 ^ (format.fraction + format.exponent) == 1,
    bits / 2 ^ format.fraction % 2 ^ format.exponent, bits % 2 ^ format.fraction,
    Nat.mod_lt _ (Nat.two_pow_pos _), Nat.mod_lt _ (Nat.two_pow_pos _)⟩, ?_⟩
  have hsign : bits / 2 ^ (format.fraction + format.exponent) < 2 := by
    rw [Nat.div_lt_iff_lt_mul (Nat.two_pow_pos _), Nat.mul_comm, ← Nat.pow_succ]
    exact h
  have htoNat : (bits / 2 ^ (format.fraction + format.exponent) == 1).toNat =
      bits / 2 ^ (format.fraction + format.exponent) := by
    generalize bits / 2 ^ (format.fraction + format.exponent) = sign at hsign
    obtain rfl | rfl : sign = 0 ∨ sign = 1 := by omega
    · rfl
    · rfl
  rw [bits_eq, magnitude, htoNat]
  dsimp only
  rw [Nat.pow_add, ← Nat.div_div_eq_div_mul, Nat.mul_assoc, ← Nat.add_assoc, ← Nat.mul_add,
    Nat.div_add_mod, Nat.div_add_mod]

end BinaryFormat.Parts

/-! ## Dyadic numbers -/

/-- The number with the significand at the place. -/
def dyadic (significand : Nat) (place : Int) : ℚ :=
  significand * 2 ^ place

theorem dyadic_nonneg (m : Nat) (q : Int) : 0 ≤ dyadic m q := by
  unfold dyadic
  positivity

theorem dyadic_of_neg {m : Nat} {q : Int} (hq : q < 0) : dyadic m q = m / 2 ^ q.natAbs := by
  obtain ⟨k, rfl⟩ : ∃ k : Nat, q = -(k : Int) := ⟨q.natAbs, by omega⟩
  rw [dyadic, Int.natAbs_neg, Int.natAbs_natCast, zpow_neg, zpow_natCast, div_eq_mul_inv]

theorem dyadic_of_not_neg {m : Nat} {q : Int} (hq : ¬q < 0) :
    dyadic m q = ((m <<< q.natAbs : Nat) : ℚ) := by
  obtain ⟨k, rfl⟩ : ∃ k : Nat, q = (k : Int) := ⟨q.natAbs, by omega⟩
  rw [dyadic, Int.natAbs_natCast, Nat.shiftLeft_eq, Nat.cast_mul, Nat.cast_pow, Nat.cast_ofNat,
    zpow_natCast]

/-- The next smaller power of two below a number. -/
theorem dyadic_bounds {m : Nat} (hm : m ≠ 0) (q : Int) :
    (2 : ℚ) ^ ((m.log2 : Int) + q) ≤ dyadic m q ∧ dyadic m q < 2 ^ ((m.log2 : Int) + q + 1) := by
  have hlow : (2 : ℚ) ^ (m.log2 : Int) ≤ m := by
    rw [zpow_natCast]
    exact_mod_cast Nat.log2_self_le hm
  have hhigh : (m : ℚ) < 2 ^ ((m.log2 : Int) + 1) := by
    rw [← Nat.cast_succ, zpow_natCast]
    exact_mod_cast Nat.lt_log2_self
  have hplace : (0 : ℚ) < 2 ^ q := by positivity
  constructor
  · rw [zpow_add₀ two_ne_zero]
    exact mul_le_mul_of_nonneg_right hlow hplace.le
  · rw [add_right_comm, zpow_add₀ two_ne_zero]
    exact mul_lt_mul_of_pos_right hhigh hplace

/-! ## Truncating -/

/-- The magnitude without its fraction is the greatest integer that is not above it. -/
theorem le_truncateMagnitude_iff {n m : Nat} {q : Int} :
    n ≤ truncateMagnitude m q ↔ (n : ℚ) ≤ dyadic m q := by
  unfold truncateMagnitude
  split
  next hneg =>
    have hpow : (0 : ℚ) < 2 ^ q.natAbs := by positivity
    rw [dyadic_of_neg hneg, le_div_iff₀ hpow, Nat.shiftRight_eq_div_pow,
      Nat.le_div_iff_mul_le (Nat.two_pow_pos _)]
    exact_mod_cast Iff.rfl
  next hpos => rw [dyadic_of_not_neg hpos, Nat.cast_le]

/-- The number with the sign, the significand and the place. -/
def signedDyadic (negative : Bool) (significand : Nat) (place : Int) : ℚ :=
  if negative then -dyadic significand place else dyadic significand place

/-- The number that a reading stands for, if it is a finite one. -/
def Reading.value? : Reading → Option ℚ
  | .finite negative significand place => some (signedDyadic negative significand place)
  | .infinite _ | .notANumber => none

theorem le_truncated_iff {n : Nat} (hn : 0 < n) (negative : Bool) (m : Nat) (q : Int) :
    (n : Int) ≤ signedInt negative (truncateMagnitude m q) ↔
      (n : ℚ) ≤ signedDyadic negative m q := by
  have hn' : (0 : ℚ) < n := by exact_mod_cast hn
  have hdyadic := dyadic_nonneg m q
  cases negative with
  | false => simpa [signedInt, signedDyadic] using le_truncateMagnitude_iff
  | true =>
    simp only [signedInt, signedDyadic, if_true]
    constructor <;> intro h
    · omega
    · exact absurd h (not_le.mpr ((neg_nonpos.mpr hdyadic).trans_lt hn'))

theorem truncated_le_iff {n : Nat} (hn : 0 < n) (negative : Bool) (m : Nat) (q : Int) :
    signedInt negative (truncateMagnitude m q) ≤ -(n : Int) ↔
      signedDyadic negative m q ≤ -(n : ℚ) := by
  have hn' : (0 : ℚ) < n := by exact_mod_cast hn
  have hdyadic := dyadic_nonneg m q
  cases negative with
  | false =>
    simp only [signedInt, signedDyadic, Bool.false_eq_true, if_false]
    constructor <;> intro h
    · omega
    · exact absurd h (not_le.mpr ((neg_lt_zero.mpr hn').trans_le hdyadic))
  | true =>
    simp only [signedInt, signedDyadic, if_true, neg_le_neg_iff]
    exact_mod_cast le_truncateMagnitude_iff

/-! ## Rounding -/

/-- A quotient in units of a power of two, as a quotient of natural numbers. -/
def atPlace (num den : Nat) (place : Int) : Nat × Nat :=
  if place < 0 then (num <<< place.natAbs, den) else (num, den <<< place.natAbs)

theorem atPlace_pos (num : Nat) {den : Nat} (hden : 0 < den) (place : Int) :
    0 < (atPlace num den place).2 := by
  unfold atPlace
  split
  · exact hden
  · rw [Nat.shiftLeft_eq]
    exact Nat.mul_pos hden (Nat.two_pow_pos _)

theorem atPlace_ratio (num : Nat) {den : Nat} (hden : 0 < den) (place : Int) :
    ((atPlace num den place).1 : ℚ) / (atPlace num den place).2 = num / den / 2 ^ place := by
  have hden' : (den : ℚ) ≠ 0 := by exact_mod_cast hden.ne'
  unfold atPlace
  split
  next hneg =>
    obtain ⟨k, rfl⟩ : ∃ k : Nat, place = -(k : Int) := ⟨place.natAbs, by omega⟩
    simp only [Nat.shiftLeft_eq, Int.natAbs_neg, Int.natAbs_natCast, Nat.cast_mul, Nat.cast_pow,
      Nat.cast_ofNat, zpow_neg, zpow_natCast]
    field_simp
  next hpos =>
    obtain ⟨k, rfl⟩ : ∃ k : Nat, place = (k : Int) := ⟨place.natAbs, by omega⟩
    simp only [Nat.shiftLeft_eq, Int.natAbs_natCast, Nat.cast_mul, Nat.cast_pow, Nat.cast_ofNat,
      zpow_natCast]
    field_simp

/-- The place of the last bit that is kept of a quotient. -/
def BinaryFormat.placeOf (format : BinaryFormat) (num den : Nat) : Int :=
  let full : Int := (Nat.log2 num : Int) - (Nat.log2 den : Int) - format.fraction
  let full :=
    if (atPlace num den full).1 / (atPlace num den full).2 < 2 ^ format.fraction then full - 1
    else full
  max full format.lowestPlace

theorem BinaryFormat.ofRatio_eq (format : BinaryFormat) (negative : Bool) {num den : Nat}
    (hnum : num ≠ 0) :
    format.ofRatio negative num den =
      let place := format.placeOf num den
      let magnitude := 2 ^ format.fraction * (place - format.lowestPlace).toNat +
        roundHalfEven (atPlace num den place).1 (atPlace num den place).2
      if 2 ^ format.fraction * format.topField ≤ magnitude then format.infinity negative
      else format.signBit negative + magnitude := by
  simp only [ofRatio, placeOf, atPlace, beq_iff_eq, if_neg hnum, Nat.shiftLeft_eq, Nat.one_mul,
    Nat.mul_comm (2 ^ format.fraction)]

/-- The place is found by the power of two that the quotient lies above. -/
theorem BinaryFormat.placeOf_eq (format : BinaryFormat) {num den : Nat} (hnum : num ≠ 0)
    (hden : 0 < den) {k : Int} (hlow : (2 : ℚ) ^ k ≤ num / den)
    (hhigh : (num / den : ℚ) < 2 ^ (k + 1)) :
    format.placeOf num den = max (k - format.fraction) format.lowestPlace := by
  have hden' : (0 : ℚ) < den := by exact_mod_cast hden
  have hnumBounds := dyadic_bounds hnum 0
  have hdenBounds := dyadic_bounds hden.ne' 0
  simp only [dyadic, zpow_zero, mul_one, add_zero] at hnumBounds hdenBounds
  -- the logarithms tell the power of two to within one
  have hk : k < (num.log2 : Int) - den.log2 + 1 := by
    rw [← zpow_lt_zpow_iff_right₀ (one_lt_two (α := ℚ))]
    refine hlow.trans_lt ?_
    rw [div_lt_iff₀ hden']
    calc (num : ℚ) < 2 ^ ((num.log2 : Int) + 1) := hnumBounds.2
      _ = 2 ^ ((num.log2 : Int) - den.log2 + 1) * 2 ^ (den.log2 : Int) := by
        rw [← zpow_add₀ two_ne_zero]
        ring_nf
      _ ≤ 2 ^ ((num.log2 : Int) - den.log2 + 1) * den :=
        mul_le_mul_of_nonneg_left hdenBounds.1 (by positivity)
  have hk' : (num.log2 : Int) - den.log2 - 1 < k + 1 := by
    rw [← zpow_lt_zpow_iff_right₀ (one_lt_two (α := ℚ))]
    refine lt_of_le_of_lt ?_ hhigh
    rw [le_div_iff₀ hden']
    calc (2 : ℚ) ^ ((num.log2 : Int) - den.log2 - 1) * den
        ≤ 2 ^ ((num.log2 : Int) - den.log2 - 1) * 2 ^ ((den.log2 : Int) + 1) :=
        mul_le_mul_of_nonneg_left hdenBounds.2.le (by positivity)
      _ = 2 ^ (num.log2 : Int) := by
        rw [← zpow_add₀ two_ne_zero]
        ring_nf
      _ ≤ num := hnumBounds.1
  -- and the comparison tells which of the two it is
  have hbelow : (atPlace num den ((num.log2 : Int) - den.log2 - format.fraction)).1 /
        (atPlace num den ((num.log2 : Int) - den.log2 - format.fraction)).2 < 2 ^ format.fraction ↔
      (num / den : ℚ) < 2 ^ ((num.log2 : Int) - den.log2) := by
    have hpos := atPlace_pos num hden ((num.log2 : Int) - den.log2 - format.fraction)
    have hpos' : (0 : ℚ) < (atPlace num den ((num.log2 : Int) - den.log2 - format.fraction)).2 := by
      exact_mod_cast hpos
    rw [Nat.div_lt_iff_lt_mul hpos, ← Nat.cast_lt (α := ℚ), Nat.cast_mul, ← div_lt_iff₀ hpos',
      atPlace_ratio num hden, div_lt_iff₀ (by positivity), Nat.cast_pow, Nat.cast_ofNat,
      ← zpow_natCast, ← zpow_add₀ two_ne_zero]
    ring_nf
  unfold placeOf
  simp only [hbelow]
  split
  next hlt =>
    have : k < (num.log2 : Int) - den.log2 := by
      rw [← zpow_lt_zpow_iff_right₀ (one_lt_two (α := ℚ))]
      exact hlow.trans_lt hlt
    omega
  next hge =>
    have : (num.log2 : Int) - den.log2 < k + 1 := by
      rw [← zpow_lt_zpow_iff_right₀ (one_lt_two (α := ℚ))]
      exact lt_of_le_of_lt (not_lt.mp hge) hhigh
    omega

theorem roundHalfEven_mul (n : Nat) {den : Nat} (hden : 0 < den) :
    roundHalfEven (n * den) den = n := by
  simp [roundHalfEven, Nat.mul_div_cancel _ hden, hden]

/-! ## Numbers that a format holds -/

/-- A significand at a place as a format stores it: at the lowest place, or of full width. -/
structure BinaryFormat.Parts.Stores {format : BinaryFormat} (p : format.Parts) (negative : Bool)
    (significand : Nat) (place : Int) : Prop where
  negative : p.negative = negative
  lowest : format.lowestPlace ≤ place
  width : significand < 2 ^ (format.fraction + 1)
  full : place = format.lowestPlace ∨ 2 ^ format.fraction ≤ significand
  magnitude : p.magnitude = 2 ^ format.fraction * (place - format.lowestPlace).toNat + significand
  inRange : p.magnitude < 2 ^ format.fraction * format.topField

namespace BinaryFormat.Parts

variable {format : BinaryFormat} {p : format.Parts} {negative : Bool} {m : Nat} {q : Int}

theorem stores (h : p.reading = .finite negative m q) : p.Stores negative m q := by
  have hfraction := p.fraction_lt
  have hwidth : 2 ^ (format.fraction + 1) = 2 * 2 ^ format.fraction := by
    rw [Nat.pow_succ, Nat.mul_comm]
  have htop : p.field ≠ format.topField := by
    intro htop
    simp only [reading, if_pos htop] at h
    split at h <;> cases h
  have hinRange : p.magnitude < 2 ^ format.fraction * format.topField := by
    have hfield : p.field + 1 ≤ format.topField := by
      have := p.field_lt
      simp only [topField, Nat.shiftLeft_eq, Nat.one_mul] at htop ⊢
      omega
    have := Nat.mul_le_mul_left (2 ^ format.fraction) hfield
    rw [Nat.mul_succ] at this
    unfold magnitude
    omega
  simp only [reading, if_neg htop] at h
  split at h
  next hzero =>
    cases h
    exact ⟨rfl, Int.le_refl _, by omega, .inl rfl, by simp [magnitude, hzero], hinRange⟩
  next hnonzero =>
    cases h
    refine ⟨rfl, by omega, by omega, .inr (by omega), ?_, hinRange⟩
    obtain ⟨k, hk⟩ : ∃ k, p.field = k + 1 := ⟨p.field - 1, by omega⟩
    simp only [magnitude, hk, Nat.mul_succ, Nat.add_sub_cancel, add_sub_cancel_left,
      Int.toNat_natCast]
    omega

/-- A quotient that the format holds is rounded to the pattern of its parts. -/
theorem Stores.ofRatio (hp : p.Stores negative m q) {num den : Nat} (hden : 0 < den)
    (hvalue : (num / den : ℚ) = dyadic m q) : format.ofRatio negative num den = p.bits := by
  have hden' : (den : ℚ) ≠ 0 := by exact_mod_cast hden.ne'
  by_cases hm : m = 0
  · -- zero is at the lowest place
    obtain rfl : num = 0 := by simpa [hm, dyadic, hden'] using hvalue
    obtain rfl : q = format.lowestPlace := hp.full.resolve_right (by simp [hm])
    have hmagnitude := hp.magnitude
    simp only [hm, sub_self, Int.toNat_zero, Nat.mul_zero, Nat.add_zero] at hmagnitude
    simp [BinaryFormat.ofRatio, bits, hmagnitude, hp.negative]
  have hnum : num ≠ 0 := by
    rintro rfl
    have hpos : 0 < dyadic m q := by
      have : 0 < (m : ℚ) := by exact_mod_cast Nat.pos_of_ne_zero hm
      unfold dyadic
      positivity
    simp only [Nat.cast_zero, zero_div] at hvalue
    exact hpos.ne hvalue
  have hplace : format.placeOf num den = q := by
    have hbounds := dyadic_bounds hm q
    rw [← hvalue] at hbounds
    rw [format.placeOf_eq hnum hden hbounds.1 hbounds.2]
    have hlog : m.log2 < format.fraction + 1 := (Nat.log2_lt hm).mpr hp.width
    have hlowest := hp.lowest
    rcases hp.full with hq | hfull
    · omega
    · have := (Nat.le_log2 hm).mpr hfull
      omega
  have hround : roundHalfEven (atPlace num den q).1 (atPlace num den q).2 = m := by
    have hpos := atPlace_pos num hden q
    have hpos' : ((atPlace num den q).2 : ℚ) ≠ 0 := by exact_mod_cast hpos.ne'
    have hratio := atPlace_ratio num hden q
    rw [hvalue, dyadic, mul_div_assoc, div_self (by positivity), mul_one,
      div_eq_iff hpos'] at hratio
    have hexact : (atPlace num den q).1 = m * (atPlace num den q).2 := by exact_mod_cast hratio
    rw [hexact, roundHalfEven_mul m hpos]
  rw [format.ofRatio_eq negative hnum, hplace]
  dsimp only
  rw [hround, ← hp.magnitude, if_neg (Nat.not_le.mpr hp.inRange), bits, hp.negative]

/-- A number that the format holds is rounded to the pattern of its parts, however it is
written. -/
theorem Stores.ofDyadic (hp : p.Stores negative m q) {m' : Nat} {q' : Int}
    (hvalue : dyadic m' q' = dyadic m q) : format.ofDyadic negative m' q' = p.bits := by
  unfold BinaryFormat.ofDyadic
  split
  next hneg =>
    refine hp.ofRatio (by simp [Nat.shiftLeft_eq]) ?_
    rw [← hvalue, dyadic_of_neg hneg, Nat.shiftLeft_eq, Nat.one_mul, Nat.cast_pow, Nat.cast_ofNat]
  next hpos =>
    refine hp.ofRatio Nat.one_pos ?_
    rw [← hvalue, dyadic_of_not_neg hpos, Nat.cast_one, div_one]

/-- What is at the lowest place or of full width, and is not too large, has parts. -/
theorem exists_reading (hlowest : format.lowestPlace ≤ q) (hwidth : m < 2 ^ (format.fraction + 1))
    (hfull : q = format.lowestPlace ∨ 2 ^ format.fraction ≤ m)
    (hinRange : 2 ^ format.fraction * (q - format.lowestPlace).toNat + m <
      2 ^ format.fraction * format.topField) :
    ∃ p : format.Parts, p.reading = .finite negative m q := by
  rw [Nat.pow_succ] at hwidth
  by_cases hm : m < 2 ^ format.fraction
  · obtain rfl : q = format.lowestPlace := hfull.resolve_right (by omega)
    have hpos : 0 < format.topField := by
      refine Nat.pos_of_ne_zero fun h => ?_
      rw [h] at hinRange
      omega
    refine ⟨⟨negative, 0, m, Nat.two_pow_pos _, hm⟩, ?_⟩
    rw [reading, if_neg hpos.ne, if_pos rfl]
  · have hfield : (q - format.lowestPlace).toNat + 1 < format.topField := by
      refine Nat.lt_of_mul_lt_mul_left (a := 2 ^ format.fraction) ?_
      rw [Nat.mul_succ]
      omega
    refine ⟨⟨negative, (q - format.lowestPlace).toNat + 1, m - 2 ^ format.fraction,
      hfield.trans format.topField_lt, by omega⟩, ?_⟩
    rw [reading, if_neg hfield.ne, if_neg (Nat.succ_ne_zero _)]
    dsimp only
    rw [Nat.add_sub_cancel' (Nat.not_lt.mp hm), Nat.add_sub_cancel,
      Int.toNat_of_nonneg (by omega), add_sub_cancel]

theorem bits_of_infinite (h : p.reading = .infinite negative) :
    p.bits = format.infinity negative := by
  unfold reading at h
  split at h
  next htop =>
    split at h
    next hzero =>
      cases h
      simp [bits, magnitude, infinity, htop, hzero, Nat.shiftLeft_eq, Nat.mul_comm]
    next => cases h
  next => split at h <;> cases h

/-- Every magnitude that leaves room for a sign has parts. -/
theorem exists_magnitude (negative : Bool) {n : Nat}
    (hn : n < 2 ^ (format.fraction + format.exponent)) :
    ∃ p : format.Parts, p.bits = format.signBit negative + n ∧ p.magnitude = n := by
  rw [Nat.pow_add] at hn
  let p : format.Parts := ⟨negative, n / 2 ^ format.fraction, n % 2 ^ format.fraction,
    (Nat.div_lt_iff_lt_mul (Nat.two_pow_pos _)).mpr (Nat.mul_comm _ _ ▸ hn),
    Nat.mod_lt _ (Nat.two_pow_pos _)⟩
  have hmagnitude : p.magnitude = n := Nat.div_add_mod n _
  exact ⟨p, by rw [bits, hmagnitude], hmagnitude⟩

/-- What is no number lies above the infinities. -/
theorem magnitude_of_notANumber (h : p.reading = .notANumber) :
    2 ^ format.fraction * format.topField < p.magnitude := by
  unfold reading at h
  split at h
  next htop =>
    split at h
    next => cases h
    next hfraction =>
      rw [magnitude, htop]
      omega
  next => split at h <;> cases h

end BinaryFormat.Parts

/-- A quotient is rounded to an infinity at the most. -/
theorem BinaryFormat.ofRatio_magnitude (format : BinaryFormat) (negative : Bool) (num den : Nat) :
    ∃ n ≤ 2 ^ format.fraction * format.topField,
      format.ofRatio negative num den = format.signBit negative + n := by
  by_cases hnum : num = 0
  · exact ⟨0, Nat.zero_le _, by simp [ofRatio, hnum]⟩
  · rw [format.ofRatio_eq negative hnum]
    dsimp only
    split
    next =>
      refine ⟨_, Nat.le_refl _, ?_⟩
      rw [infinity, Nat.shiftLeft_eq, Nat.mul_comm]
    next hlt => exact ⟨_, Nat.le_of_lt (Nat.not_le.mp hlt), rfl⟩

/-- A number is rounded to a number. -/
theorem BinaryFormat.exists_ofReading (format : BinaryFormat) {r : Reading} (hr : r ≠ .notANumber) :
    ∃ p : format.Parts, p.bits = format.ofReading r ∧ p.reading ≠ .notANumber := by
  obtain ⟨negative, n, hn, hbits⟩ : ∃ negative, ∃ n ≤ 2 ^ format.fraction * format.topField,
      format.ofReading r = format.signBit negative + n := by
    cases r with
    | notANumber => exact absurd rfl hr
    | infinite negative =>
      refine ⟨negative, _, Nat.le_refl _, ?_⟩
      rw [ofReading, infinity, Nat.shiftLeft_eq, Nat.mul_comm]
    | finite negative significand place =>
      refine ⟨negative, ?_⟩
      simp only [ofReading, ofDyadic]
      split
      next => exact format.ofRatio_magnitude negative _ _
      next => exact format.ofRatio_magnitude negative _ _
  have hfits : n < 2 ^ (format.fraction + format.exponent) := by
    rw [Nat.pow_add]
    exact hn.trans_lt (Nat.mul_lt_mul_of_pos_left format.topField_lt (Nat.two_pow_pos _))
  obtain ⟨p, hp, hmagnitude⟩ := Parts.exists_magnitude negative hfits
  refine ⟨p, hp.trans hbits.symm, fun hnan => ?_⟩
  have := Parts.magnitude_of_notANumber hnan
  omega

/-! ## Widening -/

/-- Every finite number of four bytes is one of eight bytes. -/
theorem exists_widened {p : BinaryFormat.single.Parts} {negative : Bool} {m : Nat} {q : Int}
    (h : p.reading = .finite negative m q) :
    ∃ (wide : BinaryFormat.double.Parts) (m' : Nat) (q' : Int),
      wide.reading = .finite negative m' q' ∧ dyadic m' q' = dyadic m q := by
  have hp := BinaryFormat.Parts.stores h
  have hsingle : BinaryFormat.single.lowestPlace = -149 := by decide
  have hdouble : BinaryFormat.double.lowestPlace = -1074 := by decide
  have hwidth : m < 2 ^ 24 := hp.width
  have hlowest := hp.lowest
  have hrange : 2 ^ 23 * (q + 149).toNat + m < 2 ^ 23 * 255 := by
    have := hp.magnitude ▸ hp.inRange
    rwa [hsingle, sub_neg_eq_add] at this
  by_cases hm : m = 0
  · subst hm
    obtain ⟨wide, hwide⟩ : ∃ wide : BinaryFormat.double.Parts,
        wide.reading = .finite negative 0 (-1074) :=
      BinaryFormat.Parts.exists_reading hdouble.le (by decide) (.inl hdouble.symm) (by decide)
    exact ⟨wide, 0, -1074, hwide, by simp [dyadic]⟩
  -- the significand is moved up to its full width
  have hlog : m.log2 ≤ 23 := Nat.lt_succ_iff.mp ((Nat.log2_lt hm).mpr hwidth)
  have hshift : m * 2 ^ (52 - m.log2) < 2 ^ 53 := by
    calc m * 2 ^ (52 - m.log2) < 2 ^ (m.log2 + 1) * 2 ^ (52 - m.log2) :=
        Nat.mul_lt_mul_of_pos_right Nat.lt_log2_self (Nat.two_pow_pos _)
      _ = 2 ^ 53 := by
        rw [← Nat.pow_add]
        congr 1
        omega
  have hfull : 2 ^ 52 ≤ m * 2 ^ (52 - m.log2) := by
    calc 2 ^ 52
      _ = 2 ^ m.log2 * 2 ^ (52 - m.log2) := by
        rw [← Nat.pow_add]
        congr 1
        omega
      _ ≤ m * 2 ^ (52 - m.log2) := Nat.mul_le_mul_right _ (Nat.log2_self_le hm)
  have hinRange : 2 ^ 52 * (q - (52 - m.log2 : Nat) - BinaryFormat.double.lowestPlace).toNat +
      m * 2 ^ (52 - m.log2) < 2 ^ 52 * BinaryFormat.double.topField := by
    have hq : (q - (52 - m.log2 : Nat) - BinaryFormat.double.lowestPlace).toNat + 2 ≤ 2046 := by
      omega
    have htop : BinaryFormat.double.topField = 2047 := by decide
    have := Nat.mul_le_mul_left (2 ^ 52) hq
    rw [htop]
    omega
  obtain ⟨wide, hwide⟩ : ∃ wide : BinaryFormat.double.Parts, wide.reading =
      .finite negative (m * 2 ^ (52 - m.log2)) (q - (52 - m.log2 : Nat)) :=
    BinaryFormat.Parts.exists_reading (by omega) hshift (.inr hfull) hinRange
  refine ⟨wide, _, _, hwide, ?_⟩
  rw [dyadic, dyadic, Nat.cast_mul, Nat.cast_pow, Nat.cast_ofNat, ← zpow_natCast, mul_assoc,
    ← zpow_add₀ two_ne_zero, add_sub_cancel]

theorem Double.reading_ofReading_infinite (negative : Bool) :
    (Double.ofReading (.infinite negative)).reading = .infinite negative := by
  cases negative <;> decide +kernel

theorem Double.reading_ofReading_notANumber :
    (Double.ofReading .notANumber).reading = .notANumber := by decide +kernel

theorem Single.reading_ofReading_notANumber :
    (Single.ofReading .notANumber).reading = .notANumber := by decide +kernel

theorem Double.reading_ofNat_bits (wide : BinaryFormat.double.Parts) :
    (⟨UInt64.ofNat wide.bits⟩ : Double).reading = wide.reading := by
  rw [Double.reading, UInt64.toNat_ofNat_of_lt' wide.bits_lt, wide.read_bits]

/-- A number of four bytes that is widened to eight bytes and narrowed again is as it was. -/
theorem Single.ofReading_widened {x : Single} (hx : x.reading ≠ .notANumber) :
    Single.ofReading (Double.ofReading x.reading).reading = x := by
  obtain ⟨p, hp⟩ : ∃ p : BinaryFormat.single.Parts, p.bits = x.bits.toNat :=
    BinaryFormat.Parts.exists_bits x.bits.toNat_lt
  have hreading : x.reading = p.reading := by rw [Single.reading, ← hp, p.read_bits]
  have hnumber : UInt32.ofNat p.bits = x.bits := by rw [hp, UInt32.ofNat_toNat]
  cases h : p.reading with
  | notANumber => exact absurd (hreading.trans h) hx
  | infinite negative =>
    rw [hreading, h, Double.reading_ofReading_infinite, Single.ofReading, BinaryFormat.ofReading,
      ← BinaryFormat.Parts.bits_of_infinite h, hnumber]
  | finite negative m q =>
    obtain ⟨wide, m', q', hwide, hsame⟩ := exists_widened h
    have hwidened : Double.ofReading (.finite negative m q) = ⟨UInt64.ofNat wide.bits⟩ := by
      rw [Double.ofReading, BinaryFormat.ofReading,
        (BinaryFormat.Parts.stores hwide).ofDyadic hsame.symm]
    rw [hreading, h, hwidened, Double.reading_ofNat_bits, hwide, Single.ofReading,
      BinaryFormat.ofReading, (BinaryFormat.Parts.stores h).ofDyadic hsame, hnumber]

/-- A number of four bytes that has been rounded is as it was, too, no number included. -/
theorem Single.ofReading_widened_ofReading (r : Reading) :
    Single.ofReading (Double.ofReading (Single.ofReading r).reading).reading =
      Single.ofReading r := by
  by_cases hr : r = .notANumber
  · rw [hr, Single.reading_ofReading_notANumber, Double.reading_ofReading_notANumber]
  · obtain ⟨p, hp, hnumber⟩ := BinaryFormat.exists_ofReading .single hr
    apply Single.ofReading_widened
    rwa [Single.ofReading, Single.reading, ← hp, UInt32.toNat_ofNat_of_lt' p.bits_lt, p.read_bits]

end ExtensionHost
