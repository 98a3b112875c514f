import ExtensionHost.Proofs.Conversion
import Mathlib.Data.Rat.Floor

/-!
# Numbers for parameters of integers

A parameter of integers is meant to receive a number without its fraction, where that integer
has room, and null for every number that has no such integer. Integers of four bytes keep to
this except that they take what is no number for zero. Integers of eight bytes have no number
given up: what is too large, or infinite, is replaced by the nearest integer that has room.
-/

namespace ExtensionHost

/-! ## Without the fraction -/

/-- A number without its fraction: the nearest integer on the side of zero. -/
def towardZero (x : ℚ) : Int :=
  if x < 0 then ⌈x⌉ else ⌊x⌋

theorem towardZero_of_nonneg {x : ℚ} (hx : 0 ≤ x) : towardZero x = ⌊x⌋ :=
  if_neg (not_lt.mpr hx)

theorem towardZero_neg {x : ℚ} (hx : 0 ≤ x) : towardZero (-x) = -⌊x⌋ := by
  rcases hx.eq_or_lt with rfl | hpos
  · simp [towardZero]
  · rw [towardZero, if_pos (neg_lt_zero.mpr hpos), Int.ceil_neg]

@[simp] theorem towardZero_intCast (n : Int) : towardZero n = n := by
  unfold towardZero
  split
  · exact Int.ceil_intCast n
  · exact Int.floor_intCast n

theorem floor_dyadic (m : Nat) (q : Int) : ⌊dyadic m q⌋ = truncateMagnitude m q := by
  rw [Int.floor_eq_iff]
  constructor
  · exact_mod_cast le_truncateMagnitude_iff.mp (Nat.le_refl _)
  · have hnext := mt le_truncateMagnitude_iff.mpr (Nat.not_succ_le_self (truncateMagnitude m q))
    rw [not_le] at hnext
    exact_mod_cast hnext

/-- A number is truncated by its magnitude. -/
theorem towardZero_signedDyadic (negative : Bool) (m : Nat) (q : Int) :
    towardZero (signedDyadic negative m q) = signedInt negative (truncateMagnitude m q) := by
  cases negative with
  | false => exact (towardZero_of_nonneg (dyadic_nonneg m q)).trans (floor_dyadic m q)
  | true => exact (towardZero_neg (dyadic_nonneg m q)).trans (congrArg Neg.neg (floor_dyadic m q))

/-! ## Whole parts -/

/-- The number that a value stands for exactly, if it is a finite one. -/
def DependencyValue.number? : DependencyValue → Option ℚ
  | .int n => some n.toInt
  | .long n => some n.toInt
  | .float x => x.reading.value?
  | .double x => x.reading.value?
  | _ => none

/-- The number that a value stands for, without its fraction. -/
def DependencyValue.whole? (v : DependencyValue) : Option Int :=
  v.number?.map towardZero

/-- What a parameter of integers is meant to receive for a number: its whole part, as a value
of the type, where the type has room for it, and null where there is no such integer. -/
structure ParamType.TakesWhole (p : ParamType) (v w : DependencyValue) : Prop where
  whole : ∀ n, v.whole? = some n → p.HoldsInteger n →
    p.acceptsExact w = true ∧ w.integer? = some n
  null : (∀ n, v.whole? = some n → ¬p.HoldsInteger n) → w = .null

/-- Whether a number without a whole part that the type has room for is taken for an integer
nevertheless: it stands for no number, or the type is that of integers of eight bytes. -/
structure ParamType.Mistakes (p : ParamType) (v : DependencyValue) : Prop where
  noRoom : ∀ n, v.whole? = some n → ¬p.HoldsInteger n
  taken : v.reading? = some .notANumber ∨ p = .long

/-- The integer that a reading is taken for which has none: zero for no number, and else the
last one of eight bytes on the side of the sign. -/
def Reading.mistakenFor : Reading → Int
  | .notANumber => 0
  | .infinite negative | .finite negative _ _ => if negative then longMin else longMax

theorem DependencyValue.integer?_or_reading? {v : DependencyValue} (hv : v.isNumeric = true) :
    (∃ n, v.integer? = some n) ∨ ∃ r, v.reading? = some r := by
  cases v with
  | int n => exact .inl ⟨_, rfl⟩
  | long n => exact .inl ⟨_, rfl⟩
  | float x => exact .inr ⟨_, rfl⟩
  | double x => exact .inr ⟨_, rfl⟩
  | _ => cases hv

theorem DependencyValue.whole?_of_integer? {v : DependencyValue} {n : Int}
    (hn : v.integer? = some n) : v.whole? = some n ∧ v.reading? = none := by
  cases v with
  | int k =>
    cases hn
    exact ⟨congrArg some (towardZero_intCast _), rfl⟩
  | long k =>
    cases hn
    exact ⟨congrArg some (towardZero_intCast _), rfl⟩
  | _ => cases hn

theorem DependencyValue.asInteger?_of_reading? {v : DependencyValue} {r : Reading}
    (hr : v.reading? = some r) :
    v.asInteger? = some (r.truncateBetween longMin longMax) ∧
      v.whole? = r.value?.map towardZero := by
  cases v with
  | float x =>
    cases hr
    exact ⟨rfl, rfl⟩
  | double x =>
    cases hr
    exact ⟨rfl, rfl⟩
  | _ => cases hr

/-! ## What is seen of a reading -/

theorem Reading.whole_finite (negative : Bool) (m : Nat) (q : Int) :
    (finite negative m q).value?.map towardZero =
      some (signedInt negative (truncateMagnitude m q)) :=
  congrArg some (towardZero_signedDyadic negative m q)

/-- A whole part is seen as it is, if integers of eight bytes have room for it. -/
theorem Reading.truncateBetween_of_room {r : Reading} {n : Int}
    (hn : r.value?.map towardZero = some n) (hroom : ParamType.long.HoldsInteger n) :
    r.truncateBetween longMin longMax = n := by
  cases r with
  | finite negative m q =>
    rw [whole_finite] at hn
    obtain rfl := Option.some.inj hn
    rw [truncateBetween]
    unfold ParamType.HoldsInteger at hroom
    unfold clampInt
    omega
  | _ => cases hn

/-- What is seen of a number too large for eight bytes is the bound on its side. -/
theorem Reading.truncateBetween_of_noRoom {r : Reading}
    (hroom : ∀ n, r.value?.map towardZero = some n → ¬ParamType.long.HoldsInteger n) :
    r.truncateBetween longMin longMax = r.mistakenFor := by
  cases r with
  | notANumber => rfl
  | infinite negative => rfl
  | finite negative m q =>
    have hbeyond := hroom _ (whole_finite negative m q)
    unfold ParamType.HoldsInteger longMin longMax at hbeyond
    cases negative <;>
      simp only [truncateBetween, mistakenFor, clampInt, signedInt, longMin, longMax, if_true,
        Bool.false_eq_true, if_false] at hbeyond ⊢ <;>
      omega

/-- What is seen of a number too large for four bytes is too large for them, too. -/
theorem Reading.truncateBetween_beyond {r : Reading} (hr : r ≠ .notANumber)
    (hroom : ∀ n, r.value?.map towardZero = some n → ¬ParamType.int.HoldsInteger n) :
    ¬ParamType.int.HoldsInteger (r.truncateBetween longMin longMax) := by
  cases r with
  | notANumber => exact absurd rfl hr
  | infinite negative =>
    cases negative <;> simp [truncateBetween, ParamType.HoldsInteger, longMin, longMax]
  | finite negative m q =>
    have hbeyond := hroom _ (whole_finite negative m q)
    rw [truncateBetween]
    unfold ParamType.HoldsInteger at hbeyond ⊢
    unfold clampInt longMin longMax
    omega

/-! ## What is received -/

/-- What a reading is mistaken for has room in the type that mistakes it. -/
theorem Reading.mistakenFor_holds {p : ParamType} (hp : p = .int ∨ p = .long) {r : Reading}
    (hr : r = .notANumber ∨ p = .long) : p.HoldsInteger r.mistakenFor := by
  rcases hr with rfl | rfl
  · rcases hp with rfl | rfl <;>
      simp [mistakenFor, ParamType.HoldsInteger, longMin, longMax]
  · cases r with
    | notANumber => exact long_holds_truncateBetween .notANumber
    | infinite negative => exact long_holds_truncateBetween (.infinite negative)
    | finite negative m q => exact long_holds_truncateBetween (.infinite negative)

/-- What a number is seen as is received where there is room for it. -/
theorem ParamType.coerce_seen {p : ParamType} (hp : p.base = .int ∨ p.base = .long)
    {v : DependencyValue} {n : Int} (hseen : v.unwrapped.asInteger? = some n)
    (hroom : p.base.HoldsInteger n) :
    p.base.acceptsExact (p.coerce v) = true ∧ (p.coerce v).integer? = some n := by
  have hany : p.base ≠ .any := by
    rcases hp with hp | hp <;> rw [hp] <;> nofun
  obtain ⟨hinteger, hnull⟩ := coerce_asInteger hp hseen
  refine ⟨(acceptsExact_coerce hany v).resolve_left ?_, hinteger hroom⟩
  rw [hnull, not_not]
  exact hroom

/-- A whole part is received as it is where there is room for it. -/
theorem ParamType.coerce_whole {p : ParamType} (hp : p.base = .int ∨ p.base = .long)
    {v : DependencyValue} (hv : v.unwrapped.isNumeric = true) {n : Int}
    (hn : v.unwrapped.whole? = some n) (hroom : p.base.HoldsInteger n) :
    p.base.acceptsExact (p.coerce v) = true ∧ (p.coerce v).integer? = some n := by
  refine coerce_seen hp ?_ hroom
  rcases DependencyValue.integer?_or_reading? hv with ⟨k, hk⟩ | ⟨r, hr⟩
  · rw [(DependencyValue.whole?_of_integer? hk).1] at hn
    exact hn ▸ DependencyValue.asInteger?_of_integer? hk
  · have hlong : ParamType.long.HoldsInteger n := by
      rcases hp with hp | hp
      · exact long_holds_of_int (hp ▸ hroom)
      · exact hp ▸ hroom
    obtain ⟨hseen, hwhole⟩ := DependencyValue.asInteger?_of_reading? hr
    rw [hseen, Reading.truncateBetween_of_room (hwhole ▸ hn) hlong]

/-- What is mistaken for an integer is received as that integer. -/
theorem ParamType.coerce_of_mistakes {p : ParamType} (hp : p.base = .int ∨ p.base = .long)
    {v : DependencyValue} (hv : v.unwrapped.isNumeric = true)
    (h : p.base.Mistakes v.unwrapped) :
    ∃ r, v.unwrapped.reading? = some r ∧ p.base.acceptsExact (p.coerce v) = true ∧
      (p.coerce v).integer? = some r.mistakenFor := by
  rcases DependencyValue.integer?_or_reading? hv with ⟨k, hk⟩ | ⟨r, hr⟩
  · -- integers have room in eight bytes
    obtain ⟨hwhole, hreading⟩ := DependencyValue.whole?_of_integer? hk
    have hlong : p.base = .long := by simpa [hreading] using h.taken
    have hroom :=
      DependencyValue.long_holds_of_asInteger? (DependencyValue.asInteger?_of_integer? hk)
    exact absurd (hlong ▸ hroom) (h.noRoom k hwhole)
  · obtain ⟨hseen, hwhole⟩ := DependencyValue.asInteger?_of_reading? hr
    have htaken : r = .notANumber ∨ p.base = .long := by simpa [hr] using h.taken
    refine ⟨r, hr, coerce_seen hp ?_ (Reading.mistakenFor_holds hp htaken)⟩
    rw [hseen]
    rcases htaken with rfl | hlong
    · rfl
    · refine congrArg some (Reading.truncateBetween_of_noRoom ?_)
      simpa [hwhole, hlong] using h.noRoom

/-- A number is given up for which four bytes have no room. -/
theorem ParamType.coerce_of_noRoom {p : ParamType} (hp : p.base = .int) {v : DependencyValue}
    (hv : v.unwrapped.isNumeric = true) (hnumber : v.unwrapped.reading? ≠ some .notANumber)
    (hroom : ∀ n, v.unwrapped.whole? = some n → ¬p.base.HoldsInteger n) :
    p.coerce v = .null := by
  rw [hp] at hroom
  rcases DependencyValue.integer?_or_reading? hv with ⟨k, hk⟩ | ⟨r, hr⟩
  · have hseen := DependencyValue.asInteger?_of_integer? hk
    rw [(coerce_asInteger (.inl hp) hseen).2, hp]
    exact hroom k (DependencyValue.whole?_of_integer? hk).1
  · obtain ⟨hseen, hwhole⟩ := DependencyValue.asInteger?_of_reading? hr
    have hbeyond : ¬ParamType.int.HoldsInteger (r.truncateBetween longMin longMax) := by
      refine Reading.truncateBetween_beyond ?_ (hwhole ▸ hroom)
      rintro rfl
      exact hnumber hr
    rw [(coerce_asInteger (.inl hp) hseen).2, hp]
    exact hbeyond

/-- A parameter of integers receives the whole part of a number, or null if it has no room for
it, exactly if it does not mistake the number for an integer. One that it mistakes is received
as zero if it stands for no number, and else as the last integer of eight bytes on its side. -/
theorem ParamType.coerce_takesWhole_iff {p : ParamType} (hp : p.base = .int ∨ p.base = .long)
    {v : DependencyValue} (hv : v.unwrapped.isNumeric = true) :
    (p.base.TakesWhole v.unwrapped (p.coerce v) ↔ ¬p.base.Mistakes v.unwrapped) ∧
      (p.base.Mistakes v.unwrapped → ∃ r, v.unwrapped.reading? = some r ∧
        p.base.acceptsExact (p.coerce v) = true ∧
          (p.coerce v).integer? = some r.mistakenFor) := by
  refine ⟨⟨?_, ?_⟩, coerce_of_mistakes hp hv⟩
  · intro htakes hmistakes
    obtain ⟨r, -, -, hinteger⟩ := coerce_of_mistakes hp hv hmistakes
    rw [htakes.null hmistakes.noRoom] at hinteger
    cases hinteger
  · intro hmistakes
    refine ⟨fun n hn hroom => coerce_whole hp hv hn hroom, fun hroom => ?_⟩
    obtain ⟨hnumber, hlong⟩ := not_or.mp fun htaken => hmistakes ⟨hroom, htaken⟩
    exact coerce_of_noRoom (hp.resolve_right hlong) hv hnumber hroom

/-- Two to the power of 63 is one more than the greatest integer of eight bytes. -/
theorem ParamType.long_mistakes_next : ParamType.long.Mistakes (.double ⟨0x43E0000000000000⟩) := by
  have hreading : (DependencyValue.double ⟨0x43E0000000000000⟩).reading? =
      some (.finite false 0x10000000000000 11) := by decide +kernel
  refine ⟨?_, .inr rfl⟩
  intro n hn
  rw [(DependencyValue.asInteger?_of_reading? hreading).2, Reading.whole_finite] at hn
  obtain rfl : 9223372036854775808 = n := Option.some.inj hn
  unfold HoldsInteger longMin longMax
  omega

/-- It is received as the greatest integer of eight bytes and not as null. -/
theorem ParamType.coerce_takes_other :
    ¬∀ (p : ParamType) (v : DependencyValue), p = .int ∨ p = .long → v.isNumeric = true →
      p.TakesWhole v (p.coerce v) := by
  intro htakes
  have hnull := (htakes .long (.double ⟨0x43E0000000000000⟩) (.inr rfl) rfl).null
    long_mistakes_next.noRoom
  exact absurd hnull (by decide +kernel)

/-- The least integer of four bytes is received from a number that is half a unit below it, by
an optional parameter and from an envelope. The greatest one of eight bytes is not to be
received from the number above it. -/
theorem ParamType.coerce_takesWhole_at_ends :
    (ParamType.optional .int).coerce (.default (.double ⟨0xC1E0000000100000⟩)) =
        .int (-2147483648) ∧
      ParamType.int.TakesWhole (.double ⟨0xC1E0000000100000⟩) (.int (-2147483648)) ∧
      ¬ParamType.long.TakesWhole (.double ⟨0x43E0000000000000⟩) (.long 9223372036854775807) := by
  have hleast := (coerce_takesWhole_iff (p := .optional .int) (.inl rfl)
    (v := .default (.double ⟨0xC1E0000000100000⟩)) rfl).1
  have hnext := (coerce_takesWhole_iff (p := .long) (.inr rfl)
    (v := .double ⟨0x43E0000000000000⟩) rfl).1
  have hreceived : (ParamType.optional .int).coerce (.default (.double ⟨0xC1E0000000100000⟩)) =
      .int (-2147483648) := by decide +kernel
  have hmost : ParamType.long.coerce (.double ⟨0x43E0000000000000⟩) =
      .long 9223372036854775807 := by decide +kernel
  rw [hreceived] at hleast
  rw [hmost] at hnext
  refine ⟨hreceived, hleast.mpr fun hmistakes => ?_,
    fun htakes => hnext.mp htakes long_mistakes_next⟩
  rcases hmistakes.taken with hnumber | hlong
  · exact absurd hnumber (by decide +kernel)
  · cases hlong

end ExtensionHost
