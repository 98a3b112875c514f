import ExtensionHost.Proofs.Invocation
import ExtensionHost.Proofs.Rounding

/-!
# What parameters receive

A conversion leaves what has the type of the parameter as it is, and makes null or a value
of that type of everything else, so that converting twice is converting once. A constructor
whose parameters fit after a conversion receives what it was supplied with: the only values
that it may lose are numbers for a parameter of integers of four bytes which hold no such
integer.
-/

namespace ExtensionHost

/-! ## Types and values -/

theorem ParamType.base_ne_optional (p inner : ParamType) : p.base ≠ .optional inner := by
  induction p with
  | optional q ih => exact ih
  | _ => nofun

theorem DependencyValue.unwrapped_ne_default (v w : DependencyValue) :
    v.unwrapped ≠ .default w := by
  induction v with
  | default inner ih => exact ih
  | _ => nofun

theorem DependencyValue.isNull_iff {v : DependencyValue} : v.isNull = true ↔ v = .null := by
  cases v <;> simp [isNull]

/-- The same value, or two that stand for no number of four bytes. -/
def DependencyValue.Same (v w : DependencyValue) : Prop :=
  v = w ∨ ∃ x y : Single, v = .float x ∧ w = .float y ∧
    x.reading = .notANumber ∧ y.reading = .notANumber

/-- The integer that a value is, if it is one. -/
def DependencyValue.integer? : DependencyValue → Option Int
  | .int n => some n.toInt
  | .long n => some n.toInt
  | _ => none

/-- What a number stands for that is not stored as an integer. -/
def DependencyValue.reading? : DependencyValue → Option Reading
  | .float x => some x.reading
  | .double x => some x.reading
  | _ => none

/-- The integers that the values of a type hold. -/
def ParamType.HoldsInteger : ParamType → Int → Prop
  | .int, n => -2147483648 ≤ n ∧ n ≤ 2147483647
  | .long, n => longMin ≤ n ∧ n ≤ longMax
  | _, _ => False

/-- Whether a reading stands for an infinity, or for a number whose integer part does not lie
between the bounds. -/
def Reading.Beyond (low high : Int) (r : Reading) : Prop :=
  (∃ negative, r = .infinite negative) ∨ ∃ x, r.value? = some x ∧ (x ≤ low - 1 ∨ high + 1 ≤ x)

/-- Whether a value is a number whose integer part has no room in four bytes. -/
def DependencyValue.BeyondInt (v : DependencyValue) : Prop :=
  (∃ n, v.integer? = some n ∧ ¬ParamType.int.HoldsInteger n) ∨
    ∃ r, v.reading? = some r ∧ r.Beyond (-2147483648) 2147483647

/-! ## Integers -/

theorem ParamType.int_holds (n : Int32) : ParamType.int.HoldsInteger n.toInt := by
  have := n.le_toInt
  have := n.toInt_lt
  unfold HoldsInteger
  omega

theorem ParamType.long_holds (n : Int64) : ParamType.long.HoldsInteger n.toInt := by
  have := n.le_toInt
  have := n.toInt_lt
  unfold HoldsInteger longMin longMax
  omega

theorem ParamType.long_holds_of_int {n : Int} (h : ParamType.int.HoldsInteger n) :
    ParamType.long.HoldsInteger n := by
  unfold HoldsInteger longMin longMax at *
  omega

/-- An integer is seen as what it is. -/
theorem DependencyValue.asInteger?_of_integer? {v : DependencyValue} {n : Int}
    (hn : v.integer? = some n) : v.asInteger? = some n := by
  cases v with
  | int k => exact hn
  | long k => exact hn
  | _ => cases hn

/-- What is kept between the bounds of eight bytes has room in them. -/
theorem Reading.long_holds_truncateBetween (r : Reading) :
    ParamType.long.HoldsInteger (r.truncateBetween longMin longMax) := by
  cases r with
  | notANumber => simp [truncateBetween, ParamType.HoldsInteger, longMin, longMax]
  | infinite negative =>
    cases negative <;> simp [truncateBetween, ParamType.HoldsInteger, longMin, longMax]
  | finite negative m q =>
    rw [truncateBetween]
    unfold ParamType.HoldsInteger clampInt longMin longMax
    omega

/-- The integer that a number is seen as has room in eight bytes. -/
theorem DependencyValue.long_holds_of_asInteger? {v : DependencyValue} {n : Int}
    (hn : v.asInteger? = some n) : ParamType.long.HoldsInteger n := by
  cases v with
  | int k =>
    cases hn
    exact ParamType.long_holds_of_int (ParamType.int_holds k)
  | long k =>
    cases hn
    exact ParamType.long_holds k
  | float x =>
    cases hn
    exact x.reading.long_holds_truncateBetween
  | double x =>
    cases hn
    exact x.reading.long_holds_truncateBetween
  | _ => cases hn

theorem Int32.toInt_of_holds {n : Int} (h : ParamType.int.HoldsInteger n) :
    (Int32.ofInt n).toInt = n := by
  unfold ParamType.HoldsInteger at h
  exact Int32.toInt_ofInt_of_le (by omega) (by omega)

theorem Int64.toInt_of_holds {n : Int} (h : ParamType.long.HoldsInteger n) :
    (Int64.ofInt n).toInt = n := by
  unfold ParamType.HoldsInteger longMin longMax at h
  exact Int64.toInt_ofInt_of_le (by omega) (by omega)

theorem int32?_of_holds {n : Int} (h : ParamType.int.HoldsInteger n) :
    int32? n = some (Int32.ofInt n) := if_pos h

theorem int32?_eq_none_iff {n : Int} : int32? n = none ↔ ¬ParamType.int.HoldsInteger n := by
  unfold int32? ParamType.HoldsInteger
  split <;> simp_all

theorem int32?_toInt (n : Int32) : int32? n.toInt = some n := by
  rw [int32?_of_holds (ParamType.int_holds n), Int32.ofInt_toInt]

/-- The integer part that is kept between the bounds of eight bytes has room in four if it is
not beyond them. -/
theorem Reading.truncateBetween_holds_iff (r : Reading) :
    ParamType.int.HoldsInteger (r.truncateBetween longMin longMax) ↔
      ¬r.Beyond (-2147483648) 2147483647 := by
  cases r with
  | notANumber => simp [truncateBetween, Beyond, ParamType.HoldsInteger, value?]
  | infinite negative =>
    cases negative <;> simp [truncateBetween, Beyond, ParamType.HoldsInteger, longMin, longMax]
  | finite negative m q =>
    have hlow := truncated_le_iff (n := 2147483649) (by decide) negative m q
    have hhigh := le_truncated_iff (n := 2147483648) (by decide) negative m q
    have hclamp : ParamType.int.HoldsInteger
          (clampInt longMin longMax (signedInt negative (truncateMagnitude m q))) ↔
        ¬signedInt negative (truncateMagnitude m q) ≤ -(2147483649 : Nat) ∧
          ¬((2147483648 : Nat) : Int) ≤ signedInt negative (truncateMagnitude m q) := by
      unfold ParamType.HoldsInteger clampInt longMin longMax
      omega
    have hbeyond : (finite negative m q).Beyond (-2147483648) 2147483647 ↔
        signedDyadic negative m q ≤ -(2147483649 : Nat) ∨
          ((2147483648 : Nat) : ℚ) ≤ signedDyadic negative m q := by
      simp only [Beyond, value?, reduceCtorEq, exists_false, false_or, Option.some.injEq,
        exists_eq_left']
      norm_num
    rw [truncateBetween, hclamp, hlow, hhigh, ← not_or, hbeyond]

/-! ## Conversion to a type -/

/-- What is converted to a type has it. -/
theorem ParamType.acceptsExact_of_convert? {p : ParamType} {v w : DependencyValue} (hp : p ≠ .any)
    (h : p.convert? v = some w) : p.acceptsExact w = true := by
  cases p with
  | any => exact absurd rfl hp
  | object name =>
    cases v with
    | object other =>
      simp only [convert?] at h
      split at h
      next heq => cases h; exact heq
      next => cases h
    | _ => cases h
  | optional inner => cases h
  | text => cases h; rfl
  | _ =>
    simp only [convert?, Option.map_eq_some_iff] at h
    obtain ⟨x, -, rfl⟩ := h
    rfl

/-- Only null is converted to null. -/
theorem ParamType.convert?_null {p : ParamType} {v : DependencyValue}
    (h : p.convert? v = some .null) : v = .null := by
  by_cases hp : p = .any
  · subst hp
    exact Option.some.inj h
  · have := acceptsExact_of_convert? hp h
    cases p with
    | optional inner => cases h
    | _ => cases this

/-- What has a type is converted to itself. -/
theorem ParamType.convert?_of_acceptsExact {p : ParamType} (hp : ∀ inner, p ≠ .optional inner)
    {v : DependencyValue} (h : p.acceptsExact v = true) :
    ∃ w, p.convert? v = some w ∧ w.Same v := by
  cases p with
  | optional inner => exact absurd rfl (hp inner)
  | any => cases h
  | bool =>
    cases v with
    | bool b => exact ⟨_, rfl, .inl rfl⟩
    | _ => cases h
  | int =>
    cases v with
    | int n =>
      exact ⟨.int n, by simp [convert?, DependencyValue.asInteger?, int32?_toInt], .inl rfl⟩
    | _ => cases h
  | long =>
    cases v with
    | long n => exact ⟨.long n, by simp [convert?, DependencyValue.asInteger?], .inl rfl⟩
    | _ => cases h
  | float =>
    cases v with
    | float x =>
      refine ⟨_, rfl, ?_⟩
      by_cases hx : x.reading = .notANumber
      · refine .inr ⟨_, x, rfl, rfl, ?_, hx⟩
        rw [hx, Double.reading_ofReading_notANumber, Single.reading_ofReading_notANumber]
      · exact .inl (congrArg DependencyValue.float (Single.ofReading_widened hx))
    | _ => cases h
  | double =>
    cases v with
    | double x => exact ⟨_, rfl, .inl rfl⟩
    | _ => cases h
  | text =>
    cases v with
    | text s => exact ⟨_, rfl, .inl rfl⟩
    | _ => cases h
  | object name =>
    cases v with
    | object other => exact ⟨_, if_pos h, .inl rfl⟩
    | _ => cases h

/-- What a conversion has made, it makes again. -/
theorem ParamType.convert?_convert? {p : ParamType} {v w : DependencyValue}
    (h : p.convert? v = some w) : p.convert? w = some w := by
  by_cases hp : p = .any
  · subst hp
    rfl
  by_cases hfloat : p = .float
  · subst hfloat
    simp only [convert?, Option.map_eq_some_iff] at h
    obtain ⟨x, -, rfl⟩ := h
    simp [convert?, DependencyValue.asDouble?, Single.ofReading_widened_ofReading]
  -- of the other types nothing is lost at all
  have hoptional : ∀ inner, p ≠ .optional inner := by
    rintro inner rfl
    cases h
  have hexact := acceptsExact_of_convert? hp h
  obtain ⟨w', hw', rfl | ⟨x, y, -, rfl, -, -⟩⟩ := convert?_of_acceptsExact hoptional hexact
  · exact hw'
  · cases p with
    | float => exact absurd rfl hfloat
    | optional inner => exact absurd rfl (hoptional inner)
    | _ => cases hexact

/-! ## What a parameter receives -/

theorem ParamType.coerce_of_null (p : ParamType) {v : DependencyValue} (h : v.unwrapped = .null) :
    p.coerce v = .null := by
  simp [coerce, coerce?, h, DependencyValue.isNull]

theorem ParamType.coerce_of_ne_null (p : ParamType) {v : DependencyValue}
    (h : v.unwrapped ≠ .null) : p.coerce v = (p.base.convert? v.unwrapped).getD .null := by
  rw [coerce, coerce?, if_neg (mt DependencyValue.isNull_iff.mp h)]

/-- A value that is not null becomes null where it cannot be converted. -/
theorem ParamType.coerce_eq_null_iff_convert? {p : ParamType} {v : DependencyValue}
    (h : v.unwrapped ≠ .null) : p.coerce v = .null ↔ p.base.convert? v.unwrapped = none := by
  rw [p.coerce_of_ne_null h]
  cases hw : p.base.convert? v.unwrapped with
  | none => simp
  | some w =>
    simp only [Option.getD_some, reduceCtorEq, iff_false]
    rintro rfl
    exact h (convert?_null hw)

/-- A parameter receives null or what its value is converted to. -/
theorem ParamType.coerce_cases (p : ParamType) (v : DependencyValue) :
    p.coerce v = .null ∨ p.base.convert? v.unwrapped = some (p.coerce v) := by
  by_cases h : v.unwrapped = .null
  · exact .inl (p.coerce_of_null h)
  · rw [p.coerce_of_ne_null h]
    cases hw : p.base.convert? v.unwrapped with
    | none => exact .inl rfl
    | some w => exact .inr rfl

theorem ParamType.coerce_of_base_any {p : ParamType} (hp : p.base = .any) (v : DependencyValue) :
    p.coerce v = v.unwrapped := by
  by_cases h : v.unwrapped = .null
  · rw [p.coerce_of_null h, h]
  · rw [p.coerce_of_ne_null h, hp]
    rfl

theorem ParamType.acceptsExact_coerce {p : ParamType} (hp : p.base ≠ .any) (v : DependencyValue) :
    p.coerce v = .null ∨ p.base.acceptsExact (p.coerce v) = true :=
  (p.coerce_cases v).imp_right (acceptsExact_of_convert? hp)

/-- No parameter receives an envelope. -/
theorem ParamType.unwrapped_coerce (p : ParamType) (v : DependencyValue) :
    (p.coerce v).unwrapped = p.coerce v := by
  by_cases hp : p.base = .any
  · rw [coerce_of_base_any hp, DependencyValue.unwrapped_unwrapped]
  · rcases acceptsExact_coerce hp v with h | h
    · rw [h]
      rfl
    · exact DependencyValue.unwrapped_of_acceptsExact h

theorem ParamType.coerce_of_acceptsExact {p : ParamType} {v : DependencyValue}
    (h : p.base.acceptsExact v = true) : (p.coerce v).Same v := by
  have hv := DependencyValue.unwrapped_of_acceptsExact h
  obtain ⟨w, hw, hsame⟩ := convert?_of_acceptsExact p.base_ne_optional h
  rcases p.coerce_cases v with hnull | hsome
  · by_cases hv' : v.unwrapped = .null
    · exact .inl (hnull.trans (hv'.symm.trans hv))
    · rw [coerce_eq_null_iff_convert? hv', hv, hw] at hnull
      cases hnull
  · rw [hv, hw] at hsome
    rwa [← Option.some.inj hsome]

/-- A parameter receives the integer that a number is seen as where it has room, and else
null. -/
theorem ParamType.coerce_asInteger {p : ParamType} (hp : p.base = .int ∨ p.base = .long)
    {v : DependencyValue} {n : Int} (hinteger : v.unwrapped.asInteger? = some n) :
    (p.base.HoldsInteger n → (p.coerce v).integer? = some n) ∧
      (p.coerce v = .null ↔ ¬p.base.HoldsInteger n) := by
  have hv : v.unwrapped ≠ .null := by
    intro hnull
    rw [hnull] at hinteger
    cases hinteger
  rw [coerce_eq_null_iff_convert? hv, p.coerce_of_ne_null hv]
  rcases hp with hp | hp
  · rw [hp]
    simp only [convert?, hinteger, Option.bind_some, Option.map_eq_none_iff, int32?_eq_none_iff,
      and_true]
    intro h
    rw [int32?_of_holds h]
    exact congrArg some (Int32.toInt_of_holds h)
  · rw [hp]
    simp only [convert?, hinteger, Option.map_some, reduceCtorEq, false_iff, not_not]
    exact ⟨fun h => congrArg some (Int64.toInt_of_holds h),
      DependencyValue.long_holds_of_asInteger? hinteger⟩

/-- A parameter receives an integer as it is where it has room, and else null. -/
theorem ParamType.coerce_integer {p : ParamType} (hp : p.base = .int ∨ p.base = .long)
    {v : DependencyValue} {n : Int} (hn : v.unwrapped.integer? = some n) :
    (p.base.HoldsInteger n → (p.coerce v).integer? = some n) ∧
      (p.coerce v = .null ↔ ¬p.base.HoldsInteger n) :=
  coerce_asInteger hp (DependencyValue.asInteger?_of_integer? hn)

/-- A parameter of any type receives the value without its envelopes. Every other receives
null or a value of its type, and never an envelope; it receives null, and what has its type
already, as it is, so that what it has received it would receive again. Integers it receives
as they are, if they have room, and as null if not. -/
theorem ParamType.coerce_retracts (p : ParamType) (v : DependencyValue) :
    (p.base = .any → p.coerce v = v.unwrapped) ∧
      (p.base ≠ .any → p.coerce v = .null ∨ p.base.acceptsExact (p.coerce v) = true) ∧
      (∀ w, p.coerce v ≠ .default w) ∧
      (v = .null → p.coerce v = .null) ∧
      (p.base.acceptsExact v = true → (p.coerce v).Same v) ∧
      p.coerce (p.coerce v) = p.coerce v ∧
      ∀ n, v.unwrapped.integer? = some n → p.base = .int ∨ p.base = .long →
        (p.base.HoldsInteger n → (p.coerce v).integer? = some n) ∧
          (p.coerce v = .null ↔ ¬p.base.HoldsInteger n) := by
  refine ⟨fun hp => coerce_of_base_any hp v, fun hp => acceptsExact_coerce hp v, ?_, ?_,
    coerce_of_acceptsExact, ?_, fun n hn hp => coerce_integer hp hn⟩
  · intro w
    rw [← p.unwrapped_coerce v]
    exact DependencyValue.unwrapped_ne_default _ w
  · rintro rfl
    exact p.coerce_of_null rfl
  · by_cases hnull : p.coerce v = .null
    · rw [hnull]
      exact p.coerce_of_null rfl
    · have hagain := convert?_convert? ((p.coerce_cases v).resolve_left hnull)
      have hunwrapped := p.unwrapped_coerce v
      rw [p.coerce_of_ne_null (hunwrapped.symm ▸ hnull), hunwrapped, hagain]
      rfl

/-! ## Losing a value -/

/-- What is the same for an optional type is the same for the type below it all. -/
theorem ParamType.apply_base {f : ParamType → Bool} (h : ∀ inner, f (.optional inner) = f inner)
    (p : ParamType) : f p.base = f p := by
  induction p with
  | optional inner ih => exact ih.trans (h inner).symm
  | _ => rfl

theorem ParamType.acceptsExact_base (p : ParamType) {v : DependencyValue} (hv : v ≠ .null) :
    p.base.acceptsExact v = p.acceptsExact v := by
  apply apply_base (f := (·.acceptsExact v))
  intro inner
  cases v with
  | null => exact absurd rfl hv
  | _ => rfl

theorem ParamType.acceptsPlain_base (p : ParamType) {v : DependencyValue} (hv : v ≠ .null) :
    p.base.acceptsPlain v = p.acceptsPlain v := by
  apply apply_base (f := (·.acceptsPlain v))
  intro inner
  cases v with
  | null => exact absurd rfl hv
  | _ => rfl

/-- What a type that is neither optional nor any type accepts after a conversion is a number
for a number, or has the type. -/
theorem ParamType.acceptsPlain_cases {p : ParamType} (hp : ∀ inner, p ≠ .optional inner)
    (hany : p ≠ .any) {v : DependencyValue} (h : p.acceptsPlain v = true) :
    p.isNumeric = true ∧ v.isNumeric = true ∨ p.acceptsExact v = true := by
  cases p with
  | optional inner => exact absurd rfl (hp inner)
  | any => exact absurd rfl hany
  | _ => exact (Bool.or_eq_true_iff.mp h).imp_left Bool.and_eq_true_iff.mp

/-- Numbers are converted to every type of numbers but that of integers of four bytes, and
other values to the type that they have. -/
theorem ParamType.convert?_ne_none {p : ParamType} (hp : ∀ inner, p ≠ .optional inner)
    (hint : p ≠ .int) {v : DependencyValue} (h : p.acceptsPlain v = true) :
    p.convert? v ≠ none := by
  by_cases hany : p = .any
  · subst hany
    nofun
  rcases acceptsPlain_cases hp hany h with ⟨hnumeric, hv⟩ | hexact
  · have hnumber : v.asInteger? ≠ none ∧ v.asDouble? ≠ none := by
      cases v <;> simp_all [DependencyValue.isNumeric, DependencyValue.asInteger?,
        DependencyValue.asDouble?]
    cases p with
    | int => exact absurd rfl hint
    | long => simpa [convert?] using hnumber.1
    | float | double => simpa [convert?] using hnumber.2
    | _ => cases hnumeric
  · obtain ⟨w, hw, -⟩ := convert?_of_acceptsExact hp hexact
    rw [hw]
    nofun

/-- A number is converted to an integer of four bytes unless it is beyond them. -/
theorem ParamType.convert?_int_eq_none_iff {v : DependencyValue}
    (h : ParamType.int.acceptsPlain v = true) : ParamType.int.convert? v = none ↔ v.BeyondInt := by
  have hreading : ∀ r : Reading, (int32? (r.truncateBetween longMin longMax)).map
      DependencyValue.int = none ↔ r.Beyond (-2147483648) 2147483647 := by
    intro r
    rw [Option.map_eq_none_iff, int32?_eq_none_iff, Reading.truncateBetween_holds_iff, not_not]
  cases v with
  | int n =>
    simp [convert?, DependencyValue.BeyondInt, DependencyValue.asInteger?,
      DependencyValue.integer?, DependencyValue.reading?, int32?_toInt, int_holds]
  | long n =>
    simp [convert?, DependencyValue.BeyondInt, DependencyValue.asInteger?,
      DependencyValue.integer?, DependencyValue.reading?, int32?_eq_none_iff]
  | float x =>
    simpa [convert?, DependencyValue.BeyondInt, DependencyValue.asInteger?,
      DependencyValue.integer?, DependencyValue.reading?] using hreading x.reading
  | double x =>
    simpa [convert?, DependencyValue.BeyondInt, DependencyValue.asInteger?,
      DependencyValue.integer?, DependencyValue.reading?] using hreading x.reading
  | _ => cases h

/-- A value that fits after a conversion is lost only if it is a number beyond the integers of
four bytes that its parameter takes. -/
theorem ParamType.coerce_eq_null_iff {p : ParamType} {v : DependencyValue}
    (hfits : p.acceptsCompatible v = true) (hv : v.unwrapped ≠ .null) :
    p.coerce v = .null ↔ p.base = .int ∧ v.unwrapped.BeyondInt := by
  rw [acceptsCompatible, ← p.acceptsPlain_base hv] at hfits
  rw [coerce_eq_null_iff_convert? hv]
  by_cases hint : p.base = .int
  · rw [hint] at hfits ⊢
    rw [convert?_int_eq_none_iff hfits]
    simp
  · have := convert?_ne_none p.base_ne_optional hint hfits
    simp [this, hint]

/-- A value that fits exactly is not lost. -/
theorem ParamType.coerce_ne_null {p : ParamType} {v : DependencyValue}
    (hfits : p.acceptsExact v = true) (hv : v ≠ .null) : p.coerce v ≠ .null := by
  intro hnull
  rw [← p.acceptsExact_base hv] at hfits
  rcases coerce_of_acceptsExact hfits with hsame | ⟨x, y, hfloat, -⟩
  · exact hv (hsame.symm.trans hnull)
  · rw [hnull] at hfloat
    cases hfloat

/-! ## What constructors receive -/

/-- Each argument is accepted by the parameter in its place. -/
theorem acceptsEach_getElem? {accepts : ParamType → DependencyValue → Bool}
    {ps : List ParamType} {vs : List DependencyValue} (h : acceptsEach accepts ps vs = true)
    {k : Nat} {p : ParamType} {v : DependencyValue} (hp : ps[k]? = some p) (hv : vs[k]? = some v) :
    accepts p v = true := by
  induction ps generalizing vs k with
  | nil => cases hp
  | cons p' ps ih =>
    cases vs with
    | nil => cases hv
    | cons v' vs =>
      obtain ⟨hhead, htail⟩ := Bool.and_eq_true_iff.mp h
      cases k with
      | zero =>
        cases hp
        cases hv
        exact hhead
      | succ k => exact ih htail hp hv

/-- What is invoked is a candidate, and it receives its arguments converted. -/
theorem instantiate_invoked_mem {syntheticFallback : Bool} {f : Factory} {d : Descriptor}
    {args : List DependencyValue} {earlier : List Invocation} {i : Invocation}
    (h : i ∈ (instantiate syntheticFallback f d args earlier).invoked) :
    ∃ c ∈ f.candidates args, i = c.invocation args := by
  rw [instantiate_invoked, tryCandidates_invoked] at h
  obtain ⟨attempt, hattempt, rfl⟩ := List.mem_map.mp h
  have hi : attempt.1 ∈ (attempts d args ((f.candidates args).map (·.declared)) earlier).map
      (·.1) := List.mem_map_of_mem ((upToFirst_sublist _ _).subset hattempt)
  rw [attempts_map_fst, List.map_map] at hi
  obtain ⟨c, hc, heq⟩ := List.mem_map.mp hi
  exact ⟨c, hc, heq.symm.trans (c.invocation_eq args).symm⟩

theorem coerceArguments_getElem? {ps : List ParamType} {vs : List DependencyValue} {k : Nat}
    {p : ParamType} {v w : DependencyValue} (hp : ps[k]? = some p) (hv : vs[k]? = some v)
    (hw : (coerceArguments ps vs)[k]? = some w) : w = p.coerce v := by
  rw [coerceArguments_eq_zipWith, List.getElem?_zipWith, hp, hv] at hw
  exact (Option.some.inj hw).symm

/-- A constructor that is invoked because its parameters fit exactly receives no null for an
argument that is not null below its envelopes. One whose parameters fit after a conversion
receives null for such an argument just where the argument is a number and the parameter is
one of integers of four bytes that the integer part of the number is not among. -/
theorem instantiate_loses_iff {syntheticFallback : Bool} {f : Factory} {d : Descriptor}
    {args : List DependencyValue} {earlier : List Invocation} {i : Invocation}
    (hi : i ∈ (instantiate syntheticFallback f d args earlier).invoked) :
    ∃ c t, f.constructors[i.position]? = some c ∧ tierOf? c.params args = some t ∧
      c.params.length = args.length ∧ i.arguments.length = args.length ∧
      ∀ (k : Nat) (p : ParamType) (v w : DependencyValue), c.params[k]? = some p →
        args[k]? = some v → i.arguments[k]? = some w → v.unwrapped ≠ .null →
          (t = .exact → w ≠ .null) ∧
          (t = .compatible → (w = .null ↔ p.base = .int ∧ v.unwrapped.BeyondInt)) := by
  obtain ⟨c, hc, rfl⟩ := instantiate_invoked_mem hi
  obtain ⟨hplace, htier⟩ := mem_candidates hc
  have hlength : c.constructor.params.length = args.length := (tierOf?_eq_some_iff.mp htier).1
  have hfits : c.tier.fits c.constructor.params args = true := (List.find?_some htier :)
  refine ⟨c.constructor, c.tier, hplace, htier, hlength, ?_, ?_⟩
  · simp [Candidate.invocation, coerceArguments_eq_zipWith, hlength]
  · intro k p v w hp hv hw hnull
    obtain rfl : w = p.coerce v := coerceArguments_getElem? hp hv hw
    constructor
    · intro ht
      rw [ht] at hfits
      have hexact := acceptsEach_getElem? hfits hp hv
      rw [DependencyValue.unwrapped_of_acceptsExact hexact] at hnull
      exact ParamType.coerce_ne_null hexact hnull
    · intro ht
      rw [ht] at hfits
      exact ParamType.coerce_eq_null_iff (acceptsEach_getElem? hfits hp hv) hnull

/-- A factory whose one constructor takes two integers of four bytes, the second an optional
one. -/
def Factory.integral : Factory :=
  ⟨"e", [⟨[.int, .optional .int], fun d _ => .ok (.synthetic d)⟩], false⟩

/-- An integer of eight bytes that has no room in four is lost, though its constructor is
invoked because the arguments fit after a conversion. -/
theorem instantiate_may_lose :
    ¬∀ (syntheticFallback : Bool) (f : Factory) (d : Descriptor) (args : List DependencyValue),
      ∀ i ∈ (instantiate syntheticFallback f d args).invoked, ∀ (c : Constructor) (t : Tier),
        f.constructors[i.position]? = some c → tierOf? c.params args = some t → t ≠ .arity →
          ∀ (k : Nat) (v w : DependencyValue), args[k]? = some v → i.arguments[k]? = some w →
            v.unwrapped ≠ .null → w ≠ .null := by
  intro hkept
  exact hkept false .integral (.ofId "a") [.int 1, .long 2147483648] ⟨0, [.int 1, .null]⟩
    (by decide) _ .compatible rfl rfl nofun 1 _ _ rfl rfl nofun rfl

/-- The greatest integer of four bytes is received from one of eight, and the next greater one
in an envelope is lost. -/
theorem instantiate_loses_next :
    (⟨0, [.int 2147483647, .null]⟩ : Invocation) ∈ (instantiate false .integral (.ofId "a")
        [.long 2147483647, .default (.long 2147483648)]).invoked ∧
      ¬(DependencyValue.long 2147483647).BeyondInt ∧
      (DependencyValue.long 2147483648).BeyondInt := by
  have hi : (⟨0, [.int 2147483647, .null]⟩ : Invocation) ∈ (instantiate false .integral
      (.ofId "a") [.long 2147483647, .default (.long 2147483648)]).invoked := by decide
  obtain ⟨c, t, hc, ht, -, -, hloses⟩ := instantiate_loses_iff hi
  cases hc
  cases ht
  have hkept := (hloses 0 _ _ _ rfl rfl rfl nofun).2 rfl
  have hlost := (hloses 1 _ _ _ rfl rfl rfl nofun).2 rfl
  refine ⟨hi, ?_, (hlost.mp rfl).2⟩
  intro hbeyond
  cases hkept.mpr ⟨rfl, hbeyond⟩

end ExtensionHost
