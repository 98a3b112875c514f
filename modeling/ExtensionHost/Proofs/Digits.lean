import ExtensionHost.Text.Number

/-!
# Decimal digits

What the readers of numbers take for a digit are the decimal digits, and a list of them is read
as the number that it writes. The digits that a number is written with are read as that number.
-/

namespace ExtensionHost

/-! ## One digit -/

/-- A decimal digit is its distance from zero. -/
theorem digitIn?_ten {c : Char} (h : c.isDigit = true) : digitIn? 10 c = some (c.toNat - 48) := by
  have hrange : 48 ≤ c.toNat ∧ c.toNat ≤ 57 := by
    simp only [Char.isDigit, Bool.and_eq_true, decide_eq_true_eq] at h
    exact ⟨UInt32.le_iff_toNat_le.mp h.1, UInt32.le_iff_toNat_le.mp h.2⟩
  have hsmall : c.toNat - 48 < 10 := by omega
  simp [digitIn?, hrange, hsmall]

/-- A digit lies between zero and nine. -/
theorem isDigit_toNat {c : Char} (h : isDigit c = true) : 48 ≤ c.toNat ∧ c.toNat ≤ 57 := by
  simp only [isDigit, digitIn?, Option.isSome_ite, Bool.and_eq_true, decide_eq_true_eq] at h
  (repeat' split at h) <;> omega

/-- The digits are the decimal digits. -/
theorem isDigit_eq (c : Char) : isDigit c = c.isDigit := by
  apply Bool.eq_iff_iff.mpr
  constructor
  · intro h
    obtain ⟨hlow, hhigh⟩ := isDigit_toNat h
    simp only [Char.isDigit, Bool.and_eq_true, decide_eq_true_eq]
    exact ⟨UInt32.le_iff_toNat_le.mpr hlow, UInt32.le_iff_toNat_le.mpr hhigh⟩
  · intro h
    simp [isDigit, digitIn?_ten h]

/-- A digit is no character that is none. -/
theorem ne_of_isDigit {c d : Char} (hc : isDigit c = true) (hd : isDigit d = false) : c ≠ d := by
  rintro rfl
  exact Bool.false_ne_true (hd.symm.trans hc)

/-! ## Lists of digits -/

/-- A list of digits is read as the number that it writes. -/
theorem numberOfDigits_eq {cs : List Char} (h : ∀ c ∈ cs, c.isDigit = true) :
    numberOfDigits 10 cs = Nat.ofDigitChars 10 cs 0 := by
  have hfold : ∀ (cs : List Char) (m : Nat), (∀ c ∈ cs, c.isDigit = true) →
      cs.foldl (fun n c => n * 10 + (digitIn? 10 c).getD 0) m = Nat.ofDigitChars 10 cs m := by
    intro cs
    induction cs with
    | nil => intro m _; rfl
    | cons c cs ih =>
      intro m h
      have hc := digitIn?_ten (h c (by simp))
      have hzero : '0'.toNat = 48 := rfl
      simp only [List.foldl_cons, Nat.ofDigitChars, hc, Option.getD_some, Nat.mul_comm m 10, hzero]
      exact ih _ fun d hd => h d (by simp [hd])
  exact hfold cs 0 h

/-- The digits of a number are digits to the reader. -/
theorem isDigit_of_mem_toDigits {n : Nat} {c : Char} (h : c ∈ Nat.toDigits 10 n) :
    isDigit c = true :=
  (isDigit_eq c).trans (Nat.isDigit_of_mem_toDigits (by decide) (by decide) h)

/-- The digits of a number write the number. -/
theorem numberOfDigits_toDigits (n : Nat) : numberOfDigits 10 (Nat.toDigits 10 n) = n := by
  have hdigits : ∀ c ∈ Nat.toDigits 10 n, c.isDigit = true :=
    fun c hc => Nat.isDigit_of_mem_toDigits (by decide) (by decide) hc
  exact (numberOfDigits_eq hdigits).trans Nat.ofDigitChars_ten_toDigits

/-- Only zero is written with a zero in front. -/
theorem toDigits_eq_zero_cons {n : Nat} {ds : List Char} (h : Nat.toDigits 10 n = '0' :: ds) :
    ds = [] := by
  induction n using Nat.strongRecOn generalizing ds with
  | ind n ih =>
    rcases Nat.lt_or_ge n 10 with hsmall | hlarge
    · rw [Nat.toDigits_of_lt_base hsmall] at h
      exact (List.cons.inj h).2.symm
    · rw [Nat.toDigits_of_base_le (by decide) hlarge] at h
      obtain ⟨d, ds', hd⟩ :=
        List.exists_cons_of_ne_nil (Nat.toDigits_ne_nil (n := n / 10) (b := 10))
      rw [hd, List.cons_append] at h
      obtain ⟨rfl, -⟩ := List.cons.inj h
      have hnil := ih (n / 10) (by omega) hd
      -- a single zero in front would make the number less than ten
      have hzero : n / 10 = 0 := by
        have := numberOfDigits_toDigits (n / 10)
        rw [hd, hnil] at this
        simpa [numberOfDigits, digitIn?] using this.symm
      omega

end ExtensionHost
