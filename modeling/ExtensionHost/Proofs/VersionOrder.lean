import ExtensionHost.Proofs.Digits
import ExtensionHost.Version

/-!
# The order of versions

Which version may take the place of which: versions that start with a number are compared by
that number and by nothing else of them, and any other version stands for itself alone. So the
versions are preordered, and those that start with a number totally.
-/

namespace ExtensionHost

/-! ## The number that a version starts with -/

/-- A letter that may stand in front of a version. -/
def isVersionLetter (c : Char) : Bool :=
  c == 'v' || c == 'V'

/-- A version starts with a number: behind blanks and letters v there are the decimal digits of
the number, and no further digit follows them. A number that takes up more than eight bytes is
none. What follows the digits does not matter, blanks at the end included. -/
def StartsWithNumber (version : String) (n : Nat) : Prop :=
  ∃ blanks letters digits rest, version.toList = blanks ++ (letters ++ (digits ++ rest)) ∧
    (∀ c ∈ blanks, isBlank c = true) ∧ (∀ c ∈ letters, isVersionLetter c = true) ∧
    digits ≠ [] ∧ (∀ c ∈ digits, c.isDigit = true) ∧
    (∀ c, rest.head? = some c → c.isDigit = false) ∧
    Nat.ofDigitChars 10 digits 0 = n ∧ n < UInt64.size

/-- Neither a digit nor a letter v is blank. -/
theorem isBlank_of_versionChar {c : Char} (h : isVersionLetter c = true ∨ isDigit c = true) :
    isBlank c = false := by
  rcases h with h | h
  · rcases Bool.or_eq_true_iff.mp h with h | h <;> rw [beq_iff_eq.mp h] <;> decide
  · have hrange := isDigit_toNat h
    simp only [isBlank, Bool.or_eq_false_iff, Bool.and_eq_false_iff, decide_eq_false_iff_not,
      beq_eq_false_iff_ne, ne_eq]
    omega

/-- A digit is no letter v. -/
theorem isVersionLetter_of_isDigit {c : Char} (h : isDigit c = true) :
    isVersionLetter c = false := by
  simp [isVersionLetter, ne_of_isDigit h (d := 'v') rfl, ne_of_isDigit h (d := 'V') rfl]

/-- What is taken off the end of a text in trimming is blank. -/
theorem dropWhile_isBlank_eq (cs : List Char) :
    ∃ back, cs.dropWhile isBlank = trimBlank cs ++ back ∧ ∀ c ∈ back, isBlank c = true := by
  refine ⟨((cs.dropWhile isBlank).reverse.takeWhile isBlank).reverse, ?_, fun c hc => ?_⟩
  · rw [trimBlank, ← List.reverse_append, List.takeWhile_append_dropWhile, List.reverse_reverse]
  · exact List.all_eq_true.mp List.all_takeWhile c (List.mem_reverse.mp hc)

/-- What no character of is dropped or taken makes no difference at the end of a list. -/
theorem takeWhile_dropWhile_append {p q : Char → Bool} {xs back : List Char}
    (hback : ∀ c ∈ back, p c = false ∧ q c = false) :
    ((xs ++ back).dropWhile p).takeWhile q = (xs.dropWhile p).takeWhile q := by
  have hdrop : back.dropWhile p = back ∧ back.takeWhile q = [] := by
    cases back with
    | nil => exact ⟨rfl, rfl⟩
    | cons c cs =>
      obtain ⟨hp, hq⟩ := hback c List.mem_cons_self
      simp [hp, hq]
  rw [List.dropWhile_append]
  split
  next hnone =>
    rw [hdrop.1, hdrop.2, List.isEmpty_iff.mp hnone, List.takeWhile_nil]
  next =>
    rw [List.takeWhile_append, hdrop.2, List.append_nil]
    split
    next hall => exact ((List.takeWhile_sublist q).eq_of_length hall).symm
    next => rfl

/-- Blanks at the end of a version make no difference to its digits. -/
theorem versionDigits_eq (version : String) :
    versionDigits version =
      ((version.toList.dropWhile isBlank).dropWhile isVersionLetter).takeWhile isDigit := by
  obtain ⟨back, happend, hback⟩ := dropWhile_isBlank_eq version.toList
  rw [happend, takeWhile_dropWhile_append]
  · rfl
  · intro c hc
    constructor
    · cases hletter : isVersionLetter c with
      | false => rfl
      | true => exact absurd (isBlank_of_versionChar (.inl hletter)) (by simp [hback c hc])
    · cases hdigit : isDigit c with
      | false => rfl
      | true => exact absurd (isBlank_of_versionChar (.inr hdigit)) (by simp [hback c hc])

/-- The digits of a version are those that stand behind blanks and letters v. -/
theorem versionDigits_of_append {version : String} {blanks letters digits rest : List Char}
    (hversion : version.toList = blanks ++ (letters ++ (digits ++ rest)))
    (hblanks : ∀ c ∈ blanks, isBlank c = true)
    (hletters : ∀ c ∈ letters, isVersionLetter c = true) (hne : digits ≠ [])
    (hdigits : ∀ c ∈ digits, isDigit c = true)
    (hrest : ∀ c, rest.head? = some c → isDigit c = false) : versionDigits version = digits := by
  obtain ⟨d, ds, rfl⟩ := List.exists_cons_of_ne_nil hne
  have hd : isDigit d = true := hdigits d List.mem_cons_self
  have hbehind : (letters ++ (d :: ds ++ rest)).dropWhile isBlank =
      letters ++ (d :: ds ++ rest) := by
    cases letters with
    | nil => simp [isBlank_of_versionChar (.inr hd)]
    | cons c cs => simp [isBlank_of_versionChar (.inl (hletters c List.mem_cons_self))]
  have hend : rest.takeWhile isDigit = [] := by
    cases rest with
    | nil => rfl
    | cons c cs => simp [hrest c rfl]
  rw [versionDigits_eq, hversion, List.dropWhile_append_of_pos hblanks, hbehind,
    List.dropWhile_append_of_pos hletters, List.cons_append,
    List.dropWhile_cons_of_neg (by simp [isVersionLetter_of_isDigit hd]), ← List.cons_append,
    List.takeWhile_append_of_pos hdigits, hend, List.append_nil]

/-- The number of a version is the one that its digits write, if there are any and it has
room. -/
theorem leadingNumber?_eq_some_iff {version : String} {n : Nat} :
    leadingNumber? version = some n ↔ versionDigits version ≠ [] ∧
      Nat.ofDigitChars 10 (versionDigits version) 0 = n ∧ n < UInt64.size := by
  have hdigits : ∀ c ∈ versionDigits version, isDigit c = true :=
    List.all_eq_true.mp List.all_takeWhile
  have hall : (versionDigits version).all (fun c => (digitIn? 10 c).isSome) = true :=
    List.all_eq_true.mpr hdigits
  have hvalue : numberOfDigits 10 (versionDigits version) =
      Nat.ofDigitChars 10 (versionDigits version) 0 :=
    numberOfDigits_eq fun c hc => (isDigit_eq c).symm.trans (hdigits c hc)
  have hlimit (m : Nat) : m ≤ versionLimit ↔ m < UInt64.size := Nat.lt_succ_iff.symm
  unfold leadingNumber? parseDigits?
  rw [hall, hvalue, Bool.and_true]
  cases hempty : (versionDigits version).isEmpty with
  | true => simp [List.isEmpty_iff.mp hempty]
  | false =>
    have hne : versionDigits version ≠ [] := List.isEmpty_eq_false_iff.mp hempty
    simp only [Bool.not_false, if_true, Option.ite_none_right_eq_some, Option.some.injEq, hlimit,
      hne, ne_eq, not_false_eq_true, true_and]
    constructor
    · rintro ⟨hsize, rfl⟩
      exact ⟨rfl, hsize⟩
    · rintro ⟨rfl, hsize⟩
      exact ⟨hsize, rfl⟩

/-- The number is found exactly where a version starts with it. -/
theorem startsWithNumber_iff {version : String} {n : Nat} :
    StartsWithNumber version n ↔ leadingNumber? version = some n := by
  rw [leadingNumber?_eq_some_iff]
  symm
  constructor
  · rintro ⟨hne, hn, hsize⟩
    -- The version is cut where its digits are looked for.
    have hcut : version.toList = version.toList.takeWhile isBlank ++
        ((version.toList.dropWhile isBlank).takeWhile isVersionLetter ++
          (versionDigits version ++
            ((version.toList.dropWhile isBlank).dropWhile isVersionLetter).dropWhile isDigit)) := by
      simp only [versionDigits_eq, List.takeWhile_append_dropWhile]
    refine ⟨_, _, _, _, hcut, List.all_eq_true.mp List.all_takeWhile,
      List.all_eq_true.mp List.all_takeWhile, hne, fun c hc => ?_, fun c hc => ?_, hn, hsize⟩
    · exact (isDigit_eq c).symm.trans (List.all_eq_true.mp List.all_takeWhile c hc)
    · have hstop := List.head?_dropWhile_not isDigit
        ((version.toList.dropWhile isBlank).dropWhile isVersionLetter)
      rw [hc] at hstop
      exact (isDigit_eq c).symm.trans hstop
  · rintro ⟨blanks, letters, digits, rest, hversion, hblanks, hletters, hne, hdigits, hrest, hn,
      hsize⟩
    have hfound : versionDigits version = digits :=
      versionDigits_of_append hversion hblanks hletters hne
        (fun c hc => (isDigit_eq c).trans (hdigits c hc))
        fun c hc => (isDigit_eq c).trans (hrest c hc)
    rw [hfound]
    exact ⟨hne, hn, hsize⟩

/-! ## The relation -/

/-- The check passes the change from one version of an extension to another. -/
def MayBecome (id fromVersion toVersion : String) : Prop :=
  checkVersionCompatibility id fromVersion toVersion = .ok ()

variable {id a b c : String} {m n : Nat}

theorem isCompatible_iff : isCompatible a b = true ↔
    a = b ∨ ∃ m n, StartsWithNumber a m ∧ StartsWithNumber b n ∧ m ≤ n := by
  simp only [startsWithNumber_iff, isCompatible, Bool.or_eq_true,
    beq_iff_eq]
  cases leadingNumber? a <;> cases leadingNumber? b <;> simp

/-- The check passes the same text, and a number that does not become smaller. -/
theorem mayBecome_iff : MayBecome id a b ↔
    a = b ∨ ∃ m n, StartsWithNumber a m ∧ StartsWithNumber b n ∧ m ≤ n := by
  rw [← isCompatible_iff, MayBecome, checkVersionCompatibility]
  split
  next h => exact iff_of_true rfl h
  next h => exact iff_of_false nofun h

/-- A version starts with one number at most. -/
theorem StartsWithNumber.unique (hm : StartsWithNumber a m) (hn : StartsWithNumber a n) :
    m = n := by
  rw [startsWithNumber_iff] at hm hn
  exact Option.some.inj (hm.symm.trans hn)

/-- Of versions that start with a number, nothing but the number counts. -/
theorem mayBecome_iff_le (hm : StartsWithNumber a m) (hn : StartsWithNumber b n) :
    MayBecome id a b ↔ m ≤ n := by
  rw [mayBecome_iff]
  constructor
  · rintro (rfl | ⟨m', n', hm', hn', hle⟩)
    · exact Nat.le_of_eq (hm.unique hn)
    · rwa [hm.unique hm', hn.unique hn']
  · exact fun hle => .inr ⟨m, n, hm, hn, hle⟩

theorem MayBecome.trans (hab : MayBecome id a b) (hbc : MayBecome id b c) : MayBecome id a c := by
  -- Where one of the two texts is the same, the other change is the whole; else the number in
  -- the middle is one and the same.
  rcases mayBecome_iff.mp hab with rfl | ⟨l, m, hl, hm, hle⟩
  · exact hbc
  rcases mayBecome_iff.mp hbc with rfl | ⟨m', n, hm', hn, hle'⟩
  · exact hab
  obtain rfl := hm.unique hm'
  exact mayBecome_iff.mpr (.inr ⟨l, n, hl, hn, Nat.le_trans hle hle'⟩)

/-- The check preorders the versions. Those that start with a number are preordered totally, by
that number alone; any other version is related to no text but its own. What does not pass is
reported as it is. -/
theorem mayBecome_preorder (id : String) :
    (∀ a, MayBecome id a a) ∧ (∀ a b c, MayBecome id a b → MayBecome id b c → MayBecome id a c) ∧
    (∀ a b, (∃ m, StartsWithNumber a m) → (∃ n, StartsWithNumber b n) →
      MayBecome id a b ∨ MayBecome id b a) ∧
    (∀ a b m n, StartsWithNumber a m → StartsWithNumber b n → (MayBecome id a b ↔ m ≤ n)) ∧
    (∀ a b, a ≠ b → (∀ n, ¬StartsWithNumber a n) ∨ (∀ n, ¬StartsWithNumber b n) →
      ¬MayBecome id a b ∧ ¬MayBecome id b a) ∧
    ∀ a b e, checkVersionCompatibility id a b = .error e → e = .versionIncompatibility id a b := by
  refine ⟨fun a => mayBecome_iff.mpr (.inl rfl), fun a b c => .trans, ?_, ?_, ?_, ?_⟩
  · rintro a b ⟨m, hm⟩ ⟨n, hn⟩
    rw [mayBecome_iff_le hm hn, mayBecome_iff_le hn hm]
    exact Nat.le_total m n
  · exact fun a b m n hm hn => mayBecome_iff_le hm hn
  · intro a b hne hno
    simp only [mayBecome_iff, hne, hne.symm, false_or]
    constructor <;> rintro ⟨m, n, hm, hn, -⟩ <;> rcases hno with hno | hno
    · exact hno m hm
    · exact hno n hn
    · exact hno n hn
    · exact hno m hm
  · intro a b e he
    unfold checkVersionCompatibility at he
    split at he
    · cases he
    · exact (Except.error.inj he).symm

/-- Seven may become eight but not the other way round, and a number beyond eight bytes takes no
other version's place, not even that of a smaller number. -/
theorem mayBecome_from_seven_to_eight :
    let huge := "18446744073709551616"
    MayBecome "echo" " v007-rc " "V8" ∧ ¬MayBecome "echo" "V8" " v007-rc " ∧
      MayBecome "echo" "V8" "V8" ∧ MayBecome "echo" huge huge ∧ ¬MayBecome "echo" "V8" huge ∧
      checkVersionCompatibility "echo" "V8" huge =
        .error (.versionIncompatibility "echo" "V8" huge) := by
  intro huge
  have hseven : StartsWithNumber " v007-rc " 7 :=
    startsWithNumber_iff.mpr (by decide +kernel)
  have height : StartsWithNumber "V8" 8 :=
    startsWithNumber_iff.mpr (by decide +kernel)
  have hhuge : ∀ n, ¬StartsWithNumber huge n := by
    intro n hn
    have hnone : leadingNumber? huge = none := by decide +kernel
    cases hnone.symm.trans (startsWithNumber_iff.mp hn)
  obtain ⟨hrefl, -, -, hle, hapart, herror⟩ := mayBecome_preorder "echo"
  obtain ⟨hno, -⟩ := hapart "V8" huge (by decide +kernel) (.inr hhuge)
  refine ⟨(hle _ _ _ _ hseven height).mpr (by decide), fun hback => ?_, hrefl _, hrefl _, hno, ?_⟩
  · exact absurd ((hle _ _ _ _ height hseven).mp hback) (by decide)
  · cases hcheck : checkVersionCompatibility "echo" "V8" huge with
    | ok _ => exact absurd hcheck hno
    | error e => rw [herror _ _ _ hcheck]

end ExtensionHost
