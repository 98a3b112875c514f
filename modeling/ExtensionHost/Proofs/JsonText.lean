import ExtensionHost.Json.Reader
import ExtensionHost.Proofs.Digits

/-!
# Reading back the compact text of a value

The compact text of a JSON value is read as that value: every string of it with
whatever characters, every integer, arrays and objects however deep. Each reader is
given the text that belongs to it and whatever follows, so that the readers of values
compose the way the texts do. All that has to be known of what follows a value is that
it does not carry on a number.
-/

namespace ExtensionHost

/-! ## Digits -/

/-- A digit is no blank. -/
theorem isJsonBlank_of_isDigit {c : Char} (h : isDigit c = true) : isJsonBlank c = false := by
  have hne := fun d (hd : isDigit d = false) => beq_false_of_ne (ne_of_isDigit h hd)
  simp [isJsonBlank, hne ' ' rfl, hne '\n' rfl, hne '\t' rfl, hne '\r' rfl]

/-! ## What may follow a value -/

/-- What stands behind a value in a compact text: nothing, a comma, or the end of what
the value lies in. -/
def EndsValue (rest : List Char) : Prop :=
  ∀ c, rest.head? = some c → c = ',' ∨ c = ']' ∨ c = Char.ofNat 0x7D

theorem endsValue_nil : EndsValue [] := by
  intro c h
  simp at h

theorem endsValue_comma (rest : List Char) : EndsValue (',' :: rest) := by
  intro c h
  simp only [List.head?_cons, Option.some.injEq] at h
  exact .inl h.symm

theorem endsValue_bracket (rest : List Char) : EndsValue (']' :: rest) := by
  intro c h
  simp only [List.head?_cons, Option.some.injEq] at h
  exact .inr (.inl h.symm)

theorem endsValue_brace (rest : List Char) : EndsValue (Char.ofNat 0x7D :: rest) := by
  intro c h
  simp only [List.head?_cons, Option.some.injEq] at h
  exact .inr (.inr h.symm)

/-- What follows a value does not begin with a character that a number could go on with. -/
theorem EndsValue.head_ne {c : Char} {rest : List Char} (h : EndsValue (c :: rest)) :
    isDigit c = false ∧ c ≠ '.' ∧ c ≠ 'e' ∧ c ≠ 'E' := by
  rcases h c rfl with rfl | rfl | rfl <;> decide

/-! ## Integers -/

/-- The digits that lie in front of what follows a value. -/
theorem takeWhile_isDigit_toDigits (n : Nat) {rest : List Char} (h : EndsValue rest) :
    (Nat.toDigits 10 n ++ rest).takeWhile isDigit = Nat.toDigits 10 n := by
  rw [List.takeWhile_append_of_pos fun c hc => isDigit_of_mem_toDigits hc]
  cases rest with
  | nil => simp
  | cons c rest => simp [h.head_ne.1]

/-- What is left behind the digits. -/
theorem dropWhile_isDigit_toDigits (n : Nat) {rest : List Char} (h : EndsValue rest) :
    (Nat.toDigits 10 n ++ rest).dropWhile isDigit = rest := by
  rw [List.dropWhile_append_of_pos fun c hc => isDigit_of_mem_toDigits hc]
  cases rest with
  | nil => simp
  | cons c rest => simp [h.head_ne.1]

/-- The digits of a number are read as a whole, and no more than they. -/
theorem readWholePart_toDigits (n : Nat) {rest : List Char} (h : EndsValue rest) :
    readWholePart (Nat.toDigits 10 n ++ rest) = some (Nat.toDigits 10 n, rest) := by
  have htake := takeWhile_isDigit_toDigits n h
  have hdrop := dropWhile_isDigit_toDigits n h
  unfold readWholePart
  rw [htake]
  split
  case h_1 hnil => exact absurd hnil Nat.toDigits_ne_nil
  case h_2 hzero => simp [hzero]
  case h_3 ds hne hzero =>
    have hnil := toDigits_eq_zero_cons hzero
    exact absurd hnil hne
  case h_4 => rw [hdrop]

/-- What follows a value is no fraction. -/
theorem readFraction_rest {rest : List Char} (h : EndsValue rest) :
    readFraction rest = some ([], rest) := by
  cases rest with
  | nil => rfl
  | cons c rest => simp [readFraction, h.head_ne.2.1]

/-- What follows a value is no exponent. -/
theorem readExponent_rest {rest : List Char} (h : EndsValue rest) :
    readExponent rest = some (none, rest) := by
  cases rest with
  | nil => rfl
  | cons c rest => simp [readExponent, h.head_ne.2.2]

/-- The text of an integer begins with a minus or a digit. -/
theorem intChars_eq_cons (n : Int) :
    ∃ c cs, intChars n = c :: cs ∧ (c = '-' ∨ isDigit c = true) := by
  unfold intChars
  split
  · exact ⟨'-', _, rfl, .inl rfl⟩
  · obtain ⟨d, ds, hd⟩ :=
      List.exists_cons_of_ne_nil (Nat.toDigits_ne_nil (n := n.natAbs) (b := 10))
    exact ⟨d, ds, hd, .inr (isDigit_of_mem_toDigits (hd ▸ List.mem_cons_self))⟩

/-- An integer is read back. -/
theorem readJsonNumber_intChars (n : Int) {rest : List Char} (h : EndsValue rest) :
    readJsonNumber (intChars n ++ rest) = some (.int n, rest) := by
  have hwhole := readWholePart_toDigits n.natAbs h
  have hvalue := numberOfDigits_toDigits n.natAbs
  by_cases hneg : n < 0
  · have hnonzero : (n.natAbs == 0) = false := beq_eq_false_iff_ne.mpr (by omega)
    have habs : -(n.natAbs : Int) = n := by omega
    simp only [intChars, hneg, if_true, List.cons_append, readJsonNumber, hwhole,
      Option.bind_eq_bind, Option.bind_some, readFraction_rest h, readExponent_rest h, hvalue,
      hnonzero]
    exact congrArg (fun k => some (Json.int k, rest)) habs
  · obtain ⟨d, ds, hd⟩ :=
      List.exists_cons_of_ne_nil (Nat.toDigits_ne_nil (n := n.natAbs) (b := 10))
    have hdigit : isDigit d = true := isDigit_of_mem_toDigits (hd ▸ List.mem_cons_self)
    have hminus : d ≠ '-' := ne_of_isDigit hdigit rfl
    have habs : (n.natAbs : Int) = n := by omega
    rw [hd] at hwhole hvalue
    rw [List.cons_append] at hwhole
    simp [intChars, hneg, hd, readJsonNumber, hminus, hwhole, readFraction_rest h,
      readExponent_rest h, hvalue, habs]

/-! ## Strings -/

/-- The digits of an escape are read back. -/
theorem digitIn?_hexDigit {n : Nat} (h : n < 16) : digitIn? 16 (hexDigit n) = some n := by
  have hall : ∀ n < 16, digitIn? 16 (hexDigit n) = some n := by decide
  exact hall n h

/-- The four digits of a control character are read back. -/
theorem readHex4_control {n : Nat} (h : n < 32) (rest : List Char) :
    readHex4 ('0' :: '0' :: hexDigit (n / 16) :: hexDigit (n % 16) :: rest) = some (n, rest) := by
  have hhigh := digitIn?_hexDigit (n := n / 16) (by omega)
  have hlow := digitIn?_hexDigit (n := n % 16) (by omega)
  have hzero : digitIn? 16 '0' = some 0 := by decide
  simp only [readHex4, hzero, hhigh, hlow, Option.bind_eq_bind, Option.bind_some, pure,
    Option.some.injEq, Prod.mk.injEq, and_true]
  omega

/-- A character as it is written in a string is read as that character, whatever comes
after it. -/
theorem readStringUnits_escape (c : Char) (fuel : Nat) (rest : List Char) :
    readStringUnits (fuel + 1) (escapeJsonChar c ++ rest) =
      (readStringUnits fuel rest).map fun (units, left) => (.char c :: units, left) := by
  unfold escapeJsonChar
  split
  case isTrue h => simp [readStringUnits, beq_iff_eq.mp h]
  split
  case isTrue h => simp [readStringUnits, beq_iff_eq.mp h]
  split
  case isTrue h => simp [readStringUnits, beq_iff_eq.mp h]
  split
  case isTrue h => simp [readStringUnits, beq_iff_eq.mp h]
  split
  case isTrue h => simp [readStringUnits, beq_iff_eq.mp h]
  split
  case isTrue h =>
    obtain rfl : Char.ofNat 8 = c := by rw [← beq_iff_eq.mp h, Char.ofNat_toNat]
    simp [readStringUnits]
  split
  case isTrue h =>
    obtain rfl : Char.ofNat 12 = c := by rw [← beq_iff_eq.mp h, Char.ofNat_toNat]
    simp [readStringUnits]
  split
  case isTrue h =>
    have hhex := readHex4_control h rest
    have hpair : ¬(0xD800 ≤ c.toNat ∧ c.toNat < 0xE000) := by omega
    cases hunits : readStringUnits fuel rest <;>
      simp [readStringUnits, hhex, hunits, hpair, Char.ofNat_toNat]
  case isFalse hquote hslash _ _ _ _ _ hcontrol =>
    simp [readStringUnits, hquote, hslash, hcontrol]

/-- The units of a text are its characters, up to the closing quote. -/
theorem readStringUnits_text (cs : List Char) (rest : List Char) (fuel : Nat)
    (h : cs.length < fuel) :
    readStringUnits fuel (cs.flatMap escapeJsonChar ++ '"' :: rest) =
      some (cs.map .char, rest) := by
  induction cs generalizing fuel with
  | nil =>
    obtain ⟨fuel, rfl⟩ := Nat.exists_eq_succ_of_ne_zero (Nat.ne_of_gt h)
    simp [readStringUnits]
  | cons c cs ih =>
    obtain ⟨fuel, rfl⟩ := Nat.exists_eq_succ_of_ne_zero (Nat.ne_of_gt (Nat.zero_lt_of_lt h))
    simp only [List.length_cons, Nat.succ_eq_add_one, Nat.add_lt_add_iff_right] at h
    rw [List.flatMap_cons, List.append_assoc, readStringUnits_escape, ih fuel h]
    rfl

/-- Characters that stand for themselves are no halves of pairs. -/
theorem joinSurrogates_char (cs : List Char) : joinSurrogates (cs.map .char) = some cs := by
  induction cs with
  | nil => rfl
  | cons c cs ih => simp [joinSurrogates, ih]

/-- Every character takes up at least one place in a string. -/
theorem length_le_flatMap_escape (cs : List Char) :
    cs.length ≤ (cs.flatMap escapeJsonChar).length := by
  have hpos : ∀ c, 0 < (escapeJsonChar c).length := by
    intro c
    unfold escapeJsonChar
    (repeat' split) <;> simp
  induction cs with
  | nil => simp
  | cons c cs ih =>
    have := hpos c
    simp only [List.flatMap_cons, List.length_append, List.length_cons]
    omega

/-- A string is read back, whatever its characters are. -/
theorem readJsonString_text (s : String) (rest : List Char) :
    readJsonString (s.toList.flatMap escapeJsonChar ++ '"' :: rest) = some (some s, rest) := by
  have hlength := length_le_flatMap_escape s.toList
  have hfuel : s.toList.length <
      (s.toList.flatMap escapeJsonChar ++ '"' :: rest).length + 1 := by
    rw [List.length_append]
    omega
  rw [readJsonString, readStringUnits_text _ _ _ hfuel]
  simp [joinSurrogates_char]

/-! ## Values -/

/-- A value whose text says all that the value holds: no number with a fraction or an
exponent, and no string that is no text. -/
inductive Json.IsPlain : Json → Prop where
  | null : IsPlain .null
  | bool (b : Bool) : IsPlain (.bool b)
  | int (n : Int) : IsPlain (.int n)
  | text (s : String) : IsPlain (.text s)
  | array {items : List Json} (each : ∀ v ∈ items, v.IsPlain) : IsPlain (.array items)
  | object {members : List (String × Json)} (each : ∀ m ∈ members, m.2.IsPlain) :
      IsPlain (.object members)

/-- The value is read from its text, whatever follows, by a reader that may go as deep as
the text is long. -/
def Json.ReadsBack (v : Json) : Prop :=
  ∀ (fuel : Nat) (rest : List Char), EndsValue rest → 2 * v.chars.length ≤ fuel →
    readJsonValue fuel (v.chars ++ rest) = some (v, rest)

/-- The items of an array are read back, if each of them is. -/
theorem readJsonItems_chars {items : List Json} (hne : items ≠ [])
    (each : ∀ v ∈ items, v.ReadsBack) (rest : List Char) (fuel : Nat)
    (hfuel : 2 * (Json.itemChars items).length < fuel) :
    readJsonItems fuel (Json.itemChars items ++ ']' :: rest) = some (items, rest) := by
  induction items generalizing fuel with
  | nil => exact absurd rfl hne
  | cons v items ih =>
    obtain ⟨fuel, rfl⟩ := Nat.exists_eq_succ_of_ne_zero (Nat.ne_of_gt (Nat.zero_lt_of_lt hfuel))
    cases items with
    | nil =>
      have hv := each v (by simp) fuel (']' :: rest) (endsValue_bracket rest)
        (by simp only [Json.itemChars] at hfuel; omega)
      simp only [Json.itemChars, readJsonItems, hv]
      simp [skipJsonBlank, isJsonBlank]
    | cons w items =>
      simp only [Json.itemChars, List.length_append, List.length_cons] at hfuel
      have hv := each v (by simp) fuel (',' :: (Json.itemChars (w :: items) ++ ']' :: rest))
        (endsValue_comma _) (by omega)
      have hrest := ih (by simp) (fun u hu => each u (by simp [hu])) fuel (by omega)
      simp only [Json.itemChars, List.append_assoc, List.cons_append] at hv hrest ⊢
      simp only [readJsonItems, hv]
      simp [skipJsonBlank, isJsonBlank, hrest]

/-- The members of an object are read back, if each of their values is. -/
theorem readJsonMembers_chars {members : List (String × Json)} (hne : members ≠ [])
    (each : ∀ m ∈ members, m.2.ReadsBack) (rest : List Char) (fuel : Nat)
    (hfuel : 2 * (Json.memberChars members).length < fuel) :
    readJsonMembers fuel (Json.memberChars members ++ Char.ofNat 0x7D :: rest) =
      some (members.map fun m => (some m.1, m.2), rest) := by
  induction members generalizing fuel with
  | nil => exact absurd rfl hne
  | cons m members ih =>
    obtain ⟨name, v⟩ := m
    obtain ⟨fuel, rfl⟩ := Nat.exists_eq_succ_of_ne_zero (Nat.ne_of_gt (Nat.zero_lt_of_lt hfuel))
    cases members with
    | nil =>
      simp only [Json.memberChars, List.length_append, List.length_cons] at hfuel
      have hv := each (name, v) (by simp) fuel (Char.ofNat 0x7D :: rest) (endsValue_brace rest)
        (by simp only; omega)
      simp only [Json.memberChars, jsonString, List.append_assoc, List.cons_append,
        List.nil_append, readJsonMembers, skipJsonBlank, List.dropWhile_cons]
      simp [isJsonBlank, readJsonString_text, hv]
    | cons m members =>
      simp only [Json.memberChars, List.length_append, List.length_cons] at hfuel
      have hv := each (name, v) (by simp) fuel
        (',' :: (Json.memberChars (m :: members) ++ Char.ofNat 0x7D :: rest))
        (endsValue_comma _) (by simp only; omega)
      have hrest := ih (by simp) (fun u hu => each u (by simp [hu])) fuel (by omega)
      simp only [Json.memberChars, jsonString, List.append_assoc, List.cons_append,
        List.nil_append] at hv hrest ⊢
      simp only [readJsonMembers, skipJsonBlank, List.dropWhile_cons]
      simp [isJsonBlank, readJsonString_text, hv, hrest]

/-- Members whose names are all texts make up the object they are of. -/
theorem Json.ofMembers_named (members : List (String × Json)) :
    Json.ofMembers (members.map fun m => (some m.1, m.2)) = .object members := by
  have hnames : ((members.map fun m => (some m.1, m.2)).mapM
      fun (m : Option String × Json) => m.1.map (·, m.2)) = some members := by
    induction members with
    | nil => rfl
    | cons m members ih => simp [ih]
  simp only [Json.ofMembers, hnames]

/-- The text of a value begins with no blank, and does not close what the value lies in. -/
theorem Json.IsPlain.chars_eq_cons {v : Json} (h : v.IsPlain) :
    ∃ c cs, v.chars = c :: cs ∧ isJsonBlank c = false ∧ c ≠ ']' := by
  cases h with
  | null => exact ⟨'n', _, rfl, by decide, by decide⟩
  | bool b =>
    cases b with
    | true => exact ⟨'t', _, rfl, by decide, by decide⟩
    | false => exact ⟨'f', _, rfl, by decide, by decide⟩
  | int n =>
    obtain ⟨c, cs, hc, hfirst⟩ := intChars_eq_cons n
    refine ⟨c, cs, hc, ?_⟩
    rcases hfirst with rfl | hdigit
    · decide
    · exact ⟨isJsonBlank_of_isDigit hdigit, ne_of_isDigit hdigit rfl⟩
  | text s => exact ⟨'"', _, rfl, by decide, by decide⟩
  | array each => exact ⟨'[', _, rfl, by decide, by decide⟩
  | object each => exact ⟨Char.ofNat 0x7B, _, rfl, by decide, by decide⟩

/-- A reader that may go as deep as a text is long takes at least one step. -/
theorem Json.ReadsBack.of_succ {v : Json} (hne : v.chars ≠ [])
    (h : ∀ (fuel : Nat) (rest : List Char), EndsValue rest → 2 * v.chars.length ≤ fuel + 1 →
      readJsonValue (fuel + 1) (v.chars ++ rest) = some (v, rest)) : v.ReadsBack := by
  intro fuel rest hrest hfuel
  have hpos := List.length_pos_iff.mpr hne
  obtain ⟨fuel, rfl⟩ := Nat.exists_eq_succ_of_ne_zero (n := fuel) (by omega)
  exact h fuel rest hrest hfuel

/-- An integer is read back as a value. -/
theorem Json.readsBack_int (n : Int) : (Json.int n).ReadsBack := by
  obtain ⟨c, cs, hc, hfirst⟩ := intChars_eq_cons n
  -- the first character sends the reader to the numbers
  have hother : isJsonBlank c = false ∧ (c == 'n') = false ∧ (c == 't') = false ∧
      (c == 'f') = false ∧ (c == '"') = false ∧ (c == '[') = false ∧ (c.toNat == 0x7B) = false := by
    rcases hfirst with rfl | hdigit
    · decide
    · have hne := fun d (hd : isDigit d = false) => beq_false_of_ne (ne_of_isDigit hdigit hd)
      have hrange := isDigit_toNat hdigit
      refine ⟨isJsonBlank_of_isDigit hdigit, hne _ rfl, hne _ rfl, hne _ rfl, hne _ rfl,
        hne _ rfl, ?_⟩
      exact beq_false_of_ne (by omega)
  obtain ⟨hblank, hn, ht, hf, hquote, hbracket, hbrace⟩ := hother
  refine .of_succ (by simp [Json.chars, hc]) fun fuel rest hrest _ => ?_
  have hnumber := readJsonNumber_intChars n hrest
  simp only [Json.chars, hc, List.cons_append] at hnumber ⊢
  simp only [readJsonValue, skipJsonBlank, List.dropWhile_cons, hblank, Bool.false_eq_true,
    if_false, hn, ht, hf, hquote, hbracket, hbrace, hnumber]

/-- A text is read back as a value. -/
theorem Json.readsBack_text (s : String) : (Json.text s).ReadsBack := by
  refine .of_succ (by simp [Json.chars, jsonString]) fun fuel rest _ _ => ?_
  simp [Json.chars, jsonString, readJsonValue, skipJsonBlank, isJsonBlank, readJsonString_text]

/-- An array is read back, if its items are. -/
theorem Json.readsBack_array {items : List Json} (hplain : ∀ v ∈ items, v.IsPlain)
    (each : ∀ v ∈ items, v.ReadsBack) : (Json.array items).ReadsBack := by
  refine .of_succ (by simp [Json.chars]) fun fuel rest _ hfuel => ?_
  simp only [Json.chars, List.cons_append, List.length_cons, List.length_append,
    List.length_nil] at hfuel
  cases items with
  | nil => simp [Json.chars, Json.itemChars, readJsonValue, skipJsonBlank, isJsonBlank]
  | cons v items =>
    have hitems := readJsonItems_chars (by simp) each rest fuel (by omega)
    -- the first item keeps the bracket from being closed at once
    obtain ⟨c, cs, hc, hblank, hclose⟩ : ∃ c cs, Json.itemChars (v :: items) = c :: cs ∧
        isJsonBlank c = false ∧ c ≠ ']' := by
      obtain ⟨c, cs, hc, hfirst⟩ := (hplain v (by simp)).chars_eq_cons
      cases items <;> simp [Json.itemChars, hc, hfirst]
    rw [hc, List.cons_append] at hitems
    have hopen : isJsonBlank '[' = false := rfl
    simp [Json.chars, hc, readJsonValue, skipJsonBlank, hopen, hblank, hclose, hitems]

/-- An object is read back, if the values of its members are. -/
theorem Json.readsBack_object {members : List (String × Json)}
    (each : ∀ m ∈ members, m.2.ReadsBack) : (Json.object members).ReadsBack := by
  refine .of_succ (by simp [Json.chars]) fun fuel rest _ hfuel => ?_
  simp only [Json.chars, List.cons_append, List.length_cons, List.length_append,
    List.length_nil] at hfuel
  cases members with
  | nil => simp [Json.chars, Json.memberChars, readJsonValue, skipJsonBlank, isJsonBlank]
  | cons m members =>
    have hmembers := readJsonMembers_chars (by simp) each rest fuel (by omega)
    -- the quote of the first name keeps the brace from being closed at once
    obtain ⟨cs, hc⟩ : ∃ cs, Json.memberChars (m :: members) = '"' :: cs := by
      cases members <;> simp [Json.memberChars, jsonString]
    have hobject := Json.ofMembers_named (m :: members)
    rw [hc, List.cons_append] at hmembers
    rw [List.map_cons] at hobject
    simp [Json.chars, hc, readJsonValue, skipJsonBlank, isJsonBlank, hmembers, hobject]

/-- Every plain value is read back. -/
theorem Json.IsPlain.readsBack {v : Json} (h : v.IsPlain) : v.ReadsBack := by
  induction h with
  | null =>
    refine .of_succ (by simp [Json.chars]) fun fuel rest _ _ => ?_
    simp [Json.chars, readJsonValue, skipJsonBlank, isJsonBlank, expectChars]
  | bool b =>
    refine .of_succ (by cases b <;> simp [Json.chars]) fun fuel rest _ _ => ?_
    cases b <;> simp [Json.chars, readJsonValue, skipJsonBlank, isJsonBlank, expectChars]
  | int n => exact Json.readsBack_int n
  | text s => exact Json.readsBack_text s
  | array hplain each => exact Json.readsBack_array hplain each
  | object _ each => exact Json.readsBack_object each

/-- The compact text of a plain value is read as that value. -/
theorem Json.parse_compact {v : Json} (h : v.IsPlain) : Json.parse v.compact = some v := by
  have hread := h.readsBack (2 * v.chars.length + 2) [] endsValue_nil (by omega)
  rw [List.append_nil] at hread
  simp [Json.parse, Json.compact, hread, skipJsonBlank]

end ExtensionHost
