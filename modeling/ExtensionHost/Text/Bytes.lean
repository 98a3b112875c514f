/-!
# Positions in bytes

The parts of a text in front of a byte and behind it, where a character takes up from
one byte to four. Inside of a character a text has no parts.
-/

namespace ExtensionHost

/-- The text from a byte on, unless it lies inside of a character. -/
def dropBytes? : Nat → List Char → Option (List Char)
  | 0, cs => some cs
  | _ + 1, [] => none
  | n + 1, c :: cs => if c.utf8Size ≤ n + 1 then dropBytes? (n + 1 - c.utf8Size) cs else none

/-- The text up to a byte, unless it lies inside of a character. -/
def takeBytes? : Nat → List Char → Option (List Char)
  | 0, _ => some []
  | _ + 1, [] => none
  | n + 1, c :: cs =>
    if c.utf8Size ≤ n + 1 then (takeBytes? (n + 1 - c.utf8Size) cs).map (c :: ·) else none

/-- The two parts of a text at a byte are the text. -/
theorem takeBytes?_append_dropBytes? (n : Nat) (cs front back : List Char)
    (hf : takeBytes? n cs = some front) (hb : dropBytes? n cs = some back) :
    front ++ back = cs := by
  induction cs generalizing n front with
  | nil => cases n <;> simp_all [takeBytes?, dropBytes?]
  | cons c cs ih =>
    cases n with
    | zero => simp_all [takeBytes?, dropBytes?]
    | succ n =>
      simp only [takeBytes?, dropBytes?] at hf hb
      split at hf
      · rename_i h
        obtain ⟨rest, hr, rfl⟩ := Option.map_eq_some_iff.1 hf
        rw [if_pos h] at hb
        simp [ih _ _ hr hb]
      · simp at hf

end ExtensionHost
