import MigrationLedger.Json.Scalar

/-!
# Reading back a written string

A string is written character by character, each as it stands or as an escape, and the reader takes
the same steps: what is written for a character is read as that character, whatever follows it.
Nothing but the quote that was written last ends the string, because a quote inside it is escaped.

## Main results

* `readStringBody_escape` — what is written for a character is read as that character.
* `readStringBody_flatMap_escape` — so is a whole text, up to its closing quote.
* `readString_writeString`, `readText_writeString` — **a written text reads back as that text.**
-/

namespace MigrationLedger.Json

/-! ### Escapes -/

theorem hexValue?_hexDigit : ∀ n < 16, hexValue? (hexDigit n) = some n := by
  decide

/-- The four digits written for a control character denote it. -/
theorem hexValue4?_control {n : Nat} (h : n < 0x20) :
    hexValue4? '0' '0' (hexDigit (n / 16)) (hexDigit (n % 16)) = some n := by
  have hhigh := hexValue?_hexDigit (n / 16) (by omega)
  have hlow := hexValue?_hexDigit (n % 16) (by omega)
  have hzero : hexValue? '0' = some 0 := rfl
  simp only [hexValue4?, hzero, hhigh, hlow, Option.bind_eq_bind, Option.bind_some, Option.pure_def,
    Option.some.injEq]
  omega

/-- The escape by number of a control character is read as that character. -/
theorem readUnicode_control {c : Char} (h : c.toNat < 0x20) (rest : List Char) :
    readUnicode ('0' :: '0' :: hexDigit (c.toNat / 16) :: hexDigit (c.toNat % 16) :: rest)
      = .ok (c, rest) := by
  have hhigh : isHighSurrogate c.toNat = false := by
    simp only [isHighSurrogate, Bool.and_eq_false_iff, decide_eq_false_iff_not]
    omega
  have hlow : isLowSurrogate c.toNat = false := by
    simp only [isLowSurrogate, Bool.and_eq_false_iff, decide_eq_false_iff_not]
    omega
  simp [readUnicode, readHex4, hexValue4?_control h, hhigh, hlow, bind, Except.bind]

/-- The characters with an escape of one letter. -/
def lettered : List Char := ['"', '\\', '\x08', '\x0c', '\n', '\r', '\t']

theorem escape_of_lettered {c : Char} (h : c ∈ lettered) :
    ∃ e, escape c = ['\\', e] ∧ ∀ tail, readEscape (e :: tail) = .ok (c, tail) := by
  simp only [lettered, List.mem_cons, List.not_mem_nil, or_false] at h
  rcases h with rfl | rfl | rfl | rfl | rfl | rfl | rfl <;> exact ⟨_, rfl, fun _ => rfl⟩

theorem escape_of_not_lettered {c : Char} (h : c ∉ lettered) :
    escape c = if c.toNat < 0x20 then
      ['\\', 'u', '0', '0', hexDigit (c.toNat / 16), hexDigit (c.toNat % 16)] else [c] := by
  simp only [lettered, List.mem_cons, List.not_mem_nil, or_false, not_or] at h
  obtain ⟨h1, h2, h3, h4, h5, h6, h7⟩ := h
  simp [escape, h1, h2, h3, h4, h5, h6, h7]

/-- A character stands as it is, or an escape is written for it that is read as this character. -/
theorem escape_cases (c : Char) :
    (escape c = [c] ∧ c ≠ '"' ∧ c ≠ '\\' ∧ 0x20 ≤ c.toNat) ∨
      ∃ es, escape c = '\\' :: es ∧ ∀ tail, readEscape (es ++ tail) = .ok (c, tail) := by
  by_cases hletter : c ∈ lettered
  · obtain ⟨e, hescape, hread⟩ := escape_of_lettered hletter
    exact .inr ⟨[e], hescape, hread⟩
  · rw [escape_of_not_lettered hletter]
    by_cases hcontrol : c.toNat < 0x20
    · refine .inr ⟨_, if_pos hcontrol, fun tail => ?_⟩
      exact readUnicode_control hcontrol tail
    · refine .inl ⟨if_neg hcontrol, ?_, ?_, Nat.not_lt.1 hcontrol⟩
      · rintro rfl
        exact hletter (by decide)
      · rintro rfl
        exact hletter (by decide)

/-! ### Texts -/

/-- What is written for a character is read as that character. -/
theorem readStringBody_escape {fuel : Nat} {tail ds rest : List Char} (c : Char)
    (h : readStringBody fuel tail = .ok (ds, rest)) :
    readStringBody (fuel + 1) (escape c ++ tail) = .ok (c :: ds, rest) := by
  rcases escape_cases c with ⟨hescape, hquote, hslash, hprinting⟩ | ⟨es, hescape, hread⟩
  · have hplain : ¬ c.toNat < 0x20 := Nat.not_lt.2 hprinting
    rw [hescape, List.singleton_append, readStringBody, if_neg hquote, if_neg hslash,
      if_neg hplain, h]
    rfl
  · rw [hescape, List.cons_append, readStringBody, if_neg (by decide), if_pos rfl, hread]
    simp only [bind, Except.bind, h]

/-- A written text is read up to its closing quote. -/
theorem readStringBody_flatMap_escape (text rest : List Char) {fuel : Nat}
    (h : text.length < fuel) :
    readStringBody fuel (text.flatMap escape ++ '"' :: rest) = .ok (text, rest) := by
  induction text generalizing fuel with
  | nil =>
    obtain ⟨fuel, rfl⟩ := Nat.exists_eq_add_one.2 (Nat.zero_lt_of_lt h)
    rfl
  | cons c text ih =>
    obtain ⟨fuel, rfl⟩ := Nat.exists_eq_add_one.2 (Nat.zero_lt_of_lt h)
    rw [List.flatMap_cons, List.append_assoc]
    exact readStringBody_escape c (ih (Nat.lt_of_succ_lt_succ h))

theorem one_le_length_escape (c : Char) : 1 ≤ (escape c).length := by
  rcases escape_cases c with ⟨hescape, -⟩ | ⟨es, hescape, -⟩ <;> simp [hescape]

theorem length_le_length_flatMap_escape (text : List Char) :
    text.length ≤ (text.flatMap escape).length := by
  induction text with
  | nil => exact Nat.le_refl _
  | cons c text ih =>
    have hc := one_le_length_escape c
    rw [List.flatMap_cons, List.length_append, List.length_cons]
    omega

/-- **A written text reads back as that text**, whatever follows it. -/
theorem readString_writeString (s : String) (rest : List Char) :
    readString (s.toList.flatMap escape ++ '"' :: rest) = .ok (s, rest) := by
  have hfuel : s.toList.length < (s.toList.flatMap escape ++ '"' :: rest).length + 1 := by
    have hlen := length_le_length_flatMap_escape s.toList
    rw [List.length_append]
    omega
  rw [readString, readStringBody_flatMap_escape s.toList rest hfuel]
  simp [bind, Except.bind]

theorem writeString_append (s : String) (rest : List Char) :
    writeString s ++ rest = '"' :: (s.toList.flatMap escape ++ '"' :: rest) := by
  simp [writeString]

theorem readText_writeString (s : String) (rest : List Char) :
    readText (writeString s ++ rest) = .ok (s, rest) := by
  rw [writeString_append]
  exact readString_writeString s rest

end MigrationLedger.Json
