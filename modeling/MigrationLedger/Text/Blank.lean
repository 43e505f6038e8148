/-!
# Blank characters

Trimming and letter case as the readers of this library use them: blanks are the
characters with the Unicode property `White_Space`, and only the letters `A` to
`Z` change case.

## Main definitions

* `isBlank` — the property `White_Space`.
* `trim` — a text without its leading and trailing blanks.
* `lowerAscii` — `A` to `Z` in lower case, every other character as it is.
* `IsTrimOf` — a text without blanks at its ends, inside of another one between blanks.

## Main results

* `isBlank_of_isWhitespace` — the blanks contain the whitespace of `Char`.
* `getLast?_trimChars` — a trimmed text does not end with a blank.
* `isTrimOf_iff` — trimming takes blanks off both ends, and all of them.
* `trimChars_append`, `trimChars_append_cons` — what is trimmed off a joined list.
* `trimChars_eq_self` — a text without outer blanks is left alone.
-/

namespace MigrationLedger.Text

/-- The characters with the Unicode property `White_Space`. -/
def isBlank (c : Char) : Bool :=
  let n := c.toNat
  (0x09 ≤ n && n ≤ 0x0d) || n == 0x20 || n == 0x85 || n == 0xa0 || n == 0x1680
    || (0x2000 ≤ n && n ≤ 0x200a) || n == 0x2028 || n == 0x2029 || n == 0x202f
    || n == 0x205f || n == 0x3000

theorem isBlank_of_isWhitespace {c : Char} (h : c.isWhitespace = true) : isBlank c = true := by
  simp only [Char.isWhitespace, Bool.or_eq_true, decide_eq_true_eq] at h
  rcases h with ((rfl | rfl) | rfl) | rfl <;> decide

/-- Drops the characters satisfying `p` at both ends. -/
def trimChars (p : Char → Bool) (cs : List Char) : List Char :=
  ((cs.dropWhile p).reverse.dropWhile p).reverse

/-- A text without its leading and trailing blanks. -/
def trim (s : String) : String :=
  String.ofList (trimChars isBlank s.toList)

/-- `A` to `Z` in lower case; every other character stays. -/
def lowerAscii (s : String) : String :=
  String.ofList (s.toList.map Char.toLower)

@[simp] theorem trimChars_nil (p : Char → Bool) : trimChars p [] = [] := rfl

@[simp] theorem toList_trim (s : String) : (trim s).toList = trimChars isBlank s.toList := by
  simp [trim]

@[simp] theorem toList_lowerAscii (s : String) :
    (lowerAscii s).toList = s.toList.map Char.toLower := by
  simp [lowerAscii]

/-! ### Trimmed texts -/

theorem getLast?_trimChars (p : Char → Bool) (cs : List Char) {c : Char}
    (h : (trimChars p cs).getLast? = some c) : p c = false := by
  rw [trimChars, List.getLast?_reverse] at h
  have hd := List.head?_dropWhile_not p (cs.dropWhile p).reverse
  rwa [h] at hd

/-- A list whose ends do not satisfy `p` is left alone. -/
theorem trimChars_eq_self {p : Char → Bool} {cs : List Char}
    (hhead : ∀ c, cs.head? = some c → p c = false)
    (hlast : ∀ c, cs.getLast? = some c → p c = false) : trimChars p cs = cs := by
  have front : ∀ {l : List Char}, (∀ c, l.head? = some c → p c = false) → l.dropWhile p = l := by
    intro l h
    cases l with
    | nil => rfl
    | cons c l => simp [h c rfl]
  rw [trimChars, front hhead, front (l := cs.reverse), List.reverse_reverse]
  intro c hc
  exact hlast c (by simpa using hc)

/-- A list in which nothing satisfies `p` is left alone. -/
theorem trimChars_eq_self_of_forall {p : Char → Bool} {cs : List Char}
    (h : ∀ c ∈ cs, p c = false) : trimChars p cs = cs :=
  trimChars_eq_self (fun c hc => h c (List.mem_of_mem_head? hc))
    (fun c hc => h c (List.mem_of_mem_getLast? hc))

/-- What is left without the first blanks goes on after the trimmed list with the last ones. -/
theorem dropWhile_eq_trimChars_append (p : Char → Bool) (cs : List Char) :
    cs.dropWhile p = trimChars p cs ++ ((cs.dropWhile p).reverse.takeWhile p).reverse := by
  rw [trimChars, ← List.reverse_append, List.takeWhile_append_dropWhile, List.reverse_reverse]

/-- Around a trimmed list stands what was dropped. -/
theorem exists_trimChars (p : Char → Bool) (cs : List Char) :
    ∃ front back, cs = front ++ trimChars p cs ++ back ∧
      (∀ c ∈ front, p c = true) ∧ ∀ c ∈ back, p c = true := by
  refine ⟨cs.takeWhile p, ((cs.dropWhile p).reverse.takeWhile p).reverse, ?_,
    fun c hc => List.all_eq_true.1 List.all_takeWhile c hc,
    fun c hc => List.all_eq_true.1 List.all_takeWhile c (List.mem_reverse.1 hc)⟩
  rw [List.append_assoc, ← dropWhile_eq_trimChars_append, List.takeWhile_append_dropWhile]

/-- What satisfies `p` around a list is trimmed off together with what the list has at its ends. -/
theorem trimChars_append {p : Char → Bool} {front back : List Char}
    (hfront : ∀ c ∈ front, p c = true) (hback : ∀ c ∈ back, p c = true) (cs : List Char) :
    trimChars p (front ++ cs ++ back) = trimChars p cs := by
  rw [trimChars, List.append_assoc, List.dropWhile_append_of_pos hfront, List.dropWhile_append]
  split
  · next hempty =>
    -- everything satisfies `p`
    have hnil : back.dropWhile p = [] := by
      rw [← List.append_nil back, List.dropWhile_append_of_pos hback, List.dropWhile_nil]
    rw [hnil, trimChars, List.isEmpty_iff.1 hempty]
  · rw [List.reverse_append,
      List.dropWhile_append_of_pos fun c hc => hback c (List.mem_reverse.1 hc), trimChars]

theorem trimChars_dropWhile (p : Char → Bool) (cs : List Char) :
    trimChars p (cs.dropWhile p) = trimChars p cs := by
  have hfront : ∀ c ∈ cs.takeWhile p, p c = true := List.all_eq_true.1 List.all_takeWhile
  have h := trimChars_append hfront (List.forall_mem_nil _) (cs.dropWhile p)
  rw [List.append_nil, List.takeWhile_append_dropWhile] at h
  exact h.symm

theorem trimChars_dropWhile_reverse (p : Char → Bool) (cs : List Char) :
    trimChars p (cs.reverse.dropWhile p).reverse = trimChars p cs := by
  have hback : ∀ c ∈ (cs.reverse.takeWhile p).reverse, p c = true := by
    intro c hc
    exact List.all_eq_true.1 List.all_takeWhile c (List.mem_reverse.1 hc)
  have h := trimChars_append (List.forall_mem_nil _) hback (cs.reverse.dropWhile p).reverse
  rw [List.nil_append, ← List.reverse_append, List.takeWhile_append_dropWhile,
    List.reverse_reverse] at h
  exact h.symm

/-- The first characters are dropped no further than up to one that does not satisfy `p`. -/
theorem dropWhile_append_cons {p : Char → Bool} {c : Char} (hc : p c = false)
    (before after : List Char) :
    (before ++ c :: after).dropWhile p = before.dropWhile p ++ c :: after := by
  rw [List.dropWhile_append]
  split
  · next hempty =>
    rw [List.isEmpty_iff.1 hempty, List.dropWhile_cons_of_neg (Bool.eq_false_iff.1 hc),
      List.nil_append]
  · rfl

/-- What does not satisfy `p` stays, and what is trimmed off stands before and behind it. -/
theorem trimChars_append_cons {p : Char → Bool} {c : Char} (hc : p c = false)
    (before after : List Char) : trimChars p (before ++ c :: after)
      = before.dropWhile p ++ c :: (after.reverse.dropWhile p).reverse := by
  rw [trimChars, dropWhile_append_cons hc, List.reverse_append, List.reverse_cons,
    List.append_assoc, List.singleton_append, dropWhile_append_cons hc]
  simp

theorem head?_trimChars (p : Char → Bool) (cs : List Char) {c : Char}
    (h : (trimChars p cs).head? = some c) : p c = false := by
  have hd := List.head?_dropWhile_not p cs
  rw [dropWhile_eq_trimChars_append, List.head?_append, h] at hd
  exact hd

/-- The text `t` stands in `s` between blanks, and no blank stands at its own ends. -/
structure IsTrimOf (s t : String) : Prop where
  /-- Before and behind it there are only blanks. -/
  between : ∃ front back, s.toList = front ++ t.toList ++ back ∧
    (∀ c ∈ front, isBlank c = true) ∧ ∀ c ∈ back, isBlank c = true
  /-- It does not start with a blank. -/
  head : ∀ c, t.toList.head? = some c → isBlank c = false
  /-- It does not end with a blank. -/
  last : ∀ c, t.toList.getLast? = some c → isBlank c = false

theorem isTrimOf_trim (s : String) : IsTrimOf s (trim s) where
  between := by
    rw [toList_trim]
    exact exists_trimChars isBlank s.toList
  head c hc := head?_trimChars isBlank s.toList (toList_trim s ▸ hc)
  last c hc := getLast?_trimChars isBlank s.toList (toList_trim s ▸ hc)

/-- Trimming is the only way to take blanks off both ends, and all of them. -/
theorem isTrimOf_iff {s t : String} : IsTrimOf s t ↔ t = trim s := by
  constructor
  · intro h
    obtain ⟨front, back, hs, hfront, hback⟩ := h.between
    rw [trim, hs, trimChars_append hfront hback, trimChars_eq_self h.head h.last,
      String.ofList_toList]
  · rintro rfl
    exact isTrimOf_trim s

end MigrationLedger.Text
