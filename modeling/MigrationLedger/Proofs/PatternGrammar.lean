import Mathlib.Data.List.Forall2
import Mathlib.Data.List.TakeWhile
import MigrationLedger.Pattern

/-!
# The grammar of patterns

A pattern is divided at its first colon; what stands before it says which migrations are covered,
and what stands behind it which states.  The word of either part is what is left of it without the
blanks at its ends, with small letters for the letters from `A` to `Z` and nothing else changed.  A
text is a pattern when both words are known.  What is wrong with any other text is told in the order
in which it is read: that there is no colon, then that the first word is unknown, then the second.

The reader also trims the text as a whole, before it looks for the colon.  A colon is no blank, so
that this takes blanks off the outer ends of the two parts only, which lose them anyway: the grammar
does not mention it.

## Main definitions

* `Text.Lowers`, `Text.IsLowerOf` — a text in small letters, as far as `A` to `Z` go.
* `PatternType.IsWord`, `PatternState.IsWord` — the known words.
* `IgnorePattern.Divides`, `IgnorePattern.IsWordOf` — the parts of a text, and the word of a part.
* `IgnorePattern.IsPattern`, `IgnorePattern.HasFault` — which texts are which pattern, and what is
  wrong with the others.
* `IgnorePattern.IsCanonical` — the text of a pattern that has nothing but its words.

## Main results

* `IgnorePattern.splitAtColon?_trim` — trimming the whole text leaves the words of its parts alone.
* `IgnorePattern.parse?_eq_ok_iff`, `IgnorePattern.parse?_eq_error_iff` — **what is read is what the
  grammar says.**
* `pattern_grammar` — all of this about one text, and the canonical text of its pattern.
-/

namespace MigrationLedger

namespace Text

/-! ### Small letters -/

/-- A letter from `A` to `Z` becomes the small letter, 32 places further on; anything else stays. -/
inductive Lowers : Char → Char → Prop
  /-- A letter from `A` to `Z`. -/
  | letter {c d : Char} : 'A' ≤ c → c ≤ 'Z' → d.toNat = c.toNat + 32 → Lowers c d
  /-- Any other character. -/
  | other {c : Char} : ¬ ('A' ≤ c ∧ c ≤ 'Z') → Lowers c c

theorem toNat_toLower {c : Char} (hA : 'A' ≤ c) (hZ : c ≤ 'Z') :
    c.toLower.toNat = c.toNat + 32 := by
  have hlower : c.toLower.toNat = (c.val + 32).toNat := congrArg Char.toNat (dif_pos ⟨hA, hZ⟩)
  have hadd : (c.val + 32).toNat = (c.val.toNat + 32) % 2 ^ 32 := UInt32.toNat_add c.val 32
  have hle : c.val.toNat ≤ 90 := UInt32.le_iff_toNat_le.1 hZ
  have hval : c.toNat = c.val.toNat := rfl
  omega

theorem toLower_eq_self {c : Char} (h : ¬ ('A' ≤ c ∧ c ≤ 'Z')) : c.toLower = c := dif_neg h

theorem lowers_iff {c d : Char} : Lowers c d ↔ d = c.toLower := by
  constructor
  · rintro (⟨hA, hZ, hd⟩ | h)
    · exact Char.toNat_inj.1 (hd.trans (toNat_toLower hA hZ).symm)
    · exact (toLower_eq_self h).symm
  · rintro rfl
    by_cases h : 'A' ≤ c ∧ c ≤ 'Z'
    · exact .letter h.1 h.2 (toNat_toLower h.1 h.2)
    · rw [toLower_eq_self h]
      exact .other h

/-- The text `t` is `s` in small letters, as far as `A` to `Z` go. -/
def IsLowerOf (s t : String) : Prop := List.Forall₂ Lowers s.toList t.toList

theorem isLowerOf_iff {s t : String} : IsLowerOf s t ↔ t = lowerAscii s := by
  have hlowers : Lowers = fun c d => c.toLower = d := by
    funext c d
    exact propext (lowers_iff.trans eq_comm)
  rw [IsLowerOf, hlowers, ← List.forall₂_map_left_iff, List.forall₂_eq_eq_eq,
    ← toList_lowerAscii, String.toList_inj]
  exact eq_comm

end Text

/-! ### Words -/

/-- The words for types. -/
inductive PatternType.IsWord : String → PatternType → Prop
  /-- Every migration. -/
  | any : IsWord "*" .any
  /-- Migrations with a version. -/
  | versioned : IsWord "versioned" .versioned
  /-- Migrations without a version. -/
  | repeatable : IsWord "repeatable" .repeatable

theorem PatternType.isWord_name (t : PatternType) : IsWord t.name t := by
  cases t <;> constructor

theorem PatternType.ofName?_eq_some_iff {w : String} {t : PatternType} :
    ofName? w = some t ↔ IsWord w t := by
  constructor
  · intro h
    have hname := List.find?_some h
    rw [← beq_iff_eq.1 hname]
    exact isWord_name t
  · rintro (_ | _ | _) <;> rfl

theorem PatternType.ofName?_eq_none_iff {w : String} :
    ofName? w = none ↔ ∀ t, ¬ IsWord w t := by
  simp only [Option.eq_none_iff_forall_ne_some, ne_eq, ofName?_eq_some_iff]

/-- The words for states. -/
inductive PatternState.IsWord : String → PatternState → Prop
  /-- Every state. -/
  | any : IsWord "*" .any
  /-- Applied and no longer discovered. -/
  | missing : IsWord "missing" .missing
  /-- Waiting to run. -/
  | pending : IsWord "pending" .pending
  /-- Skipped. -/
  | ignored : IsWord "ignored" .ignored
  /-- Applied and newer than everything discovered. -/
  | future : IsWord "future" .future
  /-- Applied without success. -/
  | failed : IsWord "failed" .failed

theorem PatternState.isWord_name (s : PatternState) : IsWord s.name s := by
  cases s <;> constructor

theorem PatternState.ofName?_eq_some_iff {w : String} {s : PatternState} :
    ofName? w = some s ↔ IsWord w s := by
  constructor
  · intro h
    have hname := List.find?_some h
    rw [← beq_iff_eq.1 hname]
    exact isWord_name s
  · rintro (_ | _ | _ | _ | _ | _) <;> rfl

theorem PatternState.ofName?_eq_none_iff {w : String} :
    ofName? w = none ↔ ∀ s, ¬ IsWord w s := by
  simp only [Option.eq_none_iff_forall_ne_some, ne_eq, ofName?_eq_some_iff]

namespace IgnorePattern

variable {s w : String} {before after : List Char} {p : IgnorePattern}

/-- The word of a part: the text between the blanks at its ends, in small letters. -/
def IsWordOf (part : List Char) (w : String) : Prop :=
  ∃ text, Text.IsTrimOf (String.ofList part) text ∧ Text.IsLowerOf text w

theorem isWordOf_iff {part : List Char} : IsWordOf part w ↔ w = word part := by
  simp only [IsWordOf, Text.isTrimOf_iff, Text.isLowerOf_iff, exists_eq_left, word]

/-! ### The parts of a text -/

/-- The first colon of a text stands between the two parts. -/
structure Divides (s : String) (before after : List Char) : Prop where
  /-- The text around the colon. -/
  text_eq : s.toList = before ++ ':' :: after
  /-- No colon stands further to the left. -/
  first : ':' ∉ before

theorem exists_divides (h : ':' ∈ s.toList) : ∃ before after, Divides s before after := by
  obtain ⟨before, after, htext, hfirst⟩ := List.eq_append_cons_of_mem h
  exact ⟨before, after, htext, hfirst⟩

theorem forall_ne_colon {cs : List Char} (h : ':' ∉ cs) : ∀ c ∈ cs, (c != ':') = true := by
  intro c hc
  rw [bne_iff_ne]
  rintro rfl
  exact h hc

theorem splitAtColon?_of_notMem {cs : List Char} (h : ':' ∉ cs) : splitAtColon? cs = none := by
  rw [splitAtColon?, List.dropWhile_eq_nil_iff.2 (forall_ne_colon h)]

/-- Trimming a text brings no colon in. -/
theorem colon_notMem_trim (h : ':' ∉ s.toList) : ':' ∉ (Text.trim s).toList := by
  obtain ⟨front, back, hs, -, -⟩ := (Text.isTrimOf_trim s).between
  rw [hs] at h
  exact fun hmem => h (List.mem_append_left _ (List.mem_append_right _ hmem))

theorem isWordOf_iff_of_trimChars_eq {part trimmed : List Char}
    (h : Text.trimChars Text.isBlank trimmed = Text.trimChars Text.isBlank part) :
    IsWordOf part w ↔ w = word trimmed := by
  rw [isWordOf_iff, word, word, Text.trim, Text.trim, String.toList_ofList, String.toList_ofList, h]

/-- **Trimming the whole text leaves the words of its parts alone.** -/
theorem splitAtColon?_trim (h : Divides s before after) : ∃ before' after',
    splitAtColon? (Text.trim s).toList = some (before', after') ∧
      (∀ w, IsWordOf before w ↔ w = word before') ∧ ∀ w, IsWordOf after w ↔ w = word after' := by
  refine ⟨before.dropWhile Text.isBlank, (after.reverse.dropWhile Text.isBlank).reverse, ?_,
    fun w => isWordOf_iff_of_trimChars_eq (Text.trimChars_dropWhile _ _),
    fun w => isWordOf_iff_of_trimChars_eq (Text.trimChars_dropWhile_reverse _ _)⟩
  rw [Text.toList_trim, h.text_eq, Text.trimChars_append_cons (by decide)]
  have hfirst : ':' ∉ before.dropWhile Text.isBlank := fun hmem =>
    h.first ((List.dropWhile_sublist Text.isBlank).subset hmem)
  exact splitAtColon?_append (forall_ne_colon hfirst) _

/-! ### The grammar -/

/-- The text is this pattern: the words of its two parts are known. -/
inductive IsPattern (s : String) : IgnorePattern → Prop
  /-- A type and a state. -/
  | mk {before after : List Char} {typeWord stateWord : String} {t : PatternType}
      {state : PatternState} :
      Divides s before after →
      IsWordOf before typeWord → PatternType.IsWord typeWord t →
      IsWordOf after stateWord → PatternState.IsWord stateWord state →
      IsPattern s ⟨t, state⟩

/-- What is wrong with a text. -/
inductive HasFault (s : String) : Fault → Prop
  /-- There is no colon. -/
  | noColon : ':' ∉ s.toList → HasFault s (.noColon s)
  /-- The first word is unknown, whatever the second one is. -/
  | unknownType {before after : List Char} {typeWord : String} :
      Divides s before after →
      IsWordOf before typeWord → (∀ t, ¬ PatternType.IsWord typeWord t) →
      HasFault s (.unknownType typeWord s)
  /-- The first word is known and the second one is not. -/
  | unknownState {before after : List Char} {typeWord stateWord : String} {t : PatternType} :
      Divides s before after →
      IsWordOf before typeWord → PatternType.IsWord typeWord t →
      IsWordOf after stateWord → (∀ state, ¬ PatternState.IsWord stateWord state) →
      HasFault s (.unknownState stateWord s)

/-- The text of a pattern that has nothing but its words and the colon between them. -/
def IsCanonical (text : String) (p : IgnorePattern) : Prop :=
  ∃ typeWord stateWord, PatternType.IsWord typeWord p.type ∧
    PatternState.IsWord stateWord p.state ∧ text = typeWord ++ ":" ++ stateWord

theorem isCanonical_display (p : IgnorePattern) : IsCanonical p.display p :=
  ⟨p.type.name, p.state.name, p.type.isWord_name, p.state.isWord_name, rfl⟩

/-! ### The reader -/

theorem parse?_of_isPattern (h : IsPattern s p) : parse? s = .ok p := by
  obtain ⟨hdivides, htypeWord, htype, hstateWord, hstate⟩ := h
  obtain ⟨before', after', hsplit, hbefore, hafter⟩ := splitAtColon?_trim hdivides
  obtain rfl := (hbefore _).1 htypeWord
  obtain rfl := (hafter _).1 hstateWord
  simp only [parse?, hsplit, PatternType.ofName?_eq_some_iff.2 htype,
    PatternState.ofName?_eq_some_iff.2 hstate]

theorem parse?_of_hasFault {fault : Fault} (h : HasFault s fault) : parse? s = .error fault := by
  cases h with
  | noColon hcolon => rw [parse?, splitAtColon?_of_notMem (colon_notMem_trim hcolon)]
  | unknownType hdivides htypeWord hunknown =>
    obtain ⟨before', after', hsplit, hbefore, -⟩ := splitAtColon?_trim hdivides
    obtain rfl := (hbefore _).1 htypeWord
    simp only [parse?, hsplit, PatternType.ofName?_eq_none_iff.2 hunknown]
  | unknownState hdivides htypeWord htype hstateWord hunknown =>
    obtain ⟨before', after', hsplit, hbefore, hafter⟩ := splitAtColon?_trim hdivides
    obtain rfl := (hbefore _).1 htypeWord
    obtain rfl := (hafter _).1 hstateWord
    simp only [parse?, hsplit, PatternType.ofName?_eq_some_iff.2 htype,
      PatternState.ofName?_eq_none_iff.2 hunknown]

/-- The grammar leaves no text out. -/
theorem isPattern_or_hasFault (s : String) : (∃ p, IsPattern s p) ∨ ∃ fault, HasFault s fault := by
  by_cases hcolon : ':' ∈ s.toList
  · obtain ⟨before, after, hdivides⟩ := exists_divides hcolon
    have htypeWord : IsWordOf before (word before) := isWordOf_iff.2 rfl
    have hstateWord : IsWordOf after (word after) := isWordOf_iff.2 rfl
    by_cases htype : ∃ t, PatternType.IsWord (word before) t
    · obtain ⟨t, ht⟩ := htype
      by_cases hstate : ∃ state, PatternState.IsWord (word after) state
      · obtain ⟨state, hstate⟩ := hstate
        exact .inl ⟨_, .mk hdivides htypeWord ht hstateWord hstate⟩
      · exact .inr ⟨_, .unknownState hdivides htypeWord ht hstateWord (not_exists.1 hstate)⟩
    · exact .inr ⟨_, .unknownType hdivides htypeWord (not_exists.1 htype)⟩
  · exact .inr ⟨_, .noColon hcolon⟩

/-- **Which texts are which pattern.** -/
theorem parse?_eq_ok_iff : parse? s = .ok p ↔ IsPattern s p := by
  refine ⟨fun h => ?_, parse?_of_isPattern⟩
  rcases isPattern_or_hasFault s with ⟨q, hq⟩ | ⟨fault, hfault⟩
  · obtain rfl := Except.ok.inj (h.symm.trans (parse?_of_isPattern hq))
    exact hq
  · exact nomatch h.symm.trans (parse?_of_hasFault hfault)

/-- **What is wrong with the others.** -/
theorem parse?_eq_error_iff {fault : Fault} : parse? s = .error fault ↔ HasFault s fault := by
  refine ⟨fun h => ?_, parse?_of_hasFault⟩
  rcases isPattern_or_hasFault s with ⟨q, hq⟩ | ⟨other, hother⟩
  · exact nomatch h.symm.trans (parse?_of_isPattern hq)
  · obtain rfl := Except.error.inj (h.symm.trans (parse?_of_hasFault hother))
    exact hother

theorem parse_eq_ok_iff : parse s = .ok p ↔ parse? s = .ok p := by
  unfold parse
  cases parse? s <;> simp [Except.mapError]

theorem parse_eq_error_iff {e : Error} :
    parse s = .error e ↔ ∃ fault, parse? s = .error fault ∧ e = .invalidPattern fault.message := by
  unfold parse
  cases parse? s <;> simp [Except.mapError, eq_comm]

end IgnorePattern

open IgnorePattern

/-- **The grammar of patterns.**  A text is read as a pattern when the words of the two parts at its
first colon are known; else its reader says what is wrong with it, a missing colon first, then an
unknown type, then an unknown state.  The text that is shown of a pattern is its canonical one, and
it is read as this pattern again. -/
theorem pattern_grammar (s : String) :
    (∀ p, IgnorePattern.parse s = .ok p ↔ IsPattern s p) ∧
    (∀ e, IgnorePattern.parse s = .error e ↔
      ∃ fault, HasFault s fault ∧ e = .invalidPattern fault.message) ∧
    ∀ p : IgnorePattern, IsCanonical p.display p ∧ IgnorePattern.parse p.display = .ok p := by
  refine ⟨fun p => ?_, fun e => ?_, fun p => ⟨isCanonical_display p, ?_⟩⟩
  · rw [parse_eq_ok_iff, parse?_eq_ok_iff]
  · simp only [parse_eq_error_iff, parse?_eq_error_iff]
  · rw [parse_eq_ok_iff, parse?_display]

/-- Blanks of several kinds and capital letters do not matter; a second colon belongs to the word
behind the first one; of two unknown words the first is told, in small letters. -/
theorem pattern_grammar_spread :
    IgnorePattern.parse "\u2003Versioned\u00a0:\tFUTURE\n" = .ok ⟨.versioned, .future⟩ ∧
    IgnorePattern.parse "*: Pending:" =
      .error (.invalidPattern "unknown state 'pending:' in '*: Pending:'") ∧
    IgnorePattern.parse "Base line:outdated" = .error (.invalidPattern
      ("unknown migration type 'base line' in 'Base line:outdated' "
        ++ "(expected *, versioned or repeatable)")) ∧
    IgnorePattern.parse " missing" =
      .error (.invalidPattern "' missing' must be of the form type:state") := by
  refine ⟨?_, ?_, ?_, ?_⟩
  · obtain ⟨haccepts, -⟩ := pattern_grammar "\u2003Versioned\u00a0:\tFUTURE\n"
    have hdivides : Divides "\u2003Versioned\u00a0:\tFUTURE\n" "\u2003Versioned\u00a0".toList
        "\tFUTURE\n".toList := ⟨by decide, by decide⟩
    exact (haccepts _).2 (.mk hdivides (isWordOf_iff.2 (by decide)) .versioned
      (isWordOf_iff.2 (by decide)) .future)
  · obtain ⟨-, hrefuses, -⟩ := pattern_grammar "*: Pending:"
    have hdivides : Divides "*: Pending:" "*".toList " Pending:".toList := ⟨by decide, by decide⟩
    have hunknown : ∀ state, ¬ PatternState.IsWord "pending:" state :=
      PatternState.ofName?_eq_none_iff.1 (by decide)
    exact (hrefuses _).2 ⟨_, .unknownState hdivides (isWordOf_iff.2 (by decide)) .any
      (isWordOf_iff.2 (by decide)) hunknown, by decide⟩
  · obtain ⟨-, hrefuses, -⟩ := pattern_grammar "Base line:outdated"
    have hdivides : Divides "Base line:outdated" "Base line".toList "outdated".toList :=
      ⟨by decide, by decide⟩
    have hunknown : ∀ t, ¬ PatternType.IsWord "base line" t :=
      PatternType.ofName?_eq_none_iff.1 (by decide)
    exact (hrefuses _).2 ⟨_, .unknownType hdivides (isWordOf_iff.2 (by decide)) hunknown,
      by decide⟩
  · obtain ⟨-, hrefuses, -⟩ := pattern_grammar " missing"
    exact (hrefuses _).2 ⟨_, .noColon (by decide), by decide⟩

end MigrationLedger
