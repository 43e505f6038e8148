import MigrationLedger.Order
import MigrationLedger.Text.Blank

/-!
# Migration versions

A version is written as components between dots or underscores: `1`, `1.2`,
`2024_01_15`.  A component of ASCII digits is a number of any size, any other one
a text.  Numbers come before texts, and missing trailing components count as
zero, so that `1`, `1.0` and `1.0.0` are the same version in different spellings.

## Main definitions

* `Component`, `Version` — a component, and a version with the text it was read from.
* `Version.parse?` — reads a version, or says what is wrong with the text.
* `Version.significant` — the components up to the last one that is not zero.

## Main results

* `Version.parse?_text` — the text of a version reads back as that version.
* `Version.compare_eq_iff` — two versions compare as equal exactly when their
  significant components agree.
-/

namespace MigrationLedger

/-- One component of a version. -/
inductive Component
  /-- A component of ASCII digits, as the number it denotes. -/
  | number (n : Nat)
  /-- Any other component, as written. -/
  | text (s : String)
  deriving DecidableEq, Repr

namespace Component

/-- Reads a nonempty component. -/
def ofChars (cs : List Char) : Component :=
  if cs.all Char.isDigit then .number (Nat.ofDigitChars 10 cs 0) else .text (String.ofList cs)

/-- Numbers by value, texts by character, every number before every text. -/
instance : Ord Component where
  compare
    | .number m, .number n => compare m n
    | .number _, .text _ => .lt
    | .text _, .number _ => .gt
    | .text s, .text t => compare s t

@[simp] theorem compare_number (m n : Nat) : compare (number m) (number n) = compare m n := rfl

@[simp] theorem compare_text (s t : String) : compare (text s) (text t) = compare s t := rfl

@[simp] theorem compare_number_text (m : Nat) (t : String) :
    compare (number m) (text t) = .lt := rfl

@[simp] theorem compare_text_number (s : String) (n : Nat) :
    compare (text s) (number n) = .gt := rfl

theorem compare_swap : ∀ a b : Component, compare a b = (compare b a).swap
  | .number m, .number n => @Std.OrientedCmp.eq_swap Nat compare _ m n
  | .number _, .text _ => rfl
  | .text _, .number _ => rfl
  | .text s, .text t => @Std.OrientedCmp.eq_swap String compare _ s t

theorem compare_isLE_trans : ∀ {a b c : Component},
    (compare a b).isLE = true → (compare b c).isLE = true → (compare a c).isLE = true
  | .number _, .number _, .number _, h₁, h₂ => @Std.TransCmp.isLE_trans Nat compare _ _ _ _ h₁ h₂
  | .number _, _, .text _, _, _ => rfl
  | .number _, .text _, .number _, _, h => nomatch h
  | .text _, .number _, _, h, _ => nomatch h
  | .text _, .text _, .number _, _, h => nomatch h
  | .text _, .text _, .text _, h₁, h₂ => @Std.TransCmp.isLE_trans String compare _ _ _ _ h₁ h₂

instance : Std.TransOrd Component where
  eq_swap := compare_swap _ _
  isLE_trans := compare_isLE_trans

instance : Std.LawfulEqOrd Component where
  compare_self {a} := by cases a <;> simp
  eq_of_compare {a b} h := by
    cases a <;> cases b <;> simp_all

end Component

/-- What can be wrong with the text of a version. -/
inductive Version.Fault
  /-- Nothing but blanks. -/
  | empty
  /-- A component of `text` is empty. -/
  | emptyComponent (text : String)
  /-- A component of `text` holds a blank. -/
  | blank (text : String)
  deriving DecidableEq, Repr

namespace Version

/-- What a reader is told about a fault. -/
def Fault.message : Fault → String
  | .empty => "version must not be empty"
  | .emptyComponent text => "empty component in '" ++ text ++ "'"
  | .blank text => "whitespace in '" ++ text ++ "'"

/-- Dots and underscores stand between components. -/
def isSeparator (c : Char) : Bool := c == '.' || c == '_'

/-- Reads one component of `text`. -/
def readComponent (text : String) (cs : List Char) : Except Fault Component :=
  if cs.isEmpty then .error (.emptyComponent text)
  else if cs.any Text.isBlank then .error (.blank text)
  else .ok (.ofChars cs)

/-- Reads the components of a trimmed text from the left; the first faulty one decides. -/
def readComponents (text : String) : Except Fault (List Component) :=
  if text.isEmpty then .error .empty
  else (text.toList.splitOnP isSeparator).mapM (readComponent text)

end Version

/-- A version: the text it was read from and the components of that text. -/
structure Version where
  /-- The version as written. -/
  text : String
  /-- The components of the text. -/
  components : List Component
  /-- The components are those of the text. -/
  reads : Version.readComponents text = .ok components
  deriving DecidableEq

namespace Version

/-- Reads a version; blanks around it do not belong to it. -/
def parse? (s : String) : Except Fault Version :=
  match h : readComponents (Text.trim s) with
  | .ok components => .ok ⟨Text.trim s, components, h⟩
  | .error fault => .error fault

/-- A missing component. -/
def zero : Component := .number 0

/-- The components up to the last one that is not zero. -/
def significant (v : Version) : List Component :=
  (v.components.reverse.dropWhile (· == zero)).reverse

/-- Zero is the least component, so padding the shorter version with zeros is the same
as comparing the significant components. -/
instance : Ord Version := ⟨compareOn significant⟩

instance : Std.TransOrd Version := inferInstanceAs (Std.TransCmp (compareOn significant))

instance : ToString Version := ⟨text⟩

@[ext] theorem ext {v w : Version} (h : v.text = w.text) : v = w := by
  obtain ⟨t, cs, hv⟩ := v
  obtain ⟨u, ds, hw⟩ := w
  obtain rfl : t = u := h
  obtain rfl : cs = ds := by simpa using hv.symm.trans hw
  rfl

theorem compare_def (v w : Version) : compare v w = compare v.significant w.significant := rfl

theorem compare_eq_iff {v w : Version} : compare v w = .eq ↔ v.significant = w.significant := by
  rw [compare_def, Std.compare_eq_iff_eq]

/-! ### Reading the text of a version -/

theorem readComponent_ok {text : String} {cs : List Char} {c : Component}
    (h : readComponent text cs = .ok c) :
    cs ≠ [] ∧ (∀ x ∈ cs, Text.isBlank x = false) ∧ c = .ofChars cs := by
  unfold readComponent at h
  split at h
  · simp at h
  · split at h
    · simp at h
    · simp_all

/-- A character of a split list is a separator or stands in one of the parts. -/
theorem mem_splitOnP {p : Char → Bool} {cs : List Char} {c : Char} (h : c ∈ cs) :
    p c = true ∨ ∃ part ∈ cs.splitOnP p, c ∈ part := by
  induction cs with
  | nil => simp at h
  | cons d cs ih =>
    rw [List.splitOnP_cons_eq_if_modifyHead]
    by_cases hd : p d = true
    · rcases List.mem_cons.1 h with rfl | h
      · exact .inl hd
      · rcases ih h with hc | ⟨part, hmem, hc⟩
        · exact .inl hc
        · exact .inr ⟨part, by simp [hd, hmem], hc⟩
    · rw [if_neg hd]
      cases hs : cs.splitOnP p with
      | nil => exact absurd hs (List.splitOnP_ne_nil p cs)
      | cons part parts =>
        rcases List.mem_cons.1 h with rfl | h
        · exact .inr ⟨c :: part, by simp⟩
        · rcases ih h with hc | ⟨q, hmem, hc⟩
          · exact .inl hc
          · rw [hs] at hmem
            rcases List.mem_cons.1 hmem with rfl | hmem
            · exact .inr ⟨d :: q, by simp, List.mem_cons_of_mem _ hc⟩
            · exact .inr ⟨q, by simp [hmem], hc⟩

/-- A list read element by element: each element was read. -/
theorem forall_of_mapM_ok {α β ε : Type} {f : α → Except ε β} {l : List α} {m : List β}
    (h : l.mapM f = .ok m) : ∀ a ∈ l, ∃ b, f a = .ok b := by
  induction l generalizing m with
  | nil => simp
  | cons a l ih =>
    rw [List.mapM_cons] at h
    cases ha : f a with
    | error e => rw [ha] at h; exact nomatch h
    | ok b =>
      cases hl : l.mapM f with
      | error e => rw [ha, hl] at h; exact nomatch h
      | ok bs => simpa [ha] using ih hl

/-- The text of a version holds no blank. -/
theorem isBlank_of_mem_text (v : Version) {c : Char} (h : c ∈ v.text.toList) :
    Text.isBlank c = false := by
  have hv := v.reads
  unfold readComponents at hv
  split at hv
  · simp at hv
  · rcases mem_splitOnP (p := isSeparator) h with hc | ⟨part, hmem, hc⟩
    · simp only [isSeparator, Bool.or_eq_true, beq_iff_eq] at hc
      rcases hc with rfl | rfl <;> decide
    · obtain ⟨b, hb⟩ := forall_of_mapM_ok hv part hmem
      exact (readComponent_ok hb).2.1 c hc

@[simp] theorem trim_text (v : Version) : Text.trim v.text = v.text := by
  rw [Text.trim, Text.trimChars_eq_self_of_forall fun c => v.isBlank_of_mem_text,
    String.ofList_toList]

/-- The text of a version reads back as that version. -/
theorem parse?_text (v : Version) : parse? v.text = .ok v := by
  unfold parse?
  split
  · next components h => exact congrArg _ (ext (trim_text v))
  · next fault h =>
    rw [trim_text, v.reads] at h
    simp at h

end Version

end MigrationLedger
