import MigrationLedger.Proofs.StoredRows
import MigrationLedger.Proofs.VersionOrder

/-!
# The grammar of versions

A version is what stands between the blanks at both ends of a text, and it is made of segments:
what stands between its dots and underscores.  A text without anything between the blanks is no
version.  Any other text is one when every segment holds a character and none holds a blank; else
the first segment from the left that does not decides what is wrong.

A version keeps its text, which is read again as the same version.  Writing a dot for an underscore
or the other way round leaves the segments alone, so that it is another spelling of the version.

## Main definitions

* `Version.segments` — what stands between the separators of a text.
* `Version.HasFault` — what is wrong with a text.
* `Version.Reseparates` — one text is the other one, separators apart.

## Main results

* `Version.segments_eq_splitOn` — a reader may turn underscores into dots first.
* `Version.exists_parse?_iff`, `Version.parse?_eq_error_iff` — **which texts are versions, and what
  is wrong with the others.**
* `Version.exists_parse?_of_reseparates` — separators may be exchanged.
* `version_grammar` — all of this about one text.
-/

namespace MigrationLedger

namespace Version

/-! ### Segments -/

/-- What stands between the separators of a text. -/
def segments (text : String) : List (List Char) := text.toList.splitOnP isSeparator

/-- A dot in place of an underscore. -/
def toDot (c : Char) : Char := if c = '_' then '.' else c

/-- Only separators are dots afterwards, and everything else stays. -/
theorem toDot_cases (c : Char) :
    isSeparator c = true ∧ (toDot c == '.') = true ∨
      isSeparator c = false ∧ (toDot c == '.') = false ∧ toDot c = c := by
  by_cases hunderscore : c = '_'
  · exact .inl ⟨by simp [isSeparator, hunderscore], by simp [toDot, hunderscore]⟩
  · by_cases hdot : c = '.' <;> simp [isSeparator, toDot, hunderscore, hdot]

/-- **Turning underscores into dots and splitting at dots gives the segments.** -/
theorem segments_eq_splitOn (text : String) :
    segments text = (text.toList.map toDot).splitOn '.' := by
  unfold segments List.splitOn
  induction text.toList with
  | nil => rfl
  | cons c cs ih =>
    rw [List.map_cons, List.splitOnP_cons_eq_if_modifyHead, List.splitOnP_cons_eq_if_modifyHead, ih]
    rcases toDot_cases c with ⟨hc, hdot⟩ | ⟨hc, hdot, hsame⟩
    · rw [if_pos hc, if_pos hdot]
    · rw [if_neg (Bool.eq_false_iff.1 hc), if_neg (Bool.eq_false_iff.1 hdot), hsame]

/-! ### What is wrong with a text -/

/-- What is wrong with a text: there is nothing in it, or the first of its segments that is not
readable is empty or holds a blank. -/
inductive HasFault (text : String) : Fault → Prop
  /-- There is nothing. -/
  | empty : text = "" → HasFault text .empty
  /-- An empty segment behind readable ones. -/
  | emptyComponent {before after : List (List Char)} :
      text ≠ "" → segments text = before ++ [] :: after → (∀ cs ∈ before, IsReadable cs) →
      HasFault text (.emptyComponent text)
  /-- A segment with a blank behind readable ones. -/
  | blank {before after : List (List Char)} {cs : List Char} :
      text ≠ "" → segments text = before ++ cs :: after → (∀ cs ∈ before, IsReadable cs) →
      cs ≠ [] → (∃ c ∈ cs, Text.isBlank c = true) → HasFault text (.blank text)

theorem mapM_cons_eq_error_iff {α β ε : Type} {f : α → Except ε β} {a : α} {l : List α} {e : ε} :
    (a :: l).mapM f = .error e ↔ f a = .error e ∨ (∃ c, f a = .ok c) ∧ l.mapM f = .error e := by
  rw [List.mapM_cons]
  cases f a with
  | error e' => simp [bind, Except.bind]
  | ok c => cases l.mapM f <;> simp [bind, Except.bind, pure, Except.pure]

/-- A list is refused for the first element that is refused. -/
theorem mapM_eq_error_iff {α β ε : Type} {f : α → Except ε β} {l : List α} {e : ε} :
    l.mapM f = .error e ↔ ∃ before a after, l = before ++ a :: after ∧
      (∀ b ∈ before, ∃ c, f b = .ok c) ∧ f a = .error e := by
  induction l with
  | nil => simp [pure, Except.pure]
  | cons a l ih =>
    rw [mapM_cons_eq_error_iff, ih]
    constructor
    · rintro (ha | ⟨ha, before, x, after, rfl, hbefore, hx⟩)
      · exact ⟨[], a, l, rfl, by simp, ha⟩
      · exact ⟨a :: before, x, after, rfl, List.forall_mem_cons.2 ⟨ha, hbefore⟩, hx⟩
    · rintro ⟨before, x, after, hl, hbefore, hx⟩
      cases before with
      | nil =>
        obtain ⟨rfl, rfl⟩ := List.cons.inj hl
        exact .inl hx
      | cons b before =>
        obtain ⟨rfl, rfl⟩ := List.cons.inj hl
        obtain ⟨ha, hrest⟩ := List.forall_mem_cons.1 hbefore
        exact .inr ⟨ha, before, x, after, rfl, hrest, hx⟩

theorem readComponent_eq_error_iff {text : String} {cs : List Char} {fault : Fault} :
    readComponent text cs = .error fault ↔
      cs = [] ∧ fault = .emptyComponent text ∨
        cs ≠ [] ∧ (∃ c ∈ cs, Text.isBlank c = true) ∧ fault = .blank text := by
  rw [readComponent, ← List.any_eq_true]
  cases cs with
  | nil => simpa using eq_comm
  | cons c cs =>
    cases hblank : (c :: cs).any Text.isBlank with
    | true => simpa using eq_comm
    | false => simp

theorem exists_readComponent_iff {text : String} {cs : List Char} :
    (∃ c, readComponent text cs = .ok c) ↔ IsReadable cs := by
  simp only [readComponent_eq_ok_iff, exists_and_left, exists_eq, and_true]

/-- **What is wrong with a text is what its reader says.** -/
theorem readComponents_eq_error_iff {text : String} {fault : Fault} :
    readComponents text = .error fault ↔ HasFault text fault := by
  unfold readComponents
  split
  · next hempty =>
    have htext : text = "" := String.isEmpty_iff.1 hempty
    constructor
    · intro h
      obtain rfl := Except.error.inj h
      exact .empty htext
    · rintro (_ | ⟨hne, -⟩ | ⟨hne, -⟩)
      · rfl
      · exact absurd htext hne
      · exact absurd htext hne
  · next hempty =>
    have htext : text ≠ "" := fun h => hempty (String.isEmpty_iff.2 h)
    simp only [mapM_eq_error_iff, exists_readComponent_iff, readComponent_eq_error_iff]
    constructor
    · rintro ⟨before, cs, after, hsegments, hbefore, ⟨rfl, rfl⟩ | ⟨hne, hblank, rfl⟩⟩
      · exact .emptyComponent htext hsegments hbefore
      · exact .blank htext hsegments hbefore hne hblank
    · rintro (h | ⟨-, hsegments, hbefore⟩ | ⟨-, hsegments, hbefore, hne, hblank⟩)
      · exact absurd h htext
      · exact ⟨_, _, _, hsegments, hbefore, .inl ⟨rfl, rfl⟩⟩
      · exact ⟨_, _, _, hsegments, hbefore, .inr ⟨hne, hblank, rfl⟩⟩

theorem parse?_eq_error_iff {s : String} {fault : Fault} :
    parse? s = .error fault ↔ HasFault (Text.trim s) fault := by
  rw [← readComponents_eq_error_iff, parse?]
  split
  · next components h => simp [h]
  · next fault' h => simp [h]

theorem parse?_eq_ok_iff {s : String} {v : Version} :
    parse? s = .ok v ↔ v.text = Text.trim s := by
  refine ⟨text_of_parse?, fun h => ?_⟩
  unfold parse?
  split
  · exact congrArg Except.ok (ext h.symm)
  · next fault hfault =>
    rw [← h, v.reads] at hfault
    exact nomatch hfault

/-- **Which texts are versions.** -/
theorem exists_parse?_iff {s : String} :
    (∃ v, parse? s = .ok v) ↔
      Text.trim s ≠ "" ∧ ∀ cs ∈ segments (Text.trim s), IsReadable cs := by
  constructor
  · rintro ⟨v, hv⟩
    have hall := (readComponents_eq_ok_iff.1 v.reads).1
    rw [text_of_parse? hv] at hall
    refine ⟨fun hempty => ?_, hall⟩
    -- a text without characters has one segment, and that is empty
    rw [hempty] at hall
    exact (hall [] List.mem_cons_self).1 rfl
  · rintro ⟨-, hall⟩
    exact ⟨⟨Text.trim s, _, readComponents_eq_ok_iff.2 ⟨hall, rfl⟩⟩, parse?_eq_ok_iff.2 rfl⟩

/-- What a reader is told is what is wrong. -/
theorem parse_eq_ok_iff {s : String} {v : Version} :
    Version.parse s = .ok v ↔ parse? s = .ok v := by
  unfold Version.parse
  cases parse? s <;> simp [Except.mapError]

theorem parse_eq_error_iff {s : String} {e : Error} :
    Version.parse s = .error e ↔
      ∃ fault, HasFault (Text.trim s) fault ∧ e = .invalidVersion fault.message := by
  simp only [← parse?_eq_error_iff]
  unfold Version.parse
  cases parse? s <;> simp [Except.mapError, eq_comm]

/-! ### Other separators -/

/-- The texts are the same but for which separators stand between their segments. -/
def Reseparates (s t : String) : Prop := s.toList.map toDot = t.toList.map toDot

instance (s t : String) : Decidable (Reseparates s t) :=
  inferInstanceAs (Decidable (s.toList.map toDot = t.toList.map toDot))

variable {s t : String}

theorem segments_eq_of_reseparates (h : Reseparates s t) : segments t = segments s := by
  rw [segments_eq_splitOn, segments_eq_splitOn, h]

theorem isBlank_toDot (c : Char) : Text.isBlank (toDot c) = Text.isBlank c := by
  unfold toDot
  split
  · next h => subst h; decide
  · rfl

theorem map_toDot_trim (s : String) :
    (Text.trim s).toList.map toDot = Text.trimChars Text.isBlank (s.toList.map toDot) := by
  have hblank : Text.isBlank ∘ toDot = Text.isBlank := funext isBlank_toDot
  simp only [Text.toList_trim, Text.trimChars, List.dropWhile_map, ← List.map_reverse, hblank]

theorem Reseparates.trim (h : Reseparates s t) : Reseparates (Text.trim s) (Text.trim t) := by
  unfold Reseparates
  rw [map_toDot_trim, map_toDot_trim, h]

/-- **A version is read from its text with other separators, with the same components.** -/
theorem exists_parse?_of_reseparates {v : Version} (hv : parse? s = .ok v)
    (h : Reseparates s t) :
    ∃ w, parse? t = .ok w ∧ w.components = v.components := by
  obtain ⟨hall, hcomponents⟩ := readComponents_eq_ok_iff.1 v.reads
  rw [text_of_parse? hv] at hall hcomponents
  have hsegments : (Text.trim t).toList.splitOnP isSeparator
      = (Text.trim s).toList.splitOnP isSeparator := segments_eq_of_reseparates h.trim
  have hreads : readComponents (Text.trim t) = .ok v.components := by
    rw [readComponents_eq_ok_iff, hsegments]
    exact ⟨hall, hcomponents⟩
  exact ⟨⟨Text.trim t, v.components, hreads⟩, parse?_eq_ok_iff.2 rfl, rfl⟩

theorem compare_eq_of_components_eq {v w : Version} (h : w.components = v.components) :
    compare w v = .eq := by
  rw [compare_eq_iff, significant, h, significant]

end Version

/-- **The grammar of versions.**  What stands between the blanks of a text is read as a version
when it is not empty and each of its segments holds characters and no blank; else its reader says
what is wrong with the first segment that does not.  A version keeps what was read, reads again as
itself, and is the same version with other separators. -/
theorem version_grammar (s : String) :
    let text := Text.trim s
    Text.IsTrimOf s text ∧
    Version.segments text = (text.toList.map Version.toDot).splitOn '.' ∧
    ((∃ v, Version.parse s = .ok v) ↔
      text ≠ "" ∧ ∀ cs ∈ Version.segments text, Version.IsReadable cs) ∧
    (∀ e, Version.parse s = .error e ↔
      ∃ fault, Version.HasFault text fault ∧ e = .invalidVersion fault.message) ∧
    ∀ v, Version.parse s = .ok v → v.text = text ∧ Version.parse v.text = .ok v ∧
      ∀ t, Version.Reseparates s t → ∃ w, Version.parse t = .ok w ∧
        w.components = v.components ∧ compare w v = .eq := by
  simp only [Version.parse_eq_ok_iff]
  refine ⟨Text.isTrimOf_trim s, Version.segments_eq_splitOn _, Version.exists_parse?_iff,
    fun _ => Version.parse_eq_error_iff,
    fun v hv => ⟨Version.text_of_parse? hv, v.parse?_text, fun t ht => ?_⟩⟩
  obtain ⟨w, hw, hcomponents⟩ := Version.exists_parse?_of_reseparates hv ht
  exact ⟨w, hw, hcomponents, Version.compare_eq_of_components_eq hcomponents⟩

/-- `1_02.a` between blanks is the version that `1.02_a` is; two dots in a row are refused for the
empty component between them, and so they are before a component with a blank. -/
theorem version_grammar_respaced :
    (∃ v, Version.parse "\n1_02.a " = .ok v ∧ v.text = "1_02.a" ∧
      ∃ w, Version.parse "\n1.02_a " = .ok w ∧ compare w v = .eq) ∧
    Version.parse "1..2 3" = .error (.invalidVersion "empty component in '1..2 3'") := by
  constructor
  · have htrim : Text.trim "\n1_02.a " = "1_02.a" := by decide
    have hsegments : Version.segments "1_02.a" = [['1'], ['0', '2'], ['a']] := by decide
    obtain ⟨-, -, haccepts, -, hkeeps⟩ := version_grammar "\n1_02.a "
    rw [htrim, hsegments] at haccepts
    obtain ⟨v, hv⟩ := haccepts.2 ⟨by decide, by decide⟩
    obtain ⟨htext, -, hrespell⟩ := hkeeps v hv
    obtain ⟨w, hw, -, hsame⟩ := hrespell "\n1.02_a " (by decide)
    exact ⟨v, hv, htext.trans htrim, w, hw, hsame⟩
  · have htrim : Text.trim "1..2 3" = "1..2 3" := by decide
    have hsegments : Version.segments "1..2 3" = [['1']] ++ [] :: [['2', ' ', '3']] := by decide
    obtain ⟨-, -, -, hrefuses, -⟩ := version_grammar "1..2 3"
    rw [htrim] at hrefuses
    exact (hrefuses _).2 ⟨_, .emptyComponent (by decide) hsegments (by decide), by decide⟩

end MigrationLedger
