import Mathlib.Data.List.Basic
import MigrationLedger.Placeholder

/-!
# Expansion is one pass

A text is scanned from the left.  Where a dollar sign and an opening brace are followed by a name
and a closing brace, the value of the variable of this name is put in, or the placeholder stays
because the variable is not set, and the scan goes on behind it; every other character stays.  A
name is everything up to the closing brace, whatever stands in it, and it is not empty.  These rules
leave nothing open.  Which parts of a text are placeholders does not depend on the variables, so
that a value is never looked at again.

A program can also leave the scan to a search for patterns, which finds the leftmost placeholder in
what is left of a text.  At one place there is at most one placeholder, since the first closing
brace ends it; so it does not matter whether the search prefers longer matches.  Any such search
gives what the scan gives.

## Main definitions

* `Placeholder.IsName` — what may stand between the braces.
* `Placeholder.ScansOnce` — the rules of the scan.
* `Placeholder.Piece`, `Placeholder.pieces` — a text as characters and placeholders.
* `Placeholder.Search`, `Placeholder.replaceAll` — a search for the leftmost placeholder, and the
  text with all that it finds replaced.

## Main results

* `Placeholder.placeholder?_eq_some_iff` — which texts begin with a placeholder.
* `Placeholder.scan_induction` — induction along the scan.
* `Placeholder.expandChars_eq_flatMap` — the variables change nothing but the placeholders.
* `Placeholder.replaceAll_eq_expandChars` — **replacing what a search finds is the scan.**
* `expansion_is_one_pass` — **variable expansion is one pass from left to right.**
-/

namespace MigrationLedger

namespace Placeholder

variable {vars : Variables} {cs name rest : List Char} {c : Char}

/-! ### Placeholders -/

/-- What may stand between the braces: at least one character, and none that closes them. -/
structure IsName (name : List Char) : Prop where
  /-- There is a character. -/
  ne_nil : name ≠ []
  /-- None of them is a closing brace. -/
  unclosed : '\x7d' ∉ name

/-- What is read behind the opening brace, up to the first closing one. -/
theorem placeholder?_open (cs : List Char) :
    placeholder? ('$' :: '\x7b' :: cs) = match cs.dropWhile (· != '\x7d') with
      | [] => none
      | _ :: rest => if (cs.takeWhile (· != '\x7d')).isEmpty then none
          else some (cs.takeWhile (· != '\x7d'), rest) := rfl

theorem isName_of_placeholder? (h : placeholder? cs = some (name, rest)) : IsName name := by
  have htext : cs = '$' :: '\x7b' :: (name ++ '\x7d' :: rest) := by
    rw [eq_of_placeholder? h]
    simp [written]
  rw [htext, placeholder?_open] at h
  cases hdrop : (name ++ '\x7d' :: rest).dropWhile (· != '\x7d') with
  | nil =>
    rw [hdrop] at h
    exact absurd h.symm (Option.some_ne_none _)
  | cons d ds =>
    rw [hdrop] at h
    dsimp only at h
    by_cases hempty : ((name ++ '\x7d' :: rest).takeWhile (· != '\x7d')).isEmpty = true
    · rw [if_pos hempty] at h
      exact absurd h.symm (Option.some_ne_none _)
    · rw [if_neg hempty] at h
      obtain ⟨hname, -⟩ := Prod.mk.inj (Option.some.inj h)
      rw [hname] at hempty
      refine ⟨fun hnil => hempty (List.isEmpty_iff.2 hnil), fun hmem => ?_⟩
      rw [← hname] at hmem
      exact absurd (List.all_eq_true.1 List.all_takeWhile _ hmem) (by decide)

/-- A name is read to its end, and no further. -/
theorem placeholder?_written (h : IsName name) (rest : List Char) :
    placeholder? (written name ++ rest) = some (name, rest) := by
  have hopen : ∀ c ∈ name, (c != '\x7d') = true := by
    intro c hc
    rw [bne_iff_ne]
    rintro rfl
    exact h.unclosed hc
  have htext : written name ++ rest = '$' :: '\x7b' :: (name ++ '\x7d' :: rest) := by
    simp [written]
  have htake : (name ++ '\x7d' :: rest).takeWhile (· != '\x7d') = name := by
    rw [List.takeWhile_append_of_pos hopen, List.takeWhile_cons_of_neg (by decide), List.append_nil]
  have hdrop : (name ++ '\x7d' :: rest).dropWhile (· != '\x7d') = '\x7d' :: rest := by
    rw [List.dropWhile_append_of_pos hopen, List.dropWhile_cons_of_neg (by decide)]
  have hne : name.isEmpty = false := by
    rw [List.isEmpty_eq_false_iff]
    exact h.ne_nil
  rw [htext, placeholder?_open, htake, hdrop, hne]
  rfl

/-- **Which texts begin with a placeholder.** -/
theorem placeholder?_eq_some_iff :
    placeholder? cs = some (name, rest) ↔ cs = written name ++ rest ∧ IsName name := by
  constructor
  · intro h
    exact ⟨eq_of_placeholder? h, isName_of_placeholder? h⟩
  · rintro ⟨rfl, h⟩
    exact placeholder?_written h rest

theorem placeholder?_eq_none_iff :
    placeholder? cs = none ↔ ∀ name rest, IsName name → cs ≠ written name ++ rest := by
  rw [Option.eq_none_iff_forall_ne_some]
  constructor
  · intro h name rest hname hcs
    exact h (name, rest) (placeholder?_eq_some_iff.2 ⟨hcs, hname⟩)
  · rintro h ⟨name, rest⟩ hsome
    obtain ⟨hcs, hname⟩ := placeholder?_eq_some_iff.1 hsome
    exact h name rest hname hcs

/-- Induction along the scan: over the placeholders and the characters that begin none. -/
theorem scan_induction {motive : List Char → Prop} (nil : motive [])
    (placeholder : ∀ name rest, IsName name → motive rest → motive (written name ++ rest))
    (char : ∀ c cs, placeholder? (c :: cs) = none → motive cs → motive (c :: cs))
    (cs : List Char) : motive cs := by
  induction hlength : cs.length using Nat.strongRecOn generalizing cs with
  | _ n ih =>
    subst hlength
    cases cs with
    | nil => exact nil
    | cons c cs =>
      cases h : placeholder? (c :: cs) with
      | none => exact char c cs h (ih _ (by simp) cs rfl)
      | some found =>
        obtain ⟨name, rest⟩ := found
        have hlt := length_placeholder? h
        obtain ⟨hcs, hname⟩ := placeholder?_eq_some_iff.1 h
        rw [hcs]
        exact placeholder name rest hname (ih _ hlt rest rfl)

/-! ### The rules of the scan -/

/-- The rules of the scan. -/
structure ScansOnce (vars : Variables) (f : List Char → List Char) : Prop where
  /-- Nothing becomes nothing. -/
  nil : f [] = []
  /-- A placeholder of a variable that is set becomes its value, as it is. -/
  set : ∀ {name rest value}, IsName name → vars (String.ofList name) = some value →
    f (written name ++ rest) = value.toList ++ f rest
  /-- A placeholder of a variable that is not set stays. -/
  unset : ∀ {name rest}, IsName name → vars (String.ofList name) = none →
    f (written name ++ rest) = written name ++ f rest
  /-- A character that begins no placeholder stays. -/
  char : ∀ {c cs}, (∀ name rest, IsName name → c :: cs ≠ written name ++ rest) →
    f (c :: cs) = c :: f cs

theorem expandChars_written (h : IsName name) (rest : List Char) :
    expandChars vars (written name ++ rest) = value vars name ++ expandChars vars rest :=
  expandChars_placeholder (placeholder?_written h rest)

theorem scansOnce_expandChars (vars : Variables) : ScansOnce vars (expandChars vars) where
  nil := by rw [expandChars]
  set hname hset := by
    rw [expandChars_written hname, value, hset]
    rfl
  unset hname hunset := by
    rw [expandChars_written hname, value, hunset]
    rfl
  char h := expandChars_cons (placeholder?_eq_none_iff.2 h)

/-- **The rules leave nothing open.** -/
theorem ScansOnce.eq {f : List Char → List Char} (h : ScansOnce vars f) : f = expandChars vars := by
  funext cs
  have hscan := scansOnce_expandChars vars
  induction cs using scan_induction with
  | nil => rw [h.nil, hscan.nil]
  | placeholder name rest hname ih =>
    cases hvar : vars (String.ofList name) with
    | none => rw [h.unset hname hvar, hscan.unset hname hvar, ih]
    | some value => rw [h.set hname hvar, hscan.set hname hvar, ih]
  | char c cs hnone ih =>
    have hother := placeholder?_eq_none_iff.1 hnone
    rw [h.char hother, hscan.char hother, ih]

/-! ### Pieces -/

/-- A piece of a text: a character that stays, or a placeholder. -/
inductive Piece
  /-- A character that stays. -/
  | char (c : Char)
  /-- A placeholder of this name. -/
  | placeholder (name : List Char)
  deriving DecidableEq

/-- A piece as it stands in the text. -/
def Piece.text : Piece → List Char
  | .char c => [c]
  | .placeholder name => written name

/-- A piece as it stands in the expanded text. -/
def Piece.shown (vars : Variables) : Piece → List Char
  | .char c => [c]
  | .placeholder name => value vars name

/-- The pieces of a text, from the left. -/
def pieces : List Char → List Piece
  | [] => []
  | c :: cs =>
    match _h : placeholder? (c :: cs) with
    | some (name, rest) => .placeholder name :: pieces rest
    | none => .char c :: pieces cs
termination_by cs => cs.length
decreasing_by
  · exact length_placeholder? _h
  · simp

theorem pieces_written (h : IsName name) (rest : List Char) :
    pieces (written name ++ rest) = .placeholder name :: pieces rest := by
  have hsome := placeholder?_written h rest
  have hcons : written name ++ rest = '$' :: ('\x7b' :: name ++ ['\x7d'] ++ rest) := rfl
  rw [hcons] at hsome ⊢
  rw [pieces]
  split
  · next hfound =>
    rw [hsome] at hfound
    obtain ⟨rfl, rfl⟩ := Prod.mk.inj (Option.some.inj hfound)
    rfl
  · next hnone =>
    rw [hsome] at hnone
    exact nomatch hnone

theorem pieces_cons (h : placeholder? (c :: cs) = none) :
    pieces (c :: cs) = .char c :: pieces cs := by
  rw [pieces]
  split
  · next hfound =>
    rw [h] at hfound
    exact nomatch hfound
  · rfl

/-- The pieces make up the text. -/
theorem flatMap_text_pieces (cs : List Char) : (pieces cs).flatMap Piece.text = cs := by
  induction cs using scan_induction with
  | nil => rw [pieces, List.flatMap_nil]
  | placeholder name rest hname ih =>
    rw [pieces_written hname, List.flatMap_cons, ih]
    rfl
  | char c cs hnone ih =>
    rw [pieces_cons hnone, List.flatMap_cons, ih]
    rfl

/-- **The variables change nothing but the placeholders**, and these do not depend on them. -/
theorem expandChars_eq_flatMap (vars : Variables) (cs : List Char) :
    expandChars vars cs = (pieces cs).flatMap (Piece.shown vars) := by
  induction cs using scan_induction with
  | nil => rw [expandChars, pieces, List.flatMap_nil]
  | placeholder name rest hname ih =>
    rw [pieces_written hname, expandChars_written hname, List.flatMap_cons, ih]
    rfl
  | char c cs hnone ih =>
    rw [pieces_cons hnone, expandChars_cons hnone, List.flatMap_cons, ih]
    rfl

/-- Where none of the variables that a text names is set, the text stays as it is. -/
theorem expandChars_eq_self
    (h : ∀ name, Piece.placeholder name ∈ pieces cs → vars (String.ofList name) = none) :
    expandChars vars cs = cs := by
  have hshown : ∀ piece ∈ pieces cs, piece.shown vars = piece.text := by
    intro piece hpiece
    cases piece with
    | char c => rfl
    | placeholder name =>
      rw [Piece.shown, value, h name hpiece]
      rfl
  rw [expandChars_eq_flatMap, List.flatMap_congr hshown, flatMap_text_pieces]

/-! ### Texts that stay -/

theorem placeholder?_of_ne (h : c ≠ '$') (cs : List Char) : placeholder? (c :: cs) = none := by
  rw [placeholder?_eq_none_iff]
  rintro name rest - heq
  exact h (List.cons.inj heq).1

/-- A placeholder without a name stays. -/
theorem expandChars_nameless (rest : List Char) :
    expandChars vars (written [] ++ rest) = written [] ++ expandChars vars rest := by
  have hnone : placeholder? ('$' :: '\x7b' :: '\x7d' :: rest) = none := rfl
  change expandChars vars ('$' :: '\x7b' :: '\x7d' :: rest) = _
  rw [expandChars_cons hnone, expandChars_cons (placeholder?_of_ne (by decide) _),
    expandChars_cons (placeholder?_of_ne (by decide) _)]
  rfl

/-- A text in which no brace is closed stays. -/
theorem expandChars_unclosed (h : '\x7d' ∉ cs) : expandChars vars cs = cs := by
  induction cs using scan_induction with
  | nil => rw [expandChars]
  | placeholder name rest hname ih =>
    exact absurd (by simp [written]) h
  | char c cs hnone ih =>
    rw [expandChars_cons hnone, ih (List.not_mem_of_not_mem_cons h)]

/-! ### Searching for patterns -/

/-- A place where a placeholder stands. -/
structure Occurrence where
  /-- What stands before the placeholder. -/
  before : List Char
  /-- The name in it. -/
  name : List Char
  /-- What stands behind it. -/
  after : List Char

/-- The placeholder stands in the text. -/
structure Occurrence.IsIn (o : Occurrence) (text : List Char) : Prop where
  /-- The text around it. -/
  text_eq : text = o.before ++ (written o.name ++ o.after)
  /-- Its name is one. -/
  isName : IsName o.name

theorem Occurrence.IsIn.length_after_lt {o : Occurrence} (h : o.IsIn cs) :
    o.after.length < cs.length := by
  rw [h.text_eq]
  simp [written]
  omega

/-- A search for the leftmost placeholder of a text. -/
structure Search where
  /-- What it finds. -/
  find : List Char → Option Occurrence
  /-- What it finds is there. -/
  isIn : ∀ {text o}, find text = some o → o.IsIn text
  /-- Nothing is further to the left. -/
  leftmost : ∀ {text o}, find text = some o → ∀ o' : Occurrence, o'.IsIn text →
    o.before.length ≤ o'.before.length
  /-- It finds something if anything is there. -/
  complete : ∀ {text}, find text = none → ∀ o : Occurrence, ¬ o.IsIn text

/-- The text with all that the search finds replaced, one after the other: after each it is put to
what is left of the text. -/
def replaceAll (search : Search) (vars : Variables) (text : List Char) : List Char :=
  match _h : search.find text with
  | none => text
  | some o => o.before ++ (value vars o.name ++ replaceAll search vars o.after)
termination_by text.length
decreasing_by exact (search.isIn _h).length_after_lt

/-- What begins no placeholder stays, up to where the first one begins. -/
theorem expandChars_append {before : List Char}
    (h : ∀ front back, before = front ++ back → back ≠ [] → placeholder? (back ++ rest) = none) :
    expandChars vars (before ++ rest) = before ++ expandChars vars rest := by
  induction before with
  | nil => rfl
  | cons c before ih =>
    have hnone := h [] (c :: before) rfl (List.cons_ne_nil c before)
    rw [List.cons_append] at hnone
    rw [List.cons_append, expandChars_cons hnone, List.cons_append]
    congr 1
    refine ih fun front back hbefore hback => ?_
    exact h (c :: front) back (congrArg (c :: ·) hbefore) hback

/-- **Replacing what a search finds is the scan.** -/
theorem replaceAll_eq_expandChars (search : Search) (vars : Variables) (cs : List Char) :
    replaceAll search vars cs = expandChars vars cs := by
  induction hlength : cs.length using Nat.strongRecOn generalizing cs with
  | _ n ih =>
    subst hlength
    rw [replaceAll]
    split
    · next hfind =>
      -- no placeholder begins anywhere
      have hself : expandChars vars (cs ++ []) = cs ++ expandChars vars [] := by
        refine expandChars_append fun front back hcs _ => placeholder?_eq_none_iff.2 ?_
        intro name rest hname hback
        rw [List.append_nil] at hback
        exact search.complete hfind ⟨front, name, rest⟩ ⟨by rw [hcs, hback], hname⟩
      rw [List.append_nil, expandChars, List.append_nil] at hself
      exact hself.symm
    · next o hfind =>
      have hin := search.isIn hfind
      have hbefore : expandChars vars (o.before ++ (written o.name ++ o.after))
          = o.before ++ expandChars vars (written o.name ++ o.after) := by
        refine expandChars_append fun front back hsplit hback => placeholder?_eq_none_iff.2 ?_
        intro name rest hname htext
        -- a placeholder that begins earlier would have been found
        have hleft : o.before.length ≤ front.length :=
          search.leftmost hfind ⟨front, name, rest⟩
            ⟨by rw [hin.text_eq, hsplit, List.append_assoc, htext], hname⟩
        have hpos := List.length_pos_iff.2 hback
        rw [hsplit, List.length_append] at hleft
        omega
      rw [ih _ hin.length_after_lt o.after rfl, ← expandChars_written hin.isName, ← hbefore,
        ← hin.text_eq]

/-! ### A search that scans -/

/-- The leftmost placeholder of a text. -/
def scanFor : List Char → Option Occurrence
  | [] => none
  | c :: cs =>
    match placeholder? (c :: cs) with
    | some (name, rest) => some ⟨[], name, rest⟩
    | none => (scanFor cs).map fun o => { o with before := c :: o.before }

theorem not_isIn_nil (o : Occurrence) : ¬ o.IsIn [] := by
  intro h
  exact absurd h.length_after_lt (Nat.not_lt_zero _)

/-- A placeholder begins at the first character or stands in the rest. -/
theorem Occurrence.IsIn.cases_cons {o : Occurrence} (h : o.IsIn (c :: cs)) :
    placeholder? (c :: cs) = some (o.name, o.after) ∧ o.before = [] ∨
      ∃ front, o.before = c :: front ∧ Occurrence.IsIn ⟨front, o.name, o.after⟩ cs := by
  have htext := h.text_eq
  cases hbefore : o.before with
  | nil =>
    rw [hbefore, List.nil_append] at htext
    exact .inl ⟨placeholder?_eq_some_iff.2 ⟨htext, h.isName⟩, rfl⟩
  | cons d front =>
    rw [hbefore, List.cons_append] at htext
    obtain ⟨rfl, hcs⟩ := List.cons.inj htext
    exact .inr ⟨front, rfl, hcs, h.isName⟩

theorem not_isIn_of_scanFor (h : scanFor cs = none) (o : Occurrence) : ¬ o.IsIn cs := by
  induction cs generalizing o with
  | nil => exact not_isIn_nil o
  | cons c cs ih =>
    rw [scanFor] at h
    split at h
    · exact nomatch h
    · next hnone =>
      intro hin
      rcases hin.cases_cons with ⟨hsome, -⟩ | ⟨front, -, hrest⟩
      · rw [hnone] at hsome
        exact nomatch hsome
      · exact ih (Option.map_eq_none_iff.1 h) _ hrest

theorem isIn_of_scanFor {o : Occurrence} (h : scanFor cs = some o) : o.IsIn cs := by
  induction cs generalizing o with
  | nil => exact nomatch h
  | cons c cs ih =>
    rw [scanFor] at h
    split at h
    · next hsome =>
      obtain rfl := Option.some.inj h
      obtain ⟨htext, hname⟩ := placeholder?_eq_some_iff.1 hsome
      exact ⟨htext, hname⟩
    · obtain ⟨o', hfound, rfl⟩ := Option.map_eq_some_iff.1 h
      have hin := ih hfound
      exact ⟨congrArg (c :: ·) hin.text_eq, hin.isName⟩

theorem leftmost_of_scanFor {o o' : Occurrence} (h : scanFor cs = some o) (hin : o'.IsIn cs) :
    o.before.length ≤ o'.before.length := by
  induction cs generalizing o o' with
  | nil => exact absurd hin (not_isIn_nil o')
  | cons c cs ih =>
    rw [scanFor] at h
    split at h
    · obtain rfl := Option.some.inj h
      exact Nat.zero_le _
    · next hnone =>
      obtain ⟨found, hfound, rfl⟩ := Option.map_eq_some_iff.1 h
      rcases hin.cases_cons with ⟨hsome, -⟩ | ⟨front, hbefore, hrest⟩
      · rw [hnone] at hsome
        exact nomatch hsome
      · rw [hbefore]
        exact Nat.succ_le_succ (ih hfound hrest)

/-- The search that scans the text. -/
def scanner : Search where
  find := scanFor
  isIn := isIn_of_scanFor
  leftmost h _ := leftmost_of_scanFor h
  complete := not_isIn_of_scanFor

end Placeholder

open Placeholder

/-- **Variable expansion is one pass from left to right.**  It obeys the rules of the scan and
nothing else does.  It is what comes of any search for the leftmost placeholder when all that the
search finds is replaced.  The pieces of a text are the same for all variables, which change the
placeholders among them and nothing else, so that a value is never expanded again.  A text stays as
it is when none of the variables that it names is set, and so do a placeholder without a name and a
text in which no brace is closed. -/
theorem expansion_is_one_pass (vars : Variables) :
    (∀ f, ScansOnce vars f ↔ f = expandChars vars) ∧
    (∀ (search : Search) (s : String),
      expand vars s = String.ofList (replaceAll search vars s.toList)) ∧
    (∀ text, (pieces text).flatMap Piece.text = text ∧
      expandChars vars text = (pieces text).flatMap (Piece.shown vars)) ∧
    (∀ text, (∀ name, Piece.placeholder name ∈ pieces text → vars (String.ofList name) = none) →
      expandChars vars text = text) ∧
    (∀ rest, expandChars vars (written [] ++ rest) = written [] ++ expandChars vars rest) ∧
    ∀ text, '\x7d' ∉ text → expandChars vars text = text := by
  refine ⟨fun f => ⟨ScansOnce.eq, ?_⟩, fun search s => ?_, fun text => ?_,
    fun text => expandChars_eq_self, expandChars_nameless, fun text => expandChars_unclosed⟩
  · rintro rfl
    exact scansOnce_expandChars vars
  · rw [expand, replaceAll_eq_expandChars]
  · exact ⟨flatMap_text_pieces text, expandChars_eq_flatMap vars text⟩

namespace Plain

/-- A name that holds the beginning of a placeholder. -/
def nested : List Char := ['b', '$', '\x7b', 'c']

/-- Two variables, of which the one with such a name holds a placeholder of the other. -/
def environment : Variables := fun name =>
  if name = String.ofList nested then some (String.ofList (written ['e']))
  else if name = "e" then some "x" else none

/-- Placeholders of both, one without a name between them, and one that is not closed. -/
def template : List Char :=
  'a' :: (written nested ++ (written [] ++ (written ['e'] ++ ['$', '\x7b', 'f'])))

end Plain

/-- The value that looks like a placeholder stays as it is, and so does all that is not a
placeholder; a search finds the same. -/
theorem expansion_is_one_pass_nested :
    expandChars Plain.environment Plain.template
        = 'a' :: (written ['e'] ++ (written [] ++ ('x' :: ['$', '\x7b', 'f']))) ∧
      expand Plain.environment (String.ofList Plain.template)
        = String.ofList (replaceAll scanner Plain.environment Plain.template) ∧
      expandChars (fun _ => none) Plain.template = Plain.template := by
  obtain ⟨hrules, hsearch, -, -, hnameless, hunclosed⟩ := expansion_is_one_pass Plain.environment
  obtain ⟨-, -, -, hunset, -⟩ := expansion_is_one_pass fun _ => none
  have hscan := (hrules _).2 rfl
  have hchar : ∀ name rest, IsName name → Plain.template ≠ written name ++ rest :=
    placeholder?_eq_none_iff.1 (by decide)
  have hnested : Plain.environment (String.ofList Plain.nested)
      = some (String.ofList (written ['e'])) := by decide
  have hplain : Plain.environment (String.ofList ['e']) = some "x" := by decide
  refine ⟨?_, ?_, hunset _ fun _ _ => rfl⟩
  · rw [Plain.template, hscan.char hchar, hscan.set ⟨by decide, by decide⟩ hnested, hnameless,
      hscan.set ⟨by decide, by decide⟩ hplain, hunclosed _ (by decide), String.toList_ofList]
    rfl
  · rw [hsearch, String.toList_ofList]

end MigrationLedger
