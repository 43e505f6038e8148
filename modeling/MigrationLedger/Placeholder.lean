/-!
# Placeholders

A configuration can name variables of the environment, each between a dollar sign
with an opening brace and the next closing brace.  One pass from left to right puts
in the values of those that are set.  What was put in is not looked at again, and a
placeholder of a variable that is not set stays as it is.

## Main definitions

* `Variables` — the values of the variables that are set.
* `placeholder?` — a leading placeholder: its name and what follows it.
* `expand` — a text with the values put in.

## Main results

* `length_placeholder?` — what follows a placeholder is shorter.
* `expand_of_unset` — without variables a text stays as it is.
-/

namespace MigrationLedger

/-- The values of the variables that are set. -/
abbrev Variables : Type := String → Option String

namespace Placeholder

/-- The name of a leading placeholder, which is not empty, and what follows it. -/
def placeholder? : List Char → Option (List Char × List Char)
  | '$' :: '\x7b' :: cs =>
    let name := cs.takeWhile (· != '\x7d')
    match cs.dropWhile (· != '\x7d') with
    | [] => none
    | _ :: rest => if name.isEmpty then none else some (name, rest)
  | _ => none

/-- The written form of a placeholder. -/
def written (name : List Char) : List Char := '$' :: '\x7b' :: name ++ ['\x7d']

/-- The value of a variable, or its placeholder where it is not set. -/
def value (vars : Variables) (name : List Char) : List Char :=
  ((vars (String.ofList name)).map String.toList).getD (written name)

/-- A placeholder is written before what follows it. -/
theorem eq_of_placeholder? {cs name rest : List Char} (h : placeholder? cs = some (name, rest)) :
    cs = written name ++ rest := by
  unfold placeholder? at h
  split at h
  · rename_i cs
    split at h
    · simp at h
    · rename_i c rest' hd
      dsimp only at h
      split at h
      · simp at h
      · simp only [Option.some.injEq, Prod.mk.injEq] at h
        obtain ⟨rfl, rfl⟩ := h
        have hc : c = '\x7d' := by
          have hn := List.head?_dropWhile_not (· != '\x7d') cs
          rw [hd] at hn
          simpa using hn
        have happ := List.takeWhile_append_dropWhile (p := (· != '\x7d')) (l := cs)
        rw [hd, hc] at happ
        simpa [written] using happ.symm
  · simp at h

/-- What follows a placeholder is shorter. -/
theorem length_placeholder? {cs name rest : List Char}
    (h : placeholder? cs = some (name, rest)) : rest.length < cs.length := by
  rw [eq_of_placeholder? h]
  simp [written]
  omega

/-- A text with the values of the variables put in. -/
def expandChars (vars : Variables) : List Char → List Char
  | [] => []
  | c :: cs =>
    match _h : placeholder? (c :: cs) with
    | some (name, rest) => value vars name ++ expandChars vars rest
    | none => c :: expandChars vars cs
termination_by cs => cs.length
decreasing_by
  · exact length_placeholder? _h
  · simp

end Placeholder

/-- A text with the values of the variables put in. -/
def expand (vars : Variables) (s : String) : String :=
  String.ofList (Placeholder.expandChars vars s.toList)

namespace Placeholder

theorem expandChars_placeholder {vars : Variables} {cs name rest : List Char}
    (h : placeholder? cs = some (name, rest)) :
    expandChars vars cs = value vars name ++ expandChars vars rest := by
  cases cs with
  | nil => simp [placeholder?] at h
  | cons c cs =>
    rw [expandChars]
    split
    · rename_i name' rest' h'
      rw [h] at h'
      simp only [Option.some.injEq, Prod.mk.injEq] at h'
      rw [h'.1, h'.2]
    · rename_i h'
      rw [h] at h'
      simp at h'

theorem expandChars_cons {vars : Variables} {c : Char} {cs : List Char}
    (h : placeholder? (c :: cs) = none) :
    expandChars vars (c :: cs) = c :: expandChars vars cs := by
  rw [expandChars]
  split
  · rename_i h'
    rw [h] at h'
    simp at h'
  · rfl

/-- Without variables a text stays as it is. -/
theorem expand_of_unset (cs : List Char) : expandChars (fun _ => none) cs = cs := by
  match cs with
  | [] => rw [expandChars]
  | c :: cs =>
    cases h : placeholder? (c :: cs) with
    | none => rw [expandChars_cons h, expand_of_unset cs]
    | some p =>
      have hl := length_placeholder? h
      rw [expandChars_placeholder h, expand_of_unset p.2, eq_of_placeholder? h]
      rfl
termination_by cs.length
decreasing_by
  · simp
  · exact hl

end Placeholder

end MigrationLedger
