import MigrationLedger.Info

/-!
# Patterns that silence validation errors

A pattern is written `type:state`: `*:missing` covers every missing migration,
`repeatable:*` every problem with a repeatable one.  Blanks around either part and
the case of ASCII letters do not matter.

## Main definitions

* `IgnorePattern` — which migrations in which states are covered.
* `IgnorePattern.parse?` — reads a pattern, or says what is wrong with the text.
* `IgnorePattern.display` — the canonical text.

## Main results

* `IgnorePattern.parse?_display` — the canonical text reads back.
-/

namespace MigrationLedger

/-- Which migrations a pattern covers. -/
inductive PatternType
  /-- Every migration. -/
  | any
  /-- Migrations with a version. -/
  | versioned
  /-- Migrations without a version. -/
  | repeatable
  deriving DecidableEq, Repr

namespace PatternType

/-- The types in order. -/
def all : List PatternType := [.any, .versioned, .repeatable]

/-- The word for a type. -/
def name : PatternType → String
  | .any => "*"
  | .versioned => "versioned"
  | .repeatable => "repeatable"

/-- The type of a word. -/
def ofName? (s : String) : Option PatternType := all.find? fun t => t.name == s

/-- A type covers a migration by its version. -/
def covers : PatternType → Option Version → Bool
  | .any, _ => true
  | .versioned, v => v.isSome
  | .repeatable, v => v.isNone

end PatternType

/-- Which states a pattern covers. -/
inductive PatternState
  /-- Every state. -/
  | any
  /-- Applied and no longer discovered. -/
  | missing
  /-- Waiting to run. -/
  | pending
  /-- Skipped. -/
  | ignored
  /-- Applied and newer than everything discovered. -/
  | future
  /-- Applied without success. -/
  | failed
  deriving DecidableEq, Repr

namespace PatternState

/-- The states in order. -/
def all : List PatternState := [.any, .missing, .pending, .ignored, .future, .failed]

/-- The word for a state. -/
def name : PatternState → String
  | .any => "*"
  | .missing => "missing"
  | .pending => "pending"
  | .ignored => "ignored"
  | .future => "future"
  | .failed => "failed"

/-- The state of a word. -/
def ofName? (s : String) : Option PatternState := all.find? fun t => t.name == s

/-- The states that a word covers. -/
def covers : PatternState → MigrationState → Bool
  | .any, _ => true
  | .missing, s => s == .missing
  | .pending, s => s.isPending
  | .ignored, s => s == .ignored
  | .future, s => s == .future
  | .failed, s => s == .failed

end PatternState

/-- Which migrations in which states are silenced. -/
structure IgnorePattern where
  /-- The migrations. -/
  type : PatternType
  /-- The states. -/
  state : PatternState
  deriving DecidableEq, Repr

namespace IgnorePattern

/-- What can be wrong with the text of a pattern. -/
inductive Fault
  /-- There is no colon in `text`. -/
  | noColon (text : String)
  /-- The first part of `text` is no type. -/
  | unknownType (word text : String)
  /-- The second part of `text` is no state. -/
  | unknownState (word text : String)
  deriving DecidableEq, Repr

/-- What a reader is told about a fault. -/
def Fault.message : Fault → String
  | .noColon text => "'" ++ text ++ "' must be of the form type:state"
  | .unknownType word text =>
      "unknown migration type '" ++ word ++ "' in '" ++ text
        ++ "' (expected *, versioned or repeatable)"
  | .unknownState word text => "unknown state '" ++ word ++ "' in '" ++ text ++ "'"

/-- Covers everything. -/
def everything : IgnorePattern := ⟨.any, .any⟩

/-- A part of a pattern without blanks around it and in lower case. -/
def word (cs : List Char) : String := Text.lowerAscii (Text.trim (String.ofList cs))

/-- The parts of a list before and after its first colon. -/
def splitAtColon? (cs : List Char) : Option (List Char × List Char) :=
  match cs.dropWhile (· != ':') with
  | [] => none
  | _ :: rest => some (cs.takeWhile (· != ':'), rest)

/-- Reads a pattern: a missing colon is told first, then an unknown type, then an unknown state. -/
def parse? (s : String) : Except Fault IgnorePattern :=
  match splitAtColon? (Text.trim s).toList with
  | none => .error (.noColon s)
  | some (before, after) =>
    match PatternType.ofName? (word before) with
    | none => .error (.unknownType (word before) s)
    | some type =>
      match PatternState.ofName? (word after) with
      | none => .error (.unknownState (word after) s)
      | some state => .ok ⟨type, state⟩

/-- Reads a pattern. -/
def parse (s : String) : Except Error IgnorePattern :=
  (parse? s).mapError fun fault => .invalidPattern fault.message

/-- The canonical text. -/
def display (p : IgnorePattern) : String := p.type.name ++ ":" ++ p.state.name

/-- A pattern covers an info. -/
def covers (p : IgnorePattern) (i : MigrationInfo) : Bool :=
  p.type.covers i.version && p.state.covers i.state

/-- Some pattern covers an info. -/
def anyCovers (ps : List IgnorePattern) (i : MigrationInfo) : Bool := ps.any fun p => p.covers i

@[simp] theorem everything_covers (i : MigrationInfo) : everything.covers i = true := rfl

/-- The first colon divides a list. -/
theorem splitAtColon?_append {before : List Char} (h : ∀ c ∈ before, (c != ':') = true)
    (after : List Char) : splitAtColon? (before ++ ':' :: after) = some (before, after) := by
  unfold splitAtColon?
  rw [List.dropWhile_append_of_pos h, List.takeWhile_append_of_pos h]
  simp

/-- The canonical text reads back. -/
theorem parse?_display (p : IgnorePattern) : parse? p.display = .ok p := by
  obtain ⟨t, s⟩ := p
  have htext : (display ⟨t, s⟩).toList = t.name.toList ++ ':' :: s.name.toList := by
    simp [display]
  have hblank : (t.name.toList ++ ':' :: s.name.toList).all (fun c => !Text.isBlank c) = true := by
    cases t <;> cases s <;> rfl
  have hcolon : t.name.toList.all (· != ':') = true := by cases t <;> rfl
  have htype : PatternType.ofName? (word t.name.toList) = some t := by cases t <;> rfl
  have hstate : PatternState.ofName? (word s.name.toList) = some s := by cases s <;> rfl
  have htrim := Text.trimChars_eq_self_of_forall (p := Text.isBlank) fun c hc => by
    simpa using List.all_eq_true.1 hblank c hc
  unfold parse?
  rw [Text.toList_trim, htext, htrim, splitAtColon?_append (List.all_eq_true.1 hcolon)]
  simp only [htype, hstate]

end IgnorePattern

end MigrationLedger
