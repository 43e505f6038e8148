import MigrationLedger.Datum
import MigrationLedger.Error

/-!
# Decoding data

A decoder turns a datum into a value of a domain type, or tells the first fault in
the order of the document.  A record is decoded from a map, in which no unknown
member may stand, or from a list of its fields in order.

## Main definitions

* `DecodeFault`, `DecodeFault.message` — what can be wrong with a datum.
* `Decoder`, and `Decoder.text`, `Decoder.bool`, `Decoder.listOf`, `Decoder.dictionary`.
* `Field`, `Decoder.record` — a field of a record, and the decoder of a record.

## Main results

* `Decoder.record_map_nil` — an empty map leaves every field as it was.
* `Decoder.record_unknown` — a member that no field is named like is a fault.
-/

namespace MigrationLedger

/-- What can be wrong with a datum. -/
inductive DecodeFault
  /-- A value of another type than the wanted one. -/
  | wrongType (found : Datum) (wanted : String)
  /-- A member that the record does not have. -/
  | unknownField (name : String) (known : List String)
  /-- A list that ends before a record without defaults is complete. -/
  | tooShort (size : Nat) (record : String) (fields : Nat)
  /-- A text that does not say what it should. -/
  | invalid (cause : Error)

namespace DecodeFault

/-- The fields a reader can choose from. -/
def choices : List String → String
  | [a, b] => "expected " ++ Datum.marked a ++ " or " ++ Datum.marked b
  | names => "expected one of " ++ ", ".intercalate (names.map Datum.marked)

/-- What a reader is told. -/
def message : DecodeFault → String
  | wrongType found wanted => "invalid type: " ++ found.describe ++ ", expected " ++ wanted
  | unknownField name known => "unknown field " ++ Datum.marked name ++ ", " ++ choices known
  | tooShort size record fields =>
      "invalid length " ++ toString size ++ ", expected " ++ record ++ " with "
        ++ toString fields ++ " elements"
  | invalid cause => cause.message

end DecodeFault

/-- Turns a datum into a value. -/
abbrev Decoder (α : Type) : Type := Datum → Except DecodeFault α

/-- A field of a record: its name, and what its value does to the record. -/
structure Field (ρ : Type) where
  /-- The name. -/
  name : String
  /-- Takes a value over into the record. -/
  assign : ρ → Datum → Except DecodeFault ρ

namespace Decoder

/-- Decodes a text. -/
def text : Decoder String
  | .text s => .ok s
  | d => .error (.wrongType d "a string")

/-- Decodes a truth value. -/
def bool : Decoder Bool
  | .bool b => .ok b
  | d => .error (.wrongType d "a boolean")

/-- Decodes a text that a reader turns into a value. -/
def parsed {α : Type} (parse : String → Except Error α) : Decoder α := fun d =>
  match text d with
  | .error fault => .error fault
  | .ok s => (parse s).mapError .invalid

/-- Decodes every item of a list, the first fault deciding. -/
def items {α : Type} (decode : Decoder α) : List Datum → Except DecodeFault (List α)
  | [] => .ok []
  | d :: ds =>
    match decode d with
    | .error fault => .error fault
    | .ok a => (items decode ds).map (a :: ·)

/-- Decodes a list. -/
def listOf {α : Type} (decode : Decoder α) : Decoder (List α)
  | .list ds => items decode ds
  | d => .error (.wrongType d "a sequence")

/-- Decodes a value that may be absent. -/
def optional {α : Type} (decode : Decoder α) : Decoder (Option α)
  | .null => .ok none
  | d => (decode d).map some

/-- Decodes every member of a map, the first fault deciding. -/
def entries {α : Type} (decode : Decoder α) :
    List (String × Datum) → Except DecodeFault (List (String × α))
  | [] => .ok []
  | (name, d) :: ms =>
    match decode d with
    | .error fault => .error fault
    | .ok a => (entries decode ms).map ((name, a) :: ·)

/-- Decodes a map with members of one type. -/
def dictionary {α : Type} (decode : Decoder α) : Decoder (List (String × α))
  | .map ms => entries decode ms
  | d => .error (.wrongType d "a map")

/-! ### Records -/

/-- Takes over the members of a map. -/
def members {ρ : Type} (fields : List (Field ρ)) :
    ρ → List (String × Datum) → Except DecodeFault ρ
  | r, [] => .ok r
  | r, (name, d) :: ms =>
    match fields.find? fun f => f.name == name with
    | none => .error (.unknownField name (fields.map Field.name))
    | some f =>
      match f.assign r d with
      | .error fault => .error fault
      | .ok r => members fields r ms

/-- Takes over the items of a list, field by field.  Further items are left alone. -/
def positions {ρ : Type} : List (Field ρ) → ρ → List Datum → Except DecodeFault ρ
  | f :: fs, r, d :: ds =>
    match f.assign r d with
    | .error fault => .error fault
    | .ok r => positions fs r ds
  | _, r, _ => .ok r

/-- Decodes a record whose fields have the defaults of `initial`. -/
def record {ρ : Type} (name : String) (fields : List (Field ρ)) (initial : ρ) : Decoder ρ
  | .map ms => members fields initial ms
  | .list ds => positions fields initial ds
  | d => .error (.wrongType d ("struct " ++ name))

/-- Decodes a record of which a list has to give every field. -/
def strictRecord {ρ : Type} (name : String) (fields : List (Field ρ)) (initial : ρ) : Decoder ρ
  | .list ds =>
    match positions fields initial ds with
    | .error fault => .error fault
    | .ok r =>
      if ds.length < fields.length then
        .error (.tooShort ds.length ("struct " ++ name) fields.length)
      else .ok r
  | d => record name fields initial d

/-- An empty map leaves every field as it was. -/
@[simp] theorem record_map_nil {ρ : Type} (name : String) (fields : List (Field ρ))
    (initial : ρ) : record name fields initial (.map []) = .ok initial := rfl

/-- A member that no field is named like is a fault. -/
theorem record_unknown {ρ : Type} {fields : List (Field ρ)} {member : String}
    (name : String) (initial : ρ) (d : Datum) (ms : List (String × Datum))
    (h : ∀ f ∈ fields, f.name ≠ member) :
    record name fields initial (.map ((member, d) :: ms))
      = .error (.unknownField member (fields.map Field.name)) := by
  have : fields.find? (fun f => f.name == member) = none := by
    simpa using h
  simp [record, members, this]

end Decoder

end MigrationLedger
