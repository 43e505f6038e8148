import MigrationLedger.Snapshot

/-!
# The info service

The service holds the infos of the last snapshot and the request it was made for,
and answers what waits to run, what is applied, what is current, and what is wrong.

## Main definitions

* `InfoService`, `InfoService.refresh` — the service, and a new snapshot.
* `InfoService.pending`, `InfoService.applied`, `InfoService.current?` — its answers.
* `ValidationError`, `InfoService.validate` — what is wrong with a snapshot.
-/

namespace MigrationLedger

/-- Why a migration is not as it should be. -/
inductive ValidationError.Cause
  /-- Applied and no longer discovered. -/
  | missing
  /-- Applied and newer than everything discovered. -/
  | future
  /-- Applied without success. -/
  | failed
  /-- Discovered and skipped. -/
  | ignored
  /-- The script changed since it was applied. -/
  | checksumMismatch (applied resolved : Option Int32)
  deriving DecidableEq, Repr

/-- A migration that is not as it should be. -/
structure ValidationError where
  /-- The script path. -/
  script : String
  /-- The version as text. -/
  version : Option String
  /-- What is wrong. -/
  cause : ValidationError.Cause
  deriving DecidableEq, Repr

namespace ValidationError

/-- The text of an optional checksum. -/
def checksumText : Option Int32 → String
  | some n => "Some(" ++ toString n.toInt ++ ")"
  | none => "None"

/-- The text a reader is shown. -/
def message (e : ValidationError) : String :=
  let subject := e.script ++ " (" ++ e.version.getD "<repeatable>" ++ ")"
  match e.cause with
  | .missing => "Migration " ++ subject ++ " was applied but is no longer discovered"
  | .future => "Migration " ++ subject ++ " is newer than every discovered migration"
  | .failed => "Migration " ++ subject ++ " failed"
  | .ignored => "Migration " ++ subject ++ " was discovered but not applied"
  | .checksumMismatch applied resolved =>
      "Checksum mismatch for migration " ++ subject ++ ": applied " ++ checksumText applied
        ++ ", resolved " ++ checksumText resolved

/-- The error of an info. -/
def ofInfo (i : MigrationInfo) (cause : Cause) : ValidationError :=
  ⟨i.script, i.version.map Version.text, cause⟩

/-- The states that are errors of their own. -/
def Cause.ofState? : MigrationState → Option Cause
  | .missing => some .missing
  | .future => some .future
  | .failed => some .failed
  | .ignored => some .ignored
  | _ => none

end ValidationError

/-- The last snapshot and its request. -/
structure InfoService where
  /-- The request. -/
  request : Request := {}
  /-- The infos, in the order of a listing. -/
  infos : List MigrationInfo := []
  deriving DecidableEq

namespace InfoService

/-- Makes a new snapshot of what is discovered and what the ledger hands out.  A source or a
ledger that fails leaves the service alone; the request is taken over before the pairing. -/
def refresh (s : InfoService) (discovered : Except Error (List ResolvedMigration))
    (rows : Except Error (List AppliedMigration)) (request : Request) :
    Except Error Unit × InfoService :=
  match discovered with
  | .error e => (.error e, s)
  | .ok ms =>
    match rows with
    | .error e => (.error e, s)
    | .ok rows =>
      match pair ms (sortByRank rows) request with
      | .error e => (.error e, { s with request := request })
      | .ok infos => (.ok (), ⟨request, infos⟩)

/-- The service after a first snapshot. -/
def load (discovered : Except Error (List ResolvedMigration))
    (rows : Except Error (List AppliedMigration)) (request : Request) :
    Except Error InfoService :=
  match refresh {} discovered rows request with
  | (.ok (), s) => .ok s
  | (.error e, _) => .error e

/-- The infos that wait to run, in the order in which they run. -/
def pending (s : InfoService) : List MigrationInfo :=
  sortBy (compareOn fun i => i.resolved.map ResolvedMigration.key)
    (s.infos.filter fun i => i.state.isPending)

/-- The infos with a ledger row. -/
def applied (s : InfoService) : List MigrationInfo := s.infos.filter fun i => i.state.isApplied

/-- The order in which the greatest info is current. -/
def compareCurrent : MigrationInfo → MigrationInfo → Ordering :=
  compareLex (compareOn MigrationInfo.version) MigrationInfo.compareRank

/-- The newest version that is applied. -/
def current? (s : InfoService) : Option MigrationInfo :=
  greatestBy? compareCurrent
    (s.infos.filter fun i => i.state == .success && i.version.isSome)

/-! ### Validation -/

/-- The errors that patterns can silence, in the order of the infos. -/
def stateErrors (s : InfoService) : List ValidationError :=
  s.infos.filterMap fun i =>
    match ValidationError.Cause.ofState? i.state with
    | none => none
    | some cause =>
      if IgnorePattern.anyCovers s.request.ignorePatterns i then none
      else some (.ofInfo i cause)

/-- The successful infos with their ledger rows. -/
def successes (s : InfoService) : List (MigrationInfo × AppliedMigration) :=
  s.infos.filterMap fun i =>
    if i.state == .success then i.applied.map fun a => (i, a) else none

/-- The newest entry of each key, the first one of several. -/
def newestPerKey : List (MigrationInfo × AppliedMigration) →
    List (MigrationInfo × AppliedMigration)
  | [] => []
  | e :: rest =>
    if rest.any fun f => f.2.key.same e.2.key && MigrationInfo.compareRank e.1 f.1 == .lt then
      newestPerKey rest
    else e :: (newestPerKey rest).filter fun f => !f.2.key.same e.2.key

/-- The error of a successful row whose script changed. -/
def mismatch? (i : MigrationInfo) (a : AppliedMigration) : Option ValidationError :=
  match i.resolved with
  | none => none
  | some m =>
    if a.kind.isSynthetic || m.checksumMatches a.checksum then none
    else some (.ofInfo i (.checksumMismatch a.checksum m.checksum))

/-- The errors that nothing silences, in the order of the infos. -/
def mismatches (s : InfoService) : List ValidationError :=
  (newestPerKey s.successes).filterMap fun (i, a) => mismatch? i a

/-- What is wrong with the snapshot. -/
def validate (s : InfoService) : List ValidationError := s.stateErrors ++ s.mismatches

end InfoService

end MigrationLedger
