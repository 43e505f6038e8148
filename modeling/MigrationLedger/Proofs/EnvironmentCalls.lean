import Mathlib.Data.List.Basic
import Mathlib.Data.List.Induction
import MigrationLedger.Config.Read

/-!
# Applying environments one after the other

A configuration that was read holds the overrides of named environments.  A call overlays the
settings of one of them and uses it up.  It is refused when there is no such environment, or not any
more, and when the settings that would come of it cannot be used; whoever made the call then goes on
with the configuration as it was.

What a chain of calls makes of a configuration does not depend on how the overlays went: it is
described by the configuration at the beginning and the names of the environments that were applied.
Every setting is the one that the last of them gives which sets it, and that of the beginning where
none does.  In particular an environment that leaves a setting open never takes back what an earlier
one has set.

## Main definitions

* `Config.lastGiven?` — what the last of some environments that sets something gives it.
* `Config.after` — a configuration with some environments applied, read off setting by setting.
* `Config.Session`, `Config.session` — a configuration in use and the environments applied to it,
  and what becomes of it by a list of calls.

## Main results

* `Config.overlay_after` — one more overlay is one more environment.
* `Config.withEnvironment_after` — **what a call does after some environments.**
* `Config.isOf_session` — any calls leave the described configuration, and one that can be used.
* `environments_overlay_in_turn` — **what any calls on a configuration that was read come to.**
-/

namespace MigrationLedger

theorem MigrationSettings.isValid_iff {s : MigrationSettings} :
    s.isValid = true ↔ s.oneShotPrefix ≠ some "" := by
  unfold isValid
  cases s.oneShotPrefix <;> simp

namespace Config

variable {α : Type} {c base : Config} {names : List String} {name : String}

/-! ### The last environment that sets something -/

/-- What the environment of a name gives a setting, if it is there and sets it. -/
def given? (c : Config) (field : EnvironmentOverride → Option α) (name : String) : Option α :=
  (c.environments.lookup name).bind field

/-- What the last of some environments that sets a setting gives it. -/
def lastGiven? (c : Config) (field : EnvironmentOverride → Option α) (names : List String) :
    Option α :=
  (names.filterMap (c.given? field)).getLast?

@[simp] theorem lastGiven?_nil (c : Config) (field : EnvironmentOverride → Option α) :
    c.lastGiven? field [] = none := rfl

theorem lastGiven?_concat (c : Config) (field : EnvironmentOverride → Option α)
    (names : List String) (name : String) :
    c.lastGiven? field (names ++ [name]) = (c.given? field name).or (c.lastGiven? field names) := by
  rw [lastGiven?, lastGiven?, List.filterMap_append, List.getLast?_append]
  cases h : c.given? field name <;> simp [h]

theorem lastGiven?_concat_of_lookup {o : EnvironmentOverride}
    (h : c.environments.lookup name = some o) (field : EnvironmentOverride → Option α)
    (names : List String) :
    c.lastGiven? field (names ++ [name]) = (field o).or (c.lastGiven? field names) := by
  rw [lastGiven?_concat, given?, h, Option.bind_some]

/-! ### Some environments applied -/

/-- What the last of some environments that sets a migration setting gives it. -/
def lastMigration? (c : Config) (field : MigrationOverride → Option α) (names : List String) :
    Option α :=
  c.lastGiven? (fun o => o.migrations.bind field) names

/-- What the last of some environments that sets a logging setting gives it. -/
def lastLogging? (c : Config) (field : LoggingSettings → Option α) (names : List String) :
    Option α :=
  c.lastGiven? (fun o => o.logging.bind field) names

/-- The configuration with some environments applied: every setting as the last of them that sets it
gives it, and the other environments. -/
def after (c : Config) (names : List String) : Config where
  migrations := {
    target := (c.lastMigration? (·.target) names).getD c.migrations.target
    outOfOrder := (c.lastMigration? (·.outOfOrder) names).getD c.migrations.outOfOrder
    cherryPick := (c.lastMigration? (·.cherryPick) names).getD c.migrations.cherryPick
    ignorePatterns := (c.lastMigration? (·.ignorePatterns) names).getD c.migrations.ignorePatterns
    republishOnChange :=
      (c.lastMigration? (·.republishOnChange) names).getD c.migrations.republishOnChange
    oneShotPrefix := (c.lastMigration? (·.oneShotPrefix) names).or c.migrations.oneShotPrefix }
  logging := {
    level := (c.lastLogging? (·.level) names).or c.logging.level
    format := (c.lastLogging? (·.format) names).or c.logging.format }
  environments := c.environments.filter fun e => e.1 ∉ names

@[simp] theorem after_nil (c : Config) : c.after [] = c := by
  simp [after, lastMigration?, lastLogging?]

/-- **One more overlay is one more environment.** -/
theorem overlay_after {o : EnvironmentOverride} (h : c.environments.lookup name = some o)
    (names : List String) : (c.after names).overlay name o = c.after (names ++ [name]) := by
  have hmigrations : ((c.after names).overlay name o).migrations
      = (c.after (names ++ [name])).migrations := by
    simp only [after, overlay, lastMigration?, lastGiven?_concat_of_lookup h]
    cases o.migrations with
    | none => simp
    | some m => simp [MigrationOverride.apply, Option.getD_or, Option.or_assoc]
  have hlogging : ((c.after names).overlay name o).logging
      = (c.after (names ++ [name])).logging := by
    simp only [after, overlay, lastLogging?, lastGiven?_concat_of_lookup h]
    cases o.logging with
    | none => simp
    | some l => simp [LoggingSettings.overlay, Option.or_assoc]
  have henvironments : ((c.after names).overlay name o).environments
      = (c.after (names ++ [name])).environments := by
    simp only [after, overlay, List.filter_filter]
    refine List.filter_congr fun e _ => Bool.eq_iff_iff.2 ?_
    simp [and_comm]
  calc (c.after names).overlay name o
      = ⟨((c.after names).overlay name o).migrations, ((c.after names).overlay name o).logging,
          ((c.after names).overlay name o).environments⟩ := rfl
    _ = c.after (names ++ [name]) := by rw [hmigrations, hlogging, henvironments]

/-! ### Calls -/

/-- There is an environment of this name. -/
def Knows (c : Config) (name : String) : Prop := name ∈ c.environments.map Prod.fst

instance (c : Config) (name : String) : Decidable (c.Knows name) :=
  inferInstanceAs (Decidable (name ∈ c.environments.map Prod.fst))

theorem lookup_eq_none_iff : c.environments.lookup name = none ↔ ¬ c.Knows name := by
  simp only [Knows, List.lookup_eq_none_iff, bne_iff_ne, ne_eq, List.mem_map, not_exists, not_and,
    @eq_comm _ name]

theorem lookup_filter_notMem {β : Type} (l : List (String × β)) (names : List String)
    (name : String) : (l.filter fun e => e.1 ∉ names).lookup name
      = if name ∈ names then none else l.lookup name := by
  induction l with
  | nil => simp
  | cons e l ih =>
    obtain ⟨key, value⟩ := e
    by_cases hkey : key ∈ names <;> by_cases hname : name = key <;> grind

/-- The environments that were applied are gone, and no others. -/
theorem lookup_after (c : Config) (names : List String) (name : String) :
    (c.after names).environments.lookup name
      = if name ∈ names then none else c.environments.lookup name :=
  lookup_filter_notMem c.environments names name

/-- What is told of an environment that is not there. -/
def unknownEnvironment (name : String) : Error :=
  .config ("unknown environment '" ++ name ++ "'")

/-- What is told of an empty prefix. -/
def emptyPrefix : Error :=
  .config "migrations.one_shot_prefix must not be empty; omit it instead"

theorem validate_eq_ite (c : Config) : c.validate =
    if c.migrations.oneShotPrefix = some "" then .error emptyPrefix else .ok c := by
  unfold validate MigrationSettings.validate
  split
  · next h => rw [if_neg (MigrationSettings.isValid_iff.1 h), Except.map]
  · next h =>
    rw [if_pos (not_not.1 (mt MigrationSettings.isValid_iff.2 h)), Except.map, emptyPrefix]

/-- **What a call does after some environments.** -/
theorem withEnvironment_after (c : Config) (names : List String) (name : String) :
    (c.after names).withEnvironment name =
      if ¬ c.Knows name ∨ name ∈ names then .error (unknownEnvironment name)
      else if (c.after (names ++ [name])).migrations.oneShotPrefix = some "" then
        .error emptyPrefix
      else .ok (c.after (names ++ [name])) := by
  by_cases hused : name ∈ names
  · rw [if_pos (.inr hused), withEnvironment_of_unknown (by rw [lookup_after, if_pos hused]),
      unknownEnvironment]
  · cases hlookup : c.environments.lookup name with
    | none =>
      rw [if_pos (.inl (lookup_eq_none_iff.1 hlookup)),
        withEnvironment_of_unknown (by rw [lookup_after, if_neg hused, hlookup]),
        unknownEnvironment]
    | some o =>
      have hknown : c.Knows name := by
        by_contra hunknown
        rw [lookup_eq_none_iff.2 hunknown] at hlookup
        exact nomatch hlookup
      rw [if_neg (not_or.2 ⟨not_not.2 hknown, hused⟩), withEnvironment, lookup_after,
        if_neg hused, hlookup]
      dsimp only
      rw [overlay_after hlookup, validate_eq_ite]

theorem eq_after_of_withEnvironment {d : Config}
    (h : (c.after names).withEnvironment name = .ok d) : d = c.after (names ++ [name]) := by
  rw [withEnvironment_after] at h
  split at h
  · exact nomatch h
  · split at h
    · exact nomatch h
    · exact (Except.ok.inj h).symm

/-- **When a call is refused.** -/
theorem exists_withEnvironment_eq_error_iff :
    (∃ e, (c.after names).withEnvironment name = .error e) ↔
      ¬ c.Knows name ∨ name ∈ names ∨
        (c.after (names ++ [name])).migrations.oneShotPrefix = some "" := by
  rw [withEnvironment_after, ← or_assoc]
  split
  · next h => exact iff_of_true ⟨_, rfl⟩ (.inl h)
  · next h =>
    split
    · next hempty => exact iff_of_true ⟨_, rfl⟩ (.inr hempty)
    · next hprefix =>
      refine iff_of_false (fun ⟨e, he⟩ => nomatch he) ?_
      exact not_or.2 ⟨h, hprefix⟩

/-! ### Chains of calls -/

/-- A configuration in use. -/
structure Session where
  /-- The configuration as it is now. -/
  config : Config
  /-- The environments that were applied to it, the first one first. -/
  applied : List String

/-- What a call makes of a configuration in use: one that is refused leaves it as it was. -/
def Session.call (s : Session) (name : String) : Session :=
  match s.config.withEnvironment name with
  | .ok d => ⟨d, s.applied ++ [name]⟩
  | .error _ => s

/-- What some calls make of a configuration, one after the other. -/
def session (c : Config) (calls : List String) : Session := calls.foldl Session.call ⟨c, []⟩

theorem session_concat (c : Config) (calls : List String) (name : String) :
    c.session (calls ++ [name]) = (c.session calls).call name :=
  List.foldl_concat ..

/-- The configuration in use is `base` with the applied environments, and it can be used. -/
structure Session.IsOf (base : Config) (s : Session) : Prop where
  /-- It is described by the environments alone. -/
  config_eq : s.config = base.after s.applied
  /-- Its settings can be used. -/
  isValid : s.config.migrations.isValid = true

/-- A call keeps this. -/
theorem Session.IsOf.call {s : Session} (h : s.IsOf base) (name : String) :
    (s.call name).IsOf base := by
  unfold Session.call
  split
  · next d hd =>
    refine ⟨?_, isValid_of_withEnvironment hd⟩
    rw [h.config_eq] at hd
    exact eq_after_of_withEnvironment hd
  · exact h

/-- **Any calls keep it.** -/
theorem isOf_session (h : base.migrations.isValid = true) (calls : List String) :
    (base.session calls).IsOf base := by
  induction calls using List.reverseRecOn with
  | nil => exact ⟨(after_nil base).symm, h⟩
  | append_singleton calls name ih =>
    rw [session_concat]
    exact ih.call name

end Config

open Config

/-- **What any calls on a configuration that was read come to.**  The configuration in use has every
field as the last of the applied environments that sets it gives it, or else as it was read; the
applied environments are gone from it and no others; and its prefix is not empty.  The next call
gives the same with one more environment, unless that environment is unknown, or was applied before,
or would make the prefix empty: then, and only then, the call is refused. -/
theorem environments_overlay_in_turn {vars : Variables} {text : String} {base : Config}
    (h : Config.read vars text = .ok base) (calls : List String) :
    let s := base.session calls
    s.config = base.after s.applied ∧
    s.config.migrations.oneShotPrefix ≠ some "" ∧
    ∀ name,
      (∀ d, s.config.withEnvironment name = .ok d →
        d = base.after (s.applied ++ [name]) ∧ d.migrations.oneShotPrefix ≠ some "") ∧
      ((∃ e, s.config.withEnvironment name = .error e) ↔
        ¬ base.Knows name ∨ name ∈ s.applied ∨
          (base.after (s.applied ++ [name])).migrations.oneShotPrefix = some "") := by
  intro s
  have hs : s.IsOf base := isOf_session (isValid_of_read h) calls
  refine ⟨hs.config_eq, MigrationSettings.isValid_iff.1 hs.isValid,
    fun name => ⟨fun d hd => ?_, ?_⟩⟩
  · refine ⟨?_, MigrationSettings.isValid_iff.1 (isValid_of_withEnvironment hd)⟩
    rw [hs.config_eq] at hd
    exact eq_after_of_withEnvironment hd
  · rw [hs.config_eq]
    exact exists_withEnvironment_eq_error_iff

namespace Plain

/-- Two environments that set the same field, and one that sets an empty prefix. -/
def environmentsText : String :=
  "migrations.one_shot_prefix = \"O\"\n[environments]\n" ++
  "ci.migrations.out_of_order = true\nci.logging.format = \"json\"\n" ++
  "release.migrations.out_of_order = false\nbare.migrations.one_shot_prefix = \"\"\n"

/-- The configuration that this text describes. -/
def environmentsConfig : Config where
  migrations := { oneShotPrefix := some "O" }
  environments :=
    [("ci", { migrations := some { outOfOrder := some true },
              logging := some { format := some "json" } }),
     ("release", { migrations := some { outOfOrder := some false } }),
     ("bare", { migrations := some { oneShotPrefix := some "" } })]

theorem read_environmentsText :
    Config.read (fun _ => none) environmentsText = .ok environmentsConfig := by
  have hexpand : expand (fun _ => none) environmentsText = environmentsText := by
    rw [expand, Placeholder.expand_of_unset, String.ofList_toList]
  have hdocument : (Toml.readDocument environmentsText).map (fun d => (ofDatum d).toOption)
      = some (some environmentsConfig) := by
    -- the characters are written out first, so that the kernel decodes the text only once
    unfold Toml.readDocument environmentsText
    simp only [String.toList_append, String.reduceToList]
    decide +kernel
  obtain ⟨d, hd, hsome⟩ := Option.map_eq_some_iff.1 hdocument
  rw [← hexpand] at hd
  refine Config.read_eq_ok_iff.2 ⟨d, hd, ?_, by decide⟩
  cases hof : ofDatum d with
  | error e =>
    rw [hof] at hsome
    cases hsome
  | ok c =>
    rw [hof] at hsome
    rw [Option.some.inj hsome]

end Plain

/-- Of four calls the first is accepted: the second one names no environment, the third one would
make the prefix empty, and the last one names what was applied.  The release that comes next takes
back what was set for running out of order, and leaves the format alone. -/
theorem environments_overlay_in_turn_release :
    let s := Plain.environmentsConfig.session ["ci", "prod", "bare", "ci"]
    Config.read (fun _ => none) Plain.environmentsText = .ok Plain.environmentsConfig ∧
    s.applied = ["ci"] ∧ s.config.migrations.outOfOrder = true ∧
    (∃ d, s.config.withEnvironment "release" = .ok d ∧
      d.migrations = { oneShotPrefix := some "O" } ∧ d.logging = { format := some "json" } ∧
      d.environments.map Prod.fst = ["bare"]) ∧
    ∀ name ∈ ["prod", "bare", "ci"], ∃ e, s.config.withEnvironment name = .error e := by
  intro s
  have happlied : s.applied = ["ci"] := by decide +kernel
  obtain ⟨hconfig, -, hcalls⟩ := environments_overlay_in_turn Plain.read_environmentsText
    ["ci", "prod", "bare", "ci"]
  change s.config = Plain.environmentsConfig.after s.applied at hconfig
  rw [happlied] at hconfig
  refine ⟨Plain.read_environmentsText, happlied, ?_, ?_, ?_⟩
  · rw [hconfig]
    decide
  · obtain ⟨hgives, hrefused⟩ := hcalls "release"
    cases hcall : s.config.withEnvironment "release" with
    | error e =>
      have hwhy := hrefused.1 ⟨e, hcall⟩
      rw [happlied] at hwhy
      exact absurd hwhy (by decide)
    | ok d =>
      obtain ⟨rfl, -⟩ := hgives d hcall
      refine ⟨_, rfl, ?_⟩
      rw [happlied]
      decide
  · intro name hname
    rw [(hcalls name).2, happlied]
    revert name
    decide

end MigrationLedger
