import Remedy.Query.Machine
import Remedy.SourceFile
import Remedy.Toml.Basic
import Remedy.Toml.Parser
/-!
# Config — the settings of an application

Settings are written in TOML.  Every setting has a standard value, so the empty document is a configuration; keys that
name no setting do not count.
-/
namespace Remedy

/-- A file of rules under a name. -/
structure RuleSet where
  name : String
  path : String
  deriving DecidableEq

/-- How repairs are carried out: whether they are only scheduled, and how many milliseconds each may take unless its
rule says otherwise. -/
structure RepairSettings where
  dryRun : Bool
  maxExecution : Nat
  deriving DecidableEq

/-- **The settings.**  Limits of time are in milliseconds. -/
structure Config where
  maxSteps : Nat
  limit : Option Nat
  trace : Bool
  ruleSets : List RuleSet
  repair : RepairSettings
  deriving DecidableEq

/-- Why there is no configuration: the file cannot be read, its text is no document or a setting has a value of the
wrong kind, or a limit is zero. -/
inductive ConfigError
  | unreadable (path reason : String)
  | malformed
  | notPositive (key : String)
  deriving DecidableEq

def ConfigError.message : ConfigError → String
  | .unreadable path reason => "Failed to read configuration " ++ path ++ ": " ++ reason
  | .malformed => "Invalid configuration"
  | .notPositive key => "Invalid configuration: " ++ key ++ " must be positive"

/-- Repairs are carried out, each within an hour. -/
def RepairSettings.standard : RepairSettings := ⟨false, 3600000⟩

def RepairSettings.longest (r : RepairSettings) : Timespan := .ofMillis r.maxExecution

def RepairSettings.ofToml? (v : Toml) : Option RepairSettings := do
  let fields ← v.fields? ["dry_run", "max_execution_ms"]
  let dryRun ← Toml.withDefault Toml.bool? standard.dryRun "dry_run" fields
  let maxExecution ← Toml.withDefault Toml.natural? standard.maxExecution "max_execution_ms" fields
  some ⟨dryRun, maxExecution⟩

/-- Reads a rule set, which has both a name and a path. -/
def RuleSet.ofToml? (v : Toml) : Option RuleSet := do
  let fields ← v.fields? ["name", "path"]
  let name ← (Toml.get? "name" fields).bind Toml.string?
  let path ← (Toml.get? "path" fields).bind Toml.string?
  some ⟨name, path⟩

namespace Config

/-- The configuration in which every setting has its standard value. -/
def standard : Config := ⟨Query.Options.standard.maxSteps, none, false, [], .standard⟩

def ofEntries? (fields : List (String × Toml)) : Option Config := do
  let maxSteps ← Toml.withDefault Toml.natural? standard.maxSteps "max_steps" fields
  let limit ← Toml.optional Toml.natural? "predicate_timeout_ms" fields
  let trace ← Toml.withDefault Toml.bool? standard.trace "trace" fields
  let ruleSets ← Toml.withDefault (fun v => v.list?.bind (·.mapM RuleSet.ofToml?)) standard.ruleSets "rules" fields
  let repair ← Toml.withDefault RepairSettings.ofToml? standard.repair "repair" fields
  some ⟨maxSteps, limit, trace, ruleSets, repair⟩

/-- The limits of a configuration are checked, the steps first. -/
def check (c : Config) : Except ConfigError Config :=
  if c.maxSteps = 0 then .error (.notPositive "max_steps")
  else if c.limit = some 0 then .error (.notPositive "predicate_timeout_ms")
  else .ok c

/-- **The configuration that a text spells.** -/
def parse (text : String) : Except ConfigError Config :=
  match (Toml.parse? text).bind ofEntries? with
  | some c => c.check
  | none => .error .malformed

def ofFile (f : SourceFile) : Except ConfigError Config :=
  match f.content with
  | .ok text => parse text
  | .error reason => .error (.unreadable f.path reason)

def ruleSet? (c : Config) (name : String) : Option RuleSet := c.ruleSets.find? (·.name == name)

def options (c : Config) : Query.Options := ⟨c.maxSteps, c.limit, c.trace⟩

end Config

end Remedy
