import Remedy.Program.Fingerprint
import Remedy.Repair.Decision
import Remedy.Repair.Ledger
/-!
# Cli — the commands

There are three commands: to check a file of rules, to decide a report with repairs only written down, and to print
the solutions of a goal.  A command is read from words, runs on files that have been read, and leaves a transcript.
-/
namespace Remedy.Cli

/-- **What is to be done**, with the paths of the files. -/
inductive Command
  | check (rules : String)
  | run (rules facts : String)
  | query (rules goal : String) (limit : Nat)
  deriving DecidableEq

/-- A command and the path of the settings. -/
structure Invocation where
  config : Option String
  command : Command
  deriving DecidableEq

/-- Words told apart: those that stand by themselves, and the values of options. -/
structure Words where
  plain : List String
  options : List (String × String)

def usage : String :=
  "usage: remedy [--config FILE] check RULES | run RULES --facts FILE | query RULES GOAL [--limit N]"

/-- Tells plain words and options apart; an option's value follows it, or stands after an equals sign. -/
def Words.ofList? : List String → Option Words
  | [] => some ⟨[], []⟩
  | "--" :: rest => some ⟨rest, []⟩
  | word :: rest =>
    match Text.after? ['-', '-'] word.toList with
    | none => (ofList? rest).map fun w => { w with plain := word :: w.plain }
    | some name =>
      match Text.cutAt '=' name, rest with
      | some (name, value), rest =>
        (ofList? rest).map fun w => { w with options := (String.ofList name, String.ofList value) :: w.options }
      | none, value :: rest => (ofList? rest).map fun w => { w with options := (String.ofList name, value) :: w.options }
      | none, [] => none

def Words.option? (w : Words) (name : String) : Option String := (w.options.find? (·.1 == name)).map (·.2)

/-- There are no other options than these, and none twice. -/
def Words.hasOnly (w : Words) (names : List String) : Bool :=
  w.options.all (names.contains ·.1) && names.all fun n => decide ((w.options.filter (·.1 == n)).length ≤ 1)

/-- **The command that words spell.** -/
def Invocation.ofList? (words : List String) : Option Invocation := do
  let w ← Words.ofList? words
  let config := w.option? "config"
  match w.plain with
  | ["check", rules] => if w.hasOnly ["config"] then some ⟨config, .check rules⟩ else none
  | ["run", rules] =>
    let facts ← w.option? "facts"
    if w.hasOnly ["config", "facts"] then some ⟨config, .run rules facts⟩ else none
  | ["query", rules, goal] =>
    let limit ← Decimal.unsigned? ((w.option? "limit").getD "10").toList
    if w.hasOnly ["config", "limit"] then some ⟨config, .query rules goal limit⟩ else none
  | _ => none

/-- Why a command stops. -/
inductive Fault
  | config (e : ConfigError)
  | failure (e : Failure)
  | repair (e : Repair.RepairError)
  | unreadable (path reason : String)

def Fault.message : Fault → String
  | .config e => "Config error: " ++ e.message
  | .failure (.compile e) => "Compile error: " ++ e.message
  | .failure (.query e) => "Resolve error: " ++ e.message
  | .repair e => "Repair error: " ++ e.message
  | .unreadable path reason => "Internal error: " ++ path ++ ": " ++ reason

/-- **What a command leaves**: its output, the messages of the rules, and the fault that has stopped it. -/
structure Transcript where
  lines : List String
  messages : List String
  fault : Option Fault

def Transcript.stopped (f : Fault) : Transcript := ⟨[], [], some f⟩

/-- The settings in a file, the standard ones without a file. -/
def settings (file : Option SourceFile) : Except Fault Config :=
  match file.map Config.ofFile with
  | none => .ok .standard
  | some (.ok c) => .ok c
  | some (.error e) => .error (.config e)

def column (width : Nat) (word : String) : String := word ++ String.ofList (List.replicate (width - word.length) ' ')

def predicateLine (p : Predicate) : String :=
  let kind := match p.kind with
    | .rules => "rules"
    | .dynamic => "dynamic"
  "  " ++ column 32 p.name ++ " " ++ column 8 kind ++ " " ++ toString p.clauses.length ++ " clause(s)"

/-- A file of rules with the primitives of repairs, under the name of the file. -/
def compile (rules : SourceFile) : Except Fault (Library × Nat) :=
  match rules.rules.bind (Repair.compile (rules.stem?.getD "rules")) with
  | .ok l => .ok l
  | .error e => .error (.failure (.compile e))

/-- **Checks a file of rules**: the module with its fingerprint, and its predicates. -/
def check (rules : SourceFile) : Transcript :=
  match compile rules with
  | .error f => .stopped f
  | .ok (l, id) =>
    let describe (m : RuleModule) : List String :=
      (m.name ++ " (" ++ m.fingerprint ++ ")") :: m.predicates.map predicateLine
    ⟨((l.module? id).map describe).getD [], [], none⟩

def taskLine (t : Repair.Task) : String :=
  "  " ++ t.policy.action.name ++ " " ++ t.entity ++ " (" ++ toString t.id ++ ")"

/-- **Decides a report**: the outcome, and the repairs that the rules have asked for. -/
def run (config : Config) (rules facts : SourceFile) : Transcript :=
  match facts.content.map Repair.Report.parse with
  | .error reason => .stopped (.unreadable facts.path reason)
  | .ok (.error e) => .stopped (.repair e)
  | .ok (.ok report) =>
    let (outcome, ledger, s) := Repair.mitigateByFile Repair.Ledger.executor config rules report .empty
    match outcome with
    | .error e => ⟨[], s.messages.toList, some (.failure e)⟩
    | .ok success => ⟨("mitigated: " ++ toString success) :: ledger.tasks.map taskLine, s.messages.toList, none⟩

def solutionLine (s : Solution) : String :=
  if s.isEmpty then "yes" else ", ".intercalate (s.map fun (name, t) => "?" ++ name ++ " = " ++ t.display)

/-- At most so many solutions of a query, and what has ended it early. -/
def solutions (e : Query.Engine Repair.Ledger) : Nat → Query → Repair.Ledger → Session → Transcript
  | 0, _, _, s => ⟨[], s.messages.toList, none⟩
  | n + 1, q, l, s =>
    match q.next e l s with
    | (.error cause, _, _, s) => ⟨[], s.messages.toList, some (.failure (.query cause))⟩
    | (.ok none, _, _, s) => ⟨[], s.messages.toList, none⟩
    | (.ok (some found), q, l, s) =>
      let rest := solutions e n q l s
      { rest with lines := solutionLine found :: rest.lines }

/-- **Prints the solutions of a goal**, at most so many. -/
def query (config : Config) (rules : SourceFile) (goal : String) (limit : Nat) : Transcript :=
  match compile rules with
  | .error f => .stopped f
  | .ok (l, owner) =>
    match Query.ofText l owner goal with
    | .error e => .stopped (.failure e)
    | .ok q =>
      let t := solutions (Repair.engine Repair.Ledger.executor config {} l) limit q .empty .new
      if t.lines.isEmpty && t.fault.isNone then { t with lines := ["no"] } else t

end Remedy.Cli
