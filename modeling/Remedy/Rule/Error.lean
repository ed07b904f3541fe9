import Remedy.Rule.Basic
import Remedy.Term.Parser
/-!
# Rule.Error — why rules do not compile

The first fault of a set of rules is reported and nothing is compiled.  A contract is what a predicate asks of its
arguments; one that is contradictory, or that a call does not keep, is a fault too.
-/
namespace Remedy

/-- **What a predicate asks of an argument**: a variable that has no value yet, any argument at all, or one without
unbound variables. -/
inductive Constraint
  | output
  | input
  | ground
  deriving DecidableEq

def Constraint.name : Constraint → String
  | .output => "output"
  | .input => "input"
  | .ground => "ground"

def Constraint.ofName? (name : String) : Option Constraint :=
  let word := name.toList.map Char.toLower
  [Constraint.output, .input, .ground].find? fun c => c.name.toList == word

abbrev Contract := List (ArgKey × Constraint)

/-- What is wrong with a declaration. -/
inductive MetaCause
  | notAFact
  | noPredicate
  | unsupportedValue (t : Term)
  | conflictingVisibility (predicate : String)
  | unknownFlag (word : String)
  | unknownConstraint (word : String)
  | conflictingConstraints (key : ArgKey) (present added : Constraint)
  | definedByRules (predicate : String)
  | notDefined (predicate : String)
  | foreignVisibility (predicate : String)

def MetaCause.message : MetaCause → String
  | .notAFact => "meta-data must be a fact"
  | .noPredicate => "first argument must name a predicate"
  | .unsupportedValue t => "unsupported meta-data value " ++ t.display
  | .conflictingVisibility p => "conflicting visibility for " ++ p
  | .unknownFlag word => "unknown flag '" ++ word ++ "'"
  | .unknownConstraint word => "unknown constraint '" ++ word ++ "'"
  | .conflictingConstraints key present added =>
    "conflicting constraints for argument " ++ key.text ++ ": " ++ present.name ++ " and " ++ added.name
  | .definedByRules p => "'" ++ p ++ "' is defined by rules and cannot be dynamic"
  | .notDefined p => "predicate '" ++ p ++ "' is not defined"
  | .foreignVisibility p => "visibility of '" ++ p ++ "' belongs to its provider"

/-- How a call breaks a constraint. -/
inductive Violation
  | missing
  | notOutput (t : Term)
  | notBound (t : Term)

def Violation.message : Violation → String
  | .missing => "argument must be supplied"
  | .notOutput t => "must be an unbound output variable, got " ++ t.display
  | .notBound t => "must be bound before the call, got " ++ t.display

def arityText (least : Nat) (most : Option Nat) : String :=
  match most with
  | some m => if m = least then toString least else toString least ++ " to " ++ toString m
  | none => "at least " ++ toString least

/-- **Why rules do not compile.** -/
inductive CompileError
  | notSyntax (rule : RuleText) (cause : SyntaxCause)
  | unterminated (rule : RuleText)
  | undefinedPredicate (name clause : String)
  | invalidMeta (clause : String) (cause : MetaCause)
  | violation (predicate : String) (argument : ArgKey) (clause : String) (violation : Violation)
  | arity (predicate : String) (least : Nat) (most : Option Nat) (actual : Nat) (clause : String)
  | unreadable (path message : String)

def CompileError.message : CompileError → String
  | .notSyntax rule cause =>
    "Syntax error at line " ++ toString rule.line ++ ": " ++ cause.message ++ " in rule `" ++ rule.text ++ "`"
  | .unterminated rule =>
    "Rule starting at line " ++ toString rule.line ++ " is not terminated with '.': `" ++ rule.text ++ "`"
  | .undefinedPredicate name clause => "Predicate '" ++ name ++ "' is not defined in rule `" ++ clause ++ "`"
  | .invalidMeta clause cause => "Invalid meta-data `" ++ clause ++ "`: " ++ cause.message
  | .violation predicate argument clause v =>
    "Argument " ++ argument.text ++ " of '" ++ predicate ++ "' violates its constraint in rule `" ++ clause ++ "`: "
      ++ v.message
  | .arity predicate least most actual clause =>
    "Predicate '" ++ predicate ++ "' expects " ++ arityText least most ++ " arguments, got " ++ toString actual
      ++ " in rule `" ++ clause ++ "`"
  | .unreadable path message => "Failed to read rules from " ++ path ++ ": " ++ message

end Remedy
