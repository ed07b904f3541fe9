import Remedy.Hash.Blake3
import Remedy.Program.Basic
/-!
# Program.Fingerprint — a short name for what a module was compiled from

The fingerprint is the hash of the module's imprint: for each predicate, in the order of names, its name, kind,
visibility and numbers of arguments, and the texts of its clauses; then, in the order of names, the contracts declared
for predicates of other owners.  Two compilations of the same rules have the same fingerprint.
-/
namespace Remedy

def bytesOf (s : String) : List UInt8 := s.toUTF8.toList

/-- Eight bytes of a number, the lowest first. -/
def bytes8 (n : Nat) : List UInt8 := (List.range 8).map fun i => (n / Nat.pow 256 i % 256).toUInt8

def insertByName (name : α → String) (a : α) : List α → List α
  | [] => [a]
  | b :: rest => if name a < name b then a :: b :: rest else b :: insertByName name a rest

def sortByName (name : α → String) (items : List α) : List α := items.foldl (fun done a => insertByName name a done) []

def Predicate.imprint (p : Predicate) : List UInt8 :=
  bytesOf p.name
    ++ [if p.kind = .rules then 0 else 1, if p.isPublic then 0 else 1]
    ++ (match p.arityRange? with
      | some (least, most) => bytes8 least ++ bytes8 most
      | none => [])
    ++ p.clauses.flatMap fun c => bytesOf c.text ++ [10]

/-- What a contract for a predicate of another owner adds to the imprint. -/
def overrideImprint (name : String) (c : Contract) : List UInt8 :=
  bytesOf name ++ c.flatMap fun (key, constraint) => bytesOf (key.text ++ ":" ++ constraint.name)

/-- **What the fingerprint is the hash of.** -/
def RuleModule.imprint (m : RuleModule) : List UInt8 :=
  (sortByName Predicate.name m.predicates).flatMap Predicate.imprint
    ++ (sortByName (·.1) m.overrides).flatMap fun (name, c) => overrideImprint name c

/-- **The fingerprint of a module.** -/
def RuleModule.fingerprint (m : RuleModule) : String := Blake3.hex m.imprint

end Remedy
