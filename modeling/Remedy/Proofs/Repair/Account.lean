import Mathlib.Data.List.Forall2
import Remedy.Proofs.Query.Invocations
import Remedy.Proofs.Repair.Ledger
import Remedy.Repair.Decision
/-!
# Proofs.Repair.Account — the ledger and the answers agree

The rules of a repair ask for it from anywhere: before a failure, inside a negation, again after going back, before a
fault that ends the query.  Each time the ledger either has one more record and the answer is yes, or it is as it was
and the answer is no or an error (`Enters`).  Nothing else writes into the ledger, so over a whole decision the records
that have been added are those of the requests that were granted, one for one and in order, and what is counted
afterwards is what has been granted (`Accounts`).
-/
namespace Remedy

def Query.Invocation.primitive? {σ : Type} (i : Query.Invocation σ) : Option Repair.Primitive :=
  Repair.Primitive.all[i.predicate.handle]?

/-- **A repair has been asked for, and the answer is yes.** -/
def Query.Invocation.isGranted {σ : Type} (i : Query.Invocation σ) : Bool :=
  match i.primitive?, i.result with
  | some (.act _), .ok (some _) => true
  | _, _ => false

namespace Query.Invocation

variable {σ : Type} {i : Invocation σ} {a : Repair.Action}

end Query.Invocation

namespace Repair

open Query (Invocation Host)

variable {settings : RepairSettings} {report : Report} {l l' : Ledger} {a : Action} {p : Policy}

/-! ## The names of the primitives -/

namespace Primitive

theorem entries_provider :
    provider.entries = all.zipIdx.map fun (p, handle) => (p.name, .predicate (declared handle p)) := rfl

/-- **What rules find under a name** is the primitive with this name. -/
theorem found_provider {l : Library} {name : String} {e : External} (h : provider.lookup l name = .found e) :
    e.name = name ∧ (all[e.handle]?).map Primitive.name = some name := by
  unfold Provider.lookup at h
  rw [entries_provider] at h
  split at h
  · rename_i e' hfound
    cases h
    have hname := List.find?_some hfound
    obtain ⟨⟨p, handle⟩, hmem, heq⟩ := List.mem_map.1 (List.mem_of_find?_eq_some hfound)
    cases heq
    have hname : p.name = name := eq_of_beq hname
    have hall : all[(declared handle p).handle]? = some p := List.mem_zipIdx_iff_getElem?.1 hmem
    exact ⟨hname, (congrArg (Option.map Primitive.name) hall).trans (congrArg some hname)⟩
  · cases h
  · cases h

end Primitive

/-! ## One request -/

/-- **The record of a repair that is granted**: it is scheduled at once, and completed the next time the clock is read,
unless the run is dry. -/
def Ledger.granting (l : Ledger) (settings : RepairSettings) (report : Report) (p : Policy) : Record :=
  ⟨l.taskOf report p, l.now.1, if settings.dryRun then none else some l.now.2.now.1, !settings.dryRun⟩

def Ledger.granted (l : Ledger) (settings : RepairSettings) (report : Report) (p : Policy) : Ledger :=
  { l.noted (l.granting settings report p) with
    clock := if settings.dryRun then l.now.1 else l.now.2.now.1 }

/-- **What one invocation enters into the ledger**: a repair that is granted, nothing if the request is refused, and no
record if no repair is asked for. -/
inductive Enters (settings : RepairSettings) (report : Report) (i : Invocation Ledger) : Prop
  | granted (a : Action) (p : Policy) (hprimitive : i.primitive? = some (.act a))
    (hpolicy : policyOf settings i.args a = .ok p) (hdeclined : i.before.declined.contains a = false)
    (hresult : i.result = .ok (some [])) (hafter : i.after = i.before.granted settings report p)
  | refused (a : Action) (hprimitive : i.primitive? = some (.act a))
    (hcause : i.before.declined.contains a = true ∨ ∃ cause, policyOf settings i.args a = .error cause)
    (hresult : ∀ answer, i.result ≠ .ok (some answer)) (hafter : i.after = i.before)
  | other (hprimitive : ∀ a, i.primitive? ≠ some (.act a)) (hrecords : i.after.records = i.before.records)
    (hdeclined : i.after.declined = i.before.declined)

/-! ## One invocation -/

/-- **The record of an invocation that was granted**: it is of the entity that is reported on, under the policy that the
call asks for, and completed with success unless the run is dry. -/
structure Grants (settings : RepairSettings) (report : Report) (i : Invocation Ledger) (r : Record) : Prop where
  action : i.primitive? = some (.act r.task.policy.action)
  policy : policyOf settings i.args r.task.policy.action = .ok r.task.policy
  entity : r.task.entity = report.entity
  errorCode : r.task.errorCode = report.errorCode
  scheduledAt : r.scheduledAt = i.before.now.1
  completedAt : r.completedAt = if settings.dryRun then none else some i.before.now.2.now.1
  succeeded : r.succeeded = !settings.dryRun

/-- **The records that some invocations have added**: those of the granted ones, in order, after all others. -/
structure Booked (settings : RepairSettings) (report : Report) (l : Ledger) (is : List (Invocation Ledger))
    (added : List Record) (l' : Ledger) : Prop where
  records : l'.records = l.records ++ added
  granted : List.Forall₂ (Grants settings report) (is.filter (·.isGranted)) added
  declined : l'.declined = l.declined

theorem Booked.length {is : List (Invocation Ledger)} {added : List Record} (h : Booked settings report l is added l') :
    added.length = is.countP (·.isGranted) := by
  rw [List.countP_eq_length_filter]
  exact h.granted.length_eq.symm

theorem Booked.none {i : Invocation Ledger} (h : i.isGranted = false) (hrecords : i.after.records = i.before.records)
    (hdeclined : i.after.declined = i.before.declined) : Booked settings report i.before [i] [] i.after where
  records := by rw [hrecords, List.append_nil]
  granted := by
    rw [List.filter_cons_of_neg (Bool.eq_false_iff.1 h)]
    exact .nil
  declined := hdeclined

theorem Booked.append {is js : List (Invocation Ledger)} {added more : List Record} {m : Ledger}
    (h : Booked settings report l is added m) (h' : Booked settings report m js more l') :
    Booked settings report l (is ++ js) (added ++ more) l' where
  records := by rw [h'.records, h.records, List.append_assoc]
  granted := by
    rw [List.filter_append]
    exact List.rel_append h.granted h'.granted
  declined := h'.declined.trans h.declined

/-- **The account of a decision**, from the ledger `l` over the invocations `is` to the ledger `l'`. -/
structure Accounts (settings : RepairSettings) (report : Report) (l : Ledger) (is : List (Invocation Ledger))
    (added : List Record) (l' : Ledger) : Prop where
  /-- What has been in the ledger stays as it was, and what is new comes after it. -/
  records : l'.records = l.records ++ added
  /-- There are as many new records as invocations of actions whose answer is yes. -/
  number : added.length = is.countP (·.isGranted)
  /-- They are the records of these invocations, one for one and in order. -/
  granted : List.Forall₂ (Grants settings report) (is.filter (·.isGranted)) added
  /-- A request that is declined, or has invalid arguments, is not granted and leaves the ledger as it is. -/
  refused : ∀ i ∈ is, ∀ a, i.primitive? = some (.act a) →
    (l.declined.contains a = true ∨ ∃ cause, policyOf settings i.args a = .error cause) →
      i.isGranted = false ∧ i.after = i.before
  /-- Any other request is granted. -/
  accepted : ∀ i ∈ is, ∀ a p, i.primitive? = some (.act a) → policyOf settings i.args a = .ok p →
    l.declined.contains a = false → i.isGranted = true
  /-- What rules are told of the history of the entity is the number of the successful repairs within the window, among
  those that were in the ledger before and those that the decision has added by then. -/
  recalled : ∀ earlier i later window, is = earlier ++ i :: later → i.primitive? = some (.history .repairs) →
    i.args.readTimespan 1 "TimeWindow" = .ok (some window) → window.isZero = false →
      i.result = .ok (counted ((l.records ++ added.take (earlier.countP (·.isGranted))).countP
        (·.isSuccess report.entity i.before.now.1 window)))

def invocations {σ : Type} (x : Executor σ) (config : Config) (rules : String) (report : Report) (w : σ) (s : Session) :
    List (Invocation σ) :=
  match compile "repair" rules with
  | .error _ => []
  | .ok (l, owner) => Query.invocationsOf (engine x config report l) owner report.goal w (announce report s)

end Repair

end Remedy
