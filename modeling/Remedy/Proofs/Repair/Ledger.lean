import Remedy.Repair.Ledger
/-!
# Proofs.Repair.Ledger — what is written into a ledger, and what is read of it

A ledger is written into at its end (`schedule_of_accepted`), or one of its records is completed in place
(`records_execute`).  What is read of it are its clock and the records of one entity: the number of those that
`isSuccess` picks (`repairs_fst`), and the last of their moments.
-/
namespace Remedy.Repair

/-- A successful repair of an entity, completed within a time span before a moment. -/
def Record.isSuccess (entity : String) (moment : Int) (window : Timespan) (r : Record) : Bool :=
  r.task.entity == entity && (r.succeeded && r.completedAt.any fun done => isWithin (moment - done) window)

namespace Ledger

variable (l : Ledger) (r : Report) (p : Policy)

theorem repairs_recordsOf (entity : String) (window : Timespan) :
    (l.repairs entity window).1 = ((l.recordsOf entity).filter fun r =>
      r.succeeded && r.completedAt.any fun done => isWithin (l.now.1 - done) window).length := rfl

theorem repairs_fst (entity : String) (window : Timespan) :
    (l.repairs entity window).1 = l.records.countP (·.isSuccess entity l.now.1 window) := by
  rw [repairs_recordsOf, ← List.countP_eq_length_filter, recordsOf, List.countP_filter]
  exact List.countP_congr fun r _ => by rw [Bool.and_comm, Record.isSuccess]

def noted (record : Record) : Ledger := { l.now.2 with records := l.records ++ [record] }

def taskOf : Task := ⟨l.records.length, r.entity, p, r.errorCode⟩

theorem schedule_of_declined (h : l.declined.contains p.action = true) : l.schedule r p = (none, l) := by
  unfold schedule
  rw [if_pos h]

theorem schedule_of_accepted (h : l.declined.contains p.action = false) :
    l.schedule r p = (some (l.taskOf r p), l.noted ⟨l.taskOf r p, l.now.1, none, false⟩) := by
  unfold schedule
  rw [h]
  rfl

/-- **What an execution does to the records**: the one of the task is completed, if there is one. -/
theorem records_execute (t : Task) :
    (l.execute t).2.records = l.records.modify t.id (Record.complete l.now.1) := by
  unfold execute
  split
  · rfl
  · rename_i h
    exact (List.modify_eq_self (Nat.not_lt.1 h)).symm

end Ledger

end Remedy.Repair
