import Remedy.Proofs.Repair.Ledger
import Remedy.Repair.Primitive
/-!
# Proofs.Repair.Entities — the histories of two entities

A ledger keeps the name of the entity with each record, and what it tells of an entity depends on its clock and on the
records under that name (`Alike.unaffected`).  Which records these are is known from what has been written into it: a
record has the name of the report that it was written for (`entities_performAll`).  So two entities have histories of
their own just when they have different names (`histories_apart`).

The name is made of the parts of a report that are not empty, joined by underscores, and does not tell which parts they
are.  Entities whose parts contain no underscore have different names if their lists of non-empty parts are different
(`eq_of_entity_eq`), but in general two entities may have one name, and then the repairs of one are told of the other
(`histories_mixed`).
-/
namespace Remedy.Repair

variable {settings : RepairSettings} {a b : Report} {l l' : Ledger} {entity : String}

/-! ## Names -/

theorem entity_congr (h : a.parts = b.parts) : a.entity = b.entity := by
  unfold Report.entity
  rw [h]

theorem splitOn_intercalate {t : List String} (ht : ∀ x ∈ t, '_' ∉ x.toList) (hne : t ≠ []) :
    ("_".intercalate t).toList.splitOn '_' = t.map String.toList := by
  rw [String.toList_intercalate]
  refine List.splitOn_intercalate '_' ?_ (mt List.map_eq_nil_iff.1 hne)
  intro cs hcs
  obtain ⟨x, hx, rfl⟩ := List.mem_map.1 hcs
  exact ht x hx

theorem intercalate_ne {x : String} {t : List String} (hx : x ≠ "") : "_".intercalate (x :: t) ≠ "" := by
  intro h
  have h := congrArg String.toList h
  cases t with
  | nil =>
    rw [String.intercalate_singleton] at h
    exact hx (String.toList_inj.1 h)
  | cons y t =>
    rw [String.intercalate_cons_cons, String.toList_append, String.toList_append] at h
    exact hx (String.toList_inj.1 (List.append_eq_nil_iff.1 (List.append_eq_nil_iff.1 h).1).1)

/-- **Parts without underscores can be read back from the name.** -/
theorem eq_of_entity_eq (ha : ∀ x ∈ a.parts, '_' ∉ x.toList) (hb : ∀ x ∈ b.parts, '_' ∉ x.toList)
    (h : a.entity = b.entity) : a.parts.filter (· != "") = b.parts.filter (· != "") := by
  unfold Report.entity at h
  have hgiven : ∀ {r : Report} {x : String} {t : List String}, r.parts.filter (· != "") = x :: t → x ≠ "" := by
    intro r x t ht
    have hx : x ∈ r.parts.filter (· != "") := by
      rw [ht]
      exact List.mem_cons_self
    exact bne_iff_ne.1 (List.mem_filter.1 hx).2
  have hparts : ∀ {r : Report}, (∀ x ∈ r.parts, '_' ∉ x.toList) → ∀ x ∈ r.parts.filter (· != ""), '_' ∉ x.toList :=
    fun hr x hx => hr x (List.mem_filter.1 hx).1
  rcases hs : a.parts.filter (· != "") with _ | ⟨x, s⟩
  · rcases ht : b.parts.filter (· != "") with _ | ⟨y, t⟩
    · rfl
    · rw [hs, ht] at h
      exact absurd h.symm (intercalate_ne (hgiven ht))
  · rcases ht : b.parts.filter (· != "") with _ | ⟨y, t⟩
    · rw [hs, ht] at h
      exact absurd h (intercalate_ne (hgiven hs))
    · rw [hs, ht] at h
      have ha' := splitOn_intercalate (hs ▸ hparts ha) (List.cons_ne_nil x s)
      have hb' := splitOn_intercalate (ht ▸ hparts hb) (List.cons_ne_nil y t)
      rw [h, hb'] at ha'
      exact (List.map_inj_right fun _ _ => String.toList_inj.1).1 ha'.symm

/-! ## What is told of an entity -/

/-- **Two ledgers are alike for an entity**: their clocks will show the same, and they have the same records of it. -/
structure Alike (entity : String) (l l' : Ledger) : Prop where
  now : l.now.1 = l'.now.1
  records : l.recordsOf entity = l'.recordsOf entity

/-- **What is told of the entity of a report is the same**: by the ledger, and by the primitives that look into the
history of its repairs. -/
structure Unaffected (settings : RepairSettings) (report : Report) (l l' : Ledger) : Prop where
  repairs : ∀ window, (l.repairs report.entity window).1 = (l'.repairs report.entity window).1
  scheduled : (l.sinceScheduled report.entity).1 = (l'.sinceScheduled report.entity).1
  completed : (l.sinceCompleted report.entity).1 = (l'.sinceCompleted report.entity).1
  history : ∀ c s, (answer Ledger.executor settings report (.history .repairs) c l s).1 =
    (answer Ledger.executor settings report (.history .repairs) c l' s).1
  inside : ∀ m c s, (answer Ledger.executor settings report (.inside m) c l s).1 =
    (answer Ledger.executor settings report (.inside m) c l' s).1

theorem Alike.sinceLast (h : Alike entity l l') (moments : List Int) :
    (l.sinceLast moments).1 = (l'.sinceLast moments).1 :=
  congrArg (fun moment => moments.max?.map (moment - ·)) h.now

/-- **What is told of an entity depends on the clock and its records.** -/
theorem Alike.unaffected (h : Alike a.entity l l') : Unaffected settings a l l' := by
  have hrepairs : ∀ window, (l.repairs a.entity window).1 = (l'.repairs a.entity window).1 := by
    intro window
    rw [l.repairs_recordsOf, l'.repairs_recordsOf, h.now, h.records]
  have hscheduled : (l.sinceScheduled a.entity).1 = (l'.sinceScheduled a.entity).1 := by
    unfold Ledger.sinceScheduled
    rw [h.records]
    exact h.sinceLast _
  have hcompleted : (l.sinceCompleted a.entity).1 = (l'.sinceCompleted a.entity).1 := by
    unfold Ledger.sinceCompleted
    rw [h.records]
    exact h.sinceLast _
  refine ⟨hrepairs, hscheduled, hcompleted, fun c s => ?_, fun m c s => ?_⟩
  · have hcount : ∀ window, (countOf Ledger.executor .repairs a window l).1 =
        (countOf Ledger.executor .repairs a window l').1 := fun window => congrArg Except.ok (hrepairs window)
    unfold answer history
    rcases c.readTimespan 1 "TimeWindow" with cause | given
    · rfl
    · simp only
      split
      · rfl
      · simp only [hcount]
  · have hsince : (since Ledger.executor m a.entity l).1 = (since Ledger.executor m a.entity l').1 := by
      cases m with
      | scheduled => exact congrArg Except.ok hscheduled
      | completed => exact congrArg Except.ok hcompleted
    unfold answer isInside
    rcases c.readTimespan 0 "Interval" with cause | _ | window
    · rfl
    · rfl
    · simp only
      split
      · rfl
      · simp only [hsince]

/-! ## What is written -/

/-- **What is done with a ledger** for a report: a repair is scheduled, a task is carried out, a successful repair is
written down. -/
inductive Doing
  | schedule (r : Report) (p : Policy)
  | execute (t : Task)
  | note (r : Report) (a : Action) (age : Int)

namespace Ledger

def perform (l : Ledger) : Doing → Ledger
  | .schedule r p => (l.schedule r p).2
  | .execute t => (l.execute t).2
  | .note r a age => l.noteCompleted r a age

def performAll (l : Ledger) (ds : List Doing) : Ledger := ds.foldl perform l

/-- The report for which a record is written, if one is written, when some actions are declined. -/
def author (declined : List Action) : Doing → Option Report
  | .schedule r p => if declined.contains p.action then none else some r
  | .execute _ => none
  | .note r _ _ => some r

def authors (declined : List Action) (ds : List Doing) : List Report := ds.filterMap (author declined)

/-- **The ledger without the records of the entity of a report**, `authors` being the reports that the records were
written for. -/
def without (l : Ledger) (authors : List Report) (b : Report) : Ledger :=
  { l with records := ((l.records.zip authors).filter fun w => w.2.parts != b.parts).map (·.1) }

theorem map_entity_modify (moment : Int) : ∀ (i : Nat) (records : List Record),
    (records.modify i (Record.complete moment)).map (·.task.entity) = records.map (·.task.entity)
  | _, [] => by rw [List.modify_nil]
  | 0, r :: records => rfl
  | i + 1, r :: records => by
    rw [List.modify_succ_cons, List.map_cons, List.map_cons, map_entity_modify moment i records]

theorem declined_perform (l : Ledger) (d : Doing) : (l.perform d).declined = l.declined := by
  cases d with
  | schedule r p =>
    unfold perform schedule
    simp only
    split <;> rfl
  | execute t =>
    unfold perform execute
    simp only
    split <;> rfl
  | note r a age => rfl

/-- **A record has the name of the report that it is written for**, and keeps it. -/
theorem entities_perform (l : Ledger) (d : Doing) : (l.perform d).records.map (·.task.entity) =
    l.records.map (·.task.entity) ++ (author l.declined d).toList.map Report.entity := by
  cases d with
  | schedule r p =>
    unfold perform author
    cases hd : l.declined.contains p.action with
    | true =>
      simp only [l.schedule_of_declined r p hd]
      rw [if_pos hd]
      exact (List.append_nil _).symm
    | false =>
      simp only [l.schedule_of_accepted r p hd]
      rw [if_neg (Bool.eq_false_iff.1 hd)]
      exact List.map_append
  | execute t =>
    unfold perform
    simp only
    rw [l.records_execute, map_entity_modify]
    exact (List.append_nil _).symm
  | note r a age => exact List.map_append

theorem entities_performAll : ∀ (ds : List Doing) (l : Ledger), (l.performAll ds).records.map (·.task.entity) =
    l.records.map (·.task.entity) ++ (authors l.declined ds).map Report.entity
  | [], l => (List.append_nil _).symm
  | d :: ds, l => by
    have hauthors : authors l.declined (d :: ds) = (author l.declined d).toList ++ authors l.declined ds := by
      unfold authors
      rw [List.filterMap_cons]
      cases author l.declined d <;> rfl
    have hrest := entities_performAll ds (l.perform d)
    rw [declined_perform, entities_perform, List.append_assoc, ← List.map_append, ← hauthors] at hrest
    exact hrest

theorem filter_without (h : b.entity ≠ entity) : ∀ (records : List Record) (authors : List Report),
    records.map (·.task.entity) = authors.map Report.entity →
      (((records.zip authors).filter fun w => w.2.parts != b.parts).map (·.1)).filter (·.task.entity == entity) =
        records.filter (·.task.entity == entity)
  | [], _, _ => by rw [List.zip_nil_left]; rfl
  | _ :: _, [], hw => nomatch hw
  | record :: records, r :: authors, hw => by
    obtain ⟨hr, hrest⟩ := List.cons.inj hw
    have hr : record.task.entity = r.entity := hr
    have ih := filter_without h records authors hrest
    rw [List.zip_cons_cons]
    cases hparts : r.parts != b.parts with
    | false =>
      have hother : (record.task.entity == entity) = false := by
        rw [hr, entity_congr (bne_eq_false_iff_eq.1 hparts)]
        exact beq_eq_false_iff_ne.2 h
      rw [List.filter_cons, List.filter_cons, hparts, hother]
      exact ih
    | true =>
      rw [List.filter_cons, hparts, if_pos rfl, List.map_cons, List.filter_cons, List.filter_cons, ih]

end Ledger

theorem unaffected_of_ne {start : Ledger} (hstart : start.records = []) (ds : List Doing) (h : a.entity ≠ b.entity) :
    Unaffected settings a (start.performAll ds)
      ((start.performAll ds).without (Ledger.authors start.declined ds) b) := by
  have hwritten := Ledger.entities_performAll ds start
  rw [hstart] at hwritten
  exact Alike.unaffected ⟨rfl, (Ledger.filter_without h.symm _ _ hwritten).symm⟩

/-- Entities whose parts contain no underscore have histories of their own if their non-empty parts are different. -/
theorem unaffected_of_parts {start : Ledger} (hstart : start.records = []) (ds : List Doing)
    (ha : ∀ x ∈ a.parts, '_' ∉ x.toList) (hb : ∀ x ∈ b.parts, '_' ∉ x.toList)
    (h : a.parts.filter (· != "") ≠ b.parts.filter (· != "")) :
    Unaffected settings a (start.performAll ds)
      ((start.performAll ds).without (Ledger.authors start.declined ds) b) :=
  unaffected_of_ne hstart ds fun hname => h (eq_of_entity_eq ha hb hname)

def Ledger.single (b : Report) : Ledger := Ledger.empty.performAll [.note b (.restart .machine) 0]

theorem repairs_single (h : a.entity = b.entity) : ((Ledger.single b).repairs a.entity .longest).1 = 1 := by
  have hname : (b.entity == a.entity) = true := beq_iff_eq.2 h.symm
  have hrecords : (Ledger.single b).recordsOf a.entity = (Ledger.single b).records := by
    unfold Ledger.recordsOf
    exact List.filter_cons_of_pos hname
  rw [Ledger.repairs_recordsOf, hrecords]
  rfl

theorem repairs_without_single (entity : String) (window : Timespan) :
    (((Ledger.single b).without [b] b).repairs entity window).1 = 0 := by
  have hrecords : ((Ledger.single b).without [b] b).records = [] := by
    unfold Ledger.without
    exact congrArg (List.map Prod.fst) (List.filter_cons_of_neg (by rw [bne_self_eq_false]; exact Bool.false_ne_true))
  rw [Ledger.repairs_fst, hrecords, List.countP_nil]

/-- **Two entities have histories of their own just when they have different names**: then, whatever has been done with
the ledger for both and for others, and in whatever order, what is told of the one is told without the repairs of the
other. -/
theorem histories_apart (settings : RepairSettings) (a b : Report) :
    (∀ (start : Ledger) (ds : List Doing), start.records = [] → Unaffected settings a (start.performAll ds)
      ((start.performAll ds).without (Ledger.authors start.declined ds) b)) ↔ a.entity ≠ b.entity := by
  refine ⟨fun h hname => ?_, fun h start ds hstart => unaffected_of_ne hstart ds h⟩
  have hcount : ((Ledger.single b).repairs a.entity .longest).1 =
      (((Ledger.single b).without [b] b).repairs a.entity .longest).1 := (h .empty _ rfl).repairs .longest
  rw [repairs_single hname, repairs_without_single] at hcount
  cases hcount

/-! A service on a node, and another node: `a` with `b`, and `a_b`. -/

/-- A report on the service `b` of the node `a`. -/
def onService : Report := { nodeName := "a", serviceName := "b" }

/-- A report on the node `a_b`. -/
def onNode : Report := { nodeName := "a_b" }

/-- A restart of the node that is scheduled and carried out, with a repair of the service in between. -/
def mixing : List Doing :=
  [.schedule onNode (.plain (.restart .node) .zero), .note onService (.restart .machine) 0,
    .execute ⟨0, onNode.entity, .plain (.restart .node) .zero, ""⟩]

/-- **Two entities with one name have one history**: two repairs of the node are told of, though there was only one. -/
theorem histories_mixed : onNode.parts ≠ onService.parts ∧
    ((Ledger.empty.performAll mixing).repairs onNode.entity (.ofMillis 1000)).1 = 2 ∧
    ¬Unaffected .standard onNode (Ledger.empty.performAll mixing)
      ((Ledger.empty.performAll mixing).without (Ledger.authors Ledger.empty.declined mixing) onService) := by
  refine ⟨by decide, by decide, fun h => ?_⟩
  have hcount := h.repairs (.ofMillis 1000)
  revert hcount
  decide

end Remedy.Repair
