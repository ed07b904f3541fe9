import Mathlib.Data.List.Induction
import Remedy.Proofs.Context.Stability
/-!
# Proofs.Context.Waiting — work that waits for the root

Whatever is done to a tree of contexts, one operation after the other, its flags stay right, subscribers hear that the
root is stable exactly when it has become so, and the work that has run is the work that was queued before the root was
stable for the last time, in the order in which it was queued (`history_exact`).  So a piece of work runs once, when the
root is stable for the first time after it has been queued.
-/
namespace Remedy.Context

/-- **What can be done to a tree of contexts.** -/
inductive Operation
  | create (parent : Nat)
  | setStable (id : Nat) (b : Bool)
  | setSuspended (id : Nat) (b : Bool)
  | cancel (id : Nat)
  | clear (id : Nat)
  | detach (id : Nat)
  | whenStable (task : Task)

namespace Operation

/-- What an operation does to the contexts, and the transitions that it makes. -/
def act : Operation → Forest → Forest × List Event
  | .create parent => (·.create parent)
  | .setStable id b => (·.setStable id b)
  | .setSuspended id b => (·.setSuspended id b)
  | .cancel id => (·.cancel id)
  | .clear id => (·.clear id)
  | .detach id => (·.detach id)
  | .whenStable _ => fun f => (f, [])

def task? : Operation → Option Task
  | .whenStable task => some task
  | _ => none

/-- **An operation on a context that there is**; the root is not detached. -/
def Fits (f : Forest) : Operation → Prop
  | .create id | .setStable id _ | .setSuspended id _ | .cancel id | .clear id => id < f.size
  | .detach id => id < f.size ∧ id ≠ 0
  | .whenStable _ => True

instance (f : Forest) (op : Operation) : Decidable (op.Fits f) := by
  cases op <;> unfold Fits <;> infer_instance

end Operation

def queued (ops : List Operation) : List Task := ops.filterMap Operation.task?

namespace Tree

def perform (t : Tree) : Operation → Tree
  | .create parent => (t.create parent).2
  | .setStable id b => t.setStable id b
  | .setSuspended id b => t.setSuspended id b
  | .cancel id => t.cancel id
  | .clear id => t.clear id
  | .detach id => t.detach id
  | .whenStable task => t.whenStable task

def after (t : Tree) (ops : List Operation) : Tree := ops.foldl perform t

/-- Every operation finds its context there. -/
def Fitting : Tree → List Operation → Prop
  | _, [] => True
  | t, op :: ops => op.Fits t.forest ∧ (t.perform op).Fitting ops

instance decidableFitting : ∀ (t : Tree) (ops : List Operation), Decidable (t.Fitting ops)
  | _, [] => .isTrue trivial
  | t, op :: ops =>
    have := decidableFitting (t.perform op) ops
    inferInstanceAs (Decidable (op.Fits t.forest ∧ (t.perform op).Fitting ops))

def watched (watchers : List Subscriber) : Tree := { root with subscribers := watchers }

variable {t : Tree} {op : Operation} {ops : List Operation}

theorem after_concat (t : Tree) (ops : List Operation) (op : Operation) :
    t.after (ops ++ [op]) = (t.after ops).perform op := List.foldl_append

theorem fitting_concat : ∀ {ops : List Operation} {t : Tree}, t.Fitting (ops ++ [op]) →
    t.Fitting ops ∧ op.Fits (t.after ops).forest
  | [], _, h => ⟨trivial, h.1⟩
  | _ :: _, _, ⟨hf, h⟩ => ⟨⟨hf, (fitting_concat h).1⟩, (fitting_concat h).2⟩

theorem perform_eq (h : op.task? = none) (t : Tree) : t.perform op = t.change op.act := by
  cases op with
  | whenStable task => cases h
  | _ => rfl

theorem forest_perform (t : Tree) (op : Operation) : (t.perform op).forest = (op.act t.forest).1 := by
  cases hop : op.task? with
  | none => rw [perform_eq hop, forest_change]
  | some task =>
    cases op with
    | whenStable task =>
      unfold perform whenStable
      simp only
      split <;> rfl
    | _ => cases hop

theorem subscribers_perform (t : Tree) (op : Operation) :
    (t.perform op).subscribers = (t.publish (op.act t.forest).2).subscribers := by
  have hpublish : ∀ (f : Forest) (events : List Event),
      (({ t with forest := f } : Tree).publish events).subscribers = (t.publish events).subscribers := by
    intro f events
    unfold publish
    split <;> rfl
  cases hop : op.task? with
  | none =>
    rw [perform_eq hop, change]
    simp only
    split
    · exact hpublish _ _
    · exact hpublish _ _
  | some task =>
    cases op with
    | whenStable task =>
      unfold perform whenStable
      simp only
      split <;> rfl
    | _ => cases hop

theorem ran_publish (t : Tree) (events : List Event) :
    (t.publish events).ran = t.ran ∧ (t.publish events).waiting = t.waiting := by
  unfold publish
  split <;> exact ⟨rfl, rfl⟩

/-- **A change runs the work that waits** if it makes the root stable, and no work otherwise. -/
theorem ran_change (t : Tree) (act : Forest → Forest × List Event) :
    (t.change act).ran = (if .stable ∈ (act t.forest).2 then t.ran ++ t.waiting else t.ran) ∧
      (t.change act).waiting = if .stable ∈ (act t.forest).2 then [] else t.waiting := by
  obtain ⟨hran, hwaiting⟩ := ran_publish { t with forest := (act t.forest).1 } (act t.forest).2
  unfold change runWaiting
  simp only [List.contains_iff_mem]
  split
  · exact ⟨by rw [hran, hwaiting], rfl⟩
  · exact ⟨hran, hwaiting⟩

end Tree

namespace Forest

theorem filter_stable_eq_nil {events : List Event} (h : Event.stable ∉ events) :
    events.filter (· = .stable) = [] :=
  List.filter_eq_nil_iff.2 fun _ he hs => h (of_decide_eq_true hs ▸ he)

/-- **Every operation keeps a forest balanced**, and tells that the root is stable exactly if it has made it so. -/
theorem Balanced.act {f : Forest} (h : f.Balanced) {op : Operation} (hf : op.Fits f) :
    (op.act f).1.Balanced ∧ (op.act f).2.filter (· = .stable) = turned f (op.act f).1 := by
  have hfilter : ∀ {g : Forest} {events : List Event}, events = turned f g →
      events.filter (· = .stable) = turned f g := by
    intro g events he
    rw [he]
    unfold turned
    split <;> rfl
  cases op with
  | create parent => exact ⟨(h.create hf).1, hfilter (h.create hf).2⟩
  | setStable id b => exact ⟨(h.setStable hf b).1, hfilter (h.setStable hf b).2⟩
  | setSuspended id b =>
    refine ⟨h.setSuspended id b, Eq.trans ?_ (turned_of_eq (isStable_setSuspended f id b 0)).symm⟩
    exact filter_stable_eq_nil (stable_not_mem_spreadSuspension _ [id] _)
  | cancel id =>
    refine ⟨h.cancel id, Eq.trans ?_ (turned_of_eq (isStable_cancel f id 0)).symm⟩
    exact filter_stable_eq_nil (stable_not_mem_cancel f id)
  | clear id => exact ⟨(h.clear id).1, hfilter (h.clear id).2⟩
  | detach id => exact ⟨(h.detach hf.2).1, hfilter (h.detach hf.2).2⟩
  | whenStable task => exact ⟨h, (turned_of_eq rfl).symm⟩

theorem Balanced.stable_mem_act {f : Forest} (h : f.Balanced) {op : Operation} (hf : op.Fits f) :
    .stable ∈ (op.act f).2 ↔ f.isStable 0 = false ∧ (op.act f).1.isStable 0 = true := by
  have hmem : .stable ∈ (op.act f).2 ↔ .stable ∈ (op.act f).2.filter (· = .stable) := by simp
  rw [hmem, (h.act hf).2, turned]
  cases f.isStable 0 <;> cases (op.act f).1.isStable 0 <;> simp

end Forest

namespace Tree

variable {t : Tree} {op : Operation} {ops : List Operation}

theorem balanced_after : ∀ {ops : List Operation} {t : Tree}, t.forest.Balanced → t.Fitting ops →
    (t.after ops).forest.Balanced
  | [], _, h, _ => h
  | op :: ops, t, h, ⟨hop, hf⟩ => by
    have hb : (t.perform op).forest.Balanced := by
      rw [forest_perform]
      exact (h.act hop).1
    have hall := balanced_after hb hf
    exact hall

/-- **While the root is unstable** nothing runs, and what an operation queues is put behind what waits. -/
theorem perform_of_unstable (h : t.forest.Balanced) (hop : op.Fits t.forest)
    (hs : (t.perform op).forest.isStable 0 = false) :
    (t.perform op).ran = t.ran ∧ (t.perform op).waiting = t.waiting ++ queued [op] := by
  rw [forest_perform] at hs
  cases hq : op.task? with
  | none =>
    have hnot : .stable ∉ (op.act t.forest).2 := by
      intro hmem
      rw [((h.stable_mem_act hop).1 hmem).2] at hs
      cases hs
    obtain ⟨hran, hwaiting⟩ := ran_change t op.act
    rw [if_neg hnot] at hran hwaiting
    have hnone : queued [op] = [] := List.filterMap_cons_none hq
    rw [perform_eq hq, hnone, List.append_nil]
    exact ⟨hran, hwaiting⟩
  | some task =>
    cases op with
    | whenStable task =>
      have hs : t.forest.isStable 0 = false := hs
      unfold perform whenStable
      rw [hs]
      exact ⟨rfl, rfl⟩
    | _ => cases hq

/-- **When the root is stable** all that has been queued has run, provided that nothing waited where it was stable
before. -/
theorem perform_of_stable (h : t.forest.Balanced) (hop : op.Fits t.forest)
    (hw : t.forest.isStable 0 = true → t.waiting = []) (hs : (t.perform op).forest.isStable 0 = true) :
    (t.perform op).ran = t.ran ++ t.waiting ++ queued [op] ∧ (t.perform op).waiting = [] := by
  rw [forest_perform] at hs
  cases hq : op.task? with
  | none =>
    obtain ⟨hran, hwaiting⟩ := ran_change t op.act
    have hnone : queued [op] = [] := List.filterMap_cons_none hq
    rw [perform_eq hq, hnone, List.append_nil, hran, hwaiting]
    split
    · exact ⟨rfl, rfl⟩
    · rename_i hnot
      have hbefore : t.forest.isStable 0 = true := by
        cases hb : t.forest.isStable 0 with
        | true => rfl
        | false => exact absurd ((h.stable_mem_act hop).2 ⟨hb, hs⟩) hnot
      rw [hw hbefore, List.append_nil]
      exact ⟨rfl, rfl⟩
  | some task =>
    cases op with
    | whenStable task =>
      have hs : t.forest.isStable 0 = true := hs
      have hnone := hw hs
      have hnow : t.whenStable task = { t with ran := t.ran ++ [task] } := if_pos hs
      rw [perform, hnow, hnone, List.append_nil]
      exact ⟨rfl, rfl⟩
    | _ => cases hq

/-- **The work that has run** is what has been queued until the root was stable for the last time, and the rest
waits. -/
def Served (t : Tree) (ops : List Operation) : Prop :=
  ∃ n ≤ ops.length, (t.after ops).ran = queued (ops.take n) ∧ (t.after ops).waiting = queued (ops.drop n) ∧
    (n = 0 ∨ (t.after (ops.take n)).forest.isStable 0 = true) ∧
      ∀ m, n < m → m ≤ ops.length → (t.after (ops.take m)).forest.isStable 0 = false

theorem Served.ran_of_stable (h : Served t ops) (hs : (t.after ops).forest.isStable 0 = true) :
    (t.after ops).ran = queued ops ∧ (t.after ops).waiting = [] := by
  obtain ⟨n, hn, hran, hwaiting, -, hlast⟩ := h
  have hlen : n = ops.length := by
    refine Nat.le_antisymm hn (Nat.le_of_not_lt fun hlt => ?_)
    have hnot := hlast ops.length hlt (Nat.le_refl _)
    rw [List.take_length, hs] at hnot
    cases hnot
  rw [hlen, List.take_length] at hran
  rw [hlen, List.drop_length] at hwaiting
  exact ⟨hran, hwaiting⟩

theorem Served.ran_waiting (h : Served t ops) : (t.after ops).ran ++ (t.after ops).waiting = queued ops := by
  obtain ⟨n, -, hran, hwaiting, -⟩ := h
  rw [hran, hwaiting]
  unfold queued
  rw [← List.filterMap_append, List.take_append_drop]

theorem Served.concat (h : Served t ops) (hb : (t.after ops).forest.Balanced) (hop : op.Fits (t.after ops).forest) :
    Served t (ops ++ [op]) := by
  have hafter := after_concat t ops op
  have hqueued : queued (ops ++ [op]) = queued ops ++ queued [op] := List.filterMap_append ..
  cases hst : (t.after (ops ++ [op])).forest.isStable 0 with
  | true =>
    obtain ⟨hran, hwaiting⟩ :=
      perform_of_stable hb hop (fun hs => (h.ran_of_stable hs).2) (by rw [← hafter]; exact hst)
    rw [← hafter, h.ran_waiting, ← hqueued] at hran
    rw [← hafter] at hwaiting
    refine ⟨(ops ++ [op]).length, Nat.le_refl _, ?_, ?_, .inr ?_, fun m hm hm' => absurd hm' (Nat.not_le.2 hm)⟩
    · rw [List.take_length]
      exact hran
    · rw [List.drop_length]
      exact hwaiting
    · rw [List.take_length]
      exact hst
  | false =>
    obtain ⟨hran, hwaiting⟩ := perform_of_unstable hb hop (by rw [← hafter]; exact hst)
    rw [← hafter] at hran hwaiting
    obtain ⟨n, hle, hr, hw, hfirst, hlast⟩ := h
    have htake : ∀ m, m ≤ ops.length → (ops ++ [op]).take m = ops.take m := fun m hm => List.take_append_of_le_length hm
    refine ⟨n, ?_, ?_, ?_, ?_, fun m hm hm' => ?_⟩
    · rw [List.length_append]
      exact Nat.le_add_right_of_le hle
    · rw [htake n hle, hran, hr]
    · rw [List.drop_append_of_le_length hle, hwaiting, hw]
      exact (List.filterMap_append ..).symm
    · rw [htake n hle]
      exact hfirst
    · by_cases hlen : m ≤ ops.length
      · rw [htake m hlen]
        exact hlast m hm hlen
      · have he : m = (ops ++ [op]).length := by
          rw [List.length_append, List.length_singleton] at hm' ⊢
          omega
        rw [he, List.take_length]
        exact hst

theorem served (watchers : List Subscriber) (ops : List Operation) (hf : (watched watchers).Fitting ops) :
    Served (watched watchers) ops := by
  induction ops using List.reverseRecOn with
  | nil => exact ⟨0, Nat.le_refl _, rfl, rfl, .inl rfl, fun m hm hm' => absurd hm' (Nat.not_le.2 hm)⟩
  | append_singleton ops op ih =>
    obtain ⟨hfit, hop⟩ := fitting_concat hf
    exact (ih hfit).concat (balanced_after Forest.balanced_root hfit) hop

/-- **What holds after operations**, and what one more operation tells: the flag of every attached context is right, so
that the root is stable if all that is connected with it is; the root is told to be stable where it becomes so, and
those who watch hear it; the work has run that should have. -/
structure Exact (t : Tree) (ops : List Operation) : Prop where
  flags : ∀ k, (t.after ops).forest.isAttached k = true → ((t.after ops).forest.isStable k = true ↔
    (t.after ops).forest.isLocallyStable k = true ∧
      ∀ j ∈ (t.after ops).forest.children k, (t.after ops).forest.isStable j = true)
  root : (t.after ops).forest.isStable 0 = true ↔
    ∀ k, (t.after ops).forest.Connected k → (t.after ops).forest.isLocallyStable k = true
  tells : ∀ op : Operation, op.Fits (t.after ops).forest →
    (op.act (t.after ops).forest).2.filter (· = .stable) =
      if (t.after ops).forest.isStable 0 = false ∧ ((t.after ops).perform op).forest.isStable 0 = true then [.stable]
      else []
  heard : ∀ op : Operation, ((t.after ops).perform op).subscribers =
    ((t.after ops).publish (op.act (t.after ops).forest).2).subscribers
  done : Served t ops

/-- **Every history of operations is exact**, whoever watches. -/
theorem history_exact (watchers : List Subscriber) (ops : List Operation) (hf : (watched watchers).Fitting ops) :
    Exact (watched watchers) ops := by
  have hb : ((watched watchers).after ops).forest.Balanced := balanced_after Forest.balanced_root hf
  refine ⟨fun k hk => ?_, hb.root_isStable_iff, fun op hop => ?_, subscribers_perform _, served watchers ops hf⟩
  · rw [hb.aligned k hk, Bool.and_eq_true, List.all_eq_true]
  · rw [(hb.act hop).2, Forest.turned, forest_perform]
    cases ((watched watchers).after ops).forest.isStable 0 <;> simp

/-- Two branches that finish in reverse order: the work that waited for them runs when the second has finished. -/
theorem history_exact_branches :
    let ops : List Operation := [.setStable 0 true, .create 0, .create 0, .create 1, .whenStable (.label "done"),
      .setStable 2 true, .setStable 3 true, .setSuspended 1 true, .setStable 1 true, .whenStable .wake, .detach 1,
      .setStable 3 false, .cancel 0, .clear 0]
    (watched []).Fitting ops ∧ Exact (watched []) ops ∧ ((watched []).after ops).ran = [.label "done", .wake] :=
  ⟨by decide, history_exact [] _ (by decide), by decide⟩

end Tree

end Remedy.Context
