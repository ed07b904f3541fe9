import Remedy.Proofs.Context.Shape
import Remedy.Proofs.Query.Moves
/-!
# Proofs.Query.Contexts — what a search does to the contexts

A search makes contexts, says whether they are stable, and takes them away (`Tended`); whatever else happens to them is
the doing of others.  In particular a search cancels nothing and revives nothing.
-/
namespace Remedy

namespace Context.Forest

/-- **What a search does to the contexts.** -/
inductive Tended (f : Forest) : Forest → Prop
  | refl : Tended f f
  | create {g : Forest} (h : Tended f g) (parent : Nat) : Tended f (g.create parent).1
  | setStable {g : Forest} (h : Tended f g) (id : Nat) (b : Bool) : Tended f (g.setStable id b).1
  | detach {g : Forest} (h : Tended f g) (id : Nat) : Tended f (g.detach id).1
  | clear {g : Forest} (h : Tended f g) (id : Nat) : Tended f (g.clear id).1

variable {f g : Forest}

theorem Tended.size_le (h : Tended f g) : f.size ≤ g.size := by
  induction h with
  | refl => exact Nat.le_refl _
  | create _ parent ih => rw [size_create]; exact Nat.le_succ_of_le ih
  | setStable _ id b ih => rw [size_setStable]; exact ih
  | detach _ id ih => rw [size_detach]; exact ih
  | clear _ id ih => rw [size_clear]; exact ih

/-- **A search cancels no context that there is, and revives none.** -/
theorem Tended.isCancelled_eq (h : Tended f g) {k : Nat} (hk : k < f.size) : g.isCancelled k = f.isCancelled k := by
  induction h with
  | refl => rfl
  | @create g h parent ih =>
    have hle := h.size_le
    rw [isCancelled_create, if_neg (by omega)]
    exact ih
  | setStable _ id b ih => rw [isCancelled_setStable]; exact ih
  | detach _ id ih => rw [isCancelled_detach]; exact ih
  | clear _ id ih => rw [isCancelled_clear]; exact ih

theorem Tended.root_not_cancelled (h : Tended f g) (hf : f.isCancelled 0 = false) : g.isCancelled 0 = false := by
  induction h with
  | refl => exact hf
  | create _ parent ih =>
    rw [isCancelled_create]
    split
    · exact isCancelled_of_size_le (by omega)
    · exact ih
  | setStable _ id b ih => rw [isCancelled_setStable]; exact ih
  | detach _ id ih => rw [isCancelled_detach]; exact ih
  | clear _ id ih => rw [isCancelled_clear]; exact ih

/-- **Where nothing is cancelled, a search cancels nothing.** -/
theorem Tended.keeps_calm (h : Tended f g) (hf : ∀ k, f.isCancelled k = false) (k : Nat) : g.isCancelled k = false := by
  induction h generalizing k with
  | refl => exact hf k
  | create _ parent ih =>
    rw [isCancelled_create]
    split
    · exact ih parent
    · exact ih k
  | setStable _ id b ih => rw [isCancelled_setStable]; exact ih k
  | detach _ id ih => rw [isCancelled_detach]; exact ih k
  | clear _ id ih => rw [isCancelled_clear]; exact ih k

end Context.Forest

namespace Query.Machine

open Context.Forest (Tended)

variable {σ : Type} {e : Engine σ} {m m' : Machine σ} {o : Outcome}

def forest (m : Machine σ) : Context.Forest := m.session.tree.forest

theorem forest_setStable (m : Machine σ) (k : Nat) (b : Bool) :
    (m.onTree (·.setStable k b)).forest = (m.forest.setStable k b).1 := Context.Tree.forest_change _ _

theorem forest_detach (m : Machine σ) (k : Nat) : (m.onTree (·.detach k)).forest = (m.forest.detach k).1 :=
  Context.Tree.forest_change _ _

theorem forest_offer (m : Machine σ) (act : Activation) (goal : Call) (untried : Untried) (after : List Frame) :
    (m.offer act goal untried after).2.forest = (m.forest.create act.context).1 := Context.Tree.forest_change _ _

theorem forest_record (m : Machine σ) (o : Options) (g : Goal Callee) : (m.record o g).forest = m.forest := by
  unfold record
  split <;> rfl

theorem tree_assert {s s' : Session} {fact : Call} {atEnd : Bool} (h : s.assert fact atEnd = .ok s') :
    s'.tree = s.tree := by
  unfold Session.assert at h
  cases hf : s.facts.assert fact atEnd with
  | error cause =>
    rw [hf] at h
    cases h
  | ok facts =>
    rw [hf] at h
    cases h
    rfl

theorem tended_detachAll (f : Context.Forest) : ∀ (ids : List Nat) (t : Context.Tree), Tended f t.forest →
    Tended f (ids.foldl Context.Tree.detach t).forest
  | [], _, h => h
  | id :: ids, t, h => by
    refine tended_detachAll f ids (t.detach id) ?_
    have hd : (t.detach id).forest = (t.forest.detach id).1 := Context.Tree.forest_change _ _
    rw [hd]
    exact h.detach id

theorem tended_cut (m : Machine σ) (height : Nat) (keep : Option Nat) : Tended m.forest (m.cut height keep).forest :=
  tended_detachAll m.forest _ m.session.tree .refl

theorem tended_executes {act : Activation} {after : List Frame} {g : Goal Callee}
    (h : m.Executes e act after g o m') : Tended m.forest m'.forest := by
  cases h with
  | cut => exact tended_cut m _ _
  | assert b c hs =>
    have ht : Machine.forest { m with session := _ } = m.forest := congrArg Context.Tree.forest (tree_assert hs)
    rw [ht]
    exact .refl
  | @offer callee c args untried hargs hu =>
    rw [forest_offer]
    exact .create .refl _
  | _ => exact .refl

theorem tended_retry (m : Machine σ) (k : Nat) (tried : Bool) : Tended m.forest (m.retry k tried).forest := by
  unfold retry
  split
  · rw [forest_setStable]
    exact .setStable .refl k false
  · exact .refl

theorem forest_keep (m : Machine σ) (c : Choice) (goal : Call) (k : Nat) (left : Bool) (untried : Untried) :
    (m.keep c goal k left untried).forest = m.forest := by
  unfold keep
  split <;> rfl

theorem tended_resumes {c : Choice} (h : m.Resumes c o m') : Tended m.forest m'.forest := by
  have hdetach : ∀ (k : Nat) (tried : Bool) (b : Bindings),
      Tended m.forest (((m.retry k tried).withBindings b).onTree (·.detach k)).forest := by
    intro k tried b
    rw [forest_detach]
    exact (tended_retry m k tried).detach k
  cases h with
  | negation hp => exact .refl
  | noClause hp hf => exact hdetach _ _ _
  | @clause goal k owner base tried clauses rest cl b hp hf =>
    rw [forest_keep]
    exact tended_retry m k tried
  | noFact hp hf => exact hdetach _ _ _
  | @fact goal k tried facts rest b hp hf =>
    rw [forest_keep]
    exact tended_retry m k tried
  | answers hp => exact tended_retry m _ _

/-- **A transition that asks nobody tends the contexts.** -/
theorem tended_moves {c : Control} (h : m.Moves e c o m') (hc : ∀ i, c ≠ .ask i) : Tended m.forest m'.forest := by
  cases h with
  | solved => exact .refl
  | stopped ht => exact .refl
  | @exit k fs ht =>
    rw [forest_setStable]
    exact .setStable .refl k true
  | negated ht => exact tended_cut m.ticked _ _
  | bodyEnd ht => exact .refl
  | @goal act g rest fs o m' ht hx =>
    have hf : (m.ticked.record e.options g).forest = m.forest := forest_record _ _ _
    rw [← hf]
    exact tended_executes hx
  | exhausted hp => exact .refl
  | back hp hr =>
    have ht := tended_resumes hr
    exact ht
  | refused ha => exact absurd rfl (hc _)
  | noAnswer ha => exact absurd rfl (hc _)
  | answer ha hu => exact absurd rfl (hc _)
  | misfitStopped ha hu ht => exact absurd rfl (hc _)
  | misfit ha hu ht => exact absurd rfl (hc _)

/-- **A transition that asks the application** tends the contexts as the application leaves them. -/
theorem tended_ask {i : Inquiry} (h : m.Moves e (.ask i) o m') : Tended (m.reply e i).2.2.tree.forest m'.forest := by
  cases h with
  | refused ha =>
    rw [ha]
    exact .refl
  | @noAnswer i w s ha =>
    rw [ha, forest_detach]
    exact .detach .refl _
  | answer ha hu =>
    rw [ha]
    exact .refl
  | misfitStopped ha hu ht =>
    rw [ha]
    exact .refl
  | misfit ha hu ht =>
    rw [ha]
    exact .refl

end Query.Machine

end Remedy
