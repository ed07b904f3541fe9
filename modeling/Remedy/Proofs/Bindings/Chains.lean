import Mathlib.Data.Finset.Card
import Mathlib.Data.Nat.Find
import Mathlib.Logic.Relation
import Mathlib.Order.Interval.Finset.Nat
import Remedy.Proofs.Bindings.Steps
/-!
# Proofs.Bindings.Chains — chains of variables end, whatever is bound and undone

A slot may hold another variable, whose slot holds yet another one, and so on.  Such a chain ends as long as what is
bound has been followed to its end before: a slot that is empty gets a term, and if this is a variable, it is another
one whose slot is empty as well (`ChainsEnd.extends`).  Nothing else is asked.  The term may have the variable inside,
so that the slot comes to lead back to itself; unification may fail or be left off halfway (`ChainsEnd.steps`); and
slots may be emptied and taken away, in whatever order (`ChainsEnd.restrict`), so that going back need not be to a
checkpoint that is still in order.

No measure on slots falls along a chain, since a variable may be bound to an older or to a newer one.  What falls is the
number of steps to the end (`ChainsEnd.left`).  All smaller numbers occur further on, at slots that are bound, so there
are no more steps than slots (`ChainsEnd.left_le_size`), and `walk`, which makes as many, comes to the end
(`ChainsEnd.ended_walk`).
-/
namespace Remedy.Bindings

variable {b c : Bindings} {s t u : Term} {es fs : List Equation} {name : String} {i n : Nat}

/-- **Every chain of variables ends** after some number of steps. -/
def ChainsEnd (b : Bindings) : Prop := ∀ t, ∃ n, b.Ended (b.walkFor n t)

/-! ## How long a chain is -/

open Classical in
/-- How many steps are left to the end of a term's chain. -/
noncomputable def ChainsEnd.left (h : b.ChainsEnd) (t : Term) : Nat := Nat.find (h t)

theorem ChainsEnd.ended_left (h : b.ChainsEnd) (t : Term) : b.Ended (b.walkFor (h.left t) t) := by
  classical
  exact Nat.find_spec (h t)

theorem ChainsEnd.left_le (h : b.ChainsEnd) (hn : b.Ended (b.walkFor n t)) : h.left t ≤ n := by
  classical
  exact Nat.find_min' (h t) hn

/-- **One step along a chain** leaves one step less. -/
theorem ChainsEnd.left_var (h : b.ChainsEnd) (name : String) (hi : b.lookup? i = some u) :
    h.left (.var name i) = h.left u + 1 := by
  have hstep : ∀ n, b.walkFor (n + 1) (.var name i) = b.walkFor n u := fun n => by simp only [walkFor, hi]
  refine Nat.le_antisymm (h.left_le ?_) ?_
  · rw [hstep]
    exact h.ended_left u
  · -- the chain has not ended yet, so there is a first step, and it leads to `u`
    have hended := h.ended_left (.var name i)
    cases hleft : h.left (.var name i) with
    | zero =>
      rw [hleft] at hended
      rw [hended name i rfl] at hi
      cases hi
    | succ n =>
      rw [hleft, hstep] at hended
      exact Nat.succ_le_succ (h.left_le hended)

theorem ChainsEnd.exists_slot (h : b.ChainsEnd) : ∀ (n : Nat) (t : Term), h.left t = n →
    ∀ k ∈ Finset.Icc 1 n, ∃ i ∈ Finset.range b.size, h.left (.var "" i) = k := by
  intro n
  induction n with
  | zero =>
    intro t _ k hk
    rw [Finset.mem_Icc] at hk
    omega
  | succ n ih =>
    intro t ht k hk
    -- there are steps left, so `t` is a variable and its slot holds a term
    have hbound : ∃ name i u, t = .var name i ∧ b.lookup? i = some u := by
      by_contra hno
      have hended : b.Ended (b.walkFor 0 t) := fun name i heq => by
        by_contra hne
        obtain ⟨u, hu⟩ := Option.ne_none_iff_exists'.1 hne
        exact hno ⟨name, i, u, heq, hu⟩
      have hleft := h.left_le hended
      omega
    obtain ⟨name, i, u, rfl, hu⟩ := hbound
    have hleft := h.left_var name hu
    rcases Nat.lt_or_ge n k with hlast | hearlier
    · refine ⟨i, Finset.mem_range.2 (Nat.lt_of_not_le fun hle => ?_), ?_⟩
      · rw [lookup?_eq_none hle] at hu
        cases hu
      · rw [h.left_var "" hu]
        rw [Finset.mem_Icc] at hk
        omega
    · exact ih u (by omega) k (Finset.mem_Icc.2 ⟨(Finset.mem_Icc.1 hk).1, hearlier⟩)

/-- **A chain is no longer than there are slots.** -/
theorem ChainsEnd.left_le_size (h : b.ChainsEnd) (t : Term) : h.left t ≤ b.size := by
  have hsub : Finset.Icc 1 (h.left t) ⊆ (Finset.range b.size).image fun i => h.left (.var "" i) := fun k hk =>
    Finset.mem_image.2 (h.exists_slot _ t rfl k hk)
  calc h.left t = (Finset.Icc 1 (h.left t)).card := by rw [Nat.card_Icc, Nat.add_sub_cancel]
    _ ≤ ((Finset.range b.size).image fun i => h.left (.var "" i)).card := Finset.card_le_card hsub
    _ ≤ (Finset.range b.size).card := Finset.card_image_le
    _ = b.size := Finset.card_range b.size

theorem ChainsEnd.walkFor_eq (h : b.ChainsEnd) (t : Term) (hn : b.size ≤ n) :
    b.walkFor n t = b.walkFor (h.left t) t :=
  walkFor_of_le (h.ended_left t) ((h.left_le_size t).trans hn)

theorem ChainsEnd.walk_eq (h : b.ChainsEnd) (t : Term) : b.walk t = b.walkFor (h.left t) t :=
  h.walkFor_eq t (Nat.le_refl b.size)

/-- **Following a term comes to the end of its chain.** -/
theorem ChainsEnd.ended_walk (h : b.ChainsEnd) (t : Term) : b.Ended (b.walk t) := by
  rw [h.walk_eq]
  exact h.ended_left t

/-! ## What keeps the chains finite -/

/-- **New slots, and terms for empty slots**, if the terms are not variables that lead on. -/
theorem ChainsEnd.extends (hb : b.ChainsEnd) (h : Extends b c) : c.ChainsEnd := by
  induction h with
  | refl => exact hb
  | @allocate c _ k ih =>
    intro t
    obtain ⟨n, hn⟩ := ih t
    refine ⟨n, fun name i heq => ?_⟩
    rw [walkFor_allocate] at heq
    rw [lookup?_allocate, hn name i heq]
  | bind _ i u hi hu ih =>
    intro t
    obtain ⟨n, hn⟩ := ih t
    obtain ⟨m, -, hm⟩ := exists_ended_bind hi hu n t hn
    exact ⟨m, hm⟩

/-- **Slots may be emptied**: chains only end earlier. -/
theorem ChainsEnd.restrict (hb : b.ChainsEnd) (h : ∀ i t, c.lookup? i = some t → b.lookup? i = some t) :
    c.ChainsEnd := by
  have hends : ∀ n t, b.Ended (b.walkFor n t) → ∃ m, c.Ended (c.walkFor m t) := by
    intro n
    induction n with
    | zero =>
      refine fun t ht => ⟨0, fun name i heq => ?_⟩
      cases hi : c.lookup? i with
      | none => rfl
      | some u =>
        have hnone := ht name i heq
        rw [h i u hi] at hnone
        cases hnone
    | succ n ih =>
      intro t ht
      by_cases hend : c.Ended t
      · exact ⟨0, hend⟩
      · -- the slot of `t` has not been emptied, so both chains make the same step
        obtain ⟨name, i, rfl, hne⟩ : ∃ name i, t = .var name i ∧ c.lookup? i ≠ none := by
          simpa [Ended] using hend
        obtain ⟨u, hu⟩ := Option.ne_none_iff_exists'.1 hne
        have hb : b.walkFor (n + 1) (.var name i) = b.walkFor n u := by simp only [walkFor, h i u hu]
        have hc : ∀ m, c.walkFor (m + 1) (.var name i) = c.walkFor m u := fun m => by simp only [walkFor, hu]
        rw [hb] at ht
        obtain ⟨m, hm⟩ := ih u ht
        exact ⟨m + 1, by rwa [hc]⟩
  intro t
  obtain ⟨n, hn⟩ := hb t
  exact hends n t hn

theorem lookup?_of_rewind {cp : Checkpoint} (h : (b.rewind cp).lookup? i = some t) : b.lookup? i = some t := by
  unfold lookup? at h ⊢
  rw [slots_rewind_getElem?] at h
  split at h
  · split at h
    · cases hi : b.slots[i]? with
      | none => simp [hi] at h
      | some _ => simp [hi] at h
    · exact h
  · cases h

/-- **A step of unification** binds what has been followed to its end. -/
theorem ChainsEnd.step (hb : b.ChainsEnd) (h : Step b es c fs) : c.ChainsEnd := by
  obtain ⟨rest, h⟩ := h
  rename_i s t more
  have hext := extends_unifyStep (hb.ended_walk s) (hb.ended_walk t)
  rw [h] at hext
  exact hb.extends hext

theorem ChainsEnd.steps (hb : b.ChainsEnd) (h : Steps n b es c fs) : c.ChainsEnd :=
  h.keeps (P := fun b _ => b.ChainsEnd) (fun hstep hb => hb.step hstep) hb

theorem ChainsEnd.unifyFor (hb : b.ChainsEnd) (n : Nat) (es : List Equation) : (unifyFor n b es).1.ChainsEnd := by
  obtain ⟨k, fs, hsteps, -, -⟩ := exists_steps n b es
  exact hb.steps hsteps

theorem ChainsEnd.unifyAll (hb : b.ChainsEnd) (es : List Equation) : (b.unifyAll es).1.ChainsEnd := by
  obtain ⟨k, fs, hsteps, -⟩ := exists_steps_unifyAll b es
  exact hb.steps hsteps

/-! ## All that is done to bindings -/

/-- **What may be done to bindings at any time.**  The first so many steps of a unification count by themselves: it need
not come to an end, and what has been bound by then stays. -/
inductive Change
  | allocate (count : Nat)
  | unify (s t : Term)
  | unifyCall (goal head : Call)
  | unifyFor (steps : Nat) (es : List Equation)
  | rewind (moment : Checkpoint)

def Change.after (b : Bindings) : Change → Bindings
  | .allocate count => (b.allocate count).2
  | .unify s t => (b.unify s t).1
  | .unifyCall goal head => (b.unifyCall goal head).1
  | .unifyFor steps es => (Bindings.unifyFor steps b es).1
  | .rewind moment => b.rewind moment

/-- The bindings that come of no slots by changes, one after the other. -/
def changed (changes : List Change) : Bindings := changes.foldl Change.after empty

theorem ChainsEnd.after (hb : b.ChainsEnd) : ∀ change : Change, (change.after b).ChainsEnd
  | .allocate count => hb.extends (Extends.refl.allocate count)
  | .unify s t => hb.unifyAll [.pair s t]
  | .unifyCall goal head => hb.unifyAll (callEquations goal head)
  | .unifyFor steps es => hb.unifyFor steps es
  | .rewind _ => hb.restrict fun _ _ => lookup?_of_rewind

theorem chainsEnd_changed (changes : List Change) : (changed changes).ChainsEnd := by
  have hempty : empty.ChainsEnd := fun t => ⟨0, fun _ i _ => lookup?_eq_none (Nat.zero_le i)⟩
  have hall : ∀ (changes : List Change) {b : Bindings}, b.ChainsEnd → (changes.foldl Change.after b).ChainsEnd := by
    intro changes
    induction changes with
    | nil => exact fun hb => hb
    | cons change changes ih => exact fun hb => ih (hb.after change)
  exact hall changes hempty

/-- **A variable gives way to what its slot holds.** -/
inductive Follows (b : Bindings) : Term → Term → Prop
  | var (name : String) {i : Nat} {t : Term} (h : b.lookup? i = some t) : Follows b (.var name i) t

theorem follows_walkFor (b : Bindings) : ∀ (n : Nat) (t : Term), Relation.ReflTransGen b.Follows t (b.walkFor n t)
  | 0, _ => .refl
  | n + 1, .var name i => by
    unfold walkFor
    split
    · rename_i u hu
      exact .head (.var name hu) (follows_walkFor b n u)
    · exact .refl
  | _ + 1, .const _ | _ + 1, .compound _ _ | _ + 1, .template _ | _ + 1, .nil => .refl

theorem ChainsEnd.wellFounded (h : b.ChainsEnd) : WellFounded fun u t => b.Follows t u := by
  refine Subrelation.wf (r := InvImage (· < ·) h.left) (fun {u t} hfollows => ?_) (InvImage.wf h.left Nat.lt_wfRel.wf)
  cases hfollows with
  | var name hi => exact Nat.lt_of_lt_of_eq (Nat.lt_succ_self _) (h.left_var name hi).symm

/-- **Chains of variables end in all bindings that come of no slots** by new slots, by unifying terms, or goals with
heads, with or without success or only up to some step, and by going back to any checkpoints: there is no endless chain,
and from every term its chain leads to what `walk` gives, an unbound variable or no variable at all.  That `walk` makes
no more steps than there are slots makes no difference. -/
theorem chains_end (changes : List Change) :
    (WellFounded fun u t => (changed changes).Follows t u) ∧
      ∀ t, Relation.ReflTransGen (changed changes).Follows t ((changed changes).walk t) ∧
        (changed changes).Ended ((changed changes).walk t) ∧
          ∀ n, (changed changes).size ≤ n → (changed changes).walkFor n t = (changed changes).walk t := by
  have h := chainsEnd_changed changes
  refine ⟨h.wellFounded, fun t => ⟨follows_walkFor _ _ t, h.ended_walk t, fun n hn => ?_⟩⟩
  rw [h.walkFor_eq t hn, h.walk_eq]

/-- A variable unified with a term around it leads back to itself, but not by variables alone. -/
example : (changed [.allocate 1, .unify (.var "X" 0) (.compound "f" [⟨none, .var "X" 0⟩])]).lookup? 0 =
    some (.compound "f" [⟨none, .var "X" 0⟩]) := rfl

end Remedy.Bindings
