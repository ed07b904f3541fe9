import Remedy.Proofs.Bindings.Ground
import Remedy.Proofs.Facts
/-!
# Proofs.Query.Retraction — a fact is taken away, or nothing changes

A pattern is tried on the facts in slots of its own, and the first fact that passes is taken away before the pattern is
unified with it under the bindings of the search.  The pattern has been resolved, so its variables stand for nothing
there either, and what comes of a fact is the same both times (`matchesAlone_eq`).  So the fact that is taken away is
the first that the pattern matches, and matching it does not fail afterwards (`retract_atomic`).
-/
namespace Remedy.Query

open Bindings (Mirrors)

variable {σ : Type} {b : Bindings} {m : Machine σ} {goal pattern fact : Call}

/-- **The variables of a resolved pattern stand for nothing.** -/
theorem Machine.free_of_factOf (hresolves : ∀ a ∈ goal.args.head?, m.bindings.Resolves a.value)
    (h : m.factOf goal = .ok pattern) : ∀ v ∈ pattern.mentions, m.bindings.lookup? v.2 = none := by
  unfold factOf at h
  split at h
  · rename_i fact hfact
    cases h
    obtain ⟨t, ht, hpattern⟩ := Option.bind_eq_some_iff.1 hfact
    obtain ⟨a, ha, rfl⟩ := Option.map_eq_some_iff.1 ht
    exact fun v hv => hresolves a ha v (Term.mentions_of_asFact? hpattern v hv)
  · cases h

theorem mirrors_pattern (hfree : ∀ v ∈ pattern.mentions, b.lookup? v.2 = none) :
    Mirrors (fun i => ∃ v ∈ pattern.mentions, v.2 = i) (Bindings.empty.allocate pattern.span).2 b := by
  refine Bindings.mirrors_free (fun i _ => ?_) ?_
  · rw [Bindings.lookup?_allocate]
    rfl
  · rintro i ⟨v, hv, rfl⟩
    exact hfree v hv

/-- **Trying a pattern alone tells whether it unifies with a fact.** -/
theorem matchesAlone_eq (hfree : ∀ v ∈ pattern.mentions, b.lookup? v.2 = none) (hfact : fact.isGround = true) :
    Machine.matchesAlone pattern fact = (b.unifyCall pattern fact).2 :=
  ((mirrors_pattern hfree).unifyAll (Bindings.faces_callEquations (fun v hv => ⟨v, hv, rfl⟩) hfact)).1

theorem unifyCall_of_ne (h : pattern.functor ≠ fact.functor) : (b.unifyCall pattern fact).2 = false := by
  unfold Bindings.unifyCall Bindings.callEquations
  rw [if_pos h]
  rfl

/-- **A fact has been taken away**: the first that the pattern matches.  The pattern stands for it, and besides the
facts and the variables of the pattern nothing has changed. -/
structure Machine.Takes (m m' : Machine σ) (pattern fact : Call) : Prop where
  first : ∃ before rest, m.session.facts.all = before ++ fact :: rest ∧ m'.session.facts.all = before ++ rest ∧
    ∀ f ∈ before, (m.bindings.unifyCall pattern f).2 = false
  unified : m.bindings.unifyCall pattern fact = (m'.bindings, true)
  stands : m'.bindings.StandsFor pattern fact
  elsewhere : ∀ i, (∀ v ∈ pattern.mentions, v.2 ≠ i) → m'.bindings.lookup? i = m.bindings.lookup? i
  kept : m' = { m with bindings := m'.bindings, session := { m.session with facts := m'.session.facts } }

theorem takes_unifyCall (hfree : ∀ v ∈ pattern.mentions, m.bindings.lookup? v.2 = none) (hfact : fact.isGround = true)
    (hunified : (m.bindings.unifyCall pattern fact).2 = true) {facts : Facts} {before rest : List Call}
    (hall : m.session.facts.all = before ++ fact :: rest) (hleft : facts.all = before ++ rest)
    (hbefore : ∀ f ∈ before, (m.bindings.unifyCall pattern f).2 = false) :
    m.Takes { m with bindings := (m.bindings.unifyCall pattern fact).1, session := { m.session with facts } }
      pattern fact := by
  have hmirrors := (mirrors_pattern hfree).right
  have hfaces : ∀ e ∈ Bindings.callEquations pattern fact, e.Faces fun i => ∃ v ∈ pattern.mentions, v.2 = i :=
    Bindings.faces_callEquations (fun v hv => ⟨v, hv, rfl⟩) hfact
  refine ⟨⟨before, rest, hall, hleft, hbefore⟩, Prod.ext rfl hunified, hmirrors.stands_unifyAll hfaces hunified, ?_, rfl⟩
  have hclosed : m.bindings.Closed fun i => ∃ v ∈ pattern.mentions, v.2 = i :=
    fun i t hi ht => Term.inside_of_isGround (hmirrors.ground i t hi ht)
  refine fun i hi => (Bindings.binds_unifyAll hclosed (Bindings.inside_callEquations (fun v hv => ⟨v, hv, rfl⟩) ?_)).outside
    i fun ⟨v, hv, heq⟩ => hi v hv heq
  intro v hv
  rw [Call.mentions_eq_nil hfact] at hv
  cases hv

/-- **Retracting takes away the first fact that the pattern matches and binds the pattern to it, or fails and leaves
everything as it was.**  The bindings are to be such that the pattern can be resolved at all. -/
theorem retract_atomic (m : Machine σ) (goal : Call) (after : List Frame) (hfacts : m.session.facts.Ground)
    (hresolves : ∀ a ∈ goal.args.head?, m.bindings.Resolves a.value) :
    match m.factOf goal with
    | .error e => m.retract goal after = (.failed e, m)
    | .ok pattern =>
      (∀ f ∈ m.session.facts.all, Machine.matchesAlone pattern f = (m.bindings.unifyCall pattern f).2) ∧
      ((∃ fact m', m.Takes m' pattern fact ∧ m.retract goal after = (.proceed true after, m')) ∨
        (∀ f ∈ m.session.facts.all, (m.bindings.unifyCall pattern f).2 = false) ∧
          m.retract goal after = (.proceed false after, m)) := by
  unfold Machine.retract
  cases hp : m.factOf goal with
  | error e => rfl
  | ok pattern =>
    have hfree := Machine.free_of_factOf hresolves hp
    have hagree : ∀ f ∈ m.session.facts.all, Machine.matchesAlone pattern f = (m.bindings.unifyCall pattern f).2 :=
      fun f hf => matchesAlone_eq hfree (hfacts f hf)
    -- facts under other functors are not tried, and do not match
    have hpassed : ∀ f ∈ m.session.facts.all, (f.functor = pattern.functor → Machine.matchesAlone pattern f = false) →
        (m.bindings.unifyCall pattern f).2 = false := by
      intro f hf h
      by_cases hfunctor : f.functor = pattern.functor
      · rw [← hagree f hf, h hfunctor]
      · exact unifyCall_of_ne (Ne.symm hfunctor)
    refine ⟨hagree, ?_⟩
    simp only
    cases hr : m.session.facts.retract? pattern.functor (Machine.matchesAlone pattern) with
    | none =>
      exact .inr ⟨fun f hf => hpassed f hf (Facts.retract?_eq_none hr f hf), rfl⟩
    | some taken =>
      obtain ⟨fact, facts⟩ := taken
      obtain ⟨before, rest, hall, hleft, ⟨-, hmatches⟩, hbefore⟩ := Facts.retract?_eq_some hr
      have hmem : ∀ f ∈ before ++ [fact], f ∈ m.session.facts.all := by
        intro f hf
        rw [hall, ← List.singleton_append, ← List.append_assoc]
        exact List.mem_append_left rest hf
      have hfact : fact ∈ m.session.facts.all := hmem fact (List.mem_append_right _ List.mem_cons_self)
      have hunified : (m.bindings.unifyCall pattern fact).2 = true := by rw [← hagree fact hfact, hmatches]
      refine .inl ⟨fact, _, takes_unifyCall hfree (hfacts fact hfact) hunified hall hleft fun f hf => ?_, ?_⟩
      · exact hpassed f (hmem f (List.mem_append_left _ hf)) (hbefore f hf)
      · exact congrArg (fun success => (Outcome.proceed success after, _)) hunified

def readings : Machine Unit where
  world := ()
  session := { Session.new with
    facts := ⟨[2, 1, 1, 1].zipWith (fun i (j, k) => ⟨"reading", [⟨none, .const (.int i)⟩, ⟨none, .const (.int j)⟩,
      ⟨some "again", .const (.int k)⟩]⟩) [(4, 4), (4, 5), (6, 6), (7, 7)], []⟩ }
  bindings := ((Bindings.empty.allocate 3).2.bind 0 (.var "Y" 1)).bind 1 (.const (.int 1))
  choices := .empty
  steps := 0

/-- `retract(reading(?X, ?Z, again: ?Z))` -/
def taking : Call :=
  ⟨"retract", [⟨none, .compound "reading" [⟨none, .var "X" 0⟩, ⟨none, .var "Z" 2⟩, ⟨some "again", .var "Z" 2⟩]⟩]⟩

/-- The third reading is the first under `1` whose other values are the same. -/
theorem retract_atomic_readings :
    (readings.session.facts.Ground ∧ ∀ a ∈ taking.args.head?, readings.bindings.Resolves a.value) ∧
    ∃ pattern fact m', readings.factOf taking = .ok pattern ∧ readings.Takes m' pattern fact ∧
      readings.retract taking [] = (.proceed true [], m') ∧ (m'.bindings.resolve (.var "Z" 2)).display = "6" ∧
      m'.session.facts.all.map Call.display =
        ["reading(2, 4, again: 4)", "reading(1, 4, again: 5)", "reading(1, 7, again: 7)"] := by
  have hground : readings.session.facts.Ground := by
    show ∀ c ∈ readings.session.facts.all, c.isGround = true
    decide
  have hresolves : ∀ a ∈ taking.args.head?, readings.bindings.Resolves a.value :=
    fun a _ => (Bindings.acyclic_of_slots (fun i => 3 - i) (by decide)).resolves a.value
  have hretract := retract_atomic readings taking [] hground hresolves
  have hleft : (readings.retract taking []).2.session.facts.all.map Call.display =
      ["reading(2, 4, again: 4)", "reading(1, 4, again: 5)", "reading(1, 7, again: 7)"] := by decide +kernel
  have hvalue : ((readings.retract taking []).2.bindings.resolve (.var "Z" 2)).display = "6" := by decide +kernel
  refine ⟨⟨hground, hresolves⟩, ?_⟩
  cases hp : readings.factOf taking with
  | error e => cases hp
  | ok pattern =>
    rw [hp] at hretract
    obtain ⟨-, ⟨fact, m', htakes, hm⟩ | ⟨-, hm⟩⟩ := hretract
    · rw [hm] at hleft hvalue
      exact ⟨pattern, fact, m', rfl, htakes, hm, hvalue, hleft⟩
    · rw [hm] at hleft
      exact absurd hleft (by decide +kernel)

end Remedy.Query
