import Remedy.Proofs.Bindings.Undo
import Remedy.Query.Search
/-!
# Proofs.Query.Heads — the first rule or fact that fits

A call tries its rules in their order, each from the same bindings: what one of them has bound is undone before the
next.  So the first that fits is the first whose head unifies with the goal on its own (`firstClause_cases`,
`firstFact_cases`).
-/
namespace Remedy.Query

open Bindings (Extends)

/-- **What comes of unifying a goal with the head of a fresh copy of a rule.** -/
def headed (b : Bindings) (goal : Call) (cl : Clause Callee) : Bindings × Bool :=
  (b.allocate cl.vars.size).2.unifyCall goal (cl.head.offset b.size)

theorem extends_headed {b : Bindings} (hb : b.Sound) (goal : Call) (cl : Clause Callee) :
    Extends b (headed b goal cl).1 := by
  have hfresh : Extends b (b.allocate cl.vars.size).2 := Extends.refl.allocate _
  exact hfresh.trans (Bindings.extends_unifyCall (Extends.trans hb hfresh) goal _)

theorem firstClause_cons {b : Bindings} (hb : b.Sound) (goal : Call) (cl : Clause Callee)
    (rest : List (Clause Callee)) : firstClause goal b (cl :: rest) =
      if (headed b goal cl).2 then ((headed b goal cl).1, some (b.size, cl, rest)) else firstClause goal b rest := by
  have hundo : (headed b goal cl).1.rewind b.checkpoint = b := (extends_headed hb goal cl).rewind_eq
  rw [← congrArg (fun c => firstClause goal c rest) hundo]
  rfl

/-- **No rule fits, or the first that fits is taken.** -/
theorem firstClause_cases {b : Bindings} (hb : b.Sound) (goal : Call) : ∀ rules : List (Clause Callee),
    ((∀ cl ∈ rules, (headed b goal cl).2 = false) ∧ firstClause goal b rules = (b, none)) ∨
      ∃ skipped cl rest, rules = skipped ++ cl :: rest ∧ (∀ c ∈ skipped, (headed b goal c).2 = false) ∧
        (headed b goal cl).2 = true ∧ firstClause goal b rules = ((headed b goal cl).1, some (b.size, cl, rest))
  | [] => .inl ⟨List.forall_mem_nil _, rfl⟩
  | cl :: rest => by
    rw [firstClause_cons hb]
    by_cases h : (headed b goal cl).2 = true
    · rw [if_pos h]
      exact .inr ⟨[], cl, rest, rfl, List.forall_mem_nil _, h, rfl⟩
    · rw [if_neg h]
      have h : (headed b goal cl).2 = false := Bool.eq_false_iff.2 h
      rcases firstClause_cases hb goal rest with ⟨hall, hf⟩ | ⟨skipped, cl', rest', rfl, hs, ht, hf⟩
      · exact .inl ⟨List.forall_mem_cons.2 ⟨h, hall⟩, hf⟩
      · exact .inr ⟨cl :: skipped, cl', rest', rfl, List.forall_mem_cons.2 ⟨h, hs⟩, ht, hf⟩

theorem eq_of_firstClause_none {b b' : Bindings} (hb : b.Sound) {goal : Call} {rules : List (Clause Callee)}
    (h : firstClause goal b rules = (b', none)) : b' = b := by
  rcases firstClause_cases hb goal rules with ⟨-, hf⟩ | ⟨_, _, _, -, -, -, hf⟩
  · cases hf.symm.trans h
    rfl
  · cases hf.symm.trans h

theorem exists_of_firstClause_some {b b' : Bindings} (hb : b.Sound) {goal : Call} {rules rest : List (Clause Callee)}
    {base : Nat} {cl : Clause Callee} (h : firstClause goal b rules = (b', some (base, cl, rest))) :
    ∃ skipped, rules = skipped ++ cl :: rest ∧ base = b.size ∧ b' = (headed b goal cl).1 := by
  rcases firstClause_cases hb goal rules with ⟨-, hf⟩ | ⟨skipped, _, _, hrules, -, -, hf⟩
  · cases hf.symm.trans h
  · cases hf.symm.trans h
    exact ⟨skipped, hrules, rfl, rfl⟩

theorem firstFact_cons {b : Bindings} (hb : b.Sound) (goal fact : Call) (rest : List Call) :
    firstFact goal b (fact :: rest) =
      if (b.unifyCall goal fact).2 then ((b.unifyCall goal fact).1, some rest) else firstFact goal b rest := by
  have hundo : (b.unifyCall goal fact).1.rewind b.checkpoint = b := (Bindings.extends_unifyCall hb goal fact).rewind_eq
  rw [← congrArg (fun c => firstFact goal c rest) hundo]
  rfl

/-- **No fact fits, or the first that fits is taken.** -/
theorem firstFact_cases {b : Bindings} (hb : b.Sound) (goal : Call) : ∀ facts : List Call,
    ((∀ fact ∈ facts, (b.unifyCall goal fact).2 = false) ∧ firstFact goal b facts = (b, none)) ∨
      ∃ skipped fact rest, facts = skipped ++ fact :: rest ∧ (∀ f ∈ skipped, (b.unifyCall goal f).2 = false) ∧
        (b.unifyCall goal fact).2 = true ∧ firstFact goal b facts = ((b.unifyCall goal fact).1, some rest)
  | [] => .inl ⟨List.forall_mem_nil _, rfl⟩
  | fact :: rest => by
    rw [firstFact_cons hb]
    by_cases h : (b.unifyCall goal fact).2 = true
    · rw [if_pos h]
      exact .inr ⟨[], fact, rest, rfl, List.forall_mem_nil _, h, rfl⟩
    · rw [if_neg h]
      have h : (b.unifyCall goal fact).2 = false := Bool.eq_false_iff.2 h
      rcases firstFact_cases hb goal rest with ⟨hall, hf⟩ | ⟨skipped, fact', rest', rfl, hs, ht, hf⟩
      · exact .inl ⟨List.forall_mem_cons.2 ⟨h, hall⟩, hf⟩
      · exact .inr ⟨fact :: skipped, fact', rest', rfl, List.forall_mem_cons.2 ⟨h, hs⟩, ht, hf⟩

theorem eq_of_firstFact_none {b b' : Bindings} (hb : b.Sound) {goal : Call} {facts : List Call}
    (h : firstFact goal b facts = (b', none)) : b' = b := by
  rcases firstFact_cases hb goal facts with ⟨-, hf⟩ | ⟨_, _, _, -, -, -, hf⟩
  · cases hf.symm.trans h
    rfl
  · cases hf.symm.trans h

theorem exists_of_firstFact_some {b b' : Bindings} (hb : b.Sound) {goal : Call} {facts rest : List Call}
    (h : firstFact goal b facts = (b', some rest)) :
    ∃ skipped fact, facts = skipped ++ fact :: rest ∧ b' = (b.unifyCall goal fact).1 := by
  rcases firstFact_cases hb goal facts with ⟨-, hf⟩ | ⟨skipped, fact, _, hfacts, -, -, hf⟩
  · cases hf.symm.trans h
  · cases hf.symm.trans h
    exact ⟨skipped, fact, hfacts, rfl⟩

end Remedy.Query
