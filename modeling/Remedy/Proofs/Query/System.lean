import Remedy.Proofs.Program.System
import Remedy.Proofs.Query.Resolution
/-!
# Proofs.Query.System — resolution in the system library

A call of a predicate of the system library has the answers of that predicate's rules, whichever module makes it
(`ofCall_of_place`, `ofCall_system`).  The rules of the library call nothing but each other, so such a call is a goal of
logic whatever else there is in the other modules (`logical_of_place`).
-/
namespace Remedy.Query

variable {l : Library} {props : String → Option Value} {owner index : Nat} {callee : Callee} {p : Predicate}

theorem rulesOf_system (h : p.InSystem index) (hl : l.module? 0 = some systemModule) :
    rulesOf l 0 index = p.clauses := by
  unfold rulesOf Library.predicate?
  rw [hl, Option.bind_some, h.getElem?_eq]
  rfl

/-- **Whoever calls a predicate of the system library** gets the answers that the library itself would get. -/
theorem ofCall_of_place (h : callee.place? owner = some (0, index)) (n : Nat) (goal : Call) (b : Bindings) :
    Answers.ofCall l props n owner callee goal b = Answers.ofCall l props n 0 (.own index) goal b := by
  cases callee with
  | own i | foreign _ i =>
    cases h
    cases n <;> rfl
  | facts _ | external _ | builtin _ => cases h

theorem ofCall_system (h : p.InSystem index) (hl : l.module? 0 = some systemModule) (n : Nat) (goal : Call)
    (b : Bindings) : Answers.ofCall l props (n + 1) 0 (.own index) goal b =
      (Answers.ofClauses (Answers.ofBody props (Answers.ofCall l props n)) 0 goal b p.clauses).closed := by
  rw [← rulesOf_system h hl]
  rfl

def staysHome : Goal Callee → Bool
  | .call (.own _) _ => true
  | .call _ _ => false
  | .not g => staysHome g
  | .cut | .unify _ _ | .is _ _ | .test _ => true

theorem isLogical_of_staysHome : ∀ {g : Goal Callee}, staysHome g = true → isLogical g = true
  | .call (.own _) _, _ | .cut, _ | .unify _ _, _ | .is _ _, _ | .test _, _ => rfl
  | .not g, h =>
    have hg : isLogical g = true := isLogical_of_staysHome h
    hg

theorem staysHome_systemPredicates :
    (systemPredicates.all fun p => p.clauses.all fun cl => cl.body.all staysHome) = true := rfl

/-- **The rules of the system library call nothing but each other.** -/
theorem staysHome_of_mem (hl : l.module? 0 = some systemModule) {cl : Clause Callee} {g : Goal Callee}
    (hc : cl ∈ rulesOf l 0 index) (hg : g ∈ cl.body) : staysHome g = true := by
  unfold rulesOf Library.predicate? at hc
  rw [hl, Option.bind_some, predicates_system] at hc
  cases hp : systemPredicates[index]? with
  | none =>
    rw [hp] at hc
    cases hc
  | some p =>
    rw [hp] at hc
    have hall := List.all_eq_true.1 staysHome_systemPredicates p (List.mem_of_getElem? hp)
    exact List.all_eq_true.1 (List.all_eq_true.1 hall cl hc) g hg

/-- What may come up when a predicate of the system library is called: the call, and goals of the library. -/
def AtHome (owner : Nat) (g : Goal Callee) : Prop :=
  (owner = 0 ∧ staysHome g = true) ∨ ∃ callee c index, g = .call callee c ∧ Callee.place? owner callee = some (0, index)

/-- **A call of a predicate of the system library is a goal of logic.** -/
theorem logical_of_place (hl : l.module? 0 = some systemModule) (h : callee.place? owner = some (0, index)) (c : Call) :
    Logical l owner (.call callee c) := by
  have hall : ∀ {owner g o k}, Reaches l owner g o k → AtHome owner g → isLogical k = true := by
    intro owner g o k hr
    induction hr with
    | refl owner g =>
      rintro (⟨-, hg⟩ | ⟨callee, c, index, rfl, hplace⟩)
      · exact isLogical_of_staysHome hg
      · cases callee with
        | own _ | foreign _ _ => rfl
        | facts _ | external _ | builtin _ => cases hplace
    | not _ ih =>
      rintro (⟨ho, hg⟩ | ⟨_, _, _, heq, -⟩)
      · exact ih (.inl ⟨ho, hg⟩)
      · cases heq
    | own hc hb _ ih =>
      rintro (⟨rfl, -⟩ | ⟨_, _, _, heq, hplace⟩)
      · exact ih (.inl ⟨rfl, staysHome_of_mem hl hc hb⟩)
      · cases heq
        cases hplace
        exact ih (.inl ⟨rfl, staysHome_of_mem hl hc hb⟩)
    | foreign hc hb _ ih =>
      rintro (⟨-, hg⟩ | ⟨_, _, _, heq, hplace⟩)
      · cases hg
      · cases heq
        cases hplace
        exact ih (.inl ⟨rfl, staysHome_of_mem hl hc hb⟩)
  exact fun o k hr => hall hr (.inr ⟨callee, c, index, rfl, h⟩)

def shelf : Engine Unit := ⟨⟨[systemModule, ⟨"shelf", [], [], .none⟩]⟩, .silent, .standard⟩

end Remedy.Query
