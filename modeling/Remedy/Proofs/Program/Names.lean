import Remedy.Proofs.Program.Library
/-!
# Proofs.Program.Names — what a name stands for

A name in the rules of a module is that of the module's own predicate, if there is one; else that of a registered
predicate of the application; else that of the first module among the imports in which it is public; else that of a
built-in; else that of a public predicate of the system library (`RuleModule.Means`).  A predicate that is declared to be
dynamic is called by its name, any other by its place in its module.  Every call of a library that has been built is
resolved in this way, at whatever depth it stands in its rule (`Library.Built.means`).
-/
namespace Remedy

def Provider.entry? (p : Provider) (name : String) : Option Entry := (p.entries.find? (·.1 == name)).map (·.2)

def Library.public? (l : Library) (id : Nat) (name : String) : Option Nat := (l.module? id).bind (·.public? name)

/-- How a predicate of another module is called: by its name if its facts are asserted, else by its place. -/
def Predicate.calledFrom (p : Predicate) (owner index : Nat) : Callee :=
  if p.kind = .dynamic then .facts p.name else .foreign owner index

/-- **What a name stands for in the rules of a module.** -/
inductive RuleModule.Means (l : Library) (m : RuleModule) (name : String) : Callee → Prop
  | own {i : Nat} {p : Predicate} (hi : m.index? name = some i) (hp : m.predicates[i]? = some p) (hk : p.kind = .rules) :
    Means l m name (.own i)
  | asserted {i : Nat} {p : Predicate} (hi : m.index? name = some i) (hp : m.predicates[i]? = some p)
    (hk : p.kind = .dynamic) : Means l m name (.facts name)
  | registered {e : External} (ho : m.index? name = none) (he : m.provider.entry? name = some (.predicate e)) :
    Means l m name (.external e)
  | imported {before after : List Nat} {id i : Nat} {p : Predicate} (ho : m.index? name = none)
    (he : m.provider.entry? name = none) (hm : m.provider.imports = before ++ id :: after)
    (hb : ∀ id' ∈ before, l.public? id' name = none) (hi : l.public? id name = some i)
    (hp : l.predicate? id i = some p) : Means l m name (p.calledFrom id i)
  | builtin {b : Builtin} (ho : m.index? name = none) (he : m.provider.entry? name = none)
    (hm : ∀ id ∈ m.provider.imports, l.public? id name = none) (hb : Builtin.ofName? name = some b) :
    Means l m name (.builtin b)
  | system {i : Nat} {p : Predicate} (ho : m.index? name = none) (he : m.provider.entry? name = none)
    (hm : ∀ id ∈ m.provider.imports, l.public? id name = none) (hb : Builtin.ofName? name = none)
    (hi : l.public? 0 name = some i) (hp : l.predicate? 0 i = some p) : Means l m name (p.calledFrom 0 i)

def Lookup.isNotApplicable : Lookup → Bool
  | .notApplicable => true
  | .found _ | .rules _ _ | .notFound => false

/-! ## Places -/

namespace RuleModule

variable {m : RuleModule} {l : Library} {name : String}

/-- **The predicate at the place of a name** has that name, and no other before it does. -/
theorem index?_eq_some {i : Nat} : m.index? name = some i ↔
    (∃ p, m.predicates[i]? = some p ∧ p.name = name) ∧ ∀ j q, j < i → m.predicates[j]? = some q → q.name ≠ name := by
  unfold index?
  rw [List.findIdx?_eq_some_iff_getElem]
  constructor
  · rintro ⟨hlt, hname, hbefore⟩
    refine ⟨⟨_, List.getElem?_eq_getElem hlt, eq_of_beq hname⟩, fun j q hj hq hqn => ?_⟩
    obtain ⟨hjlt, rfl⟩ := List.getElem?_eq_some_iff.1 hq
    exact hbefore j hj (beq_iff_eq.2 hqn)
  · rintro ⟨⟨p, hp, hname⟩, hbefore⟩
    obtain ⟨hlt, rfl⟩ := List.getElem?_eq_some_iff.1 hp
    refine ⟨hlt, beq_iff_eq.2 hname, fun j hj hjn => ?_⟩
    exact hbefore j _ hj (List.getElem?_eq_getElem (Nat.lt_trans hj hlt)) (eq_of_beq hjn)

theorem predicate_of_index? {i : Nat} (h : m.index? name = some i) : ∃ p, m.predicates[i]? = some p ∧ p.name = name :=
  (index?_eq_some.1 h).1

theorem find?_of_index? : ∀ {ps : List Predicate} {i : Nat} {p : Predicate}, ps.findIdx? (·.name == name) = some i →
    ps[i]? = some p → ps.find? (·.name == name) = some p
  | [], _, _, h, _ => nomatch h
  | q :: ps, i, p, h, hp => by
    rw [List.findIdx?_cons] at h
    split at h
    · rename_i hq
      cases h
      cases hp
      exact List.find?_cons_of_pos hq
    · rename_i hq
      obtain ⟨j, hj, rfl⟩ := Option.map_eq_some_iff.1 h
      rw [List.find?_cons, Bool.eq_false_iff.2 hq]
      exact find?_of_index? hj hp

/-- **A name of the module's own** stands for the predicate at its place. -/
theorem own?_eq (m : RuleModule) (l : Library) (name : String) : (m.scope l).own? name =
    (m.index? name).bind fun i => (m.predicates[i]?).map fun p =>
      .callee (if p.kind = .dynamic then .facts p.name else .own i) p.contract none := by
  unfold Scope.own?
  have hindex : (m.scope l).predicates.findIdx? (·.name == name) = m.index? name := rfl
  rw [hindex]
  cases hi : m.index? name with
  | none => rfl
  | some i =>
    obtain ⟨p, hp, -⟩ := predicate_of_index? hi
    have hfind : (m.scope l).predicates.find? (·.name == name) = some p := find?_of_index? hi hp
    rw [hfind, Option.bind_some, hp]
    rfl

theorem own?_eq_none : (m.scope l).own? name = none ↔ m.index? name = none := by
  rw [own?_eq]
  refine ⟨fun h => ?_, fun h => by rw [h]; rfl⟩
  cases hi : m.index? name with
  | none => rfl
  | some i =>
    obtain ⟨p, hp, -⟩ := predicate_of_index? hi
    rw [hi, Option.bind_some, hp] at h
    cases h

theorem public?_eq_some {i : Nat} (h : m.public? name = some i) :
    ∃ p, m.predicates[i]? = some p ∧ p.name = name ∧ p.isPublic = true := by
  obtain ⟨hi, hpublic⟩ := Option.filter_eq_some_iff.1 h
  obtain ⟨p, hp, hname⟩ := predicate_of_index? hi
  rw [hp, Option.any_some] at hpublic
  exact ⟨p, hp, hname, hpublic⟩

end RuleModule

namespace Library

variable {l : Library} {m : RuleModule} {name : String}

/-- **A public name of a module of the library** is that of a public predicate. -/
theorem public?_eq_some {id i : Nat} (h : l.public? id name = some i) :
    ∃ p, l.predicate? id i = some p ∧ p.name = name ∧ p.isPublic = true := by
  obtain ⟨q, hq, hi⟩ := Option.bind_eq_some_iff.1 h
  obtain ⟨p, hp, hname, hpublic⟩ := RuleModule.public?_eq_some hi
  exact ⟨p, by rw [predicate?, hq, Option.bind_some, hp], hname, hpublic⟩

/-- **The module that is found among the imports** is the first in which the name is public. -/
theorem findImport_eq_rules {owner index : Nat} : ∀ {ids : List Nat},
    Provider.findImport l name ids = .rules owner index → ∃ before after, ids = before ++ owner :: after ∧
      (∀ id ∈ before, l.public? id name = none) ∧ l.public? owner name = some index
  | [], h => nomatch h
  | id :: rest, h => by
    rw [Provider.findImport] at h
    split at h
    · rename_i i hi
      cases h
      exact ⟨[], rest, rfl, List.forall_mem_nil _, hi⟩
    · rename_i hi
      obtain ⟨before, after, rfl, hbefore, hindex⟩ := findImport_eq_rules h
      exact ⟨id :: before, after, rfl, List.forall_mem_cons.2 ⟨hi, hbefore⟩, hindex⟩

theorem findImport_eq_notFound : ∀ {ids : List Nat}, Provider.findImport l name ids = .notFound →
    ∀ id ∈ ids, l.public? id name = none
  | [], _ => List.forall_mem_nil _
  | id :: rest, h => by
    rw [Provider.findImport] at h
    split at h
    · cases h
    · rename_i hi
      exact List.forall_mem_cons.2 ⟨hi, findImport_eq_notFound h⟩

theorem findImport_cases (l : Library) (name : String) : ∀ ids : List Nat,
    Provider.findImport l name ids = .notFound ∨ ∃ owner index, Provider.findImport l name ids = .rules owner index
  | [] => .inl rfl
  | id :: rest => by
    rw [Provider.findImport]
    split
    · exact .inr ⟨_, _, rfl⟩
    · exact findImport_cases l name rest

end Library

/-! ## Names -/

namespace RuleModule

variable {m : RuleModule} {l : Library} {name : String}

theorem foreign_of_public? {owner index : Nat} (h : l.public? owner name = some index) :
    ∃ p, l.predicate? owner index = some p ∧ (m.scope l).foreign owner index = (p.calledFrom owner index, p.contract) := by
  obtain ⟨p, hp, -⟩ := Library.public?_eq_some h
  refine ⟨p, hp, ?_⟩
  have hp' : (m.scope l).library.predicate? owner index = some p := hp
  unfold Scope.foreign
  rw [hp']
  rfl

theorem lookup_eq (p : Provider) (l : Library) (name : String) : p.lookup l name =
    match p.entry? name with
    | some (.predicate e) => .found e
    | some .notApplicable => .notApplicable
    | none => Provider.findImport l name p.imports := by
  unfold Provider.lookup Provider.entry?
  generalize p.entries.find? (·.1 == name) = found
  rcases found with _ | ⟨n, e | _⟩ <;> rfl

theorem means_of_own? {callee : Callee} {contract : Contract} {arity : Option (Nat × Option Nat)}
    (h : (m.scope l).own? name = some (.callee callee contract arity)) : m.Means l name callee := by
  rw [own?_eq] at h
  obtain ⟨i, hi, h⟩ := Option.bind_eq_some_iff.1 h
  obtain ⟨p, hp, hname⟩ := predicate_of_index? hi
  rw [hp, Option.map_some] at h
  cases hk : p.kind with
  | rules =>
    rw [hk, if_neg PredicateKind.noConfusion] at h
    cases h
    exact .own hi hp hk
  | dynamic =>
    rw [hk, if_pos rfl, hname] at h
    cases h
    exact .asserted hi hp hk

theorem means_of_provided? (ho : m.index? name = none) {callee : Callee} {contract : Contract}
    {arity : Option (Nat × Option Nat)} (h : (m.scope l).provided? name = some (.callee callee contract arity)) :
    m.Means l name callee := by
  unfold Scope.provided? at h
  have hlookup : (m.scope l).provider.lookup (m.scope l).library name = m.provider.lookup l name := rfl
  rw [hlookup, lookup_eq] at h
  cases he : m.provider.entry? name with
  | some entry =>
    rw [he] at h
    cases entry with
    | predicate e =>
      cases h
      exact .registered ho he
    | notApplicable => cases h
  | none =>
    rw [he] at h
    rcases Library.findImport_cases l name m.provider.imports with hfound | ⟨owner, index, hfound⟩
    · simp only [hfound] at h
      cases h
    · obtain ⟨before, after, himports, hbefore, hpublic⟩ := Library.findImport_eq_rules hfound
      obtain ⟨p, hp, hforeign⟩ := foreign_of_public? (m := m) hpublic
      simp only [hfound, hforeign] at h
      cases h
      exact .imported ho he himports hbefore hpublic hp

theorem unknown_of_provided? (h : (m.scope l).provided? name = none) :
    m.provider.entry? name = none ∧ ∀ id ∈ m.provider.imports, l.public? id name = none := by
  unfold Scope.provided? at h
  have hlookup : (m.scope l).provider.lookup (m.scope l).library name = m.provider.lookup l name := rfl
  rw [hlookup, lookup_eq] at h
  cases he : m.provider.entry? name with
  | some entry =>
    rw [he] at h
    cases entry <;> cases h
  | none =>
    rw [he] at h
    rcases Library.findImport_cases l name m.provider.imports with hfound | ⟨owner, index, hfound⟩
    · exact ⟨rfl, Library.findImport_eq_notFound hfound⟩
    · simp only [hfound] at h
      cases h

/-- **A name stands for what it is resolved to.** -/
theorem means_of_resolve? {callee : Callee} {contract : Contract} {arity : Option (Nat × Option Nat)}
    (h : (m.scope l).resolve? name = some (.callee callee contract arity)) : m.Means l name callee := by
  unfold Scope.resolve? at h
  simp only [Option.orElse_eq_or, Option.or_eq_some_iff] at h
  rcases h with h | ⟨hown, h⟩
  · exact means_of_own? h
  have ho := own?_eq_none.1 hown
  rcases h with h | ⟨hprovided, h⟩
  · exact means_of_provided? ho h
  obtain ⟨he, hm⟩ := unknown_of_provided? hprovided
  rcases h with h | ⟨hbuiltin, h⟩
  · obtain ⟨b, hb, heq⟩ := Option.map_eq_some_iff.1 h
    cases heq
    exact .builtin ho he hm hb
  · obtain ⟨i, hi, heq⟩ := Option.map_eq_some_iff.1 h
    have hi : l.public? 0 name = some i := hi
    obtain ⟨p, hp, hforeign⟩ := foreign_of_public? (m := m) hi
    rw [hforeign] at heq
    cases heq
    exact .system ho he hm (Option.map_eq_none_iff.1 hbuiltin) hi hp

/-- **A name is not applicable** if and only if the application says so, and the module has no predicate of that name. -/
theorem any_isNotApplicable (m : RuleModule) (l : Library) (name : String) :
    ((m.scope l).resolve? name).any Resolution.isNotApplicable =
      ((m.index? name).isNone && (m.provider.lookup l name).isNotApplicable) := by
  unfold Scope.resolve?
  cases hown : (m.scope l).own? name with
  | some r =>
    have hindex : m.index? name ≠ none := fun h => by
      rw [own?_eq_none.2 h] at hown
      cases hown
    rw [own?_eq] at hown
    obtain ⟨i, hi, h⟩ := Option.bind_eq_some_iff.1 hown
    obtain ⟨p, -, rfl⟩ := Option.map_eq_some_iff.1 h
    rw [hi]
    rfl
  | none =>
    rw [own?_eq_none.1 hown, Option.isNone_none, Bool.true_and, Option.orElse_none]
    unfold Scope.provided?
    have hlookup : (m.scope l).provider.lookup (m.scope l).library name = m.provider.lookup l name := rfl
    rw [hlookup]
    cases m.provider.lookup l name with
    | found e => rfl
    | rules owner index => rfl
    | notApplicable => rfl
    | notFound =>
      rw [Option.orElse_none]
      unfold Scope.builtin? Scope.system?
      cases Builtin.ofName? name with
      | some b => rfl
      | none =>
        cases ((m.scope l).library.module? 0).bind (·.public? name) <;> rfl

theorem Means.place {callee : Callee} (h : m.Means l name callee) :
    (∀ i, callee = .own i → ∃ p, m.predicates[i]? = some p ∧ p.name = name ∧ p.kind = .rules) ∧
      ∀ owner i, callee = .foreign owner i → ∃ p, l.predicate? owner i = some p ∧ p.name = name ∧ p.isPublic = true := by
  have hforeign : ∀ {p : Predicate} {id j : Nat}, l.public? id name = some j → l.predicate? id j = some p →
      (∀ i, p.calledFrom id j = .own i → ∃ p, m.predicates[i]? = some p ∧ p.name = name ∧ p.kind = .rules) ∧
        ∀ owner i, p.calledFrom id j = .foreign owner i →
          ∃ p, l.predicate? owner i = some p ∧ p.name = name ∧ p.isPublic = true := by
    intro p id j hj hp
    obtain ⟨q, hq, hname, hpublic⟩ := Library.public?_eq_some hj
    unfold Predicate.calledFrom
    split
    · exact ⟨(fun _ h => nomatch h), fun _ _ h => nomatch h⟩
    · refine ⟨(fun _ h => nomatch h), fun owner i h => ?_⟩
      cases h
      exact ⟨q, hq, hname, hpublic⟩
  cases h with
  | own hi hp hk =>
    refine ⟨fun i h => ?_, fun _ _ h => nomatch h⟩
    cases h
    obtain ⟨q, hq, hname⟩ := predicate_of_index? hi
    cases hp.symm.trans hq
    exact ⟨_, hp, hname, hk⟩
  | asserted hi hp hk => exact ⟨(fun _ h => nomatch h), fun _ _ h => nomatch h⟩
  | registered ho he => exact ⟨(fun _ h => nomatch h), fun _ _ h => nomatch h⟩
  | imported ho he hm hb hi hp => exact hforeign hi hp
  | builtin ho he hm hb => exact ⟨(fun _ h => nomatch h), fun _ _ h => nomatch h⟩
  | system ho he hm hb hi hp => exact hforeign hi hp

end RuleModule

/-! ## Calls -/

theorem Goal.Lawful.means {m : RuleModule} {l : Library} {mentioned : List (String × Nat)} {callee : Callee} {call : Call} :
    ∀ {g : Goal Callee}, g.Lawful (m.scope l).resolve? mentioned → g.call? = some (callee, call) →
      m.Means l call.functor callee
  | .call _ _, ⟨_, _, hr, _⟩, hc => by
    cases hc
    exact RuleModule.means_of_resolve? hr
  | .not g, h, hc => means (g := g) h hc
  | .cut, _, hc | .unify _ _, _, hc | .is _ _, _, hc | .test _, _, hc => nomatch hc

theorem LawfulAll.means {m : RuleModule} {l : Library} {callee : Callee} {call : Call} :
    ∀ {gs : List (Goal Callee)} {mentioned : List (String × Nat)}, LawfulAll (m.scope l).resolve? mentioned gs →
      ∀ g ∈ gs, g.call? = some (callee, call) → m.Means l call.functor callee
  | [], _, _ => List.forall_mem_nil _
  | _ :: _, _, ⟨hg, hrest⟩ => List.forall_mem_cons.2 ⟨hg.means, hrest.means⟩

/-- **Every call of every rule is resolved** to what its name stands for in the module of the rule, at whatever depth it
stands. -/
theorem Library.Built.means {l : Library} (h : l.Built) {m : RuleModule} (hm : m ∈ l.modules) {p : Predicate}
    (hp : p ∈ m.predicates) {c : Clause Callee} (hc : c ∈ p.clauses) {g : Goal Callee} (hg : g ∈ c.body)
    {callee : Callee} {call : Call} (hcall : g.call? = some (callee, call)) : m.Means l call.functor callee :=
  (h.lawful m hm p hp c hc).means g hg hcall

/-! ## Modules that call the system library

A module knows a predicate of the system library if its name leads there and nothing is asked of the arguments
(`RuleModule.Knows`).  So it is in every module in which the name has no other meaning (`knows_of_unknown`), and in the
system library itself (`knows_system`).
-/

/-- The place of the predicate that a callee is, in the library; the caller stands in the module `owner`. -/
def Callee.place? (owner : Nat) : Callee → Option (Nat × Nat)
  | .own index => some (owner, index)
  | .foreign owner index => some (owner, index)
  | .facts _ | .external _ | .builtin _ => none

/-- **The predicate is made of rules, has no contract, and stands at a place of the system library** to which its name
leads. -/
structure Predicate.InSystem (p : Predicate) (index : Nat) : Prop where
  index?_eq : systemModule.index? p.name = some index
  getElem?_eq : systemModule.predicates[index]? = some p
  rules : p.kind = .rules
  bare : p.contract = []

namespace RuleModule

variable {l : Library} {m : RuleModule} {owner index : Nat} {p : Predicate}

/-- **In a module a name stands for a predicate of the system library**, and nothing is asked of its arguments. -/
def Knows (l : Library) (owner : Nat) (m : RuleModule) (name : String) (index : Nat) : Prop :=
  ∃ callee, (m.scope l).resolve? name = some (.callee callee [] none) ∧ callee.place? owner = some (0, index)

/-- **A name is known where it has no other meaning**, neither in the module nor from its provider nor in the
language. -/
theorem knows_of_unknown (h : p.InSystem index) (hpublic : p.isPublic = true) (hl : l.module? 0 = some systemModule)
    (ho : m.index? p.name = none) (hp : (m.scope l).provided? p.name = none)
    (hb : Scope.builtin? p.name = none) : m.Knows l owner p.name index := by
  have hzero : (m.scope l).library.module? 0 = some systemModule := hl
  have hindex : systemModule.public? p.name = some index := by
    unfold public?
    rw [h.index?_eq, Option.filter_some, h.getElem?_eq, Option.any_some, hpublic, if_pos rfl]
  have hforeign : (m.scope l).foreign 0 index = (.foreign 0 index, []) := by
    have hpredicate : (m.scope l).library.predicate? 0 index = some p := by
      unfold Library.predicate?
      rw [hzero, Option.bind_some, h.getElem?_eq]
    have hkind : ¬p.kind = .dynamic := fun heq => by
      rw [h.rules] at heq
      cases heq
    unfold Scope.foreign
    rw [hpredicate]
    exact Prod.ext (if_neg hkind) h.bare
  have hsystem : (m.scope l).system? p.name = some (.callee (.foreign 0 index) [] none) := by
    unfold Scope.system?
    rw [hzero, Option.bind_some, hindex, Option.map_some, hforeign]
  refine ⟨.foreign 0 index, ?_, rfl⟩
  unfold Scope.resolve?
  rw [own?_eq_none.2 ho, hp, hb, hsystem]
  rfl

/-- **A name is known in the system library itself**, also if it is not public. -/
theorem knows_system (h : p.InSystem index) : systemModule.Knows l 0 p.name index := by
  have hkind : ¬p.kind = .dynamic := fun heq => by
    rw [h.rules] at heq
    cases heq
  refine ⟨.own index, ?_, rfl⟩
  unfold Scope.resolve?
  rw [own?_eq, h.index?_eq, Option.bind_some, h.getElem?_eq, Option.map_some, if_neg hkind, h.bare]
  rfl

/-- **A goal whose functor is known** is a call of the predicate. -/
theorem resolveGoal_of_knows {c : Call} (h : m.Knows l owner c.functor index) :
    ∃ callee, m.resolveGoal l c = .ok (.call callee c) ∧ callee.place? owner = some (0, index) := by
  obtain ⟨callee, hr, hplace⟩ := h
  refine ⟨callee, ?_, hplace⟩
  have hr : (⟨l, m.predicates, m.overrides, m.provider⟩ : Scope).resolve? c.functor =
      some (.callee callee [] none) := hr
  unfold resolveGoal Scope.compileCall
  simp only [hr]
  rfl

end RuleModule

end Remedy
