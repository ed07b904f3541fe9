import Remedy.Proofs.Program.Contracts
/-!
# Proofs.Program.Library — a call means the same when more modules have come

A library is built by compiling one module after the other against the modules so far.  A module names those that it
imports by their places, and modules that come later have later places, so what a name in its rules stands for stays
what it was when they were compiled (`resolve?_add`).  Only the first module of all is compiled while there is no
system library and becomes one itself; a name that the system library has is then a name of its own.  So the rules of
all modules of the library keep the contracts of what they call, as the library is now (`Library.Built.lawful`).
-/
namespace Remedy

/-- **The library has been built by compiling**, each module against those before it, which are all that it imports. -/
inductive Library.Built : Library → Prop
  | empty : Built ⟨[]⟩
  | add {l : Library} {name : String} {provider : Provider} {rules : List RuleText} {m : RuleModule} (h : Built l)
    (hi : ∀ id ∈ provider.imports, id < l.modules.length) (hm : RuleModule.compile l name provider rules = .ok m) :
    Built (l.add m).1

/-! ## The rules of a predicate do not matter to those who call it -/

/-- **Compiling the rules of predicates changes nothing of what names stand for.** -/
theorem Scope.resolve?_clauses {l : Library} {ps : List Predicate} {overrides : List (String × Contract)}
    {provider : Provider} (clauses : Predicate → List (Clause Callee)) :
    (⟨l, ps.map fun p => { p with clauses := clauses p }, overrides, provider⟩ : Scope).resolve? =
      (⟨l, ps, overrides, provider⟩ : Scope).resolve? := by
  have hown : ∀ name, (⟨l, ps.map fun p => { p with clauses := clauses p }, overrides, provider⟩ : Scope).own? name =
      (⟨l, ps, overrides, provider⟩ : Scope).own? name := by
    intro name
    unfold own?
    simp only [List.findIdx?_map, List.find?_map, Function.comp_def]
    cases ps.findIdx? (·.name == name) <;> cases ps.find? (·.name == name) <;> rfl
  funext name
  unfold resolve?
  rw [hown]
  rfl

theorem lawful_compile {l : Library} {name : String} {provider : Provider} {rules : List RuleText} {m : RuleModule}
    (h : RuleModule.compile l name provider rules = .ok m) : m.Lawful l := by
  obtain ⟨declared, compiled, rfl, hall⟩ := compile_eq_ok h
  intro p hp c hc
  obtain ⟨p₀, -, rfl⟩ := List.mem_map.1 hp
  obtain ⟨c₀, hread, hcomp⟩ := hall c (List.mem_filter.1 hc).1
  unfold RuleModule.scope
  rw [Scope.resolve?_clauses]
  exact Scope.lawful_compileClause hread hcomp

/-! ## One more module -/

namespace Library

variable {l : Library} {m m' : RuleModule}

theorem module?_add {id : Nat} (h : id < l.modules.length) : (l.add m').1.module? id = l.module? id :=
  List.getElem?_append_left h

theorem findImport_add {name : String} : ∀ {ids : List Nat}, (∀ id ∈ ids, id < l.modules.length) →
    Provider.findImport (l.add m').1 name ids = Provider.findImport l name ids
  | [], _ => rfl
  | id :: rest, h => by
    obtain ⟨hid, hrest⟩ := List.forall_mem_cons.1 h
    rw [Provider.findImport, Provider.findImport, module?_add hid, findImport_add hrest]

theorem mem_of_findImport {name : String} {owner index : Nat} : ∀ {ids : List Nat},
    Provider.findImport l name ids = .rules owner index → owner ∈ ids
  | [], h => nomatch h
  | id :: rest, h => by
    unfold Provider.findImport at h
    split at h
    · cases h
      exact List.mem_cons_self
    · exact List.mem_cons_of_mem _ (mem_of_findImport h)

theorem foreign_add {owner index : Nat} (h : owner < l.modules.length) :
    (m.scope (l.add m').1).foreign owner index = (m.scope l).foreign owner index := by
  have hp : (l.add m').1.predicate? owner index = l.predicate? owner index := by
    unfold predicate?
    rw [module?_add h]
  unfold Scope.foreign RuleModule.scope
  rw [hp]

theorem provided?_add (hi : ∀ id ∈ m.provider.imports, id < l.modules.length) (name : String) :
    (m.scope (l.add m').1).provided? name = (m.scope l).provided? name := by
  have hlookup : m.provider.lookup (l.add m').1 name = m.provider.lookup l name := by
    unfold Provider.lookup
    rw [findImport_add hi]
  have hforeign : ∀ owner index, m.provider.lookup l name = .rules owner index → owner < l.modules.length := by
    intro owner index h
    unfold Provider.lookup at h
    split at h
    · cases h
    · cases h
    · exact hi owner (mem_of_findImport h)
  have hl : (m.scope (l.add m').1).provider.lookup (m.scope (l.add m').1).library name = m.provider.lookup l name :=
    hlookup
  have hl' : (m.scope l).provider.lookup (m.scope l).library name = m.provider.lookup l name := rfl
  unfold Scope.provided?
  rw [hl, hl']
  generalize m.provider.lookup l name = found at hforeign
  cases found with
  | rules owner index =>
    simp only
    rw [foreign_add (hforeign owner index rfl)]
    rfl
  | found _ | notApplicable | notFound => rfl

theorem index?_eq_none {name : String} (h : (m.scope l).own? name = none) : m.index? name = none := by
  unfold Scope.own? RuleModule.scope at h
  refine Option.eq_none_iff_forall_ne_some.2 fun i hi => ?_
  have hi : m.predicates.findIdx? (·.name == name) = some i := hi
  obtain ⟨hlt, hname, -⟩ := List.findIdx?_eq_some_iff_getElem.1 hi
  have hfind : (m.predicates.find? (·.name == name)).isSome :=
    List.find?_isSome.2 ⟨_, List.getElem_mem hlt, hname⟩
  obtain ⟨p, hp⟩ := Option.isSome_iff_exists.1 hfind
  simp only [hi, hp] at h
  cases h

theorem system?_add (h : l.modules ≠ [] ∨ m' = m) {name : String} (hown : (m.scope l).own? name = none) :
    (m.scope (l.add m').1).system? name = (m.scope l).system? name := by
  by_cases hl : l.modules = []
  · -- the module is the first of all: it becomes the system library, but the name is not its own
    obtain rfl : m' = m := h.resolve_left fun hne => hne hl
    have hbefore : l.module? 0 = none := by
      unfold module?
      rw [hl]
      rfl
    have hafter : (l.add m').1.module? 0 = some m' := by
      unfold module? add
      rw [hl]
      rfl
    have hpublic : m'.public? name = none := by
      unfold RuleModule.public?
      rw [index?_eq_none hown]
      rfl
    unfold Scope.system? RuleModule.scope
    simp only [hbefore, hafter, Option.bind_some, Option.bind_none, hpublic, Option.map_none]
  · have hpos : 0 < l.modules.length := List.length_pos_iff.2 hl
    have hmodule : (m.scope (l.add m').1).library.module? 0 = (m.scope l).library.module? 0 := module?_add hpos
    unfold Scope.system?
    rw [hmodule]
    simp only [foreign_add hpos]

/-- **A name stands for the same when another module comes**, in a module that imports what is there already. -/
theorem resolve?_add (hi : ∀ id ∈ m.provider.imports, id < l.modules.length) (h : l.modules ≠ [] ∨ m' = m) :
    (m.scope (l.add m').1).resolve? = (m.scope l).resolve? := by
  funext name
  have hsame : (m.scope (l.add m').1).own? name = (m.scope l).own? name := rfl
  unfold Scope.resolve?
  rw [hsame, provided?_add hi]
  cases hown : (m.scope l).own? name with
  | some r => rfl
  | none => rw [system?_add h hown]

theorem lawful_add (hi : ∀ id ∈ m.provider.imports, id < l.modules.length) (h : l.modules ≠ [] ∨ m' = m)
    (hm : m.Lawful l) : m.Lawful (l.add m').1 := by
  unfold RuleModule.Lawful
  rw [resolve?_add hi h]
  exact hm

/-! ## The library -/

theorem Built.imports_lt (h : l.Built) : ∀ m ∈ l.modules, ∀ id ∈ m.provider.imports, id < l.modules.length := by
  induction h with
  | empty => exact List.forall_mem_nil _
  | @add l name provider rules m _ hi hm ih =>
    have hlen : (l.add m).1.modules.length = l.modules.length + 1 := List.length_append
    rw [hlen]
    refine List.forall_mem_append.2 ⟨fun m' hm' id hid => Nat.lt_succ_of_lt (ih m' hm' id hid), ?_⟩
    obtain ⟨declared, compiled, rfl, -⟩ := compile_eq_ok hm
    exact List.forall_mem_singleton.2 fun id hid => Nat.lt_succ_of_lt (hi id hid)

/-- **The rules of every module keep the contracts of what they call**, as the library is now. -/
theorem Built.lawful (h : l.Built) : ∀ m ∈ l.modules, m.Lawful l := by
  induction h with
  | empty => exact List.forall_mem_nil _
  | @add l name provider rules m hl hi hm ih =>
    refine List.forall_mem_append.2 ⟨fun m' hm' => ?_, List.forall_mem_singleton.2 ?_⟩
    · exact lawful_add (hl.imports_lt m' hm') (.inl (List.ne_nil_of_mem hm')) (ih m' hm')
    · have hlawful := lawful_compile hm
      obtain ⟨declared, compiled, rfl, -⟩ := compile_eq_ok hm
      exact lawful_add hi (.inr rfl) hlawful

theorem Built.compiled (h : l.Built) : l.Compiled := by
  induction h with
  | empty => exact List.forall_mem_nil _
  | add _ _ hm ih => exact List.forall_mem_append.2 ⟨ih, List.forall_mem_singleton.2 (.inr ⟨_, _, _, _, hm⟩)⟩

end Library

end Remedy
