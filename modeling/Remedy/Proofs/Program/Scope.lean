import Remedy.Program.System
import Remedy.Proofs.Program.Reading
import Remedy.Proofs.Term.Variables
/-!
# Proofs.Program.Scope — the variables of a rule are those of its table

Every variable of a rule that has been read has its name in the rule's table.  So the slots of the rule lie below the
size of its table, and compiling changes no terms: all rules of a compiled module are in scope (`scoped_compile`), the
system library among them.
-/
namespace Remedy

def Goal.span {γ : Type} : Goal γ → Nat
  | .call _ c => c.span
  | .cut => 0
  | .unify a b => max a.span b.span
  | .is t _ => t.span
  | .test _ => 0
  | .not g => g.span

/-- **The slots of the rule are those of its table.** -/
structure Clause.Scoped {γ : Type} (c : Clause γ) : Prop where
  head_le : c.head.span ≤ c.vars.size
  body_le : ∀ g ∈ c.body, g.span ≤ c.vars.size

def RuleModule.Scoped (m : RuleModule) : Prop := ∀ p ∈ m.predicates, ∀ c ∈ p.clauses, c.Scoped

/-! ## Rules as they are read -/

theorem Goal.span_le_iff {γ : Type} {n : Nat} : ∀ {g : Goal γ}, g.span ≤ n ↔ ∀ v ∈ g.mentions, v.2 < n
  | .call _ _ => Call.span_le_iff
  | .cut | .test _ => ⟨(fun _ _ h => nomatch h), fun _ => Nat.zero_le _⟩
  | .unify a b => by
    rw [span, Nat.max_le, mentions, List.forall_mem_append]
    exact and_congr Term.span_le_iff Term.span_le_iff
  | .is _ _ => Term.span_le_iff
  | .not g => span_le_iff (g := g)

theorem span_le_of_readsAll {γ : Type} : ∀ {gs : List (Goal γ)} {vars vars' : VarTable},
    ReadsAll vars gs vars' → ∀ g ∈ gs, g.span ≤ vars'.size
  | [], _, _, _ => List.forall_mem_nil _
  | g :: rest, _, _, ⟨_, hg, hrest⟩ => by
    refine List.forall_mem_cons.2 ⟨?_, span_le_of_readsAll hrest⟩
    exact Goal.span_le_iff.2 fun v hv => VarTable.lt_of_name (VarTable.name_of_grows hrest.grows (hg.named v hv))

/-- **The slots of a rule that has been read are those of its table.** -/
theorem Clause.Read.scoped {γ : Type} {c : Clause γ} (h : c.Read) : c.Scoped := by
  obtain ⟨vars, hhead, hbody⟩ := h
  refine ⟨Call.span_le_iff.2 fun v hv => ?_, span_le_of_readsAll hbody⟩
  exact VarTable.lt_of_name (VarTable.name_of_grows hbody.grows (hhead.named v hv))

/-! ## Compiled rules -/

/-- The call in a goal, at whatever depth of negations, with what it knows about its predicate. -/
def Goal.call? {γ : Type} : Goal γ → Option (γ × Call)
  | .call callee c => some (callee, c)
  | .not g => g.call?
  | .cut | .unify _ _ | .is _ _ | .test _ => none

/-- **The goal as it is written**: what its call has been resolved to is left out. -/
def Goal.source {γ : Type} : Goal γ → Goal Unit
  | .call _ c => .call () c
  | .cut => .cut
  | .unify a b => .unify a b
  | .is t e => .is t e
  | .test e => .test e
  | .not g => .not g.source

theorem Goal.mentions_source {γ : Type} : ∀ {g : Goal γ}, g.source.mentions = g.mentions
  | .call _ _ | .cut | .unify _ _ | .is _ _ | .test _ => rfl
  | .not g => mentions_source (g := g)

def Resolution.isNotApplicable : Resolution → Bool
  | .notApplicable => true
  | .callee _ _ _ => false

/-- A rule with this goal is left out: the goal calls a name that is not applicable. -/
def Scope.omits {γ : Type} (s : Scope) (g : Goal γ) : Bool :=
  g.call?.any fun (_, c) => (s.resolve? c.functor).any Resolution.isNotApplicable

namespace Scope

variable {s : Scope} {clause : String}

theorem call_of_checkCall {seen seen' : Seen} {c : Call} {callee : Callee} {contract : Contract}
    {arity : Option (Nat × Option Nat)} {g : Goal Callee}
    (h : checkCall clause seen c callee contract arity = .ok (g, seen')) : g = .call callee c := by
  unfold checkCall at h
  split at h
  · cases h
  · cases h
  · cases h
    rfl

/-- **A call is compiled to a call of what it resolves to.** -/
theorem call_of_compileCall {seen seen' : Seen} {c : Call} {g : Goal Callee}
    (h : s.compileCall clause seen c = .ok (g, seen')) : ∃ callee, g = .call callee c := by
  unfold compileCall at h
  split at h
  · cases h
  · exact ⟨_, call_of_checkCall h⟩
  · exact ⟨_, call_of_checkCall h⟩

theorem compileGoal_not {g : Goal Unit} {g' : Goal Callee} {seen seen' : Seen}
    (h : s.compileGoal clause seen (.not g) = .ok (g', seen')) : ∃ g₁ seen₁,
      s.compileGoal clause seen g = .ok (g₁, seen₁) ∧ g' = .not g₁ ∧
        seen' = { seen with notApplicable := seen₁.notApplicable } := by
  unfold compileGoal at h
  obtain ⟨⟨g₁, seen₁⟩, hg, heq⟩ := map_eq_ok h
  cases heq
  exact ⟨g₁, seen₁, hg, rfl, rfl⟩

theorem compileGoals_cons {g : Goal Unit} {rest : List (Goal Unit)} {gs' : List (Goal Callee)} {seen seen' : Seen}
    (h : s.compileGoals clause seen (g :: rest) = .ok (gs', seen')) : ∃ g₁ seen₁ gs₁,
      s.compileGoal clause seen g = .ok (g₁, seen₁) ∧ s.compileGoals clause seen₁ rest = .ok (gs₁, seen') ∧
        gs' = g₁ :: gs₁ := by
  unfold compileGoals at h
  split at h
  · cases h
  · rename_i g₁ seen₁ hg
    obtain ⟨⟨gs₁, seen₂⟩, hr, heq⟩ := map_eq_ok h
    cases heq
    exact ⟨g₁, seen₁, gs₁, hg, hr, rfl⟩

/-- **A call is compiled to itself**: the variables that it mentions are seen after it, and it is noted if its name is not
applicable. -/
theorem seen_compileCall {seen seen' : Seen} {c : Call} {g : Goal Callee}
    (h : s.compileCall clause seen c = .ok (g, seen')) : seen'.slots = Term.seeArgs seen.slots c.args ∧
      seen'.notApplicable = (seen.notApplicable || (s.resolve? c.functor).any Resolution.isNotApplicable) := by
  unfold compileCall at h
  split at h
  · cases h
  · rename_i hr
    cases h
    exact ⟨rfl, by rw [hr]; exact (Bool.or_true _).symm⟩
  · rename_i callee contract arity hr
    unfold checkCall at h
    split at h
    · cases h
    · cases h
    · cases h
      exact ⟨rfl, by rw [hr]; exact (Bool.or_false _).symm⟩

/-- **A goal is compiled to itself**, and it is noted if it calls a name that is not applicable. -/
theorem source_compileGoal : ∀ {g : Goal Unit} {g' : Goal Callee} {seen seen' : Seen},
    s.compileGoal clause seen g = .ok (g', seen') →
      g'.source = g ∧ seen'.notApplicable = (seen.notApplicable || s.omits g)
  | .cut, _, _, _, h | .unify _ _, _, _, _, h | .is _ _, _, _, _, h | .test _, _, _, _, h => by
    cases h
    exact ⟨rfl, (Bool.or_false _).symm⟩
  | .not g, _, seen, _, h => by
    obtain ⟨g₁, seen₁, hg, rfl, rfl⟩ := compileGoal_not h
    obtain ⟨hsource, hseen⟩ := source_compileGoal hg
    exact ⟨congrArg Goal.not hsource, hseen⟩
  | .call _ c, _, _, _, h => by
    obtain ⟨callee, rfl⟩ := call_of_compileCall h
    exact ⟨rfl, (seen_compileCall h).2⟩

/-- **Goals are compiled to themselves**, and it is noted if one of them calls a name that is not applicable. -/
theorem source_compileGoals : ∀ {gs : List (Goal Unit)} {gs' : List (Goal Callee)} {seen seen' : Seen},
    s.compileGoals clause seen gs = .ok (gs', seen') →
      gs'.map Goal.source = gs ∧ seen'.notApplicable = (seen.notApplicable || gs.any s.omits)
  | [], _, _, _, h => by
    cases h
    exact ⟨rfl, (Bool.or_false _).symm⟩
  | g :: rest, _, _, _, h => by
    obtain ⟨g₁, seen₁, gs₁, hg, hr, rfl⟩ := compileGoals_cons h
    obtain ⟨hsource, hseen⟩ := source_compileGoal hg
    obtain ⟨hsources, hseens⟩ := source_compileGoals hr
    refine ⟨?_, ?_⟩
    · rw [List.map_cons, hsource, hsources]
    · rw [hseens, hseen, List.any_cons, Bool.or_assoc]

theorem mentions_compileGoal {g : Goal Unit} {g' : Goal Callee} {seen seen' : Seen}
    (h : s.compileGoal clause seen g = .ok (g', seen')) : g'.mentions = g.mentions := by
  rw [← (source_compileGoal h).1, Goal.mentions_source]

theorem readsAll_compileGoals {last : VarTable} : ∀ {gs : List (Goal Unit)} {gs' : List (Goal Callee)}
    {seen seen' : Seen} {vars : VarTable}, s.compileGoals clause seen gs = .ok (gs', seen') → ReadsAll vars gs last →
      ReadsAll vars gs' last
  | [], _, _, _, _, h, hr => by
    cases h
    exact hr
  | g :: rest, gs', seen, seen', vars, h, ⟨vars₁, hg, hrest⟩ => by
    obtain ⟨g₁, seen₁, gs₁, hg₁, hr, rfl⟩ := compileGoals_cons h
    rw [← mentions_compileGoal hg₁] at hg
    exact ⟨vars₁, hg, readsAll_compileGoals hr hrest⟩

/-- **A rule is compiled goal by goal**, and left out if it calls a name that is not applicable. -/
theorem compileClause_eq_ok {c : Clause Unit} {c' : Clause Callee} (h : s.compileClause c = .ok (some c')) :
    ∃ gs seen, s.compileGoals c.text ⟨Term.seeArgs [] c.head.args, false⟩ c.body = .ok (gs, seen) ∧
      seen.notApplicable = false ∧ c' = ⟨c.head, gs, c.vars, c.text, c.line⟩ := by
  unfold compileClause at h
  obtain ⟨⟨gs, seen⟩, hb, heq⟩ := map_eq_ok h
  simp only at heq
  split at heq
  · cases heq
  · rename_i hn
    exact ⟨gs, seen, hb, Bool.eq_false_iff.2 hn, (Option.some.inj heq).symm⟩

theorem read_compileClause {c : Clause Unit} {c' : Clause Callee} (hc : c.Read)
    (h : s.compileClause c = .ok (some c')) : c'.Read := by
  obtain ⟨vars, hhead, hbody⟩ := hc
  obtain ⟨gs, seen, hgs, -, rfl⟩ := compileClause_eq_ok h
  exact ⟨vars, hhead, readsAll_compileGoals hgs hbody⟩

theorem compiled_of_mem : ∀ {cs : List (Clause Unit)} {cs' : List (Clause Callee)}, s.compileClauses cs = .ok cs' →
    ∀ c' ∈ cs', ∃ c ∈ cs, s.compileClause c = .ok (some c')
  | [], _, h => by
    cases h
    exact List.forall_mem_nil _
  | c :: rest, cs', h => by
    unfold compileClauses at h
    split at h
    · cases h
    · rename_i compiled hcomp
      obtain ⟨cs₁, hr, rfl⟩ := map_eq_ok h
      intro d hd
      rcases List.mem_append.1 hd with hd | hd
      · exact ⟨c, List.mem_cons_self, hcomp.trans (congrArg _ (Option.mem_toList.1 hd))⟩
      · obtain ⟨c₀, hc₀, h₀⟩ := compiled_of_mem hr d hd
        exact ⟨c₀, List.mem_cons_of_mem _ hc₀, h₀⟩

end Scope

theorem read_of_parseRules : ∀ {rules : List RuleText} {cs : List (Clause Unit)},
    parseRules rules = .ok cs → ∀ c ∈ cs, c.Read
  | [], _, h => by
    cases h
    exact List.forall_mem_nil _
  | r :: rest, cs, h => by
    unfold parseRules at h
    split at h
    · cases h
    · rename_i c hc
      obtain ⟨cs₁, hr, rfl⟩ := map_eq_ok h
      exact List.forall_mem_cons.2 ⟨Rule.read_parse hc, read_of_parseRules hr⟩

/-- **How a module is compiled**: the rules are read, the declarations among them are applied, and the others are
compiled. -/
theorem compile_iff {l : Library} {name : String} {provider : Provider} {rules : List RuleText} {m : RuleModule} :
    RuleModule.compile l name provider rules = .ok m ↔ ∃ parsed declared compiled, parseRules rules = .ok parsed ∧
      Declared.applyAll ⟨definedBy (parsed.filter (!isDeclaration ·)), []⟩ l provider (parsed.filter isDeclaration) =
        .ok declared ∧
      (⟨l, declared.predicates, declared.overrides, provider⟩ : Scope).compileClauses
        (parsed.filter (!isDeclaration ·)) = .ok compiled ∧
      m = ⟨name, declared.predicates.map fun p => { p with clauses := compiled.filter (·.head.functor == p.name) },
        declared.overrides, provider⟩ := by
  unfold RuleModule.compile
  simp only [bind, Except.bind]
  constructor
  · intro h
    split at h
    · cases h
    · rename_i parsed hparsed
      split at h
      · cases h
      · rename_i declared hdeclared
        split at h
        · cases h
        · rename_i compiled hcompiled
          exact ⟨parsed, declared, compiled, hparsed, hdeclared, hcompiled, (Except.ok.inj h).symm⟩
  · rintro ⟨parsed, declared, compiled, hparsed, hdeclared, hcompiled, rfl⟩
    simp only [hparsed, hdeclared, hcompiled]

/-- **What a compiled module is made of**: the predicates that have been declared, each with those of its rules that
are not left out. -/
theorem compile_eq_ok {l : Library} {name : String} {provider : Provider} {rules : List RuleText} {m : RuleModule}
    (h : RuleModule.compile l name provider rules = .ok m) : ∃ (declared : Declared) (compiled : List (Clause Callee)),
      m = ⟨name, declared.predicates.map fun p => { p with clauses := compiled.filter (·.head.functor == p.name) },
        declared.overrides, provider⟩ ∧
      ∀ c ∈ compiled, ∃ c₀ : Clause Unit, c₀.Read ∧
        (⟨l, declared.predicates, declared.overrides, provider⟩ : Scope).compileClause c₀ = .ok (some c) := by
  obtain ⟨parsed, declared, compiled, hparsed, -, hcompiled, hm⟩ := compile_iff.1 h
  refine ⟨declared, compiled, hm, fun c hc => ?_⟩
  obtain ⟨c₀, hc₀, h₀⟩ := Scope.compiled_of_mem hcompiled c hc
  exact ⟨c₀, read_of_parseRules hparsed c₀ (List.mem_filter.1 hc₀).1, h₀⟩

/-- **All rules of a compiled module are in scope.** -/
theorem scoped_compile {l : Library} {name : String} {provider : Provider} {rules : List RuleText} {m : RuleModule}
    (h : RuleModule.compile l name provider rules = .ok m) : m.Scoped := by
  obtain ⟨declared, compiled, rfl, hall⟩ := compile_eq_ok h
  intro p hp c hc
  obtain ⟨p₀, -, rfl⟩ := List.mem_map.1 hp
  obtain ⟨c₀, hread, hcomp⟩ := hall c (List.mem_filter.1 hc).1
  exact (Scope.read_compileClause hread hcomp).scoped

/-- **The goal of a query is a call.** -/
theorem call_of_resolveGoal {l : Library} {m : RuleModule} {c : Call} {g : Goal Callee}
    (h : m.resolveGoal l c = .ok g) : ∃ callee, g = .call callee c := by
  unfold RuleModule.resolveGoal at h
  simp only at h
  split at h
  · cases h
  · rename_i g' seen hg
    split at h
    · cases h
    · cases h
      exact Scope.call_of_compileCall hg

theorem span_resolveGoal {l : Library} {m : RuleModule} {c : Call} {g : Goal Callee}
    (h : m.resolveGoal l c = .ok g) : g.span = c.span := by
  obtain ⟨callee, rfl⟩ := call_of_resolveGoal h
  rfl

theorem scoped_getD {r : Except CompileError RuleModule} {m : RuleModule} (hr : ∀ m, r = .ok m → m.Scoped)
    (hm : m.Scoped) : (r.toOption.getD m).Scoped := by
  cases r with
  | ok m => exact hr m rfl
  | error _ => exact hm

theorem scoped_systemModule : systemModule.Scoped := by
  have hnone : (⟨"System", [], [], .none⟩ : RuleModule).Scoped := fun _ hp => nomatch hp
  exact scoped_getD (fun _ h => scoped_compile h) hnone

/-- **Every module is the system library or has been compiled from rules.** -/
def Library.Compiled (l : Library) : Prop := ∀ m ∈ l.modules, m = systemModule ∨
  ∃ others name provider rules, RuleModule.compile others name provider rules = .ok m

theorem Library.Compiled.scoped {l : Library} (h : l.Compiled) : ∀ m ∈ l.modules, m.Scoped := by
  intro m hm
  rcases h m hm with hs | ⟨_, _, _, _, hc⟩
  · rw [hs]
    exact scoped_systemModule
  · exact scoped_compile hc

end Remedy
