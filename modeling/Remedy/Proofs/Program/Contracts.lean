import Remedy.Proofs.Program.Scope
/-!
# Proofs.Program.Contracts — what the check of a call promises

Compiling reads a rule from the left and keeps the slots of the named variables that the head and the goals so far have
mentioned.  A call passes its check if its number of arguments is accepted, each output argument is a variable that has
not been mentioned, and each ground argument has variables only that have been (`Call.Lawful`).  What compiling keeps
is just what has been mentioned, anonymous variables being mentioned once, so every call of a compiled rule is lawful
where it stands, inside negations too (`Scope.lawful_compileClause`), and so is every goal that a query starts with.
-/
namespace Remedy

/-! ## What has been mentioned -/

/-- **The variables that a goal mentions** for the goals after it; a negation keeps its own to itself. -/
def Goal.touched {γ : Type} : Goal γ → List (String × Nat)
  | .not _ => []
  | g => g.mentions

/-- **An argument keeps a constraint** where so many variables have been mentioned: an output is a variable that has
not been, and what is ground has variables only that have been, by their names. -/
def Term.Obeys (mentioned : List (String × Nat)) (t : Term) : Constraint → Prop
  | .input => True
  | .output => ∃ name slot, t = .var name slot ∧ ∀ u ∈ mentioned, u.2 ≠ slot
  | .ground => ∀ v ∈ t.mentions, v.1 ≠ "_" ∧ v ∈ mentioned

def Call.Admitted (c : Call) (arity : Option (Nat × Option Nat)) : Prop :=
  ∀ least most, arity = some (least, most) → least ≤ c.arity ∧ ∀ n, most = some n → c.arity ≤ n

/-- **A call keeps a contract** where so many variables have been mentioned. -/
structure Call.Lawful (mentioned : List (String × Nat)) (c : Call) (contract : Contract)
    (arity : Option (Nat × Option Nat)) : Prop where
  admitted : c.Admitted arity
  obeys : ∀ key constraint t, (key, constraint) ∈ contract → c.get? key = some t → t.Obeys mentioned constraint

/-- The calls of a goal are those of what their names stand for, and keep the contracts. -/
def Goal.Lawful (resolve : String → Option Resolution) (mentioned : List (String × Nat)) : Goal Callee → Prop
  | .call callee c => ∃ contract arity, resolve c.functor = some (.callee callee contract arity) ∧
      c.Lawful mentioned contract arity
  | .not g => g.Lawful resolve mentioned
  | .cut | .unify _ _ | .is _ _ | .test _ => True

def LawfulAll (resolve : String → Option Resolution) (mentioned : List (String × Nat)) : List (Goal Callee) → Prop
  | [] => True
  | g :: rest => g.Lawful resolve mentioned ∧ LawfulAll resolve (mentioned ++ g.touched) rest

/-- What is seen is what has been mentioned by name. -/
def Sees (slots : List Nat) (mentioned : List (String × Nat)) : Prop :=
  ∀ i, i ∈ slots ↔ ∃ v ∈ mentioned, v.1 ≠ "_" ∧ v.2 = i

/-- A variable whose slot has been mentioned is named, and has been mentioned by its name. -/
def Apart (mentioned vs : List (String × Nat)) : Prop := ∀ v ∈ vs, ∀ u ∈ mentioned, u.2 = v.2 → u = v ∧ v.1 ≠ "_"

theorem Goal.mentions_of_touched {γ : Type} {g : Goal γ} {v : String × Nat} (h : v ∈ g.touched) : v ∈ g.mentions := by
  cases g with
  | not g => cases h
  | call _ _ | cut | unify _ _ | is _ _ | test _ => exact h

section Reads

variable {vars vars' : VarTable} {mentioned vs : List (String × Nat)}

/-- **A variable that is read** after others, whose names are in the table, is new or one of them. -/
theorem Reads.apart (h : Reads vars vars' vs) (hm : ∀ u ∈ mentioned, vars.names[u.2]? = some u.1) :
    Apart mentioned vs := by
  intro v hv u hu huv
  have hname := h.named v hv
  rw [← huv, VarTable.name_of_grows h.grows (hm u hu)] at hname
  refine ⟨Prod.ext (Option.some.inj hname) huv, fun hv₁ => ?_⟩
  have hnew := h.new v hv hv₁
  have hold := VarTable.lt_of_name (hm u hu)
  omega

theorem Reads.named_touched {g : Goal Unit} (h : Reads vars vars' g.mentions)
    (hm : ∀ u ∈ mentioned, vars.names[u.2]? = some u.1) : ∀ u ∈ mentioned ++ g.touched, vars'.names[u.2]? = some u.1 :=
  List.forall_mem_append.2 ⟨fun u hu => VarTable.name_of_grows h.grows (hm u hu),
    fun u hu => h.named u (Goal.mentions_of_touched hu)⟩

end Reads

/-! ## Seeing -/

theorem Sees.append {slots slots' : List Nat} {mentioned vs : List (String × Nat)} (h : Sees slots mentioned)
    (hs : ∀ i, i ∈ slots' ↔ i ∈ slots ∨ ∃ v ∈ vs, v.1 ≠ "_" ∧ v.2 = i) : Sees slots' (mentioned ++ vs) := by
  intro i
  rw [hs i, h i]
  simp only [List.mem_append, or_and_right, exists_or]

namespace Term

mutual

theorem mem_see {i : Nat} : ∀ {seen : List Nat} {t : Term},
    i ∈ t.see seen ↔ i ∈ seen ∨ ∃ v ∈ t.mentions, v.1 ≠ "_" ∧ v.2 = i
  | seen, .const _ | seen, .template _ | seen, .nil => by simp [see, mentions]
  | seen, .var name slot => by
    rw [see, mentions]
    by_cases hname : name = "_"
    · simp [hname]
    · simp [hname, eq_comm, or_comm]
  | seen, .compound _ args => mem_seeArgs

theorem mem_seeArgs {i : Nat} : ∀ {seen : List Nat} {args : List (Arg Term)},
    i ∈ seeArgs seen args ↔ i ∈ seen ∨ ∃ v ∈ mentionsOf args, v.1 ≠ "_" ∧ v.2 = i
  | seen, [] => by simp [seeArgs, mentionsOf]
  | seen, a :: rest => by
    rw [seeArgs, mem_seeArgs, mem_see, mentionsOf, or_assoc]
    simp only [List.mem_append, or_and_right, exists_or]

end

mutual

theorem isSeen_iff {seen : List Nat} : ∀ {t : Term},
    t.isSeen seen = true ↔ ∀ v ∈ t.mentions, v.1 ≠ "_" ∧ v.2 ∈ seen
  | .const _ | .template _ | .nil => by simp [isSeen, mentions]
  | .var name slot => by simp [isSeen, mentions]
  | .compound _ args => areSeen_iff

theorem areSeen_iff {seen : List Nat} : ∀ {args : List (Arg Term)},
    areSeen seen args = true ↔ ∀ v ∈ mentionsOf args, v.1 ≠ "_" ∧ v.2 ∈ seen
  | [] => by simp [areSeen, mentionsOf]
  | a :: rest => by
    rw [areSeen, Bool.and_eq_true, isSeen_iff, areSeen_iff, mentionsOf, List.forall_mem_append]

end

end Term

/-! ## Numbers of arguments -/

/-- The numbers of arguments that a callee declares: those of the application and of the language do. -/
def Callee.arity? : Callee → Option (Nat × Option Nat)
  | .external p => some (p.least, p.most)
  | .builtin b => some (b.least, b.most)
  | .own _ | .foreign _ _ | .facts _ => none

theorem Scope.arity_of_foreign (s : Scope) (owner index : Nat) : (s.foreign owner index).1.arity? = none := by
  unfold foreign
  split
  · split <;> rfl
  · rfl

/-- **A name is resolved with the numbers of arguments that its callee declares.** -/
theorem Scope.arity_of_resolve? {s : Scope} {name : String} {callee : Callee} {contract : Contract}
    {arity : Option (Nat × Option Nat)} (h : s.resolve? name = some (.callee callee contract arity)) :
    arity = callee.arity? := by
  unfold resolve? at h
  simp only [Option.orElse_eq_or, Option.or_eq_some_iff] at h
  rcases h with h | ⟨-, h | ⟨-, h | ⟨-, h⟩⟩⟩
  · unfold own? at h
    split at h
    · cases h
      split <;> rfl
    · cases h
  · unfold provided? at h
    split at h
    · cases h
      rfl
    · cases h
      exact (s.arity_of_foreign _ _).symm
    · cases h
    · cases h
  · unfold builtin? at h
    obtain ⟨b, -, hb⟩ := Option.map_eq_some_iff.1 h
    cases hb
    rfl
  · unfold system? at h
    obtain ⟨index, -, hi⟩ := Option.map_eq_some_iff.1 h
    cases hi
    exact (s.arity_of_foreign _ _).symm

/-! ## The check of a call -/

section Check

variable {seen : List Nat} {mentioned : List (String × Nat)} {c : Call}

theorem Call.admitted_of_arityFault? {clause : String} {arity : Option (Nat × Option Nat)}
    (h : arityFault? clause c arity = none) : c.Admitted arity := by
  rintro least most rfl
  unfold arityFault? at h
  simp only at h
  split at h
  · rename_i hr
    rw [Bool.and_eq_true, decide_eq_true_eq] at hr
    refine ⟨hr.1, ?_⟩
    rintro n rfl
    exact of_decide_eq_true hr.2
  · cases h

/-- **An argument without a violation keeps its constraint.** -/
theorem Term.obeys_of_violation? (hs : Sees seen mentioned) (ha : Apart mentioned c.mentions) {key : ArgKey}
    {constraint : Constraint} {t : Term} (h : c.violation? seen key constraint = none) (ht : c.get? key = some t) :
    t.Obeys mentioned constraint := by
  unfold Call.violation? at h
  rw [ht] at h
  cases constraint with
  | input => trivial
  | ground =>
    simp only at h
    split at h
    · rename_i hseen
      intro v hv
      obtain ⟨hname, hmem⟩ := isSeen_iff.1 hseen v hv
      obtain ⟨u, hu, -, huv⟩ := (hs v.2).1 hmem
      obtain ⟨rfl, -⟩ := ha v (Call.mentions_of_get? ht v hv) u hu huv
      exact ⟨hname, hu⟩
    · cases h
  | output =>
    simp only at h
    split at h
    · rename_i name slot
      refine ⟨name, slot, rfl, fun u hu hslot => ?_⟩
      have hv : (name, slot) ∈ c.mentions := Call.mentions_of_get? ht _ List.mem_cons_self
      obtain ⟨rfl, hname⟩ := ha _ hv u hu hslot
      have hseen : slot ∈ seen := (hs slot).2 ⟨_, hu, hname, rfl⟩
      have hname : name ≠ "_" := hname
      rw [if_neg (by simp [hname, hseen])] at h
      cases h
    · cases h

theorem Call.lawful_of_checkCall {clause : String} {s s' : Seen} {callee : Callee} {contract : Contract}
    {arity : Option (Nat × Option Nat)} {g : Goal Callee} (hs : Sees s.slots mentioned)
    (ha : Apart mentioned c.mentions) (h : Scope.checkCall clause s c callee contract arity = .ok (g, s')) :
    c.Lawful mentioned contract arity ∧ s' = { s with slots := Term.seeArgs s.slots c.args } := by
  unfold Scope.checkCall at h
  split at h
  · cases h
  · cases h
  · rename_i hfault hbreach
    cases h
    refine ⟨⟨admitted_of_arityFault? hfault, fun key constraint t hmem ht => ?_⟩, rfl⟩
    have hnone := List.findSome?_eq_none_iff.1 hbreach _ hmem
    exact Term.obeys_of_violation? hs ha (Option.map_eq_none_iff.1 hnone) ht

end Check

/-! ## Compiled goals -/

namespace Scope

variable {s : Scope} {clause : String} {mentioned : List (String × Nat)}

theorem applicable_compileGoals {gs : List (Goal Unit)} {gs' : List (Goal Callee)} {seen seen' : Seen}
    (h : s.compileGoals clause seen gs = .ok (gs', seen')) (hn : seen'.notApplicable = false) :
    seen.notApplicable = false := by
  rw [(source_compileGoals h).2, Bool.or_eq_false_iff] at hn
  exact hn.1

theorem lawful_compileCall {c : Call} {g : Goal Callee} {seen seen' : Seen} (hs : Sees seen.slots mentioned)
    (ha : Apart mentioned c.mentions) (h : s.compileCall clause seen c = .ok (g, seen'))
    (hn : seen'.notApplicable = false) : g.Lawful s.resolve? mentioned := by
  unfold compileCall at h
  split at h
  · cases h
  · obtain ⟨-, rfl⟩ := Call.lawful_of_checkCall (s := { seen with notApplicable := true }) hs ha h
    cases hn
  · rename_i callee contract arity hr
    obtain rfl := call_of_checkCall h
    exact ⟨contract, arity, hr, (Call.lawful_of_checkCall hs ha h).1⟩

/-- **A compiled goal is lawful.** -/
theorem lawful_compileGoal : ∀ {g : Goal Unit} {g' : Goal Callee} {seen seen' : Seen}, Sees seen.slots mentioned →
    Apart mentioned g.mentions → s.compileGoal clause seen g = .ok (g', seen') → seen'.notApplicable = false →
      g'.Lawful s.resolve? mentioned
  | .cut, _, _, _, _, _, h, _ | .unify _ _, _, _, _, _, _, h, _ | .is _ _, _, _, _, _, _, h, _
  | .test _, _, _, _, _, _, h, _ => by
    cases h
    trivial
  | .not g, _, seen, _, hs, ha, h, hn => by
    obtain ⟨g₁, seen₁, hg, rfl, rfl⟩ := compileGoal_not h
    have ha : Apart mentioned g.mentions := ha
    have hin := lawful_compileGoal hs ha hg hn
    exact hin
  | .call _ c, _, _, _, hs, ha, h, hn => lawful_compileCall hs ha h hn

/-- **What is seen after a goal** is what the goal mentions, and what was seen before it. -/
theorem sees_compileGoal : ∀ {g : Goal Unit} {g' : Goal Callee} {seen seen' : Seen}, Sees seen.slots mentioned →
    s.compileGoal clause seen g = .ok (g', seen') → Sees seen'.slots (mentioned ++ g.touched)
  | .cut, _, _, _, hs, h | .test _, _, _, _, hs, h => by
    cases h
    exact hs.append (by simp [Goal.touched, Goal.mentions])
  | .unify a b, _, seen, _, hs, h => by
    cases h
    refine hs.append fun i => ?_
    have hb : i ∈ b.see (a.see seen.slots) ↔ i ∈ seen.slots ∨ ∃ v ∈ a.mentions ++ b.mentions, v.1 ≠ "_" ∧ v.2 = i := by
      rw [Term.mem_see, Term.mem_see, or_assoc]
      simp only [List.mem_append, or_and_right, exists_or]
    exact hb
  | .is t _, _, _, _, hs, h => by
    cases h
    exact hs.append fun _ => Term.mem_see
  | .not g, _, seen, _, hs, h => by
    obtain ⟨g₁, seen₁, -, rfl, rfl⟩ := compileGoal_not h
    exact hs.append (by simp [Goal.touched])
  | .call _ c, _, _, _, hs, h => by
    refine hs.append fun i => ?_
    rw [(seen_compileCall h).1]
    exact Term.mem_seeArgs

theorem touched_compileGoal {g : Goal Unit} {g' : Goal Callee} {seen seen' : Seen}
    (h : s.compileGoal clause seen g = .ok (g', seen')) : g'.touched = g.touched := by
  rw [← (source_compileGoal h).1]
  cases g' <;> rfl

/-- **Goals that are read from the left are lawful**, by induction on them: what has been mentioned has its names in
the table, so a variable that is read is new, or has been mentioned by its name. -/
theorem lawful_compileGoals {last : VarTable} : ∀ {gs : List (Goal Unit)} {gs' : List (Goal Callee)}
    {seen seen' : Seen} {vars : VarTable} {mentioned : List (String × Nat)}, Sees seen.slots mentioned →
    (∀ u ∈ mentioned, vars.names[u.2]? = some u.1) → ReadsAll vars gs last →
    s.compileGoals clause seen gs = .ok (gs', seen') → seen'.notApplicable = false →
      LawfulAll s.resolve? mentioned gs'
  | [], _, _, _, _, _, _, _, _, h, _ => by
    cases h
    trivial
  | g :: rest, gs', seen, seen', vars, mentioned, hs, hm, ⟨vars₁, hread, hreads⟩, h, hn => by
    obtain ⟨g₁, seen₁, gs₁, hg, hr, rfl⟩ := compileGoals_cons h
    rw [LawfulAll, touched_compileGoal hg]
    refine ⟨lawful_compileGoal hs (hread.apart hm) hg (applicable_compileGoals hr hn), ?_⟩
    exact lawful_compileGoals (sees_compileGoal hs hg) (hread.named_touched hm) hreads hr hn

/-- **The goals of a compiled rule are lawful** after its head. -/
theorem lawful_compileClause {c : Clause Unit} {c' : Clause Callee} (hc : c.Read)
    (h : s.compileClause c = .ok (some c')) : LawfulAll s.resolve? c'.head.mentions c'.body := by
  obtain ⟨vars, hhead, hbody⟩ := hc
  obtain ⟨gs, seen, hgs, hn, rfl⟩ := compileClause_eq_ok h
  have hs : Sees (Term.seeArgs [] c.head.args) c.head.mentions := by
    intro i
    rw [Term.mem_seeArgs]
    simp [Call.mentions]
  exact lawful_compileGoals hs hhead.named hbody hgs hn

end Scope

def RuleModule.scope (m : RuleModule) (l : Library) : Scope := ⟨l, m.predicates, m.overrides, m.provider⟩

/-- **The goal that a query starts with is lawful**, though nothing has been mentioned before it. -/
theorem lawful_resolveGoal {l : Library} {m : RuleModule} {c : Call} {g : Goal Callee}
    (h : m.resolveGoal l c = .ok g) : LawfulAll (m.scope l).resolve? [] [g] := by
  unfold RuleModule.resolveGoal at h
  simp only at h
  split at h
  · cases h
  · rename_i g' seen hg
    split at h
    · cases h
    · rename_i hn
      cases h
      have hs : Sees [] [] := fun _ => ⟨(fun h => nomatch h), fun ⟨_, h, _⟩ => nomatch h⟩
      have ha : Apart [] c.mentions := fun _ _ _ hu => nomatch hu
      exact ⟨Scope.lawful_compileCall (s := m.scope l) hs ha hg (Bool.eq_false_iff.2 hn), trivial⟩

/-! ## What is left of a rule -/

/-- **What is left of a rule that is being run**, after so many variables have been mentioned: all goals after the
head, those after a goal, the goal inside a negation, or the goal that a query starts with. -/
inductive Rest (l : Library) (m : RuleModule) : List (String × Nat) → List (Goal Callee) → Prop
  | rule {p : Predicate} {c : Clause Callee} (hp : p ∈ m.predicates) (hc : c ∈ p.clauses) :
    Rest l m c.head.mentions c.body
  | next {mentioned : List (String × Nat)} {g : Goal Callee} {rest : List (Goal Callee)}
    (h : Rest l m mentioned (g :: rest)) : Rest l m (mentioned ++ g.touched) rest
  | inside {mentioned : List (String × Nat)} {g : Goal Callee} {rest : List (Goal Callee)}
    (h : Rest l m mentioned (.not g :: rest)) : Rest l m mentioned [g]
  | entry {c : Call} {g : Goal Callee} (h : m.resolveGoal l c = .ok g) : Rest l m [] [g]

def RuleModule.Lawful (l : Library) (m : RuleModule) : Prop :=
  ∀ p ∈ m.predicates, ∀ c ∈ p.clauses, LawfulAll (m.scope l).resolve? c.head.mentions c.body

/-- **Whatever is left of a rule is lawful.** -/
theorem Rest.lawful {l : Library} {m : RuleModule} (hm : m.Lawful l) {mentioned : List (String × Nat)}
    {gs : List (Goal Callee)} (h : Rest l m mentioned gs) : LawfulAll (m.scope l).resolve? mentioned gs := by
  induction h with
  | rule hp hc => exact hm _ hp _ hc
  | next _ ih => exact ih.2
  | inside _ ih => exact ⟨ih.1, trivial⟩
  | entry h => exact lawful_resolveGoal h

end Remedy
