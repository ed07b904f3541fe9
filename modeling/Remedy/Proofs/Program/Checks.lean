import Remedy.Proofs.Program.Contracts
/-!
# Proofs.Program.Checks — just what a rule is checked for

A rule passes its checks if and only if each of its calls, inside negations too, is acceptable where it stands: its name
means something, its number of arguments is accepted, and it breaks no constraint (`Scope.compileGoals_iff`).  Nothing
else can stop a rule, and a call of a name that is not applicable here is no exception: the goals after it are checked as
if it had been any other.  What comes of the check is the rule as it was, with its calls resolved, or nothing if one of
its calls is not applicable (`Scope.source_compileGoals`).
-/
namespace Remedy

variable {γ : Type}

/-! ## The calls of a rule -/

/-- **The rule as it is written**, with its text and its line. -/
def Clause.source (c : Clause γ) : Clause Unit := ⟨c.head, c.body.map Goal.source, c.vars, c.text, c.line⟩

/-- **A call stands in a rule**, in one of its goals, where the head and the goals before have mentioned so many
variables. -/
def Clause.Calls (c : Clause γ) (mentioned : List (String × Nat)) (call : Call) : Prop :=
  ∃ before g after callee, c.body = before ++ g :: after ∧ g.call? = some (callee, call) ∧
    mentioned = c.head.mentions ++ before.flatMap Goal.touched

/-- **The call has the arguments that a contract speaks of**; only a call without names may lack those that are known by
a name. -/
def Call.Supplied (c : Call) (contract : Contract) : Prop :=
  ∀ key constraint, (key, constraint) ∈ contract → c.get? key = none → c.hasNames = false ∧ key.isName = true

/-- **A call is accepted** where so many variables have been mentioned: its name is one that is not applicable, or that
of a callee whose contract it keeps. -/
inductive Scope.Accepts (s : Scope) (mentioned : List (String × Nat)) (c : Call) : Prop
  | notApplicable (hr : s.resolve? c.functor = some .notApplicable)
  | callee {callee : Callee} {contract : Contract} {arity : Option (Nat × Option Nat)}
    (hr : s.resolve? c.functor = some (.callee callee contract arity)) (hl : c.Lawful mentioned contract arity)
    (hs : c.Supplied contract)

theorem Scope.Accepts.congr {s s' : Scope} {mentioned : List (String × Nat)} {c : Call} (h : s.Accepts mentioned c)
    (hs : s.resolve? = s'.resolve?) : s'.Accepts mentioned c := by
  cases h with
  | notApplicable hr => exact .notApplicable (hs ▸ hr)
  | callee hr hl hm => exact .callee (hs ▸ hr) hl hm

/-! ## The check of a call -/

section Check

variable {seen : List Nat} {mentioned : List (String × Nat)} {c : Call}

theorem Term.isSeen_of_obeys (hs : Sees seen mentioned) {t : Term} (h : t.Obeys mentioned .ground) :
    t.isSeen seen = true := by
  refine Term.isSeen_iff.2 fun v hv => ?_
  obtain ⟨hname, hmem⟩ := h v hv
  exact ⟨hname, (hs v.2).2 ⟨v, hmem, hname, rfl⟩⟩

/-- **An argument breaks no constraint** if and only if it keeps it; one that is missing must be known by a name, in a
call without names. -/
theorem Call.violation?_eq_none (hs : Sees seen mentioned) (ha : Apart mentioned c.mentions) {key : ArgKey}
    {constraint : Constraint} : c.violation? seen key constraint = none ↔
      (∀ t, c.get? key = some t → t.Obeys mentioned constraint) ∧
        (c.get? key = none → c.hasNames = false ∧ key.isName = true) := by
  refine ⟨fun h => ⟨fun t ht => Term.obeys_of_violation? hs ha h ht, fun hnone => ?_⟩, fun ⟨hobeys, hmissing⟩ => ?_⟩
  · unfold Call.violation? at h
    rw [hnone] at h
    simpa using h
  · unfold Call.violation?
    cases ht : c.get? key with
    | none => simpa using hmissing ht
    | some t =>
      have hobeys := hobeys t ht
      cases constraint with
      | input => rfl
      | ground =>
        simp only
        rw [if_pos (Term.isSeen_of_obeys hs hobeys)]
      | output =>
        obtain ⟨name, slot, rfl, hnew⟩ := hobeys
        have hslot : slot ∉ seen := fun hmem => by
          obtain ⟨u, hu, -, heq⟩ := (hs slot).1 hmem
          exact hnew u hu heq
        simp only
        rw [if_pos (by simp [hslot])]

theorem Call.breach?_eq_none (hs : Sees seen mentioned) (ha : Apart mentioned c.mentions) {contract : Contract} :
    c.breach? seen contract = none ↔
      (∀ key constraint t, (key, constraint) ∈ contract → c.get? key = some t → t.Obeys mentioned constraint) ∧
        c.Supplied contract := by
  unfold Call.breach? Call.Supplied
  rw [List.findSome?_eq_none_iff, Prod.forall]
  simp only [Option.map_eq_none_iff, Call.violation?_eq_none hs ha, forall_and]
  refine and_congr (forall₂_congr fun key constraint => ?_) Iff.rfl
  exact ⟨fun h t hmem ht => h hmem t ht, fun h hmem t ht => h t hmem ht⟩

theorem Call.arityFault?_eq_none {clause : String} {arity : Option (Nat × Option Nat)} :
    arityFault? clause c arity = none ↔ c.Admitted arity := by
  refine ⟨Call.admitted_of_arityFault?, fun h => ?_⟩
  rcases arity with _ | ⟨least, most⟩
  · rfl
  · obtain ⟨hleast, hmost⟩ := h least most rfl
    have hin : (decide (least ≤ c.arity) && most.all (c.arity ≤ ·)) = true := by
      rw [Bool.and_eq_true, decide_eq_true_eq, Option.all_eq_true]
      exact ⟨hleast, fun n hn => decide_eq_true (hmost n hn)⟩
    unfold arityFault?
    simp only
    rw [if_pos hin]

namespace Scope

variable {s : Scope} {clause : String} {slots : Seen}

/-- **The check of a call lets it pass** if and only if it keeps the contract and lacks nothing of it. -/
theorem checkCall_iff (hs : Sees slots.slots mentioned) (ha : Apart mentioned c.mentions) {callee : Callee}
    {contract : Contract} {arity : Option (Nat × Option Nat)} :
    (∃ r, checkCall clause slots c callee contract arity = .ok r) ↔
      c.Lawful mentioned contract arity ∧ c.Supplied contract := by
  have hpass : (∃ r, checkCall clause slots c callee contract arity = .ok r) ↔
      arityFault? clause c arity = none ∧ c.breach? slots.slots contract = none := by
    unfold checkCall
    rcases arityFault? clause c arity with _ | fault
    · rcases c.breach? slots.slots contract with _ | ⟨key, v⟩ <;> simp
    · simp
  rw [hpass, Call.arityFault?_eq_none, Call.breach?_eq_none hs ha]
  exact ⟨fun ⟨hadmitted, hobeys, hsupplied⟩ => ⟨⟨hadmitted, hobeys⟩, hsupplied⟩,
    fun ⟨hlawful, hsupplied⟩ => ⟨hlawful.admitted, hlawful.obeys, hsupplied⟩⟩

/-- **A call passes** if and only if it is accepted. -/
theorem compileCall_iff (hs : Sees slots.slots mentioned) (ha : Apart mentioned c.mentions) :
    (∃ r, s.compileCall clause slots c = .ok r) ↔ s.Accepts mentioned c := by
  unfold compileCall
  rcases hr : s.resolve? c.functor with _ | ⟨callee, contract, arity⟩ | _
  · refine ⟨fun ⟨_, h⟩ => (nomatch h), fun h => ?_⟩
    cases h with
    | notApplicable h => cases hr.symm.trans h
    | callee h => cases hr.symm.trans h
  · refine (checkCall_iff hs ha).trans ⟨fun ⟨hl, hm⟩ => .callee hr hl hm, fun h => ?_⟩
    cases h with
    | notApplicable h => cases hr.symm.trans h
    | callee h hl hm =>
      cases hr.symm.trans h
      exact ⟨hl, hm⟩
  · refine ⟨fun _ => .notApplicable hr, fun _ => ?_⟩
    exact ⟨_, rfl⟩

end Scope

end Check

/-! ## Goals -/

namespace Scope

variable {s : Scope} {clause : String} {mentioned : List (String × Nat)}

/-- **A goal passes** if and only if its call is accepted, if there is one in it. -/
theorem compileGoal_iff : ∀ {g : Goal Unit} {seen : Seen}, Sees seen.slots mentioned → Apart mentioned g.mentions →
    ((∃ r, s.compileGoal clause seen g = .ok r) ↔ ∀ callee c, g.call? = some (callee, c) → s.Accepts mentioned c)
  | .cut, _, _, _ | .unify _ _, _, _, _ | .is _ _, _, _, _ | .test _, _, _, _ =>
    ⟨fun _ _ _ h => (nomatch h), fun _ => ⟨_, rfl⟩⟩
  | .not g, seen, hs, ha => by
    refine Iff.trans ⟨fun ⟨⟨g', seen'⟩, h⟩ => ?_, fun ⟨⟨g₁, seen₁⟩, h⟩ => ?_⟩ (compileGoal_iff (g := g) hs ha)
    · obtain ⟨g₁, seen₁, hg, -, -⟩ := compileGoal_not h
      exact ⟨_, hg⟩
    · rw [compileGoal, h]
      exact ⟨_, rfl⟩
  | .call () c, _, hs, ha =>
    (compileCall_iff hs ha).trans ⟨fun h _ _ hc => by cases hc; exact h, fun h => h () c rfl⟩

def AcceptsAll (s : Scope) (mentioned : List (String × Nat)) : List (Goal Unit) → Prop
  | [] => True
  | g :: rest => (∀ callee c, g.call? = some (callee, c) → s.Accepts mentioned c) ∧
      s.AcceptsAll (mentioned ++ g.touched) rest

theorem acceptsAll_iff : ∀ {gs : List (Goal Unit)} {mentioned : List (String × Nat)}, s.AcceptsAll mentioned gs ↔
    ∀ before g after, gs = before ++ g :: after → ∀ callee c, g.call? = some (callee, c) →
      s.Accepts (mentioned ++ before.flatMap Goal.touched) c
  | [], _ => ⟨fun _ before _ _ h => absurd h.symm (List.append_ne_nil_of_right_ne_nil _ (List.cons_ne_nil _ _)),
      fun _ => trivial⟩
  | g :: rest, mentioned => by
    rw [AcceptsAll, acceptsAll_iff]
    refine ⟨fun ⟨hg, hrest⟩ before g' after h => ?_,
      fun h => ⟨fun callee c hc => ?_, fun before g' after hr callee c hc => ?_⟩⟩
    · cases before with
      | nil =>
        cases h
        rw [List.flatMap_nil, List.append_nil]
        exact hg
      | cons b before =>
        cases h
        rw [List.flatMap_cons, ← List.append_assoc]
        exact hrest before g' after rfl
    · have hhead := h [] g rest rfl callee c hc
      rw [List.flatMap_nil, List.append_nil] at hhead
      exact hhead
    · have htail := h (g :: before) g' after (congrArg (g :: ·) hr) callee c hc
      rw [List.flatMap_cons, ← List.append_assoc] at htail
      exact htail

/-- **Goals that are read from the left pass** if and only if their calls are accepted, by induction on them: each is
checked against what the head and the goals before it mention, whether one of those is applicable or not. -/
theorem compileGoals_iff {last : VarTable} : ∀ {gs : List (Goal Unit)} {seen : Seen} {vars : VarTable}
    {mentioned : List (String × Nat)}, Sees seen.slots mentioned →
    (∀ u ∈ mentioned, vars.names[u.2]? = some u.1) → ReadsAll vars gs last →
      ((∃ r, s.compileGoals clause seen gs = .ok r) ↔ s.AcceptsAll mentioned gs)
  | [], _, _, _, _, _, _ => ⟨fun _ => trivial, fun _ => ⟨_, rfl⟩⟩
  | g :: rest, seen, vars, mentioned, hs, hm, ⟨vars₁, hread, hreads⟩ => by
    have hm₂ := hread.named_touched hm
    have hgoal : (∃ r, s.compileGoal clause seen g = .ok r) ↔ _ := compileGoal_iff hs (hread.apart hm)
    rw [AcceptsAll, ← hgoal]
    constructor
    · rintro ⟨⟨gs', seen'⟩, h⟩
      obtain ⟨g₁, seen₁, gs₁, hg, hr, -⟩ := compileGoals_cons h
      exact ⟨⟨_, hg⟩, (compileGoals_iff (sees_compileGoal hs hg) hm₂ hreads).1 ⟨_, hr⟩⟩
    · rintro ⟨⟨⟨g₁, seen₁⟩, hg⟩, hrest⟩
      obtain ⟨⟨gs₁, seen₂⟩, hr⟩ := (compileGoals_iff (sees_compileGoal hs hg) hm₂ hreads).2 hrest
      refine ⟨(g₁ :: gs₁, seen₂), ?_⟩
      unfold compileGoals
      rw [hg]
      simp only
      rw [hr]
      rfl

/-! ## Rules -/

/-- **A rule passes its checks** if and only if every call in it is accepted where it stands. -/
theorem compileClause_iff {c : Clause Unit} (hc : c.Read) : (∃ r, s.compileClause c = .ok r) ↔
    ∀ mentioned call, c.Calls mentioned call → s.Accepts mentioned call := by
  obtain ⟨vars, hhead, hbody⟩ := hc
  have hs : Sees (Term.seeArgs [] c.head.args) c.head.mentions := by
    intro i
    rw [Term.mem_seeArgs]
    simp [Call.mentions]
  have hgoals : (∃ r, s.compileClause c = .ok r) ↔
      ∃ r, s.compileGoals c.text ⟨Term.seeArgs [] c.head.args, false⟩ c.body = .ok r := by
    unfold compileClause
    constructor
    · rintro ⟨r, h⟩
      obtain ⟨r₁, h₁, -⟩ := map_eq_ok h
      exact ⟨r₁, h₁⟩
    · rintro ⟨r, h⟩
      rw [h]
      exact ⟨_, rfl⟩
  rw [hgoals, compileGoals_iff hs hhead.named hbody, acceptsAll_iff]
  constructor
  · rintro h mentioned call ⟨before, g, after, callee, hb, hg, rfl⟩
    exact h before g after hb callee call hg
  · exact fun h before g after hb callee call hg => h _ call ⟨before, g, after, callee, hb, hg, rfl⟩

/-- **A rule is compiled to itself, or left out** if one of its calls is not applicable. -/
theorem source_compileClause {c : Clause Unit} {r : Option (Clause Callee)} (h : s.compileClause c = .ok r) :
    r.map Clause.source = if c.body.any s.omits then none else some c := by
  unfold compileClause at h
  obtain ⟨⟨gs, seen⟩, hgs, rfl⟩ := map_eq_ok h
  obtain ⟨hsource, hseen⟩ := source_compileGoals hgs
  rw [Bool.false_or] at hseen
  simp only
  rw [hseen]
  split
  · rfl
  · rw [Option.map_some, Clause.source]
    exact congrArg some (by rw [hsource])

/-- **Rules pass** if and only if each of them does. -/
theorem compileClauses_iff : ∀ {cs : List (Clause Unit)}, (∃ r, s.compileClauses cs = .ok r) ↔
    ∀ c ∈ cs, ∃ r, s.compileClause c = .ok r
  | [] => ⟨fun _ => List.forall_mem_nil _, fun _ => ⟨_, rfl⟩⟩
  | c :: rest => by
    rw [List.forall_mem_cons, ← compileClauses_iff]
    constructor
    · rintro ⟨r, h⟩
      rw [compileClauses] at h
      split at h
      · cases h
      · rename_i compiled hc
        obtain ⟨cs, hr, -⟩ := map_eq_ok h
        exact ⟨⟨compiled, hc⟩, cs, hr⟩
    · rintro ⟨⟨compiled, hc⟩, cs, hr⟩
      rw [compileClauses, hc]
      simp only
      rw [hr]
      exact ⟨_, rfl⟩

/-- **The rules that are compiled** are those that are not left out, in their order. -/
theorem source_compileClauses : ∀ {cs : List (Clause Unit)} {cs' : List (Clause Callee)},
    s.compileClauses cs = .ok cs' → cs'.map Clause.source = cs.filter fun c => !c.body.any s.omits
  | [], _, h => by
    cases h
    rfl
  | c :: rest, cs', h => by
    unfold compileClauses at h
    split at h
    · cases h
    · rename_i compiled hc
      obtain ⟨cs₁, hr, rfl⟩ := map_eq_ok h
      have hhead := source_compileClause hc
      rw [List.map_append, source_compileClauses hr, List.filter_cons]
      cases compiled with
      | none =>
        have homit : c.body.any s.omits = true := by
          split at hhead
          · assumption
          · cases hhead
        rw [homit]
        rfl
      | some c' =>
        have hkept : c.body.any s.omits = false ∧ c'.source = c := by
          split at hhead
          · cases hhead
          · rename_i hno
            exact ⟨Bool.eq_false_iff.2 hno, Option.some.inj hhead⟩
        rw [hkept.1]
        exact congrArg (· :: _) hkept.2

end Scope

end Remedy
