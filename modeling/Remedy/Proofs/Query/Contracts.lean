import Remedy.Proofs.Query.Guard
/-!
# Proofs.Query.Contracts — what a call finds of the contract it was checked for

A call is checked when its rule is compiled, and it is made when the rule is run: inside negations and after them, on
the first way through the rule and after going back, with variables that other rules have bound meanwhile.  At every
such moment its output arguments are variables that stand for nothing, and the application and the language are called
with as many arguments as they accept (`contracts_kept`).  Of a ground argument the check promises less: its variables
have been mentioned before, so it is without variables just when they stand for terms without variables
(`ground_mentioned`).  That they do is not promised, and need not be so.
-/
namespace Remedy.Query

open Bindings (Extends Untouched)

variable {σ : Type} {b₀ : Bindings} {e : Engine σ} {m m' : Machine σ} {others : σ → Session → σ → Session → Prop}

/-- **The call that the next transition makes**: the activation it is made in, its callee, and the goal with its
arguments at this moment. -/
def Control.invoking? (e : Engine σ) (m : Machine σ) (c : Control) : Option (Activation × Callee × Call) :=
  match c.running e m with
  | some (act, .call callee call) =>
    match Term.instantiateArgs (m.env act) act.base call.args with
    | .ok args => some (act, callee, ⟨call.functor, args⟩)
    | .error _ => none
  | _ => none

/-- **A call honours the contract that the module of its rule sees**: its number of arguments is accepted, and every
output argument is a variable that stands for nothing. -/
structure Honours (l : Library) (b : Bindings) (owner : Nat) (callee : Callee) (goal : Call) : Prop where
  admitted : goal.Admitted callee.arity?
  outputs : ∃ md contract arity, l.module? owner = some md ∧
    (md.scope l).resolve? goal.functor = some (.callee callee contract arity) ∧
      ∀ key t, (key, Constraint.output) ∈ contract → goal.get? key = some t →
        ∃ name x, t = .var name x ∧ b.lookup? x = none

/-- **Contracts are kept at a moment**: by the call that is made next, and by the arguments with which the application
is asked. -/
structure ContractsKept (e : Engine σ) (a : Moment σ) : Prop where
  invoked : ∀ act callee goal, a.control.invoking? e a.machine = some (act, callee, goal) →
    Honours e.library a.machine.bindings act.owner callee goal
  asked : ∀ i, a.control = .ask i → i.args.Admitted (some (i.predicate.least, i.predicate.most))

/-- **The ground arguments of the call that is made next have been mentioned**: their variables are named variables of
the head of the rule or of the goals before the call.  Such an argument stands for a term without variables just when
each of its variables does. -/
def GroundMentioned (e : Engine σ) (a : Moment σ) : Prop :=
  ∀ act callee goal, a.control.invoking? e a.machine = some (act, callee, goal) →
    ∃ md mentioned call rest contract arity, e.library.module? act.owner = some md ∧
      Rest e.library md mentioned (.call callee call :: rest) ∧
      (md.scope e.library).resolve? goal.functor = some (.callee callee contract arity) ∧
        ∀ key t, (key, Constraint.ground) ∈ contract → goal.get? key = some t →
          (∀ v ∈ t.mentions, v.1 ≠ "_" ∧ ∃ u ∈ mentioned, v = Term.shift act.base u) ∧
            ((a.machine.bindings.resolve t).mentions = [] ↔
              ∀ v ∈ t.mentions, (a.machine.bindings.resolve (.var v.1 v.2)).mentions = [])

theorem invoking?_eq_some {c : Control} {act : Activation} {callee : Callee} {goal : Call}
    (h : c.invoking? e m = some (act, callee, goal)) : ∃ call rest fs,
      c = .run (.body act (.call callee call :: rest) :: fs) ∧ goal.functor = call.functor ∧
        Term.instantiateArgs (m.env act) act.base call.args = .ok goal.args := by
  unfold Control.invoking? at h
  split at h
  · rename_i act' callee' call hr
    split at h
    · rename_i args hargs
      cases h
      unfold Control.running at hr
      split at hr
      · rename_i act' g rest fs
        split at hr
        · cases hr
          exact ⟨call, rest, fs, rfl, rfl, hargs⟩
        · cases hr
      · cases hr
    · cases h
  · cases h

/-! ## The whole life of a query -/

/-- **A moment that is secured**: all is in order, and what has not been mentioned is guarded. -/
structure Secured (b₀ : Bindings) (l : Library) (a : Moment σ) : Prop where
  orderly : Orderly b₀ a
  choices : Guarding l a.machine.bindings a.machine.choices.items
  control : a.control.Guarded l a.machine.bindings

theorem secured_finish {l : Library} {q : Query} (h : Orderly b₀ (.after (q.finish m))) :
    Secured b₀ l (.after (q.finish m)) := by
  have hnone : (Moment.after (q.finish m)).machine.choices.items = [] := by
    rw [machine_finish]
    exact items_release m
  refine ⟨h, ?_, ?_⟩
  · rw [hnone]
    exact List.forall_mem_nil _
  · rw [control_finish]
    trivial

/-- **What happens next leaves all secured.** -/
theorem Secured.passes (hb₀ : b₀.Sound) (hs₀ : b₀.Scoped) (hl : e.library.Built) (hh : Grounds e.host)
    (ho : ∀ w s w' s', others w s w' s' → s.facts.Ground → s'.facts.Ground) {a a' : Moment σ}
    (h : Secured b₀ e.library a) (hp : Passes e others a a') : Secured b₀ e.library a' := by
  have horderly := h.orderly.passes hb₀ hs₀ hl.compiled.scoped hh ho hp
  have hmoved : ∀ {q : Query} {c : Control} {m m' : Machine σ} {o : Outcome}, Secured b₀ e.library (.search q c m) →
      m.step e c = (o, m') → GuardedBy e.library o m' := by
    intro q c m m' o h hs
    exact Guarding.moves hb₀ hl.lawful hh h.orderly.kept h.orderly.tidy h.choices h.control (Machine.moves_of_step hs)
  cases hp with
  | @begin q w s frames hq =>
    have hcontrol := h.control
    unfold Moment.control at hcontrol
    simp only [hq] at hcontrol
    exact ⟨horderly, h.choices, hcontrol⟩
  | again hq => exact ⟨horderly, h.choices, trivial⟩
  | move hs =>
    have hm := hmoved h hs
    exact ⟨horderly, hm.choices, hm.control _ rfl⟩
  | solved hs => exact ⟨horderly, (hmoved h hs).choices, trivial⟩
  | exhausted hs => exact secured_finish horderly
  | failed hs => exact secured_finish horderly
  | @close q w s =>
    have hclose : Moment.rest (q.close s).1 w (q.close s).2 = .rest q w s ∨
        Moment.rest (q.close s).1 w (q.close s).2 = .after (q.finish (q.machine w s)) := by
      unfold Query.close
      split
      · exact .inl rfl
      · exact .inr rfl
    rcases hclose with hc | hc
    · rw [hc]
      exact h
    · rw [hc] at horderly ⊢
      exact secured_finish horderly
  | other hw => exact ⟨horderly, h.choices, h.control⟩

theorem secured_entry {l : Library} {owner : Nat} {goal : Call} {vars : VarTable} {q : Query}
    (hq : ofGoal l owner goal vars = .ok q) (w : σ) {s : Session} (hs : s.facts.Ground) :
    Secured (entryBindings goal vars) l (.rest q w s) := by
  have horderly := orderly_entry hq w hs
  obtain ⟨md, g, hmd, hg, rfl⟩ := ofGoal_eq_ok.1 hq
  refine ⟨horderly, List.forall_mem_nil _, List.forall_mem_singleton.2 ?_, List.pairwise_singleton _ _⟩
  refine ⟨md, [], hmd, .entry hg, fun _ _ v _ _ => ?_⟩
  have hempty : Bindings.empty.Untouched (v.2 + 0) := Bindings.scoped_empty.untouched (Nat.zero_le _)
  exact hempty.allocate _

theorem secured_of_comes (hl : e.library.Built) (hh : Grounds e.host)
    (ho : ∀ w s w' s', others w s w' s' → s.facts.Ground → s'.facts.Ground) {owner : Nat} {goal : Call}
    {vars : VarTable} {q : Query} (hq : ofGoal e.library owner goal vars = .ok q) {w : σ} {s : Session}
    (hs : s.facts.Ground) {a : Moment σ} (ha : Comes e others (.rest q w s) a) :
    Secured (entryBindings goal vars) e.library a := by
  have hb₀ : (entryBindings goal vars).Sound := Extends.refl.allocate _
  have hs₀ : (entryBindings goal vars).Scoped := Bindings.scoped_empty.allocate _
  exact ha.keeps (fun _ _ h hp => h.passes hb₀ hs₀ hl hh ho hp) (secured_entry hq w hs)

/-! ## What a call finds -/

/-- **The call that is made next stands in what is left of a rule**, and is lawful there. -/
theorem Secured.invoking (hl : e.library.Built) {a : Moment σ} (h : Secured b₀ e.library a) {act : Activation}
    {callee : Callee} {goal : Call} (hi : a.control.invoking? e a.machine = some (act, callee, goal)) :
    ∃ md mentioned call rest contract arity, e.library.module? act.owner = some md ∧
      Rest e.library md mentioned (.call callee call :: rest) ∧ goal.functor = call.functor ∧
      (md.scope e.library).resolve? goal.functor = some (.callee callee contract arity) ∧
      goal.arity = call.arity ∧ call.Lawful mentioned contract arity ∧
      (∀ key t, goal.get? key = some t →
        ∃ t₀, call.get? key = some t₀ ∧ t₀.instantiate (a.machine.env act) act.base = .ok t) ∧
      ∀ v ∈ call.mentions, (∀ u ∈ mentioned, u.2 ≠ v.2) → a.machine.bindings.Untouched (v.2 + act.base) := by
  obtain ⟨call, rest, fs, hc, hfunctor, hargs⟩ := invoking?_eq_some hi
  have hcontrol := h.control
  rw [hc] at hcontrol
  obtain ⟨⟨md, mentioned, hm, hrest, hv⟩, -⟩ := List.forall_mem_cons.1 hcontrol.each
  obtain ⟨⟨contract, arity, hresolve, hlawful⟩, -⟩ := hrest.lawful (hl.lawful md (List.mem_of_getElem? hm))
  refine ⟨md, mentioned, call, rest, contract, arity, hm, hrest, hfunctor, hfunctor ▸ hresolve,
    Term.length_instantiateArgs hargs, hlawful, fun key t ht => Term.argAt?_instantiateArgs hargs ht, ?_⟩
  exact hv (.call callee call) List.mem_cons_self

theorem Secured.contractsKept (hl : e.library.Built) {a : Moment σ} (h : Secured b₀ e.library a) :
    ContractsKept e a := by
  refine ⟨fun act callee goal hi => ?_, fun i hi => ?_⟩
  · obtain ⟨md, mentioned, call, rest, contract, arity, hm, -, -, hresolve, hlength, hlawful, hget, hfree⟩ :=
      h.invoking hl hi
    refine ⟨?_, md, contract, arity, hm, hresolve, fun key t hkey ht => ?_⟩
    · rw [← Scope.arity_of_resolve? hresolve]
      unfold Call.Admitted
      rw [hlength]
      exact hlawful.admitted
    · obtain ⟨t₀, ht₀, hinst⟩ := hget key t ht
      obtain ⟨name, slot, rfl, hnew⟩ := hlawful.obeys key .output t₀ hkey ht₀
      cases hinst
      exact ⟨name, _, rfl, (hfree (name, slot) (Call.mentions_of_get? ht₀ _ List.mem_cons_self) hnew).free⟩
  · have hcontrol := h.control
    rw [hi] at hcontrol
    exact hcontrol.fits

theorem Secured.groundMentioned (hl : e.library.Built) {a : Moment σ} (h : Secured b₀ e.library a) :
    GroundMentioned e a := by
  intro act callee goal hi
  obtain ⟨md, mentioned, call, rest, contract, arity, hm, hrest, -, hresolve, -, hlawful, hget, -⟩ :=
    h.invoking hl hi
  refine ⟨md, mentioned, call, rest, contract, arity, hm, hrest, hresolve, fun key t hkey ht => ⟨fun v hv => ?_, ?_⟩⟩
  · obtain ⟨t₀, ht₀, hinst⟩ := hget key t ht
    rw [Term.mentions_instantiate hinst] at hv
    obtain ⟨u, hu, rfl⟩ := List.mem_map.1 hv
    obtain ⟨hname, hmem⟩ := hlawful.obeys key .ground t₀ hkey ht₀ u hu
    exact ⟨hname, u, hmem, rfl⟩
  · rw [Bindings.mentions_resolve, List.flatMap_eq_nil_iff]

def search? (e : Engine σ) (q : Query) (w : σ) (s : Session) (i : Nat) : Option (Control × Machine σ) :=
  match q.status with
  | .fresh frames => (q.machine w s).after? e i (.run frames)
  | _ => none

theorem comes_search? {q : Query} {w : σ} {s : Session} {i : Nat} {c : Control} (h : q.search? e w s i = some (c, m)) :
    Comes e others (.rest q w s) (.search q c m) := by
  unfold search? at h
  split at h
  · rename_i frames hq
    exact (Comes.refl.step (.begin hq)).trans (comes_after? q i _ _ h)
  · cases h

/-- **Contracts are kept at every moment in the life of a query** whose modules have been compiled one after the other
and whose application answers with ground terms: an output argument of a call that is made is a variable that stands
for nothing, and predicates of the application and of the language are called with as many arguments as they accept. -/
theorem contracts_kept (e : Engine σ) (others : σ → Session → σ → Session → Prop) (hl : e.library.Built)
    (hh : Grounds e.host) (ho : ∀ w s w' s', others w s w' s' → s.facts.Ground → s'.facts.Ground) {owner : Nat}
    {goal : Call} {vars : VarTable} {q : Query} (hq : ofGoal e.library owner goal vars = .ok q) {w : σ} {s : Session}
    (hs : s.facts.Ground) {a : Moment σ} (ha : Comes e others (.rest q w s) a) : ContractsKept e a :=
  (secured_of_comes hl hh ho hq hs ha).contractsKept hl

/-! The rule `quiet(?X) :- not(Sensor(?Y)), Sensor(?Y), ?X = ?Y`, where `Sensor` is a predicate of the application with
one argument, an output.  Nothing answers, so the rule comes to the second call after the negation, with `?Y` as free
as before. -/

def sensor : External := ⟨"Sensor", 1, some 1, [(.position 0, .output)], false, 0⟩

def sensors : Provider := ⟨[("Sensor", .predicate sensor)], []⟩

def quietRules : List RuleText := RuleText.numbered ["quiet(?X) :- not(Sensor(?Y)), Sensor(?Y), ?X = ?Y"]

def quiet : RuleModule := (RuleModule.compile ⟨[]⟩ "quiet" sensors quietRules).toOption.getD ⟨"", [], [], .none⟩

def quietEngine : Engine Unit := ⟨⟨[quiet]⟩, .silent, .standard⟩

def quietQuery : Query :=
  (ofGoal ⟨[quiet]⟩ 0 ⟨"quiet", [⟨none, .var "Z" 0⟩]⟩ ⟨["Z"]⟩).toOption.getD ⟨[], ⟨0, 0⟩, .ended, .empty, .empty, 0⟩

theorem built_quiet : quietEngine.library.Built := by
  have hok : (RuleModule.compile ⟨[]⟩ "quiet" sensors quietRules).isOk = true := by decide +kernel
  exact .add .empty (List.forall_mem_nil _) (eq_ok_of_isOk hok _)

theorem grounds_silent : Grounds Host.silent := fun _ _ _ _ _ hs => ⟨hs, fun _ ha => nomatch ha⟩

theorem contracts_kept_quiet : quietEngine.library.Built ∧ Grounds quietEngine.host ∧
    ofGoal quietEngine.library 0 ⟨"quiet", [⟨none, .var "Z" 0⟩]⟩ ⟨["Z"]⟩ = .ok quietQuery ∧
      ∃ c m, Comes quietEngine (fun _ _ _ _ => False) (.rest quietQuery () .new) (.search quietQuery c m) ∧
        (c.invoking? quietEngine m).map (·.2.2.display) = some "Sensor(?Y)" ∧
          ContractsKept quietEngine (.search quietQuery c m) := by
  have hok : (ofGoal ⟨[quiet]⟩ 0 ⟨"quiet", [⟨none, .var "Z" 0⟩]⟩ ⟨["Z"]⟩).isOk = true := by decide +kernel
  have hq : ofGoal quietEngine.library 0 ⟨"quiet", [⟨none, .var "Z" 0⟩]⟩ ⟨["Z"]⟩ = .ok quietQuery :=
    eq_ok_of_isOk hok _
  have hsearch : (quietQuery.search? quietEngine () .new 7).map
      (fun r => (r.1.invoking? quietEngine r.2).map (·.2.2.display)) = some (some "Sensor(?Y)") := by decide +kernel
  obtain ⟨⟨c, m⟩, hcm, hcall⟩ := Option.map_eq_some_iff.1 hsearch
  have ha : Comes quietEngine (fun _ _ _ _ => False) (.rest quietQuery () .new) (.search quietQuery c m) :=
    comes_search? hcm
  exact ⟨built_quiet, grounds_silent, hq, c, m, ha, hcall, contracts_kept quietEngine _ built_quiet grounds_silent
    (fun _ _ _ _ h => h.elim) hq Facts.ground_empty ha⟩

/-- **Ground arguments have been mentioned**, at every moment in the life of a query; no more than that has been checked
of them. -/
theorem ground_mentioned (e : Engine σ) (others : σ → Session → σ → Session → Prop) (hl : e.library.Built)
    (hh : Grounds e.host) (ho : ∀ w s w' s', others w s w' s' → s.facts.Ground → s'.facts.Ground) {owner : Nat}
    {goal : Call} {vars : VarTable} {q : Query} (hq : ofGoal e.library owner goal vars = .ok q) {w : σ} {s : Session}
    (hs : s.facts.Ground) {a : Moment σ} (ha : Comes e others (.rest q w s) a) : GroundMentioned e a :=
  (secured_of_comes hl hh ho hq hs ha).groundMentioned hl

/-! The rules `heard(?X) :- var(?X)` and `relay(?X) :- heard(?X)`, where the argument of `heard` is declared to be
ground.  The rule of `relay` mentions `?X` in its head, and so compiles; the query `relay(?Y)` calls `heard` with a
variable. -/

def relayRules : List RuleText :=
  RuleText.numbered ["meta(heard, 0: ground)", "heard(?X) :- var(?X)", "relay(?X) :- heard(?X)"]

def relaying : RuleModule := (RuleModule.compile ⟨[]⟩ "relaying" .none relayRules).toOption.getD ⟨"", [], [], .none⟩

def relayEngine : Engine Unit := ⟨⟨[relaying]⟩, .silent, .standard⟩

def relayQuery : Query :=
  (ofGoal ⟨[relaying]⟩ 0 ⟨"relay", [⟨none, .var "Y" 0⟩]⟩ ⟨["Y"]⟩).toOption.getD ⟨[], ⟨0, 0⟩, .ended, .empty, .empty, 0⟩

theorem built_relaying : relayEngine.library.Built := by
  have hok : (RuleModule.compile ⟨[]⟩ "relaying" .none relayRules).isOk = true := by decide +kernel
  exact .add .empty (List.forall_mem_nil _) (eq_ok_of_isOk hok _)

theorem ofGoal_relaying :
    ofGoal relayEngine.library 0 ⟨"relay", [⟨none, .var "Y" 0⟩]⟩ ⟨["Y"]⟩ = .ok relayQuery := by
  have hok : (ofGoal ⟨[relaying]⟩ 0 ⟨"relay", [⟨none, .var "Y" 0⟩]⟩ ⟨["Y"]⟩).isOk = true := by decide +kernel
  exact eq_ok_of_isOk hok _

theorem search?_relaying : (relayQuery.search? relayEngine () .new 2).map (fun r =>
    (r.1.invoking? relayEngine r.2).map fun i => (i.1.owner, i.2.2.functor, (i.2.2.get? (.position 0)).map fun t =>
      (r.2.bindings.resolve t).mentions.length)) = some (some (0, "heard", some 1)) := by decide +kernel

theorem ground_mentioned_relaying : relayEngine.library.Built ∧ Grounds relayEngine.host ∧
    ofGoal relayEngine.library 0 ⟨"relay", [⟨none, .var "Y" 0⟩]⟩ ⟨["Y"]⟩ = .ok relayQuery ∧
      ∃ c m, Comes relayEngine (fun _ _ _ _ => False) (.rest relayQuery () .new) (.search relayQuery c m) ∧
        (∃ act callee goal, c.invoking? relayEngine m = some (act, callee, goal) ∧ goal.functor = "heard") ∧
          GroundMentioned relayEngine (.search relayQuery c m) := by
  obtain ⟨⟨c, m⟩, hcm, hcall⟩ := Option.map_eq_some_iff.1 search?_relaying
  obtain ⟨⟨act, callee, goal⟩, hi, hgoal⟩ := Option.map_eq_some_iff.1 hcall
  obtain ⟨-, hfunctor, -⟩ : _ ∧ _ ∧ _ := by simpa only [Prod.mk.injEq] using hgoal
  have ha : Comes relayEngine (fun _ _ _ _ => False) (.rest relayQuery () .new) (.search relayQuery c m) :=
    comes_search? hcm
  exact ⟨built_relaying, grounds_silent, ofGoal_relaying, c, m, ha, ⟨act, callee, goal, hi, hfunctor⟩,
    ground_mentioned relayEngine _ built_relaying grounds_silent (fun _ _ _ _ h => h.elim) ofGoal_relaying
      Facts.ground_empty ha⟩

def contractOf : Resolution → Contract
  | .callee _ contract _ => contract
  | .notApplicable => []

theorem contract_heard {callee : Callee} {contract : Contract} {arity : Option (Nat × Option Nat)}
    (h : (relaying.scope relayEngine.library).resolve? "heard" = some (.callee callee contract arity)) :
    contract = [(.position 0, .ground)] := by
  have hseen : ((relaying.scope relayEngine.library).resolve? "heard").map contractOf =
      some [(.position 0, .ground)] := by decide +kernel
  rw [h] at hseen
  exact Option.some.inj hseen

/-- The call of `heard` is made with an argument that is declared to be ground and stands for a variable. -/
theorem ground_unbound_relaying : relayEngine.library.Built ∧ Grounds relayEngine.host ∧
    ofGoal relayEngine.library 0 ⟨"relay", [⟨none, .var "Y" 0⟩]⟩ ⟨["Y"]⟩ = .ok relayQuery ∧
      ∃ c m, Comes relayEngine (fun _ _ _ _ => False) (.rest relayQuery () .new) (.search relayQuery c m) ∧
        ∃ act callee goal contract arity t, c.invoking? relayEngine m = some (act, callee, goal) ∧
          relayEngine.library.module? act.owner = some relaying ∧
          (relaying.scope relayEngine.library).resolve? goal.functor = some (.callee callee contract arity) ∧
          (ArgKey.position 0, Constraint.ground) ∈ contract ∧ goal.get? (.position 0) = some t ∧
          (m.bindings.resolve t).mentions ≠ [] := by
  obtain ⟨⟨c, m⟩, hcm, hcall⟩ := Option.map_eq_some_iff.1 search?_relaying
  obtain ⟨⟨act, callee, goal⟩, hi, hgoal⟩ := Option.map_eq_some_iff.1 hcall
  obtain ⟨howner, hfunctor, hget⟩ : _ ∧ _ ∧ _ := by simpa only [Prod.mk.injEq] using hgoal
  obtain ⟨t, ht, hvars⟩ := Option.map_eq_some_iff.1 hget
  have ha : Comes relayEngine (fun _ _ _ _ => False) (.rest relayQuery () .new) (.search relayQuery c m) :=
    comes_search? hcm
  have hsecured := secured_of_comes built_relaying grounds_silent (fun _ _ _ _ h => h.elim) ofGoal_relaying
    Facts.ground_empty ha
  obtain ⟨md, _, _, _, contract, arity, hm, -, hresolve, -⟩ := hsecured.groundMentioned built_relaying _ _ _ hi
  have hmodule : relayEngine.library.module? act.owner = some relaying := by
    rw [howner]
    rfl
  have hmd : md = relaying := Option.some.inj (hm.symm.trans hmodule)
  rw [hmd] at hresolve
  have hcontract : contract = [(.position 0, .ground)] := contract_heard (hfunctor ▸ hresolve)
  refine ⟨built_relaying, grounds_silent, ofGoal_relaying, c, m, ha, act, callee, goal, contract, arity, t, hi, hmodule,
    hresolve, ?_, ht, ?_⟩
  · rw [hcontract]
    exact List.mem_singleton_self _
  · exact List.ne_nil_of_length_pos (hvars ▸ Nat.zero_lt_one)

end Remedy.Query
