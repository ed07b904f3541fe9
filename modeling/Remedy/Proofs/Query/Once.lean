import Remedy.Proofs.Query.Record
/-!
# Proofs.Query.Once — a predicate that answers once is asked once for each call

A call of the application that the search comes to is first only laid out as a choice; the next transitions go back to
this choice and ask.  Until then the call is owed (`Pending.owed`).  A choice that has been asked stays on the stack, as
if there could be another answer, but for a predicate that answers once nobody is asked again.  So in every run in
which nothing is cancelled the record of what the application has been asked lists the calls that the search has come
to, each once, in their order, but for the one that is owed (`Accounts.moves`); and nothing is owed while a goal is run
or the query waits (`asked_once`).
-/
namespace Remedy.Query

variable {σ : Type}

def Machine.called (m : Machine σ) (act : Activation) : Goal Callee → List Asked
  | .call (.external p) c =>
    match Term.instantiateArgs (m.env act) act.base c.args with
    | .ok args => [(p, m.bindings.resolveCall ⟨c.functor, args⟩)]
    | .error _ => []
  | _ => []

/-- **The call of the application that the next transition comes to.** -/
def Control.calling (e : Engine σ) (m : Machine σ) (c : Control) : List Asked :=
  match c.running e m with
  | some (act, g) => m.called act g
  | none => []

/-- The call that is come to at a moment; a query that waits comes to none. -/
def Moment.calls (e : Engine σ) : Moment σ → List Asked
  | .rest _ _ _ => []
  | .search _ c m => c.calling e m

def Moment.Calm (a : Moment σ) : Prop := ∀ k, a.machine.forest.isCancelled k = false

/-- **A run in which nothing is cancelled**, and the calls of the application that it has come to, in their order. -/
inductive Runs (e : Engine σ) (others : σ → Session → σ → Session → Prop) (a : Moment σ) : List Asked → Moment σ → Prop
  | refl : Runs e others a [] a
  | step {calls : List Asked} {b c : Moment σ} (h : Runs e others a calls b) (hb : b.Calm)
    (hp : Passes e others b c) : Runs e others a (calls ++ b.calls e) c

/-- **Where nothing is ever cancelled, all that comes comes in a run.** -/
theorem Comes.runs {e : Engine σ} {others : σ → Session → σ → Session → Prop} {a b : Moment σ}
    (hc : ∀ b, Comes e others a b → b.Calm) (h : Comes e others a b) : ∃ calls, Runs e others a calls b := by
  induction h with
  | refl => exact ⟨[], .refl⟩
  | step h hp ih =>
    obtain ⟨calls, hr⟩ := ih
    exact ⟨_, hr.step (hc _ h) hp⟩

theorem Comes.calm {e : Engine σ} {others : σ → Session → σ → Session → Prop} {a b : Moment σ}
    (hh : ∀ w s p args n, (∀ k, s.tree.forest.isCancelled k = false) →
      ∀ k, (e.host.ask w s p args n).session.tree.forest.isCancelled k = false)
    (ho : ∀ w s w' s', others w s w' s' → (∀ k, s.tree.forest.isCancelled k = false) →
      ∀ k, s'.tree.forest.isCancelled k = false)
    (h : Comes e others a b) (ha : a.Calm) : b.Calm :=
  h.keeps (P := Moment.Calm) (fun _ _ ha hp => Passes.keeps_forest (fun ht hf => ht.keeps_calm hf) hh ho hp ha) ha

def once (l : List Asked) : List Asked := l.filter (·.1.once)

theorem once_append (k l : List Asked) : once (k ++ l) = once k ++ once l := List.filter_append _ _

/-! ## What is owed -/

/-- What the first transition of an alternative still has to ask. -/
def Pending.owed : Pending → List Asked
  | .call _ _ _ (.answers p args 0) => once [(p, args)]
  | _ => []

theorem length_owed_le : ∀ (p : Pending), p.owed.length ≤ 1
  | .negation | .call _ _ _ (.clauses _ _) | .call _ _ _ (.facts _) | .call _ _ _ (.answers _ _ (_ + 1)) =>
    Nat.zero_le 1
  | .call _ _ _ (.answers p args 0) => List.length_filter_le (fun a : Asked => a.1.once) [(p, args)]

variable {calls : List Asked} {e : Engine σ} {m m' : Machine (σ × List Asked)} {o : Outcome}

structure Paid (calls : List Asked) (m : Machine (σ × List Asked)) : Prop where
  record : once calls = once m.world.2
  choices : ∀ c ∈ m.choices.items, c.pending.owed = []

/-- All calls have been asked, each once, but for what the newest choice owes. -/
def Owes (calls record : List Asked) : List Choice → Prop
  | [] => once calls = once record
  | c :: cs => once calls = once record ++ c.pending.owed ∧ ∀ d ∈ cs, d.pending.owed = []

/-- **The calls that have been come to have been asked, each once**, but for the one that is about to be asked. -/
def Accounts (calls : List Asked) (m : Machine (σ × List Asked)) : Control → Prop
  | .run _ => Paid calls m
  | .backtrack => Owes calls m.world.2 m.choices.items
  | .ask i => Owes calls m.world.2 (i.choice :: m.choices.items)

def Reckoned (calls : List Asked) (m : Machine (σ × List Asked)) : Outcome → Prop
  | .more c => Accounts calls m c
  | .solved => Paid calls m
  | .exhausted => once calls = once m.world.2
  | .failed _ => once calls = once m.world.2

theorem Paid.owes (h : Paid calls m) : Owes calls m.world.2 m.choices.items := by
  obtain ⟨hr, hc⟩ := h
  cases hi : m.choices.items with
  | nil => exact hr
  | cons c cs =>
    rw [hi] at hc
    refine ⟨?_, fun d hd => hc d (List.mem_cons_of_mem _ hd)⟩
    rw [hc c List.mem_cons_self, List.append_nil]
    exact hr

theorem Paid.proceed (h : Paid calls m) {success : Bool} {after : List Frame} :
    Reckoned calls m (.proceed success after) := by
  cases success with
  | true => exact h
  | false => exact h.owes

theorem Paid.congr (h : Paid calls m) (hw : m'.world = m.world) (hc : ∀ c ∈ m'.choices.items, c ∈ m.choices.items) :
    Paid calls m' := by
  refine ⟨?_, fun c hm => h.choices c (hc c hm)⟩
  rw [hw]
  exact h.record

theorem Paid.cut (h : Paid calls m) (height : Nat) (keep : Option Nat) : Paid calls (m.cut height keep) :=
  h.congr rfl fun _ hc => List.mem_of_mem_drop hc

theorem Paid.push (h : Paid calls m) {c : Choice} (hc : c.pending.owed = []) : Paid calls (m.push c) :=
  ⟨h.record, List.forall_mem_cons.2 ⟨hc, h.choices⟩⟩

/-! ## Every transition keeps the accounts -/

theorem owed_alternatives {act : Activation} {callee : Callee} {c : Call} {args : List (Arg Term)} {untried : Untried}
    (hargs : Term.instantiateArgs (m.env act) act.base c.args = .ok args)
    (hu : m.alternatives? e.recorded act ⟨c.functor, args⟩ callee = some untried) (goal : Call) (k : Nat) :
    (Pending.call goal k false untried).owed = once (m.called act (.call callee c)) := by
  cases callee with
  | builtin b => cases hu
  | own index =>
    cases hu
    rfl
  | foreign owner index =>
    cases hu
    rfl
  | facts name =>
    cases hu
    rfl
  | external p =>
    cases hu
    unfold Machine.called
    simp only [hargs]
    rfl

/-- **Running a goal** adds what it calls to what is owed. -/
theorem Paid.executes (h : Paid calls m) {act : Activation} {after : List Frame} {g : Goal Callee}
    (hx : m.Executes e.recorded act after g o m') : Reckoned (calls ++ m.called act g) m' o := by
  have hsame : ∀ {g : Goal Callee}, m.called act g = [] → Paid (calls ++ m.called act g) m := by
    intro g hg
    rw [hg, List.append_nil]
    exact h
  cases hx with
  | fault g cause hf =>
    have hg : m.called act g = [] := by
      unfold Machine.called
      split
      · rename_i p c
        obtain ⟨x, hx⟩ := hf p c rfl
        rw [hx]
      · rfl
    exact (hsame hg).record
  | cut => exact (hsame (g := .cut) rfl).cut _ _
  | @unify a b s t ha hb =>
    refine Paid.proceed ?_
    exact Paid.congr (hsame (g := .unify a b) rfl) rfl fun _ hc => hc
  | @is a t x v ha =>
    refine Paid.proceed ?_
    exact Paid.congr (hsame (g := .is a x) rfl) rfl fun _ hc => hc
  | test x success => exact (hsame (g := .test x) rfl).proceed
  | not g => exact (hsame (g := .not g) rfl).push rfl
  | check b c success => exact (hsame (g := .call (.builtin b) c) rfl).proceed
  | assert b c hs =>
    refine Paid.proceed ?_
    exact Paid.congr (hsame (g := .call (.builtin b) c) rfl) rfl fun _ hc => hc
  | retract b c hargs hp hr =>
    refine Paid.proceed ?_
    exact Paid.congr (hsame (g := .call (.builtin b) c) rfl) rfl fun _ hc => hc
  | log b c message =>
    refine Paid.proceed ?_
    exact Paid.congr (hsame (g := .call (.builtin b) c) rfl) rfl fun _ hc => hc
  | @offer callee c args untried hargs hu =>
    refine ⟨?_, h.choices⟩
    rw [once_append, h.record]
    exact congrArg (once m.world.2 ++ ·) (owed_alternatives hargs hu _ _).symm

theorem Paid.keep (h : Paid calls m) {c : Choice} {goal : Call} {k : Nat} {left : Bool} {untried : Untried}
    (hu : (Pending.call goal k true untried).owed = []) : Paid calls (m.keep c goal k left untried) := by
  unfold Machine.keep
  split
  · exact h.push hu
  · exact h

/-- **Going back to a choice** that has been taken off the stack leaves what it owes to be asked. -/
theorem accounts_resumes {c : Choice} (hr : once calls = once m.world.2 ++ c.pending.owed)
    (hc : ∀ d ∈ m.choices.items, d.pending.owed = []) (h : m.Resumes c o m') : Reckoned calls m' o := by
  have hpaid : c.pending.owed = [] → ∀ k tried b, Paid calls ((m.retry k tried).withBindings b) := by
    intro ho k tried b
    refine ⟨?_, ?_⟩
    · have hw : ((m.retry k tried).withBindings b).world = m.world := Machine.world_retry m k tried
      rw [hw, hr, ho, List.append_nil]
    · have hcs : ((m.retry k tried).withBindings b).choices = m.choices := Machine.choices_retry m k tried
      rw [hcs]
      exact hc
  cases h with
  | negation hp =>
    rw [hp] at hr
    exact ⟨hr.trans (List.append_nil _), hc⟩
  | @noClause goal k owner tried clauses b hp hf =>
    refine Paid.owes ?_
    exact Paid.congr (hpaid (by rw [hp]; rfl) k tried b) rfl fun _ hd => hd
  | @clause goal k owner base tried clauses rest cl b hp hf => exact (hpaid (by rw [hp]; rfl) k tried b).keep rfl
  | @noFact goal k tried facts b hp hf =>
    refine Paid.owes ?_
    exact Paid.congr (hpaid (by rw [hp]; rfl) k tried b) rfl fun _ hd => hd
  | @fact goal k tried facts rest b hp hf => exact (hpaid (by rw [hp]; rfl) k tried b).keep rfl
  | @answers goal args k asked tried p hp =>
    refine ⟨?_, ?_⟩
    · rw [Machine.world_retry, hr, hp]
      cases asked <;> rfl
    · rw [Machine.choices_retry]
      exact hc

/-- **What an inquiry owes is asked**, and nothing else of a predicate that answers once. -/
theorem once_reply (i : Inquiry) (hc : m.forest.isCancelled i.context = false) :
    once (m.reply e.recorded i).2.1.2 = once m.world.2 ++ i.choice.pending.owed := by
  have hcalm : m.session.tree.forest.isCancelled i.context = false := hc
  unfold Machine.reply Host.next
  rw [hcalm, if_neg Bool.false_ne_true]
  split
  · rename_i h
    obtain ⟨_, hn⟩ := Bool.and_eq_true_iff.1 h
    have howed : i.choice.pending.owed = [] := by
      unfold Inquiry.choice
      cases ha : i.asked with
      | zero =>
        rw [ha] at hn
        cases hn
      | succ n => rfl
    rw [howed, List.append_nil]
  · rename_i h
    have hrec : once (m.world.2 ++ [(i.predicate, i.args)]) = once m.world.2 ++ i.choice.pending.owed := by
      rw [once_append]
      refine congrArg (once m.world.2 ++ ·) ?_
      unfold Inquiry.choice
      cases ha : i.asked with
      | zero => rfl
      | succ n =>
        cases ho : i.predicate.once with
        | true =>
          rw [ha, ho] at h
          exact absurd rfl h
        | false =>
          unfold once
          rw [List.filter_cons_of_neg (by rw [ho]; exact Bool.false_ne_true)]
          rfl
    exact hrec

/-- **Asking pays.** -/
theorem accounts_ask {i : Inquiry} (h : Accounts calls m (.ask i)) (hc : m.forest.isCancelled i.context = false)
    (hm : m.Moves e.recorded (.ask i) o m') : Reckoned calls m' o := by
  obtain ⟨hr, hcs⟩ := h
  rw [← once_reply (e := e) i hc] at hr
  cases hm with
  | refused ha =>
    rw [ha] at hr
    exact hr
  | @noAnswer i w s ha =>
    rw [ha] at hr
    exact (⟨hr, hcs⟩ : Paid calls ((m.heard w s).onTree (·.detach i.context))).owes
  | @answer i a w s ha hu =>
    rw [ha] at hr
    exact (⟨hr, hcs⟩ : Paid calls ((m.heard w s).withBindings (m.matched i a).1)).push rfl
  | misfitStopped ha hu ht =>
    rw [ha] at hr
    exact hr
  | misfit ha hu ht =>
    rw [ha] at hr
    exact ⟨hr.trans (List.append_nil _).symm, hcs⟩

theorem called_record (m : Machine σ) (o : Options) (act : Activation) (g g' : Goal Callee) :
    (m.ticked.record o g').called act g = m.called act g := by
  unfold Machine.record
  split <;> rfl

/-- **Every transition keeps the accounts**, if nothing is cancelled. -/
theorem Accounts.moves {c : Control} (h : Accounts calls m c) (hc : ∀ k, m.forest.isCancelled k = false)
    (hm : m.Moves e.recorded c o m') : Reckoned (calls ++ c.calling e.recorded m) m' o := by
  -- only a goal that is run comes to a call
  have hnone : ∀ {c : Control}, c.running e.recorded m = none → calls ++ c.calling e.recorded m = calls := by
    intro c hg
    unfold Control.calling
    rw [hg, List.append_nil]
  cases c with
  | ask i =>
    rw [hnone rfl]
    exact accounts_ask h (hc _) hm
  | backtrack =>
    rw [hnone rfl]
    unfold Accounts at h
    cases hm with
    | exhausted hp =>
      rw [items_of_pop_none hp] at h
      exact h
    | @back d ds o m' hp hr =>
      rw [items_of_pop hp] at h
      obtain ⟨hrec, hds⟩ := h
      exact accounts_resumes (m := ({ m with choices := ds } : Machine _).rewind d.checkpoint) hrec hds hr
  | run frames =>
    cases hm with
    | solved => exact (hnone (c := .run []) rfl).symm ▸ h
    | @stopped f fs cause ht =>
      have hrun : Control.running e.recorded m (.run (f :: fs)) = none := by
        unfold Control.running
        split
        · rw [ht]
          rfl
        · rfl
      rw [hnone hrun]
      exact h.record
    | exit ht | bodyEnd ht =>
      rw [hnone rfl]
      exact Paid.congr h rfl fun _ hd => hd
    | negated ht =>
      rw [hnone rfl]
      exact (Paid.cut (m := m.ticked) ⟨h.record, h.choices⟩ _ _).owes
    | @goal act g rest fs o m' ht hx =>
      have hrun : Control.running e.recorded m (.run (.body act (g :: rest) :: fs)) = some (act, g) := by
        unfold Control.running
        rw [ht]
        rfl
      have hcall : Control.calling e.recorded m (.run (.body act (g :: rest) :: fs)) = m.called act g := by
        unfold Control.calling
        rw [hrun]
      have hp : Paid calls (m.ticked.record e.recorded.options g) := by
        unfold Machine.record
        split
        · exact ⟨h.record, h.choices⟩
        · exact ⟨h.record, h.choices⟩
      rw [hcall, ← called_record m e.recorded.options act g g]
      exact hp.executes hx

/-! ## The whole life of a query -/

/-- The accounts of a query; while it waits, nothing is owed. -/
def Tallied (calls : List Asked) : Moment (σ × List Asked) → Prop
  | .rest q w s => Paid calls (q.machine w s)
  | .search _ c m => Accounts calls m c

variable {others : σ → Session → σ → Session → Prop}

theorem tallied_finish {q : Query} (h : once calls = once m.world.2) : Tallied calls (.after (q.finish m)) := by
  have hp : Paid calls (Moment.after (q.finish m)).machine := by
    rw [machine_finish]
    refine ⟨h, ?_⟩
    have hi : (m.release.onTree fun t => (t.clear 0).setStable 0 true).choices.items = [] := items_release m
    rw [hi]
    exact List.forall_mem_nil _
  exact hp

/-- **What happens next keeps the accounts**, if nothing is cancelled. -/
theorem Tallied.passes {a b : Moment (σ × List Asked)} (h : Tallied calls a) (ha : a.Calm)
    (hp : Passes e.recorded (recordedOthers others) a b) : Tallied (calls ++ a.calls e.recorded) b := by
  have hmoved : ∀ {q : Query} {c : Control} {m m' : Machine (σ × List Asked)} {o : Outcome},
      Tallied calls (.search q c m) → Moment.Calm (.search q c m) → m.step e.recorded c = (o, m') →
        Reckoned (calls ++ c.calling e.recorded m) m' o := by
    intro q c m m' o h hc hs
    exact Accounts.moves h hc (Machine.moves_of_step hs)
  have hidle : ∀ {q : Query} {w : σ × List Asked} {s : Session},
      calls ++ Moment.calls e.recorded (.rest q w s) = calls := List.append_nil _
  cases hp with
  | begin hq =>
    rw [hidle]
    exact h
  | again hq =>
    rw [hidle]
    exact Paid.owes h
  | move hs => exact hmoved h ha hs
  | solved hs => exact hmoved h ha hs
  | exhausted hs => exact tallied_finish (hmoved h ha hs)
  | @failed q c m m' cause hs => exact tallied_finish (m := m'.rewind q.origin) (hmoved h ha hs)
  | @close q w s =>
    rw [hidle]
    unfold Query.close
    split
    · exact h
    · exact tallied_finish (m := q.machine w s) h.record
  | @other q w w' s s' hw =>
    rw [hidle]
    have hr : once calls = once w.2 := h.record
    exact ⟨hr.trans (congrArg once hw.2.symm), h.choices⟩

/-- **Each call of a predicate that answers once has been asked once**: while the query waits, and while it is about to
run a goal, the application has been asked just the calls that have been come to; at any time, all of them but the last
at most. -/
structure AskedOnce (calls : List Asked) (b : Moment (σ × List Asked)) : Prop where
  waiting : ∀ q w s, b = .rest q w s → once w.2 = once calls
  running : ∀ q frames m, b = .search q (.run frames) m → once m.world.2 = once calls
  always : ∃ owed, owed.length ≤ 1 ∧ once calls = once b.machine.world.2 ++ owed

theorem Owes.some {record : List Asked} {choices : List Choice} (h : Owes calls record choices) :
    ∃ owed, owed.length ≤ 1 ∧ once calls = once record ++ owed := by
  cases choices with
  | nil => exact ⟨[], Nat.zero_le 1, h.trans (List.append_nil _).symm⟩
  | cons c cs => exact ⟨_, length_owed_le c.pending, h.1⟩

theorem Tallied.askedOnce {b : Moment (σ × List Asked)} (h : Tallied calls b) : AskedOnce calls b := by
  have hpaid : ∀ {m : Machine (σ × List Asked)}, Paid calls m →
      ∃ owed, owed.length ≤ 1 ∧ once calls = once m.world.2 ++ owed :=
    fun hp => ⟨[], Nat.zero_le 1, hp.record.trans (List.append_nil _).symm⟩
  refine ⟨?_, ?_, ?_⟩
  · rintro q w s rfl
    exact h.record.symm
  · rintro q frames m rfl
    exact h.record.symm
  · cases b with
    | rest q w s => exact hpaid h
    | search q c m =>
      cases c with
      | run frames => exact hpaid h
      | backtrack => exact Owes.some h
      | ask i =>
        have ho : Owes calls m.world.2 (i.choice :: m.choices.items) := h
        exact ho.some

theorem world_holds {l : Library} {owner : Nat} {goal : Call} {q : Query} (e : Engine σ) (hl : e.library = l)
    (hq : ofGoal l owner goal .empty = .ok q) (w : σ) (s : Session) :
    (holds e owner goal w s).2.1 = (q.next e w s).2.2.1 := by
  unfold holds
  rw [hl, hq]
  simp only
  rcases q.next e w s with ⟨cause | found, q', w', s'⟩ <;> rfl

/-- **A predicate that answers once is asked once for each call**, in every run of a query in which nothing is
cancelled; and asking whether a goal has a solution asks for no more than the first solution. -/
theorem asked_once (e : Engine σ) (others : σ → Session → σ → Session → Prop) (owner : Nat) (goal : Call) (w : σ)
    (s : Session) :
    (∀ vars q calls b, ofGoal e.library owner goal vars = .ok q →
      Runs e.recorded (recordedOthers others) (.rest q (w, []) s) calls b → AskedOnce calls b) ∧
    ∀ q, ofGoal e.library owner goal .empty = .ok q →
      (holds e.recorded owner goal (w, []) s).2.1 = (q.next e.recorded (w, []) s).2.2.1 := by
  refine ⟨fun vars q calls b hq hr => ?_, fun q hq => world_holds e.recorded rfl hq _ _⟩
  have hstart : Tallied [] (.rest q (w, []) s) := by
    obtain ⟨md, g, -, -, rfl⟩ := ofGoal_eq_ok.1 hq
    exact ⟨rfl, List.forall_mem_nil _⟩
  have htallied : Tallied calls b := by
    induction hr with
    | refl => exact hstart
    | step _ hb hp ih => exact ih.passes hb hp
  exact htallied.askedOnce

/-! ## An example

The rules `broken("a")`, `broken("b")` and `mitigate(?X) :- broken(?X), restart(?X)`, where `restart` is a predicate of
the application that answers once.  In the search for two solutions it is asked once for each. -/

def restart : External := ⟨"restart", 1, some 1, [], true, 0⟩

def repairing : RuleModule :=
  let x : List (Arg Term) := [⟨none, .var "X" 0⟩]
  let broken (name : String) : Clause Callee := ⟨⟨"broken", [⟨none, .const (.string name)⟩]⟩, [], .empty, name, 1⟩
  ⟨"repairing", [⟨"broken", .rules, true, [broken "a", broken "b"], []⟩,
    ⟨"mitigate", .rules, true, [⟨⟨"mitigate", x⟩, [.call (.own 0) ⟨"broken", x⟩, .call (.external restart) ⟨"restart", x⟩],
      ⟨["X"]⟩, "mitigate", 1⟩], []⟩], [], .none⟩

def obliging : Host Unit := ⟨fun w s _ _ _ => ⟨w, s, .millis 0, .ok (some [])⟩⟩

def repairingEngine : Engine (Unit × List Asked) := Engine.recorded ⟨⟨[repairing]⟩, obliging, .standard⟩

/-- What is left after two calls of `next`. -/
def twoRepairs (q : Query) : Query × (Unit × List Asked) × Session :=
  let first := (q.next repairingEngine ((), []) .new).2
  (first.1.next repairingEngine first.2.1 first.2.2).2

theorem asked_once_repairing : ∃ q, ofGoal ⟨[repairing]⟩ 0 ⟨"mitigate", [⟨none, .var "X" 0⟩]⟩ ⟨["X"]⟩ = .ok q ∧
    (twoRepairs q).2.1.2.map (·.2.display) = ["restart(\"a\")", "restart(\"b\")"] ∧
      ∃ calls, Runs repairingEngine (recordedOthers fun _ _ _ _ => False) (.rest q ((), []) .new) calls
          (.after (twoRepairs q)) ∧ AskedOnce calls (.after (twoRepairs q)) := by
  refine ⟨_, rfl, by decide +kernel, ?_⟩
  suffices h : ∀ q, ofGoal ⟨[repairing]⟩ 0 ⟨"mitigate", [⟨none, .var "X" 0⟩]⟩ ⟨["X"]⟩ = .ok q →
      ∃ calls, Runs repairingEngine (recordedOthers fun _ _ _ _ => False) (.rest q ((), []) .new) calls
        (.after (twoRepairs q)) ∧ AskedOnce calls (.after (twoRepairs q)) from h _ rfl
  intro q hq
  have hcalm : Moment.Calm (.rest q (((), []) : Unit × List Asked) .new) := by
    intro k
    cases k <;> rfl
  have hcomes : Comes repairingEngine (recordedOthers fun _ _ _ _ => False) (.rest q ((), []) .new)
      (.after (twoRepairs q)) :=
    (comes_next repairingEngine _ q ((), []) .new).trans (comes_next repairingEngine _ _ _ _)
  obtain ⟨calls, hr⟩ := hcomes.runs fun b hb => hb.calm (fun _ _ _ _ _ hs => hs) (fun _ _ _ _ h => h.1.elim) hcalm
  exact ⟨calls, hr, (asked_once ⟨⟨[repairing]⟩, obliging, .standard⟩ _ 0 _ () .new).1 _ q calls _ hq hr⟩

end Remedy.Query
