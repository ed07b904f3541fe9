import Remedy.Proofs.Bindings.Reach
import Remedy.Proofs.Query.Contracts
import Remedy.Proofs.Query.Rewinding
/-!
# Proofs.Query.Capture — which variables an answer touches

The rules that a call runs get slots of their own for their variables.  The variables of an answer do not: their slots
are taken as they are.  So an answer touches what the arguments that it mentions reach, and what its own variables
reach (`answer_touches`).  If these are apart — they are variables that the mentioned arguments reach, or their slots
lie beyond all that there are, or there are none — only the mentioned arguments are touched, and every other variable
of the query and of the rules being run stays as it is.  If not, an answer captures variables that have nothing to do
with the arguments that it mentions (`answer_captures`).
-/
namespace Remedy.Query

open Bindings (Touches)

variable {σ : Type} {b : Bindings} {e : Engine σ} {m m' : Machine σ} {Q : Nat → Prop}

def mentionedArgs (goal : Call) (a : Answer) : List Term := a.filterMap fun (key, _) => goal.get? key

def givenTerms (goal : Call) (a : Answer) : List Term := a.filterMap fun (key, t) => (goal.get? key).map fun _ => t

/-- The slots of the variables that the mentioned arguments reach, and those that there are not yet. -/
def Reserved (b : Bindings) (goal : Call) (a : Answer) (x : Nat) : Prop :=
  b.Reaches (mentionedArgs goal a) x ∨ b.size ≤ x

/-- **What an answer touches**, from the bindings of the moment of the call to those after it. -/
structure TouchesBy (b c : Bindings) (goal : Call) (a : Answer) : Prop where
  all : Touches (b.Reaches (mentionedArgs goal a ++ givenTerms goal a)) b c
  ground : (∀ x ∈ a, x.2.isGround = true) → Touches (b.Reaches (mentionedArgs goal a)) b c
  apart : (∀ t ∈ givenTerms goal a, t.Inside (Reserved b goal a)) → Touches (Reserved b goal a) b c

theorem inside_answerEquations {goal : Call} {a : Answer} (hm : ∀ t ∈ mentionedArgs goal a, t.Inside Q)
    (hg : ∀ t ∈ givenTerms goal a, t.Inside Q) : ∀ x ∈ answerEquations goal a, x.Inside Q := by
  intro x hx
  obtain ⟨⟨key, t⟩, hmem, hx⟩ := List.mem_filterMap.1 hx
  obtain ⟨u, hu, rfl⟩ := Option.map_eq_some_iff.1 hx
  have hgiven : t ∈ givenTerms goal a := List.mem_filterMap.2 ⟨_, hmem, Option.map_eq_some_iff.2 ⟨u, hu, rfl⟩⟩
  exact ⟨hm u (List.mem_filterMap.2 ⟨_, hmem, hu⟩), hg t hgiven⟩

theorem closed_reserved (b : Bindings) (goal : Call) (a : Answer) : b.Closed (Reserved b goal a) := by
  intro i t hi ht v hv
  rcases hi with hi | hi
  · exact .inl (.next hi ht hv)
  · exact absurd (Bindings.lt_size_of_lookup? ht) (Nat.not_lt.2 hi)

theorem inside_of_ground {goal : Call} {a : Answer} (ha : ∀ x ∈ a, x.2.isGround = true) :
    ∀ t ∈ givenTerms goal a, t.Inside Q := by
  intro t ht v hv
  obtain ⟨⟨key, u⟩, hmem, hu⟩ := List.mem_filterMap.1 ht
  obtain ⟨_, -, rfl⟩ := Option.map_eq_some_iff.1 hu
  rw [Term.mentions_eq_nil (ha _ hmem)] at hv
  cases hv

/-- **An answer touches slots of any closed kind** of which the variables of the mentioned arguments and its own are. -/
theorem touches_answer (hb : b.Sound) (hQ : b.Closed Q) {goal : Call} {a : Answer}
    (hm : ∀ t ∈ mentionedArgs goal a, t.Inside Q) (hg : ∀ t ∈ givenTerms goal a, t.Inside Q) :
    Touches Q b (b.unifyAll (answerEquations goal a)).1 :=
  (Bindings.binds_unifyAll hQ (inside_answerEquations hm hg)).touches (Bindings.extends_unifyAll hb _) hb

theorem touchesBy_unifyAll (hb : b.Sound) (goal : Call) (a : Answer) :
    TouchesBy b (b.unifyAll (answerEquations goal a)).1 goal a := by
  refine ⟨?_, fun hground => ?_, fun hapart => ?_⟩
  · exact touches_answer hb (b.closed_reaches _) (fun _ ht _ hv => .start (List.mem_append_left _ ht) hv)
      fun _ ht _ hv => .start (List.mem_append_right _ ht) hv
  · exact touches_answer hb (b.closed_reaches _) (fun _ ht _ hv => .start ht hv) (inside_of_ground hground)
  · exact touches_answer hb (closed_reserved b goal a) (fun _ ht _ hv => .inl (.start ht hv)) hapart

theorem bindings_of_answered {i : Inquiry} {a : Answer} {o : Outcome} (hr : (m.reply e i).1 = .ok (some a))
    (hs : m.step e (.ask i) = (o, m')) : m'.bindings = (m.matched i a).1 := by
  have hanswer : ∀ {x : Answer} {w : σ} {s : Session}, m.reply e i = (.ok (some x), w, s) → x = a := by
    intro x w s h
    rw [h] at hr
    cases hr
    rfl
  cases Machine.moves_of_step hs with
  | refused h | noAnswer h =>
    rw [h] at hr
    cases hr
  | answer h | misfitStopped h | misfit h =>
    cases hanswer h
    rfl

/-- **What an answer touches**, at any time in the life of a query: the slots that the arguments it mentions reach, and
those that its own variables reach.  Where these are apart, it touches no variable that the mentioned arguments do not
reach. -/
theorem answer_touches (e : Engine σ) (others : σ → Session → σ → Session → Prop) {owner : Nat} {goal : Call}
    {vars : VarTable} {q q' : Query} (hq : ofGoal e.library owner goal vars = .ok q) {w : σ} {s : Session} {i : Inquiry}
    (ha : Comes e others (.rest q w s) (.search q' (.ask i) m)) {a : Answer} (hr : (m.reply e i).1 = .ok (some a))
    {o : Outcome} (hs : m.step e (.ask i) = (o, m')) :
    TouchesBy (m.bindings.rewind i.checkpoint) m'.bindings i.goal a := by
  rw [bindings_of_answered hr hs]
  exact touchesBy_unifyAll (sound_rewind hq ha) i.goal a

/-! The rule `p(?A, ?B) :- Ext(?A, ?B), ?B = 1`, where `Ext` is a predicate of the application that answers once, with
a variable for its second argument.  When it is called there are four slots: those of the query's `?A` and `?B` hold
the rule's, which are free and have slots 2 and 3.  An answer whose variable has slot 4 touches the second argument
only.  One whose variable has slot 0 makes the second argument stand for what `?A` of the query stands for. -/

def externals : Provider := ⟨[("Ext", .predicate ⟨"Ext", 2, some 2, [], true, 0⟩)], []⟩

def linkRules : List RuleText := RuleText.numbered ["p(?A, ?B) :- Ext(?A, ?B), ?B = 1"]

def linking : RuleModule := (RuleModule.compile ⟨[]⟩ "linking" externals linkRules).toOption.getD ⟨"", [], [], .none⟩

def Host.giving (a : Answer) : Host Unit := ⟨fun w s _ _ _ => ⟨w, s, .millis 0, .ok (some a)⟩⟩

def variableAnswer (slot : Nat) : Answer := [(.position 1, .var "Z" slot)]

def linkEngine (slot : Nat) : Engine Unit := ⟨⟨[linking]⟩, .giving (variableAnswer slot), .standard⟩

def linkQuery : Query := (ofGoal ⟨[linking]⟩ 0 ⟨"p", [⟨none, .var "A" 0⟩, ⟨none, .var "B" 1⟩]⟩ ⟨["A", "B"]⟩).toOption.getD
  ⟨[], ⟨0, 0⟩, .ended, .empty, .empty, 0⟩

def linkInquiry? (slot : Nat) : Option (Inquiry × Machine Unit) :=
  match linkQuery.search? (linkEngine slot) () .new 4 with
  | some (.ask i, m) => some (i, m)
  | _ => none

theorem comes_link {slot : Nat} {i : Inquiry} {m : Machine Unit} (h : linkInquiry? slot = some (i, m)) :
    Comes (linkEngine slot) (fun _ _ _ _ => False) (.rest linkQuery () .new) (.search linkQuery (.ask i) m) := by
  unfold linkInquiry? at h
  split at h
  · rename_i hsearch
    cases h
    exact comes_search? hsearch
  · cases h

theorem ofGoal_link (slot : Nat) :
    ofGoal (linkEngine slot).library 0 ⟨"p", [⟨none, .var "A" 0⟩, ⟨none, .var "B" 1⟩]⟩ ⟨["A", "B"]⟩ = .ok linkQuery := by
  have hok : (ofGoal ⟨[linking]⟩ 0 ⟨"p", [⟨none, .var "A" 0⟩, ⟨none, .var "B" 1⟩]⟩ ⟨["A", "B"]⟩).isOk = true := by
    decide +kernel
  exact eq_ok_of_isOk hok _

theorem reply_giving {e : Engine Unit} {m : Machine Unit} {i : Inquiry} {a : Answer} (he : e.host = .giving a)
    (hc : m.session.tree.forest.isCancelled i.context = false) (hi : i.asked = 0) :
    (m.reply e i).1 = .ok (some a) := by
  unfold Machine.reply Host.next
  rw [he, hc, hi, bne_self_eq_false, Bool.and_false]
  rfl

theorem eq_of_mem_givenTerms {goal : Call} {slot : Nat} {t : Term} (ht : t ∈ givenTerms goal (variableAnswer slot)) :
    t = .var "Z" slot := by
  obtain ⟨x, hx, ht⟩ := List.mem_filterMap.1 ht
  rcases List.mem_singleton.1 hx with rfl
  obtain ⟨_, -, rfl⟩ := Option.map_eq_some_iff.1 ht
  rfl

/-- The answer whose variable has slot 4 leaves all but the second argument alone. -/
theorem answer_touches_linking : ∃ i m,
    ofGoal (linkEngine 4).library 0 ⟨"p", [⟨none, .var "A" 0⟩, ⟨none, .var "B" 1⟩]⟩ ⟨["A", "B"]⟩ = .ok linkQuery ∧
      Comes (linkEngine 4) (fun _ _ _ _ => False) (.rest linkQuery () .new) (.search linkQuery (.ask i) m) ∧
        (m.reply (linkEngine 4) i).1 = .ok (some (variableAnswer 4)) ∧
          Touches (Reserved (m.bindings.rewind i.checkpoint) i.goal (variableAnswer 4))
            (m.bindings.rewind i.checkpoint) (m.step (linkEngine 4) (.ask i)).2.bindings := by
  have hsaid : (linkInquiry? 4).map (fun r => (r.2.session.tree.forest.isCancelled r.1.context, r.1.asked,
      (r.2.bindings.rewind r.1.checkpoint).size)) = some (false, 0, 4) := by decide +kernel
  obtain ⟨⟨i, m⟩, him, hsaid⟩ := Option.map_eq_some_iff.1 hsaid
  obtain ⟨hcancelled, hasked, hsize⟩ : _ ∧ _ ∧ _ := by simpa only [Prod.mk.injEq] using hsaid
  have ha := comes_link him
  have hr : (m.reply (linkEngine 4) i).1 = .ok (some (variableAnswer 4)) := reply_giving rfl hcancelled hasked
  refine ⟨i, m, ofGoal_link 4, ha, hr, (answer_touches (linkEngine 4) _ (ofGoal_link 4) ha hr rfl).apart ?_⟩
  intro t ht v hv
  rw [eq_of_mem_givenTerms ht] at hv
  rcases List.mem_singleton.1 hv with rfl
  exact .inr (Nat.le_of_eq hsize)

/-- Binding a free slot to another variable, which has been there before, touches more than the slot. -/
theorem not_touches_of_alias {c : Bindings} {goal : Call} {a : Answer} {x : Nat} {t : Term} {v : String × Nat}
    (hargs : ∀ t ∈ mentionedArgs goal a, t.Inside (· = x)) (hfree : b.lookup? x = none) (hx : c.lookup? x = some t)
    (hv : v ∈ t.mentions) (hne : v.2 ≠ x) (hold : v.2 < b.size) : ¬Touches (Reserved b goal a) b c := by
  intro h
  rcases h.new x t hx with hb | ⟨-, hinside⟩
  · rw [hfree] at hb
    cases hb
  · rcases hinside v hv with hr | hr
    · have hclosed : b.Closed (· = x) := by
        rintro _ u rfl hu
        rw [hfree] at hu
        cases hu
      exact hne (hr.least hclosed hargs)
    · exact Nat.not_lt.2 hr hold

/-- **An answer captures a variable that it does not mention**: the answer whose variable has slot 0 mentions the second
argument only.  Before it, `?A` and `?B` of the query are two variables; after it they are one. -/
theorem answer_captures : ∃ i m,
    ofGoal (linkEngine 0).library 0 ⟨"p", [⟨none, .var "A" 0⟩, ⟨none, .var "B" 1⟩]⟩ ⟨["A", "B"]⟩ = .ok linkQuery ∧
      Comes (linkEngine 0) (fun _ _ _ _ => False) (.rest linkQuery () .new) (.search linkQuery (.ask i) m) ∧
        (m.reply (linkEngine 0) i).1 = .ok (some (variableAnswer 0)) ∧
          (mentionedArgs i.goal (variableAnswer 0)).map Term.mentions = [[("B", 3)]] ∧
            [Term.var "A" 0, .var "B" 1].map (fun t => ((m.bindings.rewind i.checkpoint).resolve t).mentions) =
              [[("A", 2)], [("B", 3)]] ∧
            [Term.var "A" 0, .var "B" 1].map (fun t =>
              ((m.step (linkEngine 0) (.ask i)).2.bindings.resolve t).mentions) = [[("A", 2)], [("A", 2)]] ∧
            ¬Touches (Reserved (m.bindings.rewind i.checkpoint) i.goal (variableAnswer 0))
              (m.bindings.rewind i.checkpoint) (m.step (linkEngine 0) (.ask i)).2.bindings := by
  have hsaid : (linkInquiry? 0).map (fun r => (r.2.session.tree.forest.isCancelled r.1.context, r.1.asked,
      (mentionedArgs r.1.goal (variableAnswer 0)).map Term.mentions)) = some (false, 0, [[("B", 3)]]) := by
    decide +kernel
  have hbefore : (linkInquiry? 0).map (fun r => ((r.2.bindings.rewind r.1.checkpoint).size,
      ((r.2.bindings.rewind r.1.checkpoint).lookup? 3).isNone,
      [Term.var "A" 0, .var "B" 1].map fun t => ((r.2.bindings.rewind r.1.checkpoint).resolve t).mentions)) =
        some (4, true, [[("A", 2)], [("B", 3)]]) := by
    decide +kernel
  have hafter : (linkInquiry? 0).map (fun r =>
      (((r.2.step (linkEngine 0) (.ask r.1)).2.bindings.lookup? 3).map Term.mentions,
      [Term.var "A" 0, .var "B" 1].map fun t => ((r.2.step (linkEngine 0) (.ask r.1)).2.bindings.resolve t).mentions)) =
        some (some [("A", 2)], [[("A", 2)], [("A", 2)]]) := by
    decide +kernel
  obtain ⟨⟨i, m⟩, him, hsaid⟩ := Option.map_eq_some_iff.1 hsaid
  rw [him] at hbefore hafter
  obtain ⟨hcancelled, hasked, hargs⟩ : _ ∧ _ ∧ _ := by simpa only [Prod.mk.injEq] using hsaid
  obtain ⟨hsize, hfree, htwo⟩ : _ ∧ _ ∧ _ := by
    simpa only [Option.map_some, Option.some.injEq, Prod.mk.injEq] using hbefore
  obtain ⟨hheld, hone⟩ : _ ∧ _ := by simpa only [Option.map_some, Option.some.injEq, Prod.mk.injEq] using hafter
  obtain ⟨t, ht, hmentions⟩ := Option.map_eq_some_iff.1 hheld
  refine ⟨i, m, ofGoal_link 0, comes_link him, reply_giving rfl hcancelled hasked, hargs, htwo, hone, ?_⟩
  refine @not_touches_of_alias _ _ _ _ 3 t ("A", 2) (fun u hu v hv => ?_) (Option.isNone_iff_eq_none.1 hfree) ht
    (hmentions ▸ List.mem_singleton_self _) (by decide) (hsize ▸ by decide)
  have hu : u.mentions ∈ (mentionedArgs i.goal (variableAnswer 0)).map Term.mentions := List.mem_map_of_mem hu
  rw [hargs] at hu
  rw [List.mem_singleton.1 hu] at hv
  exact congrArg Prod.snd (List.mem_singleton.1 hv)

end Remedy.Query
