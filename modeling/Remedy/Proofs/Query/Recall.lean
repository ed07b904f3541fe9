import Remedy.Proofs.Query.Choices
import Remedy.Proofs.Query.Store
/-!
# Proofs.Query.Recall — asserted facts are seen as of the call

A call of asserted facts takes those that are stored under its name when it is made, and it keeps them: what is
asserted and retracted afterwards, by the goals that follow, by other rules, by the application or by others, is not for
this call.  Each time the search goes back to the call, the call gives the next of its facts that unifies with it, for
the bindings that it was made with, until it has given them all (`facts_as_of_call`).
-/
namespace Remedy.Query

open Bindings (Extends)
open Context (Forest)

variable {σ : Type} {b₀ b : Bindings} {e : Engine σ} {others : σ → Session → σ → Session → Prop} {m m' : Machine σ}
  {c c' : Control} {o : Outcome}

/-! ## A call of facts -/

/-- **A call of asserted facts**: its context, its goal, the bindings in which it was made, the facts that were stored
under its name, and the frames that follow. -/
structure FactCall where
  context : Nat
  goal : Call
  bindings : Bindings
  stored : List Call
  after : List Frame

/-- **The call of facts that the next transition makes.** -/
def Control.factCall? (e : Engine σ) (m : Machine σ) (c : Control) : Option FactCall :=
  match c.invoking? e m with
  | some (_, .facts name, goal) =>
    some ⟨m.forest.size, goal, m.bindings, m.session.facts.under name, c.following⟩
  | _ => none

def fitting (b : Bindings) (goal : Call) (facts : List Call) : List Call := facts.filter fun f => (b.unifyCall goal f).2

/-- **The facts that a call is to give**: those that were stored and unify with its goal, in their order. -/
def FactCall.answers (r : FactCall) : List Call := fitting r.bindings r.goal r.stored

/-- **The fact that the next transition gives as an answer**, with the context of the call that it answers: the search
goes back to a call of facts, and one of those that are left unifies. -/
def Moment.recalls? : Moment σ → Option (Nat × Call)
  | .search _ .backtrack m =>
    match m.choices.items with
    | ⟨cp, _, .call goal k _ (.facts left)⟩ :: _ => (fitting (m.bindings.rewind cp) goal left).head?.map (k, ·)
    | _ => none
  | _ => none

/-- **What comes in the life of a query**, with the facts that have been given as answers, each with the context of its
call. -/
inductive Recites (e : Engine σ) (others : σ → Session → σ → Session → Prop) (a : Moment σ) :
    List (Nat × Call) → Moment σ → Prop
  | refl : Recites e others a [] a
  | step {told : List (Nat × Call)} {b c : Moment σ} (h : Recites e others a told b) (hp : Passes e others b c) :
    Recites e others a (told ++ b.recalls?.toList) c

def givenTo (k : Nat) (told : List (Nat × Call)) : List Call := (told.filter (·.1 == k)).map (·.2)

theorem Recites.comes {a b : Moment σ} {told : List (Nat × Call)} (h : Recites e others a told b) :
    Comes e others a b := by
  induction h with
  | refl => exact .refl
  | step _ hp ih => exact ih.step hp

theorem Comes.recites {a b : Moment σ} (h : Comes e others a b) : ∃ told, Recites e others a told b := by
  induction h with
  | refl => exact ⟨[], .refl⟩
  | step _ hp ih =>
    obtain ⟨told, ht⟩ := ih
    exact ⟨_, ht.step hp⟩

theorem givenTo_append (k : Nat) (told more : List (Nat × Call)) :
    givenTo k (told ++ more) = givenTo k told ++ givenTo k more := by
  unfold givenTo
  rw [List.filter_append, List.map_append]

theorem givenTo_self (k : Nat) (fact : Call) : givenTo k [(k, fact)] = [fact] := by
  simp [givenTo]

theorem givenTo_other {k j : Nat} (h : j ≠ k) (fact : Call) : givenTo k [(j, fact)] = [] := by
  simp [givenTo, h]

/-! ## Going back to a call of facts -/

theorem fitting_append (b : Bindings) (goal : Call) (before after : List Call) :
    fitting b goal (before ++ after) = fitting b goal before ++ fitting b goal after := List.filter_append ..

theorem fitting_cons {goal fact : Call} {rest : List Call} (h : (b.unifyCall goal fact).2 = true) :
    fitting b goal (fact :: rest) = fact :: fitting b goal rest := List.filter_cons_of_pos h

theorem fitting_eq_nil {goal : Call} {facts : List Call} (h : ∀ f ∈ facts, (b.unifyCall goal f).2 = false) :
    fitting b goal facts = [] := by
  refine List.filter_eq_nil_iff.2 fun f hf => ?_
  rw [h f hf]
  exact Bool.false_ne_true

/-- **A call of facts gives the next that unifies, or it fails.** -/
theorem resumes_facts (hs : m.bindings.Sound) {d : Choice} {goal : Call} {k : Nat} {tried : Bool} {facts : List Call}
    (hp : d.pending = .call goal k tried (.facts facts)) (hr : m.Resumes d o m') :
    (fitting m.bindings goal facts = [] ∧ o = .more .backtrack ∧ m'.choices = m.choices) ∨
      ∃ fact rest, fitting m.bindings goal facts = fact :: fitting m.bindings goal rest ∧
        m.bindings.unifyCall goal fact = (m'.bindings, true) ∧ o = .more (.run d.after) ∧
        (m'.choices.items = { d with pending := .call goal k true (.facts rest) } :: m.choices.items ∨
          rest = [] ∧ m'.choices.items = m.choices.items) := by
  have hchoices : ∀ b, ((m.retry k tried).withBindings b).choices = m.choices := fun _ => Machine.choices_retry m k tried
  cases hr with
  | negation h => cases hp.symm.trans h
  | noClause h hf => cases hp.symm.trans h
  | clause h hf => cases hp.symm.trans h
  | answers h => cases hp.symm.trans h
  | @noFact goal k tried facts b h hf =>
    cases hp.symm.trans h
    refine .inl ⟨?_, rfl, hchoices b⟩
    rcases firstFact_cases hs goal facts with ⟨hall, -⟩ | ⟨_, _, _, -, -, -, hf'⟩
    · exact fitting_eq_nil hall
    · cases hf'.symm.trans hf
  | @fact goal k tried facts rest b h hf =>
    cases hp.symm.trans h
    rcases firstFact_cases hs goal facts with ⟨-, hf'⟩ | ⟨skipped, fact, rest', rfl, hskipped, hfits, hf'⟩
    · cases hf'.symm.trans hf
    · cases hf'.symm.trans hf
      refine .inr ⟨fact, rest, ?_, ?_, rfl, ?_⟩
      · rw [fitting_append, fitting_eq_nil hskipped, fitting_cons hfits, List.nil_append]
      · rw [bindings_keep]
        exact Prod.ext rfl hfits
      · rw [items_keep, hchoices]
        cases rest with
        | nil => exact .inr ⟨rfl, rfl⟩
        | cons next rest => exact .inl rfl

/-! ## What is left to give -/

/-- **What is left to a choice of a call of facts**: the facts that have been given and those that are left make up all
that the call is to give, and the choice goes back to the bindings in which the call was made. -/
def Choice.Holds (r : FactCall) (told : List (Nat × Call)) (b : Bindings) (d : Choice) : Prop :=
  ∃ tried rest, d.pending = .call r.goal r.context tried (.facts rest) ∧ d.after = .exit r.context :: r.after ∧
    b.rewind d.checkpoint = r.bindings ∧ r.answers = givenTo r.context told ++ fitting r.bindings r.goal rest

/-- **A call of facts that has been made**: what has been given to it is a first part of what it is to give, and what is
left is held by its choice, if that is still on the stack. -/
structure Recalling (r : FactCall) (told : List (Nat × Call)) (c : Control) (m : Machine σ) : Prop where
  known : r.context < m.forest.size
  given : givenTo r.context told <+: r.answers
  held : ∀ d ∈ m.choices.items, d.context? = some r.context → d.Holds r told m.bindings
  once : m.choices.items.Pairwise fun newer older => newer.context? = some r.context → older.context? ≠ some r.context
  asked : ∀ i, c = .ask i → i.context ≠ r.context

/-- What a call of facts has given when the search goes back to it. -/
inductive Gives (r : FactCall) (told : List (Nat × Call)) (m : Machine σ) (cs : List Choice) (o : Outcome)
    (m' : Machine σ) : Option (Nat × Call) → Prop
  | none (hall : r.answers = givenTo r.context told) (ho : o = .more .backtrack) (hcs : m'.choices.items = cs) :
    Gives r told m cs o m' none
  | next {fact : Call} {rest : List Call}
    (hall : r.answers = givenTo r.context told ++ fact :: fitting r.bindings r.goal rest)
    (hb : r.bindings.unifyCall r.goal fact = (m'.bindings, true))
    (ho : o = .more (.run (.exit r.context :: r.after)))
    (hcs : (∃ d, d.pending = .call r.goal r.context true (.facts rest) ∧ d.after = .exit r.context :: r.after ∧
      m'.bindings.rewind d.checkpoint = r.bindings ∧ m'.choices.items = d :: cs) ∨ rest = [] ∧ m'.choices.items = cs) :
    Gives r told m cs o m' (some (r.context, fact))

variable {r : FactCall} {told : List (Nat × Call)} {q : Query}

theorem recalls?_eq {goal : Call} {k : Nat} {tried : Bool} {left : List Call} {d : Choice} {cs : List Choice}
    (hd : m.choices.items = d :: cs) (hp : d.pending = .call goal k tried (.facts left)) :
    Moment.recalls? (.search q .backtrack m) =
      (fitting (m.bindings.rewind d.checkpoint) goal left).head?.map (k, ·) := by
  obtain ⟨cp, after, pending⟩ := d
  obtain rfl : pending = .call goal k tried (.facts left) := hp
  simp only [Moment.recalls?, hd]

/-- **Going back to a call of facts** gives the next of what is left, or nothing is left. -/
theorem Recalling.gives (hb₀ : b₀.Sound) (h : Recalling r told .backtrack m) (hu : Undoable b₀ m) {d : Choice}
    {cs : List Choice} (hd : m.choices.items = d :: cs) (hk : d.context? = some r.context)
    (hm : m.Moves e .backtrack o m') : Gives r told m cs o m' (Moment.recalls? (.search q .backtrack m)) := by
  have hmem : d ∈ m.choices.items := hd ▸ List.mem_cons_self
  have hback := rewind_moves (c := .backtrack) hb₀ hu trivial hm d hmem
  have hsound := hu.unwinds.sound_rewind hb₀ d hmem
  obtain ⟨tried, rest, hp, hafter, hb, hall⟩ := h.held d hmem hk
  rw [recalls?_eq hd hp]
  cases hm with
  | exhausted hpop =>
    rw [items_of_pop_none hpop] at hd
    cases hd
  | @back d' cs' o m' hpop hr =>
    have hitems := items_of_pop hpop
    rw [hd] at hitems
    obtain ⟨rfl, rfl⟩ := List.cons.inj hitems
    rw [hb] at hback hsound ⊢
    have hnow : (({ m with choices := cs' } : Machine σ).rewind d.checkpoint).bindings = r.bindings := hb
    rcases resumes_facts (hnow ▸ hsound) hp hr with ⟨hnone, ho, hcs⟩ | ⟨fact, rest', hnext, hunify, ho, hcs⟩
    · rw [hnow] at hnone
      rw [hnone] at hall ⊢
      rw [List.append_nil] at hall
      exact .none hall ho (congrArg Stack.items hcs)
    · rw [hnow] at hnext hunify
      rw [hnext] at hall ⊢
      refine .next hall hunify (hafter ▸ ho) ?_
      exact hcs.imp_left fun hcs =>
        ⟨{ d with pending := .call r.goal r.context true (.facts rest') }, rfl, hafter, hback, hcs⟩

theorem recalls?_other (h : ∀ d cs, c = .backtrack → m.choices.items = d :: cs → d.context? ≠ some r.context) :
    givenTo r.context (Moment.recalls? (.search q c m)).toList = [] := by
  unfold Moment.recalls?
  split
  · rename_i heq
    obtain ⟨-, rfl, rfl⟩ := Moment.search.inj heq
    split
    · rename_i cp after goal k tried left cs hd
      have hk : k ≠ r.context := fun hk => h _ _ rfl hd (congrArg some hk)
      cases (fitting (m.bindings.rewind cp) goal left).head? with
      | none => rfl
      | some fact => exact givenTo_other hk fact
    · rfl
  · rfl

theorem Choice.Holds.change {b' : Bindings} {told' : List (Nat × Call)} {d : Choice} (h : d.Holds r told b)
    (hb : b'.rewind d.checkpoint = b.rewind d.checkpoint) (ht : givenTo r.context told' = givenTo r.context told) :
    d.Holds r told' b' := by
  obtain ⟨tried, rest, hp, hafter, hgoesBack, hall⟩ := h
  exact ⟨tried, rest, hp, hafter, hb.trans hgoesBack, ht.symm ▸ hall⟩

/-- **Going back to the call** keeps what is left of it, without what it gives. -/
theorem Gives.recalling (h : Recalling r told .backtrack m) {d : Choice} {cs : List Choice}
    (hd : m.choices.items = d :: cs) (hk : d.context? = some r.context) {given : Option (Nat × Call)}
    (ha : Gives r told m cs o m' given) (hle : m.forest.size ≤ m'.forest.size)
    (hc' : ∀ i, c' = .ask i → o = .more (.ask i)) : Recalling r (told ++ given.toList) c' m' := by
  have hknown := Nat.lt_of_lt_of_le h.known hle
  have honce := h.once
  rw [hd] at honce
  obtain ⟨hothers, honce⟩ := List.pairwise_cons.1 honce
  have hrest : ∀ told, ∀ d' ∈ cs, d'.context? = some r.context → d'.Holds r told m'.bindings := fun _ d' hd' hk' =>
    absurd hk' (hothers d' hd' hk)
  cases ha with
  | none hall ho hcs =>
    rw [Option.toList_none, List.append_nil]
    refine ⟨hknown, h.given, hcs ▸ hrest told, hcs ▸ honce, fun i hi => ?_⟩
    cases ho.symm.trans (hc' i hi)
  | @next fact rest hall hb ho hcs =>
    have hgiven : givenTo r.context (told ++ [(r.context, fact)]) = givenTo r.context told ++ [fact] := by
      rw [givenTo_append, givenTo_self]
    have hall : r.answers = givenTo r.context (told ++ [(r.context, fact)]) ++ fitting r.bindings r.goal rest := by
      rw [hgiven, List.append_assoc]
      exact hall
    refine ⟨hknown, ⟨_, hall.symm⟩, ?_, ?_, fun i hi => ?_⟩
    · rcases hcs with ⟨d', hp, hafter, hback, hcs⟩ | ⟨-, hcs⟩
      · rw [hcs]
        exact List.forall_mem_cons.2 ⟨fun _ => ⟨true, rest, hp, hafter, hback, hall⟩, hrest _⟩
      · exact hcs ▸ hrest _
    · rcases hcs with ⟨d', hp, -, -, hcs⟩ | ⟨-, hcs⟩
      · rw [hcs]
        exact List.pairwise_cons.2 ⟨fun d'' hd'' _ => hothers d'' hd'' hk, honce⟩
      · exact hcs ▸ honce
    · cases ho.symm.trans (hc' i hi)

/-- **Every transition keeps what is left of a call of facts**, without what it gives. -/
theorem Recalling.moves (hb₀ : b₀.Sound) (h : Recalling r told c m) (hu : Undoable b₀ m) (hc : c.Undoable b₀ m)
    (hle : m.forest.size ≤ m'.forest.size) (hm : m.Moves e c o m') (hc' : ∀ i, c' = .ask i → o = .more (.ask i)) :
    Recalling r (told ++ (Moment.recalls? (.search q c m)).toList) c' m' := by
  by_cases htop : ∃ d cs, c = .backtrack ∧ m.choices.items = d :: cs ∧ d.context? = some r.context
  · obtain ⟨d, cs, rfl, hd, hk⟩ := htop
    exact (h.gives hb₀ hu hd hk hm).recalling h hd hk hle hc'
  · -- the search does something else, and the choice of the call stays as it is, or is given up
    have htop : ∀ d cs, c = .backtrack → m.choices.items = d :: cs → d.context? ≠ some r.context :=
      fun d cs hc hd hk => htop ⟨d, cs, hc, hd, hk⟩
    have hsame : givenTo r.context (told ++ (Moment.recalls? (.search q c m)).toList) = givenTo r.context told := by
      rw [givenTo_append, recalls?_other htop, List.append_nil]
    have hback := rewind_moves hb₀ hu hc hm
    have hheld : ∀ d ∈ m.choices.items, d.context? = some r.context →
        d.Holds r (told ++ (Moment.recalls? (.search q c m)).toList) m'.bindings := fun d hd hk =>
      (h.held d hd hk).change (hback d hd) hsame
    -- a new choice is not one of the call
    have hpush : ∀ {d : Choice}, d.context? ≠ some r.context → m'.choices.items = d :: m.choices.items →
        (∀ d ∈ m'.choices.items, d.context? = some r.context →
          d.Holds r (told ++ (Moment.recalls? (.search q c m)).toList) m'.bindings) ∧
        m'.choices.items.Pairwise fun newer older =>
          newer.context? = some r.context → older.context? ≠ some r.context := by
      intro d hd hitems
      rw [hitems]
      exact ⟨List.forall_mem_cons.2 ⟨fun hk => absurd hk hd, hheld⟩,
        List.pairwise_cons.2 ⟨fun _ _ hk => absurd hk hd, h.once⟩⟩
    have hstack : (∀ d ∈ m'.choices.items, d.context? = some r.context →
          d.Holds r (told ++ (Moment.recalls? (.search q c m)).toList) m'.bindings) ∧
        m'.choices.items.Pairwise fun newer older =>
          newer.context? = some r.context → older.context? ≠ some r.context := by
      cases restacks_moves hm with
      | less n hn =>
        rw [hn]
        exact ⟨fun d hd => hheld d (List.mem_of_mem_drop hd), h.once.drop⟩
      | @negate c m' cp after hn => exact hpush (d := ⟨cp, after, .negation⟩) (fun hk => by cases hk) hn
      | offer hi hu hn hf =>
        refine hpush (fun hk => ?_) hn
        have hknown := h.known
        rw [← Option.some.inj hk] at hknown
        exact Nat.lt_irrefl _ hknown
      | again hd hp hn =>
        have hne := htop _ _ rfl hd
        rw [Choice.context?_of_call hp] at hne
        have honce := h.once
        rw [hd] at hheld honce
        rw [hn]
        exact ⟨List.forall_mem_cons.2 ⟨fun hk => absurd hk hne, (List.forall_mem_cons.1 hheld).2⟩,
          List.pairwise_cons.2 ⟨fun _ _ hk => absurd hk hne, (List.pairwise_cons.1 honce).2⟩⟩
      | @answer m' i asked hn =>
        exact hpush (d := ({ i with asked } : Inquiry).choice) (fun hk => h.asked i rfl (Option.some.inj hk)) hn
    refine ⟨Nat.lt_of_lt_of_le h.known hle, hsame ▸ h.given, hstack.1, hstack.2, fun i hi hk => ?_⟩
    rcases asks_moves hm (hc' i hi) with ⟨d, cs, goal, tried, p, args, asked, hc, hd, hp⟩ | ⟨i₀, hc, hk₀⟩
    · exact htop d cs hc hd (hk ▸ Choice.context?_of_call hp)
    · exact h.asked i₀ hc (hk₀.trans hk)

/-! ## The whole life of a query -/

theorem told_rest (told : List (Nat × Call)) (q : Query) (w : σ) (s : Session) :
    told ++ (Moment.rest q w s).recalls?.toList = told := List.append_nil told

theorem recalling_finish {q : Query} {m : Machine σ} (hk : r.context < m.forest.size)
    (hg : givenTo r.context told <+: r.answers) :
    Recalling r told (Moment.after (q.finish m)).control (Moment.after (q.finish m)).machine := by
  refine ⟨Nat.lt_of_lt_of_le hk (tended_finish q m).size_le, hg, ?_, ?_, fun i hi => ?_⟩
  · rw [choices_finish]
    exact List.forall_mem_nil _
  · rw [choices_finish]
    exact .nil
  · rw [control_finish] at hi
    cases hi

/-- **What happens next keeps what is left of a call of facts**, without what it gives. -/
theorem Recalling.passes (hb₀ : b₀.Sound) (hh : e.host.KeepsRoot)
    (ho : ∀ w s w' s', others w s w' s' → Forest.KeepsRoot s.tree.forest s'.tree.forest) {a a' : Moment σ}
    (hu : a.Undoable b₀) (h : Recalling r told a.control a.machine) (hp : Passes e others a a') :
    Recalling r (told ++ a.recalls?.toList) a'.control a'.machine := by
  have hmoved : ∀ {q : Query} {c : Control} {m m' : Machine σ} {o : Outcome}, a = .search q c m →
      m.step e c = (o, m') → ∀ c' : Control, (∀ i, c' = .ask i → o = .more (.ask i)) →
        Recalling r (told ++ a.recalls?.toList) c' m' := by
    rintro q c m m' o rfl hs c' hc'
    exact h.moves hb₀ hu.machine hu.control (size_le_of_step hh hs) (Machine.moves_of_step hs) hc'
  cases hp with
  | begin hq =>
    rw [told_rest]
    exact ⟨h.known, h.given, h.held, h.once, fun _ hi => nomatch hi⟩
  | again hq =>
    rw [told_rest]
    exact ⟨h.known, h.given, h.held, h.once, fun _ hi => nomatch hi⟩
  | move hs => exact hmoved rfl hs _ fun i hi => congrArg Outcome.more hi
  | solved hs => exact hmoved rfl hs _ fun _ hi => nomatch hi
  | exhausted hs =>
    have hm := hmoved rfl hs .backtrack fun _ hi => nomatch hi
    exact recalling_finish hm.known hm.given
  | @failed q c m m' cause hs =>
    have hm := hmoved rfl hs .backtrack fun _ hi => nomatch hi
    exact recalling_finish (m := m'.rewind q.origin) hm.known hm.given
  | @close q w s =>
    rw [told_rest]
    by_cases hq : q.status = .ended
    · rw [close_ended hq]
      exact h
    · rw [after_close hq]
      exact recalling_finish (m := q.machine w s) h.known h.given
  | @other q w w' s s' hw =>
    rw [told_rest]
    refine ⟨Nat.lt_of_lt_of_le h.known (ho _ _ _ _ hw).size_le, h.given, h.held, h.once, fun i hi => ?_⟩
    unfold Moment.control at hi
    simp only at hi
    split at hi <;> cases hi

/-- **A call of facts that is made** has given nothing, and its choice holds all that it is to give. -/
theorem recalling_call (hn : Numbered c m) (hr : c.factCall? e m = some r) (hs : m.step e c = (o, m')) :
    o = .more .backtrack ∧ Recalling r [] .backtrack m' := by
  unfold Control.factCall? at hr
  split at hr
  · rename_i act name goal hi
    have hu : m.alternatives? e act goal (.facts name) = some (.facts (m.session.facts.under name)) := rfl
    obtain ⟨trace, hstep⟩ := step_offers hi hu
    cases hr
    cases hs.symm.trans hstep
    have hlt : m.forest.size < (Machine.offer (m.ticked.onSession fun s => { s with trace }) act goal
        (.facts (m.session.facts.under name)) c.following).2.forest.size := by
      rw [Machine.forest_offer, Forest.size_create]
      exact Nat.lt_succ_self _
    have hothers : ∀ d ∈ m.choices.items, d.context? ≠ some m.forest.size := fun d hd hk =>
      Nat.lt_irrefl _ (hn.choices d hd _ hk)
    refine ⟨rfl, hlt, List.nil_prefix, ?_, ?_, fun _ hi => nomatch hi⟩
    · refine List.forall_mem_cons.2 ⟨fun _ => ?_, fun d hd hk => absurd hk (hothers d hd)⟩
      exact ⟨false, _, rfl, rfl, Bindings.rewind_checkpoint m.bindings, rfl⟩
    · refine List.pairwise_cons.2 ⟨fun d hd _ => hothers d hd, ?_⟩
      exact List.pairwise_of_forall_mem_list fun d _ d' hd' _ => hothers d' hd'
  · cases hr

theorem recalls?_call (hr : c.factCall? e m = some r) : Moment.recalls? (.search q c m) = none := by
  unfold Control.factCall? at hr
  split at hr
  · rename_i hi
    obtain ⟨call, rest, fs, rfl, -⟩ := running_of_invoking? hi
    rfl
  · cases hr

/-- **Whatever comes after a call of facts has been made**, the call is being made, or what is left of it is held. -/
theorem recalling_of_recites (hb₀ : b₀.Sound) (hh : e.host.KeepsRoot)
    (ho : ∀ w s w' s', others w s w' s' → Forest.KeepsRoot s.tree.forest s'.tree.forest)
    (hu : (Moment.search q c m).Undoable b₀) (hn : Numbered c m) (hr : c.factCall? e m = some r) {a : Moment σ}
    (ha : Recites e others (.search q c m) told a) :
    (told = [] ∧ a = .search q c m) ∨ Recalling r told a.control a.machine := by
  induction ha with
  | refl => exact .inl ⟨rfl, rfl⟩
  | @step told a a' ha hp ih =>
    right
    rcases ih with ⟨rfl, rfl⟩ | h
    · have hcall : ∀ {o : Outcome} {m' : Machine σ}, m.step e c = (o, m') →
          o = .more .backtrack ∧ Recalling r [] .backtrack m' := fun hs => recalling_call hn hr hs
      rw [recalls?_call hr]
      cases hp with
      | move hs =>
        obtain ⟨ho, h⟩ := hcall hs
        cases ho
        exact h
      | solved hs => cases (hcall hs).1
      | exhausted hs => cases (hcall hs).1
      | failed hs => cases (hcall hs).1
    · exact h.passes hb₀ hh ho (ha.comes.keeps (fun _ _ h hp => h.passes hb₀ hh ho hp) hu) hp

/-! ## What a call of facts gives -/

/-- **A call of facts sees the facts as of the call**: what has been given to it so far is a first part of what was
stored then and unifies with it.  When the search goes back to it, it gives the next of them, for the bindings it was
made with, or there is none, and it fails; and once it has no choice any more, it has given them all. -/
structure SeenAsOfCall (e : Engine σ) (others : σ → Session → σ → Session → Prop) (r : FactCall)
    (told : List (Nat × Call)) (a : Moment σ) : Prop where
  given : givenTo r.context told <+: r.answers
  retried : ∀ a', Passes e others a a' → deed a a' = .retry r.context →
    (∃ fact, a.recalls? = some (r.context, fact) ∧ a'.control = .run (.exit r.context :: r.after) ∧
      r.bindings.unifyCall r.goal fact = (a'.machine.bindings, true)) ∨
    a.recalls? = none ∧ a'.control = .backtrack ∧ givenTo r.context told = r.answers
  exhausted : ∀ a', Passes e others a a' → deed a a' = .retry r.context →
    (∀ d ∈ a'.machine.choices.items, d.context? ≠ some r.context) →
      givenTo r.context (told ++ a.recalls?.toList) = r.answers

theorem back_of_deed {a a' : Moment σ} {k : Nat} (hp : Passes e others a a') (hd : deed a a' = .retry k) :
    ∃ q m c' m' d cs, a = .search q .backtrack m ∧ a' = .search q c' m' ∧ m.step e .backtrack = (.more c', m') ∧
      m.choices.items = d :: cs ∧ d.context? = some k := by
  cases hp with
  | @move q c c' m m' hs =>
    unfold deed Control.deed at hd
    simp only at hd
    split at hd
    · cases hd
    · split at hd
      · rename_i j hj
        cases hd
        obtain ⟨d, hhead, hk⟩ := Option.bind_eq_some_iff.1 hj
        obtain ⟨cs, hcs⟩ := List.head?_eq_some_iff.1 hhead
        exact ⟨q, m, c', m', d, cs, rfl, rfl, hs, hcs, hk⟩
      · cases hd
    · cases hd
  | _ => cases hd

theorem Recalling.seen (hb₀ : b₀.Sound) {a : Moment σ} (hu : a.Undoable b₀)
    (h : Recalling r told a.control a.machine) : SeenAsOfCall e others r told a := by
  have hgives : ∀ a', Passes e others a a' → deed a a' = .retry r.context → ∃ cs c',
      a'.control = c' ∧ Gives r told a.machine cs (.more c') a'.machine a.recalls? := by
    intro a' hp hd
    obtain ⟨q, m, c', m', d, cs, rfl, rfl, hs, hcs, hk⟩ := back_of_deed hp hd
    exact ⟨cs, c', rfl, h.gives hb₀ hu.machine hcs hk (Machine.moves_of_step hs)⟩
  refine ⟨h.given, fun a' hp hd => ?_, fun a' hp hd hgone => ?_⟩
  · obtain ⟨cs, c', hc', ha⟩ := hgives a' hp hd
    generalize a.recalls? = given at ha ⊢
    cases ha with
    | none hall ho hcs =>
      cases ho
      exact .inr ⟨rfl, hc', hall.symm⟩
    | next hall hb ho hcs =>
      cases ho
      exact .inl ⟨_, rfl, hc', hb⟩
  · obtain ⟨cs, c', hc', ha⟩ := hgives a' hp hd
    generalize a.recalls? = given at ha ⊢
    cases ha with
    | none hall ho hcs =>
      rw [Option.toList_none, List.append_nil]
      exact hall.symm
    | next hall hb ho hcs =>
      rw [Option.toList_some, givenTo_append, givenTo_self, hall]
      rcases hcs with ⟨d, hp, -, -, hcs⟩ | ⟨rfl, -⟩
      · exact absurd (Choice.context?_of_call hp) (hgone d (hcs ▸ List.mem_cons_self))
      · rfl

theorem seen_call (hr : c.factCall? e m = some r) : SeenAsOfCall e others r [] (.search q c m) := by
  have hrun : ∀ a', Passes e others (.search q c m) a' → deed (.search q c m) a' ≠ .retry r.context := by
    intro a' hp hd
    obtain ⟨q', m₁, c', m', d, cs, ha, -⟩ := back_of_deed hp hd
    obtain ⟨-, rfl, -⟩ := Moment.search.inj ha
    cases hr
  exact ⟨List.nil_prefix, fun a' hp hd => absurd hd (hrun a' hp), fun a' hp hd _ => absurd hd (hrun a' hp)⟩

/-- **Asserted facts are seen as of the call.**  At every moment in the life of a query, whatever the modules and the
goal, all facts that are stored are ground, and only asserting and retracting changes them, which going back does not
undo.  And when a call of facts is made, then whatever is asserted and retracted afterwards, it is given the facts that were
stored under its name at that moment and unify with it, in their order and each once.  The application and others may
assert and retract facts, and do anything to the contexts but detach the root. -/
theorem facts_as_of_call (e : Engine σ) (others : σ → Session → σ → Session → Prop) (hh : e.host.KeepsRoot)
    (ho : ∀ w s w' s', others w s w' s' → Forest.KeepsRoot s.tree.forest s'.tree.forest) (hc : Curated e others)
    {owner : Nat} {goal : Call} {vars : VarTable} {q : Query} (hq : ofGoal e.library owner goal vars = .ok q) {w : σ}
    {s : Session} (hs : Forest.KeepsRoot .root s.tree.forest) (hf : Facts.empty.Becomes s.facts) {a : Moment σ}
    (ha : Comes e others (.rest q w s) a) :
    a.facts.Ground ∧ (∀ a', Passes e (fun _ _ _ _ => False) a a' → Stocks e a a') ∧
      ∀ q' c m r, a = .search q' c m → c.factCall? e m = some r →
        ∀ told a', Recites e others a told a' → SeenAsOfCall e others r told a' := by
  have hb₀ := sound_entryBindings goal vars
  have hundoable : ∀ {a : Moment σ}, Comes e others (.rest q w s) a → a.Undoable (entryBindings goal vars) := fun ha =>
    ha.keeps (fun _ _ h hp => h.passes hb₀ hh ho hp) (undoable_entry hq w (hs.founded Forest.founded_root))
  have hground : ∀ {a : Moment σ}, Comes e others (.rest q w s) a → a.facts.Ground := fun ha =>
    ha.keeps (P := fun a => a.facts.Ground) (fun _ _ h hp => h.becomes (becomes_of_passes hc hp))
      (Facts.ground_empty.becomes hf)
  refine ⟨hground ha, fun a' hp => stocks_of_passes hp, ?_⟩
  rintro q' c m r rfl hr told a' hrecites
  rcases recalling_of_recites hb₀ hh ho (hundoable ha) (numbered_of_comes hh ho hq ha) hr hrecites with
    ⟨rfl, rfl⟩ | h
  · exact seen_call hr
  · exact h.seen hb₀ (hundoable (ha.trans hrecites.comes))

/-! The rule `work :- assert(todo(1)), assert(todo(2)), todo(?X), retract(todo(2)), assert(todo(3)), fail` of a module
that declares `todo` to be dynamic. -/

def workRules : List RuleText := RuleText.numbered ["meta(todo, dynamic)",
  "work :- assert(todo(1)), assert(todo(2)), todo(?X), retract(todo(2)), assert(todo(3)), fail"]

def working : RuleModule := (RuleModule.compile ⟨[]⟩ "working" .none workRules).toOption.getD ⟨"", [], [], .none⟩

def workEngine : Engine Unit := ⟨⟨[working]⟩, .silent, .standard⟩

def workQuery : Query :=
  (ofGoal ⟨[working]⟩ 0 ⟨"work", []⟩ .empty).toOption.getD ⟨[], ⟨0, 0⟩, .ended, .empty, .empty, 0⟩

def Machine.recited? (e : Engine σ) (q : Query) : Nat → Control → Machine σ →
    Option (List (Nat × Call) × Control × Machine σ)
  | 0, c, m => some ([], c, m)
  | i + 1, c, m =>
    match m.step e c with
    | (.more c', m') => (recited? e q i c' m').map fun r => ((Moment.recalls? (.search q c m)).toList ++ r.1, r.2)
    | _ => none

theorem Recites.trans {a a' a'' : Moment σ} {more : List (Nat × Call)} (h : Recites e others a told a')
    (h' : Recites e others a' more a'') : Recites e others a (told ++ more) a'' := by
  induction h' with
  | refl => exact (List.append_nil told).symm ▸ h
  | step _ hp ih => exact List.append_assoc told _ _ ▸ ih.step hp

theorem recites_recited? : ∀ {i : Nat} {c : Control} {m : Machine σ} {told : List (Nat × Call)} {c' : Control}
    {m' : Machine σ}, m.recited? e q i c = some (told, c', m') → Recites e others (.search q c m) told (.search q c' m')
  | 0, c, m, told, c', m', h => by
    cases h
    exact .refl
  | i + 1, c, m, told, c', m', h => by
    unfold Machine.recited? at h
    split at h
    · rename_i c₁ m₁ hs
      obtain ⟨⟨told', c₂, m₂⟩, hr, he⟩ := Option.map_eq_some_iff.1 h
      cases he
      exact (Recites.refl.step (.move hs)).trans (recites_recited? hr)
    · cases h

/-- The call of `todo` is given `todo(1)` and `todo(2)`, although `todo(2)` has been retracted in between and `todo(3)`
has been asserted. -/
theorem facts_as_of_call_working : ofGoal workEngine.library 0 ⟨"work", []⟩ .empty = .ok workQuery ∧
    workEngine.host.KeepsRoot ∧ Curated workEngine (fun _ _ _ _ => False) ∧
      Forest.KeepsRoot .root Session.new.tree.forest ∧ Facts.empty.Becomes Session.new.facts ∧
        ∃ c m r told c' m', Comes workEngine (fun _ _ _ _ => False) (.rest workQuery () .new) (.search workQuery c m) ∧
          c.factCall? workEngine m = some r ∧
          Recites workEngine (fun _ _ _ _ => False) (.search workQuery c m) told (.search workQuery c' m') ∧
          (givenTo r.context told).map Call.display = ["todo(1)", "todo(2)"] ∧
          m'.session.facts.all.map Call.display = ["todo(1)", "todo(3)"] ∧
          m'.session.facts.Ground ∧
          (∀ a, Passes workEngine (fun _ _ _ _ => False) (.search workQuery c m) a →
            Stocks workEngine (.search workQuery c m) a) ∧
          SeenAsOfCall workEngine (fun _ _ _ _ => False) r told (.search workQuery c' m') := by
  have hok : (ofGoal ⟨[working]⟩ 0 ⟨"work", []⟩ .empty).isOk = true := by decide +kernel
  have hq : ofGoal workEngine.library 0 ⟨"work", []⟩ .empty = .ok workQuery := eq_ok_of_isOk hok _
  have hhost : workEngine.host.KeepsRoot := fun _ _ _ _ _ => .refl
  have hothers : ∀ (w : Unit) (s : Session) (w' : Unit) (s' : Session), False →
      Forest.KeepsRoot s.tree.forest s'.tree.forest := fun _ _ _ _ h => h.elim
  have hcurated : Curated workEngine (fun _ _ _ _ => False) := ⟨fun _ _ _ _ _ => .refl, fun _ _ _ _ h => h.elim⟩
  have hrun : ((workQuery.search? workEngine () .new 4).bind fun x => (x.1.factCall? workEngine x.2).bind fun r =>
      (x.2.recited? workEngine workQuery 9 x.1).map fun y => ((givenTo r.context y.1).map Call.display,
        y.2.2.session.facts.all.map Call.display)) = some (["todo(1)", "todo(2)"], ["todo(1)", "todo(3)"]) := by
    decide +kernel
  obtain ⟨⟨c, m⟩, hcm, hrun⟩ := Option.bind_eq_some_iff.1 hrun
  obtain ⟨r, hr, hrun⟩ := Option.bind_eq_some_iff.1 hrun
  obtain ⟨⟨told, c', m'⟩, hrecited, hrun⟩ := Option.map_eq_some_iff.1 hrun
  obtain ⟨hgiven, hstored⟩ := Prod.mk.inj hrun
  have ha : Comes workEngine (fun _ _ _ _ => False) (.rest workQuery () .new) (.search workQuery c m) := comes_search? hcm
  have hrecites : Recites workEngine (fun _ _ _ _ => False) (.search workQuery c m) told (.search workQuery c' m') :=
    recites_recited? hrecited
  obtain ⟨-, hstocks, hseen⟩ := facts_as_of_call workEngine _ hhost hothers hcurated hq (s := .new) .refl .refl ha
  obtain ⟨hground, -⟩ :=
    facts_as_of_call workEngine _ hhost hothers hcurated hq (s := .new) .refl .refl (ha.trans hrecites.comes)
  exact ⟨hq, hhost, hcurated, .refl, .refl, c, m, r, told, c', m', ha, hr, hrecites, hgiven, hstored, hground, hstocks,
    hseen _ _ _ _ rfl hr _ _ hrecites⟩

end Remedy.Query
