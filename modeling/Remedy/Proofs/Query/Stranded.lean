import Remedy.Proofs.Query.Answered
/-!
# Proofs.Query.Stranded — what is left of calls that fail

When a query waits with a solution, all calls that it may come back to have answered: whatever a choice answers to is
still to be done, or has been done, or waits until a negation is decided (`Nested`), and nothing is left to be done.  A
call that fails while there is something left to be tried for it is given up, and its context is taken away
(`Turns.taken_of_choice`, `Turns.taken_of_ask`); but when its last alternative has been begun its choice is gone, and
nobody takes the context away if the alternative fails later.  So a context is stable when the query waits if and only
if no such call is stranded below it (`stable_iff_unstranded`).  The application and others are supposed to make no
contexts themselves.
-/
namespace Remedy.Query

open Context (Forest Tree)

variable {σ : Type} {e : Engine σ} {others : σ → Session → σ → Session → Prop} {n k : Nat} {l : Ledger} {a b : Scene}
  {dd : Deed} {minds : Tree → Tree → Prop}

/-! ## What choices answer to is still to be done -/

def EndsNegation (frames : List Frame) : Prop := ∃ height, frames.getLast? = some (.negated height)

/-- **Frames above choices**: a rule cannot cut a negation that it is part of; who runs the goal of a negation ends it;
and whatever a choice answers to has answered, or is still to be answered, or waits for a negation. -/
structure Nested (answered : Nat → Prop) (cs : List Choice) (frames : List Frame) : Prop where
  barred : ∀ act goals, .body act goals ∈ frames → ∀ d ∈ cs.take (cs.length - act.barrier), d.pending ≠ .negation
  inside : ∀ d ∈ cs, d.pending = .negation → EndsNegation frames
  settled : ∀ d ∈ cs, ∀ k ∈ exits d.after,
    answered k ∨ k ∈ exits frames ∨ ∃ d' ∈ cs, d'.pending = .negation ∧ k ∈ exits d'.after

def NestedAll (answered : Nat → Prop) : List Choice → Prop
  | [] => True
  | d :: cs => Nested answered cs d.after ∧ NestedAll answered cs

variable {P Q : Nat → Prop} {cs : List Choice} {d : Choice} {frames fs after : List Frame} {act : Activation}
  {goals : List (Goal Callee)}

theorem Nested.nil : Nested P [] frames := by
  refine ⟨fun act goals hm d hd => ?_, List.forall_mem_nil _, List.forall_mem_nil _⟩
  rw [List.take_nil] at hd
  cases hd

theorem Nested.mono (h : Nested P cs frames) (hPQ : ∀ d ∈ cs, ∀ k ∈ exits d.after, P k → Q k) : Nested Q cs frames :=
  ⟨h.barred, h.inside, fun d hd k hk => (h.settled d hd k hk).imp_left (hPQ d hd k hk)⟩

theorem EndsNegation.cons (h : EndsNegation frames) (f : Frame) : EndsNegation (f :: frames) := by
  obtain ⟨height, hlast⟩ := h
  cases frames with
  | nil => cases hlast
  | cons f' fs => exact ⟨height, by rw [List.getLast?_cons_cons]; exact hlast⟩

theorem EndsNegation.tail {f : Frame} (h : EndsNegation (f :: fs)) (hf : ∀ height, f ≠ .negated height) :
    EndsNegation fs := by
  obtain ⟨height, hlast⟩ := h
  cases fs with
  | nil => exact absurd (Option.some.inj hlast) (hf height)
  | cons f' fs => exact ⟨height, by rw [List.getLast?_cons_cons] at hlast; exact hlast⟩

theorem Nested.follows (h : Nested P cs (.body act goals :: fs)) (hf : Follows act fs after) : Nested P cs after := by
  refine ⟨fun act' goals' hm => ?_, fun d hd hneg => ?_, fun d hd k hk => ?_⟩
  · rcases hf with rfl | ⟨goals₁, rfl⟩
    · exact h.barred act' goals' (List.mem_cons_of_mem _ hm)
    · rcases List.mem_cons.1 hm with he | hm
      · cases he
        exact h.barred act goals List.mem_cons_self
      · exact h.barred act' goals' (List.mem_cons_of_mem _ hm)
  · have htail := (h.inside d hd hneg).tail fun _ he => nomatch he
    rcases hf with rfl | ⟨goals₁, rfl⟩
    · exact htail
    · exact htail.cons _
  · rw [exits_follows goals hf]
    exact h.settled d hd k hk

theorem Nested.exit (h : Nested P cs frames) (k : Nat) : Nested P cs (.exit k :: frames) := by
  refine ⟨fun act goals hm => ?_, fun d hd hneg => (h.inside d hd hneg).cons _, fun d hd j hj => ?_⟩
  · rcases List.mem_cons.1 hm with he | hm
    · cases he
    · exact h.barred act goals hm
  · refine (h.settled d hd j hj).imp_right (Or.imp_left fun hj => ?_)
    exact mem_exits.2 (List.mem_cons_of_mem _ (mem_exits.1 hj))

theorem Nested.enters (h : Nested P cs after) (hf : Enters k cs.length after frames) : Nested P cs frames := by
  rcases hf with rfl | ⟨act, goals, -, hbarrier, rfl⟩
  · exact h
  · refine ⟨fun act' goals' hm => ?_, fun d hd hneg => (h.inside d hd hneg).cons _, h.settled⟩
    rcases List.mem_cons.1 hm with he | hm
    · cases he
      rw [hbarrier, Nat.sub_self]
      exact List.forall_mem_nil _
    · exact h.barred act' goals' hm

theorem Nested.answer (h : Nested P cs (.exit k :: fs)) (hPQ : ∀ j, P j → Q j) (hk : Q k) : Nested Q cs fs := by
  refine ⟨fun act goals hm => h.barred act goals (List.mem_cons_of_mem _ hm),
    fun d hd hneg => (h.inside d hd hneg).tail (fun _ he => nomatch he), fun d hd j hj => ?_⟩
  rcases h.settled d hd j hj with hj | hj | hj
  · exact .inl (hPQ j hj)
  · rcases List.mem_cons.1 (mem_exits.1 hj) with he | hj
    · cases he
      exact .inl hk
    · exact .inr (.inl (mem_exits.2 hj))
  · exact .inr (.inr hj)

theorem Nested.push (h : Nested P cs frames) (hd : d.pending ≠ .negation) (hexits : exits d.after = exits frames) :
    Nested P (d :: cs) frames := by
  refine ⟨fun act goals hm c hc => ?_, fun c hc hneg => ?_, fun c hc j hj => ?_⟩
  · rw [List.length_cons] at hc
    by_cases hb : act.barrier ≤ cs.length
    · rw [Nat.succ_sub hb, List.take_succ_cons] at hc
      rcases List.mem_cons.1 hc with rfl | hc
      · exact hd
      · exact h.barred act goals hm c hc
    · have h0 : cs.length + 1 - act.barrier = 0 := by omega
      rw [h0] at hc
      cases hc
  · rcases List.mem_cons.1 hc with rfl | hc
    · exact absurd hneg hd
    · exact h.inside c hc hneg
  · rcases List.mem_cons.1 hc with rfl | hc
    · exact .inr (.inl (hexits ▸ hj))
    · refine (h.settled c hc j hj).imp_right (Or.imp_right ?_)
      rintro ⟨d', hd', hneg, hj⟩
      exact ⟨d', List.mem_cons_of_mem _ hd', hneg, hj⟩

/-- **A cut takes away no negation** that waits for its goal. -/
theorem Nested.cut (h : Nested P cs frames) {i : Nat} (hi : ∀ d ∈ cs.take i, d.pending ≠ .negation) :
    Nested P (cs.drop i) frames := by
  refine ⟨fun act goals hm d hd => h.barred act goals hm d ?_,
    fun d hd hneg => h.inside d (List.mem_of_mem_drop hd) hneg, fun d hd j hj => ?_⟩
  · rw [List.length_drop] at hd
    have he : cs.length - i - act.barrier = cs.length - act.barrier - i := by omega
    rw [he, ← List.drop_take] at hd
    exact List.mem_of_mem_drop hd
  · refine (h.settled d (List.mem_of_mem_drop hd) j hj).imp_right (Or.imp_right ?_)
    rintro ⟨d', hd', hneg, hj⟩
    rw [← List.take_append_drop i cs] at hd'
    rcases List.mem_append.1 hd' with hd' | hd'
    · exact absurd hneg (hi d' hd')
    · exact ⟨d', hd', hneg, hj⟩

/-- **The goal of a negation** is run by itself, above the choice that undoes it. -/
theorem Nested.negate (h : Nested P cs frames) (cp : Checkpoint) (act : Activation) (g : Goal Callee) :
    Nested P (⟨cp, frames, .negation⟩ :: cs)
      [.body { act with barrier := cs.length + 1 } [g], .negated cs.length] := by
  refine ⟨fun act' goals hm => ?_, fun _ _ _ => ⟨cs.length, rfl⟩, fun d hd j hj => ?_⟩
  · rcases List.mem_cons.1 hm with he | hm
    · cases he
      rw [List.length_cons, Nat.sub_self]
      exact List.forall_mem_nil _
    · cases List.mem_singleton.1 hm
  · have hnew : j ∈ exits frames → ∃ d' ∈ ⟨cp, frames, .negation⟩ :: cs, d'.pending = .negation ∧ j ∈ exits d'.after :=
      fun hj => ⟨_, List.mem_cons_self, rfl, hj⟩
    rcases List.mem_cons.1 hd with rfl | hd
    · exact .inr (.inr (hnew hj))
    · rcases h.settled d hd j hj with hj | hj | ⟨d', hd', hneg, hj⟩
      · exact .inl hj
      · exact .inr (.inr (hnew hj))
      · exact .inr (.inr ⟨d', List.mem_cons_of_mem _ hd', hneg, hj⟩)

theorem NestedAll.mono : ∀ {cs : List Choice}, NestedAll P cs → (∀ d ∈ cs, ∀ k ∈ exits d.after, P k → Q k) → NestedAll Q cs
  | [], _, _ => trivial
  | _ :: _, ⟨hd, hcs⟩, hPQ =>
    have hrest := fun d hd => hPQ d (List.mem_cons_of_mem _ hd)
    ⟨hd.mono hrest, hcs.mono hrest⟩

theorem NestedAll.drop : ∀ (i : Nat) {cs : List Choice}, NestedAll P cs → NestedAll P (cs.drop i)
  | 0, _, h => h
  | _ + 1, [], h => h
  | i + 1, _ :: _, ⟨_, hcs⟩ => NestedAll.drop i hcs

def Control.Nested (answered : Nat → Prop) (cs : List Choice) : Control → Prop
  | .run frames => Query.Nested answered cs frames
  | .backtrack => True
  | .ask i => Query.Nested answered cs i.after

/-- **A scene in which whatever is answered to is still to be done.** -/
structure Scene.Nested (answered : Nat → Prop) (a : Scene) : Prop where
  control : a.control.Nested answered a.choices
  choices : NestedAll answered a.choices

theorem answeredBy_other (h : l.answered k) : l.answeredBy .other k := .inl ⟨h, fun he => nomatch he⟩

theorem Nested.other (h : Nested l.answered cs frames) : Nested (l.answeredBy .other) cs frames :=
  h.mono fun _ _ _ _ => answeredBy_other

theorem NestedAll.other (h : NestedAll l.answered cs) : NestedAll (l.answeredBy .other) cs :=
  h.mono fun _ _ _ _ => answeredBy_other

theorem answeredBy_retry {f : Forest} (h : d.Strung n f cs) (hk : d.context? = some k) :
    ∀ d' ∈ cs, ∀ j ∈ exits d'.after, l.answered j → l.answeredBy (.retry k) j := by
  intro d' hd' j hj hans
  refine .inl ⟨hans, fun he => ?_⟩
  cases he
  exact Nat.lt_irrefl _ (h.newer k hk d' hd' k hj)

theorem nested_keeps (h : Nested P cs after) (hcs : NestedAll P cs) (hf : Enters k cs.length after frames)
    {cs' : List Choice} (hkeeps : Keeps k after cs cs') : Nested P cs' frames ∧ NestedAll P cs' := by
  have hframes := h.enters hf
  rcases hkeeps with rfl | ⟨cp, goal, untried, rfl⟩
  · exact ⟨hframes, hcs⟩
  · exact ⟨hframes.push (fun he => nomatch he) (exits_enters hf).symm, h, hcs⟩

/-- **Every change keeps to what has been done.** -/
theorem Scene.Nested.turns (hs : a.Strung n) (h : a.Nested l.answered) (ht : Turns minds a dd b) :
    b.Nested (l.answeredBy dd) := by
  obtain ⟨hc, hcs⟩ := h
  have hchoices := hs.choices
  -- a call that is tried again has not answered any more, but it is newer than what the choices below answer to
  cases ht with
  | same =>
    refine ⟨?_, hcs.other⟩
    unfold Control.Nested at hc ⊢
    split at hc
    · exact Nested.other hc
    · trivial
    · exact Nested.other hc
  | @others c cs t t' hm hask =>
    refine ⟨?_, hcs.other⟩
    cases c with
    | run frames => exact Nested.other hc
    | backtrack => trivial
    | ask i => exact absurd rfl (hask i)
  | @exit k fs cs t =>
    have hmono : ∀ j, l.answered j → l.answeredBy (.answer k) j := fun j hj => .inl ⟨hj, fun he => nomatch he⟩
    exact ⟨Nested.answer hc hmono (.inr rfl), hcs.mono fun _ _ => fun j _ => hmono j⟩
  | go hf => exact ⟨(Nested.follows hc hf).other, hcs.other⟩
  | fail => exact ⟨trivial, hcs.other⟩
  | cut hf hids =>
    exact ⟨((Nested.follows hc hf).cut (hc.barred _ _ List.mem_cons_self)).other, (hcs.drop _).other⟩
  | negate hf =>
    have hafter := Nested.follows hc hf
    exact ⟨(hafter.negate _ _ _).other, hafter.other, hcs.other⟩
  | negated hids => exact ⟨trivial, (hcs.drop _).other⟩
  | offer hf => exact ⟨trivial, ((Nested.follows hc hf).exit _).other, hcs.other⟩
  | undo hp => exact ⟨hcs.1.other, hcs.2.other⟩
  | giveUp hp => exact ⟨trivial, hcs.2.mono (answeredBy_retry hchoices.1 (Choice.context?_of_call hp))⟩
  | retry hp hf hkeeps =>
    have hmono := answeredBy_retry (l := l) hchoices.1 (Choice.context?_of_call hp)
    obtain ⟨hframes, hrest⟩ := nested_keeps (hcs.1.mono hmono) (hcs.2.mono hmono) hf hkeeps
    exact ⟨hframes, hrest⟩
  | asks hp =>
    have hmono := answeredBy_retry (l := l) hchoices.1 (Choice.context?_of_call hp)
    exact ⟨hcs.1.mono hmono, hcs.2.mono hmono⟩
  | denied hm => exact ⟨trivial, hcs.other⟩
  | @answered i cs t t' cp goal untried hm =>
    have hnext := Nested.push (d := ⟨cp, i.after, .call goal i.context true untried⟩) hc (fun he => by cases he) rfl
    exact ⟨hnext.other, Nested.other hc, hcs.other⟩
  | misfit hm => exact ⟨Nested.other hc, hcs.other⟩
  | solved => exact ⟨trivial, hcs.other⟩
  | ended hm hids => exact ⟨trivial, trivial⟩

/-- **Where nothing is left to be done**, all that choices answer to has answered. -/
theorem Scene.Nested.answered {t : Tree} (h : Scene.Nested P ⟨.run [], cs, t⟩) : ∀ d ∈ cs, ∀ k ∈ exits d.after, P k := by
  intro d hd k hk
  have hc : Query.Nested P cs [] := h.control
  rcases hc.settled d hd k hk with hk | hk | ⟨d', hd', hneg, -⟩
  · exact hk
  · cases hk
  · obtain ⟨height, hlast⟩ := hc.inside d' hd' hneg
    cases hlast

/-! ## Where the contexts of the query are -/

theorem size_retried (t : Tree) (k : Nat) (tried : Bool) : (retried t k tried).forest.size = t.forest.size := by
  rw [forest_retried]
  split
  · exact Forest.size_setStable _ _ _
  · rfl

/-- **A change makes no context but that of a call that it lays out**, if others make none. -/
theorem Turns.size (hminds : ∀ t u, minds t u → u.forest.size = t.forest.size) (ht : Turns minds a dd b) :
    b.tree.forest.size = a.tree.forest.size ∨
      b.tree.forest.size = a.tree.forest.size + 1 ∧ b.Awaits a.tree.forest.size := by
  have hdetach : ∀ (t : Tree) (k : Nat), (t.detach k).forest.size = t.forest.size := fun t k => Tree.size_detachAll [k] t
  have hstable : ∀ (t : Tree) (k : Nat) (b : Bool), (t.setStable k b).forest.size = t.forest.size := fun t k b => by
    rw [Tree.forest_setStable, Forest.size_setStable]
  cases ht with
  | same => exact .inl rfl
  | others hm hask => exact .inl (hminds _ _ hm)
  | @exit k fs cs t => exact .inl (hstable t k true)
  | go hf => exact .inl rfl
  | fail => exact .inl rfl
  | cut hf hids => exact .inl (Tree.size_detachAll _ _)
  | negate hf => exact .inl rfl
  | negated hids => exact .inl (Tree.size_detachAll _ _)
  | offer hf =>
    refine .inr ⟨?_, .inr ⟨_, List.mem_cons_self, mem_exits.2 List.mem_cons_self⟩⟩
    rw [Tree.forest_create, Forest.size_create]
  | undo hp => exact .inl rfl
  | @giveUp d goal k tried untried cs t hp =>
    exact .inl ((hdetach (retried t k tried) k).trans (size_retried t k tried))
  | retry hp hf hkeeps => exact .inl (size_retried _ _ _)
  | asks hp => exact .inl (size_retried _ _ _)
  | @denied i cs t t' hm => exact .inl ((hdetach t' i.context).trans (hminds _ _ hm))
  | answered hm => exact .inl (hminds _ _ hm)
  | misfit hm => exact .inl (hminds _ _ hm)
  | solved => exact .inl rfl
  | @ended c cs t t' ids hm hids =>
    have hclear : ((ids.foldl Tree.detach t').clear 0).forest.size = (ids.foldl Tree.detach t').forest.size := by
      rw [Tree.forest_clear, Forest.size_clear]
    exact .inl ((hstable ((ids.foldl Tree.detach t').clear 0) 0 true).trans (hclear.trans ((Tree.size_detachAll ids t').trans (hminds _ _ hm))))

theorem eq_zero_of_ended (t : Tree) (hc : ((t.clear 0).setStable 0 true).forest.Connected k) : k = 0 := by
  rw [Tree.forest_setStable] at hc
  have hc : (t.clear 0).forest.Connected k := hc.mono fun p j hj => Forest.children_setStable _ 0 true p ▸ hj
  rw [Tree.forest_clear] at hc
  exact Forest.connected_clear hc

/-- A call that has a choice of its own loses it only if it is given up, and then its context is taken away. -/
theorem Turns.taken_of_choice (hn : 0 < n) (h : a.Strung n) (hnested : a.Nested l.answered) (ht : Turns minds a dd b)
    (hd : d ∈ a.choices) (hdk : d.context? = some k) (hnot : ¬ b.Awaits k) (hans : ¬ l.answeredBy dd k) :
    ¬ b.tree.forest.Connected k := by
  have hmem := h.choices.mem_exits d hd k hdk
  have hlost : d ∉ b.choices := fun hdb => hnot (.inr ⟨d, hdb, hmem⟩)
  have hne : k ≠ 0 := h.choices.context_ne_zero hn hd hdk
  have hb := h.balanced
  cases ht with
  | same | others _ _ | exit | go _ | fail | denied _ | misfit _ | solved => exact absurd hd hlost
  | negate _ | offer _ | answered _ => exact absurd (List.mem_cons_of_mem _ hd) hlost
  | @cut act goals fs after cs t ids hf hids =>
    -- what the choice answers to has not answered, and no negation is cut: the rule that cuts is part of the call
    have hc := Nested.follows hnested.control hf
    have hbarred := Nested.barred hnested.control act goals List.mem_cons_self
    rcases hc.settled d hd k hmem with hk | hk | ⟨d', hd', hneg, hk⟩
    · exact absurd (answeredBy_other hk) hans
    · exact absurd (.inl hk) hnot
    · rw [← List.take_append_drop (cs.length - act.barrier) cs] at hd'
      rcases List.mem_append.1 hd' with hd' | hd'
      · exact absurd hneg (hbarred d' hd')
      · exact absurd (.inr ⟨d', hd', hk⟩) hnot
  | @negated height fs cs t ids hids =>
    rw [← List.take_append_drop (cs.length - height) cs] at hd
    rcases List.mem_append.1 hd with hd | hd
    · refine Tree.not_connected_detachAll ids t hb ?_ ((hids k).2 ⟨d, hd, hdk⟩)
      exact h.choices.ne_zero hn (List.take_subset _ _) fun id => (hids id).1
    · exact absurd hd hlost
  | undo hp =>
    rcases List.mem_cons.1 hd with rfl | hd
    · rw [Choice.context?, hp] at hdk
      cases hdk
    · exact absurd hd hlost
  | @giveUp d₀ goal j tried untried cs t hp =>
    rcases List.mem_cons.1 hd with rfl | hd
    · rw [Choice.context?_of_call hp] at hdk
      cases hdk
      rw [Tree.forest_detach]
      exact Forest.not_connected_detach (heeds_retried hb (h.lt_size (h.pending hp)) tried).1.linked hne
    · exact absurd hd hlost
  | @retry d₀ goal j tried untried frames cs cs' t hp hf hkeeps =>
    rcases List.mem_cons.1 hd with rfl | hd
    · exact absurd (.inl (exits_enters hf ▸ hmem)) hnot
    · rcases hkeeps with rfl | ⟨cp, goal', untried', rfl⟩
      · exact absurd hd hlost
      · exact absurd (List.mem_cons_of_mem _ hd) hlost
  | asks hp =>
    rcases List.mem_cons.1 hd with rfl | hd
    · exact absurd (.inl hmem) hnot
    · exact absurd hd hlost
  | @ended c cs t t' ids hm hids => exact fun hc => hne (eq_zero_of_ended (ids.foldl Tree.detach t') hc)

/-- A call of the application that is being asked is given up if there is no answer. -/
theorem Turns.taken_of_ask (hn : 0 < n) (hminds : ∀ t u, minds t u → Forest.Minds n t.forest u.forest) (h : a.Strung n)
    (ht : Turns minds a dd b) {i : Inquiry} (hi : a.control = .ask i) (hnot : ¬ b.Awaits i.context) :
    ¬ b.tree.forest.Connected i.context := by
  have hstrung : i.choice.Strung n a.tree.forest a.choices := by
    have hc := h.control
    rw [hi] at hc
    exact hc
  have hmem : i.context ∈ exits i.after := hstrung.mem_exits rfl
  have hne : i.context ≠ 0 := Nat.ne_of_gt (Nat.lt_of_lt_of_le hn (hstrung.frames.call _ hmem).1)
  cases ht with
  | same => exact absurd (.inl (hi ▸ hmem)) hnot
  | others hm hask => exact absurd hi (hask i)
  | denied hm =>
    cases hi
    rw [Tree.forest_detach]
    exact Forest.not_connected_detach ((hminds _ _ hm).heeds h.balanced).1.linked hne
  | answered hm =>
    cases hi
    exact absurd (.inl hmem) hnot
  | misfit hm =>
    cases hi
    exact absurd (.inl hmem) hnot
  | @ended c cs t t' ids hm hids => exact fun hc => hne (eq_zero_of_ended (ids.foldl Tree.detach t') hc)
  | _ => cases hi

/-- **The account covers the contexts**: a connected context of the query is stable itself, or that of a call that is
awaited, or stranded; and a stranded one is neither. -/
structure Ledger.Covers (n : Nat) (l : Ledger) (a : Scene) : Prop where
  covered : ∀ k, n ≤ k → a.tree.forest.Connected k →
    a.tree.forest.isLocallyStable k = true ∨ a.Awaits k ∨ l.stranded k
  stranded : ∀ k, l.stranded k → n ≤ k ∧ k < a.tree.forest.size ∧ a.tree.forest.isLocallyStable k = false ∧ ¬ a.Awaits k

theorem Ledger.Covers.next (h : l.Covers n a) (hl : l.Agrees a) (hs : a.Strung n) (he : Effects n a dd b)
    (hb : b.tree.forest.Sane) (hnew : ∀ k, a.tree.forest.size ≤ k → k < b.tree.forest.size → b.Awaits k)
    (hgone : ∀ k, a.Retriable k → ¬ b.Awaits k → ¬ l.answeredBy dd k → ¬ b.tree.forest.Connected k) :
    (l.next dd a b).Covers n b := by
  have hstays : ∀ k, n ≤ k → k < a.tree.forest.size → dd ≠ .retry k → a.tree.forest.isLocallyStable k = true →
      b.tree.forest.isLocallyStable k = true := by
    intro k hnk hlt hret hst
    by_cases hans : dd = .answer k
    · exact (he.answers k hans).2
    · rw [he.heeds.flags k ⟨hnk, hans, hret⟩ hlt]
      exact hst
  refine ⟨fun k hnk hck => ?_, fun k hk => ?_⟩
  · by_cases hlt : k < a.tree.forest.size
    · -- an old context that is connected now has been connected before
      rcases h.covered k hnk (he.heeds.connected k hlt hck) with hst | haw | hstr
      · by_cases hret : dd = .retry k
        · exact .inr (.inl ((he.retries k hret).2.2.resolve_right fun hgone => hgone hck))
        · exact .inl (hstays k hnk hlt hret hst)
      · by_cases hawb : b.Awaits k
        · exact .inr (.inl hawb)
        · -- the call is not awaited any more: it has answered, or it is stranded
          by_cases hans : l.answeredBy dd k
          · refine .inl ?_
            rcases hans with ⟨hold, hret⟩ | hnow
            · exact hstays k hnk hlt hret ((hl.awaited k haw).2 hold)
            · exact (he.answers k hnow).2
          · exact .inr (.inr (.inr ⟨haw, fun hret => hgone k hret hawb hans hck, hawb, hans⟩))
      · exact .inr (.inr (.inl hstr))
    · exact .inr (.inl (hnew k (Nat.not_lt.1 hlt) (hck.lt_size hb)))
  · rcases hk with hk | ⟨haw, -, hnot, hans⟩
    · -- what is stranded is not awaited, so that nothing is done for it any more
      obtain ⟨hnk, hlt, hst, hna⟩ := h.stranded k hk
      have hflag := he.heeds.flags k ⟨hnk, fun hd => hna (he.answers k hd).1, fun hd => hna (he.retries k hd).1⟩ hlt
      exact ⟨hnk, Nat.lt_of_lt_of_le hlt he.heeds.size, hflag.trans hst, fun hb => hna (he.awaits k hlt hb)⟩
    · have hnk := (hs.awaited haw).1
      have hlt := hs.lt_size haw
      refine ⟨hnk, Nat.lt_of_lt_of_le hlt he.heeds.size, ?_, hnot⟩
      by_cases hret : dd = .retry k
      · exact (he.retries k hret).2.1
      · rw [he.heeds.flags k ⟨hnk, fun hd => hans (.inr hd), hret⟩ hlt]
        exact Bool.eq_false_iff.2 fun hst => hans (.inl ⟨(hl.awaited k haw).1 hst, hret⟩)

/-! ## The whole life of a query -/

/-- The application and others make no contexts, and leave those from the number `n` on as stable as they are. -/
abbrev Abstaining (e : Engine σ) (others : σ → Session → σ → Session → Prop) (n : Nat) : Prop :=
  Minding e others fun t u => Forest.Minds n t.forest u.forest ∧ u.forest.size = t.forest.size

theorem Minding.heeding (h : Abstaining e others n) : Heeding e others n :=
  ⟨fun t => (h.refl t).1, fun w s p args i => (h.host w s p args i).1, fun w s w' s' hw => (h.others w s w' s' hw).1⟩

/-- **A moment all of whose contexts are accounted for**; when the query waits, all calls that it may come back to have
answered. -/
structure Audited (n : Nat) (l : Ledger) (a : Moment σ) : Prop extends Accounted n l a where
  covers : l.Covers n a.scene
  nested : a.scene.Nested l.answered
  waiting : ∀ q w s, a = .rest q w s → ∀ k, a.scene.Awaits k → l.answered k

theorem not_awaits_finish (q : Query) (m : Machine σ) : ¬ (Moment.after (q.finish m)).scene.Awaits k := by
  obtain ⟨ids, hscene, -⟩ := scene_finish q m
  rw [hscene]
  rintro (hk | ⟨d, hd, -⟩)
  · cases hk
  · cases hd

theorem Audited.waits {a b : Moment σ} (h : Audited n l a) (hp : Passes e others a b) {q : Query} {w : σ} {s : Session}
    (hb : b = .rest q w s) (hk : b.scene.Awaits k) : (l.next (deed a b) a.scene b.scene).answered k := by
  cases hp with
  | begin hq => cases hb
  | again hq => cases hb
  | move hs => cases hb
  | @solved q c m m' hs =>
    obtain ⟨rfl, rfl⟩ := run_nil_of_solved hs
    rcases hk with hk | ⟨d, hd, hk⟩
    · cases hk
    · exact answeredBy_other (Scene.Nested.answered h.nested d hd k hk)
  | exhausted hs => exact absurd hk (not_awaits_finish _ _)
  | failed hs => exact absurd hk (not_awaits_finish _ _)
  | @close q w s =>
    unfold Query.close at hk
    split at hk
    · exact answeredBy_other (h.waiting q w s rfl k hk)
    · exact absurd hk (not_awaits_finish q (q.machine w s))
  | @other q w w' s s' hw => exact answeredBy_other (h.waiting q w s rfl k hk)

/-- **Every change keeps all contexts accounted for.** -/
theorem Audited.passes {a b : Moment σ} (hn : 0 < n) (hm : Abstaining e others n) (h : Audited n l a)
    (hp : Passes e others a b) : Audited n (l.next (deed a b) a.scene b.scene) b := by
  have ht := passes_turns hm hp
  have hnext := h.toAccounted.passes hn hm.heeding hp
  refine ⟨hnext, h.covers.next h.agrees h.strung (h.effects hn hm.heeding hp) hnext.strung.balanced.linked.sane ?_ ?_,
    h.nested.turns h.strung ht, fun q w s hb k hk => h.waits hp hb hk⟩
  · intro k hk hkb
    rcases ht.size fun _ _ hm => hm.2 with hsize | ⟨hsize, haw⟩
    · exact absurd hkb (Nat.not_lt.2 (hsize ▸ hk))
    · have he : k = a.scene.tree.forest.size := by omega
      exact he ▸ haw
  · rintro k (⟨d, hd, hdk⟩ | ⟨i, hi, rfl⟩) hnot hans
    · exact ht.taken_of_choice hn h.strung h.nested hd hdk hnot hans
    · exact ht.taken_of_ask hn (fun _ _ hm => hm.1) h.strung hi hnot

theorem audited_entry {lib : Library} {owner : Nat} {goal : Call} {vars : VarTable} {q : Query}
    (hq : ofGoal lib owner goal vars = .ok q) (w : σ) {s : Session} (hs : s.tree.forest.Balanced) :
    Audited s.tree.forest.size .empty (.rest q w s) := by
  have hentry : Accounted s.tree.forest.size .empty (.rest q w s) := accounted_entry hq w hs
  obtain ⟨md, g, -, -, rfl⟩ := ofGoal_eq_ok.1 hq
  refine ⟨hentry, ⟨fun k hk hc => absurd (hc.lt_size hs.linked.sane) (Nat.not_lt.2 hk), fun _ hk => hk.elim⟩,
    ⟨Nested.nil, trivial⟩, ?_⟩
  rintro q w s he k (hk | ⟨d, hd, -⟩)
  · cases hk
  · cases hd

theorem Recounts.audited {a b : Moment σ} (hn : 0 < n) (hm : Abstaining e others n) (ha : Audited n .empty a)
    (h : Recounts e others a l b) : Audited n l b := by
  induction h with
  | refl => exact ha
  | step _ hp ih => exact ih.passes hn hm hp

/-! ## When a query waits -/

/-- **The contexts of a query that waits**, those from the number `n` on being its own: all calls that it may come back
to have answered; a context is stable if and only if no call is stranded below it; and nothing makes a stranded one
stable again. -/
structure Waits (n : Nat) (l : Ledger) (a : Scene) : Prop where
  answered : ∀ k, a.Awaits k → l.answered k
  stable_iff : ∀ k, n ≤ k → a.tree.forest.Connected k →
    (a.tree.forest.isStable k = true ↔ ∀ j, a.tree.forest.Under k j → ¬ l.stranded j)
  stranded : ∀ k, l.stranded k → ¬ a.Awaits k ∧ a.tree.forest.isLocallyStable k = false

theorem Audited.waitsAt {q : Query} {w : σ} {s : Session} (h : Audited n l (.rest q w s)) :
    Waits n l (Moment.rest q w s).scene := by
  have hanswered := h.waiting q w s rfl
  have hbalanced := h.strung.balanced
  refine ⟨hanswered, fun k hnk hck => ?_, fun k hk => ⟨(h.covers.stranded k hk).2.2.2, (h.covers.stranded k hk).2.2.1⟩⟩
  rw [hbalanced.isStable_iff hck]
  refine forall_congr' fun j => forall_congr' fun hj => ⟨fun hst hstr => ?_, fun hnot => ?_⟩
  · rw [(h.covers.stranded j hstr).2.2.1] at hst
    cases hst
  · have hnj : n ≤ j := Nat.le_trans hnk (hj.le hbalanced.linked.sane)
    have hcj : Forest.Connected _ j := Forest.connected_iff.2 ((Forest.connected_iff.1 hck).trans hj)
    rcases h.covers.covered j hnj hcj with hst | haw | hstr
    · exact hst
    · exact (h.agrees.awaited j haw).2 (hanswered j haw)
    · exact absurd hstr hnot

/-- **Whenever a query waits**, after a solution as well, a context of its own that is connected is stable if and only if
no call is stranded below it. -/
theorem stable_iff_unstranded (e : Engine σ) (others : σ → Session → σ → Session → Prop) {s : Session}
    (hm : Abstaining e others s.tree.forest.size) (hs : s.tree.forest.Balanced) {owner : Nat} {goal : Call}
    {vars : VarTable} {q : Query} (hq : ofGoal e.library owner goal vars = .ok q) {w : σ} {q' : Query} {w' : σ}
    {s' : Session} (hb : Comes e others (.rest q w s) (.rest q' w' s')) :
    (∃ l, Recounts e others (.rest q w s) l (.rest q' w' s')) ∧
      ∀ l, Recounts e others (.rest q w s) l (.rest q' w' s') → Waits s.tree.forest.size l (Moment.rest q' w' s').scene :=
  ⟨hb.recounts, fun _ hl => (hl.audited hs.linked.sane.root hm (audited_entry hq w hs)).waitsAt⟩

/-! ## An example

The rules `good`, `bad :- fail`, `alt :- bad` and `alt :- good`, and the query `alt` in a session whose root is stable
itself.  The only rule of `bad` has been begun when it fails, so that its choice is gone. -/

def fallback : RuleModule :=
  (RuleModule.compile ⟨[]⟩ "fallback" .none
    (RuleText.numbered ["good", "bad :- fail", "alt :- bad", "alt :- good"])).toOption.getD ⟨"", [], [], .none⟩

def fallbackEngine : Engine Unit := ⟨⟨[fallback]⟩, .silent, .standard⟩

def fallbackQuery : Query := (ofGoal ⟨[fallback]⟩ 0 ⟨"alt", []⟩ .empty).toOption.getD ⟨[], ⟨0, 0⟩, .ended, .empty, .empty, 0⟩

def fallbackSession : Session := Session.new.onTree (·.setStable 0 true)

def fallbackFirst : Except QueryError (Option Solution) × Query × Unit × Session :=
  fallbackQuery.next fallbackEngine () fallbackSession

theorem ofGoal_fallback : ofGoal fallbackEngine.library 0 ⟨"alt", []⟩ .empty = .ok fallbackQuery := by
  have hok : (ofGoal ⟨[fallback]⟩ 0 ⟨"alt", []⟩ .empty).isOk = true := by decide +kernel
  exact eq_ok_of_isOk hok _

theorem stable_iff_unstranded_fallback :
    let others := fun (_ : Unit) (_ : Session) (_ : Unit) (_ : Session) => False
    let b : Moment Unit := .rest fallbackFirst.2.1 fallbackFirst.2.2.1 fallbackFirst.2.2.2
    Abstaining fallbackEngine others fallbackSession.tree.forest.size ∧ fallbackSession.tree.forest.Balanced ∧
      ofGoal fallbackEngine.library 0 ⟨"alt", []⟩ .empty = .ok fallbackQuery ∧
        Comes fallbackEngine others (.rest fallbackQuery () fallbackSession) b ∧
          (∃ l, Recounts fallbackEngine others (.rest fallbackQuery () fallbackSession) l b) ∧
            ∀ l, Recounts fallbackEngine others (.rest fallbackQuery () fallbackSession) l b →
              Waits fallbackSession.tree.forest.size l b.scene := by
  have hm : Abstaining fallbackEngine (fun _ _ _ _ => False) fallbackSession.tree.forest.size :=
    ⟨fun _ => ⟨.refl, rfl⟩, fun _ _ _ _ _ => ⟨.refl, rfl⟩, fun _ _ _ _ h => h.elim⟩
  have hroot : (Forest.root.setStable 0 true).1.Balanced := (Forest.balanced_root.setStable (by decide) true).1
  have hs : fallbackSession.tree.forest.Balanced := hroot
  have hr : fallbackQuery.next fallbackEngine () fallbackSession = fallbackFirst := rfl
  have hb := comes_next fallbackEngine (fun _ _ _ _ => False) fallbackQuery () fallbackSession
  rw [hr] at hb
  exact ⟨hm, hs, ofGoal_fallback, hb, stable_iff_unstranded fallbackEngine _ hm hs ofGoal_fallback hb⟩

/-- A solution has been found, and the context of `bad` is still connected and unstable, so that the root is unstable
although it is stable itself. -/
theorem unstable_at_solution_fallback :
    ofGoal fallbackEngine.library 0 ⟨"alt", []⟩ .empty = .ok fallbackQuery ∧
      (∃ found, fallbackFirst.1 = .ok (some found)) ∧ fallbackSession.tree.forest.size ≤ 2 ∧
        fallbackFirst.2.2.2.tree.forest.Connected 2 ∧ fallbackFirst.2.2.2.tree.forest.isStable 2 = false ∧
          fallbackFirst.2.2.2.tree.forest.isLocallyStable 0 = true ∧
            fallbackFirst.2.2.2.tree.forest.isStable 0 = false := by
  obtain ⟨hsome, halt, hbad, hflags⟩ : fallbackFirst.1.toOption.map Option.isSome = some true ∧
      1 ∈ fallbackFirst.2.2.2.tree.forest.children 0 ∧ 2 ∈ fallbackFirst.2.2.2.tree.forest.children 1 ∧
        fallbackFirst.2.2.2.tree.forest.isStable 2 = false ∧ fallbackFirst.2.2.2.tree.forest.isLocallyStable 0 = true ∧
          fallbackFirst.2.2.2.tree.forest.isStable 0 = false := by decide +kernel
  obtain ⟨found, hfound, hs⟩ := Option.map_eq_some_iff.1 hsome
  obtain ⟨sol, rfl⟩ := Option.isSome_iff_exists.1 hs
  exact ⟨ofGoal_fallback, ⟨sol, eq_ok_of_toOption hfound⟩, by decide, .child (.child .root halt) hbad, hflags⟩

end Remedy.Query
