import Remedy.Proofs.Context.Cancel
import Remedy.Proofs.Query.Contexts
/-!
# Proofs.Query.Standing — the contexts of what is pending are never taken away

A search takes contexts away: that of a call which has no alternatives left, and those of the choices that a cut or a
negation gives up.  All that is still pending lies below them: a choice mentions only contexts that are older than those
of the choices above it (`Standing`), and so do the frames that are being run (`Framed`).  Since taking a context away
leaves the older ones connected, the context of every pending call stays connected with the root (`Rooted.moves`).
-/
namespace Remedy.Query

open Context (Forest)

variable {σ : Type}

/-! ## The contexts that are mentioned -/

def Frame.context? : Frame → Option Nat
  | .body act _ => some act.context
  | .exit _ => none
  | .negated _ => none

/-- A choice mentions the context of its call, and those of the frames after it. -/
def Choice.Mentions (c : Choice) (k : Nat) : Prop := c.context? = some k ∨ ∃ f ∈ c.after, f.context? = some k

/-- A rule's context is connected, and older than those of the choices above its barrier. -/
def Activation.Stands (t : Forest) (cs : List Choice) (act : Activation) : Prop :=
  t.Connected act.context ∧ ∀ c ∈ cs.take (cs.length - act.barrier), ∀ k, c.context? = some k → act.context ≤ k

def Frame.Stands (t : Forest) (cs : List Choice) : Frame → Prop
  | .body act _ => act.Stands t cs
  | .exit _ => True
  | .negated _ => True

/-- A frame that may be the last one: it has but calls to run. -/
def Frame.Final : Frame → Prop
  | .body _ goals => ∀ g ∈ goals, ∃ callee c, g = .call callee c
  | .exit _ => True
  | .negated _ => True

/-- **Frames above a stack of choices**: their rules' contexts stand, those of the callers are older, and after anything
but a call there is another frame. -/
structure Framed (t : Forest) (cs : List Choice) (frames : List Frame) : Prop where
  stands : ∀ f ∈ frames, f.Stands t cs
  order : frames.Pairwise fun inner outer => ∀ j k, inner.context? = some j → outer.context? = some k → k ≤ j
  final : ∀ f, frames.getLast? = some f → f.Final

/-- **A choice above others**: frames follow it, and the context of its call is connected and newer than all that these
frames and the other choices mention. -/
structure Choice.Stands (t : Forest) (cs : List Choice) (c : Choice) : Prop where
  after : c.after ≠ []
  framed : Framed t cs c.after
  connected : ∀ k, c.context? = some k → t.Connected k
  newest : ∀ k, c.context? = some k → ∀ f ∈ c.after, ∀ j, f.context? = some j → j ≤ k
  newer : ∀ k, c.context? = some k → ∀ d ∈ cs, ∀ j, d.Mentions j → j < k

/-- **All choices stand**, each above those that are older. -/
def Standing (t : Forest) : List Choice → Prop
  | [] => True
  | c :: cs => c.Stands t cs ∧ Standing t cs

variable {t u : Forest} {cs : List Choice} {c d : Choice} {frames : List Frame} {act : Activation}

/-! ## Frames -/

theorem Activation.Stands.drop (h : act.Stands t cs) (n : Nat) : act.Stands t (cs.drop n) := by
  refine ⟨h.1, fun c hc => h.2 c (List.mem_of_mem_drop (i := n) ?_)⟩
  rw [List.drop_take]
  rw [List.length_drop] at hc
  have he : cs.length - n - act.barrier = cs.length - act.barrier - n := by omega
  rw [← he]
  exact hc

theorem Activation.Stands.push (h : act.Stands t cs) (hc : ∀ k, c.context? = some k → act.context ≤ k) :
    act.Stands t (c :: cs) := by
  refine ⟨h.1, fun d hd => ?_⟩
  rw [List.length_cons] at hd
  by_cases hb : act.barrier ≤ cs.length
  · rw [Nat.succ_sub hb, List.take_succ_cons] at hd
    rcases List.mem_cons.1 hd with rfl | hd
    · exact hc
    · exact h.2 d hd
  · have h0 : cs.length + 1 - act.barrier = 0 := by omega
    rw [h0] at hd
    cases hd

theorem Framed.nil : Framed t cs [] := ⟨List.forall_mem_nil _, .nil, fun _ h => nomatch h⟩

theorem Framed.tail {f : Frame} (h : Framed t cs (f :: frames)) : Framed t cs frames := by
  refine ⟨fun g hg => h.stands g (List.mem_cons_of_mem _ hg), (List.pairwise_cons.1 h.order).2, fun g hg => ?_⟩
  cases frames with
  | nil => cases hg
  | cons f' fs => exact h.final g (by rw [List.getLast?_cons_cons]; exact hg)

theorem Framed.change (h : Framed t cs frames) {cs' : List Choice}
    (hs : ∀ act goals, .body act goals ∈ frames → act.Stands t cs → act.Stands u cs') : Framed u cs' frames := by
  refine ⟨fun f hf => ?_, h.order, h.final⟩
  have hstands := h.stands f hf
  cases f with
  | body act goals => exact hs act goals hf hstands
  | exit k => trivial
  | negated height => trivial

theorem Framed.forest (h : Framed t cs frames)
    (hk : ∀ f ∈ frames, ∀ k, f.context? = some k → t.Connected k → u.Connected k) : Framed u cs frames :=
  h.change fun _ _ hm hs => ⟨hk _ hm _ rfl hs.1, hs.2⟩

theorem Framed.drop (h : Framed t cs frames) (n : Nat) : Framed t (cs.drop n) frames :=
  h.change fun _ _ _ hs => hs.drop n

theorem Framed.push (h : Framed t cs frames)
    (hc : ∀ k, c.context? = some k → ∀ f ∈ frames, ∀ j, f.context? = some j → j ≤ k) : Framed t (c :: cs) frames :=
  h.change fun _ _ hm hs => hs.push fun k hk => hc k hk _ hm _ rfl

theorem Framed.connected (h : Framed t cs frames) {f : Frame} (hf : f ∈ frames) {k : Nat} (hk : f.context? = some k) :
    t.Connected k := by
  have hs := h.stands f hf
  cases f with
  | body act goals =>
    cases hk
    exact hs.1
  | exit k => cases hk
  | negated height => cases hk

theorem Framed.cons (h : Framed t cs frames) {f : Frame} (hs : f.Stands t cs) (hf : frames = [] → f.Final)
    (ho : ∀ j, f.context? = some j → ∀ g ∈ frames, ∀ k, g.context? = some k → k ≤ j) : Framed t cs (f :: frames) := by
  have horder := List.pairwise_cons.2 ⟨fun g hg j k hj hk => ho j hj g hg k hk, h.order⟩
  refine ⟨List.forall_mem_cons.2 ⟨hs, h.stands⟩, horder, fun g hg => ?_⟩
  cases frames with
  | nil =>
    cases hg
    exact hf rfl
  | cons f' fs =>
    rw [List.getLast?_cons_cons] at hg
    exact h.final g hg

theorem Framed.afterGoal {g : Goal Callee} {rest : List (Goal Callee)}
    (h : Framed t cs (.body act (g :: rest) :: frames)) : Framed t cs (Machine.afterGoal act rest frames) := by
  unfold Machine.afterGoal
  split
  · exact h.tail
  · have hs : act.Stands t cs := h.stands (.body act (g :: rest)) List.mem_cons_self
    refine h.tail.cons hs (fun hnil => ?_) fun j hj f hf k hk => (List.pairwise_cons.1 h.order).1 f hf j k hj hk
    have hfin := h.final (.body act (g :: rest)) (by rw [hnil]; rfl)
    exact fun g' hg' => hfin g' (List.mem_cons_of_mem _ hg')

theorem context_afterGoal {rest : List (Goal Callee)}
    (ho : ∀ f ∈ frames, ∀ k, f.context? = some k → k ≤ act.context) :
    ∀ f ∈ Machine.afterGoal act rest frames, ∀ k, f.context? = some k → k ≤ act.context := by
  unfold Machine.afterGoal
  split
  · exact ho
  · refine List.forall_mem_cons.2 ⟨fun k hk => ?_, ho⟩
    cases hk
    exact Nat.le_refl _

/-! ## The stack -/

theorem Choice.Stands.forest (h : c.Stands t cs) (hk : ∀ k, c.Mentions k → t.Connected k → u.Connected k) :
    c.Stands u cs :=
  ⟨h.after, h.framed.forest fun f hf k hfk => hk k (.inr ⟨f, hf, hfk⟩),
    fun k hck => hk k (.inl hck) (h.connected k hck), h.newest, h.newer⟩

/-- Whatever alternatives are left, a choice stands like another with the same context and the same frames after it. -/
theorem Choice.Stands.again (h : c.Stands t cs) (ha : d.after = c.after) (hc : d.context? = c.context?) :
    d.Stands t cs := by
  refine ⟨ha ▸ h.after, ha ▸ h.framed, fun k hk => h.connected k (hc ▸ hk), fun k hk => ?_, fun k hk => ?_⟩
  · rw [ha]
    exact h.newest k (hc ▸ hk)
  · exact h.newer k (hc ▸ hk)

theorem Framed.negation (h : Framed t cs frames) (hne : frames ≠ []) (cp : Checkpoint) :
    Choice.Stands t cs ⟨cp, frames, .negation⟩ :=
  ⟨hne, h, (fun _ hk => nomatch hk), (fun _ hk => nomatch hk), fun _ hk => nomatch hk⟩

theorem Choice.Stands.mentioned (h : c.Stands t cs) {k : Nat} (hk : c.Mentions k) : t.Connected k := by
  rcases hk with hk | ⟨f, hf, hk⟩
  · exact h.connected k hk
  · exact h.framed.connected hf hk

theorem Standing.forest : ∀ {cs : List Choice}, Standing t cs →
    (∀ d ∈ cs, ∀ k, d.Mentions k → t.Connected k → u.Connected k) → Standing u cs
  | [], _, _ => trivial
  | _ :: _, ⟨hc, hcs⟩, hk =>
    ⟨hc.forest (hk _ List.mem_cons_self), hcs.forest fun d hd => hk d (List.mem_cons_of_mem _ hd)⟩

theorem Standing.drop : ∀ (n : Nat) {cs : List Choice}, Standing t cs → Standing t (cs.drop n)
  | 0, _, h => h
  | _ + 1, [], h => h
  | n + 1, _ :: _, ⟨_, hcs⟩ => Standing.drop n hcs

theorem Standing.mentioned : ∀ {cs : List Choice}, Standing t cs → ∀ d ∈ cs, ∀ k, d.Mentions k → t.Connected k
  | [], _ => List.forall_mem_nil _
  | _ :: _, ⟨hc, hcs⟩ => List.forall_mem_cons.2 ⟨fun _ hk => hc.mentioned hk, hcs.mentioned⟩

/-- **What a choice mentions is older than the choices above it.** -/
theorem Standing.newer : ∀ (n : Nat) {cs : List Choice}, Standing t cs → ∀ c ∈ cs.take n, ∀ j, c.context? = some j →
    ∀ d ∈ cs.drop n, ∀ k, d.Mentions k → k < j
  | 0, _, _ => fun _ hc => nomatch hc
  | _ + 1, [], _ => fun _ hc => nomatch hc
  | n + 1, c :: cs, ⟨hc, hcs⟩ => by
    intro c' hc' j hj d hd k hk
    rcases List.mem_cons.1 hc' with rfl | hc'
    · exact hc.newer j hj d (List.mem_of_mem_drop hd) k hk
    · exact hcs.newer n c' hc' j hj d hd k hk

/-! ## The search -/

variable {e : Engine σ} {m m' : Machine σ} {o : Outcome} {after : List Frame}

/-- **All that is pending hangs together with the root.** -/
structure Rooted (m : Machine σ) : Prop where
  sane : m.forest.Sane
  choices : Standing m.forest m.choices.items

def Control.Stands (m : Machine σ) : Control → Prop
  | .run frames => Framed m.forest m.choices.items frames
  | .backtrack => True
  | .ask i => i.choice.Stands m.forest m.choices.items

structure RootedBy (o : Outcome) (m : Machine σ) : Prop where
  rooted : Rooted m
  control : ∀ c, o = .more c → c.Stands m

theorem Rooted.more (h : Rooted m) {c : Control} (hc : c.Stands m) : RootedBy (.more c) m :=
  ⟨h, fun _ he => by cases he; exact hc⟩

theorem Rooted.back (h : Rooted m) : RootedBy (.more .backtrack) m := h.more trivial

theorem Rooted.proceed (h : Rooted m) (ha : Framed m.forest m.choices.items after) {success : Bool} :
    RootedBy (.proceed success after) m := by
  cases success with
  | true => exact h.more ha
  | false => exact h.back

theorem Rooted.change (h : Rooted m) (hs : m'.forest.Sane) (hc : m'.choices = m.choices)
    (hk : ∀ d ∈ m.choices.items, ∀ k, d.Mentions k → m.forest.Connected k → m'.forest.Connected k) : Rooted m' := by
  refine ⟨hs, ?_⟩
  rw [hc]
  exact h.choices.forest hk

theorem Rooted.congr (h : Rooted m) (hf : m'.forest = m.forest) (hc : m'.choices = m.choices) : Rooted m' :=
  h.change (hf ▸ h.sane) hc fun _ _ _ _ hk => hf ▸ hk

theorem Rooted.push (h : Rooted m) {c : Choice} (hc : c.Stands m.forest m.choices.items) : Rooted (m.push c) :=
  ⟨h.sane, hc, h.choices⟩

theorem connected_setStable (f : Forest) (id : Nat) (b : Bool) {k : Nat} (h : f.Connected k) :
    (f.setStable id b).1.Connected k :=
  h.mono fun p _ hj => (Forest.children_setStable f id b p).symm ▸ hj

theorem connected_detach {f : Forest} (hs : f.Sane) {id k : Nat} (hk : k < id) (h : f.Connected k) :
    (f.detach id).1.Connected k :=
  h.of_older hs (fun _ _ hj hjp => Forest.mem_children_detach hjp (Nat.ne_of_lt hj)) hk

theorem Rooted.setStable (h : Rooted m) (id : Nat) (b : Bool) : Rooted (m.onTree (·.setStable id b)) := by
  have hf := Machine.forest_setStable m id b
  refine h.change (hf ▸ h.sane.setStable id b) rfl fun _ _ _ _ hk => ?_
  rw [hf]
  exact connected_setStable m.forest id b hk

theorem Rooted.detach (h : Rooted m) {id : Nat} (hid : ∀ d ∈ m.choices.items, ∀ k, d.Mentions k → k < id) :
    Rooted (m.onTree (·.detach id)) := by
  have hf := Machine.forest_detach m id
  refine h.change (hf ▸ h.sane.detach id) rfl fun d hd k hdk hk => ?_
  rw [hf]
  exact connected_detach h.sane (hid d hd k hdk) hk

theorem sane_detachAll : ∀ (ids : List Nat) (t : Context.Tree), t.forest.Sane →
    (ids.foldl Context.Tree.detach t).forest.Sane
  | [], _, h => h
  | id :: ids, t, h => by
    have hd : (t.detach id).forest = (t.forest.detach id).1 := Context.Tree.forest_change _ _
    exact sane_detachAll ids (t.detach id) (hd ▸ h.detach id)

theorem connected_detachAll : ∀ (ids : List Nat) (t : Context.Tree), t.forest.Sane → ∀ {k : Nat}, (∀ j ∈ ids, k < j) →
    t.forest.Connected k → (ids.foldl Context.Tree.detach t).forest.Connected k
  | [], _, _, _, _, h => h
  | id :: ids, t, hs, k, hlt, h => by
    have hd : (t.detach id).forest = (t.forest.detach id).1 := Context.Tree.forest_change _ _
    refine connected_detachAll ids (t.detach id) (hd ▸ hs.detach id) (fun j hj => hlt j (List.mem_cons_of_mem _ hj)) ?_
    rw [hd]
    exact connected_detach hs (hlt id List.mem_cons_self) h

/-- **A cut leaves connected what is older than all that it gives up.** -/
theorem connected_cut (h : Rooted m) {height : Nat} {keep : Option Nat} {k : Nat}
    (hlt : ∀ c ∈ m.choices.items.take (m.choices.height - height), ∀ j, c.context? = some j → some j ≠ keep → k < j)
    (hk : m.forest.Connected k) : (m.cut height keep).forest.Connected k := by
  refine connected_detachAll _ m.session.tree h.sane (fun j hj => ?_) hk
  obtain ⟨hj, hne⟩ := List.mem_filter.1 hj
  obtain ⟨c, hc, hcj⟩ := List.mem_filterMap.1 hj
  exact hlt c (List.mem_reverse.1 hc) j hcj (by simpa using hne)

theorem Rooted.cut (h : Rooted m) (height : Nat) (keep : Option Nat) : Rooted (m.cut height keep) := by
  refine ⟨sane_detachAll _ m.session.tree h.sane, (h.choices.drop _).forest fun d hd k hdk hk => ?_⟩
  exact connected_cut h (fun c hc j hj _ => h.choices.newer _ c hc j hj d hd k hdk) hk

/-! ## Every transition keeps all together -/

/-- The frames of a rule that is being run, and of those who wait for it. -/
structure Underway (m : Machine σ) (act : Activation) (after : List Frame) : Prop where
  rule : act.Stands m.forest m.choices.items
  waiting : Framed m.forest m.choices.items after
  older : ∀ f ∈ after, ∀ k, f.context? = some k → k ≤ act.context

/-- **A cut takes away nothing that the rule or those who wait for it need.** -/
theorem Underway.cut (hr : Underway m act after) (h : Rooted m) :
    RootedBy (.more (.run after)) (m.cut act.barrier (some act.context)) := by
  refine (h.cut _ _).more ((hr.waiting.drop _).forest fun f hf k hfk hk => connected_cut h (fun c hc j hj hne => ?_) hk)
  rw [← m.choices.height_eq] at hc
  have hle := hr.rule.2 c hc j hj
  have hold := hr.older f hf k hfk
  have hne' : j ≠ act.context := fun he => hne (congrArg some he)
  omega

/-- **A new call stands above all that is pending.** -/
theorem Underway.offer (hr : Underway m act after) (h : Rooted m) (goal : Call) (untried : Untried) :
    RootedBy (.more .backtrack) (m.offer act goal untried after).2 := by
  have hp : act.context < m.forest.size := hr.rule.1.lt_size h.sane
  have hf := Machine.forest_offer m act goal untried after
  have hkeep : ∀ k, m.forest.Connected k → (m.offer act goal untried after).2.forest.Connected k := by
    intro k hk
    rw [hf]
    exact hk.mono fun _ _ hj => (Forest.mem_children_create hp).2 (.inl hj)
  have hnew : (m.offer act goal untried after).2.forest.Connected m.forest.size := by
    refine .child (hkeep _ hr.rule.1) ?_
    rw [hf]
    exact (Forest.mem_children_create hp).2 (.inr ⟨rfl, rfl⟩)
  have hframed := hr.waiting.forest (u := (m.offer act goal untried after).2.forest) fun _ _ k _ hk => hkeep k hk
  have hexit := hframed.cons (f := .exit m.forest.size) trivial (fun _ => trivial) (fun _ hj => nomatch hj)
  refine Rooted.back ⟨?_, ⟨List.cons_ne_nil _ _, hexit, ?_, ?_, ?_⟩, h.choices.forest fun _ _ k _ hk => hkeep k hk⟩
  · rw [hf]
    exact h.sane.create hp
  · intro k hk
    cases hk
    exact hnew
  · intro k hk f hfm j hj
    cases hk
    rcases List.mem_cons.1 hfm with rfl | hfm
    · cases hj
    · exact Nat.le_trans (hr.older f hfm j hj) (Nat.le_of_lt hp)
  · intro k hk d hd j hj
    cases hk
    exact (h.choices.mentioned d hd j hj).lt_size h.sane

/-- **Running a goal keeps all together.** -/
theorem Underway.executes (hr : Underway m act after) (h : Rooted m) {g : Goal Callee}
    (hlast : after = [] → ∃ callee c, g = .call callee c) (hx : m.Executes e act after g o m') : RootedBy o m' := by
  have hsame : ∀ (m' : Machine σ) (success : Bool), m'.forest = m.forest → m'.choices = m.choices →
      RootedBy (.proceed success after) m' := by
    intro m' success hf hc
    refine (h.congr hf hc).proceed ?_
    rw [hf, hc]
    exact hr.waiting
  cases hx with
  | fault g cause _ => exact ⟨h, fun _ hc => nomatch hc⟩
  | cut => exact hr.cut h
  | unify ha hb => exact hsame _ _ rfl rfl
  | is ha => exact hsame _ _ rfl rfl
  | test x success => exact hsame _ _ rfl rfl
  | not g =>
    have hne : after ≠ [] := fun hnil => by
      obtain ⟨callee, c, hg⟩ := hlast hnil
      cases hg
    refine (h.push (hr.waiting.negation hne m.bindings.checkpoint)).more ?_
    have hneg : ∀ {t : Forest} {cs : List Choice}, Framed t cs [.negated m.choices.height] := fun {t cs} =>
      Framed.cons .nil trivial (fun _ => trivial) fun _ hj => nomatch hj
    refine hneg.cons ⟨hr.rule.1, fun c hc => ?_⟩ (fun hnil => nomatch hnil) fun j _ f hf k hk => ?_
    · -- nothing lies above the barrier of the negated goal yet
      have h0 : (m.choices.items.length + 1) - (m.choices.height + 1) = 0 := by
        rw [m.choices.height_eq]
        omega
      have hc : c ∈ (_ :: m.choices.items).take ((m.choices.items.length + 1) - (m.choices.height + 1)) := hc
      rw [h0] at hc
      cases hc
    · rw [List.mem_singleton.1 hf] at hk
      cases hk
  | check b c success => exact hsame _ _ rfl rfl
  | assert b c hs => exact hsame _ true (congrArg Context.Tree.forest (Machine.tree_assert hs)) rfl
  | retract b c hargs hp hret => exact hsame _ _ rfl rfl
  | log b c message => exact hsame _ true rfl rfl
  | offer hargs hu => exact hr.offer h _ _

theorem Rooted.retry (h : Rooted m) (k : Nat) (tried : Bool) : Rooted (m.retry k tried) := by
  unfold Machine.retry
  split
  · exact h.setStable k false
  · exact h

theorem Choice.Stands.retry (h : c.Stands m.forest m.choices.items) (k : Nat) (tried : Bool) :
    c.Stands (m.retry k tried).forest (m.retry k tried).choices.items := by
  rw [Machine.choices_retry]
  refine h.forest fun j _ hj => ?_
  unfold Machine.retry
  split
  · rw [Machine.forest_setStable]
    exact connected_setStable m.forest k false hj
  · exact hj

theorem Rooted.keep (h : Rooted m) (hc : c.Stands m.forest m.choices.items) {goal : Call} {k : Nat}
    (hck : c.context? = some k) (left : Bool) (untried : Untried) : Rooted (m.keep c goal k left untried) := by
  unfold Machine.keep
  split
  · exact h.push (hc.again rfl hck.symm)
  · exact h

theorem Choice.Stands.framed_keep (hc : c.Stands m.forest m.choices.items) {goal : Call} {k : Nat}
    (hck : c.context? = some k) (left : Bool) (untried : Untried) :
    Framed (m.keep c goal k left untried).forest (m.keep c goal k left untried).choices.items c.after := by
  unfold Machine.keep
  split
  · refine hc.framed.push fun j hj f hf i hi => ?_
    cases hj
    exact hc.newest k hck f hf i hi
  · exact hc.framed

/-- Above the old height there is the choice, if it has stayed, and nothing else. -/
theorem context_above_keep {c d : Choice} {goal : Call} {k : Nat} {left : Bool} {untried : Untried}
    (hd : d ∈ (m.keep c goal k left untried).choices.items.take
      ((m.keep c goal k left untried).choices.items.length - m.choices.height)) : d.context? = some k := by
  unfold Machine.keep at hd
  rw [← m.choices.height_eq] at hd
  split at hd
  · have hlen : (m.choices.items.length + 1) - m.choices.items.length = 1 := by omega
    have hd : d ∈ (_ :: m.choices.items).take ((m.choices.items.length + 1) - m.choices.items.length) := hd
    rw [hlen, List.take_succ_cons, List.take_zero, List.mem_singleton] at hd
    rw [hd]
    rfl
  · rw [Nat.sub_self] at hd
    cases hd

/-- **Going back to a choice** that has been taken off the stack keeps all together. -/
theorem Rooted.resumes (h : Rooted m) (hc : c.Stands m.forest m.choices.items) (hr : m.Resumes c o m') :
    RootedBy o m' := by
  have hretried : ∀ (k : Nat) (tried : Bool) (b : Bindings), Rooted ((m.retry k tried).withBindings b) :=
    fun k tried _ => ⟨(h.retry k tried).sane, (h.retry k tried).choices⟩
  -- a call with nothing left to try loses its context; all else that is pending mentions older ones
  have hgiveUp : ∀ {k : Nat} (tried : Bool) (b : Bindings), c.context? = some k →
      RootedBy (.more .backtrack) (((m.retry k tried).withBindings b).onTree (·.detach k)) := by
    intro k tried b hck
    refine ((hretried k tried b).detach fun d hd j hj => ?_).back
    have hcs : ((m.retry k tried).withBindings b).choices = m.choices := Machine.choices_retry m k tried
    rw [hcs] at hd
    exact hc.newer k hck d hd j hj
  cases hr with
  | negation hp => exact h.more hc.framed
  | @noClause goal k owner tried clauses b hp hf => exact hgiveUp tried b (Choice.context?_of_call hp)
  | @clause goal k owner base tried clauses rest cl b hp hf =>
    have hck : c.context? = some k := Choice.context?_of_call hp
    have hcm : c.Stands ((m.retry k tried).withBindings b).forest ((m.retry k tried).withBindings b).choices.items :=
      hc.retry k tried
    refine ((hretried k tried b).keep hcm hck _ _).more ?_
    refine (hcm.framed_keep hck _ _).cons ⟨?_, fun d hd j hj => ?_⟩ (fun hnil => absurd hnil hc.after)
      fun j hj f hf i hi => ?_
    · rw [Machine.forest_keep]
      exact hcm.connected k hck
    · have hcs : ((m.retry k tried).withBindings b).choices = m.choices := Machine.choices_retry m k tried
      rw [← hcs] at hd
      have hdk := context_above_keep hd
      rw [hj] at hdk
      exact Nat.le_of_eq (Option.some.inj hdk).symm
    · cases hj
      exact hc.newest k hck f hf i hi
  | @noFact goal k tried facts b hp hf => exact hgiveUp tried b (Choice.context?_of_call hp)
  | @fact goal k tried facts rest b hp hf =>
    have hck : c.context? = some k := Choice.context?_of_call hp
    have hcm : c.Stands ((m.retry k tried).withBindings b).forest ((m.retry k tried).withBindings b).choices.items :=
      hc.retry k tried
    exact ((hretried k tried b).keep hcm hck _ _).more (hcm.framed_keep hck _ _)
  | @answers goal args k asked tried p hp =>
    have hck : c.context? = some k := Choice.context?_of_call hp
    exact (h.retry k tried).more ((hc.retry k tried).again rfl hck.symm)

/-- **The application spares the contexts** that were there when it was asked. -/
def Host.Sparing (h : Host σ) : Prop :=
  ∀ w s p args n, Forest.Spares s.tree.forest (h.ask w s p args n).session.tree.forest

theorem spares_reply (hh : e.host.Sparing) (m : Machine σ) (i : Inquiry) :
    Forest.Spares m.forest (m.reply e i).2.2.tree.forest := by
  unfold Machine.reply Host.next
  split
  · exact .refl
  · split
    · exact .refl
    · exact hh _ _ _ _ _

theorem Rooted.spared (h : Rooted m) (hs : Forest.Spared m.forest m'.forest) (hc : m'.choices = m.choices) :
    Rooted m' :=
  h.change hs.sane hc fun _ _ _ _ hk => hs.connected hk

theorem underway_record (h : Rooted m) {g : Goal Callee} {rest : List (Goal Callee)}
    (hf : Framed m.forest m.choices.items (.body act (g :: rest) :: frames)) (o : Options) :
    Rooted (m.ticked.record o g) ∧ Underway (m.ticked.record o g) act (Machine.afterGoal act rest frames) := by
  have hfr : (m.ticked.record o g).forest = m.forest := Machine.forest_record m.ticked o g
  have hcr : (m.ticked.record o g).choices = m.choices := Machine.choices_record m.ticked o g
  refine ⟨h.congr hfr hcr, ?_, ?_, context_afterGoal fun f hm k hk => ?_⟩
  · rw [hfr, hcr]
    exact hf.stands (.body act (g :: rest)) List.mem_cons_self
  · rw [hfr, hcr]
    exact hf.afterGoal
  · exact (List.pairwise_cons.1 hf.order).1 f hm _ _ rfl hk

/-- **Every transition keeps all together.** -/
theorem Rooted.moves (hh : e.host.Sparing) (h : Rooted m) {c : Control} (hc : c.Stands m) (hm : m.Moves e c o m') :
    RootedBy o m' := by
  have hheard : ∀ {i : Inquiry} {r : Except QueryError (Option Answer)} {w : σ} {s : Session},
      m.reply e i = (r, w, s) → Forest.Spared m.forest s.tree.forest := by
    intro i r w s hr
    have hs := spares_reply hh m i
    rw [hr] at hs
    exact hs.spared h.sane
  cases hm with
  | solved => exact ⟨h, fun _ hc => nomatch hc⟩
  | stopped ht => exact ⟨h.congr rfl rfl, fun _ hc => nomatch hc⟩
  | @exit k fs ht =>
    have ht : Rooted m.ticked := h.congr rfl rfl
    refine (ht.setStable k true).more ?_
    have hf := Machine.forest_setStable m.ticked k true
    refine Framed.forest (t := m.forest) (Framed.tail hc) fun f _ j _ hj => ?_
    rw [hf]
    exact connected_setStable m.forest k true hj
  | negated ht =>
    have ht : Rooted m.ticked := h.congr rfl rfl
    exact (ht.cut _ none).back
  | bodyEnd ht =>
    have ht : Rooted m.ticked := h.congr rfl rfl
    exact ht.more (Framed.tail hc)
  | @goal act g rest fs o m' ht hx =>
    obtain ⟨hr, hu⟩ := underway_record h hc e.options
    refine hu.executes hr (fun hnil => ?_) hx
    unfold Machine.afterGoal at hnil
    split at hnil
    · exact Framed.final hc (.body act (g :: rest)) (by rw [hnil]; rfl) g List.mem_cons_self
    · cases hnil
  | exhausted hp => exact ⟨h, fun _ hc => nomatch hc⟩
  | @back d ds o m' hp hr =>
    have hst := h.choices
    rw [items_of_pop hp] at hst
    obtain ⟨hd, hds⟩ := hst
    have hm : Rooted (({ m with choices := ds } : Machine σ).rewind d.checkpoint) := ⟨h.sane, hds⟩
    exact hm.resumes hd hr
  | refused ha => exact ⟨h.spared (hheard ha) rfl, fun _ hc => nomatch hc⟩
  | @noAnswer i w s ha =>
    have hm : Rooted (m.heard w s) := h.spared (hheard ha) rfl
    exact (hm.detach fun d hd j hj => Choice.Stands.newer hc i.context rfl d hd j hj).back
  | @answer i a w s ha hu =>
    have hm : Rooted ((m.heard w s).withBindings (m.matched i a).1) := h.spared (hheard ha) rfl
    have hi : i.choice.Stands s.tree.forest m.choices.items :=
      Choice.Stands.forest hc fun _ _ hk => (hheard ha).connected hk
    have hi' : ({ i with asked := i.asked + 1 } : Inquiry).choice.Stands s.tree.forest m.choices.items :=
      hi.again rfl rfl
    refine (hm.push hi').more ?_
    exact hi.framed.push fun j hj f hf k hk => hi.newest j hj f hf k hk
  | misfitStopped ha hu ht => exact ⟨h.spared (hheard ha) rfl, fun _ hc => nomatch hc⟩
  | @misfit i a w s ha hu ht =>
    have hm : Rooted ((m.heard w s).withBindings (m.matched i a).1).ticked := h.spared (hheard ha) rfl
    have hi : i.choice.Stands s.tree.forest m.choices.items :=
      Choice.Stands.forest hc fun _ _ hk => (hheard ha).connected hk
    exact hm.more (hi.again rfl rfl)

end Remedy.Query
