import Remedy.Proofs.Query.Calls
import Remedy.Proofs.Query.Cancellation
import Remedy.Proofs.Query.Slots
/-!
# Proofs.Query.Answered — when a call in progress is stable

A call says that it is stable when its exit is run, and that it is not when it is tried again.  But a call that has
answered is entered again also by going back to a call below it, and then nobody says anything.  So a call in progress is
stable if and only if it has answered since it was last tried, and all that is below it is stable
(`stable_iff_answered`): one that has not answered yet is unstable, and while there is one, nothing that the search does
makes the root stable.  The contexts of the query are supposed to be its own: others leave them as stable as they are.
-/
namespace Remedy.Query

open Context (Forest Tree)

variable {σ : Type} {e : Engine σ} {others : σ → Session → σ → Session → Prop} {n k : Nat}

/-! ## An account of the calls -/

/-- **There is something left to be tried for a call**: it has a choice of its own, or the application is being asked. -/
def Scene.Retriable (a : Scene) (k : Nat) : Prop :=
  (∃ d ∈ a.choices, d.context? = some k) ∨ ∃ i, a.control = .ask i ∧ i.context = k

/-- **An account of the calls**: those that have answered since they were last tried, and those that have failed when
there was nothing left to be tried for them. -/
structure Ledger where
  answered : Nat → Prop
  stranded : Nat → Prop

def Ledger.empty : Ledger := ⟨fun _ => False, fun _ => False⟩

def Ledger.answeredBy (l : Ledger) (dd : Deed) (k : Nat) : Prop := l.answered k ∧ dd ≠ .retry k ∨ dd = .answer k

/-- **The account after a change.**  A call fails if it is not awaited any more without having answered; it is stranded
if there was nothing left to be tried for it. -/
def Ledger.next (l : Ledger) (dd : Deed) (a b : Scene) : Ledger where
  answered := l.answeredBy dd
  stranded k := l.stranded k ∨ a.Awaits k ∧ ¬ a.Retriable k ∧ ¬ b.Awaits k ∧ ¬ l.answeredBy dd k

/-- **What comes in the life of a query**, with the account of its calls. -/
inductive Recounts (e : Engine σ) (others : σ → Session → σ → Session → Prop) (a : Moment σ) : Ledger → Moment σ → Prop
  | refl : Recounts e others a .empty a
  | step {l : Ledger} {b c : Moment σ} (h : Recounts e others a l b) (hp : Passes e others b c) :
    Recounts e others a (l.next (deed b c) b.scene c.scene) c

theorem Comes.recounts {a b : Moment σ} (h : Comes e others a b) : ∃ l, Recounts e others a l b := by
  induction h with
  | refl => exact ⟨.empty, .refl⟩
  | step _ hp ih =>
    obtain ⟨l, hl⟩ := ih
    exact ⟨_, hl.step hp⟩

variable {l : Ledger} {a b : Scene} {dd : Deed}

/-- The application and others leave the contexts from the number `n` on as stable as they are. -/
abbrev Heeding (e : Engine σ) (others : σ → Session → σ → Session → Prop) (n : Nat) : Prop :=
  Minding e others fun t u => Forest.Minds n t.forest u.forest

/-- **The account agrees with the contexts**: an awaited call is stable itself if and only if it has answered. -/
structure Ledger.Agrees (l : Ledger) (a : Scene) : Prop where
  awaited : ∀ k, a.Awaits k → (a.tree.forest.isLocallyStable k = true ↔ l.answered k)
  present : ∀ k, l.answered k → k < a.tree.forest.size

theorem Ledger.Agrees.next (h : l.Agrees a) (hs : a.Strung n) (he : Effects n a dd b) : (l.next dd a b).Agrees b := by
  refine ⟨fun k hk => ?_, fun k hk => ?_⟩
  · by_cases hlt : k < a.tree.forest.size
    · have hka := he.awaits k hlt hk
      by_cases hans : dd = .answer k
      · exact ⟨fun _ => .inr hans, fun _ => (he.answers k hans).2⟩
      · by_cases hret : dd = .retry k
        · rw [(he.retries k hret).2.1]
          exact ⟨(fun h => nomatch h), fun h => h.elim (fun h => absurd hret h.2) fun h => absurd h hans⟩
        · rw [he.heeds.flags k ⟨(hs.awaited hka).1, hans, hret⟩ hlt, h.awaited k hka]
          exact ⟨fun h => .inl ⟨h, hret⟩, fun h => h.elim (fun h => h.1) fun h => absurd h hans⟩
    · rw [he.fresh k (Nat.not_lt.1 hlt) hk]
      refine ⟨(fun h => nomatch h), fun hans => ?_⟩
      rcases hans with hans | hans
      · exact absurd (h.present k hans.1) hlt
      · exact absurd (hs.lt_size (he.answers k hans).1) hlt
  · refine Nat.lt_of_lt_of_le ?_ he.heeds.size
    rcases hk with hk | hk
    · exact h.present k hk.1
    · exact hs.lt_size (he.answers k hk).1

/-! ## The whole life of a query -/

/-- **A moment whose calls are accounted for.** -/
structure Accounted (n : Nat) (l : Ledger) (a : Moment σ) : Prop where
  intact : Intact a
  strung : a.scene.Strung n
  prompt : a.scene.Prompt
  agrees : l.Agrees a.scene

theorem Intact.stands {a : Moment σ} (h : Intact a) : a.scene.Stands := by
  intro frames hf
  have hc := h.control
  have hf : a.control = .run frames := hf
  rw [hf] at hc
  exact hc

theorem Accounted.effects {a b : Moment σ} (hn : 0 < n) (hm : Heeding e others n) (h : Accounted n l a)
    (hp : Passes e others a b) : Effects n a.scene (deed a b) b.scene :=
  (passes_turns hm hp).effects hn (fun _ _ => id) h.strung h.intact.stands h.prompt

/-- **Every change keeps the calls accounted for.** -/
theorem Accounted.passes {a b : Moment σ} (hn : 0 < n) (hm : Heeding e others n) (h : Accounted n l a)
    (hp : Passes e others a b) : Accounted n (l.next (deed a b) a.scene b.scene) b := by
  have ht := passes_turns hm hp
  have hhost : e.host.Sparing := fun w s p args n => (hm.host w s p args n).spares
  exact ⟨h.intact.passes hhost (fun _ _ _ _ ho => (hm.others _ _ _ _ ho).spares) hp,
    h.strung.turns hn (fun _ _ => id) h.intact.stands ht, .turns (fun _ _ => id) h.strung h.prompt ht,
    h.agrees.next h.strung (h.effects hn hm hp)⟩

theorem accounted_entry {lib : Library} {owner : Nat} {goal : Call} {vars : VarTable} {q : Query}
    (hq : ofGoal lib owner goal vars = .ok q) (w : σ) {s : Session} (hs : s.tree.forest.Balanced) :
    Accounted s.tree.forest.size .empty (.rest q w s) := by
  have hintact : Intact (.rest q w s) := intact_begun hq w hs.linked.sane
  obtain ⟨md, g, -, -, rfl⟩ := ofGoal_eq_ok.1 hq
  have hnone : ∀ k, ¬ (Moment.rest (entryQuery owner goal vars g) w s).scene.Awaits k := by
    rintro k (hk | ⟨d, hd, -⟩)
    · cases hk
    · cases hd
  refine ⟨hintact, ⟨hs, Nat.le_refl _, ⟨List.pairwise_singleton _ _, fun k hk => nomatch hk⟩, trivial⟩,
    prompt_of_tried (List.forall_mem_nil _), fun k hk => absurd hk (hnone k), fun _ hk => hk.elim⟩

/-! ## While a call has not answered -/

theorem quietly_retried {t : Tree} {j : Nat} {tried : Bool} (hb : t.forest.Balanced) (hj : j < t.forest.size)
    (hr : (retried t j tried).forest.isStable 0 = false) : Tree.Quietly t (retried t j tried) := by
  unfold retried at hr ⊢
  split
  · rename_i htried
    rw [if_pos htried] at hr
    exact Tree.quietly_setStable hb hj false hr
  · exact .refl

theorem quietly_given {t : Tree} {ids : List Nat} {cs up : List Choice} (hn : 0 < n) (hcs : StrungAll n t.forest cs)
    (hup : up ⊆ cs) (hb : t.forest.Balanced) (hids : ∀ id ∈ ids, ∃ d ∈ up, d.context? = some id)
    (hk : (ids.foldl Tree.detach t).forest.Connected k)
    (hs : (ids.foldl Tree.detach t).forest.isLocallyStable k = false) : Tree.Quietly t (ids.foldl Tree.detach t) :=
  Tree.quietly_detachAll ids t hb (hcs.ne_zero hn hup hids) hk hs

/-- **As long as a call is awaited that is not stable itself**, what a search does by itself makes nobody say that the
root is stable. -/
theorem Turns.quietly {minds : Tree → Tree → Prop} (hn : 0 < n) (hminds : ∀ t u, minds t u → t = u)
    (h : a.Strung n) (hs : a.Stands) (hb : b.Strung n) (ht : Turns minds a dd b) (hk : b.Awaits k)
    (hu : b.tree.forest.isLocallyStable k = false) : Tree.Quietly a.tree b.tree := by
  have hconnected := (hb.awaited hk).2
  have hroot : b.tree.forest.isStable 0 = false := Tree.unstable_root hb.balanced hconnected hu
  have hbalanced := h.balanced
  have hsize : ∀ {d : Choice} {cs : List Choice} {t : Tree} {j : Nat}, Scene.Strung n ⟨.backtrack, d :: cs, t⟩ →
      d.context? = some j → j ≠ 0 ∧ j < t.forest.size := by
    intro d cs t j hst hj
    exact ⟨hst.choices.context_ne_zero hn List.mem_cons_self hj,
      hst.lt_size (.inr ⟨d, List.mem_cons_self, hst.choices.1.mem_exits hj⟩)⟩
  cases ht with
  | same => exact .refl
  | others hm hask => exact hminds _ _ hm ▸ .refl
  | @exit j fs cs t =>
    have hj : j < t.forest.size := h.lt_size (.inl (mem_exits.2 List.mem_cons_self))
    exact Tree.quietly_setStable hbalanced hj true hroot
  | go hf => exact .refl
  | fail => exact .refl
  | cut hf hids =>
    exact quietly_given hn h.choices (List.take_subset _ _) hbalanced (fun id hid => ((hids id).1 hid).2) hconnected hu
  | negate hf => exact .refl
  | negated hids =>
    exact quietly_given hn h.choices (List.take_subset _ _) hbalanced (fun id => (hids id).1) hconnected hu
  | @offer act goals fs after cs t cp goal untried hf =>
    have hp : act.context < t.forest.size :=
      ((hs _ rfl).stands (.body act goals) List.mem_cons_self).1.lt_size hbalanced.linked.sane
    exact Tree.quietly_create hbalanced hp hroot
  | undo hp => exact .refl
  | @giveUp d goal j tried untried cs t hp =>
    obtain ⟨hj, hlt⟩ := hsize h (Choice.context?_of_call hp)
    have hb' := (heeds_retried hbalanced hlt tried).1
    have hd := (Tree.heeds_detach hb' hj).2
    have hsame : ((retried t j tried).detach j).forest.size = (retried t j tried).forest.size :=
      Tree.size_detachAll [j] _
    have hkt : k < (retried t j tried).forest.size := hsame ▸ hconnected.lt_size hb.balanced.linked.sane
    have hmid := Tree.unstable_root hb' (hd.connected k hkt hconnected) ((hd.flags k trivial hkt).symm.trans hu)
    exact (quietly_retried hbalanced hlt hmid).trans (Tree.quietly_detach hb' hj hroot)
  | retry hp hf hkeeps => exact quietly_retried hbalanced (hsize h (Choice.context?_of_call hp)).2 hroot
  | asks hp => exact quietly_retried hbalanced (hsize h (Choice.context?_of_call hp)).2 hroot
  | @denied i cs t t' hm =>
    obtain rfl := hminds _ _ hm
    have hi : i.choice.Strung n t.forest cs := h.control
    have hj := (hi.frames.call i.context (hi.mem_exits rfl)).1
    exact Tree.quietly_detach hbalanced (by omega) hroot
  | answered hm => exact hminds _ _ hm ▸ .refl
  | misfit hm => exact hminds _ _ hm ▸ .refl
  | solved => exact .refl
  | ended hm hids =>
    rcases hk with hk | ⟨d, hd, -⟩
    · cases hk
    · cases hd

/-! ## When a call in progress is stable -/

theorem Recounts.accounted {a b : Moment σ} (hn : 0 < n) (hm : Heeding e others n) (ha : Accounted n .empty a)
    (h : Recounts e others a l b) : Accounted n l b := by
  induction h with
  | refl => exact ha
  | step _ hp ih => exact ih.passes hn hm hp

/-- **What the calls in progress say at a moment**, `l` being the account of the calls until then: a call is stable if
and only if it has answered since it was last tried and its children are stable; as long as one has not, the root is
unstable, and a transition that leaves it so says nothing else and runs no work. -/
structure InProgress (e : Engine σ) (l : Ledger) (b : Moment σ) : Prop where
  stable_iff : ∀ k ∈ exits b.control.frames, b.machine.forest.isStable k = true ↔
    l.answered k ∧ ∀ j ∈ b.machine.forest.children k, b.machine.forest.isStable j = true
  root : ∀ k ∈ exits b.control.frames, ¬ l.answered k → b.machine.forest.isStable 0 = false
  quiet : ∀ q c c' m m', b = .search q c m → (∀ i, c ≠ .ask i) → m.step e c = (.more c', m') → ∀ k ∈ exits c'.frames,
    ¬ l.answeredBy (c.deed m.choices.items) k →
      Tree.Quietly m.session.tree m'.session.tree ∧ m'.session.tree.ran = m.session.tree.ran

theorem Accounted.inProgress {b : Moment σ} (hn : 0 < n) (hm : Heeding e others n) (h : Accounted n l b) :
    InProgress e l b := by
  have hawaited : ∀ {k}, k ∈ exits b.control.frames →
      b.machine.forest.Connected k ∧ (b.machine.forest.isLocallyStable k = true ↔ l.answered k) := fun hk =>
    ⟨(h.strung.awaited (.inl hk)).2, h.agrees.awaited _ (.inl hk)⟩
  have hbalanced : b.machine.forest.Balanced := h.strung.balanced
  refine ⟨fun k hk => ?_, fun k hk hnot => ?_, ?_⟩
  · obtain ⟨hc, hanswered⟩ := hawaited hk
    rw [hbalanced.isStable_eq hc, hanswered]
  · obtain ⟨hc, hanswered⟩ := hawaited hk
    exact Tree.unstable_root hbalanced hc (Bool.eq_false_iff.2 fun hs => hnot (hanswered.1 hs))
  · -- the application is not asked, so that nobody but the search itself has changed the contexts
    rintro q c c' m m' rfl hask hs k hk hnot
    have hnext := h.passes hn hm (.move (q := q) hs)
    have ht : Turns Eq (m.scene c) (c.deed m.choices.items) (m'.scene c') :=
      turns_moves (fun i _ _ _ hc => absurd hc (hask i)) (Machine.moves_of_step hs) rfl
    have hlocal : m'.forest.isLocallyStable k = false :=
      Bool.eq_false_iff.2 fun hst => hnot ((hnext.agrees.awaited k (.inl hk)).1 hst)
    have hquiet := ht.quietly hn (fun _ _ => id) h.strung h.intact.stands hnext.strung (.inl hk) hlocal
    exact ⟨hquiet, hquiet.ran_eq.1⟩

/-- **At every moment in the life of a query**, a call in progress is stable if and only if it has answered since it was
last tried and its children are stable. -/
theorem stable_iff_answered (e : Engine σ) (others : σ → Session → σ → Session → Prop) {s : Session}
    (hm : Heeding e others s.tree.forest.size) (hs : s.tree.forest.Balanced) {owner : Nat} {goal : Call}
    {vars : VarTable} {q : Query} (hq : ofGoal e.library owner goal vars = .ok q) {w : σ} {b : Moment σ}
    (hb : Comes e others (.rest q w s) b) :
    (∃ l, Recounts e others (.rest q w s) l b) ∧ ∀ l, Recounts e others (.rest q w s) l b → InProgress e l b :=
  have hn : 0 < s.tree.forest.size := hs.linked.sane.root
  ⟨hb.recounts, fun _ hl => (hl.accounted hn hm (accounted_entry hq w hs)).inProgress hn hm⟩

/-- **The search for the next solution**, after some transitions, is part of the life of a query that has given one. -/
theorem comes_again {q : Query} {w : σ} {s : Session} {r : Except QueryError (Option Solution) × Query × σ × Session}
    (hr : q.next e w s = r) {found : Solution} (h : r.1 = .ok (some found)) {i : Nat} {c : Control} {m : Machine σ}
    (hi : (r.2.1.machine r.2.2.1 r.2.2.2).after? e i .backtrack = some (c, m)) :
    Comes e others (.rest q w s) (.search r.2.1 c m) := by
  subst hr
  obtain ⟨c₁, m₁, m', -, -, hend⟩ := solved_of_next others h
  have hstatus : (q.next e w s).2.1.status = .yielded := by rw [hend]; rfl
  exact ((comes_next e others q w s).step (.again hstatus)).trans (comes_after? _ i _ _ hi)

/-! ## An example

The rules `q(1)`, `q(2)`, `r` and `p(?X) :- q(?X), r`, and the query `p(?X)` in a session whose root is stable itself.
For its second solution the search goes back to the call `q(?X)`, and to nothing else. -/

def paired : RuleModule :=
  (RuleModule.compile ⟨[]⟩ "paired" .none (RuleText.numbered ["q(1)", "q(2)", "r", "p(?X) :- q(?X), r"])).toOption.getD
    ⟨"", [], [], .none⟩

def pairedEngine : Engine Unit := ⟨⟨[paired]⟩, .silent, .standard⟩

def pairedQuery : Query :=
  (ofGoal ⟨[paired]⟩ 0 ⟨"p", [⟨none, .var "X" 0⟩]⟩ ⟨["X"]⟩).toOption.getD ⟨[], ⟨0, 0⟩, .ended, .empty, .empty, 0⟩

def pairedSession : Session := Session.new.onTree fun t => t.subscribe.2.setStable 0 true

def pairedFirst : Except QueryError (Option Solution) × Query × Unit × Session :=
  pairedQuery.next pairedEngine () pairedSession

def pairedSearch (i : Nat) : Option (Control × Machine Unit) :=
  (pairedFirst.2.1.machine pairedFirst.2.2.1 pairedFirst.2.2.2).after? pairedEngine i .backtrack

theorem comes_paired {i : Nat} {c : Control} {m : Machine Unit} (h : pairedSearch i = some (c, m)) :
    Comes pairedEngine (fun _ _ _ _ => False) (.rest pairedQuery () pairedSession) (.search pairedFirst.2.1 c m) := by
  have hsome : pairedFirst.1.toOption.map Option.isSome = some true := by decide +kernel
  obtain ⟨found, hfound, hs⟩ := Option.map_eq_some_iff.1 hsome
  obtain ⟨sol, rfl⟩ := Option.isSome_iff_exists.1 hs
  have hr : pairedQuery.next pairedEngine () pairedSession = pairedFirst := rfl
  exact comes_again hr (eq_ok_of_toOption hfound) h

theorem ofGoal_paired : ofGoal pairedEngine.library 0 ⟨"p", [⟨none, .var "X" 0⟩]⟩ ⟨["X"]⟩ = .ok pairedQuery := by
  have hok : (ofGoal ⟨[paired]⟩ 0 ⟨"p", [⟨none, .var "X" 0⟩]⟩ ⟨["X"]⟩).isOk = true := by decide +kernel
  exact eq_ok_of_isOk hok _

theorem stable_iff_answered_paired :
    let others := fun (_ : Unit) (_ : Session) (_ : Unit) (_ : Session) => False
    Heeding pairedEngine others pairedSession.tree.forest.size ∧ pairedSession.tree.forest.Balanced ∧
      ofGoal pairedEngine.library 0 ⟨"p", [⟨none, .var "X" 0⟩]⟩ ⟨["X"]⟩ = .ok pairedQuery ∧
        ∃ c m, Comes pairedEngine others (.rest pairedQuery () pairedSession) (.search pairedFirst.2.1 c m) ∧
          exits c.frames = [2, 1] ∧
            (∃ l, Recounts pairedEngine others (.rest pairedQuery () pairedSession) l (.search pairedFirst.2.1 c m)) ∧
              ∀ l, Recounts pairedEngine others (.rest pairedQuery () pairedSession) l (.search pairedFirst.2.1 c m) →
                InProgress pairedEngine l (.search pairedFirst.2.1 c m) := by
  have hm : Heeding pairedEngine (fun _ _ _ _ => False) pairedSession.tree.forest.size :=
    ⟨fun _ => .refl, fun _ _ _ _ _ => .refl, fun _ _ _ _ h => h.elim⟩
  have hroot : (Forest.root.setStable 0 true).1.Balanced := (Forest.balanced_root.setStable (by decide) true).1
  have hs : pairedSession.tree.forest.Balanced := hroot
  have hsearch : (pairedSearch 1).map (fun r => exits r.1.frames) = some [2, 1] := by decide +kernel
  obtain ⟨⟨c, m⟩, hcm, hexits⟩ := Option.map_eq_some_iff.1 hsearch
  have hb := comes_paired hcm
  exact ⟨hm, hs, ofGoal_paired, c, m, hb, hexits, stable_iff_answered pairedEngine _ hm hs ofGoal_paired hb⟩

/-- The call `p(?X)` is in progress, all contexts are stable, and the subscriber has heard so since the first solution. -/
theorem stable_in_progress_paired :
    ofGoal pairedEngine.library 0 ⟨"p", [⟨none, .var "X" 0⟩]⟩ ⟨["X"]⟩ = .ok pairedQuery ∧
      (pairedFirst.2.2.2.tree.read 0).1 = [.stable, .stable] ∧
        ∃ c m, Comes pairedEngine (fun _ _ _ _ => False) (.rest pairedQuery () pairedSession) (.search pairedFirst.2.1 c m) ∧
          exits c.frames = [1] ∧ m.forest.isStable 1 = true ∧ m.forest.isStable 0 = true ∧
            (m.session.tree.read 0).1 = [.stable, .stable, .stable] := by
  have hsearch : (pairedSearch 3).map (fun r => (exits r.1.frames, r.2.forest.isStable 1, r.2.forest.isStable 0,
      (r.2.session.tree.read 0).1)) = some ([1], true, true, [.stable, .stable, .stable]) := by decide +kernel
  obtain ⟨⟨c, m⟩, hcm, hsaid⟩ := Option.map_eq_some_iff.1 hsearch
  obtain ⟨hexits, hone, hroot, hread⟩ : _ ∧ _ ∧ _ ∧ _ := by simpa only [Prod.mk.injEq] using hsaid
  exact ⟨ofGoal_paired, by decide +kernel, c, m, comes_paired hcm, hexits, hone, hroot, hread⟩

end Remedy.Query
