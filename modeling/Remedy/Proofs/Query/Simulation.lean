import Remedy.Proofs.Query.Heads
import Remedy.Proofs.Query.Leads
import Remedy.Proofs.Query.Resolution
/-!
# Proofs.Query.Simulation — a stack of choices gives the answers of resolution

`Realises` says that a state of a search brings forth given answers: for each answer the search comes to the frames
that follow, with the bindings of the answer and its own choices above those that were there; from whatever it goes
back to these choices with, it brings forth the other answers; and where there are no more, it goes back to the choices
that were there.  Appending, binding, closing and negating answers (`Realises.append`, `Realises.bind`,
`Realises.closed`, `Realises.negation`) are what the search does with its stack.  Hence goals, bodies and calls bring
forth their answers (`realises_goal`, `realises_body`, `realises_rules`).
-/
namespace Remedy.Query.Machine

open Bindings (Extends Sound)

variable {σ : Type}

/-- **A state of a search brings forth answers.**  `K` follows each answer, `C` lies below on the stack, `barrier` is
the height to which a cut goes down, `b₀` are bindings that all others extend, and where nothing is known of the
answers the search makes at least `N` steps. -/
def Realises (e : Engine σ) (props : String → Option Value) (K : List Frame) (N barrier : Nat) :
    Answers → List Choice → Bindings → Control → Machine σ → Prop
  | .exhausted, C, b₀, c, m =>
    ∃ m', Leads e c m .backtrack m' ∧ m'.choices.items = C ∧ Extends b₀ m'.bindings ∧ Quiet props m'
  | .unknown, _, _, c, m => ∃ c' m', Leads e c m c' m' ∧ N ≤ m'.steps
  | .failed cause, _, _, c, m => Fails e c m cause
  | .answer b rest, C, b₀, c, m =>
    ∃ m' D, Leads e c m (.run K) m' ∧ m'.choices.items = D ++ C ∧ m'.bindings = b ∧ Extends b₀ b ∧ Quiet props m' ∧
      ∀ m'', m''.choices.items = D ++ C → Extends b m''.bindings → Quiet props m'' → m'.steps ≤ m''.steps →
        Realises e props K N barrier rest C b₀ .backtrack m''
  | .commit rest, C, b₀, c, m => Realises e props K N barrier rest (C.drop (C.length - barrier)) b₀ c m

variable {e : Engine σ} {props : String → Option Value} {K K' : List Frame} {N N' barrier : Nat}

theorem Realises.lead : ∀ {s : Answers} {C : List Choice} {b₀ : Bindings} {c c' : Control} {m m' : Machine σ},
    Leads e c m c' m' → Realises e props K N barrier s C b₀ c' m' → Realises e props K N barrier s C b₀ c m
  | .exhausted, _, _, _, _, _, _, hl, ⟨m₁, h, hrest⟩ => ⟨m₁, hl.trans h, hrest⟩
  | .unknown, _, _, _, _, _, _, hl, ⟨c₁, m₁, h, hN⟩ => ⟨c₁, m₁, hl.trans h, hN⟩
  | .failed _, _, _, _, _, _, _, hl, h => hl.fails h
  | .answer _ _, _, _, _, _, _, _, hl, ⟨m₁, D, h, hrest⟩ => ⟨m₁, D, hl.trans h, hrest⟩
  | .commit rest, _, _, _, _, _, _, hl, h => Realises.lead (s := rest) hl h

theorem Realises.weaken (hN : N' ≤ N) {b₀ b₁ : Bindings} (hb : Extends b₀ b₁) :
    ∀ {s : Answers} {C : List Choice} {c : Control} {m : Machine σ},
      Realises e props K N barrier s C b₁ c m → Realises e props K N' barrier s C b₀ c m
  | .exhausted, _, _, _, ⟨m₁, h, hi, he, hq⟩ => ⟨m₁, h, hi, hb.trans he, hq⟩
  | .unknown, _, _, _, ⟨c₁, m₁, h, hs⟩ => ⟨c₁, m₁, h, Nat.le_trans hN hs⟩
  | .failed _, _, _, _, h => h
  | .answer _ rest, _, _, _, ⟨m₁, D, h, hi, hbs, he, hq, hback⟩ =>
    ⟨m₁, D, h, hi, hbs, hb.trans he, hq, fun m₂ hi₂ he₂ hq₂ hs₂ =>
      Realises.weaken hN hb (s := rest) (hback m₂ hi₂ he₂ hq₂ hs₂)⟩
  | .commit rest, _, _, _, h => Realises.weaken hN hb (s := rest) h

theorem Realises.once (success : Bool) {b b₀ : Bindings} {C : List Choice} {c : Control} {m m' : Machine σ}
    (hl : Leads e c m (if success then .run K else .backtrack) m') (hi : m'.choices.items = C) (hb : m'.bindings = b)
    (he : Extends b₀ b) (hq : Quiet props m') : Realises e props K N barrier (.once b success) C b₀ c m := by
  cases success with
  | true =>
    refine ⟨m', [], hl, hi, hb, he, hq, fun m₂ hi₂ he₂ hq₂ _ => ?_⟩
    exact ⟨m₂, Leads.refl e _ m₂, hi₂, he.trans he₂, hq₂⟩
  | false => exact ⟨m', hl, hi, hb ▸ he, hq⟩

theorem drop_append_drop {α : Type} (D C : List α) {h : Nat} (hC : h ≤ C.length) :
    (D ++ C).drop ((D ++ C).length - h) = C.drop (C.length - h) := by
  rw [List.length_append, Nat.add_sub_assoc hC, List.drop_append]
  have e : D.drop (D.length + (C.length - h)) = [] := List.drop_eq_nil_of_le (Nat.le_add_right _ _)
  rw [e, List.nil_append, Nat.add_sub_cancel_left]

/-- **Answers and then others**: the others come from the choices that lie below. -/
theorem Realises.append {others : Answers} {C D : List Choice} {b b₀ : Bindings} (hC : barrier ≤ C.length)
    (hb : Extends b₀ b) : ∀ {s : Answers} {E : List Choice} {c : Control} {m : Machine σ}, E = D ++ C →
      Realises e props K N barrier s E b c m →
      (∀ m₂, m₂.choices.items = D ++ C → Extends b m₂.bindings → Quiet props m₂ → m.steps ≤ m₂.steps →
        Realises e props K N barrier others C b₀ .backtrack m₂) →
      Realises e props K N barrier (s.append others) C b₀ c m
  | .exhausted, _, _, _, hE, ⟨m₁, h, hi, he, hq⟩, hback => by
    exact (hback m₁ (by rw [hi, hE]) he hq h.steps_le).lead h
  | .unknown, _, _, _, _, h, _ => h
  | .failed _, _, _, _, _, h, _ => h
  | .answer b₁ rest, _, _, m, hE, ⟨m₁, D₁, h, hi, hbs, he, hq, hrest⟩, hback => by
    refine ⟨m₁, D₁ ++ D, h, by rw [hi, hE, List.append_assoc], hbs, hb.trans he, hq, ?_⟩
    intro m₂ hi₂ he₂ hq₂ hs₂
    refine Realises.append hC hb (s := rest) hE (hrest m₂ (by rw [hi₂, hE, List.append_assoc]) he₂ hq₂ hs₂) ?_
    intro m₃ hi₃ he₃ hq₃ hs₃
    exact hback m₃ hi₃ he₃ hq₃ (Nat.le_trans h.steps_le (Nat.le_trans hs₂ hs₃))
  | .commit rest, _, _, _, hE, h, _ => by
    -- the cut goes down to the barrier, and the others lie above it
    rw [Realises, hE, drop_append_drop D C hC] at h
    exact h.weaken (s := rest) (Nat.le_refl _) hb

/-- **What comes of each answer**: it is searched for where the answer has come up. -/
theorem Realises.bind {f : Bindings → Answers} {b₀ : Bindings} : ∀ {s : Answers} {C : List Choice} {c : Control}
    {m : Machine σ}, barrier ≤ C.length → Realises e props K' N barrier s C b₀ c m →
      (∀ m₁, Quiet props m₁ → Extends b₀ m₁.bindings → barrier ≤ m₁.choices.items.length → m.steps ≤ m₁.steps →
        Realises e props K N barrier (f m₁.bindings) m₁.choices.items m₁.bindings (.run K') m₁) →
      Realises e props K N barrier (s.bind f) C b₀ c m
  | .exhausted, _, _, _, _, h, _ => h
  | .unknown, _, _, _, _, h, _ => h
  | .failed _, _, _, _, _, h, _ => h
  | .answer b rest, C, c, m, hC, ⟨m₁, D, h, hi, hbs, he, hq, hrest⟩, hf => by
    have hlen : barrier ≤ m₁.choices.items.length := by
      rw [hi, List.length_append]
      omega
    have hfirst := hf m₁ hq (hbs ▸ he) hlen h.steps_le
    rw [hbs] at hfirst
    -- what comes of this answer comes first; the search for the next begins at the choices that lie below
    refine Realises.lead h (Realises.append hC he hi hfirst fun m₂ hi₂ he₂ hq₂ hs₂ => ?_)
    refine Realises.bind (s := rest) hC (hrest m₂ hi₂ he₂ hq₂ hs₂) fun m₃ hq₃ he₃ hl₃ hs₃ => ?_
    exact hf m₃ hq₃ he₃ hl₃ (Nat.le_trans h.steps_le (Nat.le_trans hs₂ hs₃))
  | .commit rest, C, c, m, hC, h, hf => by
    have hlen : barrier ≤ (C.drop (C.length - barrier)).length := by
      rw [List.length_drop]
      omega
    exact Realises.bind (s := rest) hlen h hf

/-- **The answers of a call**: a cut in its rules goes down to the choices below the call. -/
theorem Realises.closed {C : List Choice} {b₀ : Bindings} : ∀ {s : Answers} {c : Control} {m : Machine σ},
    Realises e props K N C.length s C b₀ c m → Realises e props K N barrier s.closed C b₀ c m
  | .exhausted, _, _, h => h
  | .unknown, _, _, h => h
  | .failed _, _, _, h => h
  | .answer _ rest, _, _, ⟨m₁, D, h, hi, hbs, he, hq, hrest⟩ =>
    ⟨m₁, D, h, hi, hbs, he, hq, fun m₂ hi₂ he₂ hq₂ hs₂ => Realises.closed (s := rest) (hrest m₂ hi₂ he₂ hq₂ hs₂)⟩
  | .commit rest, _, _, h => by
    rw [Realises, Nat.sub_self, List.drop_zero] at h
    exact Realises.closed (s := rest) h

/-! ## What the frames after a call and after a negation make of its answers -/

theorem Realises.exit {k : Nat} {b₀ : Bindings} : ∀ {s : Answers} {C : List Choice} {c : Control} {m : Machine σ},
    Realises e props (.exit k :: K) N barrier s C b₀ c m → Realises e props K N barrier s C b₀ c m
  | .exhausted, _, _, _, h => h
  | .unknown, _, _, _, h => h
  | .failed _, _, _, _, h => h
  | .answer _ rest, _, _, _, ⟨m₁, D, h, hi, hbs, he, hq, hrest⟩ => by
    have hexit : Leads e (.run (.exit k :: K)) m₁ (.run K) (m₁.ticked.onTree (·.setStable k true)) :=
      leads_frame hq rfl rfl
    have hq' : Quiet props (m₁.ticked.onTree (·.setStable k true)) := Quiet.setStable (m := m₁.ticked) hq k true
    refine ⟨_, D, h.trans hexit, hi, hbs, he, hq', fun m₂ hi₂ he₂ hq₂ hs₂ => ?_⟩
    exact Realises.exit (s := rest) (hrest m₂ hi₂ he₂ hq₂ (Nat.le_trans hexit.steps_le hs₂))
  | .commit rest, _, _, _, h => Realises.exit (s := rest) h

theorem pop?_of_items {α : Type} {s : Stack α} {a : α} {l : List α} (h : s.items = a :: l) :
    ∃ t, s.pop? = some (a, t) ∧ t.items = l := by
  rcases s with ⟨_ | ⟨b, r⟩, n, hn⟩
  · cases h
  · obtain ⟨rfl, rfl⟩ := List.cons.inj h
    exact ⟨_, rfl, rfl⟩

theorem backtrack_eq {m : Machine σ} {c : Choice} {t : Stack Choice} (h : m.choices.pop? = some (c, t)) :
    m.backtrack = (({ m with choices := t } : Machine σ).rewind c.checkpoint).resume c := by
  unfold backtrack
  rw [h]

theorem items_cut (m : Machine σ) (height : Nat) (kept : Option Nat) :
    (m.cut height kept).choices.items = m.choices.items.drop (m.choices.items.length - height) := by
  rw [m.choices.height_eq]
  rfl

/-- **A negation** gives up what its goal has left and goes back; if the goal has no answer, its own choice is found
again. -/
theorem Realises.negation {C : List Choice} {b : Bindings} : ∀ {s : Answers} {c : Control} {m : Machine σ},
    Realises e props [.negated C.length] N (C.length + 1) s (⟨b.checkpoint, K, .negation⟩ :: C) b c m →
      Realises e props K N barrier (s.negation b) C b c m
  | .exhausted, _, _, ⟨m₁, h, hi, he, hq⟩ => by
    obtain ⟨t, ht, hti⟩ := pop?_of_items hi
    have hback : Leads e .backtrack m₁ (.run K) (({ m₁ with choices := t } : Machine σ).rewind b.checkpoint) :=
      leads_backtrack (backtrack_eq ht) rfl
    have hb : m₁.bindings.rewind b.checkpoint = b := he.rewind_eq
    exact ⟨_, [], h.trans hback, hti, hb, .refl, hq, fun m₂ hi₂ he₂ hq₂ _ => ⟨m₂, Leads.refl e _ m₂, hi₂, he₂, hq₂⟩⟩
  | .unknown, _, _, h => h
  | .failed _, _, _, h => h
  | .answer b₁ _, _, _, ⟨m₁, D, h, hi, hbs, he, hq, _⟩ => by
    have hcut : Leads e (.run [.negated C.length]) m₁ .backtrack (m₁.ticked.cut C.length none) :=
      leads_frame hq rfl rfl
    have hitems : (m₁.ticked.cut C.length none).choices.items = C := by
      have hsplit : m₁.choices.items = (D ++ [Choice.mk b.checkpoint K .negation]) ++ C := by
        rw [hi, List.append_assoc]
        rfl
      have hlen : m₁.choices.items.length - C.length = (D ++ [Choice.mk b.checkpoint K .negation]).length := by
        rw [hsplit, List.length_append, Nat.add_sub_cancel]
      rw [items_cut]
      have ht : m₁.ticked.choices = m₁.choices := rfl
      rw [ht, hlen, hsplit, List.drop_left]
    exact ⟨_, h.trans hcut, hitems, hbs ▸ he, Quiet.cut (m := m₁.ticked) hq _ _⟩
  | .commit rest, c, m, h => by
    rw [Realises, List.length_cons, Nat.sub_self, List.drop_zero] at h
    exact Realises.negation (s := rest) h

/-! ## Goals -/

def copyOf (act : Activation) : Copy := ⟨act.owner, act.scope, act.base⟩

def begun (e : Engine σ) (m : Machine σ) (g : Goal Callee) : Machine σ := m.ticked.record e.options g

theorem begun_eq (e : Engine σ) (m : Machine σ) (g : Goal Callee) : (m.begun e g).bindings = m.bindings ∧
    (m.begun e g).choices = m.choices ∧ (m.begun e g).steps = m.steps + 1 := by
  unfold begun record
  split <;> exact ⟨rfl, rfl, rfl⟩

theorem Quiet.begun {m : Machine σ} (hq : Quiet props m) (e : Engine σ) (g : Goal Callee) :
    Quiet props (m.begun e g) := Quiet.record (m := m.ticked) hq e.options g

theorem env_eq {m : Machine σ} (hq : Quiet props m) (act : Activation) :
    m.env act = (copyOf act).env props m.bindings := by
  unfold env Copy.env
  rw [hq.1]
  rfl

theorem instantiate_eq {m : Machine σ} (hq : Quiet props m) (act : Activation) (t : Term) :
    m.instantiate act t = (copyOf act).term props m.bindings t := by
  have h : m.instantiate act t = Copy.told (t.instantiate (m.env act) act.base) := by
    unfold instantiate
    cases t.instantiate (m.env act) act.base <;> rfl
  rw [h, env_eq hq]
  rfl

theorem value_eq {m : Machine σ} (hq : Quiet props m) (act : Activation) (x : Expr) :
    m.value act x = (copyOf act).value props m.bindings x := by
  have h : m.value act x = Copy.told (x.eval (m.env act)) := by
    unfold value
    cases x.eval (m.env act) <;> rfl
  rw [h, env_eq hq]
  rfl

/-! What a goal reads is what the copy of its rule says. -/

section
variable {m : Machine σ} (hq : Quiet props m) (g : Goal Callee) (act : Activation)
include hq

theorem env_begun : (m.begun e g).env act = (copyOf act).env props m.bindings := by
  rw [env_eq (hq.begun e g), (begun_eq e m g).1]

theorem instantiate_begun (t : Term) : (m.begun e g).instantiate act t = (copyOf act).term props m.bindings t := by
  rw [instantiate_eq (hq.begun e g), (begun_eq e m g).1]

theorem value_begun (x : Expr) : (m.begun e g).value act x = (copyOf act).value props m.bindings x := by
  rw [value_eq (hq.begun e g), (begun_eq e m g).1]

end

/-- **A goal that succeeds or fails at once.** -/
theorem realises_proceed {m m' : Machine σ} (hq : Quiet props m) {f : Frame} {fs : List Frame} {success : Bool}
    {b : Bindings} (h : runFrame e m.ticked f fs = (.proceed success K, m')) (hs : m'.steps = m.steps + 1)
    (hc : m'.choices = m.choices) (hb : m'.bindings = b) (he : Extends m.bindings b) (hq' : Quiet props m') :
    Realises e props K N barrier (.once b success) m.choices.items m.bindings (.run (f :: fs)) m :=
  Realises.once success (leads_frame hq h hs) (congrArg Stack.items hc) hb he hq'

theorem realises_unify {m : Machine σ} (hq : Quiet props m) (hb : m.bindings.Sound) {act : Activation}
    {g : Goal Callee} {rest : List (Goal Callee)} {fs : List Frame} {s t : Except QueryError Term}
    (h : execute e (m.begun e g) act g (afterGoal act rest fs) =
      (m.begun e g).unifyResults s t (afterGoal act rest fs)) :
    Realises e props (afterGoal act rest fs) N barrier (.ofUnify m.bindings s t) m.choices.items m.bindings
      (.run (.body act (g :: rest) :: fs)) m := by
  obtain ⟨hbs, hcs, hss⟩ := begun_eq e m g
  have hrun : runFrame e m.ticked (.body act (g :: rest)) fs =
      (m.begun e g).unifyResults s t (afterGoal act rest fs) := h
  cases s with
  | error cause => exact fails_frame hq (congrArg Prod.fst hrun)
  | ok s =>
    cases t with
    | error cause => exact fails_frame hq (congrArg Prod.fst hrun)
    | ok t =>
      have hun : (m.begun e g).unifyResults (.ok s) (.ok t) (afterGoal act rest fs) =
          (.proceed (m.bindings.unify s t).2 (afterGoal act rest fs),
            (m.begun e g).withBindings (m.bindings.unify s t).1) := by
        rw [← hbs]
        rfl
      exact realises_proceed hq (hrun.trans hun) hss hcs rfl (Bindings.extends_unify hb s t)
        (Quiet.of_tended (hq.begun e g) rfl .refl)

/-! ## Calls nested so deep -/

/-- **Bodies bring forth their answers**, with calls nested at most `n` deep. -/
def BodiesRealised (e : Engine σ) (props : String → Option Value) (n : Nat) : Prop :=
  ∀ (goals : List (Goal Callee)) (act : Activation) (K : List Frame) (m : Machine σ),
    (∀ g ∈ goals, Logical e.library act.owner g) → Quiet props m → m.bindings.Sound →
      act.barrier ≤ m.choices.items.length →
        Realises e props K (m.steps + n) act.barrier
          (.ofBody props (.ofCall e.library props n) (copyOf act) goals m.bindings) m.choices.items m.bindings
          (.run (.body act goals :: K)) m

/-- **Rules bring forth their answers**, with calls in them nested at most `n` deep: going back to the choice of a call
tries the rules that are left. -/
def RulesRealised (e : Engine σ) (props : String → Option Value) (n : Nat) : Prop :=
  ∀ (rules : List (Clause Callee)) (owner k : Nat) (goal : Call) (tried : Bool) (b : Bindings) (K : List Frame)
    (C : List Choice) (m : Machine σ), (∀ cl ∈ rules, ∀ g ∈ cl.body, Logical e.library owner g) → b.Sound →
      m.choices.items = ⟨b.checkpoint, K, .call goal k tried (.clauses owner rules)⟩ :: C →
        Extends b m.bindings → Quiet props m →
          Realises e props K (m.steps + n) C.length
            (.ofClauses (.ofBody props (.ofCall e.library props n)) owner goal b rules) C b .backtrack m

theorem ofClauses_cons (body : Copy → List (Goal Callee) → Bindings → Answers) (owner : Nat) (goal : Call)
    (b : Bindings) (cl : Clause Callee) (rest : List (Clause Callee)) :
    Answers.ofClauses body owner goal b (cl :: rest) =
      if (headed b goal cl).2 then
        (body ⟨owner, cl.vars, b.size⟩ cl.body (headed b goal cl).1).append (Answers.ofClauses body owner goal b rest)
      else Answers.ofClauses body owner goal b rest := by
  have hfresh : b.allocate cl.vars.size = (b.size, (b.allocate cl.vars.size).2) := rfl
  rw [Answers.ofClauses, hfresh]
  rcases h : headed b goal cl with ⟨b', _ | _⟩ <;> unfold headed at h <;> simp only [h] <;> rfl

theorem ofClauses_skip (body : Copy → List (Goal Callee) → Bindings → Answers) (owner : Nat) (goal : Call)
    (b : Bindings) (rest : List (Clause Callee)) : ∀ skipped : List (Clause Callee),
      (∀ c ∈ skipped, (headed b goal c).2 = false) →
        Answers.ofClauses body owner goal b (skipped ++ rest) = Answers.ofClauses body owner goal b rest
  | [], _ => rfl
  | c :: skipped, h => by
    obtain ⟨hc, hs⟩ := List.forall_mem_cons.1 h
    rw [List.cons_append, ofClauses_cons, if_neg (by rw [hc]; exact Bool.false_ne_true),
      ofClauses_skip body owner goal b rest skipped hs]

theorem backtrack_clauses {m : Machine σ} {b : Bindings} {K : List Frame} {C : List Choice} {goal : Call}
    {owner k : Nat} {tried : Bool} {rules : List (Clause Callee)}
    (hi : m.choices.items = ⟨b.checkpoint, K, .call goal k tried (.clauses owner rules)⟩ :: C)
    (hext : Extends b m.bindings) (hq : Quiet props m) :
    ∃ m₀ : Machine σ,
      m.backtrack = m₀.tryClauses ⟨b.checkpoint, K, .call goal k tried (.clauses owner rules)⟩ goal k owner rules ∧
        m₀.bindings = b ∧ m₀.choices.items = C ∧ m₀.steps = m.steps ∧ Quiet props m₀ := by
  obtain ⟨t, ht, hti⟩ := pop?_of_items hi
  have hq' : Quiet props (({ m with choices := t } : Machine σ).rewind b.checkpoint) := hq
  refine ⟨(({ m with choices := t } : Machine σ).rewind b.checkpoint).retry k tried, ?_, ?_, ?_, ?_, hq'.retry k tried⟩
  · rw [backtrack_eq ht]
    rfl
  · rw [bindings_retry]
    exact hext.rewind_eq
  · rw [choices_retry]
    exact hti
  · rw [steps_retry]
    rfl

/-- The choice of a call that is kept for the rules that are left, if there are any. -/
def keptFor (b : Bindings) (K : List Frame) (goal : Call) (k owner : Nat) : List (Clause Callee) → List Choice
  | [] => []
  | rules => [⟨b.checkpoint, K, .call goal k true (.clauses owner rules)⟩]

/-- **The rule that fits is run**, above the choice that is kept for the others. -/
theorem leads_clause {m : Machine σ} {b b' : Bindings} {K : List Frame} {C : List Choice} {goal : Call}
    {owner k base : Nat} {tried : Bool} {rules rest : List (Clause Callee)} {cl : Clause Callee}
    (hi : m.choices.items = ⟨b.checkpoint, K, .call goal k tried (.clauses owner rules)⟩ :: C)
    (hext : Extends b m.bindings) (hq : Quiet props m) (hf : firstClause goal b rules = (b', some (base, cl, rest))) :
    ∃ m' : Machine σ, Leads e .backtrack m (.run (.body ⟨owner, cl.vars, base, C.length, k⟩ cl.body :: K)) m' ∧
      m'.bindings = b' ∧ m'.steps = m.steps ∧ Quiet props m' ∧
        m'.choices.items = keptFor b K goal k owner rest ++ C := by
  obtain ⟨m₀, hback, hb₀, hc₀, hs₀, hq₀⟩ := backtrack_clauses hi hext hq
  have hheight : m₀.choices.height = C.length := by rw [← m₀.choices.height_eq, hc₀]
  unfold tryClauses at hback
  rw [hb₀, hf] at hback
  simp only [hheight] at hback
  cases rest with
  | nil => exact ⟨_, leads_backtrack hback hs₀, rfl, hs₀, Quiet.of_tended hq₀ rfl .refl, hc₀⟩
  | cons r rs => exact ⟨_, leads_backtrack hback hs₀, rfl, hs₀, Quiet.of_tended hq₀ rfl .refl, congrArg (_ :: ·) hc₀⟩

/-- **Going back to the choice of a call** tries the next rule that fits, and keeps the choice while there are rules
after it. -/
theorem realises_rules {n : Nat} (hbody : BodiesRealised e props n) : RulesRealised e props n := by
  intro rules
  -- the rules left for the next time are fewer, also where rules that do not fit have been passed over
  induction hlen : rules.length using Nat.strongRecOn generalizing rules with
  | ind len ih =>
    intro owner k goal tried b K C m hlog hb hi hext hq
    rcases firstClause_cases hb goal rules with ⟨hall, hf⟩ | ⟨skipped, cl, rest, hr, hs, ht, hf⟩
    · obtain ⟨m₀, hback, hb₀, hc₀, hs₀, hq₀⟩ := backtrack_clauses hi hext hq
      unfold tryClauses at hback
      rw [hb₀, hf] at hback
      rw [← List.append_nil rules, ofClauses_skip _ owner goal b [] rules hall]
      exact ⟨_, leads_backtrack hback hs₀, hc₀, .refl,
        Quiet.detach (m := m₀.withBindings b) (Quiet.of_tended hq₀ rfl .refl) k⟩
    · have he := extends_headed hb goal cl
      have hsound : (headed b goal cl).1.Sound := Extends.trans hb he
      obtain ⟨m₁, hl, hb₁, hs₁, hq₁, hi₁⟩ := leads_clause (e := e) hi hext hq hf
      rw [hr, ofClauses_skip _ owner goal b _ skipped hs, ofClauses_cons, if_pos ht]
      have hlog' : ∀ c ∈ cl :: rest, ∀ g ∈ c.body, Logical e.library owner g :=
        fun c hc => hlog c (hr ▸ List.mem_append_right _ hc)
      have hbod := hbody cl.body ⟨owner, cl.vars, b.size, C.length, k⟩ K m₁ (hlog' cl List.mem_cons_self) hq₁
        (hb₁ ▸ hsound) (by rw [hi₁, List.length_append]; exact Nat.le_add_left _ _)
      rw [hb₁, hs₁] at hbod
      refine Realises.lead hl (Realises.append (Nat.le_refl _) he hi₁ hbod fun m₂ hi₂ he₂ hq₂ hs₂ => ?_)
      cases rest with
      | nil => exact ⟨m₂, Leads.refl e _ m₂, hi₂, he.trans he₂, hq₂⟩
      | cons r rs =>
        have hlt : (r :: rs).length < len := by
          rw [← hlen, hr, List.length_append, List.length_cons (a := cl)]
          omega
        have hnext := ih _ hlt (r :: rs) rfl owner k goal true b K C m₂
          (fun c hc => hlog' c (List.mem_cons_of_mem _ hc)) hb hi₂ (he.trans he₂) hq₂
        exact hnext.weaken (by omega) .refl

/-! ## Calls -/

theorem leads_offer {m : Machine σ} (hq : Quiet props m) {act : Activation} {callee : Callee} {c goal : Call}
    {untried : Untried} {rest : List (Goal Callee)} {fs : List Frame}
    (h : execute e (m.begun e (.call callee c)) act (.call callee c) (afterGoal act rest fs) =
      (m.begun e (.call callee c)).offer act goal untried (afterGoal act rest fs)) :
    ∃ k m', Leads e (.run (.body act (.call callee c :: rest) :: fs)) m .backtrack m' ∧ m'.steps = m.steps + 1 ∧
      m'.bindings = m.bindings ∧ Quiet props m' ∧ m'.choices.items =
        ⟨m.bindings.checkpoint, .exit k :: afterGoal act rest fs, .call goal k false untried⟩ :: m.choices.items := by
  obtain ⟨hbs, hcs, hss⟩ := begun_eq e m (.call callee c)
  have hqb := hq.begun e (.call callee c)
  generalize hmb : m.begun e (.call callee c) = mb at h hbs hcs hss hqb
  have hrun : runFrame e m.ticked (.body act (.call callee c :: rest)) fs =
      (.more .backtrack, (mb.offer act goal untried (afterGoal act rest fs)).2) := by
    rw [← hmb] at h ⊢
    exact h
  refine ⟨mb.session.tree.forest.size, _, leads_frame hq hrun hss, hss, hbs, ?_, ?_⟩
  · refine hqb.of_tended rfl ?_
    rw [forest_offer]
    exact .create .refl _
  · rw [← hbs, ← hcs]
    rfl

theorem realises_offer {n owner : Nat} (hrules : RulesRealised e props n) {act : Activation} {callee : Callee}
    {c goal : Call} {rules : List (Clause Callee)} {rest : List (Goal Callee)} {fs : List Frame} {m : Machine σ}
    (hlog : ∀ cl ∈ rules, ∀ g ∈ cl.body, Logical e.library owner g) (hq : Quiet props m) (hb : m.bindings.Sound)
    (h : execute e (m.begun e (.call callee c)) act (.call callee c) (afterGoal act rest fs) =
      (m.begun e (.call callee c)).offer act goal (.clauses owner rules) (afterGoal act rest fs)) :
    Realises e props (afterGoal act rest fs) (m.steps + (n + 1)) act.barrier
      (Answers.ofClauses (.ofBody props (.ofCall e.library props n)) owner goal m.bindings rules).closed
      m.choices.items m.bindings (.run (.body act (.call callee c :: rest) :: fs)) m := by
  obtain ⟨k, m', hl, hs, hbs, hq', hi⟩ := leads_offer hq h
  have hcall := hrules rules owner k goal false m.bindings _ _ m' hlog hb hi (hbs ▸ .refl) hq'
  exact (hcall.closed.exit.weaken (by omega) .refl).lead hl

theorem realises_check {n : Nat} {act : Activation} {callee : Callee} {c : Call} {success : Bool}
    {rest : List (Goal Callee)} {fs : List Frame} {m : Machine σ} (hq : Quiet props m)
    (h : execute e (m.begun e (.call callee c)) act (.call callee c) (afterGoal act rest fs) =
      (.proceed success (afterGoal act rest fs), m.begun e (.call callee c))) :
    Realises e props (afterGoal act rest fs) n act.barrier (.once m.bindings success) m.choices.items m.bindings
      (.run (.body act (.call callee c :: rest) :: fs)) m := by
  obtain ⟨hbs, hcs, hss⟩ := begun_eq e m (.call callee c)
  have hrun : runFrame e m.ticked (.body act (.call callee c :: rest)) fs =
      (.proceed success (afterGoal act rest fs), m.begun e (.call callee c)) := h
  exact realises_proceed hq hrun hss hcs hbs .refl (hq.begun e _)

theorem realises_call {n : Nat} (hrules : ∀ n', n = n' + 1 → RulesRealised e props n') {act : Activation}
    {callee : Callee} {c : Call} {rest : List (Goal Callee)} {fs : List Frame} {m : Machine σ}
    (hlog : Logical e.library act.owner (.call callee c)) (hq : Quiet props m) (hb : m.bindings.Sound) :
    Realises e props (afterGoal act rest fs) (m.steps + n) act.barrier
      (.ofGoal props (.ofCall e.library props n) (copyOf act) (.call callee c) m.bindings) m.choices.items m.bindings
      (.run (.body act (.call callee c :: rest) :: fs)) m := by
  have hlc : isLogicalCallee callee = true := hlog _ _ (.refl _ _)
  have hx : execute e (m.begun e (.call callee c)) act (.call callee c) (afterGoal act rest fs) =
      call e (m.begun e (.call callee c)) act callee c (afterGoal act rest fs) := rfl
  unfold call at hx
  rw [env_begun hq] at hx
  unfold Answers.ofGoal
  have hbase : (copyOf act).base = act.base := rfl
  rw [hbase]
  rcases hargs : Term.instantiateArgs ((copyOf act).env props m.bindings) act.base c.args with cause | args
  · rw [hargs] at hx
    exact fails_frame hq (congrArg Prod.fst hx)
  · rw [hargs] at hx
    cases n with
    | zero => exact ⟨_, m, Leads.refl e _ m, Nat.le_refl _⟩
    | succ n =>
      have hr := hrules n rfl
      cases callee with
      | own index => exact realises_offer hr hlog.of_own hq hb hx
      | foreign owner index => exact realises_offer hr hlog.of_foreign hq hb hx
      | facts name => cases hlc
      | external p => cases hlc
      | builtin b =>
        have hfree : (m.begun e (.call (.builtin b) c)).isFree ⟨c.functor, args⟩ =
            Answers.isFree ⟨c.functor, args⟩ m.bindings := by
          unfold isFree Answers.isFree
          rw [(begun_eq e m _).1]
        cases b with
        | true => exact realises_check hq hx
        | fail => exact realises_check hq hx
        | var => exact realises_check hq (hx.trans (congrArg (fun s => (Outcome.proceed s _, _)) hfree))
        | nonvar => exact realises_check hq (hx.trans (congrArg (fun s => (Outcome.proceed (!s) _, _)) hfree))
        | assert | assertFront | retract | log => cases hlc

/-! ## Goals and bodies -/

section
variable {act : Activation} {rest : List (Goal Callee)} {fs : List Frame} {m : Machine σ}
  {call : Nat → Callee → Call → Bindings → Answers}

theorem realises_cut (hq : Quiet props m) :
    Realises e props (afterGoal act rest fs) N act.barrier (.ofGoal props call (copyOf act) .cut m.bindings)
      m.choices.items m.bindings (.run (.body act (.cut :: rest) :: fs)) m := by
  obtain ⟨hbs, hcs, hss⟩ := begun_eq e m .cut
  have hrun : runFrame e m.ticked (.body act (.cut :: rest)) fs = (.more (.run (afterGoal act rest fs)),
    (m.begun e .cut).cut act.barrier (some act.context)) := rfl
  have hi := items_cut (m.begun e .cut) act.barrier (some act.context)
  rw [hcs] at hi
  refine ⟨_, [], leads_frame hq hrun hss, hi, hbs, .refl, (hq.begun e .cut).cut _ _, fun m₂ hi₂ he₂ hq₂ _ => ?_⟩
  exact ⟨m₂, Leads.refl e _ m₂, hi₂, he₂, hq₂⟩

theorem realises_is (hq : Quiet props m) (hb : m.bindings.Sound) (target : Term) (x : Expr) :
    Realises e props (afterGoal act rest fs) N act.barrier (.ofGoal props call (copyOf act) (.is target x) m.bindings)
      m.choices.items m.bindings (.run (.body act (.is target x :: rest) :: fs)) m := by
  have hvalue := value_begun (e := e) hq (.is target x) act x
  unfold Answers.ofGoal
  rcases hv : (copyOf act).value props m.bindings x with cause | v
  · rw [hv] at hvalue
    have hx : execute e (m.begun e (.is target x)) act (.is target x) (afterGoal act rest fs) =
        (.failed cause, m.begun e (.is target x)) := by
      simp only [execute, hvalue]
    exact fails_frame hq (congrArg Prod.fst hx)
  · rw [hv] at hvalue
    have hx : execute e (m.begun e (.is target x)) act (.is target x) (afterGoal act rest fs) =
        (m.begun e (.is target x)).unifyResults ((m.begun e (.is target x)).instantiate act target) (.ok (.const v))
          (afterGoal act rest fs) := by
      simp only [execute, hvalue]
    rw [instantiate_begun hq] at hx
    exact realises_unify hq hb hx

theorem realises_test (hq : Quiet props m) (x : Expr) :
    Realises e props (afterGoal act rest fs) N act.barrier (.ofGoal props call (copyOf act) (.test x) m.bindings)
      m.choices.items m.bindings (.run (.body act (.test x :: rest) :: fs)) m := by
  obtain ⟨hbs, hcs, hss⟩ := begun_eq e m (.test x)
  have hvalue := value_begun (e := e) hq (.test x) act x
  unfold Answers.ofGoal
  rcases hv : (copyOf act).value props m.bindings x with cause | v
  · rw [hv] at hvalue
    have hx : execute e (m.begun e (.test x)) act (.test x) (afterGoal act rest fs) =
        (.failed cause, m.begun e (.test x)) := by
      simp only [execute, hvalue]
    exact fails_frame hq (congrArg Prod.fst hx)
  · rw [hv] at hvalue
    have hx : execute e (m.begun e (.test x)) act (.test x) (afterGoal act rest fs) =
        (.proceed (v.toBool? == some true) (afterGoal act rest fs), m.begun e (.test x)) := by
      simp only [execute, hvalue]
    exact realises_proceed hq hx hss hcs hbs .refl (hq.begun e _)

end

/-- **A goal brings forth its answers.** -/
theorem realises_goal {n : Nat} (hrules : ∀ n', n = n' + 1 → RulesRealised e props n') :
    ∀ (g : Goal Callee) (act : Activation) (rest : List (Goal Callee)) (fs : List Frame) {m : Machine σ},
      Logical e.library act.owner g → Quiet props m → m.bindings.Sound → act.barrier ≤ m.choices.items.length →
        Realises e props (afterGoal act rest fs) (m.steps + n) act.barrier
          (.ofGoal props (.ofCall e.library props n) (copyOf act) g m.bindings) m.choices.items m.bindings
          (.run (.body act (g :: rest) :: fs)) m
  | .call callee c, act, rest, fs, m, hlog, hq, hb, _ => realises_call hrules hlog hq hb
  | .cut, act, rest, fs, m, _, hq, _, _ => realises_cut hq
  | .unify s t, act, rest, fs, m, _, hq, hb, _ => by
    have hx : execute e (m.begun e (.unify s t)) act (.unify s t) (afterGoal act rest fs) =
      (m.begun e (.unify s t)).unifyResults ((m.begun e (.unify s t)).instantiate act s)
        ((m.begun e (.unify s t)).instantiate act t) (afterGoal act rest fs) := rfl
    rw [instantiate_begun hq, instantiate_begun hq] at hx
    exact realises_unify hq hb hx
  | .is target x, act, rest, fs, m, _, hq, hb, _ => realises_is hq hb target x
  | .test x, act, rest, fs, m, _, hq, _, _ => realises_test hq x
  | .not g, act, rest, fs, m, hlog, hq, hb, _ => by
    obtain ⟨hbs, hcs, hss⟩ := begun_eq e m (.not g)
    generalize hm' : (m.begun e (.not g)).push
      ⟨(m.begun e (.not g)).bindings.checkpoint, afterGoal act rest fs, .negation⟩ = m'
    have hheight : (m.begun e (.not g)).choices.height = m.choices.items.length := by
      rw [hcs, m.choices.height_eq]
    have hrun : runFrame e m.ticked (.body act (.not g :: rest)) fs =
        (.more (.run [.body { act with barrier := m.choices.items.length + 1 } [g],
          .negated m.choices.items.length]), m') := by
      rw [← hm', ← hheight]
      rfl
    have hs : m'.steps = m.steps + 1 := by rw [← hm']; exact hss
    have hb' : m'.bindings = m.bindings := by rw [← hm']; exact hbs
    have hi : m'.choices.items = ⟨m.bindings.checkpoint, afterGoal act rest fs, .negation⟩ :: m.choices.items := by
      rw [← hm', ← hbs, ← hcs]
      rfl
    have hq' : Quiet props m' := hm' ▸ hq.begun e (.not g)
    have hgoal := realises_goal hrules g { act with barrier := m.choices.items.length + 1 } []
      [.negated m.choices.items.length] hlog.of_not hq' (hb' ▸ hb) (by rw [hi]; exact Nat.le_refl _)
    rw [hb', hi] at hgoal
    exact (hgoal.negation.weaken (by omega) .refl).lead (leads_frame hq hrun hs)

theorem realises_body {n : Nat} (hrules : ∀ n', n = n' + 1 → RulesRealised e props n') :
    BodiesRealised e props n
  | [], act, K, m, _, hq, _, _ => by
    have hend : Leads e (.run (.body act [] :: K)) m (.run K) m.ticked := leads_frame hq rfl rfl
    exact Realises.once true hend rfl rfl .refl hq
  | g :: rest, act, K, m, hlog, hq, hb, hbar => by
    have hfirst : Realises e props (afterGoal act rest K) (m.steps + n) act.barrier
        (.ofGoal props (.ofCall e.library props n) (copyOf act) g m.bindings) m.choices.items m.bindings
        (.run (.body act (g :: rest) :: K)) m :=
      realises_goal hrules g act rest K (hlog g List.mem_cons_self) hq hb hbar
    refine Realises.bind hbar hfirst fun m₁ hq₁ he₁ hbar₁ hs₁ => ?_
    cases rest with
    | nil => exact Realises.once true (Leads.refl e (.run K) m₁) rfl rfl .refl hq₁
    | cons g' rest =>
      have hrest := realises_body hrules (g' :: rest) act K m₁ (fun h hh => hlog h (List.mem_cons_of_mem _ hh)) hq₁
        (Extends.trans hb he₁) hbar₁
      exact hrest.weaken (by omega) .refl

/-- **Bodies bring forth their answers however deep calls are nested.** -/
theorem bodiesRealised (e : Engine σ) (props : String → Option Value) : ∀ n, BodiesRealised e props n
  | 0 => realises_body fun _ h => nomatch h
  | n + 1 => realises_body fun n' h => by
    cases h
    exact realises_rules (bodiesRealised e props n)

end Remedy.Query.Machine
