import Remedy.Proofs.Bindings.Inside
import Remedy.Proofs.Program.Scope
import Remedy.Proofs.Query.Heads
import Remedy.Proofs.Query.Moves
/-!
# Proofs.Query.Scope — what a search mentions, and the bindings its choices go back to

A frame mentions the slots of its rule's variables, a choice those of its goal and of the frames after it, and the slots
that a choice mentions are those of the bindings it goes back to.  The bindings of a search have come from those of its
newest choice, these from those of the next, and so on down to the bindings the query began with (`Descends`).
-/
namespace Remedy.Query

open Bindings (Extends InPlace)

variable {σ : Type}

/-! ## What is mentioned -/

/-- The variables of a frame's rule, and all variables in its goals, have slots below `n`. -/
def Frame.Below (n : Nat) : Frame → Prop
  | .body act goals => act.base + act.scope.size ≤ n ∧ ∀ g ∈ goals, g.span + act.base ≤ n
  | .exit _ => True
  | .negated _ => True

/-- The alternatives of a call mention slots below `n`; rules have slots of their own, and facts have none. -/
def Untried.Below (n : Nat) : Untried → Prop
  | .clauses _ rest => ∀ cl ∈ rest, cl.Scoped
  | .facts rest => ∀ fact ∈ rest, fact.isGround = true
  | .answers _ args _ => args.span ≤ n

def Pending.Below (n : Nat) : Pending → Prop
  | .negation => True
  | .call goal _ _ untried => goal.span ≤ n ∧ untried.Below n

/-- **A choice mentions slots of the bindings it goes back to.** -/
structure Choice.InScope (c : Choice) : Prop where
  after : ∀ f ∈ c.after, f.Below c.checkpoint.slots
  pending : c.pending.Below c.checkpoint.slots

def Control.Below (n : Nat) : Control → Prop
  | .run frames => ∀ f ∈ frames, f.Below n
  | .backtrack => True
  | .ask i => i.choice.InScope ∧ i.checkpoint.slots ≤ n

/-- **Every slot that is mentioned is there**: in what is being run, in the terms that slots hold, in the answers, and
for every choice in the bindings it goes back to; and the newer a choice, the later its checkpoint. -/
structure InScope (names : List (String × Nat)) (c : Control) (m : Machine σ) : Prop where
  control : c.Below m.bindings.size
  slots : m.bindings.Scoped
  names : ∀ v ∈ names, v.2 < m.bindings.size
  choices : ∀ ch ∈ m.choices.items, ch.InScope
  order : m.choices.items.Pairwise fun newer older =>
    older.checkpoint.slots ≤ newer.checkpoint.slots ∧ older.checkpoint.trail ≤ newer.checkpoint.trail
  present : ∀ ch ∈ m.choices.items,
    ch.checkpoint.slots ≤ m.bindings.size ∧ ch.checkpoint.trail ≤ m.bindings.trail.height

/-- Whatever alternative is tried, unifying it with the goal makes no slots but those of a copy of a rule. -/
def Untried.InPlace (b : Bindings) (goal : Call) : Untried → Prop
  | .clauses _ rest => ∀ cl ∈ rest, (headed b goal cl).1.size = b.size + cl.vars.size
  | .facts rest => ∀ fact ∈ rest, (b.unifyCall goal fact).1.size = b.size
  | .answers _ _ _ => True

/-- **Binding never makes a slot**: running and asking leave their number as it is, and going back makes none but those
of a copy of a rule. -/
structure BindsInPlace (e : Engine σ) (c : Control) (m : Machine σ) : Prop where
  run : ∀ frames, c = .run frames → (m.step e c).2.bindings.size = m.bindings.size
  ask : ∀ i, c = .ask i → (m.step e c).2.bindings.size = m.bindings.size
  back : ∀ ch cs goal k tried untried, c = .backtrack → m.choices.pop? = some (ch, cs) →
    ch.pending = .call goal k tried untried → untried.InPlace (m.bindings.rewind ch.checkpoint) goal

/-- **The slots of a new copy of a rule are new**: neither the goal nor what follows it, no choice, no answer and no
term that a slot holds mentions them. -/
structure SlotsNew (names : List (String × Nat)) (b : Bindings) (ch : Choice) (cs : Stack Choice) (goal : Call)
    (base : Nat) : Prop where
  goal : goal.span ≤ base
  after : ∀ f ∈ ch.after, f.Below base
  choices : ∀ older ∈ cs.items, older.checkpoint.slots ≤ base
  names : ∀ v ∈ names, v.2 < base
  slots : ∀ i t, b.lookup? i = some t → i < base ∧ t.span ≤ base

/-- The slots of every rule that going back begins to run are new. -/
def NewSlots (names : List (String × Nat)) (m : Machine σ) : Prop :=
  ∀ ch cs goal k tried owner clauses b base cl rest, m.choices.pop? = some (ch, cs) →
    ch.pending = .call goal k tried (.clauses owner clauses) →
      firstClause goal (m.bindings.rewind ch.checkpoint) clauses = (b, some (base, cl, rest)) →
        SlotsNew names (m.bindings.rewind ch.checkpoint) ch cs goal base ∧ b.size = base + cl.vars.size

/-! ## Bindings that come from those of the choices -/

/-- **Bindings come from those of the newest choice, and these from those of the next**, down to the first. -/
def Descends (b₀ : Bindings) : Bindings → List Choice → Prop
  | b, [] => Extends b₀ b
  | b, c :: cs => ∃ b', c.checkpoint = b'.checkpoint ∧ Extends b' b ∧ b'.Scoped ∧ c.InScope ∧ Descends b₀ b' cs

variable {b₀ b b' : Bindings}

theorem Descends.extend (hb : Extends b b') : ∀ {cs : List Choice}, Descends b₀ b cs → Descends b₀ b' cs
  | [], h => Extends.trans h hb
  | _ :: _, ⟨b₁, hc, he, hrest⟩ => ⟨b₁, hc, he.trans hb, hrest⟩

theorem Descends.push (h : Descends b₀ b cs) (hs : b.Scoped) {c : Choice} (hc : c.checkpoint = b.checkpoint)
    (hi : c.InScope) : Descends b₀ b (c :: cs) := ⟨b, hc, .refl, hs, hi, h⟩

theorem Descends.tail {c : Choice} {cs : List Choice} (h : Descends b₀ b (c :: cs)) : Descends b₀ b cs := by
  obtain ⟨b₁, _, he, _, _, hrest⟩ := h
  exact hrest.extend he

theorem Descends.drop : ∀ (n : Nat) {cs : List Choice}, Descends b₀ b cs → Descends b₀ b (cs.drop n)
  | 0, _, h => h
  | _ + 1, [], h => h
  | n + 1, _ :: _, h => Descends.drop n h.tail

theorem Descends.extends : ∀ {cs : List Choice} {b : Bindings}, Descends b₀ b cs → Extends b₀ b
  | [], _, h => h
  | _ :: _, _, ⟨_, _, he, _, _, hrest⟩ => hrest.extends.trans he

theorem Descends.inScope : ∀ {cs : List Choice} {b : Bindings}, Descends b₀ b cs → ∀ c ∈ cs, c.InScope
  | [], _, _ => List.forall_mem_nil _
  | _ :: _, _, ⟨_, _, _, _, hc, hrest⟩ => List.forall_mem_cons.2 ⟨hc, hrest.inScope⟩

theorem Descends.present : ∀ {cs : List Choice} {b : Bindings}, Descends b₀ b cs →
    ∀ c ∈ cs, c.checkpoint.slots ≤ b.size ∧ c.checkpoint.trail ≤ b.trail.height
  | [], _, _ => List.forall_mem_nil _
  | c :: cs, b, ⟨b₁, hc, he, _, _, hrest⟩ => by
    have hs : b₁.size ≤ b.size := he.size_le
    have ht := he.trail_le
    refine List.forall_mem_cons.2 ⟨?_, fun d hd => ?_⟩
    · rw [hc]
      exact ⟨hs, ht⟩
    · obtain ⟨h1, h2⟩ := hrest.present d hd
      exact ⟨Nat.le_trans h1 hs, Nat.le_trans h2 ht⟩

theorem Descends.order : ∀ {cs : List Choice} {b : Bindings}, Descends b₀ b cs → cs.Pairwise fun newer older =>
    older.checkpoint.slots ≤ newer.checkpoint.slots ∧ older.checkpoint.trail ≤ newer.checkpoint.trail
  | [], _, _ => .nil
  | c :: cs, b, ⟨b₁, hc, _, _, _, hrest⟩ => by
    refine List.pairwise_cons.2 ⟨fun d hd => ?_, hrest.order⟩
    rw [hc]
    exact hrest.present d hd

end Remedy.Query
