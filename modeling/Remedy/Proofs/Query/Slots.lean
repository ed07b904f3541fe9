import Remedy.Proofs.Query.Life
import Remedy.Proofs.Query.Tidy
/-!
# Proofs.Query.Slots — no variable dangles, and no two share a slot

Slots are made when a rule is tried and freed when the search goes back, so the same numbers are used again and again.
That this never makes one variable out of two rests on the order of the checkpoints on the stack, which every change in
the life of a query keeps (`Orderly.passes`).  So every slot that is mentioned is there (`InScope`), unification never
makes a slot (`BindsInPlace`), and the slots of a new copy of a rule are new (`NewSlots`): `slots_kept`.
-/
namespace Remedy.Query

open Bindings (Extends InPlace)

variable {σ : Type} {b₀ : Bindings} {e : Engine σ} {m m' : Machine σ}

/-! ## The whole life of a query -/

/-- **A moment in order**: what the query began with is below all, and nothing that is mentioned is missing. -/
structure Orderly (b₀ : Bindings) (a : Moment σ) : Prop where
  origin : a.query.origin = b₀.checkpoint
  names : ∀ v ∈ a.query.names, v.2 < b₀.size
  kept : Kept b₀ a.machine
  tidy : a.control.Tidy b₀ a.machine

theorem Kept.release (hs : m.bindings.Scoped) (he : Extends b₀ m.bindings) (hf : m.session.facts.Ground) :
    Kept b₀ m.release := by
  refine ⟨hs, ?_, hf⟩
  rw [items_release]
  exact he

/-- **A query that ends is in order**, whatever its bindings have become since it began. -/
theorem orderly_finish {q : Query} (ho : q.origin = b₀.checkpoint) (hn : ∀ v ∈ q.names, v.2 < b₀.size)
    (hs : m.bindings.Scoped) (he : Extends b₀ m.bindings) (hf : m.session.facts.Ground) :
    Orderly b₀ (.after (q.finish m)) := by
  refine ⟨ho, hn, ?_, ?_⟩
  · rw [machine_finish]
    exact (Kept.release hs he hf).onTree _
  · rw [control_finish]
    trivial

variable {others : σ → Session → σ → Session → Prop}

/-- **What happens next leaves all in order.** -/
theorem Orderly.passes (hb₀ : b₀.Sound) (hs₀ : b₀.Scoped) (hl : Scoped e.library) (hh : Grounds e.host)
    (ho : ∀ w s w' s', others w s w' s' → s.facts.Ground → s'.facts.Ground) {a a' : Moment σ} (h : Orderly b₀ a)
    (hp : Passes e others a a') : Orderly b₀ a' := by
  have hmoved : ∀ {q : Query} {c : Control} {m m' : Machine σ} {o : Outcome}, Orderly b₀ (.search q c m) →
      m.step e c = (o, m') → MovedTidily b₀ c m o m' := by
    intro q c m m' o h hs
    exact h.kept.moves hb₀ hl hh h.tidy (Machine.moves_of_step hs)
  cases hp with
  | @begin q w s frames hq =>
    have htidy := h.tidy
    unfold Moment.control at htidy
    simp only [hq] at htidy
    exact ⟨h.origin, h.names, h.kept, htidy⟩
  | again hq => exact ⟨h.origin, h.names, h.kept, trivial⟩
  | move hs =>
    have hm := hmoved h hs
    exact ⟨h.origin, h.names, hm.kept, hm.tidy _ rfl⟩
  | solved hs => exact ⟨h.origin, h.names, (hmoved h hs).kept, trivial⟩
  | exhausted hs =>
    have hk := (hmoved h hs).kept
    exact orderly_finish h.origin h.names hk.slots hk.descends.extends hk.facts
  | @failed q c m m' cause hs =>
    have hk := (hmoved h hs).kept
    have horigin : q.origin = b₀.checkpoint := h.origin
    have hb : (m'.rewind q.origin).bindings = b₀ := by
      unfold Machine.rewind
      simp only
      rw [horigin, hk.descends.extends.rewind_eq]
    exact orderly_finish h.origin h.names (by rw [hb]; exact hs₀) (by rw [hb]; exact .refl) hk.facts
  | @close q w s =>
    unfold Query.close
    split
    · exact h
    · exact orderly_finish (m := q.machine w s) h.origin h.names h.kept.slots h.kept.descends.extends h.kept.facts
  | other hw =>
    exact ⟨h.origin, h.names, ⟨h.kept.slots, h.kept.descends, ho _ _ _ _ hw h.kept.facts⟩, h.tidy.congr rfl rfl⟩

/-! ## No slot dangles, and none is shared -/

theorem Orderly.inScope {a : Moment σ} (h : Orderly b₀ a) : InScope a.query.names a.control a.machine := by
  have hd := h.kept.descends
  refine ⟨?_, h.kept.slots, fun v hv => Nat.lt_of_lt_of_le (h.names v hv) hd.extends.size_le, hd.inScope, hd.order,
    hd.present⟩
  have ht := h.tidy
  generalize a.control = c at ht
  cases c with
  | run frames => exact ht
  | backtrack => trivial
  | ask i =>
    obtain ⟨⟨_, _, _, _, hi, _⟩, hsize⟩ := ht
    exact ⟨hi, Nat.le_of_eq hsize⟩

theorem Kept.back (hb₀ : b₀.Sound) (h : Kept b₀ m) {ch : Choice} {cs : Stack Choice}
    (hp : m.choices.pop? = some (ch, cs)) : ∃ b, m.bindings.rewind ch.checkpoint = b ∧ ch.checkpoint = b.checkpoint ∧
      b.Sound ∧ b.Scoped ∧ ch.InScope ∧ Descends b₀ b cs.items := by
  have hd := h.descends
  rw [items_of_pop hp] at hd
  obtain ⟨b, hcp, he, hs, hi, hrest⟩ := hd
  exact ⟨b, by rw [hcp, he.rewind_eq], hcp, Extends.trans hb₀ hrest.extends, hs, hi, hrest⟩

theorem Kept.untried_inPlace (hb₀ : b₀.Sound) (h : Kept b₀ m) {ch : Choice} {cs : Stack Choice} {goal : Call} {k : Nat}
    {tried : Bool} {untried : Untried} (hp : m.choices.pop? = some (ch, cs))
    (hc : ch.pending = .call goal k tried untried) : untried.InPlace (m.bindings.rewind ch.checkpoint) goal := by
  obtain ⟨b, hb, hcp, -, hs, hi, -⟩ := h.back hb₀ hp
  have hpend := hi.pending
  rw [hc, hcp] at hpend
  obtain ⟨hg, hu⟩ := hpend
  rw [hb]
  cases untried with
  | clauses owner rest => exact fun cl hcl => size_headed hs hg (hu cl hcl)
  | facts rest => exact fun fact hf => (inPlace_fact hs hg (hu fact hf)).size_eq
  | answers p args asked => trivial

theorem Kept.newSlots (hb₀ : b₀.Sound) (h : Kept b₀ m) {names : List (String × Nat)}
    (hn : ∀ v ∈ names, v.2 < b₀.size) : NewSlots names m := by
  intro ch cs goal k tried owner clauses b' base cl rest hp hc hf
  obtain ⟨b, hb, hcp, hsound, hs, hi, hd⟩ := h.back hb₀ hp
  have hslots : ch.checkpoint.slots = b.size := by rw [hcp]; rfl
  have hpend := hi.pending
  rw [hc, hslots] at hpend
  obtain ⟨hg, hu⟩ := hpend
  rw [hb] at hf ⊢
  obtain ⟨skipped, rfl, rfl, rfl⟩ := exists_of_firstClause_some hsound hf
  refine ⟨⟨hg, fun f hfm => ?_, fun older ho => (hd.present older ho).1, fun v hv => ?_, fun i t hit => ?_⟩, ?_⟩
  · have := hi.after f hfm
    rw [hslots] at this
    exact this
  · exact Nat.lt_of_lt_of_le (hn v hv) hd.extends.size_le
  · refine ⟨Nat.lt_of_not_le fun hle => ?_, hs i t hit⟩
    rw [Bindings.lookup?_eq_none hle] at hit
    cases hit
  · exact size_headed hs hg (hu cl (List.mem_append_right _ List.mem_cons_self))

theorem mem_of_firstNames {named : List (String × Nat)} {v : String × Nat} (h : v ∈ firstNames named) :
    v ∈ named := by
  have hfold : ∀ (l acc : List (String × Nat)),
      v ∈ l.foldl (fun names v => if names.any (·.2 == v.2) then names else names ++ [v]) acc → v ∈ acc ∨ v ∈ l := by
    intro l
    induction l with
    | nil => exact fun acc h => .inl h
    | cons u l ih =>
      intro acc h
      rw [List.foldl_cons] at h
      rcases ih _ h with h | h
      · split at h
        · exact .inl h
        · rcases List.mem_append.1 h with h | h
          · exact .inl h
          · exact .inr (List.mem_cons.2 (.inl (List.mem_singleton.1 h)))
      · exact .inr (List.mem_cons_of_mem _ h)
  rcases hfold named [] h with h | h
  · cases h
  · exact h

theorem sound_entryBindings (goal : Call) (vars : VarTable) : (entryBindings goal vars).Sound := Extends.refl.allocate _

theorem orderly_entry {l : Library} {owner : Nat} {goal : Call} {vars : VarTable} {q : Query}
    (hq : ofGoal l owner goal vars = .ok q) (w : σ) {s : Session} (hs : s.facts.Ground) :
    Orderly (entryBindings goal vars) (.rest q w s) := by
  obtain ⟨md, g, -, hg, rfl⟩ := ofGoal_eq_ok.1 hq
  have hsize : (entryBindings goal vars).size = max vars.size goal.span := by
    unfold entryBindings
    rw [Bindings.size_allocate]
    exact Nat.zero_add _
  refine ⟨rfl, fun v hv => ?_, ⟨Bindings.scoped_empty.allocate _, .refl, hs⟩, ?_⟩
  · have hlt : v.2 < goal.span := Term.lt_of_namedOf v (mem_of_firstNames hv)
    omega
  · refine List.forall_mem_singleton.2 ⟨?_, List.forall_mem_singleton.2 ?_⟩
    all_goals
      have hm : (Moment.rest (entryQuery owner goal vars g) w s).machine.bindings = entryBindings goal vars := rfl
      rw [hm, hsize]
    · exact Nat.le_trans (Nat.le_of_eq (Nat.zero_add _)) (Nat.le_max_left _ _)
    · rw [span_resolveGoal hg]
      exact Nat.le_max_right _ _

/-- **No slot dangles, and none is shared**, at every moment in the life of a query whose rules have been compiled and
whose application answers with ground terms: every slot that is mentioned is there, binding never makes a slot, and the
slots of a new copy of a rule are mentioned nowhere else. -/
theorem slots_kept (e : Engine σ) (others : σ → Session → σ → Session → Prop) (hl : e.library.Compiled)
    (hh : Grounds e.host) (ho : ∀ w s w' s', others w s w' s' → s.facts.Ground → s'.facts.Ground) {owner : Nat}
    {goal : Call} {vars : VarTable} {q : Query} (hq : ofGoal e.library owner goal vars = .ok q) {w : σ} {s : Session}
    (hs : s.facts.Ground) {a : Moment σ} (ha : Comes e others (.rest q w s) a) :
    InScope a.query.names a.control a.machine ∧ BindsInPlace e a.control a.machine ∧
      NewSlots a.query.names a.machine := by
  have hb₀ : (entryBindings goal vars).Sound := Extends.refl.allocate _
  have hs₀ : (entryBindings goal vars).Scoped := Bindings.scoped_empty.allocate _
  have h := ha.keeps (fun _ _ h hp => h.passes hb₀ hs₀ hl.scoped hh ho hp) (orderly_entry hq w hs)
  have hmoved := h.kept.moves hb₀ hl.scoped hh h.tidy (Machine.step_moves e a.machine a.control)
  refine ⟨h.inScope, ⟨fun frames hc => ?_, fun i hc => ?_, fun ch cs goal k tried untried _ hp hpend => ?_⟩,
    h.kept.newSlots hb₀ h.names⟩
  · exact hmoved.size_eq (by rw [hc]; exact fun h => nomatch h)
  · exact hmoved.size_eq (by rw [hc]; exact fun h => nomatch h)
  · exact h.kept.untried_inPlace hb₀ hp hpend

/-! The rules `p(1)` and `q(?X) :- p(?X)`, and the query `q(?X)` after its first solution. -/

def pairingRules : List RuleText := RuleText.numbered ["p(1)", "q(?X) :- p(?X)"]

def pairing : RuleModule := (RuleModule.compile ⟨[]⟩ "pairing" .none pairingRules).toOption.getD ⟨"", [], [], .none⟩

theorem slots_kept_pairing : ∃ q, ofGoal ⟨[pairing]⟩ 0 ⟨"q", [⟨none, .var "X" 0⟩]⟩ ⟨["X"]⟩ = .ok q ∧
    let e : Engine Unit := ⟨⟨[pairing]⟩, .silent, .standard⟩
    let a := Moment.after (q.next e () .new).2
    InScope a.query.names a.control a.machine ∧ BindsInPlace e a.control a.machine ∧
      NewSlots a.query.names a.machine := by
  have hok : (RuleModule.compile ⟨[]⟩ "pairing" .none pairingRules).isOk = true := by decide +kernel
  have hmodule : RuleModule.compile ⟨[]⟩ "pairing" .none pairingRules = .ok pairing := eq_ok_of_isOk hok _
  have hgoal : (ofGoal ⟨[pairing]⟩ 0 ⟨"q", [⟨none, .var "X" 0⟩]⟩ ⟨["X"]⟩).isOk = true := by decide +kernel
  have hcompiled : Library.Compiled ⟨[pairing]⟩ := by
    intro md hmd
    rw [List.mem_singleton.1 hmd]
    exact .inr ⟨_, _, _, _, hmodule⟩
  have hsilent : Grounds Host.silent := fun _ _ _ _ _ hs => ⟨hs, fun _ ha => nomatch ha⟩
  have hothers : ∀ (w : Unit) (s : Session) (w' : Unit) (s' : Session), False → s.facts.Ground → s'.facts.Ground :=
    fun _ _ _ _ h => h.elim
  obtain ⟨q, hq⟩ : ∃ q, ofGoal ⟨[pairing]⟩ 0 ⟨"q", [⟨none, .var "X" 0⟩]⟩ ⟨["X"]⟩ = .ok q :=
    ⟨_, eq_ok_of_isOk hgoal ⟨[], ⟨0, 0⟩, .ended, .empty, .empty, 0⟩⟩
  refine ⟨q, hq, ?_⟩
  intro e a
  have ha : Comes e (fun _ _ _ _ => False) (.rest q () .new) a := comes_next e _ q () .new
  exact slots_kept e _ hcompiled hsilent hothers hq Facts.ground_empty ha

end Remedy.Query
