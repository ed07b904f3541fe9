import Remedy.Session
/-!
# Proofs.Facts — asserted facts stay ground

Only ground facts are added, and what is taken away was there: so facts that are ground stay so, whatever is asserted
and retracted (`Ground.becomes`).
-/
namespace Remedy

namespace Facts

/-- **All facts are ground.** -/
def Ground (f : Facts) : Prop := ∀ c ∈ f.all, c.isGround = true

theorem ground_empty : empty.Ground := fun _ h => nomatch h

theorem Ground.assert {f f' : Facts} {fact : Call} {atEnd : Bool} (hf : f.Ground)
    (h : f.assert fact atEnd = .ok f') : f'.Ground := by
  unfold Facts.assert at h
  split at h
  · cases h
  · rename_i hg
    have hfact : fact.isGround = true := by
      rw [Bool.not_eq_true'] at hg
      exact Bool.not_eq_false _ ▸ hg
    cases h
    intro c hc
    cases atEnd with
    | true =>
      rw [if_pos rfl, all_push] at hc
      rcases List.mem_append.1 hc with hc | hc
      · exact hf c hc
      · rcases List.mem_singleton.1 hc with rfl
        exact hfact
    | false =>
      rw [if_neg Bool.false_ne_true, all_pushFront] at hc
      rcases List.mem_cons.1 hc with rfl | hc
      · exact hfact
      · exact hf c hc

/-- **The first that passes is taken**, and the others keep their order. -/
theorem takeFirst_eq_some {p : Call → Bool} : ∀ {l rest : List Call} {c : Call}, takeFirst p l = some (c, rest) →
    ∃ before after, l = before ++ c :: after ∧ rest = before ++ after ∧ p c = true ∧ ∀ d ∈ before, p d = false
  | [], _, _, h => nomatch h
  | a :: l, rest, c, h => by
    unfold takeFirst at h
    split at h
    · rename_i ha
      cases h
      exact ⟨[], _, rfl, rfl, ha, List.forall_mem_nil _⟩
    · rename_i ha
      obtain ⟨⟨d, rest'⟩, ht, he⟩ := Option.map_eq_some_iff.1 h
      cases he
      obtain ⟨before, after, rfl, rfl, hc, hbefore⟩ := takeFirst_eq_some ht
      exact ⟨a :: before, after, rfl, rfl, hc, List.forall_mem_cons.2 ⟨Bool.eq_false_iff.2 ha, hbefore⟩⟩

theorem takeFirst_eq_none {p : Call → Bool} : ∀ {l : List Call}, takeFirst p l = none → ∀ c ∈ l, p c = false
  | [], _ => List.forall_mem_nil _
  | a :: l, h => by
    unfold takeFirst at h
    split at h
    · cases h
    · rename_i ha
      exact List.forall_mem_cons.2 ⟨Bool.eq_false_iff.2 ha, takeFirst_eq_none (Option.map_eq_none_iff.1 h)⟩

/-- **What is taken away was there**: the first fact under the functor that passes. -/
theorem retract?_eq_some {f f' : Facts} {functor : String} {p : Call → Bool} {c : Call}
    (h : f.retract? functor p = some (c, f')) : ∃ before after, f.all = before ++ c :: after ∧
      f'.all = before ++ after ∧ (c.functor = functor ∧ p c = true) ∧
        ∀ d ∈ before, d.functor = functor → p d = false := by
  unfold retract? at h
  obtain ⟨⟨d, rest⟩, ht, he⟩ := Option.map_eq_some_iff.1 h
  cases he
  obtain ⟨before, after, hall, rfl, hc, hbefore⟩ := takeFirst_eq_some ht
  rw [Bool.and_eq_true, beq_iff_eq] at hc
  refine ⟨before, after, hall, List.append_nil _, hc, fun d hd hfunctor => ?_⟩
  have hd := hbefore d hd
  rw [beq_iff_eq.2 hfunctor, Bool.true_and] at hd
  exact hd

theorem retract?_eq_none {f : Facts} {functor : String} {p : Call → Bool} (h : f.retract? functor p = none) :
    ∀ d ∈ f.all, d.functor = functor → p d = false := by
  intro d hd hfunctor
  have hd := takeFirst_eq_none (Option.map_eq_none_iff.1 h) d hd
  rw [beq_iff_eq.2 hfunctor, Bool.true_and] at hd
  exact hd

/-- **What stays was there too.** -/
theorem Ground.retract {f f' : Facts} {functor : String} {p : Call → Bool} {c : Call} (hf : f.Ground)
    (h : f.retract? functor p = some (c, f')) : c.isGround = true ∧ f'.Ground := by
  obtain ⟨before, after, hall, hleft, -⟩ := retract?_eq_some h
  unfold Ground at hf ⊢
  rw [hall] at hf
  obtain ⟨hbefore, hafter⟩ := List.forall_mem_append.1 hf
  obtain ⟨hc, hafter⟩ := List.forall_mem_cons.1 hafter
  rw [hleft]
  exact ⟨hc, List.forall_mem_append.2 ⟨hbefore, hafter⟩⟩

/-- **What facts become** when some are asserted and some are retracted. -/
inductive Becomes (f : Facts) : Facts → Prop
  | refl : Becomes f f
  | assert {g g' : Facts} {fact : Call} {atEnd : Bool} (h : Becomes f g) (ha : g.assert fact atEnd = .ok g') :
    Becomes f g'
  | retract {g g' : Facts} {functor : String} {p : Call → Bool} {fact : Call} (h : Becomes f g)
    (hr : g.retract? functor p = some (fact, g')) : Becomes f g'

theorem Becomes.trans {f g h : Facts} (hfg : Becomes f g) (hgh : Becomes g h) : Becomes f h := by
  induction hgh with
  | refl => exact hfg
  | assert _ ha ih => exact ih.assert ha
  | retract _ hr ih => exact ih.retract hr

theorem Ground.becomes {f g : Facts} (hf : f.Ground) (h : Becomes f g) : g.Ground := by
  induction h with
  | refl => exact hf
  | assert _ ha ih => exact ih.assert ha
  | retract _ hr ih => exact (ih.retract hr).2

theorem Ground.under {f : Facts} (hf : f.Ground) (functor : String) : ∀ c ∈ f.under functor, c.isGround = true :=
  fun c hc => hf c (List.mem_filter.1 hc).1

end Facts

theorem Session.ground_assert {s s' : Session} {fact : Call} {atEnd : Bool} (hs : s.facts.Ground)
    (h : s.assert fact atEnd = .ok s') : s'.facts.Ground := by
  unfold Session.assert at h
  rcases ha : s.facts.assert fact atEnd with cause | f
  · rw [ha] at h
    cases h
  · rw [ha] at h
    cases h
    exact hs.assert ha

end Remedy
