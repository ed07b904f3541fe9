import Remedy.Term.Bindings
/-!
# Proofs.Bindings.Undo — going back to a checkpoint takes away what came after it

Bindings are extended in two ways only: by new empty slots, and by a term for an empty slot (`Extends`).  Whatever has
been added in this way, the checkpoint of the moment before gives back the very bindings of that moment
(`Extends.rewind_eq`).  Unification extends bindings, whether it succeeds or fails halfway (`extends_unifyAll`): it
follows variables to their ends first, and all chains of variables end (`ended_walk`), so the slot it binds is empty.

Whatever is done after a checkpoint can be undone.  Slots are made, terms are unified, with or without success,
checkpoints are taken, and some are gone back to, the later ones being given up then (`Deed`).  At every moment the
bindings of each checkpoint extend to those of the next one and the last of them to the present ones (`Marked`), so to
go back to one is to be at its moment again (`Marked.rewind`).  Hence what has come of bindings extends them, however
often it has been gone back and forth in between, and their checkpoint gives them back (`rewind_run`).
-/
namespace Remedy

theorem Stack.ext_items {α : Type} {s t : Stack α} (h : s.items = t.items) : s = t := by
  rcases s with ⟨l, n, rfl⟩
  rcases t with ⟨m, k, rfl⟩
  obtain rfl : l = m := h
  rfl

namespace Bindings

theorem release_getElem? : ∀ (l : List Nat) (slots : Array (Option Term)) (j : Nat),
    (release slots l)[j]? = if j ∈ l then (slots[j]?).map (fun _ => none) else slots[j]?
  | [], slots, j => by simp [release]
  | i :: l, slots, j => by
    have h := release_getElem? l (slots.setIfInBounds i none) j
    have e : release slots (i :: l) = release (slots.setIfInBounds i none) l := rfl
    rw [e, h, Array.getElem?_setIfInBounds]
    by_cases hij : i = j
    · subst hij
      by_cases hs : i < slots.size
      · simp [hs]
      · simp [hs]
    · have hji : j ≠ i := fun hh => hij hh.symm
      simp [hij, hji]

/-! ## New slots and new bindings -/

theorem size_allocate (b : Bindings) (n : Nat) : (b.allocate n).2.size = b.size + n := by
  simp [allocate, size]

theorem lookup?_eq_none {b : Bindings} {i : Nat} (h : b.size ≤ i) : b.lookup? i = none := by
  unfold lookup?
  rw [Array.getElem?_eq_none h]
  rfl

theorem lookup?_allocate (b : Bindings) (n i : Nat) : (b.allocate n).2.lookup? i = b.lookup? i := by
  simp only [lookup?, allocate, Array.getElem?_append, Array.getElem?_replicate]
  by_cases hi : i < b.slots.size
  · simp [hi]
  · by_cases hn : i - b.slots.size < n <;> simp [hi, hn]

theorem size_grow (b : Bindings) (i : Nat) : (b.grow i).size = max b.size (i + 1) := by
  unfold grow
  by_cases h : i < b.slots.size
  · rw [if_pos h]
    unfold size
    omega
  · rw [if_neg h, size_allocate]
    unfold size
    omega

theorem lookup?_grow (b : Bindings) (i j : Nat) : (b.grow i).lookup? j = b.lookup? j := by
  unfold grow
  split
  · rfl
  · exact lookup?_allocate b _ j

theorem trail_grow (b : Bindings) (i : Nat) : (b.grow i).trail = b.trail := by
  unfold grow
  split <;> rfl

theorem bind_eq (b : Bindings) (i : Nat) (t : Term) :
    b.bind i t = ⟨(b.grow i).slots.setIfInBounds i (some t), (b.grow i).trail.push i⟩ := rfl

theorem size_bind (b : Bindings) (i : Nat) (t : Term) : (b.bind i t).size = max b.size (i + 1) := by
  rw [bind_eq, ← size_grow]
  simp [size]

theorem trail_bind (b : Bindings) (i : Nat) (t : Term) : (b.bind i t).trail = b.trail.push i := by
  rw [bind_eq, trail_grow]

theorem lookup?_bind (b : Bindings) (i j : Nat) (t : Term) :
    (b.bind i t).lookup? j = if i = j then some t else b.lookup? j := by
  have hs : i < (b.grow i).slots.size := by
    have h : (b.grow i).slots.size = max b.size (i + 1) := size_grow b i
    omega
  by_cases hij : i = j
  · subst hij
    simp [bind_eq, lookup?, hs]
  · rw [if_neg hij, ← lookup?_grow b i j]
    simp [bind_eq, lookup?, hij]

/-! ## Going back -/

theorem eq_of_parts {a b : Bindings} (hs : a.slots = b.slots) (ht : a.trail = b.trail) : a = b := by
  cases a
  cases b
  obtain rfl := hs
  obtain rfl := ht
  rfl

theorem rewind_checkpoint (b : Bindings) : b.rewind b.checkpoint = b := by
  rcases b with ⟨slots, trail⟩
  unfold rewind checkpoint
  simp only [Bindings.mk.injEq]
  constructor
  · simp [Stack.above, release]
  · exact Stack.ext_items (by simp [Stack.cut])

theorem slots_rewind_getElem? (b : Bindings) (c : Checkpoint) (j : Nat) :
    (b.rewind c).slots[j]? = if j < c.slots then
      (if j ∈ b.trail.above c.trail then (b.slots[j]?).map (fun _ => none) else b.slots[j]?) else none := by
  unfold rewind
  rw [← release_getElem?]
  simp only [Array.shrink_eq_take, Array.take_eq_extract, Array.getElem?_extract, Nat.sub_zero, Nat.zero_add]
  by_cases hj : j < c.slots
  · by_cases hs : j < (release b.slots (b.trail.above c.trail)).size
    · rw [if_pos (by omega), if_pos hj]
    · rw [if_neg (by omega), if_pos hj, Array.getElem?_eq_none (by omega)]
  · rw [if_neg (by omega), if_neg hj]

theorem rewind_allocate (b : Bindings) (n : Nat) (c : Checkpoint) (hc : c.slots ≤ b.size) :
    (b.allocate n).2.rewind c = b.rewind c := by
  have hs : ((b.allocate n).2.rewind c).slots = (b.rewind c).slots := by
    refine Array.ext_getElem? fun j => ?_
    rw [slots_rewind_getElem?, slots_rewind_getElem?]
    split
    · rename_i hj
      have hlt : j < b.slots.size := Nat.lt_of_lt_of_le hj hc
      have e : (b.allocate n).2.slots[j]? = b.slots[j]? := by simp [allocate, Array.getElem?_append, hlt]
      rw [e]
      rfl
    · rfl
  have ht : ((b.allocate n).2.rewind c).trail = (b.rewind c).trail := rfl
  exact eq_of_parts hs ht

theorem above_push (s : Stack Nat) (i n : Nat) (h : n ≤ s.height) : (s.push i).above n = s.above n ++ [i] := by
  unfold Stack.above Stack.push
  have e : s.height + 1 - n = (s.height - n) + 1 := by omega
  simp [e]

theorem cut_push {α : Type} (s : Stack α) (a : α) (n : Nat) (h : n ≤ s.height) : (s.push a).cut n = s.cut n := by
  apply Stack.ext_items
  unfold Stack.cut Stack.push
  have e : s.height + 1 - n = (s.height - n) + 1 := by omega
  simp [e]

theorem rewind_bind (b : Bindings) (i : Nat) (t : Term) (c : Checkpoint) (hi : b.lookup? i = none)
    (hs : c.slots ≤ b.size) (ht : c.trail ≤ b.trail.height) : (b.bind i t).rewind c = b.rewind c := by
  have hslots : ((b.bind i t).rewind c).slots = (b.rewind c).slots := by
    refine Array.ext_getElem? fun j => ?_
    rw [slots_rewind_getElem?, slots_rewind_getElem?, trail_bind, above_push _ _ _ ht]
    split
    · rename_i hj
      have hlt : j < b.slots.size := Nat.lt_of_lt_of_le hj hs
      by_cases hij : i = j
      · subst hij
        have hnone : b.slots[i]? = some none := by
          unfold lookup? at hi
          rw [Array.getElem?_eq_getElem hlt] at hi ⊢
          exact congrArg some hi
        have hg : i < (b.bind i t).slots.size := by
          have := size_bind b i t
          unfold size at this
          omega
        rw [Array.getElem?_eq_getElem hg, hnone]
        simp
      · have hji : j ≠ i := fun h => hij h.symm
        have e : (b.bind i t).slots[j]? = b.slots[j]? := by
          rw [bind_eq, Array.getElem?_setIfInBounds, if_neg hij]
          unfold grow
          split
          · rfl
          · simp [allocate, Array.getElem?_append, hlt]
        simp [e, hji]
    · rfl
  have htrail : ((b.bind i t).rewind c).trail = (b.rewind c).trail := by
    unfold rewind
    rw [trail_bind]
    exact cut_push _ _ _ ht
  exact eq_of_parts hslots htrail

/-! ## Extensions -/

/-- **A term that a slot may be bound to**: if it is a variable, it is another one, and it stands for nothing yet. -/
def Fits (b : Bindings) (i : Nat) (t : Term) : Prop := ∀ name j, t = .var name j → j ≠ i ∧ b.lookup? j = none

/-- **What bindings become**: they get new slots, and terms for empty slots. -/
inductive Extends (b : Bindings) : Bindings → Prop
  | refl : Extends b b
  | allocate {c : Bindings} (h : Extends b c) (n : Nat) : Extends b (c.allocate n).2
  | bind {c : Bindings} (h : Extends b c) (i : Nat) (t : Term) (hi : c.lookup? i = none) (ht : c.Fits i t) :
    Extends b (c.bind i t)

theorem Extends.trans {a b c : Bindings} (hab : Extends a b) (hbc : Extends b c) : Extends a c := by
  induction hbc with
  | refl => exact hab
  | allocate _ n ih => exact ih.allocate n
  | bind _ i t hi ht ih => exact ih.bind i t hi ht

theorem Extends.size_le {b c : Bindings} (h : Extends b c) : b.size ≤ c.size := by
  induction h with
  | refl => exact Nat.le_refl _
  | allocate _ n ih =>
    rw [size_allocate]
    omega
  | bind _ i t _ _ ih =>
    rw [size_bind]
    omega

theorem Extends.trail_le {b c : Bindings} (h : Extends b c) : b.trail.height ≤ c.trail.height := by
  induction h with
  | refl => exact Nat.le_refl _
  | allocate _ n ih => exact ih
  | bind _ i t _ _ ih =>
    rw [trail_bind]
    exact Nat.le_succ_of_le ih

/-- **Going back to the checkpoint of a moment gives back the bindings of that moment.** -/
theorem Extends.rewind_eq {b c : Bindings} (h : Extends b c) : c.rewind b.checkpoint = b := by
  induction h with
  | refl => exact rewind_checkpoint b
  | allocate h n ih => rw [rewind_allocate _ _ _ h.size_le, ih]
  | bind h i t hi _ ih => rw [rewind_bind _ _ _ _ hi h.size_le h.trail_le, ih]

/-! ## Chains of variables end -/

/-- **Bindings that have come from no slots at all.** -/
def Sound (b : Bindings) : Prop := Extends empty b

/-- **A term at which a chain of variables ends**: no variable, or one that stands for nothing. -/
def Ended (b : Bindings) (t : Term) : Prop := ∀ name j, t = .var name j → b.lookup? j = none

theorem walkFor_of_ended {b : Bindings} {t : Term} (h : b.Ended t) : ∀ n, b.walkFor n t = t
  | 0 => rfl
  | n + 1 => by
    cases t with
    | var name j => simp only [walkFor, h name j rfl]
    | _ => rfl

theorem walkFor_add (b : Bindings) : ∀ (n m : Nat) (t : Term), b.walkFor (n + m) t = b.walkFor m (b.walkFor n t)
  | 0, m, t => by rw [Nat.zero_add]; rfl
  | n + 1, m, t => by
    rw [Nat.add_right_comm]
    cases t with
    | var name j =>
      cases hj : b.lookup? j with
      | none =>
        have he : b.Ended (.var name j) := fun _ _ e => by cases e; exact hj
        rw [walkFor_of_ended he, walkFor_of_ended he, walkFor_of_ended he]
      | some u =>
        simp only [walkFor, hj]
        exact walkFor_add b n m u
    | _ => exact (walkFor_of_ended (fun _ _ e => by cases e) m).symm

theorem walkFor_of_le {b : Bindings} {t : Term} {n m : Nat} (h : b.Ended (b.walkFor n t)) (hm : n ≤ m) :
    b.walkFor m t = b.walkFor n t := by
  obtain ⟨k, rfl⟩ := Nat.exists_eq_add_of_le hm
  rw [walkFor_add, walkFor_of_ended h]

theorem walkFor_allocate (b : Bindings) (k : Nat) : ∀ (n : Nat) (t : Term),
    (b.allocate k).2.walkFor n t = b.walkFor n t
  | 0, _ => rfl
  | n + 1, t => by
    cases t with
    | var name j =>
      simp only [walkFor, lookup?_allocate]
      cases b.lookup? j with
      | none => rfl
      | some u => exact walkFor_allocate b k n u
    | _ => rfl

theorem exists_ended_bind {b : Bindings} {i : Nat} {u : Term} (hi : b.lookup? i = none) (hu : b.Fits i u) :
    ∀ (n : Nat) (t : Term), b.Ended (b.walkFor n t) →
      ∃ m ≤ n + 1, (b.bind i u).Ended ((b.bind i u).walkFor m t) := by
  -- a chain goes on only if it has ended at the slot that is bound, and then by one step
  have hstop : ∀ t, b.Ended t → ∃ m ≤ 1, (b.bind i u).Ended ((b.bind i u).walkFor m t) := by
    intro t he
    by_cases ht : ∃ name, t = .var name i
    · obtain ⟨name, rfl⟩ := ht
      refine ⟨1, Nat.le_refl _, fun nm j e => ?_⟩
      have hw : (b.bind i u).walkFor 1 (.var name i) = u := by simp [walkFor, lookup?_bind]
      rw [hw] at e
      obtain ⟨hji, hj⟩ := hu nm j e
      rw [lookup?_bind, if_neg (Ne.symm hji), hj]
    · refine ⟨0, Nat.zero_le _, fun nm j e => ?_⟩
      have e : t = .var nm j := e
      have hij : i ≠ j := fun h => ht ⟨nm, by rw [e, h]⟩
      rw [lookup?_bind, if_neg hij, he nm j e]
  intro n
  induction n with
  | zero => exact fun t h => hstop t h
  | succ n ih =>
    intro t h
    by_cases ht : b.Ended t
    · obtain ⟨m, hm, he⟩ := hstop t ht
      exact ⟨m, by omega, he⟩
    · cases t with
      | var name j =>
        cases hj : b.lookup? j with
        | none => exact absurd (fun _ _ e => by cases e; exact hj) ht
        | some v =>
          have hw : b.walkFor (n + 1) (.var name j) = b.walkFor n v := by simp only [walkFor, hj]
          have hij : i ≠ j := fun e => by rw [← e, hi] at hj; cases hj
          rw [hw] at h
          obtain ⟨m, hm, he⟩ := ih v h
          refine ⟨m + 1, by omega, ?_⟩
          have hw' : (b.bind i u).walkFor (m + 1) (.var name j) = (b.bind i u).walkFor m v := by
            simp only [walkFor, lookup?_bind, if_neg hij, hj]
          rw [hw']
          exact he
      | _ => exact absurd (fun _ _ e => by cases e) ht

theorem exists_ended {b : Bindings} (h : b.Sound) (t : Term) :
    ∃ n ≤ b.trail.height, b.Ended (b.walkFor n t) := by
  induction h generalizing t with
  | refl => exact ⟨0, Nat.le_refl _, fun _ j _ => by simp [lookup?, empty]⟩
  | @allocate c h k ih =>
    obtain ⟨n, hn, he⟩ := ih t
    refine ⟨n, hn, fun name j e => ?_⟩
    rw [walkFor_allocate] at e
    rw [lookup?_allocate, he name j e]
  | @bind c h i u hi hu ih =>
    obtain ⟨n, hn, he⟩ := ih t
    obtain ⟨m, hm, he'⟩ := exists_ended_bind hi hu n t he
    refine ⟨m, ?_, he'⟩
    rw [trail_bind]
    exact Nat.le_trans hm (Nat.succ_le_succ hn)

theorem Sound.trail_nodup {b : Bindings} (h : b.Sound) :
    b.trail.items.Nodup ∧ ∀ i ∈ b.trail.items, i < b.size ∧ b.lookup? i ≠ none := by
  induction h with
  | refl => exact ⟨List.nodup_nil, fun i hi => by cases hi⟩
  | @allocate c h k ih =>
    obtain ⟨hnd, hb⟩ := ih
    refine ⟨hnd, fun i hi => ?_⟩
    obtain ⟨hlt, hne⟩ := hb i hi
    rw [size_allocate, lookup?_allocate]
    exact ⟨by omega, hne⟩
  | @bind c h i u hi hu ih =>
    obtain ⟨hnd, hb⟩ := ih
    rw [trail_bind]
    refine ⟨List.nodup_cons.2 ⟨fun hm => (hb i hm).2 hi, hnd⟩, fun j hj => ?_⟩
    rw [size_bind, lookup?_bind]
    rcases List.mem_cons.1 hj with rfl | hj
    · exact ⟨by omega, by simp⟩
    · obtain ⟨hlt, hne⟩ := hb j hj
      refine ⟨by omega, ?_⟩
      split
      · simp
      · exact hne

theorem Sound.height_le_size {b : Bindings} (h : b.Sound) : b.trail.height ≤ b.size := by
  obtain ⟨hnd, hb⟩ := h.trail_nodup
  have hsub : b.trail.items ⊆ List.range b.size := fun i hi => List.mem_range.2 (hb i hi).1
  have hlen := hnd.length_le_of_subset hsub
  rw [List.length_range, b.trail.height_eq] at hlen
  exact hlen

/-- **Following a variable ends** at a variable that stands for nothing or at another term. -/
theorem Sound.ended_walk {b : Bindings} (h : b.Sound) (t : Term) : b.Ended (b.walk t) := by
  obtain ⟨n, hn, he⟩ := exists_ended h t
  have hle : n ≤ b.slots.size := Nat.le_trans hn h.height_le_size
  unfold walk
  rw [walkFor_of_le he hle]
  exact he

/-! ## Unification extends bindings -/

theorem extends_unifyStep {b : Bindings} {s t : Term} (hs : b.Ended s) (ht : b.Ended t) :
    Extends b (b.unifyStep s t).1 := by
  unfold unifyStep
  split
  · rename_i i m j
    split
    · exact .refl
    · rename_i hij
      exact Extends.refl.bind i _ (hs _ i rfl) fun nm k e => by
        cases e
        exact ⟨Ne.symm hij, ht _ j rfl⟩
  · rename_i n i hnv
    exact Extends.refl.bind i _ (hs _ i rfl) fun nm k e => absurd e (hnv nm k)
  · rename_i n j hnv
    exact Extends.refl.bind j _ (ht _ j rfl) fun nm k e => absurd e (hnv nm k)
  · exact .refl
  · exact .refl
  · exact .refl
  · exact .refl

theorem extends_unifyFor : ∀ (n : Nat) (b : Bindings) (es : List Equation), b.Sound →
    Extends b (unifyFor n b es).1
  | 0, _, [], _ | _ + 1, _, [], _ => .refl
  | 0, _, _ :: _, _ => .refl
  | _ + 1, _, .clash :: _, _ => .refl
  | n + 1, b, .pair s t :: rest, hb => by
    have hstep := extends_unifyStep (hb.ended_walk s) (hb.ended_walk t)
    unfold unifyFor
    split
    · rename_i c more hc
      rw [hc] at hstep
      exact hstep.trans (extends_unifyFor n c (more ++ rest) (Extends.trans hb hstep))
    · rename_i c hc
      rw [hc] at hstep
      exact hstep

theorem extends_unifyAll {b : Bindings} (hb : b.Sound) (es : List Equation) : Extends b (b.unifyAll es).1 := by
  have hfirst := extends_unifyFor usual b es hb
  unfold unifyAll
  split
  · rename_i c success hc
    rw [hc] at hfirst
    exact hfirst
  · rename_i c left hc
    rw [hc] at hfirst
    have hsecond := extends_unifyFor (c.enough left) c left (Extends.trans hb hfirst)
    split
    · rename_i d success hd
      rw [hd] at hsecond
      exact hfirst.trans hsecond
    · rename_i d left' hd
      rw [hd] at hsecond
      exact hfirst.trans hsecond

/-- **Unifying two terms extends the bindings**, whether it succeeds or not. -/
theorem extends_unify {b : Bindings} (hb : b.Sound) (s t : Term) : Extends b (b.unify s t).1 :=
  extends_unifyAll hb _

theorem extends_unifyCall {b : Bindings} (hb : b.Sound) (goal head : Call) : Extends b (b.unifyCall goal head).1 :=
  extends_unifyAll hb _

/-! ## Checkpoints -/

/-- **What is done to bindings.** -/
inductive Deed
  | allocate (count : Nat)
  | unify (s t : Term)
  | unifyCall (goal head : Call)
  | mark
  | undo (k : Nat)

/-- **The bindings and the checkpoints after a deed**; the newest checkpoint comes first.  To undo is to go back to one
of the checkpoints that have been taken, if there are so many, and the newer ones are given up. -/
def Deed.after : Deed → Bindings × List Checkpoint → Bindings × List Checkpoint
  | .allocate n, (b, cs) => ((b.allocate n).2, cs)
  | .unify s t, (b, cs) => ((b.unify s t).1, cs)
  | .unifyCall goal head, (b, cs) => ((b.unifyCall goal head).1, cs)
  | .mark, (b, cs) => (b, b.checkpoint :: cs)
  | .undo k, (b, cs) =>
    match cs.drop k with
    | [] => (b, cs)
    | c :: rest => (b.rewind c, c :: rest)

def run (deeds : List Deed) (p : Bindings × List Checkpoint) : Bindings × List Checkpoint :=
  deeds.foldl (fun p deed => deed.after p) p

/-- **The checkpoints lie one after the other** between the first bindings and the present ones. -/
def Marked (b₀ : Bindings) : Bindings → List Checkpoint → Prop
  | b, [] => Extends b₀ b
  | b, c :: cs => ∃ b', c = b'.checkpoint ∧ Extends b' b ∧ Marked b₀ b' cs

variable {b₀ b b' : Bindings} {cs : List Checkpoint} {c : Checkpoint}

theorem Marked.extend (h : Marked b₀ b cs) (hb : Extends b b') : Marked b₀ b' cs := by
  cases cs with
  | nil => exact Extends.trans h hb
  | cons c cs =>
    obtain ⟨d, hc, hd, hrest⟩ := h
    exact ⟨d, hc, hd.trans hb, hrest⟩

theorem Marked.extends : ∀ {cs : List Checkpoint} {b : Bindings}, Marked b₀ b cs → Extends b₀ b
  | [], _, h => h
  | _ :: _, _, ⟨_, _, hd, hrest⟩ => hrest.extends.trans hd

theorem Marked.drop : ∀ (k : Nat) {cs : List Checkpoint} {b : Bindings}, Marked b₀ b cs → Marked b₀ b (cs.drop k)
  | 0, _, _, h => h
  | _ + 1, [], _, h => h
  | k + 1, _ :: _, _, ⟨_, _, hd, hrest⟩ => (hrest.extend hd).drop k

/-- **To go back to the newest checkpoint** is to be at its moment again. -/
theorem Marked.rewind (h : Marked b₀ b (c :: cs)) : Marked b₀ (b.rewind c) (c :: cs) := by
  obtain ⟨d, rfl, hd, hrest⟩ := h
  rw [hd.rewind_eq]
  exact ⟨d, rfl, .refl, hrest⟩

theorem Marked.after (hb₀ : b₀.Sound) (h : Marked b₀ b cs) (deed : Deed) :
    Marked b₀ (deed.after (b, cs)).1 (deed.after (b, cs)).2 := by
  have hb : b.Sound := Extends.trans hb₀ h.extends
  cases deed with
  | allocate n => exact h.extend (Extends.refl.allocate n)
  | unify s t => exact h.extend (extends_unify hb s t)
  | unifyCall goal head => exact h.extend (extends_unifyCall hb goal head)
  | mark => exact ⟨b, rfl, .refl, h⟩
  | undo k =>
    have hk := h.drop k
    cases hcs : cs.drop k with
    | nil =>
      simp only [Deed.after, hcs]
      exact h
    | cons c rest =>
      rw [hcs] at hk
      simp only [Deed.after, hcs]
      exact hk.rewind

theorem Marked.run (hb₀ : b₀.Sound) : ∀ (deeds : List Deed) {b : Bindings} {cs : List Checkpoint}, Marked b₀ b cs →
    Marked b₀ (run deeds (b, cs)).1 (run deeds (b, cs)).2
  | [], _, _, h => h
  | deed :: deeds, _, _, h => (h.after hb₀ deed).run hb₀ deeds

/-- **What has been done to bindings extends them**, whatever has been undone of it. -/
theorem extends_run (hb : b.Sound) (deeds : List Deed) : Extends b (run deeds (b, [])).1 := by
  have hstart : Marked b b [] := Extends.refl
  exact (hstart.run hb deeds).extends

theorem Sound.mem_trail_iff (hb : b.Sound) (i : Nat) : i ∈ b.trail.items ↔ b.lookup? i ≠ none := by
  refine ⟨fun hi => (hb.trail_nodup.2 i hi).2, ?_⟩
  induction hb with
  | refl => exact fun hi => absurd (lookup?_eq_none (Nat.zero_le i)) hi
  | @allocate c _ n ih =>
    rw [lookup?_allocate]
    exact ih
  | @bind c _ j t _ _ ih =>
    rw [lookup?_bind, trail_bind]
    intro hi
    by_cases hij : j = i
    · exact hij ▸ List.mem_cons_self
    · rw [if_neg hij] at hi
      exact List.mem_cons_of_mem j (ih hi)

/-- **The checkpoint of any moment gives back the bindings of that moment, all of them and their trail**, whatever has
been done before, and after without going back any further.  All the time the trail lists the bound slots, each of them
once, and no others. -/
theorem rewind_run (before after : List Deed) :
    let b := (run before (empty, [])).1
    let c := (run after (b, [])).1
    c.rewind b.checkpoint = b ∧ c.trail.items.Nodup ∧ ∀ i, i ∈ c.trail.items ↔ c.lookup? i ≠ none := by
  intro b c
  have hb : b.Sound := extends_run (b := empty) .refl before
  have hc : Extends b c := extends_run hb after
  have hsound : c.Sound := Extends.trans hb hc
  exact ⟨hc.rewind_eq, hsound.trail_nodup.1, hsound.mem_trail_iff⟩

end Bindings

end Remedy
