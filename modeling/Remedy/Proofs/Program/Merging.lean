import Remedy.Proofs.Program.Rules
/-!
# Proofs.Program.Merging — constraints that are put together

A declaration names its arguments by texts, so of two of its keys that ask for the same argument there is only one
(`agrees_iff`).  Putting such contracts together fails just if they say different things of an argument
(`exists_mergeAll_iff`), and otherwise gives what is in one or the other, each once (`Regular.mergeAll`).  So the
contract of a declaration is what its arguments say, one by one, and so is what is gathered from several declarations
(`Gathers`), in whatever order they come.
-/
namespace Remedy

/-! ## Keys -/

/-- **A key as a text spells it**: a name is no number. -/
def ArgKey.Normal : ArgKey → Prop
  | .position _ => True
  | .name s => Decimal.unsigned? s.toList = none

namespace ArgKey

variable {k k' : ArgKey}

theorem normal_parse (s : String) : (parse s).Normal := by
  unfold parse
  split
  · trivial
  · assumption

theorem agrees_iff (hk : k.Normal) (hk' : k'.Normal) : k.agrees k' = true ↔ k = k' := by
  cases k with
  | position n =>
    cases k' with
    | position n' => rw [agrees, beq_iff_eq, position.injEq]
    | name s =>
      have hs : Decimal.unsigned? s.toList = none := hk'
      rw [agrees, hs]
      exact iff_of_false Bool.false_ne_true ArgKey.noConfusion
  | name s =>
    cases k' with
    | position n =>
      have hs : Decimal.unsigned? s.toList = none := hk
      rw [agrees, hs]
      exact iff_of_false Bool.false_ne_true ArgKey.noConfusion
    | name s' => rw [agrees, beq_iff_eq, name.injEq]

end ArgKey

namespace Contract

variable {c c' d : Contract} {k : ArgKey} {v w : Constraint} {e : ArgKey × Constraint}

/-! ## One more constraint -/

/-- **A contract as declarations make it**: every argument has one key, and no key stands there twice. -/
structure Regular (c : Contract) : Prop where
  nodup : (c.map (·.1)).Nodup
  normal : ∀ e ∈ c, e.1.Normal

theorem regular_nil : Regular [] := ⟨List.nodup_nil, List.forall_mem_nil _⟩

theorem Regular.tail (h : Regular (e :: c)) : Regular c :=
  ⟨(List.nodup_cons.1 h.nodup).2, (List.forall_mem_cons.1 h.normal).2⟩

theorem Regular.nodup_entries (h : Regular c) : List.Nodup c :=
  List.Pairwise.of_map (·.1) (fun _ _ hne heq => hne (congrArg Prod.fst heq)) h.nodup

theorem constraint?_append (c d : Contract) (k : ArgKey) :
    constraint? (c ++ d) k = (c.constraint? k).or (d.constraint? k) := by
  unfold constraint?
  rw [List.find?_append]
  cases c.find? fun e => e.1.agrees k <;> rfl

theorem constraint?_singleton (hk : k.Normal) (he : e.1.Normal) :
    constraint? [e] k = if e.1 = k then some e.2 else none := by
  unfold constraint?
  rw [List.find?_singleton]
  simp only [ArgKey.agrees_iff he hk]
  split <;> rfl

/-- **What a contract asks under a key** is what it lists under it. -/
theorem Regular.constraint?_eq_some (hk : k.Normal) : ∀ {c : Contract}, Regular c →
    (c.constraint? k = some v ↔ (k, v) ∈ c)
  | [], _ => iff_of_false (fun h => nomatch h) List.not_mem_nil
  | e :: c, h => by
    have hrest := Regular.constraint?_eq_some hk h.tail
    have hnot : e.1 ∉ c.map (·.1) := (List.nodup_cons.1 h.nodup).1
    rw [← List.singleton_append, constraint?_append, constraint?_singleton hk (h.normal e List.mem_cons_self),
      List.singleton_append, List.mem_cons]
    by_cases he : e.1 = k
    · rw [if_pos he, Option.some_or, Option.some.injEq]
      refine ⟨fun hv => .inl (Prod.ext he.symm hv.symm), ?_⟩
      rintro (rfl | hmem)
      · rfl
      · exact absurd (List.mem_map_of_mem hmem) (he ▸ hnot)
    · rw [if_neg he, Option.none_or, hrest]
      refine ⟨.inr, ?_⟩
      rintro (rfl | hmem)
      · exact absurd rfl he
      · exact hmem

theorem merge_eq_ok : c.merge k v = .ok c' ↔
    (∀ w, c.constraint? k = some w → w = v) ∧ c' = if (c.constraint? k).isSome then c else c ++ [(k, v)] := by
  unfold merge
  cases h : c.constraint? k with
  | none =>
    simp only [Except.ok.injEq]
    exact ⟨fun hc => ⟨fun _ hw => (nomatch hw), hc.symm⟩, fun ⟨_, hc⟩ => hc.symm⟩
  | some w =>
    simp only
    split
    · rename_i hw
      rw [Except.ok.injEq]
      exact ⟨fun hc => ⟨fun _ hw' => by cases hw'; exact hw, hc.symm⟩, fun ⟨_, hc⟩ => hc.symm⟩
    · rename_i hw
      exact ⟨fun hc => (nomatch hc), fun ⟨hall, _⟩ => absurd (hall w rfl) hw⟩

theorem Regular.merge (hc : c.Regular) (hk : k.Normal) (h : c.merge k v = .ok c') :
    c'.Regular ∧ ∀ e, e ∈ c' ↔ e ∈ c ∨ e = (k, v) := by
  obtain ⟨hagree, rfl⟩ := merge_eq_ok.1 h
  split
  · rename_i hsome
    obtain ⟨w, hw⟩ := Option.isSome_iff_exists.1 hsome
    obtain rfl := hagree w hw
    exact ⟨hc, fun e => ⟨.inl, fun he => he.elim id fun he => he ▸ (hc.constraint?_eq_some hk).1 hw⟩⟩
  · rename_i hnone
    rw [Option.not_isSome_iff_eq_none] at hnone
    refine ⟨⟨?_, List.forall_mem_append.2 ⟨hc.normal, List.forall_mem_singleton.2 hk⟩⟩, fun e => ?_⟩
    · rw [List.map_append, List.nodup_append]
      refine ⟨hc.nodup, List.pairwise_singleton _ _, fun k₁ hk₁ k₂ hk₂ heq => ?_⟩
      obtain ⟨⟨k', w⟩, hmem, rfl⟩ := List.mem_map.1 hk₁
      have hkey : k' = k := heq.trans (List.mem_singleton.1 hk₂)
      subst hkey
      rw [(hc.constraint?_eq_some hk).2 hmem] at hnone
      cases hnone
    · rw [List.mem_append, List.mem_singleton]

/-! ## Whole contracts -/

/-- **Contracts can be put together** just if they do not say different things of an argument. -/
theorem exists_mergeAll_iff : ∀ {d : Contract}, Regular d → ∀ {c : Contract},
    (∃ c', c.mergeAll d = .ok c') ↔ ∀ k v w, (k, v) ∈ d → c.constraint? k = some w → w = v
  | [], _, c => iff_of_true ⟨c, rfl⟩ fun _ _ _ h => nomatch h
  | (k, v) :: d, hd, c => by
    have hk : k.Normal := hd.normal (k, v) List.mem_cons_self
    have hnot : k ∉ d.map (·.1) := (List.nodup_cons.1 hd.nodup).1
    rw [mergeAll]
    cases hm : c.merge k v with
    | error cause =>
      refine iff_of_false (fun ⟨_, h⟩ => (nomatch h)) fun hall => ?_
      have hok := merge_eq_ok.2 ⟨fun w hw => hall k v w List.mem_cons_self hw, rfl⟩
      rw [hm] at hok
      cases hok
    | ok c₁ =>
      obtain ⟨hagree, rfl⟩ := merge_eq_ok.1 hm
      refine (exists_mergeAll_iff hd.tail).trans ?_
      -- the other keys of the declaration are different ones
      have hsame : ∀ k' v', (k', v') ∈ d →
          constraint? (if (c.constraint? k).isSome then c else c ++ [(k, v)]) k' = c.constraint? k' := by
        intro k' v' hmem
        split
        · rfl
        · have hne : k ≠ k' := by
            rintro rfl
            exact hnot (List.mem_map_of_mem hmem)
          rw [constraint?_append, constraint?_singleton (hd.normal _ (List.mem_cons_of_mem _ hmem)) hk, if_neg hne,
            Option.or_none]
      constructor
      · intro h k' v' w hmem hw
        rcases List.mem_cons.1 hmem with heq | hmem
        · cases heq
          exact hagree w hw
        · exact h k' v' w hmem ((hsame k' v' hmem).trans hw)
      · intro h k' v' w hmem hw
        exact h k' v' w (List.mem_cons_of_mem _ hmem) ((hsame k' v' hmem).symm.trans hw)

/-- **What has been put together** is what one or the other asks. -/
theorem Regular.mergeAll : ∀ {d : Contract}, (∀ e ∈ d, e.1.Normal) → ∀ {c c' : Contract}, Regular c →
    c.mergeAll d = .ok c' → c'.Regular ∧ ∀ e, e ∈ c' ↔ e ∈ c ∨ e ∈ d
  | [], _, c, c', hc, h => by
    cases h
    exact ⟨hc, fun e => by simp⟩
  | (k, v) :: d, hd, c, c', hc, h => by
    obtain ⟨hk, hd⟩ := List.forall_mem_cons.1 hd
    rw [Contract.mergeAll] at h
    split at h
    · rename_i c₁ hm
      obtain ⟨hc₁, hmem₁⟩ := hc.merge hk hm
      obtain ⟨hc', hmem'⟩ := Regular.mergeAll hd hc₁ h
      refine ⟨hc', fun e => ?_⟩
      rw [hmem', hmem₁, List.mem_cons, or_assoc]
    · cases h

end Contract

/-! ## What the arguments of a declaration say -/

def Arg.visibility? (a : Arg Term) : Option Bool :=
  if a.name.isSome then none
  else (a.value.asConst?.bind Value.asString?).bind fun word =>
    if Text.asciiLower word = "public" then some true
    else if Text.asciiLower word = "private" then some false
    else none

def Arg.constraint? (a : Arg Term) : Option (ArgKey × Constraint) :=
  a.name.bind fun name => ((a.value.asConst?.bind Value.asString?).bind Constraint.ofName?).map (.parse name, ·)

namespace Declaration

variable {d d' : Declaration} {target : String} {a : Arg Term}

theorem see_eq_ok {b : Bool} :
    d.see target b = .ok d' ↔ d.visibility ≠ some (!b) ∧ d' = { d with visibility := some b } := by
  unfold see
  split
  · rename_i h
    exact iff_of_false (fun h => nomatch h) fun ⟨hne, _⟩ => hne h
  · rename_i h
    rw [Except.ok.injEq, eq_comm]
    exact (and_iff_right h).symm

/-- **What one argument adds to a declaration.** -/
theorem take_eq_ok (h : d.take target a = .ok d') :
    (d'.visibility = a.visibility?.or d.visibility ∧ ∀ b, a.visibility? = some b → d.visibility ≠ some (!b)) ∧
      match a.constraint? with
      | none => d'.contract = d.contract
      | some (k, v) => k.Normal ∧ d.contract.merge k v = .ok d'.contract := by
  unfold take at h
  unfold Arg.visibility? Arg.constraint?
  split at h
  · cases h
  · rename_i word hword
    simp only [hword, Option.bind_some]
    cases hname : a.name with
    | none =>
      simp only [hname] at h
      simp only [Option.isSome_none, Bool.false_eq_true, if_false, Option.bind_none]
      split at h
      · rename_i hdynamic
        cases h
        rw [hdynamic]
        exact ⟨⟨rfl, fun _ hb => (nomatch hb)⟩, rfl⟩
      · split at h
        · rename_i hpublic
          obtain ⟨hne, rfl⟩ := see_eq_ok.1 h
          rw [if_pos hpublic]
          exact ⟨⟨rfl, fun _ hb => by cases hb; exact hne⟩, rfl⟩
        · rename_i hpublic
          rw [if_neg hpublic]
          split at h
          · rename_i hprivate
            obtain ⟨hne, rfl⟩ := see_eq_ok.1 h
            rw [if_pos hprivate]
            exact ⟨⟨rfl, fun _ hb => by cases hb; exact hne⟩, rfl⟩
          · cases h
    | some name =>
      simp only [hname] at h
      simp only [Option.isSome_some, if_true, Option.bind_some]
      split at h
      · cases h
      · rename_i constraint hconstraint
        obtain ⟨c, hc, rfl⟩ := map_eq_ok h
        rw [hconstraint]
        exact ⟨⟨rfl, fun _ hb => (nomatch hb)⟩, ArgKey.normal_parse name, hc⟩

/-- **What the arguments of a declaration come to**: the visibility is the one that any of them says, and the contract
lists what they ask. -/
theorem takeAll_eq_ok : ∀ {args : List (Arg Term)} {d d' : Declaration}, d.contract.Regular →
    d.takeAll target args = .ok d' →
      (∀ b, d'.visibility = some b ↔ d.visibility = some b ∨ ∃ a ∈ args, a.visibility? = some b) ∧
        d'.contract.Regular ∧ ∀ e, e ∈ d'.contract ↔ e ∈ d.contract ∨ ∃ a ∈ args, a.constraint? = some e
  | [], d, d', hd, h => by
    cases h
    exact ⟨fun b => by simp, hd, fun e => by simp⟩
  | a :: args, d, d', hd, h => by
    rw [takeAll] at h
    split at h
    · rename_i d₁ htake
      obtain ⟨⟨hvisible, hne⟩, hcontract⟩ := take_eq_ok htake
      have hfirst : d₁.contract.Regular ∧ ∀ e, e ∈ d₁.contract ↔ e ∈ d.contract ∨ a.constraint? = some e := by
        split at hcontract
        · rename_i hnone
          rw [hcontract, hnone]
          exact ⟨hd, fun e => by simp⟩
        · rename_i k v hsome
          obtain ⟨hregular, hmem⟩ := hd.merge hcontract.1 hcontract.2
          rw [hsome]
          exact ⟨hregular, fun e => by rw [hmem, Option.some.injEq, eq_comm (a := e)]⟩
      obtain ⟨hv, hregular, hmem⟩ := takeAll_eq_ok hfirst.1 h
      refine ⟨fun b => ?_, hregular, fun e => ?_⟩
      · simp only [List.mem_cons, exists_eq_or_imp]
        rw [hv, hvisible, ← or_assoc]
        refine or_congr_left ?_
        cases ha : a.visibility? with
        | none => simp
        | some b' =>
          have hne := hne b' ha
          rw [Option.some_or, Option.some.injEq]
          refine ⟨.inr, fun h => h.elim (fun hd => ?_) id⟩
          rw [hd] at hne
          cases b <;> cases b' <;> first | rfl | exact absurd rfl hne
      · simp only [List.mem_cons, exists_eq_or_imp]
        rw [hmem, hfirst.2, or_assoc]
    · cases h

end Declaration

/-! ## Several declarations -/

/-- **Declarations do not say different things of an argument.** -/
def Compatible (ds : List Declaration) : Prop :=
  ∀ d ∈ ds, ∀ d' ∈ ds, ∀ k v w, (k, v) ∈ d.contract → (k, w) ∈ d'.contract → v = w

theorem Compatible.of_subset {ds ds' : List Declaration} (h : Compatible ds) (hs : ds' ⊆ ds) : Compatible ds' :=
  fun d hd d' hd' => h d (hs hd) d' (hs hd')

/-- **A contract gathers what declarations ask**, each constraint once. -/
structure Contract.Gathers (c : Contract) (ds : List Declaration) : Prop where
  regular : c.Regular
  mem : ∀ e, e ∈ c ↔ ∃ d ∈ ds, e ∈ d.contract

namespace Contract

variable {c c' : Contract} {ds ds' : List Declaration} {d : Declaration}

theorem gathers_nil : Gathers [] [] := ⟨regular_nil, fun e => by simp⟩

/-- **What has been gathered does not depend on the order.** -/
theorem Gathers.perm (h : c.Gathers ds) (h' : c'.Gathers ds') (hds : ds.Perm ds') : c.Perm c' := by
  refine (List.perm_ext_iff_of_nodup h.regular.nodup_entries h'.regular.nodup_entries).2 fun e => ?_
  rw [h.mem, h'.mem]
  exact exists_congr fun d => and_congr_left' hds.mem_iff

theorem Gathers.exists_mergeAll_iff (h : c.Gathers ds) (hds : Compatible ds) (hd : d.contract.Regular) :
    (∃ c', c.mergeAll d.contract = .ok c') ↔ Compatible (ds ++ [d]) := by
  rw [Contract.exists_mergeAll_iff hd]
  have hsame : ∀ k v w, (k, v) ∈ d.contract → (k, w) ∈ d.contract → v = w := by
    intro k v w hv hw
    have hk := hd.normal _ hv
    exact Option.some.inj (((hd.constraint?_eq_some hk).2 hv).symm.trans ((hd.constraint?_eq_some hk).2 hw))
  constructor
  · intro hmerge
    -- what is new agrees with what was there
    have hnew : ∀ d' ∈ ds, ∀ k v w, (k, v) ∈ d.contract → (k, w) ∈ d'.contract → w = v := fun d' hd' k v w hv hw =>
      hmerge k v w hv ((h.regular.constraint?_eq_some (hd.normal _ hv)).2 ((h.mem _).2 ⟨d', hd', hw⟩))
    intro d₁ h₁ d₂ h₂ k v w hv hw
    rcases List.mem_append.1 h₁ with hold₁ | hlast₁ <;> rcases List.mem_append.1 h₂ with hold₂ | hlast₂
    · exact hds d₁ hold₁ d₂ hold₂ k v w hv hw
    · obtain rfl := List.mem_singleton.1 hlast₂
      exact hnew d₁ hold₁ k w v hw hv
    · obtain rfl := List.mem_singleton.1 hlast₁
      exact (hnew d₂ hold₂ k v w hv hw).symm
    · obtain rfl := List.mem_singleton.1 hlast₁
      obtain rfl := List.mem_singleton.1 hlast₂
      exact hsame k v w hv hw
  · intro hall k v w hv hw
    obtain ⟨d', hd', hmem⟩ := (h.mem _).1 ((h.regular.constraint?_eq_some (hd.normal _ hv)).1 hw)
    exact hall d' (List.mem_append_left _ hd') d (List.mem_append_right _ List.mem_cons_self) k w v hmem hv

theorem Gathers.mergeAll (h : c.Gathers ds) (hd : d.contract.Regular) (hc : c.mergeAll d.contract = .ok c') :
    c'.Gathers (ds ++ [d]) := by
  obtain ⟨hregular, hmem⟩ := h.regular.mergeAll hd.normal hc
  refine ⟨hregular, fun e => ?_⟩
  simp only [hmem, h.mem, List.mem_append, List.mem_singleton, or_and_right, exists_or, exists_eq_left]

end Contract

end Remedy
