import Remedy.Program.Compile
import Remedy.Proofs.Term.Variables
/-!
# Proofs.Program.Reading — the variables of a rule, as it is read from the left

While a rule is read its table of variables only grows at its end, every variable that is read has its name at its slot,
and an anonymous variable has a slot that was not there before (`Reads`).  So of a rule that has been read, a slot has
one name, and the slot of an anonymous variable stands in no term but one (`Rule.read_parse`).
-/
namespace Remedy

/-- The variables of the terms of a goal; those that only an expression mentions are not among them. -/
def Goal.mentions {γ : Type} : Goal γ → List (String × Nat)
  | .call _ c => c.mentions
  | .cut => []
  | .unify a b => a.mentions ++ b.mentions
  | .is t _ => t.mentions
  | .test _ => []
  | .not g => g.mentions

/-- **Variables have been read**: the table has grown at its end, the variables have their names in it, and the slots
of anonymous ones are new. -/
structure Reads (vars vars' : VarTable) (vs : List (String × Nat)) : Prop where
  grows : vars.names <+: vars'.names
  named : ∀ v ∈ vs, vars'.names[v.2]? = some v.1
  new : ∀ v ∈ vs, v.1 = "_" → vars.size ≤ v.2

def ReadsAll {γ : Type} (vars : VarTable) : List (Goal γ) → VarTable → Prop
  | [], vars' => vars = vars'
  | g :: rest, vars' => ∃ vars₁, Reads vars vars₁ g.mentions ∧ ReadsAll vars₁ rest vars'

/-- **The rule has been read from the left.** -/
def Clause.Read {γ : Type} (c : Clause γ) : Prop :=
  ∃ vars, Reads .empty vars c.head.mentions ∧ ReadsAll vars c.body c.vars

/-! ## The table grows -/

namespace VarTable

variable {t t' : VarTable}

theorem name_of_grows (h : t.names <+: t'.names) {i : Nat} {name : String} (hi : t.names[i]? = some name) :
    t'.names[i]? = some name := by
  obtain ⟨more, hm⟩ := h
  obtain ⟨hlt, -⟩ := List.getElem?_eq_some_iff.1 hi
  rw [← hm, List.getElem?_append_left hlt, hi]

theorem lt_of_name {i : Nat} {name : String} (hi : t.names[i]? = some name) : i < t.size :=
  (List.getElem?_eq_some_iff.1 hi).1

theorem name_of_slot? {name : String} {i : Nat} (h : t.slot? name = some i) :
    t.names[i]? = some name ∧ name ≠ "_" := by
  unfold slot? at h
  split at h
  · cases h
  · rename_i hname
    obtain ⟨hlt, hi⟩ := List.findIdx?_eq_some_iff_findIdx_eq.1 h
    subst hi
    have hfound := List.findIdx_getElem (w := hlt)
    rw [List.getElem?_eq_getElem hlt, eq_of_beq hfound]
    exact ⟨rfl, hname⟩

theorem reads_slot (t : VarTable) (name : String) : Reads t (t.slot name).2 [(name, (t.slot name).1)] := by
  unfold slot
  split
  · rename_i i h
    obtain ⟨hi, hname⟩ := name_of_slot? h
    exact ⟨List.prefix_rfl, List.forall_mem_singleton.2 hi, List.forall_mem_singleton.2 fun h => absurd h hname⟩
  · refine ⟨List.prefix_append _ _, List.forall_mem_singleton.2 ?_, List.forall_mem_singleton.2 fun _ => Nat.le_refl _⟩
    exact List.getElem?_concat_length

theorem grows_addAll : ∀ (names : List String) (t : VarTable), t.names <+: (t.addAll names).names
  | [], _ => List.prefix_rfl
  | name :: rest, t => (reads_slot t name).grows.trans (grows_addAll rest _)

end VarTable

variable {vars vars' : VarTable} {vs ws : List (String × Nat)}

theorem reads_nil (h : vars.names <+: vars'.names) : Reads vars vars' [] :=
  ⟨h, (fun _ hv => nomatch hv), fun _ hv => nomatch hv⟩

theorem Reads.refl (vars : VarTable) : Reads vars vars [] := reads_nil List.prefix_rfl

theorem Reads.trans {a b c : VarTable} (h : Reads a b vs) (h' : Reads b c ws) : Reads a c (vs ++ ws) := by
  refine ⟨h.grows.trans h'.grows, fun v hv => ?_, fun v hv hname => ?_⟩
  · rcases List.mem_append.1 hv with hv | hv
    · exact VarTable.name_of_grows h'.grows (h.named v hv)
    · exact h'.named v hv
  · rcases List.mem_append.1 hv with hv | hv
    · exact h.new v hv hname
    · exact Nat.le_trans h.grows.length_le (h'.new v hv hname)

theorem Reads.of_subset (h : Reads vars vars' vs) (hs : ∀ v ∈ ws, v ∈ vs) : Reads vars vars' ws :=
  ⟨h.grows, fun v hv => h.named v (hs v hv), fun v hv => h.new v (hs v hv)⟩

theorem ReadsAll.grows {γ : Type} : ∀ {gs : List (Goal γ)} {vars vars' : VarTable},
    ReadsAll vars gs vars' → vars.names <+: vars'.names
  | [], _, _, h => by
    cases h
    exact List.prefix_rfl
  | _ :: _, _, _, ⟨_, hg, hrest⟩ => hg.grows.trans hrest.grows

/-! ## Terms -/

namespace Term

theorem mentions_list (tail : Term) : ∀ items : List Term,
    (list items tail).mentions = items.flatMap mentions ++ tail.mentions
  | [] => rfl
  | t :: rest => by
    have hcell : (list (t :: rest) tail).mentions = t.mentions ++ ((list rest tail).mentions ++ []) := rfl
    rw [hcell, mentions_list tail rest, List.append_nil, List.flatMap_cons, List.append_assoc]

theorem mem_of_reverse {args : List (Arg Term)} {v : String × Nat} (h : v ∈ mentionsOf args.reverse) :
    v ∈ mentionsOf args := by
  obtain ⟨a, ha, hv⟩ := mem_mentionsOf.1 h
  exact mem_mentionsOf.2 ⟨a, List.mem_reverse.1 ha, hv⟩

theorem mem_of_list_reverse {items : List Term} {tail : Term} {v : String × Nat}
    (h : v ∈ (list items.reverse tail).mentions) : v ∈ items.flatMap mentions ++ tail.mentions := by
  rw [mentions_list] at h
  refine List.mem_append.2 ((List.mem_append.1 h).imp_left fun h => ?_)
  obtain ⟨t, ht, hv⟩ := List.mem_flatMap.1 h
  exact List.mem_flatMap.2 ⟨t, List.mem_reverse.1 ht, hv⟩

theorem reads_appear {vars vars' : VarTable} {name : String} {cs rest : List Char} {t : Term}
    (h : appear vars name cs = (t, vars', rest)) : Reads vars vars' t.mentions := by
  cases h
  exact VarTable.reads_slot vars name

theorem reads_templateTerm {vars vars' : VarTable} {cs rest : List Char} {t : Term}
    (h : templateTerm vars cs = .ok (t, vars', rest)) : Reads vars vars' t.mentions := by
  unfold templateTerm at h
  split at h
  · cases h
  · split at h
    · cases h
    · rename_i x _
      cases h
      split <;> exact reads_nil (VarTable.grows_addAll _ _)

theorem mentions_of_number {cs rest : List Char} {t : Term} (h : number cs = .ok (t, rest)) : t.mentions = [] := by
  unfold number at h
  simp only at h
  split at h
  all_goals cases h
  rfl

/-- What the readers with so much fuel read.  Some of them go on with what has been read from an earlier table. -/
structure Readers (fuel : Nat) : Prop where
  read : ∀ {vars vars' : VarTable} {cs rest : List Char} {t : Term},
    Term.read fuel vars cs = .ok (t, vars', rest) → Reads vars vars' t.mentions
  readArgs : ∀ {vars vars' : VarTable} {cs rest : List Char} {args : List (Arg Term)},
    Term.readArgs fuel vars cs = .ok (args, vars', rest) → Reads vars vars' (mentionsOf args)
  readArgList : ∀ {vars₀ vars vars' : VarTable} {done args : List (Arg Term)} {cs rest : List Char},
    Reads vars₀ vars (mentionsOf done) → Term.readArgList fuel vars done cs = .ok (args, vars', rest) →
      Reads vars₀ vars' (mentionsOf args)
  readItems : ∀ {vars₀ vars vars' : VarTable} {done : List Term} {cs rest : List Char} {t : Term},
    Reads vars₀ vars (done.flatMap mentions) → Term.readItems fuel vars done cs = .ok (t, vars', rest) →
      Reads vars₀ vars' t.mentions

variable {fuel : Nat} {vars₀ vars vars' : VarTable} {cs rest : List Char} {t : Term} {args : List (Arg Term)}

theorem reads_read (ih : Readers fuel) (h : read (fuel + 1) vars cs = .ok (t, vars', rest)) :
    Reads vars vars' t.mentions := by
  unfold read at h
  split at h
  · cases h
  · simp only at h
    split at h
    · split at h
      · cases h
      · exact reads_appear (Except.ok.inj h)
    · split at h
      · exact reads_appear (Except.ok.inj h)
      · split at h
        · split at h
          · cases h
            exact .refl _
          · cases h
        · split at h
          · split at h
            · cases h
              exact .refl _
            · exact ih.readItems (.refl _) h
          · split at h
            · exact reads_templateTerm h
            · split at h
              · split at h
                · rename_i hn
                  cases h
                  rw [mentions_of_number hn]
                  exact .refl _
                · cases h
              · split at h
                · split at h
                  · split at h
                    · rename_i ha
                      cases h
                      exact ih.readArgs ha
                    · cases h
                  · cases h
                    exact .refl _
                · cases h

theorem reads_readArgs (ih : Readers fuel) (h : readArgs (fuel + 1) vars cs = .ok (args, vars', rest)) :
    Reads vars vars' (mentionsOf args) := by
  unfold readArgs at h
  split at h
  · cases h
    exact .refl _
  · exact ih.readArgList (.refl _) h

theorem reads_readArgList (ih : Readers fuel) {done : List (Arg Term)} (hd : Reads vars₀ vars (mentionsOf done))
    (h : readArgList (fuel + 1) vars done cs = .ok (args, vars', rest)) : Reads vars₀ vars' (mentionsOf args) := by
  unfold readArgList at h
  simp only at h
  split at h
  · cases h
  · rename_i u vars₁ rest₁ hr
    have hd₁ : ∀ name, Reads vars₀ vars₁ (mentionsOf (⟨name, u⟩ :: done)) := fun name =>
      (hd.trans (ih.read hr)).of_subset fun v hv => List.mem_append.2 (List.mem_append.1 hv).symm
    split at h
    · exact ih.readArgList (hd₁ _) h
    · cases h
      exact (hd₁ _).of_subset fun v hv => mem_of_reverse hv
    · cases h
    · cases h

theorem reads_readItems (ih : Readers fuel) {done : List Term} (hd : Reads vars₀ vars (done.flatMap mentions))
    (h : readItems (fuel + 1) vars done cs = .ok (t, vars', rest)) : Reads vars₀ vars' t.mentions := by
  unfold readItems at h
  split at h
  · cases h
  · rename_i u vars₁ rest₁ hr
    have hd₁ : Reads vars₀ vars₁ ((u :: done).flatMap mentions) :=
      (hd.trans (ih.read hr)).of_subset fun v hv => List.mem_append.2 (List.mem_append.1 hv).symm
    split at h
    · exact ih.readItems hd₁ h
    · cases h
      refine hd₁.of_subset fun v hv => ?_
      exact (List.mem_append.1 (mem_of_list_reverse hv)).elim id fun h => absurd h List.not_mem_nil
    · split at h
      · cases h
      · rename_i tail vars₂ rest₂ ht
        split at h
        · cases h
          exact (hd₁.trans (ih.read ht)).of_subset fun v hv => mem_of_list_reverse hv
        · cases h
    · cases h

/-- **Whatever is read, its variables have their names in the table**, by induction on the fuel. -/
theorem readers : ∀ fuel, Readers fuel
  | 0 => by
    refine ⟨?_, ?_, ?_, ?_⟩
    · intro _ _ _ _ _ h
      cases h
    · intro _ _ _ _ _ h
      cases h
    · intro _ _ _ _ _ _ _ _ h
      cases h
    · intro _ _ _ _ _ _ _ _ h
      cases h
  | fuel + 1 =>
    have ih := readers fuel
    ⟨reads_read ih, reads_readArgs ih, reads_readArgList ih, reads_readItems ih⟩

theorem reads_parseChars (h : parseChars vars cs = .ok (t, vars')) : Reads vars vars' t.mentions := by
  unfold parseChars readAll at h
  rcases hr : read (3 * cs.length + 4) vars cs with stop | ⟨u, vars₁, rest₁⟩
  · rw [hr] at h
    cases h
  · rw [hr] at h
    simp only at h
    split at h
    · cases h
    · rename_i hs
      split at hs
      · cases hs
        cases h
        exact (readers _).read hr
      · cases hs

end Term

/-! ## Rules -/

namespace Rule

variable {vars vars' : VarTable} {cs : List Char}

theorem mentions_of_callOf? {t : Term} {c : Call} (h : callOf? t = some c) : ∀ v ∈ c.mentions, v ∈ t.mentions := by
  unfold callOf? at h
  split at h
  · cases h
    exact fun _ hv => hv
  · cases h
    exact fun _ hv => nomatch hv
  · cases h
    exact fun _ hv => nomatch hv
  · cases h
    exact fun _ hv => nomatch hv
  · cases h

theorem reads_call {c : Call} (h : call vars cs = .ok (c, vars')) : Reads vars vars' c.mentions := by
  unfold call at h
  split at h
  · cases h
  · rename_i t vars₁ ht
    split at h
    · rename_i c' hc
      cases h
      exact (Term.reads_parseChars ht).of_subset (mentions_of_callOf? hc)
    · cases h

theorem reads_head {c : Call} (h : head vars cs = .ok (c, vars')) : Reads vars vars' c.mentions := by
  unfold head at h
  split at h
  · cases h
  · rename_i c' vars₁ hc
    split at h
    · cases h
    · cases h
      exact reads_call hc

theorem reads_expression {x : Expr} (h : expression vars cs = .ok (x, vars')) : Reads vars vars' [] := by
  unfold expression at h
  split at h
  · cases h
  · cases h
    exact reads_nil (VarTable.grows_addAll _ _)

theorem reads_plainGoal {g : Goal Unit} (h : plainGoal vars cs = .ok (g, vars')) : Reads vars vars' g.mentions := by
  unfold plainGoal at h
  simp only at h
  split at h
  · split at h
    · cases h
    · rename_i i _ _ t vars₁ ht
      obtain ⟨⟨x, vars₂⟩, hx, heq⟩ := map_eq_ok h
      cases heq
      exact ((Term.reads_parseChars ht).trans (reads_expression hx)).of_subset fun v hv => List.mem_append_left _ hv
  · split at h
    · split at h
      · cases h
      · rename_i i _ _ t vars₁ ht
        obtain ⟨⟨u, vars₂⟩, hu, heq⟩ := map_eq_ok h
        cases heq
        exact (Term.reads_parseChars ht).trans (Term.reads_parseChars hu)
    · split at h
      · obtain ⟨⟨x, vars₁⟩, hx, heq⟩ := map_eq_ok h
        cases heq
        exact reads_expression hx
      · obtain ⟨⟨c, vars₁⟩, hc, heq⟩ := map_eq_ok h
        cases heq
        exact reads_call hc

theorem reads_goalIn : ∀ {fuel : Nat} {vars vars' : VarTable} {cs : List Char} {g : Goal Unit},
    goalIn fuel vars cs = .ok (g, vars') → Reads vars vars' g.mentions
  | 0, _, _, _, _, h => nomatch h
  | fuel + 1, vars, vars', cs, g, h => by
    unfold goalIn at h
    simp only at h
    split at h
    · cases h
    · split at h
      · cases h
        exact .refl _
      · split at h
        · obtain ⟨⟨g', vars₁⟩, hg, heq⟩ := map_eq_ok h
          cases heq
          have hin := reads_goalIn hg
          exact hin
        · exact reads_plainGoal h

theorem readsAll_goals : ∀ {texts : List (List Char)} {vars vars' : VarTable} {gs : List (Goal Unit)},
    goals vars texts = .ok (gs, vars') → ReadsAll vars gs vars'
  | [], _, _, _, h => by
    cases h
    rfl
  | cs :: rest, vars, vars', gs, h => by
    unfold goals at h
    split at h
    · cases h
    · rename_i g vars₁ hg
      obtain ⟨⟨gs', vars₂⟩, hr, heq⟩ := map_eq_ok h
      cases heq
      exact ⟨vars₁, reads_goalIn hg, readsAll_goals hr⟩

/-- **A rule is read from the left**, its head before its goals. -/
theorem read_parse {r : RuleText} {c : Clause Unit} (h : Rule.parse r = .ok c) : c.Read := by
  unfold Rule.parse headAndBody at h
  split at h
  · rename_i hd gs vars hb
    cases h
    split at hb
    · obtain ⟨⟨hd', vars'⟩, hh, heq⟩ := map_eq_ok hb
      cases heq
      exact ⟨vars, reads_head hh, rfl⟩
    · split at hb
      · cases hb
      · rename_i i _ _ hd' vars₁ hh
        obtain ⟨⟨gs', vars₂⟩, hg, heq⟩ := map_eq_ok hb
        cases heq
        unfold body at hg
        split at hg
        · cases hg
        · exact ⟨vars₁, reads_head hh, readsAll_goals hg⟩
  · cases h

end Rule

end Remedy
