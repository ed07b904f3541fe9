import Mathlib.Data.List.Nodup
import Remedy.Proofs.Program.Rules
import Remedy.Proofs.Text.Bytes
/-!
# Proofs.Program.Imprint — what is said of predicates can be told from the imprint

The imprint says of each predicate, after its name, an outline: its kind, its visibility, its numbers of arguments and
the texts of its clauses (`imprint_outline`).  All this follows one another without lengths, and the numbers of
arguments are there only if there are clauses.  Still it can be told apart (`imprints_eq`), if names and texts have
none of the three bytes that are marks.  A name ends at the first zero or one.  So what comes before the next end of a
line is the text of a clause if it has neither of them (`lines_eq`).  The numbers of arguments cannot be taken for a
name and what follows it, because most of their bytes are zeros (`imprints_ne_arity`).

Predicates are sorted by their names.  Sorting keeps what there is (`perm_sortByName`) and puts it in order
(`sorted_sortByName`).  So two lists in which every name stands once are the same when sorted just if the same stands
under every name (`sortByName_eq_iff`).
-/
namespace Remedy

/-! ## What stands under which name -/

section Sorting

variable {α β : Type} (name : α → String)

theorem perm_insertByName (a : α) : ∀ l : List α, (insertByName name a l).Perm (a :: l)
  | [] => .refl _
  | b :: rest => by
    unfold insertByName
    split
    · exact .refl _
    · exact ((perm_insertByName a rest).cons b).trans (.swap a b rest)

theorem foldl_insertByName (l : List α) : ∀ done : List α,
    (l.foldl (fun done a => insertByName name a done) done).Perm (l.reverse ++ done) := by
  induction l with
  | nil => exact fun _ => .refl _
  | cons a l ih =>
    intro done
    rw [List.foldl_cons, List.reverse_cons, List.append_assoc, List.singleton_append]
    exact (ih _).trans ((perm_insertByName name a done).append_left _)

theorem perm_sortByName (l : List α) : (sortByName name l).Perm l := by
  have h := foldl_insertByName name l []
  rw [List.append_nil] at h
  exact h.trans (List.reverse_perm l)

theorem sorted_insertByName (a : α) : ∀ {l : List α}, l.Pairwise (fun x y => name x ≤ name y) →
    (insertByName name a l).Pairwise fun x y => name x ≤ name y
  | [], _ => List.pairwise_singleton _ a
  | b :: rest, h => by
    obtain ⟨hb, hrest⟩ := List.pairwise_cons.1 h
    unfold insertByName
    split
    · rename_i hlt
      have hab : name a ≤ name b := String.not_lt.1 fun hba => String.lt_irrefl _ (String.lt_trans hlt hba)
      exact List.pairwise_cons.2 ⟨List.forall_mem_cons.2 ⟨hab, fun x hx => String.le_trans hab (hb x hx)⟩, h⟩
    · rename_i hge
      refine List.pairwise_cons.2 ⟨fun x hx => ?_, sorted_insertByName a hrest⟩
      rcases List.mem_cons.1 ((perm_insertByName name a rest).mem_iff.1 hx) with rfl | hx
      · exact String.not_lt.1 hge
      · exact hb x hx

theorem sorted_sortByName (l : List α) : (sortByName name l).Pairwise fun x y => name x ≤ name y := by
  unfold sortByName
  exact List.foldlRecOn l _ List.Pairwise.nil fun done h a _ => sorted_insertByName name a h

theorem map_insertByName (name' : β → String) (f : α → β) (hf : ∀ a, name' (f a) = name a) (a : α) : ∀ l : List α,
    (insertByName name a l).map f = insertByName name' (f a) (l.map f)
  | [] => rfl
  | b :: rest => by
    unfold insertByName
    rw [List.map_cons]
    simp only [hf]
    split
    · rfl
    · rw [List.map_cons, map_insertByName name' f hf a rest]

theorem map_sortByName (name' : β → String) (f : α → β) (hf : ∀ a, name' (f a) = name a) (l : List α) :
    (sortByName name l).map f = sortByName name' (l.map f) := by
  have hfold : ∀ (l : List α) (done : List α), (l.foldl (fun done a => insertByName name a done) done).map f =
      (l.map f).foldl (fun done b => insertByName name' b done) (done.map f) := by
    intro l
    induction l with
    | nil => exact fun _ => rfl
    | cons a l ih =>
      intro done
      rw [List.foldl_cons, ih, map_insertByName name name' f hf, List.map_cons, List.foldl_cons]
  exact hfold l []

def under (l : List (String × β)) (n : String) : Option β := (l.find? (·.1 == n)).map (·.2)

theorem mem_iff_under {l : List (String × β)} (h : (l.map (·.1)).Nodup) {n : String} {b : β} :
    (n, b) ∈ l ↔ under l n = some b := by
  unfold under
  constructor
  · intro hmem
    have hsome : (l.find? (·.1 == n)).isSome = true := List.find?_isSome.2 ⟨(n, b), hmem, beq_self_eq_true n⟩
    obtain ⟨x, hx⟩ := Option.isSome_iff_exists.1 hsome
    have hname : x.1 = n := eq_of_beq (List.find?_some (p := fun y : String × β => y.1 == n) hx)
    obtain rfl : x = (n, b) := List.inj_on_of_nodup_map h (List.mem_of_find?_eq_some hx) hmem hname
    rw [hx]
    rfl
  · intro hfind
    obtain ⟨x, hx, rfl⟩ := Option.map_eq_some_iff.1 hfind
    obtain rfl : x.1 = n := eq_of_beq (List.find?_some (p := fun y : String × β => y.1 == n) hx)
    exact List.mem_of_find?_eq_some hx

/-- **Two lists sorted by names are the same just if the same stands under every name** in both. -/
theorem sortByName_eq_iff {l l' : List (String × β)} (h : (l.map (·.1)).Nodup) (h' : (l'.map (·.1)).Nodup) :
    sortByName (·.1) l = sortByName (·.1) l' ↔ ∀ n, under l n = under l' n := by
  constructor
  · intro heq n
    have hmem : ∀ b, under l n = some b ↔ under l' n = some b := by
      intro b
      rw [← mem_iff_under h, ← mem_iff_under h', ← (perm_sortByName (·.1) l).mem_iff, heq,
        (perm_sortByName (·.1) l').mem_iff]
    exact Option.ext hmem
  · intro heq
    have hperm : l.Perm l' := by
      refine (List.perm_ext_iff_of_nodup (.of_map _ h) (.of_map _ h')).2 fun ⟨n, b⟩ => ?_
      rw [mem_iff_under h, mem_iff_under h', heq]
    have hsorted := sorted_sortByName (·.1) l
    have hsorted' := sorted_sortByName (·.1) l'
    refine List.Perm.eq_of_pairwise ?_ hsorted hsorted'
      ((perm_sortByName _ l).trans (hperm.trans (perm_sortByName _ l').symm))
    intro x y hx hy hxy hyx
    have hx := (perm_sortByName _ l).mem_iff.1 hx
    have hy := hperm.mem_iff.2 ((perm_sortByName _ l').mem_iff.1 hy)
    exact List.inj_on_of_nodup_map h hx hy (String.le_antisymm hxy hyx)

end Sorting

/-! ## What there is to say -/

/-- **What the imprint says of a predicate** besides its name.  Its contract is not among it. -/
structure Outline where
  kind : PredicateKind
  isPublic : Bool
  arity : Option (Nat × Nat)
  texts : List String
  deriving DecidableEq

def Predicate.outline (p : Predicate) : Outline := ⟨p.kind, p.isPublic, p.arityRange?, p.clauses.map (·.text)⟩

def arityBytes (arity : Option (Nat × Nat)) : List UInt8 :=
  match arity with
  | some (least, most) => bytes8 least ++ bytes8 most
  | none => []

theorem arityBytes_some {least most : Nat} (hle : least ≤ most) (hmost : most < 2 ^ 24) :
    arityBytes (some (least, most)) = [(least % 256).toUInt8, (least / 256 % 256).toUInt8,
      (least / 65536 % 256).toUInt8, 0, 0, 0, 0, 0, (most % 256).toUInt8, (most / 256 % 256).toUInt8,
      (most / 65536 % 256).toUInt8, 0, 0, 0, 0, 0] := by
  have hleast : least < 2 ^ 24 := by omega
  unfold arityBytes
  simp only
  rw [bytes8_eq hleast, bytes8_eq hmost]
  rfl

def linesOf (texts : List String) : List UInt8 := texts.flatMap fun t => bytesOf t ++ [10]

def Outline.imprint (e : String × Outline) : List UInt8 :=
  bytesOf e.1 ++ (if e.2.kind = .rules then 0 else 1) :: (if e.2.isPublic then 0 else 1) ::
    (arityBytes e.2.arity ++ linesOf e.2.texts)

theorem imprint_outline (p : Predicate) : p.imprint = Outline.imprint (p.name, p.outline) := by
  unfold Predicate.imprint Outline.imprint Predicate.outline linesOf arityBytes
  rw [List.flatMap_map]
  simp only [List.append_assoc]
  rfl

/-- **The text has none of the three characters** that the imprint uses to tell one thing from another. -/
def Unmarked (s : String) : Prop := ∀ c ∈ s.toList, c.toNat ≠ 0 ∧ c.toNat ≠ 1 ∧ c.toNat ≠ 10

instance (s : String) : Decidable (Unmarked s) := List.decidableBAll _ s.toList

def Quiet (bs : List UInt8) : Prop := ∀ x ∈ bs, x ≠ 0 ∧ x ≠ 1 ∧ x ≠ 10

/-- **What is said under a name can be told from what follows.** -/
structure Outline.Legible (e : String × Outline) : Prop where
  named : e.1 ≠ ""
  name : Unmarked e.1
  texts : ∀ t ∈ e.2.texts, Unmarked t
  arity : e.2.arity = none ↔ e.2.texts = []
  bounded : ∀ least most, e.2.arity = some (least, most) → least ≤ most ∧ most < 2 ^ 24

theorem Unmarked.quiet {s : String} (h : Unmarked s) : Quiet (bytesOf s) := by
  intro x hx
  have hne : ∀ k : UInt8, k.toNat < 128 → (∀ c ∈ s.toList, c.toNat ≠ k.toNat) → x ≠ k := by
    rintro k hk hall rfl
    obtain ⟨c, hc, heq⟩ := mem_bytesOf hx hk
    exact hall c hc heq
  exact ⟨hne 0 (by decide) fun c hc => (h c hc).1, hne 1 (by decide) fun c hc => (h c hc).2.1,
    hne 10 (by decide) fun c hc => (h c hc).2.2⟩

/-! ## Reading the imprint -/

theorem split_eq {α : Type} {p : α → Prop} {x x' : α} {v v' : List α} (hx : ¬p x) (hx' : ¬p x') : ∀ {u u' : List α},
    (∀ a ∈ u, p a) → (∀ a ∈ u', p a) → u ++ x :: v = u' ++ x' :: v' → u = u' ∧ x = x' ∧ v = v'
  | [], [], _, _, h => ⟨rfl, List.cons.inj h⟩
  | [], a :: _, _, hu', h => absurd ((List.cons.inj h).1 ▸ hu' a List.mem_cons_self) hx
  | a :: _, [], hu, _, h => absurd ((List.cons.inj h).1 ▸ hu a List.mem_cons_self) hx'
  | a :: u, a' :: u', hu, hu', h => by
    obtain ⟨rfl, htail⟩ := List.cons.inj h
    obtain ⟨rfl, hrest⟩ := split_eq hx hx' (List.forall_mem_cons.1 hu).2 (List.forall_mem_cons.1 hu').2 htail
    exact ⟨rfl, hrest⟩

variable {es es' : List (String × Outline)} {e : String × Outline} {rest rest' : List UInt8}

theorem imprints_cons : (e :: es).flatMap Outline.imprint ++ rest =
    bytesOf e.1 ++ (if e.2.kind = .rules then 0 else 1) :: (if e.2.isPublic then 0 else 1) ::
      (arityBytes e.2.arity ++ (linesOf e.2.texts ++ (es.flatMap Outline.imprint ++ rest))) := by
  simp [Outline.imprint]

/-- The bytes do not begin with the text of a clause: a zero or a one comes before the end of the first line. -/
def Fresh (bs : List UInt8) : Prop := ∀ u v, bs = u ++ 10 :: v → 0 ∈ u ∨ 1 ∈ u

theorem fresh_imprints (hes : ∀ e ∈ es, Outline.Legible e) (hrest : Quiet rest) :
    Fresh (es.flatMap Outline.imprint ++ rest) := by
  intro u v h
  cases es with
  | nil => exact absurd rfl (hrest 10 (by simp [show rest = u ++ 10 :: v from h])).2.2
  | cons e es =>
    have hname := (hes e List.mem_cons_self).name.quiet
    rw [imprints_cons] at h
    -- the line ends after the name and the mark that follows it
    rcases List.append_eq_append_iff.1 h with ⟨w, rfl, hw⟩ | ⟨w, hw, htail⟩
    · cases w with
      | nil =>
        have hten := (List.cons.inj hw).1
        split at hten <;> exact absurd hten (by decide)
      | cons x w =>
        obtain rfl := (List.cons.inj hw).1
        split
        · exact .inl (by simp)
        · exact .inr (by simp)
    · cases w with
      | nil =>
        have hten := (List.cons.inj htail).1
        split at hten <;> exact absurd hten (by decide)
      | cons x w =>
        obtain rfl := (List.cons.inj htail).1
        exact absurd rfl (hname 10 (by simp [hw])).2.2

theorem imprints_ne_zero (hes : ∀ e ∈ es, Outline.Legible e) (hrest : Quiet rest) (bs : List UInt8) :
    es.flatMap Outline.imprint ++ rest ≠ 0 :: bs := by
  intro h
  cases es with
  | nil => exact absurd rfl (hrest 0 (by simp [show rest = 0 :: bs from h])).1
  | cons e es =>
    obtain ⟨hnamed, hname⟩ := And.intro (hes e List.mem_cons_self).named (hes e List.mem_cons_self).name.quiet
    rw [imprints_cons] at h
    cases hbytes : bytesOf e.1 with
    | nil => exact bytesOf_ne_nil hnamed hbytes
    | cons a bs' =>
      rw [hbytes] at h hname
      exact (hname a List.mem_cons_self).1 (List.cons.inj h).1

/-- **The texts of clauses can be told from what follows.** -/
theorem lines_eq : ∀ {ts ts' : List String} {bs bs' : List UInt8}, (∀ t ∈ ts, Unmarked t) → (∀ t ∈ ts', Unmarked t) →
    Fresh bs → Fresh bs' → linesOf ts ++ bs = linesOf ts' ++ bs' → ts = ts' ∧ bs = bs'
  | [], [], _, _, _, _, _, _, h => ⟨rfl, h⟩
  | [], t :: ts, bs, bs', _, hts, hbs, _, h => by
    have hline : bs = bytesOf t ++ 10 :: (linesOf ts ++ bs') := by simpa [linesOf] using h
    have hquiet := (hts t List.mem_cons_self).quiet
    rcases hbs _ _ hline with hzero | hone
    · exact absurd rfl (hquiet 0 hzero).1
    · exact absurd rfl (hquiet 1 hone).2.1
  | t :: ts, [], bs, bs', hts, _, _, hbs', h => by
    have hline : bs' = bytesOf t ++ 10 :: (linesOf ts ++ bs) := by simpa [linesOf] using h.symm
    have hquiet := (hts t List.mem_cons_self).quiet
    rcases hbs' _ _ hline with hzero | hone
    · exact absurd rfl (hquiet 0 hzero).1
    · exact absurd rfl (hquiet 1 hone).2.1
  | t :: ts, t' :: ts', bs, bs', hts, hts', hbs, hbs', h => by
    obtain ⟨ht, hts⟩ := List.forall_mem_cons.1 hts
    obtain ⟨ht', hts'⟩ := List.forall_mem_cons.1 hts'
    have hlines : bytesOf t ++ 10 :: (linesOf ts ++ bs) = bytesOf t' ++ 10 :: (linesOf ts' ++ bs') := by
      simpa [linesOf] using h
    obtain ⟨htext, -, hmore⟩ := split_eq (p := (· ≠ 10)) (not_not_intro rfl) (not_not_intro rfl)
      (fun x hx => (ht.quiet x hx).2.2) (fun x hx => (ht'.quiet x hx).2.2) hlines
    obtain ⟨rfl, hend⟩ := lines_eq hts hts' hbs hbs' hmore
    exact ⟨congrArg (· :: ts) (bytesOf_inj htext), hend⟩

theorem low_byte_eq_zero {least most : Nat} (hle : least ≤ most) (hmost : most < 2 ^ 24)
    (hfirst : (most % 256).toUInt8 = 0) (hsecond : (most / 256 % 256).toUInt8 = 0)
    (hthird : (most / 65536 % 256).toUInt8 = 0) : (least % 256).toUInt8 = 0 := by
  have hbyte : ∀ {i : Nat}, (i % 256).toUInt8 = 0 → i % 256 = 0 := by
    intro i hi
    have hnat := congrArg UInt8.toNat hi
    simpa using hnat
  have hfirst := hbyte hfirst
  have hsecond := hbyte hsecond
  have hthird := hbyte hthird
  obtain rfl : least = 0 := by omega
  rfl

/-- What stands after a name and its two marks, if it begins with three zeros, begins with eight. -/
theorem eight_zeros (he : Outline.Legible e) (hes : ∀ e ∈ es, Outline.Legible e) (hrest : Quiet rest)
    {bs : List UInt8} (h : arityBytes e.2.arity ++ (linesOf e.2.texts ++ (es.flatMap Outline.imprint ++ rest)) =
      0 :: 0 :: 0 :: bs) : ∃ bs', bs = 0 :: 0 :: 0 :: 0 :: 0 :: bs' := by
  cases harity : e.2.arity with
  | none =>
    rw [harity, he.arity.1 harity] at h
    exact absurd h (imprints_ne_zero hes hrest _)
  | some p =>
    obtain ⟨least, most⟩ := p
    obtain ⟨hle, hmost⟩ := he.bounded least most harity
    rw [harity, arityBytes_some hle hmost] at h
    simp only [List.cons_append, List.cons.injEq] at h
    obtain ⟨-, -, -, rfl⟩ := h
    exact ⟨_, rfl⟩

/-- **Numbers of arguments can be told from a name.**  Their first bytes would be the name, and so the bytes after them,
which are zeros, the numbers of arguments under it; but then the greatest number would be zero, and so would be what the
name begins with. -/
theorem imprints_ne_arity (hes : ∀ e ∈ es, Outline.Legible e) (hrest : Quiet rest) {least most : Nat}
    (hle : least ≤ most) (hmost : most < 2 ^ 24) (bs : List UInt8) :
    es.flatMap Outline.imprint ++ rest ≠ arityBytes (some (least, most)) ++ bs := by
  intro h
  rw [arityBytes_some hle hmost] at h
  cases es with
  | nil => exact absurd rfl (hrest 0 (by simp [show rest = _ from h])).1
  | cons e es =>
    obtain ⟨he, hes⟩ := List.forall_mem_cons.1 hes
    have hname := he.name.quiet
    have hzeros := fun us => @eight_zeros es e rest he hes hrest us
    rw [imprints_cons] at h
    generalize arityBytes e.2.arity ++ (linesOf e.2.texts ++ (es.flatMap Outline.imprint ++ rest)) = tail at h hzeros
    -- the name is one, two or three bytes long, since the fourth is a zero
    rcases hbytes : bytesOf e.1 with _ | ⟨a, _ | ⟨a₂, _ | ⟨a₃, _ | ⟨a₄, name⟩⟩⟩⟩
    · exact bytesOf_ne_nil he.named hbytes
    all_goals
      rw [hbytes] at h hname
      simp only [List.cons_append, List.nil_append, List.cons.injEq] at h
      have ha := (hname a List.mem_cons_self).1
    · obtain ⟨rfl, -, -, rfl⟩ := h
      obtain ⟨us, hus⟩ := hzeros _ rfl
      simp only [List.cons.injEq] at hus
      exact ha (low_byte_eq_zero hle hmost hus.2.2.1 hus.2.2.2.1 hus.2.2.2.2.1)
    · obtain ⟨rfl, -, -, -, rfl⟩ := h
      obtain ⟨us, hus⟩ := hzeros _ rfl
      simp only [List.cons.injEq] at hus
      exact ha (low_byte_eq_zero hle hmost hus.2.1 hus.2.2.1 hus.2.2.2.1)
    · obtain ⟨rfl, -, -, -, -, rfl⟩ := h
      obtain ⟨us, hus⟩ := hzeros _ rfl
      simp only [List.cons.injEq] at hus
      exact ha (low_byte_eq_zero hle hmost hus.1 hus.2.1 hus.2.2.1)
    · exact (hname a₄ (by simp)).1 h.2.2.2.1

theorem not_quiet_imprints : ¬Quiet ((e :: es).flatMap Outline.imprint ++ rest) := by
  intro h
  rw [imprints_cons] at h
  have hkind := h (if e.2.kind = .rules then 0 else 1) (by simp)
  split at hkind
  · exact hkind.1 rfl
  · exact hkind.2.1 rfl

/-- **The numbers of arguments and the texts can be told from what follows.** -/
theorem outlines_eq {e e' : String × Outline} (he : Outline.Legible e) (he' : Outline.Legible e')
    (hes : ∀ e ∈ es, Outline.Legible e) (hes' : ∀ e ∈ es', Outline.Legible e) (hrest : Quiet rest)
    (hrest' : Quiet rest')
    (h : arityBytes e.2.arity ++ (linesOf e.2.texts ++ (es.flatMap Outline.imprint ++ rest)) =
      arityBytes e'.2.arity ++ (linesOf e'.2.texts ++ (es'.flatMap Outline.imprint ++ rest'))) :
    (e.2.arity = e'.2.arity ∧ e.2.texts = e'.2.texts) ∧
      es.flatMap Outline.imprint ++ rest = es'.flatMap Outline.imprint ++ rest' := by
  cases ha : e.2.arity with
  | none =>
    have hts := he.arity.1 ha
    cases ha' : e'.2.arity with
    | none =>
      have hts' := he'.arity.1 ha'
      rw [ha, ha', hts, hts'] at h
      exact ⟨⟨rfl, hts.trans hts'.symm⟩, h⟩
    | some p =>
      obtain ⟨hle, hmost⟩ := he'.bounded p.1 p.2 ha'
      rw [ha, ha', hts] at h
      exact absurd h (imprints_ne_arity hes hrest hle hmost _)
  | some p =>
    obtain ⟨hle, hmost⟩ := he.bounded p.1 p.2 ha
    cases ha' : e'.2.arity with
    | none =>
      rw [ha, ha', he'.arity.1 ha'] at h
      exact absurd h.symm (imprints_ne_arity hes' hrest' hle hmost _)
    | some p' =>
      obtain ⟨hle', hmost'⟩ := he'.bounded p'.1 p'.2 ha'
      have hlen : ∀ q : Nat × Nat, (arityBytes (some q)).length = 16 := fun _ => rfl
      rw [ha, ha'] at h
      obtain ⟨harity, hlines⟩ := List.append_inj h ((hlen p).trans (hlen p').symm)
      have harity : bytes8 p.1 ++ bytes8 p.2 = bytes8 p'.1 ++ bytes8 p'.2 := harity
      obtain ⟨hfirst, hsecond⟩ := List.append_inj harity rfl
      have hp : p = p' :=
        Prod.ext (eq_of_bytes8 (by omega) (by omega) hfirst) (eq_of_bytes8 hmost hmost' hsecond)
      obtain ⟨htexts, hmore⟩ := lines_eq he.texts he'.texts (fresh_imprints hes hrest)
        (fresh_imprints hes' hrest') hlines
      exact ⟨⟨congrArg some hp, htexts⟩, hmore⟩

/-- **What is said of predicates can be told from the imprint.** -/
theorem imprints_eq : ∀ {es es' : List (String × Outline)}, (∀ e ∈ es, Outline.Legible e) →
    (∀ e ∈ es', Outline.Legible e) → Quiet rest → Quiet rest' →
      es.flatMap Outline.imprint ++ rest = es'.flatMap Outline.imprint ++ rest' → es = es' ∧ rest = rest'
  | [], [], _, _, _, _, h => ⟨rfl, h⟩
  | [], e :: es, _, _, hrest, _, h => absurd ((show rest = _ from h) ▸ hrest) not_quiet_imprints
  | e :: es, [], _, _, _, hrest', h => absurd ((show _ = rest' from h) ▸ hrest') not_quiet_imprints
  | (n, o) :: es, (n', o') :: es', hes, hes', hrest, hrest', h => by
    obtain ⟨he, hes⟩ := List.forall_mem_cons.1 hes
    obtain ⟨he', hes'⟩ := List.forall_mem_cons.1 hes'
    rw [imprints_cons, imprints_cons] at h
    have hmark : ∀ k : PredicateKind, ¬((if k = .rules then 0 else 1 : UInt8) ≠ 0 ∧
        (if k = .rules then 0 else 1 : UInt8) ≠ 1) := by
      intro k
      split <;> simp
    obtain ⟨hname, hkind, h⟩ := split_eq (p := fun x : UInt8 => x ≠ 0 ∧ x ≠ 1) (hmark o.kind) (hmark o'.kind)
      (fun x hx => ⟨(he.name.quiet x hx).1, (he.name.quiet x hx).2.1⟩)
      (fun x hx => ⟨(he'.name.quiet x hx).1, (he'.name.quiet x hx).2.1⟩) h
    obtain ⟨hpublic, h⟩ := List.cons.inj h
    obtain ⟨⟨harity, htexts⟩, hmore⟩ := outlines_eq he he' hes hes' hrest hrest' h
    obtain ⟨rfl, hend⟩ := imprints_eq hes hes' hrest hrest' hmore
    obtain rfl := bytesOf_inj hname
    have hkinds : o.kind = o'.kind := by
      cases hk : o.kind <;> cases hk' : o'.kind <;> simp [hk, hk'] at hkind ⊢
    have hpublics : o.isPublic = o'.isPublic := by
      cases hp : o.isPublic <;> cases hp' : o'.isPublic <;> simp [hp, hp'] at hpublic ⊢
    have ho : o = o' := by
      cases o
      cases o'
      simp only at hkinds hpublics harity htexts
      rw [hkinds, hpublics, harity, htexts]
    exact ⟨by rw [ho], hend⟩

end Remedy
