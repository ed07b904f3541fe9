import Remedy.Proofs.Text.Characters
import Remedy.Repair.Request
/-!
# Proofs.Repair.Deletion — what a request to delete files says, and what is read of it

An argument of a deletion is written for one of four settings: under its name, in any case, or, for the folder, first
and without a name (`Setting.Asked`).  A request is honoured if every argument is written for a setting and is a
constant that determines it, and if the settings that nothing is written for have their default values (`Honoured`).

The check of a request knows names in any case, but its reading knows them only as they are spelled, takes the first of
several arguments, and passes over terms that are no constants.  What it hears of a setting (`said?`) decides what
becomes of a request (`readCleanup_iff`).  So a request that is written plainly is honoured or refused, and one that is
not may lose what it says: a limit whose name is in lower case counts as none, and all files go (`limit_unheard`).
-/
namespace Remedy.Repair

/-! ## What a request says -/

/-- **What the arguments of a deletion set.** -/
inductive Setting
  | folder
  | order
  | limit
  | recursion
  deriving DecidableEq

namespace Setting

def name : Setting → String
  | .folder => "FolderPath"
  | .order => "SortOrder"
  | .limit => "MaxFilesToDelete"
  | .recursion => "RecurseSubdirectories"

/-- **The argument in place `i` is written for the setting.** -/
def Asked (s : Setting) (i : Nat) (a : Arg Term) : Prop :=
  match a.name with
  | none => s = .folder ∧ i = 0
  | some word => word.toList.map Char.toLower = s.name.toList.map Char.toLower

/-- **The value determines the setting**, and is of the right kind for it. -/
def Sets (s : Setting) (v : Value) (k : Cleanup) : Prop :=
  match s with
  | .folder => Text.trim v.toText.toList ≠ [] ∧ v.toText = k.folder
  | .order => FileOrder.ofName? v.toText = some k.order
  | .limit => ∃ n : Int64, v = .int n ∧ n.toInt = k.maxFiles
  | .recursion => v.toBool? = some k.recurse

/-- **The setting has its default value**; there is no default folder. -/
def Default (s : Setting) (k : Cleanup) : Prop :=
  match s with
  | .folder => False
  | .order => k.order = .ascending
  | .limit => k.maxFiles = 0
  | .recursion => k.recurse = false

end Setting

variable {c : Call} {k : Cleanup} {s t : Setting} {a : Arg Term} {i : Nat}

def Known (c : Call) : Prop := ∀ i a, c.args[i]? = some a → ∃ s, Setting.Asked s i a

/-- **A request is honoured**: every argument is written for a setting and determines it, and a setting that nothing is
written for has its default value. -/
structure Honoured (c : Call) (k : Cleanup) : Prop where
  written : ∀ i a, c.args[i]? = some a → ∃ s v, Setting.Asked s i a ∧ a.value = .const v ∧ s.Sets v k
  silent : ∀ s, (¬∃ i a, c.args[i]? = some a ∧ Setting.Asked s i a) → s.Default k

/-- **A request is written plainly**: names are spelled as they should be, there is one argument for a setting, and all
arguments are constants. -/
structure Plain (c : Call) : Prop where
  spelled : ∀ a ∈ c.args, ∀ word, a.name = some word → ∃ s, word = Setting.name s
  once : ∀ i a j b s, c.args[i]? = some a → c.args[j]? = some b → Setting.Asked s i a → Setting.Asked s j b → i = j
  constant : ∀ a ∈ c.args, ∃ v, a.value = .const v

/-! ## Names -/

namespace Setting

theorem lower_name_injective (h : s.name.toList.map Char.toLower = t.name.toList.map Char.toLower) : s = t := by
  revert h
  cases s <;> cases t <;> decide

theorem Asked.unique (hs : s.Asked i a) (ht : t.Asked i a) : s = t := by
  unfold Asked at hs ht
  cases hname : a.name with
  | none =>
    rw [hname] at hs ht
    exact hs.1.trans ht.1.symm
  | some word =>
    rw [hname] at hs ht
    exact lower_name_injective (hs.symm.trans ht)

theorem asked_of_name (h : a.name = some s.name) : s.Asked i a := by
  unfold Asked
  rw [h]

theorem Asked.not_digit {word : String} (h : s.Asked i a) (hname : a.name = some word) :
    ∀ x ∈ word.toList, Decimal.isDigit x = false := by
  unfold Asked at h
  rw [hname] at h
  intro x hx
  by_contra hdigit
  rw [Bool.not_eq_false] at hdigit
  have hlower : x.toLower = x := by
    unfold Char.toLower
    refine dif_neg fun hupper => ?_
    have hrange := Text.digit_range hdigit
    have hfrom := UInt32.le_iff_toNat_le.1 hupper.1
    exact absurd (Nat.le_trans hfrom hrange.2) (by decide)
  have hmem : x ∈ s.name.toList.map Char.toLower := by
    rw [← show word.toList.map Char.toLower = s.name.toList.map Char.toLower from h]
    exact List.mem_map.2 ⟨x, hx, hlower⟩
  have hletters : (s.name.toList.map Char.toLower).all (fun y => !Decimal.isDigit y) = true := by
    cases s <;> decide
  have hletter := List.all_eq_true.1 hletters x hmem
  rw [hdigit] at hletter
  cases hletter

end Setting

theorem unsigned?_eq_none {word : List Char} (h : ∀ x ∈ word, Decimal.isDigit x = false) :
    Decimal.unsigned? word = none := by
  have hnatural : ∀ ds : List Char, (∀ x ∈ ds, Decimal.isDigit x = false) → Decimal.natural? ds = none := by
    intro ds hds
    unfold Decimal.natural?
    cases ds with
    | nil => rfl
    | cons x xs =>
      rw [List.all_cons, hds x List.mem_cons_self]
      rfl
  unfold Decimal.unsigned?
  simp only
  split
  · rw [hnatural _ fun x hx => h x (List.mem_cons_of_mem _ hx)]
    rfl
  · rw [hnatural _ h]
    rfl

/-! ## The check -/

theorem isCleanupArg_iff : isCleanupArg i a = true ↔ ∃ s, Setting.Asked s i a := by
  unfold isCleanupArg Setting.Asked
  cases a.name with
  | none => simp
  | some word =>
    have hlower : ∀ t : String, String.ofList (word.toList.map Char.toLower) = t ↔
        word.toList.map Char.toLower = t.toList := fun t => by rw [← String.toList_inj, String.toList_ofList]
    simp only [cleanupNames, List.contains_cons, List.contains_nil, Bool.or_false, Bool.or_eq_true, beq_iff_eq, hlower]
    constructor
    · rintro (h | h | h | h)
      · exact ⟨.folder, h⟩
      · exact ⟨.order, h⟩
      · exact ⟨.limit, h⟩
      · exact ⟨.recursion, h⟩
    · rintro ⟨s, h⟩
      cases s with
      | folder => exact .inl h
      | order => exact .inr (.inl h)
      | limit => exact .inr (.inr (.inl h))
      | recursion => exact .inr (.inr (.inr h))

theorem checkArgs_iff : ∀ (i : Nat) (args : List (Arg Term)),
    checkArgs i args = .ok () ↔ ∀ j a, args[j]? = some a → ∃ s, Setting.Asked s (i + j) a
  | i, [] => by simp [checkArgs]
  | i, a :: rest => by
    have ih := checkArgs_iff (i + 1) rest
    have hshift : ∀ j, i + 1 + j = i + (j + 1) := fun j => by omega
    simp only [hshift] at ih
    unfold checkArgs
    split
    · rename_i hknown
      rw [ih]
      refine ⟨fun h j b hb => ?_, fun h j b hb => h (j + 1) b hb⟩
      cases j with
      | zero =>
        obtain rfl : a = b := Option.some.inj hb
        exact isCleanupArg_iff.1 hknown
      | succ j => exact h j b hb
    · rename_i hunknown
      exact iff_of_false (fun h => nomatch h) fun h => hunknown (isCleanupArg_iff.2 (h 0 a rfl))

/-! ## The reading -/

def leading? : List (Arg Term) → Option Term
  | ⟨none, value⟩ :: _ => some value
  | _ => none

/-- The term that is heard of a setting: the first argument whose name is spelled so, or, for the folder, the first
argument of all if it has no name. -/
def heard? (c : Call) (s : Setting) : Option Term :=
  match c.args.find? (·.name == some s.name) with
  | some a => some a.value
  | none => if s = .folder then leading? c.args else none

/-- **What is heard of a setting**: a term that is no constant says nothing. -/
def said? (c : Call) (s : Setting) : Option Value := (heard? c s).bind Term.asConst?

/-- The position at which a setting is looked for if there is no argument with its name. -/
def Setting.position (s : Setting) (c : Call) : Nat := if s = .folder then 0 else c.arity

/-- **A setting is as it was heard**, or else it has its default value. -/
def Setting.Follows (s : Setting) (c : Call) (k : Cleanup) : Prop :=
  match said? c s with
  | some v => s.Sets v k
  | none => s.Default k

theorem argAt?_name {word : String} (hword : Decimal.unsigned? word.toList = none) :
    ∀ (i : Nat) (args : List (Arg Term)),
      Call.argAt? (.name word) i args = (args.find? (·.name == some word)).map Arg.value
  | i, [] => rfl
  | i, a :: rest => by
    have ih := argAt?_name hword (i + 1) rest
    have hagrees : (a.key i).agrees (.name word) = (a.name == some word) := by
      unfold Arg.key
      cases a.name with
      | none => exact congrArg (· == some i) hword
      | some n => rfl
    unfold Call.argAt?
    rw [hagrees, List.find?_cons]
    cases a.name == some word with
    | true => rfl
    | false => exact ih

/-- A position is found in an argument without a name only, if no name is a number. -/
theorem argAt?_position {p : Nat} : ∀ (i : Nat) (args : List (Arg Term)),
    (∀ a ∈ args, ∀ word, a.name = some word → Decimal.unsigned? word.toList = none) →
      (∀ j a, args[j]? = some a → a.name = none → i + j ≠ p) → Call.argAt? (.position p) i args = none
  | i, [], _, _ => rfl
  | i, a :: rest, hnames, hplaces => by
    have ih : Call.argAt? (.position p) (i + 1) rest = none := by
      refine argAt?_position (i + 1) rest (fun b hb => hnames b (List.mem_cons_of_mem a hb)) fun j b hb hnone => ?_
      have hplace := hplaces (j + 1) b hb hnone
      omega
    have hagrees : (a.key i).agrees (.position p) = false := by
      unfold Arg.key
      cases hname : a.name with
      | none => exact beq_eq_false_iff_ne.2 (hplaces 0 a rfl hname)
      | some word => exact congrArg (· == some p) (hnames a List.mem_cons_self word hname)
    unfold Call.argAt?
    rw [hagrees]
    exact ih

theorem argAt?_first : ∀ {args : List (Arg Term)},
    (∀ a ∈ args, ∀ word, a.name = some word → Decimal.unsigned? word.toList = none) →
      Call.argAt? (.position 0) 0 args = leading? args
  | [], _ => rfl
  | ⟨none, value⟩ :: rest, _ => rfl
  | ⟨some word, value⟩ :: rest, hnames => by
    refine argAt?_position 0 _ hnames fun j b hb hnone => ?_
    cases j with
    | zero =>
      obtain rfl : (⟨some word, value⟩ : Arg Term) = b := Option.some.inj hb
      cases hnone
    | succ j => omega

/-- **What is looked up for a setting is what is heard of it.** -/
theorem lookup?_eq_heard? (h : Known c) (s : Setting) : c.lookup? (s.position c) s.name = heard? c s := by
  have hname : Decimal.unsigned? s.name.toList = none := by cases s <;> rfl
  have hnames : ∀ a ∈ c.args, ∀ word, a.name = some word → Decimal.unsigned? word.toList = none := by
    intro a ha word hword
    obtain ⟨i, hi⟩ := List.mem_iff_getElem?.1 ha
    obtain ⟨t, ht⟩ := h i a hi
    exact unsigned?_eq_none (ht.not_digit hword)
  unfold Call.lookup? Call.get? heard?
  rw [argAt?_name hname]
  cases c.args.find? (·.name == some s.name) with
  | some a => rfl
  | none =>
    change Call.argAt? (.position (s.position c)) 0 c.args = _
    unfold Setting.position
    split
    · exact argAt?_first hnames
    · refine argAt?_position 0 c.args hnames fun j a ha _ => ?_
      have hlt := (List.getElem?_eq_some_iff.1 ha).1
      unfold Call.arity
      omega

theorem value?_eq_said? (h : Known c) (s : Setting) : c.value? (s.position c) s.name = said? c s :=
  congrArg (·.bind Term.asConst?) (lookup?_eq_heard? h s)

/-! ### One setting after the other -/

theorem readFolder_iff (h : Known c) : readFolder c = .ok k.folder ↔ Setting.Follows .folder c k := by
  have hsaid : c.value? 0 "FolderPath" = said? c .folder := value?_eq_said? h .folder
  unfold readFolder Call.text? Setting.Follows
  rw [hsaid]
  cases said? c .folder with
  | none => exact iff_of_false (fun h => nomatch h) id
  | some v =>
    simp only [Option.map_some, Setting.Sets, ne_eq, ← List.isEmpty_iff]
    split <;> rename_i hblank
    · exact iff_of_false (fun h => nomatch h) fun h => h.1 hblank
    · exact ⟨fun h => ⟨hblank, Except.ok.inj h⟩, fun h => congrArg Except.ok h.2⟩

theorem readOrder_iff (h : Known c) : readOrder c = .ok k.order ↔ Setting.Follows .order c k := by
  have hsaid : c.value? c.arity "SortOrder" = said? c .order := value?_eq_said? h .order
  unfold readOrder Call.text? Setting.Follows
  rw [hsaid]
  cases said? c .order with
  | none => exact ⟨fun h => (Except.ok.inj h).symm, fun h => congrArg Except.ok h.symm⟩
  | some v =>
    simp only [Option.map_some, Setting.Sets]
    cases FileOrder.ofName? v.toText with
    | none => simp
    | some o => simp

theorem maxFiles_iff {n : Int64} {most : Nat} : maxFiles (some n) = .ok most ↔ n.toInt = most := by
  unfold maxFiles
  simp only [Int64.lt_iff_toInt_lt]
  split <;> rename_i hneg
  · exact iff_of_false (fun h => nomatch h) fun h => by
      rw [h] at hneg
      exact absurd hneg (by simp)
  · have hnonneg : 0 ≤ n.toInt := Int.not_lt.1 hneg
    constructor
    · intro h
      rw [← Except.ok.inj h, Int.toNat_of_nonneg hnonneg]
    · intro h
      rw [h]
      rfl

theorem asInt?_eq_some {v : Value} {n : Int64} : v.asInt? = some n ↔ v = .int n := by
  cases v <;> simp [Value.asInt?]

theorem readLimit_iff (h : Known c) :
    (∃ given, c.readInt c.arity "MaxFilesToDelete" = .ok given ∧ maxFiles given = .ok k.maxFiles) ↔
      Setting.Follows .limit c k := by
  have hsaid : c.value? c.arity "MaxFilesToDelete" = said? c .limit := value?_eq_said? h .limit
  unfold Call.readInt Call.readArg Setting.Follows
  rw [hsaid]
  cases said? c .limit with
  | none =>
    constructor
    · rintro ⟨given, hgiven, hmost⟩
      obtain rfl := Except.ok.inj hgiven
      exact (Except.ok.inj hmost).symm
    · exact fun h => ⟨none, rfl, congrArg Except.ok (Eq.symm h)⟩
  | some v =>
    cases hn : v.asInt? with
    | none =>
      refine iff_of_false (fun ⟨given, hgiven, _⟩ => ?_) fun ⟨n, hv, _⟩ => ?_
      · simp only [hn] at hgiven
        cases hgiven
      · rw [hv] at hn
        cases hn
    | some n =>
      have hv : v = .int n := asInt?_eq_some.1 hn
      simp only [hn]
      constructor
      · rintro ⟨given, hgiven, hmost⟩
        obtain rfl := Except.ok.inj hgiven
        exact ⟨n, hv, maxFiles_iff.1 hmost⟩
      · rintro ⟨m, hm, hmost⟩
        obtain rfl : n = m := by
          rw [hv] at hm
          exact Value.int.inj hm
        exact ⟨some n, rfl, maxFiles_iff.2 hmost⟩

theorem readRecursion_iff (h : Known c) :
    (∃ given, c.readBool c.arity "RecurseSubdirectories" = .ok given ∧ given.getD false = k.recurse) ↔
      Setting.Follows .recursion c k := by
  have hsaid : c.value? c.arity "RecurseSubdirectories" = said? c .recursion := value?_eq_said? h .recursion
  unfold Call.readBool Call.readArg Setting.Follows
  rw [hsaid]
  cases said? c .recursion with
  | none =>
    constructor
    · rintro ⟨given, hgiven, hrecurse⟩
      obtain rfl := Except.ok.inj hgiven
      exact hrecurse.symm
    · exact fun h => ⟨none, rfl, Eq.symm h⟩
  | some v =>
    simp only [Setting.Sets]
    cases v.toBool? with
    | none => simp
    | some b => simp

theorem inGoal_iff {α : Type} {r : Except CleanupFault α} {x : α} : inGoal c r = .ok x ↔ r = .ok x := by
  unfold inGoal
  cases r with
  | error fault => simp [Except.mapError]
  | ok y => simp [Except.mapError]

theorem andThen_iff {ε α β : Type} {x : Except ε α} {f : α → Except ε β} {b : β} :
    (x >>= f) = .ok b ↔ ∃ a, x = .ok a ∧ f a = .ok b := by
  cases x with
  | error e => exact iff_of_false (fun h => nomatch h) fun ⟨_, h, _⟩ => nomatch h
  | ok a => exact ⟨fun h => ⟨a, rfl, h⟩, fun ⟨_, ha, h⟩ => by rwa [← Except.ok.inj ha] at h⟩

/-- **What becomes of a request**: it is read just if every argument is written for a setting and every setting follows
what is heard of it. -/
theorem readCleanup_iff : readCleanup c = .ok k ↔ Known c ∧ ∀ s : Setting, s.Follows c k := by
  have hcheck : checkArgs 0 c.args = .ok () ↔ Known c := by
    rw [checkArgs_iff]
    simp only [Nat.zero_add]
    rfl
  unfold readCleanup
  simp only [andThen_iff, inGoal_iff, Except.ok.injEq]
  constructor
  · rintro ⟨_, hc, folder, hf, order, ho, given, hg, most, hm, recurse, hr, rfl⟩
    have hknown := hcheck.1 hc
    refine ⟨hknown, fun s => ?_⟩
    cases s with
    | folder => exact (readFolder_iff hknown).1 hf
    | order => exact (readOrder_iff hknown).1 ho
    | limit => exact (readLimit_iff hknown).1 ⟨given, hg, hm⟩
    | recursion => exact (readRecursion_iff hknown).1 ⟨recurse, hr, rfl⟩
  · rintro ⟨hknown, hfollows⟩
    obtain ⟨given, hg, hm⟩ := (readLimit_iff hknown).2 (hfollows .limit)
    obtain ⟨recurse, hr, hrecurse⟩ := (readRecursion_iff hknown).2 (hfollows .recursion)
    refine ⟨(), hcheck.2 hknown, k.folder, (readFolder_iff hknown).2 (hfollows .folder), k.order,
      (readOrder_iff hknown).2 (hfollows .order), given, hg, k.maxFiles, hm, recurse, hr, ?_⟩
    rw [hrecurse]

/-! ## Plain requests -/

theorem name_of_find? {word : String} {args : List (Arg Term)} (h : args.find? (·.name == some word) = some a) :
    a.name = some word := by
  have hname := List.find?_some h
  exact beq_iff_eq.1 hname

theorem exists_asked_of_heard? {x : Term} (h : heard? c s = some x) :
    ∃ i a, c.args[i]? = some a ∧ s.Asked i a ∧ a.value = x := by
  unfold heard? at h
  cases hfound : c.args.find? (·.name == some s.name) with
  | some a =>
    rw [hfound] at h
    obtain ⟨i, hi⟩ := List.mem_iff_getElem?.1 (List.mem_of_find?_eq_some hfound)
    exact ⟨i, a, hi, Setting.asked_of_name (name_of_find? hfound), Option.some.inj h⟩
  | none =>
    rw [hfound] at h
    simp only at h
    split at h
    · rename_i hfolder
      unfold leading? at h
      split at h
      · rename_i value rest hargs
        exact ⟨0, ⟨none, value⟩, by rw [hargs]; rfl, ⟨hfolder, rfl⟩, Option.some.inj h⟩
      · cases h
    · cases h

theorem said?_of_silent (h : ¬∃ i a, c.args[i]? = some a ∧ s.Asked i a) : said? c s = none := by
  unfold said?
  cases hx : heard? c s with
  | none => rfl
  | some x =>
    obtain ⟨i, a, hi, hs, -⟩ := exists_asked_of_heard? hx
    exact absurd ⟨i, a, hi, hs⟩ h

/-- **In a plain request every argument is heard.** -/
theorem Plain.heard? (hplain : Plain c) (hi : c.args[i]? = some a) (hs : s.Asked i a) : heard? c s = some a.value := by
  have hfirst : ∀ b ∈ c.args, b.name = some s.name → b = a := by
    intro b hb hname
    obtain ⟨j, hj⟩ := List.mem_iff_getElem?.1 hb
    obtain rfl := hplain.once j b i a s hj hi (Setting.asked_of_name hname) hs
    exact Option.some.inj (hj.symm.trans hi)
  have hmem : a ∈ c.args := List.mem_iff_getElem?.2 ⟨i, hi⟩
  unfold Repair.heard?
  cases hfound : c.args.find? (·.name == some s.name) with
  | some b =>
    have hb := hfirst b (List.mem_of_find?_eq_some hfound) (name_of_find? hfound)
    exact congrArg (fun b : Arg Term => some b.value) hb
  | none =>
    have hother : a.name ≠ some s.name := fun hname =>
      List.find?_eq_none.1 hfound a hmem (beq_iff_eq.2 hname)
    cases hname : a.name with
    | some word =>
      obtain ⟨t, rfl⟩ := hplain.spelled a hmem word hname
      obtain rfl := hs.unique (Setting.asked_of_name hname)
      exact absurd hname hother
    | none =>
      unfold Setting.Asked at hs
      rw [hname] at hs
      obtain ⟨hfolder, rfl⟩ := hs
      simp only [if_pos hfolder]
      cases hargs : c.args with
      | nil =>
        rw [hargs] at hi
        cases hi
      | cons b rest =>
        rw [hargs] at hi
        obtain rfl := Option.some.inj hi
        obtain ⟨name, value⟩ := b
        obtain rfl : name = none := hname
        rfl

theorem Plain.said? {v : Value} (hplain : Plain c) (hi : c.args[i]? = some a) (hs : s.Asked i a)
    (hv : a.value = .const v) : said? c s = some v := by
  unfold Repair.said?
  rw [hplain.heard? hi hs, hv]
  rfl

/-- **A request that is written plainly is read just if it is honoured.** -/
theorem Plain.readCleanup_iff (hplain : Plain c) : readCleanup c = .ok k ↔ Honoured c k := by
  rw [Repair.readCleanup_iff]
  constructor
  · rintro ⟨hknown, hfollows⟩
    refine ⟨fun i a hi => ?_, fun s hsilent => ?_⟩
    · obtain ⟨s, hs⟩ := hknown i a hi
      obtain ⟨v, hv⟩ := hplain.constant a (List.mem_iff_getElem?.2 ⟨i, hi⟩)
      have hset := hfollows s
      unfold Setting.Follows at hset
      rw [hplain.said? hi hs hv] at hset
      exact ⟨s, v, hs, hv, hset⟩
    · have hset := hfollows s
      unfold Setting.Follows at hset
      rwa [said?_of_silent hsilent] at hset
  · intro h
    refine ⟨fun i a hi => ?_, fun s => ?_⟩
    · obtain ⟨s, -, hs, -⟩ := h.written i a hi
      exact ⟨s, hs⟩
    · unfold Setting.Follows
      by_cases hasked : ∃ i a, c.args[i]? = some a ∧ s.Asked i a
      · obtain ⟨i, a, hi, hs⟩ := hasked
        obtain ⟨t, v, ht, hv, hset⟩ := h.written i a hi
        obtain rfl := hs.unique ht
        rw [hplain.said? hi hs hv]
        exact hset
      · rw [said?_of_silent hasked]
        exact h.silent s hasked

/-- **All files go only if nothing is said of a limit, or if it is zero**, in a request that is honoured. -/
theorem Honoured.limit_zero (h : Honoured c k) (hall : k.maxFiles = 0) (hi : c.args[i]? = some a)
    (hs : Setting.limit.Asked i a) : a.value = .const (.int 0) := by
  obtain ⟨t, v, ht, hv, hset⟩ := h.written i a hi
  obtain rfl := hs.unique ht
  obtain ⟨n, rfl, hn⟩ := hset
  rw [hall] at hn
  rw [hv, Int64.toInt_inj.1 (hn.trans Int64.toInt_zero.symm)]

/-- **What a request to delete files comes to.**  It is read just if every argument is written for a setting and every
setting follows what is heard of it.  A request that is written plainly is read just if it is honoured, and then all
files go only if there is no limit or the limit is zero. -/
theorem deletion_follows (c : Call) (k : Cleanup) :
    (readCleanup c = .ok k ↔ Known c ∧ ∀ s : Setting, s.Follows c k) ∧
    (Plain c → (readCleanup c = .ok k ↔ Honoured c k) ∧
      (readCleanup c = .ok k → k.maxFiles = 0 →
        ∀ i a, c.args[i]? = some a → Setting.limit.Asked i a → a.value = .const (.int 0))) :=
  ⟨readCleanup_iff, fun hplain => ⟨hplain.readCleanup_iff, fun hread hall _ _ =>
    (hplain.readCleanup_iff.1 hread).limit_zero hall⟩⟩

/-! Old logs first, but not too many: `DeleteFiles("/var/log/app", SortOrder = "Ascending", MaxFilesToDelete = 5)`. -/

/-- The request for five old files. -/
def rotating : Call :=
  ⟨"DeleteFiles", [⟨none, .const (.string "/var/log/app")⟩, ⟨some "SortOrder", .const (.string "Ascending")⟩,
    ⟨some "MaxFilesToDelete", .const (.int 5)⟩]⟩

theorem plain_rotating : Plain rotating := by
  have hplace : ∀ i a s, rotating.args[i]? = some a → Setting.Asked s i a →
      [Setting.folder, .order, .limit][i]? = some s := by
    intro i a s hi hs
    match i, hi with
    | 0, rfl => rw [hs.1]; rfl
    | 1, rfl => rw [hs.unique (Setting.asked_of_name (s := .order) rfl)]; rfl
    | 2, rfl => rw [hs.unique (Setting.asked_of_name (s := .limit) rfl)]; rfl
  refine ⟨?_, fun i a j b s hi hj hs ht => ?_, ?_⟩
  · intro a ha word hword
    simp only [rotating, List.mem_cons, List.not_mem_nil, or_false] at ha
    rcases ha with rfl | rfl | rfl
    · cases hword
    · exact ⟨.order, (Option.some.inj hword).symm⟩
    · exact ⟨.limit, (Option.some.inj hword).symm⟩
  · have hi := hplace i a s hi hs
    have hlt := (List.getElem?_eq_some_iff.1 hi).1
    exact (List.getElem?_inj hlt (by decide)).1 (hi.trans (hplace j b s hj ht).symm)
  · intro a ha
    simp only [rotating, List.mem_cons, List.not_mem_nil, or_false] at ha
    rcases ha with rfl | rfl | rfl <;> exact ⟨_, rfl⟩

/-- The request is honoured: five files go, the oldest first. -/
theorem deletion_follows_rotating : Plain rotating ∧ Honoured rotating ⟨"/var/log/app", .ascending, 5, false⟩ :=
  ⟨plain_rotating, ((deletion_follows _ _).2 plain_rotating).1.1 rfl⟩

/-! A limit whose name is in lower case: `DeleteFiles("/tmp/logs", maxfilestodelete = 5)`. -/

/-- The request for five files. -/
def hushed : Call :=
  ⟨"DeleteFiles", [⟨none, .const (.string "/tmp/logs")⟩, ⟨some "maxfilestodelete", .const (.int 5)⟩]⟩

/-- **A limit that is accepted, but not heard**: all files go. -/
theorem limit_unheard : readCleanup hushed = .ok ⟨"/tmp/logs", .ascending, 0, false⟩ ∧
    ¬∀ c k, readCleanup c = .ok k → Honoured c k := by
  have hread : readCleanup hushed = .ok ⟨"/tmp/logs", .ascending, 0, false⟩ := rfl
  have hasked : Setting.limit.Asked 1 ⟨some "maxfilestodelete", .const (.int 5)⟩ := by
    unfold Setting.Asked
    decide
  refine ⟨hread, fun h => ?_⟩
  have hlimit : Term.const (.int 5) = .const (.int 0) := (h _ _ hread).limit_zero rfl rfl hasked
  cases hlimit

end Remedy.Repair
