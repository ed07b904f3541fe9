import Mathlib
import Remedy.Proofs.Context.Suspension
/-!
# Proofs.Context.Delivery — which events come to whom

Operations on the contexts, new subscriptions, receivers that read and receivers that go away follow one another in any
order (`Happening`).  Of every receiver an account can be kept that nobody else enters into (`Account.meet`): the events
emitted while it was there, each with whether its buffer had room at that moment, and how many it has read.  The
subscribers that are there are those of the open accounts, with the same events waiting, and what is counted as dropped
is what the accounts lack (`Books`); every happening keeps this (`Books.meet`).  So what a receiver gets is what was
emitted since it subscribed but for what its full buffer had to leave out (`delivery_exact`).
-/
namespace Remedy

/-! ## Stacks of events that wait -/

namespace Stack

variable {α : Type}

def ofList (l : List α) : Stack α := l.foldl Stack.push .empty

theorem items_pushAll : ∀ (l : List α) (s : Stack α), (l.foldl Stack.push s).items = l.reverse ++ s.items
  | [], _ => rfl
  | a :: l, s => by
    rw [List.foldl_cons, items_pushAll l, List.reverse_cons, List.append_assoc]
    rfl

theorem items_ofList (l : List α) : (ofList l).items = l.reverse :=
  (items_pushAll l .empty).trans (List.append_nil _)

theorem height_ofList (l : List α) : (ofList l).height = l.length := by
  rw [← Stack.height_eq, items_ofList, List.length_reverse]

theorem eq_of_items : ∀ {s s' : Stack α}, s.items = s'.items → s = s'
  | ⟨_, _, rfl⟩, ⟨_, _, rfl⟩, rfl => rfl

theorem skip_ofList (l : List α) (n : Nat) : (ofList l).skip n = .ofList (l.drop n) := by
  apply eq_of_items
  show (ofList l).items.take ((ofList l).height - n) = _
  rw [items_ofList, items_ofList, height_ofList, List.reverse_drop]

theorem cut_ofList (l : List α) (n : Nat) : ((ofList l).cut n).items.reverse = l.take n := by
  show ((ofList l).items.drop ((ofList l).height - n)).reverse = _
  rw [items_ofList, height_ofList, ← List.reverse_take, List.reverse_reverse]

end Stack

namespace Context

/-! ## Accounts of receivers -/

/-- **What can happen**: an operation on the contexts, a new subscription, a receiver that goes away, or one that reads
some of the events that wait for it. -/
inductive Happening
  | operation (op : Operation)
  | subscribe
  | leave (id : Nat)
  | read (id n : Nat)

namespace Happening

def isLeave (i : Nat) : Happening → Bool
  | .leave id => id == i
  | _ => false

def isSubscribe : Happening → Bool
  | .subscribe => true
  | _ => false

/-- It is not another receiver that reads or goes away. -/
def concerns (i : Nat) : Happening → Bool
  | .leave id => id == i
  | .read id _ => id == i
  | _ => true

end Happening

/-- **The account of a receiver**: the events emitted while it was there, each with whether there was room for it, the
number of events that it has read, and whether it is still there. -/
structure Account where
  number : Nat
  log : List (Event × Bool)
  taken : Nat
  live : Bool

def Subscriber.deal (h : Happening) (events : List Event) (s : Subscriber) : Option Subscriber :=
  match h with
  | .operation _ => some (s.receive events)
  | .subscribe => some s
  | .leave id => if s.id = id then none else some s
  | .read id n => some (if s.id = id then { s with unread := s.unread.skip n } else s)

namespace Account

variable {a : Account} {e : Event} {events : List Event} {h : Happening}

def fresh (number : Nat) : Account := ⟨number, [], 0, true⟩

def received (a : Account) : List Event := (a.log.filter (·.2)).map (·.1)

def omitted (a : Account) : List Event := (a.log.filter (!·.2)).map (·.1)

def read (a : Account) : List Event := a.received.take a.taken

def unread (a : Account) : List Event := a.received.drop a.taken

def offer (a : Account) (e : Event) : Account := { a with log := a.log ++ [(e, decide (a.unread.length < capacity))] }

def take (a : Account) (n : Nat) : Account := { a with taken := min (a.taken + n) a.received.length }

/-- **What happens is entered**, as long as the receiver is there: what is emitted is offered to it, and otherwise only
its own doing counts. -/
def meet (h : Happening) (events : List Event) (a : Account) : Account :=
  if a.live then
    match h with
    | .operation _ => events.foldl offer a
    | .subscribe => a
    | .leave id => if a.number = id then { a with live := false } else a
    | .read id n => if a.number = id then a.take n else a
  else a

def Sound (a : Account) : Prop := a.taken ≤ a.received.length

def subscriber (a : Account) : Subscriber := ⟨a.number, .ofList a.unread, true⟩

theorem received_offer (a : Account) (e : Event) :
    (a.offer e).received = a.received ++ if a.unread.length < capacity then [e] else [] := by
  unfold received offer
  rw [List.filter_append, List.map_append]
  by_cases hroom : a.unread.length < capacity <;> simp [hroom]

theorem omitted_offer (a : Account) (e : Event) :
    (a.offer e).omitted = a.omitted ++ if a.unread.length < capacity then [] else [e] := by
  unfold omitted offer
  rw [List.filter_append, List.map_append]
  by_cases hroom : a.unread.length < capacity <;> simp [hroom]

theorem Sound.offer (ha : a.Sound) (e : Event) : (a.offer e).Sound := by
  unfold Sound
  rw [received_offer, List.length_append]
  exact Nat.le_add_right_of_le ha

theorem unread_offer (ha : a.Sound) (e : Event) :
    (a.offer e).unread = a.unread ++ if a.unread.length < capacity then [e] else [] := by
  show (a.offer e).received.drop a.taken = _
  rw [received_offer, List.drop_append_of_le_length ha]
  rfl

/-- **What emitting does to an account**: what the buffer has room for waits, the rest is omitted, and nothing else
changes. -/
structure Offered (a b : Account) (events : List Event) : Prop where
  sound : b.Sound
  number : b.number = a.number
  live : b.live = a.live
  taken : b.taken = a.taken
  log : b.log.map (·.1) = a.log.map (·.1) ++ events
  read : b.read = a.read
  subscriber : b.subscriber = a.subscriber.receive events
  omitted : b.omitted.length = a.omitted.length + (events.length - (capacity - a.unread.length))

theorem offered : ∀ (events : List Event) {a : Account}, a.Sound → a.Offered (events.foldl offer a) events
  | [], a, ha => by
    refine ⟨ha, rfl, rfl, rfl, (List.append_nil _).symm, rfl, ?_, by simp⟩
    unfold Subscriber.receive
    rw [List.take_nil]
    rfl
  | e :: events, a, ha => by
    have hsub : (a.offer e).subscriber = a.subscriber.receive [e] := by
      unfold subscriber Subscriber.receive
      simp only [Stack.height_ofList]
      rw [unread_offer ha]
      by_cases hroom : a.unread.length < capacity
      · rw [if_pos hroom, List.take_of_length_le (show [e].length ≤ _ from Nat.sub_pos_of_lt hroom)]
        unfold Stack.ofList
        rw [List.foldl_append]
        rfl
      · rw [if_neg hroom, Nat.sub_eq_zero_of_le (Nat.le_of_not_lt hroom), List.append_nil]
        rfl
    have hread : (a.offer e).read = a.read := by
      show (a.offer e).received.take a.taken = _
      rw [received_offer, List.take_append_of_le_length ha]
      rfl
    have hlog : (a.offer e).log.map (·.1) = a.log.map (·.1) ++ [e] := by
      unfold offer
      rw [List.map_append]
      rfl
    obtain ⟨hs, hn, hl, ht, hg, hr, hsubs, ho⟩ := offered events (ha.offer e)
    refine ⟨hs, hn, hl, ht, ?_, hr.trans hread, ?_, ?_⟩
    · rw [List.foldl_cons, hg, hlog, List.append_assoc]
      rfl
    · rw [List.foldl_cons, hsubs, hsub, ← Subscriber.receive_append]
      rfl
    · rw [List.foldl_cons, ho, omitted_offer, unread_offer ha, List.length_cons]
      by_cases hroom : a.unread.length < capacity
      · rw [if_pos hroom, if_pos hroom, List.append_nil, List.length_append]
        simp only [List.length_singleton]
        omega
      · rw [if_neg hroom, if_neg hroom, List.append_nil, List.length_append]
        simp only [List.length_singleton]
        omega

theorem Sound.take (a : Account) (n : Nat) : (a.take n).Sound := Nat.min_le_right _ _

theorem read_take (a : Account) (n : Nat) : (a.take n).read = a.read ++ a.unread.take n := by
  show a.received.take (min (a.taken + n) a.received.length) = _
  rw [← List.take_eq_take_min, List.take_add]
  rfl

theorem unread_take (a : Account) (n : Nat) : (a.take n).unread = a.unread.drop n := by
  show a.received.drop (min (a.taken + n) a.received.length) = (a.received.drop a.taken).drop n
  rw [List.drop_drop]
  by_cases hn : a.taken + n ≤ a.received.length
  · rw [Nat.min_eq_left hn]
  · rw [Nat.min_eq_right (Nat.le_of_not_le hn), List.drop_length, List.drop_eq_nil_of_le (Nat.le_of_not_le hn)]

theorem subscriber_take (a : Account) (n : Nat) :
    (a.take n).subscriber = { a.subscriber with unread := a.subscriber.unread.skip n } := by
  unfold subscriber
  rw [unread_take]
  simp only [Stack.skip_ofList]
  rfl

/-- What happens neither gives a receiver another number nor has it read more than it has received. -/
theorem number_meet (h : Happening) (events : List Event) (a : Account) (ha : a.Sound) :
    (a.meet h events).number = a.number := by
  unfold meet
  split
  · cases h with
    | operation => exact (offered events ha).number
    | subscribe => rfl
    | leave => simp only; split <;> rfl
    | read => simp only; split <;> rfl
  · rfl

theorem Sound.meet (ha : a.Sound) (h : Happening) (events : List Event) : (a.meet h events).Sound := by
  unfold Account.meet
  split
  · cases h with
    | operation => exact (offered events ha).sound
    | subscribe => exact ha
    | leave => simp only; split <;> exact ha
    | read id n =>
      simp only
      split
      · exact .take a n
      · exact ha
  · exact ha

/-- The subscriber that an account describes while it is open. -/
def shown (a : Account) : Option Subscriber := if a.live then some a.subscriber else none

/-- **A subscriber does what its account says.** -/
theorem shown_meet (ha : a.Sound) (h : Happening) (events : List Event) :
    (a.meet h events).shown = a.shown.bind (·.deal h events) := by
  unfold meet shown
  by_cases hlive : a.live = true
  · rw [if_pos hlive, if_pos hlive]
    cases h with
    | operation op =>
      have hoff := offered events ha
      simp only [hoff.live, hlive, if_true, hoff.subscriber]
      rfl
    | subscribe => simp only [hlive, if_true]; rfl
    | leave id =>
      show _ = if a.number = id then none else some a.subscriber
      simp only
      split
      · rfl
      · rfl
    | read id n =>
      show _ = some (if a.number = id then { a.subscriber with unread := a.subscriber.unread.skip n } else a.subscriber)
      simp only
      split
      · rw [← subscriber_take]
        exact if_pos hlive
      · rfl
  · rw [if_neg hlive, if_neg hlive]
    rfl

/-- **What an account comes to lack** is what its subscriber has no room for. -/
theorem omitted_meet (ha : a.Sound) (op : Operation) (events : List Event) :
    (a.meet (.operation op) events).omitted.length =
      a.omitted.length + a.shown.elim 0 (·.overflow events) := by
  unfold meet shown
  by_cases hlive : a.live = true
  · rw [if_pos hlive, if_pos hlive]
    simp only [(offered events ha).omitted]
    unfold subscriber Subscriber.overflow
    simp only [Option.elim, Stack.height_ofList, if_true]
  · rw [if_neg hlive, if_neg hlive]
    rfl

theorem omitted_meet_of_quiet (hq : ∀ op, h ≠ .operation op) (events : List Event) (a : Account) :
    (a.meet h events).omitted = a.omitted := by
  unfold meet
  split
  · cases h with
    | operation op => exact absurd rfl (hq op)
    | subscribe => rfl
    | leave => simp only; split <;> rfl
    | read => simp only; split <;> rfl
  · rfl

/-- **Nobody else enters into an account.** -/
theorem meet_of_not_concerns (hc : h.concerns a.number = false) (events : List Event) : a.meet h events = a := by
  unfold meet
  cases h with
  | operation => cases hc
  | subscribe => cases hc
  | leave => simp only [if_neg (Ne.symm (beq_eq_false_iff_ne.1 hc)), ite_self]
  | read => simp only [if_neg (Ne.symm (beq_eq_false_iff_ne.1 hc)), ite_self]

end Account

/-! ## Runs -/

namespace Tree

variable {t : Tree} {h : Happening} {hs : List Happening} {accounts : List Account} {i : Nat}

def meet (t : Tree) : Happening → Tree
  | .operation op => t.perform op
  | .subscribe => t.subscribe.2
  | .leave id => t.unsubscribe id
  | .read id n => (t.readUpTo id n).2

def emits (t : Tree) : Happening → List Event
  | .operation op => (op.act t.forest).2
  | _ => []

def hands (t : Tree) (i : Nat) : Happening → List Event
  | .read id n => if id = i then (t.readUpTo id n).1 else []
  | _ => []

def through (t : Tree) (hs : List Happening) : Tree := hs.foldl meet t

/-- **The events emitted in a run.** -/
def emitted : Tree → List Happening → List Event
  | _, [] => []
  | t, h :: hs => t.emits h ++ (t.meet h).emitted hs

/-- **The events that a receiver gets in a run.** -/
def handed (i : Nat) : Tree → List Happening → List Event
  | _, [] => []
  | t, h :: hs => t.hands i h ++ (t.meet h).handed i hs

/-- What happens is entered in all accounts; one who subscribes has a new one. -/
def enter (t : Tree) (accounts : List Account) (h : Happening) : List Account :=
  accounts.map (·.meet h (t.emits h)) ++ if h.isSubscribe then [.fresh accounts.length] else []

/-- **The accounts after a run.** -/
def ledger : Tree → List Account → List Happening → List Account
  | _, accounts, [] => accounts
  | t, accounts, h :: hs => (t.meet h).ledger (t.enter accounts h) hs

/-- **The accounts agree with the tree**: there is one for every subscription, the subscribers that are there are those
of the open accounts, no two have one number, and what is counted as dropped is what the accounts lack. -/
structure Books (t : Tree) (accounts : List Account) : Prop where
  count : accounts.length = t.subscriptions
  number : ∀ i (a : Account), accounts[i]? = some a → a.number = i
  sound : ∀ a ∈ accounts, a.Sound
  present : t.present = accounts.filterMap (·.shown)
  ids : (t.subscribers.map (·.id)).Sublist (List.range t.subscriptions)
  dropped : t.dropped = (accounts.map (·.omitted.length)).sum

theorem books_root : Books root [] := ⟨rfl, nofun, nofun, rfl, .slnil, rfl⟩

/-! ### What happens to the subscribers -/

/-- An operation changes the subscribers, and what is counted about them, by what it emits. -/
theorem perform_frame (t : Tree) (op : Operation) :
    (t.perform op).subscriptions = t.subscriptions ∧
      (t.perform op).dropped = (t.publish (op.act t.forest).2).dropped := by
  have hpublish : ∀ (f : Forest) (events : List Event),
      (({ t with forest := f } : Tree).publish events).subscriptions = t.subscriptions ∧
        (({ t with forest := f } : Tree).publish events).dropped = (t.publish events).dropped := by
    intro f events
    unfold publish
    split <;> exact ⟨rfl, rfl⟩
  cases hop : op.task? with
  | none =>
    rw [perform_eq hop, change]
    simp only
    split
    · exact hpublish _ _
    · exact hpublish _ _
  | some task =>
    cases op with
    | whenStable task =>
      unfold perform whenStable
      simp only
      split <;> exact ⟨rfl, rfl⟩
    | _ => cases hop

theorem foldl_overflow (events : List Event) : ∀ (l : List Subscriber) (n : Nat),
    l.foldl (fun n s => n + s.overflow events) n = n + ((l.filter (·.present)).map (·.overflow events)).sum
  | [], _ => rfl
  | s :: l, n => by
    rw [List.foldl_cons, foldl_overflow events l, List.filter_cons]
    by_cases hs : s.present = true
    · rw [if_pos hs, List.map_cons, List.sum_cons, Nat.add_assoc]
    · have hnone : s.overflow events = 0 := if_neg hs
      rw [if_neg hs, hnone, Nat.add_zero]

theorem dropped_publish (t : Tree) (events : List Event) :
    (t.publish events).dropped = t.dropped + (t.present.map (·.overflow events)).sum := by
  unfold publish
  split
  · rename_i he
    have hnone : ∀ s : Subscriber, s.overflow events = 0 := by
      intro s
      rw [List.isEmpty_iff.1 he]
      unfold Subscriber.overflow
      split
      · exact Nat.zero_sub _
      · rfl
    simp only [hnone, List.map_const', List.sum_replicate_nat, Nat.mul_zero, Nat.add_zero]
  · exact foldl_overflow events t.subscribers t.dropped

/-- A change of subscribers that brings nobody back, seen among those who are there. -/
theorem filter_present_map {f : Subscriber → Subscriber} {g : Subscriber → Option Subscriber}
    (hg : ∀ s, s.present = true → g s = if (f s).present then some (f s) else none)
    (hf : ∀ s, (f s).present = true → s.present = true) : ∀ l : List Subscriber,
    (l.map f).filter (·.present) = (l.filter (·.present)).filterMap g
  | [] => rfl
  | s :: l => by
    rw [List.map_cons, List.filter_cons, List.filter_cons, filter_present_map hg hf l]
    by_cases hs : s.present = true
    · rw [if_pos hs, List.filterMap_cons, hg s hs]
      split <;> rfl
    · rw [if_neg hs, if_neg fun h => hs (hf s h)]

/-- **What happens to those who are there.** -/
theorem present_meet (t : Tree) (h : Happening) :
    (t.meet h).present = t.present.filterMap (·.deal h (t.emits h)) ++
      if h.isSubscribe then [(Account.fresh t.subscriptions).subscriber] else [] := by
  cases h with
  | operation op =>
    have hsubs := subscribers_perform t op
    show (t.perform op).present = _
    unfold present
    rw [hsubs]
    refine (present_publish t _).trans ((List.append_nil _).trans ?_).symm
    exact congrFun List.filterMap_eq_map _
  | subscribe =>
    show (t.subscribers ++ [_]).filter _ = _
    rw [List.filter_append]
    exact congrArg (· ++ _) List.filterMap_some.symm
  | leave id =>
    refine Eq.trans ?_ (List.append_nil _).symm
    refine filter_present_map (fun s hs => ?_) (fun s hs => ?_) t.subscribers
    · show (if s.id = id then none else some s) = _
      split
      · rfl
      · rfl
    · split at hs
      · cases hs
      · exact hs
  | read id n =>
    refine Eq.trans ?_ (List.append_nil _).symm
    have hkept : ∀ s : Subscriber,
        (if s.id = id then { s with unread := s.unread.skip n } else s).present = s.present := by
      intro s
      split <;> rfl
    refine filter_present_map (fun s hs => ?_) (fun s hs => (hkept s).symm.trans hs) t.subscribers
    rw [if_pos ((hkept s).trans hs)]
    rfl

theorem subscriptions_meet (t : Tree) (h : Happening) :
    (t.meet h).subscriptions = t.subscriptions + if h.isSubscribe then 1 else 0 := by
  cases h with
  | operation op => exact (perform_frame t op).1
  | subscribe => rfl
  | leave => rfl
  | read => rfl

theorem dropped_meet (t : Tree) (h : Happening) :
    (t.meet h).dropped = t.dropped + match h with
      | .operation op => (t.present.map (·.overflow (op.act t.forest).2)).sum
      | _ => 0 := by
  cases h with
  | operation op => exact (perform_frame t op).2.trans (dropped_publish t _)
  | subscribe => rfl
  | leave => rfl
  | read => rfl

theorem ids_meet (t : Tree) (h : Happening) :
    ((t.meet h).subscribers.map (·.id)).Sublist
      (t.subscribers.map (·.id) ++ if h.isSubscribe then [t.subscriptions] else []) := by
  have hupdate : ∀ (id : Nat) (f : Subscriber → Subscriber), (∀ s, (f s).id = s.id) →
      (t.updateSubscriber id f).subscribers.map (·.id) = t.subscribers.map (·.id) := by
    intro id f hf
    show (t.subscribers.map _).map _ = _
    rw [List.map_map]
    refine List.map_congr_left fun s _ => ?_
    show (if s.id = id then f s else s).id = s.id
    split
    · exact hf s
    · rfl
  cases h with
  | operation op =>
    have hsubs := subscribers_perform t op
    show ((t.perform op).subscribers.map _).Sublist _
    rw [hsubs]
    refine List.Sublist.trans ?_ (List.sublist_append_left _ _)
    unfold publish
    split
    · exact .refl _
    · rw [List.map_map]
      exact (List.filter_sublist).map _
  | subscribe =>
    show ((t.subscribers ++ [_]).map _).Sublist _
    rw [List.map_append]
    exact .refl _
  | leave id =>
    rw [show (t.meet (.leave id)).subscribers.map (·.id) = _ from hupdate id _ fun _ => rfl]
    exact List.sublist_append_left _ _
  | read id n =>
    rw [show (t.meet (.read id n)).subscribers.map (·.id) = _ from hupdate id _ fun _ => rfl]
    exact List.sublist_append_left _ _

theorem forest_meet (t : Tree) (h : Happening) :
    (t.meet h).forest = match h with
      | .operation op => (op.act t.forest).1
      | _ => t.forest := by
  cases h with
  | operation op => exact forest_perform t op
  | subscribe => rfl
  | leave => rfl
  | read => rfl

/-! ### What is entered in the accounts -/

theorem enter_of_lt {a : Account} (ha : accounts[i]? = some a) (t : Tree) (h : Happening) :
    (t.enter accounts h)[i]? = some (a.meet h (t.emits h)) := by
  obtain ⟨hi, rfl⟩ := List.getElem?_eq_some_iff.1 ha
  unfold enter
  rw [List.getElem?_append_left (by rw [List.length_map]; exact hi), List.getElem?_map, ha]
  rfl

/-- An account is an earlier one, to which what has happened has been added, or that of one who has just subscribed. -/
theorem of_enter {a : Account} (ha : (t.enter accounts h)[i]? = some a) :
    (∃ b, accounts[i]? = some b ∧ a = b.meet h (t.emits h)) ∨
      (h.isSubscribe = true ∧ i = accounts.length ∧ a = .fresh accounts.length) := by
  unfold enter at ha
  by_cases hi : i < accounts.length
  · rw [List.getElem?_append_left (by rw [List.length_map]; exact hi), List.getElem?_map] at ha
    obtain ⟨b, hb, rfl⟩ := Option.map_eq_some_iff.1 ha
    exact .inl ⟨b, hb, rfl⟩
  · rw [List.getElem?_append_right (by rw [List.length_map]; exact Nat.le_of_not_lt hi), List.length_map] at ha
    split at ha
    · rename_i hsub
      obtain ⟨hlt, rfl⟩ := List.getElem?_eq_some_iff.1 ha
      have hlt : i - accounts.length < 1 := hlt
      exact .inr ⟨hsub, by omega, List.getElem_singleton ..⟩
    · cases ha

theorem length_enter (t : Tree) (accounts : List Account) (h : Happening) :
    (t.enter accounts h).length = accounts.length + if h.isSubscribe then 1 else 0 := by
  unfold enter
  rw [List.length_append, List.length_map]
  split <;> rfl

theorem sum_omitted (hs : ∀ a ∈ accounts, a.Sound) (op : Operation) (events : List Event) :
    ((accounts.map (·.meet (.operation op) events)).map (·.omitted.length)).sum =
      (accounts.map (·.omitted.length)).sum + ((accounts.filterMap (·.shown)).map (·.overflow events)).sum := by
  induction accounts with
  | nil => rfl
  | cons a rest ih =>
    obtain ⟨ha, hrest⟩ := List.forall_mem_cons.1 hs
    rw [List.map_cons, List.map_cons, List.sum_cons, ih hrest, Account.omitted_meet ha, List.map_cons, List.sum_cons,
      List.filterMap_cons]
    cases a.shown with
    | none =>
      simp only [Option.elim]
      omega
    | some s =>
      simp only [Option.elim, List.map_cons, List.sum_cons]
      omega

theorem sum_enter (b : Books t accounts) (h : Happening) :
    ((t.enter accounts h).map (·.omitted.length)).sum = (accounts.map (·.omitted.length)).sum + match h with
      | .operation op => (t.present.map (·.overflow (op.act t.forest).2)).sum
      | _ => 0 := by
  have hquiet : (∀ op, h ≠ .operation op) →
      ((t.enter accounts h).map (·.omitted.length)).sum = (accounts.map (·.omitted.length)).sum := by
    intro hq
    have hsame : ∀ a : Account, (a.meet h (t.emits h)).omitted = a.omitted := Account.omitted_meet_of_quiet hq _
    unfold enter
    rw [List.map_append, List.map_map, List.sum_append]
    simp only [Function.comp_def, hsame]
    split <;> rfl
  cases h with
  | operation op =>
    unfold enter
    rw [b.present]
    exact (congrArg (fun l => (List.map _ l).sum) (List.append_nil _)).trans (sum_omitted b.sound op _)
  | subscribe => exact hquiet nofun
  | leave => exact hquiet nofun
  | read => exact hquiet nofun

/-- **Whatever happens, the accounts agree with the tree.** -/
theorem Books.meet (b : Books t accounts) (h : Happening) : Books (t.meet h) (t.enter accounts h) := by
  refine ⟨?_, fun i a ha => ?_, fun a ha => ?_, ?_, ?_, ?_⟩
  · rw [length_enter, subscriptions_meet, b.count]
  · rcases of_enter ha with ⟨a, hold, rfl⟩ | ⟨-, rfl, rfl⟩
    · exact (Account.number_meet h _ a (b.sound a (List.mem_of_getElem? hold))).trans (b.number i a hold)
    · rfl
  · obtain ⟨i, ha⟩ := List.mem_iff_getElem?.1 ha
    rcases of_enter ha with ⟨a, hold, rfl⟩ | ⟨-, -, rfl⟩
    · exact (b.sound a (List.mem_of_getElem? hold)).meet h _
    · exact Nat.le_refl 0
  · have hold : (accounts.map (·.meet h (t.emits h))).filterMap (·.shown) =
        t.present.filterMap (·.deal h (t.emits h)) := by
      rw [b.present, List.filterMap_map, List.filterMap_filterMap]
      exact List.filterMap_congr fun a ha => Account.shown_meet (b.sound a ha) h _
    rw [present_meet, enter, List.filterMap_append, hold, b.count]
    split <;> rfl
  · refine (ids_meet t h).trans ?_
    rw [subscriptions_meet]
    split
    · rw [List.range_succ]
      exact b.ids.append (.refl _)
    · rw [List.append_nil]
      exact b.ids
  · rw [dropped_meet, b.dropped]
    exact (sum_enter b h).symm

theorem Books.through : ∀ (hs : List Happening) {t : Tree} {accounts : List Account}, Books t accounts →
    Books (t.through hs) (t.ledger accounts hs)
  | [], _, _, b => b
  | h :: hs, _, _, b => (b.meet h).through hs

/-! ## What a receiver gets -/

theorem filter_id {s : Subscriber} : ∀ l : List Subscriber, (l.map (·.id)).Nodup → s ∈ l →
    l.filter (·.id == s.id) = [s]
  | [], _, h => by cases h
  | s' :: l, hn, h => by
    rw [List.map_cons, List.nodup_cons] at hn
    rcases List.mem_cons.1 h with rfl | h
    · rw [List.filter_cons, if_pos (beq_self_eq_true _)]
      refine congrArg (_ :: ·) (List.filter_eq_nil_iff.2 fun s' hs' he => hn.1 ?_)
      exact List.mem_map.2 ⟨s', hs', beq_iff_eq.1 he⟩
    · have hne : ¬ (s'.id == s.id) = true := fun he => hn.1 (List.mem_map.2 ⟨s, h, (beq_iff_eq.1 he).symm⟩)
      rw [List.filter_cons, if_neg hne]
      exact filter_id l hn.2 h

/-- **The subscriber of an open account** is there, once. -/
theorem Books.found (b : Books t accounts) {a : Account} (ha : accounts[i]? = some a) (hlive : a.live = true) :
    t.subscribers.filter (·.id == i) = [a.subscriber] := by
  have hid : a.subscriber.id = i := b.number i a ha
  have hmem : a.subscriber ∈ t.present := by
    rw [b.present]
    exact List.mem_filterMap.2 ⟨a, List.mem_of_getElem? ha, if_pos hlive⟩
  have hnodup : (t.subscribers.map (·.id)).Nodup := b.ids.nodup List.nodup_range
  exact hid ▸ filter_id t.subscribers hnodup (List.mem_filter.1 hmem).1

theorem readUpTo_eq (t : Tree) (i n : Nat) :
    (t.readUpTo i n).1 =
      ((t.subscribers.filter (·.id == i)).head?.map fun s => (s.unread.cut n).items.reverse).getD [] := by
  rw [List.head?_filter]
  rfl

theorem Books.hands (b : Books t accounts) {a : Account} (ha : accounts[i]? = some a) (h : Happening)
    (hlive : (a.meet h (t.emits h)).live = true) : (a.meet h (t.emits h)).read = a.read ++ t.hands i h := by
  have hsound := b.sound a (List.mem_of_getElem? ha)
  have hnumber := b.number i a ha
  unfold Account.meet at hlive ⊢
  split at hlive
  · rename_i ho
    rw [if_pos ho]
    cases h with
    | operation op => exact (Account.offered _ hsound).read.trans (List.append_nil _).symm
    | subscribe => exact (List.append_nil _).symm
    | leave id =>
      simp only
      split <;> exact (List.append_nil _).symm
    | read id n =>
      show _ = _ ++ if id = i then (t.readUpTo id n).1 else []
      simp only [hnumber]
      by_cases hid : i = id
      · subst hid
        rw [if_pos rfl, if_pos rfl, readUpTo_eq, b.found ha ho, Account.read_take]
        exact congrArg (a.read ++ ·) (Stack.cut_ofList a.unread n).symm
      · rw [if_neg hid, if_neg (Ne.symm hid), List.append_nil]
  · rename_i hclosed
    exact absurd hlive hclosed

theorem Books.hands_of_le (b : Books t accounts) (hi : accounts.length ≤ i) (h : Happening) : t.hands i h = [] := by
  cases h with
  | read id n =>
    show (if id = i then (t.readUpTo id n).1 else []) = []
    split
    · rename_i hid
      have hnone : t.subscribers.filter (·.id == id) = [] := by
        refine List.filter_eq_nil_iff.2 fun s hs he => ?_
        have hlt : s.id < t.subscriptions :=
          List.mem_range.1 (b.ids.subset (List.mem_map.2 ⟨s, hs, rfl⟩))
        rw [beq_iff_eq.1 he, hid, ← b.count] at hlt
        exact absurd hlt (Nat.not_lt.2 hi)
      rw [readUpTo_eq, hnone]
      rfl
    · rfl
  | _ => rfl

def follow : Tree → List Happening → Account → Account
  | _, [], a => a
  | t, h :: hs, a => (t.meet h).follow hs (a.meet h (t.emits h))

theorem ledger_of_lt : ∀ (hs : List Happening) {t : Tree} {accounts : List Account} {a : Account},
    accounts[i]? = some a → (t.ledger accounts hs)[i]? = some (t.follow hs a)
  | [], _, _, _, ha => ha
  | h :: hs, t, _, _, ha => ledger_of_lt hs (enter_of_lt ha t h)

theorem follow_of_closed : ∀ (hs : List Happening) (t : Tree) {a : Account}, a.live = false → t.follow hs a = a
  | [], _, _, _ => rfl
  | h :: hs, t, a, hc => by
    have hsame : a.meet h (t.emits h) = a := if_neg (by rw [hc]; exact Bool.false_ne_true)
    show (t.meet h).follow hs (a.meet h (t.emits h)) = a
    rw [hsame]
    exact follow_of_closed hs _ hc

/-- **What a receiver has got** is what its account says that it has read. -/
theorem Books.handed : ∀ (hs : List Happening) {t : Tree} {accounts : List Account}, Books t accounts →
    ∀ {a : Account}, (t.ledger accounts hs)[i]? = some a → a.live = true →
      a.read = ((accounts[i]?).map Account.read).getD [] ++ t.handed i hs
  | [], t, accounts, b, a, ha, hlive => by
    have ha : accounts[i]? = some a := ha
    rw [ha]
    exact (List.append_nil _).symm
  | h :: hs, t, accounts, b, a, ha, hlive => by
    rw [(b.meet h).handed hs ha hlive]
    show _ = _ ++ (t.hands i h ++ (t.meet h).handed i hs)
    rw [← List.append_assoc]
    refine congrArg (· ++ _) ?_
    cases hacc : accounts[i]? with
    | none =>
      rw [b.hands_of_le (List.getElem?_eq_none_iff.1 hacc)]
      cases hnew : (t.enter accounts h)[i]? with
      | none => rfl
      | some c =>
        rcases of_enter hnew with ⟨c', hc', -⟩ | ⟨-, -, rfl⟩
        · rw [hacc] at hc'
          cases hc'
        · rfl
    | some c =>
      have hnew := enter_of_lt hacc t h
      rw [hnew]
      refine b.hands hacc h ?_
      -- an account that has been closed is not open in the end
      by_contra hclosed
      have hend : (t.ledger accounts (h :: hs))[i]? = _ := ledger_of_lt hs hnew
      rw [follow_of_closed hs _ (Bool.eq_false_iff.2 hclosed), ha] at hend
      exact hclosed (Option.some.inj hend ▸ hlive)

/-- **What an account tells of** is what has been emitted until its receiver went away. -/
theorem log_follow : ∀ (hs : List Happening) (t : Tree) {a : Account}, a.Sound → a.live = true →
    (t.follow hs a).log.map (·.1) =
        a.log.map (·.1) ++ t.emitted (hs.takeWhile fun h => !h.isLeave a.number) ∧
      (t.follow hs a).live = hs.all fun h => !h.isLeave a.number
  | [], t, a, _, hlive => ⟨(List.append_nil _).symm, hlive⟩
  | h :: hs, t, a, ha, hlive => by
    have hnumber := Account.number_meet h (t.emits h) a ha
    have hsound := ha.meet h (t.emits h)
    show ((t.meet h).follow hs (a.meet h (t.emits h))).log.map (·.1) = _ ∧
      ((t.meet h).follow hs (a.meet h (t.emits h))).live = _
    by_cases hl : h.isLeave a.number = true
    · have hclosed : a.meet h (t.emits h) = { a with live := false } := by
        unfold Account.meet
        rw [if_pos hlive]
        cases h with
        | leave id => exact if_pos (beq_iff_eq.1 hl).symm
        | _ => cases hl
      rw [hclosed, follow_of_closed hs _ rfl, List.takeWhile_cons_of_neg (by rw [hl]; exact Bool.false_ne_true),
        List.all_cons, hl]
      exact ⟨(List.append_nil _).symm, rfl⟩
    · have hstays : (a.meet h (t.emits h)).live = true ∧
          (a.meet h (t.emits h)).log.map (·.1) = a.log.map (·.1) ++ t.emits h := by
        unfold Account.meet
        rw [if_pos hlive]
        cases h with
        | operation op => exact ⟨(Account.offered _ ha).live.trans hlive, (Account.offered _ ha).log⟩
        | subscribe => exact ⟨hlive, (List.append_nil _).symm⟩
        | leave id =>
          simp only
          rw [if_neg fun he => hl (beq_iff_eq.2 he.symm)]
          exact ⟨hlive, (List.append_nil _).symm⟩
        | read id n =>
          simp only
          split <;> exact ⟨hlive, (List.append_nil _).symm⟩
      obtain ⟨hlog, hall⟩ := log_follow hs (t.meet h) hsound hstays.1
      rw [hnumber] at hlog hall
      have hother : (!h.isLeave a.number) = true := by rw [Bool.eq_false_iff.2 hl, Bool.not_false]
      rw [hlog, hall, hstays.2, List.takeWhile_cons, if_pos hother, List.append_assoc, List.all_cons, hother]
      exact ⟨rfl, rfl⟩

theorem length_ledger : ∀ (hs : List Happening) (t : Tree) (accounts : List Account),
    (t.ledger accounts hs).length = accounts.length + hs.countP (·.isSubscribe)
  | [], _, _ => rfl
  | h :: hs, t, accounts => by
    show ((t.meet h).ledger (t.enter accounts h) hs).length = _
    rw [length_ledger hs, length_enter, List.countP_cons]
    omega

theorem ledger_append : ∀ (pre post : List Happening) (t : Tree) (accounts : List Account),
    t.ledger accounts (pre ++ post) = (t.through pre).ledger (t.ledger accounts pre) post
  | [], _, _, _ => rfl
  | h :: pre, post, t, accounts => ledger_append pre post (t.meet h) (t.enter accounts h)

theorem through_append (t : Tree) (pre post : List Happening) :
    t.through (pre ++ post) = (t.through pre).through post := List.foldl_append

/-! ## Nobody else matters -/

theorem emits_congr {t' : Tree} (hf : t.forest = t'.forest) (h : Happening) : t.emits h = t'.emits h := by
  cases h with
  | operation op => exact congrArg (fun f => (op.act f).2) hf
  | _ => rfl

theorem forest_meet_congr {t' : Tree} (hf : t.forest = t'.forest) (h : Happening) :
    (t.meet h).forest = (t'.meet h).forest := by
  rw [forest_meet, forest_meet, hf]

/-- **An account is the same** whatever other receivers do. -/
theorem ledger_filter : ∀ (hs : List Happening) {t t' : Tree} {accounts accounts' : List Account},
    t.forest = t'.forest → Books t accounts → Books t' accounts' → accounts.length = accounts'.length →
      accounts[i]? = accounts'[i]? →
        (t.ledger accounts (hs.filter (·.concerns i)))[i]? = (t'.ledger accounts' hs)[i]?
  | [], _, _, _, _, _, _, _, _, hi => hi
  | h :: hs, t, t', accounts, accounts', hf, b, b', hlen, hi => by
    show _ = ((t'.meet h).ledger (t'.enter accounts' h) hs)[i]?
    by_cases hc : h.concerns i = true
    · rw [List.filter_cons, if_pos hc]
      refine ledger_filter hs (forest_meet_congr hf h) (b.meet h) (b'.meet h) ?_ ?_
      · rw [length_enter, length_enter, hlen]
      · unfold enter
        rw [List.getElem?_append, List.getElem?_append, List.length_map, List.length_map, List.getElem?_map,
          List.getElem?_map, hi, hlen, emits_congr hf]
    · have hquiet : h.concerns i = false := Bool.eq_false_iff.2 hc
      have hsub : h.isSubscribe = false := by
        cases h with
        | subscribe => cases hquiet
        | _ => rfl
      have hforest : (t'.meet h).forest = t'.forest := by
        rw [forest_meet]
        cases h with
        | operation op => cases hquiet
        | _ => rfl
      rw [List.filter_cons, if_neg hc]
      refine ledger_filter hs (hf.trans hforest.symm) b (b'.meet h) ?_ ?_
      · rw [length_enter, hsub, hlen]
        rfl
      · rw [hi]
        cases hacc : accounts'[i]? with
        | none =>
          refine (List.getElem?_eq_none_iff.2 ?_).symm
          rw [length_enter, hsub]
          exact List.getElem?_eq_none_iff.1 hacc
        | some a =>
          rw [enter_of_lt hacc t' h, Account.meet_of_not_concerns]
          rw [b'.number i a hacc]
          exact hquiet

/-! ## Those who have gone away -/

theorem Books.ne_of_closed (b : Books t accounts) {a : Account} (ha : accounts[i]? = some a) (hc : a.live = false) :
    ∀ s ∈ t.present, s.id ≠ i := by
  intro s hs he
  rw [b.present] at hs
  obtain ⟨a', ha', hshown⟩ := List.mem_filterMap.1 hs
  obtain ⟨j, hj⟩ := List.mem_iff_getElem?.1 ha'
  unfold Account.shown at hshown
  split at hshown
  · rename_i hlive
    have hs' : a'.subscriber = s := Option.some.inj hshown
    have hji : j = i := by rw [← b.number j a' hj, ← he, ← hs']; rfl
    rw [hji, ha] at hj
    rw [← Option.some.inj hj, hc] at hlive
    cases hlive
  · cases hshown

theorem subscribers_of_emits {op : Operation} (he : (op.act t.forest).2 ≠ []) {s : Subscriber}
    (hs : s ∈ (t.perform op).subscribers) : ∃ s' ∈ t.present, s'.id = s.id := by
  rw [subscribers_perform] at hs
  unfold publish at hs
  rw [if_neg (by rw [List.isEmpty_iff]; exact he)] at hs
  obtain ⟨s', hs', rfl⟩ := List.mem_map.1 hs
  exact ⟨s', hs', rfl⟩

theorem ne_through : ∀ (hs : List Happening) {t : Tree}, i < t.subscriptions → (∀ s ∈ t.subscribers, s.id ≠ i) →
    ∀ s ∈ (t.through hs).subscribers, s.id ≠ i
  | [], _, _, hne => hne
  | h :: hs, t, hi, hne => by
    refine ne_through hs (Nat.lt_of_lt_of_le hi ?_) fun s hs => ?_
    · rw [subscriptions_meet]
      exact Nat.le_add_right _ _
    · have hmem := (ids_meet t h).subset (List.mem_map.2 ⟨s, hs, rfl⟩)
      rcases List.mem_append.1 hmem with hold | hnew
      · obtain ⟨s', hs', he⟩ := List.mem_map.1 hold
        exact he ▸ hne s' hs'
      · split at hnew
        · rw [List.mem_singleton.1 hnew]
          exact (Nat.ne_of_lt hi).symm
        · cases hnew

/-! ## What comes to whom -/

def accountsOf (hs : List Happening) : List Account := root.ledger [] hs

theorem books (hs : List Happening) : Books (root.through hs) (accountsOf hs) := books_root.through hs

theorem handed_eq {hs : List Happening} {a : Account} (ha : (accountsOf hs)[i]? = some a) (hlive : a.live = true) :
    root.handed i hs = a.read := (books_root.handed hs ha hlive).symm

theorem accountsOf_append (pre post : List Happening) :
    accountsOf (pre ++ post) = (root.through pre).ledger (accountsOf pre) post := ledger_append pre post root []

theorem length_accountsOf (hs : List Happening) : (accountsOf hs).length = hs.countP (·.isSubscribe) :=
  (length_ledger hs root []).trans (Nat.zero_add _)

/-- The account of one who subscribes in a run. -/
theorem accountsOf_subscribe (pre post : List Happening) :
    (accountsOf (pre ++ .subscribe :: post))[pre.countP (·.isSubscribe)]? =
      some (((root.through pre).meet .subscribe).follow post (.fresh (pre.countP (·.isSubscribe)))) := by
  have hnew : ((root.through pre).enter (accountsOf pre) .subscribe)[pre.countP (·.isSubscribe)]? =
      some (.fresh (pre.countP (·.isSubscribe))) := by
    unfold enter
    rw [← length_accountsOf pre, List.getElem?_append_right (Nat.le_of_eq (List.length_map _)), List.length_map,
      Nat.sub_self]
    rfl
  rw [accountsOf_append]
  exact ledger_of_lt post hnew

theorem accountsOf_leave {pre : List Happening} (hi : i < pre.countP (·.isSubscribe)) (mid : List Happening) :
    ∃ a, (accountsOf (pre ++ .leave i :: mid))[i]? = some a ∧ a.live = false := by
  obtain ⟨a, ha⟩ : ∃ a, (accountsOf pre)[i]? = some a :=
    ⟨_, List.getElem?_eq_getElem (by rw [length_accountsOf]; exact hi)⟩
  have hclosed : (a.meet (.leave i) []).live = false := by
    unfold Account.meet
    split
    · show (if a.number = i then { a with live := false } else a).live = false
      rw [if_pos ((books pre).number i a ha)]
    · rename_i hlive
      exact Bool.eq_false_iff.2 hlive
  refine ⟨a.meet (.leave i) [], ?_, hclosed⟩
  rw [accountsOf_append]
  refine (ledger_of_lt mid (enter_of_lt ha _ (.leave i))).trans (congrArg some ?_)
  exact follow_of_closed mid _ hclosed

/-- **What is known of delivery after a run.**  There is an account for each subscription.  It tells of what has been
emitted since then, until the receiver went away, and is open until then.  The receiver of an open account has one
subscriber; what it has read and what waits for it are the events that there was room for, in their order.  What is
counted as dropped is what all accounts lack.  What the other receivers do changes nothing for it; and one who has gone
away is forgotten as soon as an event is emitted. -/
structure Delivered (hs : List Happening) : Prop where
  each : (accountsOf hs).length = hs.countP (·.isSubscribe)
  since : ∀ pre post, hs = pre ++ .subscribe :: post → ∃ a,
    (accountsOf hs)[pre.countP (·.isSubscribe)]? = some a ∧
      a.log.map (·.1) = ((root.through pre).meet .subscribe).emitted
        (post.takeWhile fun h => !h.isLeave (pre.countP (·.isSubscribe))) ∧
      a.live = post.all fun h => !h.isLeave (pre.countP (·.isSubscribe))
  watched : ∀ i a, (accountsOf hs)[i]? = some a → a.live = true →
    ∃ s, (root.through hs).subscribers.filter (·.id == i) = [s] ∧ s.present = true ∧
      s.unread.items.reverse = a.unread ∧ root.handed i hs ++ s.unread.items.reverse = a.received
  dropped : (root.through hs).dropped = ((accountsOf hs).map (·.omitted.length)).sum
  apart : ∀ i a, (accountsOf hs)[i]? = some a → a.live = true →
    root.handed i (hs.filter (·.concerns i)) = root.handed i hs ∧
      (root.through (hs.filter (·.concerns i))).subscribers.filter (·.id == i) =
        (root.through hs).subscribers.filter (·.id == i)
  forgotten : ∀ pre i mid op post, hs = pre ++ .leave i :: mid ++ .operation op :: post →
    i < pre.countP (·.isSubscribe) → (op.act (root.through (pre ++ .leave i :: mid)).forest).2 ≠ [] →
      ∀ s ∈ (root.through hs).subscribers, s.id ≠ i

/-- **No event is lost silently**, whatever happens in whatever order. -/
theorem delivery_exact (hs : List Happening) : Delivered hs := by
  refine ⟨length_accountsOf hs, fun pre post he => ?_, fun i a ha hlive => ?_, (books hs).dropped,
    fun i a ha hlive => ?_, fun pre i mid op post he hi hevents => ?_⟩
  · obtain ⟨hlog, hlive⟩ := log_follow post ((root.through pre).meet .subscribe)
      (a := .fresh (pre.countP (·.isSubscribe))) (Nat.le_refl 0) rfl
    rw [he]
    exact ⟨_, accountsOf_subscribe pre post, hlog, hlive⟩
  · refine ⟨a.subscriber, (books hs).found ha hlive, rfl, ?_, ?_⟩
    · show (Stack.ofList a.unread).items.reverse = _
      rw [Stack.items_ofList, List.reverse_reverse]
    · show _ ++ (Stack.ofList a.unread).items.reverse = _
      rw [Stack.items_ofList, List.reverse_reverse, handed_eq ha hlive]
      exact List.take_append_drop _ _
  · have hsame : (accountsOf (hs.filter (·.concerns i)))[i]? = some a :=
      (ledger_filter hs rfl books_root books_root rfl rfl).trans ha
    exact ⟨(handed_eq hsame hlive).trans (handed_eq ha hlive).symm,
      ((books _).found hsame hlive).trans ((books hs).found ha hlive).symm⟩
  · obtain ⟨a, ha, hclosed⟩ := accountsOf_leave hi mid
    have hnone := (books _).ne_of_closed ha hclosed
    rw [he, through_append]
    refine ne_through (t := (root.through (pre ++ .leave i :: mid)).meet (.operation op)) post ?_ fun s hs => ?_
    · rw [subscriptions_meet, ← (books _).count, length_accountsOf, List.countP_append]
      omega
    · obtain ⟨s', hs', hid⟩ := subscribers_of_emits hevents hs
      exact hid ▸ hnone s' hs'

end Tree

end Context

end Remedy
