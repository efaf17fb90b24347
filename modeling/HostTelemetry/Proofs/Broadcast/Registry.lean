/-
Subscriptions and the registry: who is registered, and when a subscriber is told
that nothing more will come.

# Two records of one thing

That a subscriber is still to be heard of is recorded twice: the registry has its
number, and its subscription is pending. The number stays with the subscription,
so a subscription that is given back late, or twice, finds in the registry its own
number or none. The invariant `InOrder` says so: the numbers in the registry are
those of the pending subscriptions, in the order in which they were given out. By
it a subscription that is given back does what leaving does (`handIn_cleanUp`), and
the broadcaster behind the subscriptions runs as if there were none
(`InOrder.broadcaster_go`).

# The end of a queue

A subscriber who listens has received or still has waiting whatever reached it
(`accepted_eq`). So where it is in its queue can be read off the history, and with
it what it is told.
-/
import HostTelemetry.Proofs.Broadcast.Isolation

namespace HostTelemetry

variable {α : Type}

-- ========================================================= subscriptions

/-- A broadcaster and the subscriptions it has given out, by number. -/
structure Hub (α : Type) where
  broadcaster : Broadcaster α := {}
  subscriptions : List Subscription := []

namespace Hub

/-- Whether the subscription with a number is pending. -/
def isPending (h : Hub α) (k : Nat) : Bool := h.subscriptions[k]?.any (·.pending)

/-- A subscription is handed in, in whichever way; one that is not there is not. -/
def handIn (h : Hub α) (i : Nat)
    (way : Subscription → Broadcaster α → Subscription × Broadcaster α) : Hub α :=
  match h.subscriptions[i]? with
  | some s =>
    let (s, b) := way s h.broadcaster
    { broadcaster := b, subscriptions := h.subscriptions.set i s }
  | none => h

/-- What can be done with a hub. Subscriptions are cancelled or dropped, and who
drops its receiver hangs up. -/
inductive Deed (α : Type) where
  | subscribe (buffer : Nat)
  | send (v : α) (s : Shuffle)
  | receive (i : Nat)
  | cancel (i : Nat)
  | drop (i : Nat)
  | hangUp (i : Nat)

namespace Deed

/-- What it does to the broadcaster. -/
def op : Deed α → Op α
  | .subscribe buffer => .subscribe buffer
  | .send v s => .send v s
  | .receive i => .receive i
  | .cancel i | .drop i => .leave i
  | .hangUp i => .hangUp i

/-- The hub after that. -/
def step : Deed α → Hub α → Hub α
  | .subscribe buffer, h =>
    let (id, b) := h.broadcaster.subscribe buffer
    { broadcaster := b, subscriptions := h.subscriptions ++ [{ id }] }
  | .cancel i, h => h.handIn i Subscription.cancel
  | .drop i, h => h.handIn i Subscription.cleanUp
  | .send v s, h => { h with broadcaster := h.broadcaster.sendBy s v }
  | .receive i, h => { h with broadcaster := (h.broadcaster.receive i).2 }
  | .hangUp i, h => { h with broadcaster := h.broadcaster.hangUp i }

/-- The number that is given out. -/
def issued : Deed α → Hub α → List Nat
  | .subscribe buffer, h => [(h.broadcaster.subscribe buffer).1]
  | _, _ => []

/-- Whether the subscription with a number is handed in. -/
def handsIn (k : Nat) : Deed α → Bool
  | .cancel i | .drop i => i = k
  | _ => false

end Deed

-- ============================================================= invariant

/-- The registry has the numbers of the pending subscriptions, and the subscriptions
are numbered as the queues are. -/
structure InOrder (h : Hub α) : Prop where
  numbered : h.broadcaster.Numbered
  ids : h.subscriptions.map (·.id) = List.range h.broadcaster.channels.length
  registered : h.broadcaster.registered = (h.subscriptions.filter (·.pending)).map (·.id)

variable {h : Hub α} {i k : Nat} {s : Subscription}

theorem inOrder_empty : InOrder ({} : Hub α) := ⟨Broadcaster.numbered_empty, rfl, rfl⟩

theorem InOrder.length_subscriptions (hh : h.InOrder) :
    h.subscriptions.length = h.broadcaster.channels.length := by
  have hlength := congrArg List.length hh.ids
  rwa [List.length_map, List.length_range] at hlength

theorem InOrder.id_eq (hh : h.InOrder) (hs : h.subscriptions[i]? = some s) : s.id = i := by
  have hid : (h.subscriptions.map (·.id))[i]? = some s.id := by
    rw [List.getElem?_map, hs, Option.map_some]
  rw [hh.ids] at hid
  obtain ⟨hlt, hget⟩ := List.getElem?_eq_some_iff.mp hid
  rw [← hget, List.getElem_range]

/-- Who is registered has a pending subscription. -/
theorem InOrder.mem_registered (hh : h.InOrder) :
    k ∈ h.broadcaster.registered ↔ h.isPending k = true := by
  rw [hh.registered, isPending]
  constructor
  · intro hk
    obtain ⟨s, hs, rfl⟩ := List.mem_map.mp hk
    obtain ⟨hmem, hpending⟩ := List.mem_filter.mp hs
    obtain ⟨i, hi⟩ := List.mem_iff_getElem?.mp hmem
    rw [hh.id_eq hi, hi]
    exact hpending
  · intro hk
    cases hs : h.subscriptions[k]? with
    | none =>
      rw [hs] at hk
      cases hk
    | some s =>
      rw [hs] at hk
      exact List.mem_map.mpr ⟨s, List.mem_filter.mpr ⟨List.mem_of_getElem? hs, hk⟩, hh.id_eq hs⟩

/-- The subscription is no longer pending. -/
def closed (s : Subscription) : Subscription := { s with pending := false }

/-- A subscription that is handed in makes its subscriber leave, whether it was
pending or not. -/
theorem handIn_cleanUp (hh : h.InOrder) (i : Nat) :
    h.handIn i Subscription.cleanUp
      = { broadcaster := h.broadcaster.cancel i, subscriptions := h.subscriptions.modify i closed } := by
  have hstay : h.isPending i = false → h.broadcaster.cancel i = h.broadcaster := by
    intro hnot
    have hall : ∀ j ∈ h.broadcaster.registered, decide (j ≠ i) = true := by
      intro j hj
      refine decide_eq_true fun heq => ?_
      rw [← heq, hh.mem_registered.mp hj] at hnot
      cases hnot
    rw [Broadcaster.cancel, List.filter_eq_self.mpr hall]
  unfold handIn
  cases hs : h.subscriptions[i]? with
  | none =>
    have hout : h.subscriptions.modify i closed = h.subscriptions :=
      List.modify_eq_self (List.getElem?_eq_none_iff.mp hs)
    rw [hstay (by rw [isPending, hs]; rfl), hout]
  | some s =>
    have hset : h.subscriptions.modify i closed = h.subscriptions.set i (closed s) := by
      rw [List.modify_eq_set, hs]
      rfl
    rw [hset]
    show _ = Hub.mk (h.broadcaster.cancel i) _
    cases hpending : s.pending with
    | true => simp [Subscription.cleanUp, hpending, hh.id_eq hs, closed]
    | false =>
      have hclosed : closed s = s := by rw [closed, ← hpending]
      rw [hstay (by rw [isPending, hs]; exact hpending), hclosed]
      simp [Subscription.cleanUp, hpending]

/-- To cancel is to clean up: the second time finds nothing to do. -/
theorem cancel_eq_cleanUp (s : Subscription) (b : Broadcaster α) : s.cancel b = s.cleanUp b := by
  unfold Subscription.cancel Subscription.cleanUp
  cases hs : s.pending with
  | true => rfl
  | false => simp [hs]

theorem handIn_cancel (h : Hub α) (i : Nat) :
    h.handIn i Subscription.cancel = h.handIn i Subscription.cleanUp := by
  unfold handIn
  simp only [cancel_eq_cleanUp]

/-- Of the pending subscriptions, only the one that is handed in is lost. -/
theorem InOrder.pending_modify (hh : h.InOrder) (i : Nat) :
    ((h.subscriptions.modify i closed).filter (·.pending)).map (·.id)
      = (h.broadcaster.cancel i).registered := by
  have hmodify : h.subscriptions.modify i closed
      = h.subscriptions.map fun s => if s.id = i then closed s else s := by
    refine List.ext_getElem? fun j => ?_
    rw [List.getElem?_modify, List.getElem?_map]
    cases hs : h.subscriptions[j]? with
    | none => rfl
    | some s =>
      simp only [Option.map_some, hh.id_eq hs, eq_comm (a := i)]
      split <;> rfl
  have hid : ∀ s : Subscription, (if s.id = i then closed s else s).id = s.id := by
    intro s
    split <;> rfl
  have hpending : ∀ s : Subscription, (if s.id = i then closed s else s).pending
      = (s.pending && decide (s.id ≠ i)) := by
    intro s
    by_cases hs : s.id = i
    · simp [hs, closed]
    · simp [hs]
  rw [hmodify, List.filter_map, List.map_map, Broadcaster.cancel, hh.registered, List.filter_map,
    List.filter_filter]
  simp only [Function.comp_def, hid, hpending, Bool.and_comm]

theorem InOrder.handIn (hh : h.InOrder) (i : Nat) : (h.handIn i Subscription.cleanUp).InOrder := by
  rw [handIn_cleanUp hh]
  refine ⟨Broadcaster.numbered_step hh.numbered (.leave i), ?_, (hh.pending_modify i).symm⟩
  refine Eq.trans (List.ext_getElem? fun j => ?_) hh.ids
  rw [List.getElem?_map, List.getElem?_map, List.getElem?_modify]
  by_cases hij : i = j
  · simp [hij, Function.comp_def, closed]
  · simp [hij]

theorem InOrder.subscribe (hh : h.InOrder) (buffer : Nat) :
    ((Deed.subscribe buffer).step h).InOrder := by
  have hlength : (h.broadcaster.subscribe buffer).2.channels.length
      = h.broadcaster.channels.length + 1 := List.length_append
  have hsubscriptions : ((Deed.subscribe buffer).step h).subscriptions
      = h.subscriptions ++ [({ id := h.broadcaster.channels.length } : Subscription)] := rfl
  refine ⟨Broadcaster.numbered_subscribe hh.numbered buffer, ?_, ?_⟩
  · show _ = List.range (h.broadcaster.subscribe buffer).2.channels.length
    rw [hsubscriptions, List.map_append, hh.ids, hlength, List.range_succ]
    rfl
  · show h.broadcaster.registered ++ [h.broadcaster.channels.length] = _
    rw [hsubscriptions, List.filter_append, List.map_append, ← hh.registered]
    rfl

/-- What the registry is not touched by keeps the order. -/
theorem InOrder.of_registered {b : Broadcaster α} (hh : h.InOrder) (hb : b.Numbered)
    (hregistered : b.registered = h.broadcaster.registered)
    (hlength : b.channels.length = h.broadcaster.channels.length) :
    InOrder { h with broadcaster := b } :=
  ⟨hb, hlength ▸ hh.ids, hregistered.trans hh.registered⟩

/-- With subscriptions, the broadcaster does what it does without them. -/
theorem InOrder.step_broadcaster (hh : h.InOrder) (d : Deed α) :
    (d.step h).broadcaster = d.op.step h.broadcaster := by
  cases d with
  | subscribe buffer => rfl
  | send v s => rfl
  | receive i => rfl
  | hangUp i => rfl
  | drop i =>
    show (h.handIn i Subscription.cleanUp).broadcaster = _
    rw [handIn_cleanUp hh]
    rfl
  | cancel i =>
    show (h.handIn i Subscription.cancel).broadcaster = _
    rw [handIn_cancel, handIn_cleanUp hh]
    rfl

theorem InOrder.step (hh : h.InOrder) (d : Deed α) : (d.step h).InOrder := by
  cases d with
  | subscribe buffer => exact hh.subscribe buffer
  | drop i => exact hh.handIn i
  | cancel i =>
    show (h.handIn i Subscription.cancel).InOrder
    rw [handIn_cancel]
    exact hh.handIn i
  | send v s =>
    exact hh.of_registered (Broadcaster.numbered_step hh.numbered (.send v s)) rfl
      (Broadcaster.length_step h.broadcaster (.send v s))
  | receive i =>
    refine hh.of_registered (Broadcaster.numbered_step hh.numbered (.receive i)) ?_
      (Broadcaster.length_step h.broadcaster (.receive i))
    rw [Broadcaster.receive_snd]
  | hangUp i =>
    exact hh.of_registered (Broadcaster.numbered_step hh.numbered (.hangUp i)) rfl
      (Broadcaster.length_step h.broadcaster (.hangUp i))

theorem InOrder.after (hh : h.InOrder) (deeds : List (Deed α)) : (go Deed.step deeds h).InOrder := by
  induction deeds generalizing h with
  | nil => exact hh
  | cons d rest ih => exact ih (hh.step d)

theorem InOrder.broadcaster_go (hh : h.InOrder) (deeds : List (Deed α)) :
    (go Deed.step deeds h).broadcaster
      = go Op.step (deeds.map Deed.op) h.broadcaster := by
  induction deeds generalizing h with
  | nil => rfl
  | cons d rest ih =>
    have hrest := ih (hh.step d)
    rw [hh.step_broadcaster] at hrest
    exact hrest

-- =============================================================== history

/-- The numbers that are given out are the next ones. -/
theorem InOrder.along_issued (hh : h.InOrder) (deeds : List (Deed α)) :
    (go Deed.step deeds h).subscriptions.map (·.id)
        = h.subscriptions.map (·.id) ++ along Deed.step Deed.issued deeds h := by
  induction deeds generalizing h with
  | nil => exact (List.append_nil _).symm
  | cons d rest ih =>
    show (go Deed.step rest (d.step h)).subscriptions.map (·.id)
      = _ ++ (d.issued h ++ along Deed.step Deed.issued rest (d.step h))
    rw [ih (hh.step d), ← List.append_assoc]
    congr 1
    have hleave : ∀ i, (h.handIn i Subscription.cleanUp).subscriptions.map (·.id)
        = h.subscriptions.map (·.id) := by
      intro i
      have hlength : (h.handIn i Subscription.cleanUp).broadcaster.channels.length
          = h.broadcaster.channels.length := by rw [handIn_cleanUp hh]; rfl
      rw [(hh.handIn i).ids, hh.ids, hlength]
    cases d with
    | subscribe buffer => exact List.map_append
    | send v s => exact (List.append_nil _).symm
    | receive i => exact (List.append_nil _).symm
    | hangUp i => exact (List.append_nil _).symm
    | drop i => exact (hleave i).trans (List.append_nil _).symm
    | cancel i =>
      show (h.handIn i Subscription.cancel).subscriptions.map (·.id) = _
      rw [handIn_cancel, hleave]
      exact (List.append_nil _).symm

/-- A subscription stays pending until it is handed in. -/
theorem InOrder.isPending_step (hh : h.InOrder) (d : Deed α) (hk : k < h.subscriptions.length) :
    (d.step h).isPending k = (h.isPending k && !d.handsIn k) := by
  have hleave : ∀ i, (h.handIn i Subscription.cleanUp).isPending k
      = (h.isPending k && !decide (i = k)) := by
    intro i
    rw [handIn_cleanUp hh]
    unfold isPending
    rw [List.getElem?_modify, List.getElem?_eq_getElem hk]
    by_cases hik : i = k
    · simp [hik, closed]
    · simp [hik]
  cases d with
  | subscribe buffer =>
    show (h.subscriptions ++ _)[k]?.any _ = _
    rw [List.getElem?_append_left hk]
    exact (Bool.and_true _).symm
  | send v s => exact (Bool.and_true _).symm
  | receive i => exact (Bool.and_true _).symm
  | hangUp i => exact (Bool.and_true _).symm
  | drop i => exact hleave i
  | cancel i =>
    show (h.handIn i Subscription.cancel).isPending k = _
    rw [handIn_cancel]
    exact hleave i

theorem InOrder.isPending_go (hh : h.InOrder) (deeds : List (Deed α))
    (hk : k < h.subscriptions.length) :
    (go Deed.step deeds h).isPending k
      = (h.isPending k && deeds.all fun d => !d.handsIn k) := by
  induction deeds generalizing h with
  | nil => exact (Bool.and_true _).symm
  | cons d rest ih =>
    have hlater : k < (d.step h).subscriptions.length := by
      have hcount := Broadcaster.length_step h.broadcaster d.op
      rw [← hh.step_broadcaster, ← (hh.step d).length_subscriptions,
        ← hh.length_subscriptions] at hcount
      have hle : h.subscriptions.length ≤ d.op.count h.subscriptions.length := by
        cases d with
        | subscribe buffer => exact Nat.le_succ _
        | _ => exact Nat.le_refl _
      omega
    show (go Deed.step rest (d.step h)).isPending k = _
    rw [ih (hh.step d) hlater, hh.isPending_step d hk, List.all_cons, Bool.and_assoc]

-- ============================================================= receiving

section Receiving

variable {b : Broadcaster α} {c : Channel α}

/-- Whatever reached a subscriber who listens, it has received or still has waiting. -/
theorem accepted_eq {ops : List (Op α)}
    (hc : (go Op.step ops ({} : Broadcaster α)).channels[k]? = some c) (hl : c.listening = true) :
    ({} : Broadcaster α).accepted k ops = ({} : Broadcaster α).received k ops ++ c.queue := by
  have hnumbered : ({} : Broadcaster α).Numbered := Broadcaster.numbered_empty
  have hseen := Broadcaster.seen_go (k := k) ops hnumbered
  have hlast : go Own.step (noticed k 0 ops) none
      = some (c.alone ((go Op.step ops ({} : Broadcaster α)).registered.contains k)) := by
    refine hseen.symm.trans ?_
    rw [Broadcaster.seen, hc, Option.map_some]
  have hhears : Own.Hears (go Own.step (noticed k 0 ops) (none : Option (Alone α))) := by
    intro q hq
    rw [hlast] at hq
    obtain rfl := Option.some.inj hq
    exact hl
  have haccount := Own.account (noticed k 0 ops) (none : Option (Alone α))
  rw [(Own.dropped_of_hears hhears).2, hlast, List.append_nil] at haccount
  have htold : ({} : Broadcaster α).deliveries k ops = Own.deliveries (noticed k 0 ops) none :=
    Broadcaster.along_eq (Broadcaster.agree_told k) ops hnumbered
  have hkept : ({} : Broadcaster α).accepted k ops = Own.accepted (noticed k 0 ops) none :=
    Broadcaster.along_eq (Broadcaster.agree_kept k) ops hnumbered
  rw [hkept, Broadcaster.received, htold]
  exact haccount.symm

/-- A subscriber who listens is told the oldest value that waits, or else whether
more can come. -/
theorem InOrder.receive_eq (hh : h.InOrder) (hc : h.broadcaster.channels[k]? = some c)
    (hl : c.listening = true) :
    (h.broadcaster.receive k).1 = match c.queue with
      | v :: _ => .value v
      | [] => if h.isPending k then .empty else .closed := by
  have hregistered : h.broadcaster.registered.contains k = h.isPending k := by
    rw [Bool.eq_iff_iff, List.contains_iff_mem, hh.mem_registered]
  rw [Broadcaster.receive_fst, Broadcaster.seen, hc, hregistered]
  show Alone.next _ = _
  unfold Alone.next Channel.alone
  refine (if_pos hl).trans ?_
  cases c.queue with
  | nil => rfl
  | cons v rest => rfl

/-- Where a subscriber who listens is in its queue tells what it is told. -/
theorem InOrder.receive_iff (hh : h.InOrder) {got kept : List α}
    (hc : h.broadcaster.channels[k]? = some c) (hl : c.listening = true)
    (hkept : kept = got ++ c.queue) :
    ((h.broadcaster.receive k).1 = .closed ↔ h.isPending k = false ∧ got = kept) ∧
    ((h.broadcaster.receive k).1 = .empty ↔ h.isPending k = true ∧ got = kept) ∧
    ∀ v, (h.broadcaster.receive k).1 = .value v ↔ ∃ rest, kept = got ++ v :: rest := by
  have hdrained : got = kept ↔ c.queue = [] := by
    rw [hkept, List.self_eq_append_right]
  rw [hh.receive_eq hc hl, hdrained, hkept]
  cases c.queue with
  | nil => cases h.isPending k <;> simp
  | cons v rest => simp

end Receiving

-- ======================================================== the registry

theorem step_of_handsIn {d : Deed α} (hd : d.handsIn k = true) (h : Hub α) :
    d.step h = h.handIn k Subscription.cleanUp := by
  cases d with
  | cancel i =>
    obtain rfl : i = k := of_decide_eq_true hd
    exact handIn_cancel h i
  | drop i =>
    obtain rfl : i = k := of_decide_eq_true hd
    rfl
  | subscribe buffer => cases hd
  | send v s => cases hd
  | receive i => cases hd
  | hangUp i => cases hd

/-- A subscription that is not pending is handed in without effect. -/
theorem handIn_of_not_pending (hk : h.isPending k = false) :
    h.handIn k Subscription.cleanUp = h := by
  unfold handIn
  cases hs : h.subscriptions[k]? with
  | none => rfl
  | some s =>
    have hpending : s.pending = false := by
      rw [isPending, hs] at hk
      exact hk
    obtain ⟨hlt, rfl⟩ := List.getElem?_eq_some_iff.mp hs
    simp [Subscription.cleanUp, hpending]

theorem InOrder.handIn_spec (hh : h.InOrder) (k : Nat) :
    (h.handIn k Subscription.cleanUp).isPending k = false ∧
    (h.handIn k Subscription.cleanUp).broadcaster.channels = h.broadcaster.channels ∧
    ∀ j, j ∈ (h.handIn k Subscription.cleanUp).broadcaster.registered ↔
      j ∈ h.broadcaster.registered ∧ j ≠ k := by
  have hmem : ∀ j, j ∈ (h.handIn k Subscription.cleanUp).broadcaster.registered ↔
      j ∈ h.broadcaster.registered ∧ j ≠ k := by
    intro j
    rw [handIn_cleanUp hh]
    simp [Broadcaster.cancel]
  refine ⟨?_, ?_, hmem⟩
  · refine Bool.eq_false_iff.mpr fun hpending => ?_
    exact ((hmem k).mp ((hh.handIn k).mem_registered.mpr hpending)).2 rfl
  · rw [handIn_cleanUp hh]
    rfl

/-- Numbers count up, and as many are registered as have a subscription whose
cleanup has not run. A subscription is pending until it is handed in; that takes
nobody else out of the registry and touches no queue, and has no effect where it
is late or repeated. And a subscriber who listens is told that nothing more will
come exactly if its subscription was handed in and it has received all that
reached it; before that it is told its next value, or that none waits. -/
theorem registry_follows_subscriptions (deeds : List (Deed α)) :
    let h := go Deed.step deeds {}
    let issued := along Deed.step Deed.issued deeds {}
    let ops := deeds.map Deed.op
    (issued.Pairwise (· < ·) ∧ h.subscriptions.map (·.id) = issued) ∧
    h.broadcaster.subscriberCount = (h.subscriptions.filter (·.pending)).length ∧
    (∀ before buffer after, deeds = before ++ .subscribe buffer :: after →
      let k := (go Deed.step before {}).subscriptions.length
      h.isPending k = after.all fun d => !d.handsIn k) ∧
    (∀ k (d : Deed α), d.handsIn k = true →
      (h.isPending k = false → d.step h = h) ∧ (d.step h).isPending k = false ∧
      (d.step h).broadcaster.channels = h.broadcaster.channels ∧
      ∀ j, j ∈ (d.step h).broadcaster.registered ↔ j ∈ h.broadcaster.registered ∧ j ≠ k) ∧
    ∀ k c, h.broadcaster.channels[k]? = some c → c.listening = true →
      let got := ({} : Broadcaster α).received k ops
      let kept := ({} : Broadcaster α).accepted k ops
      ((h.broadcaster.receive k).1 = .closed ↔ h.isPending k = false ∧ got = kept) ∧
      ((h.broadcaster.receive k).1 = .empty ↔ h.isPending k = true ∧ got = kept) ∧
      ∀ v, (h.broadcaster.receive k).1 = .value v ↔ ∃ rest, kept = got ++ v :: rest := by
  intro h issued ops
  have hh : h.InOrder := inOrder_empty.after deeds
  have hissued : h.subscriptions.map (·.id) = issued := inOrder_empty.along_issued deeds
  refine ⟨⟨?_, hissued⟩, ?_, ?_, ?_, ?_⟩
  · rw [← hissued, hh.ids]
    exact List.pairwise_lt_range
  · rw [Broadcaster.subscriberCount, hh.registered, List.length_map]
  · intro before buffer after hdeeds k
    have hbefore : (go Deed.step before {}).InOrder := inOrder_empty.after before
    have hsubscribed := hbefore.step (.subscribe buffer)
    have hrun : h = go Deed.step after ((Deed.subscribe buffer).step (go Deed.step before {})) := by
      show go Deed.step deeds {} = _
      rw [hdeeds, go_append]
      rfl
    have hnew : ((Deed.subscribe buffer).step (go Deed.step before {})).subscriptions
        = (go Deed.step before {}).subscriptions
          ++ [({ id := (go Deed.step before {}).broadcaster.channels.length } : Subscription)] := rfl
    have hpending : ((Deed.subscribe buffer).step (go Deed.step before {})).isPending k = true := by
      rw [isPending, hnew, List.getElem?_concat_length]
      rfl
    rw [hrun, hsubscribed.isPending_go after (by rw [hnew]; simp [k]), hpending, Bool.true_and]
  · intro k d hd
    rw [step_of_handsIn hd]
    exact ⟨handIn_of_not_pending, hh.handIn_spec k⟩
  · intro k c hc hl
    have hrun : h.broadcaster = go Op.step ops {} := inOrder_empty.broadcaster_go deeds
    exact hh.receive_iff hc hl (accepted_eq (hrun ▸ hc) hl)

/-- The order of the registry itself. -/
def asRegistered : Shuffle := ⟨id, fun _ => List.Perm.refl _⟩

/-- The first of two subscribers leaves while a value waits for it, takes the
value, and gives its subscription back once more. -/
def leaving : List (Deed Nat) :=
  [.subscribe 0, .send 7 asRegistered, .subscribe 2, .cancel 0, .send 8 asRegistered, .receive 0,
    .drop 0]

theorem leaver_is_told_the_end :
    let h := go Deed.step leaving {}
    h.isPending 0 = false ∧ (Deed.cancel 0).step h = h ∧
      (h.broadcaster.receive 0).1 = .closed ∧ (h.broadcaster.receive 1).1 = .value 8 := by
  obtain ⟨-, -, hpending, hleaving, htold⟩ := registry_follows_subscriptions leaving
  have hclosed : (go Deed.step leaving {}).isPending 0 = false :=
    hpending [] 0 leaving.tail rfl
  refine ⟨hclosed, (hleaving 0 (.cancel 0) rfl).1 hclosed, ?_, ?_⟩
  · exact (htold 0 { capacity := 1 } rfl rfl).1.mpr ⟨hclosed, by decide⟩
  · exact ((htold 1 { capacity := 2, queue := [8] } rfl rfl).2.2 8).mpr ⟨[], by decide⟩

end Hub

end HostTelemetry
