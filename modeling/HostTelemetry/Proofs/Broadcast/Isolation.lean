/-
Behind a broadcaster every subscriber has a queue of its own.

# The simulation

`Broadcaster.seen b k` is what the broadcaster holds for subscriber `k`, as
a queue by itself. `seen_step` says that a step of the broadcaster is for
`k` one of its own steps (`Op.own`), or none. All that it needs of the
broadcaster is `Numbered`: numbers are given out in order, and no number is
registered twice, so that a value is offered once.

# The order of a send

A send goes through the registry in an order that nothing fixes; every
send of a run has one of its own (`Shuffle`). Queues of different
subscribers do not meet, so the order makes no difference (`sendBy_eq`).
-/
import HostTelemetry.Proofs.Broadcast.Alone

namespace HostTelemetry

variable {α β : Type}

-- ================================================================= sends

/-- An order in which a registry is gone through; no number is left out or
comes twice. -/
structure Shuffle where
  order : List Nat → List Nat
  perm : ∀ l, (order l).Perm l

namespace Broadcaster

/-- Offers a value to every registered subscriber, in a given order. -/
def sendBy (b : Broadcaster α) (s : Shuffle) (v : α) : Broadcaster α :=
  let order := s.order b.registered
  { b with channels := order.foldl (fun cs id => cs.modify id (.offer v)) b.channels }

/-- What is done to two entries is done in either order. -/
theorem modify_comm {f : β → β} (l : List β) (i j : Nat) :
    (l.modify i f).modify j f = (l.modify j f).modify i f := by
  by_cases h : i = j
  · rw [h]
  · exact List.modify_modify_ne f f l h

/-- The order of a send makes no difference. -/
theorem sendBy_eq (b : Broadcaster α) (s : Shuffle) (v : α) : b.sendBy s v = b.send v := by
  unfold sendBy send
  have hfold := (s.perm b.registered).foldl_eq' (f := fun cs id => cs.modify id (.offer v))
    (fun i _ j _ cs => modify_comm cs i j) b.channels
  dsimp only
  rw [hfold]

/-- Numbers are given out in order, and none is registered twice. -/
structure Numbered (b : Broadcaster α) : Prop where
  nodup : b.registered.Nodup
  lt : ∀ i ∈ b.registered, i < b.channels.length

theorem numbered_empty : Numbered ({} : Broadcaster α) := ⟨List.nodup_nil, nofun⟩

theorem length_foldl_modify {f : β → β} (order : List Nat) (l : List β) :
    (order.foldl (fun l i => l.modify i f) l).length = l.length := by
  induction order generalizing l with
  | nil => rfl
  | cons i rest ih => rw [List.foldl_cons, ih, List.length_modify]

/-- Who is in the order, and only who is, gets what is offered. -/
theorem getElem?_foldl_modify {f : β → β} {order : List Nat} (hnodup : order.Nodup) (l : List β)
    (k : Nat) :
    (order.foldl (fun l i => l.modify i f) l)[k]?
      = if k ∈ order then l[k]?.map f else l[k]? := by
  induction order generalizing l with
  | nil => simp
  | cons i rest ih =>
    obtain ⟨hi, hrest⟩ := List.nodup_cons.mp hnodup
    rw [List.foldl_cons, ih hrest, List.getElem?_modify]
    by_cases hk : k = i
    · subst hk
      simp [hi]
    · have hk' : ¬ i = k := fun h => hk h.symm
      simp [hk, hk']

end Broadcaster

-- ================================================================== steps

/-- What can be done with a broadcaster and its subscribers, who are named
by their numbers. Somebody leaves by cancelling or dropping a subscription,
and hangs up by dropping the receiver. -/
inductive Op (α : Type) where
  | subscribe (buffer : Nat)
  | send (v : α) (s : Shuffle)
  | receive (i : Nat)
  | leave (i : Nat)
  | hangUp (i : Nat)

/-- What waits for a subscriber. -/
def Broadcaster.queued (b : Broadcaster α) (k : Nat) : List α :=
  (b.channels[k]?.map (·.queue)).getD []

/-- Whether a value that is sent now reaches a subscriber: it is registered,
it listens, and there is a place left. -/
def Broadcaster.reaches (b : Broadcaster α) (k : Nat) : Bool :=
  b.registered.contains k &&
    b.channels[k]?.any fun c => c.listening && c.queue.length < c.capacity

namespace Op

/-- The broadcaster after that. -/
def step : Op α → Broadcaster α → Broadcaster α
  | .subscribe buffer, b => (b.subscribe buffer).2
  | .send v s, b => b.sendBy s v
  | .receive i, b => (b.receive i).2
  | .leave i, b => b.cancel i
  | .hangUp i, b => b.hangUp i

/-- What subscriber `k` is told. -/
def told (k : Nat) : Op α → Broadcaster α → List (Delivery α)
  | .receive i, b => if i = k then [(b.receive i).1] else []
  | _, _ => []

/-- The value that is sent and reaches subscriber `k`. -/
def kept (k : Nat) : Op α → Broadcaster α → List α
  | .send v _, b => if b.reaches k then [v] else []
  | _, _ => []

/-- What waits for subscriber `k` when it hangs up. -/
def lost (k : Nat) : Op α → Broadcaster α → List α
  | .hangUp i, b => if i = k then b.queued k else []
  | _, _ => []

/-- The value that is sent. -/
def sent? : Op α → Option α
  | .send v _ => some v
  | _ => none

/-- What subscriber `k` notices of it, where `n` have subscribed so far. -/
def own (k n : Nat) : Op α → Option (Own α)
  | .subscribe buffer => if n = k then some (.subscribe buffer) else none
  | .send v _ => some (.send v)
  | .receive i => if i = k then some .receive else none
  | .leave i => if i = k then some .leave else none
  | .hangUp i => if i = k then some .hangUp else none

/-- How many have subscribed then. -/
def count (n : Nat) : Op α → Nat
  | .subscribe _ => n + 1
  | _ => n

end Op

-- ============================================================= receiving

namespace Channel

/-- The queue without its oldest value, if somebody listens. -/
def taken (c : Channel α) : Channel α :=
  if c.listening then { c with queue := c.queue.tail } else c

/-- The queue by itself. -/
def alone (registered : Bool) (c : Channel α) : Alone α where
  capacity := c.capacity
  waiting := c.queue
  registered := registered
  listening := c.listening

end Channel

namespace Broadcaster

/-- What the broadcaster holds for a subscriber, as a queue by itself. -/
def seen (b : Broadcaster α) (k : Nat) : Option (Alone α) :=
  b.channels[k]?.map (Channel.alone (b.registered.contains k))

/-- A subscriber is told what its own queue has for it. -/
theorem receive_fst (b : Broadcaster α) (i : Nat) :
    (b.receive i).1 = (b.seen i).elim .deaf Alone.next := by
  unfold receive seen
  cases hc : b.channels[i]? with
  | none => rfl
  | some c =>
    obtain ⟨capacity, queue, listening⟩ := c
    cases listening with
    | false => rfl
    | true =>
      cases queue with
      | nil => rfl
      | cons v rest => rfl

/-- Only the queue of who looks for a value changes. -/
theorem receive_snd (b : Broadcaster α) (i : Nat) :
    (b.receive i).2 = { b with channels := b.channels.modify i .taken } := by
  unfold receive
  cases hc : b.channels[i]? with
  | none =>
    have hout : b.channels.modify i .taken = b.channels :=
      List.modify_eq_self (List.getElem?_eq_none_iff.mp hc)
    rw [hout]
  | some c =>
    have hset : b.channels.modify i .taken = b.channels.set i c.taken := by
      refine List.ext_getElem? fun j => ?_
      rw [List.getElem?_modify, List.getElem?_set]
      by_cases hij : i = j
      · subst hij
        obtain ⟨hlt, rfl⟩ := List.getElem?_eq_some_iff.mp hc
        simp [hlt]
      · simp [hij]
    have hself : b.channels.set i c = b.channels := by
      obtain ⟨hlt, rfl⟩ := List.getElem?_eq_some_iff.mp hc
      exact List.set_getElem_self hlt
    rw [hset]
    obtain ⟨capacity, queue, listening⟩ := c
    cases listening with
    | false => simp [Channel.taken, hself]
    | true =>
      cases queue with
      | nil => simp [Channel.taken, hself]
      | cons v rest => simp [Channel.taken]

-- ============================================================ simulation

theorem length_step (b : Broadcaster α) (op : Op α) :
    (op.step b).channels.length = op.count b.channels.length := by
  cases op with
  | subscribe buffer => exact List.length_append
  | send v s => exact length_foldl_modify (f := .offer v) (s.order b.registered) b.channels
  | receive i =>
    show (b.receive i).2.channels.length = b.channels.length
    rw [receive_snd]
    exact List.length_modify ..
  | leave i => rfl
  | hangUp i => exact List.length_modify ..

/-- Who leaves does not disturb the numbers. -/
theorem Numbered.of_sublist {b b' : Broadcaster α} (h : Numbered b)
    (hsub : b'.registered.Sublist b.registered)
    (hlength : b'.channels.length = b.channels.length) : Numbered b' := by
  refine ⟨h.nodup.sublist hsub, fun i hi => ?_⟩
  rw [hlength]
  exact h.lt i (hsub.subset hi)

theorem numbered_subscribe {b : Broadcaster α} (h : Numbered b) (buffer : Nat) :
    Numbered (b.subscribe buffer).2 := by
  have hlength : (b.subscribe buffer).2.channels.length = b.channels.length + 1 :=
    List.length_append
  refine ⟨?_, fun i hi => ?_⟩
  · show (b.registered ++ [b.channels.length]).Nodup
    refine List.nodup_append.mpr ⟨h.nodup, List.pairwise_singleton _ _, fun i hi j hj => ?_⟩
    have hlt := h.lt i hi
    rw [List.mem_singleton] at hj
    omega
  · rw [hlength]
    rcases List.mem_append.mp hi with hi | hi
    · have hlt := h.lt i hi
      omega
    · rw [List.mem_singleton] at hi
      omega

theorem numbered_step {b : Broadcaster α} (h : Numbered b) (op : Op α) : Numbered (op.step b) := by
  cases op with
  | subscribe buffer => exact numbered_subscribe h buffer
  | send v s => exact h.of_sublist (List.Sublist.refl _) (length_step b (.send v s))
  | receive i =>
    have hsame : (b.receive i).2.registered = b.registered := by rw [receive_snd]
    exact h.of_sublist (hsame ▸ List.Sublist.refl _) (length_step b (.receive i))
  | leave i => exact h.of_sublist List.filter_sublist (length_step b (.leave i))
  | hangUp i => exact h.of_sublist (List.Sublist.refl _) (length_step b (.hangUp i))

/-- What is done to the queue of a subscriber is seen by nobody else. -/
theorem seen_modify (b : Broadcaster α) {i k : Nat} {f : Channel α → Channel α}
    {g : Alone α → Alone α} (hfg : ∀ registered c, (f c).alone registered = g (c.alone registered)) :
    seen { b with channels := b.channels.modify i f } k
      = if i = k then (b.seen k).map g else b.seen k := by
  unfold seen
  rw [List.getElem?_modify]
  by_cases hik : i = k
  · simp [hik, Option.map_map, Function.comp_def, hfg]
  · simp [hik]

theorem seen_send {b : Broadcaster α} (h : Numbered b) (v : α) (k : Nat) :
    (b.send v).seen k = (b.seen k).map (·.send v) := by
  unfold seen send
  rw [getElem?_foldl_modify h.nodup]
  cases hc : b.channels[k]? with
  | none => simp
  | some c =>
    by_cases hk : k ∈ b.registered
    · rw [if_pos hk, List.contains_iff_mem.mpr hk]
      show some ((c.offer v).alone true) = some ((c.alone true).send v)
      unfold Channel.offer Channel.alone Alone.send Alone.accepts
      by_cases hl : c.listening = true
      · by_cases hfree : c.queue.length < c.capacity
        · simp [hl, hfree]
        · simp [hl, hfree]
      · simp [hl]
    · simp [hk, Channel.alone, Alone.send, Alone.accepts]

theorem seen_subscribe (b : Broadcaster α) (buffer k : Nat) :
    (b.subscribe buffer).2.seen k
      = if b.channels.length = k then some { capacity := max 1 buffer } else b.seen k := by
  unfold seen subscribe
  dsimp only
  by_cases hk : b.channels.length = k
  · subst hk
    simp [Channel.alone, Channel.ofBuffer, Nat.max_comm]
  · rw [if_neg hk]
    have hsame : (b.registered ++ [b.channels.length]).contains k = b.registered.contains k := by
      have hk' : ¬ k = b.channels.length := fun e => hk e.symm
      simp [hk']
    rw [hsame, List.getElem?_append]
    by_cases hlt : k < b.channels.length
    · rw [if_pos hlt]
    · have hout : k - b.channels.length ≠ 0 := by omega
      rw [if_neg hlt, List.getElem?_eq_none (Nat.le_of_not_lt hlt)]
      simp [hout]

theorem seen_cancel (b : Broadcaster α) (i k : Nat) :
    (b.cancel i).seen k = if i = k then (b.seen k).map Alone.leave else b.seen k := by
  unfold seen cancel
  dsimp only
  by_cases hik : i = k
  · subst hik
    have hgone : (b.registered.filter (· ≠ i)).contains i = false := by simp
    rw [if_pos rfl, hgone, Option.map_map]
    rfl
  · have hk : ¬ k = i := fun e => hik e.symm
    have hsame : (b.registered.filter (· ≠ i)).contains k = b.registered.contains k := by
      simp [hk]
    rw [if_neg hik, hsame]

/-- A step of the broadcaster is for a subscriber one of its own, or none. -/
theorem seen_step {b : Broadcaster α} (h : Numbered b) (op : Op α) (k : Nat) :
    (op.step b).seen k
      = (op.own k b.channels.length).elim (b.seen k) fun o => o.step (b.seen k) := by
  cases op with
  | subscribe buffer =>
    show (b.subscribe buffer).2.seen k = _
    rw [seen_subscribe, Op.own]
    by_cases hk : b.channels.length = k
    · have hnone : b.seen k = none := by
        unfold seen
        rw [List.getElem?_eq_none (Nat.le_of_eq hk), Option.map_none]
      rw [if_pos hk, if_pos hk, hnone]
      rfl
    · rw [if_neg hk, if_neg hk]
      rfl
  | send v s =>
    show (b.sendBy s v).seen k = _
    rw [sendBy_eq, seen_send h]
    rfl
  | receive i =>
    have hown : ∀ registered (c : Channel α),
        c.taken.alone registered = (c.alone registered).receive := by
      intro registered c
      unfold Channel.taken Channel.alone Alone.receive
      by_cases hl : c.listening = true
      · simp [hl]
      · simp [hl]
    show (b.receive i).2.seen k = _
    rw [receive_snd, seen_modify b hown, Op.own]
    by_cases hik : i = k
    · rw [if_pos hik, if_pos hik]
      rfl
    · rw [if_neg hik, if_neg hik]
      rfl
  | leave i =>
    show (b.cancel i).seen k = _
    rw [seen_cancel, Op.own]
    by_cases hik : i = k
    · rw [if_pos hik, if_pos hik]
      rfl
    · rw [if_neg hik, if_neg hik]
      rfl
  | hangUp i =>
    show (b.hangUp i).seen k = _
    rw [hangUp, seen_modify b (g := Alone.hangUp) (fun _ _ => rfl), Op.own]
    by_cases hik : i = k
    · rw [if_pos hik, if_pos hik]
      rfl
    · rw [if_neg hik, if_neg hik]
      rfl

theorem waiting_seen (b : Broadcaster α) (k : Nat) : Own.waiting (b.seen k) = b.queued k := by
  unfold seen queued
  cases b.channels[k]? with
  | none => rfl
  | some c => rfl

theorem accepts_seen (b : Broadcaster α) (k : Nat) :
    (b.seen k).any Alone.accepts = b.reaches k := by
  unfold seen reaches
  cases b.channels[k]? with
  | none => simp
  | some c => simp [Channel.alone, Alone.accepts, Bool.and_assoc]

/-- A value that is sent waits once, behind all that waited, for whoever it
reaches. -/
theorem queued_send {b : Broadcaster α} (h : Numbered b) (v : α) (k : Nat) :
    (b.send v).queued k = b.queued k ++ if b.reaches k then [v] else [] := by
  rw [← waiting_seen, ← waiting_seen, ← accepts_seen, seen_send h]
  cases b.seen k with
  | none => rfl
  | some q => exact q.waiting_send v

/-- What is seen of a step from outside is what the subscriber sees of its
own. -/
def Agree (k : Nat) (see : Op α → Broadcaster α → List β)
    (seeOwn : Own α → Option (Alone α) → List β) : Prop :=
  ∀ (op : Op α) (b : Broadcaster α),
    see op b = (op.own k b.channels.length).elim [] fun o => seeOwn o (b.seen k)

/-- Nothing is seen of a step that is another's, or shows nothing. -/
theorem nil_eq_elim_ite {p : Prop} [Decidable p] {o : Own α} {f : Own α → List β}
    (h : f o = []) : [] = (if p then some o else none).elim [] f := by
  by_cases hp : p
  · rw [if_pos hp]
    exact h.symm
  · rw [if_neg hp]
    rfl

theorem agree_told (k : Nat) : Agree (α := α) k (Op.told k) Own.told := by
  intro op b
  cases op with
  | subscribe buffer => exact nil_eq_elim_ite rfl
  | send v s => rfl
  | receive i =>
    show (if i = k then [(b.receive i).1] else [])
      = (if i = k then some Own.receive else none).elim [] fun o => o.told (b.seen k)
    by_cases hik : i = k
    · rw [if_pos hik, if_pos hik, receive_fst, hik]
      rfl
    · rw [if_neg hik, if_neg hik]
      rfl
  | leave i => exact nil_eq_elim_ite rfl
  | hangUp i => exact nil_eq_elim_ite rfl

theorem agree_kept (k : Nat) : Agree (α := α) k (Op.kept k) Own.kept := by
  intro op b
  cases op with
  | subscribe buffer => exact nil_eq_elim_ite rfl
  | send v s =>
    show (if b.reaches k then [v] else []) = Own.kept (.send v) (b.seen k)
    rw [← accepts_seen]
    cases b.seen k with
    | none => rfl
    | some q => rfl
  | receive i => exact nil_eq_elim_ite rfl
  | leave i => exact nil_eq_elim_ite rfl
  | hangUp i => exact nil_eq_elim_ite rfl

theorem agree_lost (k : Nat) : Agree (α := α) k (Op.lost k) Own.lost := by
  intro op b
  cases op with
  | subscribe buffer => exact nil_eq_elim_ite rfl
  | send v s => rfl
  | receive i => exact nil_eq_elim_ite rfl
  | leave i => exact nil_eq_elim_ite rfl
  | hangUp i =>
    show (if i = k then b.queued k else [])
      = (if i = k then some Own.hangUp else none).elim [] fun o => o.lost (b.seen k)
    by_cases hik : i = k
    · rw [if_pos hik, if_pos hik, ← waiting_seen]
      show Own.waiting (b.seen k) = Own.lost .hangUp (b.seen k)
      cases b.seen k with
      | none => rfl
      | some q => rfl
    · rw [if_neg hik, if_neg hik]
      rfl

end Broadcaster

-- ================================================================== runs

/-- What a subscriber notices of a run, where `n` have subscribed before. -/
def noticed (k : Nat) : Nat → List (Op α) → List (Own α)
  | _, [] => []
  | n, op :: rest => (op.own k n).toList ++ noticed k (op.count n) rest

/-- The values sent in a run. -/
def sends (ops : List (Op α)) : List α := ops.filterMap Op.sent?

namespace Broadcaster

/-- What subscriber `k` is told in a run. -/
def deliveries (k : Nat) : List (Op α) → Broadcaster α → List (Delivery α) :=
  along Op.step (Op.told k)

/-- The values that subscriber `k` receives in a run. -/
def received (k : Nat) (ops : List (Op α)) (b : Broadcaster α) : List α :=
  (b.deliveries k ops).filterMap Delivery.value?

/-- The values that reach subscriber `k` in a run. -/
def accepted (k : Nat) : List (Op α) → Broadcaster α → List α := along Op.step (Op.kept k)

/-- The values that wait for subscriber `k` when it hangs up in a run. -/
def dropped (k : Nat) : List (Op α) → Broadcaster α → List α := along Op.step (Op.lost k)

theorem along_eq {k : Nat} {see : Op α → Broadcaster α → List β}
    {seeOwn : Own α → Option (Alone α) → List β} (hagree : Agree k see seeOwn) (ops : List (Op α))
    {b : Broadcaster α} (h : Numbered b) :
    along Op.step see ops b
      = along Own.step seeOwn (noticed k b.channels.length ops) (b.seen k) := by
  induction ops generalizing b with
  | nil => rfl
  | cons op rest ih =>
    have hrest := ih (numbered_step h op)
    rw [length_step, seen_step h] at hrest
    show see op b ++ along Op.step see rest (op.step b) = _
    rw [hrest, hagree op b, noticed]
    cases op.own k b.channels.length with
    | none => rfl
    | some o => rfl

theorem seen_go {k : Nat} (ops : List (Op α)) {b : Broadcaster α} (h : Numbered b) :
    (go Op.step ops b).seen k
      = go Own.step (noticed k b.channels.length ops) (b.seen k) := by
  induction ops generalizing b with
  | nil => rfl
  | cons op rest ih =>
    have hrest := ih (numbered_step h op)
    rw [length_step, seen_step h] at hrest
    show (go Op.step rest (op.step b)).seen k = _
    rw [hrest, noticed]
    cases op.own k b.channels.length with
    | none => rfl
    | some o => rfl

/-- What reaches a subscriber was sent, once and in this order. -/
theorem accepted_sublist (k : Nat) (ops : List (Op α)) (b : Broadcaster α) :
    (accepted k ops b).Sublist (sends ops) := by
  induction ops generalizing b with
  | nil => exact List.Sublist.refl _
  | cons op rest ih =>
    have hrest := ih (op.step b)
    show (op.kept k b ++ accepted k rest (op.step b)).Sublist (sends (op :: rest))
    cases op with
    | send v s =>
      have hsends : sends (.send v s :: rest) = [v] ++ sends rest := rfl
      rw [hsends]
      refine List.Sublist.append ?_ hrest
      show (if b.reaches k then [v] else []).Sublist [v]
      cases b.reaches k with
      | true => exact List.Sublist.refl [v]
      | false => exact List.nil_sublist [v]
    | subscribe buffer => exact hrest
    | receive i => exact hrest
    | leave i => exact hrest
    | hangUp i => exact hrest

/-- Each subscriber of a broadcaster behaves like a queue by itself. What
reaches it, it has received, or it waits, or it waited when the subscriber
hung up; and what it is told depends on nothing but what it notices. -/
theorem subscriber_is_alone (ops : List (Op α)) (k : Nat) :
    let start : Broadcaster α := {}
    let last := go Op.step ops start
    (start.deliveries k ops = Own.deliveries (noticed k 0 ops) none ∧
      last.seen k = go Own.step (noticed k 0 ops) none) ∧
    start.received k ops ++ start.dropped k ops ++ last.queued k = start.accepted k ops ∧
    ((∀ c, last.channels[k]? = some c → c.listening = true) → start.dropped k ops = []) ∧
    (start.accepted k ops).Sublist (sends ops) ∧
    ∀ (ops' : List (Op α)) (k' : Nat), noticed k' 0 ops' = noticed k 0 ops →
      start.deliveries k' ops' = start.deliveries k ops ∧
        (go Op.step ops' start).queued k' = last.queued k := by
  intro start last
  have hnumbered : Numbered start := numbered_empty
  have htold : ∀ k ops, start.deliveries k ops = Own.deliveries (noticed k 0 ops) none :=
    fun k ops => along_eq (agree_told k) ops hnumbered
  have hkept : start.accepted k ops = Own.accepted (noticed k 0 ops) none :=
    along_eq (agree_kept k) ops hnumbered
  have hlost : start.dropped k ops = Own.dropped (noticed k 0 ops) none :=
    along_eq (agree_lost k) ops hnumbered
  have hseen : ∀ k ops, (go Op.step ops start).seen k = go Own.step (noticed k 0 ops) none :=
    fun k ops => seen_go ops hnumbered
  refine ⟨⟨htold k ops, hseen k ops⟩, ?_, fun hlistening => ?_, accepted_sublist k ops start,
    fun ops' k' hsame => ⟨?_, ?_⟩⟩
  · have haccount := Own.account (noticed k 0 ops) none
    rw [← hseen, waiting_seen, ← hkept, ← hlost] at haccount
    unfold received
    rw [htold]
    exact haccount
  · have hhears : Own.Hears (go Own.step (noticed k 0 ops) none) := by
      rw [← hseen]
      intro q hq
      obtain ⟨c, hc, rfl⟩ := Option.map_eq_some_iff.mp hq
      exact hlistening c hc
    rw [hlost]
    exact (Own.dropped_of_hears hhears).2
  · rw [htold, htold, hsame]
  · rw [← waiting_seen, ← waiting_seen, hseen, hseen, hsame]

end Broadcaster

end HostTelemetry
