/-
The queue of one subscriber, as if there were no other: the machine that
`Isolation` finds behind every subscriber of a broadcaster.

# The account

What was accepted is what was received, what was lost and what still
waits, in this order (`account`). Values are lost at one moment only, when
the subscriber hangs up; from then on it hears nothing, so nothing that is
received can come after what is lost. That is what `received_of_deaf` adds
to the induction.
-/
import HostTelemetry.Broadcast
import HostTelemetry.Proofs.Runs

namespace HostTelemetry

variable {α : Type}

/-- The value of a delivery, if it has one. -/
def Delivery.value? : Delivery α → Option α
  | .value v => some v
  | .empty | .closed | .deaf => none

-- ============================================================== one queue

/-- A queue and its subscriber. The values that wait stand in the order in
which they were sent. -/
structure Alone (α : Type) where
  capacity : Nat
  waiting : List α := []
  registered : Bool := true
  listening : Bool := true

namespace Alone

/-- Whether a value that is sent now gets a place. -/
def accepts (q : Alone α) : Bool :=
  q.registered && q.listening && q.waiting.length < q.capacity

/-- A value is sent. -/
def send (q : Alone α) (v : α) : Alone α :=
  if q.accepts then { q with waiting := q.waiting ++ [v] } else q

/-- What the subscriber gets when it looks for a value. -/
def next (q : Alone α) : Delivery α :=
  if q.listening then
    match q.waiting with
    | v :: _ => .value v
    | [] => if q.registered then .empty else .closed
  else .deaf

/-- The subscriber has looked for a value. -/
def receive (q : Alone α) : Alone α :=
  if q.listening then { q with waiting := q.waiting.tail } else q

/-- The subscriber has left the registry. -/
def leave (q : Alone α) : Alone α := { q with registered := false }

/-- The subscriber has stopped listening, and what waited is gone. -/
def hangUp (q : Alone α) : Alone α := { q with waiting := [], listening := false }

/-- A value waits if it was accepted. -/
theorem waiting_send (q : Alone α) (v : α) :
    (q.send v).waiting = q.waiting ++ (if q.accepts then [v] else []) := by
  unfold send
  cases q.accepts with
  | true => rfl
  | false => simp

/-- What waited is told or still waits. -/
theorem waiting_receive (q : Alone α) :
    [q.next].filterMap Delivery.value? ++ q.receive.waiting = q.waiting := by
  unfold next receive
  cases hl : q.listening with
  | false => simp [Delivery.value?]
  | true =>
    cases hw : q.waiting with
    | cons v more => simp [Delivery.value?]
    | nil =>
      cases q.registered with
      | true => simp [Delivery.value?]
      | false => simp [Delivery.value?]

@[simp] theorem listening_send (q : Alone α) (v : α) : (q.send v).listening = q.listening := by
  unfold send
  cases q.accepts with
  | true => rfl
  | false => rfl

@[simp] theorem listening_receive (q : Alone α) : q.receive.listening = q.listening := by
  unfold receive
  by_cases hl : q.listening = true
  · rw [if_pos hl]
  · rw [if_neg hl]

end Alone

/-- What a subscriber can notice: what it does, and what is sent. To leave
is to leave the registry, and who hangs up does not listen any more. -/
inductive Own (α : Type) where
  | subscribe (buffer : Nat)
  | send (v : α)
  | receive
  | leave
  | hangUp

namespace Own

/-- The queue after that; it is there from the subscription on. -/
def step : Own α → Option (Alone α) → Option (Alone α)
  | .subscribe buffer, s => s.or (some { capacity := max 1 buffer })
  | .send v, s => s.map (·.send v)
  | .receive, s => s.map (·.receive)
  | .leave, s => s.map (·.leave)
  | .hangUp, s => s.map (·.hangUp)

/-- What the subscriber is told. -/
def told : Own α → Option (Alone α) → List (Delivery α)
  | .receive, s => [s.elim .deaf Alone.next]
  | _, _ => []

/-- The value that gets a place. -/
def kept : Own α → Option (Alone α) → List α
  | .send v, some q => if q.accepts then [v] else []
  | _, _ => []

/-- The values that are lost. -/
def lost : Own α → Option (Alone α) → List α
  | .hangUp, some q => q.waiting
  | _, _ => []

/-- What the subscriber is told in a run. -/
abbrev deliveries : List (Own α) → Option (Alone α) → List (Delivery α) := along step told

/-- What the subscriber receives in a run. -/
def received (ops : List (Own α)) (s : Option (Alone α)) : List α :=
  (deliveries ops s).filterMap Delivery.value?

/-- What gets a place in a run. -/
abbrev accepted : List (Own α) → Option (Alone α) → List α := along step kept

/-- What is lost in a run. -/
abbrev dropped : List (Own α) → Option (Alone α) → List α := along step lost

/-- The subscriber has not hung up. -/
def Hears (s : Option (Alone α)) : Prop := ∀ q, s = some q → q.listening = true

/-- What waits for a subscriber. -/
def waiting (s : Option (Alone α)) : List α := s.elim [] (·.waiting)

-- =========================================================== the account

theorem received_cons (o : Own α) (rest : List (Own α)) (s : Option (Alone α)) :
    received (o :: rest) s
      = (o.told s).filterMap Delivery.value? ++ received rest (o.step s) := by
  unfold received
  exact List.filterMap_append

/-- Who does not listen receives nothing any more. -/
theorem received_of_deaf (ops : List (Own α)) {q : Alone α} (hdeaf : q.listening = false) :
    received ops (some q) = [] := by
  induction ops generalizing q with
  | nil => rfl
  | cons o rest ih =>
    rw [received_cons]
    cases o with
    | subscribe buffer => exact ih hdeaf
    | send v =>
      have hstay : q.send v = q := by simp [Alone.send, Alone.accepts, hdeaf]
      show [] ++ received rest (some (q.send v)) = []
      rw [hstay]
      exact ih hdeaf
    | receive =>
      have htold : q.next = .deaf := by simp [Alone.next, hdeaf]
      have hstay : q.receive = q := by simp [Alone.receive, hdeaf]
      show [q.next].filterMap Delivery.value? ++ received rest (some q.receive) = []
      rw [htold, hstay]
      exact ih hdeaf
    | leave => exact ih (q := q.leave) hdeaf
    | hangUp => exact ih (q := q.hangUp) rfl

/-- What was accepted has been received, has been lost or waits. -/
theorem account (ops : List (Own α)) (s : Option (Alone α)) :
    received ops s ++ dropped ops s ++ waiting (go step ops s)
      = waiting s ++ accepted ops s := by
  induction ops generalizing s with
  | nil => simp [received, along, go]
  | cons o rest ih =>
    have hrest := ih (o.step s)
    rw [received_cons]
    cases s with
    | none =>
      cases o with
      | subscribe buffer => exact hrest
      | send v => exact hrest
      | receive => exact hrest
      | leave => exact hrest
      | hangUp => exact hrest
    | some q =>
      cases o with
      | subscribe buffer => exact hrest
      | leave => exact hrest
      | send v =>
        show received rest (some (q.send v)) ++ dropped rest (some (q.send v))
            ++ waiting (go step rest (some (q.send v)))
          = q.waiting ++ ((if q.accepts then [v] else []) ++ accepted rest (some (q.send v)))
        rw [← List.append_assoc, ← q.waiting_send v]
        exact hrest
      | receive =>
        show [q.next].filterMap Delivery.value? ++ received rest (some q.receive)
            ++ dropped rest (some q.receive) ++ waiting (go step rest (some q.receive))
          = q.waiting ++ accepted rest (some q.receive)
        rw [← q.waiting_receive]
        simp only [List.append_assoc, List.append_cancel_left_eq]
        rw [← List.append_assoc]
        exact hrest
      | hangUp =>
        show received rest (some q.hangUp) ++ (q.waiting ++ dropped rest (some q.hangUp))
            ++ waiting (go step rest (some q.hangUp))
          = q.waiting ++ accepted rest (some q.hangUp)
        -- nothing is received after what is lost
        have hnone : received rest (some q.hangUp) = [] := received_of_deaf rest rfl
        have hafter : received rest (some q.hangUp) ++ dropped rest (some q.hangUp)
            ++ waiting (go step rest (some q.hangUp)) = accepted rest (some q.hangUp) := hrest
        rw [hnone, List.nil_append] at hafter
        rw [hnone, List.nil_append, List.append_assoc, hafter]

theorem hears_of_step {o : Own α} {s : Option (Alone α)} (h : Hears (o.step s)) :
    Hears s ∧ o.lost s = [] := by
  cases s with
  | none => exact ⟨nofun, by cases o <;> rfl⟩
  | some q =>
    suffices hq : q.listening = true ∧ o.lost (some q) = [] from
      ⟨fun q' hq' => Option.some.inj hq' ▸ hq.1, hq.2⟩
    cases o with
    | subscribe buffer => exact ⟨h q rfl, rfl⟩
    | send v => exact ⟨(q.listening_send v).symm.trans (h _ rfl), rfl⟩
    | receive => exact ⟨q.listening_receive.symm.trans (h _ rfl), rfl⟩
    | leave => exact ⟨h q.leave rfl, rfl⟩
    | hangUp => cases h q.hangUp rfl

/-- A subscriber that has not hung up has lost nothing. -/
theorem dropped_of_hears {ops : List (Own α)} {s : Option (Alone α)}
    (h : Hears (go step ops s)) : Hears s ∧ dropped ops s = [] := by
  induction ops generalizing s with
  | nil => exact ⟨h, rfl⟩
  | cons o rest ih =>
    obtain ⟨hnext, hrest⟩ := ih h
    obtain ⟨hs, hlost⟩ := hears_of_step hnext
    refine ⟨hs, ?_⟩
    show o.lost s ++ dropped rest (o.step s) = []
    rw [hlost, hrest]
    rfl

end Own

end HostTelemetry
