/-
What is read of a body, whatever the pieces it arrives in.

# The formula

A body is a list of pieces and a way to end. `readLimited_eq` says what is
read of it, by these alone: if a piece reaches the limit, the first bytes up
to the limit, and else all there is, or the fault that the body ends with.
The reader goes on from what it has got so far, so the induction is over the
body, with the got bytes left open (`readOn_eq`).

At a limit of zero nothing is missing from the beginning on, yet the reader
looks at the limit only when a piece has come. `Reaches` therefore asks for a
piece, be it empty. This is all that the reader can tell of the pieces, and
only at that limit (`readLimited_eq_iff_of_same`).

# The slices

Of each piece the reader takes as much as there is room for. `sliceOn?` does
the same with slices that a piece may be too short for, and never meets one
(`sliceOn?_eq`).

# Who reads

Replies are read in two ways, by calls and by probes, both with a limit above
zero, and neither can tell the pieces (`Same.content_eq`,
`Same.sighting?_eq`). `IgnoresPieces` says of a dialogue that it goes on alike
after such replies. A dialogue that does comes to the same with servers that
differ in the pieces of their bodies only (`run_eq_of_sameBytes`).
-/
import HostTelemetry.Http.Fetch

namespace HostTelemetry.Http

-- ============================================================== pieces

/-- The pieces in which a body arrives. -/
def Body.pieces : Body → List Bytes
  | .complete | .broken | .stalled => []
  | .chunk bytes rest => bytes :: rest.pieces

/-- All bytes that arrive of a body. -/
def Body.bytes (b : Body) : Bytes := b.pieces.flatten

/-- How a body ends. -/
def Body.ending : Body → Except BodyFault Unit
  | .complete => .ok ()
  | .broken => .error .broken
  | .stalled => .error .stalled
  | .chunk _ rest => rest.ending

/-- With one of the pieces, so many bytes have arrived. -/
def Body.Reaches (limit : Nat) (b : Body) : Prop := b.pieces ≠ [] ∧ limit ≤ b.bytes.length

instance (limit : Nat) (b : Body) : Decidable (b.Reaches limit) :=
  inferInstanceAs (Decidable (_ ∧ _))

@[simp] theorem Body.bytes_chunk (bytes : Bytes) (rest : Body) :
    (Body.chunk bytes rest).bytes = bytes ++ rest.bytes :=
  List.flatten_cons

theorem Body.bytes_of_pieces_nil {b : Body} (h : b.pieces = []) : b.bytes = [] := by
  rw [bytes, h, List.flatten_nil]

-- ========================================================= the formula

/-- What is read behind some bytes that are there already. -/
theorem readOn_eq (limit : Nat) (got : Bytes) (b : Body) :
    readOn limit got b
      = if b.pieces ≠ [] ∧ limit ≤ got.length + b.bytes.length
        then .ok (got ++ b.bytes.take (limit - got.length))
        else b.ending.map fun _ => got ++ b.bytes := by
  induction b generalizing got with
  | complete => simp [readOn, Body.pieces, Body.bytes, Body.ending, Except.map]
  | broken => simp [readOn, Body.pieces, Body.ending, Except.map]
  | stalled => simp [readOn, Body.pieces, Body.ending, Except.map]
  | chunk bytes rest ih =>
    have hpieces : (Body.chunk bytes rest).pieces ≠ [] := List.cons_ne_nil _ _
    simp only [readOn, Body.bytes_chunk, List.length_append, List.length_take]
    by_cases hfull : limit ≤ got.length + bytes.length
    · -- the piece fills the room, and what follows is not looked at
      rw [if_pos (by omega), if_pos ⟨hpieces, by omega⟩, List.take_append_of_le_length (by omega)]
    · -- the piece is taken whole, and if the limit is reached, then by a later one
      have hreach : (rest.pieces ≠ [] ∧ limit ≤ (got ++ bytes).length + rest.bytes.length)
          ↔ ((Body.chunk bytes rest).pieces ≠ [] ∧
            limit ≤ got.length + (bytes.length + rest.bytes.length)) := by
        rw [List.length_append, Nat.add_assoc]
        refine ⟨fun h => ⟨hpieces, h.2⟩, fun h => ⟨fun hnil => ?_, h.2⟩⟩
        have hlimit := h.2
        rw [Body.bytes_of_pieces_nil hnil, List.length_nil] at hlimit
        omega
      have hroom : bytes.length ≤ limit - got.length := by omega
      rw [if_neg (by omega), List.take_of_length_le hroom, ih]
      by_cases hr : rest.pieces ≠ [] ∧ limit ≤ (got ++ bytes).length + rest.bytes.length
      · rw [if_pos hr, if_pos (hreach.mp hr), List.take_append, List.take_of_length_le hroom,
          List.length_append, Nat.sub_add_eq, List.append_assoc]
      · rw [if_neg hr, if_neg (mt hreach.mpr hr), List.append_assoc]
        rfl

/-- What is read of a body: the first bytes up to the limit, if a piece
reaches it, and else all there is, unless the body ends with a fault. -/
theorem readLimited_eq (limit : Nat) (b : Body) :
    readLimited limit b
      = if b.Reaches limit then .ok (b.bytes.take limit) else b.ending.map fun _ => b.bytes := by
  have h := readOn_eq limit [] b
  simp only [List.length_nil, Nat.zero_add, Nat.sub_zero, List.nil_append] at h
  exact h

-- a fault behind the limit is not met
example : readLimited 3 (.chunk [1, 2] (.chunk [] (.chunk [3, 4] .broken))) = .ok [1, 2, 3] := rfl

theorem readLimited_of_reaches {limit : Nat} {b : Body} (h : b.Reaches limit) :
    readLimited limit b = .ok (b.bytes.take limit) := by
  rw [readLimited_eq, if_pos h]

/-- Of a body that arrives as a whole the first bytes are read. -/
theorem readLimited_of_ending_ok (limit : Nat) {b : Body} (h : b.ending = .ok ()) :
    readLimited limit b = .ok (b.bytes.take limit) := by
  by_cases hr : b.Reaches limit
  · exact readLimited_of_reaches hr
  · rw [readLimited_eq, if_neg hr, h]
    by_cases hnil : b.pieces = []
    · rw [Body.bytes_of_pieces_nil hnil, List.take_nil]
      rfl
    · have hshort : b.bytes.length ≤ limit := by
        have hno : ¬ limit ≤ b.bytes.length := fun hle => hr ⟨hnil, hle⟩
        omega
      rw [List.take_of_length_le hshort]
      rfl

/-- A fault is met exactly if the body ends with it and no piece reaches the
limit before. -/
theorem readLimited_eq_error_iff {limit : Nat} {b : Body} {e : BodyFault} :
    readLimited limit b = .error e ↔ b.ending = .error e ∧ ¬ b.Reaches limit := by
  rw [readLimited_eq]
  by_cases hr : b.Reaches limit
  · simp [hr]
  · rw [if_neg hr]
    cases b.ending <;> simp [Except.map, hr]

/-- Whatever is read are the first bytes, as many as there are up to the
limit. -/
theorem eq_take_of_readLimited {limit : Nat} {b : Body} {got : Bytes}
    (h : readLimited limit b = .ok got) :
    got = b.bytes.take limit ∧ got.length = min limit b.bytes.length := by
  have htake : got = b.bytes.take limit := by
    by_cases hr : b.Reaches limit
    · exact Except.ok.inj (h.symm.trans (readLimited_of_reaches hr))
    · cases he : b.ending with
      | ok _ => exact Except.ok.inj (h.symm.trans (readLimited_of_ending_ok limit he))
      | error e => cases h.symm.trans (readLimited_eq_error_iff.mpr ⟨he, hr⟩)
  exact ⟨htake, by rw [htake, List.length_take]⟩

-- ========================================================== the slices

/-- The first bytes of a piece, if it has so many. -/
def slice? (bytes : Bytes) (n : Nat) : Option Bytes :=
  if n ≤ bytes.length then some (bytes.take n) else none

/-- Reads a body with slices of its pieces, and comes to nothing where a slice
goes beyond its piece. -/
def sliceOn? (limit : Nat) (got : Bytes) : Body → Option (Except BodyFault Bytes)
  | .complete => some (.ok got)
  | .broken => some (.error .broken)
  | .stalled => some (.error .stalled)
  | .chunk bytes rest => do
    let room := limit - got.length
    let got := got ++ (← slice? bytes (min bytes.length room))
    if limit ≤ got.length then some (.ok got) else sliceOn? limit got rest

/-- No slice goes beyond its piece, and the slices make what is read. -/
theorem sliceOn?_eq (limit : Nat) (got : Bytes) (b : Body) :
    sliceOn? limit got b = some (readOn limit got b) := by
  induction b generalizing got with
  | complete => rfl
  | broken => rfl
  | stalled => rfl
  | chunk bytes rest ih =>
    have hslice : slice? bytes (min bytes.length (limit - got.length))
        = some (bytes.take (limit - got.length)) := by
      rw [slice?, if_pos (Nat.min_le_left _ _), Nat.min_comm, ← List.take_take, List.take_length]
    simp only [sliceOn?, readOn, hslice, Option.bind_eq_bind, Option.bind_some, ih]
    split <;> rfl

-- ================================================== the same in pieces

/-- The same bytes and the same end, in whatever pieces. -/
structure Body.Same (a b : Body) : Prop where
  bytes : a.bytes = b.bytes
  ending : a.ending = b.ending

/-- At a limit of zero any piece will do. -/
theorem Body.reaches_zero_iff {b : Body} : b.Reaches 0 ↔ b.pieces ≠ [] :=
  and_iff_left (Nat.zero_le _)

/-- At a limit above zero the bytes alone reach it. -/
theorem Body.reaches_iff {limit : Nat} (h : limit ≠ 0) {b : Body} :
    b.Reaches limit ↔ limit ≤ b.bytes.length := by
  refine ⟨fun hr => hr.2, fun hle => ⟨fun hnil => ?_, hle⟩⟩
  rw [bytes_of_pieces_nil hnil, List.length_nil] at hle
  omega

/-- At a limit above zero the pieces do not matter. -/
theorem readLimited_eq_of_same {limit : Nat} (hl : limit ≠ 0) {a b : Body} (h : a.Same b) :
    readLimited limit a = readLimited limit b := by
  simp only [readLimited_eq, Body.reaches_iff hl, h.bytes, h.ending]

/-- A body that ends with a fault is read at a limit of zero if there is a
piece. -/
theorem readLimited_zero_eq_error_iff {b : Body} {e : BodyFault} (h : b.ending = .error e) :
    readLimited 0 b = .error e ↔ b.pieces = [] := by
  rw [readLimited_eq_error_iff, Body.reaches_zero_iff, ne_eq, Decidable.not_not]
  exact and_iff_right h

/-- All that can be told of the pieces: at a limit of zero, whether there are
any before a fault. -/
theorem readLimited_eq_iff_of_same {limit : Nat} {a b : Body} (h : a.Same b) :
    readLimited limit a = readLimited limit b
      ↔ (limit = 0 → a.ending = .ok () ∨ (a.pieces = [] ↔ b.pieces = [])) := by
  by_cases hl : limit = 0
  · subst hl
    cases he : a.ending with
    | ok _ =>
      refine iff_of_true ?_ fun _ => .inl rfl
      rw [readLimited_of_ending_ok 0 he, readLimited_of_ending_ok 0 (h.ending.symm.trans he),
        h.bytes]
    | error e =>
      constructor
      · intro heq _
        rw [← readLimited_zero_eq_error_iff he,
          ← readLimited_zero_eq_error_iff (h.ending.symm.trans he), heq]
        exact .inr Iff.rfl
      · intro hpieces
        have hnil : a.pieces = [] ↔ b.pieces = [] := (hpieces rfl).resolve_left nofun
        simp only [readLimited_eq, Body.reaches_zero_iff, ne_eq, hnil, h.bytes, h.ending]
  · exact iff_of_true (readLimited_eq_of_same hl h) fun hzero => absurd hzero hl

/-- The same reply, with its body in whatever pieces. -/
inductive Reply.Same : Reply → Reply → Prop where
  | response {status : Nat} {location : Option String} {a b : Body} (h : a.Same b) :
      Same (.response ⟨status, location, a⟩) (.response ⟨status, location, b⟩)
  | closed : Same .closed .closed
  | silence : Same .silence .silence

namespace Reply.Same

variable {a b : Reply}

/-- No call can tell the pieces. -/
theorem content_eq (h : a.Same b) (url : String) : a.content url = b.content url := by
  cases h with
  | response h =>
    have hlimit : maxCallBody ≠ 0 := by decide
    simp only [Reply.content, readLimited_eq_of_same hlimit h]
  | closed => rfl
  | silence => rfl

/-- No probe can tell the pieces. -/
theorem sighting?_eq (h : a.Same b) : a.sighting? = b.sighting? := by
  cases h with
  | response h =>
    have hlimit : maxProbeBody ≠ 0 := by decide
    simp only [Reply.sighting?, readLimited_eq_of_same hlimit h]
  | closed => rfl
  | silence => rfl

end Reply.Same

-- =========================================================== dialogues

namespace Dialogue

variable {σ α β : Type} {srv srv' : Server σ}

/-- A dialogue asks for bodies up to a limit above zero, and goes on alike after
replies that differ in the pieces of their bodies only. -/
inductive IgnoresPieces {α : Type} : Dialogue α → Prop where
  | done (a : α) : IgnoresPieces (.done a)
  | exchange {r : Request} {next : Reply → Dialogue α} (hlimit : r.limit ≠ 0)
      (hsame : ∀ a b, Reply.Same a b → next a = next b) (h : ∀ a, IgnoresPieces (next a)) :
      IgnoresPieces (.exchange r next)
  | pause {millis : Nat} {next : Dialogue α} (h : IgnoresPieces next) :
      IgnoresPieces (.pause millis next)
  | consult {next : Option Credentials → Dialogue α} (h : ∀ c, IgnoresPieces (next c)) :
      IgnoresPieces (.consult next)
  | keep {g : Grant} {next : Dialogue α} (h : IgnoresPieces next) : IgnoresPieces (.keep g next)
  | forget {next : Dialogue α} (h : IgnoresPieces next) : IgnoresPieces (.forget next)

namespace IgnoresPieces

theorem bind {d : Dialogue α} {f : α → Dialogue β} (hd : d.IgnoresPieces)
    (hf : ∀ a, (f a).IgnoresPieces) : (d.bind f).IgnoresPieces := by
  induction hd with
  | done a => exact hf a
  | exchange hlimit hsame _ ih =>
    refine .exchange hlimit (fun a b hab => ?_) ih
    rw [hsame a b hab]
  | pause _ ih => exact .pause ih
  | consult _ ih => exact .consult ih
  | keep _ ih => exact .keep ih
  | forget _ ih => exact .forget ih

theorem call (method : Method) (url : String) (credentials : Option Credentials)
    (body : Option Json) : (Http.call method url credentials body).IgnoresPieces := by
  unfold Http.call
  split
  · refine .exchange (show maxCallBody ≠ 0 by decide) (fun a b hab => ?_) fun _ => .done _
    rw [hab.content_eq]
  · exact .done _

theorem getJson {read? : Json → Option α} (url : String) :
    (Http.getJson read? url).IgnoresPieces :=
  .bind (call .get url none none) fun _ => .done _

theorem probeEach (path : String) (accept : Sighting → Bool) (bases : List String) :
    (Http.probeEach path accept bases).IgnoresPieces := by
  induction bases with
  | nil => exact .done _
  | cons base rest ih =>
    refine .exchange (show maxProbeBody ≠ 0 by decide) (fun a b hab => ?_) fun a => ?_
    · rw [hab.sighting?_eq]
    · split
      · exact .done _
      · exact ih

end IgnoresPieces

/-- Two servers that do the same and answer the same, but for the pieces of
the bodies. -/
structure SameBytes (srv srv' : Server σ) : Prop where
  reply : ∀ r x, (srv.reply r x).1.Same (srv'.reply r x).1
  state : ∀ r x, (srv.reply r x).2 = (srv'.reply r x).2
  now : ∀ x, srv.now x = srv'.now x

/-- Who reads something of a body waits as long for it in any pieces. -/
theorem waited_eq_of_same {r : Request} (hlimit : r.limit ≠ 0) {a b : Reply} (h : a.Same b) :
    waited r a = waited r b := by
  cases h with
  | response h => rw [waited, waited, Body.stalls, Body.stalls, readLimited_eq_of_same hlimit h]
  | closed => rfl
  | silence => rfl

/-- With servers that differ in the pieces only, it comes to the same. -/
theorem run_eq_of_sameBytes (hs : SameBytes srv srv') {d : Dialogue α} (hd : d.IgnoresPieces)
    (s : Scene σ) : d.run srv s = d.run srv' s := by
  induction hd generalizing s with
  | done a => rfl
  | exchange hlimit hsame _ ih =>
    simp only [run]
    rw [hsame _ _ (hs.reply _ s.server), hs.state, waited_eq_of_same hlimit (hs.reply _ s.server),
      ih]
  | pause _ ih => exact ih _
  | consult _ ih =>
    simp only [run, hs.now]
    exact ih _ s
  | keep _ ih =>
    simp only [run, hs.now]
    exact ih _
  | forget _ ih => exact ih _

end Dialogue

end HostTelemetry.Http
