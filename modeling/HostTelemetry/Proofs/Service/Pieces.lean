/-
No plugin can tell in which pieces the bodies of its answers arrive.

Every dialogue of a plugin is put together of calls and probes, and those
ignore the pieces. So a search is followed through its lists of ports and
paths, and a collection or an action through its steps; for Pi-hole the steps
are those of its parts (`PiHole.Parts`).

The main statement, `reading_ignores_pieces`, begins at the single body. It
says what is read of it, that nothing is sliced out of range, and when two
bodies of the same bytes are read alike, and goes on to replies and to whole
dialogues.
-/
import HostTelemetry.Proofs.Http.Bodies
import HostTelemetry.Proofs.PiHole.Parts
import HostTelemetry.Service.Standard

namespace HostTelemetry.Nginx

open Http.Dialogue (IgnoresPieces)
open Service (Record)

theorem ignoresPieces_probePaths (ports : List Nat) (paths : List String) :
    (probePaths ports paths).IgnoresPieces := by
  induction paths with
  | nil => exact .done _
  | cons path rest ih =>
    refine .bind (.probeEach path looksLikeStatus _) fun found => ?_
    cases found with
    | some url => exact .done _
    | none => exact ih

theorem ignoresPieces_detect (e : Discovery.Environment) : (detect e).IgnoresPieces := by
  have hprocess : (detectProcess e).IgnoresPieces := by
    unfold detectProcess
    split
    · exact ignoresPieces_probePaths _ _
    · exact .done _
  unfold detect
  split
  · refine .bind (ignoresPieces_probePaths _ _) fun found => ?_
    cases found with
    | some r => exact .done _
    | none => exact hprocess
  · exact hprocess

theorem ignoresPieces_collect (r : Record) : (collect r).IgnoresPieces :=
  .bind (.call .get _ none none) fun _ => .done _

end HostTelemetry.Nginx

namespace HostTelemetry.Traefik

open Http.Dialogue (IgnoresPieces)
open Service (Record)

theorem ignoresPieces_probeOr (ports : List Nat) {otherwise : Http.Dialogue (Option Record)}
    (h : otherwise.IgnoresPieces) : (probeOr ports otherwise).IgnoresPieces := by
  refine .bind (.probeEach overviewPath looksLikeOverview _) fun found => ?_
  cases found with
  | some url => exact .done _
  | none => exact h

theorem ignoresPieces_detect (e : Discovery.Environment) : (detect e).IgnoresPieces := by
  have hblind : (probeOr blindPorts (.done none)).IgnoresPieces :=
    ignoresPieces_probeOr _ (.done _)
  have hprocess : (if e.hasProcess "traefik" then
      probeOr processPorts (probeOr blindPorts (.done none))
      else probeOr blindPorts (.done none)).IgnoresPieces := by
    split
    · exact ignoresPieces_probeOr _ hblind
    · exact hblind
  unfold detect
  cases container? e with
  | some c => exact ignoresPieces_probeOr _ hprocess
  | none => exact hprocess

theorem ignoresPieces_collect (r : Record) : (collect r).IgnoresPieces := by
  refine .bind (.getJson _) fun a => ?_
  cases a with
  | error e => exact .done _
  | ok overview =>
    refine .bind (.getJson _) fun listed => ?_
    cases listed <;> exact .done _

end HostTelemetry.Traefik

namespace HostTelemetry.PiHole

open Http.Dialogue (IgnoresPieces)

theorem ignoresPieces_probeTrials (ports : List Nat) (trials : List Trial) :
    (probeTrials ports trials).IgnoresPieces := by
  induction trials with
  | nil => exact .done _
  | cons t rest ih =>
    refine .bind (.probeEach t.path t.accepts _) fun found => ?_
    cases found with
    | some url => exact .done _
    | none => exact ih

theorem ignoresPieces_probeLists (lists : List (List Nat)) :
    (probeLists lists).IgnoresPieces := by
  induction lists with
  | nil => exact .done _
  | cons ports rest ih =>
    refine .bind (ignoresPieces_probeTrials ports trials) fun found => ?_
    cases found with
    | some r => exact .done _
    | none => exact ih

/-- The parts of its dialogues ignore the pieces. -/
theorem parts_ignoresPieces (base : String) : Parts (fun _ d => d.IgnoresPieces) base where
  done := .done
  bind := .bind
  consult := .consult
  forget := .forget
  get url credentials := .call .get url credentials none
  post credentials body := .call .post _ credentials (some body)
  login password := by
    refine .bind (.call .post _ none _) fun a => ?_
    split
    · exact .keep (.done _)
    · exact .done _

end HostTelemetry.PiHole

namespace HostTelemetry.Service

open Http (Body Reply readLimited sliceOn?)
open Http.Dialogue (IgnoresPieces SameBytes Server)

/-- All that the standard plugins do ignores the pieces. -/
theorem ignoresPieces_of_mem {files : PiHole.SettingsFiles} {p : Plugin}
    (hp : p ∈ standardPlugins files) :
    (∀ e, (p.detect e).IgnoresPieces) ∧ (∀ r, (p.collect r).IgnoresPieces) ∧
      ∀ r action params, (p.act r action params).IgnoresPieces := by
  simp only [standardPlugins, List.mem_cons, List.not_mem_nil, or_false] at hp
  rcases hp with rfl | rfl | rfl
  · exact ⟨fun e => PiHole.ignoresPieces_probeLists _,
      fun r => (PiHole.parts_ignoresPieces r.baseUrl).collect,
      fun r => (PiHole.parts_ignoresPieces r.baseUrl).act⟩
  · exact ⟨Traefik.ignoresPieces_detect, Traefik.ignoresPieces_collect, fun _ _ _ => .done _⟩
  · exact ⟨Nginx.ignoresPieces_detect, Nginx.ignoresPieces_collect, fun _ _ _ => .done _⟩

/-- Whatever the pieces in which a body arrives: what is read of it are its
first bytes, as many as there are up to the limit, without a slice out of
range; a fault is met just if the body ends with it and no piece reaches the
limit before. So two bodies of the same bytes and the same end are read
alike, but for a limit of zero and a fault before the first piece of one of
them only. The limits of calls and probes are above zero, so the same bytes
are the same to whoever reads them, and all that a plugin does comes to the
same. -/
theorem reading_ignores_pieces (files : PiHole.SettingsFiles) :
    (∀ (limit : Nat) (b : Body),
      (b.ending = .ok () → readLimited limit b = .ok (b.bytes.take limit)) ∧
      (∀ got, readLimited limit b = .ok got →
        got = b.bytes.take limit ∧ got.length = min limit b.bytes.length) ∧
      (∀ e, readLimited limit b = .error e ↔ b.ending = .error e ∧ ¬ b.Reaches limit) ∧
      sliceOn? limit [] b = some (readLimited limit b)) ∧
    (∀ (limit : Nat) (a b : Body), a.Same b → (readLimited limit a = readLimited limit b
      ↔ (limit = 0 → a.ending = .ok () ∨ (a.pieces = [] ↔ b.pieces = [])))) ∧
    (∀ a b : Reply, a.Same b →
      (∀ url, a.content url = b.content url) ∧ a.sighting? = b.sighting?) ∧
    ∀ {σ : Type} (srv srv' : Server σ), SameBytes srv srv' → ∀ p ∈ standardPlugins files, ∀ s,
      (∀ e, (p.detect e).run srv s = (p.detect e).run srv' s) ∧
      (∀ r, (p.collect r).run srv s = (p.collect r).run srv' s) ∧
      ∀ r action params,
        (p.act r action params).run srv s = (p.act r action params).run srv' s := by
  refine ⟨fun limit b => ⟨?_, ?_, ?_, ?_⟩, ?_, ?_, ?_⟩
  · exact Http.readLimited_of_ending_ok limit
  · exact fun _ => Http.eq_take_of_readLimited
  · exact fun _ => Http.readLimited_eq_error_iff
  · exact Http.sliceOn?_eq limit [] b
  · exact fun _ _ _ => Http.readLimited_eq_iff_of_same
  · exact fun _ _ h => ⟨h.content_eq, h.sighting?_eq⟩
  · intro σ srv srv' hs p hp s
    obtain ⟨hdetect, hcollect, hact⟩ := ignoresPieces_of_mem hp
    have hrun := fun {α : Type} {d : Http.Dialogue α} (hd : d.IgnoresPieces) =>
      Http.Dialogue.run_eq_of_sameBytes hs hd s
    exact ⟨fun e => hrun (hdetect e), fun r => hrun (hcollect r),
      fun r action params => hrun (hact r action params)⟩

/-- With a limit of zero nothing is missing, and still the reader waits for a
piece: a body that breaks off at once is a fault, and with an empty piece before
it is not. And where a limit is not reached, a body that breaks off is a fault,
whatever came of it. -/
theorem limit_of_zero_tells_pieces :
    Body.Same .broken (.chunk [] .broken) ∧
      readLimited 0 .broken = .error .broken ∧ readLimited 0 (.chunk [] .broken) = .ok [] ∧
      readLimited 2 (.chunk [0x61] .broken) = .error .broken := by
  exact ⟨⟨rfl, rfl⟩, rfl, rfl, rfl⟩

/-- The bytes one by one. -/
def bytewise : Bytes → Body
  | [] => .complete
  | byte :: rest => .chunk [byte] (bytewise rest)

theorem same_bytewise (bytes : Bytes) : (Body.ofBytes bytes).Same (bytewise bytes) := by
  induction bytes with
  | nil => exact ⟨rfl, rfl⟩
  | cons byte rest ih =>
    have hrest : (bytewise rest).bytes = rest := ih.bytes.symm.trans List.flatten_singleton
    refine ⟨?_, ih.ending⟩
    rw [bytewise, Body.bytes_chunk, hrest]
    exact List.flatten_singleton

/-- A server that answers everything with the same body. -/
def answering (b : Body) : Server Unit where
  reply _ s := (.response { status := 200, body := b }, s)
  now _ := 0

/-- A status page as a whole, and byte by byte. -/
theorem page_is_read_byte_by_byte :
    let page := Text.encode "Active connections: 1 \n"
    let whole := Body.ofBytes page
    let cut := bytewise page
    whole.Same cut ∧ cut.ending = .ok () ∧
      readLimited 6 cut = .ok (cut.bytes.take 6) ∧ readLimited 6 whole = readLimited 6 cut ∧
      SameBytes (answering whole) (answering cut) ∧ Nginx.plugin ∈ standardPlugins {} ∧
      (Nginx.plugin.collect {}).run (answering whole) { server := () }
        = (Nginx.plugin.collect {}).run (answering cut) { server := () } ∧
      ((Nginx.plugin.collect {}).run (answering cut) { server := () }).1.toOption.isSome := by
  intro page whole cut
  have hsame : whole.Same cut := same_bytewise page
  have hending : cut.ending = .ok () := hsame.ending.symm
  have hservers : SameBytes (answering whole) (answering cut) :=
    ⟨fun _ _ => .response hsame, fun _ _ => rfl, fun _ => rfl⟩
  have hplugin : Nginx.plugin ∈ standardPlugins {} :=
    List.mem_cons_of_mem _ (List.mem_cons_of_mem _ List.mem_cons_self)
  obtain ⟨hread, halike, -, hplugins⟩ := reading_ignores_pieces {}
  exact ⟨hsame, hending, (hread 6 cut).1 hending, (halike 6 whole cut hsame).mpr nofun, hservers,
    hplugin, (hplugins _ _ hservers _ hplugin _).2.1 {}, by decide +kernel⟩

end HostTelemetry.Service
