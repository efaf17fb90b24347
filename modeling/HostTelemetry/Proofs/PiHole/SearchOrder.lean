/-
The questions by which a Pi-hole is looked for, in their order.

# The plan

There are four strategies, and each tries the paths one after the other, each
path at every port once, and each port under both names of this host
(`Strategy.questions`). A strategy that does not apply has no ports. The plan
is the questions of all strategies in turn. A port that is given more than once
has its place where it is given first; `FirstOccurrences` says so of a list by
its members and their order alone, and there is one such list.

# The search

What is asked on a run is the start of the plan up to the first reply that is
accepted (`detection_asks_in_order`). That no page is asked for twice within a
strategy is a fact about addresses: a port and a path can be told from the text
of an address, since the names of this host are of one length and no path
begins with a digit (`url_injective`).
-/
import HostTelemetry.PiHole.Plugin
import HostTelemetry.Proofs.Http.Searches
import Mathlib.Data.List.Induction
import Mathlib.Data.List.Nodup
import Mathlib.Data.List.Perm.Basic

namespace HostTelemetry.PiHole

open Discovery (Environment)
open Http (Exchange Inquiry Reply Request distinctPorts probeHosts probeRequest)
open Http.Dialogue (Scene Searches Server)
open Service (Record)

-- ============================================================= the plan

/-- The ways in which a server is looked for. -/
inductive Strategy where
  | container
  | processes
  | settings
  | common
deriving DecidableEq

namespace Strategy

/-- The strategies, in the order in which they are tried. -/
def all : List Strategy := [container, processes, settings, common]

/-- The ports that a strategy tries: none where it does not apply. -/
def ports (files : SettingsFiles) (e : Environment) : Strategy → List Nat
  | container => (container? e).elim [] fun c => c.hostPorts ++ containerPorts
  | processes => if hasProcess e then processPorts e else []
  | settings => if hasProcess e then files.port?.toList else []
  | common => if hasProcess e then commonPorts else []

end Strategy

/-- A page that a strategy asks for. -/
structure Question where
  strategy : Strategy
  trial : Trial
  port : Nat
  host : String

namespace Question

def base (q : Question) : String := s!"http://{q.host}:{q.port}"

def url (q : Question) : String := q.base ++ q.trial.path

/-- The reply has a status from 200 to 399 and passes the check of the path. -/
def Accepts (q : Question) (reply : Reply) : Prop :=
  ∃ r sighting, reply = .response r ∧ 200 ≤ r.status ∧ r.status ≤ 399 ∧
    reply.sighting? = some sighting ∧ q.trial.accepts sighting = true

/-- The record of a server with that page. -/
def record (q : Question) : Record :=
  { identity.recordAt q.base with version := q.trial.version }

end Question

/-- How the questions are put, and which replies are accepted. -/
def inquiry : Inquiry Question := ⟨fun q => probeRequest q.url, Question.Accepts⟩

/-- What a strategy asks at some ports about some paths: path by path, port by
port, and under one name of this host after the other. -/
def questionsAt (st : Strategy) (ports : List Nat) (trials : List Trial) : List Question :=
  trials.flatMap fun t =>
    (distinctPorts ports).flatMap fun port => probeHosts.map fun host => ⟨st, t, port, host⟩

def Strategy.questions (files : SettingsFiles) (e : Environment) (st : Strategy) : List Question :=
  questionsAt st (st.ports files e) trials

/-- All that may be asked, in order. -/
def plan (files : SettingsFiles) (e : Environment) : List Question :=
  Strategy.all.flatMap (Strategy.questions files e)

-- ============================================================ the ports

/-- The ports of a list, each once and in the order in which they are met. -/
structure FirstOccurrences (ports distinct : List Nat) : Prop where
  mem_iff : ∀ port, port ∈ distinct ↔ port ∈ ports
  ordered : distinct.Pairwise fun p q => ports.idxOf p < ports.idxOf q

namespace FirstOccurrences

variable {ports distinct distinct' : List Nat}

theorem nodup (h : FirstOccurrences ports distinct) : distinct.Nodup := by
  apply h.ordered.imp
  rintro p q hlt rfl
  exact Nat.lt_irrefl _ hlt

theorem unique (h : FirstOccurrences ports distinct) (h' : FirstOccurrences ports distinct') :
    distinct = distinct' := by
  have hperm : distinct.Perm distinct' :=
    (List.perm_ext_iff_of_nodup h.nodup h'.nodup).mpr fun port =>
      (h.mem_iff port).trans (h'.mem_iff port).symm
  exact hperm.eq_of_pairwise (fun _ _ _ _ hlt hgt => absurd hlt (Nat.lt_asymm hgt))
    h.ordered h'.ordered

/-- One more port comes last, unless it was met before. -/
theorem concat (h : FirstOccurrences ports distinct) (port : Nat) :
    FirstOccurrences (ports ++ [port])
      (if port ∈ ports then distinct else distinct ++ [port]) := by
  have hbefore : distinct.Pairwise fun p q =>
      (ports ++ [port]).idxOf p < (ports ++ [port]).idxOf q := by
    apply h.ordered.imp_of_mem
    intro p q hp hq hlt
    rw [List.idxOf_append_of_mem ((h.mem_iff p).mp hp),
      List.idxOf_append_of_mem ((h.mem_iff q).mp hq)]
    exact hlt
  by_cases hmet : port ∈ ports
  · rw [if_pos hmet]
    refine ⟨fun p => ?_, hbefore⟩
    rw [h.mem_iff p, List.mem_append, List.mem_singleton]
    exact ⟨.inl, fun hp => hp.elim id fun heq => heq ▸ hmet⟩
  · rw [if_neg hmet]
    refine ⟨fun p => ?_, ?_⟩
    · rw [List.mem_append, List.mem_append, h.mem_iff p]
    · rw [List.pairwise_append]
      refine ⟨hbefore, List.pairwise_singleton _ _, ?_⟩
      intro p hp q hq
      rw [List.mem_singleton.mp hq]
      have hlt : ports.idxOf p < ports.length :=
        List.idxOf_lt_length_of_mem ((h.mem_iff p).mp hp)
      rw [List.idxOf_append_of_mem ((h.mem_iff p).mp hp), List.idxOf_append_of_notMem hmet]
      omega

end FirstOccurrences

theorem firstOccurrences_distinctPorts (ports : List Nat) :
    FirstOccurrences ports (distinctPorts ports) := by
  induction ports using List.reverseRecOn with
  | nil => exact ⟨fun _ => Iff.rfl, .nil⟩
  | append_singleton ports port ih =>
    have hstep : distinctPorts (ports ++ [port])
        = if port ∈ ports then distinctPorts ports else distinctPorts ports ++ [port] := by
      unfold distinctPorts
      rw [List.eraseDups_append]
      split <;> simp [List.removeAll, List.eraseDups_cons, *]
    rw [hstep]
    exact ih.concat port

-- =========================================================== the search

variable {σ : Type} {srv : Server σ}

theorem Question.accepts_iff (q : Question) (reply : Reply) :
    q.Accepts reply ↔ (reply.sighting?.map q.trial.accepts).getD false = true := by
  cases reply with
  | closed => simp [Accepts, Reply.sighting?]
  | silence => simp [Accepts, Reply.sighting?]
  | response r =>
    by_cases hstatus : 200 ≤ r.status ∧ r.status < 400
    · have hle : r.status ≤ 399 := by omega
      simp [Accepts, Reply.sighting?, hstatus, hle]
    · simp [Accepts, Reply.sighting?, hstatus]

theorem probeBases_eq (st : Strategy) (t : Trial) (ports : List Nat) :
    Http.probeBases ports = (questionsAt st ports [t]).map Question.base := by
  simp only [Http.probeBases, questionsAt, List.flatMap_singleton, List.map_flatMap,
    List.map_map]
  rfl

/-- The paths are tried in turn, each at all ports. -/
theorem searches_probeTrials (st : Strategy) (ports : List Nat) (ts : List Trial) :
    Searches srv inquiry Question.record (probeTrials ports ts) (questionsAt st ports ts) := by
  induction ts with
  | nil => exact .nothing
  | cons t rest ih =>
    have htrial : ∀ q ∈ questionsAt st ports [t], q.trial = t := by
      simp only [questionsAt, List.flatMap_singleton, List.mem_flatMap, List.mem_map]
      rintro q ⟨port, -, host, -, rfl⟩
      rfl
    have hpath : Searches srv inquiry Question.base (Http.probe ports t.path t.accepts)
        (questionsAt st ports [t]) := by
      unfold Http.probe
      rw [probeBases_eq st t]
      apply Http.searches_probeEach
      · intro q hq
        rw [← htrial q hq]
        rfl
      · intro q hq reply
        rw [← htrial q hq]
        exact q.accepts_iff reply
    have hcons : questionsAt st ports (t :: rest)
        = questionsAt st ports [t] ++ questionsAt st ports rest := by
      simp [questionsAt]
    rw [hcons]
    refine hpath.orElse (f := fun url => { identity.recordAt url with version := t.version })
      (fun q hq => ?_) (fun _ => rfl) ih
    rw [← htrial q hq]
    rfl

theorem searches_probeLists (files : SettingsFiles) (e : Environment) (sts : List Strategy) :
    Searches srv inquiry Question.record (probeLists (sts.map (Strategy.ports files e)))
      (sts.flatMap (Strategy.questions files e)) := by
  induction sts with
  | nil => exact .nothing
  | cons st rest ih =>
    exact (searches_probeTrials st _ trials).orElse (f := id) (fun _ _ => rfl) (fun _ => rfl) ih

theorem detect_eq (files : SettingsFiles) (e : Environment) :
    detect files e = probeLists (Strategy.all.map (Strategy.ports files e)) := by
  -- The strategies that are left out have no ports, and a list of no ports is
  -- passed over without a question.
  unfold detect portLists
  simp only [Strategy.all, List.map_cons, List.map_nil, Strategy.ports]
  cases hasProcess e with
  | false => cases container? e <;> rfl
  | true =>
    cases container? e <;> cases files.port? <;> cases processPorts e <;> rfl

theorem searches_detect (srv : Server σ) (files : SettingsFiles) (e : Environment) :
    Searches srv inquiry Question.record (detect files e) (plan files e) := by
  rw [detect_eq]
  exact searches_probeLists files e Strategy.all

-- ============================================================ addresses

theorem length_of_mem_probeHosts {host : String} (h : host ∈ probeHosts) :
    host.toList.length = 9 := by
  revert host
  decide

theorem path_begins {t : Trial} (h : t ∈ trials) : ∃ rest, t.path.toList = '/' :: rest := by
  have hpaths : ∀ path ∈ trials.map Trial.path, path.toList.head? = some '/' := by decide
  exact List.head?_eq_some_iff.mp (hpaths _ (List.mem_map_of_mem h))

/-- The digits of a number end where a path begins. -/
theorem digits_append_injective {n n' : Nat} {rest rest' : List Char}
    (h : Nat.toDigits 10 n ++ '/' :: rest = Nat.toDigits 10 n' ++ '/' :: rest') :
    n = n' ∧ rest = rest' := by
  have hdigits : ∀ (m : Nat) (r : List Char),
      (Nat.toDigits 10 m ++ '/' :: r).takeWhile Char.isDigit = Nat.toDigits 10 m := by
    intro m r
    rw [List.takeWhile_append_of_pos fun c hc =>
      Nat.isDigit_of_mem_toDigits (by decide) (by decide) hc]
    simp
  have hsame : Nat.toDigits 10 n = Nat.toDigits 10 n' := by
    rw [← hdigits n rest, h, hdigits]
  constructor
  · rw [← Nat.ofDigitChars_toDigits (n := n) (by decide : 1 < 10) (by decide), hsame,
      Nat.ofDigitChars_toDigits (by decide) (by decide)]
  · rw [hsame] at h
    exact (List.cons.inj (List.append_cancel_left h)).2

theorem toList_url (q : Question) :
    q.url.toList = "http://".toList ++ (q.host.toList ++
      ':' :: (Nat.toDigits 10 q.port ++ q.trial.path.toList)) := by
  simp [Question.url, Question.base, toString]

theorem mem_questionsAt {st : Strategy} {ports : List Nat} {ts : List Trial} {q : Question} :
    q ∈ questionsAt st ports ts ↔
      q.strategy = st ∧ q.trial ∈ ts ∧ q.port ∈ distinctPorts ports ∧ q.host ∈ probeHosts := by
  simp only [questionsAt, List.mem_flatMap, List.mem_map]
  constructor
  · rintro ⟨t, ht, port, hport, host, hhost, rfl⟩
    exact ⟨rfl, ht, hport, hhost⟩
  · rintro ⟨rfl, ht, hport, hhost⟩
    exact ⟨q.trial, ht, q.port, hport, q.host, hhost, rfl⟩

/-- A strategy has one question for an address. -/
theorem url_injective {st : Strategy} {ports : List Nat} {q q' : Question}
    (hq : q ∈ questionsAt st ports trials) (hq' : q' ∈ questionsAt st ports trials)
    (h : q.url = q'.url) : q = q' := by
  obtain ⟨hst, ht, -, hhost⟩ := mem_questionsAt.mp hq
  obtain ⟨hst', ht', -, hhost'⟩ := mem_questionsAt.mp hq'
  have hafter := congrArg String.toList h
  rw [toList_url, toList_url] at hafter
  obtain ⟨hhosts, hrest⟩ := List.append_inj (List.append_cancel_left hafter)
    ((length_of_mem_probeHosts hhost).trans (length_of_mem_probeHosts hhost').symm)
  obtain ⟨path, hpath⟩ := path_begins ht
  obtain ⟨path', hpath'⟩ := path_begins ht'
  have hdigits := (List.cons.inj hrest).2
  rw [hpath, hpath'] at hdigits
  obtain ⟨hport, hpaths⟩ := digits_append_injective hdigits
  have htrial : q.trial = q'.trial := by
    have hdistinct : (trials.map Trial.path).Nodup := by decide
    apply List.inj_on_of_nodup_map hdistinct ht ht'
    apply String.toList_inj.mp
    rw [hpath, hpath', hpaths]
  have hhost : q.host = q'.host := String.toList_inj.mp hhosts
  cases q
  cases q'
  simp_all

theorem nodup_questionsAt (st : Strategy) (ports : List Nat) :
    (questionsAt st ports trials).Nodup := by
  have hproduct : questionsAt st ports trials
      = (trials ×ˢ (distinctPorts ports ×ˢ probeHosts)).map
          fun (t, port, host) => ⟨st, t, port, host⟩ := by
    simp only [questionsAt, SProd.sprod, List.product, List.map_flatMap, List.map_map]
    rfl
  have htrials : trials.Nodup := List.Nodup.of_map Trial.path (by decide)
  have hhosts : probeHosts.Nodup := by decide
  rw [hproduct]
  apply (htrials.product ((firstOccurrences_distinctPorts ports).nodup.product hhosts)).map
  rintro ⟨t, port, host⟩ ⟨t', port', host'⟩ h
  cases h
  rfl

/-- Within a strategy, no address stands twice in the plan. -/
theorem pairwise_plan (files : SettingsFiles) (e : Environment) :
    (plan files e).Pairwise fun q q' => q.strategy = q'.strategy → q.url ≠ q'.url := by
  rw [plan, List.pairwise_flatMap]
  constructor
  · intro st _
    apply (nodup_questionsAt st (st.ports files e)).imp_of_mem
    intro q q' hq hq' hne _ hurl
    exact hne (url_injective hq hq' hurl)
  · have hall : Strategy.all.Nodup := by decide
    apply hall.imp
    intro st st' hne q hq q' hq' hst
    rw [(mem_questionsAt.mp hq).1, (mem_questionsAt.mp hq').1] at hst
    exact absurd hst hne

-- ============================================================= the order

/-- What a strategy asks: for each path, at the ports in the order in which they
are first met, and under the number of this host before its name. -/
theorem Strategy.questions_eq (files : SettingsFiles) (e : Environment) (st : Strategy) :
    ∃ distinct, (∀ l, FirstOccurrences (st.ports files e) l ↔ l = distinct) ∧
      st.questions files e = trials.flatMap fun t => distinct.flatMap fun port =>
        [⟨st, t, port, "127.0.0.1"⟩, ⟨st, t, port, "localhost"⟩] := by
  have hdistinct := firstOccurrences_distinctPorts (st.ports files e)
  refine ⟨distinctPorts (st.ports files e), fun l => ⟨fun h => h.unique hdistinct, ?_⟩, rfl⟩
  rintro rfl
  exact hdistinct

/-- What a search for a server asks, against whatever server and in whatever
state. It is the start of the plan, with each request as a probe sends it, up to
the first reply that is accepted; if there is none, it is the whole plan, and
then nothing is found. Otherwise what is found is what the last question was
about. No page is asked for twice within a strategy. And a strategy asks path by
path, at each of its ports where it is first met, and under the number of this
host before its name. -/
theorem detection_asks_in_order (srv : Server σ) (files : SettingsFiles) (e : Environment)
    (s : Scene σ) :
    let found := ((detect files e).run srv s).1
    ∃ asked : List (Question × Reply),
      (detect files e).exchanges srv s
        = asked.map (fun (q, reply) => ⟨probeRequest q.url, reply⟩) ∧
      asked.map (·.1) <+: plan files e ∧
      (∀ a ∈ asked.dropLast, ¬ a.1.Accepts a.2) ∧
      (found = none ↔ ∀ a ∈ asked, ¬ a.1.Accepts a.2) ∧
      (found = none → asked.map (·.1) = plan files e) ∧
      (∀ r, found = some r → ∃ last, asked.getLast? = some last ∧ last.1.Accepts last.2 ∧
        r = { identity.recordAt last.1.base with version := last.1.trial.version }) ∧
      (∀ st, ((asked.filter (·.1.strategy = st)).map (·.1.url)).Nodup) ∧
      ∀ st : Strategy, ∃ distinct, (∀ l, FirstOccurrences (st.ports files e) l ↔ l = distinct) ∧
        st.questions files e = trials.flatMap fun t => distinct.flatMap fun port =>
          [⟨st, t, port, "127.0.0.1"⟩, ⟨st, t, port, "localhost"⟩] := by
  intro found
  obtain ⟨asked, hlog, hsearched⟩ := searches_detect srv files e s
  change Http.Searched inquiry Question.record (plan files e) asked found at hsearched
  refine ⟨asked, hlog, hsearched.follows_plan, hsearched.refused_before_last,
    hsearched.eq_none_iff, ?_, ?_, ?_, Strategy.questions_eq files e⟩
  · intro hnone
    rw [hnone] at hsearched
    exact hsearched.whole_plan
  · intro r hr
    rw [hr] at hsearched
    exact hsearched.last_accepted
  · intro st
    have hasked : asked.Pairwise fun a a' =>
        a.1.strategy = a'.1.strategy → a.1.url ≠ a'.1.url :=
      List.pairwise_map.mp ((pairwise_plan files e).sublist hsearched.follows_plan.sublist)
    rw [List.Nodup, List.pairwise_map, List.pairwise_filter]
    apply hasked.imp
    intro a a' hne hst hst'
    exact hne ((of_decide_eq_true hst).trans (of_decide_eq_true hst').symm)

/-- For a container, the ports that are tried in any case follow its own, and
the second path follows the first at all of them. -/
example :
    let e : Environment := {
      containers := [{ image := "pihole", state := "running", hostPorts := [8080, 81, 8080] }] }
    ((plan {} e).take 7).map Question.url = [
      "http://127.0.0.1:8080/admin/api.php?summaryRaw",
      "http://localhost:8080/admin/api.php?summaryRaw",
      "http://127.0.0.1:81/admin/api.php?summaryRaw",
      "http://localhost:81/admin/api.php?summaryRaw",
      "http://127.0.0.1:80/admin/api.php?summaryRaw",
      "http://localhost:80/admin/api.php?summaryRaw",
      "http://127.0.0.1:8080/api/dns/blocking"] := by
  decide +kernel

end HostTelemetry.PiHole
