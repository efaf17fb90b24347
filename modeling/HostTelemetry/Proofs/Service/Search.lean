/-
What the standard plugins find on a host, where everybody gives the same
answer to the same request at any time.

# Searches

A search is a dialogue that may come to something. `Finds` says of one that
it comes to something exactly if there is something of a kind to be seen,
and then to that; what the state of the server is makes no difference. One
search after the other finds what either of them finds (`Finds.orElse`),
and so a search over pages and ports is an induction over the pages
(`finds_probePages`).

# Containers

Each plugin looks at one container: the first whose image has the plugin's
name. If that one does not suit, because it has stopped or is of another
service, the plugin goes on to the ports that it tries in any case, and
does not look at the next container with such an image. So a service in a
container is found if its container is the first of its image
(`search_reaches_first_of_image`), and else may be missed
(`later_containers_are_missed`).
-/
import HostTelemetry.Service.Standard

namespace HostTelemetry.Service

open Discovery (Candidate Environment)
open Http (Dialogue Reply Request Sighting)
open Http.Dialogue (Scene Server)

variable {σ : Type} {srv : Server σ} {answers : Request → Reply}

-- ============================================================== searches

/-- The server gives each request its answer, whatever state it is in. -/
def Gives (srv : Server σ) (answers : Request → Reply) : Prop :=
  ∀ r s, (srv.reply r s).1 = answers r

/-- The dialogue comes to something of a kind if there is anything of that
kind, and to nothing else. -/
structure Finds {α : Type} (srv : Server σ) (d : Dialogue (Option α)) (P : α → Prop) : Prop where
  sound : ∀ s a, (d.run srv s).1 = some a → P a
  complete : ∀ s a, P a → (d.run srv s).1.isSome

theorem finds_nothing {α : Type} : Finds srv (.done (none : Option α)) fun _ => False := by
  refine ⟨fun s a ha => ?_, fun _ _ => False.elim⟩
  cases ha

theorem Finds.congr {α : Type} {d : Dialogue (Option α)} {P Q : α → Prop} (h : Finds srv d P)
    (hPQ : ∀ a, P a ↔ Q a) : Finds srv d Q :=
  ⟨fun s a ha => (hPQ a).mp (h.sound s a ha), fun s a ha => h.complete s a ((hPQ a).mpr ha)⟩

/-- One search, and another if it comes to nothing. -/
theorem Finds.orElse {α β : Type} {d : Dialogue (Option α)} {P : α → Prop} {f : α → β}
    {next : Option α → Dialogue (Option β)} {Q : β → Prop} (hd : Finds srv d P)
    (hsome : ∀ a, next (some a) = .done (some (f a))) (hnone : Finds srv (next none) Q) :
    Finds srv (d.bind next) fun b => (∃ a, P a ∧ b = f a) ∨ Q b := by
  -- The second search starts where the first has left the server, so it is
  -- needed for every state.
  refine ⟨fun s b hb => ?_, fun s b hb => ?_⟩
  · rw [Dialogue.run_bind] at hb
    cases ha : (d.run srv s).1 with
    | none =>
      rw [ha] at hb
      exact .inr (hnone.sound _ b hb)
    | some a =>
      rw [ha, hsome] at hb
      exact .inl ⟨a, hd.sound s a ha, (Option.some.inj hb).symm⟩
  · rw [Dialogue.run_bind]
    cases ha : (d.run srv s).1 with
    | none =>
      rcases hb with ⟨a, hPa, -⟩ | hQ
      · have hsome := hd.complete s a hPa
        rw [ha] at hsome
        cases hsome
      · exact hnone.complete _ b hQ
    | some a =>
      rw [hsome]
      rfl

-- ================================================================= pages

/-- A page by which a plugin knows its service. -/
structure Page where
  path : String
  accepts : Sighting → Bool
  /-- The record of a service with that page, by its address. -/
  record : String → Record

/-- The page is there, and is accepted. -/
def Page.At (answers : Request → Reply) (p : Page) (base : String) : Prop :=
  ∃ s, (answers (Http.probeRequest (base ++ p.path))).sighting? = some s ∧ p.accepts s = true

/-- The address of a port of this host, by one of its names. -/
def baseOf (host : String) (port : Nat) : String := s!"http://{host}:{port}"

/-- What the pages tell of a service at one of the ports of this host. -/
def Seen (answers : Request → Reply) (pages : List Page) (ports : List Nat) (r : Record) : Prop :=
  ∃ p ∈ pages, ∃ port ∈ ports, ∃ host ∈ Http.probeHosts,
    p.At answers (baseOf host port) ∧ r = p.record (baseOf host port)

theorem mem_probeBases {ports : List Nat} {base : String} :
    base ∈ Http.probeBases ports ↔
      ∃ port ∈ ports, ∃ host ∈ Http.probeHosts, baseOf host port = base := by
  simp [Http.probeBases, Http.distinctPorts, baseOf]

theorem seen_nil {ports : List Nat} {r : Record} : ¬ Seen answers [] ports r := by
  rintro ⟨p, hp, -⟩
  cases hp

theorem seen_no_ports {pages : List Page} {r : Record} : ¬ Seen answers pages [] r := by
  rintro ⟨p, -, port, hport, -⟩
  cases hport

theorem seen_cons {p : Page} {rest : List Page} {ports : List Nat} {r : Record} :
    Seen answers (p :: rest) ports r
      ↔ Seen answers [p] ports r ∨ Seen answers rest ports r := by
  simp only [Seen, List.mem_cons, List.not_mem_nil, or_false, or_and_right, exists_or,
    exists_eq_left]

theorem seen_append {pages : List Page} {ports ports' : List Nat} {r : Record} :
    Seen answers pages (ports ++ ports') r
      ↔ Seen answers pages ports r ∨ Seen answers pages ports' r := by
  simp only [Seen, List.mem_append, or_and_right, exists_or, and_or_left]

-- ======================================================= probes and pages

theorem accepted_iff {reply : Reply} {accepts : Sighting → Bool} :
    (reply.sighting?.map accepts).getD false = true
      ↔ ∃ s, reply.sighting? = some s ∧ accepts s = true := by
  cases reply.sighting? with
  | none => simp
  | some s => simp

/-- A probe ends at the first address at which the page is, and goes on
from any other. -/
theorem probeEach_cons (hsrv : Gives srv answers) (p : Page) (base : String)
    (rest : List String) (s : Scene σ) :
    (p.At answers base →
      ((Http.probeEach p.path p.accepts (base :: rest)).run srv s).1 = some base) ∧
    (¬ p.At answers base →
      ∃ s', (Http.probeEach p.path p.accepts (base :: rest)).run srv s
        = (Http.probeEach p.path p.accepts rest).run srv s') := by
  constructor
  · intro hat
    simp only [Http.probeEach, Dialogue.run]
    rw [hsrv _ s.server, if_pos (accepted_iff.mpr hat)]
    rfl
  · intro hat
    simp only [Http.probeEach, Dialogue.run]
    rw [hsrv _ s.server, if_neg fun h => hat (accepted_iff.mp h)]
    exact ⟨_, rfl⟩

theorem finds_probeEach (hsrv : Gives srv answers) (p : Page) (bases : List String) :
    Finds srv (Http.probeEach p.path p.accepts bases)
      fun base => base ∈ bases ∧ p.At answers base := by
  induction bases with
  | nil => exact finds_nothing.congr fun base => by simp
  | cons base rest ih =>
    by_cases hat : p.At answers base
    · have hrun := fun s => (probeEach_cons hsrv p base rest s).1 hat
      refine ⟨fun s a ha => ?_, fun s a _ => by rw [hrun]; rfl⟩
      obtain rfl := Option.some.inj ((hrun s).symm.trans ha)
      exact ⟨List.mem_cons_self, hat⟩
    · have hrun := fun s => (probeEach_cons hsrv p base rest s).2 hat
      refine ⟨fun s a ha => ?_, fun s a ha => ?_⟩
      · obtain ⟨s', hs'⟩ := hrun s
        rw [hs'] at ha
        obtain ⟨hmem, hata⟩ := ih.sound s' a ha
        exact ⟨List.mem_cons_of_mem _ hmem, hata⟩
      · obtain ⟨s', hs'⟩ := hrun s
        rw [hs']
        have hne : a ≠ base := fun heq => hat (heq ▸ ha.2)
        exact ih.complete s' a ⟨List.mem_of_ne_of_mem hne ha.1, ha.2⟩

/-- A search for one page, and another search. -/
theorem finds_probe_orElse (hsrv : Gives srv answers) (p : Page) (ports : List Nat)
    {next : Option String → Dialogue (Option Record)} {Q : Record → Prop}
    (hsome : ∀ base, next (some base) = .done (some (p.record base)))
    (hnone : Finds srv (next none) Q) :
    Finds srv ((Http.probe ports p.path p.accepts).bind next) fun r =>
      Seen answers [p] ports r ∨ Q r := by
  refine ((finds_probeEach hsrv p _).orElse hsome hnone).congr fun r => or_congr_left ?_
  constructor
  · rintro ⟨base, ⟨hbase, hat⟩, hr⟩
    obtain ⟨port, hport, host, hhost, rfl⟩ := mem_probeBases.mp hbase
    exact ⟨p, List.mem_cons_self, port, hport, host, hhost, hat, hr⟩
  · rintro ⟨p', hp, port, hport, host, hhost, hat, hr⟩
    obtain rfl := List.mem_singleton.mp hp
    exact ⟨_, ⟨mem_probeBases.mpr ⟨port, hport, host, hhost, rfl⟩, hat⟩, hr⟩

/-- Looks for one page after the other at the ports. -/
def probePages (ports : List Nat) : List Page → Dialogue (Option Record)
  | [] => .done none
  | p :: rest => do
    match ← Http.probe ports p.path p.accepts with
    | some url => return some (p.record url)
    | none => probePages ports rest

theorem finds_probePages (hsrv : Gives srv answers) (ports : List Nat) (pages : List Page) :
    Finds srv (probePages ports pages) (Seen answers pages ports) := by
  -- Each page is a search, and the later pages are the one after it.
  induction pages with
  | nil => exact finds_nothing.congr fun r => iff_of_false id seen_nil
  | cons p rest ih =>
    exact (finds_probe_orElse hsrv p ports (fun _ => rfl) ih).congr fun r => seen_cons.symm

-- =============================================================== plugins

/-- The services that the standard plugins look for. -/
inductive Kind where
  | piHole (files : PiHole.SettingsFiles)
  | traefik
  | nginx

def trialPage (t : PiHole.Trial) : Page where
  path := t.path
  accepts := t.accepts
  record url := { PiHole.identity.recordAt url with version := t.version }

def overviewPage : Page where
  path := Traefik.overviewPath
  accepts := Traefik.looksLikeOverview
  record := Traefik.identity.recordAt

def statusPage (path : String) : Page where
  path := path
  accepts := Nginx.looksLikeStatus
  record url :=
    let r := Nginx.identity.recordAt url
    { r with notes := r.notes.insert Nginx.pathNote path }

namespace Kind

def plugin : Kind → Plugin
  | piHole files => PiHole.plugin files
  | traefik => Traefik.plugin
  | nginx => Nginx.plugin

/-- The plugin's name, which the images of the service contain. -/
def name (k : Kind) : String := k.plugin.identity.id

/-- The pages by which the plugin knows its service. -/
def pages : Kind → List Page
  | piHole _ => PiHole.trials.map trialPage
  | traefik => [overviewPage]
  | nginx => Nginx.statusPaths.map statusPage

/-- The ports that are tried for a container besides its own. -/
def containerPorts : Kind → List Nat
  | piHole _ => PiHole.containerPorts
  | traefik => Traefik.containerPorts
  | nginx => Nginx.containerPorts

/-- The ports that are tried whatever containers there are. -/
def otherPorts (e : Environment) : Kind → List Nat
  | piHole files =>
    if PiHole.hasProcess e then
      PiHole.processPorts e ++ (files.port?.toList ++ PiHole.commonPorts)
    else []
  | traefik =>
    (if e.hasProcess "traefik" then Traefik.processPorts else []) ++ Traefik.blindPorts
  | nginx => if e.hasProcess "nginx" then e.portsOf "nginx" ++ Nginx.commonPorts else []

/-- The container that the plugin looks at. -/
def container? (e : Environment) : Kind → Option Candidate
  | piHole _ => PiHole.container? e
  | traefik => Traefik.container? e
  | nginx => Nginx.container? e

/-- A container that runs the service: its image has the plugin's name, and
the image of an nginx server is none of a proxy. -/
structure Suits (k : Kind) (c : Candidate) : Prop where
  runs : c.isRunning = true
  image : c.imageHas k.name = true
  own : k = nginx → c.imageHas "traefik" = false

/-- No container before this one has an image with the plugin's name. -/
def First (k : Kind) (e : Environment) (c : Candidate) : Prop :=
  ∃ before after, e.containers = before ++ c :: after ∧ ∀ b ∈ before, b.imageHas k.name = false

end Kind

/-- Of the containers with an image, only the first can be chosen. -/
theorem filter_findImage?_eq_some_iff {e : Environment} {c : Candidate} {text : String}
    {suits : Candidate → Bool} :
    (e.findImage? text).filter suits = some c ↔
      (∃ before after, e.containers = before ++ c :: after ∧
        ∀ b ∈ before, b.imageHas text = false) ∧ c.imageHas text = true ∧ suits c = true := by
  rw [Option.filter_eq_some_iff, Environment.findImage?, List.find?_eq_some_iff_append]
  simp only [Bool.not_eq_eq_eq_not, Bool.not_true]
  exact ⟨fun ⟨⟨himage, hfirst⟩, hsuits⟩ => ⟨hfirst, himage, hsuits⟩,
    fun ⟨hfirst, himage, hsuits⟩ => ⟨⟨himage, hfirst⟩, hsuits⟩⟩

theorem imageHas_traefik (c : Candidate) :
    c.imageHas "traefik" = Text.occursIn "traefik".toList (Text.lowercase c.image.toList) := by
  have hlower : Text.lowercase "traefik".toList = "traefik".toList := by decide +kernel
  rw [Candidate.imageHas, hlower]

/-- A plugin looks at the first container with its image, if that suits. -/
theorem container?_eq_some_iff (k : Kind) {e : Environment} {c : Candidate} :
    k.container? e = some c ↔ k.First e c ∧ k.Suits c := by
  cases k with
  | piHole files =>
    refine filter_findImage?_eq_some_iff.trans (and_congr_right fun _ => ?_)
    exact ⟨fun h => ⟨h.2, h.1, fun hk => Kind.noConfusion hk⟩, fun h => ⟨h.image, h.runs⟩⟩
  | traefik =>
    refine filter_findImage?_eq_some_iff.trans (and_congr_right fun _ => ?_)
    exact ⟨fun h => ⟨h.2, h.1, fun hk => Kind.noConfusion hk⟩, fun h => ⟨h.image, h.runs⟩⟩
  | nginx =>
    refine filter_findImage?_eq_some_iff.trans (and_congr_right fun _ => ?_)
    rw [← imageHas_traefik, Bool.and_eq_true, Bool.not_eq_true']
    exact ⟨fun h => ⟨h.2.1, h.1, fun _ => h.2.2⟩, fun h => ⟨h.image, h.runs, h.own rfl⟩⟩

-- ==================================================== the three searches

theorem probePaths_eq (ports : List Nat) (paths : List String) :
    Nginx.probePaths ports paths = probePages ports (paths.map statusPage) := by
  induction paths with
  | nil => rfl
  | cons path rest ih =>
    simp only [Nginx.probePaths, probePages, List.map_cons, ih]
    rfl

theorem probeTrials_eq (ports : List Nat) (trials : List PiHole.Trial) :
    PiHole.probeTrials ports trials = probePages ports (trials.map trialPage) := by
  induction trials with
  | nil => rfl
  | cons t rest ih =>
    simp only [PiHole.probeTrials, probePages, List.map_cons, ih]
    rfl

/-- What can be seen of a service: in the container that the plugin looks
at, or at other ports. -/
def Kind.Within (answers : Request → Reply) (k : Kind) (e : Environment) (r : Record) : Prop :=
  (∃ c, k.container? e = some c ∧
    Seen answers k.pages (c.hostPorts ++ k.containerPorts) r) ∨
  Seen answers k.pages (k.otherPorts e) r

theorem within_of_none (k : Kind) {e : Environment} {r : Record} (h : k.container? e = none) :
    k.Within answers e r ↔ Seen answers k.pages (k.otherPorts e) r := by
  simp [Kind.Within, h]

theorem within_of_some (k : Kind) {e : Environment} {c : Candidate} {r : Record}
    (h : k.container? e = some c) :
    k.Within answers e r ↔ Seen answers k.pages (c.hostPorts ++ k.containerPorts) r ∨
      Seen answers k.pages (k.otherPorts e) r := by
  simp [Kind.Within, h]

/-- A search in a container, and another search. -/
theorem finds_pages_orElse (hsrv : Gives srv answers) (ports : List Nat) (pages : List Page)
    {next : Option Record → Dialogue (Option Record)} {Q : Record → Prop}
    (hsome : ∀ r, next (some r) = .done (some r)) (hnone : Finds srv (next none) Q) :
    Finds srv ((probePages ports pages).bind next) fun r => Seen answers pages ports r ∨ Q r := by
  refine ((finds_probePages hsrv ports pages).orElse (f := id) hsome hnone).congr fun r => ?_
  simp

theorem finds_nginx (hsrv : Gives srv answers) (e : Environment) :
    Finds srv (Nginx.detect e) (Kind.nginx.Within answers e) := by
  have hother : Finds srv (Nginx.detectProcess e)
      (Seen answers Kind.nginx.pages (Kind.nginx.otherPorts e)) := by
    simp only [Nginx.detectProcess, Kind.otherPorts]
    split
    · rw [probePaths_eq]
      exact finds_probePages hsrv _ _
    · exact finds_nothing.congr fun r => iff_of_false id seen_no_ports
  unfold Nginx.detect
  cases hc : Nginx.container? e with
  | none => exact hother.congr fun r => (within_of_none .nginx hc).symm
  | some c =>
    simp only [probePaths_eq]
    exact Finds.congr (finds_pages_orElse hsrv _ _ (fun _ => rfl) hother)
      fun r => (within_of_some .nginx hc).symm

/-- Lists of ports that are tried one after the other are one list. -/
theorem finds_probeLists (hsrv : Gives srv answers) (lists : List (List Nat)) :
    Finds srv (PiHole.probeLists lists)
      (Seen answers (PiHole.trials.map trialPage) lists.flatten) := by
  induction lists with
  | nil => exact finds_nothing.congr fun r => iff_of_false id seen_no_ports
  | cons ports rest ih =>
    simp only [PiHole.probeLists, probeTrials_eq]
    exact Finds.congr (finds_pages_orElse hsrv _ _ (fun _ => rfl) ih) fun r => seen_append.symm

theorem flatten_portLists (files : PiHole.SettingsFiles) (e : Environment) :
    (PiHole.portLists files e).flatten
      = ((PiHole.container? e).map fun c => c.hostPorts ++ PiHole.containerPorts).getD []
        ++ (Kind.piHole files).otherPorts e := by
  have hcontainer : ((PiHole.container? e).toList.map fun c =>
      c.hostPorts ++ PiHole.containerPorts).flatten
        = ((PiHole.container? e).map fun c => c.hostPorts ++ PiHole.containerPorts).getD [] := by
    cases PiHole.container? e with
    | none => rfl
    | some c => exact List.flatten_singleton
  have hprocess : (if (PiHole.processPorts e).isEmpty then [] else [PiHole.processPorts e]).flatten
      = PiHole.processPorts e := by
    cases PiHole.processPorts e with
    | nil => rfl
    | cons port rest => exact List.flatten_singleton
  have hsettings : (files.port?.toList.map fun port => [port]).flatten = files.port?.toList := by
    cases files.port? with
    | none => rfl
    | some port => rfl
  unfold PiHole.portLists Kind.otherPorts
  rw [List.flatten_append, hcontainer]
  split
  · rw [List.flatten_append, List.flatten_append, hprocess, hsettings, List.flatten_singleton,
      List.append_assoc]
  · rfl

theorem finds_piHole (hsrv : Gives srv answers) (files : PiHole.SettingsFiles) (e : Environment) :
    Finds srv (PiHole.detect files e) ((Kind.piHole files).Within answers e) := by
  refine Finds.congr (finds_probeLists hsrv _) fun r => ?_
  rw [flatten_portLists, seen_append]
  cases hc : PiHole.container? e with
  | none =>
    exact (or_iff_right seen_no_ports).trans (within_of_none (.piHole files) hc).symm
  | some c => exact (within_of_some (.piHole files) hc).symm

/-- Ports of a proxy, and another search. -/
theorem finds_probeOr (hsrv : Gives srv answers) (ports : List Nat)
    {otherwise : Dialogue (Option Record)} {Q : Record → Prop} (hnone : Finds srv otherwise Q) :
    Finds srv (Traefik.probeOr ports otherwise) fun r =>
      Seen answers [overviewPage] ports r ∨ Q r :=
  finds_probe_orElse hsrv overviewPage ports (fun _ => rfl) hnone

theorem finds_traefik (hsrv : Gives srv answers) (e : Environment) :
    Finds srv (Traefik.detect e) (Kind.traefik.Within answers e) := by
  have hblind : Finds srv (Traefik.probeOr Traefik.blindPorts (.done none))
      (Seen answers [overviewPage] Traefik.blindPorts) :=
    (finds_probeOr hsrv _ finds_nothing).congr fun r => or_iff_left id
  have hother : Finds srv
      (if e.hasProcess "traefik" then
        Traefik.probeOr Traefik.processPorts (Traefik.probeOr Traefik.blindPorts (.done none))
      else Traefik.probeOr Traefik.blindPorts (.done none))
      (Seen answers Kind.traefik.pages (Kind.traefik.otherPorts e)) := by
    simp only [Kind.otherPorts]
    split
    · exact (finds_probeOr hsrv _ hblind).congr fun r => seen_append.symm
    · exact hblind
  unfold Traefik.detect
  cases hc : Traefik.container? e with
  | none => exact hother.congr fun r => (within_of_none .traefik hc).symm
  | some c => exact (finds_probeOr hsrv _ hother).congr fun r => (within_of_some .traefik hc).symm

/-- What a plugin finds is what there is to be seen. -/
theorem finds_detect (hsrv : Gives srv answers) (k : Kind) (e : Environment) :
    Finds srv (k.plugin.detect e) (k.Within answers e) := by
  cases k with
  | piHole files => exact finds_piHole hsrv files e
  | traefik => exact finds_traefik hsrv e
  | nginx => exact finds_nginx hsrv e

-- ======================================== the first of several containers

/-- The first container with an image that contains the plugin's name is
one container. -/
theorem Kind.First.unique {k : Kind} {e : Environment} {c c' : Candidate} (h : k.First e c)
    (himage : c.imageHas k.name = true) (h' : k.First e c') (himage' : c'.imageHas k.name = true) :
    c = c' := by
  -- Both are what a look-up by the image alone would find.
  have hfound : ∀ c, k.First e c → c.imageHas k.name = true →
      (e.findImage? k.name).filter (fun _ => true) = some c :=
    fun c hc himage => filter_findImage?_eq_some_iff.mpr ⟨hc, himage, rfl⟩
  exact Option.some.inj ((hfound c h himage).symm.trans (hfound c' h' himage'))

/-- Whatever containers there are and whatever is answered: a plugin finds
its service exactly if a page of it is to be seen in the first container
whose image has the plugin's name, provided that this container suits, or
at the ports that are tried in any case; and what it finds is what is seen
there. So a container that runs the service is found if it is the first of
its image. If the first of the image does not suit, no other container is
looked at. -/
theorem search_reaches_first_of_image (srv : Server σ) (answers : Request → Reply)
    (hsrv : Gives srv answers) (k : Kind) (e : Environment) (s : Scene σ) :
    let found := ((k.plugin.detect e).run srv s).1
    let within := fun r =>
      (∃ c, k.First e c ∧ k.Suits c ∧
        Seen answers k.pages (c.hostPorts ++ k.containerPorts) r) ∨
      Seen answers k.pages (k.otherPorts e) r
    (found.isSome ↔ ∃ r, within r) ∧ (∀ r, found = some r → within r) ∧
    (∀ c, k.First e c → k.Suits c → ∀ r, Seen answers k.pages c.hostPorts r → found.isSome) ∧
    ∀ c, k.First e c → c.imageHas k.name = true → ¬ k.Suits c →
      (found.isSome ↔ ∃ r, Seen answers k.pages (k.otherPorts e) r) := by
  intro found within
  have hfinds : Finds srv (k.plugin.detect e) within :=
    (finds_detect hsrv k e).congr fun r => or_congr_left <| exists_congr fun c => by
      rw [container?_eq_some_iff, and_assoc]
  have hiff : found.isSome ↔ ∃ r, within r := by
    constructor
    · intro hsome
      obtain ⟨r, hr⟩ := Option.isSome_iff_exists.mp hsome
      exact ⟨r, hfinds.sound s r hr⟩
    · rintro ⟨r, hr⟩
      exact hfinds.complete s r hr
  refine ⟨hiff, hfinds.sound s, fun c hfirst hsuits r hr => ?_, fun c hfirst himage hnot => ?_⟩
  · exact hfinds.complete s r (.inl ⟨c, hfirst, hsuits, seen_append.mpr (.inl hr)⟩)
  · refine hiff.trans (exists_congr fun r => or_iff_right ?_)
    rintro ⟨c', hfirst', hsuits', -⟩
    exact hnot (hfirst.unique himage hfirst' hsuits'.image ▸ hsuits')

-- ========================================================= a single page

/-- A container with the port 8081 of this host. -/
def containerOf (image state : String) : Candidate := { image, state, hostPorts := [8081] }

def answerOf (body : String) : Reply :=
  .response { status := 200, body := .ofBytes (Text.encode body) }

/-- There is one page, at port 8081, and nothing else answers. -/
def onlyPage (p : Page) (body : String) : Request → Reply := fun r =>
  if r.url = "http://127.0.0.1:8081" ++ p.path then answerOf body else .closed

def serverOf (answers : Request → Reply) : Server Unit where
  reply r s := (answers r, s)
  now _ := 0

theorem seen_onlyPage {p : Page} {pages : List Page} (hp : p ∈ pages) (body : String)
    (haccepts : ((answerOf body).sighting?.map p.accepts).getD false = true) :
    Seen (onlyPage p body) pages [8081] (p.record "http://127.0.0.1:8081") := by
  have hbase : baseOf "127.0.0.1" 8081 = "http://127.0.0.1:8081" := by decide +kernel
  refine ⟨p, hp, 8081, List.mem_cons_self, "127.0.0.1", List.mem_cons_self, ?_, ?_⟩
  · rw [hbase, Page.At, onlyPage, Http.url_probeRequest, if_pos rfl]
    exact accepted_iff.mp haccepts
  · rw [hbase]

/-- An nginx server whose container is the first of its image is found. -/
theorem first_nginx_is_found :
    let e : Environment := {
      containers := [containerOf "redis:7" "running", containerOf "NGINX:1.27" "running"] }
    let answers := onlyPage (statusPage "/nginx_status") "Active connections: 1"
    ((Nginx.detect e).run (serverOf answers) { server := () }).1.isSome := by
  intro e answers
  obtain ⟨-, -, hfound, -⟩ :=
    search_reaches_first_of_image (serverOf answers) answers (fun _ _ => rfl) .nginx e
      { server := () }
  have hfirst : Kind.nginx.First e (containerOf "NGINX:1.27" "running") := by
    refine ⟨[containerOf "redis:7" "running"], [], rfl, fun b hb => ?_⟩
    obtain rfl := List.mem_singleton.mp hb
    decide +kernel
  have hsuits : Kind.nginx.Suits (containerOf "NGINX:1.27" "running") :=
    ⟨by decide +kernel, by decide +kernel, fun _ => by decide +kernel⟩
  have hpage : statusPage "/nginx_status" ∈ Kind.nginx.pages := List.mem_cons_self
  exact hfound _ hfirst hsuits _ (seen_onlyPage hpage _ (by decide +kernel))

-- =============================================== containers not looked at

/-- A container runs the service and its page is to be seen at its port, but
the plugin finds nothing. -/
def Missed (k : Kind) (p : Page) (body : String) (e : Environment) : Prop :=
  ∃ c ∈ e.containers, k.Suits c ∧ (∃ r, Seen (onlyPage p body) k.pages c.hostPorts r) ∧
    ((k.plugin.detect e).run (serverOf (onlyPage p body)) { server := () }).1 = none

theorem missed_second {k : Kind} {p : Page} {body image : String} {first : Candidate}
    (hp : p ∈ k.pages) (hsuits : k.Suits (containerOf image "running"))
    (haccepts : ((answerOf body).sighting?.map p.accepts).getD false = true)
    (hnone : ((k.plugin.detect { containers := [first, containerOf image "running"] }).run
      (serverOf (onlyPage p body)) { server := () }).1 = none) :
    Missed k p body { containers := [first, containerOf image "running"] } :=
  ⟨_, List.mem_cons_of_mem _ List.mem_cons_self, hsuits, ⟨_, seen_onlyPage hp body haccepts⟩,
    hnone⟩

/-- A container that has stopped hides one that runs, whichever of the
services it is, and a proxy for nginx hides an nginx server. -/
theorem later_containers_are_missed :
    Missed .nginx (statusPage "/nginx_status") "Active connections: 1" {
      containers := [containerOf "nginx:1.24" "exited", containerOf "nginx:1.27" "running"] } ∧
    Missed .nginx (statusPage "/nginx_status") "Active connections: 1" {
      containers := [containerOf "traefik-nginx" "running", containerOf "nginx" "running"] } ∧
    Missed .traefik overviewPage "\x7b\"http\": null\x7d" {
      containers := [containerOf "traefik:2" "exited", containerOf "traefik:3" "running"] } ∧
    Missed (.piHole {})
      (trialPage ⟨"/admin/api.php?summaryRaw", PiHole.bodyHas "dns_queries_today", PiHole.v5⟩)
      "dns_queries_today" {
      containers := [containerOf "pihole" "exited", containerOf "pihole/pihole" "running"] } := by
  refine ⟨missed_second List.mem_cons_self ?_ ?_ ?_, missed_second List.mem_cons_self ?_ ?_ ?_,
    missed_second List.mem_cons_self ?_ ?_ ?_, missed_second List.mem_cons_self ?_ ?_ ?_⟩
  · exact ⟨by decide +kernel, by decide +kernel, fun _ => by decide +kernel⟩
  · decide +kernel
  · decide +kernel
  · exact ⟨by decide +kernel, by decide +kernel, fun _ => by decide +kernel⟩
  · decide +kernel
  · decide +kernel
  · exact ⟨by decide +kernel, by decide +kernel, fun hk => Kind.noConfusion hk⟩
  · decide +kernel
  · decide +kernel
  · exact ⟨by decide +kernel, by decide +kernel, fun hk => Kind.noConfusion hk⟩
  · decide +kernel
  · decide +kernel

end HostTelemetry.Service
