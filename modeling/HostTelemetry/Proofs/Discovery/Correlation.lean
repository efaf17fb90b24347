/-
Which ports are listed for which names of processes, and that no order in which
the kernel's view is gone through makes a difference.

# What is listed

A port is listed for a name exactly if a process of that name holds a socket
whose last row has the port (`ProcTree.Listens`). This is a join of three
tables over two keys, number of a process and inode of a socket, and each of
them is opened once (`get?_processes_eq_some_iff`, `mem_links_iff`,
`get?_sockets_eq_some_iff`).

# Orders

A host is gone through in some order: the directories as they are listed, the
tables of processes and of sockets as a map enumerates them, the descriptors of
a process as its directory lists them. A `Walk` is any such order, with the
targets of the descriptors as they are read, among them ones that cannot be
read or are no text. The loop over a walk collects ports as it meets them and sorts them at the
end. It lists what the host listens on, like `portsByName`, and two listings in
ascending order that list the same are equal (`eq_of_lists_iff`), so the order
of the walk is not to be seen.
-/
import HostTelemetry.Proofs.Discovery.Rows
import Mathlib.Data.List.Nodup

namespace HostTelemetry.Discovery

-- ============================================================== listings

/-- The port is listed for the name. -/
def Lists (ports : Dict String (List Nat)) (name : String) (port : Nat) : Prop :=
  port ∈ (ports.get? name).getD []

/-- No name without ports, and the ports of each in ascending order. -/
def Ascending (ports : Dict String (List Nat)) : Prop :=
  ∀ name listed, ports.get? name = some listed → listed ≠ [] ∧ listed.Pairwise (· < ·)

theorem eq_of_mem_iff {l m : List Nat} (hl : l.Pairwise (· < ·)) (hm : m.Pairwise (· < ·))
    (h : ∀ p, p ∈ l ↔ p ∈ m) : l = m := by
  have hnodup : ∀ {k : List Nat}, k.Pairwise (· < ·) → k.Nodup := fun hk => hk.imp Nat.ne_of_lt
  have hperm : l.Perm m := (List.perm_ext_iff_of_nodup (hnodup hl) (hnodup hm)).mpr h
  exact hperm.eq_of_pairwise (fun a b _ _ hab hba => absurd hab (Nat.lt_asymm hba)) hl hm

/-- A listing in ascending order is what it lists. -/
theorem eq_of_lists_iff {a b : Dict String (List Nat)} (ha : Ascending a) (hb : Ascending b)
    (h : ∀ name port, Lists a name port ↔ Lists b name port) : a = b := by
  refine Dict.ext_get? fun name => ?_
  have hname : ∀ port, port ∈ (a.get? name).getD [] ↔ port ∈ (b.get? name).getD [] := h name
  cases hl : a.get? name with
  | none =>
    cases hm : b.get? name with
    | none => rfl
    | some m =>
      obtain ⟨port, hport⟩ := List.exists_mem_of_ne_nil m (hb name m hm).1
      simp [hl, hm] at hname
      exact absurd hport (hname port)
  | some l =>
    cases hm : b.get? name with
    | none =>
      obtain ⟨port, hport⟩ := List.exists_mem_of_ne_nil l (ha name l hl).1
      simp [hl, hm] at hname
      exact absurd hport (hname port)
    | some m =>
      simp only [hl, hm, Option.getD_some] at hname
      rw [eq_of_mem_iff (ha name l hl).2 (hb name m hm).2 hname]

-- ================================================================= hosts

/-- The directories of processes have the plain decimal form of a number as
their name, and no two directories have one name. -/
structure ProcTree.Plain (t : ProcTree) : Prop where
  distinct : (t.dirs.map (·.name)).Nodup
  decimal : ∀ d ∈ t.dirs, ∀ pid,
    Text.integer? Text.minI32 Text.maxI32 d.name.toList = some pid →
      d.name.toList = Text.decimal pid

instance (t : ProcTree) : Decidable t.Plain :=
  decidable_of_iff
    ((t.dirs.map (·.name)).Nodup ∧ ∀ d ∈ t.dirs,
      ∀ pid ∈ Text.integer? Text.minI32 Text.maxI32 d.name.toList,
        d.name.toList = Text.decimal pid)
    ⟨fun h => ⟨h.1, h.2⟩, fun h => ⟨h.distinct, h.decimal⟩⟩

/-- A process of the name has a descriptor that names a socket, and the last row
of that socket has the port. -/
def ProcTree.Listens (t : ProcTree) (name : String) (port : Nat) : Prop :=
  ∃ d ∈ t.dirs, (∃ pid, d.process? = some (pid, name)) ∧ ∃ link ∈ d.links, ∃ inode,
    NamesSocket link inode ∧ LastRow (tableLines t.tcp ++ tableLines t.tcp6) inode port

variable {t : ProcTree}

theorem integer?_of_process? {d : ProcessDir} {pid : Int} {name : String}
    (h : d.process? = some (pid, name)) :
    Text.integer? Text.minI32 Text.maxI32 d.name.toList = some pid := by
  simp only [ProcessDir.process?, Option.bind_eq_bind, Option.bind_eq_some_iff, Option.pure_def,
    Option.some.injEq, Prod.mk.injEq] at h
  obtain ⟨pid', hpid, -, -, rfl, -⟩ := h
  exact hpid

/-- In a plain host, a number belongs to one directory. -/
theorem ProcTree.Plain.eq_of_process? (h : t.Plain) {d d' : ProcessDir} (hd : d ∈ t.dirs)
    (hd' : d' ∈ t.dirs) {pid : Int} {name name' : String} (hp : d.process? = some (pid, name))
    (hp' : d'.process? = some (pid, name')) : d = d' := by
  apply List.inj_on_of_nodup_map h.distinct hd hd'
  apply String.toList_inj.mp
  rw [h.decimal d hd pid (integer?_of_process? hp), h.decimal d' hd' pid (integer?_of_process? hp')]

theorem ProcTree.Plain.nodup_pids (h : t.Plain) :
    ((t.dirs.filterMap ProcessDir.process?).map (·.1)).Nodup := by
  rw [List.Nodup, List.pairwise_map, List.pairwise_filterMap]
  have hdirs : t.dirs.Nodup := List.Nodup.of_map _ h.distinct
  apply hdirs.imp_of_mem
  rintro d d' hd hd' hne ⟨pid, name⟩ hp ⟨pid', name'⟩ hp' heq
  change pid = pid' at heq
  subst heq
  exact hne (h.eq_of_process? hd hd' hp hp')

theorem get?_processes_eq_some_iff (h : t.Plain) {pid : Int} {name : String} :
    t.processes.get? pid = some name ↔ ∃ d ∈ t.dirs, d.process? = some (pid, name) := by
  rw [ProcTree.processes, Dict.get?_ofList_eq_some_iff h.nodup_pids, List.mem_filterMap]

/-- The descriptors of a process are those of its directory. -/
theorem mem_links_iff (h : t.Plain) {d : ProcessDir} (hd : d ∈ t.dirs) {pid : Int} {name : String}
    (hp : d.process? = some (pid, name)) {link : String} :
    link ∈ t.links pid ↔ link ∈ d.links := by
  have hname := h.decimal d hd pid (integer?_of_process? hp)
  simp only [ProcTree.links, List.mem_flatMap, List.mem_filter, decide_eq_true_eq]
  constructor
  · rintro ⟨d', ⟨hd', hname'⟩, hlink⟩
    have heq : d' = d := by
      apply List.inj_on_of_nodup_map h.distinct hd' hd
      exact String.toList_inj.mp (hname'.trans hname.symm)
    exact heq ▸ hlink
  · intro hlink
    exact ⟨d, ⟨hd, hname⟩, hlink⟩

-- =============================================================== the list

theorem mem_ascendingPorts {ports : List Nat} {port : Nat} :
    port ∈ ascendingPorts ports ↔ port ∈ ports := by
  simp [ascendingPorts, Dict.mem_keys_iff, Dict.get?_ofList_map_key]

/-- The names and the ports that are found, process by process. -/
def ProcTree.found (t : ProcTree) : List (String × Nat) :=
  t.processes.entries.flatMap fun (pid, name) =>
    (t.portsOf t.sockets pid).map fun port => (name, port)

theorem get?_portsByName (t : ProcTree) (name : String) :
    t.portsByName.get? name = if name ∈ t.found.map (·.1) then
      some (ascendingPorts ((t.found.filter (·.1 = name)).map (·.2))) else none := by
  have hkeys := Dict.get?_ofList_map_key
    (fun n => ascendingPorts ((t.found.filter (·.1 = n)).map (·.2))) (t.found.map (·.1)) name
  rw [List.map_map] at hkeys
  exact hkeys

theorem mem_filter_found {name : String} {port : Nat} :
    port ∈ ascendingPorts ((t.found.filter (·.1 = name)).map (·.2)) ↔ (name, port) ∈ t.found := by
  simp [mem_ascendingPorts]

theorem lists_portsByName_iff {name : String} {port : Nat} :
    Lists t.portsByName name port ↔ (name, port) ∈ t.found := by
  unfold Lists
  rw [get?_portsByName]
  by_cases hname : name ∈ t.found.map (·.1)
  · rw [if_pos hname]
    exact mem_filter_found
  · rw [if_neg hname]
    have hnone : (name, port) ∉ t.found := fun hmem => hname (List.mem_map_of_mem hmem)
    simpa using hnone

theorem ascending_portsByName (t : ProcTree) : Ascending t.portsByName := by
  intro name listed hlisted
  rw [get?_portsByName] at hlisted
  by_cases hname : name ∈ t.found.map (·.1)
  · rw [if_pos hname] at hlisted
    cases hlisted
    obtain ⟨⟨_, port⟩, hmem, rfl⟩ := List.mem_map.mp hname
    exact ⟨List.ne_nil_of_mem (mem_filter_found.mpr hmem), Dict.pairwise_keys _⟩
  · rw [if_neg hname] at hlisted
    cases hlisted

theorem mem_found_iff {name : String} {port : Nat} :
    (name, port) ∈ t.found ↔ ∃ pid, t.processes.get? pid = some name ∧ ∃ link ∈ t.links pid,
      (socketInode? link).bind t.sockets.get? = some port := by
  simp only [ProcTree.found, ProcTree.portsOf, List.mem_flatMap, List.mem_map, List.mem_filterMap,
    Prod.exists, Prod.mk.injEq, Dict.mem_entries_iff]
  constructor
  · rintro ⟨pid, _, hpid, _, hport, rfl, rfl⟩
    exact ⟨pid, hpid, hport⟩
  · rintro ⟨pid, hpid, hport⟩
    exact ⟨pid, name, hpid, port, hport, rfl, rfl⟩

theorem bind_sockets_eq_some_iff {link : String} {port : Nat} :
    (socketInode? link).bind t.sockets.get? = some port ↔ ∃ inode, NamesSocket link inode ∧
      LastRow (tableLines t.tcp ++ tableLines t.tcp6) inode port := by
  simp only [Option.bind_eq_some_iff, socketInode?_eq_some_iff, get?_sockets_eq_some_iff]

/-- The listing of a plain host is what it listens on. -/
theorem lists_iff_listens (h : t.Plain) {name : String} {port : Nat} :
    Lists t.portsByName name port ↔ t.Listens name port := by
  rw [lists_portsByName_iff, mem_found_iff]
  simp only [get?_processes_eq_some_iff h, bind_sockets_eq_some_iff]
  constructor
  · rintro ⟨pid, ⟨d, hd, hp⟩, link, hlink, hsocket⟩
    exact ⟨d, hd, ⟨pid, hp⟩, link, (mem_links_iff h hd hp).mp hlink, hsocket⟩
  · rintro ⟨d, hd, ⟨pid, hp⟩, link, hlink, hsocket⟩
    exact ⟨pid, ⟨d, hd, hp⟩, link, (mem_links_iff h hd hp).mpr hlink, hsocket⟩

-- ================================================================= walks

/-- A process whose descriptors are looked at, in the order of their directory:
the targets as they are read, nothing for one that cannot be read or is no
text. -/
structure Visit where
  pid : Int
  name : String
  links : List (Option String)

/-- An order in which a host can be gone through. -/
structure Walk (t : ProcTree) where
  dirs : List ProcessDir
  rows : List (Nat × Nat)
  rows6 : List (Nat × Nat)
  visits : List Visit
  dirs_perm : dirs.Perm t.dirs
  rows_perm : rows.Perm (Dict.ofList (tableRows t.tcp)).entries
  rows6_perm : rows6.Perm (Dict.ofList (tableRows t.tcp6)).entries
  visits_perm : (visits.map fun v => (v.pid, v.name)).Perm
    (Dict.ofList (dirs.filterMap ProcessDir.process?)).entries
  links_perm : ∀ v ∈ visits, (v.links.filterMap id).Perm (t.links v.pid)

/-- The order in which the host is written down is one of them. -/
def Walk.straight (t : ProcTree) : Walk t where
  dirs := t.dirs
  rows := (Dict.ofList (tableRows t.tcp)).entries
  rows6 := (Dict.ofList (tableRows t.tcp6)).entries
  visits := t.processes.entries.map fun (pid, name) => ⟨pid, name, (t.links pid).map some⟩
  dirs_perm := List.Perm.refl _
  rows_perm := List.Perm.refl _
  rows6_perm := List.Perm.refl _
  visits_perm := by
    rw [List.map_map]
    exact List.Perm.of_eq (List.map_id _)
  links_perm := by
    intro v hv
    obtain ⟨⟨pid, name⟩, -, rfl⟩ := List.mem_map.mp hv
    rw [List.filterMap_map]
    exact List.Perm.of_eq List.filterMap_some

/-- A port that is met goes to the ports of its name, unless it is there. -/
def note (name : String) (found : Dict String (List Nat)) (port : Nat) : Dict String (List Nat) :=
  let ports := (found.get? name).getD []
  if port ∈ ports then found else found.insert name (ports ++ [port])

/-- The port that a descriptor leads to. -/
def portOf? (sockets : Dict Nat Nat) (link : Option String) : Option Nat :=
  (link.bind socketInode?).bind sockets.get?

def visit (sockets : Dict Nat Nat) (found : Dict String (List Nat)) (v : Visit) :
    Dict String (List Nat) :=
  (v.links.filterMap (portOf? sockets)).foldl (note v.name) found

/-- The sockets of one table, and then those of the other. -/
def Walk.sockets (w : Walk t) : Dict Nat Nat :=
  ((∅ : Dict Nat Nat).insertAll w.rows).insertAll w.rows6

/-- What the loop has collected after the walk. -/
def Walk.found (w : Walk t) : Dict String (List Nat) :=
  if w.sockets.entries = [] then ∅ else w.visits.foldl (visit w.sockets) ∅

def sorted (ports : List Nat) : List Nat := ports.mergeSort

/-- What is listed: the ports of each name, sorted. -/
def Walk.ports (w : Walk t) : Dict String (List Nat) :=
  .ofList (w.found.entries.map fun e => (e.1, sorted e.2))

-- ------------------------------------------------ what the loop collects

/-- No name without ports, and none of them twice. -/
def Collected (found : Dict String (List Nat)) : Prop :=
  ∀ name ports, found.get? name = some ports → ports ≠ [] ∧ ports.Nodup

section Loop

variable {found : Dict String (List Nat)} {name name' : String} {port port' : Nat}

theorem lists_note_iff :
    Lists (note name found port) name' port' ↔
      Lists found name' port' ∨ (name' = name ∧ port' = port) := by
  unfold note Lists
  by_cases hport : port ∈ (found.get? name).getD []
  · rw [if_pos hport]
    constructor
    · exact .inl
    · rintro (h | ⟨rfl, rfl⟩)
      · exact h
      · exact hport
  · rw [if_neg hport, Dict.get?_insert]
    by_cases hname : name' = name
    · simp [hname]
    · simp [hname]

theorem Collected.nodup (h : Collected found) (name : String) :
    ((found.get? name).getD []).Nodup := by
  cases hports : found.get? name with
  | none => exact List.nodup_nil
  | some ports => exact (h name ports hports).2

theorem collected_note (h : Collected found) : Collected (note name found port) := by
  unfold note
  by_cases hport : port ∈ (found.get? name).getD []
  · rw [if_pos hport]
    exact h
  · rw [if_neg hport]
    intro name' ports hports
    rw [Dict.get?_insert] at hports
    by_cases hname : name' = name
    · rw [if_pos hname] at hports
      cases hports
      refine ⟨List.concat_ne_nil _ _, ?_⟩
      rw [← List.concat_eq_append]
      exact List.Nodup.concat hport (h.nodup name)
    · rw [if_neg hname] at hports
      exact h name' ports hports

theorem lists_visit_iff {sockets : Dict Nat Nat} {v : Visit} :
    Lists (visit sockets found v) name port ↔
      Lists found name port ∨
        (name = v.name ∧ ∃ link ∈ v.links, portOf? sockets link = some port) := by
  rw [← List.mem_filterMap]
  unfold visit
  generalize v.links.filterMap (portOf? sockets) = ports
  induction ports generalizing found with
  | nil => simp
  | cons p rest ih =>
    rw [List.foldl_cons, ih, lists_note_iff, List.mem_cons, or_assoc, and_or_left]

theorem lists_visits_iff {sockets : Dict Nat Nat} {visits : List Visit} :
    Lists (visits.foldl (visit sockets) found) name port ↔
      Lists found name port ∨ ∃ v ∈ visits,
        name = v.name ∧ ∃ link ∈ v.links, portOf? sockets link = some port := by
  induction visits generalizing found with
  | nil => simp
  | cons v rest ih => rw [List.foldl_cons, ih, lists_visit_iff, List.exists_mem_cons_iff, or_assoc]

theorem collected_visits {sockets : Dict Nat Nat} (visits : List Visit) (h : Collected found) :
    Collected (visits.foldl (visit sockets) found) := by
  apply List.foldlRecOn visits _ h
  intro found' h' v _
  apply List.foldlRecOn _ _ h'
  intro found'' h'' port _
  exact collected_note h''

end Loop

theorem not_lists_empty {name : String} {port : Nat} :
    ¬ Lists (∅ : Dict String (List Nat)) name port := List.not_mem_nil

theorem collected_empty : Collected (∅ : Dict String (List Nat)) := by
  intro name ports h
  cases h

-- ---------------------------------------------------- walks and listings

theorem Walk.sockets_eq (w : Walk t) : w.sockets = t.sockets := by
  refine Dict.ext_get? fun inode => ?_
  rw [Walk.sockets, Dict.get?_insertAll_of_perm _ w.rows6_perm,
    Dict.get?_insertAll_of_perm _ w.rows_perm, Dict.get?_empty, Option.or_none, ProcTree.sockets,
    Dict.get?_ofList_append]

theorem Walk.lists_found_iff (w : Walk t) {name : String} {port : Nat} :
    Lists w.found name port ↔ ∃ v ∈ w.visits,
      name = v.name ∧ ∃ link ∈ v.links, portOf? w.sockets link = some port := by
  unfold Walk.found
  by_cases hempty : w.sockets.entries = []
  · have hnone : ∀ link, portOf? w.sockets link = none := by
      intro link
      simp [portOf?, Dict.get?, hempty, Dict.find?]
    rw [if_pos hempty]
    simp [hnone, not_lists_empty]
  · rw [if_neg hempty, lists_visits_iff]
    exact or_iff_right not_lists_empty

theorem Walk.collected_found (w : Walk t) : Collected w.found := by
  unfold Walk.found
  by_cases hempty : w.sockets.entries = []
  · rw [if_pos hempty]
    exact collected_empty
  · rw [if_neg hempty]
    exact collected_visits w.visits collected_empty

theorem sorted_perm (ports : List Nat) : (sorted ports).Perm ports := List.mergeSort_perm ports _

theorem pairwise_sorted {ports : List Nat} (h : ports.Nodup) :
    (sorted ports).Pairwise (· < ·) := by
  have hle : (sorted ports).Pairwise fun a b => decide (a ≤ b) = true :=
    List.pairwise_mergeSort (by intro a b c; simp; omega) (by intro a b; simp; omega) ports
  have hne : (sorted ports).Nodup := (sorted_perm ports).nodup_iff.mpr h
  refine (hle.and hne).imp fun {a b} hab => ?_
  exact Nat.lt_of_le_of_ne (of_decide_eq_true hab.1) hab.2

theorem Walk.get?_ports (w : Walk t) (name : String) :
    w.ports.get? name = (w.found.get? name).map sorted :=
  Dict.get?_ofList_map_entries sorted w.found name

theorem Walk.lists_ports_iff (w : Walk t) {name : String} {port : Nat} :
    Lists w.ports name port ↔ Lists w.found name port := by
  unfold Lists
  rw [w.get?_ports]
  cases w.found.get? name with
  | none => rfl
  | some ports => exact (sorted_perm ports).mem_iff

theorem Walk.ascending_ports (w : Walk t) : Ascending w.ports := by
  intro name listed hlisted
  rw [w.get?_ports, Option.map_eq_some_iff] at hlisted
  obtain ⟨ports, hports, rfl⟩ := hlisted
  obtain ⟨hne, hnodup⟩ := w.collected_found name ports hports
  refine ⟨?_, pairwise_sorted hnodup⟩
  obtain ⟨port, hport⟩ := List.exists_mem_of_ne_nil ports hne
  exact List.ne_nil_of_mem ((sorted_perm ports).mem_iff.mpr hport)

/-- A walk visits each process once, under its name. -/
theorem Walk.mem_visits_iff (h : t.Plain) (w : Walk t) {pid : Int} {name : String} :
    (pid, name) ∈ w.visits.map (fun v => (v.pid, v.name)) ↔ t.processes.get? pid = some name := by
  have hprocesses : Dict.ofList (w.dirs.filterMap ProcessDir.process?) = t.processes :=
    (Dict.ofList_congr (w.dirs_perm.symm.filterMap _) h.nodup_pids).symm
  rw [w.visits_perm.mem_iff, hprocesses, Dict.mem_entries_iff]

/-- A descriptor that cannot be read leads nowhere, and the others are those of
the process. -/
theorem Walk.portOf?_iff (w : Walk t) {v : Visit} (hv : v ∈ w.visits) {port : Nat} :
    (∃ link ∈ v.links, portOf? t.sockets link = some port) ↔
      ∃ link ∈ t.links v.pid, (socketInode? link).bind t.sockets.get? = some port := by
  simp only [← (w.links_perm v hv).mem_iff, List.mem_filterMap, id_eq, exists_eq_right]
  constructor
  · rintro ⟨link, hlink, hport⟩
    cases link with
    | none => cases hport
    | some text => exact ⟨text, hlink, hport⟩
  · rintro ⟨text, htext, hport⟩
    exact ⟨some text, htext, hport⟩

theorem Walk.lists_iff_found (h : t.Plain) (w : Walk t) {name : String} {port : Nat} :
    Lists w.ports name port ↔ (name, port) ∈ t.found := by
  rw [w.lists_ports_iff, w.lists_found_iff, mem_found_iff, w.sockets_eq]
  simp only [← w.mem_visits_iff h, List.mem_map, Prod.mk.injEq]
  constructor
  · rintro ⟨v, hv, hname, hport⟩
    exact ⟨v.pid, ⟨v, hv, rfl, hname.symm⟩, (w.portOf?_iff hv).mp hport⟩
  · rintro ⟨pid, ⟨v, hv, rfl, rfl⟩, hport⟩
    exact ⟨v, hv, rfl, (w.portOf?_iff hv).mpr hport⟩

/-- A walk lists what is listed, whatever its order. -/
theorem Walk.ports_eq (h : t.Plain) (w : Walk t) : w.ports = t.portsByName := by
  apply eq_of_lists_iff w.ascending_ports (ascending_portsByName t)
  intro name port
  rw [w.lists_iff_found h, lists_portsByName_iff]

-- ============================================================ correlation

/-- A port is listed for a name exactly if a process of that name listens on it;
what is listed for a name is not empty and strictly increases, and the name is
that of a process that was scanned; and every walk through the host lists the
same. -/
theorem correlation_is_exact (t : ProcTree) (h : t.Plain) :
    (∀ name port, Lists t.portsByName name port ↔ t.Listens name port) ∧
      (∀ name listed, t.portsByName.get? name = some listed →
        listed ≠ [] ∧ listed.Pairwise (· < ·) ∧ ∃ pid, t.processes.get? pid = some name) ∧
      ∀ w : Walk t, w.ports = t.portsByName := by
  refine ⟨fun name port => lists_iff_listens h, ?_, Walk.ports_eq h⟩
  intro name listed hlisted
  obtain ⟨hne, hincreasing⟩ := ascending_portsByName t name listed hlisted
  refine ⟨hne, hincreasing, ?_⟩
  obtain ⟨port, hport⟩ := List.exists_mem_of_ne_nil listed hne
  have hlists : Lists t.portsByName name port := by
    rw [Lists, hlisted]
    exact hport
  obtain ⟨pid, hpid, -⟩ := mem_found_iff.mp (lists_portsByName_iff.mp hlists)
  exact ⟨pid, hpid⟩

/-- Two processes of one name share a socket that is in both tables. It has the
port of the later table. -/
theorem shared_socket_is_listed :
    let row := fun port inode => s!"0: 00:{port} 00:0000 0A 0:0 0:0 0 0 0 {inode}\n"
    let t : ProcTree := {
      tcp := some (Text.encode ("titles\n" ++ row "1F90" "1111" ++ row "01BB" "2222"))
      tcp6 := some (Text.encode ("titles\n" ++ row "0050" "1111"))
      dirs := [
        { name := "self", comm := some (Text.encode "nginx\n"), links := ["socket:[2222]"] },
        { name := "101", comm := some (Text.encode "nginx\n"),
          links := ["/dev/null", "socket:[2222]", "socket:[1111]"] },
        { name := "100", comm := some (Text.encode "nginx\n"), links := ["socket:[1111]"] }] }
    t.Plain ∧ t.Listens "nginx" 80 ∧ ¬ t.Listens "nginx" 8080 ∧
      (Walk.straight t).ports.get? "nginx" = some [80, 443] := by
  intro row t
  have hplain : t.Plain := by decide +kernel
  obtain ⟨hexact, -, hwalks⟩ := correlation_is_exact t hplain
  refine ⟨hplain, (hexact _ _).mp ?_, mt (hexact _ _).mpr ?_, ?_⟩
  · rw [Lists]
    decide +kernel
  · rw [Lists]
    decide +kernel
  · rw [hwalks]
    decide +kernel

end HostTelemetry.Discovery
