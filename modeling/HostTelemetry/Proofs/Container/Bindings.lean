/-
Which ports are published of a container: the list is a function of the set of
its valid bindings, and of nothing else.

# What is listed

A key names a port of the container and a protocol (`NamesPort`), and a binding
names a port of the host. Where both are numbers of 16 bits, the two make a port
that is listed (`Publishes`), whatever the address is on which it is bound.

# One list for each set

The ports are put into their places one after the other. Each step keeps the
list in strict order (`pairwise_place`) and adds just the port that is put
(`mem_place`), so a repeated port leaves no trace. A list in strict order is what
it holds, hence neither the order of the keys nor the repetitions are to be seen.

Addresses stand in the answer of an engine and nowhere behind its reader: what
is read of an answer gives the same list as the bindings that it was written of
(`publishedPorts_of_json`).
-/
import HostTelemetry.Container.Engine
import HostTelemetry.Proofs.Json.Written
import HostTelemetry.Proofs.Text.Numerals
import Mathlib.Data.List.Sort

namespace HostTelemetry.Container

variable {p q r : Port} {l : List Port}

-- ================================================================ order

theorem before_iff : p.before q = true ↔ p.host < q.host ∨ p.host = q.host ∧
    (p.container < q.container ∨ p.container = q.container ∧ p.protocol < q.protocol) := by
  simp [Port.before]

theorem not_before_self (p : Port) : ¬ p.before p = true := by
  rw [before_iff]
  intro h
  simp at h

theorem before_trans (hpq : p.before q = true) (hqr : q.before r = true) :
    p.before r = true := by
  rw [before_iff] at hpq hqr ⊢
  have hhost : p.host < q.host → q.host < r.host → p.host < r.host := UInt16.lt_trans
  have hcontainer : p.container < q.container → q.container < r.container →
      p.container < r.container := UInt16.lt_trans
  have hprotocol : p.protocol < q.protocol → q.protocol < r.protocol → p.protocol < r.protocol :=
    String.lt_trans
  grind

theorem before_of_not (h : ¬ p.before q = true) (hne : p ≠ q) : q.before p = true := by
  have htotal : ∀ {a b : UInt16}, ¬ a < b → a ≠ b → b < a := by
    intro a b hnot hne
    exact UInt16.lt_of_le_of_ne (UInt16.not_lt.mp hnot) (Ne.symm hne)
  have hprotocol : ¬ p.protocol < q.protocol → p.protocol ≠ q.protocol → q.protocol < p.protocol :=
    Key.total
  have hparts : p.host ≠ q.host ∨ p.container ≠ q.container ∨ p.protocol ≠ q.protocol := by
    cases p
    cases q
    grind
  rw [before_iff] at h ⊢
  grind

instance : Std.Irrefl fun p q : Port => p.before q = true := ⟨not_before_self⟩

instance : Std.Antisymm fun p q : Port => p.before q = true where
  antisymm p _ hpq hqp := absurd (before_trans hpq hqp) (not_before_self p)

theorem mem_place : q ∈ p.place l ↔ q = p ∨ q ∈ l := by
  induction l with
  | nil => simp [Port.place]
  | cons x l ih =>
    rw [Port.place]
    split
    · simp
    · split
      · rename_i heq
        simp [heq]
      · simp only [List.mem_cons, ih]
        exact or_left_comm

theorem pairwise_place (h : l.Pairwise (·.before ·)) : (p.place l).Pairwise (·.before ·) := by
  induction l with
  | nil => simp [Port.place]
  | cons x l ih =>
    obtain ⟨hx, hl⟩ := List.pairwise_cons.mp h
    rw [Port.place]
    split
    · rename_i hbefore
      refine List.pairwise_cons.mpr ⟨?_, h⟩
      intro y hy
      cases hy with
      | head => exact hbefore
      | tail _ hy => exact before_trans hbefore (hx y hy)
    · rename_i hnot
      split
      · exact h
      · rename_i hne
        refine List.pairwise_cons.mpr ⟨?_, ih hl⟩
        intro y hy
        cases mem_place.mp hy with
        | inl heq => exact heq ▸ before_of_not hnot hne
        | inr hy => exact hx y hy

theorem mem_ascending : p ∈ Port.ascending l ↔ p ∈ l := by
  have hfold : ∀ done, p ∈ l.foldl (fun done p => p.place done) done ↔ p ∈ done ∨ p ∈ l := by
    induction l with
    | nil => simp
    | cons x l ih =>
      intro done
      rw [List.foldl_cons, ih, mem_place, List.mem_cons]
      exact or_assoc.trans or_left_comm
  rw [Port.ascending, hfold]
  simp

theorem pairwise_ascending (l : List Port) : (Port.ascending l).Pairwise (·.before ·) := by
  have hfold : ∀ done : List Port, done.Pairwise (·.before ·) →
      (l.foldl (fun done p => p.place done) done).Pairwise (·.before ·) := by
    induction l with
    | nil =>
      intro done h
      exact h
    | cons x l ih =>
      intro done h
      exact ih _ (pairwise_place h)
  exact hfold [] List.Pairwise.nil

-- ============================================================= bindings

theorem readPort_eq_some_iff {s : List Char} {n : UInt16} :
    (Text.natural? Text.maxU16 s).map UInt16.ofNat = some n ↔ Text.IsNatural s n.toNat := by
  have hmax : ∀ m, m ≤ Text.maxU16 ↔ m < UInt16.size := by
    intro m
    exact Nat.lt_succ_iff.symm
  simp only [Option.map_eq_some_iff, Text.natural?_eq_some_iff, hmax]
  constructor
  · intro h
    obtain ⟨m, ⟨hs, hm⟩, rfl⟩ := h
    rw [UInt16.toNat_ofNat_of_lt' hm]
    exact hs
  · intro hs
    exact ⟨n.toNat, ⟨hs, n.toNat_lt⟩, UInt16.ofNat_toNat⟩

/-- The key is a number of a port and, behind a slash, the protocol; or the number
alone, which means `tcp`. -/
def NamesPort (key : String) (container : UInt16) (protocol : String) : Prop :=
  ∃ port, Text.IsNatural port container.toNat ∧
    (key.toList = port ++ '/' :: protocol.toList ∨ key.toList = port ∧ protocol = "tcp")

theorem keyParts?_eq_some_iff {key : String} {container : UInt16} {protocol : String} :
    keyParts? key = some (container, protocol) ↔ NamesPort key container protocol := by
  have hslash : ∀ {port : List Char} {n : Nat}, Text.IsNatural port n → '/' ∉ port :=
    fun h => h.not_mem (by decide) (by decide)
  have hpart : ∀ (port : List Char) (named : String),
      (Text.natural? Text.maxU16 port).map (fun n => (UInt16.ofNat n, named))
        = some (container, protocol) ↔ Text.IsNatural port container.toNat ∧ named = protocol := by
    intro port named
    rw [← readPort_eq_some_iff]
    cases Text.natural? Text.maxU16 port <;> simp
  unfold keyParts?
  cases hsplit : Text.splitFirst? '/' key.toList with
  | some parts =>
    obtain ⟨port, named⟩ := parts
    obtain ⟨hkey, hport⟩ := Text.splitFirst?_eq_some_iff.mp hsplit
    simp only [hpart]
    constructor
    · intro h
      obtain ⟨hnumber, rfl⟩ := h
      exact ⟨port, hnumber, .inl (by rw [hkey, String.toList_ofList])⟩
    · intro h
      obtain ⟨port', hnumber, hform⟩ := h
      cases hform with
      | inl hboth =>
        rw [Text.splitFirst?_eq_some_iff.mpr ⟨hboth, hslash hnumber⟩] at hsplit
        cases hsplit
        exact ⟨hnumber, String.ofList_toList⟩
      | inr halone =>
        rw [← halone.1, hkey] at hnumber
        exact absurd (by simp) (hslash hnumber)
  | none =>
    have hnone := Text.splitFirst?_eq_none_iff.mp hsplit
    simp only [hpart]
    constructor
    · intro h
      exact ⟨key.toList, h.1, .inr ⟨rfl, h.2.symm⟩⟩
    · intro h
      obtain ⟨port', hnumber, hform⟩ := h
      cases hform with
      | inl hboth => exact absurd (by simp [hboth]) hnone
      | inr halone => exact ⟨halone.1 ▸ hnumber, halone.2.symm⟩

theorem bindingPort?_eq_some_iff {container : UInt16} {protocol : String} {text : Option String} :
    bindingPort? container protocol text = some p ↔
      container = p.container ∧ protocol = p.protocol ∧
        ∃ s, text = some s ∧ Text.IsNatural s.toList p.host.toNat := by
  obtain ⟨host, container', protocol'⟩ := p
  cases text with
  | none => simp [bindingPort?]
  | some s =>
    simp only [bindingPort?, Option.bind_some, Option.some.injEq, exists_eq_left',
      ← readPort_eq_some_iff]
    cases Text.natural? Text.maxU16 s.toList with
    | none => simp
    | some n =>
      simp only [Option.map_some, Option.some.injEq, Port.mk.injEq]
      exact ⟨fun h => ⟨h.2.1, h.2.2, h.1⟩, fun h => ⟨h.2.2, h.1, h.2.1⟩⟩

theorem mem_publishedPorts_iff {map : PortMap} :
    p ∈ publishedPorts map ↔ ∃ key texts, (key, some texts) ∈ map ∧
      NamesPort key p.container p.protocol ∧
        ∃ s, some s ∈ texts ∧ Text.IsNatural s.toList p.host.toNat := by
  rw [publishedPorts, mem_ascending, List.mem_flatMap]
  constructor
  · intro h
    obtain ⟨⟨key, bound⟩, hmem, hp⟩ := h
    cases hkey : keyParts? key with
    | none => simp [hkey] at hp
    | some parts =>
      obtain ⟨container, protocol⟩ := parts
      cases bound with
      | none => simp [hkey] at hp
      | some texts =>
        simp only [hkey, Option.getD_some, List.mem_filterMap, bindingPort?_eq_some_iff] at hp
        obtain ⟨text, htext, rfl, rfl, s, rfl, hs⟩ := hp
        exact ⟨key, texts, hmem, keyParts?_eq_some_iff.mp hkey, s, htext, hs⟩
  · intro h
    obtain ⟨key, texts, hmem, hkey, s, htext, hs⟩ := h
    refine ⟨(key, some texts), hmem, ?_⟩
    simp only [keyParts?_eq_some_iff.mpr hkey, Option.getD_some, List.mem_filterMap,
      bindingPort?_eq_some_iff, true_and]
    exact ⟨some s, htext, s, rfl, hs⟩

theorem pairwise_publishedPorts (map : PortMap) : (publishedPorts map).Pairwise (·.before ·) :=
  pairwise_ascending _

theorem publishedPorts_congr {map map' : PortMap}
    (h : ∀ key texts, (key, texts) ∈ map ↔ (key, texts) ∈ map') :
    publishedPorts map = publishedPorts map' := by
  apply (pairwise_publishedPorts map).eq_of_mem_iff (pairwise_publishedPorts map')
  intro p
  simp only [mem_publishedPorts_iff, h]

-- ============================================================== engines

/-- A port of the host as an engine lists it, with the address on which it is
bound. -/
structure Binding where
  address : Option String
  port : Option String

/-- The bindings that an engine lists for each key, in some order of the keys. -/
abbrev Bindings := List (String × Option (List Binding))

/-- The bindings without their addresses. -/
def Bindings.ports (b : Bindings) : PortMap :=
  b.map fun (key, bound) => (key, bound.map fun l => l.map Binding.port)

/-- The port is one of the container that a key names, bound to one of the host. -/
def Bindings.Publishes (b : Bindings) (p : Port) : Prop :=
  ∃ key bound, (key, some bound) ∈ b ∧ NamesPort key p.container p.protocol ∧
    ∃ binding ∈ bound, ∃ s, binding.port = some s ∧ Text.IsNatural s.toList p.host.toNat

/-- A binding in the answer of an engine. -/
def Binding.toJson (b : Binding) : Json :=
  .obj (Json.written ["HostIp", "HostPort"] [b.address.map .str, b.port.map .str])

/-- What an answer lists for a key. -/
def boundJson : Option (List Binding) → Json
  | none => .null
  | some l => .arr (l.map Binding.toJson)

/-- The bindings in the answer of an engine. -/
def Bindings.toJson (b : Bindings) : Json := .obj (b.map fun (key, bound) => (key, boundJson bound))

variable {b : Bindings}

theorem mem_publishedPorts_ports_iff : p ∈ publishedPorts b.ports ↔ b.Publishes p := by
  rw [mem_publishedPorts_iff]
  constructor
  · intro h
    obtain ⟨key, texts, hmem, hkey, s, htext, hs⟩ := h
    obtain ⟨⟨key', bound⟩, hbound, heq⟩ := List.mem_map.mp hmem
    cases bound with
    | none => cases heq
    | some bound =>
      cases heq
      obtain ⟨binding, hbinding, hport⟩ := List.mem_map.mp htext
      exact ⟨key, bound, hbound, hkey, binding, hbinding, s, hport, hs⟩
  · intro h
    obtain ⟨key, bound, hmem, hkey, binding, hbinding, s, hport, hs⟩ := h
    exact ⟨key, bound.map Binding.port, List.mem_map.mpr ⟨(key, some bound), hmem, rfl⟩, hkey, s,
      List.mem_map.mpr ⟨binding, hbinding, hport⟩, hs⟩

theorem fits_binding (b : Binding) : Shapes.binding.fits b.toJson = true := by
  obtain ⟨address, port⟩ := b
  cases address <;> cases port <;>
    simp [Shapes.binding, Json.Shape.optional, Json.Shape.each, Json.Shape.fits, Binding.toJson,
      Json.written, Json.Shape.slots?, Json.slots?, Json.Shape.fieldsFit, Json.asString?]

theorem fits_boundJson (bound : Option (List Binding)) :
    (Json.Shape.nullable (.list Shapes.binding)).fits (boundJson bound) = true := by
  cases bound with
  | none => simp [boundJson, Json.Shape.fits]
  | some l => simp [boundJson, Json.Shape.fits, fits_binding]

theorem fits_toJson (b : Bindings) : Shapes.portMap.fits b.toJson = true := by
  rw [Shapes.portMap, Bindings.toJson, Json.Shape.fits, List.all_map, List.all_eq_true]
  intro entry _
  exact fits_boundJson entry.2

theorem hostPort_toJson (b : Binding) :
    Shapes.binding.read? Json.asString? b.toJson ["HostPort"] = b.port := by
  obtain ⟨address, port⟩ := b
  cases address <;> cases port <;> rfl

theorem hostPorts_boundJson (bound : Option (List Binding)) :
    hostPorts (boundJson bound) = bound.map fun l => l.map Binding.port := by
  cases bound with
  | none => rfl
  | some l =>
    show some ((l.map Binding.toJson).map _) = _
    rw [List.map_map]
    exact congrArg some (List.map_congr_left fun binding _ => hostPort_toJson binding)

theorem portMapOfJson?_toJson (b : Bindings) :
    portMapOfJson? b.toJson = some (Dict.ofList b.ports).entries := by
  have hread : ∀ b : Bindings, (b.map fun (key, bound) => (key, boundJson bound)).mapM
      (fun (f : String × Json) => ((some ∘ hostPorts) f.2).map fun a => (f.1, a))
        = some b.ports := by
    intro b
    induction b with
    | nil => rfl
    | cons entry b ih =>
      rw [List.map_cons, List.mapM_cons, ih, Function.comp_apply, hostPorts_boundJson]
      rfl
  rw [portMapOfJson?, if_pos (fits_toJson b), Bindings.toJson, Json.asDict?, hread]
  rfl

/-- What is read of an answer is published like the bindings in it. -/
theorem publishedPorts_of_json (h : (b.map (·.1)).Nodup) :
    (portMapOfJson? b.toJson).map publishedPorts = some (publishedPorts b.ports) := by
  have hkeys : (b.ports.map (·.1)).Nodup := by
    rw [Bindings.ports, List.map_map]
    exact h
  rw [portMapOfJson?_toJson, Option.map_some]
  congr 1
  apply publishedPorts_congr
  intro key texts
  rw [Dict.mem_entries_iff, Dict.get?_ofList_eq_some_iff hkeys]

/-- A container's ports are listed in strict order, and just those that are
published; so the set of valid bindings alone decides on the list, in whichever
order an engine gives them and on whichever addresses they are bound. -/
theorem published_ports_are_canonical :
    (∀ b : Bindings, (publishedPorts b.ports).Pairwise (fun p q => p.host < q.host ∨
        p.host = q.host ∧ (p.container < q.container ∨
          p.container = q.container ∧ p.protocol < q.protocol)) ∧
      ∀ p, p ∈ publishedPorts b.ports ↔ b.Publishes p) ∧
    (∀ b c : Bindings, (∀ p, b.Publishes p ↔ c.Publishes p) →
      publishedPorts b.ports = publishedPorts c.ports) ∧
    ∀ b : Bindings, (b.map (·.1)).Nodup →
      (portMapOfJson? b.toJson).map publishedPorts = some (publishedPorts b.ports) := by
  refine ⟨?_, ?_, ?_⟩
  · intro b
    refine ⟨?_, fun p => mem_publishedPorts_ports_iff⟩
    exact (pairwise_publishedPorts b.ports).imp before_iff.mp
  · intro b c h
    apply (pairwise_publishedPorts _).eq_of_mem_iff (pairwise_publishedPorts _)
    intro p
    rw [mem_publishedPorts_ports_iff, mem_publishedPorts_ports_iff]
    exact h p
  · intro b
    exact publishedPorts_of_json

/-- One port bound over two families of addresses, one that is not bound, and keys
that name no port. -/
def mixedBindings : Bindings :=
  [("80/tcp", some [⟨some "0.0.0.0", some "8080"⟩, ⟨some "::", some "8080"⟩]),
    ("9000/tcp", none), ("http/tcp", some [⟨none, some "81"⟩]), ("65536", some [⟨none, some "82"⟩]),
    ("53/udp", some [⟨none, some "5353"⟩, ⟨none, none⟩, ⟨none, some "70000"⟩])]

theorem mixed_bindings_in_two_orders :
    publishedPorts mixedBindings.ports = [⟨5353, 53, "udp"⟩, ⟨8080, 80, "tcp"⟩] ∧
      (∀ p, Bindings.Publishes mixedBindings.reverse p ↔ mixedBindings.Publishes p) ∧
      publishedPorts (Bindings.ports mixedBindings.reverse) = publishedPorts mixedBindings.ports ∧
      (mixedBindings.map (·.1)).Nodup ∧
      (portMapOfJson? mixedBindings.toJson).map publishedPorts
        = some (publishedPorts mixedBindings.ports) := by
  have hsame : ∀ p, Bindings.Publishes mixedBindings.reverse p ↔ mixedBindings.Publishes p := by
    intro p
    simp only [Bindings.Publishes, List.mem_reverse]
  have hkeys : (mixedBindings.map (·.1)).Nodup := by decide
  exact ⟨by decide, hsame, published_ports_are_canonical.2.1 _ _ hsame, hkeys,
    published_ports_are_canonical.2.2 _ hkeys⟩

end HostTelemetry.Container
