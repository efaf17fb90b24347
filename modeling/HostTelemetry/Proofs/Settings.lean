/-
The settings that are accepted, by the numbers in them.

A number in a document is taken if it has 64 bits, and what a document leaves
out has its usual value, so the readers bound every number
(`le_of_ofTable?`). The check that follows refuses a zero and an empty socket,
and nothing else (`fault?_eq_none_iff`): from above there is no bound besides
the 64 bits (`bounds_of_ofDocument`).
-/
import HostTelemetry.Settings
import Mathlib.Tactic.Tauto

namespace HostTelemetry

open Text (maxU64)

/-- The numbers that say how often to look and how much to keep. -/
def Monitoring.numbers (m : Monitoring) : List Nat :=
  [m.sampleMillis, m.dockerSecs, m.detectSecs, m.collectSecs, m.collectTimeoutSecs, m.digestSecs,
    m.processKeep]

namespace Settings

/-- The numbers of the settings. -/
def numbers (s : Settings) : List Nat := s.subscriberBuffer :: s.monitoring.numbers

-- ============================================================== reading

/-- A setting is the usual one, or it is read. -/
theorem holds_of_orElse? {α : Type} {P : α → Prop} {usual a : α} {read? : Toml.Value → Option α}
    {slot : Option Toml.Value} (husual : P usual) (hread : ∀ {v a}, read? v = some a → P a)
    (h : orElse? usual read? slot = some a) : P a := by
  cases slot with
  | none =>
    cases h
    exact husual
  | some v => exact hread h

theorem le_of_asNatural? {v : Toml.Value} {n : Nat} (h : asNatural? v = some n) : n ≤ maxU64 := by
  cases v with
  | int i =>
    obtain ⟨⟨-, hle⟩, h⟩ := Option.ite_none_right_eq_some.mp h
    cases h
    exact Int.toNat_le.mpr hle
  | _ => cases h

theorem le_of_orElse? {usual n : Nat} {slot : Option Toml.Value} (husual : usual ≤ maxU64)
    (h : orElse? usual asNatural? slot = some n) : n ≤ maxU64 :=
  holds_of_orElse? (P := (· ≤ maxU64)) husual le_of_asNatural? h

theorem le_of_single? {name : String} {usual n : Nat} {v : Toml.Value} (husual : usual ≤ maxU64)
    (h : single? name usual asNatural? v = some n) : n ≤ maxU64 := by
  obtain ⟨slots, -, h⟩ := Option.bind_eq_some_iff.mp h
  split at h
  · exact le_of_orElse? husual h
  · cases h

theorem le_of_monitoring? {v : Toml.Value} {m : Monitoring} (h : monitoring? v = some m) :
    ∀ n ∈ m.numbers, n ≤ maxU64 := by
  obtain ⟨slots, -, h⟩ := Option.bind_eq_some_iff.mp h
  split at h
  · obtain ⟨sample, hsample, h⟩ := Option.bind_eq_some_iff.mp h
    obtain ⟨docker, hdocker, h⟩ := Option.bind_eq_some_iff.mp h
    obtain ⟨detect, hdetect, h⟩ := Option.bind_eq_some_iff.mp h
    obtain ⟨collect, hcollect, h⟩ := Option.bind_eq_some_iff.mp h
    obtain ⟨timeout, htimeout, h⟩ := Option.bind_eq_some_iff.mp h
    obtain ⟨digest, hdigest, h⟩ := Option.bind_eq_some_iff.mp h
    obtain ⟨keep, hkeep, h⟩ := Option.bind_eq_some_iff.mp h
    cases h
    simp only [Monitoring.numbers, List.forall_mem_cons]
    exact ⟨le_of_orElse? (by decide) hsample, le_of_orElse? (by decide) hdocker,
      le_of_orElse? (by decide) hdetect, le_of_orElse? (by decide) hcollect,
      le_of_orElse? (by decide) htimeout, le_of_orElse? (by decide) hdigest,
      le_of_orElse? (by decide) hkeep, nofun⟩
  · cases h

/-- Every number that is read, or left out, has 64 bits. -/
theorem le_of_ofTable? {v : Toml.Value} {s : Settings} (h : ofTable? v = some s) :
    ∀ n ∈ s.numbers, n ≤ maxU64 := by
  obtain ⟨slots, -, h⟩ := Option.bind_eq_some_iff.mp h
  split at h
  · obtain ⟨monitoring, hmonitoring, h⟩ := Option.bind_eq_some_iff.mp h
    obtain ⟨socket, -, h⟩ := Option.bind_eq_some_iff.mp h
    obtain ⟨buffer, hbuffer, h⟩ := Option.bind_eq_some_iff.mp h
    obtain ⟨password, -, h⟩ := Option.bind_eq_some_iff.mp h
    cases h
    have hbuffer : buffer ≤ maxU64 :=
      holds_of_orElse? (P := (· ≤ maxU64)) (by decide) (le_of_single? (by decide)) hbuffer
    have hmonitoring : ∀ n ∈ monitoring.numbers, n ≤ maxU64 :=
      holds_of_orElse? (P := fun m => ∀ n ∈ m.numbers, n ≤ maxU64) (by decide) le_of_monitoring?
        hmonitoring
    exact List.forall_mem_cons.mpr ⟨hbuffer, hmonitoring⟩
  · cases h

-- ============================================================= checking

/-- Settings are allowed just if no number is zero and the socket has a name. -/
theorem fault?_eq_none_iff {s : Settings} :
    s.fault? = none ↔ (∀ n ∈ s.numbers, 0 < n) ∧ s.dockerSocket ≠ "" := by
  have hcheck : ∀ {c : Prop} [Decidable c] {e : Fault},
      (if c then some e else none) = none ↔ ¬ c := by
    intro c _ e
    split <;> simp_all
  simp only [fault?, numbers, Monitoring.numbers, List.findSome?_eq_none_iff,
    List.forall_mem_cons, id, hcheck, Nat.pos_iff_ne_zero, List.not_mem_nil, false_imp_iff,
    implies_true, and_true]
  tauto

/-- In an accepted document every number is at least one, and has 64 bits. -/
theorem bounds_of_ofDocument {text : String} {s : Settings} (h : ofDocument text = .ok s) :
    ∀ n ∈ s.numbers, 0 < n ∧ n ≤ maxU64 := by
  unfold ofDocument at h
  split at h
  case h_1 read hread =>
    unfold checked at h
    split at h
    case h_1 => cases h
    case h_2 hfault =>
      cases h
      obtain ⟨fields, -, htable⟩ := Option.bind_eq_some_iff.mp hread
      intro n hn
      exact ⟨(fault?_eq_none_iff.mp hfault).1 n hn, le_of_ofTable? htable n hn⟩
  case h_2 => cases h

end Settings

end HostTelemetry
