/-
Which plugins have a record.

A record is made and removed by what a detection finds. Settings and the
outcomes of a collection may change a record, but they neither make one nor
remove it (`isSome_record_after`). So the plugins that have one, in their order
(`Detector.recorded`), are those whom the next collection asks, and they are the
same after it, whatever settings are given meanwhile. The plugins
themselves are the same after every sweep.
-/
import HostTelemetry.Proofs.Service.Precedence

namespace HostTelemetry.Service

variable {σ : Type} {srv : Http.Dialogue.Server σ}

/-- The plugins with a record, in their order. -/
def Detector.recorded (d : Detector) : List String :=
  (d.members.map Member.id).filter fun id => (d.registry.records.get? id).isSome

/-- A collection asks those with a record. -/
theorem asked_eq_recorded (d : Detector) : d.asked = d.recorded := by
  rw [Detector.asked, Registry.targets, Detector.identities, Detector.recorded,
    List.filterMap_map]
  induction d.members with
  | nil => rfl
  | cons m rest ih =>
    have hhead : m.plugin.identity.id = m.id := rfl
    cases hr : d.registry.records.get? m.id with
    | none => simpa [hhead, hr] using ih
    | some r => simpa [hhead, hr] using ih

-- ============================================================== occasions

theorem isSome_record_after (k : Knowledge) {o : Occasion} (h : ∀ f, o ≠ .detected f) :
    (k.after o).record.isSome = k.record.isSome := by
  cases o with
  | configured key value => simp [Knowledge.after]
  | detected f => exact absurd rfl (h f)
  | collected o =>
    cases hversion : versionIn? o with
    | none => simp [Knowledge.after, hversion]
    | some version => simp [Knowledge.after, hversion]

theorem isSome_records_takeAll {g : Registry} {events : List (String × Occasion)}
    (h : ∀ e ∈ events, ∀ f, e.2 ≠ .detected f) (id : String) :
    ((g.takeAll events).records.get? id).isSome = (g.records.get? id).isSome := by
  induction events generalizing g with
  | nil => rfl
  | cons e rest ih =>
    have hfirst : ((g.take e.1 e.2).knowledge id).record.isSome
        = (g.knowledge id).record.isSome := by
      rw [Registry.knowledge_take]
      split
      · exact isSome_record_after _ (h e List.mem_cons_self)
      · rfl
    exact (ih fun e' he' => h e' (List.mem_cons_of_mem _ he')).trans hfirst

-- ================================================================= sweeps

theorem members_sweep {κ α : Type} (budget : Nat) (task : Member → Option (κ × Http.Dialogue α))
    (members : List Member) (server : σ) :
    (sweep srv budget task members server).members.map Member.id = members.map Member.id := by
  induction members generalizing server with
  | nil => rfl
  | cons m rest ih =>
    unfold sweep
    split
    · exact congrArg (m.id :: ·) (ih server)
    · exact congrArg (m.id :: ·) (ih _)

namespace Detector

variable (d : Detector)

theorem members_detect (e : Discovery.Environment) (meanwhile : List Setting) (server : σ) :
    (d.detect srv e meanwhile server).detector.members.map Member.id = d.members.map Member.id :=
  members_sweep ..

theorem members_collect (meanwhile : List Setting) (server : σ) :
    (d.collect srv meanwhile server).detector.members.map Member.id = d.members.map Member.id :=
  members_sweep ..

theorem recorded_configureAll (settings : List Setting) :
    (d.configureAll settings).recorded = d.recorded := by
  refine List.filter_congr fun id _ => ?_
  show ((d.registry.configureAll settings).records.get? id).isSome = _
  rw [Registry.configureAll_eq]
  refine isSome_records_takeAll (fun e he f => ?_) id
  obtain ⟨s, -, rfl⟩ := List.mem_map.mp he
  exact Occasion.noConfusion

theorem recorded_collect (meanwhile : List Setting) (server : σ) :
    (d.collect srv meanwhile server).detector.recorded = d.recorded := by
  unfold recorded
  rw [members_collect]
  refine List.filter_congr fun id _ => ?_
  show (((d.registry.configureAll meanwhile).collected (d.outcomes srv server)).knowledge
    id).record.isSome = _
  rw [Registry.knowledge_collected, Registry.configureAll_eq, ← Registry.takeAll_append]
  refine isSome_records_takeAll (fun e he f => ?_) id
  rcases List.mem_append.mp he with he | he
  · obtain ⟨s, -, rfl⟩ := List.mem_map.mp he
    exact Occasion.noConfusion
  · obtain ⟨o, -, rfl⟩ := List.mem_map.mp he
    exact Occasion.noConfusion

end Detector

end HostTelemetry.Service
