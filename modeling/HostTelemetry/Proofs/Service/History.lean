/-
The record of a plugin is a function of the plugin's own history.

# The questions

A history is the list of a plugin's occasions, the oldest first. What a
record holds is asked of it in five questions: what the last conclusive
detection came to, what was set last, what was noted last, what version
was detected last, and what version was learned first. The first two are
asked of the whole history; the others only of its part since the service
was last not found (`recent`), since a record that goes takes its notes
and its version with it.

# The invariant

`Leaves h k` says that a history leaves that much known. `Leaves.after`
carries it over one occasion, one lemma for each kind; the one condition
is that a collection has a record to ask. In a run it has, as `OwnRecord`
shows, so the invariant holds of every run.
-/
import HostTelemetry.Proofs.Service.Knowledge

namespace HostTelemetry.Service

-- ========================================================= one occasion

/-- What a detection concluded, if it was not late. -/
def Occasion.conclusion? : Occasion → Option Finding
  | .detected .late => none
  | .detected f => some f
  | _ => none

/-- Whether the service was not found. -/
def Occasion.isAbsence : Occasion → Bool
  | .detected .absent => true
  | _ => false

/-- The value that a key was set to. -/
def Occasion.setting? (key : String) : Occasion → Option String
  | .configured k value => if k = key then some value else none
  | _ => none

/-- The value that a found service has noted under a key. -/
def Occasion.note? (key : String) : Occasion → Option String
  | .detected (.found r) => r.notes.get? key
  | _ => none

/-- A text, unless it is empty. -/
def nonEmpty? (s : String) : Option String := if s = "" then none else some s

/-- The version that a found service is known to have. -/
def Occasion.detected? : Occasion → Option String
  | .detected (.found r) => nonEmpty? r.version
  | _ => none

/-- The version that a collection tells. -/
def Occasion.learned? : Occasion → Option String
  | .collected o => (versionIn? o).bind nonEmpty?
  | _ => none

-- ============================================================= histories

/-- What the last conclusive detection came to. -/
def lastConclusion? (h : List Occasion) : Option Finding :=
  h.reverse.findSome? Occasion.conclusion?

/-- What happened since the service was last not found, the latest first. -/
def recent (h : List Occasion) : List Occasion := h.reverse.takeWhile (!·.isAbsence)

/-- The value that a key was last set to. -/
def lastSetting? (h : List Occasion) (key : String) : Option String :=
  h.reverse.findSome? (Occasion.setting? key)

/-- The value noted by the latest service found that has the key. -/
def lastNote? (h : List Occasion) (key : String) : Option String :=
  (recent h).findSome? (Occasion.note? key)

/-- The version that was detected last. -/
def lastDetected? (h : List Occasion) : Option String :=
  (recent h).findSome? Occasion.detected?

/-- The version that was learned first. -/
def firstLearned? (h : List Occasion) : Option String :=
  (recent h).reverse.findSome? Occasion.learned?

/-- The version that a history gives a record: a detected version wins over
a learned one. -/
def versionOf? (h : List Occasion) : Option String := (lastDetected? h).or (firstLearned? h)

/-- A record is the one that a history leaves: it is of the service found
last, a setting wins over a finding, and a version that nobody knows is
empty. -/
structure Describes (h : List Occasion) (r : Record) : Prop where
  service : ∃ last, lastConclusion? h = some (.found last) ∧ r.pluginId = last.pluginId ∧
    r.name = last.name ∧ r.icon = last.icon ∧ r.baseUrl = last.baseUrl
  notes : ∀ key, r.notes.get? key = (lastSetting? h key).or (lastNote? h key)
  version : r.version = (versionOf? h).getD ""

/-- A history after which there is no record. -/
structure Bare (h : List Occasion) : Prop where
  conclusion : lastConclusion? h = none ∨ lastConclusion? h = some .absent
  note : ∀ key, lastNote? h key = none
  version : versionOf? h = none

/-- The history leaves that much known. -/
structure Leaves (h : List Occasion) (k : Knowledge) : Prop where
  settings : ∀ key, k.settings.get? key = lastSetting? h key
  absent : k.record = none → Bare h
  present : ∀ r, k.record = some r → Describes h r

-- ====================================================== one occasion more

section Append

variable (h : List Occasion) (o : Occasion)

theorem lastConclusion?_append :
    lastConclusion? (h ++ [o]) = o.conclusion?.or (lastConclusion? h) := by
  unfold lastConclusion?
  rw [List.reverse_append, List.findSome?_append]
  cases hc : o.conclusion? with
  | none => simp [hc]
  | some f => simp [hc]

theorem lastSetting?_append (key : String) :
    lastSetting? (h ++ [o]) key = (o.setting? key).or (lastSetting? h key) := by
  unfold lastSetting?
  rw [List.reverse_append, List.findSome?_append]
  cases hs : o.setting? key with
  | none => simp [hs]
  | some value => simp [hs]

theorem recent_append : recent (h ++ [o]) = if o.isAbsence then [] else o :: recent h := by
  unfold recent
  rw [List.reverse_append, List.reverse_singleton, List.singleton_append, List.takeWhile_cons]
  cases o.isAbsence with
  | true => rfl
  | false => rfl

variable {h o} (hkeep : o.isAbsence = false)

include hkeep

theorem lastNote?_append (key : String) :
    lastNote? (h ++ [o]) key = (o.note? key).or (lastNote? h key) := by
  unfold lastNote?
  rw [recent_append, hkeep]
  cases hn : o.note? key with
  | none => simp [hn]
  | some value => simp [hn]

theorem versionOf?_append :
    versionOf? (h ++ [o]) = (o.detected?.or (versionOf? h)).or o.learned? := by
  have hdetected : lastDetected? (h ++ [o]) = o.detected?.or (lastDetected? h) := by
    unfold lastDetected?
    rw [recent_append, hkeep]
    cases hd : o.detected? with
    | none => simp [hd]
    | some version => simp [hd]
  have hlearned : firstLearned? (h ++ [o]) = (firstLearned? h).or o.learned? := by
    unfold firstLearned?
    rw [recent_append, hkeep]
    cases hl : o.learned? with
    | none => simp [hl]
    | some version => simp [hl]
  unfold versionOf?
  rw [hdetected, hlearned, Option.or_assoc, Option.or_assoc, Option.or_assoc]

end Append

-- ============================================================== versions

theorem nonEmpty?_getD (s : String) : (nonEmpty? s).getD "" = s := by
  unfold nonEmpty?
  by_cases hs : s = ""
  · simp [hs]
  · simp [hs]

theorem ne_empty_of_nonEmpty? {s version : String} (h : nonEmpty? s = some version) :
    version ≠ "" := by
  unfold nonEmpty? at h
  by_cases hs : s = ""
  · simp [hs] at h
  · simp only [hs, if_false, Option.some.injEq] at h
    exact h ▸ hs

theorem ne_empty_of_versionOf? {h : List Occasion} {version : String}
    (hv : versionOf? h = some version) : version ≠ "" := by
  rcases Option.or_eq_some_iff.mp hv with hd | ⟨-, hl⟩
  · obtain ⟨o, -, ho⟩ := List.exists_of_findSome?_eq_some hd
    unfold Occasion.detected? at ho
    split at ho
    · exact ne_empty_of_nonEmpty? ho
    · cases ho
  · obtain ⟨o, -, ho⟩ := List.exists_of_findSome?_eq_some hl
    unfold Occasion.learned? at ho
    split at ho
    · obtain ⟨s, -, hs⟩ := Option.bind_eq_some_iff.mp ho
      exact ne_empty_of_nonEmpty? hs
    · cases ho

-- ========================================================= the invariant

theorem leaves_nil : Leaves [] {} where
  settings _ := rfl
  absent _ := ⟨.inl rfl, fun _ => rfl, rfl⟩
  present := nofun

/-- An occasion that says nothing of the service leaves a bare history
bare. -/
theorem Bare.append {h : List Occasion} {o : Occasion} (hb : Bare h)
    (hkeep : o.isAbsence = false) (hconclusion : o.conclusion? = none)
    (hnote : ∀ key, o.note? key = none) (hversion : o.detected? = none ∧ o.learned? = none) :
    Bare (h ++ [o]) where
  conclusion := by
    rw [lastConclusion?_append, hconclusion, Option.none_or]
    exact hb.conclusion
  note key := by
    rw [lastNote?_append hkeep, hnote, hb.note, Option.none_or]
  version := by
    rw [versionOf?_append hkeep, hversion.1, hversion.2, hb.version]
    rfl

namespace Leaves

variable {h : List Occasion} {k : Knowledge}

/-- What is known under a key, with or without a record. -/
theorem notes (hk : Leaves h k) (key : String) :
    (k.settings.get? key).or (k.record.bind (·.notes.get? key))
      = (lastSetting? h key).or (lastNote? h key) := by
  rw [hk.settings key]
  cases hr : k.record with
  | none => rw [(hk.absent hr).note key, Option.bind_none]
  | some r =>
    rw [Option.bind_some, (hk.present r hr).notes key]
    cases lastSetting? h key with
    | none => rfl
    | some value => rfl

/-- The version that is known, with or without a record. -/
theorem version (hk : Leaves h k) :
    k.record.elim "" (·.version) = (versionOf? h).getD "" := by
  cases hr : k.record with
  | none => rw [(hk.absent hr).version]; rfl
  | some r => exact (hk.present r hr).version

/-- A setting is kept for good, and the record takes it over. -/
theorem configured (hk : Leaves h k) (key value : String) :
    Leaves (h ++ [.configured key value]) (k.after (.configured key value)) := by
  have hsettings : ∀ other, lastSetting? (h ++ [.configured key value]) other
      = if other = key then some value else lastSetting? h other := by
    intro other
    rw [lastSetting?_append]
    by_cases hkey : key = other
    · simp [Occasion.setting?, hkey]
    · simp [Occasion.setting?, hkey, Ne.symm hkey]
  refine ⟨fun other => ?_, fun hnone => ?_, fun r hr => ?_⟩
  · rw [hsettings, ← hk.settings other]
    exact Dict.get?_insert k.settings key other value
  · exact (hk.absent (Option.map_eq_none_iff.mp hnone)).append rfl rfl (fun _ => rfl) ⟨rfl, rfl⟩
  · obtain ⟨old, hold, rfl⟩ := Option.map_eq_some_iff.mp hr
    have hd := hk.present old hold
    refine ⟨?_, fun other => ?_, ?_⟩
    · rw [lastConclusion?_append]
      exact hd.service
    · rw [hsettings, lastNote?_append rfl, Dict.get?_insert, hd.notes other]
      by_cases hkey : other = key
      · simp [hkey]
      · simp [hkey, Occasion.note?]
    · rw [versionOf?_append rfl]
      simpa [Occasion.detected?, Occasion.learned?] using hd.version

/-- A missed deadline changes nothing. -/
theorem late (hk : Leaves h k) : Leaves (h ++ [.detected .late]) k := by
  refine ⟨fun key => ?_, fun hnone => ?_, fun r hr => ?_⟩
  · rw [lastSetting?_append]
    exact hk.settings key
  · exact (hk.absent hnone).append rfl rfl (fun _ => rfl) ⟨rfl, rfl⟩
  · have hd := hk.present r hr
    refine ⟨?_, fun key => ?_, ?_⟩
    · rw [lastConclusion?_append]
      exact hd.service
    · rw [lastSetting?_append, lastNote?_append rfl]
      exact hd.notes key
    · rw [versionOf?_append rfl]
      simpa [Occasion.detected?, Occasion.learned?] using hd.version

/-- A service that is gone takes its notes and its version along. -/
theorem gone (hk : Leaves h k) :
    Leaves (h ++ [.detected .absent]) (k.after (.detected .absent)) := by
  have hrecent : recent (h ++ [.detected .absent]) = [] := recent_append h _
  refine ⟨fun key => ?_, fun _ => ⟨.inr ?_, fun key => ?_, ?_⟩, nofun⟩
  · rw [lastSetting?_append]
    exact hk.settings key
  · rw [lastConclusion?_append]
    rfl
  · rw [lastNote?, hrecent]
    rfl
  · rw [versionOf?, lastDetected?, firstLearned?, hrecent]
    rfl

/-- A service that is found continues the record before it. -/
theorem found (hk : Leaves h k) (r : Record) :
    Leaves (h ++ [.detected (.found r)]) (k.after (.detected (.found r))) := by
  refine ⟨fun key => ?_, nofun, fun r' hr' => ?_⟩
  · rw [lastSetting?_append]
    exact hk.settings key
  · obtain rfl : k.recordFor r = r' := Option.some.inj hr'
    refine ⟨⟨r, ?_⟩, fun key => ?_, ?_⟩
    · rw [lastConclusion?_append]
      unfold Knowledge.recordFor
      cases k.record with
      | none => exact ⟨rfl, rfl, rfl, rfl, rfl⟩
      | some old => exact ⟨rfl, rfl, rfl, rfl, rfl⟩
    · have hnotes : (k.recordFor r).notes.get? key = (k.settings.get? key).or
          ((r.notes.get? key).or (k.record.bind (·.notes.get? key))) := by
        unfold Knowledge.recordFor Record.withSettings Record.continuing
        cases k.record with
        | none => simp
        | some old => simp
      have hbefore := hk.notes key
      rw [hnotes, lastSetting?_append, lastNote?_append rfl, hk.settings key]
      rw [hk.settings key] at hbefore
      show _ = (lastSetting? h key).or ((r.notes.get? key).or (lastNote? h key))
      -- without a setting the notes before are those of the history
      cases hs : lastSetting? h key with
      | some value => rfl
      | none =>
        rw [hs, Option.none_or, Option.none_or] at hbefore
        rw [hbefore]
    · have hversion : (k.recordFor r).version
          = if r.version = "" then k.record.elim "" (·.version) else r.version := by
        unfold Knowledge.recordFor Record.withSettings Record.continuing
        cases k.record with
        | none => simp
        | some old => rfl
      rw [hversion, hk.version, versionOf?_append rfl]
      by_cases hempty : r.version = ""
      · simp [Occasion.detected?, Occasion.learned?, nonEmpty?, hempty]
      · simp [Occasion.detected?, Occasion.learned?, nonEmpty?, hempty]

/-- A collection tells a version to a record that has none. -/
theorem collected (hk : Leaves h k) (o : Outcome) (hasked : k.record ≠ none) :
    Leaves (h ++ [.collected o]) (k.after (.collected o)) := by
  obtain ⟨r, hr⟩ := Option.ne_none_iff_exists'.mp hasked
  have hd := hk.present r hr
  have hlearned : versionOf? (h ++ [.collected o])
      = (versionOf? h).or ((versionIn? o).bind nonEmpty?) := versionOf?_append rfl
  -- only the version of the record can change
  obtain ⟨version, hrecord, hversion⟩ : ∃ version,
      (k.after (.collected o)).record = some { r with version } ∧
        version = (versionOf? (h ++ [.collected o])).getD "" := by
    cases hv : versionIn? o with
    | none =>
      refine ⟨r.version, ?_, ?_⟩
      · simp [Knowledge.after, hv, hr]
      · rw [hlearned, hv, Option.bind_none, Option.or_none]
        exact hd.version
    | some told =>
      by_cases hempty : r.version = ""
      · refine ⟨told, ?_, ?_⟩
        · simp [Knowledge.after, hv, hr, Record.learn, hempty]
        · have hnone : versionOf? h = none := by
            cases hbefore : versionOf? h with
            | none => rfl
            | some version =>
              have hsame := hd.version
              rw [hempty, hbefore, Option.getD_some] at hsame
              exact absurd hsame.symm (ne_empty_of_versionOf? hbefore)
          rw [hlearned, hv, hnone, Option.none_or, Option.bind_some]
          exact (nonEmpty?_getD told).symm
      · refine ⟨r.version, ?_, ?_⟩
        · simp [Knowledge.after, hv, hr, Record.learn, hempty]
        · obtain ⟨version, hbefore⟩ : ∃ version, versionOf? h = some version := by
            cases hbefore : versionOf? h with
            | some version => exact ⟨version, rfl⟩
            | none =>
              have hsame := hd.version
              rw [hbefore] at hsame
              exact absurd hsame hempty
          rw [hlearned, hbefore, Option.some_or, ← hbefore]
          exact hd.version
  refine ⟨fun key => ?_, fun hnone => ?_, fun r' hr' => ?_⟩
  · rw [lastSetting?_append]
    exact hk.settings key
  · rw [hrecord] at hnone
    cases hnone
  · rw [hrecord] at hr'
    cases hr'
    refine ⟨?_, fun key => ?_, hversion⟩
    · rw [lastConclusion?_append]
      exact hd.service
    · rw [lastSetting?_append, lastNote?_append rfl]
      exact hd.notes key

/-- One occasion more. -/
theorem after (hk : Leaves h k) (o : Occasion)
    (hasked : ∀ outcome, o = .collected outcome → k.record ≠ none) :
    Leaves (h ++ [o]) (k.after o) := by
  cases o with
  | configured key value => exact hk.configured key value
  | detected f =>
    cases f with
    | found r => exact hk.found r
    | absent => exact hk.gone
    | late => exact hk.late
  | collected outcome => exact hk.collected outcome (hasked outcome rfl)

end Leaves

end HostTelemetry.Service
