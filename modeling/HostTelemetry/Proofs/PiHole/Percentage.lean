/-
The share of blocked queries, which a report holds twice.

The figure `Blocked` is the share as a text with one place. The field
`adsPercentToday` is the share rounded to one place. Both are made of the share
as it is, and the two ways of rounding are not the same: a reader who prints the
field with one place may not get the figure. That is so for a share of 0.25,
which a server of either generation may have, and `percentages_agree_iff` says
for which other shares.
-/
import HostTelemetry.PiHole.Summary
import HostTelemetry.Proofs.Number.Tenths

namespace HostTelemetry

-- ========================================================= settled fields

/-- Of several fields of one name the last is found, and a field that was
there before only if there is none. -/
theorem Json.find?_settledFields (name : String) (fields done : List (String × Json)) :
    Dict.find? name (settledFields done fields)
      = ((field? name (.obj fields)).map settled).or (Dict.find? name done) := by
  induction fields generalizing done with
  | nil => rfl
  | cons f r ih =>
    obtain ⟨n, j⟩ := f
    have hlast : field? name (.obj ((n, j) :: r))
        = (field? name (.obj r)).or (if name = n then some j else none) := by
      rw [field?, field?, List.reverse_cons, List.find?_append, Option.map_or]
      congr 1
      by_cases hn : name = n
      · rw [if_pos hn, List.find?_cons_of_pos (by rw [hn]; exact beq_self_eq_true n)]
        rfl
      · rw [if_neg hn, List.find?_cons_of_neg (by simpa using Ne.symm hn)]
        rfl
    rw [settledFields, ih, Dict.find?_place, hlast]
    cases field? name (.obj r) with
    | some found => rfl
    | none => by_cases hn : name = n <;> simp [hn]

theorem Json.settled_ofFloat (x : Float) : settled (ofFloat x) = ofFloat x := by
  unfold ofFloat
  split <;> rfl

namespace PiHole

open Service (Figure Report Status)
open Number (KeepsTenths LiftedByHalf LostInTenfold keepsTenths_iff)

-- =========================================================== the two forms

/-- The report is of a body of either generation, with this share of blocked
queries before it is rounded. -/
inductive ReportsShare (j : Json) : Float → Report → Prop
  | v5 {r : Report} (h : v5Report? j = some r) :
      ReportsShare j (number (j.field? "ads_percentage_today")) r
  | v6 {r : Report} (h : v6Report? j = some r) :
      ReportsShare j (blockedShare (wholeNumber (j.at? ["queries", "blocked"]))
        (wholeNumber (j.at? ["queries", "total"]))) r

/-- What people read. -/
def shownShare? (r : Report) : Option String :=
  (r.summary.find? (·.label = "Blocked")).map (·.value)

/-- What programs read. -/
def storedShare? (r : Report) : Option Json := Dict.find? "adsPercentToday" r.stats

/-- The figure is the field, printed with one place. -/
def FormsAgree (r : Report) : Prop :=
  ∃ y, storedShare? r = some (.float y) ∧ shownShare? r = some (percent y)

variable {j : Json} {x : Float} {r : Report}

theorem shownShare?_figures (status : Status) (queries onBlocklist clients : Int) (x : Float)
    (details : Json) (version : String) :
    shownShare? ((Report.ofDetails status (figures queries x onBlocklist clients)
      details).withVersion version) = some (percent x) := rfl

theorem storedShare?_ofDetails (status : Status) (summary : List Figure)
    {fields : List (String × Json)} (version : String)
    (h : Json.field? "adsPercentToday" (.obj fields) = some (.ofFloat x)) :
    storedShare? ((Report.ofDetails status summary (.obj fields)).withVersion version)
      = some (.ofFloat x) := by
  show Dict.find? "adsPercentToday" (Json.settledFields [] fields) = _
  rw [Json.find?_settledFields, h, Option.map_some, Json.settled_ofFloat]
  rfl

/-- Both forms are made of the share as it is. -/
theorem ReportsShare.forms (h : ReportsShare j x r) :
    shownShare? r = some (percent x) ∧ storedShare? r = some (.ofFloat (Number.round1 x)) := by
  cases h with
  | v5 h =>
    simp only [v5Report?, Option.bind_eq_bind, Option.bind_eq_some_iff, Option.pure_def,
      Option.some.injEq] at h
    obtain ⟨queriesToday, -, rfl⟩ := h
    exact ⟨shownShare?_figures .., storedShare?_ofDetails _ _ _ rfl⟩
  | v6 h =>
    simp only [v6Report?, Option.bind_eq_bind, Option.bind_eq_some_iff, Option.pure_def,
      Option.some.injEq, Option.filter_eq_some_iff] at h
    obtain ⟨queries, ⟨hqueries, -⟩, rfl⟩ := h
    have hat : ∀ name, j.at? ["queries", name] = queries.field? name := by
      intro name
      show (j.field? "queries").bind _ = _
      rw [hqueries, Option.bind_some]
    rw [hat, hat]
    exact ⟨shownShare?_figures .., storedShare?_ofDetails _ _ _ rfl⟩

theorem percent_inj {x y : Float} : percent x = percent y ↔ Number.fixed 1 x = Number.fixed 1 y :=
  String.append_left_inj "%"

/-- The figure and the field agree, unless ten times the share is lifted by
half a unit in the multiplication, or does not lead back to a share beyond
2^49. -/
theorem percentages_agree_iff (h : ReportsShare j x r) (hx : x.isFinite = true) :
    FormsAgree r ↔ ¬ LiftedByHalf x ∧ ¬ LostInTenfold x := by
  obtain ⟨hshown, hstored⟩ := h.forms
  rw [← keepsTenths_iff hx, FormsAgree, hshown, hstored, KeepsTenths, Json.ofFloat]
  constructor
  · rintro ⟨y, hy, hsame⟩
    split at hy
    · rename_i hfinite
      obtain rfl : Number.round1 x = y := Json.float.inj (Option.some.inj hy)
      exact ⟨hfinite, (percent_inj.mp (Option.some.inj hsame)).symm⟩
    · cases hy
  · rintro ⟨hfinite, hsame⟩
    rw [if_pos hfinite]
    exact ⟨_, rfl, congrArg some (percent_inj.mpr hsame.symm)⟩

/-- A body of generation 6 with these counts. -/
def counted (blocked total : Int) : Json :=
  .obj [("queries", .obj [("total", .int total), ("blocked", .int blocked)])]

/-- One query of eight is 12.5 percent in both forms. -/
theorem eighth_is_published_once : ∃ r, v6Report? (counted 1 8) = some r ∧ FormsAgree r := by
  obtain ⟨r, hr⟩ : ∃ r, v6Report? (counted 1 8) = some r :=
    Option.isSome_iff_exists.mp (by decide +kernel)
  have hshare : ReportsShare (counted 1 8) (blockedShare 1 8) r := by
    have hblocked : wholeNumber ((counted 1 8).at? ["queries", "blocked"]) = 1 := by decide +kernel
    have htotal : wholeNumber ((counted 1 8).at? ["queries", "total"]) = 8 := by decide +kernel
    have hreports := ReportsShare.v6 hr
    rw [hblocked, htotal] at hreports
    exact hreports
  have hexact : Number.Dyadic.ofFloat? (blockedShare 1 8) = some ⟨false, 0x19000000000000, -49⟩ := by
    decide +kernel
  have htenfold : Number.Dyadic.ofFloat? (blockedShare 1 8 * 10)
      = some ⟨false, 0x1F400000000000, -46⟩ := by
    decide +kernel
  have hlifted : ¬ LiftedByHalf (blockedShare 1 8) := by
    rintro ⟨d, p, hd, hp, hsize⟩
    rw [hexact, Option.some.injEq] at hd
    rw [htenfold, Option.some.injEq] at hp
    subst hd hp
    have htenths : Number.Dyadic.scaled 1 ⟨false, 0x19000000000000, -49⟩ = 125 := by decide +kernel
    rw [htenths] at hsize
    norm_num [Number.Dyadic.size] at hsize
  have hlost : ¬ LostInTenfold (blockedShare 1 8) := by
    rintro ⟨d, hd, hlarge, -⟩
    rw [hexact, Option.some.injEq] at hd
    subst hd
    norm_num [Number.Dyadic.size] at hlarge
  exact ⟨r, hr, (percentages_agree_iff hshare (by decide +kernel)).mpr ⟨hlifted, hlost⟩⟩

/-- Forms with two texts do not agree. -/
theorem ReportsShare.not_formsAgree (h : ReportsShare j x r)
    (hdiffer : percent x ≠ percent (Number.round1 x)) : ¬ FormsAgree r := by
  obtain ⟨hshown, hstored⟩ := h.forms
  rintro ⟨y, hy, hsame⟩
  rw [hstored, Json.ofFloat] at hy
  split at hy
  · obtain rfl : Number.round1 x = y := Json.float.inj (Option.some.inj hy)
    rw [hshown] at hsame
    exact hdiffer (Option.some.inj hsame)
  · cases hy

/-- A body of generation 5 that says a quarter of a percent. -/
def quarterSaid : Json := .obj [("dns_queries_today", .int 1), ("ads_percentage_today", .float 0.25)]

/-- A quarter of a percent is shown as 0.2 and stored as 0.3, where a server
says it and where it is counted. -/
theorem quarter_is_published_twice :
    (∃ r, v5Report? quarterSaid = some r ∧ shownShare? r = some "0.2%" ∧
        storedShare? r = some (.float 0.3) ∧ ¬ FormsAgree r) ∧
      (∃ r, v6Report? (counted 1 400) = some r ∧ shownShare? r = some "0.2%" ∧
        storedShare? r = some (.float 0.3) ∧ ¬ FormsAgree r) ∧
      percent 0.3 = "0.3%" := by
  have hround1 : Number.round1 0.25 = 0.3 := by decide +kernel
  have hstores : Json.ofFloat (Number.round1 0.25) = .float 0.3 := by
    rw [hround1, Json.ofFloat, if_pos (by decide +kernel)]
  have hshows : percent 0.25 = "0.2%" := by decide +kernel
  have hprints : percent 0.3 = "0.3%" := by decide +kernel
  have hboth : ∀ {j : Json} {r : Report}, ReportsShare j 0.25 r →
      shownShare? r = some "0.2%" ∧ storedShare? r = some (.float 0.3) ∧ ¬ FormsAgree r := by
    intro j r h
    obtain ⟨hshown, hstored⟩ := h.forms
    rw [hshows] at hshown
    rw [hstores] at hstored
    refine ⟨hshown, hstored, h.not_formsAgree ?_⟩
    rw [hround1, hshows, hprints]
    decide
  refine ⟨?_, ?_, hprints⟩
  · obtain ⟨r, hr⟩ : ∃ r, v5Report? quarterSaid = some r :=
      Option.isSome_iff_exists.mp (by decide +kernel)
    have hsaid : number (quarterSaid.field? "ads_percentage_today") = 0.25 := by decide +kernel
    have hshare := ReportsShare.v5 hr
    rw [hsaid] at hshare
    exact ⟨r, hr, hboth hshare⟩
  · obtain ⟨r, hr⟩ : ∃ r, v6Report? (counted 1 400) = some r :=
      Option.isSome_iff_exists.mp (by decide +kernel)
    have hcounted : blockedShare (wholeNumber ((counted 1 400).at? ["queries", "blocked"]))
        (wholeNumber ((counted 1 400).at? ["queries", "total"])) = 0.25 := by
      decide +kernel
    have hshare := ReportsShare.v6 hr
    rw [hcounted] at hshare
    exact ⟨r, hr, hboth hshare⟩

end PiHole

end HostTelemetry
