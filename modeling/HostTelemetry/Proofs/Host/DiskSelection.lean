/-
Which mounts are reported as disks, and in which order.

# Rows

A mount may occur twice in a list, so what is said of it is said of its place
in the list: a row is a mount with its place. The selection has two stages with
a memory between them. The first keeps a mount if no earlier one on a device has
the same device; the second drops the small ones, but only after they have
stood for their device. `exists_firstRows` follows the memory through the list
and turns it into a statement about places, and from there on no stage needs the
memory again.

# Order

Sorting is by mount point alone. That rows of one mount point keep their order
is the stability of the sort, which is used in one form only: at one mount
point, the sorted rows are the rows before (`filter_mergeSort`).
-/
import HostTelemetry.Host.Disk
import Mathlib.Data.List.Nodup

namespace HostTelemetry.Host

-- ========================================================= specification

/-- The mount in place `i` is of a file system of its own on a device. -/
structure IsCandidate (mounts : List Disk) (d : Disk) (i : Nat) : Prop where
  place : mounts[i]? = some d
  real : d.fsType ∉ pseudoFileSystems
  device : ∃ path, d.device.toList = '/' :: path

/-- The mount in place `i` is to be reported: it is the first candidate of its
device, and it is not small. -/
structure IsReported (mounts : List Disk) (d : Disk) (i : Nat) : Prop
    extends IsCandidate mounts d i where
  first : ∀ e j, IsCandidate mounts e j → e.device = d.device → i ≤ j
  large : minDiskBytes ≤ d.total

/-- Rows stand in the order of mount points, and at one mount point in the order
of the list. -/
def Precedes (a b : Disk × Nat) : Prop :=
  a.1.mountPoint < b.1.mountPoint ∨ a.1.mountPoint = b.1.mountPoint ∧ a.2 < b.2

theorem onDevice_iff (d : Disk) :
    d.onDevice = true ↔ d.fsType ∉ pseudoFileSystems ∧ ∃ path, d.device.toList = '/' :: path := by
  have hhead : d.device.toList.head? = some '/' ↔ ∃ path, d.device.toList = '/' :: path := by
    rw [List.head?_eq_some_iff]
  simp [Disk.onDevice, hhead]

-- ================================================================ stages

variable {mounts : List Disk} {rows : List (Disk × Nat)} {d : Disk} {i : Nat}

theorem pairwise_zipIdx (mounts : List Disk) (n : Nat) :
    (mounts.zipIdx n).Pairwise fun a b => a.2 < b.2 := by
  induction mounts generalizing n with
  | nil => exact List.Pairwise.nil
  | cons a r ih =>
    rw [List.zipIdx_cons, List.pairwise_cons]
    refine ⟨fun b hb => ?_, ih (n + 1)⟩
    have hle : n + 1 ≤ b.2 := (List.mem_zipIdx hb).1
    show n < b.2
    omega

/-- The row is the first of its device, which is none of those seen before. -/
def IsFirst (seen : List String) (rows : List (Disk × Nat)) (a : Disk × Nat) : Prop :=
  a ∈ rows ∧ a.1.device ∉ seen ∧ ∀ b ∈ rows, b.1.device = a.1.device → a.2 ≤ b.2

/-- A row of a device that was seen makes no difference to the rows behind it. -/
theorem isFirst_cons_of_seen {seen : List String} {a b : Disk × Nat} (h : a.1.device ∈ seen) :
    IsFirst seen (a :: rows) b ↔ IsFirst seen rows b := by
  constructor
  · rintro ⟨hb, hnew, hfirst⟩
    refine ⟨?_, hnew, fun c hc => hfirst c (List.mem_cons_of_mem a hc)⟩
    rcases List.mem_cons.mp hb with rfl | hb
    · exact absurd h hnew
    · exact hb
  · rintro ⟨hb, hnew, hfirst⟩
    refine ⟨List.mem_cons_of_mem a hb, hnew, fun c hc hsame => ?_⟩
    rcases List.mem_cons.mp hc with rfl | hc
    · exact absurd (hsame ▸ h) hnew
    · exact hfirst c hc hsame

/-- A row of a new device is the first, and the rows behind it are of devices
other than that. -/
theorem isFirst_cons_of_new {seen : List String} {a b : Disk × Nat} (h : a.1.device ∉ seen)
    (hlater : ∀ c ∈ rows, a.2 < c.2) :
    IsFirst seen (a :: rows) b ↔ b = a ∨ IsFirst (a.1.device :: seen) rows b := by
  constructor
  · rintro ⟨hb, hnew, hfirst⟩
    rcases List.mem_cons.mp hb with rfl | hb
    · exact .inl rfl
    · refine .inr ⟨hb, fun hmem => ?_, fun c hc => hfirst c (List.mem_cons_of_mem a hc)⟩
      rcases List.mem_cons.mp hmem with hsame | hmem
      · have hle := hfirst a List.mem_cons_self hsame.symm
        have hlt := hlater b hb
        omega
      · exact hnew hmem
  · rintro (rfl | ⟨hb, hnew, hfirst⟩)
    · refine ⟨List.mem_cons_self, h, fun c hc _ => ?_⟩
      rcases List.mem_cons.mp hc with rfl | hc
      · exact Nat.le_refl _
      · exact Nat.le_of_lt (hlater c hc)
    · obtain ⟨hother, hnew⟩ := not_or.mp (mt List.mem_cons.mpr hnew)
      refine ⟨List.mem_cons_of_mem a hb, hnew, fun c hc hsame => ?_⟩
      rcases List.mem_cons.mp hc with rfl | hc
      · exact absurd hsame.symm hother
      · exact hfirst c hc hsame

/-- What the first stage keeps are the first rows of devices. -/
theorem exists_firstRows (seen : List String) (h : rows.Pairwise fun a b => a.2 < b.2) :
    ∃ kept : List (Disk × Nat), kept.Sublist rows ∧
      firstMounts seen (rows.map (·.1)) = kept.map (·.1) ∧
      ∀ a, a ∈ kept ↔ IsFirst seen rows a := by
  induction rows generalizing seen with
  | nil => exact ⟨[], List.Sublist.refl _, rfl, by simp [IsFirst]⟩
  | cons a r ih =>
    obtain ⟨hlater, hr⟩ := List.pairwise_cons.mp h
    rw [List.map_cons, firstMounts]
    by_cases hseen : a.1.device ∈ seen
    · obtain ⟨kept, hsub, hkept, hmem⟩ := ih seen hr
      refine ⟨kept, hsub.trans (List.sublist_cons_self a r), ?_, fun b => ?_⟩
      · rw [if_pos (List.contains_iff_mem.mpr hseen), hkept]
      · rw [hmem, isFirst_cons_of_seen hseen]
    · obtain ⟨kept, hsub, hkept, hmem⟩ := ih (a.1.device :: seen) hr
      refine ⟨a :: kept, hsub.cons_cons a, ?_, fun b => ?_⟩
      · rw [if_neg (mt List.contains_iff_mem.mp hseen), hkept, List.map_cons]
      · rw [List.mem_cons, hmem, isFirst_cons_of_new hseen hlater]

theorem mem_zipIdx_filter :
    (d, i) ∈ mounts.zipIdx.filter (·.1.onDevice) ↔ IsCandidate mounts d i := by
  rw [List.mem_filter, List.mk_mem_zipIdx_iff_getElem?, onDevice_iff]
  constructor
  · rintro ⟨hplace, hreal, hdevice⟩
    exact ⟨hplace, hreal, hdevice⟩
  · rintro ⟨hplace, hreal, hdevice⟩
    exact ⟨hplace, hreal, hdevice⟩

/-- What both stages keep, before it is sorted. -/
def keptMounts (mounts : List Disk) : List Disk :=
  (firstMounts [] (mounts.filter Disk.onDevice)).filter (minDiskBytes ≤ ·.total)

/-- The two stages keep the rows that are to be reported, in their order. -/
theorem exists_keptRows (mounts : List Disk) :
    ∃ rows : List (Disk × Nat), keptMounts mounts = rows.map (·.1) ∧
      (rows.Pairwise fun a b => a.2 < b.2) ∧ ∀ d i, (d, i) ∈ rows ↔ IsReported mounts d i := by
  have hascending := (pairwise_zipIdx mounts 0).filter (·.1.onDevice)
  obtain ⟨kept, hsub, hkept, hmem⟩ := exists_firstRows [] hascending
  have hmounts : (mounts.zipIdx.filter (·.1.onDevice)).map (·.1) = mounts.filter Disk.onDevice := by
    have hfilter := List.filter_map (f := Prod.fst) (l := mounts.zipIdx) (p := Disk.onDevice)
    rw [List.zipIdx_map_fst] at hfilter
    exact hfilter.symm
  rw [hmounts] at hkept
  refine ⟨kept.filter (minDiskBytes ≤ ·.1.total), ?_, ?_, fun d i => ?_⟩
  · rw [keptMounts, hkept, List.filter_map]
    rfl
  · exact (hascending.sublist hsub).filter _
  · rw [List.mem_filter, hmem, decide_eq_true_iff, IsFirst, mem_zipIdx_filter]
    constructor
    · rintro ⟨⟨hcandidate, -, hfirst⟩, hlarge⟩
      exact ⟨hcandidate, fun e j he => hfirst (e, j) (mem_zipIdx_filter.mpr he), hlarge⟩
    · rintro ⟨hcandidate, hfirst, hlarge⟩
      exact ⟨⟨hcandidate, List.not_mem_nil, fun b hb => hfirst b.1 b.2 (mem_zipIdx_filter.mp hb)⟩,
        hlarge⟩

-- =============================================================== sorting

/-- Whether a row may stand before another. -/
def mayPrecede (a b : Disk × Nat) : Bool := a.1.mountPoint ≤ b.1.mountPoint

theorem mayPrecede_trans (a b c : Disk × Nat) (hab : mayPrecede a b = true)
    (hbc : mayPrecede b c = true) : mayPrecede a c = true :=
  decide_eq_true (String.le_trans (of_decide_eq_true hab) (of_decide_eq_true hbc))

theorem mayPrecede_total (a b : Disk × Nat) : (mayPrecede a b || mayPrecede b a) = true := by
  rw [Bool.or_eq_true]
  exact (String.le_total a.1.mountPoint b.1.mountPoint).imp decide_eq_true decide_eq_true

theorem mergeSort_perm (rows : List (Disk × Nat)) : (rows.mergeSort mayPrecede).Perm rows :=
  List.mergeSort_perm rows mayPrecede

/-- At one mount point, the rows keep their order. -/
theorem filter_mergeSort (rows : List (Disk × Nat)) (point : String) :
    (rows.mergeSort mayPrecede).filter (·.1.mountPoint = point)
      = rows.filter (·.1.mountPoint = point) := by
  have hsame : (rows.filter (·.1.mountPoint = point)).Pairwise
      fun a b => mayPrecede a b = true := by
    refine List.pairwise_iff_forall_sublist.mpr fun {a b} hab => decide_eq_true ?_
    have ha : a.1.mountPoint = point := by
      simpa using (List.mem_filter.mp (hab.subset (List.mem_cons_self ..))).2
    have hb : b.1.mountPoint = point := by
      simpa using (List.mem_filter.mp (hab.subset (by simp))).2
    have hpoint : a.1.mountPoint = b.1.mountPoint := ha.trans hb.symm
    exact hpoint ▸ String.le_refl a.1.mountPoint
  have hsub : (rows.filter (·.1.mountPoint = point)).Sublist (rows.mergeSort mayPrecede) :=
    List.sublist_mergeSort mayPrecede_trans mayPrecede_total hsame List.filter_sublist
  have hfilter := hsub.filter (·.1.mountPoint = point)
  simp only [List.filter_filter, Bool.and_self] at hfilter
  exact (hfilter.eq_of_length ((mergeSort_perm rows).filter _).length_eq.symm).symm

/-- Rows in the order of the list are sorted to rows in their order of precedence. -/
theorem pairwise_precedes (h : rows.Pairwise fun a b => a.2 < b.2) :
    (rows.mergeSort mayPrecede).Pairwise Precedes := by
  have hsorted := List.pairwise_mergeSort mayPrecede_trans mayPrecede_total rows
  refine List.pairwise_iff_forall_sublist.mpr fun {a b} hab => ?_
  have hle : a.1.mountPoint ≤ b.1.mountPoint :=
    of_decide_eq_true (List.pairwise_iff_forall_sublist.mp hsorted hab)
  by_cases hsame : b.1.mountPoint = a.1.mountPoint
  · -- Then both are among the rows of that mount point, in this order.
    have hpair : [a, b].Sublist (rows.filter (·.1.mountPoint = a.1.mountPoint)) := by
      have hfilter := hab.filter (·.1.mountPoint = a.1.mountPoint)
      rw [filter_mergeSort] at hfilter
      simpa [hsame] using hfilter
    exact .inr ⟨hsame.symm, List.pairwise_iff_forall_sublist.mp (h.filter _) hpair⟩
  · refine .inl (String.not_le.mp fun hge => ?_)
    exact hsame (String.le_antisymm hge hle)

theorem not_precedes_self (a : Disk × Nat) : ¬ Precedes a a := by
  rintro (hlt | ⟨-, hlt⟩)
  · exact String.lt_irrefl _ hlt
  · exact Nat.lt_irrefl _ hlt

-- ============================================================= selection

/-- The rows that are to be reported, in the order in which they are. -/
theorem exists_selectedRows (mounts : List Disk) :
    ∃ rows : List (Disk × Nat), selectDisks mounts = rows.map (·.1) ∧ rows.Pairwise Precedes ∧
      ∀ d i, (d, i) ∈ rows ↔ IsReported mounts d i := by
  obtain ⟨rows, hrows, hascending, hmem⟩ := exists_keptRows mounts
  refine ⟨rows.mergeSort mayPrecede, ?_, pairwise_precedes hascending, fun d i => ?_⟩
  · have hmap := List.map_mergeSort (r := mayPrecede) (f := Prod.fst) (l := rows)
      (s := fun a b : Disk => decide (a.mountPoint ≤ b.mountPoint)) fun _ _ _ _ => rfl
    rw [hmap, ← hrows]
    rfl
  · rw [(mergeSort_perm rows).mem_iff, hmem]

/-- Two reported rows of one device are the same row. -/
theorem IsReported.eq_of_device {e : Disk} {j : Nat} (h : IsReported mounts d i)
    (h' : IsReported mounts e j) (hsame : d.device = e.device) : (d, i) = (e, j) := by
  have hle := h.first e j h'.toIsCandidate hsame.symm
  have hge := h'.first d i h.toIsCandidate hsame
  obtain rfl : i = j := Nat.le_antisymm hle hge
  have hplace : some d = some e := h.place.symm.trans h'.place
  rw [Option.some.inj hplace]

theorem pairwise_device_selectDisks (mounts : List Disk) :
    (selectDisks mounts).Pairwise fun a b => a.device ≠ b.device := by
  obtain ⟨rows, hrows, hprecedes, hmem⟩ := exists_selectedRows mounts
  rw [hrows, List.pairwise_map]
  refine hprecedes.imp_of_mem fun {a b} ha hb hab hsame => ?_
  have heq : a = b := ((hmem a.1 a.2).mp ha).eq_of_device ((hmem b.1 b.2).mp hb) hsame
  exact not_precedes_self b (heq ▸ hab)

/-- Where no device comes twice, the first stage keeps every mount. -/
theorem firstMounts_of_pairwise {seen : List String}
    (h : mounts.Pairwise fun a b => a.device ≠ b.device) (hnew : ∀ d ∈ mounts, d.device ∉ seen) :
    firstMounts seen mounts = mounts := by
  induction mounts generalizing seen with
  | nil => rfl
  | cons a r ih =>
    obtain ⟨hother, hr⟩ := List.pairwise_cons.mp h
    obtain ⟨ha, hnew⟩ := List.forall_mem_cons.mp hnew
    have hrest : ∀ d ∈ r, d.device ∉ a.device :: seen := by
      intro d hd hmem
      rcases List.mem_cons.mp hmem with hsame | hmem
      · exact hother d hd hsame.symm
      · exact hnew d hd hmem
    rw [firstMounts, if_neg (mt List.contains_iff_mem.mp ha), ih hr hrest]

/-- What is selected is not selected from any further. -/
theorem selectDisks_selectDisks (mounts : List Disk) :
    selectDisks (selectDisks mounts) = selectDisks mounts := by
  obtain ⟨rows, hrows, hprecedes, hmem⟩ := exists_selectedRows mounts
  have hall : ∀ d ∈ selectDisks mounts, d.onDevice = true ∧ minDiskBytes ≤ d.total := by
    intro d hd
    rw [hrows] at hd
    obtain ⟨a, ha, rfl⟩ := List.mem_map.mp hd
    have hreported := (hmem a.1 a.2).mp ha
    exact ⟨(onDevice_iff a.1).mpr ⟨hreported.real, hreported.device⟩, hreported.large⟩
  have hdevices : (selectDisks mounts).filter Disk.onDevice = selectDisks mounts :=
    List.filter_eq_self.mpr fun d hd => (hall d hd).1
  have hlarge : (selectDisks mounts).filter (minDiskBytes ≤ ·.total) = selectDisks mounts :=
    List.filter_eq_self.mpr fun d hd => decide_eq_true (hall d hd).2
  have hsorted : (selectDisks mounts).Pairwise
      fun a b => decide (a.mountPoint ≤ b.mountPoint) = true := by
    rw [hrows, List.pairwise_map]
    refine hprecedes.imp fun {a b} hab => decide_eq_true ?_
    rcases hab with hlt | ⟨heq, -⟩
    · exact (String.le_total _ _).resolve_right (String.not_le.mpr hlt)
    · exact heq ▸ String.le_refl _
  have hkept : keptMounts (selectDisks mounts) = selectDisks mounts := by
    rw [keptMounts, hdevices, firstMounts_of_pairwise (pairwise_device_selectDisks mounts)
      (fun _ _ => List.not_mem_nil), hlarge]
  calc selectDisks (selectDisks mounts)
      = (keptMounts (selectDisks mounts)).mergeSort fun a b => a.mountPoint ≤ b.mountPoint := rfl
    _ = selectDisks mounts := by rw [hkept, List.mergeSort_of_pairwise hsorted]

/-- Of the mounts those are reported that are the first candidate of their
device and not small, each once, by mount point and then in the order of the
list; and what is reported would be reported unchanged. -/
theorem disks_are_selected_once (mounts : List Disk) :
    (∃ rows : List (Disk × Nat), selectDisks mounts = rows.map (·.1) ∧ rows.Pairwise Precedes ∧
      ∀ d i, (d, i) ∈ rows ↔ IsReported mounts d i) ∧
    ((selectDisks mounts).Pairwise fun a b => a.device ≠ b.device) ∧
    selectDisks (selectDisks mounts) = selectDisks mounts :=
  ⟨exists_selectedRows mounts, pairwise_device_selectDisks mounts, selectDisks_selectDisks mounts⟩

end HostTelemetry.Host
