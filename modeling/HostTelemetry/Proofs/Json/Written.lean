/-
Reading back what was written: scalars, lists, dictionaries, free-form values,
and the fields of records.

# Records

A record gives each of its names a value, or leaves it out (`written`). Since no
name comes twice, reading finds for each name just that (`slots?_written`), and
nothing under a name that was left out (`field?_written_eq_none_iff`). What may
be left out comes back if the value that its absence stands for is the value it
is left out for (`orElse?_slot`).

# Free-form values

A free-form value is taken over as it is if there is nothing to be put in
order, in it or in any part of it. `Free` says so by recursion over the value;
the induction over fields carries along those already in their places, all of
which stand before those to come (`settledFields_of_free`).
-/
import HostTelemetry.Json.Decode

namespace HostTelemetry

theorem Dict.place_of_lt {κ α : Type} [Key κ] {key : κ} (a : α) {l : List (κ × α)}
    (h : ∀ e ∈ l, e.1 < key) : Dict.place key a l = l ++ [(key, a)] := by
  induction l with
  | nil => rfl
  | cons e r ih =>
    obtain ⟨hfirst, hrest⟩ := List.forall_mem_cons.mp h
    have hnot : ¬ key < e.1 := fun hlt => Key.irrefl _ (Key.trans hlt hfirst)
    have hne : key ≠ e.1 := fun heq => Key.irrefl _ (heq ▸ hfirst)
    rw [Dict.place, if_neg hnot, if_neg hne, ih hrest]
    rfl

/-- A dictionary is made of its entries. -/
theorem Dict.ofList_entries {κ α : Type} [Key κ] (d : Dict κ α) : Dict.ofList d.entries = d := by
  refine Dict.ext_get? fun key => ?_
  have hunion : Dict.ofList d.entries = (∅ : Dict κ α).union d := rfl
  rw [hunion, Dict.get?_union, Dict.get?_empty, Option.or_none]

namespace Json

variable {α : Type}

/-- What is written of any good value reads as that value again, and different
values are written differently. -/
def Lossless (good : α → Prop) (write : α → Json) (read? : Json → Option α) : Prop :=
  (∀ a, good a → read? (write a) = some a) ∧
    ∀ a b, good a → good b → write a = write b → a = b

/-- What can be read again is written for no other value. -/
theorem lossless_of_reads {good : α → Prop} {write : α → Json} {read? : Json → Option α}
    (h : ∀ a, good a → read? (write a) = some a) : Lossless good write read? := by
  refine ⟨h, fun a b ha hb heq => ?_⟩
  have hsame : some a = some b := by rw [← h a ha, ← h b hb, heq]
  exact Option.some.inj hsame

-- ============================================================== scalars

@[simp] theorem asString?_str (s : String) : asString? (.str s) = some s := rfl

@[simp] theorem asBool?_bool (b : Bool) : asBool? (.bool b) = some b := rfl

@[simp] theorem asFloat?_ofFloat {x : Float} (h : x.isFinite = true) :
    asFloat? (ofFloat x) = some x := by
  rw [ofFloat, if_pos h]
  rfl

theorem asNat?_int {max n : Nat} (h : n ≤ max) : asNat? max (.int n) = some n := by
  rw [asNat?, if_pos ⟨Int.natCast_nonneg n, Int.ofNat_le.mpr h⟩, Int.toNat_natCast]

@[simp] theorem asUInt64?_ofUInt64 (n : UInt64) : asUInt64? (ofUInt64 n) = some n := by
  have hmax : n.toNat ≤ Text.maxU64 := Nat.le_of_lt_succ n.toNat_lt
  rw [asUInt64?, ofUInt64, asNat?_int hmax, Option.map_some, UInt64.ofNat_toNat]

@[simp] theorem asUInt16?_ofUInt16 (n : UInt16) : asUInt16? (ofUInt16 n) = some n := by
  have hmax : n.toNat ≤ Text.maxU16 := Nat.le_of_lt_succ n.toNat_lt
  rw [asUInt16?, ofUInt16, asNat?_int hmax, Option.map_some, UInt16.ofNat_toNat]

@[simp] theorem asInt64?_int (n : Int64) : asInt64? (.int n.toInt) = some n := by
  have hbounds : Text.minI64 ≤ n.toInt ∧ n.toInt ≤ Text.maxI64 :=
    ⟨n.le_toInt, Int.le_of_lt_add_one n.toInt_lt⟩
  rw [asInt64?, asInt?, if_pos hbounds, Option.map_some, Int64.ofInt_toInt]

@[simp] theorem asInt32?_int (n : Int32) : asInt32? (.int n.toInt) = some n := by
  have hbounds : Text.minI32 ≤ n.toInt ∧ n.toInt ≤ Text.maxI32 :=
    ⟨n.le_toInt, Int.le_of_lt_add_one n.toInt_lt⟩
  rw [asInt32?, asInt?, if_pos hbounds, Option.map_some, Int32.ofInt_toInt]

-- ========================================================== collections

theorem asList?_map {write : α → Json} {read? : Json → Option α} {l : List α}
    (h : ∀ a ∈ l, read? (write a) = some a) : asList? read? (.arr (l.map write)) = some l := by
  show (l.map write).mapM read? = some l
  induction l with
  | nil => rfl
  | cons a r ih =>
    obtain ⟨ha, hr⟩ := List.forall_mem_cons.mp h
    rw [List.map_cons, List.mapM_cons, ha, ih hr]
    rfl

theorem asDict?_map {write : α → Json} {read? : Json → Option α}
    (h : ∀ a, read? (write a) = some a) (d : Dict String α) :
    asDict? read? (.obj (d.entries.map fun (k, a) => (k, write a))) = some d := by
  have hentries : ∀ l : List (String × α), (l.map fun (k, a) => (k, write a)).mapM
      (fun (f : String × Json) => (read? f.2).map fun a => (f.1, a)) = some l := by
    intro l
    induction l with
    | nil => rfl
    | cons e r ih =>
      rw [List.map_cons, List.mapM_cons, h, ih]
      rfl
  rw [asDict?, hentries, Option.map_some, Dict.ofList_entries]

theorem asOption?_of_reads {read? : Json → Option α} {j : Json} {a : α} (h : read? j = some a)
    (hj : j ≠ .null) : asOption? read? j = some (some a) := by
  unfold asOption?
  split
  · exact absurd rfl hj
  · rw [h, Option.map_some]

-- ============================================================== records

/-- The fields of a record that are not left out. -/
def written (names : List String) (values : List (Option Json)) : List (String × Json) :=
  (names.zip values).filterMap fun (name, value) => value.map fun j => (name, j)

/-- What stands for a field that is left out when it holds one value. -/
def slot [DecidableEq α] (absent : α) (write : α → Json) (a : α) : Option Json :=
  if a = absent then none else some (write a)

section Written

variable {n : String} {names : List String} {j : Json} {values : List (Option Json)}

@[simp] theorem written_nil : written [] values = [] := rfl

@[simp] theorem written_cons_some :
    written (n :: names) (some j :: values) = (n, j) :: written names values := rfl

@[simp] theorem written_cons_slot [DecidableEq α] (absent : α) (write : α → Json) (a : α) :
    written (n :: names) (slot absent write a :: values)
      = optionally absent n write a ++ written names values := by
  unfold slot optionally
  split <;> rfl

@[simp] theorem written_cons_map (write : α → Json) (o : Option α) :
    written (n :: names) (o.map write :: values)
      = (o.map fun a => (n, write a)).toList ++ written names values := by
  cases o <;> rfl

theorem mem_names_of_mem_written {f : String × Json} (h : f ∈ written names values) :
    f.1 ∈ names := by
  obtain ⟨⟨name, value⟩, hmem, hf⟩ := List.mem_filterMap.mp h
  obtain ⟨j, -, rfl⟩ := Option.map_eq_some_iff.mp hf
  exact (List.of_mem_zip hmem).1

/-- A name has the value that was given to it, or none. -/
theorem filter_written (hnames : names.Nodup) {value : Option Json}
    (h : (n, value) ∈ names.zip values) :
    (written names values).filter (·.1 == n) = (value.map fun j => (n, j)).toList := by
  have hnone : ∀ {m : String} {names : List String} {values : List (Option Json)}, m ∉ names →
      (written names values).filter (·.1 == m) = [] := by
    intro m names values hm
    refine List.filter_eq_nil_iff.mpr fun f hf heq => hm ?_
    exact eq_of_beq heq ▸ mem_names_of_mem_written hf
  induction names generalizing values with
  | nil => exact absurd h List.not_mem_nil
  | cons m names ih =>
    obtain ⟨hm, hrest⟩ := List.nodup_cons.mp hnames
    cases values with
    | nil => exact absurd h List.not_mem_nil
    | cons v values =>
      have hcons : written (m :: names) (v :: values)
          = (v.map fun j => (m, j)).toList ++ written names values := by cases v <;> rfl
      rw [hcons, List.filter_append]
      rcases List.mem_cons.mp h with heq | h
      · obtain ⟨rfl, rfl⟩ := Prod.mk.inj heq
        rw [hnone hm, List.append_nil]
        cases value <;> simp
      · have hne : m ≠ n := fun heq => hm (heq ▸ (List.of_mem_zip h).1)
        rw [ih hrest h]
        cases v <;> simp [hne]

/-- What is read of a record is what was written of it. -/
theorem slots?_written (hnames : names.Nodup) (hlength : names.length = values.length) :
    slots? names (.obj (written names values)) = some values := by
  have hfound : ∀ e ∈ names.zip values,
      ((written names values).filter (·.1 == e.1)).length ≤ 1 ∧
        ((written names values).find? (·.1 == e.1)).map (·.2) = e.2 := by
    rintro ⟨n, value⟩ h
    rw [← List.head?_filter, filter_written hnames h]
    cases value <;> simp
  have hfst : (names.zip values).map (·.1) = names := List.map_fst_zip (Nat.le_of_eq hlength)
  have hsnd : (names.zip values).map (·.2) = values :=
    List.map_snd_zip (Nat.le_of_eq hlength.symm)
  have honce : (names.all fun n => ((written names values).filter (·.1 == n)).length ≤ 1)
      = true := by
    refine List.all_eq_true.mpr fun n hn => decide_eq_true ?_
    rw [← hfst] at hn
    obtain ⟨e, he, rfl⟩ := List.mem_map.mp hn
    exact (hfound e he).1
  have hvalues : (names.map fun n => ((written names values).find? (·.1 == n)).map (·.2))
      = values :=
    calc names.map (fun n => ((written names values).find? (·.1 == n)).map (·.2))
      _ = ((names.zip values).map (·.1)).map (fun n =>
            ((written names values).find? (·.1 == n)).map (·.2)) := by rw [hfst]
      _ = (names.zip values).map (fun e =>
            ((written names values).find? (·.1 == e.1)).map (·.2)) := List.map_map
      _ = (names.zip values).map (·.2) := List.map_congr_left fun e he => (hfound e he).2
      _ = values := hsnd
  rw [slots?, if_pos honce, hvalues]

theorem bind_slots?_written (hnames : names.Nodup) (hlength : names.length = values.length)
    (f : List (Option Json) → Option α) :
    (slots? names (.obj (written names values)) >>= f) = f values := by
  rw [slots?_written hnames hlength]
  rfl

/-- A name has a value exactly if it is not left out. -/
theorem field?_written_eq_none_iff (hnames : names.Nodup) (i : Nat) {value : Option Json}
    (hn : names[i]? = some n) (hvalue : values[i]? = some value) :
    field? n (.obj (written names values)) = none ↔ value = none := by
  have hmem : (n, value) ∈ names.zip values :=
    List.mem_of_getElem? (List.getElem?_zip_eq_some.mpr ⟨hn, hvalue⟩)
  rw [field?, ← List.head?_filter, List.filter_reverse, filter_written hnames hmem]
  cases value <;> simp

end Written

theorem slot_eq_none_iff [DecidableEq α] {absent a : α} {write : α → Json} :
    slot absent write a = none ↔ a = absent := by
  simp [slot]

@[simp] theorem required?_some (read? : Json → Option α) (j : Json) :
    required? read? (some j) = read? j := rfl

@[simp] theorem orElse?_some (absent : α) (read? : Json → Option α) (j : Json) :
    orElse? absent read? (some j) = read? j := rfl

theorem orElse?_slot [DecidableEq α] (absent : α) {write : α → Json} {read? : Json → Option α}
    {a : α} (h : read? (write a) = some a) :
    orElse? absent read? (slot absent write a) = some a := by
  by_cases ha : a = absent
  · rw [slot, if_pos ha, ha]
    rfl
  · rw [slot, if_neg ha]
    exact h

theorem orElse?_map {write : α → Json} {read? : Json → Option α} {o : Option α}
    (h : ∀ a ∈ o, read? (write a) = some a ∧ write a ≠ .null) :
    orElse? none (asOption? read?) (o.map write) = some o := by
  cases o with
  | none => rfl
  | some a =>
    obtain ⟨hread, hnull⟩ := h a rfl
    exact asOption?_of_reads hread hnull

-- ===================================================== free-form values

mutual

/-- A value that is in order: every part can be read, and the fields of each
object stand in ascending order, no name twice. -/
def Free : Json → Prop
  | arr items => FreeItems items
  | obj fields => FreeFields fields
  | unreadable => False
  | _ => True

/-- Items that are in order. -/
def FreeItems : List Json → Prop
  | [] => True
  | j :: r => Free j ∧ FreeItems r

/-- Fields that are in order. -/
def FreeFields : List (String × Json) → Prop
  | [] => True
  | (name, j) :: r => (∀ f ∈ r, name < f.1) ∧ Free j ∧ FreeFields r

end

mutual

theorem sound_of_free : ∀ {j : Json}, Free j → sound j = true
  | null, _ | bool _, _ | int _, _ | float _, _ | str _, _ => rfl
  | arr _, h => soundItems_of_free h
  | obj _, h => soundFields_of_free h

theorem soundItems_of_free : ∀ {items : List Json}, FreeItems items → soundItems items = true
  | [], _ => rfl
  | _ :: _, ⟨hj, hr⟩ => Bool.and_eq_true_iff.mpr ⟨sound_of_free hj, soundItems_of_free hr⟩

theorem soundFields_of_free :
    ∀ {fields : List (String × Json)}, FreeFields fields → soundFields fields = true
  | [], _ => rfl
  | _ :: _, ⟨_, hj, hr⟩ => Bool.and_eq_true_iff.mpr ⟨sound_of_free hj, soundFields_of_free hr⟩

end

mutual

/-- What is in order is left as it is. -/
theorem settled_of_free : ∀ {j : Json}, Free j → settled j = j
  | null, _ | bool _, _ | int _, _ | float _, _ | str _, _ => rfl
  | arr _, h => congrArg arr (settledItems_of_free h)
  | obj _, h => congrArg obj (settledFields_of_free h fun _ hd => absurd hd List.not_mem_nil)

theorem settledItems_of_free : ∀ {items : List Json}, FreeItems items → settledItems items = items
  | [], _ => rfl
  | _ :: _, ⟨hj, hr⟩ => by rw [settledItems, settled_of_free hj, settledItems_of_free hr]

theorem settledFields_of_free : ∀ {fields done : List (String × Json)}, FreeFields fields →
    (∀ d ∈ done, ∀ f ∈ fields, d.1 < f.1) → settledFields done fields = done ++ fields
  | [], done, _, _ => (List.append_nil done).symm
  | (name, j) :: r, done, ⟨hname, hj, hr⟩, hdone => by
    have hplaced : Dict.place name j done = done ++ [(name, j)] :=
      Dict.place_of_lt j fun d hd => hdone d hd _ List.mem_cons_self
    have hbefore : ∀ d ∈ done ++ [(name, j)], ∀ f ∈ r, d.1 < f.1 := by
      intro d hd f hf
      rcases List.mem_append.mp hd with hd | hd
      · exact hdone d hd f (List.mem_cons_of_mem _ hf)
      · obtain rfl := List.mem_singleton.mp hd
        exact hname f hf
    rw [settledFields, settled_of_free hj, hplaced, settledFields_of_free hr hbefore,
      List.append_assoc]
    rfl

end

theorem freeFields?_obj {fields : List (String × Json)} (h : FreeFields fields) :
    freeFields? (.obj fields) = some fields := by
  rw [freeFields?, if_pos (soundFields_of_free h),
    settledFields_of_free h fun _ hd => absurd hd List.not_mem_nil]
  rfl

end Json

end HostTelemetry
