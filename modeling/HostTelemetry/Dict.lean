/-
Values by key, kept in ascending order of the keys: one list for each
content, whatever the order in which the values came. Keys are texts or
numbers.

Seen through `get?`, `insert` changes one key and leaves the others, and
two dictionaries with the same look-ups are equal.
-/

namespace HostTelemetry

-- ================================================================= keys

/-- What can be a key: a strict order that compares any two. -/
class Key (κ : Type) extends LT κ where
  decLt (a b : κ) : Decidable (a < b)
  decEq (a b : κ) : Decidable (a = b)
  /-- Nothing stands before itself. -/
  irrefl (a : κ) : ¬ a < a
  /-- What stands before stands before all that follows. -/
  trans {a b c : κ} : a < b → b < c → a < c
  /-- Of two keys one stands before the other. -/
  total {a b : κ} : ¬ a < b → a ≠ b → b < a

attribute [reducible, instance] Key.decLt Key.decEq

instance : Key String where
  decLt := inferInstance
  decEq := inferInstance
  irrefl := String.lt_irrefl
  trans := String.lt_trans
  total h h' := Std.lt_of_le_of_ne (Std.not_lt.1 h) (Ne.symm h')

instance : Key Int where
  decLt := inferInstance
  decEq := inferInstance
  irrefl := Int.lt_irrefl
  trans := Int.lt_trans
  total h h' := by omega

instance : Key Nat where
  decLt := inferInstance
  decEq := inferInstance
  irrefl := Nat.lt_irrefl
  trans := Nat.lt_trans
  total h h' := by omega

/-- Values by key. -/
structure Dict (κ : Type) [Key κ] (α : Type) where
  /-- The entries, in ascending order of their keys. -/
  entries : List (κ × α)
  /-- Each key stands before all later ones. -/
  ascending : entries.Pairwise fun a b => a.1 < b.1
deriving DecidableEq, Repr

namespace Dict

variable {κ : Type} [Key κ] {α : Type}

-- ======================================================== lists of entries

/-- Puts an entry into its place among entries in ascending order; an entry
of the same key is replaced. -/
def place (key : κ) (a : α) : List (κ × α) → List (κ × α)
  | [] => [(key, a)]
  | (n, b) :: r =>
    if key < n then (key, a) :: (n, b) :: r
    else if key = n then (key, a) :: r
    else (n, b) :: place key a r

/-- The value of the first entry with the key. -/
def find? (key : κ) : List (κ × α) → Option α
  | [] => none
  | (n, a) :: r => if n = key then some a else find? key r

theorem key_of_mem_place {key : κ} {a : α} {l : List (κ × α)}
    {e : κ × α} (h : e ∈ place key a l) : e.1 = key ∨ e ∈ l := by
  induction l with
  | nil => simp_all [place]
  | cons x r ih =>
    obtain ⟨n, b⟩ := x
    simp only [place] at h
    split at h
    · simp only [List.mem_cons] at h ⊢
      rcases h with rfl | h
      · exact .inl rfl
      · exact .inr h
    · split at h
      · simp only [List.mem_cons] at h ⊢
        rcases h with rfl | h
        · exact .inl rfl
        · exact .inr (.inr h)
      · simp only [List.mem_cons] at h ⊢
        rcases h with rfl | h
        · exact .inr (.inl rfl)
        · rcases ih h with h | h
          · exact .inl h
          · exact .inr (.inr h)

theorem ascending_place (key : κ) (a : α) {l : List (κ × α)}
    (h : l.Pairwise fun a b => a.1 < b.1) :
    (place key a l).Pairwise fun a b => a.1 < b.1 := by
  induction l with
  | nil => simp [place]
  | cons x r ih =>
    obtain ⟨n, b⟩ := x
    obtain ⟨hn, hr⟩ := List.pairwise_cons.1 h
    simp only [place]
    split
    · rename_i lt
      refine List.pairwise_cons.2 ⟨fun e he => ?_, h⟩
      rcases List.mem_cons.1 he with rfl | he
      · exact lt
      · exact Key.trans lt (hn e he)
    · split
      · rename_i eq
        subst eq
        exact List.pairwise_cons.2 ⟨hn, hr⟩
      · rename_i nlt ne
        refine List.pairwise_cons.2 ⟨fun e he => ?_, ih hr⟩
        rcases key_of_mem_place he with eq | he
        · simpa [eq] using Key.total nlt ne
        · exact hn e he

theorem find?_place (key other : κ) (a : α) (l : List (κ × α)) :
    find? other (place key a l) = if other = key then some a else find? other l := by
  induction l with
  | nil => simp [place, find?, eq_comm]
  | cons x r ih =>
    obtain ⟨n, b⟩ := x
    simp only [place]
    split
    · simp only [find?, eq_comm]
    · split
      · rename_i eq
        subst eq
        simp only [find?, eq_comm]
        split <;> simp_all
      · rename_i ne
        simp only [find?, ih]
        by_cases h : n = other
        · subst h
          simp [Ne.symm ne]
        · simp [h]

/-- In ascending order no key comes twice. -/
theorem nodup_of_ascending {l : List (κ × α)} (h : l.Pairwise fun a b => a.1 < b.1) :
    (l.map (·.1)).Nodup := by
  refine List.pairwise_map.2 (h.imp fun {a b} lt heq => ?_)
  rw [heq] at lt
  exact Key.irrefl _ lt

/-- Where no key comes twice, an entry is found under its key. -/
theorem find?_eq_some_iff_of_nodup {key : κ} {a : α} {l : List (κ × α)}
    (h : (l.map (·.1)).Nodup) : find? key l = some a ↔ (key, a) ∈ l := by
  induction l with
  | nil => simp [find?]
  | cons x r ih =>
    obtain ⟨n, b⟩ := x
    obtain ⟨hn, hr⟩ := List.nodup_cons.1 h
    simp only [find?, List.mem_cons]
    by_cases hkey : n = key
    · subst hkey
      rw [if_pos rfl]
      constructor
      · intro e
        cases e
        exact .inl rfl
      · rintro (e | m)
        · cases e
          rfl
        · exact absurd (List.mem_map.2 ⟨_, m, rfl⟩) hn
    · rw [if_neg hkey, ih hr]
      refine ⟨.inr, fun hmem => hmem.resolve_left fun e => ?_⟩
      cases e
      exact hkey rfl

theorem find?_eq_some_iff {key : κ} {a : α} {l : List (κ × α)}
    (h : l.Pairwise fun a b => a.1 < b.1) : find? key l = some a ↔ (key, a) ∈ l :=
  find?_eq_some_iff_of_nodup (nodup_of_ascending h)

-- ============================================================ dictionaries

/-- The dictionary without entries. -/
def empty : Dict κ α := ⟨[], List.Pairwise.nil⟩

instance : EmptyCollection (Dict κ α) := ⟨empty⟩

instance : Inhabited (Dict κ α) := ⟨empty⟩

/-- The value of a key. -/
def get? (d : Dict κ α) (key : κ) : Option α := find? key d.entries

/-- Gives a key a value. -/
def insert (d : Dict κ α) (key : κ) (a : α) : Dict κ α :=
  ⟨place key a d.entries, ascending_place key a d.ascending⟩

/-- The dictionary without a key. -/
def erase (d : Dict κ α) (key : κ) : Dict κ α :=
  ⟨d.entries.filter (·.1 ≠ key), d.ascending.filter _⟩

/-- Inserts entries one after the other, so the last of each key stays. -/
def insertAll (d : Dict κ α) (l : List (κ × α)) : Dict κ α :=
  l.foldl (fun d (key, a) => d.insert key a) d

/-- The dictionary with the given entries, the last of each key. -/
def ofList (l : List (κ × α)) : Dict κ α := (∅ : Dict κ α).insertAll l

/-- Adds the entries of `e`, which win over those of `d`. -/
def union (d e : Dict κ α) : Dict κ α := d.insertAll e.entries

/-- The keys in ascending order. -/
def keys (d : Dict κ α) : List κ := d.entries.map (·.1)

-- ================================================================== lemmas

@[simp] theorem get?_empty (key : κ) : (∅ : Dict κ α).get? key = none := rfl

@[simp] theorem get?_insert (d : Dict κ α) (key other : κ) (a : α) :
    (d.insert key a).get? other = if other = key then some a else d.get? other :=
  find?_place key other a d.entries

@[simp] theorem get?_erase (d : Dict κ α) (key other : κ) :
    (d.erase key).get? other = if other = key then none else d.get? other := by
  obtain ⟨l, h⟩ := d
  simp only [erase, get?]
  clear h
  induction l with
  | nil => simp [find?]
  | cons x r ih =>
    obtain ⟨n, b⟩ := x
    by_cases hn : n = key
    · subst hn
      simp only [List.filter_cons, ne_eq, not_true_eq_false, decide_false, Bool.false_eq_true,
        if_false, ih, find?]
      split <;> simp_all [eq_comm]
    · simp only [List.filter_cons, ne_eq, hn, not_false_eq_true, decide_true, if_true, find?, ih]
      split
      · rename_i eq
        subst eq
        simp [hn]
      · rfl

/-- A dictionary is its look-ups. -/
theorem ext_get? {d e : Dict κ α} (h : ∀ key, d.get? key = e.get? key) : d = e := by
  obtain ⟨l, hl⟩ := d
  obtain ⟨m, hm⟩ := e
  have mem : ∀ x, x ∈ l ↔ x ∈ m := by
    rintro ⟨n, a⟩
    rw [← find?_eq_some_iff hl, ← find?_eq_some_iff hm]
    exact iff_of_eq (congrArg (· = some a) (h n))
  have nodup : ∀ {k : List (κ × α)}, k.Pairwise (fun a b => a.1 < b.1) → k.Nodup :=
    fun h => List.Pairwise.imp (fun lt => by
      rintro rfl
      exact Key.irrefl _ lt) h
  have perm : l.Perm m := (List.perm_ext_iff_of_nodup (nodup hl) (nodup hm)).2 mem
  have eq : l = m := perm.eq_of_pairwise (fun a b _ _ hab hba =>
    absurd (Key.trans hab hba) (Key.irrefl _)) hl hm
  subst eq
  rfl

theorem find?_append (key : κ) (l m : List (κ × α)) :
    find? key (l ++ m) = (find? key l).or (find? key m) := by
  induction l with
  | nil => simp [find?]
  | cons y t ih =>
    simp only [List.cons_append, find?, ih]
    split <;> simp

theorem get?_insertAll (d : Dict κ α) (l : List (κ × α)) (key : κ) :
    (d.insertAll l).get? key = (find? key l.reverse).or (d.get? key) := by
  induction l generalizing d with
  | nil => simp [insertAll, find?]
  | cons x r ih =>
    have step := ih (d.insert x.1 x.2)
    simp only [insertAll, List.foldl_cons] at step ⊢
    rw [step, List.reverse_cons, find?_append, get?_insert, Option.or_assoc]
    congr 1
    simp only [find?]
    by_cases h : key = x.1
    · simp [h]
    · simp [h, Ne.symm h]

theorem find?_eq_none_of_forall_ne {key : κ} {l : List (κ × α)} (h : ∀ e ∈ l, e.1 ≠ key) :
    find? key l = none := by
  induction l with
  | nil => rfl
  | cons x r ih =>
    obtain ⟨hx, hr⟩ := List.forall_mem_cons.1 h
    simp only [find?, if_neg hx]
    exact ih hr

/-- Where no key comes twice, the direction of a search does not matter. -/
theorem find?_reverse {l : List (κ × α)} (h : (l.map (·.1)).Nodup) (key : κ) :
    find? key l.reverse = find? key l := by
  induction l with
  | nil => rfl
  | cons x r ih =>
    obtain ⟨hx, hr⟩ := List.nodup_cons.1 h
    rw [List.reverse_cons, find?_append, ih hr]
    simp only [find?]
    by_cases hkey : x.1 = key
    · subst hkey
      have hnone : find? x.1 r = none := find?_eq_none_of_forall_ne fun e he heq =>
        hx (List.mem_map.2 ⟨e, he, heq⟩)
      simp [hnone]
    · simp [hkey]

theorem nodup_keys (d : Dict κ α) : d.keys.Nodup := nodup_of_ascending d.ascending

theorem pairwise_keys (d : Dict κ α) : d.keys.Pairwise (· < ·) := List.pairwise_map.2 d.ascending

theorem mem_entries_iff {d : Dict κ α} {key : κ} {a : α} :
    (key, a) ∈ d.entries ↔ d.get? key = some a := (find?_eq_some_iff d.ascending).symm

theorem mem_keys_iff {d : Dict κ α} {key : κ} : key ∈ d.keys ↔ ∃ a, d.get? key = some a := by
  simp only [keys, List.mem_map, Prod.exists, exists_and_right, exists_eq_right, mem_entries_iff]

theorem ofList_concat (l : List (κ × α)) (key : κ) (a : α) :
    ofList (l ++ [(key, a)]) = (ofList l).insert key a := by
  simp [ofList, insertAll, List.foldl_append]

/-- Where no key comes twice, the entries are what the list says. -/
theorem get?_ofList_eq_some_iff {l : List (κ × α)} (h : (l.map (·.1)).Nodup) {key : κ} {a : α} :
    (ofList l).get? key = some a ↔ (key, a) ∈ l := by
  rw [ofList, get?_insertAll, find?_reverse h, get?_empty, Option.or_none]
  exact find?_eq_some_iff_of_nodup h

/-- Where no key comes twice, the order in which the entries come does not
matter. -/
theorem ofList_congr {l m : List (κ × α)} (h : l.Perm m) (hkeys : (l.map (·.1)).Nodup) :
    ofList l = ofList m := by
  have hkeys' : (m.map (·.1)).Nodup := (h.map _).nodup_iff.1 hkeys
  refine ext_get? fun key => Option.ext fun a => ?_
  rw [get?_ofList_eq_some_iff hkeys, get?_ofList_eq_some_iff hkeys']
  exact h.mem_iff

/-- The entries of a dictionary, in whichever order they are inserted. -/
theorem get?_insertAll_of_perm (d : Dict κ α) {e : Dict κ α} {l : List (κ × α)}
    (h : l.Perm e.entries) (key : κ) : (d.insertAll l).get? key = (e.get? key).or (d.get? key) := by
  have hkeys : (l.map (·.1)).Nodup := (h.map _).nodup_iff.2 e.nodup_keys
  rw [get?_insertAll, find?_reverse hkeys]
  congr 1
  refine Option.ext fun a => ?_
  rw [find?_eq_some_iff_of_nodup hkeys, h.mem_iff, mem_entries_iff]

@[simp] theorem get?_union (d e : Dict κ α) (key : κ) :
    (d.union e).get? key = (e.get? key).or (d.get? key) :=
  d.get?_insertAll_of_perm (List.Perm.refl _) key

theorem get?_ofList_append (l m : List (κ × α)) (key : κ) :
    (ofList (l ++ m)).get? key = ((ofList m).get? key).or ((ofList l).get? key) := by
  simp only [ofList, get?_insertAll, List.reverse_append, find?_append, get?_empty, Option.or_none]

theorem find?_map {β : Type} (k : β → κ) (f : β → α) (l : List β) (key : κ) :
    find? key (l.map fun b => (k b, f b)) = (l.find? fun b => k b = key).map f := by
  induction l with
  | nil => rfl
  | cons b r ih =>
    by_cases h : k b = key
    · simp [find?, h]
    · simp [find?, h, ih]

/-- Where no key comes twice, each value is found under its key. -/
theorem get?_ofList_map {β : Type} {k : β → κ} {f : β → α} {l : List β} (h : (l.map k).Nodup)
    (key : κ) :
    (ofList (l.map fun b => (k b, f b))).get? key = (l.find? fun b => k b = key).map f := by
  have hkeys : ((l.map fun b => (k b, f b)).map (·.1)).Nodup := by
    rw [List.map_map]
    exact h
  rw [ofList, get?_insertAll, find?_reverse hkeys, find?_map, get?_empty, Option.or_none]

/-- Where the key alone decides on the value, it does not matter how often a key
comes. -/
theorem get?_ofList_map_key (f : κ → α) (l : List κ) (key : κ) :
    (ofList (l.map fun k => (k, f k))).get? key = if key ∈ l then some (f key) else none := by
  rw [ofList, get?_insertAll, ← List.map_reverse, find?_map (fun k => k), get?_empty,
    Option.or_none]
  cases hfind : l.reverse.find? fun k => k = key with
  | some k =>
    obtain rfl : k = key := by simpa using List.find?_some hfind
    rw [if_pos (List.mem_reverse.1 (List.mem_of_find?_eq_some hfind)), Option.map_some]
  | none =>
    have hkey : key ∉ l := fun hmem =>
      List.find?_eq_none.1 hfind key (List.mem_reverse.2 hmem) (decide_eq_true rfl)
    rw [if_neg hkey, Option.map_none]

/-- A change of all values, each under its key. -/
theorem get?_ofList_map_entries {β : Type} (f : α → β) (d : Dict κ α) (key : κ) :
    (ofList (d.entries.map fun e => (e.1, f e.2))).get? key = (d.get? key).map f := by
  have hkeys : ((d.entries.map fun e => (e.1, f e.2)).map (·.1)).Nodup := by
    rw [List.map_map]
    exact d.nodup_keys
  refine Option.ext fun b => ?_
  rw [get?_ofList_eq_some_iff hkeys, Option.map_eq_some_iff]
  simp only [List.mem_map, Prod.exists, Prod.mk.injEq, mem_entries_iff]
  constructor
  · rintro ⟨_, a, ha, rfl, rfl⟩
    exact ⟨a, ha, rfl⟩
  · rintro ⟨a, ha, rfl⟩
    exact ⟨key, a, ha, rfl, rfl⟩

theorem length_place {key : κ} {l : List (κ × α)} (h : ∀ e ∈ l, e.1 ≠ key) (a : α) :
    (place key a l).length = l.length + 1 := by
  induction l with
  | nil => rfl
  | cons x r ih =>
    obtain ⟨hx, hr⟩ := List.forall_mem_cons.1 h
    simp only [place]
    split
    · rfl
    · rw [if_neg (Ne.symm hx)]
      exact congrArg (· + 1) (ih hr)

theorem length_insertAll {l : List (κ × α)} (h : (l.map (·.1)).Nodup) :
    ∀ {d : Dict κ α}, (∀ e ∈ d.entries, ∀ x ∈ l, e.1 ≠ x.1) →
      (d.insertAll l).entries.length = d.entries.length + l.length := by
  induction l with
  | nil =>
    intro d _
    rfl
  | cons x r ih =>
    intro d hd
    obtain ⟨hx, hr⟩ := List.nodup_cons.1 h
    have hplace : (d.insert x.1 x.2).entries.length = d.entries.length + 1 :=
      length_place (fun e he => hd e he x List.mem_cons_self) x.2
    have hrest := ih hr (d := d.insert x.1 x.2) fun e he y hy => ?_
    · show ((d.insert x.1 x.2).insertAll r).entries.length = _
      rw [hrest, hplace, List.length_cons]
      omega
    · rcases key_of_mem_place he with heq | he
      · intro hkey
        exact hx (List.mem_map.2 ⟨y, hy, hkey.symm.trans heq⟩)
      · exact hd e he y (List.mem_cons_of_mem x hy)

/-- Where no key comes twice, each entry has its place. -/
theorem length_ofList {l : List (κ × α)} (h : (l.map (·.1)).Nodup) :
    (ofList l).entries.length = l.length := by
  rw [ofList, length_insertAll h fun e he => absurd he List.not_mem_nil]
  exact Nat.zero_add _

end Dict

end HostTelemetry
