/-
What a text shows of the interfaces is the sum of what its lines show.

# Lines and pieces

A text is read line by line, and a line gives up the carriage return before its
line feed. So the lines of a text that is put together are not quite those of its
parts: a part may end in a carriage return, and the line feed that is put behind
it takes it away, or in a line feed, and then an empty line appears. Neither shows in
the counters. What a line says is the same with the carriage return and without it
(`interface?_dropReturn`), and an empty line says nothing. So lines can be
replaced by the pieces between line feeds (`listed_eq`), and pieces are put
together as texts are.

# Columns

The counters stand in columns under the titles that the kernel writes above them.
`Row` finds a counter by its title, so that it is known which column is meant.
-/
import HostTelemetry.Proofs.Network.Churn
import HostTelemetry.Proofs.Text.Cuts

namespace HostTelemetry.Network

open Text (splitBy splitFirst? splitFirst?_eq_some_iff splitFirst?_eq_none_iff dropReturn words trim)

-- ================================================================== sums

/-- The sums of two samples, class by class. -/
def Sample.add (a b : Sample) : Sample where
  physical := a.physical.add b.physical
  virtualSide := a.virtualSide.add b.virtualSide

/-- A sample in which only one class counts. -/
def Sample.ofSide (side : Side) (c : Counters) : Sample :=
  match side with
  | .physical => { physical := c }
  | .virtual => { virtualSide := c }

theorem Counters.add_assoc (a b c : Counters) : (a.add b).add c = a.add (b.add c) := by
  simp [Counters.add, UInt64.add_assoc]

theorem Counters.add_comm (a b : Counters) : a.add b = b.add a := by
  simp [Counters.add, UInt64.add_comm]

theorem Counters.zero_add (a : Counters) : ({} : Counters).add a = a := by
  simp [Counters.add]

instance : Zero Sample := ⟨{}⟩

instance : Add Sample := ⟨Sample.add⟩

instance : AddCommMonoid Sample where
  add_assoc a b c := by
    show (a.add b).add c = a.add (b.add c)
    simp [Sample.add, Counters.add_assoc]
  add_comm a b := by
    show a.add b = b.add a
    rw [Sample.add, Sample.add, Counters.add_comm a.physical, Counters.add_comm a.virtualSide]
  zero_add a := by
    show Sample.add {} a = a
    simp [Sample.add, Counters.zero_add]
  add_zero a := by
    show Sample.add a {} = a
    rw [Sample.add, Counters.add_comm a.physical, Counters.add_comm a.virtualSide]
    simp [Counters.zero_add]
  nsmul := nsmulRec

theorem addInterface_eq (s : Sample) (i : List Char × Counters) :
    s.addInterface i = s + Sample.ofSide (sideOf i.1) i.2 := by
  show s.addInterface i = s.add _
  unfold Sample.addInterface sideOf
  by_cases hvirtual : isVirtual i.1 = true
  · rw [if_pos hvirtual, if_pos hvirtual]
    simp [Sample.add, Sample.ofSide, Counters.add_comm s.physical, Counters.zero_add]
  · rw [if_neg hvirtual, if_neg hvirtual]
    simp [Sample.add, Sample.ofSide, Counters.add_comm s.virtualSide, Counters.zero_add]

/-- The sum of what lines say. -/
def total (l : List (List Char × Counters)) : Sample :=
  (l.map fun i => Sample.ofSide (sideOf i.1) i.2).sum

theorem foldl_addInterface (l : List (List Char × Counters)) (s : Sample) :
    l.foldl Sample.addInterface s = s + total l := by
  induction l generalizing s with
  | nil => exact (add_zero s).symm
  | cons i r ih =>
    rw [List.foldl_cons, ih, addInterface_eq, add_assoc]
    rfl

-- ================================================================ pieces

/-- The carriage return before a line feed says nothing. -/
theorem interface?_dropReturn (piece : List Char) :
    interface? (dropReturn piece) = interface? piece := by
  rw [dropReturn]
  by_cases hlast : piece.getLast? = some '\r'
  · obtain ⟨line, rfl⟩ : ∃ line, piece = line ++ ['\r'] :=
      ⟨piece.dropLast, (List.dropLast_append_getLast? _ hlast).symm⟩
    rw [if_pos hlast, List.dropLast_concat]
    have hbar : (line ++ ['\r']).contains '|' = line.contains '|' := by
      simp
    unfold interface?
    rw [hbar]
    cases hsplit : splitFirst? ':' line with
    | none =>
      have hcolon : ':' ∉ line ++ ['\r'] := by
        simpa using splitFirst?_eq_none_iff.mp hsplit
      rw [splitFirst?_eq_none_iff.mpr hcolon]
    | some parts =>
      obtain ⟨name, counts⟩ := parts
      obtain ⟨rfl, hcolon⟩ := splitFirst?_eq_some_iff.mp hsplit
      have hreturn : splitFirst? ':' (name ++ ':' :: counts ++ ['\r'])
          = some (name, counts ++ ['\r']) :=
        splitFirst?_eq_some_iff.mpr ⟨by simp, hcolon⟩
      have hwords : words (counts ++ ['\r']) = words counts :=
        Text.words_append_blank (by decide) counts
      rw [hreturn]
      simp only [Option.bind_eq_bind, Option.bind_some, hwords]
  · rw [if_neg hlast]

theorem interface?_nil : interface? [] = none := by decide

/-- Instead of the lines, the pieces can be read. -/
theorem listed_eq (text : List Char) :
    listed text = (splitBy (· = '\n') text).filterMap interface? := by
  have hended : ∀ ended : List (List Char),
      (ended.map dropReturn).filterMap interface? = ended.filterMap interface? := by
    intro ended
    rw [List.filterMap_map]
    exact congrArg (fun f => ended.filterMap f) (funext interface?_dropReturn)
  obtain ⟨front, last, hpieces⟩ :=
    (List.eq_nil_or_concat' (splitBy (· = '\n') text)).resolve_left (Text.splitBy_ne_nil _ _)
  rw [listed, Text.lines, hpieces]
  simp only [List.dropLast_concat, List.getLast?_concat]
  cases last with
  | nil =>
    rw [List.filterMap_append]
    simp [hended, interface?_nil]
  | cons c r =>
    show (front.map dropReturn ++ [c :: r]).filterMap interface? = _
    rw [List.filterMap_append, hended, List.filterMap_append]

/-- A sample is the sum of what the pieces of the text say. -/
theorem ofText_eq_total (text : List Char) :
    Sample.ofText text = total ((splitBy (· = '\n') text).filterMap interface?) := by
  rw [← listed_eq]
  exact (foldl_addInterface (listed text) {}).trans (zero_add _)

theorem ofText_append (a b : List Char) :
    Sample.ofText (a ++ '\n' :: b) = (Sample.ofText a).add (Sample.ofText b) := by
  rw [ofText_eq_total, Text.splitBy_append (by simp), List.filterMap_append, total,
    List.map_append, List.sum_append, ofText_eq_total, ofText_eq_total]
  rfl

/-- A class of the sum has the sum of what the two have, if 64 bits hold it. -/
theorem amount_append {a b : List Char} {side : Side} {q : Quantity}
    (h : ((Sample.ofText a).of side).amount q + ((Sample.ofText b).of side).amount q < 2 ^ 64) :
    ((Sample.ofText (a ++ '\n' :: b)).of side).amount q
      = ((Sample.ofText a).of side).amount q + ((Sample.ofText b).of side).amount q := by
  have hsides : ∀ s t : Sample, (s.add t).of side = (s.of side).add (t.of side) := by
    intro s t
    cases side <;> rfl
  rw [ofText_append, hsides, Counters.amount_add, Nat.mod_eq_of_lt h]

theorem ofText_of_perm {a b : List Char}
    (h : (splitBy (· = '\n') a).Perm (splitBy (· = '\n') b)) :
    Sample.ofText a = Sample.ofText b := by
  rw [ofText_eq_total, ofText_eq_total]
  exact ((h.filterMap interface?).map _).sum_eq

-- =============================================================== columns

/-- Which way packets go. -/
inductive Direction where
  | receive
  | transmit
deriving DecidableEq

/-- What stands above the columns of counters. -/
def columnTitles : List (Direction × String) :=
  (["bytes", "packets", "errs", "drop", "fifo", "frame", "compressed", "multicast"].map
      fun title => (.receive, title))
    ++ (["bytes", "packets", "errs", "drop", "fifo", "colls", "carrier", "compressed"].map
      fun title => (.transmit, title))

/-- The counter in the column of a title; what is no number counts as zero. -/
def countUnder (fields : List (List Char)) (direction : Direction) (title : String) : UInt64 :=
  ((fields[columnTitles.idxOf (direction, title)]?).bind Text.uint64?).getD 0

/-- What the counters of a line say. -/
def columns (fields : List (List Char)) : Counters where
  rxBytes := countUnder fields .receive "bytes"
  rxErrors := countUnder fields .receive "errs"
  rxDrops := countUnder fields .receive "drop"
  txBytes := countUnder fields .transmit "bytes"
  txErrors := countUnder fields .transmit "errs"
  txDrops := countUnder fields .transmit "drop"

/-- The line is about an interface: it has no bar, the name of an interface other
than the loopback in front of the first colon, and at least twelve counters
behind it. -/
structure Row (line name : List Char) (fields : List (List Char)) : Prop where
  unbarred : '|' ∉ line
  parts : ∃ before after, line = before ++ ':' :: after ∧ ':' ∉ before ∧ name = trim before ∧
    fields = words after
  named : name ≠ []
  outward : name ≠ "lo".toList
  counted : 12 ≤ fields.length

/-- The counters of a line are read from the columns of their titles. -/
theorem ofFields?_eq (fields : List (List Char)) :
    Counters.ofFields? (fields.map fun w => (Text.uint64? w).getD 0)
      = if 12 ≤ fields.length then some (columns fields) else none := by
  have hcolumn : ∀ (w : List Char) direction title,
      fields[columnTitles.idxOf (direction, title)]? = some w →
        countUnder fields direction title = (Text.uint64? w).getD 0 := by
    intro w direction title hw
    rw [countUnder, hw, Option.bind_some]
  match fields with
  | a₀ :: a₁ :: a₂ :: a₃ :: a₄ :: a₅ :: a₆ :: a₇ :: a₈ :: a₉ :: a₁₀ :: a₁₁ :: rest =>
    rw [if_pos (by simp), columns, hcolumn a₀ .receive "bytes" rfl, hcolumn a₂ .receive "errs" rfl,
      hcolumn a₃ .receive "drop" rfl, hcolumn a₈ .transmit "bytes" rfl,
      hcolumn a₁₀ .transmit "errs" rfl, hcolumn a₁₁ .transmit "drop" rfl]
    rfl
  | [] | [_] | [_, _] | [_, _, _] | [_, _, _, _] | [_, _, _, _, _] | [_, _, _, _, _, _]
  | [_, _, _, _, _, _, _] | [_, _, _, _, _, _, _, _] | [_, _, _, _, _, _, _, _, _]
  | [_, _, _, _, _, _, _, _, _, _] | [_, _, _, _, _, _, _, _, _, _, _] => rfl

theorem guard_eq_some_iff {p : Prop} [Decidable p] {u : Unit} :
    (guard p : Option Unit) = some u ↔ p := by
  by_cases hp : p
  · simp [hp]
  · simp [hp]

theorem interface?_eq_some_iff {line name : List Char} {c : Counters} :
    interface? line = some (name, c) ↔ ∃ fields, Row line name fields ∧ c = columns fields := by
  simp only [interface?, Option.bind_eq_bind, Option.bind_eq_some_iff, ofFields?_eq,
    Option.ite_none_right_eq_some, guard_eq_some_iff, splitFirst?_eq_some_iff, Prod.exists]
  constructor
  · rintro ⟨-, hbar, before, after, ⟨hline, hcolon⟩, -, ⟨hnamed, houtward⟩, _, ⟨hcounted, hc⟩, heq⟩
    obtain ⟨rfl, rfl⟩ := Prod.mk.inj (Option.some.inj heq)
    exact ⟨words after, ⟨by simpa using hbar, ⟨before, after, hline, hcolon, rfl, rfl⟩, hnamed,
      houtward, hcounted⟩, (Option.some.inj hc).symm⟩
  · rintro ⟨fields, ⟨hbar, ⟨before, after, hline, hcolon, rfl, rfl⟩, hnamed, houtward, hcounted⟩, rfl⟩
    exact ⟨(), by simpa using hbar, before, after, ⟨hline, hcolon⟩, (), ⟨hnamed, houtward⟩, _,
      ⟨hcounted, rfl⟩, rfl⟩

theorem ofText_of_unbroken {line : List Char} (h : '\n' ∉ line) :
    Sample.ofText line
      = (interface? line).elim {} fun i => Sample.ofSide (sideOf i.1) i.2 := by
  have hpiece : splitBy (· = '\n') line = [line] :=
    Text.splitBy_of_none fun c hc => decide_eq_false fun heq => h (heq ▸ hc)
  rw [ofText_eq_total, hpiece, List.filterMap_cons]
  cases interface? line with
  | none => rfl
  | some i =>
    show total [i] = _
    rw [total, List.map_singleton, List.sum_singleton]
    rfl

/-- The accounting is additive. A text that is put together from two shows the sum
of what they show, without loss where 64 bits hold it, so that its lines can stand
in any order; a line about an interface shows what its columns say in the one class
that the name is of, and any other line shows nothing. -/
theorem accounting_is_additive :
    (∀ a b, Sample.ofText (a ++ '\n' :: b) = (Sample.ofText a).add (Sample.ofText b)) ∧
    (∀ a b side q,
      ((Sample.ofText a).of side).amount q + ((Sample.ofText b).of side).amount q < 2 ^ 64 →
        ((Sample.ofText (a ++ '\n' :: b)).of side).amount q
          = ((Sample.ofText a).of side).amount q + ((Sample.ofText b).of side).amount q) ∧
    (∀ a b, (splitBy (· = '\n') a).Perm (splitBy (· = '\n') b) →
      Sample.ofText a = Sample.ofText b) ∧
    ∀ line, '\n' ∉ line →
      (∀ name fields, Row line name fields →
        Sample.ofText line = .ofSide (sideOf name) (columns fields)) ∧
      ((∀ name fields, ¬ Row line name fields) → Sample.ofText line = {}) := by
  refine ⟨ofText_append, fun a b side q => amount_append, fun a b => ofText_of_perm,
    fun line hline => ⟨?_, ?_⟩⟩
  · intro name fields hrow
    rw [ofText_of_unbroken hline, interface?_eq_some_iff.mpr ⟨fields, hrow, rfl⟩]
    rfl
  · intro hnone
    have hnothing : interface? line = none := by
      refine Option.eq_none_iff_forall_not_mem.mpr fun i hi => ?_
      obtain ⟨fields, hrow, -⟩ := interface?_eq_some_iff.mp (Option.mem_def.mp hi)
      exact hnone i.1 fields hrow
    rw [ofText_of_unbroken hline, hnothing]
    rfl

/-- A line of titles, an interface, and a bridge of containers with just as many
counters as a line must have. -/
def titleLine : List Char := " face |bytes packets errs drop".toList
@[inherit_doc titleLine]
def ethernetLine : List Char := "  eth0: 1000 10 1 2 0 0 0 0 2000 20 3 4 0 0 0 0\r".toList
@[inherit_doc titleLine]
def bridgeLine : List Char := "docker0:500 5 x 1 0 0 0 0 700 7 +3 4".toList

theorem row_bridgeLine : Row bridgeLine "docker0".toList
    (["500", "5", "x", "1", "0", "0", "0", "0", "700", "7", "+3", "4"].map String.toList) where
  unbarred := by decide
  parts := ⟨"docker0".toList, "500 5 x 1 0 0 0 0 700 7 +3 4".toList, by decide, by decide,
    by decide, by decide⟩
  named := by decide
  outward := by decide
  counted := by decide

/-- The order of the lines is lost, an interface that is listed twice counts twice, a
counter that is no number counts as zero, and titles count nothing. -/
theorem reordered_lines_show_the_same :
    Sample.ofText (titleLine ++ '\n' :: ethernetLine ++ '\n' :: bridgeLine)
        = Sample.ofText (bridgeLine ++ '\n' :: titleLine ++ '\n' :: ethernetLine) ∧
      ((Sample.ofText (ethernetLine ++ '\n' :: ethernetLine)).of .physical).amount .rxBytes
        = 2000 ∧
      Sample.ofText bridgeLine
        = { virtualSide := { rxBytes := 500, txBytes := 700, rxDrops := 1, txErrors := 3,
                             txDrops := 4 } } ∧
      Sample.ofText titleLine = {} := by
  obtain ⟨-, hexact, hordered, hline⟩ := accounting_is_additive
  have hbytes : ((Sample.ofText ethernetLine).of .physical).amount .rxBytes = 1000 := by
    decide +kernel
  refine ⟨hordered _ _ (by decide), ?_, ?_, ?_⟩
  · have htwice := hexact ethernetLine ethernetLine .physical .rxBytes (by rw [hbytes]; decide)
    rw [htwice, hbytes]
  · have hbridge := (hline bridgeLine (by decide)).1 _ _ row_bridgeLine
    exact hbridge.trans (by decide)
  · exact (hline titleLine (by decide)).2 fun _ _ hrow => hrow.unbarred (by decide)

end HostTelemetry.Network
