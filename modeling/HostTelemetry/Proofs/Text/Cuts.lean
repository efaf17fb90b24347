/-
What the cuts along white space and line feeds give for a text that is put
together from parts.

The pieces of two texts with a separator between them are the pieces of the one
and then those of the other (`splitBy_append`); what is said here of words and
lines follows from that equation. White space around a text changes neither its
words nor what trimming leaves of it. `Spaced` is a text that is put together
from words, in whichever way they are set apart: it has just these words, and
nothing of it is trimmed. And what is searched for is found in a text that is put
together if it is found in a part, where no part continues it
(`infix_append_iff`).
-/
import HostTelemetry.Text.Blank
import Mathlib.Data.List.Infix
import Mathlib.Data.List.TakeWhile

namespace HostTelemetry.Text

variable {sep : Char → Bool} {c : Char} {s t w : List Char}

-- =============================================================== pieces

theorem splitBy_go_append (hc : sep c = true) (done : List (List Char)) (piece s t : List Char) :
    splitBy.go sep done piece (s ++ c :: t)
      = splitBy.go sep done piece s ++ splitBy sep t := by
  have hdone : ∀ done piece t, splitBy.go sep done piece t
      = done.reverse ++ splitBy.go sep [] piece t := by
    intro done piece t
    induction t generalizing done piece with
    | nil => simp [splitBy.go]
    | cons d r ih =>
      simp only [splitBy.go]
      split
      · rw [ih (piece.reverse :: done), ih [piece.reverse]]
        simp
      · exact ih done (d :: piece)
  induction s generalizing done piece with
  | nil =>
    simp only [List.nil_append, splitBy.go, if_pos hc]
    exact hdone (piece.reverse :: done) [] t
  | cons d r ih =>
    simp only [List.cons_append, splitBy.go]
    split
    · exact ih _ _
    · exact ih _ _

theorem splitBy_append (hc : sep c = true) (s t : List Char) :
    splitBy sep (s ++ c :: t) = splitBy sep s ++ splitBy sep t :=
  splitBy_go_append hc [] [] s t

theorem splitBy_of_none (h : ∀ c ∈ s, sep c = false) : splitBy sep s = [s] := by
  have hgo : ∀ piece, splitBy.go sep [] piece s = [piece.reverse ++ s] := by
    induction s with
    | nil => simp [splitBy.go]
    | cons d r ih =>
      obtain ⟨hd, hr⟩ := List.forall_mem_cons.mp h
      intro piece
      rw [splitBy.go, if_neg (by simp [hd]), ih hr]
      simp
  exact hgo []

theorem splitBy_ne_nil (sep : Char → Bool) (s : List Char) : splitBy sep s ≠ [] := by
  have hgo : ∀ done piece, splitBy.go sep done piece s ≠ [] := by
    induction s with
    | nil => simp [splitBy.go]
    | cons d r ih =>
      intro done piece
      simp only [splitBy.go]
      split
      · exact ih _ _
      · exact ih _ _
  exact hgo [] []

theorem splitFirst?_eq_none_iff {sep : Char} : splitFirst? sep s = none ↔ sep ∉ s := by
  constructor
  · intro hnone hmem
    obtain ⟨before, after, hs, hsep⟩ := List.eq_append_cons_of_mem hmem
    rw [splitFirst?_eq_some_iff.mpr ⟨hs, hsep⟩] at hnone
    cases hnone
  · intro hmem
    cases hsplit : splitFirst? sep s with
    | none => rfl
    | some parts =>
      have hs := (splitFirst?_eq_some_iff.mp hsplit).1
      exact absurd (by simp [hs]) hmem

-- ================================================================ lines

theorem lines_append (h : '\n' ∉ s) (t : List Char) :
    lines (s ++ '\n' :: t) = dropReturn s :: lines t := by
  have hs : ∀ c ∈ s, decide (c = '\n') = false := by
    intro c hc
    exact decide_eq_false fun heq => h (heq ▸ hc)
  have hpieces : splitBy (· = '\n') (s ++ '\n' :: t) = s :: splitBy (· = '\n') t := by
    rw [splitBy_append (by simp), splitBy_of_none hs]
    rfl
  obtain ⟨p, ps, ht⟩ := List.exists_cons_of_ne_nil (splitBy_ne_nil (· = '\n') t)
  simp only [lines, hpieces, ht, List.getLast?_cons_cons, List.dropLast_cons_cons, List.map_cons]
  split
  · rfl
  · rfl
  · rfl

theorem lines_of_unbroken (h : '\n' ∉ s) : lines s = if s = [] then [] else [s] := by
  have hs : ∀ c ∈ s, decide (c = '\n') = false := by
    intro c hc
    exact decide_eq_false fun heq => h (heq ▸ hc)
  rw [lines, splitBy_of_none hs]
  cases s with
  | nil => rfl
  | cons c r => rfl

-- ================================================================ words

/-- The text is white space. -/
def Blank (s : List Char) : Prop := ∀ c ∈ s, isBlank c = true

-- Decided along the text; the other way, through all characters, takes too long.
instance (s : List Char) : Decidable (Blank s) :=
  decidable_of_iff (s.all isBlank = true) List.all_eq_true

/-- The text is not empty and has no white space. -/
structure IsWord (w : List Char) : Prop where
  nonempty : w ≠ []
  solid : ∀ c ∈ w, isBlank c = false

instance (w : List Char) : Decidable (IsWord w) :=
  decidable_of_iff (w ≠ [] ∧ w.all (fun c => !isBlank c) = true)
    ⟨fun h => ⟨h.1, by simpa using h.2⟩, fun h => ⟨h.1, by simpa using h.2⟩⟩

theorem isBlank_of_graphic (h : 0x20 < c.toNat) (h' : c.toNat < 0x7F) : isBlank c = false := by
  have hranges : ∀ range ∈ blankRanges, range.2 ≤ 0x20 ∨ 0x7F < range.1 := by decide
  apply List.any_eq_false.mpr
  intro range hmem
  have hrange := hranges range hmem
  simp only [Bool.and_eq_true, decide_eq_true_eq]
  omega

theorem words_append (hc : isBlank c = true) (s t : List Char) :
    words (s ++ c :: t) = words s ++ words t := by
  rw [words, splitBy_append hc, List.filter_append]
  rfl

theorem words_of_isWord (h : IsWord w) : words w = [w] := by
  rw [words, splitBy_of_none h.solid]
  simp [h.nonempty]

theorem words_blank_append (h : Blank s) (t : List Char) : words (s ++ t) = words t := by
  induction s with
  | nil => rfl
  | cons c r ih =>
    obtain ⟨hc, hr⟩ := List.forall_mem_cons.mp h
    calc words (c :: r ++ t) = words [] ++ words (r ++ t) := words_append hc [] (r ++ t)
      _ = words t := by rw [ih hr]; rfl

theorem words_append_blank (h : Blank t) (s : List Char) : words (s ++ t) = words s := by
  cases t with
  | nil => rw [List.append_nil]
  | cons c r =>
    obtain ⟨hc, hr⟩ := List.forall_mem_cons.mp h
    have hrest : words r = [] := by
      rw [← List.append_nil r, words_blank_append hr]
      rfl
    rw [words_append hc, hrest, List.append_nil]

-- ============================================================= trimming

theorem trimStart_append_of_isWord (h : IsWord w) (s : List Char) :
    trimStart (w ++ s) = w ++ s := by
  obtain ⟨c, r, rfl⟩ := List.exists_cons_of_ne_nil h.nonempty
  have hc : isBlank c = false := h.solid c List.mem_cons_self
  rw [trimStart, List.cons_append, List.dropWhile_cons, if_neg (by simp [hc])]

theorem trimEnd_append_of_isWord (h : IsWord w) (s : List Char) : trimEnd (s ++ w) = s ++ w := by
  have hreverse : IsWord w.reverse :=
    ⟨by simpa using h.nonempty, fun c hc => h.solid c (List.mem_reverse.mp hc)⟩
  have hstart := trimStart_append_of_isWord hreverse s.reverse
  rw [trimStart] at hstart
  rw [trimEnd, List.reverse_append, hstart, List.reverse_append, List.reverse_reverse,
    List.reverse_reverse]

theorem trimStart_blank_append (h : Blank s) (t : List Char) :
    trimStart (s ++ t) = trimStart t := by
  rw [trimStart, List.dropWhile_append_of_pos h]
  rfl

theorem trimEnd_append_blank (h : Blank t) (s : List Char) : trimEnd (s ++ t) = trimEnd s := by
  have hreverse : Blank t.reverse := fun c hc => h c (List.mem_reverse.mp hc)
  rw [trimEnd, List.reverse_append, List.dropWhile_append_of_pos hreverse]
  rfl

theorem trim_append_blank (h : Blank t) (s : List Char) : trim (s ++ t) = trim s := by
  rw [trim, trimStart, List.dropWhile_append]
  split
  · rename_i hempty
    have ht : List.dropWhile isBlank t = [] := List.dropWhile_eq_nil_iff.mpr h
    rw [ht, trim, trimStart, List.isEmpty_iff.mp hempty]
  · rw [trimEnd_append_blank h]
    rfl

/-- White space around a text is trimmed. -/
theorem trim_padded {before after : List Char} (hbefore : Blank before) (hafter : Blank after)
    (s : List Char) : trim (before ++ s ++ after) = trim s := by
  rw [trim_append_blank hafter, trim, trimStart_blank_append hbefore]
  rfl

theorem trim_dropReturn (s : List Char) : trim (dropReturn s) = trim s := by
  rw [dropReturn]
  split
  · rename_i hlast
    have hreturn : Blank ['\r'] := by decide
    calc trim s.dropLast = trim (s.dropLast ++ ['\r']) := (trim_append_blank hreturn _).symm
      _ = trim s := by rw [List.dropLast_append_getLast? _ hlast]
  · rfl

theorem exists_padding (s : List Char) :
    ∃ before after, Blank before ∧ Blank after ∧ s = before ++ trim s ++ after := by
  refine ⟨s.takeWhile isBlank, ((trimStart s).reverse.takeWhile isBlank).reverse, ?_, ?_, ?_⟩
  · intro c hc
    exact List.mem_takeWhile_imp hc
  · intro c hc
    exact List.mem_takeWhile_imp (List.mem_reverse.mp hc)
  · rw [List.append_assoc, trim, trimEnd, ← List.reverse_append, List.takeWhile_append_dropWhile,
      List.reverse_reverse, trimStart, List.takeWhile_append_dropWhile]

theorem words_trim (s : List Char) : words (trim s) = words s := by
  obtain ⟨before, after, hbefore, hafter, hs⟩ := exists_padding s
  calc words (trim s) = words (before ++ trim s ++ after) := by
        rw [words_append_blank hafter, words_blank_append hbefore]
    _ = words s := by rw [← hs]

-- ========================================================= spaced texts

/-- The text is these words with white space between them. -/
inductive Spaced : List (List Char) → List Char → Prop
  | word {w : List Char} (hw : IsWord w) : Spaced [w] w
  | cons {w gap s : List Char} {ws : List (List Char)} (hw : IsWord w) (hgap : Blank gap)
      (hapart : gap ≠ []) (hs : Spaced ws s) : Spaced (w :: ws) (w ++ gap ++ s)

theorem Spaced.words_eq {ws : List (List Char)} (h : Spaced ws s) : words s = ws := by
  induction h with
  | word hw => exact words_of_isWord hw
  | @cons w gap s ws hw hgap hapart _ ih =>
    obtain ⟨c, r, rfl⟩ := List.exists_cons_of_ne_nil hapart
    obtain ⟨hc, hr⟩ := List.forall_mem_cons.mp hgap
    rw [List.append_assoc, List.cons_append, words_append hc, words_of_isWord hw,
      words_blank_append hr, ih]
    rfl

theorem Spaced.trimStart_eq {ws : List (List Char)} (h : Spaced ws s) : trimStart s = s := by
  cases h with
  | word hw => simpa using trimStart_append_of_isWord hw []
  | cons hw _ _ _ =>
    rw [List.append_assoc]
    exact trimStart_append_of_isWord hw _

theorem Spaced.exists_last {ws : List (List Char)} (h : Spaced ws s) :
    ∃ front last, IsWord last ∧ s = front ++ last := by
  induction h with
  | word hw => exact ⟨[], _, hw, rfl⟩
  | @cons w gap _ _ _ _ _ _ ih =>
    obtain ⟨front, last, hlast, rfl⟩ := ih
    exact ⟨w ++ gap ++ front, last, hlast, by simp⟩

theorem Spaced.trim_eq {ws : List (List Char)} (h : Spaced ws s) : trim s = s := by
  rw [trim, h.trimStart_eq]
  obtain ⟨front, last, hlast, rfl⟩ := h.exists_last
  exact trimEnd_append_of_isWord hlast front

-- ========================================================== occurrences

theorem occursIn_iff {needle : List Char} : occursIn needle s = true ↔ needle <:+: s := by
  induction s with
  | nil => simp [occursIn]
  | cons c r ih =>
    rw [occursIn, Bool.or_eq_true, ih, List.isPrefixOf_iff_prefix, List.infix_cons_iff]

/-- What occurs in two texts behind one another occurs in one of them, if the
second begins with a character that does not continue it. -/
theorem infix_append_iff {needle : List Char} (h : ∀ c ∈ t.head?, c ∉ needle.tail) :
    needle <:+: s ++ t ↔ needle <:+: s ∨ needle <:+: t := by
  constructor
  · intro hinfix
    induction s with
    | nil => exact .inr hinfix
    | cons x s ih =>
      cases List.infix_cons_iff.mp hinfix with
      | inr hlater =>
        cases ih hlater with
        | inl hs => exact .inl (List.infix_cons hs)
        | inr ht => exact .inr ht
      | inl hnow =>
        cases List.prefix_or_prefix_of_prefix hnow (List.prefix_append (x :: s) t) with
        | inl hwhole => exact .inl hwhole.isInfix
        | inr hcut =>
          -- It begins in the first text, so what follows there continues it.
          obtain ⟨rest, rfl⟩ := hcut
          have hrest : rest <+: t := (List.prefix_append_right_inj (x :: s)).mp hnow
          cases rest with
          | nil => exact .inl (by rw [List.append_nil])
          | cons c rest =>
            obtain ⟨after, rfl⟩ := hrest
            exact absurd (by simp) (h c rfl)
  · intro hinfix
    cases hinfix with
    | inl hs => exact hs.trans (List.prefix_append s t).isInfix
    | inr ht => exact ht.trans (List.suffix_append s t).isInfix

end HostTelemetry.Text
