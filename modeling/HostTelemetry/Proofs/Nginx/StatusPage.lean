/-
Reading a status page back, in whichever layout it is written.

# What a page is

A page is written line by line (`pageText`), each line with white space around
it and with either kind of end. Of its lines four are the layout of the counters
(`Layout`), and the others say nothing that is read (`Foreign`); they may stand in
any order (`Shows`).

# Why the order does not matter

A line is read as what it says without the white space around it, and each line
of such a page sets one part of what is read and nothing else (`Part`,
`Layout.sets`). Parts that are set in either order are set to the same
(`Part.set_comm`), so the page may be read as if the layout stood in front.

What is made of any other text hangs on its last line of active connections
alone (`LastTitled`): a text is refused if there is none or it has no number.
-/
import HostTelemetry.Nginx.StubStatus
import HostTelemetry.Proofs.Text.Numerals
import Mathlib.Data.List.Induction

namespace HostTelemetry.Nginx

open Text (Blank IsInt64 IsInteger IsWord Spaced decimal int64? int64?_decimal int64?_eq_none_iff
  int64?_eq_some_iff isInteger_decimal trim words)

-- ============================================================= one line

variable {line rest : List Char}

theorem Page.addLine_congr {line' : List Char} (h : trim line = trim line') (p : Page) :
    p.addLine line = p.addLine line' := by
  rw [Page.addLine, Page.addLine, h]

theorem Page.addLine_of_title (h : trim line = activeTitle ++ rest) (p : Page) :
    p.addLine line = { p with active := int64? (trim rest) } := by
  rw [Page.addLine]
  simp only [Text.dropStart?_eq_some_iff.mpr h]

theorem Page.addLine_of_not_title (h : ¬ activeTitle <+: trim line) (p : Page) :
    p.addLine line = { p with counters := p.counters.addWords (words line) } := by
  have hnone : Text.dropStart? activeTitle (trim line) = none := by
    rw [Option.eq_none_iff_forall_ne_some]
    intro rest hrest
    exact h ⟨rest, (Text.dropStart?_eq_some_iff.mp hrest).symm⟩
  rw [Page.addLine]
  simp only [hnone, Text.words_trim]

-- =================================================== active connections

/-- The last of the lines that is about active connections goes on with this
text. -/
def LastTitled (lines : List (List Char)) (rest : List Char) : Prop :=
  ∃ before line after, lines = before ++ line :: after ∧ trim line = activeTitle ++ rest ∧
    ∀ later ∈ after, ¬ activeTitle <+: trim later

theorem exists_lastTitled {lines : List (List Char)}
    (h : ∃ line ∈ lines, activeTitle <+: trim line) : ∃ rest, LastTitled lines rest := by
  induction lines using List.reverseRecOn with
  | nil =>
    obtain ⟨line, hmem, -⟩ := h
    cases hmem
  | append_singleton lines last ih =>
    by_cases hlast : activeTitle <+: trim last
    · obtain ⟨rest, hrest⟩ := hlast
      exact ⟨rest, lines, last, [], rfl, hrest.symm, by simp⟩
    · obtain ⟨line, hmem, htitle⟩ := h
      have hbefore : line ∈ lines := by
        cases List.mem_append.mp hmem with
        | inl hmem => exact hmem
        | inr hmem =>
          rw [List.mem_singleton.mp hmem] at htitle
          exact absurd htitle hlast
      obtain ⟨rest, before, line, after, rfl, hline, hafter⟩ := ih ⟨line, hbefore, htitle⟩
      refine ⟨rest, before, line, after ++ [last], by simp, hline, ?_⟩
      intro later hlater
      cases List.mem_append.mp hlater with
      | inl hlater => exact hafter later hlater
      | inr hlater =>
        rw [List.mem_singleton.mp hlater]
        exact hlast

theorem active_foldl_of_not_title {lines : List (List Char)}
    (h : ∀ line ∈ lines, ¬ activeTitle <+: trim line) (p : Page) :
    (lines.foldl Page.addLine p).active = p.active := by
  induction lines generalizing p with
  | nil => rfl
  | cons line lines ih =>
    obtain ⟨hline, hlines⟩ := List.forall_mem_cons.mp h
    rw [List.foldl_cons, ih hlines, Page.addLine_of_not_title hline]

theorem LastTitled.active_foldl {lines : List (List Char)} (h : LastTitled lines rest) (p : Page) :
    (lines.foldl Page.addLine p).active = int64? (trim rest) := by
  obtain ⟨before, line, after, rfl, hline, hafter⟩ := h
  rw [List.foldl_append, List.foldl_cons, active_foldl_of_not_title hafter,
    Page.addLine_of_title hline]

theorem ofText?_eq_none_iff_active {text : List Char} :
    StubStatus.ofText? text = none ↔ ((Text.lines text).foldl Page.addLine {}).active = none := by
  rw [StubStatus.ofText?, Option.map_eq_none_iff]

/-- A text is refused exactly if it has no line of active connections or the last
such line has no number. -/
theorem ofText?_eq_none_iff {text : List Char} :
    StubStatus.ofText? text = none ↔
      (∀ line ∈ Text.lines text, ¬ activeTitle <+: trim line) ∨
        ∃ rest, LastTitled (Text.lines text) rest ∧
          ∀ n, IsInt64 n → ¬ IsInteger (trim rest) n := by
  rw [ofText?_eq_none_iff_active]
  constructor
  · intro hnone
    by_cases htitled : ∃ line ∈ Text.lines text, activeTitle <+: trim line
    · obtain ⟨rest, hlast⟩ := exists_lastTitled htitled
      rw [hlast.active_foldl] at hnone
      exact .inr ⟨rest, hlast, int64?_eq_none_iff.mp hnone⟩
    · exact .inl fun line hmem htitle => htitled ⟨line, hmem, htitle⟩
  · intro h
    cases h with
    | inl huntitled => rw [active_foldl_of_not_title huntitled]
    | inr hlast =>
      obtain ⟨rest, hlast, hrest⟩ := hlast
      rw [hlast.active_foldl]
      exact int64?_eq_none_iff.mpr hrest

-- ============================================================== counters

/-- The counters are 64-bit numbers, and either connections were accepted or the
totals are all zero. -/
structure StubStatus.Counts (s : StubStatus) : Prop where
  active : IsInt64 s.active
  accepts : IsInt64 s.accepts
  handled : IsInt64 s.handled
  requests : IsInt64 s.requests
  reading : IsInt64 s.reading
  writing : IsInt64 s.writing
  waiting : IsInt64 s.waiting
  started : 0 < s.accepts ∨ s.accepts = 0 ∧ s.handled = 0 ∧ s.requests = 0

/-- The lines that show counters, with any white space between their words. -/
inductive Layout (s : StubStatus) : List (List Char) → Prop
  | mk {gap titles totals kinds : List Char} (hgap : Blank gap)
      (htitles : Spaced ["server".toList, "accepts".toList, "handled".toList, "requests".toList]
        titles)
      (htotals : Spaced [decimal s.accepts, decimal s.handled, decimal s.requests] totals)
      (hkinds : Spaced ["Reading:".toList, decimal s.reading, "Writing:".toList,
        decimal s.writing, "Waiting:".toList, decimal s.waiting] kinds) :
      Layout s [activeTitle ++ (gap ++ decimal s.active), titles, totals, kinds]

/-- The lines as the server writes them. -/
def StubStatus.rendered (s : StubStatus) : List (List Char) :=
  [activeTitle ++ ([' '] ++ decimal s.active), "server accepts handled requests".toList,
    decimal s.accepts ++ [' '] ++ (decimal s.handled ++ [' '] ++ decimal s.requests),
    "Reading:".toList ++ [' '] ++ (decimal s.reading ++ [' '] ++ ("Writing:".toList ++ [' '] ++
      (decimal s.writing ++ [' '] ++ ("Waiting:".toList ++ [' '] ++ decimal s.waiting))))]

theorem StubStatus.layout_rendered (s : StubStatus) : Layout s s.rendered := by
  have hgap : Blank [' '] := by decide
  have hthen : ∀ {w t : List Char} {ws : List (List Char)}, IsWord w → Spaced ws t →
      Spaced (w :: ws) (w ++ [' '] ++ t) := fun hw ht =>
    .cons hw hgap (List.cons_ne_nil _ _) ht
  have hnumber : ∀ n, IsWord (decimal n) := fun n => (isInteger_decimal n).isWord
  refine .mk hgap ?_ ?_ ?_
  · exact hthen (by decide) <| hthen (by decide) <| hthen (by decide) <| .word (by decide)
  · exact hthen (hnumber _) <| hthen (hnumber _) <| .word (hnumber _)
  · exact hthen (by decide) <| hthen (hnumber _) <| hthen (by decide) <| hthen (hnumber _) <|
      hthen (by decide) <| .word (hnumber _)

/-- The line is none of those that are read: it is not about active connections,
does not list the kinds, and is not three numbers of which the first is
positive. -/
structure Foreign (line : List Char) : Prop where
  title : ¬ activeTitle <+: trim line
  kinds : ∀ reading writing waiting, words line ≠ ["Reading:".toList, reading,
    "Writing:".toList, writing, "Waiting:".toList, waiting]
  totals : ∀ a b c x y z, words line = [a, b, c] → IsInteger a x ∧ IsInt64 x →
    IsInteger b y ∧ IsInt64 y → IsInteger c z ∧ IsInt64 z → x ≤ 0

-- ================================================================ parts

/-- What a line can set. -/
inductive Part
  | active
  | totals
  | kinds
  | nothing

/-- Sets a part of what is read to what the counters say. Totals are only taken
over if connections were accepted. -/
def Part.set (s : StubStatus) : Part → Page → Page
  | active, p => { p with active := some s.active }
  | totals, p =>
    if 0 < s.accepts then
      { p with counters := { p.counters with
        accepts := s.accepts, handled := s.handled, requests := s.requests } }
    else p
  | kinds, p =>
    { p with counters := { p.counters with
      reading := s.reading, writing := s.writing, waiting := s.waiting } }
  | nothing, p => p

theorem Part.set_comm (s : StubStatus) (a b : Part) (p : Page) :
    b.set s (a.set s p) = a.set s (b.set s p) := by
  cases a <;> cases b <;> simp only [Part.set] <;> split <;> rfl

-- ============================================================ its lines

variable {s : StubStatus} {rows : List (List Char)}

theorem Foreign.addLine_eq (h : Foreign line) (p : Page) : p.addLine line = p := by
  rw [Page.addLine_of_not_title h.title]
  unfold StubStatus.addWords
  split
  · rename_i hwords
    rw [if_neg]
    intro htitles
    obtain ⟨rfl, rfl, rfl⟩ := htitles
    exact h.kinds _ _ _ hwords
  · rename_i hwords
    split
    · rename_i hx hy hz
      rw [int64?_eq_some_iff] at hx hy hz
      have hnotPositive := h.totals _ _ _ _ _ _ hwords hx hy hz
      rw [if_neg (by omega)]
    · rfl
  · rfl

theorem foldl_addLine_of_foreign {others : List (List Char)}
    (h : ∀ line ∈ others, Foreign line) (p : Page) : others.foldl Page.addLine p = p := by
  induction others with
  | nil => rfl
  | cons line others ih =>
    obtain ⟨hline, hothers⟩ := List.forall_mem_cons.mp h
    rw [List.foldl_cons, hline.addLine_eq, ih hothers]

/-- A text of words is not about active connections if it begins otherwise. -/
theorem not_title_of_spaced {w s : List Char} {ws : List (List Char)} (h : Spaced (w :: ws) s)
    (hw : 'A' ∉ w) : ¬ activeTitle <+: trim s := by
  intro htitle
  rw [h.trim_eq] at htitle
  have hprefix : ∃ after, s = w ++ after ∧ w ≠ [] := by
    cases h with
    | word hw => exact ⟨[], (List.append_nil w).symm, hw.nonempty⟩
    | cons hw _ _ _ => exact ⟨_, List.append_assoc _ _ _, hw.nonempty⟩
  obtain ⟨after, rfl, hnonempty⟩ := hprefix
  obtain ⟨c, r, rfl⟩ := List.exists_cons_of_ne_nil hnonempty
  have hc : 'A' = c := (List.cons_prefix_cons.mp htitle).1
  exact hw (hc ▸ List.mem_cons_self)

theorem not_mem_decimal {c : Char} (hc : c.isDigit = false) (hplus : c ≠ '+') (hminus : c ≠ '-')
    (n : Int) : c ∉ decimal n :=
  (isInteger_decimal n).not_mem hc hplus hminus

theorem addLine_activeLine {gap : List Char} {n : Int} (hgap : Blank gap) (hn : IsInt64 n)
    (p : Page) : p.addLine (activeTitle ++ (gap ++ decimal n)) = { p with active := some n } := by
  have hword : IsWord (decimal n) := (isInteger_decimal n).isWord
  have hnumber : trim (gap ++ decimal n) = decimal n := by
    have hpadded := Text.trim_padded hgap (fun _ hc => absurd hc List.not_mem_nil) (decimal n)
    rw [List.append_nil] at hpadded
    rw [hpadded, (Spaced.word hword).trim_eq]
  have hline : trim (activeTitle ++ (gap ++ decimal n)) = activeTitle ++ (gap ++ decimal n) := by
    have hfirst : IsWord "Active".toList := by decide
    rw [trim, show activeTitle = "Active".toList ++ " connections:".toList from rfl,
      List.append_assoc, Text.trimStart_append_of_isWord hfirst, ← List.append_assoc,
      ← List.append_assoc, Text.trimEnd_append_of_isWord hword]
  rw [Page.addLine_of_title hline, hnumber, int64?_decimal hn]

theorem foreign_titles {titles : List Char}
    (h : Spaced ["server".toList, "accepts".toList, "handled".toList, "requests".toList] titles) :
    Foreign titles where
  title := not_title_of_spaced h (by decide)
  kinds _ _ _ hwords := by
    rw [h.words_eq] at hwords
    cases hwords
  totals _ _ _ _ _ _ hwords := by
    rw [h.words_eq] at hwords
    cases hwords

theorem addLine_totals {totals : List Char} (hs : s.Counts)
    (h : Spaced [decimal s.accepts, decimal s.handled, decimal s.requests] totals) (p : Page) :
    p.addLine totals = Part.totals.set s p := by
  have hnotTitle := not_title_of_spaced h (not_mem_decimal (by decide) (by decide) (by decide) _)
  rw [Page.addLine_of_not_title hnotTitle, h.words_eq, StubStatus.addWords,
    int64?_decimal hs.accepts, int64?_decimal hs.handled, int64?_decimal hs.requests]
  simp only [Part.set]
  split
  · rfl
  · rfl

theorem addLine_kinds {kinds : List Char} (hs : s.Counts)
    (h : Spaced ["Reading:".toList, decimal s.reading, "Writing:".toList, decimal s.writing,
      "Waiting:".toList, decimal s.waiting] kinds) (p : Page) :
    p.addLine kinds = Part.kinds.set s p := by
  rw [Page.addLine_of_not_title (not_title_of_spaced h (by decide)), h.words_eq,
    StubStatus.addWords, if_pos ⟨rfl, rfl, rfl⟩, int64?_decimal hs.reading,
    int64?_decimal hs.writing, int64?_decimal hs.waiting]
  rfl

/-- Each line of the layout sets one part. -/
theorem Layout.sets (h : Layout s rows) (hs : s.Counts) :
    ∀ row ∈ rows, ∃ part : Part, ∀ p : Page, p.addLine row = part.set s p := by
  cases h with
  | mk hgap htitles htotals hkinds =>
    intro row hrow
    simp only [List.mem_cons, List.not_mem_nil, or_false] at hrow
    obtain rfl | rfl | rfl | rfl := hrow
    · exact ⟨.active, addLine_activeLine hgap hs.active⟩
    · exact ⟨.nothing, (foreign_titles htitles).addLine_eq⟩
    · exact ⟨.totals, addLine_totals hs htotals⟩
    · exact ⟨.kinds, addLine_kinds hs hkinds⟩

/-- What the layout sets is all that there is. -/
theorem Layout.foldl_addLine (h : Layout s rows) (hs : s.Counts) :
    rows.foldl Page.addLine {} = { counters := { s with active := 0 }, active := some s.active } := by
  cases h with
  | mk hgap htitles htotals hkinds =>
    simp only [List.foldl_cons, List.foldl_nil, addLine_activeLine hgap hs.active,
      (foreign_titles htitles).addLine_eq, addLine_totals hs htotals, addLine_kinds hs hkinds,
      Part.set]
    obtain hpositive | ⟨haccepts, hhandled, hrequests⟩ := hs.started
    · rw [if_pos hpositive]
    · rw [if_neg (by omega), haccepts, hhandled, hrequests]

-- ============================================================= a page

/-- A line as it is written: what it says, with white space around it, and with
or without a carriage return in its end. -/
structure WrittenLine where
  before : List Char
  content : List Char
  after : List Char
  crlf : Bool
  blank_before : Blank before
  blank_after : Blank after
  unbroken : '\n' ∉ before ++ content ++ after

/-- The text of a line, up to the line feed. -/
def WrittenLine.text (l : WrittenLine) : List Char :=
  l.before ++ l.content ++ l.after ++ if l.crlf then ['\r'] else []

/-- The text of a page; its last line may lack the line feed. -/
def pageText (closed : Bool) : List WrittenLine → List Char
  | [] => []
  | [l] => if closed then l.text ++ ['\n'] else l.text
  | l :: l' :: ls => l.text ++ '\n' :: pageText closed (l' :: ls)

/-- The page has the lines of the layout and otherwise foreign ones, in any
order. -/
def Shows (page : List WrittenLine) (s : StubStatus) : Prop :=
  ∃ rows others, Layout s rows ∧ (∀ line ∈ others, Foreign line) ∧
    (page.map (·.content)).Perm (rows ++ others)

variable {page : List WrittenLine}

theorem WrittenLine.trim_text (l : WrittenLine) : trim l.text = trim l.content := by
  have hend : Blank (if l.crlf then ['\r'] else []) := by
    split <;> decide
  rw [text, Text.trim_append_blank hend, Text.trim_padded l.blank_before l.blank_after]

theorem WrittenLine.not_mem_text (l : WrittenLine) : '\n' ∉ l.text := by
  have hend : '\n' ∉ (if l.crlf then ['\r'] else []) := by
    split <;> decide
  rw [text, List.mem_append]
  exact not_or_intro l.unbroken hend

theorem foldl_lines_pageText (closed : Bool) (page : List WrittenLine) (p : Page) :
    (Text.lines (pageText closed page)).foldl Page.addLine p
      = (page.map (·.content)).foldl Page.addLine p := by
  have hclosed : ∀ (l : WrittenLine) (rest : List Char) (p : Page),
      (Text.lines (l.text ++ '\n' :: rest)).foldl Page.addLine p
        = (Text.lines rest).foldl Page.addLine (p.addLine l.content) := by
    intro l rest p
    have htrim : trim (Text.dropReturn l.text) = trim l.content :=
      (Text.trim_dropReturn l.text).trans l.trim_text
    rw [Text.lines_append l.not_mem_text, List.foldl_cons, Page.addLine_congr htrim]
  fun_induction pageText closed page generalizing p with
  | case1 => rfl
  | case2 l => exact hclosed l [] p
  | case3 l =>
    rw [Text.lines_of_unbroken l.not_mem_text]
    split
    · rename_i hempty
      have htrim : trim l.content = trim [] := by rw [← l.trim_text, hempty]
      exact (Page.addLine_congr htrim p).symm
    · exact Page.addLine_congr l.trim_text p
  | case4 l l' ls ih =>
    rw [hclosed, ih]
    rfl

/-- A page that shows counters is read as them. -/
theorem Shows.ofText? {closed : Bool} (h : Shows page s) (hs : s.Counts) :
    StubStatus.ofText? (pageText closed page) = some s := by
  obtain ⟨rows, others, hlayout, hforeign, hperm⟩ := h
  have hsets : ∀ line ∈ page.map (·.content),
      ∃ part : Part, ∀ p : Page, p.addLine line = part.set s p := by
    intro line hline
    cases List.mem_append.mp (hperm.mem_iff.mp hline) with
    | inl hrow => exact hlayout.sets hs line hrow
    | inr hother => exact ⟨.nothing, (hforeign line hother).addLine_eq⟩
  have hcomm : ∀ x ∈ page.map (·.content), ∀ y ∈ page.map (·.content), ∀ p : Page,
      (p.addLine x).addLine y = (p.addLine y).addLine x := by
    intro x hx y hy p
    obtain ⟨a, ha⟩ := hsets x hx
    obtain ⟨b, hb⟩ := hsets y hy
    rw [ha, hb, hb, ha, Part.set_comm]
  rw [StubStatus.ofText?, foldl_lines_pageText, hperm.foldl_eq' hcomm, List.foldl_append,
    hlayout.foldl_addLine hs, foldl_addLine_of_foreign hforeign]
  rfl

/-- Counters are read back from every page that shows them: with any white space
around its lines, with either kind of line ends, in any order, and with foreign
lines anywhere. And a text is refused exactly if it has no line of active
connections or the last such line has no number. -/
theorem status_page_is_read_back :
    (∀ (s : StubStatus) (page : List WrittenLine) (closed : Bool), s.Counts → Shows page s →
      StubStatus.ofText? (pageText closed page) = some s) ∧
    ∀ text, StubStatus.ofText? text = none ↔
      (∀ line ∈ Text.lines text, ¬ activeTitle <+: trim line) ∨
        ∃ rest, LastTitled (Text.lines text) rest ∧
          ∀ n, IsInt64 n → ¬ IsInteger (trim rest) n := by
  constructor
  · intro s page closed hs hshows
    exact hshows.ofText? hs
  · intro text
    exact ofText?_eq_none_iff

/-- The counters of a server that has run for a while. -/
def busy : StubStatus := ⟨291, 16630948, 16630946, 31070465, 6, 179, 106⟩

theorem foreign_no_totals : Foreign "0 6 1".toList := by
  have hline : words "0 6 1".toList = ["0".toList, "6".toList, "1".toList] := by decide
  have hzero : int64? "0".toList = some 0 := by decide
  constructor
  · decide
  · intro _ _ _ hwords
    rw [hline] at hwords
    cases hwords
  · intro a b c x _ _ hwords ha _ _
    rw [hline] at hwords
    cases hwords
    rw [← int64?_eq_some_iff, hzero] at ha
    cases ha
    exact Int.le_refl 0

/-- The lines of the layout from the last to the first, as a server ends them
that writes carriage returns, with a foreign line of numbers between them. -/
def shuffledPage : List WrittenLine :=
  ["Reading: 6 Writing: 179 Waiting: 106", "0 6 1", "16630948 16630946 31070465",
    "server accepts handled requests", "Active connections: 291"].pmap
    (fun line (h : '\n' ∉ line.toList) =>
      { before := [], content := line.toList, after := [' '], crlf := true
        blank_before := by decide, blank_after := by decide, unbroken := by simp [h] })
    (by decide)

theorem shuffled_page_is_read_back :
    StubStatus.ofText? (pageText false shuffledPage) = some busy ∧
      StubStatus.ofText? "Active connections: 291\nActive connections: -\n".toList = none := by
  refine ⟨status_page_is_read_back.1 busy shuffledPage false ?_ ?_,
    status_page_is_read_back.2 _ |>.mpr (.inr ?_)⟩
  · constructor <;> decide
  · refine ⟨busy.rendered, ["0 6 1".toList], busy.layout_rendered, ?_, by decide⟩
    intro line hline
    rw [List.mem_singleton.mp hline]
    exact foreign_no_totals
  · exact ⟨" -".toList, ⟨["Active connections: 291".toList], "Active connections: -".toList, [],
      by decide, by decide, by decide⟩, int64?_eq_none_iff.mp (by decide)⟩

end HostTelemetry.Nginx
