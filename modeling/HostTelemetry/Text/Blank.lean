/-
White space, and the ways a text is cut along it: the Unicode property
White_Space as a table of ranges, trimming, words, and lines.

Texts are lists of characters here, so that every cut is a recursion on
the data. A line ends at a line feed and gives up one carriage return
before it; the text after the last line feed is a line only when it is
not empty.
-/

namespace HostTelemetry.Text

-- ======================================================== the property

/-- The characters with the property White_Space: closed ranges of code
points, ascending and apart. -/
def blankRanges : List (Nat × Nat) :=
  [(0x09, 0x0D), (0x20, 0x20), (0x85, 0x85), (0xA0, 0xA0), (0x1680, 0x1680),
   (0x2000, 0x200A), (0x2028, 0x2029), (0x202F, 0x202F), (0x205F, 0x205F),
   (0x3000, 0x3000)]

/-- Whether the character is white space. -/
def isBlank (c : Char) : Bool :=
  blankRanges.any fun (lo, hi) => lo ≤ c.toNat && c.toNat ≤ hi

-- ================================================================ cuts

/-- The text without the white space in front. -/
def trimStart (s : List Char) : List Char := s.dropWhile isBlank

/-- The text without the white space at its end. -/
def trimEnd (s : List Char) : List Char :=
  (s.reverse.dropWhile isBlank).reverse

/-- The text without the white space around it. -/
def trim (s : List Char) : List Char := trimEnd (trimStart s)

/-- The pieces between separators, at least one. -/
def splitBy (sep : Char → Bool) (s : List Char) : List (List Char) :=
  go [] [] s
where
  /-- `piece` is the piece being read and `done` the ones before it,
  both in reverse. -/
  go (done : List (List Char)) (piece : List Char) : List Char → List (List Char)
    | [] => (piece.reverse :: done).reverse
    | c :: r => if sep c then go (piece.reverse :: done) [] r else go done (c :: piece) r

/-- The maximal runs of characters that are not white space. -/
def words (s : List Char) : List (List Char) :=
  (splitBy isBlank s).filter fun w => !w.isEmpty

/-- The text without one carriage return at its end. -/
def dropReturn (s : List Char) : List Char :=
  if s.getLast? = some '\r' then s.dropLast else s

/-- The lines of a text: only the pieces that a line feed ended, and a last
piece that is not empty. The carriage return belongs to the line end, so it
is given up only where a line feed follows it. -/
def lines (s : List Char) : List (List Char) :=
  let pieces := splitBy (· = '\n') s
  let ended := pieces.dropLast.map dropReturn
  match pieces.getLast? with
  | some [] | none => ended
  | some last => ended ++ [last]

-- ============================================================== search

/-- Whether `needle` occurs in the text, as a run of neighbours. -/
def occursIn (needle : List Char) : List Char → Bool
  | [] => needle.isEmpty
  | c :: r => needle.isPrefixOf (c :: r) || occursIn needle r

/-- The text in front of the first `sep` and the text behind it. -/
def splitFirst? (sep : Char) : List Char → Option (List Char × List Char)
  | [] => none
  | c :: r =>
    if c = sep then some ([], r)
    else (splitFirst? sep r).map fun (before, after) => (c :: before, after)

/-- The text in front of the last `sep` and the text behind it. -/
def splitLast? (sep : Char) (s : List Char) : Option (List Char × List Char) :=
  (splitFirst? sep s.reverse).map fun (after, before) => (before.reverse, after.reverse)

theorem splitFirst?_eq_some_iff {sep : Char} {s before after : List Char} :
    splitFirst? sep s = some (before, after) ↔ s = before ++ sep :: after ∧ sep ∉ before := by
  induction s generalizing before with
  | nil => simp [splitFirst?]
  | cons c r ih =>
    simp only [splitFirst?]
    by_cases hc : c = sep
    · cases before <;> simp +contextual [hc, eq_comm]
    · rw [if_neg hc, Option.map_eq_some_iff]
      cases before with
      | nil => simp [hc]
      | cons b before =>
        constructor
        · rintro ⟨⟨before', after'⟩, hr, heq⟩
          cases heq
          obtain ⟨rfl, hsep⟩ := ih.mp hr
          exact ⟨rfl, by simp [Ne.symm hc, hsep]⟩
        · rintro ⟨heq, hsep⟩
          obtain ⟨rfl, rfl⟩ := List.cons.inj heq
          exact ⟨_, ih.mpr ⟨rfl, fun hmem => hsep (List.mem_cons_of_mem _ hmem)⟩, rfl⟩

theorem splitLast?_eq_some_iff {sep : Char} {s before after : List Char} :
    splitLast? sep s = some (before, after) ↔ s = before ++ sep :: after ∧ sep ∉ after := by
  simp only [splitLast?, Option.map_eq_some_iff, Prod.exists, Prod.mk.injEq,
    splitFirst?_eq_some_iff]
  constructor
  · rintro ⟨after', before', ⟨hs, hsep⟩, rfl, rfl⟩
    rw [← List.reverse_reverse s, hs]
    simpa using hsep
  · rintro ⟨rfl, hsep⟩
    exact ⟨after.reverse, before.reverse, by simpa using hsep, by simp, by simp⟩

/-- The text behind `start`, if the text begins with it. -/
def dropStart? (start : List Char) (s : List Char) : Option (List Char) :=
  if start.isPrefixOf s then some (s.drop start.length) else none

theorem dropStart?_eq_some_iff {start s rest : List Char} :
    dropStart? start s = some rest ↔ s = start ++ rest := by
  simp only [dropStart?, Option.ite_none_right_eq_some, List.isPrefixOf_iff_prefix,
    Option.some.injEq]
  constructor
  · rintro ⟨⟨rest', rfl⟩, hrest⟩
    rw [← hrest, List.drop_left]
  · rintro rfl
    exact ⟨List.prefix_append _ _, List.drop_left⟩

end HostTelemetry.Text
