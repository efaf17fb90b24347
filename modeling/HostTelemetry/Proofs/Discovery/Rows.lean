/-
What the texts of the kernel say about sockets, apart from how they are read.

`ListenRow` says when a line of a table is a socket that listens, and
`NamesSocket` when the target of a descriptor is a socket; each is tied to its
reader by an equivalence, so nothing else is read as a socket and nothing that
is one is passed over. Where several rows have one inode, the last of them
counts (`LastRow`), and a look-up among the sockets of a host is a statement
about the lines of both tables, taken as one list (`get?_sockets_eq_some_iff`).
-/
import HostTelemetry.Discovery.Processes
import Mathlib.Data.List.Induction

namespace HostTelemetry.Discovery

-- ================================================================ lines

/-- The line is a socket that listens: it has ten fields or more, its state says
so, behind the last colon of its local address there is a port in hexadecimal,
and its tenth field is an inode. -/
structure ListenRow (line : List Char) (inode port : Nat) : Prop where
  long : 10 ≤ (Text.words line).length
  state : (Text.words line)[3]? = some "0A".toList
  address : ∃ host digits, (Text.words line)[1]? = some (host ++ ':' :: digits) ∧ ':' ∉ digits ∧
    Text.naturalIn? 16 Text.maxU16 digits = some port
  inode : ∃ digits, (Text.words line)[9]? = some digits ∧
    Text.natural? Text.maxU64 digits = some inode

theorem exists_ten_fields {α : Type} {l : List α} (h : 10 ≤ l.length) :
    ∃ a b c d e f g i j k rest, l = a :: b :: c :: d :: e :: f :: g :: i :: j :: k :: rest := by
  match l, h with
  | a :: b :: c :: d :: e :: f :: g :: i :: j :: k :: rest, _ =>
    exact ⟨a, b, c, d, e, f, g, i, j, k, rest, rfl⟩

theorem listenRow?_of_short {line : List Char} (h : ¬ 10 ≤ (Text.words line).length) :
    listenRow? line = none := by
  unfold listenRow?
  split
  · rename_i hwords
    simp [hwords] at h
  · rfl

theorem listenRow?_eq_some_iff {line : List Char} {inode port : Nat} :
    listenRow? line = some (inode, port) ↔ ListenRow line inode port := by
  by_cases hlong : 10 ≤ (Text.words line).length
  · obtain ⟨a, address, c, state, e, f, g, i, j, number, rest, hwords⟩ := exists_ten_fields hlong
    have hread : listenRow? line = some (inode, port) ↔ state = "0A".toList ∧
        ∃ host digits, (address = host ++ ':' :: digits ∧ ':' ∉ digits) ∧
          Text.naturalIn? 16 Text.maxU16 digits = some port ∧
          Text.natural? Text.maxU64 number = some inode := by
      unfold listenRow? guard
      rw [hwords]
      by_cases hstate : state = "0A".toList
      · simp [hstate, listenState, Option.bind_eq_some_iff, Text.splitLast?_eq_some_iff]
      · simp [show ¬ state = ['0', 'A'] from hstate, listenState]
    rw [hread]
    constructor
    · rintro ⟨hstate, host, digits, ⟨haddress, hcolon⟩, hport, hinode⟩
      exact ⟨hlong, by simp [hwords, hstate], ⟨host, digits, by simp [hwords, haddress], hcolon,
        hport⟩, ⟨number, by simp [hwords], hinode⟩⟩
    · rintro ⟨-, hstate, ⟨host, digits, haddress, hcolon, hport⟩, ⟨number', hnumber, hinode⟩⟩
      simp only [hwords, List.getElem?_cons_succ, List.getElem?_cons_zero, Option.some.injEq]
        at hstate haddress hnumber
      exact ⟨hstate, host, digits, ⟨haddress, hcolon⟩, hport, hnumber ▸ hinode⟩
  · rw [listenRow?_of_short hlong]
    constructor
    · intro h
      cases h
    · intro h
      exact absurd h.long hlong

/-- The last of the lines that is a row of the inode has the port. -/
def LastRow (lines : List (List Char)) (inode port : Nat) : Prop :=
  ∃ before line after, lines = before ++ line :: after ∧ ListenRow line inode port ∧
    ∀ later ∈ after, ∀ port', ¬ ListenRow later inode port'

theorem lastRow_concat_iff {lines : List (List Char)} {line : List Char} {inode port : Nat} :
    LastRow (lines ++ [line]) inode port ↔ ListenRow line inode port ∨
      (∀ port', ¬ ListenRow line inode port') ∧ LastRow lines inode port := by
  constructor
  · rintro ⟨before, row, after, hlines, hrow, hlater⟩
    rcases List.eq_nil_or_concat after with rfl | ⟨after, last, rfl⟩
    · obtain ⟨-, hlast⟩ := List.append_inj' hlines rfl
      obtain rfl := (List.cons.inj hlast).1
      exact .inl hrow
    · rw [List.concat_eq_append, ← List.cons_append, ← List.append_assoc] at hlines
      obtain ⟨hinit, hlast⟩ := List.append_inj' hlines rfl
      obtain rfl := (List.cons.inj hlast).1
      exact .inr ⟨hlater line (by simp), before, row, after, hinit, hrow,
        fun later hmem => hlater later (by simp [hmem])⟩
  · rintro (hrow | ⟨hnot, before, row, after, rfl, hrow, hlater⟩)
    · exact ⟨lines, line, [], rfl, hrow, by simp⟩
    · refine ⟨before, row, after ++ [line], by simp, hrow, ?_⟩
      intro later hmem
      rcases List.mem_append.mp hmem with hafter | hlast
      · exact hlater later hafter
      · rw [List.mem_singleton.mp hlast]
        exact hnot

theorem get?_ofList_rows {lines : List (List Char)} {inode port : Nat} :
    (Dict.ofList (lines.filterMap listenRow?)).get? inode = some port
      ↔ LastRow lines inode port := by
  -- From the last line on: it is a row of the inode, or the lines before it
  -- decide.
  induction lines using List.reverseRecOn with
  | nil =>
    constructor
    · intro h
      cases h
    · rintro ⟨before, line, after, hlines, -⟩
      cases before <;> cases hlines
  | append_singleton lines line ih =>
    rw [lastRow_concat_iff, ← ih, List.filterMap_append]
    cases hline : listenRow? line with
    | none =>
      have hnot : ∀ inode' port', ¬ ListenRow line inode' port' := by
        intro inode' port' hrow
        rw [listenRow?_eq_some_iff.mpr hrow] at hline
        cases hline
      simp [hline, hnot]
    | some row =>
      obtain ⟨inode', port'⟩ := row
      have hiff : ∀ i p, ListenRow line i p ↔ inode' = i ∧ port' = p := by
        intro i p
        rw [← listenRow?_eq_some_iff, hline]
        simp
      simp only [List.filterMap_cons, hline, List.filterMap_nil, Dict.ofList_concat,
        Dict.get?_insert, hiff]
      by_cases hinode : inode' = inode
      · simp [hinode]
      · simp [hinode, Ne.symm hinode]

-- =============================================================== tables

/-- The lines of a table that may be rows: all but the line of titles, and none
if the table cannot be read. -/
def tableLines (table : Option Bytes) : List (List Char) :=
  ((table.bind Text.decode?).map fun text => (Text.lines text).drop 1).getD []

theorem tableRows_eq (table : Option Bytes) :
    tableRows table = (tableLines table).filterMap listenRow? := by
  unfold tableRows tableLines
  cases table.bind Text.decode? <;> rfl

/-- A socket of a host is the last row of its inode, the later table being that
of the later version of the protocol. -/
theorem get?_sockets_eq_some_iff {t : ProcTree} {inode port : Nat} :
    t.sockets.get? inode = some port
      ↔ LastRow (tableLines t.tcp ++ tableLines t.tcp6) inode port := by
  rw [ProcTree.sockets, tableRows_eq, tableRows_eq, ← List.filterMap_append]
  exact get?_ofList_rows

-- ================================================================ links

/-- The target of a descriptor is a socket. -/
def NamesSocket (link : String) (inode : Nat) : Prop :=
  ∃ digits, link.toList = "socket:[".toList ++ (digits ++ [']']) ∧
    Text.natural? Text.maxU64 digits = some inode

theorem socketInode?_eq_some_iff {link : String} {inode : Nat} :
    socketInode? link = some inode ↔ NamesSocket link inode := by
  have hread : socketInode? link = some inode ↔
      ∃ rest, link.toList = "socket:[".toList ++ rest ∧ rest.getLast? = some ']' ∧
        Text.natural? Text.maxU64 rest.dropLast = some inode := by
    unfold socketInode? guard
    simp [Option.bind_eq_some_iff, Text.dropStart?_eq_some_iff]
  rw [hread]
  constructor
  · rintro ⟨rest, hlink, hlast, hinode⟩
    obtain ⟨digits, rfl⟩ := List.getLast?_eq_some_iff.mp hlast
    exact ⟨digits, hlink, by simpa using hinode⟩
  · rintro ⟨digits, hlink, hinode⟩
    exact ⟨digits ++ [']'], hlink, by simp, by simpa using hinode⟩

end HostTelemetry.Discovery
