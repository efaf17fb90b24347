/-
Which redirects count as the web interface.

A location is cut as an address is: an optional scheme with an authority, the
path, and what stands behind the path. A redirect stays under the interface if
its path is `/admin` or goes on below it. What is looked at, however, is whether
`/admin` occurs anywhere. An occurrence begins with a slash and holds no other
character at which a location is cut, so it lies within one part, and the parts
can be gone through one by one: it may be the beginning of the authority, lie
anywhere in the path, or stand behind the path. So every redirect that stays is
accepted, and others are accepted where one of the ways in which a location
strays (`Strays`) is met.
-/
import HostTelemetry.PiHole.Plugin
import HostTelemetry.Proofs.Text.Cuts

namespace HostTelemetry

namespace Http

open Text (infix_append_iff)

-- ============================================================= locations

/-- Whether a scheme may have the character. -/
def isSchemeChar (c : Char) : Bool := c.isAlphanum || c = '+' || c = '-' || c = '.'

/-- Whether a path ends before the character. -/
def endsPath (c : Char) : Bool := c = '?' || c = '#'

/-- Whether an authority ends before the character. -/
def endsAuthority (c : Char) : Bool := c = '/' || endsPath c

/-- A location, cut into its parts. -/
structure Location where
  /-- The scheme and the authority behind it, if they are given. -/
  origin : Option (List Char × List Char)
  path : List Char
  /-- The query and the fragment, with the marks that set them apart. -/
  extra : List Char
deriving DecidableEq, Repr

namespace Location

/-- A path with what stands behind it. -/
def ofPath (origin : Option (List Char × List Char)) (s : List Char) : Location where
  origin := origin
  path := s.takeWhile fun c => !endsPath c
  extra := s.dropWhile fun c => !endsPath c

/-- What stands behind the scheme and its mark, if the text begins with one. -/
def afterScheme? (s : List Char) : Option (List Char) :=
  if s.head?.any Char.isAlpha then Text.dropStart? "://".toList (s.dropWhile isSchemeChar)
  else none

/-- Cuts a location. -/
def ofText (s : List Char) : Location :=
  match afterScheme? s with
  | some r =>
    ofPath (some (s.takeWhile isSchemeChar, r.takeWhile fun c => !endsAuthority c))
      (r.dropWhile fun c => !endsAuthority c)
  | none => ofPath none s

/-- The text in front of the path. -/
def originText : Option (List Char × List Char) → List Char
  | some (scheme, authority) => scheme ++ ("://".toList ++ authority)
  | none => []

/-- The text that is cut. -/
def toText (l : Location) : List Char := originText l.origin ++ (l.path ++ l.extra)

/-- The parts of a location end where an address is cut. -/
structure WellCut (l : Location) : Prop where
  scheme : ∀ scheme authority, l.origin = some (scheme, authority) → '/' ∉ scheme
  authority : ∀ scheme authority, l.origin = some (scheme, authority) → '/' ∉ authority
  rooted : l.origin ≠ none → ∀ c ∈ (l.path ++ l.extra).head?, endsAuthority c = true
  extra : ∀ c ∈ l.extra.head?, endsPath c = true

-- =============================================================== cutting

theorem toText_ofPath (origin : Option (List Char × List Char)) (s : List Char) :
    (ofPath origin s).toText = originText origin ++ s := by
  rw [toText, ofPath, List.takeWhile_append_dropWhile]

theorem afterScheme?_eq_some {s r : List Char} (h : afterScheme? s = some r) :
    s = s.takeWhile isSchemeChar ++ ("://".toList ++ r) := by
  rw [afterScheme?, Option.ite_none_right_eq_some, Text.dropStart?_eq_some_iff] at h
  rw [← h.2, List.takeWhile_append_dropWhile]

theorem toText_ofText (s : List Char) : (ofText s).toText = s := by
  rw [ofText]
  split
  · rename_i r hr
    rw [toText_ofPath, originText, List.append_assoc, List.append_assoc,
      List.takeWhile_append_dropWhile]
    exact (afterScheme?_eq_some hr).symm
  · rw [toText_ofPath]
    rfl

/-- Behind the longest beginning that meets a condition stands what fails it. -/
theorem of_mem_head?_dropWhile {p : Char → Bool} {s : List Char} {c : Char}
    (h : c ∈ (s.dropWhile fun c => !p c).head?) : p c = true := by
  have hnot := List.head?_dropWhile_not (fun c => !p c) s
  rw [Option.mem_def.mp h] at hnot
  simpa using hnot

theorem wellCut_ofText (s : List Char) : (ofText s).WellCut := by
  rw [ofText]
  split
  · rename_i r hr
    constructor
    · intro scheme authority horigin hslash
      cases horigin
      exact absurd (List.mem_takeWhile_imp hslash) (by decide)
    · intro scheme authority horigin hslash
      cases horigin
      exact absurd (List.mem_takeWhile_imp hslash) (by decide)
    · intro _ c hc
      rw [ofPath, List.takeWhile_append_dropWhile] at hc
      exact of_mem_head?_dropWhile hc
    · intro c hc
      exact of_mem_head?_dropWhile hc
  · constructor
    · intro _ _ horigin
      cases horigin
    · intro _ _ horigin
      cases horigin
    · intro horigin
      exact absurd rfl horigin
    · intro c hc
      exact of_mem_head?_dropWhile hc

-- ======================================================== the interface

/-- The path is that of the interface or lies below it. -/
def StaysUnderAdmin (l : Location) : Prop :=
  l.path = "/admin".toList ∨ "/admin/".toList <+: l.path

instance (l : Location) : Decidable l.StaysUnderAdmin :=
  inferInstanceAs (Decidable (_ ∨ _))

/-- The ways in which a location names the interface without staying under it. -/
inductive Strays (l : Location) : Prop
  /-- The authority begins with the name. -/
  | host {scheme rest : List Char} (h : l.origin = some (scheme, "admin".toList ++ rest))
  /-- The first segment of the path goes on behind the name. -/
  | longer {c : Char} {rest : List Char} (h : l.path = "/admin".toList ++ c :: rest)
      (hc : c ≠ '/')
  /-- The name stands further down in the path. -/
  | deeper {before after : List Char} (h : l.path = before ++ "/admin".toList ++ after)
      (hbefore : before ≠ [])
  /-- The name stands in the query or the fragment. -/
  | behind (h : "/admin".toList <:+: l.extra)

variable {l : Location}

/-- In the path, the name is either at the beginning and ends a segment there,
or the location strays. -/
theorem infix_path (h : "/admin".toList <:+: l.path) : l.StaysUnderAdmin ∨ l.Strays := by
  obtain ⟨before, after, hpath⟩ := h
  cases before with
  | cons b before => exact .inr (.deeper hpath.symm (List.cons_ne_nil b before))
  | nil =>
    cases after with
    | nil => exact .inl (.inl (by rw [← hpath, List.nil_append, List.append_nil]))
    | cons c rest =>
      by_cases hc : c = '/'
      · subst hc
        exact .inl (.inr ⟨rest, by rw [← hpath]; rfl⟩)
      · exact .inr (.longer hpath.symm hc)

theorem StaysUnderAdmin.infix_path (h : l.StaysUnderAdmin) : "/admin".toList <:+: l.path := by
  cases h with
  | inl heq => exact heq ▸ List.infix_rfl
  | inr hbelow =>
    have hname : "/admin".toList <+: "/admin/".toList := by decide
    exact (hname.trans hbelow).isInfix

/-- Of the text in front of the path, only the mark and the authority behind it
can hold the name together. -/
theorem infix_originText_iff {scheme authority : List Char} (hscheme : '/' ∉ scheme)
    (hauthority : '/' ∉ authority) :
    "/admin".toList <:+: originText (some (scheme, authority)) ↔
      "admin".toList <+: authority := by
  have hnotScheme : ¬ "/admin".toList <:+: scheme := fun h => hscheme (h.subset (by decide))
  have hnotAuthority : ¬ "/admin".toList <:+: authority := fun h =>
    hauthority (h.subset (by decide))
  have hmark : ∀ c ∈ ("://".toList ++ authority).head?, c ∉ "/admin".toList.tail := by
    intro c hc
    cases hc
    decide
  rw [originText, infix_append_iff hmark, or_iff_right hnotScheme]
  -- Of the three characters of the mark, the last is where an occurrence can begin.
  show "/admin".toList <:+: ':' :: '/' :: '/' :: authority ↔ _
  simp only [List.infix_cons_iff, String.reduceToList, List.cons_prefix_cons, Char.reduceEq,
    false_and, true_and, false_or]
  exact or_iff_left hnotAuthority

theorem Strays.infix_toText (h : l.Strays) : "/admin".toList <:+: l.toText := by
  have hpath : l.path <:+: l.toText := ⟨originText l.origin, l.extra, by simp [toText]⟩
  cases h with
  | @host scheme rest horigin =>
    refine ⟨scheme ++ ":/".toList, rest ++ (l.path ++ l.extra), ?_⟩
    rw [toText, horigin]
    simp [originText]
  | longer hlonger _ => exact List.IsInfix.trans ⟨[], _, hlonger.symm⟩ hpath
  | deeper hdeeper _ => exact List.IsInfix.trans ⟨_, _, hdeeper.symm⟩ hpath
  | behind hbehind =>
    exact hbehind.trans ⟨originText l.origin ++ l.path, [], by simp [toText]⟩

/-- The name occurs in the text of a location exactly if the location stays
under it or strays in one of the ways. -/
theorem WellCut.infix_toText_iff (hl : l.WellCut) :
    "/admin".toList <:+: l.toText ↔ l.StaysUnderAdmin ∨ l.Strays := by
  have hmark : ∀ c, endsAuthority c = true → c ∉ "/admin".toList.tail := by
    intro c hc hmem
    have hnone : "/admin".toList.tail.any endsAuthority = false := by decide
    exact List.any_eq_false.mp hnone c hmem hc
  constructor
  · intro hinfix
    have hbehind : ∀ c ∈ l.extra.head?, c ∉ "/admin".toList.tail := by
      intro c hc
      exact hmark c (by rw [endsAuthority, hl.extra c hc, Bool.or_true])
    cases horigin : l.origin with
    | none =>
      rw [toText, horigin, originText, List.nil_append, infix_append_iff hbehind] at hinfix
      exact hinfix.elim infix_path fun h => .inr (.behind h)
    | some parts =>
      obtain ⟨scheme, authority⟩ := parts
      have hrooted : ∀ c ∈ (l.path ++ l.extra).head?, c ∉ "/admin".toList.tail := fun c hc =>
        hmark c (hl.rooted (by rw [horigin]; exact Option.some_ne_none _) c hc)
      rw [toText, horigin, infix_append_iff hrooted, infix_append_iff hbehind,
        infix_originText_iff (hl.scheme _ _ horigin) (hl.authority _ _ horigin)] at hinfix
      obtain ⟨rest, rfl⟩ | hpath | hextra := hinfix
      · exact .inr (.host horigin)
      · exact infix_path hpath
      · exact .inr (.behind hextra)
  · intro h
    cases h with
    | inl hstays =>
      exact hstays.infix_path.trans ⟨originText l.origin, l.extra, by simp [toText]⟩
    | inr hstrays => exact hstrays.infix_toText

end Location

end Http

namespace PiHole

open Http (Location Sighting)

/-- The redirect stays under the interface. -/
def StaysUnderAdmin (s : Sighting) : Prop :=
  ∃ l, s.location = some l ∧ (Location.ofText l.toList).StaysUnderAdmin

theorem accepts_redirect_iff {s : Sighting} (h : s.isRedirect = true) :
    looksLikeAdmin s = true ↔
      StaysUnderAdmin s ∨ ∃ l, s.location = some l ∧ (Location.ofText l.toList).Strays := by
  rw [looksLikeAdmin, if_pos h]
  cases hlocation : s.location with
  | none => simp [StaysUnderAdmin, hlocation]
  | some l =>
    have hinfix := (Location.wellCut_ofText l.toList).infix_toText_iff
    rw [Location.toText_ofText, ← Text.occursIn_iff] at hinfix
    simpa [StaysUnderAdmin, hlocation] using hinfix

/-- A redirect is accepted exactly if its location stays under the interface or
strays from it in one of the ways. So every redirect that stays is accepted, and
only those are if no location strays that does not stay as well. -/
theorem redirect_is_accepted_iff {s : Sighting} (h : s.isRedirect = true) :
    (looksLikeAdmin s = true ↔
      StaysUnderAdmin s ∨ ∃ l, s.location = some l ∧ (Location.ofText l.toList).Strays) ∧
    ((looksLikeAdmin s = true ↔ StaysUnderAdmin s) ↔
      ∀ l, s.location = some l → (Location.ofText l.toList).Strays → StaysUnderAdmin s) := by
  refine ⟨accepts_redirect_iff h, ?_⟩
  rw [accepts_redirect_iff h]
  constructor
  · intro hexact l hl hstrays
    exact hexact.mp (.inr ⟨l, hl, hstrays⟩)
  · intro hnone
    constructor
    · intro haccepted
      obtain hstays | ⟨l, hl, hstrays⟩ := haccepted
      · exact hstays
      · exact hnone l hl hstrays
    · intro hstays
      exact .inl hstays

/-- An answer that points to a location. -/
def redirectTo (location : String) : Sighting := ⟨302, some location, []⟩

theorem staysUnderAdmin_redirectTo {location : String} :
    StaysUnderAdmin (redirectTo location) ↔ (Location.ofText location.toList).StaysUnderAdmin := by
  simp [StaysUnderAdmin, redirectTo]

/-- The login page of the interface is accepted because it stays, and a longer
name because it strays. -/
theorem login_and_longer_name_are_accepted :
    looksLikeAdmin (redirectTo "http://pi.hole/admin/login?next=/admin/") = true ∧
      StaysUnderAdmin (redirectTo "http://pi.hole/admin/login?next=/admin/") ∧
      looksLikeAdmin (redirectTo "/administrator/index.php") = true ∧
      ¬ StaysUnderAdmin (redirectTo "/administrator/index.php") := by
  have hlogin : StaysUnderAdmin (redirectTo "http://pi.hole/admin/login?next=/admin/") :=
    staysUnderAdmin_redirectTo.mpr (by decide)
  have hlonger : (Location.ofText "/administrator/index.php".toList).Strays :=
    .longer (show _ = "/admin".toList ++ 'i' :: "strator/index.php".toList by decide) (by decide)
  refine ⟨?_, hlogin, ?_, ?_⟩
  · exact (redirect_is_accepted_iff (by decide)).1.mpr (.inl hlogin)
  · exact (redirect_is_accepted_iff (by decide)).1.mpr (.inr ⟨_, rfl, hlonger⟩)
  · exact staysUnderAdmin_redirectTo.not.mpr (by decide)

/-- A login page of something else that keeps the path asked for in its query is
accepted, though it does not stay. -/
theorem echo_in_query_is_accepted :
    (redirectTo "/login?next=/admin/").isRedirect = true ∧
      looksLikeAdmin (redirectTo "/login?next=/admin/") = true ∧
      ¬ StaysUnderAdmin (redirectTo "/login?next=/admin/") := by
  refine ⟨by decide, by decide, ?_⟩
  exact staysUnderAdmin_redirectTo.not.mpr (by decide)

end PiHole

end HostTelemetry
