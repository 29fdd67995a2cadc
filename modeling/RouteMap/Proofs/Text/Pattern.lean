import Mathlib.Data.List.Forall2

/-!
# Patterns and searches

A *pattern* is a sequence of pieces, each of which takes characters of one class: exactly one,
one if possible, or as many as possible. A text may begin with a pattern in several ways; they
are listed with the preferred one first, where an earlier piece decides before a later one.
A search takes the preferred way at the leftmost place that has one, and goes on behind what
was taken.

The list has all ways there are and no others (`mem_ways_iff`).
-/

namespace RouteMap.Text

/-- A part of a pattern. -/
inductive Piece where
  /-- One character. -/
  | one (p : Char → Bool)
  /-- One character, or none if the rest of the pattern wants it so. -/
  | atMostOne (p : Char → Bool)
  /-- As many characters as the rest of the pattern leaves. -/
  | many (p : Char → Bool)

namespace Piece

/-- The first character of a text, if it is in a class, and what it leaves. -/
def single (p : Char → Bool) : List Char → List (List Char × List Char)
  | [] => []
  | c :: cs => if p c then [([c], cs)] else []

/-- The beginnings of a text in a class, the longest first, each with what it leaves. -/
def beginnings (p : Char → Bool) : List Char → List (List Char × List Char)
  | [] => [([], [])]
  | c :: cs =>
    (if p c then (beginnings p cs).map (fun (taken, rest) => (c :: taken, rest)) else [])
      ++ [([], c :: cs)]

/-- What a piece may take from the beginning of a text and what it leaves, the preferred way
first. -/
def ways : Piece → List Char → List (List Char × List Char)
  | one p, cs => single p cs
  | atMostOne p, cs => single p cs ++ [([], cs)]
  | many p, cs => beginnings p cs

/-- A piece takes a text. -/
inductive Takes : Piece → List Char → Prop
  | one {p : Char → Bool} {c : Char} (h : p c = true) : Takes (one p) [c]
  | none {p : Char → Bool} : Takes (atMostOne p) []
  | some {p : Char → Bool} {c : Char} (h : p c = true) : Takes (atMostOne p) [c]
  | many {p : Char → Bool} {cs : List Char} (h : ∀ c ∈ cs, p c = true) : Takes (many p) cs

variable {p : Char → Bool} {cs taken rest : List Char}

theorem mem_single_iff :
    (taken, rest) ∈ single p cs ↔ ∃ c, p c = true ∧ taken = [c] ∧ cs = c :: rest := by
  constructor
  · intro h
    cases cs with
    | nil => cases h
    | cons c cs =>
      by_cases hc : p c = true
      · rw [single, if_pos hc, List.mem_singleton, Prod.mk.injEq] at h
        obtain ⟨rfl, rfl⟩ := h
        exact ⟨c, hc, rfl, rfl⟩
      · rw [single, if_neg hc] at h
        cases h
  · rintro ⟨c, hc, rfl, rfl⟩
    rw [single, if_pos hc]
    exact List.mem_cons_self

theorem mem_beginnings_iff :
    (taken, rest) ∈ beginnings p cs ↔ cs = taken ++ rest ∧ ∀ c ∈ taken, p c = true := by
  induction cs generalizing taken with
  | nil =>
    rw [beginnings, List.mem_singleton, Prod.mk.injEq]
    constructor
    · rintro ⟨rfl, rfl⟩
      simp
    · rintro ⟨hcs, -⟩
      simpa using hcs.symm
  | cons c cs ih =>
    rw [beginnings, List.mem_append, List.mem_singleton, Prod.mk.injEq]
    constructor
    · rintro (h | ⟨rfl, rfl⟩)
      · by_cases hc : p c = true
        · rw [if_pos hc] at h
          obtain ⟨⟨taken', rest'⟩, hmem, heq⟩ := List.mem_map.mp h
          obtain ⟨rfl, rfl⟩ := Prod.mk.inj heq
          obtain ⟨rfl, hall⟩ := ih.mp hmem
          exact ⟨rfl, List.forall_mem_cons.mpr ⟨hc, hall⟩⟩
        · -- a character outside of the class ends every beginning
          rw [if_neg hc] at h
          cases h
      · exact ⟨rfl, by simp⟩
    · rintro ⟨hcs, hall⟩
      cases taken with
      | nil => exact .inr ⟨rfl, hcs.symm⟩
      | cons d taken =>
        obtain ⟨rfl, rfl⟩ := List.cons.inj hcs
        obtain ⟨hc, hall⟩ := List.forall_mem_cons.mp hall
        rw [if_pos hc]
        exact .inl (List.mem_map.mpr ⟨(taken, rest), ih.mpr ⟨rfl, hall⟩, rfl⟩)

/-- The ways of a piece are the texts that it takes. -/
theorem mem_ways_iff {piece : Piece} :
    (taken, rest) ∈ piece.ways cs ↔ cs = taken ++ rest ∧ piece.Takes taken := by
  cases piece with
  | one p =>
    rw [ways, mem_single_iff]
    constructor
    · rintro ⟨c, hc, rfl, rfl⟩
      exact ⟨rfl, .one hc⟩
    · rintro ⟨rfl, htakes⟩
      cases htakes with
      | one hc => exact ⟨_, hc, rfl, rfl⟩
  | atMostOne p =>
    rw [ways, List.mem_append, mem_single_iff, List.mem_singleton, Prod.mk.injEq]
    constructor
    · rintro (⟨c, hc, rfl, rfl⟩ | ⟨rfl, rfl⟩)
      · exact ⟨rfl, .some hc⟩
      · exact ⟨rfl, .none⟩
    · rintro ⟨rfl, htakes⟩
      cases htakes with
      | none => exact .inr ⟨rfl, rfl⟩
      | some hc => exact .inl ⟨_, hc, rfl, rfl⟩
  | many p =>
    rw [ways, mem_beginnings_iff]
    constructor
    · rintro ⟨hcs, hall⟩
      exact ⟨hcs, .many hall⟩
    · rintro ⟨hcs, htakes⟩
      cases htakes with
      | many hall => exact ⟨hcs, hall⟩

end Piece

/-- A sequence of pieces. -/
abbrev Pattern := List Piece

namespace Pattern

/-- The ways in which a text begins with a pattern, the preferred one first: what each piece
takes and what is left. -/
def ways : Pattern → List Char → List (List (List Char) × List Char)
  | [], cs => [([], cs)]
  | piece :: pattern, cs =>
    (piece.ways cs).flatMap fun (taken, rest) =>
      (ways pattern rest).map fun (parts, rest) => (taken :: parts, rest)

/-- What a pattern that takes at least one character takes at each of its matches in a text,
from left to right. The first `skip` characters belong to a match already. -/
def search (pattern : Pattern) : (skip : Nat) → List Char → List (List (List Char))
  | _, [] => []
  | skip + 1, _ :: cs => search pattern skip cs
  | 0, c :: cs =>
    match (pattern.ways (c :: cs)).head? with
    | some (parts, _) => parts :: search pattern (parts.flatten.length - 1) cs
    | none => search pattern 0 cs

/-- **The ways of a pattern are the divisions of a beginning among its pieces.** -/
theorem mem_ways_iff {pattern : Pattern} {cs rest : List Char} {parts : List (List Char)} :
    (parts, rest) ∈ pattern.ways cs ↔
      cs = parts.flatten ++ rest ∧ List.Forall₂ Piece.Takes pattern parts := by
  induction pattern generalizing cs parts with
  | nil =>
    simp only [ways, List.mem_singleton, Prod.mk.injEq, List.forall₂_nil_left_iff]
    constructor
    · rintro ⟨rfl, rfl⟩
      exact ⟨rfl, rfl⟩
    · rintro ⟨rfl, rfl⟩
      exact ⟨rfl, rfl⟩
  | cons piece pattern ih =>
    simp only [ways, List.mem_flatMap, List.mem_map, Prod.exists, Prod.mk.injEq,
      List.forall₂_cons_left_iff]
    constructor
    · rintro ⟨taken, left, htaken, parts', rest', hparts, rfl, rfl⟩
      obtain ⟨rfl, htakes⟩ := Piece.mem_ways_iff.mp htaken
      obtain ⟨rfl, hall⟩ := ih.mp hparts
      exact ⟨by simp, _, _, htakes, hall, rfl⟩
    · rintro ⟨rfl, taken, parts', htakes, hall, rfl⟩
      refine ⟨taken, parts'.flatten ++ rest, Piece.mem_ways_iff.mpr ⟨by simp, htakes⟩, parts',
        rest, ih.mpr ⟨rfl, hall⟩, rfl, rfl⟩

end Pattern

end RouteMap.Text
