import FirmwareHeader.Numeral.Reader
import Mathlib.Data.List.DropRight

namespace FirmwareHeader

namespace Text

structure Trimmed (cs core : List Char) : Prop where
  blanks_around : ∃ front back, cs = front ++ core ++ back ∧
    (∀ c ∈ front, isBlank c) ∧ ∀ c ∈ back, isBlank c
  head_not_blank : ∀ c ∈ core.head?, ¬isBlank c
  last_not_blank : ∀ c ∈ core.getLast?, ¬isBlank c

theorem trim_eq (cs : List Char) : trim cs = (cs.dropWhile isBlank).rdropWhile isBlank := rfl

theorem trimmed_trim (cs : List Char) : Trimmed cs (trim cs) where
  blanks_around := by
    refine ⟨cs.takeWhile isBlank, (cs.dropWhile isBlank).rtakeWhile isBlank, ?_, ?_, ?_⟩
    · rw [trim_eq, List.append_assoc, List.rdropWhile_append_rtakeWhile,
        List.takeWhile_append_dropWhile]
    · exact fun c hc => List.mem_takeWhile_imp hc
    · exact fun c hc => List.mem_rtakeWhile_imp hc
  head_not_blank := by
    intro c hc
    obtain ⟨back, hback⟩ := List.rdropWhile_prefix isBlank (cs.dropWhile isBlank)
    have hhead : (cs.dropWhile isBlank).head? = some c := by
      rw [← hback, List.head?_append, ← trim_eq, Option.mem_def.mp hc, Option.some_or]
    have hnot := List.head?_dropWhile_not isBlank cs
    rw [hhead] at hnot
    simpa using hnot
  last_not_blank := by
    intro c hc
    obtain ⟨hne, rfl⟩ := List.mem_getLast?_eq_getLast hc
    exact List.rdropWhile_last_not _ _ hne

theorem Trimmed.eq_trim {cs core : List Char} (h : Trimmed cs core) : core = trim cs := by
  obtain ⟨⟨front, back, rfl, hfront, hback⟩, hhead, hlast⟩ := h
  rw [trim_eq, List.append_assoc, List.dropWhile_append_of_pos hfront]
  cases core with
  | nil =>
      have hall : List.dropWhile isBlank back = [] := List.dropWhile_eq_nil_iff.mpr hback
      rw [List.nil_append, hall, List.rdropWhile_nil]
  | cons c rest =>
      rw [List.cons_append, List.dropWhile_cons_of_neg (hhead c rfl), ← List.cons_append,
        List.rdropWhile, List.reverse_append,
        List.dropWhile_append_of_pos (by simpa using hback), ← List.rdropWhile]
      symm
      rw [List.rdropWhile_eq_self_iff]
      intro hne
      exact hlast _ (List.getLast?_eq_some_getLast hne)

end Text

namespace Numeral

open Text

/-- Behind the mark `0x` or `0X` at the head of `core`, if it has one, stands `rest`. -/
def Unmarked (core rest : List Char) : Prop :=
  core = '0' :: 'x' :: rest ∨ core = '0' :: 'X' :: rest ∨
    core = rest ∧ ¬['0', 'x'] <+: core ∧ ¬['0', 'X'] <+: core

/-- Taking away the blanks around a text, and then at most one mark in front, leaves `rest`. -/
def Bared (text : String) (rest : List Char) : Prop :=
  ∃ core, Trimmed text.toList core ∧ Unmarked core rest

theorem unmarked_iff {core rest : List Char} : Unmarked core rest ↔ rest = dropMark core := by
  constructor
  · rintro (rfl | rfl | ⟨rfl, hlower, hupper⟩)
    · rfl
    · rfl
    · unfold dropMark
      split
      · exact absurd (List.prefix_append ['0', 'x'] _) hlower
      · exact absurd (List.prefix_append ['0', 'X'] _) hupper
      · rfl
  · rintro rfl
    unfold dropMark
    split
    · exact .inl rfl
    · exact .inr (.inl rfl)
    · next hlower hupper =>
      refine .inr (.inr ⟨rfl, ?_, ?_⟩)
      · rintro ⟨cs, rfl⟩
        exact hlower cs rfl
      · rintro ⟨cs, rfl⟩
        exact hupper cs rfl

theorem bared_iff {text : String} {rest : List Char} : Bared text rest ↔ rest = body text := by
  constructor
  · rintro ⟨core, htrimmed, hunmarked⟩
    rw [unmarked_iff.mp hunmarked, htrimmed.eq_trim, body]
  · rintro rfl
    exact ⟨_, trimmed_trim _, unmarked_iff.mpr rfl⟩

end Numeral

end FirmwareHeader
