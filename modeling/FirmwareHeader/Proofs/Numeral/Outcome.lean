import FirmwareHeader.Proofs.Numeral.Body
import FirmwareHeader.Proofs.Numeral.Grouping
import Mathlib.Algebra.Group.Nat.Defs
import Mathlib.Tactic.SplitIfs

namespace FirmwareHeader.Numeral

def alphabet : List Char := "0123456789abcdefABCDEF_".toList

/-- What comes of reading `cs`, told from what the characters are and not from how they are read. -/
inductive Outcome (cs : List Char) : Except Fault UInt32 → Prop
  | empty : cs = [] → Outcome cs (.error .empty)
  | invalidDigit {before after : List Char} {c : Char} : cs = before ++ c :: after →
      c ∉ alphabet → (∀ b ∈ before, b ∈ alphabet) → Outcome cs (.error (.invalidDigit c))
  | underscore : cs ≠ [] → (∀ c ∈ cs, c ∈ alphabet) → Misplaced cs → Outcome cs (.error .underscore)
  | tooLarge {gs : List (List Char)} {n : Nat} : Grouped cs gs → Writes gs.flatten n →
      2 ^ 32 ≤ n → Outcome cs (.error .tooLarge)
  | number {gs : List (List Char)} {w : UInt32} : Grouped cs gs → Writes gs.flatten w.toNat →
      Outcome cs (.ok w)

theorem toNat_lt_of_isDigit {c : Char} (h : isDigit c) : c.toNat < 128 := by
  have hle (last : Char) (hc : c ≤ last) (hlast : last.toNat < 128) : c.toNat < 128 :=
    Nat.lt_of_le_of_lt hc hlast
  rw [isDigit, digit?] at h
  split_ifs at h with hten hlower hupper
  · exact hle '9' hten.2 (by decide)
  · exact hle 'f' hlower.2 (by decide)
  · exact hle 'F' hupper.2 (by decide)
  · cases h

theorem not_isForeign_iff_mem (c : Char) : isForeign c = false ↔ c ∈ alphabet := by
  have hascii : ∀ n : Fin 128, isForeign (Char.ofNat n) = false ↔ Char.ofNat n ∈ alphabet := by
    decide +kernel
  by_cases hc : c.toNat < 128
  · have hmem := hascii ⟨c.toNat, hc⟩
    rwa [Char.ofNat_toNat] at hmem
  · have hbelow : alphabet.all (·.toNat < 128) = true := by decide
    constructor
    · intro h
      rcases (not_isForeign_iff c).mp h with hdigit | rfl
      · exact absurd (toNat_lt_of_isDigit hdigit) hc
      · exact absurd (by decide) hc
    · intro h
      exact absurd (of_decide_eq_true (List.all_eq_true.mp hbelow c h)) hc

theorem isForeign_iff_not_mem (c : Char) : isForeign c ↔ c ∉ alphabet := by
  rw [← not_isForeign_iff_mem, Bool.not_eq_false]

theorem find?_isForeign_eq_some_iff {cs : List Char} {c : Char} :
    cs.find? isForeign = some c ↔ ∃ before after, cs = before ++ c :: after ∧ c ∉ alphabet ∧
      ∀ b ∈ before, b ∈ alphabet := by
  rw [List.find?_eq_some_iff_append, isForeign_iff_not_mem]
  simp only [Bool.not_eq_true', not_isForeign_iff_mem]
  grind

theorem find?_isForeign_eq_none_iff {cs : List Char} :
    cs.find? isForeign = none ↔ ∀ c ∈ cs, c ∈ alphabet := by
  simp only [List.find?_eq_none, Bool.not_eq_true, not_isForeign_iff_mem]

theorem grouped_groups_iff {cs : List Char} : Grouped cs (groups cs) ↔
    cs ≠ [] ∧ (∀ c ∈ cs, c ∈ alphabet) ∧ ¬Misplaced cs := by
  simp only [grouped_iff, true_and, nil_mem_groups_iff, not_or, not_isForeign_iff_mem, and_assoc,
    and_comm (a := ¬Misplaced cs)]

theorem readDigits_of_grouped {cs : List Char} {gs : List (List Char)} (h : Grouped cs gs) :
    readDigits cs =
      if value cs < 2 ^ 32 then .ok (UInt32.ofNat (value cs)) else .error .tooLarge := by
  obtain rfl := (grouped_iff.mp h).1
  obtain ⟨hne, hmem, hplaced⟩ := grouped_groups_iff.mp h
  have hnil : [] ∉ groups cs := by
    rw [nil_mem_groups_iff]
    exact not_or.mpr ⟨hne, hplaced⟩
  rw [readDigits, if_neg hne, find?_isForeign_eq_none_iff.mpr hmem]
  simp only [if_neg hnil]
  rfl

theorem Outcome.readDigits_eq {cs : List Char} {result : Except Fault UInt32}
    (h : Outcome cs result) : readDigits cs = result := by
  cases h with
  | empty hnil => rw [readDigits, if_pos hnil]
  | invalidDigit hcs hc hbefore =>
      have hfind := find?_isForeign_eq_some_iff.mpr ⟨_, _, hcs, hc, hbefore⟩
      rw [readDigits, if_neg (by simp [hcs]), hfind]
  | underscore hne hmem hmisplaced =>
      have hnil := (nil_mem_groups_iff cs).mpr (.inr hmisplaced)
      rw [readDigits, if_neg hne, find?_isForeign_eq_none_iff.mpr hmem]
      simp only [if_pos hnil]
  | tooLarge hgrouped hwrites hle =>
      obtain rfl := (writes_flatten_iff hgrouped _).mp hwrites
      rw [readDigits_of_grouped hgrouped, if_neg (by omega)]
  | @number gs w hgrouped hwrites =>
      have hvalue := (writes_flatten_iff hgrouped _).mp hwrites
      rw [readDigits_of_grouped hgrouped, ← hvalue, if_pos w.toNat_lt, UInt32.ofNat_toNat]

theorem outcome_readDigits (cs : List Char) : Outcome cs (readDigits cs) := by
  by_cases hne : cs = []
  · rw [Outcome.readDigits_eq (.empty hne)]
    exact .empty hne
  · cases hfind : cs.find? isForeign with
    | some c =>
        obtain ⟨_, _, hcs, hc, hbefore⟩ := find?_isForeign_eq_some_iff.mp hfind
        have houtcome := Outcome.invalidDigit hcs hc hbefore
        rwa [houtcome.readDigits_eq]
    | none =>
        have hmem := find?_isForeign_eq_none_iff.mp hfind
        by_cases hplaced : Misplaced cs
        · have houtcome := Outcome.underscore hne hmem hplaced
          rwa [houtcome.readDigits_eq]
        · have hgrouped := grouped_groups_iff.mpr ⟨hne, hmem, hplaced⟩
          have hwrites := (writes_flatten_iff hgrouped _).mpr rfl
          rw [readDigits_of_grouped hgrouped]
          split
          · next hlt =>
            refine .number hgrouped ?_
            rwa [UInt32.toNat_ofNat', Nat.mod_eq_of_lt hlt]
          · next hlt => exact .tooLarge hgrouped hwrites (Nat.le_of_not_lt hlt)

theorem readDigits_eq_iff {cs : List Char} {result : Except Fault UInt32} :
    readDigits cs = result ↔ Outcome cs result :=
  ⟨fun h => h ▸ outcome_readDigits cs, Outcome.readDigits_eq⟩

/-- Which texts are numbers, and which numbers they are. -/
theorem read_eq_ok_iff (text : String) : ∃ rest, (∀ cs, Bared text cs ↔ cs = rest) ∧
    (∀ w : UInt32, read text = .ok w ↔
      ∃ gs n, Grouped rest gs ∧ Writes gs.flatten n ∧ n < 2 ^ 32 ∧ w.toNat = n) ∧
    ∀ w, read text = .ok w → (∀ c ∈ rest, c ∈ alphabet) ∧ ¬Misplaced rest := by
  refine ⟨body text, fun cs => bared_iff, fun w => ?_, fun w h => ?_⟩
  · rw [read, readDigits_eq_iff]
    constructor
    · rintro (_ | _ | _ | _ | ⟨hgrouped, hwrites⟩)
      exact ⟨_, _, hgrouped, hwrites, w.toNat_lt, rfl⟩
    · rintro ⟨gs, n, hgrouped, hwrites, _, rfl⟩
      exact .number hgrouped hwrites
  · obtain _ | _ | _ | _ | ⟨hgrouped, _⟩ := readDigits_eq_iff.mp h
    obtain rfl := (grouped_iff.mp hgrouped).1
    exact (grouped_groups_iff.mp hgrouped).2

end FirmwareHeader.Numeral
