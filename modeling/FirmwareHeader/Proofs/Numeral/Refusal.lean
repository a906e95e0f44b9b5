import FirmwareHeader.Proofs.Numeral.Outcome
import FirmwareHeader.Proofs.Numeral.Unsigned

namespace FirmwareHeader.Numeral

/-- Why a text is refused when the digits, underscores taken out, are left to a reader of plain
numbers. What that reader has to say is passed on. -/
inductive Refusal
  | empty
  | invalidDigit (c : Char)
  | underscore
  | number (cause : Unsigned.Fault)
deriving DecidableEq

def Refusal.ofFault : Fault → Refusal
  | .empty => .empty
  | .invalidDigit c => .invalidDigit c
  | .underscore => .underscore
  | .tooLarge => .number .overflow

theorem Refusal.ofFault_eq_number_iff {fault : Fault} {cause : Unsigned.Fault} :
    ofFault fault = .number cause ↔ cause = .overflow ∧ fault = .tooLarge := by
  cases fault <;> simp [ofFault, eq_comm]

/-- Sifts out what the reader of plain numbers would take or would refuse in its own words: nothing
at all, signs and other characters, and misplaced underscores. -/
def sift (cs : List Char) : Except Refusal UInt32 :=
  if cs = [] then .error .empty
  else match cs.find? isForeign with
  | some c => .error (.invalidDigit c)
  | none =>
    if Misplaced cs then .error .underscore
    else (Unsigned.read (cs.filter (· != '_'))).mapError .number

theorem sift_of_grouped {cs : List Char} {gs : List (List Char)} (h : Grouped cs gs) : sift cs =
    if value cs < 2 ^ 32 then .ok (UInt32.ofNat (value cs)) else .error (.number .overflow) := by
  obtain rfl := (grouped_iff.mp h).1
  obtain ⟨hne, hmem, hplaced⟩ := grouped_groups_iff.mp h
  obtain ⟨hdigits, -⟩ := writes_iff.mp ((writes_flatten_iff h _).mpr rfl)
  rw [flatten_groups] at hdigits
  have hfilter : cs.filter (· != '_') ≠ [] := by
    rw [← flatten_groups]
    obtain ⟨g, gs, hgs⟩ := List.exists_cons_of_ne_nil h.1
    have hg := (h.2.1 g (by rw [hgs]; exact List.mem_cons_self)).1
    rw [hgs, List.flatten_cons]
    exact List.append_ne_nil_of_left_ne_nil hg _
  rw [sift, if_neg hne, find?_isForeign_eq_none_iff.mpr hmem]
  simp only [if_neg hplaced]
  rw [Unsigned.read_of_digits hfilter hdigits, value_filter]
  split
  · rfl
  · rfl

theorem sift_eq (cs : List Char) : sift cs = (readDigits cs).mapError Refusal.ofFault := by
  have houtcome := outcome_readDigits cs
  generalize readDigits cs = result at houtcome
  cases houtcome with
  | empty hnil => rw [sift, if_pos hnil]; rfl
  | invalidDigit hcs hc hbefore =>
      have hfind := find?_isForeign_eq_some_iff.mpr ⟨_, _, hcs, hc, hbefore⟩
      rw [sift, if_neg (by simp [hcs]), hfind]
      rfl
  | underscore hne hmem hmisplaced =>
      rw [sift, if_neg hne, find?_isForeign_eq_none_iff.mpr hmem]
      simp only [if_pos hmisplaced]
      rfl
  | tooLarge hgrouped hwrites hle =>
      obtain rfl := (writes_flatten_iff hgrouped _).mp hwrites
      rw [sift_of_grouped hgrouped, if_neg (by omega)]
      rfl
  | @number gs w hgrouped hwrites =>
      have hvalue := (writes_flatten_iff hgrouped _).mp hwrites
      rw [sift_of_grouped hgrouped, ← hvalue, if_pos w.toNat_lt, UInt32.ofNat_toNat]
      rfl

/-- One fault decides what is wrong with a text, however many it has. The reader of plain numbers
has only ever to say that there are too many digits. -/
theorem read_eq_error_iff (text : String) : ∃ rest, (∀ cs, Bared text cs ↔ cs = rest) ∧
    (read text = .error .empty ↔ rest = []) ∧
    (∀ c, read text = .error (.invalidDigit c) ↔ ∃ before after, rest = before ++ c :: after ∧
      c ∉ alphabet ∧ ∀ b ∈ before, b ∈ alphabet) ∧
    (read text = .error .underscore ↔
      rest ≠ [] ∧ (∀ c ∈ rest, c ∈ alphabet) ∧ Misplaced rest) ∧
    (read text = .error .tooLarge ↔
      ∃ gs n, Grouped rest gs ∧ Writes gs.flatten n ∧ 2 ^ 32 ≤ n) ∧
    sift rest = (read text).mapError Refusal.ofFault ∧
    ∀ cause, sift rest = .error (.number cause) ↔
      cause = .overflow ∧ read text = .error .tooLarge := by
  refine ⟨body text, fun cs => bared_iff, ?_, fun c => ?_, ?_, ?_, sift_eq _, fun cause => ?_⟩
  · rw [read, readDigits_eq_iff]
    exact ⟨fun h => by cases h; assumption, .empty⟩
  · rw [read, readDigits_eq_iff]
    constructor
    · rintro (_ | ⟨hrest, hc, hbefore⟩)
      exact ⟨_, _, hrest, hc, hbefore⟩
    · rintro ⟨before, after, hrest, hc, hbefore⟩
      exact .invalidDigit hrest hc hbefore
  · rw [read, readDigits_eq_iff]
    constructor
    · rintro (_ | _ | ⟨hne, hmem, hmisplaced⟩)
      exact ⟨hne, hmem, hmisplaced⟩
    · rintro ⟨hne, hmem, hmisplaced⟩
      exact .underscore hne hmem hmisplaced
  · rw [read, readDigits_eq_iff]
    constructor
    · rintro (_ | _ | _ | ⟨hgrouped, hwrites, hle⟩)
      exact ⟨_, _, hgrouped, hwrites, hle⟩
    · rintro ⟨gs, n, hgrouped, hwrites, hle⟩
      exact .tooLarge hgrouped hwrites hle
  · rw [sift_eq, read]
    cases readDigits (body text) with
    | ok w => simp [Except.mapError]
    | error fault => simp [Except.mapError, Refusal.ofFault_eq_number_iff]

end FirmwareHeader.Numeral
