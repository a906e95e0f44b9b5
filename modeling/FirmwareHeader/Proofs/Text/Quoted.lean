import FirmwareHeader.Proofs.Numeral.Digits
import FirmwareHeader.Text.Quoted
import Mathlib.Tactic.SplitIfs

namespace FirmwareHeader.Text

open Numeral

def escaped : Char → Char
  | '0' => '\x00'
  | 't' => '\t'
  | 'n' => '\n'
  | 'r' => '\r'
  | c => c

theorem escaped_of_not_mem {c : Char} (h : c ∉ ['0', 't', 'n', 'r']) : escaped c = c := by
  simp only [List.mem_cons, List.not_mem_nil, or_false, not_or] at h
  rw [escaped] <;> simp [h]

def unescape : List Char → Option (Char × List Char)
  | [] => none
  | '\\' :: 'u' :: '\x7b' :: cs => some (Char.ofNat (value (cs.takeWhile (· ≠ '\x7d'))),
      (cs.dropWhile (· ≠ '\x7d')).tail)
  | '\\' :: c :: cs => some (escaped c, cs)
  | c :: cs => some (c, cs)

theorem unescape_of_ne {c : Char} (h : c ≠ '\\') (rest : List Char) :
    unescape (c :: rest) = some (c, rest) := by
  simp [unescape, h]

theorem unescape_backslash {c : Char} (h : c ≠ 'u') (rest : List Char) :
    unescape ('\\' :: c :: rest) = some (escaped c, rest) := by
  simp [unescape, h]

theorem unescape_codePoint (c : Char) (rest : List Char) :
    unescape (codePoint c ++ rest) = some (c, rest) := by
  have hne : ∀ d ∈ digits 16 c.toNat, d ≠ '\x7d' := by
    rintro d hd rfl
    exact not_mem_digits (by omega) (by omega) (by decide) _ hd
  have htake : (digits 16 c.toNat ++ '\x7d' :: rest).takeWhile (· ≠ '\x7d') =
      digits 16 c.toNat := by
    rw [List.takeWhile_append_of_pos (by simpa using hne)]
    simp
  have hdrop : (digits 16 c.toNat ++ '\x7d' :: rest).dropWhile (· ≠ '\x7d') = '\x7d' :: rest := by
    rw [List.dropWhile_append_of_pos (by simpa using hne)]
    simp
  simp only [codePoint, List.append_assoc, List.cons_append, List.nil_append, unescape]
  rw [htake, hdrop, value_digits, Char.ofNat_toNat, List.tail_cons]

/-- Escaped characters can be told one from the other whatever follows. -/
theorem unescape_escape {mark : Char} (hmark : mark ∉ ['0', 't', 'n', 'r', 'u']) (c : Char)
    (rest : List Char) : unescape (escape mark c ++ rest) = some (c, rest) := by
  rw [escape]
  split_ifs with hnul htab hfeed hreturn hquoted hstands
  · rw [hnul]
    exact unescape_backslash (by decide) rest
  · rw [htab]
    exact unescape_backslash (by decide) rest
  · rw [hfeed]
    exact unescape_backslash (by decide) rest
  · rw [hreturn]
    exact unescape_backslash (by decide) rest
  · have hletter : c ∉ ['0', 't', 'n', 'r', 'u'] := by
      rcases hquoted with rfl | rfl
      · decide
      · exact hmark
    have hu : c ≠ 'u' := by
      rintro rfl
      exact hletter (by decide)
    refine (unescape_backslash hu rest).trans ?_
    rw [escaped_of_not_mem fun hc => hletter (List.mem_append_left ['u'] hc)]
  · exact unescape_of_ne (fun h => hquoted (.inl h)) rest
  · exact unescape_codePoint c rest

section

variable {mark : Char} (hmark : mark ∉ ['0', 't', 'n', 'r', 'u'])

include hmark

theorem escape_append_inj {c d : Char} {r s : List Char}
    (h : escape mark c ++ r = escape mark d ++ s) : c = d ∧ r = s := by
  have hread := congrArg unescape h
  rw [unescape_escape hmark, unescape_escape hmark] at hread
  exact Prod.mk.inj (Option.some.inj hread)

theorem escape_append_ne_nil (c : Char) (rest : List Char) : escape mark c ++ rest ≠ [] := by
  intro h
  have hread := unescape_escape hmark c rest
  rw [h] at hread
  cases hread

theorem flatMap_escape_inj {cs ds : List Char}
    (h : cs.flatMap (escape mark) = ds.flatMap (escape mark)) : cs = ds := by
  induction cs generalizing ds with
  | nil =>
      cases ds with
      | nil => rfl
      | cons d ds => exact absurd h.symm (escape_append_ne_nil hmark d _)
  | cons c cs ih =>
      cases ds with
      | nil => exact absurd h (escape_append_ne_nil hmark c _)
      | cons d ds =>
          obtain ⟨rfl, hrest⟩ := escape_append_inj hmark h
          rw [ih hrest]

theorem quoted_inj {cs ds : List Char} (h : quoted mark cs = quoted mark ds) : cs = ds := by
  rw [quoted, quoted] at h
  exact flatMap_escape_inj hmark (List.append_cancel_right (List.cons.inj h).2)

end

/-- Controls, and the separators of lines and paragraphs that are none. -/
def breaks (c : Char) : Bool := isControl c || c = '\u2028' || c = '\u2029'

def Visible (cs : List Char) : Prop := ∀ c ∈ cs, standsAlone c

theorem breaks_of_standsAlone {c : Char} (h : standsAlone c) : breaks c = false := by
  have hline : standsAlone '\u2028' = false := by decide +kernel
  have hparagraph : standsAlone '\u2029' = false := by decide +kernel
  have hcontrol : isControl c = false := by
    rw [standsAlone] at h
    cases hc : isControl c with
    | false => rfl
    | true => simp [hc] at h
  have hne : c ≠ '\u2028' := by
    rintro rfl
    exact absurd h (by rw [hline]; decide)
  have hne' : c ≠ '\u2029' := by
    rintro rfl
    exact absurd h (by rw [hparagraph]; decide)
  simp [breaks, hcontrol, hne, hne']

theorem visible_append {cs ds : List Char} (h : Visible cs) (h' : Visible ds) :
    Visible (cs ++ ds) := by
  intro c hc
  obtain hc | hc := List.mem_append.mp hc
  · exact h c hc
  · exact h' c hc

theorem Ranges.has_eq_false {ranges : Ranges} {bound : Nat} (h : ∀ r ∈ ranges, bound ≤ r.1)
    {c : Char} (hc : c.toNat < bound) : ranges.has c = false := by
  rw [Ranges.has, List.any_eq_false]
  intro r hr
  have hle := h r hr
  simp only [Bool.and_eq_true, decide_eq_true_eq, not_and]
  omega

def isPlain (c : Char) : Bool := 0x20 ≤ c.toNat && c.toNat < 0x7F

theorem standsAlone_of_plain {c : Char} (h : isPlain c) : standsAlone c := by
  simp only [isPlain, Bool.and_eq_true, decide_eq_true_eq] at h
  have hcontrol : isControl c = false := by
    simp [isControl]
    omega
  have hignorable : ignorable.has c = false := Ranges.has_eq_false (by decide +kernel) h.2
  have hextending : extending.has c = false := Ranges.has_eq_false (by decide +kernel) h.2
  have hunprintable : unprintable.has c = false := Ranges.has_eq_false (by decide +kernel) h.2
  rw [standsAlone, hcontrol, hignorable, hextending, hunprintable]
  rfl

theorem visible_of_plain {cs : List Char} (h : cs.all isPlain) : Visible cs :=
  fun c hc => standsAlone_of_plain (List.all_eq_true.mp h c hc)

theorem visible_digits {base : Nat} (hbase : 1 < base) (hle : base ≤ 16) (n : Nat) :
    Visible (digits base n) := by
  have hall : Visible digitChars := visible_of_plain (by decide)
  exact fun c hc => hall c (mem_digits hbase hle hc)

theorem visible_singleton {c : Char} (h : standsAlone c) : Visible [c] := by
  intro d hd
  rwa [List.mem_singleton.mp hd]

theorem visible_escape {mark : Char} (hmark : standsAlone mark) (c : Char) :
    Visible (escape mark c) := by
  rw [escape]
  split_ifs with hnul htab hfeed hreturn hquoted hstands
  · exact visible_of_plain (by decide)
  · exact visible_of_plain (by decide)
  · exact visible_of_plain (by decide)
  · exact visible_of_plain (by decide)
  · have hbackslash : standsAlone '\\' := standsAlone_of_plain (by decide)
    have hc : standsAlone c := by
      rcases hquoted with rfl | rfl
      · exact hbackslash
      · exact hmark
    exact visible_append (visible_singleton hbackslash) (visible_singleton hc)
  · exact visible_singleton hstands
  · have hdigits : Visible (digits 16 c.toNat) := visible_digits (by omega) (by omega) _
    exact visible_append (visible_append (visible_of_plain (by decide)) hdigits)
      (visible_of_plain (by decide))

/-- Nothing in a quoted text breaks the line or goes unseen, whatever the text is. -/
theorem visible_quoted {mark : Char} (hmark : standsAlone mark) (cs : List Char) :
    Visible (quoted mark cs) := by
  have hbody : Visible (cs.flatMap (escape mark)) := by
    intro d hd
    obtain ⟨c, _, hc⟩ := List.mem_flatMap.mp hd
    exact visible_escape hmark c d hc
  exact visible_append (visible_append (visible_singleton hmark) hbody) (visible_singleton hmark)

end FirmwareHeader.Text
