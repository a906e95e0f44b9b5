import FirmwareHeader.Image.Fault
import FirmwareHeader.Log.Record
import FirmwareHeader.Proofs.Numeral.Copied
import Mathlib.Data.List.Forall2

namespace FirmwareHeader

namespace Numeral

/-- The numbers in base 16 that stand in a text, each from its mark to its last digit. -/
def numerals : List Char → List String
  | '0' :: 'x' :: cs => String.ofList ('0' :: 'x' :: cs.takeWhile isDigit) :: numerals cs
  | _ :: cs => numerals cs
  | [] => []

def breaksOff (cs : List Char) : Bool := cs.head?.all fun c => !isDigit c && c != 'x'

/-- A number before these characters ends where they begin, and no other begins in them. -/
def Separates (cs : List Char) : Prop := cs ≠ [] ∧ '0' ∉ cs ∧ breaksOff cs

instance : DecidablePred Separates := fun _ => inferInstanceAs (Decidable (_ ∧ _ ∧ _))

def ReadAs (printed : String) (result : Except Fault UInt32) : Prop :=
  read printed = result ∧ ∀ text, Copied printed text → read text = result

theorem numerals_cons {c : Char} {cs : List Char} (h : c ≠ '0' ∨ cs.head? ≠ some 'x') :
    numerals (c :: cs) = numerals cs := by
  rw [numerals]
  rintro rest rfl rfl
  simp at h

theorem numerals_append_of_not_mem {before : List Char} (h : '0' ∉ before) (rest : List Char) :
    numerals (before ++ rest) = numerals rest := by
  induction before with
  | nil => rfl
  | cons c before ih =>
      rw [List.mem_cons, not_or] at h
      obtain ⟨hc, hbefore⟩ := h
      rw [List.cons_append, numerals_cons (.inl (Ne.symm hc)), ih hbefore]

theorem numerals_digits_append {ds rest : List Char} (hds : ∀ d ∈ ds, isDigit d)
    (hrest : rest.head? ≠ some 'x') : numerals (ds ++ rest) = numerals rest := by
  have hx : isDigit 'x' = false := by decide
  induction ds with
  | nil => rfl
  | cons d ds ih =>
      obtain ⟨_, hds⟩ := List.forall_mem_cons.mp hds
      rw [List.cons_append, numerals_cons, ih hds]
      right
      cases ds with
      | nil => exact hrest
      | cons d' ds =>
          intro hhead
          obtain rfl := Option.some.inj hhead
          simp [hx] at hds

section

variable {printed : String} {n : Nat}

theorem numerals_prints_append (h : Prints printed n) {rest : List Char} (hrest : breaksOff rest) :
    numerals (printed.toList ++ rest) = printed :: numerals rest := by
  obtain ⟨zeros, hprinted⟩ := h
  have hdigits : ∀ d ∈ List.replicate zeros '0' ++ digits 16 n, isDigit d := fun d hd =>
    isDigit_of_mem (mem_zeros hd)
  generalize List.replicate zeros '0' ++ digits 16 n = ds at hprinted hdigits
  have hend : rest.takeWhile isDigit = [] ∧ rest.head? ≠ some 'x' := by
    cases rest with
    | nil => simp
    | cons c rest =>
        simp only [breaksOff, List.head?_cons, Option.all_some, Bool.and_eq_true,
          Bool.not_eq_true', bne_iff_ne] at hrest
        simp [hrest.1, hrest.2]
  rw [hprinted, List.cons_append, List.cons_append, numerals,
    numerals_digits_append hdigits hend.2, List.takeWhile_append_of_pos hdigits, hend.1,
    List.append_nil, ← hprinted, String.ofList_toList]

theorem numerals_prints (h : Prints printed n) : numerals printed.toList = [printed] := by
  have hlast : numerals (printed.toList ++ []) = [printed] := numerals_prints_append h rfl
  rwa [List.append_nil] at hlast

theorem numerals_prints_separated (h : Prints printed n) {between : List Char}
    (hbetween : Separates between) (rest : List Char) :
    numerals (printed.toList ++ (between ++ rest)) = printed :: numerals rest := by
  obtain ⟨hne, hzero, hhead⟩ := hbetween
  rw [numerals_prints_append h, numerals_append_of_not_mem hzero]
  cases between with
  | nil => exact absurd rfl hne
  | cons c between => exact hhead

end

theorem numerals_decimal_append (n : Nat) {rest : List Char} (h : '0' ∉ rest)
    (hhead : rest.head? ≠ some 'x') : numerals ((decimal n).toList ++ rest) = [] := by
  have hdigits : ∀ d ∈ digits 10 n, isDigit d := fun d hd =>
    isDigit_of_mem (mem_digits (by omega) (by omega) hd)
  have hrest := numerals_append_of_not_mem h []
  rw [List.append_nil] at hrest
  rw [toList_decimal, numerals_digits_append hdigits hhead, hrest]
  rfl

end Numeral

open Numeral

def Log.Record.words : Log.Record → List UInt32
  | .opened _ _ => []
  | .noticed (.realigning raw aligned) => [raw, aligned]
  | .noticed (.unusualSize _) => []
  | .written aligned raw version patchLevel => [aligned, raw, version, patchLevel]
  | .header fields => [fields.signedLength, fields.magic, fields.signedSize, fields.patchLevel,
      fields.imageVersion]

def Image.Fault.numbers : Image.Fault → List Nat
  | .empty | .misaligned _ => []
  | .lengthOverflow aligned => [aligned.toNat]
  | .outOfBounds offset _ => [offset]

namespace Log.Record

theorem numerals_realigning (raw aligned : UInt32) :
    numerals (Record.noticed (.realigning raw aligned)).text.toList =
      [hex raw.toNat, hex aligned.toNat] := by
  change numerals (_ ++ hex raw.toNat ++ _ ++ hex aligned.toNat).toList = _
  simp only [String.toList_append, List.append_assoc]
  rw [numerals_append_of_not_mem (by decide), numerals_prints_separated (prints_hex _) (by decide),
    numerals_prints (prints_hex _)]

theorem numerals_unusualSize (size : Nat) :
    numerals (Record.noticed (.unusualSize size)).text.toList = [] := by
  change numerals (_ ++ decimal size ++ _ ++ decimal Header.nominalSize ++ _).toList = _
  simp only [String.toList_append, List.append_assoc]
  rw [numerals_append_of_not_mem (by decide), numerals_decimal_append]
  · decide
  · decide

theorem numerals_written (aligned raw version patchLevel : UInt32) :
    numerals (Record.written aligned raw version patchLevel).text.toList =
      [hex aligned.toNat, hex raw.toNat, hexWord version.toNat, hexWord patchLevel.toNat] := by
  change numerals (_ ++ hex aligned.toNat ++ _ ++ hex raw.toNat ++ _ ++ hexWord version.toNat ++
    _ ++ hexWord patchLevel.toNat).toList = _
  simp only [String.toList_append, List.append_assoc]
  rw [numerals_append_of_not_mem (by decide), numerals_prints_separated (prints_hex _) (by decide),
    numerals_prints_separated (prints_hex _) (by decide),
    numerals_prints_separated (prints_hexWord _) (by decide), numerals_prints (prints_hexWord _)]

theorem numerals_entry {name : String} (h : '0' ∉ name.toList) (w : UInt32) (rest : List Char) :
    numerals ((Header.Fields.entry name w).toList ++ rest) = hex w.toNat :: numerals rest := by
  simp only [Header.Fields.entry, String.toList_append, List.append_assoc]
  rw [numerals_append_of_not_mem (by decide), numerals_append_of_not_mem h,
    numerals_append_of_not_mem (by decide), numerals_prints_separated (prints_hex _) (by decide)]

theorem numerals_header (fields : Header.Fields) :
    numerals (Record.header fields).text.toList =
      [hex fields.signedLength.toNat, hex fields.magic.toNat, hex fields.signedSize.toNat,
        hex fields.patchLevel.toNat, hex fields.imageVersion.toNat] := by
  change numerals (_ ++ Header.Fields.entry _ _ ++ Header.Fields.entry _ _ ++
    Header.Fields.entry _ _ ++ Header.Fields.entry _ _ ++ Header.Fields.entry _ _ ++ _).toList = _
  simp only [String.toList_append, List.append_assoc]
  rw [numerals_append_of_not_mem (by decide), numerals_entry (by decide),
    numerals_entry (by decide), numerals_entry (by decide), numerals_entry (by decide),
    numerals_entry (by decide)]
  rfl

/-- The numbers in what is told of a run are its words, in their order. A path may hold others. -/
theorem prints_words (record : Record) (h : ∀ size path, record ≠ .opened size path) :
    List.Forall₂ (fun printed w => Prints printed w.toNat) (numerals record.text.toList)
      record.words := by
  cases record with
  | opened size path => exact absurd rfl (h size path)
  | noticed notice =>
      cases notice with
      | realigning raw aligned =>
          rw [numerals_realigning]
          exact .cons (prints_hex _) (.cons (prints_hex _) .nil)
      | unusualSize size =>
          rw [numerals_unusualSize]
          exact .nil
  | written aligned raw version patchLevel =>
      rw [numerals_written]
      exact .cons (prints_hex _) (.cons (prints_hex _)
        (.cons (prints_hexWord _) (.cons (prints_hexWord _) .nil)))
  | header fields =>
      rw [numerals_header]
      exact .cons (prints_hex _) (.cons (prints_hex _) (.cons (prints_hex _)
        (.cons (prints_hex _) (.cons (prints_hex _) .nil))))

end Log.Record

namespace Image.Fault

theorem numerals_message (fault : Fault) :
    numerals fault.message.toList = fault.numbers.map hex := by
  cases fault with
  | empty => rfl
  | misaligned size =>
      change numerals (_ ++ decimal size ++ _).toList = _
      simp only [String.toList_append, List.append_assoc]
      rw [numerals_append_of_not_mem (by decide), numerals_decimal_append]
      · rfl
      · decide
      · decide
  | lengthOverflow aligned =>
      change numerals (_ ++ hex aligned.toNat ++ _).toList = [hex aligned.toNat]
      simp only [String.toList_append, List.append_assoc]
      rw [numerals_append_of_not_mem (by decide), numerals_prints_append (prints_hex _) (by decide)]
      rfl
  | outOfBounds offset size =>
      change numerals (_ ++ hex offset ++ _ ++ decimal size ++ _).toList = [hex offset]
      simp only [String.toList_append, List.append_assoc]
      rw [numerals_append_of_not_mem (by decide),
        numerals_prints_separated (prints_hex _) (by decide), numerals_decimal_append]
      · decide
      · decide

end Image.Fault

namespace Numeral

theorem readAs_prints {printed : String} {n : Nat} (h : Prints printed n) :
    ReadAs printed (if n < 2 ^ 32 then .ok (UInt32.ofNat n) else .error .tooLarge) :=
  ⟨(Copied.refl h).read_eq h, fun _ hcopied => hcopied.read_eq h⟩

theorem readAs_word {printed : String} {w : UInt32} (h : Prints printed w.toNat) :
    ReadAs printed (.ok w) := by
  have hread := readAs_prints h
  rwa [if_pos w.toNat_lt, UInt32.ofNat_toNat] at hread

theorem readAs_record (record : Log.Record) (h : ∀ size path, record ≠ .opened size path) :
    List.Forall₂ ReadAs (numerals record.text.toList) (record.words.map .ok) :=
  List.forall₂_map_right_iff.mpr ((record.prints_words h).imp fun _ _ => readAs_word)

theorem readAs_fault (fault : Image.Fault) :
    List.Forall₂ ReadAs (numerals fault.message.toList) (fault.numbers.map fun n =>
      if n < 2 ^ 32 then .ok (UInt32.ofNat n) else .error .tooLarge) := by
  rw [Image.Fault.numerals_message, List.forall₂_map_left_iff, List.forall₂_map_right_iff,
    List.forall₂_same]
  exact fun n _ => readAs_prints (prints_hex n)

/-- Every number that the program prints in base 16 can be given back to it, however it was copied.
A word is read as what it was, and an offset that is too great for a word is refused. -/
theorem printed_read_back :
    (∀ w : UInt32, ∀ printed ∈ [hex w.toNat, hexWord w.toNat], ReadAs printed (.ok w)) ∧
    (∀ n, 2 ^ 32 ≤ n → ReadAs (hex n) (.error .tooLarge)) ∧
    (∀ record : Log.Record, (∀ size path, record ≠ .opened size path) →
      List.Forall₂ ReadAs (numerals record.text.toList) (record.words.map .ok)) ∧
    ∀ fault : Image.Fault, List.Forall₂ ReadAs (numerals fault.message.toList)
      (fault.numbers.map fun n =>
        if n < 2 ^ 32 then .ok (UInt32.ofNat n) else .error .tooLarge) := by
  refine ⟨fun w printed hprinted => ?_, fun n hn => ?_, readAs_record, readAs_fault⟩
  · rcases List.mem_pair.mp hprinted with rfl | rfl
    · exact readAs_word (prints_hex _)
    · exact readAs_word (prints_hexWord _)
  · have hread := readAs_prints (prints_hex n)
    rwa [if_neg (Nat.not_lt.mpr hn)] at hread

theorem printed_read_back_copied :
    read "\u00a00X0_0A0B_0c0D\n" = .ok 0x0A0B0C0D ∧
    read "0x100000000" = .error .tooLarge ∧
    List.Forall₂ ReadAs ["0x1240", "0x1235", "0x0a0b0c0d", "0x00000001"]
      [.ok 0x1240, .ok 0x1235, .ok 0x0A0B0C0D, .ok 1] := by
  obtain ⟨hwords, hgreat, hrecords, _⟩ := printed_read_back
  have hdigits : Respelled "00a0b0c0d".toList "0_0A0B_0c0D".toList :=
    .apart (.inl rfl) (.next (.inl rfl) (.next (.inr rfl) (.next (.inl rfl) (.apart (.inr rfl)
      (.next (.inl rfl) (.next (.inl rfl) (.next (.inl rfl) (.last (.inr rfl)))))))))
  have hfront : ∀ c ∈ ['\u00a0'], Text.isBlank c := List.forall_mem_singleton.mpr (by decide)
  have hback : ∀ c ∈ ['\n'], Text.isBlank c := List.forall_mem_singleton.mpr (by decide)
  have hcopied : Copied (hexWord 0x0A0B0C0D) "\u00a00X0_0A0B_0c0D\n" :=
    .intro 1 rfl (.inr rfl) hdigits rfl hfront hback
  refine ⟨?_, ?_, ?_⟩
  · exact (hwords 0x0A0B0C0D _ (by simp)).2 _ hcopied
  · exact (hgreat 0x100000000 (by decide)).1
  · exact hrecords (.written 0x1240 0x1235 0x0A0B0C0D 1) nofun

end Numeral

end FirmwareHeader
