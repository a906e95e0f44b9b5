import FirmwareHeader.Failure
import FirmwareHeader.Proofs.Text.Quoted

namespace FirmwareHeader

open Numeral Text

theorem List.append_cons_inj_of_not_mem_left {α : Type} {a : α} {xs ys xs' ys' : List α}
    (h : a ∉ xs) (h' : a ∉ xs') (heq : xs ++ a :: ys = xs' ++ a :: ys') :
    xs = xs' ∧ ys = ys' := by
  induction xs generalizing xs' with
  | nil =>
      cases xs' with
      | nil => exact ⟨rfl, (List.cons.inj heq).2⟩
      | cons b xs' => exact absurd List.mem_cons_self ((List.cons.inj heq).1 ▸ h')
  | cons b xs ih =>
      cases xs' with
      | nil => exact absurd List.mem_cons_self ((List.cons.inj heq).1 ▸ h)
      | cons b' xs' =>
          obtain ⟨rfl, hrest⟩ := List.cons.inj heq
          obtain ⟨rfl, rfl⟩ := ih (fun hxs => h (List.mem_cons_of_mem _ hxs))
            (fun hxs => h' (List.mem_cons_of_mem _ hxs)) hrest
          exact ⟨rfl, rfl⟩

namespace Numeral

theorem Fault.toList_message (fault : Fault) : fault.message.toList =
    match fault with
    | .empty => "no digits".toList
    | .invalidDigit c => "invalid character ".toList ++ quoted '\x27' [c]
    | .underscore => "underscores may only separate digits".toList
    | .tooLarge => "number too large to fit in target type".toList := by
  cases fault with
  | empty | underscore | tooLarge => rfl
  | invalidDigit c =>
      change ("invalid character " ++ quotedChar c).toList = _
      simp only [String.toList_append, quotedChar, String.toList_ofList]

theorem Fault.visible_message (fault : Fault) : Visible fault.message.toList := by
  rw [toList_message]
  cases fault with
  | empty | underscore | tooLarge => exact visible_of_plain (by decide)
  | invalidDigit c =>
      exact visible_append (visible_of_plain (by decide))
        (visible_quoted (standsAlone_of_plain (by decide)) _)

theorem Fault.message_inj {fault other : Fault} (h : fault.message = other.message) :
    fault = other := by
  rw [← String.toList_inj, toList_message, toList_message] at h
  cases fault <;> cases other
  case empty.empty | underscore.underscore | tooLarge.tooLarge => rfl
  case invalidDigit.invalidDigit c d =>
    rw [List.singleton_inj.mp (quoted_inj (by decide) (List.append_cancel_left h))]
  -- two texts of different kinds differ within their first two letters
  all_goals simp only [String.reduceToList, List.cons_append, List.cons.injEq, Char.reduceEq,
    false_and, and_false] at h

end Numeral

namespace Image

theorem Fault.toList_message (fault : Fault) : fault.message.toList =
    match fault with
    | .empty => "image is empty".toList
    | .misaligned size =>
      "image length ".toList ++ digits 10 size ++ " is not a multiple of 4 bytes".toList
    | .lengthOverflow aligned =>
      "aligned signed length 0x".toList ++ digits 16 aligned.toNat ++
        " does not fit in 16 bits".toList
    | .outOfBounds offset size =>
      "word at byte offset 0x".toList ++ digits 16 offset ++
        " is past the end of the ".toList ++ digits 10 size ++ "-byte image".toList := by
  cases fault with
  | empty => rfl
  | misaligned size =>
      change (_ ++ decimal size ++ _).toList = _
      simp only [String.toList_append, toList_decimal]
  | lengthOverflow aligned =>
      change (_ ++ hex aligned.toNat ++ _).toList = _
      simp only [String.toList_append, toList_hex, ← List.append_assoc]
      rfl
  | outOfBounds offset size =>
      change (_ ++ hex offset ++ _ ++ decimal size ++ _).toList = _
      simp only [String.toList_append, toList_hex, toList_decimal, ← List.append_assoc]
      rfl

theorem Fault.visible_message (fault : Fault) : Visible fault.message.toList := by
  have hten (n : Nat) : Visible (digits 10 n) := visible_digits (by omega) (by omega) n
  have hsixteen (n : Nat) : Visible (digits 16 n) := visible_digits (by omega) (by omega) n
  rw [toList_message]
  cases fault with
  | empty => exact visible_of_plain (by decide)
  | misaligned size =>
      exact visible_append (visible_append (visible_of_plain (by decide)) (hten _))
        (visible_of_plain (by decide))
  | lengthOverflow aligned =>
      exact visible_append (visible_append (visible_of_plain (by decide)) (hsixteen _))
        (visible_of_plain (by decide))
  | outOfBounds offset size =>
      have hoffset : Visible ("word at byte offset 0x".toList ++ digits 16 offset) :=
        visible_append (visible_of_plain (by decide)) (hsixteen offset)
      have hbetween : Visible " is past the end of the ".toList := visible_of_plain (by decide)
      exact visible_append (visible_append (visible_append hoffset hbetween) (hten size))
        (visible_of_plain (by decide))

theorem Fault.message_inj {fault other : Fault} (h : fault.message = other.message) :
    fault = other := by
  rw [← String.toList_inj, toList_message, toList_message] at h
  cases fault <;> cases other
  case empty.empty => rfl
  case misaligned.misaligned m n =>
    rw [digits_ten_inj (List.append_cancel_left (List.append_cancel_right h))]
  case lengthOverflow.lengthOverflow a b =>
    have hdigits := List.append_cancel_left (List.append_cancel_right h)
    rw [UInt32.toNat.inj (digits_sixteen_inj hdigits)]
  case outOfBounds.outOfBounds m m' n n' =>
    have hblank : ∀ k, ' ' ∉ digits 16 k := not_mem_digits (by omega) (by omega) (by decide)
    have hdigits := List.append_cancel_right h
    simp only [List.append_assoc] at hdigits
    obtain ⟨hoffset, hrest⟩ :=
      List.append_cons_inj_of_not_mem_left (hblank _) (hblank _) (List.append_cancel_left hdigits)
    rw [digits_sixteen_inj hoffset, digits_ten_inj (List.append_cancel_left hrest)]
  -- two texts of different kinds differ within their first seven letters
  all_goals simp only [String.reduceToList, List.cons_append, List.cons.injEq, Char.reduceEq,
    false_and, and_false] at h

end Image

namespace Failure

theorem toList_badNumber (name : NumberName) (text : String) (cause : Numeral.Fault) :
    (badNumber name text cause).message.toList = name.text.toList ++ " ".toList ++
      quoted '\x22' text.toList ++ " is not valid hexadecimal".toList := by
  change (name.text ++ " " ++ quotedText text ++ " is not valid hexadecimal").toList = _
  simp only [String.toList_append, quotedText, String.toList_ofList]

theorem badNumber_inj {name name' : NumberName} {text text' : String}
    {cause cause' : Numeral.Fault}
    (h : (badNumber name text cause).message = (badNumber name' text' cause').message) :
    name = name' ∧ text = text' := by
  rw [← String.toList_inj, toList_badNumber, toList_badNumber] at h
  have h := List.append_cancel_right h
  cases name <;> cases name'
  case version.version | spl.spl =>
    have hquoted := List.append_cancel_left h
    exact ⟨rfl, String.toList_inj.mp (quoted_inj (by decide) hquoted)⟩
  all_goals simp only [NumberName.text, String.reduceToList, List.cons_append, List.cons.injEq,
    Char.reduceEq, false_and] at h

theorem badNumber_ne_badImage (name : NumberName) (text : String) (cause : Numeral.Fault)
    (cause' : Image.Fault) : (badNumber name text cause).message ≠ (badImage cause').message := by
  intro h
  rw [← String.toList_inj, toList_badNumber] at h
  change _ = "malformed image".toList at h
  cases name with
  | version | spl =>
      simp only [NumberName.text, String.reduceToList, List.cons_append, List.cons.injEq,
        Char.reduceEq, false_and] at h

end Failure

end FirmwareHeader
