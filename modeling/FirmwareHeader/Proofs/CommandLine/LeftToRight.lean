import FirmwareHeader.CommandLine.Message
import FirmwareHeader.Proofs.CommandLine.Lawful

namespace FirmwareHeader.CommandLine

namespace Parameter

theorem ofName?_name (p : Parameter) : ofName? p.name = some p := by
  cases p <;> decide +kernel

theorem ofLetter?_letter (p : Parameter) : ofLetter? p.letter = some p := by
  cases p <;> decide

theorem letter_ne_dash (p : Parameter) : p.letter ≠ '-' := by
  cases p <;> decide

theorem letter_ne_helpLetter (p : Parameter) : p.letter ≠ helpLetter := by
  cases p <;> decide

theorem toList_name_ne_nil (p : Parameter) : p.name.toList ≠ [] := by
  cases p <;> decide +kernel

theorem equals_not_mem_name (p : Parameter) : '=' ∉ p.name.toList := by
  cases p <;> decide +kernel

theorem all_ne_equals (p : Parameter) : ∀ c ∈ p.name.toList, decide (c ≠ '=') = true := by
  intro c hc
  have hne : c ≠ '=' := fun heq => p.equals_not_mem_name (heq ▸ hc)
  exact decide_eq_true hne

end Parameter

namespace Argument

variable {text : String}

theorem ofString_of_plain (h : text.toList.head? = some '-' → text = "-") :
    ofString text = .plain := by
  by_cases hdash : text.toList.head? = some '-'
  · rw [h hdash]
    decide +kernel
  · rw [ofString]
    split
    · next htext => simp [htext] at hdash
    · next htext => simp [htext] at hdash
    · next htext => simp [htext] at hdash
    · rfl

theorem ofString_of_letter {letter : Char} {cs : List Char} (hletter : letter ≠ '-')
    (h : text.toList = '-' :: letter :: cs) : ofString text = ofShort letter cs := by
  simp [ofString, h, hletter]

theorem ofString_of_dashes {cs : List Char} (hcs : cs ≠ []) (h : text.toList = '-' :: '-' :: cs) :
    ofString text = ofLong cs := by
  simp [ofString, h]

section

variable (p : Parameter)

theorem ofShort_nil : ofShort p.letter [] = .bare p := by
  simp [ofShort, p.letter_ne_helpLetter, p.ofLetter?_letter]

theorem ofShort_equals (cs : List Char) :
    ofShort p.letter ('=' :: cs) = .valued p (String.ofList cs) := by
  simp [ofShort, p.letter_ne_helpLetter, p.ofLetter?_letter]

theorem ofShort_glued {cs : List Char} (hcs : cs ≠ []) (hhead : cs.head? ≠ some '=') :
    ofShort p.letter cs = .valued p (String.ofList cs) := by
  cases cs with
  | nil => exact absurd rfl hcs
  | cons c cs =>
      have hc : c ≠ '=' := by simpa using hhead
      simp [ofShort, p.letter_ne_helpLetter, p.ofLetter?_letter, hc]

end

theorem ofLong_name (p : Parameter) : ofLong p.name.toList = .bare p := by
  cases p <;> decide +kernel

/-- The first equals sign ends the name, so the value may hold others. -/
theorem ofLong_equals (p : Parameter) (value : String) :
    ofLong (p.name.toList ++ '=' :: value.toList) = .valued p value := by
  have htake : (p.name.toList ++ '=' :: value.toList).takeWhile (· ≠ '=') = p.name.toList := by
    rw [List.takeWhile_append_of_pos p.all_ne_equals]
    simp
  have hdrop : (p.name.toList ++ '=' :: value.toList).dropWhile (· ≠ '=') =
      '=' :: value.toList := by
    rw [List.dropWhile_append_of_pos p.all_ne_equals]
    simp
  simp only [ofLong, htake, hdrop, String.ofList_toList, p.ofName?_name, List.tail?_cons,
    Option.map_some]

end Argument

namespace Reading

variable {text : String} {p : Parameter} {rest : List String}

theorem prepend_prepend (ms ns : List Mention) (r : Reading) :
    (r.prepend ns).prepend ms = r.prepend (ms ++ ns) := by
  simp only [prepend, List.append_assoc]

theorem map_prepend_nil (x : Except Complaint Reading) : x.map (prepend []) = x := by
  cases x <;> rfl

theorem ofArguments_bare {value : String} (h : Argument.ofString text = .bare p)
    (hvalue : Argument.ofString value = .plain) :
    ofArguments none (text :: value :: rest) =
      (ofArguments none rest).map (prepend [⟨.parameter p, some value⟩]) := by
  simp only [ofArguments, h, hvalue]
  exact map_prepend_nil _

theorem ofArguments_valued {value : String} (h : Argument.ofString text = .valued p value) :
    ofArguments none (text :: rest) =
      (ofArguments none rest).map (prepend [⟨.parameter p, some value⟩]) := by
  simp only [ofArguments, h]
  rfl

end Reading

namespace Argument

variable (p : Parameter) (value : String)

theorem ofString_letter : ofString (String.ofList ['-', p.letter]) = .bare p := by
  rw [ofString_of_letter p.letter_ne_dash String.toList_ofList, ofShort_nil]

theorem ofString_letterGlued (h : Spelling.letterGlued.Suits value) :
    ofString (String.ofList ['-', p.letter] ++ value) = .valued p value := by
  have hvalue : value.toList ≠ [] := fun hnil => h.1 (String.toList_eq_nil_iff.mp hnil)
  have htext : (String.ofList ['-', p.letter] ++ value).toList =
      '-' :: p.letter :: value.toList := by simp
  rw [ofString_of_letter p.letter_ne_dash htext, ofShort_glued p hvalue h.2, String.ofList_toList]

theorem ofString_letterEquals :
    ofString (String.ofList ['-', p.letter, '='] ++ value) = .valued p value := by
  have htext : (String.ofList ['-', p.letter, '='] ++ value).toList =
      '-' :: p.letter :: '=' :: value.toList := by simp
  rw [ofString_of_letter p.letter_ne_dash htext, ofShort_equals, String.ofList_toList]

theorem ofString_name : ofString ("--" ++ p.name) = .bare p := by
  rw [ofString_of_dashes p.toList_name_ne_nil (by simp), ofLong_name]

theorem ofString_nameEquals : ofString ("--" ++ p.name ++ "=" ++ value) = .valued p value := by
  have htext : ("--" ++ p.name ++ "=" ++ value).toList =
      '-' :: '-' :: (p.name.toList ++ '=' :: value.toList) := by simp
  rw [ofString_of_dashes (by simp) htext, ofLong_equals]

end Argument

namespace Reading

theorem ofArguments_keepFlags (rest : List String) : ofArguments none ("--preserve-flags" :: rest) =
    (ofArguments none rest).map (prepend [⟨.keepFlags, none⟩]) := by
  have hflag : Argument.ofString "--preserve-flags" = .keepFlags := by decide +kernel
  simp only [ofArguments, hflag]
  rfl

theorem ofArguments_spelling (p : Parameter) {value : String} {spelling : Spelling}
    (h : spelling.Suits value) (rest : List String) :
    ofArguments none (spelling.arguments p value ++ rest) =
      (ofArguments none rest).map (prepend [⟨.parameter p, some value⟩]) := by
  cases spelling with
  | letter => exact ofArguments_bare (Argument.ofString_letter p) (Argument.ofString_of_plain h)
  | letterGlued => exact ofArguments_valued (Argument.ofString_letterGlued p value h)
  | letterEquals => exact ofArguments_valued (Argument.ofString_letterEquals p value)
  | name => exact ofArguments_bare (Argument.ofString_name p) (Argument.ofString_of_plain h)
  | nameEquals => exact ofArguments_valued (Argument.ofString_nameEquals p value)

theorem resume_of_map {ms ns : List Mention} {arguments rest : List String}
    (h : ofArguments none arguments = (ofArguments none rest).map (prepend ns)) :
    resume ms arguments = resume (ms ++ ns) rest := by
  rw [resume, resume, h]
  cases ofArguments none rest with
  | error complaint => rfl
  | ok r => exact congrArg judge (prepend_prepend ms ns r)

section

variable {ms : List Mention} {args : Args} (h : ∀ item, valuesOf ms item = args.values item)

include h

theorem values_eq (p : Parameter) : (⟨ms, none⟩ : Reading).values p = [args.value p] := by
  rw [values, h]
  rfl

theorem count_eq_one (p : Parameter) : (⟨ms, none⟩ : Reading).count (.parameter p) = 1 := by
  rw [count, h]
  rfl

theorem count_keepFlags : (⟨ms, none⟩ : Reading).count .keepFlags = args.keepFlags.toNat := by
  rw [count, h, Args.values]
  cases args.keepFlags <;> rfl

theorem fault?_eq_none (item : Item) : (⟨ms, none⟩ : Reading).fault? item = none := by
  cases item with
  | parameter p => simp [fault?, values_eq h, count_eq_one h]
  | keepFlags =>
      have hcount : ¬1 < args.keepFlags.toNat := by cases args.keepFlags <;> decide
      simp [fault?, count_keepFlags h, hcount]

theorem resume_nil : resume ms [] = .ok args := by
  have habsent : (⟨ms, none⟩ : Reading).absent = [] := by simp [absent, count_eq_one h]
  have hfault : (ms.findSome? fun mention => (⟨ms, none⟩ : Reading).fault? mention.item) = none :=
    List.findSome?_eq_none_iff.mpr fun _ _ => fault?_eq_none h _
  have hflag : decide (args.keepFlags.toNat ≠ 0) = args.keepFlags := by
    cases args.keepFlags <;> rfl
  change (⟨ms ++ [], none⟩ : Reading).judge = .ok args
  rw [List.append_nil]
  simp only [judge, habsent, hfault, values_eq h, count_keepFlags h, hflag]
  rfl

end

end Reading

theorem Reader.leftToRight_lawful : leftToRight.Lawful where
  parameter ms p value spelling rest h := by
    simp only [leftToRight, Reading.resume_of_map (Reading.ofArguments_spelling p h rest)]
  keepFlags ms rest := by
    simp only [leftToRight, Reading.resume_of_map (Reading.ofArguments_keepFlags rest)]
  finish ms args h := by
    simp only [leftToRight, Reading.resume_nil h]
    rfl

end FirmwareHeader.CommandLine
