import FirmwareHeader.Proofs.Numeral.Digits
import FirmwareHeader.Proofs.Numeral.Outcome

namespace FirmwareHeader.Numeral

open Text

def Prints (printed : String) (n : Nat) : Prop :=
  ∃ zeros, printed.toList = '0' :: 'x' :: (List.replicate zeros '0' ++ digits 16 n)

def Recased (d c : Char) : Prop := c = d ∨ c = d.toUpper

/-- Digits that are written again, some of them kept apart by an underscore. -/
inductive Respelled : List Char → List Char → Prop
  | last {d c : Char} : Recased d c → Respelled [d] [c]
  | next {d c : Char} {ds cs : List Char} :
      Recased d c → Respelled ds cs → Respelled (d :: ds) (c :: cs)
  | apart {d c : Char} {ds cs : List Char} :
      Recased d c → Respelled ds cs → Respelled (d :: ds) (c :: '_' :: cs)

/-- What may become of a printed number when it is copied: more zeros behind the mark, capitals,
underscores between the digits, and blanks around it all. -/
inductive Copied (printed text : String) : Prop
  | intro {ds cs front back : List Char} {mark : Char} (zeros : Nat) :
      printed.toList = '0' :: 'x' :: ds → mark = 'x' ∨ mark = 'X' →
      Respelled (List.replicate zeros '0' ++ ds) cs →
      text.toList = front ++ '0' :: mark :: cs ++ back →
      (∀ c ∈ front, isBlank c) → (∀ c ∈ back, isBlank c) → Copied printed text

theorem prints_hex (n : Nat) : Prints (hex n) n := ⟨0, toList_hex n⟩

theorem prints_hexWord (n : Nat) : Prints (hexWord n) n := ⟨_, toList_hexWord n⟩

theorem value_zeros (k : Nat) (cs : List Char) : value (List.replicate k '0' ++ cs) = value cs := by
  induction k with
  | zero => rfl
  | succ k ih => exact ih

theorem mem_zeros {k n : Nat} {c : Char} (h : c ∈ List.replicate k '0' ++ digits 16 n) :
    c ∈ digitChars := by
  rcases List.mem_append.mp h with hzero | hdigit
  · rw [List.eq_of_mem_replicate hzero]
    decide
  · exact mem_digits (by omega) (by omega) hdigit

theorem digit?_recased {d c : Char} (hd : d ∈ digitChars) (h : Recased d c) :
    digit? c = digit? d := by
  have hupper : digitChars.all fun d => digit? d.toUpper = digit? d := by decide
  rcases h with rfl | rfl
  · rfl
  · exact of_decide_eq_true (List.all_eq_true.mp hupper d hd)

theorem isDigit_recased {d c : Char} (hd : d ∈ digitChars) (h : Recased d c) : isDigit c := by
  rw [isDigit, digit?_recased hd h]
  exact isDigit_of_mem hd

namespace Respelled

theorem refl {ds : List Char} (h : ds ≠ []) : Respelled ds ds := by
  induction ds with
  | nil => exact absurd rfl h
  | cons d ds ih =>
      cases ds with
      | nil => exact .last (.inl rfl)
      | cons d' ds => exact .next (.inl rfl) (ih (by simp))

section

variable {ds cs : List Char} (h : Respelled ds cs) (hds : ∀ d ∈ ds, d ∈ digitChars)

include h hds

theorem filterMap_digit? : cs.filterMap digit? = ds.filterMap digit? := by
  induction h with
  | last hc =>
      obtain ⟨hd, _⟩ := List.forall_mem_cons.mp hds
      simp only [List.filterMap_cons, digit?_recased hd hc]
  | next hc _ ih =>
      obtain ⟨hd, hrest⟩ := List.forall_mem_cons.mp hds
      simp only [List.filterMap_cons, digit?_recased hd hc, ih hrest]
  | apart hc _ ih =>
      obtain ⟨hd, hrest⟩ := List.forall_mem_cons.mp hds
      simp only [List.filterMap_cons, digit?_recased hd hc, digit?_underscore, ih hrest]

theorem isDigit_or_eq_underscore {c : Char} (hmem : c ∈ cs) : isDigit c ∨ c = '_' := by
  induction h with
  | last hc =>
      obtain ⟨hd, _⟩ := List.forall_mem_cons.mp hds
      rw [List.mem_singleton.mp hmem]
      exact .inl (isDigit_recased hd hc)
  | next hc _ ih =>
      obtain ⟨hd, hrest⟩ := List.forall_mem_cons.mp hds
      rcases List.mem_cons.mp hmem with rfl | hmem
      · exact .inl (isDigit_recased hd hc)
      · exact ih hrest hmem
  | apart hc _ ih =>
      obtain ⟨hd, hrest⟩ := List.forall_mem_cons.mp hds
      rcases List.mem_cons.mp hmem with rfl | hmem
      · exact .inl (isDigit_recased hd hc)
      · rcases List.mem_cons.mp hmem with rfl | hmem
        · exact .inr rfl
        · exact ih hrest hmem

theorem nil_not_mem_groups : [] ∉ groups cs := by
  induction h with
  | last hc =>
      obtain ⟨hd, _⟩ := List.forall_mem_cons.mp hds
      simp [groups, ne_underscore_of_isDigit (isDigit_recased hd hc)]
  | @next d c ds cs hc _ ih =>
      obtain ⟨hd, hrest⟩ := List.forall_mem_cons.mp hds
      have hne := ne_underscore_of_isDigit (isDigit_recased hd hc)
      have hnil := ih hrest
      obtain ⟨g, gs, hgs⟩ := List.exists_cons_of_ne_nil (groups_ne_nil cs)
      rw [hgs, List.mem_cons, not_or] at hnil
      rw [groups_cons, if_neg hne, hgs, List.modifyHead_cons, List.mem_cons, not_or]
      exact ⟨by simp, hnil.2⟩
  | apart hc _ ih =>
      obtain ⟨hd, hrest⟩ := List.forall_mem_cons.mp hds
      have hne := ne_underscore_of_isDigit (isDigit_recased hd hc)
      -- the underscore ends a group of one digit, with the groups of the others behind it
      rw [groups_cons, if_neg hne, groups_cons, if_pos rfl, List.modifyHead_cons, List.mem_cons,
        not_or]
      exact ⟨by simp, ih hrest⟩

theorem grouped : Grouped cs (groups cs) :=
  grouped_iff.mpr ⟨rfl, h.nil_not_mem_groups hds, fun c hc =>
    (not_isForeign_iff c).mpr (h.isDigit_or_eq_underscore hds hc)⟩

theorem readDigits_eq : readDigits cs =
    if value ds < 2 ^ 32 then .ok (UInt32.ofNat (value ds)) else .error .tooLarge := by
  have hvalue : value cs = value ds := by rw [value, value, h.filterMap_digit? hds]
  rw [readDigits_of_grouped (h.grouped hds), hvalue]

theorem not_isBlank {c : Char} (hmem : c ∈ cs) : ¬isBlank c := by
  have hblank : alphabet.all fun c => !isBlank c := by decide
  have hc : c ∈ alphabet := by
    rw [← not_isForeign_iff_mem, not_isForeign_iff]
    exact h.isDigit_or_eq_underscore hds hmem
  simpa using List.all_eq_true.mp hblank c hc

end

end Respelled

theorem bared_of_mark {text : String} {front cs back : List Char} {mark : Char}
    (htext : text.toList = front ++ '0' :: mark :: cs ++ back) (hmark : mark = 'x' ∨ mark = 'X')
    (hfront : ∀ c ∈ front, isBlank c) (hback : ∀ c ∈ back, isBlank c)
    (hcs : ∀ c ∈ cs, ¬isBlank c) : Bared text cs := by
  have hcore : ∀ c ∈ '0' :: mark :: cs, ¬isBlank c := by
    rw [List.forall_mem_cons, List.forall_mem_cons]
    refine ⟨by decide, ?_, hcs⟩
    rcases hmark with rfl | rfl
    · decide
    · decide
  have htrimmed : Trimmed text.toList ('0' :: mark :: cs) := ⟨⟨front, back, htext, hfront, hback⟩,
    fun c hc => hcore c (List.mem_of_mem_head? hc), fun c hc => hcore c (List.mem_of_getLast? hc)⟩
  refine ⟨_, htrimmed, ?_⟩
  rcases hmark with rfl | rfl
  · exact .inl rfl
  · exact .inr (.inl rfl)

namespace Copied

variable {printed text : String} {n : Nat}

theorem refl (h : Prints printed n) : Copied printed printed := by
  obtain ⟨zeros, hprinted⟩ := h
  have hne : List.replicate zeros '0' ++ digits 16 n ≠ [] :=
    List.append_ne_nil_of_right_ne_nil _ Nat.toDigits_ne_nil
  have hnone : ∀ c ∈ [], isBlank c := List.forall_mem_nil _
  refine .intro 0 hprinted (.inl rfl) (.refl hne) ?_ hnone hnone
  rw [hprinted, List.append_nil, List.nil_append]
  rfl

/-- However a number was copied, it is read as what it was, unless it is too great for a word. -/
theorem read_eq (h : Copied printed text) (hn : Prints printed n) :
    read text = if n < 2 ^ 32 then .ok (UInt32.ofNat n) else .error .tooLarge := by
  obtain ⟨k, hprinted⟩ := hn
  obtain ⟨zeros, hds, hmark, hcs, htext, hfront, hback⟩ := h
  rw [hprinted, List.cons.injEq, List.cons.injEq] at hds
  rw [← hds.2.2, ← List.append_assoc, List.replicate_append_replicate] at hcs
  have hmem := fun d hd => mem_zeros (k := zeros + k) (n := n) (c := d) hd
  have hbared := bared_of_mark htext hmark hfront hback fun c hc => hcs.not_isBlank hmem hc
  rw [read, ← bared_iff.mp hbared, hcs.readDigits_eq hmem, value_zeros, value_digits]

end Copied

end FirmwareHeader.Numeral
