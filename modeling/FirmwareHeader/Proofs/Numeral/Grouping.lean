import FirmwareHeader.Numeral.Grammar
import FirmwareHeader.Numeral.Reader
import Mathlib.Data.List.Induction

namespace FirmwareHeader.Numeral

theorem digit?_underscore : digit? '_' = none := by decide

theorem ne_underscore_of_isDigit {c : Char} (h : isDigit c) : c ≠ '_' := by
  rintro rfl
  rw [isDigit, digit?_underscore] at h
  cases h

theorem not_isForeign_iff (c : Char) : isForeign c = false ↔ isDigit c ∨ c = '_' := by
  by_cases h : c = '_' <;> simp [isForeign, h]

theorem groups_eq_splitOn (cs : List Char) : groups cs = cs.splitOn '_' := by
  induction cs with
  | nil => rfl
  | cons c cs ih =>
      rw [groups, ih, List.splitOn, List.splitOn, List.splitOnP_cons_eq_if_modifyHead]
      cases h : List.splitOnP (fun x => x == '_') cs with
      | nil => exact absurd h (List.splitOnP_ne_nil _ _)
      | cons g gs => by_cases hc : c = '_' <;> simp [hc]

theorem intercalate_groups (cs : List Char) : ['_'].intercalate (groups cs) = cs := by
  rw [groups_eq_splitOn, List.intercalate_splitOn]

theorem groups_ne_nil (cs : List Char) : groups cs ≠ [] := by
  rw [groups_eq_splitOn]
  exact List.splitOnP_ne_nil _ _

theorem groups_cons (c : Char) (cs : List Char) : groups (c :: cs) =
    if c = '_' then [] :: groups cs else (groups cs).modifyHead (c :: ·) := by
  simp only [groups_eq_splitOn, List.splitOn, List.splitOnP_cons_eq_if_modifyHead, beq_iff_eq]

theorem not_mem_of_mem_groups {cs g : List Char} (h : g ∈ groups cs) : '_' ∉ g := by
  induction cs generalizing g with
  | nil => simp_all [groups]
  | cons c cs ih =>
      rw [groups_cons] at h
      cases hgs : groups cs with
      | nil => exact absurd hgs (groups_ne_nil cs)
      | cons first rest =>
          rw [hgs] at ih h
          by_cases hc : c = '_'
          · rw [if_pos hc] at h
            rcases List.mem_cons.mp h with rfl | hg
            · exact List.not_mem_nil
            · exact ih hg
          · rw [if_neg hc, List.modifyHead_cons] at h
            rcases List.mem_cons.mp h with rfl | hg
            · have := ih List.mem_cons_self
              simp [Ne.symm hc, this]
            · exact ih (List.mem_cons_of_mem _ hg)

theorem filter_intercalate {gs : List (List Char)} (h : ∀ g ∈ gs, '_' ∉ g) :
    (['_'].intercalate gs).filter (· != '_') = gs.flatten := by
  induction gs with
  | nil => rfl
  | cons g gs ih =>
      have hg : g.filter (· != '_') = g := by
        rw [List.filter_eq_self]
        intro c hc
        have := h g List.mem_cons_self
        simp only [bne_iff_ne, ne_eq]
        rintro rfl
        exact this hc
      have hrest := ih fun g' hg' => h g' (List.mem_cons_of_mem _ hg')
      cases gs with
      | nil => simpa using hg
      | cons g' gs =>
          rw [List.intercalate_cons_cons, List.filter_append, List.filter_append, hrest, hg]
          simp

theorem flatten_groups (cs : List Char) : (groups cs).flatten = cs.filter (· != '_') := by
  rw [← filter_intercalate fun g hg => not_mem_of_mem_groups hg, intercalate_groups]

/-- There is at most one way to cut characters into groups of digits: at every underscore. -/
theorem grouped_iff {cs : List Char} {gs : List (List Char)} : Grouped cs gs ↔
    gs = groups cs ∧ [] ∉ groups cs ∧ ∀ c ∈ cs, isForeign c = false := by
  constructor
  · rintro ⟨hne, hdigits, rfl⟩
    have hplain : ∀ g ∈ gs, '_' ∉ g := fun g hg hc =>
      ne_underscore_of_isDigit ((hdigits g hg).2 _ hc) rfl
    rw [groups_eq_splitOn, List.splitOn_intercalate _ hplain hne]
    refine ⟨rfl, fun hnil => (hdigits [] hnil).1 rfl, fun c hc => ?_⟩
    rw [not_isForeign_iff]
    by_cases hunderscore : c = '_'
    · exact .inr hunderscore
    · have hflat : c ∈ gs.flatten := by
        rw [← filter_intercalate hplain, List.mem_filter]
        exact ⟨hc, by simpa using hunderscore⟩
      obtain ⟨g, hg, hcg⟩ := List.mem_flatten.mp hflat
      exact .inl ((hdigits g hg).2 c hcg)
  · rintro ⟨rfl, hnil, hdigits⟩
    refine ⟨groups_ne_nil cs, fun g hg => ⟨?_, fun c hc => ?_⟩, (intercalate_groups cs).symm⟩
    · rintro rfl
      exact hnil hg
    · have hcs : c ∈ cs.filter (· != '_') := by
        rw [← flatten_groups]
        exact List.mem_flatten.mpr ⟨g, hg, hc⟩
      obtain ⟨hmem, hne⟩ := List.mem_filter.mp hcs
      exact ((not_isForeign_iff c).mp (hdigits c hmem)).resolve_right (by simpa using hne)

theorem value_filter (cs : List Char) : value (cs.filter (· != '_')) = value cs := by
  rw [value, value, List.filterMap_filter]
  congr 2
  funext c
  by_cases h : c = '_' <;> simp [h, digit?_underscore]

theorem writes_iff {cs : List Char} {n : Nat} :
    Writes cs n ↔ (∀ c ∈ cs, isDigit c) ∧ n = value cs := by
  constructor
  · intro h
    induction h with
    | nil => exact ⟨by simp, rfl⟩
    | @snoc cs n d c _ hd ih =>
        obtain ⟨hdigits, rfl⟩ := ih
        refine ⟨?_, by rw [value_append cs hd, Nat.mul_comm]⟩
        intro c' hc'
        rcases List.mem_append.mp hc' with hmem | hmem
        · exact hdigits c' hmem
        · rw [List.mem_singleton.mp hmem, isDigit, hd]
          rfl
  · rintro ⟨hdigits, rfl⟩
    induction cs using List.reverseRecOn with
    | nil => exact .nil
    | append_singleton cs c ih =>
        obtain ⟨d, hd⟩ := Option.isSome_iff_exists.mp (hdigits c (by simp))
        rw [value_append cs hd, Nat.mul_comm]
        exact .snoc (ih fun c' hc' => hdigits c' (List.mem_append_left _ hc')) hd

theorem writes_flatten_iff {cs : List Char} {gs : List (List Char)} (h : Grouped cs gs) (n : Nat) :
    Writes gs.flatten n ↔ n = value cs := by
  obtain ⟨rfl, _, hdigits⟩ := grouped_iff.mp h
  rw [writes_iff, flatten_groups, value_filter]
  refine and_iff_right fun c hc => ?_
  obtain ⟨hmem, hne⟩ := List.mem_filter.mp hc
  exact ((not_isForeign_iff c).mp (hdigits c hmem)).resolve_right (by simpa using hne)

/-- An underscore that does not separate two digits: at either end, or beside another. -/
def Misplaced (cs : List Char) : Prop :=
  cs.head? = some '_' ∨ cs.getLast? = some '_' ∨ ['_', '_'] <:+: cs

instance : DecidablePred Misplaced := fun _ => inferInstanceAs (Decidable (_ ∨ _ ∨ _))

theorem head?_groups_eq_nil_iff (cs : List Char) :
    (groups cs).head? = some [] ↔ cs = [] ∨ cs.head? = some '_' := by
  cases cs with
  | nil => simp [groups]
  | cons c cs =>
      obtain ⟨g, gs, hgs⟩ := List.exists_cons_of_ne_nil (groups_ne_nil cs)
      rw [groups_cons, hgs]
      by_cases hc : c = '_' <;> simp [hc]

theorem nil_mem_tail_groups_iff (cs : List Char) :
    [] ∈ (groups cs).tail ↔ cs.getLast? = some '_' ∨ ['_', '_'] <:+: cs := by
  induction cs with
  | nil => simp [groups]
  | cons c cs ih =>
      have hhead := head?_groups_eq_nil_iff cs
      obtain ⟨g, gs, hgs⟩ := List.exists_cons_of_ne_nil (groups_ne_nil cs)
      have hlast : (c :: cs).getLast? = some '_' ↔
          cs = [] ∧ c = '_' ∨ cs.getLast? = some '_' := by
        cases cs with
        | nil => simp
        | cons c' cs => simp [List.getLast?_cons_cons]
      have hpair : ['_', '_'] <:+: c :: cs ↔
          c = '_' ∧ cs.head? = some '_' ∨ ['_', '_'] <:+: cs := by
        rw [List.infix_cons_iff, List.cons_prefix_cons, eq_comm]
        cases cs with
        | nil => simp
        | cons c' cs => rw [List.cons_prefix_cons, eq_comm (b := c')]; simp
      rw [hlast, hpair, groups_cons, hgs]
      rw [hgs, List.tail_cons] at ih
      rw [hgs, List.head?_cons, Option.some.injEq] at hhead
      by_cases hc : c = '_'
      · -- the group before the underscore is the new head, so that the old one is in the tail
        rw [if_pos hc, List.tail_cons, List.mem_cons, eq_comm, hhead, ih]
        simp only [hc, and_true, true_and, or_assoc, or_left_comm]
      · rw [if_neg hc, List.modifyHead_cons, List.tail_cons, ih]
        simp only [hc, and_false, false_and, false_or]

theorem nil_mem_groups_iff (cs : List Char) : [] ∈ groups cs ↔ cs = [] ∨ Misplaced cs := by
  have hhead := head?_groups_eq_nil_iff cs
  have htail := nil_mem_tail_groups_iff cs
  obtain ⟨g, gs, hgs⟩ := List.exists_cons_of_ne_nil (groups_ne_nil cs)
  rw [hgs, List.head?_cons, Option.some.injEq] at hhead
  rw [hgs, List.tail_cons] at htail
  rw [hgs, List.mem_cons, eq_comm, hhead, htail, Misplaced, or_assoc]

end FirmwareHeader.Numeral
