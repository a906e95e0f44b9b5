import FirmwareHeader.Proofs.Header.Steps

namespace FirmwareHeader

namespace Image

def replay (image : Image) (writes : List (Nat × UInt32)) : Except Fault Image :=
  writes.foldlM (fun result p => result.write p.1 p.2) image

theorem replay_snoc {image result next : Image} {writes : List (Nat × UInt32)} {i : Nat}
    {w : UInt32} (h : image.replay writes = .ok result) (hwrite : result.write i w = .ok next) :
    image.replay (writes ++ [(i, w)]) = .ok next := by
  rw [replay, List.foldlM_append]
  change image.replay writes >>= _ = _
  rw [h]
  simp only [bind, Except.bind, List.foldlM_cons, List.foldlM_nil, hwrite, pure, Except.pure]

end Image

namespace Header

open SignedLength

def Stage.Committed : Stage → Prop
  | .writing _ _ | .finished _ => True
  | .surveying | .checking _ _ _ | .failed _ => False

namespace Imprint

variable (imprint : Imprint)

theorem survey_eq (draft : Draft) : imprint.survey draft =
    if greatest < aligned draft.image then .error (.lengthOverflow (aligned draft.image)) draft
    else .ok (reportOn draft.image, imprint.lead draft.image)
      { draft with notices := draft.notices ++ remarks draft.image } := by
  have hread := Editing.read_of_inside draft draft.image.outside?_zero
  have hstart := imprint.start_eq draft
  refine (Editing.bind_of_ok hread).trans ?_
  by_cases h : greatest < aligned draft.image
  · rw [if_pos h] at hstart ⊢
    exact Editing.bind_of_error hstart
  · rw [if_neg h] at hstart ⊢
    refine (Editing.bind_of_ok hstart).trans ?_
    refine (Editing.bind_of_ok (noteSize_eq_ok _)).trans ?_
    simp only [remarks, List.append_assoc, pure, EStateM.pure, reportOn, ofImage, aligned]

def writesOn (image : Image) : List (Nat × UInt32) :=
  imprint.writes (reportOn image) (imprint.lead image)

/-- What a call can have come to. Up to the last check nothing is written, and from then on all that
is written has its place. -/
inductive Reached (image : Image) : Progress → Prop
  | surveying : Reached image (.start image)
  | checking {said : List Notice} {done todo : List (Field × UInt32)}
      (hwords : done ++ todo = imprint.words image)
      (hdone : ∀ p ∈ done, 4 * p.1.index (aligned image) < image.size) :
      Reached image ⟨.checking (reportOn image) (imprint.lead image) todo, ⟨image, said⟩, []⟩
  | writing {said : List Notice} {result : Image} {done todo : List (Nat × UInt32)}
      (hwrites : done ++ todo = imprint.writesOn image)
      (hresult : image.replay done = .ok result) (hsize : result.size = image.size)
      (hplaces : ∀ q ∈ imprint.writesOn image, 4 * q.1 < image.size) :
      Reached image ⟨.writing (reportOn image) todo, ⟨result, said⟩, done⟩
  | finished {said : List Notice} {result : Image}
      (hresult : image.replay (imprint.writesOn image) = .ok result)
      (hsize : result.size = image.size)
      (hplaces : ∀ q ∈ imprint.writesOn image, 4 * q.1 < image.size) :
      Reached image ⟨.finished (reportOn image), ⟨result, said⟩, imprint.writesOn image⟩
  | failed {fault : Image.Fault} {said : List Notice} :
      Reached image ⟨.failed fault, ⟨image, said⟩, []⟩

variable {imprint} {image : Image} {p : Progress}

theorem writesOn_inside (h : ∀ p ∈ imprint.words image, 4 * p.1.index (aligned image) < image.size) :
    ∀ p ∈ imprint.writesOn image, 4 * p.1 < image.size := by
  intro p hp
  obtain rfl | hp := List.mem_cons.mp hp
  · have := image.four_le_size
    omega
  · obtain ⟨q, hq, rfl⟩ := List.mem_map.mp hp
    exact h q hq

theorem next_checking (report : Report) (lead : UInt32) (q : Field × UInt32)
    (todo : List (Field × UInt32)) (draft : Draft) (written : List (Nat × UInt32)) :
    imprint.next ⟨.checking report lead (q :: todo), draft, written⟩ =
      match draft.image.outside? (q.1.index report.signedLength) with
      | some fault => ⟨.failed fault, draft, written⟩
      | none => ⟨.checking report lead todo, draft, written⟩ := by
  cases h : draft.image.outside? (q.1.index report.signedLength) with
  | some fault => exact Progress.advance_of_error (Editing.check_of_outside draft h)
  | none =>
      refine (Progress.advance_of_ok (Editing.check_of_inside draft h)).trans ?_
      rw [List.append_nil]

theorem next_writing {q : Nat × UInt32} {draft : Draft} (h : 4 * q.1 < draft.image.size)
    (report : Report) (todo written : List (Nat × UInt32)) :
    imprint.next ⟨.writing report (q :: todo), draft, written⟩ =
      ⟨.writing report todo, { draft with image := draft.image.put q.1 q.2 }, written ++ [q]⟩ :=
  Progress.advance_of_ok
    (Editing.write_of_inside draft q.2 ((draft.image.outside?_eq_none_iff _).mpr h))

theorem next_start : imprint.Reached image (imprint.next (.start image)) := by
  have hsurvey := imprint.survey_eq (Progress.start image).draft
  change imprint.Reached image (Progress.advance _ _ _ _)
  by_cases h : greatest < aligned image
  · rw [Progress.advance_of_error (hsurvey.trans (if_pos h))]
    exact .failed
  · rw [Progress.advance_of_ok (hsurvey.trans (if_neg h))]
    exact .checking (List.nil_append _) (by simp)

namespace Reached

theorem next (h : imprint.Reached image p) : imprint.Reached image (imprint.next p) := by
  cases h with
  | surveying => exact next_start
  | @checking said done todo hwords hdone =>
      cases todo with
      | nil =>
          rw [List.append_nil] at hwords
          subst hwords
          exact .writing (List.nil_append _) rfl rfl (writesOn_inside hdone)
      | cons q todo =>
          rw [next_checking]
          split
          · exact .failed
          · next hq =>
            refine .checking ((List.append_assoc done [q] todo).trans hwords) ?_
            intro r hr
            obtain hr | hr := List.mem_append.mp hr
            · exact hdone r hr
            · obtain rfl := List.mem_singleton.mp hr
              exact (image.outside?_eq_none_iff _).mp hq
  | @writing said result done todo hwrites hresult hsize hplaces =>
      cases todo with
      | nil =>
          rw [List.append_nil] at hwrites
          subst hwrites
          exact .finished hresult hsize hplaces
      | cons q todo =>
          -- The place of the word was checked on another image, but on one of the same size.
          have hq : 4 * q.1 < result.size := hsize ▸ hplaces q (hwrites ▸ by simp)
          have hwrite := result.write_of_inside q.2 ((result.outside?_eq_none_iff _).mpr hq)
          rw [next_writing hq]
          exact .writing ((List.append_assoc done [q] todo).trans hwrites)
            (Image.replay_snoc hresult hwrite) ((result.size_put _ _).trans hsize) hplaces
  | finished hresult hsize hplaces => exact .finished hresult hsize hplaces
  | failed => exact .failed

theorem iterate (h : imprint.Reached image p) (n : Nat) :
    imprint.Reached image (imprint.next^[n] p) := by
  induction n generalizing p with
  | zero => exact h
  | succ n ih => exact ih h.next

theorem size_eq (h : imprint.Reached image p) : p.draft.image.size = image.size := by
  cases h with
  | surveying | checking | failed => rfl
  | writing _ _ hsize | finished _ hsize => exact hsize

theorem inside (h : imprint.Reached image p) (hp : p.stage.Committed) {q : Nat × UInt32}
    (hq : q ∈ imprint.writesOn image) : p.draft.image.outside? q.1 = none := by
  rw [Image.outside?_eq_none_iff, h.size_eq]
  cases h with
  | surveying | checking | failed => exact hp.elim
  | writing _ _ _ hplaces | finished _ _ hplaces => exact hplaces q hq

theorem committed_next (h : imprint.Reached image p) (hp : p.stage.Committed) :
    (imprint.next p).stage.Committed := by
  cases h with
  | surveying | checking | failed => exact hp.elim
  | finished => trivial
  | @writing said result done todo hwrites _ hsize hplaces =>
      cases todo with
      | nil => trivial
      | cons q todo =>
          have hq : 4 * q.1 < result.size := hsize ▸ hplaces q (hwrites ▸ by simp)
          rw [next_writing hq]
          trivial

end Reached

variable (imprint) (image) (p)

/-- A call that has come this far has written nothing, or it can no longer fail. -/
structure Untorn : Prop where
  size_eq : p.draft.image.size = image.size
  replayed : image.replay p.written = .ok p.draft.image
  of_not_committed : ¬p.stage.Committed → p.written = [] ∧ p.draft.image = image
  committed_next : p.stage.Committed → (imprint.next p).stage.Committed
  writable : p.stage.Committed → ∀ q ∈ imprint.writesOn image,
    p.draft.image.check q.1 = .ok () ∧ ∃ next, p.draft.image.write q.1 q.2 = .ok next
  of_writing : ∀ report todo, p.stage = .writing report todo →
    p.written ++ todo = imprint.writesOn image
  of_finished : ∀ report, p.stage = .finished report →
    report = reportOn image ∧ p.written = imprint.writesOn image

theorem reached_after (n : Nat) : imprint.Reached image (imprint.after image n) :=
  Reached.surveying.iterate n

variable {imprint image p}

theorem Reached.untorn (h : imprint.Reached image p) : imprint.Untorn image p where
  size_eq := h.size_eq
  replayed := by
    cases h with
    | surveying | checking | failed => rfl
    | writing _ hresult | finished hresult => exact hresult
  of_not_committed hp := by
    cases h with
    | surveying | checking | failed => exact ⟨rfl, rfl⟩
    | writing | finished => exact (hp trivial).elim
  committed_next := h.committed_next
  writable hp q hq := by
    have hin := h.inside hp hq
    exact ⟨by rw [Image.check_eq, hin], _, Image.write_of_inside _ q.2 hin⟩
  of_writing report todo hp := by
    cases h with
    | surveying | checking | finished | failed => cases hp
    | writing hwrites =>
        cases hp
        exact hwrites
  of_finished report hp := by
    cases h with
    | surveying | checking | writing | failed => cases hp
    | finished =>
        cases hp
        exact ⟨rfl, rfl⟩

theorem replay_of_apply {report : Report} {left : Image}
    (h : imprint.apply image = (.ok report, left)) :
    image.replay (imprint.writesOn image) = .ok left := by
  obtain ⟨n, result, hresult, happly⟩ := imprint.exists_result image
  rw [h] at happly
  obtain ⟨rfl, rfl⟩ := Prod.mk.inj happly
  have hreached := imprint.reached_after image n
  generalize imprint.after image n = p at hreached hresult ⊢
  cases hreached with
  | surveying | checking | writing | failed => cases hresult
  | finished hreplay => exact hreplay

end Imprint

end Header

end FirmwareHeader
