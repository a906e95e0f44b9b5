import FirmwareHeader.Proofs.Failure.Message
import FirmwareHeader.Proofs.Failure.Wording
import FirmwareHeader.Proofs.Files.TreeLawful
import FirmwareHeader.Proofs.Program.Obstacles

namespace FirmwareHeader.Failure

open CommandLine Files Files.Layout Program Text

structure Told (failure : Failure) (cause : String) : Prop where
  causes_eq : failure.causes = [cause]
  report_eq : failure.report =
    "header_tool ERROR: " ++ failure.message ++ "\n" ++ ("\tsource: " ++ cause ++ "\n")
  unbroken : ∀ c ∈ failure.message.toList ++ cause.toList, breaks c = false

theorem told_of_visible {failure : Failure} {cause : String} (h : failure.causes = [cause])
    (hmessage : Visible failure.message.toList) (hcause : Visible cause.toList) :
    Told failure cause := by
  exact ⟨h, report_of_cause rfl h,
    fun c hc => breaks_of_standsAlone (visible_append hmessage hcause c hc)⟩

/-- The first line ends at the first break, since there is none in the message. -/
theorem Told.inj {failure other : Failure} {cause cause' : String} (h : Told failure cause)
    (h' : Told other cause') (hreport : failure.report = other.report) :
    failure.message = other.message ∧ cause = cause' := by
  have hfeed {f : Failure} {c : String} (hf : Told f c) : '\n' ∉ f.message.toList :=
    fun hmem => absurd (hf.unbroken _ (List.mem_append_left _ hmem)) (by decide)
  rw [h.report_eq, h'.report_eq, ← String.toList_inj] at hreport
  simp only [String.toList_append, List.append_assoc, List.append_cancel_left_eq] at hreport
  obtain ⟨hmessage, hrest⟩ := List.append_cons_inj_of_not_mem_left (hfeed h) (hfeed h') hreport
  have hcause : cause.toList ++ "\n".toList = cause'.toList ++ "\n".toList :=
    List.append_cancel_left hrest
  exact ⟨String.toList_inj.mp hmessage,
    String.toList_inj.mp (List.append_cancel_right hcause)⟩

theorem told_badNumber (name : NumberName) (text : String) (cause : Numeral.Fault) :
    Told (badNumber name text cause) cause.message := by
  refine told_of_visible rfl ?_ cause.visible_message
  have hname : Visible (name.text.toList ++ " ".toList) := by
    cases name with
    | version | spl => exact visible_of_plain (by decide)
  have hmark : standsAlone '\x22' := standsAlone_of_plain (by decide)
  rw [toList_badNumber]
  exact visible_append (visible_append hname (visible_quoted hmark _))
    (visible_of_plain (by decide))

theorem told_badImage (cause : Image.Fault) : Told (badImage cause) cause.message := by
  have hmessage : Visible "malformed image".toList := visible_of_plain (by decide)
  exact told_of_visible rfl hmessage cause.visible_message

/-- The failures that come of the text of a number, or of what an image is like. -/
inductive Explained : Failure → Prop
  | number {σ : Type} [Store (StateM σ)] [Layout σ] [LawfulStore σ] {request : Request} {s t : σ}
      {failure : Failure}
      (h : (Job.prepare request.image request.version request.spl request.output request.policy :
        StateM σ (Except Failure Job)).run s = (.error failure, t))
      (hfile : failure ≠ .noImage request.image) : Explained failure
  | image (cause : Image.Fault) : Explained (.badImage cause)

theorem Explained.of_job {request : Request} {failure : Failure} (himage : request.image = "fw")
    (h : job request = .error failure) : Explained failure := by
  obtain ⟨⟨name, text, cause, rfl⟩, _⟩ := job_eq_error h
  have hfile : fileAt (Tree.single "fw" #[]) "fw" = some #[] := by decide +kernel
  have hrun := prepare_run request (Tree.single "fw" #[])
  rw [himage, hfile, h] at hrun
  exact .number (himage ▸ hrun) nofun

theorem Explained.of_read (name : NumberName) {text : String} {cause : Numeral.Fault}
    (h : Numeral.read text = .error cause) : Explained (.badNumber name text cause) := by
  cases name with
  | version =>
      have hjob : job ⟨"fw", text, "0", "out", .clear⟩ =
          .error (.badNumber .version text cause) := by
        rw [job_eq, h]
      exact of_job rfl hjob
  | spl =>
      have hzero : Numeral.read "0" = .ok 0 := rfl
      have hjob : job ⟨"fw", "0", text, "out", .clear⟩ =
          .error (.badNumber .spl text cause) := by
        rw [job_eq, h, hzero]
      exact of_job rfl hjob

theorem Explained.eq_or_eq {failure : Failure} (h : Explained failure) :
    (∃ name text cause, failure = .badNumber name text cause) ∨
      ∃ cause, failure = .badImage cause := by
  cases h with
  | @number σ _ _ _ request s t _ h hfile =>
      rw [prepare_run] at h
      cases hf : fileAt s request.image with
      | none =>
          rw [hf] at h
          exact absurd (Except.error.inj (Prod.mk.inj h).1).symm hfile
      | some bytes =>
          rw [hf] at h
          exact .inl (job_eq_error (Prod.mk.inj h).1).1
  | image cause => exact .inr ⟨cause, rfl⟩

theorem Explained.told {failure : Failure} (h : Explained failure) :
    ∃ cause, Told failure cause := by
  rcases h.eq_or_eq with ⟨name, text, cause, rfl⟩ | ⟨cause, rfl⟩
  · exact ⟨_, told_badNumber name text cause⟩
  · exact ⟨_, told_badImage cause⟩

theorem Explained.eq_of_report {failure other : Failure} (h : Explained failure)
    (h' : Explained other) (hreport : failure.report = other.report) : failure = other := by
  rcases h.eq_or_eq with ⟨name, text, fault, rfl⟩ | ⟨fault, rfl⟩ <;>
    rcases h'.eq_or_eq with ⟨name', text', fault', rfl⟩ | ⟨fault', rfl⟩
  · obtain ⟨hmessage, hcause⟩ := (told_badNumber ..).inj (told_badNumber ..) hreport
    obtain ⟨rfl, rfl⟩ := badNumber_inj hmessage
    rw [Numeral.Fault.message_inj hcause]
  · obtain ⟨hmessage, _⟩ := (told_badNumber ..).inj (told_badImage _) hreport
    exact absurd hmessage (badNumber_ne_badImage _ _ _ _)
  · obtain ⟨hmessage, _⟩ := (told_badImage _).inj (told_badNumber ..) hreport
    exact absurd hmessage.symm (badNumber_ne_badImage _ _ _ _)
  · obtain ⟨_, hcause⟩ := (told_badImage _).inj (told_badImage _) hreport
    rw [Image.Fault.message_inj hcause]

/-- Whatever a text holds, the failure it leads to is told in two lines and as no other failure. -/
theorem Explained.told_apart {failure other : Failure} (h : Explained failure)
    (h' : Explained other) :
    (∃ cause, Told failure cause) ∧ (failure.report = other.report ↔ failure = other) :=
  ⟨h.told, h.eq_of_report h', fun heq => congrArg report heq⟩

/-- A text that pretends to be the end of a report. -/
def forged : String := "\x22 is not valid hexadecimal\n\tsource: no digits\n"

theorem Explained.told_apart_forged :
    (∃ cause, Told (.badNumber .version forged (.invalidDigit '\x22')) cause) ∧
    report (.badNumber .version forged (.invalidDigit '\x22')) ≠
      report (.badNumber .version "" .empty) := by
  have hforged : Numeral.read forged = .error (.invalidDigit '\x22') := rfl
  have hempty : Numeral.read "" = .error .empty := rfl
  obtain ⟨htold, hreport⟩ := told_apart (of_read .version hforged) (of_read .version hempty)
  exact ⟨htold, fun h => absurd (hreport.mp h) (by decide)⟩

end FirmwareHeader.Failure
