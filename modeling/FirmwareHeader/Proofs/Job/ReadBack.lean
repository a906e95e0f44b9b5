import FirmwareHeader.Proofs.Header.ReadBack
import FirmwareHeader.Proofs.Job.Outcome

namespace FirmwareHeader.Job

open Files Files.Layout Files.Store Header Log SignedLength

theorem records_of_faultless (job : Job) {image : Image} (h : fault? image = none) :
    (job.process image.bytes).1 = .opened image.size job.image ::
      ((remarks image).map .noticed ++
        [.written (aligned image) (ofImage image) job.version job.patchLevel,
          .header (job.imprint.fields (reportOn image))]) := by
  have hgreat : ¬greatest < aligned image := by
    have hraw := ((fault?_eq_none_iff image).mp h).1
    rw [greatest_lt_aligned_iff]
    omega
  rw [records_of_image, if_neg hgreat, unplaced?_of_fault? h]
  simp only [readBack, job.imprint.read_on h]

theorem getLast?_of_process {job : Job} {bytes : Array UInt8} {records : List Record}
    {final : Image} {report : Report} (h : job.process bytes = (records, .ok (final, report))) :
    records.getLast? = some (.header (job.imprint.fields report)) := by
  have hpatch : job.imprint.patch bytes = .ok (final, report) := by rw [← process_snd, h]
  have hrecords : (job.process bytes).1 = records := by rw [h]
  obtain ⟨_, image, _, hbytes, hfault, _, hreport⟩ := job.imprint.patch_cases hpatch
  rw [← hrecords, ← hbytes, records_of_faultless job hfault, hreport]
  simp [List.getLast?_cons]

variable {σ : Type} [Store (StateM σ)] [Layout σ]

/-- A header that was written is read back as it was meant, from the image, from its bytes and from
the file that was made of them. -/
theorem fields_recovered [LawfulStore σ] :
    (∀ (imprint : Imprint) (image final : Image) (report : Report),
      imprint.apply image = (.ok report, final) →
        Fields.read final =
          .ok ⟨report.signedLength, magic, report.signedLength, imprint.patchLevel,
            imprint.version⟩ ∧
        (final.read 0).map ofLead = .ok report.signedLength ∧
        (Image.ofBytes final.bytes >>= Fields.read) =
          .ok ⟨report.signedLength, magic, report.signedLength, imprint.patchLevel,
            imprint.version⟩) ∧
    (∀ (job : Job) (bytes : Array UInt8) (records : List Record) (final : Image) (report : Report),
      job.process bytes = (records, .ok (final, report)) →
        records.getLast? = some (.header ⟨report.signedLength, magic, report.signedLength,
          job.patchLevel, job.version⟩)) ∧
    ∀ (job : Job) (s t : σ) (records : List Record) (report : Report),
      job.runIn s = ((records, .ok report), t) →
        ∃ bytes, fileAt t job.output = some bytes ∧ (Image.ofBytes bytes >>= Fields.read) =
          .ok ⟨report.signedLength, magic, report.signedLength, job.patchLevel, job.version⟩ := by
  refine ⟨?_, ?_, ?_⟩
  · intro imprint image final report happly
    obtain ⟨hfault, hreport, hfinal⟩ := imprint.apply_cases happly
    rw [hreport, hfinal]
    refine ⟨imprint.read_on hfault, ?_, imprint.read_bytes_on hfault⟩
    rw [Image.read_of_inside _ (Image.outside?_zero _)]
    exact congrArg Except.ok (Imprint.ofImage_on hfault imprint)
  · intro job bytes records final report hprocess
    exact getLast?_of_process hprocess
  · intro job s t records report hrun
    obtain ⟨_, bytes, final, place, _, hpatch, hwritten⟩ := (course_of_runIn hrun).ok_cases
    obtain ⟨_, image, _, _, hfault, hfinal, hreport⟩ := job.imprint.patch_cases hpatch
    rw [hfinal] at hwritten
    rw [hreport]
    exact ⟨_, hwritten.fileAt_path, job.imprint.read_bytes_on hfault⟩

theorem fields_recovered_inPlace :
    (∃ final, inPlace.imprint.apply shortestImage = (.ok ⟨1, 16, true, some 116⟩, final) ∧
      Fields.read final = .ok ⟨16, magic, 16, 2, 1⟩ ∧ (final.read 0).map ofLead = .ok 16) ∧
    (inPlace.process shortestImage.bytes).1.getLast? = some (.header ⟨16, magic, 16, 2, 1⟩) ∧
    ∃ bytes, fileAt (inPlace.runIn (Tree.single "fw" shortest)).2 "./fw" = some bytes ∧
      (Image.ofBytes bytes >>= Fields.read) = .ok ⟨16, magic, 16, 2, 1⟩ := by
  have hfault : fault? shortestImage = none := by decide +kernel
  have hreport : reportOn shortestImage = ⟨1, 16, true, some 116⟩ := by decide +kernel
  have happly := inPlace.imprint.apply_eq shortestImage
  simp only [hfault, hreport] at happly
  have hpatch := Imprint.patch_eq_ok_iff.mpr ⟨_, Image.ofBytes_bytes shortestImage, happly⟩
  have hok : (inPlace.runIn (Tree.single "fw" shortest)).1.2.toOption =
      some ⟨1, 16, true, some 116⟩ := by decide +kernel
  obtain ⟨hwritten, hsaid, hfile⟩ := fields_recovered (σ := Tree)
  have hback := hwritten _ _ _ _ happly
  refine ⟨⟨_, happly, hback.1, hback.2.1⟩, hsaid _ _ _ _ _ (process_eq hpatch), ?_⟩
  exact hfile inPlace (Tree.single "fw" shortest) _ _ _ (runIn_eq_of_ok hok)

end FirmwareHeader.Job
