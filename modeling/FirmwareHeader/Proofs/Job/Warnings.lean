import FirmwareHeader.Proofs.Job.Course
import FirmwareHeader.Proofs.Log.Warnings

namespace FirmwareHeader.Job

open Header Log SignedLength

def sizeWarning (size : Nat) : List Record :=
  if size = nominalSize then [] else [.noticed (.unusualSize size)]

theorem warnings_remarks (image : Image) :
    warnings ((remarks image).map .noticed) = sizeWarning image.size := by
  rw [remarks, sizeWarning]
  by_cases hlength : aligned image = ofImage image <;> by_cases hsize : image.size = nominalSize <;>
    simp [hlength, hsize, warnings, Record.level]

theorem warnings_readBack (image : Image) : warnings (readBack image) = [] := by
  rw [readBack]
  cases Fields.read image with
  | ok fields => rfl
  | error fault => rfl

theorem warnings_of_image (job : Job) (image : Image) :
    warnings (job.process image.bytes).1 =
      if greatest < aligned image then [] else sizeWarning image.size := by
  rw [records_of_image]
  generalize job.imprint.on image = final
  rw [warnings, List.filter_cons_of_neg (by simp [Record.level])]
  by_cases hgreat : greatest < aligned image
  · rw [if_pos hgreat, if_pos hgreat]
    rfl
  · rw [if_neg hgreat, if_neg hgreat, List.filter_append]
    have hremarks := warnings_remarks image
    have hread := warnings_readBack final
    rw [warnings] at hremarks hread
    cases unplaced? image with
    | some fault => rw [hremarks, List.filter_nil, List.append_nil]
    | none =>
        simp only
        rw [hremarks, List.filter_cons_of_neg (by simp [Record.level]), hread, List.append_nil]

/-- The size of an image is looked at between the length in word 0 and the place of the header, so
that only a header without a place is reported together with it. -/
theorem warnings_process (job : Job) (bytes : Array UInt8) :
    warnings (job.process bytes).1 =
      match job.imprint.patch bytes with
      | .ok _ | .error (.outOfBounds _ _) => sizeWarning bytes.size
      | .error _ => [] := by
  cases hof : Image.ofBytes bytes with
  | error fault =>
      have hpatch : job.imprint.patch bytes = .error fault := by
        simp only [Imprint.patch, hof, bind, Except.bind]
      rw [records_of_fault job hof, hpatch]
      rcases Image.ofBytes_eq_error hof with rfl | rfl
      · rfl
      · rfl
  | ok image =>
      obtain rfl := Image.ofBytes_eq_ok hof
      rw [warnings_of_image, Imprint.patch_of_image]
      cases hfault : fault? image with
      | none =>
          have hgreat : ¬greatest < aligned image := by
            rw [greatest_lt_aligned_iff]
            have := (fault?_eq_none_iff image).mp hfault
            omega
          rw [if_neg hgreat]
          rfl
      | some fault =>
          rcases fault?_cases hfault with ⟨hgreat, rfl⟩ | ⟨hgreat, offset, rfl⟩
          · rw [if_pos hgreat]
          · rw [if_neg hgreat]
            rfl

end FirmwareHeader.Job
