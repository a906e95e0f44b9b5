import FirmwareHeader.Job
import FirmwareHeader.Proofs.Files.Lawful
import FirmwareHeader.Proofs.Header.Defects

namespace FirmwareHeader.Job

open Files Files.Layout Files.Store Header Log

def imprint (job : Job) : Imprint := ⟨job.version, job.patchLevel, job.policy⟩

theorem process_snd (job : Job) (bytes : Array UInt8) :
    (job.process bytes).2 = job.imprint.patch bytes := by
  rw [process, Imprint.patch]
  cases Image.ofBytes bytes with
  | error fault => rfl
  | ok image =>
      have hwrite : Header.write job.version job.patchLevel job.policy ⟨image, []⟩ =
          job.imprint.write ⟨image, []⟩ := rfl
      simp only [hwrite, bind, Except.bind, Imprint.apply]
      cases job.imprint.write ⟨image, []⟩ with
      | error fault draft => rfl
      | ok report draft => rfl

theorem process_eq {job : Job} {bytes : Array UInt8}
    {outcome : Except Image.Fault (Image × Report)} (h : job.imprint.patch bytes = outcome) :
    job.process bytes = ((job.process bytes).1, outcome) := by
  rw [← h, ← process_snd]

theorem records_of_fault (job : Job) {bytes : Array UInt8} {fault : Image.Fault}
    (h : Image.ofBytes bytes = .error fault) :
    (job.process bytes).1 = [.opened bytes.size job.image] := by
  rw [process, h]

/-- All that is said about an image: nothing more once its length overflows, and nothing about a
header that has no place. -/
theorem records_of_image (job : Job) (image : Image) :
    (job.process image.bytes).1 = .opened image.size job.image ::
      if SignedLength.greatest < SignedLength.aligned image then []
      else (remarks image).map .noticed ++
        match unplaced? image with
        | some _ => []
        | none =>
          .written (SignedLength.aligned image) (SignedLength.ofImage image) job.version
            job.patchLevel :: readBack (job.imprint.on image) := by
  have hwrite : Header.write job.version job.patchLevel job.policy ⟨image, []⟩ = _ :=
    job.imprint.write_eq ⟨image, []⟩
  rw [process, Image.ofBytes_bytes]
  simp only [hwrite]
  by_cases h : SignedLength.greatest < SignedLength.aligned image
  · simp only [if_pos h]
    rfl
  · simp only [if_neg h]
    cases unplaced? image with
    | some fault => simp only [List.nil_append, List.append_nil]; rfl
    | none => simp only [List.nil_append, reportOn, List.cons_append]; rfl

variable {σ : Type}

variable [Store (StateM σ)]

abbrev runIn (job : Job) (s : σ) : (List Record × Except Failure Report) × σ :=
  (job.run : StateM σ (List Record × Except Failure Report)).run s

section

variable {job : Job} {s t u : σ} {bytes : Array UInt8} {records : List Record} {image : Image}
  {report : Report}

theorem runIn_of_unread {cause : Files.Fault} (hread : readIn s job.image = (.error cause, t)) :
    job.runIn s = (([], .error (.badFile .read job.image cause)), t) :=
  (run_bind_of hread).trans rfl

theorem runIn_of_refused {fault : Image.Fault} (hread : readIn s job.image = (.ok bytes, t))
    (hprocess : job.process bytes = (records, .error fault)) :
    job.runIn s = ((records, .error (.badImage fault)), t) := by
  refine (run_bind_of hread).trans ?_
  simp only [hprocess]
  rfl

theorem runIn_of_unwritten {cause : Files.Fault} (hread : readIn s job.image = (.ok bytes, t))
    (hprocess : job.process bytes = (records, .ok (image, report)))
    (hwrite : writeIn t job.output image.bytes = (.error cause, u)) :
    job.runIn s = ((records, .error (.badFile .write job.output cause)), u) := by
  refine (run_bind_of hread).trans ?_
  simp only [hprocess]
  exact (run_bind_of hwrite).trans rfl

theorem runIn_of_written (hread : readIn s job.image = (.ok bytes, t))
    (hprocess : job.process bytes = (records, .ok (image, report)))
    (hwrite : writeIn t job.output image.bytes = (.ok (), u)) :
    job.runIn s = ((records, .ok report), u) := by
  refine (run_bind_of hread).trans ?_
  simp only [hprocess]
  exact (run_bind_of hwrite).trans rfl

theorem runIn_eq_of_ok (h : (job.runIn s).1.2.toOption = some report) :
    job.runIn s = (((job.runIn s).1.1, .ok report), (job.runIn s).2) := by
  generalize job.runIn s = outcome at h
  obtain ⟨⟨records, result⟩, t⟩ := outcome
  cases result with
  | error failure => cases h
  | ok report => cases h; rfl

end

variable [Layout σ]

inductive Course (job : Job) (s : σ) : List Record → Except Failure Report → σ → Prop
  | unread {cause} (hread : readIn s job.image = (.error cause, s)) :
      Course job s [] (.error (.badFile .read job.image cause)) s
  | refused {bytes fault} (hread : readIn s job.image = (.ok bytes, s))
      (hfile : fileAt s job.image = some bytes) (hpatch : job.imprint.patch bytes = .error fault) :
      Course job s (job.process bytes).1 (.error (.badImage fault)) s
  | unwritten {bytes image report cause} (hread : readIn s job.image = (.ok bytes, s))
      (hfile : fileAt s job.image = some bytes)
      (hpatch : job.imprint.patch bytes = .ok (image, report))
      (hwrite : writeIn s job.output image.bytes = (.error cause, s)) :
      Course job s (job.process bytes).1 (.error (.badFile .write job.output cause)) s
  | written {bytes image report t place} (hread : readIn s job.image = (.ok bytes, s))
      (hfile : fileAt s job.image = some bytes)
      (hpatch : job.imprint.patch bytes = .ok (image, report))
      (hwrite : writeIn s job.output image.bytes = (.ok (), t))
      (hwritten : Written s t job.output image.bytes place) :
      Course job s (job.process bytes).1 (.ok report) t

theorem runIn_course [LawfulStore σ] (job : Job) (s : σ) :
    ∃ records result t, job.runIn s = ((records, result), t) ∧ Course job s records result t := by
  obtain ⟨result, hread, hfile⟩ := LawfulStore.read_run s job.image
  cases result with
  | error cause => exact ⟨_, _, _, runIn_of_unread hread, .unread hread⟩
  | ok bytes =>
      have hfile := hfile bytes rfl
      cases hpatch : job.imprint.patch bytes with
      | error fault =>
          exact ⟨_, _, _, runIn_of_refused hread (process_eq hpatch), .refused hread hfile hpatch⟩
      | ok patched =>
          obtain ⟨image, report⟩ := patched
          rcases LawfulStore.write_run s job.output image.bytes with
            ⟨cause, hwrite⟩ | ⟨t, place, hwrite, hwritten⟩
          · exact ⟨_, _, _, runIn_of_unwritten hread (process_eq hpatch) hwrite,
              .unwritten hread hfile hpatch hwrite⟩
          · exact ⟨_, _, _, runIn_of_written hread (process_eq hpatch) hwrite,
              .written hread hfile hpatch hwrite hwritten⟩

theorem course_of_runIn [LawfulStore σ] {job : Job} {s t : σ} {records : List Record}
    {result : Except Failure Report} (h : job.runIn s = ((records, result), t)) :
    Course job s records result t := by
  obtain ⟨_, _, _, hrun, hcourse⟩ := job.runIn_course s
  rw [h] at hrun
  cases hrun
  exact hcourse

end FirmwareHeader.Job
