import FirmwareHeader.Proofs.Job.Course
import FirmwareHeader.Proofs.Files.TreeLawful

namespace FirmwareHeader.Job

open Files Files.Layout Files.Store Header Log

variable {σ : Type} [Store (StateM σ)]

def obstacles (job : Job) (s : σ) : List Failure :=
  match (readIn s job.image).1 with
  | .error cause => [.badFile .read job.image cause]
  | .ok bytes => (defects bytes).map .badImage ++
    match job.imprint.patch bytes with
    | .error _ => []
    | .ok (image, _) =>
      match (writeIn s job.output image.bytes).1 with
      | .error cause => [.badFile .write job.output cause]
      | .ok () => []

variable [Layout σ]

namespace Course

variable {job : Job} {s t u v : σ} {records records' : List Record} {report report' : Report}

theorem error_cases {failure : Failure} (h : Course job s records (.error failure) t) :
    t = s ∧ (obstacles job s).head? = some failure := by
  cases h with
  | unread hread => exact ⟨rfl, by simp only [obstacles, hread, List.head?_cons]⟩
  | refused hread _ hpatch =>
      have hhead := job.imprint.head?_defects_of_patch hpatch
      exact ⟨rfl, by simp only [obstacles, hread, hpatch, List.append_nil, List.head?_map, hhead,
        Option.map_some]⟩
  | unwritten hread _ hpatch hwrite =>
      have hnil := (job.imprint.patch_cases hpatch).1
      exact ⟨rfl, by simp only [obstacles, hread, hpatch, hwrite, hnil, List.map_nil,
        List.nil_append, List.head?_cons]⟩

theorem ok_cases (h : Course job s records (.ok report) t) :
    obstacles job s = [] ∧ ∃ bytes image place, fileAt s job.image = some bytes ∧
      job.imprint.patch bytes = .ok (image, report) ∧ Written s t job.output image.bytes place := by
  cases h with
  | written hread hfile hpatch hwrite hwritten =>
      have hnil := (job.imprint.patch_cases hpatch).1
      refine ⟨?_, _, _, _, hfile, hpatch, hwritten⟩
      simp only [obstacles, hread, hpatch, hwrite, hnil, List.map_nil, List.append_nil]

theorem output_eq {output : String} (hfile : fileAt u job.image = fileAt s job.image)
    (h : Course job s records (.ok report) t)
    (h' : Course { job with output } u records' (.ok report') v) :
    report' = report ∧ fileAt v output = fileAt t job.output := by
  obtain ⟨_, bytes, image, place, hbytes, hpatch, hwritten⟩ := h.ok_cases
  obtain ⟨_, bytes', image', place', hbytes', hpatch', hwritten'⟩ := h'.ok_cases
  change fileAt u job.image = some bytes' at hbytes'
  change job.imprint.patch bytes' = .ok (image', report') at hpatch'
  rw [hfile, hbytes] at hbytes'
  cases hbytes'
  rw [hpatch] at hpatch'
  cases hpatch'
  exact ⟨rfl, by rw [hwritten.fileAt_path, hwritten'.fileAt_path]⟩

end Course

/-- A job that fails leaves everything as it was and says what stood in its way first. A job that
succeeds changes one file, which then holds the image with its header, and what was there before
has no part in it. -/
theorem run_all_or_nothing [LawfulStore σ] (job : Job) (s : σ) :
    (∀ records failure t, job.runIn s = ((records, .error failure), t) →
      t = s ∧ (obstacles job s).head? = some failure) ∧
    (∀ records report t, job.runIn s = ((records, .ok report), t) →
      obstacles job s = [] ∧ ∃ bytes image final place,
        fileAt s job.image = some bytes ∧ Image.ofBytes bytes = .ok image ∧
        job.imprint.apply image = (.ok report, final) ∧ final.bytes.size = bytes.size ∧
        Written s t job.output final.bytes place) ∧
    ∀ (u : σ) (output : String), fileAt u job.image = fileAt s job.image →
      ∀ records report t records' report' v, job.runIn s = ((records, .ok report), t) →
        { job with output }.runIn u = ((records', .ok report'), v) →
        report' = report ∧ fileAt v output = fileAt t job.output := by
  refine ⟨?_, ?_, ?_⟩
  · intro records failure t hrun
    exact (course_of_runIn hrun).error_cases
  · intro records report t hrun
    obtain ⟨hnone, bytes, final, place, hbytes, hpatch, hwritten⟩ := (course_of_runIn hrun).ok_cases
    obtain ⟨image, hof, happly⟩ := Imprint.patch_eq_ok_iff.mp hpatch
    have hsize := job.imprint.size_of_patch hpatch
    exact ⟨hnone, bytes, image, final, place, hbytes, hof, happly, hsize, hwritten⟩
  · intro u output hfile records report t records' report' v hrun hrun'
    exact (course_of_runIn hrun).output_eq hfile (course_of_runIn hrun')

def inPlace : Job := ⟨"fw", 1, 2, "./fw", .clear⟩

theorem run_all_or_nothing_inPlace :
    (inPlace.runIn (Tree.single "fw" shortest)).1.2.toOption = some ⟨1, 16, true, some 116⟩ ∧
    ∃ final place, Written (Tree.single "fw" shortest)
      (inPlace.runIn (Tree.single "fw" shortest)).2 "./fw" final place := by
  have hok : (inPlace.runIn (Tree.single "fw" shortest)).1.2.toOption =
      some ⟨1, 16, true, some 116⟩ := by decide +kernel
  obtain ⟨_, bytes, image, final, place, _, _, _, _, hwritten⟩ :=
    (run_all_or_nothing inPlace (Tree.single "fw" shortest)).2.1 _ _ _ (runIn_eq_of_ok hok)
  exact ⟨hok, final.bytes, place, hwritten⟩

end FirmwareHeader.Job
