import FirmwareHeader.CommandLine.Message
import FirmwareHeader.Proofs.Failure.Wording
import FirmwareHeader.Proofs.Job.Outcome
import FirmwareHeader.Proofs.Job.Warnings
import FirmwareHeader.Proofs.Program.Obstacles

namespace FirmwareHeader.Program

open CommandLine Files Files.Layout Files.Store Header Log

/-- Whether the size of the image has been looked at when a request ends so. -/
def sized : Option Failure → Bool
  | none | some (.badImage (.outOfBounds _ _)) | some (.badFile .write _ _) => true
  | some _ => false

variable {σ : Type} [Store (StateM σ)] [Layout σ]

def warnings (request : Request) (s : σ) : List Record :=
  match fileAt s request.image with
  | none => []
  | some bytes => if sized (obstacles request s).head? then Job.sizeWarning bytes.size else []

variable {request : Request} {s t : σ} {records : List Record}

namespace Course

theorem succeeds (h : Course request s records none t) :
    ∃ final place, Succeeds request s t final ∧ Written s t request.output final.bytes place := by
  cases h with
  | completed hfile hjob hcourse =>
      obtain ⟨version, patchLevel, hversion, hspl, rfl⟩ := job_eq_ok hjob
      cases hcourse with
      | written hread hsame hpatch hwrite hwritten =>
          obtain ⟨image, hof, happly⟩ := Imprint.patch_eq_ok_iff.mp hpatch
          exact ⟨_, _, .intro hsame hversion hspl hread hof happly hwrite, hwritten⟩

theorem unchanged {failure : Failure} (h : Course request s records (some failure) t) : t = s := by
  cases h with
  | missing hfile => rfl
  | misread hfile hjob => rfl
  | failed hfile hjob hcourse => exact hcourse.error_cases.1

theorem code_eq {failure : Failure} (h : Course request s records (some failure) t) :
    failure.code = if (fileAt s request.image).isNone then 2 else 1 := by
  cases h with
  | missing hfile =>
      rw [hfile]
      rfl
  | misread hfile hjob =>
      obtain ⟨name, text, cause, rfl⟩ := (job_eq_error hjob).1
      rw [hfile]
      rfl
  | failed hfile hjob hcourse =>
      rw [hfile]
      cases hcourse with
      | unread hread => rfl
      | refused hread hsame hpatch => rfl
      | unwritten hread hsame hpatch hwrite => rfl

theorem head?_obstacles {failure : Option Failure} (h : Course request s records failure t) :
    (obstacles request s).head? = failure := by
  cases h with
  | missing hfile =>
      simp only [obstacles, hfile]
      rfl
  | misread hfile hjob =>
      simp only [obstacles, hfile, List.nil_append, List.head?_append, (job_eq_error hjob).2]
      rfl
  | failed hfile hjob hcourse =>
      obtain ⟨version, patchLevel, hversion, hspl, rfl⟩ := job_eq_ok hjob
      cases hcourse with
      | unread hread =>
          rw [obstacles_of_numbers hfile hversion hspl, unreadable, hread]
          rfl
      | refused hread hsame hpatch =>
          have hhead := Imprint.head?_defects_of_patch _ hpatch
          rw [obstacles_of_numbers hsame hversion hspl, unreadable, hread]
          simp only [List.nil_append, List.head?_append, List.head?_map, hhead, Option.map_some,
            Option.some_or]
      | unwritten hread hsame hpatch hwrite =>
          rw [obstacles_of_patch hsame hversion hspl hread hpatch, hwrite]
          rfl
  | completed hfile hjob hcourse =>
      obtain ⟨final, place, hsucceeds, _⟩ := (Course.completed hfile hjob hcourse).succeeds
      rw [hsucceeds.obstacles_eq_nil]
      rfl

theorem warnings_eq {failure : Option Failure} (h : Course request s records failure t) :
    Log.warnings records = warnings request s := by
  rw [warnings, h.head?_obstacles]
  cases h with
  | missing hfile =>
      rw [hfile]
      rfl
  | misread hfile hjob =>
      obtain ⟨name, text, cause, rfl⟩ := (job_eq_error hjob).1
      rw [hfile]
      rfl
  | failed hfile hjob hcourse =>
      obtain ⟨version, patchLevel, hversion, hspl, rfl⟩ := job_eq_ok hjob
      cases hcourse with
      | unread hread =>
          rw [hfile]
          rfl
      | refused hread hsame hpatch =>
          rw [Job.warnings_process, hpatch, hsame]
          cases ‹Image.Fault› <;> rfl
      | unwritten hread hsame hpatch hwrite =>
          rw [Job.warnings_process, hpatch, hsame]
          rfl
  | completed hfile hjob hcourse =>
      obtain ⟨version, patchLevel, hversion, hspl, rfl⟩ := job_eq_ok hjob
      cases hcourse with
      | written hread hsame hpatch hwrite hwritten =>
          rw [Job.warnings_process, hpatch, hsame]
          rfl

end Course

/-- Accepted arguments lead to the first of the obstacles in their way, or to the patched image if
there is none. The log level decides what stands before the text of the failure and nothing else. -/
theorem run_outcome [LawfulStore σ] {reader : Reader} {arguments : List String}
    {image version spl output : String} {keepFlags : Bool}
    (h : reader.read arguments = .ok ⟨image, version, spl, output, keepFlags⟩) (s : σ) :
    let request : Request := ⟨image, version, spl, output, if keepFlags then .keep else .clear⟩
    ∃ records t,
      (∀ threshold, threshold = none ∨ threshold = some .error →
        admitted threshold records = []) ∧
      (∀ threshold, threshold = some .warn ∨ threshold = some .info →
        admitted threshold records = warnings request s) ∧
      ∀ (printer : Printer) (threshold : Threshold),
        let log := String.join ((admitted threshold records).mapIdx printer)
        ∃ result, runIn reader printer threshold arguments s = (result, t) ∧
          (result.code = 0 ↔ ∃ u final, Succeeds request s u final) ∧
          match (obstacles request s).head? with
          | none =>
            result = ⟨0, "header_tool: completed successfully\n", log⟩ ∧
            ∃ final place, Succeeds request s t final ∧ Written s t output final.bytes place
          | some failure =>
            result = ⟨if (fileAt s image).isNone then 2 else 1, "", log ++ failure.wording⟩ ∧
            t = s := by
  intro request
  obtain ⟨records, failure, t, hserve, hcourse⟩ := serveIn_course request s
  refine ⟨records, t, fun _ hquiet => admitted_of_quiet hquiet records, ?_, ?_⟩
  · intro threshold husual
    rw [admitted_of_usual husual, hcourse.warnings_eq]
  · intro printer threshold log
    have hrun := (runIn_of_args h printer threshold s).trans (hserve _)
    refine ⟨_, hrun, ?_⟩
    rw [hcourse.head?_obstacles]
    cases failure with
    | none =>
        obtain ⟨final, place, hsucceeds, hwritten⟩ := hcourse.succeeds
        have hcode : (conclude log none).code = 0 ↔ ∃ u final, Succeeds request s u final :=
          ⟨fun _ => ⟨t, final, hsucceeds⟩, fun _ => rfl⟩
        exact ⟨hcode, rfl, final, place, hsucceeds, hwritten⟩
    | some failure =>
        have hcode := hcourse.code_eq
        have hhead := hcourse.head?_obstacles
        refine ⟨?_, ?_, hcourse.unchanged⟩
        · constructor
          · intro hzero
            exact absurd (hcode.symm.trans hzero) (by split <;> decide)
          · rintro ⟨u, final, hsucceeds⟩
            rw [hsucceeds.obstacles_eq_nil] at hhead
            cases hhead
        · rw [conclude, failed, hcode, failure.report_eq_wording]
          rfl

def usual : List String := ["-i", "fw", "-v", "1", "-s", "2", "-o", "out"]

/-- Neither number is one, and there is nothing in the image. -/
def hopeless : List String := ["-i", "fw", "-v", "g", "-s", "_", "-o", "out"]

theorem run_outcome_usual :
    (∃ t final place,
      runIn .leftToRight timeless (some .error) usual (Tree.single "fw" shortest) =
        (⟨0, "header_tool: completed successfully\n", ""⟩, t) ∧
      Written (Tree.single "fw" shortest) t "out" final place) ∧
    runIn .leftToRight timeless (some .warn) hopeless (Tree.single "fw" #[]) =
      (⟨1, "", "header_tool ERROR: version \x22g\x22 is not valid hexadecimal\n" ++
        "\tsource: invalid character 'g'\n"⟩, Tree.single "fw" #[]) := by
  constructor
  · have hread : Reader.leftToRight.read usual = .ok ⟨"fw", "1", "2", "out", false⟩ := rfl
    have hclear : obstacles ⟨"fw", "1", "2", "out", if false then .keep else .clear⟩
        (Tree.single "fw" shortest) = [] := by decide +kernel
    obtain ⟨records, t, hquiet, _, hrun⟩ := run_outcome hread (Tree.single "fw" shortest)
    rw [hclear] at hrun
    obtain ⟨result, hresult, _, rfl, final, place, _, hwritten⟩ := hrun timeless (some .error)
    rw [hquiet (some .error) (.inr rfl)] at hresult
    exact ⟨t, final.bytes, place, hresult, hwritten⟩
  · have hread : Reader.leftToRight.read hopeless = .ok ⟨"fw", "g", "_", "out", false⟩ := rfl
    have hfirst : (obstacles ⟨"fw", "g", "_", "out", if false then .keep else .clear⟩
        (Tree.single "fw" #[])).head? = some (.badNumber .version "g" (.invalidDigit 'g')) := by
      decide +kernel
    have hwarnings : warnings ⟨"fw", "g", "_", "out", if false then .keep else .clear⟩
        (Tree.single "fw" #[]) = [] := by decide +kernel
    obtain ⟨records, t, _, husual, hrun⟩ := run_outcome hread (Tree.single "fw" #[])
    rw [hfirst] at hrun
    obtain ⟨result, hresult, _, rfl, rfl⟩ := hrun timeless (some .warn)
    rw [husual (some .warn) (.inl rfl), hwarnings] at hresult
    exact hresult.trans (by decide +kernel)

end FirmwareHeader.Program
