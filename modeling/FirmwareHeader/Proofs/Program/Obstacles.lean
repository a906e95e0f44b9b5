import FirmwareHeader.Proofs.Program.Course

namespace FirmwareHeader.Program

open CommandLine Files Files.Layout Files.Store Header Log

def badNumber (name : NumberName) (text : String) : List Failure :=
  match Numeral.read text with
  | .ok _ => []
  | .error cause => [.badNumber name text cause]

theorem job_eq (request : Request) : job request =
    match Numeral.read request.version, Numeral.read request.spl with
    | .error cause, _ => .error (.badNumber .version request.version cause)
    | .ok _, .error cause => .error (.badNumber .spl request.spl cause)
    | .ok version, .ok patchLevel =>
      .ok ⟨request.image, version, patchLevel, request.output, request.policy⟩ := by
  rw [job, Job.number, Job.number]
  cases Numeral.read request.version with
  | error cause => rfl
  | ok version =>
      cases Numeral.read request.spl with
      | error cause => rfl
      | ok patchLevel => rfl

theorem job_eq_error {request : Request} {failure : Failure} (h : job request = .error failure) :
    (∃ name text cause, failure = .badNumber name text cause) ∧
    (badNumber .version request.version ++ badNumber .spl request.spl).head? = some failure := by
  rw [job_eq] at h
  rw [badNumber, badNumber]
  cases hversion : Numeral.read request.version with
  | error cause =>
      rw [hversion] at h
      cases h
      exact ⟨⟨_, _, cause, rfl⟩, rfl⟩
  | ok version =>
      rw [hversion] at h
      cases hspl : Numeral.read request.spl with
      | error cause =>
          rw [hspl] at h
          cases h
          exact ⟨⟨_, _, cause, rfl⟩, rfl⟩
      | ok patchLevel =>
          rw [hspl] at h
          cases h

theorem job_eq_ok {request : Request} {j : Job} (h : job request = .ok j) :
    ∃ version patchLevel, Numeral.read request.version = .ok version ∧
      Numeral.read request.spl = .ok patchLevel ∧
      j = ⟨request.image, version, patchLevel, request.output, request.policy⟩ := by
  rw [job_eq] at h
  cases hversion : Numeral.read request.version with
  | error cause =>
      rw [hversion] at h
      cases h
  | ok version =>
      rw [hversion] at h
      cases hspl : Numeral.read request.spl with
      | error cause =>
          rw [hspl] at h
          cases h
      | ok patchLevel =>
          rw [hspl] at h
          cases h
          exact ⟨version, patchLevel, rfl, rfl, rfl⟩

variable {σ : Type} [Store (StateM σ)] [Layout σ]

def unreadable (request : Request) (s : σ) : List Failure :=
  match (readIn s request.image).1 with
  | .error cause => [.badFile .read request.image cause]
  | .ok _ => []

def unwritable (request : Request) (s : σ) : List Failure :=
  match Numeral.read request.version, Numeral.read request.spl, fileAt s request.image with
  | .ok version, .ok patchLevel, some bytes =>
    match (⟨version, patchLevel, request.policy⟩ : Imprint).patch bytes with
    | .error _ => []
    | .ok (image, _) =>
      match (writeIn s request.output image.bytes).1 with
      | .error cause => [.badFile .write request.output cause]
      | .ok () => []
  | _, _, _ => []

/-- All that stands in the way of a request, in the order in which it is met. Each is told for
itself, whatever else stands in the way. -/
def obstacles (request : Request) (s : σ) : List Failure :=
  (match fileAt s request.image with
    | none => [.noImage request.image]
    | some _ => []) ++
  badNumber .version request.version ++ badNumber .spl request.spl ++ unreadable request s ++
  (match fileAt s request.image with
    | none => []
    | some bytes => (defects bytes).map .badImage) ++
  unwritable request s

inductive Succeeds (request : Request) (s t : σ) (final : Image) : Prop
  | intro {bytes version patchLevel image report}
      (hfile : fileAt s request.image = some bytes)
      (hversion : Numeral.read request.version = .ok version)
      (hspl : Numeral.read request.spl = .ok patchLevel)
      (hread : readIn s request.image = (.ok bytes, s))
      (hof : Image.ofBytes bytes = .ok image)
      (happly : (⟨version, patchLevel, request.policy⟩ : Imprint).apply image = (.ok report, final))
      (hwrite : writeIn s request.output final.bytes = (.ok (), t))

section

variable {request : Request} {s t : σ} {bytes : Array UInt8} {version patchLevel : UInt32}
  {final : Image} {report : Report}

theorem obstacles_of_numbers (hfile : fileAt s request.image = some bytes)
    (hversion : Numeral.read request.version = .ok version)
    (hspl : Numeral.read request.spl = .ok patchLevel) :
    obstacles request s =
      unreadable request s ++ (defects bytes).map .badImage ++ unwritable request s := by
  simp only [obstacles, badNumber, hfile, hversion, hspl, List.nil_append]

theorem obstacles_of_patch (hfile : fileAt s request.image = some bytes)
    (hversion : Numeral.read request.version = .ok version)
    (hspl : Numeral.read request.spl = .ok patchLevel)
    (hread : readIn s request.image = (.ok bytes, s))
    (hpatch : (⟨version, patchLevel, request.policy⟩ : Imprint).patch bytes = .ok (final, report)) :
    obstacles request s =
      match (writeIn s request.output final.bytes).1 with
      | .error cause => [.badFile .write request.output cause]
      | .ok () => [] := by
  have hnil := (Imprint.patch_cases _ hpatch).1
  rw [obstacles_of_numbers hfile hversion hspl]
  simp only [unreadable, unwritable, hread, hnil, hversion, hspl, hfile, hpatch, List.map_nil,
    List.nil_append]

theorem Succeeds.obstacles_eq_nil (h : Succeeds request s t final) : obstacles request s = [] := by
  obtain ⟨hfile, hversion, hspl, hread, hof, happly, hwrite⟩ := h
  have hpatch := Imprint.patch_eq_ok_iff.mpr ⟨_, hof, happly⟩
  rw [obstacles_of_patch hfile hversion hspl hread hpatch, hwrite]

end

end FirmwareHeader.Program
