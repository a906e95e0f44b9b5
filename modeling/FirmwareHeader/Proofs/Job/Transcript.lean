import FirmwareHeader.Proofs.Job.ReadBack
import FirmwareHeader.Proofs.Job.Warnings

namespace FirmwareHeader.Job

open Files Files.Store Header Log Numeral SignedLength

def told (record : Record) : Level × String × String := (record.level, record.source, record.text)

section

variable (job : Job) (bytes : Array UInt8)

def opening : Level × String × String :=
  (.debug, "amdsl_header", "read " ++ decimal bytes.size ++ " bytes from " ++ job.image)

def findings : List (Level × String × String) :=
  let raw := SignedLength.ofBytes bytes
  (if raw % 16 = 0 then [] else
    [(.debug, "amdsl_header::header",
      "realigning signed length " ++ hex raw ++ " -> " ++ hex (headerStart raw))]) ++
  if bytes.size = 65536 then [] else
    [(.warn, "amdsl_header::header",
      "AmdSL binary size is " ++ decimal bytes.size ++ " bytes, not 64K (65536)")]

def fieldLine (name : String) (n : Nat) : String := "    " ++ name ++ ": " ++ hex n ++ ",\n"

/-- What is told of a header that has been written, first as it was meant and then as it is read. -/
def summary : List (Level × String × String) :=
  let raw := SignedLength.ofBytes bytes
  let start := headerStart raw
  [(.debug, "amdsl_header", "signed length " ++ hex start ++ " (stored " ++ hex raw ++
      "), version " ++ hexWord job.version.toNat ++ ", spl " ++ hexWord job.patchLevel.toNat),
    (.debug, "amdsl_header", "HeaderFields \x7b\n" ++
      fieldLine "signed_len" start ++ fieldLine "header_version" 0x31534124 ++
      fieldLine "size_fw_signed" start ++
      fieldLine "security_patch_level" job.patchLevel.toNat ++
      fieldLine "image_version" job.version.toNat ++ "\x7d")]

end

theorem aligned_eq_ofImage_iff (image : Image) :
    aligned image = ofImage image ↔ (ofImage image).toNat % 16 = 0 := by
  have hal := toNat_aligned image
  rw [← UInt32.toNat_inj]
  omega

theorem text_unusualSize (n : Nat) : (Notice.unusualSize n).text =
    "AmdSL binary size is " ++ decimal n ++ " bytes, not 64K (65536)" := by
  have htail : " bytes, not 64K (" ++ decimal nominalSize ++ ")" = " bytes, not 64K (65536)" := by
    decide
  calc (Notice.unusualSize n).text
      = "AmdSL binary size is " ++ decimal n ++ " bytes, not 64K (" ++ decimal nominalSize ++
          ")" := rfl
    _ = "AmdSL binary size is " ++ decimal n ++
          (" bytes, not 64K (" ++ decimal nominalSize ++ ")") := by
        simp only [String.append_assoc]
    _ = "AmdSL binary size is " ++ decimal n ++ " bytes, not 64K (65536)" := congrArg _ htail

theorem map_told_remarks (image : Image) :
    ((remarks image).map .noticed).map told = findings image.bytes := by
  have hsize : image.bytes.size = image.size := rfl
  have hnominal : nominalSize = 65536 := rfl
  have hraw := SignedLength.ofBytes_bytes image
  have hstart := headerStart_ofBytes image
  rw [hraw] at hstart
  simp only [remarks, findings, hraw, hstart, hsize, hnominal, aligned_eq_ofImage_iff,
    List.map_append, ← text_unusualSize]
  congr 1
  · by_cases h : (ofImage image).toNat % 16 = 0
    · rw [if_pos h, if_pos h]
      rfl
    · rw [if_neg h, if_neg h]
      rfl
  · by_cases h : image.size = 65536
    · rw [if_pos h, if_pos h]
      rfl
    · rw [if_neg h, if_neg h]
      rfl

theorem map_told_summary (job : Job) (image : Image) :
    [told (.written (aligned image) (ofImage image) job.version job.patchLevel),
      told (.header (job.imprint.fields (reportOn image)))] = job.summary image.bytes := by
  have hraw := SignedLength.ofBytes_bytes image
  have hstart := headerStart_ofBytes image
  rw [hraw] at hstart
  simp only [summary, hraw, hstart]
  rfl

theorem map_told_process (job : Job) (bytes : Array UInt8) :
    (job.process bytes).1.map told =
      match job.imprint.patch bytes with
      | .ok _ => job.opening bytes :: findings bytes ++ job.summary bytes
      | .error (.outOfBounds _ _) => job.opening bytes :: findings bytes
      | .error _ => [job.opening bytes] := by
  cases hof : Image.ofBytes bytes with
  | error fault =>
      have hpatch : job.imprint.patch bytes = .error fault := by
        simp only [Imprint.patch, hof, bind, Except.bind]
      rw [records_of_fault job hof, hpatch]
      rcases Image.ofBytes_eq_error hof with rfl | rfl
      · rfl
      · rfl
  | ok image =>
      obtain rfl := Image.ofBytes_eq_ok hof
      rw [Imprint.patch_of_image]
      cases hfault : fault? image with
      | none =>
          rw [records_of_faultless job hfault]
          simp only [List.map_cons, List.map_append, List.map_nil, map_told_remarks,
            map_told_summary]
          rfl
      | some fault =>
          rcases fault?_cases hfault with ⟨hgreat, rfl⟩ | ⟨hgreat, offset, rfl⟩
          · rw [records_of_image, if_pos hgreat]
            rfl
          · have hplaced : unplaced? image = some (.outOfBounds offset image.size) := by
              rwa [fault?, if_neg hgreat] at hfault
            rw [records_of_image, if_neg hgreat, hplaced]
            simp only [List.append_nil, List.map_cons, map_told_remarks]
            rfl

theorem count_noticed (job : Job) {bytes : Array UInt8} {final : Image} {report : Report}
    (h : job.imprint.patch bytes = .ok (final, report)) :
    (job.process bytes).1.count (.noticed (.realigning report.rawLength report.signedLength)) =
      report.realigned.toNat ∧
    (job.process bytes).1.count (.noticed (.unusualSize bytes.size)) =
      report.unusualSize.isSome.toNat := by
  obtain ⟨_, image, _, hbytes, hfault, _, hreport⟩ := job.imprint.patch_cases h
  have hsize : image.bytes.size = image.size := rfl
  rw [hreport, ← hbytes, records_of_faultless job hfault, hsize]
  by_cases hlength : aligned image = ofImage image
  · by_cases hnominal : image.size = nominalSize <;> simp [reportOn, remarks, hlength, hnominal]
  · have hne := bne_iff_ne.mpr hlength
    by_cases hnominal : image.size = nominalSize <;>
      simp [reportOn, remarks, hlength, hnominal, hne]

variable {σ : Type} [Store (StateM σ)]

/-- What a run tells is known from what is read and from what becomes of it, whether or not the
output can then be written. -/
theorem runIn_told (job : Job) (s : σ) :
    match readIn s job.image with
    | (.error cause, _) => (job.runIn s).1 = ([], .error (.badFile .read job.image cause))
    | (.ok bytes, t) =>
      let (records, result) := (job.runIn s).1
      match job.imprint.patch bytes with
      | .error fault =>
        result = .error (.badImage fault) ∧
        records.map told = match fault with
          | .empty | .misaligned _ | .lengthOverflow _ => [job.opening bytes]
          | .outOfBounds _ _ => job.opening bytes :: findings bytes
      | .ok (final, report) =>
        (result = match (writeIn t job.output final.bytes).1 with
          | .error cause => .error (.badFile .write job.output cause)
          | .ok () => .ok report) ∧
        records.map told = job.opening bytes :: findings bytes ++ job.summary bytes ∧
        records.count (.noticed (.realigning report.rawLength report.signedLength)) =
          report.realigned.toNat ∧
        records.count (.noticed (.unusualSize bytes.size)) = report.unusualSize.isSome.toNat := by
  obtain ⟨outcome, t, hread⟩ : ∃ outcome t, readIn s job.image = (outcome, t) := ⟨_, _, rfl⟩
  rw [hread]
  cases outcome with
  | error cause => rw [runIn_of_unread hread]
  | ok bytes =>
      have htold := job.map_told_process bytes
      dsimp only
      cases hpatch : job.imprint.patch bytes with
      | error fault =>
          rw [hpatch] at htold
          rw [runIn_of_refused hread (process_eq hpatch)]
          refine ⟨rfl, htold.trans ?_⟩
          cases fault <;> rfl
      | ok patched =>
          obtain ⟨final, report⟩ := patched
          rw [hpatch] at htold
          have hcount := job.count_noticed hpatch
          obtain ⟨answer, u, hwrite⟩ : ∃ answer u, writeIn t job.output final.bytes = (answer, u) :=
            ⟨_, _, rfl⟩
          cases answer with
          | error cause =>
              rw [runIn_of_unwritten hread (process_eq hpatch) hwrite]
              simp only [hwrite]
              exact ⟨trivial, htold, hcount⟩
          | ok _ =>
              rw [runIn_of_written hread (process_eq hpatch) hwrite]
              simp only [hwrite]
              exact ⟨trivial, htold, hcount⟩

end FirmwareHeader.Job
