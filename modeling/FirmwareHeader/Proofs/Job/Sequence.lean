import FirmwareHeader.Proofs.Files.TreeLawful
import FirmwareHeader.Proofs.Header.Repeated
import FirmwareHeader.Proofs.Job.Course

namespace FirmwareHeader

open Files Files.Layout Files.Store Header Log

theorem Header.Imprint.patch_patch {first second : Imprint} {bytes : Array UInt8}
    {middle final : Image} {report report' : Report}
    (hfirst : first.patch bytes = .ok (middle, report))
    (hsecond : second.patch middle.bytes = .ok (final, report')) :
    { second with policy := first.policy }.patch bytes = .ok (final, report) := by
  obtain ⟨_, image, _, hbytes, hfault, hmiddle, hreport⟩ := first.patch_cases hfirst
  rw [hmiddle, Imprint.patch_of_image, Imprint.fault?_on hfault] at hsecond
  simp only [Except.ok.injEq, Prod.mk.injEq] at hsecond
  rw [← hbytes, Imprint.patch_of_image, hfault, ← hsecond.1, hreport, Imprint.on_on hfault]

namespace Job

variable {σ : Type} [Store (StateM σ)]

def runAll : List Job → σ → σ
  | [], s => s
  | job :: jobs, s => runAll jobs (job.runIn s).2

variable [Layout σ]

def Writes (job : Job) (s : σ) (place : Place σ) : Prop :=
  (job.runIn s).1.2.isOk = true ∧ find (job.runIn s).2 job.output = some place

instance [DecidableEq (Place σ)] (job : Job) (s : σ) (place : Place σ) :
    Decidable (job.Writes s place) :=
  inferInstanceAs (Decidable (_ ∧ _))

def lastWriter [DecidableEq (Place σ)] : List Job → σ → Place σ → Option Job
  | [], _, _ => none
  | job :: jobs, s, place =>
    lastWriter jobs (job.runIn s).2 place <|> if job.Writes s place then some job else none

/-- Bytes that a job makes of those that some file holds in `s`, its own policy or another being
followed. -/
def MadeFrom (job : Job) (s : σ) (bytes : Array UInt8) : Prop :=
  ∃ (origin : Place σ) (original : Array UInt8) (policy : FlagPolicy) (image : Image)
    (report : Report), entry s origin = some (.file original) ∧
    (⟨job.version, job.patchLevel, policy⟩ : Imprint).patch original = .ok (image, report) ∧
    bytes = image.bytes

theorem runIn_cases [LawfulStore σ] (job : Job) (s : σ) :
    ((∀ place, ¬job.Writes s place) ∧ (job.runIn s).2 = s) ∨
    ∃ place bytes image report, fileAt s job.image = some bytes ∧
      job.imprint.patch bytes = .ok (image, report) ∧
      Written s (job.runIn s).2 job.output image.bytes place ∧
      ∀ q, job.Writes s q ↔ q = place := by
  obtain ⟨records, result, t, hrun, hcourse⟩ := job.runIn_course s
  simp only [Writes, hrun]
  cases hcourse with
  | unread | refused | unwritten => exact .inl ⟨by simp [Except.isOk, Except.toBool], rfl⟩
  | written hread hfile hpatch hwrite hwritten =>
      refine .inr ⟨_, _, _, _, hfile, hpatch, hwritten, fun q => ?_⟩
      rw [hwritten.find_path, Option.some.injEq]
      exact ⟨fun h => h.2.symm, fun h => ⟨rfl, h.symm⟩⟩

theorem directory_runIn [LawfulStore σ] (job : Job) (s : σ) (p : Place σ) :
    entry (job.runIn s).2 p = some .directory ↔ entry s p = some .directory := by
  rcases job.runIn_cases s with ⟨_, hsame⟩ | ⟨place, bytes, image, report, _, _, hwritten, _⟩
  · rw [hsame]
  · by_cases hp : p = place
    · subst hp
      simp [hwritten.entry_place, hwritten.not_directory]
    · rw [hwritten.entry_other p hp]

theorem file_runIn [LawfulStore σ] (job : Job) (s : σ) {p : Place σ}
    (h : ∃ bytes, entry s p = some (.file bytes)) :
    ∃ bytes, entry (job.runIn s).2 p = some (.file bytes) := by
  rcases job.runIn_cases s with ⟨_, hsame⟩ | ⟨place, bytes, image, report, _, _, hwritten, _⟩
  · rwa [hsame]
  · by_cases hp : p = place
    · subst hp
      exact ⟨_, hwritten.entry_place⟩
    · rwa [hwritten.entry_other p hp]

theorem entry_runIn [LawfulStore σ] (job : Job) (s : σ) {p : Place σ} {bytes : Array UInt8}
    (h : entry (job.runIn s).2 p = some (.file bytes)) :
    (¬job.Writes s p ∧ entry s p = some (.file bytes)) ∨
    (job.Writes s p ∧ ∃ origin original image report, entry s origin = some (.file original) ∧
      job.imprint.patch original = .ok (image, report) ∧ bytes = image.bytes) := by
  rcases job.runIn_cases s with
    ⟨hno, hsame⟩ | ⟨place, original, image, report, hfile, hpatch, hwritten, hwrites⟩
  · exact .inl ⟨hno p, by rwa [hsame] at h⟩
  · by_cases hp : p = place
    · subst hp
      obtain ⟨origin, _, horigin⟩ := (fileAt_eq_some_iff s job.image original).mp hfile
      rw [hwritten.entry_place] at h
      cases h
      exact .inr ⟨(hwrites p).mpr rfl, origin, original, image, report, horigin, hpatch, rfl⟩
    · rw [hwritten.entry_other p hp] at h
      exact .inl ⟨fun hw => hp ((hwrites p).mp hw), h⟩

theorem MadeFrom.of_runIn [LawfulStore σ] {first job : Job} {s : σ} {bytes : Array UInt8}
    (h : job.MadeFrom (first.runIn s).2 bytes) : job.MadeFrom s bytes := by
  obtain ⟨origin, original, policy, image, report, horigin, hpatch, rfl⟩ := h
  rcases first.entry_runIn s horigin with
    ⟨_, hbefore⟩ | ⟨_, origin', older, middle, report', holder, hfirst, rfl⟩
  · exact ⟨origin, original, policy, image, report, hbefore, hpatch, rfl⟩
  · have hcollapse := Imprint.patch_patch hfirst hpatch
    exact ⟨origin', older, first.policy, image, report', holder, hcollapse, rfl⟩

theorem directory_runAll [LawfulStore σ] (jobs : List Job) (s : σ) (p : Place σ) :
    entry (runAll jobs s) p = some .directory ↔ entry s p = some .directory := by
  induction jobs generalizing s with
  | nil => exact Iff.rfl
  | cons job jobs ih => exact (ih _).trans (job.directory_runIn s p)

theorem file_runAll [LawfulStore σ] (jobs : List Job) {s : σ} {p : Place σ}
    (h : ∃ bytes, entry s p = some (.file bytes)) :
    ∃ bytes, entry (runAll jobs s) p = some (.file bytes) := by
  induction jobs generalizing s with
  | nil => exact h
  | cons job jobs ih => exact ih (job.file_runIn s h)

variable [DecidableEq (Place σ)]

theorem lastWriter_mem {jobs : List Job} {s : σ} {p : Place σ} {last : Job}
    (h : lastWriter jobs s p = some last) : last ∈ jobs := by
  induction jobs generalizing s with
  | nil => cases h
  | cons job jobs ih =>
      rw [lastWriter] at h
      cases hl : lastWriter jobs (job.runIn s).2 p with
      | some later =>
          rw [hl] at h
          cases h
          exact List.mem_cons_of_mem _ (ih hl)
      | none =>
          rw [hl] at h
          by_cases hw : job.Writes s p
          · simp only [if_pos hw] at h
            cases h
            exact List.mem_cons_self
          · simp [if_neg hw] at h

theorem entry_runAll [LawfulStore σ] {jobs : List Job} {s : σ} {p : Place σ} {bytes : Array UInt8}
    (h : entry (runAll jobs s) p = some (.file bytes)) :
    match lastWriter jobs s p with
    | none => entry s p = some (.file bytes)
    | some job => job.MadeFrom s bytes := by
  induction jobs generalizing s with
  | nil => exact h
  | cons job jobs ih =>
      have hrest := ih h
      rw [lastWriter]
      cases hl : lastWriter jobs (job.runIn s).2 p with
      | some last =>
          rw [hl] at hrest
          exact hrest.of_runIn
      | none =>
          rw [hl] at hrest
          rcases job.entry_runIn s hrest with
            ⟨hw, hbefore⟩ | ⟨hw, origin, original, image, report, horigin, hpatch, hbytes⟩
          · rw [if_neg hw]
            exact hbefore
          · rw [if_pos hw]
            exact ⟨origin, original, job.policy, image, report, horigin, hpatch, hbytes⟩

/-- Jobs that read each other's output, or write over their own image, leave in each file what a
single job could have made of a file that was there at the start. -/
theorem runAll_files [LawfulStore σ] (jobs : List Job) (s : σ) (p : Place σ) :
    (entry (runAll jobs s) p = some .directory ↔ entry s p = some .directory) ∧
    ((∃ bytes, entry s p = some (.file bytes)) →
      ∃ bytes, entry (runAll jobs s) p = some (.file bytes)) ∧
    ∀ bytes, entry (runAll jobs s) p = some (.file bytes) →
      match lastWriter jobs s p with
      | none => entry s p = some (.file bytes)
      | some last => last ∈ jobs ∧ last.MadeFrom s bytes := by
  refine ⟨directory_runAll jobs s p, file_runAll jobs, ?_⟩
  intro bytes h
  have hentry := entry_runAll h
  cases hl : lastWriter jobs s p with
  | none =>
      rw [hl] at hentry
      exact hentry
  | some last =>
      rw [hl] at hentry
      exact ⟨lastWriter_mem hl, hentry⟩

def chain : List Job := [⟨"fw", 1, 2, "fw", .keep⟩, ⟨"./fw", 3, 4, "out", .clear⟩]

def chained : Array UInt8 :=
  #[0xFF, 0xFF, 16, 0] ++ Array.replicate 28 0 ++ #[0x24, 0x41, 0x53, 0x31, 16, 0, 0, 0] ++
    Array.replicate 52 0 ++ #[4, 0, 0, 0] ++ Array.replicate 16 0 ++ #[3, 0, 0, 0]

theorem runAll_files_chain :
    entry (runAll chain (Tree.single "fw" shortest)) ["w", "out"] = some (.file chained) ∧
      MadeFrom ⟨"./fw", 3, 4, "out", .clear⟩ (Tree.single "fw" shortest) chained := by
  have hwriter : lastWriter chain (Tree.single "fw" shortest) ["w", "out"] =
      some ⟨"./fw", 3, 4, "out", .clear⟩ := by decide +kernel
  have hfile : entry (runAll chain (Tree.single "fw" shortest)) ["w", "out"] =
      some (.file chained) := by decide +kernel
  obtain ⟨_, _, hfiles⟩ := runAll_files chain (Tree.single "fw" shortest) ["w", "out"]
  rw [hwriter] at hfiles
  have hlast := hfiles chained hfile
  exact ⟨hfile, hlast.2⟩

end Job

end FirmwareHeader
