import FirmwareHeader.Proofs.CommandLine.LeftToRight
import FirmwareHeader.Proofs.Files.TreeLawful
import FirmwareHeader.Proofs.Program.Course

namespace FirmwareHeader

namespace CommandLine

def Args.occurrences (args : Args) (spelling : Parameter → Spelling) : List Occurrence :=
  [.parameter .image args.image (spelling .image),
    .parameter .version args.version (spelling .version),
    .parameter .spl args.spl (spelling .spl), .parameter .output args.output (spelling .output)] ++
    if args.keepFlags then [.keepFlags] else []

/-- The options are those of a request, each once, in any order and in any spelling that suits the
value. -/
structure Arranges (os : List Occurrence) (args : Args) : Prop where
  perm : ∃ spelling, os.Perm (args.occurrences spelling)
  suits : ∀ o ∈ os, o.Suits

theorem valuesOf_perm {ms ms' : List Mention} (h : ms.Perm ms') (item : Item) :
    (valuesOf ms item).Perm (valuesOf ms' item) :=
  (h.filter _).map _

theorem valuesOf_occurrences (args : Args) (spelling : Parameter → Spelling) (item : Item) :
    valuesOf ((args.occurrences spelling).map (·.mention)) item = args.values item := by
  obtain ⟨image, version, spl, output, keepFlags⟩ := args
  cases item with
  | parameter p => cases p <;> cases keepFlags <;> rfl
  | keepFlags => cases keepFlags <;> rfl

namespace Arranges

variable {os : List Occurrence} {args : Args} (h : Arranges os args)

include h

theorem values_eq (item : Item) : valuesOf (os.map (·.mention)) item = args.values item := by
  obtain ⟨spelling, hperm⟩ := h.perm
  have hvalues := valuesOf_perm (hperm.map (·.mention)) item
  rw [valuesOf_occurrences] at hvalues
  cases item with
  | parameter p => exact List.perm_singleton.mp hvalues
  | keepFlags =>
      rw [Args.values] at hvalues ⊢
      cases hkeep : args.keepFlags with
      | false => exact List.perm_nil.mp (by simpa [hkeep] using hvalues)
      | true => exact List.perm_singleton.mp (by simpa [hkeep] using hvalues)

theorem keepFlags_mem : Occurrence.keepFlags ∈ os ↔ args.keepFlags = true := by
  obtain ⟨spelling, hperm⟩ := h.perm
  rw [hperm.mem_iff]
  cases hkeep : args.keepFlags <;> simp [Args.occurrences, hkeep]

theorem read_eq {reader : Reader} (hreader : reader.Lawful) :
    reader.read (written os) = .ok args := by
  rw [Reader.read, hreader.resume_written h.suits, List.nil_append]
  exact hreader.finish _ args h.values_eq

end Arranges

def tangled : List Occurrence :=
  [.parameter .output "--spl" .nameEquals, .parameter .version "-" .letter, .keepFlags,
    .parameter .image "" .letterEquals, .parameter .spl "x=-v" .letterGlued]

def untangled : List Occurrence :=
  [.parameter .image "" .name, .parameter .version "-" .nameEquals, .parameter .spl "x=-v" .letter,
    .parameter .output "--spl" .letterGlued, .keepFlags]

end CommandLine

namespace Program

open CommandLine Files Log

end Program

end FirmwareHeader
