import FirmwareHeader.Header.Fields
import FirmwareHeader.Proofs.Header.Repeated

namespace FirmwareHeader.Header

open SignedLength

def unread? (image : Image) : Option Image.Fault :=
  [Field.magic, .signedSize, .patchLevel, .imageVersion].findSome? fun field =>
    image.outside? (field.index (aligned image))

theorem unread?_eq_none_iff (image : Image) : unread? image = none ↔ unplaced? image = none := by
  simp only [unread?, unplaced?, List.findSome?_eq_none_iff, List.forall_mem_cons]
  grind

theorem Fields.read_eq (image : Image) : Fields.read image =
    match unread? image with
    | some fault => .error fault
    | none => .ok ⟨aligned image, image.word (Field.magic.index (aligned image)),
        image.word (Field.signedSize.index (aligned image)),
        image.word (Field.patchLevel.index (aligned image)),
        image.word (Field.imageVersion.index (aligned image))⟩ := by
  have hlead := image.read_of_inside image.outside?_zero
  simp only [Fields.read, hlead, bind, Except.bind, pure, Except.pure, unread?,
    List.findSome?_cons, List.findSome?_nil]
  change (match image.read (Field.magic.index (aligned image)) with | _ => _) = _
  simp only [image.read_eq, aligned, ofImage]
  cases image.outside? (Field.magic.index (align (ofLead (image.word 0)))) with
  | some fault => rfl
  | none =>
      cases image.outside? (Field.signedSize.index (align (ofLead (image.word 0)))) with
      | some fault => rfl
      | none =>
          cases image.outside? (Field.patchLevel.index (align (ofLead (image.word 0)))) with
          | some fault => rfl
          | none =>
              cases image.outside? (Field.imageVersion.index (align (ofLead (image.word 0)))) with
              | some fault => rfl
              | none => rfl

theorem Fields.read_of_placed {image : Image} (h : unplaced? image = none) :
    Fields.read image = .ok ⟨aligned image, image.word (Field.magic.index (aligned image)),
      image.word (Field.signedSize.index (aligned image)),
      image.word (Field.patchLevel.index (aligned image)),
      image.word (Field.imageVersion.index (aligned image))⟩ := by
  rw [Fields.read_eq, (unread?_eq_none_iff image).mpr h]

namespace Imprint

def fields (imprint : Imprint) (report : Report) : Fields :=
  ⟨report.signedLength, magic, report.signedLength, imprint.patchLevel, imprint.version⟩

variable (imprint : Imprint) {image : Image}

/-- The reader finds the header again, for the length that it aligns is aligned already. -/
theorem read_on (h : fault? image = none) :
    Fields.read (imprint.on image) = .ok (imprint.fields (reportOn image)) := by
  have hplaced := unplaced?_of_fault? h
  have hagain := unplaced?_of_fault? (fault?_on h imprint)
  rw [Fields.read_of_placed hagain, aligned_on h]
  simp only [word_on_field _ hplaced, value, fields, reportOn]

theorem read_bytes_on (h : fault? image = none) :
    (Image.ofBytes (imprint.on image).bytes >>= Fields.read) =
      .ok (imprint.fields (reportOn image)) := by
  simp only [Image.ofBytes_bytes, bind, Except.bind, read_on imprint h]

theorem apply_cases {final : Image} {report : Report}
    (h : imprint.apply image = (.ok report, final)) :
    fault? image = none ∧ report = reportOn image ∧ final = imprint.on image := by
  rw [apply_eq] at h
  cases hfault : fault? image with
  | some fault => simp [hfault] at h
  | none =>
      simp only [hfault, Prod.mk.injEq, Except.ok.injEq] at h
      exact ⟨rfl, h.1.symm, h.2.symm⟩

end Imprint

end FirmwareHeader.Header
