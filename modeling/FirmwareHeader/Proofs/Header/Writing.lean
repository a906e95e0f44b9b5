import FirmwareHeader.Header.Writer
import FirmwareHeader.Proofs.Image.Words

namespace FirmwareHeader.Header

namespace SignedLength

def ofImage (image : Image) : UInt32 := ofLead (image.word 0)

def aligned (image : Image) : UInt32 := align (ofImage image)

theorem toNat_ofLead_lt (lead : UInt32) : (ofLead lead).toNat < 65536 := by
  have := lead.toNat_lt
  rw [toNat_ofLead]
  omega

theorem toNat_align_ofLead (lead : UInt32) :
    (align (ofLead lead)).toNat = ((ofLead lead).toNat + 15) / 16 * 16 :=
  toNat_align (by have := toNat_ofLead_lt lead; omega)

theorem toNat_ofImage_lt (image : Image) : (ofImage image).toNat < 65536 := toNat_ofLead_lt _

theorem toNat_aligned (image : Image) :
    (aligned image).toNat = ((ofImage image).toNat + 15) / 16 * 16 := toNat_align_ofLead _

theorem greatest_lt_align_ofLead_iff (lead : UInt32) :
    greatest < align (ofLead lead) ↔ 0xFFF0 < (ofLead lead).toNat := by
  have hlt := toNat_ofLead_lt lead
  have hal := toNat_align_ofLead lead
  have hgreatest : greatest.toNat = 0xFFFF := rfl
  rw [UInt32.lt_iff_toNat_lt, hgreatest, hal]
  omega

theorem greatest_lt_aligned_iff (image : Image) :
    greatest < aligned image ↔ 0xFFF0 < (ofImage image).toNat := greatest_lt_align_ofLead_iff _

end SignedLength

open SignedLength

theorem Field.four_mul_index {length : UInt32} (h : length.toNat % 16 = 0) (field : Field) :
    4 * field.index length = length.toNat + field.offset := by
  cases field <;> simp only [Field.index, Field.offset] <;> omega

/-- What is said while a header is written into an image, unless its length overflows. -/
def remarks (image : Image) : List Notice :=
  (if aligned image = ofImage image then [] else [.realigning (ofImage image) (aligned image)]) ++
    if image.size = nominalSize then [] else [.unusualSize image.size]

def reportOn (image : Image) : Report :=
  ⟨ofImage image, aligned image, aligned image != ofImage image,
    if image.size = nominalSize then none else some image.size⟩

def unplaced? (image : Image) : Option Image.Fault :=
  [Field.magic, .signedSize, .imageVersion, .patchLevel].findSome? fun field =>
    image.outside? (field.index (aligned image))

/-- What a header is to say, and what becomes of the flags in word 0. -/
structure Imprint where
  version : UInt32
  patchLevel : UInt32
  policy : FlagPolicy
deriving DecidableEq

namespace Imprint

variable (imprint : Imprint)

def write : Editing Report := Header.write imprint.version imprint.patchLevel imprint.policy

def lead (image : Image) : UInt32 :=
  if aligned image = ofImage image then image.word 0
  else imprint.policy.withLength (image.word 0) (aligned image)

def words (image : Image) : List (Field × UInt32) :=
  contents (aligned image) imprint.version imprint.patchLevel

def on (image : Image) : Image :=
  (imprint.words image).foldl (fun result p => result.put (p.1.index (aligned image)) p.2)
    (image.put 0 (imprint.lead image))

end Imprint

namespace Editing

section

variable {ε σ α β : Type} {x : EStateM ε σ α} {f : α → EStateM ε σ β} {s t : σ}

theorem bind_of_ok {a : α} (h : x s = .ok a t) : (x >>= f) s = f a t := by
  simp only [bind, EStateM.bind, h]

theorem bind_of_error {e : ε} (h : x s = .error e t) : (x >>= f) s = .error e t := by
  simp only [bind, EStateM.bind, h]

end

variable (draft : Draft)

theorem read_of_inside {i : Nat} (h : draft.image.outside? i = none) :
    read i draft = .ok (draft.image.word i) draft := by
  simp only [read, Image.read_of_inside _ h]

theorem check_of_inside {i : Nat} (h : draft.image.outside? i = none) :
    check i draft = .ok () draft := by
  simp only [check, Image.check_eq, h]

theorem check_of_outside {i : Nat} {fault : Image.Fault}
    (h : draft.image.outside? i = some fault) : check i draft = .error fault draft := by
  simp only [check, Image.check_eq, h]

theorem write_of_inside {i : Nat} (w : UInt32) (h : draft.image.outside? i = none) :
    write i w draft = .ok () { draft with image := draft.image.put i w } := by
  simp only [write, Image.write_of_inside _ w h]

theorem forM_check (length : UInt32) (words : List (Field × UInt32)) :
    (words.forM fun (field, _) => check (field.index length)) draft =
      match words.findSome? fun p => draft.image.outside? (p.1.index length) with
      | some fault => .error fault draft
      | none => .ok () draft := by
  induction words with
  | nil => rfl
  | cons p words ih =>
      rw [List.findSome?_cons]
      cases hp : draft.image.outside? (p.1.index length) with
      | some fault => exact bind_of_error (check_of_outside draft hp)
      | none => exact (bind_of_ok (check_of_inside draft hp)).trans ih

theorem outside?_put (image : Image) (i j : Nat) (w : UInt32) :
    (image.put i w).outside? j = image.outside? j := by
  simp only [Image.outside?, Image.size_put]

theorem forM_write (length : UInt32) (words : List (Field × UInt32))
    (h : (words.findSome? fun p => draft.image.outside? (p.1.index length)) = none) :
    (words.forM fun (field, w) => write (field.index length) w) draft = .ok () { draft with
      image := words.foldl (fun result p => result.put (p.1.index length) p.2) draft.image } := by
  induction words generalizing draft with
  | nil => rfl
  | cons p words ih =>
      rw [List.findSome?_cons] at h
      cases hp : draft.image.outside? (p.1.index length) with
      | some fault => simp [hp] at h
      | none =>
          rw [hp] at h
          have hput := write_of_inside draft p.2 hp
          exact (bind_of_ok hput).trans (ih _ (by simpa only [outside?_put] using h))

end Editing

theorem realign_eq (policy : FlagPolicy) (lead raw aligned : UInt32) (draft : Draft) :
    realign policy lead raw aligned draft =
      if SignedLength.greatest < aligned then .error (.lengthOverflow aligned) draft
      else .ok (policy.withLength lead aligned)
        { draft with notices := draft.notices ++ [.realigning raw aligned] } := by
  by_cases h : SignedLength.greatest < aligned
  · rw [if_pos h]
    simp only [realign, if_pos h]
    rfl
  · rw [if_neg h]
    simp only [realign, if_neg h]
    rfl

theorem noteSize_eq (draft : Draft) : noteSize draft =
    if draft.image.size = nominalSize then .ok none draft
    else .ok (some draft.image.size)
      { draft with notices := draft.notices ++ [.unusualSize draft.image.size] } := by
  have hget : (get : Editing Draft) draft = .ok draft draft := rfl
  refine (Editing.bind_of_ok hget).trans ?_
  by_cases h : draft.image.size = nominalSize
  · rw [if_pos h]
    simp only [h]
    rfl
  · rw [if_neg h]
    simp only [h]
    rfl

theorem noteSize_eq_ok (draft : Draft) : noteSize draft =
    .ok (if draft.image.size = nominalSize then none else some draft.image.size) { draft with
      notices := draft.notices ++ if draft.image.size = nominalSize then []
        else [.unusualSize draft.image.size] } := by
  rw [noteSize_eq]
  split
  · simp
  · rfl

namespace Imprint

variable (imprint : Imprint) (draft : Draft)

def start (lead : UInt32) : Editing UInt32 :=
  let raw := ofLead lead
  if align raw = raw then pure lead else realign imprint.policy lead raw (align raw)

def finish (raw length lead : UInt32) : Editing Report := do
  let unusual ← noteSize
  let words := contents length imprint.version imprint.patchLevel
  words.forM fun (field, _) => Editing.check (field.index length)
  Editing.write 0 lead
  words.forM fun (field, w) => Editing.write (field.index length) w
  return ⟨raw, length, length != raw, unusual⟩

theorem write_eq_bind : imprint.write = Editing.read 0 >>= fun lead =>
    imprint.start lead >>= imprint.finish (ofLead lead) (align (ofLead lead)) := by
  rw [write, Header.write]
  congr
  funext lead
  simp only [start]
  split
  · rfl
  · rfl

theorem start_eq : imprint.start (draft.image.word 0) draft =
    if greatest < aligned draft.image then .error (.lengthOverflow (aligned draft.image)) draft
    else .ok (imprint.lead draft.image) { draft with
      notices := draft.notices ++ if aligned draft.image = ofImage draft.image then []
        else [.realigning (ofImage draft.image) (aligned draft.image)] } := by
  change (if aligned draft.image = ofImage draft.image then pure (draft.image.word 0)
    else realign imprint.policy (draft.image.word 0) (ofImage draft.image)
      (aligned draft.image)) draft = _
  by_cases h : aligned draft.image = ofImage draft.image
  · have hle : ¬greatest < aligned draft.image := by
      have hlt := toNat_ofImage_lt draft.image
      have hal := toNat_aligned draft.image
      rw [greatest_lt_aligned_iff]
      rw [h] at hal
      omega
    rw [if_pos h, if_neg hle, lead, if_pos h, if_pos h, List.append_nil]
    rfl
  · rw [if_neg h, realign_eq, lead, if_neg h, if_neg h]

theorem findSome?_words (image : Image) :
    ((imprint.words image).findSome? fun p => image.outside? (p.1.index (aligned image))) =
      unplaced? image := rfl

theorem finish_eq : imprint.finish (ofImage draft.image) (aligned draft.image)
      (imprint.lead draft.image) draft =
    match unplaced? draft.image with
    | some fault => .error fault { draft with
        notices := draft.notices ++ if draft.image.size = nominalSize then []
          else [.unusualSize draft.image.size] }
    | none => .ok (reportOn draft.image) ⟨imprint.on draft.image,
        draft.notices ++ if draft.image.size = nominalSize then []
          else [.unusualSize draft.image.size]⟩ := by
  refine (Editing.bind_of_ok (noteSize_eq_ok draft)).trans ?_
  generalize (if draft.image.size = nominalSize then []
    else [Notice.unusualSize draft.image.size]) = said
  have hcheck := Editing.forM_check { draft with notices := draft.notices ++ said }
    (aligned draft.image) (imprint.words draft.image)
  rw [findSome?_words] at hcheck
  cases h : unplaced? draft.image with
  | some fault =>
      rw [h] at hcheck
      exact Editing.bind_of_error hcheck
  | none =>
      rw [h] at hcheck
      refine (Editing.bind_of_ok hcheck).trans ?_
      have hlead := Editing.write_of_inside { draft with notices := draft.notices ++ said }
        (imprint.lead draft.image) draft.image.outside?_zero
      refine (Editing.bind_of_ok hlead).trans ?_
      have hwords := Editing.forM_write
        ⟨draft.image.put 0 (imprint.lead draft.image), draft.notices ++ said⟩
        (aligned draft.image) (imprint.words draft.image)
        (by simpa only [Editing.outside?_put] using (imprint.findSome?_words draft.image).trans h)
      refine (Editing.bind_of_ok hwords).trans ?_
      simp only [pure, EStateM.pure, reportOn, on]

/-- What comes of writing a header: an overflow stops it before anything is said, a field without a
place before anything is changed. -/
theorem write_eq : imprint.write draft =
    if greatest < aligned draft.image then .error (.lengthOverflow (aligned draft.image)) draft
    else match unplaced? draft.image with
      | some fault => .error fault { draft with notices := draft.notices ++ remarks draft.image }
      | none => .ok (reportOn draft.image)
        ⟨imprint.on draft.image, draft.notices ++ remarks draft.image⟩ := by
  have hread := Editing.read_of_inside draft draft.image.outside?_zero
  have hstart := imprint.start_eq draft
  rw [write_eq_bind]
  refine (Editing.bind_of_ok hread).trans ?_
  by_cases h : greatest < aligned draft.image
  · rw [if_pos h] at hstart ⊢
    exact Editing.bind_of_error hstart
  · rw [if_neg h] at hstart ⊢
    refine (Editing.bind_of_ok hstart).trans ?_
    refine (imprint.finish_eq _).trans ?_
    simp only [remarks, List.append_assoc]

end Imprint

end FirmwareHeader.Header
