import FirmwareHeader.Header.Fields
import FirmwareHeader.Proofs.Header.Footprint
import FirmwareHeader.Proofs.Machine.Agreement

namespace FirmwareHeader.Machine

open Header

/-- `Header.realign` on bytes. What is said meanwhile is left out, here and below. -/
def realign (policy : FlagPolicy) (lead aligned : UInt32) : Work UInt32 := do
  if SignedLength.greatest < aligned then throw (.fault (.lengthOverflow aligned))
  let upper ← shiftLeft32 aligned 16
  return (lead &&& policy.mask) ||| upper

def unusualSize : Work (Option Nat) := do
  let size := (← get).size
  return if size = nominalSize then none else some size

def index (length : UInt32) (field : Field) : Work UInt64 :=
  sum (length.toUInt64 / 4) (UInt64.ofNat field.offset / 4)

def loadField (length : UInt32) (field : Field) : Work UInt32 := do
  load (← index length field)

def start (policy : FlagPolicy) (lead raw length : UInt32) : Work UInt32 :=
  if length = raw then pure lead else realign policy lead length

def finish (imprint : Imprint) (raw length lead : UInt32) : Work Report := do
  let unusual ← unusualSize
  let words := contents length imprint.version imprint.patchLevel
  words.forM fun (field, _) => do check (← index length field)
  store 0 lead
  words.forM fun (field, w) => do store (← index length field) w
  return ⟨raw, length, length != raw, unusual⟩

def write (imprint : Imprint) : Work Report := do
  let lead ← load 0
  let length ← align (SignedLength.ofLead lead)
  let lead' ← start imprint.policy lead (SignedLength.ofLead lead) length
  finish imprint (SignedLength.ofLead lead) length lead'

def readFields : Work Fields := do
  let lead ← load 0
  let length ← align (SignedLength.ofLead lead)
  let magic ← loadField length .magic
  let signedSize ← loadField length .signedSize
  let patchLevel ← loadField length .patchLevel
  let imageVersion ← loadField length .imageVersion
  return ⟨length, magic, signedSize, patchLevel, imageVersion⟩

theorem index_eq (length : UInt32) (field : Field) :
    index length field = pure (UInt64.ofNat (field.index length)) := by
  have hlt := length.toNat_lt
  have hbase : (length.toUInt64 / 4).toNat = length.toNat / 4 := by simp
  have hoffset : (UInt64.ofNat field.offset / 4).toNat = field.offset / 4 := by
    cases field <;> rfl
  have hle := field.offset_le
  have hsum : length.toUInt64 / 4 + UInt64.ofNat field.offset / 4 =
      UInt64.ofNat (field.index length) := by
    apply UInt64.toNat.inj
    rw [UInt64.toNat_add, hbase, hoffset, UInt64.toNat_ofNat']
    rfl
  rw [← hsum]
  apply within_of_lt
  rw [hbase, hoffset]
  omega

theorem toNat_index (length : UInt32) (field : Field) :
    (UInt64.ofNat (field.index length)).toNat = field.index length := by
  have hlt := length.toNat_lt
  have hle := field.offset_le
  rw [UInt64.toNat_ofNat', Field.index]
  exact Nat.mod_eq_of_lt (by omega)

theorem agrees_index {α : Type} {n : Nat} {f : UInt64 → Work α} {g : Nat → Editing α}
    (h : ∀ i, Agrees n (f i) (g i.toNat)) (length : UInt32) (field : Field) :
    Agrees n (index length field >>= f) (g (field.index length)) := by
  have hindex := h (UInt64.ofNat (field.index length))
  rw [toNat_index] at hindex
  rw [index_eq, pure_bind]
  exact hindex

theorem align_ofLead (lead : UInt32) : align (SignedLength.ofLead lead) =
    pure (SignedLength.align (SignedLength.ofLead lead)) := by
  have hlt := SignedLength.toNat_ofLead_lt lead
  exact align_of_le (by omega)

theorem agrees_realign {n : Nat} (policy : FlagPolicy) (lead raw aligned : UInt32) :
    Agrees n (realign policy lead aligned) (Header.realign policy lead raw aligned) := by
  intro draft hsize
  rw [realign_eq]
  by_cases h : SignedLength.greatest < aligned
  · rw [if_pos h]
    refine ⟨hsize, ?_⟩
    simp only [realign, if_pos h]
    rfl
  · have hle : aligned.toNat ≤ 0xFFFF := by
      rw [UInt32.lt_iff_toNat_lt] at h
      exact Nat.le_of_not_lt h
    have hshift : shiftLeft32 aligned 16 = pure (aligned <<< 16) :=
      within_of_lt (by omega) _
    rw [if_neg h]
    refine ⟨hsize, ?_⟩
    simp only [realign, if_neg h, hshift]
    rfl

theorem agrees_start {n : Nat} (imprint : Imprint) (lead : UInt32) :
    Agrees n (start imprint.policy lead (SignedLength.ofLead lead)
      (SignedLength.align (SignedLength.ofLead lead))) (imprint.start lead) := by
  rw [start, Imprint.start]
  by_cases h : SignedLength.align (SignedLength.ofLead lead) = SignedLength.ofLead lead
  · rw [if_pos h, if_pos h]
    exact agrees_pure lead
  · rw [if_neg h, if_neg h]
    exact agrees_realign imprint.policy lead _ _

theorem agrees_unusualSize {n : Nat} : Agrees n unusualSize noteSize := by
  intro draft hsize
  have hunusual : unusualSize draft.image.bytes = .ok
      (if draft.image.size = nominalSize then none else some draft.image.size)
      draft.image.bytes := rfl
  rw [noteSize_eq, hunusual]
  by_cases h : draft.image.size = nominalSize
  · rw [if_pos h, if_pos h]
    exact ⟨hsize, rfl⟩
  · rw [if_neg h, if_neg h]
    exact ⟨hsize, rfl⟩

section

variable {n : Nat} (hn : n < 2 ^ 63)

include hn

theorem agrees_finish (imprint : Imprint) (raw length lead : UInt32) :
    Agrees n (finish imprint raw length lead) (imprint.finish raw length lead) := by
  refine agrees_unusualSize.bind fun unusual => ?_
  refine Agrees.bind (Agrees.forM (fun p => ?_) _) fun _ => ?_
  · exact agrees_index (agrees_check hn) length p.1
  refine (agrees_store hn 0 lead).bind fun _ => ?_
  refine Agrees.bind (Agrees.forM (fun p => ?_) _) fun _ => agrees_pure _
  exact agrees_index (g := fun i => Editing.write i p.2) (fun i => agrees_store hn i p.2) length p.1

theorem agrees_write (imprint : Imprint) : Agrees n (write imprint) imprint.write := by
  rw [Imprint.write_eq_bind]
  refine (agrees_load hn 0).bind fun lead => ?_
  rw [align_ofLead, pure_bind]
  exact (agrees_start imprint lead).bind fun lead' => agrees_finish hn imprint _ _ lead'

theorem agrees_loadField (length : UInt32) (field : Field) :
    Agrees n (loadField length field) (look fun image => image.read (field.index length)) := by
  rw [← read_eq_look]
  exact agrees_index (agrees_load hn) length field

theorem agrees_readFields : Agrees n readFields (look Fields.read) := by
  have hlead : Agrees n (load 0) (look fun image => image.read 0) := by
    rw [← read_eq_look]
    exact agrees_load hn 0
  refine hlead.look_bind fun lead => ?_
  rw [align_ofLead, pure_bind]
  refine (agrees_loadField hn _ .magic).look_bind fun magic => ?_
  refine (agrees_loadField hn _ .signedSize).look_bind fun signedSize => ?_
  refine (agrees_loadField hn _ .patchLevel).look_bind fun patchLevel => ?_
  refine (agrees_loadField hn _ .imageVersion).look_bind fun imageVersion => ?_
  exact agrees_look fun image hsize => rfl

end

end FirmwareHeader.Machine
