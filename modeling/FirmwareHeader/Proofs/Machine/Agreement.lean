import FirmwareHeader.Proofs.Machine.Memory

namespace FirmwareHeader.Machine

open Header

/-- On an image of `n` bytes `x` does to the bytes what `y` does to the image, which keeps its
size. In particular `x` does not trap. -/
def Agrees {α : Type} (n : Nat) (x : Work α) (y : Editing α) : Prop :=
  ∀ draft : Draft, draft.image.size = n → match y draft with
    | .ok a next => next.image.size = n ∧ x draft.image.bytes = .ok a next.image.bytes
    | .error fault next =>
      next.image.size = n ∧ x draft.image.bytes = .error (.fault fault) next.image.bytes

def look {α : Type} (f : Image → Except Image.Fault α) : Editing α := fun draft =>
  match f draft.image with
  | .ok a => .ok a draft
  | .error fault => .error fault draft

section

variable {α β : Type} {n : Nat} {x : Work α} {y : Editing α}

theorem agrees_pure (a : α) : Agrees n (pure a) (pure a) := fun _ hn => ⟨hn, rfl⟩

theorem Agrees.bind {f : α → Work β} {g : α → Editing β} (h : Agrees n x y)
    (hnext : ∀ a, Agrees n (f a) (g a)) : Agrees n (x >>= f) (y >>= g) := by
  intro draft hn
  have hxy := h draft hn
  cases hy : y draft with
  | ok a next =>
      rw [hy] at hxy
      rw [Editing.bind_of_ok hy, Editing.bind_of_ok hxy.2]
      exact hnext a next hxy.1
  | error fault next =>
      rw [hy] at hxy
      rw [Editing.bind_of_error hy, Editing.bind_of_error hxy.2]
      exact ⟨hxy.1, rfl⟩

theorem Agrees.map (h : Agrees n x y) (f : α → β) : Agrees n (f <$> x) (f <$> y) := by
  rw [map_eq_pure_bind, map_eq_pure_bind]
  exact h.bind fun a => agrees_pure (f a)

theorem Agrees.forM {f : α → Work Unit} {g : α → Editing Unit}
    (h : ∀ a, Agrees n (f a) (g a)) (as : List α) : Agrees n (as.forM f) (as.forM g) := by
  induction as with
  | nil => exact agrees_pure ()
  | cons a as ih => exact (h a).bind fun _ => ih

theorem agrees_look {f : Image → Except Image.Fault α}
    (h : ∀ image : Image, image.size = n → x image.bytes = match f image with
      | .ok a => .ok a image.bytes
      | .error fault => .error (.fault fault) image.bytes) : Agrees n x (look f) := by
  intro draft hn
  have hx := h draft.image hn
  rw [look]
  cases hf : f draft.image with
  | ok a =>
      rw [hf] at hx
      exact ⟨hn, hx⟩
  | error fault =>
      rw [hf] at hx
      exact ⟨hn, hx⟩

theorem look_bind (f : Image → Except Image.Fault α) (g : α → Image → Except Image.Fault β) :
    look (fun image => f image >>= fun a => g a image) = look f >>= fun a => look (g a) := by
  funext draft
  cases hf : f draft.image with
  | ok a =>
      have hlook : look f draft = .ok a draft := by simp only [look, hf]
      rw [Editing.bind_of_ok hlook]
      simp only [look, hf, Bind.bind, Except.bind]
  | error fault =>
      have hlook : look f draft = .error fault draft := by simp only [look, hf]
      rw [Editing.bind_of_error hlook]
      simp only [look, hf, Bind.bind, Except.bind]

theorem Agrees.look_bind {f : Image → Except Image.Fault α} {g : α → Image → Except Image.Fault β}
    {k : α → Work β} (h : Agrees n x (look f)) (hnext : ∀ a, Agrees n (k a) (look (g a))) :
    Agrees n (x >>= k) (look fun image => f image >>= fun a => g a image) := by
  rw [Machine.look_bind]
  exact h.bind hnext

theorem read_eq_look (i : Nat) : Editing.read i = look fun image => image.read i := by
  funext draft
  cases h : draft.image.read i with
  | ok w => simp only [Editing.read, look, h]
  | error fault => simp only [Editing.read, look, h]

theorem check_eq_look (i : Nat) : Editing.check i = look fun image => image.check i := by
  funext draft
  cases h : draft.image.check i with
  | ok a => simp only [Editing.check, look, h]
  | error fault => simp only [Editing.check, look, h]

end

section

variable {n : Nat} (hn : n < 2 ^ 63)

include hn

theorem agrees_load (i : UInt64) : Agrees n (load i) (Editing.read i.toNat) := by
  rw [read_eq_look]
  refine agrees_look fun image hsize => ?_
  rw [load_image image (by omega), Image.read_eq]
  cases image.outside? i.toNat with
  | none => rfl
  | some fault => rfl

theorem agrees_check (i : UInt64) : Agrees n (check i) (Editing.check i.toNat) := by
  rw [check_eq_look]
  refine agrees_look fun image hsize => ?_
  rw [check_image image (by omega), Image.check_eq]
  cases image.outside? i.toNat with
  | none => rfl
  | some fault => rfl

theorem agrees_store (i : UInt64) (w : UInt32) :
    Agrees n (store i w) (Editing.write i.toNat w) := by
  intro draft hsize
  rw [store_image draft.image (by omega), Editing.write, Image.write_eq]
  cases draft.image.outside? i.toNat with
  | none => exact ⟨by simpa using hsize, rfl⟩
  | some fault => exact ⟨hsize, rfl⟩

end

end FirmwareHeader.Machine
