import GateGame.Scalar

namespace GateGame

/-! Complex numbers over the scalars. -/

structure Amplitude (α : Type) where
  re : α
  im : α
  deriving DecidableEq

namespace Amplitude

variable {α : Type} [Scalar α]

instance : Zero (Amplitude α) := ⟨⟨0, 0⟩⟩

instance : One (Amplitude α) := ⟨⟨1, 0⟩⟩

instance : Inhabited (Amplitude α) := ⟨0⟩

def i : Amplitude α := ⟨0, 1⟩

instance : Add (Amplitude α) :=
  ⟨fun a b => ⟨a.re + b.re, a.im + b.im⟩⟩

instance : Neg (Amplitude α) :=
  ⟨fun a => ⟨-a.re, -a.im⟩⟩

instance : Mul (Amplitude α) :=
  ⟨fun a b => ⟨a.re * b.re - a.im * b.im, a.re * b.im + a.im * b.re⟩⟩

def ofScalar (x : α) : Amplitude α := ⟨x, 0⟩

def normSq (a : Amplitude α) : α :=
  a.re * a.re + a.im * a.im

@[simp] theorem re_zero : (0 : Amplitude α).re = 0 := rfl

@[simp] theorem im_zero : (0 : Amplitude α).im = 0 := rfl

@[simp] theorem re_one : (1 : Amplitude α).re = 1 := rfl

@[simp] theorem im_one : (1 : Amplitude α).im = 0 := rfl

@[simp] theorem re_i : (i : Amplitude α).re = 0 := rfl

@[simp] theorem im_i : (i : Amplitude α).im = 1 := rfl

@[simp] theorem re_ofScalar (x : α) : (ofScalar x).re = x := rfl

@[simp] theorem im_ofScalar (x : α) : (ofScalar x).im = 0 := rfl

variable (a b : Amplitude α)

@[simp] theorem re_add : (a + b).re = a.re + b.re := rfl

@[simp] theorem im_add : (a + b).im = a.im + b.im := rfl

@[simp] theorem re_neg : (-a).re = -a.re := rfl

@[simp] theorem im_neg : (-a).im = -a.im := rfl

@[simp] theorem re_mul : (a * b).re = a.re * b.re - a.im * b.im := rfl

@[simp] theorem im_mul : (a * b).im = a.re * b.im + a.im * b.re := rfl

end Amplitude

end GateGame
