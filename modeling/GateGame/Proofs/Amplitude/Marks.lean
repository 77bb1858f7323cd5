import GateGame.Register.Basic

namespace GateGame

/-! Zero and one among the scalars and the amplitudes. As long as a state is a single
basis state, all that its amplitudes are made of are zeros and ones of either sign,
and arithmetic on those is exact but for the sign of a zero. -/

def zeros (α : Type) [Scalar α] : List α := [0, -0]

def ones (α : Type) [Scalar α] : List α := [1, -1]

/-- Scalars that calculate exactly with zeros and ones, up to the sign of zero, and
tell whether a fraction of 53 bits is less than them. -/
class ExactUnits (α : Type) [Scalar α] : Prop where
  neg_zero : ∀ x ∈ zeros α, -x ∈ zeros α
  neg_one : ∀ x ∈ ones α, -x ∈ ones α
  zero_mul_zero : ∀ x ∈ zeros α, ∀ y ∈ zeros α, x * y ∈ zeros α
  zero_mul_one : ∀ x ∈ zeros α, ∀ y ∈ ones α, x * y ∈ zeros α
  one_mul_zero : ∀ x ∈ ones α, ∀ y ∈ zeros α, x * y ∈ zeros α
  one_mul_one : ∀ x ∈ ones α, ∀ y ∈ ones α, x * y ∈ ones α
  zero_add_zero : ∀ x ∈ zeros α, ∀ y ∈ zeros α, x + y ∈ zeros α
  zero_add_one : ∀ x ∈ zeros α, ∀ y ∈ ones α, x + y ∈ ones α
  one_add_zero : ∀ x ∈ ones α, ∀ y ∈ zeros α, x + y ∈ ones α
  zero_sub_zero : ∀ x ∈ zeros α, ∀ y ∈ zeros α, x - y ∈ zeros α
  zero_sub_one : ∀ x ∈ zeros α, ∀ y ∈ ones α, x - y ∈ ones α
  one_sub_zero : ∀ x ∈ ones α, ∀ y ∈ zeros α, x - y ∈ ones α
  square_zero : ∀ x ∈ zeros α, x * x = 0
  square_one : ∀ x ∈ ones α, x * x = 1
  add_zero_zero : (0 : α) + 0 = 0
  add_zero_one : (0 : α) + 1 = 1
  add_one_zero : (1 : α) + 0 = 1
  not_tolerance_lt : ∀ x ∈ [(1 : α) - 1, -(1 - 1)], ¬ Register.defaultTolerance < x
  not_zero_lt_zero : ¬ (0 : α) < 0
  fraction_bounds : ∀ n : Nat, n < 9007199254740992 →
    ¬ (n : α) / ((9007199254740992 : Nat) : α) * 1 < 0 ∧
      (n : α) / ((9007199254740992 : Nat) : α) * 1 < 1

namespace Amplitude

variable {α : Type} [Scalar α]

/-- An amplitude is a phase, one part a one and the other a zero, or it is blank,
and the flag tells which. -/
def Marks (a : Amplitude α) : Bool → Prop
  | false => a.re ∈ zeros α ∧ a.im ∈ zeros α
  | true => a.re ∈ ones α ∧ a.im ∈ zeros α ∨ a.re ∈ zeros α ∧ a.im ∈ ones α

theorem marks_zero : (0 : Amplitude α).Marks false :=
  ⟨List.mem_cons_self, List.mem_cons_self⟩

theorem marks_one : (1 : Amplitude α).Marks true :=
  .inl ⟨List.mem_cons_self, List.mem_cons_self⟩

theorem marks_i : (i : Amplitude α).Marks true :=
  .inr ⟨List.mem_cons_self, List.mem_cons_self⟩

variable [ExactUnits α] {a b : Amplitude α} {p q : Bool}

open ExactUnits

theorem Marks.neg (h : a.Marks p) : (-a).Marks p := by
  cases p with
  | false => exact ⟨neg_zero _ h.1, neg_zero _ h.2⟩
  | true =>
      rcases h with ⟨hre, him⟩ | ⟨hre, him⟩
      · exact .inl ⟨neg_one _ hre, neg_zero _ him⟩
      · exact .inr ⟨neg_zero _ hre, neg_one _ him⟩

theorem Marks.mul (ha : a.Marks p) (hb : b.Marks q) : (a * b).Marks (p && q) := by
  cases p with
  | false =>
      cases q with
      | false =>
          exact ⟨zero_sub_zero _ (zero_mul_zero _ ha.1 _ hb.1) _ (zero_mul_zero _ ha.2 _ hb.2),
            zero_add_zero _ (zero_mul_zero _ ha.1 _ hb.2) _ (zero_mul_zero _ ha.2 _ hb.1)⟩
      | true =>
          rcases hb with ⟨hre, him⟩ | ⟨hre, him⟩
          · exact ⟨zero_sub_zero _ (zero_mul_one _ ha.1 _ hre) _ (zero_mul_zero _ ha.2 _ him),
              zero_add_zero _ (zero_mul_zero _ ha.1 _ him) _ (zero_mul_one _ ha.2 _ hre)⟩
          · exact ⟨zero_sub_zero _ (zero_mul_zero _ ha.1 _ hre) _ (zero_mul_one _ ha.2 _ him),
              zero_add_zero _ (zero_mul_one _ ha.1 _ him) _ (zero_mul_zero _ ha.2 _ hre)⟩
  | true =>
      cases q with
      | false =>
          rcases ha with ⟨hre, him⟩ | ⟨hre, him⟩
          · exact ⟨zero_sub_zero _ (one_mul_zero _ hre _ hb.1) _ (zero_mul_zero _ him _ hb.2),
              zero_add_zero _ (one_mul_zero _ hre _ hb.2) _ (zero_mul_zero _ him _ hb.1)⟩
          · exact ⟨zero_sub_zero _ (zero_mul_zero _ hre _ hb.1) _ (one_mul_zero _ him _ hb.2),
              zero_add_zero _ (zero_mul_zero _ hre _ hb.2) _ (one_mul_zero _ him _ hb.1)⟩
      | true =>
          rcases ha with ⟨hre, him⟩ | ⟨hre, him⟩ <;> rcases hb with ⟨hre', him'⟩ | ⟨hre', him'⟩
          · exact .inl
              ⟨one_sub_zero _ (one_mul_one _ hre _ hre') _ (zero_mul_zero _ him _ him'),
                zero_add_zero _ (one_mul_zero _ hre _ him') _ (zero_mul_one _ him _ hre')⟩
          · exact .inr
              ⟨zero_sub_zero _ (one_mul_zero _ hre _ hre') _ (zero_mul_one _ him _ him'),
                one_add_zero _ (one_mul_one _ hre _ him') _ (zero_mul_zero _ him _ hre')⟩
          · exact .inr
              ⟨zero_sub_zero _ (zero_mul_one _ hre _ hre') _ (one_mul_zero _ him _ him'),
                zero_add_one _ (zero_mul_zero _ hre _ him') _ (one_mul_one _ him _ hre')⟩
          · exact .inl
              ⟨zero_sub_one _ (zero_mul_zero _ hre _ hre') _ (one_mul_one _ him _ him'),
                zero_add_zero _ (zero_mul_one _ hre _ him') _ (one_mul_zero _ him _ hre')⟩

/-- A sum is a phase when one of its terms is; both must not be. -/
theorem Marks.add (ha : a.Marks p) (hb : b.Marks q) (hpq : (p && q) = false) :
    (a + b).Marks (p || q) := by
  cases p with
  | false =>
      cases q with
      | false => exact ⟨zero_add_zero _ ha.1 _ hb.1, zero_add_zero _ ha.2 _ hb.2⟩
      | true =>
          rcases hb with ⟨hre, him⟩ | ⟨hre, him⟩
          · exact .inl ⟨zero_add_one _ ha.1 _ hre, zero_add_zero _ ha.2 _ him⟩
          · exact .inr ⟨zero_add_zero _ ha.1 _ hre, zero_add_one _ ha.2 _ him⟩
  | true =>
      obtain rfl : q = false := by simpa using hpq
      rcases ha with ⟨hre, him⟩ | ⟨hre, him⟩
      · exact .inl ⟨one_add_zero _ hre _ hb.1, zero_add_zero _ him _ hb.2⟩
      · exact .inr ⟨zero_add_zero _ hre _ hb.1, one_add_zero _ him _ hb.2⟩

theorem Marks.normSq (h : a.Marks p) : a.normSq = if p then 1 else 0 := by
  cases p with
  | false => simp [Amplitude.normSq, square_zero _ h.1, square_zero _ h.2, add_zero_zero]
  | true =>
      rcases h with ⟨hre, him⟩ | ⟨hre, him⟩
      · simp [Amplitude.normSq, square_one _ hre, square_zero _ him, add_one_zero]
      · simp [Amplitude.normSq, square_zero _ hre, square_one _ him, add_zero_one]

end Amplitude

end GateGame
