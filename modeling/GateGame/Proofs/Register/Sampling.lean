import GateGame.Proofs.Random.Uniforms
import GateGame.Proofs.Register.Classical
import GateGame.Proofs.Register.Reseating
import GateGame.Register.Sampling

namespace GateGame

/-! Sampling a register that is in one basis state. Its probabilities are zeros and a
single one, they add up to one, and every draw selects the place of that one. -/

variable {α : Type} [Scalar α]

def certain (before after : Nat) : List α :=
  List.replicate before 0 ++ 1 :: List.replicate after 0

theorem getElem_certain {before after index : Nat}
    (h : index < (certain before after : List α).length) :
    (certain before after : List α)[index] = if index = before then 1 else 0 := by
  rcases Nat.lt_trichotomy index before with hlt | rfl | hgt
  · simp [certain, hlt, Nat.ne_of_lt hlt]
  · simp [certain]
  · obtain ⟨rest, hrest⟩ : ∃ rest, index - before = rest + 1 := ⟨index - before - 1, by omega⟩
    simp [certain, List.getElem_append, Nat.not_lt.mpr (Nat.le_of_lt hgt), hrest,
      Nat.ne_of_gt hgt]

theorem Wave.IsAt.of_playerWave {seating : Seating} {values : Nat → Bool} {wave : Wave α}
    (h : Wave.IsAt seating.size values (seating.playerWave wave)) :
    Wave.IsAt seating.size (values ∘ seating.player) wave := by
  intro values'
  have hplayers := h (values' ∘ seating.wire)
  have hvalues : (values' ∘ seating.wire) ∘ seating.player = values' := by
    funext wire
    simp
  have hagree : Agree seating.size (values' ∘ seating.wire) values ↔
      Agree seating.size values' (values ∘ seating.player) := by
    constructor
    · intro h wire hwire
      have hplayer := h (seating.player wire) (Seating.player_lt hwire)
      rwa [Function.comp_apply, Seating.wire_player] at hplayer
    · intro h player hplayer
      have hwire := h (seating.wire player) (Seating.wire_lt hplayer)
      rwa [Function.comp_apply, Seating.player_wire] at hwire
  rw [Seating.playerWave, hvalues] at hplayers
  simpa only [hagree] using hplayers

theorem foldl_add_replicate_zero (count : Nat) {x : α} (h : x + 0 = x) :
    (List.replicate count 0).foldl (· + ·) x = x := by
  induction count with
  | zero => rfl
  | succ count ih => rw [List.replicate_succ, List.foldl_cons, h, ih]

variable [ExactUnits α]

open ExactUnits

theorem Wave.IsAt.probabilities {wires : Nat} {values : Nat → Bool}
    {register : Register α wires} (h : Wave.IsAt wires values register.wave) :
    register.probabilities = certain (basisIndex wires values)
      (basisSize wires - (basisIndex wires values + 1)) := by
  have hlt := basisIndex_lt wires values
  rw [Register.probabilities_eq]
  apply List.ext_getElem
  · simp [certain]
    omega
  · intro index hleft hright
    have hindex : index < basisSize wires := by simpa using hleft
    have hagree : Agree wires index.testBit values ↔ index = basisIndex wires values := by
      rw [← basisIndex_testBit hindex, basisIndex_eq_iff, basisIndex_testBit hindex]
      rfl
    have hmarks := h index.testBit
    rw [← Register.amplitude_eq_wave hindex] at hmarks
    rw [List.getElem_map, List.getElem_range, hmarks.normSq, getElem_certain]
    simp only [hagree, decide_eq_true_eq]

theorem sum_certain (before after : Nat) : Scalar.sum (certain before after : List α) = 1 := by
  have hafter := foldl_add_replicate_zero after (add_one_zero (α := α))
  cases before with
  | zero => exact hafter
  | succ before =>
      have hbefore := foldl_add_replicate_zero before (add_zero_zero (α := α))
      rw [certain, List.replicate_succ, List.cons_append, Scalar.sum, List.foldl_append, hbefore,
        List.foldl_cons, add_zero_one, hafter]

theorem firstAbove?_certain {draw : α} (hzero : ¬ draw < 0) (hone : draw < 1)
    (before after : Nat) :
    firstAbove? draw 0 (certain before after) = some before := by
  induction before with
  | zero => simp [certain, firstAbove?, add_zero_one, hone]
  | succ before ih =>
      rw [certain] at ih
      rw [certain, List.replicate_succ, List.cons_append, firstAbove?, add_zero_zero,
        if_neg hzero, ih]
      rfl

theorem sampleIndex_certain {n : Nat} (h : n < 9007199254740992) (before after : Nat) :
    sampleIndex (certain before after)
      ((n : α) / ((9007199254740992 : Nat) : α)) = before := by
  obtain ⟨hzero, hone⟩ := fraction_bounds (α := α) n h
  rw [sampleIndex, sum_certain, firstAbove?_certain hzero hone]

theorem drawIndex_certain {ρ : Type} [RandomSource ρ] (before after : Nat) (source : ρ) :
    ((drawIndex (certain before after : List α)).run source).1 = before :=
  sampleIndex_certain (toNat_shiftRight_lt _) before after

theorem Register.checkNormalization_of_isAt {wires : Nat} {values : Nat → Bool}
    {register : Register α wires} (h : Wave.IsAt wires values register.wave) :
    register.checkNormalization defaultTolerance = .ok () := by
  have habove := not_tolerance_lt (1 - 1 : α) (by simp)
  have hbelow := not_tolerance_lt (-(1 - 1) : α) (by simp)
  rw [checkNormalization, h.probabilities, sum_certain]
  exact if_neg (not_or.mpr ⟨habove, hbelow⟩)

end GateGame
