import GateGame.Proofs.Amplitude.Exact
import GateGame.Register.Sampling

namespace GateGame

/-! Which position a draw selects. In exact arithmetic the positions divide the range of
draws among themselves, each taking up a piece as long as its share of the sum of all
probabilities. -/

variable {α : Type} [Scalar α]

/-- The position that a draw selects which is already scaled to the sum of all
probabilities. -/
def scaledIndex (probabilities : List α) (scaled : α) : Nat :=
  (firstAbove? scaled 0 probabilities).getD ((lastPositive? probabilities).getD 0)

theorem sampleIndex_eq_scaledIndex (probabilities : List α) (draw : α) :
    sampleIndex probabilities draw =
      scaledIndex probabilities (draw * Scalar.sum probabilities) := by
  unfold sampleIndex scaledIndex
  cases firstAbove? (draw * Scalar.sum probabilities) 0 probabilities <;> rfl

namespace ExactReading

variable (reading : ExactReading α) {probabilities : List α} {draw sum : α} {index : Nat}

/-- The sum of the probabilities before a position. -/
def cumulative (probabilities : List α) (index : Nat) : ℝ :=
  ((probabilities.map reading.value).take index).sum

@[simp] theorem cumulative_nil (index : Nat) : reading.cumulative [] index = 0 := by
  simp [cumulative]

@[simp] theorem cumulative_zero (probabilities : List α) :
    reading.cumulative probabilities 0 = 0 := by
  simp [cumulative]

@[simp] theorem cumulative_cons_succ (p : α) (rest : List α) (index : Nat) :
    reading.cumulative (p :: rest) (index + 1) =
      reading.value p + reading.cumulative rest index := by
  simp [cumulative]

theorem cumulative_succ_of_some {p : α} (h : probabilities[index]? = some p) :
    reading.cumulative probabilities (index + 1) =
      reading.cumulative probabilities index + reading.value p := by
  obtain ⟨hlt, rfl⟩ := List.getElem?_eq_some_iff.mp h
  unfold cumulative
  rw [List.sum_take_succ _ _ (by simpa using hlt), List.getElem_map]

theorem cumulative_succ_of_none (h : probabilities[index]? = none) :
    reading.cumulative probabilities (index + 1) = reading.cumulative probabilities index := by
  have hlength : (probabilities.map reading.value).length ≤ index := by simpa using h
  unfold cumulative
  rw [List.take_of_length_le hlength, List.take_of_length_le (by omega)]

/-- A draw above which there is no sum is not below the sum of all. -/
theorem sum_le_of_firstAbove? (hlow : reading.value sum ≤ reading.value draw)
    (h : firstAbove? draw sum probabilities = none) :
    reading.value sum + (probabilities.map reading.value).sum ≤ reading.value draw := by
  induction probabilities generalizing sum with
  | nil => simpa using hlow
  | cons p rest ih =>
      by_cases hdraw : draw < sum + p
      · simp [firstAbove?, hdraw] at h
      · have habove : reading.value (sum + p) ≤ reading.value draw :=
          not_lt.mp (mt (reading.value_lt _ _).mpr hdraw)
        have hrest := ih habove (by simpa [firstAbove?, hdraw] using h)
        rw [reading.value_add] at hrest
        rw [List.map_cons, List.sum_cons]
        linarith

theorem zero_lt_iff (x : α) : 0 < x ↔ 0 < reading.value x := by
  rw [reading.value_lt, reading.value_zero]

theorem positive_of_lastPositive? (h : lastPositive? probabilities = some index) :
    ∃ p, probabilities[index]? = some p ∧ 0 < reading.value p := by
  induction probabilities generalizing index with
  | nil => simp [lastPositive?] at h
  | cons first rest ih =>
      cases hrest : lastPositive? rest with
      | some position =>
          obtain rfl : position + 1 = index := by simpa [lastPositive?, hrest] using h
          exact ih hrest
      | none =>
          obtain ⟨hfirst, rfl⟩ : 0 < first ∧ 0 = index := by simpa [lastPositive?, hrest] using h
          exact ⟨first, rfl, (reading.zero_lt_iff first).mp hfirst⟩

theorem sum_le_of_lastPositive? (h : lastPositive? probabilities = none) :
    (probabilities.map reading.value).sum ≤ 0 := by
  induction probabilities with
  | nil => simp
  | cons first rest ih =>
      cases hrest : lastPositive? rest with
      | some position => simp [lastPositive?, hrest] at h
      | none =>
          have hfirst : ¬ 0 < first := by simpa [lastPositive?, hrest] using h
          have hvalue := not_lt.mp (mt (reading.zero_lt_iff first).mpr hfirst)
          have hsum := ih hrest
          rw [List.map_cons, List.sum_cons]
          linarith

section Shares

variable (hnonneg : ∀ p ∈ probabilities, 0 ≤ reading.value p)

include hnonneg

theorem cumulative_nonneg (index : Nat) : 0 ≤ reading.cumulative probabilities index := by
  apply List.sum_nonneg
  intro x hx
  obtain ⟨p, hp, rfl⟩ := List.mem_map.mp (List.mem_of_mem_take hx)
  exact hnonneg p hp

theorem cumulative_le_sum (index : Nat) :
    reading.cumulative probabilities index ≤ (probabilities.map reading.value).sum := by
  have hrest : 0 ≤ ((probabilities.map reading.value).drop index).sum := by
    apply List.sum_nonneg
    intro x hx
    obtain ⟨p, hp, rfl⟩ := List.mem_map.mp (List.mem_of_mem_drop hx)
    exact hnonneg p hp
  have hsplit := List.sum_take_add_sum_drop (probabilities.map reading.value) index
  unfold cumulative
  linarith

/-- The first sum above a draw belongs to the position in whose piece the draw lies. -/
theorem firstAbove?_eq_some_iff (hlow : reading.value sum ≤ reading.value draw) :
    firstAbove? draw sum probabilities = some index ↔
      reading.value sum + reading.cumulative probabilities index ≤ reading.value draw ∧
        reading.value draw <
          reading.value sum + reading.cumulative probabilities (index + 1) := by
  induction probabilities generalizing sum index with
  | nil => simp [firstAbove?]
  | cons p rest ih =>
      have hrest : ∀ q ∈ rest, 0 ≤ reading.value q := fun q hq => hnonneg q (by simp [hq])
      have hsum := reading.value_add sum p
      by_cases hdraw : draw < sum + p
      · have hbelow := (reading.value_lt _ _).mp hdraw
        cases index with
        | zero => simpa [firstAbove?, hdraw, ← hsum] using ⟨hlow, hbelow⟩
        | succ index =>
            -- The draw lies in the first piece, below all later ones.
            have hlater := reading.cumulative_nonneg hrest index
            simp only [firstAbove?, if_pos hdraw, cumulative_cons_succ]
            constructor
            · intro h
              cases h
            · intro h
              linarith [h.1]
      · have habove : reading.value (sum + p) ≤ reading.value draw :=
          not_lt.mp (mt (reading.value_lt _ _).mpr hdraw)
        cases index with
        | zero => simpa [firstAbove?, hdraw, ← hsum] using fun _ => habove
        | succ index =>
            rw [firstAbove?, if_neg hdraw, cumulative_cons_succ, cumulative_cons_succ,
              ← add_assoc, ← add_assoc, ← hsum, ← ih hrest habove]
            simp

theorem positive_of_firstAbove? (hlow : reading.value sum ≤ reading.value draw)
    (h : firstAbove? draw sum probabilities = some index) :
    ∃ p, probabilities[index]? = some p ∧ 0 < reading.value p := by
  obtain ⟨hbefore, hafter⟩ := (reading.firstAbove?_eq_some_iff hnonneg hlow).mp h
  cases hp : probabilities[index]? with
  | none =>
      rw [reading.cumulative_succ_of_none hp] at hafter
      linarith
  | some p =>
      rw [reading.cumulative_succ_of_some hp] at hafter
      exact ⟨p, rfl, by linarith⟩

variable (hsum : 0 < (probabilities.map reading.value).sum)

include hsum

theorem positive_of_scaledIndex {scaled : α} (hscaled : 0 ≤ reading.value scaled) :
    ∃ p, probabilities[scaledIndex probabilities scaled]? = some p ∧ 0 < reading.value p := by
  unfold scaledIndex
  cases hfirst : firstAbove? scaled 0 probabilities with
  | some position =>
      have hlow : reading.value 0 ≤ reading.value scaled := by rwa [reading.value_zero]
      exact reading.positive_of_firstAbove? hnonneg hlow hfirst
  | none =>
      cases hlast : lastPositive? probabilities with
      | some position => exact reading.positive_of_lastPositive? hlast
      | none => linarith [reading.sum_le_of_lastPositive? hlast]

variable (hdraw : 0 ≤ reading.value draw)

include hdraw

omit hnonneg in
theorem value_scaled :
    reading.value (draw * Scalar.sum probabilities) =
        reading.value draw * (probabilities.map reading.value).sum ∧
      reading.value 0 ≤ reading.value (draw * Scalar.sum probabilities) := by
  rw [reading.value_zero, reading.value_mul, reading.value_sum]
  exact ⟨rfl, mul_nonneg hdraw hsum.le⟩

theorem positive_of_sampleIndex :
    ∃ p, probabilities[sampleIndex probabilities draw]? = some p ∧ 0 < reading.value p := by
  obtain ⟨-, hlow⟩ := reading.value_scaled hsum hdraw
  rw [reading.value_zero] at hlow
  rw [sampleIndex_eq_scaledIndex]
  exact reading.positive_of_scaledIndex hnonneg hsum hlow

variable (hone : reading.value draw < 1)

include hone

omit hnonneg in
theorem exists_firstAbove? :
    ∃ position, firstAbove? (draw * Scalar.sum probabilities) 0 probabilities = some position := by
  obtain ⟨hscaled, hlow⟩ := reading.value_scaled hsum hdraw
  cases hfirst : firstAbove? (draw * Scalar.sum probabilities) 0 probabilities with
  | some position => exact ⟨position, rfl⟩
  | none =>
      have hpast := reading.sum_le_of_firstAbove? hlow hfirst
      have hbelow := mul_lt_of_lt_one_left hsum hone
      rw [reading.value_zero, hscaled] at hpast
      linarith

theorem sampleIndex_eq_iff :
    sampleIndex probabilities draw = index ↔
      reading.cumulative probabilities index ≤
          reading.value draw * (probabilities.map reading.value).sum ∧
        reading.value draw * (probabilities.map reading.value).sum <
          reading.cumulative probabilities (index + 1) := by
  obtain ⟨hscaled, hlow⟩ := reading.value_scaled hsum hdraw
  obtain ⟨position, hposition⟩ := reading.exists_firstAbove? hsum hdraw hone
  have hpiece : firstAbove? (draw * Scalar.sum probabilities) 0 probabilities = some index ↔ _ :=
    reading.firstAbove?_eq_some_iff hnonneg hlow
  rw [reading.value_zero, hscaled, zero_add, zero_add] at hpiece
  rw [← hpiece, sampleIndex, hposition, Option.some.injEq]

omit hdraw hone

theorem draws_eq_preimage (index : Nat) :
    {draw | 0 ≤ reading.value draw ∧ reading.value draw < 1 ∧
        sampleIndex probabilities draw = index} =
      Set.preimage reading.value (Set.Ico
        (reading.cumulative probabilities index / (probabilities.map reading.value).sum)
        (reading.cumulative probabilities (index + 1) /
          (probabilities.map reading.value).sum)) := by
  have hbefore := reading.cumulative_nonneg hnonneg index
  have hafter := reading.cumulative_le_sum hnonneg (index + 1)
  ext draw
  rw [Set.mem_preimage, Set.mem_Ico, div_le_iff₀ hsum, lt_div_iff₀ hsum]
  constructor
  · intro h
    obtain ⟨hdraw, hone, hindex⟩ := h
    exact (reading.sampleIndex_eq_iff hnonneg hsum hdraw hone).mp hindex
  · intro h
    -- The piece lies within the sum, so a draw from it lies between zero and one.
    have hdraw : 0 ≤ reading.value draw := nonneg_of_mul_nonneg_left (hbefore.trans h.1) hsum
    have hone : reading.value draw < 1 := by
      apply lt_of_mul_lt_mul_right _ hsum.le
      linarith [h.2]
    exact ⟨hdraw, hone, (reading.sampleIndex_eq_iff hnonneg hsum hdraw hone).mpr h⟩

end Shares

/-- Sampling inverts the cumulative sums. A draw between zero and one selects the one
position whose piece of the sum it reaches when it is scaled, so a position is found
while adding up and its probability is not zero. The draws that select a position fill
an interval as long as its share of the sum. A scaled draw that is as large as the sum,
or larger, still selects a position whose probability is not zero. -/
theorem sampleIndex_inverts_cumulative {total : ℝ}
    (hnonneg : ∀ p ∈ probabilities, 0 ≤ reading.value p)
    (htotal : (probabilities.map reading.value).sum = total) (hpositive : 0 < total) :
    (∀ draw, 0 ≤ reading.value draw → reading.value draw < 1 →
      (∀ index, sampleIndex probabilities draw = index ↔
        reading.cumulative probabilities index ≤ reading.value draw * total ∧
          reading.value draw * total < reading.cumulative probabilities (index + 1)) ∧
      (∃ position,
        firstAbove? (draw * Scalar.sum probabilities) 0 probabilities = some position) ∧
      ∃ p, probabilities[sampleIndex probabilities draw]? = some p ∧ 0 < reading.value p) ∧
    (∀ index p, probabilities[index]? = some p →
      {draw | 0 ≤ reading.value draw ∧ reading.value draw < 1 ∧
          sampleIndex probabilities draw = index} =
        Set.preimage reading.value (Set.Ico (reading.cumulative probabilities index / total)
          (reading.cumulative probabilities (index + 1) / total)) ∧
      reading.cumulative probabilities (index + 1) / total -
        reading.cumulative probabilities index / total = reading.value p / total) ∧
    (∀ draw, sampleIndex probabilities draw =
      scaledIndex probabilities (draw * Scalar.sum probabilities)) ∧
    ∀ scaled, 0 ≤ reading.value scaled →
      ∃ p, probabilities[scaledIndex probabilities scaled]? = some p ∧ 0 < reading.value p := by
  subst htotal
  refine ⟨?_, ?_, sampleIndex_eq_scaledIndex probabilities, ?_⟩
  · intro draw hdraw hone
    refine ⟨?_, reading.exists_firstAbove? hpositive hdraw hone,
      reading.positive_of_sampleIndex hnonneg hpositive hdraw⟩
    intro index
    exact reading.sampleIndex_eq_iff hnonneg hpositive hdraw hone
  · intro index p hp
    refine ⟨reading.draws_eq_preimage hnonneg hpositive index, ?_⟩
    rw [reading.cumulative_succ_of_some hp]
    ring
  · intro scaled hscaled
    exact reading.positive_of_scaledIndex hnonneg hpositive hscaled

/-- A draw on the boundary of two pieces selects the upper one, past a position that has
no room. -/
theorem sampleIndex_inverts_cumulative_boundary :
    sampleIndex [0, 1, 0, ((3 : Nat) : ExactReal), 0] (1 / ((4 : Nat) : ExactReal)) = 3 ∧
    ∃ p, [0, 1, 0, ((3 : Nat) : ExactReal), 0][scaledIndex [0, 1, 0, ((3 : Nat) : ExactReal), 0]
        ((4 : Nat) : ExactReal)]? = some p ∧ 0 < ExactReal.reading.value p := by
  let reading := ExactReal.reading
  have hvalues : [0, 1, 0, ((3 : Nat) : ExactReal), 0].map reading.value = [0, 1, 0, 3, 0] := by
    simp only [List.map_cons, List.map_nil, reading.value_zero, reading.value_one,
      reading.value_natCast (3 : Nat)]
    norm_num
  have hnonneg : ∀ p ∈ [0, 1, 0, ((3 : Nat) : ExactReal), 0], 0 ≤ reading.value p := by
    simp only [List.forall_mem_cons, reading.value_zero, reading.value_one,
      reading.value_natCast (3 : Nat)]
    norm_num
  have htotal : ([0, 1, 0, ((3 : Nat) : ExactReal), 0].map reading.value).sum = 4 := by
    rw [hvalues]
    norm_num
  have hdraw : reading.value (1 / ((4 : Nat) : ExactReal)) = 1 / 4 := by
    rw [reading.value_div, reading.value_one, reading.value_natCast, Nat.cast_ofNat]
  obtain ⟨hdraws, -, -, hscaled⟩ :=
    reading.sampleIndex_inverts_cumulative hnonneg htotal (by norm_num)
  obtain ⟨hindex, -, -⟩ := hdraws (1 / ((4 : Nat) : ExactReal)) (by rw [hdraw]; norm_num)
    (by rw [hdraw]; norm_num)
  constructor
  · apply (hindex 3).mpr
    rw [hdraw, cumulative, cumulative, hvalues]
    norm_num
  · apply hscaled
    rw [reading.value_natCast]
    positivity

end ExactReading

end GateGame
