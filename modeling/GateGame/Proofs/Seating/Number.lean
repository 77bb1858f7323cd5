import GateGame.Proofs.Seating.Renaming
import Mathlib.Data.Int.CardIntervalMod

namespace GateGame.Seating

/-! Seatings by number. The digits of a number, with places that count to one, to two, to
three and so on, tell for each position with which one up to it it is swapped. A seating of
so many players has exactly one number below their factorial, so that among all numbers
below a greater factorial every seating is found equally often. -/

def digit (number place : Nat) : Nat :=
  number / place.factorial % (place + 1)

/-- Where the wires come from when the first positions are swapped one after the other. -/
def order (number : Nat) : Nat → Equiv.Perm Nat
  | 0 => 1
  | places + 1 => order number places * Equiv.swap places (digit number places)

variable {number other places position : Nat}

theorem digit_le (number place : Nat) : digit number place ≤ place :=
  Nat.le_of_lt_succ (Nat.mod_lt _ (Nat.succ_pos place))

theorem order_succ_apply (number places position : Nat) :
    order number (places + 1) position =
      order number places (Equiv.swap places (digit number places) position) := rfl

theorem order_of_le (h : places ≤ position) : order number places position = position := by
  induction places with
  | zero => rfl
  | succ places ih =>
      have hplace : position ≠ places := Nat.ne_of_gt h
      have hdigit : position ≠ digit number places :=
        Nat.ne_of_gt (Nat.lt_of_le_of_lt (digit_le number places) h)
      rw [order_succ_apply, Equiv.swap_apply_of_ne_of_ne hplace hdigit,
        ih (Nat.le_of_succ_le h)]

theorem order_lt (h : position < places) : order number places position < places := by
  by_contra hge
  have hfixed : order number places (order number places position) =
      order number places position := order_of_le (Nat.not_lt.mp hge)
  rw [(order number places).injective hfixed] at hge
  exact hge h

/-- The last position is found again at the last digit. -/
theorem order_digit (number places : Nat) :
    order number (places + 1) (digit number places) = places := by
  rw [order_succ_apply, Equiv.swap_apply_right, order_of_le (Nat.le_refl places)]

theorem order_succ_inj :
    order number (places + 1) = order other (places + 1) ↔
      order number places = order other places ∧ digit number places = digit other places := by
  constructor
  · intro h
    have hdigit : digit number places = digit other places := by
      apply (order number (places + 1)).injective
      rw [order_digit, h, order_digit]
    rw [order, order, hdigit, mul_left_inj] at h
    exact ⟨h, hdigit⟩
  · rintro ⟨horder, hdigit⟩
    rw [order, order, horder, hdigit]

theorem mod_factorial_succ (number places : Nat) :
    number % (places + 1).factorial =
      number % places.factorial + places.factorial * digit number places := by
  rw [Nat.factorial_succ, Nat.mul_comm, Nat.mod_mul, digit]

theorem mod_factorial_succ_inj :
    number % (places + 1).factorial = other % (places + 1).factorial ↔
      number % places.factorial = other % places.factorial ∧
        digit number places = digit other places := by
  have hpos := Nat.factorial_pos places
  rw [mod_factorial_succ, mod_factorial_succ]
  constructor
  · intro h
    have hlow : number % places.factorial = other % places.factorial := by
      have hmod := congrArg (· % places.factorial) h
      simpa only [Nat.add_mul_mod_self_left, Nat.mod_mod] using hmod
    rw [hlow, Nat.add_left_cancel_iff] at h
    exact ⟨hlow, Nat.eq_of_mul_eq_mul_left hpos h⟩
  · rintro ⟨hlow, hdigit⟩
    rw [hlow, hdigit]

theorem order_inj :
    order number places = order other places ↔
      number % places.factorial = other % places.factorial := by
  induction places with
  | zero => simp [order, Nat.mod_one]
  | succ places ih => rw [order_succ_inj, mod_factorial_succ_inj, ih]

/-- The seating of a number. -/
def ofNumber (players number : Nat) : Seating where
  wires := (List.range players).map (order number players)
  nodup := List.nodup_range.map (order number players).injective
  bounded wire hwire := by
    obtain ⟨player, hplayer, rfl⟩ := List.mem_map.mp hwire
    rw [List.length_map, List.length_range]
    exact order_lt (List.mem_range.mp hplayer)

example : (ofNumber 3 1).wires = [2, 1, 0] := by decide

variable {players : Nat}

theorem wires_ofNumber (players number : Nat) :
    (ofNumber players number).wires = (List.range players).map (order number players) := rfl

theorem size_ofNumber (players number : Nat) : (ofNumber players number).size = players := by
  simp [ofNumber, size]

theorem wires_ofNumber_inj :
    (ofNumber players number).wires = (ofNumber players other).wires ↔
      number % players.factorial = other % players.factorial := by
  rw [← order_inj, wires_ofNumber, wires_ofNumber]
  constructor
  · intro h
    rw [List.map_inj_left] at h
    apply Equiv.ext
    intro position
    rcases Nat.lt_or_ge position players with hlt | hge
    · exact h position (List.mem_range.mpr hlt)
    · rw [order_of_le hge, order_of_le hge]
  · intro h
    rw [h]

/-- There are as many seatings as numbers, and no two numbers have the same one. -/
theorem exists_number (seats : Seats players) :
    ∃ number < players.factorial, ofNumber players number = seats.1 := by
  let seated (number : Fin players.factorial) : Seats players :=
    ⟨ofNumber players number, size_ofNumber players number⟩
  have hinjective : Function.Injective seated := by
    intro number other h
    have hwires := congrArg (fun seats : Seats players => seats.1.wires) h
    rw [wires_ofNumber_inj, Nat.mod_eq_of_lt number.isLt, Nat.mod_eq_of_lt other.isLt] at hwires
    exact Fin.ext hwires
  have hcard : Fintype.card (Fin players.factorial) = Fintype.card (Seats players) := by
    rw [Fintype.card_fin, Seats.card_seats]
  obtain ⟨number, hnumber⟩ :=
    ((Fintype.bijective_iff_injective_and_card seated).mpr ⟨hinjective, hcard⟩).2 seats
  exact ⟨number, number.isLt, congrArg Subtype.val hnumber⟩

/-- Among the numbers below a factorial, each seating of at most as many players is found
equally often. -/
theorem card_numbers {last : Nat} (hle : players ≤ last) (seats : Seats players) :
    ((Finset.range last.factorial).filter fun number =>
      (ofNumber players number).wires = seats.1.wires).card =
        last.factorial / players.factorial := by
  obtain ⟨first, -, hfirst⟩ := exists_number seats
  have hmod : (fun number => (ofNumber players number).wires = seats.1.wires) =
      fun number => number ≡ first [MOD players.factorial] := by
    funext number
    rw [← hfirst, wires_ofNumber_inj]
    rfl
  have hrest : last.factorial % players.factorial = 0 :=
    Nat.mod_eq_zero_of_dvd (Nat.factorial_dvd_factorial hle)
  rw [← Nat.count_eq_card_filter_range]
  simp only [hmod]
  rw [Nat.count_modEq_card _ (Nat.factorial_pos players), hrest, if_neg (Nat.not_lt_zero _),
    Nat.add_zero]

end GateGame.Seating
