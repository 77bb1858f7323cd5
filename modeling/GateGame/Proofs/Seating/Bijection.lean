import GateGame.Proofs.Seating.Wire
import Mathlib.Data.List.Nodup
import Mathlib.Data.Set.List
import Mathlib.Order.Interval.Set.Defs

namespace GateGame.Seating

/-! Which lists are accepted as seatings. Only the range of the wires and repetitions are
looked at, from the first player on. As many wires as players, all different and none
outside, leave no wire without a player, so the accepted lists are the bijections; of any
other list the first wire that does not fit is reported. -/

variable {wires seen rest : List Nat} {player wire : Nat} {fault : SeatingFault}

theorem perm_range_iff_bijective :
    wires.Perm (List.range wires.length) ↔
      Function.Injective wires.get ∧ Set.range wires.get = Set.Iio wires.length := by
  rw [← List.nodup_iff_injective_get, Set.range_list_get]
  constructor
  · intro hperm
    refine ⟨hperm.nodup_iff.mpr List.nodup_range, Set.ext fun wire => ?_⟩
    rw [Set.mem_ofPred_eq, hperm.mem_iff, List.mem_range, Set.mem_Iio]
  · rintro ⟨hnodup, honto⟩
    exact wires_perm ⟨wires, hnodup, fun wire hwire => honto.subset hwire⟩

/-- Every number below the length of the list stands in it once. -/
def OnceEach (wires : List Nat) : Prop :=
  ∀ wire < wires.length, wires.count wire = 1

theorem onceEach_iff_perm : OnceEach wires ↔ wires.Perm (List.range wires.length) := by
  constructor
  · intro hcount
    have hsubset : List.range wires.length ⊆ wires := by
      intro wire hwire
      apply List.count_pos_iff.mp
      rw [hcount wire (List.mem_range.mp hwire)]
      exact Nat.one_pos
    have hsubperm := List.subperm_of_subset List.nodup_range hsubset
    exact (hsubperm.perm_of_length_le (by simp)).symm
  · intro hperm wire hwire
    rw [hperm.count_eq]
    exact List.count_eq_one_of_mem List.nodup_range (List.mem_range.mpr hwire)

theorem ofWires_of_perm (h : wires.Perm (List.range wires.length)) :
    ∃ seating, ofWires wires = .ok seating := by
  have hbounded : ∀ wire ∈ wires, wire < wires.length :=
    fun wire hwire => List.mem_range.mp (h.mem_iff.mp hwire)
  exact ⟨_, ofWires_wires ⟨wires, h.nodup_iff.mpr List.nodup_range, hbounded⟩⟩

/-- What is accepted is stored as it is. -/
theorem wires_of_ofWires {seating : Seating} (h : ofWires wires = .ok seating) :
    seating.wires = wires := by
  rw [ofWires] at h
  split at h
  · cases h
  · cases h
    rfl

/-- The wire of the player lies outside the register, or a player before has it. -/
def Misplaced (wires : List Nat) (player : Nat) : Prop :=
  ∃ wire, wires[player]? = some wire ∧ (wires.length ≤ wire ∨ wire ∈ wires.take player)

/-- What is wrong with the first player who is misplaced. -/
inductive FirstFault (wires : List Nat) : SeatingFault → Prop
  | outside {player wire : Nat} (hwire : wires[player]? = some wire)
      (first : ∀ earlier < player, ¬ Misplaced wires earlier)
      (hrange : wires.length ≤ wire) : FirstFault wires (.outside wire wires.length)
  | assignedTwice {player wire : Nat} (hwire : wires[player]? = some wire)
      (first : ∀ earlier < player, ¬ Misplaced wires earlier)
      (hrange : wire < wires.length) (htaken : wire ∈ wires.take player) :
      FirstFault wires (.assignedTwice wire)

/-- The search goes on as long as the players before are well placed and their wires are
the ones it has noted as taken. -/
theorem firstFault_of_fault? {taken : List Nat} (htaken : ∀ wire, wire ∈ taken ↔ wire ∈ seen)
    (hseen : ∀ earlier < seen.length, ¬ Misplaced (seen ++ rest) earlier)
    (h : fault? (seen ++ rest).length taken rest = some fault) :
    FirstFault (seen ++ rest) fault := by
  induction rest generalizing seen taken with
  | nil => cases h
  | cons wire rest ih =>
      have hwire : (seen ++ wire :: rest)[seen.length]? = some wire := by simp
      have hbefore : (seen ++ wire :: rest).take seen.length = seen := by simp
      rw [fault?] at h
      split at h
      · next hrange =>
        split at h
        · next hmem =>
          cases h
          refine .assignedTwice hwire hseen hrange ?_
          rw [hbefore]
          exact (htaken wire).mp hmem
        · next hmem =>
          have hplaced : ¬ Misplaced (seen ++ wire :: rest) seen.length := by
            rintro ⟨other, hother, hfault⟩
            cases hwire.symm.trans hother
            rw [hbefore, ← htaken] at hfault
            exact hfault.elim (Nat.not_le.mpr hrange) hmem
          rw [List.append_cons] at h hseen hplaced ⊢
          apply ih (fun other => ?_) (fun earlier hearlier => ?_) h
          · rw [List.mem_cons, htaken, List.mem_append, List.mem_singleton, or_comm]
          · rw [List.length_append, List.length_singleton, Nat.lt_add_one_iff] at hearlier
            rcases Nat.lt_or_eq_of_le hearlier with hlt | rfl
            · exact hseen earlier hlt
            · exact hplaced
      · next hrange =>
        cases h
        exact .outside hwire hseen (Nat.not_lt.mp hrange)

theorem ofWires_of_not_perm (h : ¬ wires.Perm (List.range wires.length)) :
    ∃ fault, ofWires wires = .error (.invalidSeating fault) ∧ FirstFault wires fault := by
  rw [ofWires]
  split
  · next fault hfault =>
    have hseen : ∀ earlier < ([] : List Nat).length, ¬ Misplaced ([] ++ wires) earlier :=
      fun earlier hearlier => absurd hearlier (Nat.not_lt_zero earlier)
    exact ⟨fault, rfl, firstFault_of_fault? (fun wire => Iff.rfl) hseen hfault⟩
  · next hnone =>
    obtain ⟨hfits, hnodup⟩ := fault?_eq_none_iff.mp hnone
    exact absurd (wires_perm ⟨wires, hnodup, fun wire hwire => (hfits wire hwire).1⟩) h

/-- A list is accepted, and stored as it is, just if every number below its length stands
in it once, which is to say that the wires of the players are different and are all of
these numbers. Any other list is refused for the first player whose wire is outside that
range or taken by a player before, and the error tells which. -/
theorem ofWires_bijections (wires : List Nat) :
    (OnceEach wires ↔
      Function.Injective wires.get ∧ Set.range wires.get = Set.Iio wires.length) ∧
    (OnceEach wires ↔ ∃ seating, ofWires wires = .ok seating) ∧
    (∀ seating, ofWires wires = .ok seating → seating.wires = wires) ∧
    (¬ OnceEach wires → ∃ fault, ofWires wires = .error (.invalidSeating fault) ∧
      FirstFault wires fault) := by
  refine ⟨onceEach_iff_perm.trans perm_range_iff_bijective, ⟨fun h => ?_, fun h => ?_⟩,
    fun seating => wires_of_ofWires, fun h => ?_⟩
  · exact ofWires_of_perm (onceEach_iff_perm.mp h)
  · obtain ⟨seating, hseating⟩ := h
    obtain rfl := wires_of_ofWires hseating
    exact onceEach_iff_perm.mpr seating.wires_perm
  · exact ofWires_of_not_perm (mt onceEach_iff_perm.mpr h)

/-- Three of these five players are misplaced. The first of them has the wire of a player
before, so it is not reported that others are outside. -/
theorem ofWires_bijections_two_defects :
    ∃ fault, ofWires [3, 0, 3, 5, 7] = .error (.invalidSeating fault) ∧
      FirstFault [3, 0, 3, 5, 7] fault ∧ fault = .assignedTwice 3 := by
  obtain ⟨-, -, -, hrefused⟩ := ofWires_bijections [3, 0, 3, 5, 7]
  obtain ⟨fault, hfault, hfirst⟩ := hrefused fun honce => absurd (honce 1 (by decide)) (by decide)
  exact ⟨fault, hfault, hfirst, (Error.invalidSeating.inj (Except.error.inj hfault)).symm⟩

end GateGame.Seating
