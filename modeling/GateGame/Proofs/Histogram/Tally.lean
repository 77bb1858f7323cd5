import GateGame.Histogram.Basic
import Mathlib.Algebra.GroupWithZero.Nat

namespace GateGame.Histogram

/-! Exact sums of counts. Recording moves and merges entries, yet the sum over any
class of outcomes grows by what was recorded, as long as all counts together fit
into a word. -/

/-- The sum of the counts of the outcomes that belong to a class. -/
def tally (outcomes : String → Bool) : List (String × UInt64) → Nat
  | [] => 0
  | (outcome, count) :: rest =>
      (if outcomes outcome then count.toNat else 0) + tally outcomes rest

variable {entries : List (String × UInt64)}

theorem tally_eq_sum (outcomes : String → Bool) (entries : List (String × UInt64)) :
    tally outcomes entries =
      ((entries.filter fun entry => outcomes entry.1).map (·.2.toNat)).sum := by
  induction entries with
  | nil => rfl
  | cons entry rest ih =>
      rw [tally, ih, List.filter_cons]
      split <;> simp

theorem tally_all (entries : List (String × UInt64)) :
    tally (fun _ => true) entries = (entries.map (·.2.toNat)).sum := by
  rw [tally_eq_sum, List.filter_eq_self.mpr fun _ _ => rfl]

theorem tally_none (entries : List (String × UInt64)) : tally (fun _ => false) entries = 0 := by
  rw [tally_eq_sum, List.filter_eq_nil_iff.mpr (by simp)]
  rfl

theorem tally_perm (outcomes : String → Bool) {entries' : List (String × UInt64)}
    (h : entries.Perm entries') : tally outcomes entries = tally outcomes entries' := by
  induction h with
  | nil => rfl
  | cons entry _ ih => rw [tally, tally, ih]
  | swap first second rest =>
      rw [tally, tally, tally, tally]
      exact Nat.add_left_comm ..
  | trans _ _ ih ih' => exact ih.trans ih'

theorem tally_le_all (outcomes : String → Bool) (entries : List (String × UInt64)) :
    tally outcomes entries ≤ tally (fun _ => true) entries := by
  induction entries with
  | nil => exact Nat.le_refl 0
  | cons entry rest ih =>
      simp only [tally, if_true]
      split <;> omega

theorem tally_upsert (outcomes : String → Bool) {outcome : String} {count : UInt64}
    (h : tally (fun _ => true) entries + count.toNat < UInt64.size) :
    tally outcomes (upsert outcome (fun old => old.getD 0 + count) entries) =
      tally outcomes entries + if outcomes outcome then count.toNat else 0 := by
  induction entries with
  | nil => simp [upsert, tally]
  | cons head rest ih =>
      obtain ⟨key, old⟩ := head
      simp only [tally, if_true] at h
      rw [upsert]
      split
      · simp only [tally, Option.getD_none, UInt64.zero_add]
        omega
      · next hbefore =>
        split
        · simp only [tally, ih (by omega)]
          omega
        · next hafter =>
          obtain rfl : key = outcome :=
            String.le_antisymm (String.not_lt.mp hbefore) (String.not_lt.mp hafter)
          have hsum : (old + count).toNat = old.toNat + count.toNat := by
            rw [UInt64.toNat_add]
            exact Nat.mod_eq_of_lt (Nat.lt_of_le_of_lt (by omega) h)
          simp only [tally, Option.getD_some, hsum]
          split <;> omega

theorem tally_record (outcomes : String → Bool) {histogram : Histogram} {outcome : String}
    {count : UInt64}
    (h : tally (fun _ => true) histogram.entries + count.toNat < UInt64.size) :
    tally outcomes (histogram.record outcome count).entries =
      tally outcomes histogram.entries + if outcomes outcome then count.toNat else 0 :=
  tally_upsert outcomes h

theorem tally_foldl_record (outcomes : String → Bool) {histogram : Histogram}
    (h : tally (fun _ => true) histogram.entries + tally (fun _ => true) entries <
      UInt64.size) :
    tally outcomes (entries.foldl
        (fun histogram (outcome, count) => histogram.record outcome count) histogram).entries =
      tally outcomes histogram.entries + tally outcomes entries := by
  induction entries generalizing histogram with
  | nil => rfl
  | cons entry rest ih =>
      simp only [tally, if_true] at h
      have hfits : tally (fun _ => true) histogram.entries + entry.2.toNat < UInt64.size := by
        omega
      have hall : tally (fun _ => true) (histogram.record entry.1 entry.2).entries =
          tally (fun _ => true) histogram.entries + entry.2.toNat :=
        tally_record (fun _ => true) hfits
      rw [List.foldl_cons, ih (by rw [hall]; omega), tally_record outcomes hfits]
      simp only [tally]
      omega

/-- A histogram of listed outcomes has the sums of the list. -/
theorem tally_ofList (outcomes : String → Bool)
    (h : (entries.map (·.2.toNat)).sum < UInt64.size) :
    tally outcomes (ofList entries).entries = tally outcomes entries := by
  rw [← tally_all] at h
  have hbound : tally (fun _ => true) empty.entries + tally (fun _ => true) entries <
      UInt64.size := by
    simpa [empty, tally] using h
  have hfold := tally_foldl_record outcomes hbound
  simpa [ofList, empty, tally] using hfold

end GateGame.Histogram
