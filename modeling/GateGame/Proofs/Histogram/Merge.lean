import GateGame.Histogram.Basic
import GateGame.Proofs.Histogram.Tally
import Mathlib.Data.List.Sort

namespace GateGame.Histogram

/-! Histograms by what they say of each outcome, and two of them added up. Since every
outcome stands in one place only, histograms that say the same of all outcomes are equal,
and adding up is a matter of each outcome alone. -/

variable {entries : List (String × UInt64)} {histogram : Histogram} {outcome : String}

theorem lookup_cons (key : String) (count : UInt64) (rest : List (String × UInt64))
    (outcome : String) :
    ((key, count) :: rest).lookup outcome =
      if outcome = key then some count else rest.lookup outcome := by
  rw [List.lookup_cons]
  by_cases hkey : outcome = key
  · simp [hkey]
  · simp only [beq_eq_false_iff_ne.mpr hkey, if_neg hkey]

theorem lookup_eq_none_of_lt (h : ∀ entry ∈ entries, outcome < entry.1) :
    entries.lookup outcome = none := by
  induction entries with
  | nil => rfl
  | cons head rest ih =>
      obtain ⟨hfirst, hrest⟩ := List.forall_mem_cons.mp h
      have hne : outcome ≠ head.1 := fun heq => String.lt_irrefl _ (heq ▸ hfirst)
      rw [lookup_cons, if_neg hne, ih hrest]

theorem lookup_upsert {change : Option UInt64 → UInt64} (key : String)
    (h : entries.Pairwise (fun a b => a.1 < b.1)) (outcome : String) :
    (upsert key change entries).lookup outcome =
      if outcome = key then some (change (entries.lookup key)) else entries.lookup outcome := by
  induction entries with
  | nil => rw [upsert, lookup_cons, List.lookup_nil, List.lookup_nil]
  | cons head rest ih =>
      obtain ⟨k, old⟩ := head
      obtain ⟨hfirst, hrest⟩ := List.pairwise_cons.mp h
      rw [upsert]
      split
      · next hbefore =>
        -- The list begins after the key, so the key is not in it.
        have hnone : ((k, old) :: rest).lookup key = none := by
          apply lookup_eq_none_of_lt
          intro entry hentry
          rcases List.mem_cons.mp hentry with rfl | hmem
          · exact hbefore
          · exact String.lt_trans hbefore (hfirst entry hmem)
        rw [hnone, lookup_cons]
      · next hbefore =>
        split
        · next hafter =>
          have hne : key ≠ k := fun heq => String.lt_irrefl k (heq ▸ hafter)
          rw [lookup_cons, ih hrest, lookup_cons, lookup_cons, if_neg hne]
          by_cases hk : outcome = k
          · rw [if_pos hk, if_neg (hk ▸ hne.symm), if_pos hk]
          · rw [if_neg hk, if_neg hk]
        · next hafter =>
          obtain rfl : k = key :=
            String.le_antisymm (String.not_lt.mp hbefore) (String.not_lt.mp hafter)
          rw [lookup_cons, lookup_cons, lookup_cons, if_pos rfl]
          by_cases hk : outcome = k
          · rw [if_pos hk, if_pos hk]
          · rw [if_neg hk, if_neg hk, if_neg hk]

theorem mem_iff_lookup_eq_some (h : entries.Pairwise (fun a b => a.1 < b.1)) {count : UInt64} :
    (outcome, count) ∈ entries ↔ entries.lookup outcome = some count := by
  induction entries with
  | nil => simp
  | cons head rest ih =>
      obtain ⟨k, old⟩ := head
      obtain ⟨hfirst, hrest⟩ := List.pairwise_cons.mp h
      rw [List.mem_cons, ih hrest, lookup_cons, Prod.mk.injEq]
      by_cases hk : outcome = k
      · subst hk
        simp [lookup_eq_none_of_lt hfirst, eq_comm]
      · simp [hk]

/-- What a histogram says of an outcome: its count, or nothing if it has not been seen. -/
def count? (histogram : Histogram) (outcome : String) : Option UInt64 :=
  histogram.entries.lookup outcome

theorem count_eq (histogram : Histogram) (outcome : String) :
    histogram.count outcome = (histogram.count? outcome).getD 0 := rfl

theorem isSome_count? (histogram : Histogram) (outcome : String) :
    (histogram.count? outcome).isSome = true ↔ outcome ∈ histogram.entries.map (·.1) := by
  rw [Option.isSome_iff_exists, List.mem_map]
  constructor
  · rintro ⟨count, hcount⟩
    exact ⟨(outcome, count), (mem_iff_lookup_eq_some histogram.sorted).mpr hcount, rfl⟩
  · rintro ⟨⟨key, count⟩, hmem, rfl⟩
    exact ⟨count, (mem_iff_lookup_eq_some histogram.sorted).mp hmem⟩

theorem ext_count? {histogram' : Histogram}
    (h : ∀ outcome, histogram.count? outcome = histogram'.count? outcome) :
    histogram = histogram' := by
  have hentries : histogram.entries = histogram'.entries := by
    have : Std.Antisymm fun a b : String × UInt64 => a.1 < b.1 :=
      ⟨fun a b hab hba => absurd (String.lt_trans hab hba) (String.lt_irrefl _)⟩
    have : Std.Irrefl fun a b : String × UInt64 => a.1 < b.1 :=
      ⟨fun a => String.lt_irrefl a.1⟩
    apply histogram.sorted.eq_of_mem_iff histogram'.sorted
    intro entry
    rw [mem_iff_lookup_eq_some histogram.sorted, mem_iff_lookup_eq_some histogram'.sorted]
    exact Eq.congr_left (h entry.1)
  cases histogram
  cases histogram'
  cases hentries
  rfl

theorem count?_record (histogram : Histogram) (key : String) (count : UInt64)
    (outcome : String) :
    (histogram.record key count).count? outcome =
      if outcome = key then some (histogram.count key + count)
      else histogram.count? outcome :=
  lookup_upsert key histogram.sorted outcome

/-- Two histograms added up: the second is recorded on top of the first. -/
def merge (one two : Histogram) : Histogram :=
  two.entries.foldl (fun histogram entry => histogram.record entry.1 entry.2) one

theorem merge_empty (histogram : Histogram) : histogram.merge empty = histogram := rfl

theorem count?_foldl_record (h : entries.Pairwise (fun a b => a.1 < b.1))
    (histogram : Histogram) (outcome : String) :
    (entries.foldl (fun histogram entry => histogram.record entry.1 entry.2)
        histogram).count? outcome =
      (histogram.count? outcome).merge (· + ·) (entries.lookup outcome) := by
  induction entries generalizing histogram with
  | nil => simp
  | cons head rest ih =>
      obtain ⟨k, count⟩ := head
      obtain ⟨hfirst, hrest⟩ := List.pairwise_cons.mp h
      rw [List.foldl_cons, ih hrest, count?_record, lookup_cons]
      by_cases hk : outcome = k
      · subst hk
        rw [if_pos rfl, if_pos rfl, lookup_eq_none_of_lt hfirst, count_eq]
        cases histogram.count? outcome <;> simp
      · rw [if_neg hk, if_neg hk]

/-- The counts are added outcome by outcome. One that only one of the two has seen keeps
its count. -/
theorem count?_merge (one two : Histogram) (outcome : String) :
    (one.merge two).count? outcome =
      (one.count? outcome).merge (· + ·) (two.count? outcome) :=
  count?_foldl_record two.sorted one outcome

theorem count_merge (one two : Histogram) (outcome : String) :
    (one.merge two).count outcome = one.count outcome + two.count outcome := by
  rw [count_eq, count?_merge, count_eq, count_eq]
  cases one.count? outcome <;> cases two.count? outcome <;> simp

theorem mem_merge (one two : Histogram) (outcome : String) :
    outcome ∈ (one.merge two).entries.map (·.1) ↔
      outcome ∈ one.entries.map (·.1) ∨ outcome ∈ two.entries.map (·.1) := by
  rw [← isSome_count?, ← isSome_count?, ← isSome_count?, count?_merge]
  cases one.count? outcome <;> cases two.count? outcome <;> simp

/-- It makes no difference whether an outcome is recorded before or after adding up. -/
theorem merge_record (one two : Histogram) (outcome : String) (count : UInt64) :
    one.merge (two.record outcome count) = (one.merge two).record outcome count := by
  apply ext_count?
  intro other
  rw [count?_merge, count?_record, count?_record, count?_merge, count_merge]
  by_cases hother : other = outcome
  · subst hother
    rw [if_pos rfl, if_pos rfl, count_eq one]
    cases one.count? other <;> simp [UInt64.add_assoc]
  · rw [if_neg hother, if_neg hother]

/-- The count of one outcome is a sum over a class of one. -/
theorem toNat_lookup_eq_tally (h : entries.Pairwise (fun a b => a.1 < b.1)) (outcome : String) :
    ((entries.lookup outcome).getD 0).toNat = tally (fun key => key = outcome) entries := by
  induction entries with
  | nil => rfl
  | cons head rest ih =>
      obtain ⟨key, count⟩ := head
      obtain ⟨hfirst, hrest⟩ := List.pairwise_cons.mp h
      rw [lookup_cons, tally, ← ih hrest]
      by_cases hkey : outcome = key
      · subst hkey
        rw [lookup_eq_none_of_lt hfirst]
        simp
      · rw [if_neg hkey, if_neg (by simpa using Ne.symm hkey), Nat.zero_add]

theorem toNat_count (histogram : Histogram) (outcome : String) :
    (histogram.count outcome).toNat = tally (fun key => key = outcome) histogram.entries :=
  toNat_lookup_eq_tally histogram.sorted outcome

theorem toNat_count_le (histogram : Histogram) (outcome : String) :
    (histogram.count outcome).toNat ≤ tally (fun _ => true) histogram.entries := by
  rw [toNat_count]
  exact tally_le_all _ _

end GateGame.Histogram
