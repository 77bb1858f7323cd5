import GateGame.Proofs.Histogram.Merge
import GateGame.Proofs.Text.ByteOrder
import Mathlib.Data.List.Dedup
import Mathlib.Data.List.Induction

namespace GateGame.Histogram

/-! Histograms of listed outcomes. A list may name an outcome several times and in any
order; the histogram has it once, with the sum of its counts. As long as all counts
together fit into a word, no sum is cut off. -/

variable {entries : List (String × UInt64)} {histogram : Histogram} {outcome : String}

/-- The outcomes in the order in which they are gone through. -/
def keys (histogram : Histogram) : List String :=
  histogram.entries.map (·.1)

theorem keys_sorted (histogram : Histogram) : histogram.keys.Pairwise (· < ·) :=
  List.pairwise_map.mpr histogram.sorted

theorem keys_nodup (histogram : Histogram) : histogram.keys.Nodup := by
  refine histogram.keys_sorted.imp ?_
  rintro outcome _ hlt rfl
  exact String.lt_irrefl outcome hlt

theorem record_comm (histogram : Histogram) (one two : String × UInt64) :
    (histogram.record one.1 one.2).record two.1 two.2 =
      (histogram.record two.1 two.2).record one.1 one.2 := by
  obtain ⟨first, count⟩ := one
  obtain ⟨second, count'⟩ := two
  apply ext_count?
  intro outcome
  simp only [count_eq, count?_record]
  by_cases hsame : first = second
  · subst hsame
    simp only [if_true, Option.getD_some, UInt64.add_assoc, UInt64.add_comm count]
    split <;> rfl
  · rw [if_neg hsame, if_neg (Ne.symm hsame)]
    by_cases hfirst : outcome = first
    · subst hfirst
      rw [if_pos rfl, if_neg hsame, if_pos rfl]
    · rw [if_neg hfirst, if_neg hfirst]

theorem ofList_perm {entries' : List (String × UInt64)} (h : entries'.Perm entries) :
    ofList entries' = ofList entries :=
  h.foldl_eq' (fun one _ two _ histogram => record_comm histogram one two) empty

theorem mem_keys_record (histogram : Histogram) (key : String) (count : UInt64) :
    outcome ∈ (histogram.record key count).keys ↔ outcome = key ∨ outcome ∈ histogram.keys := by
  rw [keys, keys, ← isSome_count?, ← isSome_count?, count?_record]
  split <;> simp [*]

theorem mem_keys_ofList (entries : List (String × UInt64)) :
    outcome ∈ (ofList entries).keys ↔ outcome ∈ entries.map (·.1) := by
  induction entries using List.reverseRecOn with
  | nil => rfl
  | append_singleton entries entry ih =>
      have hlast : ofList (entries ++ [entry]) = (ofList entries).record entry.1 entry.2 :=
        List.foldl_concat ..
      rw [hlast, mem_keys_record, ih, List.map_append, List.mem_append, or_comm]
      simp

/-- An outcome that a histogram has with the count zero is one of its outcomes as well, so
there are as many as there are different ones in the list. -/
theorem size_ofList (entries : List (String × UInt64)) :
    (ofList entries).size = (entries.map (·.1)).dedup.length := by
  have hperm : (ofList entries).keys.Perm (entries.map (·.1)).dedup := by
    rw [List.perm_ext_iff_of_nodup (keys_nodup _) (List.nodup_dedup _)]
    intro outcome
    rw [mem_keys_ofList, List.mem_dedup]
  rw [← hperm.length_eq, keys, List.length_map, size]

theorem count_of_mem {entry : String × UInt64} (h : entry ∈ histogram.entries) :
    histogram.count entry.1 = entry.2 := by
  rw [count, (mem_iff_lookup_eq_some histogram.sorted).mp h, Option.getD_some]

theorem toNat_count_ofList (h : (entries.map (·.2.toNat)).sum < UInt64.size)
    (outcome : String) :
    ((ofList entries).count outcome).toNat =
      ((entries.filter (·.1 = outcome)).map (·.2.toNat)).sum := by
  rw [toNat_count, tally_ofList _ h, tally_eq_sum]

theorem toNat_foldl_add {sum : UInt64}
    (h : sum.toNat + tally (fun _ => true) entries < UInt64.size) :
    (entries.foldl (fun sum entry => sum + entry.2) sum).toNat =
      sum.toNat + tally (fun _ => true) entries := by
  induction entries generalizing sum with
  | nil => rfl
  | cons entry rest ih =>
      simp only [tally, if_true] at h ⊢
      have hsum : (sum + entry.2).toNat = sum.toNat + entry.2.toNat := by
        rw [UInt64.toNat_add]
        exact Nat.mod_eq_of_lt (Nat.lt_of_le_of_lt (by omega) h)
      rw [List.foldl_cons, ih (by omega), hsum, Nat.add_assoc]

theorem toNat_shots_ofList (h : (entries.map (·.2.toNat)).sum < UInt64.size) :
    (ofList entries).shots.toNat = (entries.map (·.2.toNat)).sum := by
  have htotal : tally (fun _ => true) (ofList entries).entries = (entries.map (·.2.toNat)).sum := by
    rw [tally_ofList _ h, tally_all]
  have hfits : (0 : UInt64).toNat + tally (fun _ => true) (ofList entries).entries <
      UInt64.size := by
    rwa [UInt64.toNat_zero, Nat.zero_add, htotal]
  rw [shots, toNat_foldl_add hfits, UInt64.toNat_zero, Nat.zero_add, htotal]

/-- What a histogram tells of the outcomes it was given, if all counts together fit into a
word. Every outcome has the sum of the counts listed for it, and the shots are the sum of
all. The outcomes come in the order of their bytes, each of them once and with its count,
and they are the ones of the list, those with the count zero included; so there are as many
as different ones in the list. In whichever order the outcomes are recorded, the histogram
is the same. -/
theorem ofList_faithful (h : (entries.map (·.2.toNat)).sum < UInt64.size) :
    let histogram := ofList entries
    (∀ outcome, (histogram.count outcome).toNat =
      ((entries.filter (·.1 = outcome)).map (·.2.toNat)).sum) ∧
    histogram.shots.toNat = (entries.map (·.2.toNat)).sum ∧
    histogram.keys.Pairwise (fun one two => bytes one < bytes two) ∧
    (∀ outcome, outcome ∈ histogram.keys ↔ outcome ∈ entries.map (·.1)) ∧
    (∀ entry ∈ histogram.entries, histogram.count entry.1 = entry.2) ∧
    histogram.size = (entries.map (·.1)).dedup.length ∧
    ∀ recorded : List (String × UInt64), recorded.Perm entries →
      recorded.foldl (fun histogram (outcome, count) => histogram.record outcome count) empty =
        histogram := by
  intro histogram
  refine ⟨toNat_count_ofList h, toNat_shots_ofList h, ?_, fun outcome => mem_keys_ofList entries,
    fun entry => count_of_mem, size_ofList entries, fun recorded => ofList_perm⟩
  exact histogram.keys_sorted.imp lt_iff_bytes_lt.mp

/-- A repeated outcome, one with the count zero, and one whose character takes two bytes. -/
theorem ofList_faithful_repeated :
    let histogram := ofList [("é", 4), ("01", 3), ("1", 0), ("01", 2)]
    (histogram.count "01").toNat = 5 ∧ histogram.shots.toNat = 9 ∧
      "1" ∈ histogram.keys ∧ histogram.size = 3 ∧
      [("01", 2), ("1", 0), ("01", 3), ("é", 4)].foldl
        (fun histogram (outcome, count) => histogram.record outcome count) empty = histogram := by
  intro histogram
  have htotal : ([("é", 4), ("01", 3), ("1", 0), ("01", 2)].map
      fun entry : String × UInt64 => entry.2.toNat).sum < UInt64.size := by decide
  obtain ⟨hcount, hshots, -, hmem, -, hsize, hperm⟩ := ofList_faithful htotal
  refine ⟨(hcount "01").trans (by decide), hshots, (hmem "1").mpr (by decide), ?_, ?_⟩
  · exact hsize.trans (by decide)
  · exact hperm _ (by decide)

end GateGame.Histogram
