namespace GateGame

/-! Histograms: how often each outcome, a string of bits, was seen. Outcomes are
kept once each and in increasing order, so equal counts are equal histograms. -/

structure Histogram where
  entries : List (String × UInt64)
  sorted : entries.Pairwise (fun a b => a.1 < b.1)

namespace Histogram

def upsert (key : String) (change : Option UInt64 → UInt64) :
    List (String × UInt64) → List (String × UInt64)
  | [] => [(key, change none)]
  | (k, count) :: rest =>
      if key < k then (key, change none) :: (k, count) :: rest
      else if k < key then (k, count) :: upsert key change rest
      else (key, change (some count)) :: rest

theorem upsert_key {key : String} {change : Option UInt64 → UInt64}
    {entries : List (String × UInt64)} {entry : String × UInt64}
    (h : entry ∈ upsert key change entries) :
    entry.1 = key ∨ ∃ old ∈ entries, old.1 = entry.1 := by
  induction entries with
  | nil => simp_all [upsert]
  | cons head rest ih =>
    obtain ⟨k, count⟩ := head
    simp only [upsert] at h
    split at h
    · rcases List.mem_cons.mp h with rfl | h
      · exact .inl rfl
      · exact .inr ⟨entry, h, rfl⟩
    · split at h
      · rcases List.mem_cons.mp h with rfl | h
        · exact .inr ⟨(k, count), by simp, rfl⟩
        · rcases ih h with h | ⟨old, hold, heq⟩
          · exact .inl h
          · exact .inr ⟨old, List.mem_cons_of_mem _ hold, heq⟩
      · rcases List.mem_cons.mp h with rfl | h
        · exact .inl rfl
        · exact .inr ⟨entry, List.mem_cons_of_mem _ h, rfl⟩

theorem upsert_sorted {key : String} {change : Option UInt64 → UInt64}
    {entries : List (String × UInt64)} (h : entries.Pairwise (fun a b => a.1 < b.1)) :
    (upsert key change entries).Pairwise (fun a b => a.1 < b.1) := by
  induction entries with
  | nil => simp [upsert]
  | cons head rest ih =>
    obtain ⟨k, count⟩ := head
    have hrest := List.pairwise_cons.mp h
    simp only [upsert]
    split
    · next hlt =>
      refine List.pairwise_cons.mpr ⟨fun entry hentry => ?_, h⟩
      rcases List.mem_cons.mp hentry with rfl | hentry
      · exact hlt
      · exact String.lt_trans hlt (hrest.1 entry hentry)
    · next hnot =>
      split
      · next hlt =>
        refine List.pairwise_cons.mpr ⟨fun entry hentry => ?_, ih hrest.2⟩
        rcases upsert_key hentry with heq | ⟨old, hold, heq⟩
        · exact heq ▸ hlt
        · exact heq ▸ hrest.1 old hold
      · next hnot' =>
        have hk : k = key :=
          String.le_antisymm (String.not_lt.mp hnot) (String.not_lt.mp hnot')
        exact List.pairwise_cons.mpr ⟨hk ▸ hrest.1, hrest.2⟩

def empty : Histogram := ⟨[], .nil⟩

/-- Adds to the count of an outcome, modulo `2 ^ 64`. -/
def record (histogram : Histogram) (outcome : String) (count : UInt64) : Histogram where
  entries := upsert outcome (fun old => old.getD 0 + count) histogram.entries
  sorted := upsert_sorted histogram.sorted

def put (histogram : Histogram) (outcome : String) (count : UInt64) : Histogram where
  entries := upsert outcome (fun _ => count) histogram.entries
  sorted := upsert_sorted histogram.sorted

def ofList (outcomes : List (String × UInt64)) : Histogram :=
  outcomes.foldl (fun histogram (outcome, count) => histogram.record outcome count) empty

def count (histogram : Histogram) (outcome : String) : UInt64 :=
  (histogram.entries.lookup outcome).getD 0

def size (histogram : Histogram) : Nat :=
  histogram.entries.length

def isEmpty (histogram : Histogram) : Bool :=
  histogram.entries.isEmpty

def shots (histogram : Histogram) : UInt64 :=
  histogram.entries.foldl (fun sum entry => sum + entry.2) 0

def text (histogram : Histogram) : String :=
  s!"Outcome Frequencies ({histogram.shots.toNat} shots):\n" ++
    if histogram.isEmpty then "  No outcomes recorded.\n"
    else String.join (histogram.entries.map fun (outcome, count) =>
      s!"  {outcome}: {count.toNat}\n")

end Histogram

end GateGame
