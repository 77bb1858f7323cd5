import GateGame.Histogram.Json
import GateGame.Proofs.Histogram.Merge
import GateGame.Proofs.Json.Counts
import GateGame.Proofs.Text.ByteOrder

namespace GateGame.Histogram

/-! Histograms from JSON. The members of an object are put one after another, so of a
repeated outcome the last count stays; a histogram repeats none, and is read back as it was
written. Then the outcomes are checked in their order, so what is refused is the least
outcome that is not made of bits. -/

/-- At least one character, and each of them a bit. -/
def IsBits (outcome : String) : Prop :=
  outcome ≠ "" ∧ ∀ c ∈ outcome.toList, c = '0' ∨ c = '1'

theorem isBitstring_iff (outcome : String) : isBitstring outcome = true ↔ IsBits outcome := by
  simp [isBitstring, IsBits]

theorem count?_put (histogram : Histogram) (key : String) (count : UInt64) (outcome : String) :
    (histogram.put key count).count? outcome =
      if outcome = key then some count else histogram.count? outcome :=
  lookup_upsert key histogram.sorted outcome

def putAll (histogram : Histogram) (entries : List (String × UInt64)) : Histogram :=
  entries.foldl (fun histogram entry => histogram.put entry.1 entry.2) histogram

variable {entries : List (String × UInt64)} {histogram : Histogram} {text : String}

/-- Of several counts for one outcome the last one stays. -/
theorem count?_putAll (histogram : Histogram) (entries : List (String × UInt64))
    (outcome : String) :
    (histogram.putAll entries).count? outcome =
      (entries.reverse.lookup outcome).or (histogram.count? outcome) := by
  induction entries generalizing histogram with
  | nil => rfl
  | cons entry entries ih =>
      have hput : histogram.putAll (entry :: entries) =
          (histogram.put entry.1 entry.2).putAll entries := rfl
      rw [hput, ih, count?_put, List.reverse_cons, List.lookup_append, Option.or_assoc,
        lookup_cons, List.lookup_nil]
      split <;> rfl

theorem lookup_reverse (h : entries.Pairwise (fun a b => a.1 < b.1)) (outcome : String) :
    entries.reverse.lookup outcome = entries.lookup outcome := by
  induction entries with
  | nil => rfl
  | cons entry entries ih =>
      obtain ⟨hfirst, hrest⟩ := List.pairwise_cons.mp h
      rw [List.reverse_cons, List.lookup_append, ih hrest, lookup_cons, lookup_cons,
        List.lookup_nil]
      by_cases houtcome : outcome = entry.1
      · subst houtcome
        rw [lookup_eq_none_of_lt hfirst, Option.none_or]
      · rw [if_neg houtcome, if_neg houtcome, Option.or_none]

theorem putAll_entries (histogram : Histogram) : empty.putAll histogram.entries = histogram := by
  apply ext_count?
  intro outcome
  rw [count?_putAll, lookup_reverse histogram.sorted]
  exact Option.or_none

theorem putMembers_member (histogram : Histogram) (entries : List (String × UInt64)) :
    putMembers histogram (entries.map Json.member) = some (histogram.putAll entries) := by
  induction entries generalizing histogram with
  | nil => rfl
  | cons entry entries ih =>
      rw [List.map_cons, Json.member, putMembers, Json.word?_numeralOf]
      exact ih (histogram.put entry.1 entry.2)

/-- Either all outcomes are made of bits and the histogram is the result, or the least
outcome, in the order of bytes, that is not made of bits is refused. -/
inductive Checked (histogram : Histogram) : Except Error Histogram → Prop
  | accepted (hbits : ∀ outcome ∈ histogram.entries.map (·.1), IsBits outcome) :
      Checked histogram (.ok histogram)
  | refused {outcome : String} (hmem : outcome ∈ histogram.entries.map (·.1))
      (hbits : ¬ IsBits outcome)
      (hleast : ∀ other ∈ histogram.entries.map (·.1), ¬ IsBits other →
        other = outcome ∨ bytes outcome < bytes other) :
      Checked histogram (.error (.invalidOutcome (.notBitstring outcome)))

theorem checked_checkOutcomes (histogram : Histogram) :
    histogram.Checked (do histogram.checkOutcomes; pure histogram) := by
  rw [checkOutcomes]
  cases hfind : histogram.entries.find? fun entry => !isBitstring entry.1 with
  | none =>
      refine .accepted fun outcome houtcome => ?_
      obtain ⟨entry, hentry, rfl⟩ := List.mem_map.mp houtcome
      have hbits := List.find?_eq_none.mp hfind entry hentry
      rw [← isBitstring_iff]
      simpa using hbits
  | some entry =>
      obtain ⟨hnot, before, after, hentries, hbefore⟩ := List.find?_eq_some_iff_append.mp hfind
      have hsorted := histogram.sorted
      rw [hentries, List.pairwise_append] at hsorted
      have hafter := (List.pairwise_cons.mp hsorted.2.1).1
      refine .refused ?_ ?_ ?_
      · rw [hentries]
        exact List.mem_map_of_mem (List.mem_append_right before List.mem_cons_self)
      · rw [← isBitstring_iff]
        simpa using hnot
      · intro other hother hbits
        obtain ⟨found, hfound, rfl⟩ := List.mem_map.mp hother
        rw [hentries] at hfound
        rcases List.mem_append.mp hfound with hmem | hmem
        · have hfine := hbefore found hmem
          rw [← isBitstring_iff] at hbits
          exact absurd (by simpa using hfine) hbits
        · rcases List.mem_cons.mp hmem with rfl | hmem
          · exact .inl rfl
          · exact .inr (lt_iff_bytes_lt.mp (hafter found hmem))

theorem read_of_countsText (h : Json.CountsText text.toList entries) :
    (empty.putAll entries).Checked (read text) := by
  rw [read, Json.parse?_countsText h]
  simp only [Option.bind_some, ofJson?, putMembers_member]
  exact checked_checkOutcomes _

theorem isBits_of_read (h : read text = .ok histogram) :
    ∀ outcome ∈ histogram.entries.map (·.1), IsBits outcome := by
  rw [read] at h
  split at h
  · contradiction
  · next found _ =>
    have hchecked := checked_checkOutcomes found
    rw [h] at hchecked
    cases hchecked with
    | accepted hbits => exact hbits

theorem countsText_json (histogram : Histogram) :
    Json.CountsText histogram.json.toList histogram.entries :=
  Json.countsText_writeObject histogram.entries

/-- What is written is read back if it is made of bits, and refused otherwise. Of every
text of counts, however spelled, the last count of an outcome is read; and whatever the
text, only outcomes made of bits are accepted. -/
theorem checked_read :
    (∀ histogram : Histogram, histogram.Checked (read histogram.json)) ∧
    (∀ text entries, Json.CountsText text.toList entries →
      ∃ histogram : Histogram,
        (∀ outcome, histogram.count? outcome = entries.reverse.lookup outcome) ∧
        histogram.Checked (read text)) ∧
    ∀ text histogram, read text = .ok histogram →
      ∀ outcome ∈ histogram.entries.map (·.1), IsBits outcome := by
  refine ⟨fun histogram => ?_, fun text entries htext => ?_, fun text histogram hread => ?_⟩
  · have hread := read_of_countsText (countsText_json histogram)
    rwa [putAll_entries] at hread
  · refine ⟨empty.putAll entries, fun outcome => ?_, read_of_countsText htext⟩
    rw [count?_putAll]
    exact Option.or_none
  · exact isBits_of_read hread

/-- A text with blanks and an escape that counts `1` twice. -/
def repeatedText : String := " \x7b\"\\u0031\" : 3, \"01\":2 ,\"1\":5\x7d"

theorem countsText_repeatedText :
    Json.CountsText repeatedText.toList [("1", 3), ("01", 2), ("1", 5)] := by
  have hnone := Json.isBlank_nil
  have hspace : Json.IsBlank [' '] := List.forall_mem_singleton.mpr rfl
  have hdigit {c : Char} (hc : c = '0' ∨ c = '1') {cs meant : List Char}
      (hrest : Json.Spelled cs meant) : Json.Spelled (c :: cs) (c :: meant) := by
    rcases hc with rfl | rfl <;> exact .plain (by decide) (by decide) (by decide) hrest
  have hfirst : Json.Spelled ['\\', 'u', '0', '0', '3', '1'] ['1'] := .unit rfl .nil
  have hsecond : Json.Spelled ['0', '1'] ['0', '1'] := hdigit (.inl rfl) (hdigit (.inr rfl) .nil)
  have hthird : Json.Spelled ['1'] ['1'] := hdigit (.inr rfl) .nil
  exact .members hspace
    (.cons (.mk hnone hfirst hspace hspace 3 hnone)
      (.cons (.mk hspace hsecond hnone hnone 2 hspace)
        (.last (.mk hnone hthird hnone hnone 5 hnone)))) hnone

theorem checked_read_repeated :
    ∃ histogram : Histogram, histogram.count? "1" = some 5 ∧ histogram.count? "01" = some 2 ∧
      read repeatedText = .ok histogram ∧
      ∀ outcome ∈ histogram.entries.map (·.1), IsBits outcome := by
  obtain ⟨-, hspelled, haccepted⟩ := checked_read
  obtain ⟨histogram, hcount, hchecked⟩ := hspelled _ _ countsText_repeatedText
  have hread : read repeatedText = .ok histogram := by
    generalize read repeatedText = result at hchecked
    cases hchecked with
    | accepted => rfl
    | @refused outcome hmem hbits _ =>
        have hsome := (isSome_count? histogram outcome).mpr hmem
        rw [hcount] at hsome
        have houtcome : outcome = "1" ∨ outcome = "01" := by
          by_contra hnot
          obtain ⟨hone, htwo⟩ := not_or.mp hnot
          simp [lookup_cons, hone, htwo] at hsome
        rw [← isBitstring_iff] at hbits
        rcases houtcome with rfl | rfl <;> exact absurd rfl hbits
  exact ⟨histogram, hcount "1", hcount "01", hread, haccepted _ _ hread⟩

end GateGame.Histogram
