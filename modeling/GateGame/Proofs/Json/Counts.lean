import GateGame.Json.Parser
import GateGame.Proofs.Json.Lexing

namespace GateGame.Json

/-! The texts of an object that maps strings to counts: each string in any spelling, each
count as its decimal digits, and blanks wherever the standard allows them. Every such text
is parsed to its members, in their order and with their repetitions. -/

open Token

/-- A member as it may be written. -/
inductive MemberText : List Char → String × UInt64 → Prop
  | mk {before between behind after key meant : List Char} (hbefore : IsBlank before)
      (hkey : Spelled key meant) (hbetween : IsBlank between) (hbehind : IsBlank behind)
      (count : UInt64) (hafter : IsBlank after) :
      MemberText
        (before ++ '"' :: (key ++ '"' :: (between ++ ':' ::
          (behind ++ (Nat.toDigits 10 count.toNat ++ after)))))
        (String.ofList meant, count)

/-- Members with commas between them. -/
inductive MembersText : List Char → List (String × UInt64) → Prop
  | last {cs : List Char} {entry : String × UInt64} (h : MemberText cs entry) :
      MembersText cs [entry]
  | cons {cs rest : List Char} {entry : String × UInt64} {entries : List (String × UInt64)}
      (h : MemberText cs entry) (hrest : MembersText rest entries) :
      MembersText (cs ++ ',' :: rest) (entry :: entries)

/-- A text of an object that maps strings to counts. -/
inductive CountsText : List Char → List (String × UInt64) → Prop
  | empty {before within after : List Char} (hbefore : IsBlank before) (hwithin : IsBlank within)
      (hafter : IsBlank after) :
      CountsText (before ++ '\x7b' :: (within ++ '\x7d' :: after)) []
  | members {before cs after : List Char} {entries : List (String × UInt64)}
      (hbefore : IsBlank before) (h : MembersText cs entries) (hafter : IsBlank after) :
      CountsText (before ++ '\x7b' :: (cs ++ '\x7d' :: after)) entries

def memberTokens (entry : String × UInt64) : List Token :=
  [.text (some entry.1), .colon, .number (numeralOf entry.2.toNat)]

def membersTokens : List (String × UInt64) → List Token
  | [] => []
  | [entry] => memberTokens entry
  | entry :: next :: rest => memberTokens entry ++ .comma :: membersTokens (next :: rest)

def member (entry : String × UInt64) : JsonText × Json :=
  (some entry.1, .number (numeralOf entry.2.toNat))

variable {cs rest blanks : List Char} {tokens : List Token} {entry : String × UInt64}
  {entries : List (String × UInt64)}

theorem EndsNumber.blank (h : EndsNumber rest) (hblank : IsBlank blanks) :
    EndsNumber (blanks ++ rest) := by
  cases blanks with
  | nil => exact h
  | cons c blanks =>
      rintro c' ⟨rfl⟩
      exact .inl (hblank c List.mem_cons_self)

theorem endsNumber_comma (rest : List Char) : EndsNumber (',' :: rest) := by
  rintro c ⟨rfl⟩
  exact .inr (.inl rfl)

theorem endsNumber_brace (rest : List Char) : EndsNumber ('\x7d' :: rest) := by
  rintro c ⟨rfl⟩
  exact .inr (.inr rfl)

theorem MemberText.splits (h : MemberText cs entry) (hrest : Splits rest tokens)
    (hends : EndsNumber rest) : Splits (cs ++ rest) (memberTokens entry ++ tokens) := by
  cases h with
  | mk hbefore hkey hbetween hbehind count hafter =>
      have hnumber := (hrest.blank hafter).number count.toNat (hends.blank hafter)
      have hcolon : Splits (':' :: _) (.colon :: _) := (hnumber.blank hbehind).mark rfl rfl
      have hmember := ((hcolon.blank hbetween).text hkey).blank hbefore
      simpa only [memberTokens, List.append_assoc, List.cons_append, List.nil_append] using hmember

theorem membersTokens_cons (entry : String × UInt64) (h : entries ≠ []) :
    membersTokens (entry :: entries) = memberTokens entry ++ .comma :: membersTokens entries := by
  cases entries with
  | nil => contradiction
  | cons next rest => rfl

theorem MembersText.ne_nil (h : MembersText cs entries) : entries ≠ [] := by
  cases h <;> exact List.cons_ne_nil _ _

theorem MembersText.splits (h : MembersText cs entries) (hrest : Splits rest tokens)
    (hends : EndsNumber rest) : Splits (cs ++ rest) (membersTokens entries ++ tokens) := by
  induction h with
  | last h => exact h.splits hrest hends
  | cons h hmembers ih =>
      have hcomma : Splits (',' :: _) (.comma :: _) := ih.mark rfl rfl
      have hmember := h.splits hcomma (endsNumber_comma _)
      rw [membersTokens_cons _ hmembers.ne_nil]
      simpa only [List.append_assoc, List.cons_append, List.nil_append] using hmember

theorem CountsText.splits (h : CountsText cs entries) :
    Splits cs (.openBrace :: (membersTokens entries ++ [.closeBrace])) := by
  have hend {after : List Char} (hafter : IsBlank after) :
      Splits ('\x7d' :: after) [.closeBrace] := by
    have hblank := splits_nil.blank hafter
    rw [List.append_nil] at hblank
    exact hblank.mark rfl rfl
  cases h with
  | empty hbefore hwithin hafter =>
      have hopen : Splits ('\x7b' :: _) (.openBrace :: _) :=
        ((hend hafter).blank hwithin).mark rfl rfl
      exact hopen.blank hbefore
  | members hbefore hmembers hafter =>
      have hopen : Splits ('\x7b' :: _) (.openBrace :: _) :=
        (hmembers.splits (hend hafter) (endsNumber_brace _)).mark rfl rfl
      exact hopen.blank hbefore

theorem build_members (finished : List (JsonText × Json)) (entry : String × UInt64)
    (entries : List (String × UInt64)) :
    build [] (.key finished) (membersTokens (entry :: entries) ++ [.closeBrace]) =
      some (.object (finished.reverse ++ (entry :: entries).map member)) := by
  induction entries generalizing finished entry with
  | nil =>
      have hbuild : build [] (.key finished) (membersTokens [entry] ++ [.closeBrace]) =
          some (.object (member entry :: finished).reverse) := rfl
      rw [hbuild, List.reverse_cons]
      rfl
  | cons next entries ih =>
      have hbuild : build [] (.key finished)
          (membersTokens (entry :: next :: entries) ++ [.closeBrace]) =
            build [] (.key (member entry :: finished))
              (membersTokens (next :: entries) ++ [.closeBrace]) := rfl
      rw [hbuild, ih, List.reverse_cons, List.append_assoc]
      rfl

theorem build_object (entries : List (String × UInt64)) :
    build [] .value (.openBrace :: (membersTokens entries ++ [.closeBrace])) =
      some (.object (entries.map member)) := by
  cases entries with
  | nil => rfl
  | cons entry entries =>
      have hbuild : build [] .value
          (.openBrace :: (membersTokens (entry :: entries) ++ [.closeBrace])) =
            build [] (.key []) (membersTokens (entry :: entries) ++ [.closeBrace]) := by
        cases entries <;> rfl
      rw [hbuild, build_members]
      rfl

theorem parse?_countsText {text : String} (h : CountsText text.toList entries) :
    parse? text = some (.object (entries.map member)) := by
  rw [parse?, h.splits.split]
  exact build_object entries

def writeMember (entry : String × UInt64) : String :=
  quote entry.1 ++ ":" ++ toString entry.2.toNat

theorem memberText_writeMember (entry : String × UInt64) :
    MemberText (writeMember entry).toList entry := by
  have hmember := MemberText.mk isBlank_nil (spelled_escape entry.1.toList) isBlank_nil
    isBlank_nil entry.2 isBlank_nil
  rw [String.ofList_toList] at hmember
  simpa [writeMember, quote, String.toList_append, toList_toString] using hmember

theorem membersText_write (entry : String × UInt64) (entries : List (String × UInt64)) :
    MembersText (",".intercalate ((entry :: entries).map writeMember)).toList
      (entry :: entries) := by
  induction entries generalizing entry with
  | nil =>
      have hmember := memberText_writeMember entry
      simpa [String.toList_intercalate] using MembersText.last hmember
  | cons next entries ih =>
      have hmembers := MembersText.cons (memberText_writeMember entry) (ih next)
      simpa [String.toList_intercalate] using hmembers

/-- The writer writes one of the texts of the object. -/
theorem countsText_writeObject (entries : List (String × UInt64)) :
    CountsText (writeObject (entries.map fun entry =>
      (entry.1, toString entry.2.toNat))).toList entries := by
  have hobject : writeObject (entries.map fun entry => (entry.1, toString entry.2.toNat)) =
      "\x7b" ++ ",".intercalate (entries.map writeMember) ++ "\x7d" := by
    rw [writeObject, List.map_map]
    rfl
  rw [hobject]
  cases entries with
  | nil => exact .empty isBlank_nil isBlank_nil isBlank_nil
  | cons entry entries =>
      have hmembers :=
        CountsText.members isBlank_nil (membersText_write entry entries) isBlank_nil
      simpa [String.toList_append] using hmembers

end GateGame.Json
