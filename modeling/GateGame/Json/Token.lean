import GateGame.Json.Basic

namespace GateGame.Json

/-! The tokens of a JSON text. Between tokens only space, tab, line feed and
carriage return may stand. -/

inductive Token where
  | openBrace
  | closeBrace
  | openBracket
  | closeBracket
  | colon
  | comma
  | null
  | bool (value : Bool)
  | number (numeral : Numeral)
  | text (value : JsonText)

namespace Token

/-- What stands between the quotation marks: plain characters, and the 16-bit
units that hexadecimal escapes name. -/
inductive Piece where
  | char (c : Char)
  | unit (u : Nat)

def hexDigit? (c : Char) : Option Nat :=
  if '0' ≤ c ∧ c ≤ '9' then some (c.toNat - '0'.toNat)
  else if 'a' ≤ c ∧ c ≤ 'f' then some (c.toNat - 'a'.toNat + 10)
  else if 'A' ≤ c ∧ c ≤ 'F' then some (c.toNat - 'A'.toNat + 10)
  else none

def hexUnit? (a b c d : Char) : Option Nat := do
  pure (((← hexDigit? a) * 16 + (← hexDigit? b)) * 256 + (← hexDigit? c) * 16 + (← hexDigit? d))

def simpleEscape? : Char → Option Char
  | '"' => some '"'
  | '\\' => some '\\'
  | '/' => some '/'
  | 'b' => some '\x08'
  | 'f' => some '\x0c'
  | 'n' => some '\n'
  | 'r' => some '\r'
  | 't' => some '\t'
  | _ => none

/-- Reads the inside of a string and its closing mark; a control character or
an escape of any other form is refused. -/
def readPieces : List Char → Option (List Piece × List Char)
  | [] => none
  | '"' :: rest => some ([], rest)
  | '\\' :: 'u' :: a :: b :: c :: d :: rest => do
      let u ← hexUnit? a b c d
      let (pieces, rest) ← readPieces rest
      pure (.unit u :: pieces, rest)
  | '\\' :: e :: rest => do
      let c ← simpleEscape? e
      let (pieces, rest) ← readPieces rest
      pure (.char c :: pieces, rest)
  | c :: rest =>
      if c.toNat < 0x20 then none
      else do
        let (pieces, rest) ← readPieces rest
        pure (.char c :: pieces, rest)

/-- Joins surrogate pairs into characters; a lone half has no text. -/
def assemble : List Piece → Option (List Char)
  | [] => some []
  | .char c :: rest => (assemble rest).map (c :: ·)
  | .unit high :: .unit low :: rest =>
      if 0xD800 ≤ high ∧ high < 0xDC00 ∧ 0xDC00 ≤ low ∧ low < 0xE000 then
        (assemble rest).map
          (Char.ofNat (0x10000 + (high - 0xD800) * 0x400 + (low - 0xDC00)) :: ·)
      else if 0xD800 ≤ high ∧ high < 0xE000 then none
      else (assemble (.unit low :: rest)).map (Char.ofNat high :: ·)
  | .unit u :: rest =>
      if 0xD800 ≤ u ∧ u < 0xE000 then none
      else (assemble rest).map (Char.ofNat u :: ·)

def readDigits : List Char → List Nat × List Char
  | [] => ([], [])
  | c :: rest =>
      if c.isDigit then
        let (digits, after) := readDigits rest
        ((c.toNat - '0'.toNat) :: digits, after)
      else ([], c :: rest)

def ofDigits (digits : List Nat) : Nat :=
  digits.foldl (fun value digit => value * 10 + digit) 0

def readFraction : List Char → Option (List Nat × List Char)
  | '.' :: rest =>
      match readDigits rest with
      | ([], _) => none
      | digits => some digits
  | rest => some ([], rest)

def readExponentDigits (negative : Bool) (cs : List Char) :
    Option (Option Int × List Char) :=
  match readDigits cs with
  | ([], _) => none
  | (digits, rest) =>
      let size : Int := ofDigits digits
      some (some (if negative then -size else size), rest)

def readExponent : List Char → Option (Option Int × List Char)
  | 'e' :: '-' :: rest | 'E' :: '-' :: rest => readExponentDigits true rest
  | 'e' :: '+' :: rest | 'E' :: '+' :: rest => readExponentDigits false rest
  | 'e' :: rest | 'E' :: rest => readExponentDigits false rest
  | rest => some (none, rest)

/-- Reads what follows the sign: no digit may follow a leading zero. -/
def readUnsigned (negative : Bool) (cs : List Char) :
    Option (Numeral × List Char) := do
  let (whole, rest) ←
    match readDigits cs with
    | ([], _) => none
    | (0 :: _ :: _, _) => none
    | digits => some digits
  let (fraction, rest) ← readFraction rest
  let (exponent, rest) ← readExponent rest
  pure ({ negative, whole, fraction, exponent }, rest)

def read (c : Char) (rest : List Char) : Option (Token × List Char) :=
  match c, rest with
  | '\x7b', rest => some (.openBrace, rest)
  | '\x7d', rest => some (.closeBrace, rest)
  | '[', rest => some (.openBracket, rest)
  | ']', rest => some (.closeBracket, rest)
  | ':', rest => some (.colon, rest)
  | ',', rest => some (.comma, rest)
  | 'n', 'u' :: 'l' :: 'l' :: rest => some (.null, rest)
  | 't', 'r' :: 'u' :: 'e' :: rest => some (.bool true, rest)
  | 'f', 'a' :: 'l' :: 's' :: 'e' :: rest => some (.bool false, rest)
  | '"', rest =>
      (readPieces rest).map fun (pieces, rest) =>
        (.text ((assemble pieces).map String.ofList), rest)
  | '-', rest =>
      (readUnsigned true rest).map fun (numeral, rest) => (.number numeral, rest)
  | c, rest =>
      (readUnsigned false (c :: rest)).map fun (numeral, rest) => (.number numeral, rest)

def isSpace (c : Char) : Bool :=
  c == ' ' || c == '\t' || c == '\n' || c == '\r'

def splitWithin : Nat → List Char → Option (List Token)
  | _, [] => some []
  | 0, _ :: _ => none
  | steps + 1, c :: rest =>
      if isSpace c then splitWithin steps rest
      else
        match read c rest with
        | none => none
        | some (token, rest) => (splitWithin steps rest).map (token :: ·)

def split (cs : List Char) : Option (List Token) :=
  splitWithin cs.length cs

end Token

end GateGame.Json
