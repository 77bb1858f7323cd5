import GateGame.Text.Unprinted

namespace GateGame.Text

/-! Characters and strings as a message quotes them: between quotation marks,
with a backslash before the mark that encloses them, short escapes for the usual
controls, and the code point in hexadecimal for what would not be seen. -/

def hexadecimal (n : Nat) : List Char :=
  Nat.toDigits 16 n

def escape (mark c : Char) : List Char :=
  match c with
  | '\x00' => ['\\', '0']
  | '\t' => ['\\', 't']
  | '\n' => ['\\', 'n']
  | '\r' => ['\\', 'r']
  | '\\' => ['\\', '\\']
  | c =>
      if c = mark then ['\\', c]
      else if isUnprinted c then
        ['\\', 'u', '\x7b'] ++ hexadecimal c.toNat ++ ['\x7d']
      else [c]

def quotedChar (c : Char) : String :=
  String.ofList ('\'' :: escape '\'' c ++ ['\''])

def quotedString (s : String) : String :=
  String.ofList ('"' :: s.toList.flatMap (escape '"') ++ ['"'])

end GateGame.Text
