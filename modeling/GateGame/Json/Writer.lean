namespace GateGame.Json

/-! Compact JSON output: no spaces, members in the order given, and of the
characters of a string only the two marks and the controls escaped. -/

def escape (c : Char) : List Char :=
  match c with
  | '"' => ['\\', '"']
  | '\\' => ['\\', '\\']
  | '\x08' => ['\\', 'b']
  | '\x0c' => ['\\', 'f']
  | '\n' => ['\\', 'n']
  | '\r' => ['\\', 'r']
  | '\t' => ['\\', 't']
  | c =>
      if c.toNat < 0x20 then
        ['\\', 'u', '0', '0', Nat.digitChar (c.toNat / 16), Nat.digitChar (c.toNat % 16)]
      else [c]

def quote (s : String) : String :=
  String.ofList ('"' :: s.toList.flatMap escape ++ ['"'])

def writeArray (elements : List String) : String :=
  "[" ++ ",".intercalate elements ++ "]"

def writeObject (members : List (String × String)) : String :=
  "\x7b" ++ ",".intercalate (members.map fun (key, value) => quote key ++ ":" ++ value) ++ "\x7d"

end GateGame.Json
