import RuleOrder.Text.Printable

namespace RuleOrder.Quoted

def hexDigits (n : Nat) : String := String.ofList (Nat.toDigits 16 n)

def escapeChar (c : Char) : String :=
  if c = '\x00' then "\\0"
  else if c = '\t' then "\\t"
  else if c = '\r' then "\\r"
  else if c = '\n' then "\\n"
  else if c = '"' then "\\\""
  else if c = '\\' then "\\\\"
  else if Printable.extendsGrapheme c || !Printable.isPrintable c then
    "\\u\x7b" ++ hexDigits c.toNat ++ "\x7d"
  else String.singleton c

def debug (s : String) : String := "\"" ++ String.join (s.toList.map escapeChar) ++ "\""

end RuleOrder.Quoted
