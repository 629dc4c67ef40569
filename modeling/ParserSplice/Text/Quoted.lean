import ParserSplice.Text.Hex
import ParserSplice.Unicode.Visible

set_option autoImplicit false

namespace ParserSplice.Quoted

/-- Whether a character stands for itself. -/
def isPlain (c : Char) : Bool :=
  if c.toNat < 127 then decide (32 ≤ c.toNat)
  else Unicode.visible.contains c.toNat

/-- A character as it is written between quotes. -/
def escape (c : Char) : List Char :=
  if c = '"' then ['\\', '"']
  else if c = '\\' then ['\\', '\\']
  else if c = '\n' then ['\\', 'n']
  else if c = '\r' then ['\\', 'r']
  else if c = '\t' then ['\\', 't']
  else if c.toNat = 0 then ['\\', '0']
  else if isPlain c then [c]
  else '\\' :: 'u' :: '\x7b' :: Nat.toDigits 16 c.toNat ++ ['\x7d']

def encode (text : String) : String :=
  String.ofList ('"' :: text.toList.flatMap escape ++ ['"'])

end ParserSplice.Quoted
