import EfiHandoff.Text.Invisible
import EfiHandoff.Text.Number

/-!
# Quoted text

Text between double quotes in which every character can be read back: quotes, backslashes and the common
controls by a short escape, anything else without a shape of its own by its number.
-/

set_option autoImplicit false

namespace EfiHandoff.Text

def quotedChar (char : Char) : String :=
  if char = '\x00' then "\\0"
  else if char = '\t' then "\\t"
  else if char = '\r' then "\\r"
  else if char = '\n' then "\\n"
  else if char = '"' then "\\\""
  else if char = '\\' then "\\\\"
  else if char.toNat < 0x20 || isInvisible char then "\\u\x7b" ++ hexDigits char.toNat ++ "\x7d"
  else String.singleton char

def quoted (text : List Char) : String :=
  "\"" ++ String.join (text.map quotedChar) ++ "\""

end EfiHandoff.Text
