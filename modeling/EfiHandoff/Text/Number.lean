/-!
# Numbers in text

Hexadecimal text as log lines and messages show it, and the reading of unsigned 64-bit numbers.
-/

set_option autoImplicit false

namespace EfiHandoff.Text

def hexDigits (value : Nat) : String := String.ofList (Nat.toDigits 16 value)

def hex (value : Nat) : String := "0x" ++ hexDigits value

def hexPadded (digits value : Nat) : String :=
  let shown := hexDigits value
  "0x" ++ String.ofList (List.replicate (digits - shown.length) '0') ++ shown

def digitValue? (base : Nat) (char : Char) : Option Nat :=
  let value? :=
    if '0' ≤ char ∧ char ≤ '9' then some (char.toNat - '0'.toNat)
    else if 'a' ≤ char ∧ char ≤ 'z' then some (char.toNat - 'a'.toNat + 10)
    else if 'A' ≤ char ∧ char ≤ 'Z' then some (char.toNat - 'A'.toNat + 10)
    else none
  value?.filter (· < base)

/-- Reads digits after those whose value is `acc`, refusing a value of `limit` or more. -/
def readDigits? (base limit : Nat) (acc : Nat) : List Char → Option Nat
  | [] => some acc
  | char :: rest => do
      let digit ← digitValue? base char
      let value := base * acc + digit
      if value < limit then readDigits? base limit value rest else none

/-- Reads an unsigned number below `limit`: an optional plus sign and at least one digit. -/
def readUnsigned? (base limit : Nat) (text : List Char) : Option Nat :=
  let digits := match text with
    | '+' :: rest => rest
    | _ => text
  if digits.isEmpty then none else readDigits? base limit 0 digits

end EfiHandoff.Text
