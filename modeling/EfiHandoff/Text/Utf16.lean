/-!
# UTF-16

Text as 16-bit units. Encoding never fails; decoding shows a surrogate without its partner as U+FFFD.
-/

set_option autoImplicit false

namespace EfiHandoff.Utf16

def replacement : Char := '\uFFFD'

/-- One unit below 0x10000, a surrogate pair from there on. -/
def encodeChar (char : Char) : List UInt16 :=
  if char.toNat < 0x10000 then [UInt16.ofNat char.toNat]
  else
    let excess := char.toNat - 0x10000
    [UInt16.ofNat (0xd800 + excess / 0x400), UInt16.ofNat (0xdc00 + excess % 0x400)]

def encode (text : List Char) : List UInt16 := text.flatMap encodeChar

def isHighSurrogate (unit : UInt16) : Bool := 0xd800 ≤ unit && unit < 0xdc00

def isLowSurrogate (unit : UInt16) : Bool := 0xdc00 ≤ unit && unit < 0xe000

def combine (high low : UInt16) : Char :=
  Char.ofNat (0x10000 + (high.toNat - 0xd800) * 0x400 + (low.toNat - 0xdc00))

/-- Decodes unit by unit. A high surrogate takes the next unit along only when that one is low. -/
def decode : List UInt16 → List Char
  | [] => []
  | unit :: rest =>
      if isHighSurrogate unit then
        match rest with
        | [] => [replacement]
        | next :: rest' =>
            if isLowSurrogate next then combine unit next :: decode rest'
            else replacement :: decode (next :: rest')
      else if isLowSurrogate unit then replacement :: decode rest
      else Char.ofNat unit.toNat :: decode rest

def untilNul (units : List UInt16) : List UInt16 := units.takeWhile (· ≠ 0)

def toBytes (units : List UInt16) : List UInt8 :=
  units.flatMap fun (unit : UInt16) => [unit.toUInt8, (unit >>> 8).toUInt8]

/-- Pairs of bytes as units, low byte first; an odd last byte is left out. -/
def ofBytes : List UInt8 → List UInt16
  | low :: high :: rest => (low.toUInt16 ||| (high.toUInt16 <<< 8)) :: ofBytes rest
  | _ => []

end EfiHandoff.Utf16
