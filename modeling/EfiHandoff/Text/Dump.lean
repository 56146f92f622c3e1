import EfiHandoff.Buffer
import EfiHandoff.Text.Number

/-!
# Buffers as text

A short notation for the contents of a buffer: tokens with a blank between them, each of them pairs of
hexadecimal digits, or one pair, a star and how often that byte follows itself. What is written has a token of
its own for every run of eight equal bytes or more; what is read may mix both forms at will.
-/

set_option autoImplicit false

namespace EfiHandoff.Text

/-- Reads pairs of digits behind what was read before. A digit without a partner is left out. -/
def readPairs (before : Buffer) : List Char → Buffer
  | high :: low :: rest =>
      let byte := 16 * (digitValue? 16 high).getD 0 + (digitValue? 16 low).getD 0
      readPairs (before.push (UInt8.ofNat byte)) rest
  | _ => before

def readToken (before : Buffer) (token : String) : Buffer :=
  match token.splitOn "*" with
  | [pair, count] =>
      let byte := (readPairs #[] pair.toList).getD 0 0
      before ++ Array.replicate (count.toNat?.getD 0) byte
  | _ => readPairs before token.toList

def readBuffer (text : String) : Buffer := (text.splitOn " ").foldl readToken #[]

structure ByteRun where
  byte : UInt8
  length : Nat
deriving DecidableEq, Repr

def ByteRun.join (byte : UInt8) : List ByteRun → List ByteRun
  | [] => [⟨byte, 1⟩]
  | run :: rest =>
      if run.byte = byte then ⟨byte, run.length + 1⟩ :: rest else ⟨byte, 1⟩ :: run :: rest

def runs (buffer : Buffer) : List ByteRun := buffer.foldr ByteRun.join []

def longRun : Nat := 8

def pair (byte : UInt8) : String := hexDigits (byte.toNat / 16) ++ hexDigits (byte.toNat % 16)

def tokens (pending : String) : List ByteRun → List String
  | [] => if pending.isEmpty then [] else [pending]
  | run :: rest =>
      if longRun ≤ run.length then
        let token := s!"{pair run.byte}*{run.length}"
        if pending.isEmpty then token :: tokens "" rest else pending :: token :: tokens "" rest
      else tokens (pending ++ String.join (List.replicate run.length (pair run.byte))) rest

def showBuffer (buffer : Buffer) : String := " ".intercalate (tokens "" (runs buffer))

end EfiHandoff.Text
