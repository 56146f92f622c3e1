import EfiHandoff.Buffer
import EfiHandoff.Journal
import EfiHandoff.Text.Blank
import EfiHandoff.Text.Quoted

/-!
# Settings

How the loader is configured, and the reading of the settings from the variables of the boot environment.
A value that cannot be read leaves its setting alone and is reported.
-/

set_option autoImplicit false

namespace EfiHandoff

structure Settings where
  /-- Take the validated way even when secure boot is off, and verify nothing. -/
  forceValidated : Bool := false
  /-- The least level of reporting; none turns nothing on. -/
  level : Option Level := some .info
  maxImageSize : UInt64 := 0x10000000
  universalBinaries : Bool := true
deriving DecidableEq, Repr

namespace Settings

def flag? (value : List Char) : Option Bool :=
  let word := String.ofList (Text.trim value)
  if word ∈ ["1", "true", "yes", "on"] then some true
  else if word ∈ ["0", "false", "no", "off"] then some false
  else none

/-- A size in decimal, or in hexadecimal after `0x` or `0X`. -/
def size? (value : List Char) : Option Nat :=
  match Text.trim value with
  | '0' :: 'x' :: digits | '0' :: 'X' :: digits => Text.readUnsigned? 16 wordLimit digits
  | digits => Text.readUnsigned? 10 wordLimit digits

def isSeparator (char : Char) : Bool := char == ',' || char == ' '

/-- The pieces between the separators of a list, empty ones included. -/
def pieces : List Char → List (List Char)
  | [] => [[]]
  | char :: rest =>
      if isSeparator char then [] :: pieces rest
      else
        match pieces rest with
        | [] => [[char]]
        | piece :: others => (char :: piece) :: others

def namesLoader (value : List Char) : Bool :=
  (pieces value).any fun piece => piece == "chain".toList || piece == "all".toList

def ignored (name : String) (value : List Char) : Entry :=
  Origin.settings.warn s!"Chainload: Ignoring {name}={Text.quoted value}"

def withDebug (settings : Settings) : Option (List Char) → Settings
  | some value => if namesLoader value then { settings with level := some .debug } else settings
  | none => settings

def withForce (settings : Settings) : Option (List Char) → Settings × Journal
  | none => (settings, [])
  | some value =>
      match flag? value with
      | some flag => ({ settings with forceValidated := flag }, [])
      | none => (settings, [ignored "chain_debug_secureboot" value])

/-- Applies the variable that limits the file size; zero is no limit. -/
def withLimit (settings : Settings) : Option (List Char) → Settings × Journal
  | none => (settings, [])
  | some value =>
      match size? value with
      | some size =>
          if size = 0 then (settings, [ignored "chain_max_image_size" value])
          else ({ settings with maxImageSize := UInt64.ofNat size }, [])
      | none => (settings, [ignored "chain_max_image_size" value])

def ofEnvironment (lookup : String → Option (List Char)) : Settings × Journal :=
  let (forced, forceJournal) :=
    (({} : Settings).withDebug (lookup "debug")).withForce (lookup "chain_debug_secureboot")
  let (limited, limitJournal) := forced.withLimit (lookup "chain_max_image_size")
  (limited, forceJournal ++ limitJournal)

end Settings

end EfiHandoff
