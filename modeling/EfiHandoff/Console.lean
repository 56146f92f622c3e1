import EfiHandoff.Journal
import EfiHandoff.Text.Utf16

/-!
# The console

Where journal entries become text: which of them pass the level, how a line looks, and how a text is handed to
the firmware console piece by piece through a small buffer.
-/

set_option autoImplicit false

namespace EfiHandoff

namespace Level

/-- The rank of the most talkative level that passes; nothing passes without one. -/
def ceiling : Option Level → Nat
  | none => 0
  | some level => level.rank

def passes (level : Level) (maximum : Option Level) : Bool := level.rank ≤ ceiling maximum

/-- The more talkative of two maximum levels. -/
def raise (maximum wanted : Option Level) : Option Level :=
  if ceiling maximum < ceiling wanted then wanted else maximum

def coloured : Level → String
  | .error => "\x1b[31mERROR\x1b[0m"
  | .warn => "\x1b[33mWARN\x1b[0m "
  | .info => "\x1b[32mINFO\x1b[0m "
  | .debug => "\x1b[34mDEBUG\x1b[0m"
  | .trace => "\x1b[35mTRACE\x1b[0m"

end Level

namespace Entry

def line (entry : Entry) : String :=
  s!"[{entry.level.coloured}] {entry.target}: {entry.message}\r\n"

end Entry

def Journal.lines (journal : Journal) (maximum : Option Level) : List String :=
  (journal.filter (·.level.passes maximum)).map Entry.line

/-- The state of the console logger: how talkative it is. Its sink is installed once and for all. -/
structure Console where
  maximum : Option Level
deriving DecidableEq, Repr

namespace Console

def setLevel (_ : Console) (level : Option Level) : Console := ⟨level⟩

/-- Turns the level up to `level`; a console that is more talkative already stays so. -/
def raiseLevel (console : Console) (level : Option Level) : Console :=
  ⟨Level.raise console.maximum level⟩

def write (console : Console) (entry : Entry) : String :=
  if entry.level.passes console.maximum then entry.line else ""

/-- Sets the console up once more: the sink stays, which is reported at the old level, and the new level
holds from then on. -/
def setUpAgain (console : Console) (level : Option Level) : Console × String :=
  (⟨level⟩, console.write (Origin.console.debug "Chainload: Logger already installed"))

end Console

/-- A console together with the text it wrote so far. -/
structure Transcript where
  console : Console
  text : String := ""

namespace Transcript

def record (transcript : Transcript) (journal : Journal) : Transcript :=
  let added := String.join (journal.lines transcript.console.maximum)
  { transcript with text := transcript.text ++ added }

def raiseLevel (transcript : Transcript) (level : Option Level) : Transcript :=
  { transcript with console := transcript.console.raiseLevel level }

/-- The text cut behind every line end. -/
def lines (transcript : Transcript) : List String :=
  let parts := transcript.text.splitOn "\r\n"
  parts.dropLast.map (· ++ "\r\n") ++ parts.getLast?.toList.filter (· ≠ "")

end Transcript

/-- The buffer through which text reaches the firmware console: units not yet handed over, and behind them
whatever earlier pieces left. One place more than a piece holds is kept for the terminating NUL. -/
structure ConsoleBuffer where
  cells : Array UInt16
  used : Nat

namespace ConsoleBuffer

def capacity : Nat := 64

def empty : ConsoleBuffer := ⟨Array.replicate (capacity + 1) 0, 0⟩

def push (buffer : ConsoleBuffer) (unit : UInt16) : ConsoleBuffer :=
  ⟨buffer.cells.setIfInBounds buffer.used unit, buffer.used + 1⟩

def terminated (buffer : ConsoleBuffer) : Array UInt16 :=
  buffer.cells.setIfInBounds buffer.used 0

/-- The buffer after it was handed over. Its old units stay in the cells. -/
def flushed (buffer : ConsoleBuffer) : ConsoleBuffer := ⟨buffer.terminated, 0⟩

/-- Feeds units through the buffer and collects the cells of every handover: one whenever a piece is full,
and one for what is left. -/
def handOver (buffer : ConsoleBuffer) : List UInt16 → List (Array UInt16)
  | [] => if buffer.used = 0 then [] else [buffer.terminated]
  | unit :: rest =>
      let filled := buffer.push unit
      if filled.used = capacity then filled.terminated :: handOver filled.flushed rest
      else handOver filled rest

/-- What the console shows of the cells handed over: the units before the first NUL. -/
def shown (cells : Array UInt16) : List UInt16 := Utf16.untilNul cells.toList

end ConsoleBuffer

/-- The buffers handed to the firmware console for one text, none without a console. -/
def Console.pieces (present : Bool) (text : String) : List (Array UInt16) :=
  if present then ConsoleBuffer.empty.handOver (Utf16.encode text.toList) else []

end EfiHandoff
