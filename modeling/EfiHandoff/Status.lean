/-!
# Status words

The 64-bit result of a firmware call. Only zero is success; a warning counts as a failure everywhere.
-/

set_option autoImplicit false

namespace EfiHandoff

/-- What a firmware call returned. Error codes have the top bit set. -/
structure Status where
  code : UInt64
deriving DecidableEq, Repr

namespace Status

def failure (number : UInt64) : Status := ⟨0x8000000000000000 + number⟩

def success : Status := ⟨0⟩
def loadError : Status := failure 1
def invalidParameter : Status := failure 2
def unsupported : Status := failure 3
def badBufferSize : Status := failure 4
def bufferTooSmall : Status := failure 5
def outOfResources : Status := failure 9
def notFound : Status := failure 14
def securityViolation : Status := failure 26

def isSuccess (status : Status) : Bool := status == success

def toExcept (status : Status) : Except Status Unit :=
  if status.isSuccess then .ok () else .error status

end Status

end EfiHandoff
