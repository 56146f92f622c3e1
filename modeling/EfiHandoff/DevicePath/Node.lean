import EfiHandoff.Buffer
import EfiHandoff.Fault

/-!
# Device paths

A device path is a run of nodes, each with a type, a subtype, its length and a payload, closed by an end node.
The length is little-endian and counts the four header bytes. A path is walked with every declared length
checked against the bytes at hand; the written form of a node stands beside the walk.
-/

set_option autoImplicit false

namespace EfiHandoff.DevicePath

def headerSize : Nat := 4

def mediaType : UInt8 := 0x04

def filePathSubtype : UInt8 := 0x04

def endType : UInt8 := 0x7f

def endEntireSubtype : UInt8 := 0xff

def endNode : Bytes := [endType, endEntireSubtype, 4, 0]

structure Node where
  type : UInt8
  subtype : UInt8
  offset : Nat
  payload : Bytes
deriving DecidableEq, Repr

namespace Node

def size (node : Node) : Nat := headerSize + node.payload.length

def isFilePath (node : Node) : Bool := node.type == mediaType && node.subtype == filePathSubtype

def isEnd (node : Node) : Bool := node.type == endType && node.subtype == endEntireSubtype

/-- The written form of a node. Its length field holds 16 bits. -/
def encode (node : Node) : Bytes :=
  node.type :: node.subtype :: Bytes.ofNat 2 node.size ++ node.payload

end Node

/-- Why a walk stops before an end node. -/
inductive WalkFault
  /-- The bytes end inside a node header; `total` bytes were given. -/
  | missingEnd (total : Nat)
  /-- The node at `offset` declares fewer bytes than its header. -/
  | malformed (offset length : Nat)
  /-- The node at `offset` declares more than the `total` bytes given. -/
  | overrun (offset length total : Nat)
deriving DecidableEq, Repr

instance : Fault WalkFault where
  error
    | .missingEnd _ => .unterminatedDevicePath
    | .malformed _ length => .malformedNode length
    | .overrun _ _ _ => .unterminatedDevicePath
  journal
    | .missingEnd total => [Origin.devicePath.error s!"DevicePath: No end node within {total} bytes"]
    | .malformed offset length =>
        [Origin.devicePath.error
          s!"DevicePath: Malformed node at {Text.hex offset} has length={length}"]
    | .overrun offset length total =>
        [Origin.devicePath.error
          s!"DevicePath: Node at {Text.hex offset} (length {length}) runs past {total} bytes"]

/-- The nodes met on a walk, and the fault that ended it, if no end node did. -/
structure Walk where
  nodes : List Node
  fault : Option WalkFault
deriving DecidableEq, Repr

namespace Walk

def after (node : Node) (walk : Walk) : Walk := { walk with nodes := node :: walk.nodes }

def complete (walk : Walk) : Except WalkFault (List Node) :=
  match walk.fault with
  | none => .ok walk.nodes
  | some fault => .error fault

end Walk

/-- Walks the nodes in `rest`, which starts `offset` bytes into a path of `total` bytes. -/
def walkFrom (total offset : Nat) (rest : Bytes) : Walk :=
  match rest with
  | type :: subtype :: low :: high :: after =>
      let length := low.toNat + 256 * high.toNat
      if length < headerSize then ⟨[], some (.malformed offset length)⟩
      else if type = endType ∧ subtype = endEntireSubtype then ⟨[], none⟩
      else
        let payload := after.take (length - headerSize)
        if payload.length < length - headerSize then ⟨[], some (.overrun offset length total)⟩
        else
          (walkFrom total (offset + length) (after.drop (length - headerSize))).after
            ⟨type, subtype, offset, payload⟩
  | _ => ⟨[], some (.missingEnd total)⟩
termination_by rest.length
decreasing_by simp only [List.length_drop, List.length_cons]; omega

def walk (path : Bytes) : Walk := walkFrom path.length 0 path

def totalSize : List Node → Nat
  | [] => 0
  | node :: rest => node.size + totalSize rest

def sizeWithoutEnd (path : Bytes) : Except WalkFault Nat := (walk path).complete.map totalSize

/-- Where the first file path node of a path stands. A fault only counts when no such node comes before it. -/
def firstFilePath (path : Bytes) : Except WalkFault (Option Nat) :=
  let walked := walk path
  match walked.nodes.find? Node.isFilePath with
  | some node => .ok (some node.offset)
  | none => walked.complete.map fun _ => none

/-- The path at the start of some memory, up to and with its end node, as a reader copies it that trusts the
memory to hold a path: a node that declares less than its header is taken for a bare header. -/
def upToEnd (memory : Bytes) : Bytes :=
  match memory with
  | type :: subtype :: low :: high :: after =>
      let payload := low.toNat + 256 * high.toNat - headerSize
      let rest :=
        if type = endType ∧ subtype = endEntireSubtype then [] else upToEnd (after.drop payload)
      type :: subtype :: low :: high :: (after.take payload ++ rest)
  | short => short
termination_by memory.length
decreasing_by simp only [List.length_drop, List.length_cons]; omega

end EfiHandoff.DevicePath
