import EfiHandoff.LoadOptions
import EfiHandoff.Image.Container
import EfiHandoff.Image.Loaded
import EfiHandoff.Settings

/-!
# Preparing a handoff

A program is prepared in fixed steps: the file is opened, its device path built, pages allocated and filled, the
slice for this processor chosen, and then either the firmware's loader takes the image or the trust root checks
it. The first step that fails ends the preparation, and what was acquired before it is released in the reverse
order. What is left at the end is a pending handoff, to be started or dropped.
-/

set_option autoImplicit false

namespace EfiHandoff

open Platform

/-- How a prepared image will be started. -/
inductive Route
  /-- The firmware loaded it under this handle. -/
  | firmware (image : Handle)
  /-- It was verified, or forced; the loader lays it out itself. -/
  | validated
deriving DecidableEq, Repr

structure Pending where
  file : PageRange
  /-- The image: the file, or the slice for this processor. -/
  image : Buffer
  path : Bytes
  options : Option (List UInt16)
  device : Handle
  route : Route
deriving DecidableEq, Repr

def unload (image : Handle) : Act Unit := do
  let status ← unloadImage image
  if !status.isSuccess then
    Program.report [Origin.handoff.warn s!"Chainload: UnloadImage failed: {status.shown}"]

def Route.release : Route → Act Unit
  | .firmware image => unload image
  | .validated => return ()

namespace Pending

def isValidated (pending : Pending) : Bool :=
  match pending.route with
  | .firmware _ => false
  | .validated => true

def release (pending : Pending) : Act Unit := do
  pending.route.release
  pending.file.release

def cancel (pending : Pending) : Act Unit := do
  Program.report [Origin.handoff.debug "Chainload: Unloading prepared image"]
  pending.release

end Pending

def FileError.shown : FileError → String
  | .notFound => "NotFound"
  | .short => "ShortRead"
  | .device status => s!"Io({status.shown})"

/-- Opens a file for as long as `use` takes, and closes it however that ends. -/
def withFile {α : Type} (name : List Char) (use : OpenFile → Try α) : Try α := do
  match ← (openFile name : Act _) with
  | .error error =>
      Attempt.fail error.bootError
        (Origin.handoff.error s!"Chainload: Cannot open {String.ofList name}: {error.shown}")
  | .ok file => Attempt.ensuring (closeFile file) (use file)

def requireRoot : Try (Handle × Bytes) := do
  match ← (rootDevice : Act _) with
  | some ⟨handle, some path⟩ => return (handle, path)
  | _ =>
      Attempt.fail .noRootDevice
        (Origin.handoff.error "Chainload: Root device has no device path")

def buildPath (limit : MemoryLimit) (device : Bytes) (name : List Char) : Try Bytes := do
  let built := DevicePath.ofFile limit device name
  Attempt.report (DevicePath.ofFileJournal name built)
  let path ← (ExceptT.mk (pure (Fault.simplify built)) : Try Bytes)
  match DevicePath.components path with
  | .error fault => Attempt.report (Fault.journal fault)
  | .ok names =>
      let joined := String.intercalate "\\" (names.map String.ofList)
      Attempt.report [Origin.handoff.info s!"Chainload: file path: {joined}"]
  return path

def acceptSize (settings : Settings) (name : List Char) (size : UInt64) : Try Nat := do
  if size = 0 then
    Attempt.fail .endOfFile
      (Origin.handoff.error s!"Chainload: {String.ofList name} is empty")
  else if settings.maxImageSize < size then
    Attempt.fail (.fileTooLarge size)
      (Origin.handoff.error
        s!"Chainload: {String.ofList name} is {size} bytes, limit is {settings.maxImageSize}")
  else return size.toNat

def readPages (name : List Char) (file : OpenFile) (size : Nat) : Try PageRange := do
  let (pages, _) ← PageRange.reserve .code size
  Attempt.onFailure pages.release do
    let delivery ← (readFile file size : Act _)
    match delivery.complete with
    | .ok bytes => return { pages with bytes }
    | .error error =>
        Attempt.fail error.bootError
          (Origin.handoff.error
            s!"Chainload: Reading {String.ofList name} failed: {error.shown}")

def selectImage (settings : Settings) (file : Buffer) : Try Buffer := do
  if settings.universalBinaries then
    let selected := Image.selectSlice file Image.hostCpu
    Attempt.report (Image.selectSliceJournal file selected)
    match ← (ExceptT.mk (pure (Fault.simplify selected)) : Try (Option Image.Slice)) with
    | some slice => return file.slice slice.offset slice.size
    | none => return file
  else return file

def requireVerified (image : Buffer) : Try Unit := do
  match ← (trustRoot : Act _) with
  | none =>
      Attempt.fail .noTrustRoot
        (Origin.handoff.error
          "Chainload: Secure boot is on but no shim lock protocol is installed")
  | some _ =>
      match ← (verify image : Act _) with
      | .ok () => Attempt.report [Origin.handoff.debug "Chainload: Image verified"]
      | .error status =>
          Attempt.fail .verificationFailed
            (Origin.handoff.error s!"Chainload: Verification failed: {status.shown}")

def requireLoaded (path : Bytes) (image : Buffer) : Try Handle := do
  match ← (loadImage path image : Act _) with
  | .ok handle => return handle
  | .error status =>
      let error := if status = .outOfResources then .loaderOutOfResources else .loaderRefused status
      Attempt.fail error
        (Origin.handoff.error s!"Chainload: Firmware LoadImage failed: {status.shown}")

/-- Decides how the image will be started, and takes the first step of it: with secure boot on nothing but a
verified image goes further, and without it the firmware loads the image. -/
def chooseRoute (settings : Settings) (path : Bytes) (image : Buffer) : Try Route := do
  if settings.forceValidated then
    Attempt.report
      [Origin.handoff.warn "Chainload: Secure boot debugging on, skipping verification"]
    return .validated
  else if (← (secureBootMode : Act _)) = .enabled then
    requireVerified image
    return .validated
  else return .firmware (← requireLoaded path image)

def configure (pending : Pending) : Try Unit := do
  match pending.route with
  | .validated => return ()
  | .firmware image =>
      match ← (configureImage image pending.device pending.options : Act _) with
      | .ok () => return ()
      | .error status =>
          Attempt.fail .noImageRecord
            (Origin.handoff.error
              s!"Chainload: Cannot configure loaded image: {status.shown}")

def fetch (limit : MemoryLimit) (settings : Settings) (name : List Char) : Try (Handle × Bytes × PageRange) :=
  withFile name fun file => do
    let (device, devicePath) ← requireRoot
    let path ← buildPath limit devicePath name
    let size ← acceptSize settings name file.size
    let pages ← readPages name file size
    return (device, path, pages)

def Pending.summary (pending : Pending) (name : List Char) : Entry :=
  let route := if pending.isValidated then "validated" else "firmware"
  Origin.handoff.info
    s!"Chainload: Prepared {String.ofList name} ({pending.image.size} bytes, {route})"

/-- Prepares the program named by the first argument; the others become its load options. The heap grants no more
than the limit at once. -/
def prepare (settings : Settings) (arguments : List (List Char)) (limit : MemoryLimit := none) : Try Pending := do
  match arguments with
  | [] =>
      Attempt.fail .missingFileName (Origin.handoff.error "Chainload: No filename given")
  | name :: rest =>
      let options ← Attempt.ofChecked (LoadOptions.encode limit rest)
      let (device, path, file) ← fetch limit settings name
      let (image, route) ← Attempt.onFailure file.release do
        let image ← selectImage settings file.bytes
        let route ← chooseRoute settings path image
        return (image, route)
      let pending : Pending := { file, image, path, options, device, route }
      Attempt.onFailure pending.release (configure pending)
      Attempt.report [pending.summary name]
      return pending

end EfiHandoff
