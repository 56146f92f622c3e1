import EfiHandoff.Handoff.Pending

/-!
# Starting a pending handoff

An image the firmware loaded is started and unloaded by the firmware. A validated image is loaded here: the
record of the running loader is swapped for one that describes the new image, its entry point is called, and the
old record is put back before the memory of the image goes.
-/

set_option autoImplicit false

namespace EfiHandoff

open Platform

namespace Pending

def startLoaded (image : Handle) : Try Unit := do
  Attempt.report [Origin.handoff.info "Chainload: Starting image"]
  let ending ← (Platform.startImage image : Act _)
  unload image
  if ending.status.isSuccess then return ()
  else
    let text := LoadOptions.exitText (ending.data.getD [])
    let shown := if text.isEmpty then "unknown error" else text
    Attempt.fail (.programFailed ending.status text)
      (Origin.handoff.error s!"Chainload: Image returned {ending.status.shown}: {shown}")

/-- The layout of a validated image: the trust root's own, if it has one, or that in the headers. -/
def layout (image : Buffer) : Try Image.Layout := do
  let source ← (trustRoot : Act _)
  if source = some .own then
    (ExceptT.mk (Platform.layoutOf image) : Try Image.Layout)
  else
    let read := Image.readLayout image
    Attempt.report (Image.readLayoutJournal read)
    (ExceptT.mk (pure (Fault.simplify read)) : Try Image.Layout)

def fileName (pending : Pending) : Try Bytes := do
  match ← Attempt.ofChecked (DevicePath.firstFilePath pending.path) with
  | some offset => return pending.path.drop offset
  | none =>
      Attempt.fail .noFilePathNode
        (Origin.handoff.error "Chainload: No file path node in the built device path")

def record (pending : Pending) (loaded : Image.Loaded) (filePath : Bytes) : ImageRecord where
  base := loaded.base
  size := loaded.size
  options := pending.options
  optionsSize := (pending.options.map LoadOptions.sizeInBytes).getD 0
  filePath := some filePath
  device := pending.device

/-- Swaps the record of the running loader for `record`, calls the entry point, and puts the old record back.
Without an old record nothing is done. -/
def enter (record : ImageRecord) (loaded : Image.Loaded) : Try Status := do
  match ← (snapshot : Act _) with
  | none =>
      Attempt.fail .noImageRecord
        (Origin.handoff.error
          "Chainload: No loaded image protocol for the running loader")
  | some saved =>
      (install record : Act Unit)
      let entry := Text.hex loaded.entry.toNat
      let base := Text.hex loaded.base.toNat
      Attempt.report
        [Origin.handoff.info s!"Chainload: Calling entry point {entry} (image at {base})"]
      let status ← (callEntry loaded.entry loaded.bytes : Act _)
      (restore saved : Act Unit)
      return status

/-- Loads and enters a validated image. Its memory is given back before its status is looked at. -/
def startValidated (pending : Pending) : Try Unit := do
  let layout ← layout pending.image
  let loaded ← Image.load pending.image layout
  let status ← Attempt.ensuring loaded.release do
    let filePath ← pending.fileName
    enter (pending.record loaded filePath) loaded
  if status.isSuccess then return ()
  else
    Attempt.fail (.programFailed status "")
      (Origin.handoff.error s!"Chainload: Image returned {status.shown}")

def start (pending : Pending) : Try Unit :=
  Attempt.ensuring pending.file.release (match pending.route with
    | .firmware image => startLoaded image
    | .validated => pending.startValidated)

end Pending

end EfiHandoff
