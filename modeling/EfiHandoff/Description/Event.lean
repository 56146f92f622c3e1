import EfiHandoff.Description.Image
import EfiHandoff.Simulation.InMemory
import EfiHandoff.Simulation.ScriptedTable

/-!
# Descriptions of events

What a simulated platform was asked, each event a list that starts with the name of the call.
-/

set_option autoImplicit false

namespace EfiHandoff.Simulation

open Description (field word)

instance : Described Event where
  describe
    | .allocatedPool kind size outcome => describe ("allocate_pool", kind, word size, outcome)
    | .freedPool address status => describe ("free_pool", address, status)
    | .allocatedPages kind pages outcome => describe ("allocate_pages", kind, word pages, outcome)
    | .freedPages address pages status => describe ("free_pages", address, word pages, status)
    | .loadedImage path image status => describe ("load_image", path, image, status)
    | .configuredImage image device options status =>
        describe ("configure_image", image, device, options, status)
    | .startedImage image => describe ("start_image", image)
    | .unloadedImage image => describe ("unload_image", image)
    | .tookSnapshot => describe ["snapshot"]
    | .installed record => describe ("install", record)
    | .restored record => describe ("restore", record)
    | .calledEntry entry active image => describe ("call_entry", entry, active, image)
    | .verified image => describe ("verify", image)
    | .askedLayout image => describe ("context", image)
    | .opened path => describe ("open", path)
    | .askedRoot => describe ["root_device"]
    | .read length => describe ("read", length)
    | .closed => describe ["close"]

def guidName (guid : Guid) : Option String :=
  [(Guid.shimLock, "SHIM_LOCK"), (.loadedImage, "LOADED_IMAGE"),
    (.simpleFileSystem, "SIMPLE_FILE_SYSTEM"), (.devicePath, "DEVICE_PATH"),
    (.globalVariable, "GLOBAL_VARIABLE")].lookup guid

instance : Described Guid := ⟨fun guid => describe (guidName guid)⟩

def describeChild (child : ImageRecord) : Description := .fields [
  field "device_handle" child.device,
  field "load_options_size" child.optionsSize,
  field "load_options" child.options]

instance : Described TableEvent where
  describe
    | .located protocol => describe ("locate_protocol", protocol)
    | .handled handle protocol => describe ("handle_protocol", handle, protocol)
    | .gotVariable name vendor size =>
        describe ("get_variable", Utf16.decode name, vendor, size)
    | .allocatedPool kind size outcome => describe ("allocate_pool", kind, word size, outcome)
    | .freedPool address status => describe ("free_pool", address, status)
    | .allocatedPages strategy kind pages outcome =>
        describe ("allocate_pages", strategy, kind, word pages, outcome)
    | .freedPages address pages status => describe ("free_pages", address, word pages, status)
    | .loadedImage bootPolicy parent path image status =>
        describe ("load_image", bootPolicy, parent, path, image, status)
    | .startedImage image child exitData =>
        let place := if exitData = 0 then none else some exitData
        describe ("start_image", image, describeChild child, place)
    | .unloadedImage image => describe ("unload_image", image)
    | .openedVolume status => describe ("open_volume", status)
    | .opened onRoot name mode attributes => describe ("open", onRoot, name, mode, attributes)
    | .closed root => describe ("close", root)
    | .setPosition position status => describe ("set_position", position, status)
    | .gotPosition position status => describe ("get_position", position, status)
    | .read wanted given status => describe ("read", wanted, given, status)
    | .shimVerified image => describe ("shim_verify", image)
    | .shimContext image => describe ("shim_context", image)
    | .entered handle rightTable record => describe ("entry", handle, rightTable, record)

def pageOffset (record : ImageRecord) : Nat := record.base.toNat % pageSize

/-- A record on a platform whose memory lies anywhere: of a base other than the loader's own, only its place in
the page is told. -/
def describeAnywhere (record : ImageRecord) : Description :=
  let base := if record.base = (loaderRecord record.device).base then describe record.base
    else .fields [field "page_offset" (pageOffset record)]
  record.describedAt base

def EntryCall.describeRecord (call : EntryCall) (record : ImageRecord) : Description := .fields [
  field "entry_offset" (call.entry - record.base),
  field "page_offset" (pageOffset record),
  field "image_size" record.size,
  field "load_options_size" record.optionsSize,
  field "has_options" record.options.isSome,
  field "has_path" record.filePath.isSome,
  field "device_handle" record.device]

instance : Described EntryCall where
  describe call := .fields [
    field "options" call.options,
    field "file_path" call.filePath,
    field "state" (call.active.map call.describeRecord)]

instance : Described Notes where
  describe notes := .fields [
    field "loads" notes.loads.reverse,
    field "configured" notes.configured.reverse,
    field "unloads" notes.unloads.reverse,
    field "entries" notes.entries.reverse,
    field "freed_pages" (notes.freedPages.reverse.map fun (address, pages) => (address == 0, pages))]

end EfiHandoff.Simulation
