import EfiHandoff.Description.Basic
import EfiHandoff.Handoff.Pending
import EfiHandoff.Image.Blueprint

/-!
# Descriptions of images

The fields of layouts, sections, records and of what holds an image.
-/

set_option autoImplicit false

namespace EfiHandoff

open Description (field)

instance : Described SecureBootMode := ⟨fun mode => .text mode.name⟩

instance : Described MemoryKind where
  describe
    | .code => .text "LoaderCode"
    | .data => .text "LoaderData"

def Level.shown (level : Option Level) : String := (level.map Level.name).getD "off"

instance : Described Settings where
  describe settings := .fields [
    field "debug_secure_boot" settings.forceValidated,
    field "log_level" (Level.shown settings.level),
    field "max_image_size" settings.maxImageSize,
    field "universal_binaries" settings.universalBinaries,
    field "is_default" (settings == {})]

instance : Described Image.Layout where
  describe layout := .fields [
    field "image_address" layout.preferredBase,
    field "image_size" layout.imageSize,
    field "entry_point" layout.entry,
    field "size_of_headers" layout.headersSize,
    field "number_of_sections" layout.sectionCount,
    field "section_table_offset" layout.sectionTable,
    field "reloc_rva" layout.relocations.start,
    field "reloc_size" layout.relocations.size,
    field "number_of_rva_and_sizes" layout.directoryCount,
    field "section_alignment" layout.alignment]

instance : Described Image.Section where
  describe part := .fields [
    field "name" part.name,
    field "name_str" part.shownName,
    field "copy_size" part.copySize,
    field "virtual_address" part.virtualAddress,
    field "virtual_size" part.virtualSize,
    field "raw_offset" part.rawOffset,
    field "raw_size" part.rawSize]

instance : Described Image.FixupKind where
  describe kind := .fields [
    field "name" kind.name,
    field "width" kind.width,
    field "raw" kind.code]

instance : Described Image.Loaded where
  describe loaded := .fields [
    field "image_base" loaded.base,
    field "image_size" loaded.size,
    field "entry_point" loaded.entry,
    field "bytes" loaded.bytes]

instance : Described Image.Window where
  describe window := .fields [
    field "image_offset" window.offset,
    field "image_size" window.size,
    field "image_base" window.base,
    field "window_len" window.bytes.size,
    field "window_zero" (window.bytes.all (· == 0)),
    field "buffer_address" window.buffer.address,
    field "buffer_len" window.buffer.bytes.size,
    field "buffer_empty" window.buffer.bytes.isEmpty]

instance : Described Image.BuiltImage where
  describe built := .fields [
    field "bytes" built.file,
    field "image_size" built.imageSize,
    field "reloc_rva" built.relocations.start,
    field "reloc_size" built.relocations.size,
    field "section_table_offset" built.sectionTable,
    field "raw_offsets" built.rawOffsets]

instance : Described PageRange where
  describe range := .fields [
    field "address" range.address,
    field "pages" range.pages]

instance : Described DevicePath.Node where
  describe node := .fields [
    field "type" node.type,
    field "sub_type" node.subtype,
    field "offset" node.offset,
    field "size" node.size,
    field "file_path" node.isFilePath,
    field "data" node.payload]

def ImageRecord.describedAt (base : Description) (record : ImageRecord) : Description := .fields [
  field "image_base" base,
  field "image_size" record.size,
  field "load_options" record.options,
  field "load_options_size" record.optionsSize,
  field "file_path" (record.filePath.map DevicePath.upToEnd),
  field "device_handle" record.device]

instance : Described ImageRecord := ⟨fun record => record.describedAt (describe record.base)⟩

instance : Described RootDevice where
  describe root := .fields [
    field "handle" root.handle,
    field "device_path" root.devicePath]

instance : Described ImageExit where
  describe ending := .fields [
    field "status" ending.status,
    field "exit_data" ending.data]

instance : Described FileError where
  describe
    | .device status => .fields [field "Io" status]
    | error => .text error.shown

instance : Described Pending where
  describe pending := .fields [
    field "validated" pending.isValidated,
    field "file_path" pending.path,
    field "image" pending.image]

end EfiHandoff
