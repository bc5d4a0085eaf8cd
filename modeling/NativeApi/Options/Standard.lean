import NativeApi.Options.Basic

/-!
# Standard options

The options for the registry whose names begin with `VK`, which hold wherever a text of
options does not say otherwise.
-/

namespace NativeApi.Options

/-- The spelling of segments that are acronyms. -/
def standardAcronyms : Dict String :=
  .ofList [
    ("1D", "1D"), ("2D", "2D"), ("3D", "3D"), ("AABB", "AABB"), ("AMD", "Amd"),
    ("API", "Api"), ("ASTC", "ASTC"), ("EXT", "Ext"), ("ID", "ID"), ("IOS", "IOS"),
    ("KHR", "Khr"), ("KHX", "Khx"), ("LOD", "LOD"), ("MACOS", "MacOS"), ("NN", "Nn"),
    ("NV", "Nv"), ("NVX", "Nvx")]

/-- The widths of the basic types. -/
def standardBasicTypes : Dict Width :=
  .ofList [
    ("int16_t", .i16), ("int32_t", .i32), ("int64_t", .i64), ("int8_t", .i8),
    ("size_t", .usize), ("uint16_t", .u16), ("uint32_t", .u32), ("uint64_t", .u64),
    ("uint8_t", .u8), ("xcb_connection_t", .pointer), ("xcb_visualid_t", .i32),
    ("xcb_window_t", .pointer), ("zx_handle_t", .pointer)]

/-- The widths of the types of the language. -/
def standardBuiltinTypes : Dict Width :=
  .ofList [
    ("char", .char), ("double", .f64), ("float", .f32), ("int", .i32), ("void", .void)]

/-- The widths of the known platform types. -/
def standardForeignTypes : Dict Width :=
  .ofList [
    ("AHardwareBuffer", .pointer), ("ANativeWindow", .pointer), ("DWORD", .u32),
    ("Display", .pointer), ("HANDLE", .pointer), ("HINSTANCE", .pointer), ("HWND", .pointer),
    ("LPCWSTR", .pointer), ("RROutput", .u32)]

/-- The known platform structures. -/
def standardForeignStructs : Dict String :=
  .ofList [("SECURITY_ATTRIBUTES", "SecurityAttributes")]

/-- What is put before members that begin with a digit. -/
def standardMemberRewrites : Dict String :=
  .ofList [
    ("ImageCreateFlags", "Create"), ("ImageType", "Image"), ("ImageViewType", "View"),
    ("QueryResultFlags", "Result"), ("SampleCountFlags", "Count"),
    ("ShadingRatePaletteEntryNv", "X")]

/-- The counters of array members. -/
def standardFieldCounters : Dict String :=
  .ofList [
    ("AcquireKeys", "AcquireCount"), ("AcquireSyncs", "AcquireCount"),
    ("AcquireTimeoutMilliseconds", "AcquireCount"), ("Code", "CodeSize"),
    ("MemoryHeaps", "MemoryHeapCount"), ("MemoryTypes", "MemoryTypeCount"),
    ("ReleaseKeys", "ReleaseCount"), ("ReleaseSyncs", "ReleaseCount"),
    ("SampleMask", "RasterizationSamples")]

/-- The hidden types. -/
def standardDeniedTypes : List String :=
  [
    "XlibSurfaceCreateInfoKhr", "XcbSurfaceCreateInfoKhr", "WaylandSurfaceCreateInfoKhr",
    "MirSurfaceCreateInfoKhr", "ImportMemoryWin32HandleInfoNv",
    "ExportMemoryWin32HandleInfoNv", "ImportMemoryWin32HandleInfoKhr",
    "ExportMemoryWin32HandleInfoKhr", "ImportSemaphoreWin32HandleInfoKhr",
    "ExportSemaphoreWin32HandleInfoKhr", "ImportFenceWin32HandleInfoKhr",
    "ExportFenceWin32HandleInfoKhr", "PhysicalDeviceGroupProperties",
    "PhysicalDeviceGroupPropertiesKhx", "NativeBufferAndroid"]

/-- The hidden commands. -/
def standardDisabledCommands : List String :=
  [
    "vkGetPhysicalDeviceXcbPresentationSupportKHR", "vkCreateMirSurfaceKHR",
    "vkGetPhysicalDeviceMirPresentationSupportKHR", "vkCreateWaylandSurfaceKHR",
    "vkGetPhysicalDeviceWaylandPresentationSupportKHR", "vkCreateWin32SurfaceKHR",
    "vkGetPhysicalDeviceWin32PresentationSupportKHR", "vkCreateXlibSurfaceKHR",
    "vkGetPhysicalDeviceXlibPresentationSupportKHR", "vkCreateXcbSurfaceKHR",
    "vkCreateAndroidSurfaceKHR", "vkGetMemoryWin32HandleNV",
    "vkImportSemaphoreWin32HandleKHR", "vkImportFenceWin32HandleKHR",
    "vkCreateIOSSurfaceMVK", "vkEnumeratePhysicalDeviceGroups",
    "vkEnumeratePhysicalDeviceGroupsKHX", "vkCreateRaytracingPipelinesNVX",
    "vkGetImageDrmFormatModifierPropertiesEXT",
    "vkGetAndroidHardwareBufferPropertiesANDROID", "vkGetMemoryAndroidHardwareBufferANDROID",
    "vkCreateImagePipeSurfaceFUCHSIA"]

/-- The extensions of the usual targets. -/
def standardTargets : Dict (List String) :=
  .ofList [
    ("Android", ["VK_KHR_android_surface"]),
    ("Linux",
      ["VK_KHR_xlib_surface", "VK_KHR_xcb_surface", "VK_KHR_wayland_surface",
        "VK_KHR_mir_surface"]),
    ("Windows",
      ["VK_KHR_win32_surface", "VK_NV_external_memory_win32", "VK_NV_win32_keyed_mutex"]),
    ("iOS", ["VK_MVK_ios_surface"])]

/-- The options that hold where nothing else is said. -/
def standard : Options where
  globalPrefix := "VK"
  typePrefix := "Vk"
  commandPrefix := "vk"
  statusType := "VkResult"
  successMember := "Success"
  acronyms := standardAcronyms
  basicTypes := standardBasicTypes
  builtinTypes := standardBuiltinTypes
  foreignTypes := standardForeignTypes
  foreignStructs := standardForeignStructs
  memberRewrites := standardMemberRewrites
  fieldCounters := standardFieldCounters
  deniedTypes := standardDeniedTypes
  disabledCommands := standardDisabledCommands
  handwrittenCommands := ["vkCreateInstance"]
  disabledExtensions := ["VK_FUCHSIA_imagepipe_surface"]
  ignoredSimplifiedCommands :=
    ["CreateGraphicsPipelines", "CreateComputePipelines", "CreateSharedSwapchainsKHR"]
  countTypes := ["uint32_t"]
  notLengthTypes := ["RROutput"]
  targets := standardTargets
  strictTables := false

end NativeApi.Options
