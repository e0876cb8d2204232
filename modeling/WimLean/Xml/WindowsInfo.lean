import WimLean.Unaligned
import WimLean.Xml.LanguageMap

/-!
# WimLean — Windows information in the XML document (`set_windows_specific_info`)

When an image is added, `set_windows_specific_info` fills in what the XML document says about
the Windows installation in it, from three files of the image: the processor architecture from
the PE header of `kernel32.dll`, the edition, product name and version numbers from the
SOFTWARE registry hive, and the service pack, product type, HAL and languages from the SYSTEM
hive. It is best effort: a file that is missing, a hive that does not validate, a registry
value that is absent or a property that cannot be set is skipped, and only running out of
memory is remembered (`oom_encountered`) and turned into `WIMLIB_ERR_NOMEM` at the end.

`registry.c` and the XML code are not among the sources: a hive is its bytes and what the
functions of `registry.c` return on them (`HiveLib`), and `wimlib_set_image_property` is a call
whose return value is an input, as are the conversions of `tscanf`. Every call made outside the
file is logged with what it returned (`InfoCall`), so that any pattern of failures is one run.

`setInfoFromKernel32_eq` says that the PE check reads only bytes inside the file, at offsets
aligned to their size, and, on every byte order, accepts exactly the headers that
`peArchOf` reads byte by byte. `setWindowsSpecificInfo_nomem` says that the function never
reads outside a buffer, returns 0 or `WIMLIB_ERR_NOMEM`, and `WIMLIB_ERR_NOMEM` exactly when
one of the calls it made ran out of memory.
-/

namespace WimLean

/-! ## What the functions call -/

/-- The statuses of `enum hive_status` that `check_hive_status` tells apart: `HIVE_OK`,
`HIVE_OUT_OF_MEMORY`, and any other failure. -/
inductive HiveStatus where
  | ok
  | outOfMemory
  | failed
  deriving DecidableEq, Repr

/-- The functions of `registry.c` on the bytes of a hive (`struct regf`): the status each
returns, and what it stores through its last argument, which is only read when the status is
`HIVE_OK`. -/
structure HiveLib where
  validate : List UInt8 → HiveStatus
  getString : List UInt8 → String → String → HiveStatus × String
  getNumber : List UInt8 → String → String → HiveStatus × Int
  listSubkeys : List UInt8 → String → HiveStatus × List String

/-- The unnamed data stream of a file of the image, as `read_blob_into_alloc_buf` reads it: the
blob's `size`, and the bytes or the error of the read. A read that succeeds gives `size`
bytes. -/
structure ImageBlob where
  size : Nat
  read : Except WimlibErr (List UInt8)
  read_length : ∀ c, read = .ok c → c.length = size

/-- What `load_file_contents` finds at a path of the image: no dentry (`get_dentry` returns
`NULL`), a file without an unnamed data stream, or that stream's blob. -/
inductive ImageFile where
  | notFound
  | noContents
  | blob (b : ImageBlob)

/-- What `tscanf(s, "%" PRIi64 "." PRIi64, &major, &minor)` stores: the conversions succeed
from the left, so a minor version is only stored after a major one. -/
structure VersionScan where
  major : Option Int
  minor : Option Int
  minor_after_major : minor.isSome → major.isSome

/-- The inputs of `set_windows_specific_info`: the byte order and build of the machine, the
files of the current image (`get_dentry` ignores case), the registry functions, and what
`tscanf` stores for `"%lli.%lli"` and, for `"%x"`, into an `unsigned`. -/
structure InfoEnv where
  config : BuildConfig
  files : String → ImageFile
  hive : HiveLib
  scanVersion : String → VersionScan
  scanHex : String → Option UInt32

/-- A call made outside the file, with what it returned: `wimlib_set_image_property`, a function
of `registry.c`, or `read_blob_into_alloc_buf` on a blob of the given size. -/
inductive InfoCall where
  | setImageProperty (name value : String) (ret : Option WimlibErr)
  | hive (status : HiveStatus)
  | readBlob (path : String) (size : Nat) (ret : Option WimlibErr)
  deriving DecidableEq, Repr

/-- The call ran out of memory in a way `set_windows_specific_info` remembers: a property that
could not be set for lack of memory, a registry function that returned `HIVE_OUT_OF_MEMORY`,
or a blob under 100000000 bytes that could not be read for lack of memory. -/
def InfoCall.outOfMemory : InfoCall → Bool
  | .setImageProperty _ _ ret => ret == some .nomem
  | .hive status => status == .outOfMemory
  | .readBlob _ size ret => ret == some .nomem && decide (size < 100000000)

/-- The state the functions run in: `ctx->oom_encountered`, the calls made so far, and what the
calls to `wimlib_set_image_property` to come return (0 once they run out). -/
structure InfoState where
  oomEncountered : Bool
  calls : List InfoCall
  results : List (Option WimlibErr)

/-- A call is made, and remembered when it ran out of memory. -/
def InfoState.log (s : InfoState) (c : InfoCall) : InfoState :=
  { s with oomEncountered := s.oomEncountered || c.outOfMemory, calls := s.calls ++ [c] }

/-! ## Setting properties and reading the registry -/

/-- `set_string_property(ctx, name, value)`: `wimlib_set_image_property`, whose failure is only
remembered when it is `WIMLIB_ERR_NOMEM`. -/
def setStringProperty (name value : String) (s : InfoState) : InfoState :=
  { s.log (.setImageProperty name value (s.results.headD none)) with results := s.results.tail }

/-- `set_number_property(ctx, name, value)`: the value printed with `"%" PRIi64`. -/
def setNumberProperty (name : String) (value : Int) (s : InfoState) : InfoState :=
  setStringProperty name (toString value) s

/-- `check_hive_status(ctx, status, key, value)` after the registry function that returned
`status`: whether it is `HIVE_OK`. -/
def checkHiveStatus (status : HiveStatus) (s : InfoState) : Bool × InfoState :=
  (status == .ok, s.log (.hive status))

/-- `is_registry_valid(ctx, hive_mem, hive_size)`. -/
def isRegistryValid (env : InfoEnv) (hiveMem : List UInt8) (s : InfoState) : Bool × InfoState :=
  checkHiveStatus (env.hive.validate hiveMem) s

/-- A registry function whose value is read only when it returns `HIVE_OK`. -/
def fromRegistry {α : Type} (r : HiveStatus × α) (s : InfoState) : Option α × InfoState :=
  let c := checkHiveStatus r.1 s
  (if c.1 then some r.2 else none, c.2)

/-- `get_string_from_registry(ctx, regf, key_name, value_name, &value)`. -/
def getStringFromRegistry (env : InfoEnv) (regf : List UInt8) (key value : String)
    (s : InfoState) : Option String × InfoState :=
  fromRegistry (env.hive.getString regf key value) s

/-- `get_number_from_registry(ctx, regf, key_name, value_name, &value)`. -/
def getNumberFromRegistry (env : InfoEnv) (regf : List UInt8) (key value : String)
    (s : InfoState) : Option Int × InfoState :=
  fromRegistry (env.hive.getNumber regf key value) s

/-- `list_subkeys_in_registry(ctx, regf, key_name, &subkeys)`. -/
def listSubkeysInRegistry (env : InfoEnv) (regf : List UInt8) (key : String)
    (s : InfoState) : Option (List String) × InfoState :=
  fromRegistry (env.hive.listSubkeys regf key) s

/-- `copy_registry_string(ctx, regf, key_name, value_name, property_name)`. -/
def copyRegistryString (env : InfoEnv) (regf : List UInt8) (key value property : String)
    (s : InfoState) : InfoState :=
  match getStringFromRegistry env regf key value s with
  | (some str, s) => setStringProperty property str s
  | (none, s) => s

/-! ## `kernel32.dll` -/

/-- `pe_arch_to_windows_arch(pe_arch)`: the `PROCESSOR_ARCHITECTURE_*` code of an
`IMAGE_FILE_MACHINE_*` code, `-1` for one it does not know. -/
def peArchToWindowsArch (peArch : Nat) : Int :=
  if peArch = 0x014C then 0
  else if peArch = 0x01C0 ∨ peArch = 0x01C4 ∨ peArch = 0x01C2 then 5
  else if peArch = 0x0200 then 6
  else if peArch = 0x8664 then 9
  else if peArch = 0xAA64 then 12
  else -1

/-- `*(T *)(contents + off)` for a `T` of `w` bytes: the bytes, when they lie inside the buffer
at an offset aligned to `w` (the buffer itself comes from `MALLOC`); `none` is an undefined
read. -/
def loadAligned (contents : List UInt8) (off w : Nat) : Option (List UInt8) :=
  if off % w = 0 ∧ off + w ≤ contents.length then some ((contents.drop off).take w) else none

/-- `set_info_from_kernel32(ctx, contents, size)`: `e_lfanew` from the DOS header, the
signature `PE\0\0` there, and the `Machine` of the COFF header after it. A buffer that is not
a PE binary, or a machine it does not know, only gives a warning. `none` is an undefined
read. -/
def setInfoFromKernel32 (C : BuildConfig) (contents : List UInt8) (s : InfoState) :
    Option InfoState := do
  if contents.length < 0x40 then return s
  let b ← loadAligned contents 0x3C 4
  let eLfanew := (le32ToCpu C (UInt32.ofNat (C.nativeValue b))).toNat
  if eLfanew > contents.length ∨ contents.length - eLfanew < 6 ∨ eLfanew &&& 3 ≠ 0 then return s
  let sig ← loadAligned contents eLfanew 4
  if UInt32.ofNat (C.nativeValue sig) ≠ cpuToLe32 C 0x00004550 then return s
  let m ← loadAligned contents (eLfanew + 4) 2
  let arch := peArchToWindowsArch (le16ToCpu C (UInt16.ofNat (C.nativeValue m))).toNat
  if arch ≥ 0 then return setNumberProperty "WINDOWS/ARCH" arch s
  return s

/-- The architecture the headers of a PE image give, read byte by byte: in a buffer of at least
0x40 bytes, `e_lfanew`, little-endian at 0x3C, is a multiple of 4 with 6 bytes from it on, the
first four `P`, `E`, 0, 0, the next two a little-endian machine code that
`pe_arch_to_windows_arch` knows. -/
def peArchOf (contents : List UInt8) : Option Int :=
  if 0x40 ≤ contents.length then
    let e := leValue ((contents.drop 0x3C).take 4)
    if e % 4 = 0 ∧ e + 6 ≤ contents.length ∧ (contents.drop e).take 4 = [0x50, 0x45, 0, 0] then
      let a := peArchToWindowsArch (leValue ((contents.drop (e + 4)).take 2))
      if 0 ≤ a then some a else none
    else none
  else none

theorem loadAligned_eq {contents : List UInt8} {off w : Nat} (ha : off % w = 0)
    (hl : off + w ≤ contents.length) :
    loadAligned contents off w = some ((contents.drop off).take w) :=
  if_pos ⟨ha, hl⟩

theorem length_take_drop {contents : List UInt8} {off w : Nat} (hl : off + w ≤ contents.length) :
    ((contents.drop off).take w).length = w := by
  simp only [List.length_take, List.length_drop]
  omega

/-- `le32_to_cpu` of a native load of four bytes is the bytes read little-endian. -/
theorem toNat_le32ToCpu_nativeValue (C : BuildConfig) {b : List UInt8} (hb : b.length = 4) :
    (le32ToCpu C (UInt32.ofNat (C.nativeValue b))).toNat = leValue b := by
  rw [le32ToCpu_nativeValue C hb, UInt32.toNat_ofNat, Nat.mod_eq_of_lt]
  exact (leValue_lt b).trans_eq (by rw [hb]; rfl)

/-- `le16_to_cpu` of a native load of two bytes is the bytes read little-endian. -/
theorem toNat_le16ToCpu_nativeValue (C : BuildConfig) {b : List UInt8} (hb : b.length = 2) :
    (le16ToCpu C (UInt16.ofNat (C.nativeValue b))).toNat = leValue b := by
  rw [le16ToCpu_nativeValue C hb, UInt16.toNat_ofNat, Nat.mod_eq_of_lt]
  exact (leValue_lt b).trans_eq (by rw [hb]; rfl)

/-- `le32_to_cpu` is one-to-one: it undoes itself. -/
theorem le32ToCpu_inj (C : BuildConfig) {x y : UInt32} (h : le32ToCpu C x = le32ToCpu C y) :
    x = y := by
  rw [← le32ToCpu_cpuToLe32 C x, ← le32ToCpu_cpuToLe32 C y]
  exact congrArg (le32ToCpu C) h

/-- The signature check: on every byte order, a native load equals `cpu_to_le32(0x00004550)`
exactly when the bytes are `P`, `E`, 0, 0. -/
theorem nativeValue_eq_cpuToLe32_iff (C : BuildConfig) {b : List UInt8} (hb : b.length = 4) :
    UInt32.ofNat (C.nativeValue b) = cpuToLe32 C 0x00004550 ↔ b = [0x50, 0x45, 0, 0] := by
  have hsig := toNat_le32ToCpu_nativeValue C hb
  constructor
  · intro h
    have hv : leValue b = 0x4550 := by rw [← hsig, h, le32ToCpu_cpuToLe32]; rfl
    rw [← leBytes_leValue_of_length hb, hv]
    decide
  · rintro rfl
    apply le32ToCpu_inj C
    rw [le32ToCpu_cpuToLe32]
    exact UInt32.toNat.inj (hsig.trans (by decide))

/-- **The PE check reads the header as the format lays it out.** On every byte order and for
every buffer, `set_info_from_kernel32` reads only bytes inside the buffer, at offsets aligned to
their size, and sets `WINDOWS/ARCH` to the architecture `peArchOf` reads byte by byte, and
nothing when there is none. -/
theorem setInfoFromKernel32_eq (C : BuildConfig) (contents : List UInt8) (s : InfoState) :
    setInfoFromKernel32 C contents s =
      some ((peArchOf contents).elim s fun a => setNumberProperty "WINDOWS/ARCH" a s) := by
  unfold setInfoFromKernel32 peArchOf
  by_cases hlen : contents.length < 0x40
  · rw [if_pos hlen, if_neg (by omega)]
    rfl
  have hb : ((contents.drop 0x3C).take 4).length = 4 := length_take_drop (by omega)
  simp only [if_neg hlen, if_pos (show 0x40 ≤ contents.length by omega), pure_bind,
    @loadAligned_eq contents 0x3C 4 (by decide) (by omega), Option.pure_def, Option.bind_eq_bind,
    Option.some_bind, toNat_le32ToCpu_nativeValue C hb]
  generalize leValue ((contents.drop 0x3C).take 4) = e
  have hand : e &&& 3 = e % 4 := Nat.and_pow_two_sub_one_eq_mod e 2
  by_cases hgood : e % 4 = 0 ∧ e + 6 ≤ contents.length
  swap
  · rw [if_pos (by omega), if_neg (by tauto)]
    rfl
  have hsig : ((contents.drop e).take 4).length = 4 := length_take_drop (by omega)
  have hm : ((contents.drop (e + 4)).take 2).length = 2 := length_take_drop (by omega)
  rw [if_neg (by omega), @loadAligned_eq contents e 4 hgood.1 (by omega)]
  simp only [Option.some_bind, ne_eq, nativeValue_eq_cpuToLe32_iff C hsig,
    @loadAligned_eq contents (e + 4) 2 (by omega) (by omega), toNat_le16ToCpu_nativeValue C hm]
  by_cases hp : (contents.drop e).take 4 = [0x50, 0x45, 0, 0]
  · simp only [hp, hgood, not_true_eq_false, if_false, and_self, if_true]
    split_ifs <;> rfl
  · simp only [hp, not_false_eq_true, if_true, and_false, if_false]
    rfl

/-- The first bytes of a PE image: the DOS header up to `e_lfanew`, `e_lfanew` pointing past the
0x40 bytes of the DOS header and the `stub` after it, the signature `PE\0\0`, the `Machine` of
the COFF header, and the rest of the file. -/
def peImage (dosHeader stub : List UInt8) (machine : Nat) (rest : List UInt8) : List UInt8 :=
  dosHeader ++ leBytes 4 (0x40 + stub.length) ++ stub ++ [0x50, 0x45, 0, 0] ++
    leBytes 2 machine ++ rest

theorem peArchOf_peImage {dosHeader stub rest : List UInt8} {machine : Nat}
    (hdos : dosHeader.length = 0x3C) (hstub : stub.length % 4 = 0)
    (hlfanew : 0x40 + stub.length < 2 ^ 32) (hm : machine < 2 ^ 16) :
    peArchOf (peImage dosHeader stub machine rest) =
      if 0 ≤ peArchToWindowsArch machine then some (peArchToWindowsArch machine) else none := by
  have hlen : (peImage dosHeader stub machine rest).length = 0x46 + stub.length + rest.length := by
    simp only [peImage, List.length_append, length_leBytes, hdos, List.length_cons,
      List.length_nil]
    omega
  have hlfa : ((peImage dosHeader stub machine rest).drop 0x3C).take 4 =
      leBytes 4 (0x40 + stub.length) := by
    rw [peImage, List.append_assoc, List.append_assoc, List.append_assoc, List.append_assoc,
      List.drop_left' hdos, List.take_left' (length_leBytes _ _)]
  have hsig : ((peImage dosHeader stub machine rest).drop (0x40 + stub.length)).take 4 =
      [0x50, 0x45, 0, 0] := by
    rw [peImage, List.append_assoc _ [0x50, 0x45, 0, 0], List.append_assoc _ _ rest,
      List.drop_left' (by simp [hdos]; omega)]
    rfl
  have hmach : ((peImage dosHeader stub machine rest).drop (0x40 + stub.length + 4)).take 2 =
      leBytes 2 machine := by
    rw [peImage, List.append_assoc _ (leBytes 2 machine),
      List.drop_left' (by simp [hdos]; omega), List.take_left' (length_leBytes _ _)]
  have he : leValue (leBytes 4 (0x40 + stub.length)) = 0x40 + stub.length := by
    rw [leValue_leBytes, Nat.mod_eq_of_lt (by omega)]
  unfold peArchOf
  rw [if_pos (by omega)]
  simp only [hlfa, he]
  rw [if_pos ⟨by omega, by omega, hsig⟩, hmach, leValue_leBytes, Nat.mod_eq_of_lt (by omega)]

/-- **Every PE image gets its architecture.** On every byte order, for any DOS header, any stub
that keeps the signature 4-aligned, any machine code and any bytes after it,
`set_info_from_kernel32` on the image sets `WINDOWS/ARCH` to the machine's architecture when
`pe_arch_to_windows_arch` knows it, and sets nothing otherwise. -/
theorem setInfoFromKernel32_peImage (C : BuildConfig) {dosHeader stub rest : List UInt8}
    {machine : Nat} (hdos : dosHeader.length = 0x3C) (hstub : stub.length % 4 = 0)
    (hlfanew : 0x40 + stub.length < 2 ^ 32) (hm : machine < 2 ^ 16) (s : InfoState) :
    setInfoFromKernel32 C (peImage dosHeader stub machine rest) s =
      some (if 0 ≤ peArchToWindowsArch machine then
        setNumberProperty "WINDOWS/ARCH" (peArchToWindowsArch machine) s else s) := by
  rw [setInfoFromKernel32_eq, peArchOf_peImage hdos hstub hlfanew hm]
  split_ifs <;> rfl

theorem setInfoFromKernel32_peImage_bigEndianAmd64 :
    (List.replicate 0x3C (0 : UInt8)).length = 0x3C ∧ ([] : List UInt8).length % 4 = 0 ∧
      0x40 + ([] : List UInt8).length < 2 ^ 32 ∧ 0x8664 < 2 ^ 16 ∧
      setInfoFromKernel32 ⟨false, false⟩ (peImage (List.replicate 0x3C 0) [] 0x8664 [])
          ⟨false, [], []⟩ =
        some (if 0 ≤ peArchToWindowsArch 0x8664 then
          setNumberProperty "WINDOWS/ARCH" (peArchToWindowsArch 0x8664) ⟨false, [], []⟩
          else ⟨false, [], []⟩) :=
  ⟨by decide, by decide, by decide, by decide,
    setInfoFromKernel32_peImage ⟨false, false⟩ (by decide) (by decide) (by decide) (by decide) _⟩

/-! ## The SOFTWARE hive -/

/-- The key of the SOFTWARE hive that `set_info_from_software_hive` reads. -/
def versionKey : String := "Microsoft\\Windows NT\\CurrentVersion"

/-- The major and minor version numbers after `CurrentMajorVersionNumber` and
`CurrentMinorVersionNumber`: when one is missing or negative, `CurrentVersion` is scanned for
both, and what the scan stores replaces them. -/
def versionNumbers (env : InfoEnv) (regf : List UInt8) (s : InfoState) :
    Int × Int × InfoState :=
  let r := getNumberFromRegistry env regf versionKey "CurrentMajorVersionNumber" s
  let major := r.1.getD (-1)
  let r := getNumberFromRegistry env regf versionKey "CurrentMinorVersionNumber" r.2
  let minor := r.1.getD (-1)
  if major < 0 ∨ minor < 0 then
    match getStringFromRegistry env regf versionKey "CurrentVersion" r.2 with
    | (some str, s) =>
      let v := env.scanVersion str
      (v.major.getD major, v.minor.getD minor, s)
    | (none, s) => (major, minor, s)
  else (major, minor, r.2)

/-- The version properties: `MAJOR` when the major number is not negative, and then `MINOR`
when the minor one is not either. -/
def setVersionProperties (major minor : Int) (s : InfoState) : InfoState :=
  if major ≥ 0 then
    let s := setNumberProperty "WINDOWS/VERSION/MAJOR" major s
    if minor ≥ 0 then setNumberProperty "WINDOWS/VERSION/MINOR" minor s else s
  else s

/-- `set_info_from_software_hive(ctx, regf)`. -/
def setInfoFromSoftwareHive (env : InfoEnv) (regf : List UInt8) (s : InfoState) : InfoState :=
  let s := copyRegistryString env regf versionKey "EditionID" "FLAGS" s
  let s := copyRegistryString env regf versionKey "ProductName" "DISPLAYNAME" s
  let s := copyRegistryString env regf versionKey "ProductName" "DISPLAYDESCRIPTION" s
  let s := copyRegistryString env regf versionKey "EditionID" "WINDOWS/EDITIONID" s
  let s := copyRegistryString env regf versionKey "InstallationType" "WINDOWS/INSTALLATIONTYPE" s
  let s := copyRegistryString env regf versionKey "ProductName" "WINDOWS/PRODUCTNAME" s
  let v := versionNumbers env regf s
  let s := setVersionProperties v.1 v.2.1 v.2.2
  copyRegistryString env regf versionKey "CurrentBuild" "WINDOWS/VERSION/BUILD" s

/-! ## The SYSTEM hive -/

/-- `set_default_language(ctx, regf)`: `InstallLanguage` scanned as hexadecimal into an
`unsigned`, which `language_id_to_name` takes as a `u16`; the name found is measured with
`strlen` and copied with its NUL. `none` is an undefined read. -/
def setDefaultLanguage (env : InfoEnv) (regf : List UInt8) (s : InfoState) :
    Option InfoState :=
  match getStringFromRegistry env regf "ControlSet001\\Control\\Nls\\Language"
      "InstallLanguage" s with
  | (none, s) => some s
  | (some str, s) =>
    match env.scanHex str with
    | none => some s
    | some languageId =>
      (languageIdToName (languageId.toNat % 2 ^ 16)).bind fun
        | some off => (cStringRead languageNames off).map fun name =>
            setStringProperty "WINDOWS/LANGUAGES/DEFAULT" name s
        | none => some s

/-- The loop of `set_info_from_system_hive` over the subkeys of `UILanguages`: the `i`-th is
`WINDOWS/LANGUAGES/LANGUAGE[i]`, from 1. -/
def setLanguages : List String → Nat → InfoState → InfoState
  | [], _, s => s
  | k :: ks, i, s =>
    setLanguages ks (i + 1) (setStringProperty ("WINDOWS/LANGUAGES/LANGUAGE[" ++ toString i ++ "]") k s)

/-- The keys of the SYSTEM hive that `set_info_from_system_hive` reads. -/
def windowsKey : String := "ControlSet001\\Control\\Windows"

/-- `UILanguages`, whose subkeys are the installed languages. -/
def uilanguagesKey : String := "ControlSet001\\Control\\MUI\\UILanguages"

/-- `ProductOptions`. -/
def productoptionsKey : String := "ControlSet001\\Control\\ProductOptions"

/-- The key of the first device of the computer class, whose `MatchingDeviceId` is the HAL. -/
def halKey : String :=
  "ControlSet001\\Control\\Class\\\x7b4D36E966-E325-11CE-BFC1-08002BE10318\x7d\\0000"

/-- `if (get_number_from_registry(ctx, regf, key, value, &n))
set_number_property(ctx, property, f(n));`, the two blocks of `set_info_from_system_hive` that
copy a number, `f` being what the block makes of it. -/
def copyRegistryNumber (env : InfoEnv) (regf : List UInt8) (key value property : String)
    (f : Int → Int) (s : InfoState) : InfoState :=
  match getNumberFromRegistry env regf key value s with
  | (some n, s) => setNumberProperty property (f n) s
  | (none, s) => s

/-- The languages of `set_info_from_system_hive`: the subkeys of `UILanguages`, when they can
be listed. -/
def setUiLanguages (env : InfoEnv) (regf : List UInt8) (s : InfoState) : InfoState :=
  match listSubkeysInRegistry env regf uilanguagesKey s with
  | (some subkeys, s) => setLanguages subkeys 1 s
  | (none, s) => s

/-- `set_info_from_system_hive(ctx, regf)`. `CSDVersion` holds the service pack level in its
second byte (`splevel >> 8`). `none` is an undefined read. -/
def setInfoFromSystemHive (env : InfoEnv) (regf : List UInt8) (s : InfoState) :
    Option InfoState :=
  let s := copyRegistryNumber env regf windowsKey "CSDBuildNumber" "WINDOWS/VERSION/SPBUILD" id s
  let s := copyRegistryNumber env regf windowsKey "CSDVersion" "WINDOWS/VERSION/SPLEVEL"
    (· >>> 8) s
  let s := copyRegistryString env regf productoptionsKey "ProductType" "WINDOWS/PRODUCTTYPE" s
  let s := copyRegistryString env regf productoptionsKey "ProductSuite" "WINDOWS/PRODUCTSUITE" s
  let s := copyRegistryString env regf halKey "MatchingDeviceId" "WINDOWS/HAL" s
  let s := setUiLanguages env regf s
  setDefaultLanguage env regf s

/-! ## Loading the files -/

/-- `load_file_contents(ctx, path, &size)`: the contents of the file's unnamed data stream. A
read that fails for lack of memory is remembered only for a blob under 100000000 bytes. -/
def loadFileContents (env : InfoEnv) (path : String) (s : InfoState) :
    Option (List UInt8) × InfoState :=
  match env.files path with
  | .notFound => (none, s)
  | .noContents => (none, s)
  | .blob b =>
    match b.read with
    | .ok c => (some c, s.log (.readBlob path b.size none))
    | .error e => (none, s.log (.readBlob path b.size (some e)))

/-- `load_hive(ctx, path)`: the file, when it is a valid registry hive. -/
def loadHive (env : InfoEnv) (path : String) (s : InfoState) : Option (List UInt8) × InfoState :=
  match loadFileContents env path s with
  | (some hiveMem, s) =>
    let r := isRegistryValid env hiveMem s
    (if r.1 then some hiveMem else none, r.2)
  | (none, s) => (none, s)

/-- The paths of the three files, with `WIMLIB_WIM_PATH_SEPARATOR_STRING` as `/`. -/
def kernel32DllPath : String := "/Windows/System32/kernel32.dll"

/-- The SOFTWARE hive. -/
def softwareHivePath : String := "/Windows/System32/config/SOFTWARE"

/-- The SYSTEM hive. -/
def systemHivePath : String := "/Windows/System32/config/SYSTEM"

/-- The first part of `set_windows_specific_info`: `kernel32.dll`, when it can be loaded.
`none` is an undefined read. -/
def kernel32Info (env : InfoEnv) (s : InfoState) : Option InfoState :=
  match loadFileContents env kernel32DllPath s with
  | (some contents, s) =>
    setInfoFromKernel32 env.config contents (setStringProperty "WINDOWS/SYSTEMROOT" "WINDOWS" s)
  | (none, s) => some s

/-- The second part: the SOFTWARE hive, when it can be loaded and is valid. -/
def softwareHiveInfo (env : InfoEnv) (s : InfoState) : InfoState :=
  match loadHive env softwareHivePath s with
  | (some regf, s) => setInfoFromSoftwareHive env regf s
  | (none, s) => s

/-- The third part: the SYSTEM hive, when it can be loaded and is valid. `none` is an undefined
read. -/
def systemHiveInfo (env : InfoEnv) (s : InfoState) : Option InfoState :=
  match loadHive env systemHivePath s with
  | (some regf, s) => setInfoFromSystemHive env regf s
  | (none, s) => some s

/-- `set_windows_specific_info(wim)` for the current image, from a context with
`oom_encountered` false. `none` is an undefined read. -/
def setWindowsSpecificInfo (env : InfoEnv) (s : InfoState) :
    Option (Option WimlibErr × InfoState) := do
  let s ← kernel32Info env { s with oomEncountered := false }
  let s ← systemHiveInfo env (softwareHiveInfo env s)
  return (if s.oomEncountered then some .nomem else none, s)

/-! ## Only running out of memory is an error -/

/-- `s'` follows `s` by the calls `cs`: they are logged after those of `s`, and
`oom_encountered` is set when it was or when one of them ran out of memory. -/
def InfoState.Extends (s s' : InfoState) : Prop :=
  ∃ cs, s'.calls = s.calls ++ cs ∧
    s'.oomEncountered = (s.oomEncountered || cs.any InfoCall.outOfMemory)

namespace InfoState.Extends

variable {env : InfoEnv} {regf : List UInt8} {s s₁ s₂ s₃ : InfoState}

theorem refl (s : InfoState) : s.Extends s := ⟨[], by simp, by simp⟩

theorem trans (h₁ : s₁.Extends s₂) (h₂ : s₂.Extends s₃) : s₁.Extends s₃ := by
  obtain ⟨cs₁, hc₁, ho₁⟩ := h₁
  obtain ⟨cs₂, hc₂, ho₂⟩ := h₂
  exact ⟨cs₁ ++ cs₂, by rw [hc₂, hc₁, List.append_assoc],
    by rw [ho₂, ho₁, List.any_append, Bool.or_assoc]⟩

theorem log (h : s₁.Extends s₂) (c : InfoCall) : s₁.Extends (s₂.log c) :=
  h.trans ⟨[c], rfl, by simp [InfoState.log]⟩

theorem setString (h : s₁.Extends s₂) (name value : String) :
    s₁.Extends (setStringProperty name value s₂) :=
  h.log _

theorem setNumber (h : s₁.Extends s₂) (name : String) (value : Int) :
    s₁.Extends (setNumberProperty name value s₂) :=
  h.setString _ _

theorem registryRead {α : Type} (h : s₁.Extends s₂) (r : HiveStatus × α) :
    s₁.Extends (fromRegistry r s₂).2 :=
  h.log _

theorem copy (h : s₁.Extends s₂) (key value property : String) :
    s₁.Extends (copyRegistryString env regf key value property s₂) := by
  unfold copyRegistryString getStringFromRegistry
  have hr := h.registryRead (env.hive.getString regf key value)
  split <;> rename_i heq <;> rw [heq] at hr
  · exact hr.setString _ _
  · exact hr

theorem copyNumber (h : s₁.Extends s₂) (key value property : String) (f : Int → Int) :
    s₁.Extends (copyRegistryNumber env regf key value property f s₂) := by
  unfold copyRegistryNumber getNumberFromRegistry
  have hr := h.registryRead (env.hive.getNumber regf key value)
  split <;> rename_i heq <;> rw [heq] at hr
  · exact hr.setNumber _ _
  · exact hr

theorem languages (h : s₁.Extends s₂) (subkeys : List String) (i : Nat) :
    s₁.Extends (setLanguages subkeys i s₂) := by
  induction subkeys generalizing i s₂ with
  | nil => exact h
  | cons k ks ih => exact ih (h.setString _ _) (i + 1)

theorem uiLanguages (h : s₁.Extends s₂) : s₁.Extends (setUiLanguages env regf s₂) := by
  unfold setUiLanguages listSubkeysInRegistry
  have hr := h.registryRead (env.hive.listSubkeys regf uilanguagesKey)
  split <;> rename_i heq <;> rw [heq] at hr
  · exact hr.languages _ _
  · exact hr

theorem versionRead (h : s₁.Extends s₂) :
    s₁.Extends (versionNumbers env regf s₂).2.2 := by
  unfold versionNumbers getNumberFromRegistry getStringFromRegistry
  have hn := (h.registryRead (env.hive.getNumber regf versionKey
    "CurrentMajorVersionNumber")).registryRead (env.hive.getNumber regf versionKey
    "CurrentMinorVersionNumber")
  dsimp only
  split_ifs
  · have hv := hn.registryRead (env.hive.getString regf versionKey "CurrentVersion")
    split <;> rename_i heq <;> rw [heq] at hv <;> exact hv
  · exact hn

theorem versionProperties (h : s₁.Extends s₂) (major minor : Int) :
    s₁.Extends (setVersionProperties major minor s₂) := by
  unfold setVersionProperties
  split_ifs
  · exact (h.setNumber _ _).setNumber _ _
  · exact h.setNumber _ _
  · exact h

theorem softwareHive (h : s₁.Extends s₂) : s₁.Extends (setInfoFromSoftwareHive env regf s₂) := by
  unfold setInfoFromSoftwareHive
  apply InfoState.Extends.copy
  apply InfoState.Extends.versionProperties
  apply InfoState.Extends.versionRead
  repeat apply InfoState.Extends.copy
  exact h

end InfoState.Extends

open InfoState.Extends

theorem extends_setInfoFromKernel32 (C : BuildConfig) (contents : List UInt8) (s : InfoState) :
    ∃ s', setInfoFromKernel32 C contents s = some s' ∧ s.Extends s' := by
  refine ⟨_, setInfoFromKernel32_eq C contents s, ?_⟩
  cases peArchOf contents
  · exact refl s
  · exact (refl s).setNumber _ _

theorem extends_setDefaultLanguage (env : InfoEnv) (regf : List UInt8) (s : InfoState) :
    ∃ s', setDefaultLanguage env regf s = some s' ∧ s.Extends s' := by
  unfold setDefaultLanguage getStringFromRegistry
  have h := (refl s).registryRead (env.hive.getString regf "ControlSet001\\Control\\Nls\\Language"
    "InstallLanguage")
  split <;> rename_i heq <;> rw [heq] at h
  · exact ⟨_, rfl, h⟩
  · split
    · exact ⟨_, rfl, h⟩
    · rw [(languageIdToName_spec _).1, Option.some_bind]
      split
      · next off hoff =>
        rw [(languageIdToName_spec _).2 off hoff, Option.map_some']
        exact ⟨_, rfl, h.setString _ _⟩
      · exact ⟨_, rfl, h⟩

theorem extends_setInfoFromSystemHive (env : InfoEnv) (regf : List UInt8) (s : InfoState) :
    ∃ s', setInfoFromSystemHive env regf s = some s' ∧ s.Extends s' := by
  unfold setInfoFromSystemHive
  obtain ⟨s', hs', h'⟩ := extends_setDefaultLanguage env regf
    (setUiLanguages env regf (copyRegistryString env regf halKey "MatchingDeviceId" "WINDOWS/HAL"
      (copyRegistryString env regf productoptionsKey "ProductSuite" "WINDOWS/PRODUCTSUITE"
        (copyRegistryString env regf productoptionsKey "ProductType" "WINDOWS/PRODUCTTYPE"
          (copyRegistryNumber env regf windowsKey "CSDVersion" "WINDOWS/VERSION/SPLEVEL" (· >>> 8)
            (copyRegistryNumber env regf windowsKey "CSDBuildNumber" "WINDOWS/VERSION/SPBUILD" id
              s))))))
  exact ⟨s', hs', (((((refl s).copyNumber _ _ _ _).copyNumber _ _ _ _).copy _ _ _).copy
    _ _ _).copy _ _ _ |>.uiLanguages.trans h'⟩

theorem extends_loadFileContents (env : InfoEnv) (path : String) (s : InfoState) :
    s.Extends (loadFileContents env path s).2 := by
  unfold loadFileContents
  split
  · exact refl s
  · exact refl s
  · split
    · exact (refl s).log _
    · exact (refl s).log _

theorem extends_loadHive (env : InfoEnv) (path : String) (s : InfoState) :
    s.Extends (loadHive env path s).2 := by
  unfold loadHive isRegistryValid checkHiveStatus
  have h := extends_loadFileContents env path s
  split <;> rename_i heq <;> rw [heq] at h
  · exact h.log _
  · exact h

theorem extends_kernel32Info (env : InfoEnv) (s : InfoState) :
    ∃ s', kernel32Info env s = some s' ∧ s.Extends s' := by
  unfold kernel32Info
  have h := extends_loadFileContents env kernel32DllPath s
  split <;> rename_i heq <;> rw [heq] at h
  · obtain ⟨s', hs', h'⟩ := extends_setInfoFromKernel32 env.config _
      (setStringProperty "WINDOWS/SYSTEMROOT" "WINDOWS" _)
    exact ⟨s', hs', (h.setString _ _).trans h'⟩
  · exact ⟨_, rfl, h⟩

theorem extends_softwareHiveInfo (env : InfoEnv) (s : InfoState) :
    s.Extends (softwareHiveInfo env s) := by
  unfold softwareHiveInfo
  have h := extends_loadHive env softwareHivePath s
  split <;> rename_i heq <;> rw [heq] at h
  · exact h.softwareHive
  · exact h

theorem extends_systemHiveInfo (env : InfoEnv) (s : InfoState) :
    ∃ s', systemHiveInfo env s = some s' ∧ s.Extends s' := by
  unfold systemHiveInfo
  have h := extends_loadHive env systemHivePath s
  split <;> rename_i heq <;> rw [heq] at h
  · obtain ⟨s', hs', h'⟩ := extends_setInfoFromSystemHive env _ _
    exact ⟨s', hs', h.trans h'⟩
  · exact ⟨_, rfl, h⟩

/-- **Only running out of memory is an error.** Whatever the files of the image, the hives,
the registry functions and the calls to `wimlib_set_image_property` return,
`set_windows_specific_info` reads nothing outside a buffer (the PE header of `kernel32.dll`,
`language_id_map` in the binary search, and the language name `strlen` measures and the loop
copies from `language_names`), returns 0 or `WIMLIB_ERR_NOMEM`, and `WIMLIB_ERR_NOMEM` exactly
when one of the calls it made ran out of memory. -/
theorem setWindowsSpecificInfo_nomem (env : InfoEnv) (s : InfoState) :
    ∃ ret s' cs, setWindowsSpecificInfo env s = some (ret, s') ∧ s'.calls = s.calls ++ cs ∧
      (ret = none ∨ ret = some .nomem) ∧
      (ret = some .nomem ↔ ∃ c ∈ cs, c.outOfMemory = true) := by
  obtain ⟨s₁, h₁, e₁⟩ := extends_kernel32Info env { s with oomEncountered := false }
  obtain ⟨s₃, h₃, e₃⟩ := extends_systemHiveInfo env (softwareHiveInfo env s₁)
  obtain ⟨cs, hcalls, hoom⟩ := e₁.trans ((extends_softwareHiveInfo env s₁).trans e₃)
  refine ⟨if s₃.oomEncountered then some .nomem else none, s₃, cs, ?_, hcalls, ?_, ?_⟩
  · simp only [setWindowsSpecificInfo, h₁, Option.bind_eq_bind, Option.some_bind, h₃,
      Option.pure_def]
  · split_ifs <;> simp
  · simp only [Bool.false_or] at hoom
    rw [hoom, ← List.any_eq_true]
    split_ifs <;> simp_all

end WimLean
