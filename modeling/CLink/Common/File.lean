import CLink.Common.Fields

/-!
# Files

`cl_file.c` on a host of byte order `e`, over the files of the platform: `σ` is their state, and
`clal_load_file` and `clal_save_file` are parameters.

* `FileSystem.Faithful`          what `clal.h` says about the two;
* `clFileSave_load`              a saved object is read back;
* `clFileSaveIfModified_load`    so it is when nothing had to be written.
-/

namespace CLink
open Bytes

/-! ## the platform -/

/-- the files of a platform; `none` and `false` are `return -1` -/
structure FileSystem (σ : Type) where
  clalLoadFile (files : σ) (fullpath : List UInt8) (size1 size2 : Nat) :
    Option (List UInt8 × List UInt8)
  clalSaveFile (files : σ) (fullpath object1 object2 : List UInt8) : Bool × σ

/-- loading fills both objects, and finds what has been saved -/
structure FileSystem.Faithful {σ : Type} (fs : FileSystem σ) : Prop where
  loaded : ∀ {files fullpath size1 size2 object1 object2},
    fs.clalLoadFile files fullpath size1 size2 = some (object1, object2) →
      object1.length = size1 ∧ object2.length = size2
  saved : ∀ {files fullpath object1 object2},
    (fs.clalSaveFile files fullpath object1 object2).1 = true →
      fs.clalLoadFile (fs.clalSaveFile files fullpath object1 object2).2 fullpath object1.length
        object2.length = some (object1, object2)

/-- `CL_MAX_DIRECTORYPATH_SIZE` and `CL_USE_BACKSLASH_PATH_SEPARATOR` -/
structure FileOptions where
  maxDirectorypathSize : Nat
  useBackslashPathSeparator : Bool

/-- including its termination -/
abbrev maxFilenameSize : Nat := 30

def FileOptions.maxFileFullpathSize (o : FileOptions) : Nat :=
  o.maxDirectorypathSize + maxFilenameSize

abbrev clFileMagic : UInt32 := 0x434C4E4B
abbrev clFileVersion : UInt32 := 0x00000001

/-- the characters of a terminated string -/
def stringBytes (s : String) : List UInt8 := s.toList.map fun c => UInt8.ofNat c.toNat

def clmFilenameParamNo : List UInt8 := stringBytes "clm_data_param_no.bin"

/-! ## paths -/

/-- the size of the joined path, with its termination -/
def requiredBufferSize (useDirectory addSlash : Bool) (directory filename : List UInt8) : Nat :=
  (if useDirectory then directory.length else 0) + (if addSlash then 1 else 0) + filename.length + 1

def clFileJoinDirectoryFilename (directory : Option (List UInt8)) (filename : List UInt8)
    (size : Nat) (useWindowsPath : Bool) : Option (List UInt8) :=
  let separator : UInt8 := if useWindowsPath then 0x5C else 0x2F
  if filename.length < 1 then none
  else
    let directory := directory.getD []
    let useDirectory : Bool := directory.length > 0
    let addSlash : Bool := useDirectory && directory.getLast? ≠ some separator
    if requiredBufferSize useDirectory addSlash directory filename > size then none
    else
      some ((if useDirectory then directory else []) ++ (if addSlash then [separator] else [])
        ++ filename)

/-! ## load and save -/

/-- `cl_file_header_t` as the host sees it -/
structure FileHeader where
  magic : UInt32
  version : UInt32

namespace FileHeader

abbrev size : Nat := 8

def ofBuffer (e : Endian) (b : Nat → UInt8) : FileHeader :=
  { magic := e.raw32 b 0, version := e.raw32 b 4 }

def bytes (e : Endian) (h : FileHeader) : List UInt8 := field32 e h.magic ++ field32 e h.version

theorem ofBuffer_bytes (e : Endian) (h : FileHeader) : ofBuffer e (bufferOf (h.bytes e)) = h := by
  unfold ofBuffer
  rw [bytes, raw32_bufferOf (x := h.magic) rfl, raw32_bufferOf (x := h.version) (t := []) rfl]

end FileHeader

section
variable {σ : Type} (fs : FileSystem σ) (o : FileOptions) (e : Endian)

/-- the loaded object; its callers do not use the object of a failed call -/
def clFileLoad (files : σ) (directory : Option (List UInt8)) (filename : List UInt8) (size : Nat) :
    Option (List UInt8) :=
  match clFileJoinDirectoryFilename directory filename o.maxFileFullpathSize
      o.useBackslashPathSeparator with
  | none => none
  | some path =>
    match fs.clalLoadFile files path FileHeader.size size with
    | none => none
    | some (header, object) =>
      let fileHeader := FileHeader.ofBuffer e (bufferOf header)
      if e.be32 fileHeader.magic ≠ clFileMagic then none
      else if e.be32 fileHeader.version ≠ clFileVersion then none
      else some object

def clFileSave (files : σ) (directory : Option (List UInt8)) (filename object : List UInt8) :
    Bool × σ :=
  match clFileJoinDirectoryFilename directory filename o.maxFileFullpathSize
      o.useBackslashPathSeparator with
  | none => (false, files)
  | some path =>
    let fileHeader : FileHeader := { magic := e.be32 clFileMagic, version := e.be32 clFileVersion }
    fs.clalSaveFile files path (fileHeader.bytes e) object

/-- the return value and the files -/
def clFileSaveIfModified (files : σ) (directory : Option (List UInt8))
    (filename object : List UInt8) : Int × σ :=
  let (ret, save) : Int × Bool :=
    match clFileLoad fs o e files directory filename object.length with
    | some tempobject => if tempobject ≠ object then (1, true) else (0, false)
    | none => (2, true)
  if save then
    let r := clFileSave fs o e files directory filename object
    (if r.1 = false then -1 else ret, r.2)
  else (ret, files)

variable {fs o e} {files : σ} {directory : Option (List UInt8)} {filename object : List UInt8}

theorem clFileSave_load (hfs : fs.Faithful)
    (h : (clFileSave fs o e files directory filename object).1 = true) :
    clFileLoad fs o e (clFileSave fs o e files directory filename object).2 directory filename
      object.length = some object := by
  unfold clFileLoad
  unfold clFileSave at h ⊢
  cases hpath : clFileJoinDirectoryFilename directory filename o.maxFileFullpathSize
      o.useBackslashPathSeparator with
  | none =>
    rw [hpath] at h
    cases h
  | some path =>
    rw [hpath] at h
    have hheader : (FileHeader.bytes e
        { magic := e.be32 clFileMagic, version := e.be32 clFileVersion }).length = FileHeader.size :=
      rfl
    have hload := hfs.saved h
    rw [hheader] at hload
    dsimp only at hload ⊢
    rw [hload]
    dsimp only
    rw [FileHeader.ofBuffer_bytes, if_neg (by simp), if_neg (by simp)]

/-- **A saved object is read back.**  A call that does not fail leaves the object in the file, whether
it had to write or not. -/
theorem clFileSaveIfModified_load (hfs : fs.Faithful)
    (h : (clFileSaveIfModified fs o e files directory filename object).1 ≠ -1) :
    clFileLoad fs o e (clFileSaveIfModified fs o e files directory filename object).2 directory
      filename object.length = some object := by
  have hsave : (clFileSave fs o e files directory filename object).1 ≠ false →
      clFileLoad fs o e (clFileSave fs o e files directory filename object).2 directory filename
        object.length = some object :=
    fun hne => clFileSave_load hfs ((Bool.not_eq_false _).mp hne)
  unfold clFileSaveIfModified at h ⊢
  cases hload : clFileLoad fs o e files directory filename object.length with
  | none =>
    rw [hload] at h
    dsimp only at h ⊢
    rw [if_pos rfl] at h ⊢
    exact hsave fun hfalse => h (if_pos hfalse)
  | some tempobject =>
    rw [hload] at h
    dsimp only at h ⊢
    by_cases hsame : tempobject = object
    · -- nothing has to be written
      subst hsame
      rw [if_neg (not_not.mpr rfl)]
      exact hload
    · rw [if_pos hsame] at h ⊢
      dsimp only at h ⊢
      rw [if_pos rfl] at h ⊢
      exact hsave fun hfalse => h (if_pos hfalse)

end

end CLink
