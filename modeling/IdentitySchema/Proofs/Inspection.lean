/-
  IdentitySchema/Proofs/Inspection.lean
  =====================================
  **What the command line says about a directory.**  The command line goes
  over the entries of a directory whose names are those of documents, and so
  does the registry; but the registry goes over regular files only, while the
  command line also tries to read a directory with such a name, and counts it
  as an invalid document.

  So the exit code says whether the directory loads, as long as every entry
  that is named like a document is a regular file
  (`inspect_directory_exitCode`).
-/
import IdentitySchema.Inspection
import IdentitySchema.Proofs.Registry.Directories

namespace IdentitySchema.Inspection

open Registry

variable {files : FileSystem} {path : FilePath} {names : List FileName} {name : FileName}

/-- Some entry with the name of a document is no regular file: it is a directory, or nothing can be
found out about it. -/
def HasStray (files : FileSystem) (path : FilePath) (names : List FileName) : Prop :=
  ∃ name ∈ names, isDocumentName name = true ∧ files.isFile (path.entry name) = false

/-- No entry with the name of a document is a pipe or the like, from which something could be read
though it is no file. -/
def NoneSpecial (files : FileSystem) (path : FilePath) (names : List FileName) : Prop :=
  ∀ name ∈ names, isDocumentName name = true →
    ∀ opened, files (path.entry name) ≠ .ok (.special opened)

/-! ### Entries and documents -/

theorem mem_documentNames :
    name ∈ documentNames names ↔ name ∈ names ∧ isDocumentName name = true := by
  rw [documentNames, List.mem_filter, (sortedNames_perm names).mem_iff]

/-- Where no regular file stands, none is read. -/
theorem not_exists_ofFile (hfile : files.isFile path = false)
    (hspecial : ∀ opened, files path ≠ .ok (.special opened)) :
    ¬ ∃ s, Schema.ofFile files path = .ok s := by
  rintro ⟨s, hs⟩
  unfold Schema.ofFile FileSystem.openFile at hs
  cases hfound : files path with
  | error problem =>
    rw [hfound] at hs
    cases hs
  | ok node =>
    rw [hfound] at hs
    cases node with
    | file opened =>
      rw [FileSystem.isFile_iff.mpr ⟨opened, hfound⟩] at hfile
      cases hfile
    | directory listing => cases listing <;> cases hs
    | special opened => exact hspecial opened hfound

/-- All entries with the name of a document are valid exactly when all documents load and each of
these entries is a regular file. -/
theorem forall_ofFile_iff (hspecial : NoneSpecial files path names) :
    (∀ name ∈ documentNames names, ∃ s, Schema.ofFile files (path.entry name) = .ok s) ↔
      AllLoad files path (documents files path names) ∧ ¬ HasStray files path names := by
  constructor
  · intro hall
    constructor
    · intro name hdocument
      obtain ⟨hentry, -, hname⟩ := mem_documents.mp hdocument
      exact hall name (mem_documentNames.mpr ⟨hentry, hname⟩)
    · rintro ⟨name, hentry, hname, hfile⟩
      exact not_exists_ofFile hfile (hspecial name hentry hname)
        (hall name (mem_documentNames.mpr ⟨hentry, hname⟩))
  · rintro ⟨hload, hnone⟩ name hmem
    obtain ⟨hentry, hname⟩ := mem_documentNames.mp hmem
    cases hfile : files.isFile (path.entry name) with
    | true => exact hload name (mem_documents.mpr ⟨hentry, hfile, hname⟩)
    | false => exact absurd ⟨name, hentry, hname, hfile⟩ hnone

/-- Without strays the command line and the registry go over the same entries. -/
theorem documentNames_eq (h : ¬ HasStray files path names) :
    documentNames names = documents files path names := by
  refine List.filter_congr fun name hmem => ?_
  have hentry := (sortedNames_perm names).mem_iff.mp hmem
  cases hname : isDocumentName name with
  | false => simp
  | true =>
    cases hfile : files.isFile (path.entry name) with
    | true => rfl
    | false => exact absurd ⟨name, hentry, hname, hfile⟩ h

/-! ### The transcript -/

/-- The names of the entries that are looked at, each with what it gives. -/
def results (files : FileSystem) (path : FilePath) (names : List FileName) :
    List (FileName × Except Failure Schema) :=
  (documentNames names).map fun name => (name, Schema.ofFile files (path.entry name))

/-- The number of entries that give a schema. -/
def validCount (files : FileSystem) (path : FilePath) (names : List FileName) : Nat :=
  (results files path names).countP fun result => result.2.isOk

theorem validCount_eq_length_iff (hspecial : NoneSpecial files path names) :
    validCount files path names = (results files path names).length ↔
      AllLoad files path (documents files path names) ∧ ¬ HasStray files path names := by
  rw [validCount, List.countP_eq_length, ← forall_ofFile_iff hspecial, results,
    List.forall_mem_map]
  have hok : ∀ result : Except Failure Schema, result.isOk = true ↔ ∃ s, result = .ok s := by
    intro result
    cases result with
    | ok s => simp [Except.isOk, Except.toBool]
    | error failure => simp [Except.isOk, Except.toBool]
  simp only [hok]

/-- What is printed before the registry is loaded. -/
def countLines (files : FileSystem) (path : String) (names : List FileName) : List OutputLine :=
  .out ("Validating schemas in directory: " ++ path)
    :: (results files path names).flatMap (fun result => inspectEntry result.1 result.2)
    ++ [.out "\nValidation Summary:",
      .out ("  Valid schemas: " ++ toString (validCount files path names)),
      .out ("  Invalid schemas: " ++
        toString ((results files path names).length - validCount files path names))]

theorem inspectEntries_eq (files : FileSystem) (path : String) (names : List FileName) :
    inspectEntries files path names =
      if (results files path names).length - validCount files path names = 0 then
        ⟨countLines files path names ++ .out "\nTesting schema registry loading..." ::
            (inspectRegistry (ofDirectory files path)).lines,
          (inspectRegistry (ofDirectory files path)).exitCode⟩
      else ⟨countLines files path names, 1⟩ :=
  rfl

theorem inspectRegistry_exitCode {result : Except Failure Registry} :
    (inspectRegistry result).exitCode = 0 ↔ ∃ r, result = .ok r := by
  cases result with
  | ok r => simp [inspectRegistry]
  | error failure => simp [inspectRegistry]

theorem length_sub_validCount (hspecial : NoneSpecial files path names) :
    (results files path names).length - validCount files path names = 0 ↔
      AllLoad files path (documents files path names) ∧ ¬ HasStray files path names := by
  rw [← validCount_eq_length_iff hspecial]
  have hle : validCount files path names ≤ (results files path names).length :=
    List.countP_le_length
  omega

end IdentitySchema.Inspection

namespace IdentitySchema

open Inspection Registry

variable {files : FileSystem} {names : List FileName}

theorem exists_ofDirectory_iff {path : FilePath}
    (hdirectory : files path = .ok (.directory (.ok names))) :
    (∃ r, ofDirectory files path = .ok r) ↔ AllLoad files path (documents files path names) := by
  have hlist : files.listDirectory path = .ok names := by
    rw [FileSystem.listDirectory, hdirectory]
    rfl
  have hloads : DirectoryLoads files path ↔ AllLoad files path (documents files path names) := by
    constructor
    · rintro ⟨others, hothers, hall⟩
      rw [hlist] at hothers
      cases hothers
      exact hall
    · intro hall
      exact ⟨names, hlist, hall⟩
  rw [ofDirectory, ← hloads]
  constructor
  · rintro ⟨r, hr⟩
    exact (insertDirectory_eq_ok_iff.mp hr).1
  · intro h
    exact ⟨_, insertDirectory_of_loads h _⟩

variable {path : String}

theorem inspect_directory (program : String) (rest : List String)
    (hdirectory : files path = .ok (.directory (.ok names))) :
    inspect program files (path :: rest) = inspectEntries files path names := by
  rw [inspect, hdirectory]
  rfl

theorem inspectEntries_exitCode (hdirectory : files path = .ok (.directory (.ok names)))
    (hspecial : NoneSpecial files path names) :
    (inspectEntries files path names).exitCode = 0 ↔
      AllLoad files path (documents files path names) ∧ ¬ HasStray files path names := by
  rw [inspectEntries_eq, ← length_sub_validCount hspecial]
  split
  · rename_i hvalid
    have hall := ((length_sub_validCount hspecial).mp hvalid).1
    simp only [hvalid, iff_true]
    exact inspectRegistry_exitCode.mpr ((exists_ofDirectory_iff hdirectory).mpr hall)
  · rename_i hinvalid
    simp [hinvalid]

/-- If all documents load, the summary counts them. -/
theorem exists_summary_of_allLoad (hspecial : NoneSpecial files path names)
    (hall : AllLoad files path (documents files path names))
    (hnone : ¬ HasStray files path names) :
    ∃ before after, (inspectEntries files path names).lines =
      before ++ [.out "\nValidation Summary:",
        .out ("  Valid schemas: " ++ toString (documents files path names).length),
        .out ("  Invalid schemas: " ++ toString 0)] ++ after := by
  have hvalid := (validCount_eq_length_iff hspecial).mpr ⟨hall, hnone⟩
  have hcount : validCount files path names = (documents files path names).length := by
    rw [hvalid, results, List.length_map, documentNames_eq hnone]
  have hinvalid : (results files path names).length - validCount files path names = 0 :=
    (length_sub_validCount hspecial).mpr ⟨hall, hnone⟩
  refine ⟨.out ("Validating schemas in directory: " ++ path)
    :: (results files path names).flatMap (fun result => inspectEntry result.1 result.2),
    .out "\nTesting schema registry loading..." ::
      (inspectRegistry (ofDirectory files path)).lines, ?_⟩
  rw [inspectEntries_eq, if_pos hinvalid, countLines, hinvalid, hcount]

/-- **The exit code for a directory.**  It is zero exactly when the directory loads into a registry
and each entry in it that is named like a document is a regular file. Then the number of valid
schemas that is printed is the number of documents that are loaded. -/
theorem inspect_directory_exitCode (program : String) (rest : List String)
    (hdirectory : files path = .ok (.directory (.ok names)))
    (hspecial : NoneSpecial files path names) :
    ((inspect program files (path :: rest)).exitCode = 0 ↔
      (∃ r, ofDirectory files path = .ok r) ∧ ¬ HasStray files path names) ∧
    ((inspect program files (path :: rest)).exitCode = 0 →
      ∃ before after, (inspect program files (path :: rest)).lines =
        before ++ [.out "\nValidation Summary:",
          .out ("  Valid schemas: " ++ toString (documents files path names).length),
          .out ("  Invalid schemas: " ++ toString 0)] ++ after) := by
  have hexit := inspectEntries_exitCode hdirectory hspecial
  rw [inspect_directory program rest hdirectory, exists_ofDirectory_iff hdirectory]
  refine ⟨hexit, ?_⟩
  intro hzero
  obtain ⟨hall, hnone⟩ := hexit.mp hzero
  exact exists_summary_of_allLoad hspecial hall hnone

def deviceNames : List FileName :=
  ["device.json", "old", "readme.txt"].map Json.bytesOf

/-- A directory with a schema of devices, a directory and a text. -/
def deviceFiles : FileSystem := fun path =>
  if path = "schemas" then .ok (.directory (.ok deviceNames))
  else if path = "schemas/device.json" then
    .ok (.file (.ok ⟨Json.bytesOf (Json.object [("id", .string "urn:device")]).compact, none⟩))
  else if path = "schemas/readme.txt" then .ok (.file (.ok ⟨[], none⟩))
  else .ok (.directory (.ok []))

theorem sortedNames_deviceNames : sortedNames deviceNames = deviceNames :=
  List.mergeSort_of_pairwise (by decide)

theorem documents_deviceFiles :
    documents deviceFiles "schemas" deviceNames = [Json.bytesOf "device.json"] := by
  rw [documents, sortedNames_deviceNames]
  decide

theorem allLoad_deviceFiles :
    AllLoad deviceFiles "schemas" (documents deviceFiles "schemas" deviceNames) := by
  rw [documents_deviceFiles]
  exact List.forall_mem_singleton.mpr ⟨_, rfl⟩

theorem not_hasStray_deviceFiles : ¬ HasStray deviceFiles "schemas" deviceNames := by
  unfold HasStray
  decide

theorem noneSpecial_deviceFiles : NoneSpecial deviceFiles "schemas" deviceNames := by
  intro name _ _ opened hspecial
  unfold deviceFiles at hspecial
  repeat' split at hspecial
  all_goals cases hspecial

/-- The directory with the device is found valid, and one valid schema is printed. -/
theorem device_directory_valid :
    deviceFiles "schemas" = .ok (.directory (.ok deviceNames)) ∧
    NoneSpecial deviceFiles "schemas" deviceNames ∧
    (inspect "schema-validator" deviceFiles ["schemas"]).exitCode = 0 ∧
    ∃ before after, (inspect "schema-validator" deviceFiles ["schemas"]).lines =
      before ++ [.out "\nValidation Summary:", .out ("  Valid schemas: " ++ toString 1),
        .out ("  Invalid schemas: " ++ toString 0)] ++ after := by
  have hdirectory : deviceFiles "schemas" = .ok (.directory (.ok deviceNames)) := rfl
  obtain ⟨hexit, hprinted⟩ :=
    inspect_directory_exitCode "schema-validator" [] hdirectory noneSpecial_deviceFiles
  have hloads := (exists_ofDirectory_iff hdirectory).mpr allLoad_deviceFiles
  have hzero := hexit.mpr ⟨hloads, not_hasStray_deviceFiles⟩
  have hone := hprinted hzero
  rw [documents_deviceFiles] at hone
  exact ⟨hdirectory, noneSpecial_deviceFiles, hzero, hone⟩

/-- A directory that holds nothing but a directory called `x.json`. -/
def nestedFiles : FileSystem := fun path =>
  .ok (.directory (.ok (if path = "s" then [Json.bytesOf "x.json"] else [])))

/-- The registry is loaded from such a directory, but the command line refuses it. -/
theorem nested_directory_refused :
    (∃ r, ofDirectory nestedFiles "s" = .ok r) ∧
      (inspect "schema-validator" nestedFiles ["s"]).exitCode = 1 := by
  have hsorted : sortedNames [Json.bytesOf "x.json"] = [Json.bytesOf "x.json"] :=
    List.mergeSort_of_pairwise (by decide)
  have hdirectory : nestedFiles "s" = .ok (.directory (.ok [Json.bytesOf "x.json"])) := rfl
  constructor
  · rw [exists_ofDirectory_iff hdirectory, documents, hsorted]
    exact List.forall_mem_nil _
  · have hresults : results nestedFiles "s" [Json.bytesOf "x.json"] =
        [(Json.bytesOf "x.json", .error (.json (.unreadable .isADirectory)))] := by
      rw [results, documentNames, hsorted]
      rfl
    rw [inspect_directory _ _ hdirectory, inspectEntries_eq, validCount, hresults]
    rfl

end IdentitySchema
