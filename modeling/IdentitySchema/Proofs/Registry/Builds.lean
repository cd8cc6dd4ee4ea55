/-
  IdentitySchema/Proofs/Registry/Builds.lean
  ==========================================
  **What a built registry depends on.**  A builder is configured by calls of
  three kinds, and only the order of the calls of one kind counts
  (`configured_eq`).  The build asks the directories in the order in which
  they were named, and fails with the first fault it meets
  (`build_eq_error_iff`); without a fault the registry holds, under each id,
  the schema of the latest source (`build_eq_ok_iff`).

  A file that does not load is a fault only where it can be seen that it is
  one: a directory may be listed by a path by which nothing can be found out
  about its entries, and then nothing is loaded and nothing fails
  (`document_out_of_reach`).
-/
import IdentitySchema.Proofs.Bundled.Documents
import IdentitySchema.Proofs.FileSystem
import IdentitySchema.Proofs.Registry.Directories

namespace IdentitySchema

/-! ### The bundled schemas -/

namespace Bundled

/-- The bundled core schemas; there are some (`coreSchemas_eq`). -/
def core : List Schema := coreSchemas.toOption.getD []

/-- The bundled extension schemas; there are some (`extensionSchemas_eq`). -/
def extension : List Schema := extensionSchemas.toOption.getD []

theorem coreSchemas_eq : coreSchemas = .ok core := by
  obtain ⟨user, group, hschemas, -⟩ := exists_coreSchemas
  rw [core, hschemas]
  rfl

theorem extensionSchemas_eq : extensionSchemas = .ok extension := by
  obtain ⟨enterpriseUser, hschemas, -⟩ := exists_extensionSchemas
  rw [extension, hschemas]
  rfl

end Bundled

namespace Registry

/-! ### Directories one after the other -/

variable {files : FileSystem} {paths : List FilePath} {failure : Failure}

/-- Why some directories do not load: the first of them that does not. -/
def FirstFault (files : FileSystem) (paths : List FilePath) (failure : Failure) : Prop :=
  ∃ before path after, paths = before ++ path :: after ∧
    (∀ earlier ∈ before, DirectoryLoads files earlier) ∧ DirectoryFault files path failure

theorem insertDirectories_of_loads (h : ∀ path ∈ paths, DirectoryLoads files path)
    (r : Registry) :
    paths.foldlM (fun r path => r.insertDirectory files path) r =
      .ok (r.insertAll (paths.flatMap (schemasIn files))) := by
  induction paths generalizing r with
  | nil => rfl
  | cons path rest ih =>
    obtain ⟨hpath, hrest⟩ := List.forall_mem_cons.mp h
    rw [List.foldlM_cons, insertDirectory_of_loads hpath, ok_bind, ih hrest, List.flatMap_cons,
      insertAll_append]

theorem insertDirectories_of_firstFault (h : FirstFault files paths failure) (r : Registry) :
    paths.foldlM (fun r path => r.insertDirectory files path) r = .error failure := by
  obtain ⟨before, path, after, rfl, hbefore, hfault⟩ := h
  rw [List.foldlM_append, insertDirectories_of_loads hbefore, ok_bind, List.foldlM_cons,
    insertDirectory_of_fault hfault, error_bind]

theorem allLoad_or_firstFault (files : FileSystem) (paths : List FilePath) :
    (∀ path ∈ paths, DirectoryLoads files path) ∨ ∃ failure, FirstFault files paths failure := by
  by_cases hall : ∀ path ∈ paths, DirectoryLoads files path
  · exact .inl hall
  · obtain ⟨before, path, after, hpaths, hbefore, hnot⟩ := exists_first_not hall
    obtain ⟨failure, hfault⟩ := (directoryLoads_or_fault files path).resolve_left hnot
    exact .inr ⟨failure, before, path, after, hpaths, hbefore, hfault⟩

theorem exists_firstFault_iff :
    (∃ failure, FirstFault files paths failure) ↔
      ∃ path ∈ paths, ∃ failure, DirectoryFault files path failure := by
  constructor
  · rintro ⟨failure, before, path, after, rfl, -, hfault⟩
    exact ⟨path, List.mem_append_right _ List.mem_cons_self, failure, hfault⟩
  · rintro ⟨path, hpath, failure, hfault⟩
    rcases allLoad_or_firstFault files paths with hall | hfirst
    · exact absurd hfault (not_directoryFault (hall path hpath))
    · exact hfirst

namespace Builder

/-! ### Calls -/

/-- A call that configures a builder. -/
inductive Call where
  | bundled (included : Bool)
  | directory (path : FilePath)
  | schema (s : Schema)

namespace Call

def apply (b : Builder) : Call → Builder
  | .bundled included => b.withBundled included
  | .directory path => b.withPath path
  | .schema s => b.withSchema s

def bundled? : Call → Option Bool
  | .bundled included => some included
  | _ => none

def directory? : Call → Option FilePath
  | .directory path => some path
  | _ => none

def schema? : Call → Option Schema
  | .schema s => some s
  | _ => none

end Call

variable {calls : List Call}

/-- The builder after some calls on a fresh one. -/
def configured (calls : List Call) : Builder :=
  calls.foldl Call.apply {}

/-- What the last call about the bundled schemas said; without one they are included. -/
def includesBundled (calls : List Call) : Bool :=
  (calls.filterMap Call.bundled?).getLast?.getD true

/-- The directories that the calls name, in order. -/
def namedDirectories (calls : List Call) : List FilePath :=
  calls.filterMap Call.directory?

/-- The schemas that the calls give outright, in order. -/
def givenSchemas (calls : List Call) : List Schema :=
  calls.filterMap Call.schema?

theorem foldl_apply (b : Builder) :
    calls.foldl Call.apply b =
      ⟨(calls.filterMap Call.bundled?).getLast?.getD b.bundled,
        b.directories ++ namedDirectories calls, b.schemas ++ givenSchemas calls⟩ := by
  induction calls generalizing b with
  | nil => simp [namedDirectories, givenSchemas]
  | cons call rest ih =>
    rw [List.foldl_cons, ih]
    cases call with
    | bundled included =>
      simp [Call.apply, withBundled, namedDirectories, givenSchemas, Call.bundled?,
        Call.directory?, Call.schema?, List.filterMap_cons, List.getLast?_cons]
    | directory path =>
      simp [Call.apply, withPath, namedDirectories, givenSchemas, Call.bundled?,
        Call.directory?, Call.schema?, List.filterMap_cons]
    | schema s =>
      simp [Call.apply, withSchema, namedDirectories, givenSchemas, Call.bundled?,
        Call.directory?, Call.schema?, List.filterMap_cons]

/-- Calls of different kinds do not disturb each other. -/
theorem configured_eq (calls : List Call) :
    configured calls = ⟨includesBundled calls, namedDirectories calls, givenSchemas calls⟩ :=
  foldl_apply {}

/-! ### Builds -/

variable {b : Builder} {r : Registry}

/-- All schemas that go into a registry, the ones from earlier sources first. -/
def sources (b : Builder) (files : FileSystem) : List Schema :=
  (if b.bundled then Bundled.core ++ Bundled.extension else []) ++
    b.directories.flatMap (schemasIn files) ++ b.schemas

theorem initial_eq (b : Builder) :
    b.initial = .ok (ofList (if b.bundled then Bundled.core ++ Bundled.extension else [])) := by
  unfold initial
  split
  · rw [Bundled.coreSchemas_eq, Bundled.extensionSchemas_eq]
    rfl
  · rfl

theorem build_of_loads (h : ∀ path ∈ b.directories, DirectoryLoads files path) :
    b.build files = .ok (ofList (b.sources files)) := by
  rw [build, initial_eq, ok_bind, insertDirectories_of_loads h, ok_bind, insertAll_ofList,
    insertAll_ofList]
  rfl

theorem build_of_firstFault (h : FirstFault files b.directories failure) :
    b.build files = .error failure := by
  rw [build, initial_eq, ok_bind, insertDirectories_of_firstFault h, error_bind]

theorem build_eq_ok_iff :
    b.build files = .ok r ↔
      (∀ path ∈ b.directories, DirectoryLoads files path) ∧ r = ofList (b.sources files) :=
  eq_ok_iff_of_outcomes build_of_loads (fun _ h => build_of_firstFault h)
    (allLoad_or_firstFault files b.directories)

theorem build_eq_error_iff :
    b.build files = .error failure ↔ FirstFault files b.directories failure :=
  eq_error_iff_of_outcomes build_of_loads (fun _ h => build_of_firstFault h)
    (allLoad_or_firstFault files b.directories)

theorem build_congr {others : FileSystem} (h : Relisted files others) (b : Builder) :
    b.build files = b.build others := by
  have hstep : (fun (r : Registry) path => r.insertDirectory files path) =
      fun r path => r.insertDirectory others path := by
    funext r path
    exact insertDirectory_congr h r path
  unfold build
  rw [hstep]

/-- **A built registry depends on its sources only.**  The build fails with the first fault of the
named directories, and there is one exactly when some directory cannot be listed or some document in
it gives no schema, for which it is enough that it cannot be opened.  The documents of a directory
are the entries with the extension `json` that the file system shows to be regular files; an entry
whose metadata cannot be read is none.  Otherwise the registry holds under each id the schema of the
latest source with that id, where bundled schemas come before directories, directories before
schemas that are given outright, and the documents of a directory in the order of the bytes of their
names.

So the result stays the same when calls of different kinds change places, and when directories list
their entries in another order. -/
theorem build_follows_sources (calls : List Call) (files : FileSystem) :
    (∀ failure, (configured calls).build files = .error failure ↔
      FirstFault files (namedDirectories calls) failure) ∧
    ((∃ failure, (configured calls).build files = .error failure) ↔
      ∃ path ∈ namedDirectories calls,
        (∃ problem, files.listDirectory path = .error problem) ∨
        ∃ names name source, files.listDirectory path = .ok names ∧ name ∈ names ∧
          files.isFile (path.entry name) = true ∧ isDocumentName name = true ∧
          Schema.ofFile files (path.entry name) = .error source) ∧
    (∀ path names, (documents files path names).Perm
        (names.filter fun name => files.isFile (path.entry name) && isDocumentName name) ∧
      (documents files path names).Pairwise (· ≤ ·)) ∧
    (Bundled.coreSchemas = .ok Bundled.core ∧ Bundled.extensionSchemas = .ok Bundled.extension) ∧
    (∀ r, (configured calls).build files = .ok r →
      (∀ path ∈ namedDirectories calls, DirectoryLoads files path) ∧
      ∀ id,
        r.get? id = latest?
          ((if includesBundled calls then Bundled.core ++ Bundled.extension else []) ++
            (namedDirectories calls).flatMap (schemasIn files) ++ givenSchemas calls) id ∧
        ∀ s, latest? (givenSchemas calls) id = some s → r.get? id = some s) ∧
    (∀ others relisted, includesBundled others = includesBundled calls →
      namedDirectories others = namedDirectories calls →
      givenSchemas others = givenSchemas calls → Relisted files relisted →
      (configured others).build relisted = (configured calls).build files) := by
  refine ⟨?fault, ?fails, ?documents, ⟨Bundled.coreSchemas_eq, Bundled.extensionSchemas_eq⟩,
    ?holds, ?same⟩
  case fault =>
    intro failure
    rw [build_eq_error_iff, configured_eq]
  case fails =>
    simp only [build_eq_error_iff, configured_eq, exists_firstFault_iff, exists_directoryFault_iff]
  case documents =>
    exact fun path names => ⟨documents_perm files path names, pairwise_documents files path names⟩
  case holds =>
    intro r hr
    rw [configured_eq] at hr
    obtain ⟨hloads, rfl⟩ := build_eq_ok_iff.mp hr
    refine ⟨hloads, fun id => ?_⟩
    rw [get?_ofList, sources]
    refine ⟨rfl, ?_⟩
    intro s hs
    rw [latest?_append, hs, Option.some_or]
  case same =>
    intro others relisted hbundled hdirectories hgiven hrelisted
    rw [configured_eq, configured_eq, hbundled, hdirectories, hgiven]
    exact (build_congr hrelisted _).symm

def lampDocument (name : Json) : Json.Members :=
  [("id", .string "urn:lamp"), ("name", name)]

def lampStream (name : String) : Stream :=
  ⟨Json.bytesOf (Json.object (lampDocument (.string name))).compact, none⟩

/-- Two schemas of lamps, an entry of which nothing can be found out, and a text. -/
def lampNames : List FileName :=
  ["a.json", "b.json", "lost.json", "readme.txt"].map Json.bytesOf

/-- A directory with these, listed in the order of `names`. The text cannot be opened. -/
def lampFiles (names : List FileName) : FileSystem := fun path =>
  if path = "lamps" then .ok (.directory (.ok names))
  else if path = "lamps/a.json" then .ok (.file (.ok (lampStream "Old")))
  else if path = "lamps/b.json" then .ok (.file (.ok (lampStream "New")))
  else if path = "lamps/readme.txt" then .ok (.file (.error .permissionDenied))
  else .error .permissionDenied

/-- A schema of lamps without a name. -/
def lamp : Schema where
  toDeclaration := .ofDocument .resource (lampDocument .null) []
  wellShaped := by decide

theorem relisted_lampFiles {names others : List FileName} (h : names.Perm others) :
    Relisted (lampFiles names) (lampFiles others) := by
  intro path
  unfold lampFiles
  split
  · exact .directory h
  · exact .same _

theorem documents_lampFiles :
    documents (lampFiles lampNames) "lamps" lampNames = ["a.json", "b.json"].map Json.bytesOf := by
  have hsorted : sortedNames lampNames = lampNames := List.mergeSort_of_pairwise (by decide)
  rw [documents, hsorted]
  decide

/-- The lamp that is given outright is held, though it was given before the directory was named,
and whatever order the directory is listed in. -/
theorem given_lamp_overrides_documents :
    Relisted (lampFiles lampNames) (lampFiles lampNames.reverse) ∧
    (configured [.bundled true, .directory "lamps", .bundled false, .schema lamp]).build
        (lampFiles lampNames.reverse) =
      (configured [.schema lamp, .directory "lamps", .bundled false]).build
        (lampFiles lampNames) ∧
    ∃ r, (configured [.schema lamp, .directory "lamps", .bundled false]).build
        (lampFiles lampNames) = .ok r ∧
      r.get? "urn:lamp" = some lamp := by
  have hrelisted : Relisted (lampFiles lampNames) (lampFiles lampNames.reverse) :=
    relisted_lampFiles (List.reverse_perm _).symm
  have hloads : AllLoad (lampFiles lampNames) "lamps"
      (documents (lampFiles lampNames) "lamps" lampNames) := by
    rw [documents_lampFiles]
    exact List.forall_mem_cons.mpr ⟨⟨_, rfl⟩, List.forall_mem_singleton.mpr ⟨_, rfl⟩⟩
  have hbuild : ∃ r, (configured [.schema lamp, .directory "lamps", .bundled false]).build
      (lampFiles lampNames) = .ok r := by
    refine ⟨_, build_of_loads ?_⟩
    exact List.forall_mem_singleton.mpr ⟨lampNames, rfl, hloads⟩
  obtain ⟨r, hr⟩ := hbuild
  obtain ⟨-, -, -, -, hholds, hsame⟩ :=
    build_follows_sources [.schema lamp, .directory "lamps", .bundled false] (lampFiles lampNames)
  refine ⟨hrelisted, hsame _ _ rfl rfl rfl hrelisted, r, hr, ?_⟩
  exact ((hholds r hr).2 "urn:lamp").2 lamp rfl

/-- The name of a document with so many letters. -/
def lettered (n : Nat) : FileName := List.replicate n 0x61 ++ Json.bytesOf ".json"

theorem length_lettered (n : Nat) : (lettered n).length = n + 5 := by
  rw [lettered, List.length_append, List.length_replicate]
  rfl

theorem isDocumentName_lettered (n : Nat) : isDocumentName (lettered (n + 1)) = true :=
  isDocumentName_iff.mpr ⟨List.replicate (n + 1) 0x61, by simp, rfl⟩

theorem isName_lettered {n : Nat} (h : n + 5 ≤ FileTree.nameLimit) :
    FileTree.IsName (lettered n) where
  no_separator := by
    rw [lettered, List.mem_append]
    rintro (hletter | hend)
    · exact absurd (List.eq_of_mem_replicate hletter) (by decide)
    · exact absurd hend (by decide)
  enters := by
    have hlength := length_lettered n
    rintro (hempty | hstay)
    · simp [hempty] at hlength
    · simp [hstay] at hlength
  not_back := by
    intro hback
    have hlength := length_lettered n
    simp [hback] at hlength
  length_le := (length_lettered n).trans_le h

/-- The name of a document, as long as names can be. -/
def longName : FileName := lettered 250

theorem length_longName : longName.length = 255 := length_lettered 250

theorem isName_longName : FileTree.IsName longName := isName_lettered (by decide)

/-- A directory with nothing but a document of that name, which is no JSON. -/
def longNamed : FileTree :=
  .directory [(Json.bytesOf "it", .directory [(longName, .file (Json.bytesOf "x"))])]

/-- The directory, by a path that is too long with the name of the document. -/
def roundabout : FilePath := FilePath.stay "it" 1919

theorem follow_longNamed : FileTree.follow [] longNamed (FilePath.ofText "it").steps =
    .ok (.directory [(longName, .file (Json.bytesOf "x"))]) := rfl

theorem resolve_roundabout :
    longNamed.resolve roundabout = .ok (.directory (.ok [longName])) := by
  apply FileTree.resolve_stay follow_longNamed
  rw [FilePath.length_stay]
  decide

theorem resolve_longName :
    longNamed.resolve (FilePath.entry "it" longName) =
      .ok (.file (.ok ⟨Json.bytesOf "x", none⟩)) := by
  have hopen : FilePath.IsOpen "it" := ⟨_, rfl, by decide⟩
  have hfound : [(longName, FileTree.file (Json.bytesOf "x"))].find?
      (fun entry => entry.1 == longName) = some (longName, .file (Json.bytesOf "x")) :=
    List.find?_cons_of_pos (beq_self_eq_true _)
  refine FileTree.resolve_entry follow_longNamed hopen isName_longName hfound ?_
  rw [hopen.entry_eq, List.length_append, List.length_cons, length_longName]
  decide

theorem resolve_roundabout_longName :
    longNamed.resolve (roundabout.entry longName) = .error .nameTooLong := by
  apply FileTree.resolve_entry_of_long
  · exact FilePath.isOpen_stay _ _
  · rw [roundabout, FilePath.length_stay, length_longName]
    decide

theorem documents_roundabout : documents longNamed.resolve roundabout [longName] = [] := by
  have hfile : FileSystem.isFile longNamed.resolve (roundabout.entry longName) = false := by
    rw [FileSystem.isFile, resolve_roundabout_longName]
  simp [documents, sortedNames, hfile]

/-- A directory can be listed by a path by which the document in it is not found. The document does
not load, by that path or by another, but the build does not fail. -/
theorem document_out_of_reach :
    longNamed.resolve "it" = .ok (.directory (.ok [longName])) ∧
    longNamed.resolve roundabout = longNamed.resolve "it" ∧
    isDocumentName longName = true ∧
    longNamed.resolve (FilePath.entry "it" longName) =
      .ok (.file (.ok ⟨Json.bytesOf "x", none⟩)) ∧
    (∃ source, Schema.ofFile longNamed.resolve (FilePath.entry "it" longName) = .error source) ∧
    Schema.ofFile longNamed.resolve (roundabout.entry longName) = .error (.file .nameTooLong) ∧
    (configured [.bundled false, .directory roundabout]).build longNamed.resolve =
      .ok Registry.empty := by
  have hlist : FileSystem.listDirectory longNamed.resolve roundabout = .ok [longName] := by
    rw [FileSystem.listDirectory, resolve_roundabout]
    rfl
  have hloads : DirectoryLoads longNamed.resolve roundabout := by
    refine ⟨[longName], hlist, ?_⟩
    rw [documents_roundabout]
    exact List.forall_mem_nil _
  have hbuild : (configured [.bundled false, .directory roundabout]).build longNamed.resolve =
      .ok (ofList (sources ⟨false, [roundabout], []⟩ longNamed.resolve)) :=
    build_of_loads (List.forall_mem_singleton.mpr hloads)
  have hsources : sources ⟨false, [roundabout], []⟩ longNamed.resolve = [] := by
    simp [sources, schemasIn, hlist, documents_roundabout, schemasOf]
  refine ⟨rfl, resolve_roundabout, isDocumentName_lettered 249, resolve_longName, ?_, ?_, ?_⟩
  · rw [Schema.ofFile, FileSystem.openFile, resolve_longName]
    exact ⟨_, rfl⟩
  · rw [Schema.ofFile, FileSystem.openFile, resolve_roundabout_longName]
    rfl
  · rw [hbuild, hsources]
    rfl

end Builder

end Registry

end IdentitySchema
