/-
  IdentitySchema/Proofs/Registry/Directories.lean
  ===============================================
  **What a directory puts into a registry.**  The documents of a directory are
  its entries with the extension `json` that the file system shows to be
  regular files, in the order of the bytes of their names (`documents_perm`,
  `pairwise_documents`).  Whether such a file can be opened is another matter.

  Loading a directory has two outcomes, and it is said here of each when it
  comes about: either all documents give schemas and these are put in one
  after the other (`DirectoryLoads`), or the directory cannot be listed or has
  a first document that gives no schema (`DirectoryFault`).  Neither depends
  on the order in which the directory lists its entries
  (`insertDirectory_congr`).
-/
import IdentitySchema.Proofs.Failures
import IdentitySchema.Proofs.Registry
import IdentitySchema.Registry.Builder

namespace IdentitySchema

variable {files : FileSystem} {path : FilePath} {names : List FileName} {name : FileName}

/-! ### The documents of a directory -/

theorem FileSystem.isFile_iff :
    files.isFile path = true ↔ ∃ opened, files path = .ok (.file opened) := by
  unfold FileSystem.isFile
  cases files path with
  | error problem => simp
  | ok node => cases node <;> simp [FileNode.isFile]

/-- The extension is what follows the last dot, if that is not the first byte of the name. -/
theorem extension?_eq_some_iff {extension : List UInt8} :
    extension? name = some extension ↔
      ∃ stem, stem ≠ [] ∧ name = stem ++ 0x2e :: extension ∧ 0x2e ∉ extension := by
  constructor
  · intro h
    have hsplit :=
      List.takeWhile_append_dropWhile (p := fun byte => byte != 0x2e) (l := name.reverse)
    unfold extension? at h
    dsimp only at h
    split at h
    · rename_i dot last before hdrop
      obtain rfl := Option.some.inj h
      have hdot : dot = 0x2e := by
        have hhead := List.head?_dropWhile_not (fun byte : UInt8 => byte != 0x2e) name.reverse
        rw [hdrop] at hhead
        simpa using hhead
      refine ⟨(last :: before).reverse, by simp, ?_, ?_⟩
      · rw [hdrop, hdot] at hsplit
        have hname := congrArg List.reverse hsplit
        simpa using hname.symm
      · intro hmem
        have hall := List.all_takeWhile (p := fun byte : UInt8 => byte != 0x2e) (l := name.reverse)
        have hbefore := List.all_eq_true.mp hall _ (List.mem_reverse.mp hmem)
        simp at hbefore
    · cases h
  · rintro ⟨stem, hstem, rfl, hdot⟩
    have hplain : ∀ byte ∈ extension.reverse, (byte != 0x2e) = true := by
      intro byte hbyte
      rw [bne_iff_ne]
      rintro rfl
      exact hdot (List.mem_reverse.mp hbyte)
    have hreverse : (stem ++ 0x2e :: extension).reverse =
        extension.reverse ++ 0x2e :: stem.reverse := by simp
    unfold extension?
    dsimp only
    rw [hreverse, List.dropWhile_append_of_pos hplain, List.takeWhile_append_of_pos hplain]
    cases hlast : stem.reverse with
    | nil => exact absurd (List.reverse_eq_nil_iff.mp hlast) hstem
    | cons last before => simp

/-- A document is named with something before `.json`. -/
theorem isDocumentName_iff :
    isDocumentName name = true ↔ ∃ stem, stem ≠ [] ∧ name = stem ++ Json.bytesOf ".json" := by
  have hbytes : Json.bytesOf ".json" = 0x2e :: Json.bytesOf "json" := rfl
  have hdot : 0x2e ∉ Json.bytesOf "json" := by decide
  rw [isDocumentName, beq_iff_eq, extension?_eq_some_iff, hbytes]
  simp [hdot]

theorem sortedNames_perm (names : List FileName) : (sortedNames names).Perm names :=
  List.mergeSort_perm _ _

theorem pairwise_sortedNames (names : List FileName) : (sortedNames names).Pairwise (· ≤ ·) := by
  have htrans : ∀ a b c : FileName, decide (a ≤ b) = true → decide (b ≤ c) = true →
      decide (a ≤ c) = true := by
    intro a b c hab hbc
    exact decide_eq_true (List.le_trans (of_decide_eq_true hab) (of_decide_eq_true hbc))
  have htotal : ∀ a b : FileName, (decide (a ≤ b) || decide (b ≤ a)) = true := by
    intro a b
    rw [Bool.or_eq_true, decide_eq_true_eq, decide_eq_true_eq]
    exact List.le_total a b
  apply (List.pairwise_mergeSort htrans htotal names).imp
  intro a b h
  exact of_decide_eq_true h

/-- Names have one order, however they are listed. -/
theorem sortedNames_eq_of_perm {others : List FileName} (h : names.Perm others) :
    sortedNames names = sortedNames others := by
  have hperm : (sortedNames names).Perm (sortedNames others) :=
    (sortedNames_perm names).trans (h.trans (sortedNames_perm others).symm)
  exact hperm.eq_of_pairwise (fun _ _ _ _ => List.le_antisymm) (pairwise_sortedNames names)
    (pairwise_sortedNames others)

namespace Registry

variable {docs : List FileName}

theorem documents_perm (files : FileSystem) (path : FilePath) (names : List FileName) :
    (documents files path names).Perm
      (names.filter fun name => files.isFile (path.entry name) && isDocumentName name) :=
  (sortedNames_perm names).filter _

theorem mem_documents :
    name ∈ documents files path names ↔
      name ∈ names ∧ files.isFile (path.entry name) = true ∧ isDocumentName name = true := by
  rw [(documents_perm files path names).mem_iff, List.mem_filter, Bool.and_eq_true]

/-- The documents are in the order of the bytes of their names. -/
theorem pairwise_documents (files : FileSystem) (path : FilePath) (names : List FileName) :
    (documents files path names).Pairwise (· ≤ ·) :=
  (pairwise_sortedNames names).filter _

/-! ### Loading documents -/

/-- Every one of the documents gives a schema. -/
def AllLoad (files : FileSystem) (path : FilePath) (docs : List FileName) : Prop :=
  ∀ name ∈ docs, ∃ s, Schema.ofFile files (path.entry name) = .ok s

/-- The schemas of those documents that give one. -/
def schemasOf (files : FileSystem) (path : FilePath) (docs : List FileName) : List Schema :=
  docs.filterMap fun name => (Schema.ofFile files (path.entry name)).toOption

theorem insertDocuments_of_allLoad (h : AllLoad files path docs) (r : Registry) :
    r.insertDocuments files path docs = .ok (r.insertAll (schemasOf files path docs)) := by
  induction docs generalizing r with
  | nil => rfl
  | cons name rest ih =>
    obtain ⟨⟨s, hs⟩, hrest⟩ := List.forall_mem_cons.mp h
    have hschemas : schemasOf files path (name :: rest) = s :: schemasOf files path rest := by
      simp only [schemasOf, List.filterMap_cons, hs, Except.toOption]
    rw [insertDocuments, hs, hschemas]
    exact ih hrest (r.insert s)

/-- The first document that gives no schema ends the loading. -/
theorem insertDocuments_of_refused {before after : List FileName} {source : Failure}
    (hbefore : AllLoad files path before)
    (hrefused : Schema.ofFile files (path.entry name) = .error source) (r : Registry) :
    r.insertDocuments files path (before ++ name :: after) =
      .error (.schemaLoad (path.entry name).text source) := by
  induction before generalizing r with
  | nil => rw [List.nil_append, insertDocuments, hrefused]
  | cons other rest ih =>
    obtain ⟨⟨s, hs⟩, hrest⟩ := List.forall_mem_cons.mp hbefore
    rw [List.cons_append, insertDocuments, hs]
    exact ih hrest (r.insert s)

/-! ### Loading directories -/

/-- The directory can be listed, and every document in it gives a schema. -/
def DirectoryLoads (files : FileSystem) (path : FilePath) : Prop :=
  ∃ names, files.listDirectory path = .ok names ∧ AllLoad files path (documents files path names)

/-- The schemas of the documents of a directory, in order. -/
def schemasIn (files : FileSystem) (path : FilePath) : List Schema :=
  match files.listDirectory path with
  | .ok names => schemasOf files path (documents files path names)
  | .error _ => []

/-- Why a directory does not load: it cannot be listed, or it has a first document that gives no
schema. -/
inductive DirectoryFault (files : FileSystem) (path : FilePath) : Failure → Prop
  | unlisted {problem : FileProblem} (hlist : files.listDirectory path = .error problem) :
      DirectoryFault files path (.schemaLoad path.text (.file problem))
  | refused {names before after : List FileName} {name : FileName} {source : Failure}
      (hlist : files.listDirectory path = .ok names)
      (hdocs : documents files path names = before ++ name :: after)
      (hbefore : AllLoad files path before)
      (hrefused : Schema.ofFile files (path.entry name) = .error source) :
      DirectoryFault files path (.schemaLoad (path.entry name).text source)

variable {failure : Failure}

/-- A document that cannot be opened is a fault, with its path and the problem. -/
theorem DirectoryFault.closed {before after : List FileName} {problem : FileProblem}
    (hlist : files.listDirectory path = .ok names)
    (hdocs : documents files path names = before ++ name :: after)
    (hbefore : AllLoad files path before)
    (hclosed : files (path.entry name) = .ok (.file (.error problem))) :
    DirectoryFault files path (.schemaLoad (path.entry name).text (.file problem)) := by
  refine .refused hlist hdocs hbefore ?_
  rw [Schema.ofFile, FileSystem.openFile, hclosed]
  rfl

theorem insertDirectory_of_loads (h : DirectoryLoads files path) (r : Registry) :
    r.insertDirectory files path = .ok (r.insertAll (schemasIn files path)) := by
  obtain ⟨names, hlist, hall⟩ := h
  rw [insertDirectory, schemasIn, hlist]
  exact insertDocuments_of_allLoad hall r

theorem insertDirectory_of_fault (h : DirectoryFault files path failure) (r : Registry) :
    r.insertDirectory files path = .error failure := by
  cases h with
  | unlisted hlist => rw [insertDirectory, hlist]
  | refused hlist hdocs hbefore hrefused =>
    rw [insertDirectory, hlist]
    dsimp only
    rw [hdocs]
    exact insertDocuments_of_refused hbefore hrefused r

theorem directoryLoads_or_fault (files : FileSystem) (path : FilePath) :
    DirectoryLoads files path ∨ ∃ failure, DirectoryFault files path failure := by
  cases hlist : files.listDirectory path with
  | error problem => exact .inr ⟨_, .unlisted hlist⟩
  | ok names =>
    by_cases hall : AllLoad files path (documents files path names)
    · exact .inl ⟨names, hlist, hall⟩
    · obtain ⟨before, name, after, hdocs, hbefore, hnot⟩ := exists_first_not hall
      obtain ⟨source, hrefused⟩ := exists_eq_error hnot
      exact .inr ⟨_, .refused hlist hdocs hbefore hrefused⟩

theorem insertDirectory_eq_ok_iff {r loaded : Registry} :
    r.insertDirectory files path = .ok loaded ↔
      DirectoryLoads files path ∧ loaded = r.insertAll (schemasIn files path) :=
  eq_ok_iff_of_outcomes (fun h => insertDirectory_of_loads h r)
    (fun _ h => insertDirectory_of_fault h r) (directoryLoads_or_fault files path)

theorem insertDirectory_eq_error_iff {r : Registry} :
    r.insertDirectory files path = .error failure ↔ DirectoryFault files path failure :=
  eq_error_iff_of_outcomes (fun h => insertDirectory_of_loads h r)
    (fun _ h => insertDirectory_of_fault h r) (directoryLoads_or_fault files path)

theorem not_directoryFault (h : DirectoryLoads files path) :
    ¬ DirectoryFault files path failure := by
  intro hfault
  have hloaded := insertDirectory_of_loads h empty
  rw [insertDirectory_of_fault hfault] at hloaded
  cases hloaded

/-- A directory does not load exactly when it cannot be listed, or some document in it gives no
schema. -/
theorem exists_directoryFault_iff :
    (∃ failure, DirectoryFault files path failure) ↔
      (∃ problem, files.listDirectory path = .error problem) ∨
        ∃ names name source, files.listDirectory path = .ok names ∧ name ∈ names ∧
          files.isFile (path.entry name) = true ∧ isDocumentName name = true ∧
          Schema.ofFile files (path.entry name) = .error source := by
  constructor
  · rintro ⟨failure, hfault⟩
    cases hfault with
    | unlisted hlist => exact .inl ⟨_, hlist⟩
    | @refused names before after name source hlist hdocs hbefore hrefused =>
      have hmem : name ∈ documents files path names := by
        rw [hdocs]
        simp
      obtain ⟨hentry, hfile, hname⟩ := mem_documents.mp hmem
      exact .inr ⟨names, name, source, hlist, hentry, hfile, hname, hrefused⟩
  · rintro (⟨problem, hlist⟩ | ⟨names, name, source, hlist, hentry, hfile, hname, hrefused⟩)
    · exact ⟨_, .unlisted hlist⟩
    · rcases directoryLoads_or_fault files path with ⟨others, hothers, hall⟩ | hfault
      · rw [hlist] at hothers
        cases hothers
        obtain ⟨s, hs⟩ := hall name (mem_documents.mpr ⟨hentry, hfile, hname⟩)
        rw [hrefused] at hs
        cases hs
      · exact hfault

/-! ### Orders of listing -/

/-- Two answers of a file system that are the same, apart from the order in which the entries of a
directory are listed. -/
inductive SameUpToListing : Except FileProblem FileNode → Except FileProblem FileNode → Prop
  | same (found : Except FileProblem FileNode) : SameUpToListing found found
  | directory {names others : List FileName} (hperm : names.Perm others) :
      SameUpToListing (.ok (.directory (.ok names))) (.ok (.directory (.ok others)))

/-- Two file systems in which the same stands at each path, though it may be listed in another
order. -/
def Relisted (files others : FileSystem) : Prop :=
  ∀ path, SameUpToListing (files path) (others path)

section Relisted

variable {others : FileSystem}

theorem Relisted.isFile_eq (h : Relisted files others) (path : FilePath) :
    files.isFile path = others.isFile path := by
  have hsame := h path
  unfold FileSystem.isFile
  generalize files path = found at hsame ⊢
  generalize others path = other at hsame ⊢
  cases hsame <;> rfl

theorem Relisted.ofFile_eq (h : Relisted files others) (path : FilePath) :
    Schema.ofFile files path = Schema.ofFile others path := by
  have hsame := h path
  unfold Schema.ofFile FileSystem.openFile
  generalize files path = found at hsame ⊢
  generalize others path = other at hsame ⊢
  -- a directory that is listed is not read, whatever the order of its entries
  cases hsame <;> rfl

theorem Relisted.documents_eq (h : Relisted files others) (path : FilePath)
    {otherNames : List FileName} (hperm : names.Perm otherNames) :
    documents files path names = documents others path otherNames := by
  simp only [documents, sortedNames_eq_of_perm hperm, h.isFile_eq]

theorem Relisted.insertDocuments_eq (h : Relisted files others) (r : Registry) (path : FilePath)
    (docs : List FileName) :
    r.insertDocuments files path docs = r.insertDocuments others path docs := by
  induction docs generalizing r with
  | nil => rfl
  | cons name rest ih =>
    rw [insertDocuments, insertDocuments, h.ofFile_eq]
    cases Schema.ofFile others (path.entry name) with
    | ok s => exact ih (r.insert s)
    | error source => rfl

/-- The two are listed with the same problem, or with the same names. -/
theorem Relisted.listDirectory (h : Relisted files others) (path : FilePath) :
    (∃ problem, files.listDirectory path = .error problem ∧
      others.listDirectory path = .error problem) ∨
    ∃ names otherNames, files.listDirectory path = .ok names ∧
      others.listDirectory path = .ok otherNames ∧ names.Perm otherNames := by
  have hsame := h path
  unfold FileSystem.listDirectory
  generalize files path = found at hsame ⊢
  generalize others path = other at hsame ⊢
  cases hsame with
  | same found =>
    cases (found >>= FileNode.listing) with
    | error problem => exact .inl ⟨problem, rfl, rfl⟩
    | ok names => exact .inr ⟨names, names, rfl, rfl, .refl names⟩
  | @directory names others hperm => exact .inr ⟨names, others, rfl, rfl, hperm⟩

/-- What a directory puts into a registry does not depend on the order in which it is listed. -/
theorem insertDirectory_congr (h : Relisted files others) (r : Registry) (path : FilePath) :
    r.insertDirectory files path = r.insertDirectory others path := by
  unfold insertDirectory
  rcases h.listDirectory path with
    ⟨problem, hlist, hother⟩ | ⟨names, otherNames, hlist, hother, hperm⟩
  · rw [hlist, hother]
  · rw [hlist, hother]
    dsimp only
    rw [h.documents_eq path hperm, h.insertDocuments_eq]

end Relisted

end Registry

end IdentitySchema
