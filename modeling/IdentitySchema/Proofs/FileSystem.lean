/-
  IdentitySchema/Proofs/FileSystem.lean
  =====================================
  **Paths, and trees of files as file systems.**  A path that is given as a
  text is shown as that text (`FilePath.text_ofText`), so replacing what is no
  UTF-8 changes nothing where all is.

  What a directory of a tree lists is found at the path of the directory with
  the name (`FileTree.resolve_entry`), unless that is too long
  (`FileTree.resolve_entry_of_long`).  Steps that stay can be put at the end of
  the path of a directory (`FileTree.resolve_stay`), so the same directory can
  be listed by one path that reaches its entries, and by another that does not.
-/
import IdentitySchema.FileSystem
import IdentitySchema.Proofs.ByteOrder

namespace IdentitySchema

/-! ### Texts of paths -/

namespace Text.Utf8

/-- What a text goes on with after a step. -/
def charsAfter (step : Step) (rest : List UInt8) : List Char :=
  match step with
  | .complete c => c :: lossyChars none rest
  | .more read => lossyChars (some read) rest
  | .invalid => replacement :: lossyChars none rest

theorem lossyChars_none_cons (byte : UInt8) (rest : List UInt8) :
    lossyChars none (byte :: rest) = charsAfter (first byte.toNat) rest := rfl

/-- A byte with which a character goes on gives nothing up. -/
theorem lossyChars_some_cons {read : Partial} {byte : UInt8}
    (h : next read byte.toNat ≠ .invalid) (rest : List UInt8) :
    lossyChars (some read) (byte :: rest) = charsAfter (next read byte.toNat) rest := by
  have hstep : step (some read) byte.toNat = ([], next read byte.toNat) := by
    -- by `h` it is the last case of the match
    simp only [step]
  rw [lossyChars, hstep]
  rfl

theorem Completes.charsAfter_eq {c : Char} {step : Step} {bytes : List UInt8}
    (h : Completes c step bytes) (rest : List UInt8) :
    charsAfter step (bytes ++ rest) = c :: lossyChars none rest := by
  induction h with
  | whole => rfl
  | @part read byte bytes hrest ih =>
    have hnext : next read byte.toNat ≠ .invalid := by
      intro hinvalid
      rw [hinvalid] at hrest
      cases hrest
    rw [← ih]
    exact lossyChars_some_cons hnext (bytes ++ rest)

/-- **A text is shown as it is.** -/
theorem lossy_bytesOf (text : String) : lossy (Json.bytesOf text) = text := by
  have hchars : ∀ chars : List Char,
      lossyChars none (chars.flatMap String.utf8EncodeChar) = chars := by
    intro chars
    induction chars with
    | nil => rfl
    | cons c chars ih =>
      obtain ⟨byte, rest, hbytes, hcompletes⟩ := completes_utf8EncodeChar c
      rw [List.flatMap_cons, hbytes, List.cons_append, lossyChars_none_cons,
        hcompletes.charsAfter_eq, ih]
  rw [lossy, Json.bytesOf_eq_flatMap, hchars, String.ofList_toList]

end Text.Utf8

namespace FilePath

theorem text_ofText (text : String) : (ofText text).text = text :=
  Text.Utf8.lossy_bytesOf text

/-! ### Longer paths -/

/-- The path with so many steps at its end that stay where they are. -/
def stay (path : FilePath) (n : Nat) : FilePath :=
  ⟨path.bytes ++ (List.replicate n [separator, 0x2e]).flatten⟩

theorem length_stay (path : FilePath) (n : Nat) :
    (path.stay n).bytes.length = path.bytes.length + 2 * n := by
  simp [stay, List.length_flatten, Nat.mul_comm]

theorem steps_stay (path : FilePath) (n : Nat) :
    (path.stay n).steps = path.steps ++ List.replicate n [0x2e] := by
  unfold stay steps
  dsimp only
  induction n generalizing path with
  | zero => simp
  | succ n ih =>
    have hone : path.bytes ++ (List.replicate (n + 1) [separator, 0x2e]).flatten =
        (⟨path.bytes ++ separator :: [0x2e]⟩ : FilePath).bytes ++
          (List.replicate n [separator, 0x2e]).flatten := by
      simp [List.replicate_succ]
    have hdot : [(0x2e : UInt8)].splitOn separator = [[0x2e]] := by decide
    rw [hone, ih, List.splitOn_append_cons_self, hdot, List.replicate_succ]
    simp

variable {path : FilePath} {name : FileName}

/-- The path does not end with a separator, so one is put before the name of an entry. -/
def IsOpen (path : FilePath) : Prop :=
  ∃ last, path.bytes.getLast? = some last ∧ last ≠ separator

theorem isOpen_stay (path : FilePath) (n : Nat) : (path.stay (n + 1)).IsOpen := by
  refine ⟨0x2e, ?_, by decide⟩
  simp [stay, List.replicate_succ']

theorem IsOpen.entry_eq (h : path.IsOpen) (name : FileName) :
    path.entry name = ⟨path.bytes ++ separator :: name⟩ := by
  obtain ⟨last, hlast, hne⟩ := h
  simp [entry, hlast, hne]

theorem IsOpen.steps_entry (h : path.IsOpen) (hname : separator ∉ name) :
    (path.entry name).steps = path.steps ++ [name] := by
  rw [h.entry_eq, steps, List.splitOn_append_cons_self, List.splitOn_eq_singleton hname]
  rfl

end FilePath

/-! ### Trees -/

namespace FileTree

variable {above : List FileTree} {here found root tree : FileTree} {steps : List FileName}
  {path : FilePath} {name : FileName} {entries : List (FileName × FileTree)}

theorem resolve_of_long (root : FileTree) (h : pathLimit < path.bytes.length) :
    root.resolve path = .error .nameTooLong :=
  if_pos h

theorem resolve_of_short (root : FileTree) (h : path.bytes.length ≤ pathLimit) :
    root.resolve path = (root.follow [] path.steps).map node :=
  if_neg (Nat.not_lt.mpr h)

/-- Further steps are followed from where the first ones lead. -/
theorem exists_follow_append (h : follow above here steps = .ok found) :
    ∃ further, ∀ more, follow above here (steps ++ more) = follow further found more := by
  induction above, here, steps using follow.induct with
  | case1 above here =>
    simp only [follow, Except.ok.injEq] at h
    exact ⟨above, fun more => by rw [h, List.nil_append]⟩
  | case2 above step rest content => simp only [follow, reduceCtorEq] at h
  | case3 above step rest others hstay ih =>
    simp only [List.cons_append, follow, hstay, if_true] at h ⊢
    exact ih h
  | case4 rest others hback ih =>
    simp only [List.cons_append, follow, hback, if_true, if_false] at h ⊢
    exact ih h
  | case5 rest others parent further hback ih =>
    simp only [List.cons_append, follow, hback, if_true, if_false] at h ⊢
    exact ih h
  | case6 above step rest others hstay hback next hentry ih =>
    simp only [List.cons_append, follow, hstay, hback, if_false, hentry] at h ⊢
    exact ih h
  | case7 above step rest others hstay hback problem hentry =>
    simp only [follow, hstay, hback, if_false, hentry, reduceCtorEq] at h

theorem follow_replicate (above : List FileTree) (entries : List (FileName × FileTree)) (n : Nat) :
    follow above (.directory entries) (List.replicate n [0x2e]) = .ok (.directory entries) := by
  induction n with
  | zero => simp only [List.replicate_zero, follow]
  | succ n ih => simp only [List.replicate_succ, follow, or_true, if_true, ih]

/-- **Steps that stay.**  A directory is also found by a path with such steps at its end, as long as
the path is not too long. -/
theorem resolve_stay {n : Nat} (h : follow [] root path.steps = .ok (.directory entries))
    (hlength : (path.stay n).bytes.length ≤ pathLimit) :
    root.resolve (path.stay n) = .ok (node (.directory entries)) := by
  obtain ⟨further, hmore⟩ := exists_follow_append h
  rw [resolve_of_short root hlength, FilePath.steps_stay, hmore, follow_replicate]
  rfl

/-- The name is a step that enters a directory. -/
structure IsName (name : FileName) : Prop where
  no_separator : FilePath.separator ∉ name
  enters : ¬ (name = [] ∨ name = [0x2e])
  not_back : name ≠ [0x2e, 0x2e]
  length_le : name.length ≤ nameLimit

/-- **What is listed is found.**  An entry of a directory stands at the path of the directory with
its name, as long as the path is not too long. -/
theorem resolve_entry (h : follow [] root path.steps = .ok (.directory entries))
    (hopen : path.IsOpen) (hname : IsName name)
    (hentry : entries.find? (fun entry => entry.1 == name) = some (name, tree))
    (hlength : (path.entry name).bytes.length ≤ pathLimit) :
    root.resolve (path.entry name) = .ok tree.node := by
  obtain ⟨further, hmore⟩ := exists_follow_append h
  have hfound : (directory entries).child? name = .ok tree := by
    rw [child?, if_neg (Nat.not_lt.mpr hname.length_le), hentry]
  have henter : follow further (.directory entries) [name] = .ok tree := by
    simp only [follow, hname.enters, hname.not_back, if_false, hfound]
  rw [resolve_of_short root hlength, hopen.steps_entry hname.no_separator, hmore, henter]
  rfl

/-- An entry of a directory is not found by a path that is too long with its name. -/
theorem resolve_entry_of_long (root : FileTree) (hopen : path.IsOpen)
    (hlength : pathLimit ≤ path.bytes.length + name.length) :
    root.resolve (path.entry name) = .error .nameTooLong := by
  apply resolve_of_long
  rw [hopen.entry_eq, List.length_append, List.length_cons]
  omega

end FileTree

end IdentitySchema
