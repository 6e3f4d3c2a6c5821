/-
  File:      Kalm/Files/Operations.lean
  Subject:   FILES IN A CONFIG MAP: `AddFile`, `UpdateFile`, `DeleteFile` and `CleanUpConfigMap` of
             controller/lib/files/files.go.

  * `addFile`, `updateFile`, `deleteFile`, `cleanUpConfigMap` -- the operations;
  * `WellFormed` -- the root is there, and the ancestors of every key are directories;
  * `AddFollows`, `UpdateFollows`, `DeleteFollows`, `CleanFollows` -- what is intended of each operation;
  * `addFollows_iff`, `deleteFollows_iff`, `cleanFollows_iff` -- where the operations do it.
-/
import Kalm.Files.Paths
import Kalm.Lib.Tables

namespace Kalm.Files

open Mirror (Table)
open Parts (heads)

/-! ## 1. Operations -/

/-- The data of a config map. -/
abbrev ConfigMap := Table Str Str

/-- `KALM_DIR_PLACEHOLDER`: a directory that was created for what is below it. -/
def dirPlaceholder : Str := str "__DIR__"

/-- `KALM_PERSISTENT_DIR_PLACEHOLDER`: a directory that a user created. -/
def persistentDirPlaceholder : Str := str "__PDIR__"

/-- The content marks a directory. -/
def marksDir (content : Str) : Bool := content = dirPlaceholder || content = persistentDirPlaceholder

/-- `File`. -/
structure File where
  path : Str
  isDir : Bool
  content : Str

/-- The errors, and the panic of `file.Path[1:]`. -/
inductive FileError where
  | exists
  | underFile (path dirName : Str)
  | missing
  | isDirectory (path : Str)
  | sliceBounds
  deriving DecidableEq

/-- Their texts. -/
def FileError.text : FileError → Str
  | .exists => str "File or dir Exist"
  | .underFile path dirName =>
    str "Can't create file at " ++ path ++ str ", " ++ dirName ++ str " exists and it's not a dir."
  | .missing => str "File or dir doesn't exist"
  | .isDirectory path => path ++ str " is a dir, not a file"
  | .sliceBounds => str "runtime error: slice bounds out of range [1:0]"

/-- The error of an operation, and the config map behind it. -/
abbrev Changed := Option FileError × ConfigMap

/-- The directories of a path are created where they are missing, from the outside. -/
def addDirs (path : Str) : List Str → ConfigMap → Changed
  | [], m => (none, m)
  | dirName :: dirs, m =>
    match m.lookup dirName with
    | some data => if marksDir data then addDirs path dirs m else (some (.underFile path dirName), m)
    | none => addDirs path dirs (m.insert dirName dirPlaceholder)

/-- What is written for a file, or for a directory. -/
def File.entry (file : File) : Str := if file.isDir then persistentDirPlaceholder else file.content

/-- `AddFile`. -/
def addFile (m : ConfigMap) (file : File) (replaceExisting : Bool) : Changed :=
  if (m.lookup (encodeFilePath file.path)).isSome ∧ replaceExisting = false then (some .exists, m)
  else if file.path = [] then (some .sliceBounds, m)
  else
    match addDirs file.path (pathDirs file.path) m with
    | (some e, m') => (some e, m')
    | (none, m') => (none, m'.insert (encodeFilePath file.path) file.entry)

/-- `UpdateFile`. -/
def updateFile (m : ConfigMap) (file : File) : Changed :=
  match m.lookup (encodeFilePath file.path) with
  | none => (some .missing, m)
  | some data =>
    if marksDir data then (some (.isDirectory file.path), m)
    else (none, m.insert (encodeFilePath file.path) file.content)

/-- The keys below a directory. -/
def keysBelow (m : ConfigMap) (key : Str) : List Str := m.keys.filter fun k => (key ++ slashReplacer).isPrefixOf k

/-- `DeleteFile`. -/
def deleteFile (m : ConfigMap) (path : Str) : Changed :=
  match m.lookup (encodeFilePath path) with
  | none => (some .missing, m)
  | some data =>
    (none, (if marksDir data then Tables.eraseAll m (keysBelow m (encodeFilePath path)) else m).erase
      (encodeFilePath path))

/-- `validDirs`: what is in front of a separator in the key of a file, or of a directory that a user created. -/
def validDirs (m : ConfigMap) : List Str :=
  (m.entries.filter fun e => e.2 ≠ dirPlaceholder).flatMap fun e => heads slashReplacer e.1

/-- The directories that are cleaned up. -/
def uselessDirs (m : ConfigMap) : List Str :=
  (m.keys.filter fun k => m.lookup k = some dirPlaceholder).filter fun k => k ∉ validDirs m

/-- `CleanUpConfigMap`. -/
def cleanUpConfigMap (m : ConfigMap) : ConfigMap := Tables.eraseAll m (uselessDirs m)

/-! ## 2. What is intended -/

/-- There is a directory. -/
def IsDir (m : ConfigMap) (key : Str) : Prop := ∃ content, m.lookup key = some content ∧ marksDir content = true

/-- There is a file. -/
def IsFile (m : ConfigMap) (key : Str) : Prop := ∃ content, m.lookup key = some content ∧ marksDir content = false

/-- **The tree is well formed**: the root is there, and the ancestors of every key are directories. -/
structure WellFormed (m : ConfigMap) : Prop where
  root : IsDir m slashReplacer
  above : ∀ key ∈ m, ∀ a ∈ ancestors key, IsDir m a

/-- **A file is added**, or nothing happens. -/
structure AddFollows (m : ConfigMap) (file : File) (replaceExisting : Bool) : Prop where
  wellFormed : WellFormed (addFile m file replaceExisting).2
  unchanged : (addFile m file replaceExisting).1 ≠ none → (addFile m file replaceExisting).2 = m
  stored : (addFile m file replaceExisting).1 = none →
    (addFile m file replaceExisting).2.lookup (encodeFilePath file.path) = some file.entry
  others : (addFile m file replaceExisting).1 = none → ∀ key, key ≠ encodeFilePath file.path →
    (addFile m file replaceExisting).2.lookup key = m.lookup key ∨
      m.lookup key = none ∧ key ∈ pathDirs file.path ∧
        (addFile m file replaceExisting).2.lookup key = some dirPlaceholder

/-- **A file is updated**, or nothing happens. -/
structure UpdateFollows (m : ConfigMap) (file : File) : Prop where
  wellFormed : WellFormed (updateFile m file).2
  unchanged : (updateFile m file).1 ≠ none → (updateFile m file).2 = m
  stored : (updateFile m file).1 = none →
    (updateFile m file).2.lookup (encodeFilePath file.path) = some file.content
  others : ∀ key, key ≠ encodeFilePath file.path → (updateFile m file).2.lookup key = m.lookup key

/-- **A file is deleted**, or nothing happens. -/
structure DeleteFollows (m : ConfigMap) (path : Str) : Prop where
  wellFormed : WellFormed (deleteFile m path).2
  unchanged : (deleteFile m path).1 ≠ none → (deleteFile m path).2 = m

/-- There is a file, or a directory that a user created, below a key. -/
def InUse (m : ConfigMap) (key : Str) : Prop :=
  ∃ k content, m.lookup k = some content ∧ content ≠ dirPlaceholder ∧ key ∈ ancestors k

/-- **The directories that are not in use go**, and nothing else. -/
structure CleanFollows (m : ConfigMap) : Prop where
  wellFormed : WellFormed (cleanUpConfigMap m)
  removed : ∀ key ∈ m, key ∉ cleanUpConfigMap m ↔ m.lookup key = some dirPlaceholder ∧ ¬ InUse m key
  kept : ∀ key ∈ cleanUpConfigMap m, (cleanUpConfigMap m).lookup key = m.lookup key

/-! ## 3. Creating directories -/

variable {m m' : ConfigMap} {path key a : Str} {dirs : List Str} {file : File} {replaceExisting : Bool}

theorem IsDir.not_isFile (h : IsDir m key) : ¬ IsFile m key := by
  rintro ⟨content, hcontent, hfile⟩
  obtain ⟨content', hcontent', hdir⟩ := h
  rw [hcontent, Option.some_inj] at hcontent'
  rw [hcontent', hdir] at hfile
  cases hfile

theorem isDir_or_isFile (h : key ∈ m) : IsDir m key ∨ IsFile m key := by
  obtain ⟨content, hcontent⟩ := Option.isSome_iff_exists.mp (AList.lookup_isSome.mpr h)
  cases hmark : marksDir content with
  | true => exact Or.inl ⟨content, hcontent, hmark⟩
  | false => exact Or.inr ⟨content, hcontent, hmark⟩

theorem IsDir.mem (h : IsDir m key) : key ∈ m := by
  obtain ⟨content, hcontent, _⟩ := h
  exact AList.lookup_isSome.mp (by rw [hcontent]; rfl)

theorem isDir_congr (h : m'.lookup key = m.lookup key) : IsDir m' key ↔ IsDir m key := by
  unfold IsDir
  rw [h]

/-- **The first name of a path that is no directory is a file.** -/
def FirstIsFile (m : ConfigMap) (dirs : List Str) : Prop :=
  ∃ before dirName behind, dirs = before ++ dirName :: behind ∧ IsFile m dirName ∧ ∀ d ∈ before, IsDir m d

/-- Where no directory is a file, those that are missing are created, and nothing else happens. -/
theorem addDirs_of_no_file (path : Str) (hfile : ∀ d ∈ dirs, ¬ IsFile m d) :
    (addDirs path dirs m).1 = none ∧
      ∀ key, (addDirs path dirs m).2.lookup key =
        (m.lookup key).or (if key ∈ dirs then some dirPlaceholder else none) := by
  induction dirs generalizing m with
  | nil => exact ⟨rfl, fun key => (by rw [if_neg List.not_mem_nil, Option.or_none]; rfl)⟩
  | cons d dirs ih =>
      have hrest := fun d' hd' => hfile d' (List.mem_cons_of_mem d hd')
      rw [addDirs]
      cases hlookup : m.lookup d with
      | some data =>
          have hdir : marksDir data = true := by
            by_contra hmark
            exact hfile d List.mem_cons_self ⟨data, hlookup, Bool.eq_false_of_not_eq_true hmark⟩
          simp only
          rw [if_pos hdir]
          refine ⟨(ih hrest).1, fun key => ?_⟩
          rw [(ih hrest).2]
          by_cases hkey : key = d
          · rw [hkey, hlookup]
            rfl
          · simp only [List.mem_cons, hkey, false_or]
      | none =>
          simp only
          have hfile' (d' : Str) (hd' : d' ∈ dirs) : ¬ IsFile (m.insert d dirPlaceholder) d' := by
            rintro ⟨content, hcontent, hmark⟩
            by_cases heq : d' = d
            · rw [heq, AList.lookup_insert, Option.some_inj] at hcontent
              rw [← hcontent] at hmark
              exact absurd hmark (by decide)
            · rw [AList.lookup_insert_ne heq] at hcontent
              exact hrest d' hd' ⟨content, hcontent, hmark⟩
          refine ⟨(ih hfile').1, fun key => ?_⟩
          rw [(ih hfile').2]
          by_cases hkey : key = d
          · rw [hkey, AList.lookup_insert, hlookup, if_pos List.mem_cons_self]
            rfl
          · rw [AList.lookup_insert_ne hkey]
            simp only [List.mem_cons, hkey, false_or]

/-- What is there stays. -/
theorem mem_addDirs (h : key ∈ m) : key ∈ (addDirs path dirs m).2 := by
  induction dirs generalizing m with
  | nil => exact h
  | cons d dirs ih =>
      rw [addDirs]
      split
      · split
        · exact ih h
        · exact h
      · exact ih (AList.mem_insert _ |>.mpr (Or.inr h))

/-- **Where a directory is a file, nothing is added**, exactly if none is missing in front of it. -/
theorem addDirs_of_file (path : Str) {d : Str} (hd : d ∈ dirs) (hfile : IsFile m d) :
    (addDirs path dirs m).1 ≠ none ∧ ((addDirs path dirs m).2 = m ↔ FirstIsFile m dirs) := by
  induction dirs generalizing m with
  | nil => exact absurd hd List.not_mem_nil
  | cons first dirs ih =>
      rw [addDirs]
      cases hlookup : m.lookup first with
      | some data =>
          simp only
          by_cases hmark : marksDir data = true
          · rw [if_pos hmark]
            have hdir : IsDir m first := ⟨data, hlookup, hmark⟩
            have hrest : d ∈ dirs := (List.mem_cons.mp hd).resolve_left fun e => hdir.not_isFile (e ▸ hfile)
            refine ⟨(ih hrest hfile).1, (ih hrest hfile).2.trans ?_⟩
            constructor
            · rintro ⟨before, dirName, behind, rfl, hname, hbefore⟩
              exact ⟨first :: before, dirName, behind, rfl, hname, List.forall_mem_cons.mpr ⟨hdir, hbefore⟩⟩
            · rintro ⟨before, dirName, behind, heq, hname, hbefore⟩
              cases before with
              | nil =>
                  rw [List.nil_append, List.cons.injEq] at heq
                  exact absurd (heq.1 ▸ hname) hdir.not_isFile
              | cons b before =>
                  rw [List.cons_append, List.cons.injEq] at heq
                  exact ⟨before, dirName, behind, heq.2, hname, (List.forall_mem_cons.mp hbefore).2⟩
          · rw [if_neg hmark]
            refine ⟨Option.some_ne_none _, iff_of_true rfl ⟨[], first, dirs, rfl, ?_, fun _ h => ?_⟩⟩
            · exact ⟨data, hlookup, Bool.eq_false_of_not_eq_true hmark⟩
            · exact absurd h List.not_mem_nil
      | none =>
          -- the first is missing, and there behind
          simp only
          have hne : d ≠ first := by
            rintro rfl
            obtain ⟨content, hcontent, _⟩ := hfile
            rw [hlookup] at hcontent
            cases hcontent
          have hfile' : IsFile (m.insert first dirPlaceholder) d := by
            obtain ⟨content, hcontent, hmark⟩ := hfile
            exact ⟨content, by rw [AList.lookup_insert_ne hne, hcontent], hmark⟩
          refine ⟨(ih ((List.mem_cons.mp hd).resolve_left hne) hfile').1, iff_of_false (fun heq => ?_) ?_⟩
          · have hthere : first ∈ (addDirs path dirs (m.insert first dirPlaceholder)).2 :=
              mem_addDirs (AList.mem_insert _ |>.mpr (Or.inl rfl))
            rw [heq] at hthere
            exact AList.lookup_eq_none.mp hlookup hthere
          · rintro ⟨before, dirName, behind, heq, hname, hbefore⟩
            have hthere : first ∈ m := by
              cases before with
              | nil =>
                  rw [List.nil_append, List.cons.injEq] at heq
                  obtain ⟨content, hcontent, _⟩ := hname
                  exact AList.lookup_isSome.mp (by rw [heq.1, hcontent]; rfl)
              | cons b before =>
                  rw [List.cons_append, List.cons.injEq] at heq
                  rw [heq.1]
                  exact (hbefore b List.mem_cons_self).mem
            exact AList.lookup_eq_none.mp hlookup hthere

/-! ## 4. Adding -/

/-- A key is the root, or there is something below it. -/
def Covers (m : ConfigMap) (key : Str) : Prop := key = slashReplacer ∨ ∃ k ∈ m, key ∈ ancestors k

/-- The ancestors of what is new are directories, or are created. -/
def Rooted (m : ConfigMap) (created : List Str) (key : Str) : Prop :=
  key ∉ m → ∀ a ∈ ancestors key, IsDir m a ∨ a ∈ created

/-- **The condition of `AddFile`**: the key is there and is not replaced; or the first name of the path that is no
    directory is a file; or none of them is a file, the ancestors of the new keys are directories or are created, and
    no file takes the place of a directory with something below it. -/
def AddMeets (m : ConfigMap) (file : File) (replaceExisting : Bool) : Prop :=
  (encodeFilePath file.path ∈ m ∧ replaceExisting = false) ∨ FirstIsFile m (pathDirs file.path) ∨
    ((∀ d ∈ pathDirs file.path, ¬ IsFile m d) ∧
      (∀ key ∈ encodeFilePath file.path :: pathDirs file.path, Rooted m (pathDirs file.path) key) ∧
      (marksDir file.entry = true ∨ ¬ Covers m (encodeFilePath file.path)))

theorem marksDir_dirPlaceholder : marksDir dirPlaceholder = true := by decide

/-- A key is longer than its ancestors, but for the root. -/
theorem ne_of_mem_ancestors (hroot : key ≠ slashReplacer) (h : a ∈ ancestors key) : a ≠ key := by
  rintro rfl
  rcases exists_of_mem_ancestors h with ⟨rfl, _⟩ | ⟨rest, hrest⟩
  · exact hroot rfl
  · have hlength := congrArg List.length hrest
    rw [List.length_append, List.length_append] at hlength
    have hsep := List.length_pos_iff.mpr slashReplacer_ne_nil
    omega

/-- What a path names is not above the directories that it names. -/
theorem encodeFilePath_not_mem_ancestors (h : Absolute path) (ha : a ∈ pathDirs path) :
    encodeFilePath path ∉ ancestors a := by
  intro hmem
  obtain ⟨rest, hrest⟩ := exists_of_mem_pathDirs h ha
  have hlength := congrArg List.length hrest
  rw [List.length_append, List.length_append] at hlength
  have hsep := List.length_pos_iff.mpr slashReplacer_ne_nil
  rcases exists_of_mem_ancestors hmem with ⟨hroot, hfront⟩ | ⟨rest', hrest'⟩
  · have hle := hfront.length_le
    rw [hroot] at hlength
    omega
  · have hlength' := congrArg List.length hrest'
    rw [List.length_append, List.length_append] at hlength'
    omega

/-- The directories where some are created, and none of them was a file. -/
theorem isDir_of_lookup {m' : ConfigMap} {created : List Str}
    (hlookup : m'.lookup a = (m.lookup a).or (if a ∈ created then some dirPlaceholder else none))
    (hfile : a ∈ created → ¬ IsFile m a) : IsDir m' a ↔ IsDir m a ∨ a ∈ created := by
  unfold IsDir
  rw [hlookup]
  cases hbefore : m.lookup a with
  | none =>
      rw [Option.none_or]
      constructor
      · rintro ⟨content, hcontent, _⟩
        split at hcontent
        · exact Or.inr ‹_›
        · cases hcontent
      · rintro (⟨_, hnone, _⟩ | hdir)
        · cases hnone
        · exact ⟨_, if_pos hdir, marksDir_dirPlaceholder⟩
  | some data =>
      rw [Option.some_or]
      refine ⟨Or.inl, ?_⟩
      rintro (hdir | hdir)
      · exact hdir
      · have hthere : a ∈ m := AList.lookup_isSome.mp (by rw [hbefore]; rfl)
        obtain ⟨content, hcontent, hmark⟩ := (isDir_or_isFile hthere).resolve_right (hfile hdir)
        exact ⟨content, hbefore ▸ hcontent, hmark⟩

/-- **The tree behind an added file is well formed** exactly where the new keys are rooted, and no directory in use is
    replaced. -/
theorem wellFormed_added_iff (hm : WellFormed m) (hpath : Absolute file.path) {m' : ConfigMap}
    (hlookup : ∀ key, m'.lookup key = if key = encodeFilePath file.path then some file.entry
      else (m.lookup key).or (if key ∈ pathDirs file.path then some dirPlaceholder else none))
    (hfile : ∀ d ∈ pathDirs file.path, ¬ IsFile m d) :
    WellFormed m' ↔ (∀ key ∈ encodeFilePath file.path :: pathDirs file.path, Rooted m (pathDirs file.path) key) ∧
      (marksDir file.entry = true ∨ ¬ Covers m (encodeFilePath file.path)) := by
  have hself : encodeFilePath file.path ∈ m' := by
    rw [← AList.lookup_isSome, hlookup, if_pos rfl]
    rfl
  have hisDir (a : Str) (ha : a ≠ encodeFilePath file.path) : IsDir m' a ↔ IsDir m a ∨ a ∈ pathDirs file.path := by
    exact isDir_of_lookup ((hlookup a).trans (if_neg ha)) (hfile a)
  have hself_iff : IsDir m' (encodeFilePath file.path) ↔ marksDir file.entry = true := by
    unfold IsDir
    rw [hlookup, if_pos rfl]
    exact ⟨fun ⟨content, hcontent, hmark⟩ => (by rw [Option.some.inj hcontent]; exact hmark), fun h => ⟨_, rfl, h⟩⟩
  have hnew (key : Str) : key ∈ m' ↔ key ∈ m ∨ key ∈ encodeFilePath file.path :: pathDirs file.path := by
    rw [← AList.lookup_isSome, hlookup, List.mem_cons, ← AList.lookup_isSome]
    by_cases hkey : key = encodeFilePath file.path
    · rw [if_pos hkey]
      exact iff_of_true rfl (Or.inr (Or.inl hkey))
    · rw [if_neg hkey, Option.isSome_or, Bool.or_eq_true]
      by_cases hdir : key ∈ pathDirs file.path
      · rw [if_pos hdir]
        exact iff_of_true (Or.inr rfl) (Or.inr (Or.inr hdir))
      · rw [if_neg hdir]
        tauto
  -- what is above a new key is not the key of the file
  have hbelow (key : Str) (hkey : key ∈ encodeFilePath file.path :: pathDirs file.path) (hmem : key ∉ m) (a : Str)
      (ha : a ∈ ancestors key) : a ≠ encodeFilePath file.path := by
    rcases List.mem_cons.mp hkey with rfl | hdir
    · refine ne_of_mem_ancestors (fun hroot => hmem ?_) ha
      rw [hroot]
      exact hm.root.mem
    · exact fun heq => encodeFilePath_not_mem_ancestors hpath hdir (heq ▸ ha)
  constructor
  · intro h
    refine ⟨fun key hkey hmem a ha => ?_, ?_⟩
    · exact (hisDir a (hbelow key hkey hmem a ha)).mp (h.above key ((hnew key).mpr (Or.inr hkey)) a ha)
    · rw [or_iff_not_imp_right, not_not]
      rintro (hroot | ⟨k, hk, habove⟩)
      · exact hself_iff.mp (hroot ▸ h.root)
      · exact hself_iff.mp (h.above k ((hnew k).mpr (Or.inl hk)) _ habove)
  · rintro ⟨hrooted, hplace⟩
    refine ⟨?_, fun key hkey a ha => ?_⟩
    · by_cases hroot : slashReplacer = encodeFilePath file.path
      · rw [hroot]
        exact hself_iff.mpr (hplace.resolve_right (not_not.mpr (Or.inl hroot.symm)))
      · exact (hisDir _ hroot).mpr (Or.inl hm.root)
    · by_cases hmem : key ∈ m
      · by_cases hfileKey : a = encodeFilePath file.path
        · rw [hfileKey] at ha ⊢
          exact hself_iff.mpr (hplace.resolve_right (not_not.mpr (Or.inr ⟨key, hmem, ha⟩)))
        · exact (hisDir a hfileKey).mpr (Or.inl (hm.above key hmem a ha))
      · have hkey' := ((hnew key).mp hkey).resolve_left hmem
        exact (hisDir a (hbelow key hkey' hmem a ha)).mpr (hrooted key hkey' hmem a ha)

/-- **A file is added as intended exactly where the condition is met.** -/
theorem addFollows_iff (hm : WellFormed m) (hpath : Absolute file.path) :
    AddFollows m file replaceExisting ↔ AddMeets m file replaceExisting := by
  unfold AddMeets
  by_cases hthere : encodeFilePath file.path ∈ m ∧ replaceExisting = false
  · refine iff_of_true ?_ (Or.inl hthere)
    have hadd : addFile m file replaceExisting = (some .exists, m) := by
      rw [addFile, if_pos ⟨AList.lookup_isSome.mpr hthere.1, hthere.2⟩]
    refine ⟨?_, fun _ => ?_, fun h => ?_, fun h => ?_⟩
    · rwa [hadd]
    · rw [hadd]
    · rw [hadd] at h
      cases h
    · rw [hadd] at h
      cases h
  rw [or_iff_right hthere]
  have hskip : ¬ ((m.lookup (encodeFilePath file.path)).isSome = true ∧ replaceExisting = false) := by
    rwa [AList.lookup_isSome]
  by_cases hfile : ∃ d ∈ pathDirs file.path, IsFile m d
  · obtain ⟨d, hd, hdfile⟩ := hfile
    have hblocked := addDirs_of_file file.path hd hdfile
    have hadd : addFile m file replaceExisting = addDirs file.path (pathDirs file.path) m := by
      rw [addFile, if_neg hskip, if_neg hpath.ne_nil]
      rcases haddDirs : addDirs file.path (pathDirs file.path) m with ⟨e?, m'⟩
      cases e? with
      | none =>
          rw [haddDirs] at hblocked
          exact absurd rfl hblocked.1
      | some e => rfl
    rw [or_iff_left fun h => h.1 d hd hdfile, ← hblocked.2, ← hadd]
    constructor
    · exact fun h => h.unchanged (by rw [hadd]; exact hblocked.1)
    · intro heq
      refine ⟨by rwa [heq], fun _ => heq, fun h => ?_, fun h => ?_⟩
      · exact absurd (hadd ▸ h) hblocked.1
      · exact absurd (hadd ▸ h) hblocked.1
  · have hnone (d : Str) (hd : d ∈ pathDirs file.path) : ¬ IsFile m d := fun h => hfile ⟨d, hd, h⟩
    obtain ⟨herror, hdirs⟩ := addDirs_of_no_file file.path hnone
    have hadd : addFile m file replaceExisting =
        (none, (addDirs file.path (pathDirs file.path) m).2.insert (encodeFilePath file.path) file.entry) := by
      rw [addFile, if_neg hskip, if_neg hpath.ne_nil]
      rcases haddDirs : addDirs file.path (pathDirs file.path) m with ⟨e?, m'⟩
      rw [haddDirs] at herror
      cases e? with
      | none => rfl
      | some e => cases herror
    have hlookup (key : Str) : (addFile m file replaceExisting).2.lookup key =
        if key = encodeFilePath file.path then some file.entry
        else (m.lookup key).or (if key ∈ pathDirs file.path then some dirPlaceholder else none) := by
      rw [hadd]
      by_cases hkey : key = encodeFilePath file.path
      · rw [if_pos hkey, hkey, AList.lookup_insert]
      · rw [if_neg hkey, AList.lookup_insert_ne hkey, hdirs]
    have hfirst : ¬ FirstIsFile m (pathDirs file.path) := by
      rintro ⟨before, dirName, behind, heq, hname, _⟩
      exact hnone dirName (by rw [heq]; exact List.mem_append_right before List.mem_cons_self) hname
    rw [or_iff_right hfirst, and_iff_right hnone, ← wellFormed_added_iff hm hpath hlookup hnone]
    refine ⟨AddFollows.wellFormed, fun h => ⟨h, fun herr => ?_, fun _ => ?_, fun _ key hkey => ?_⟩⟩
    · rw [hadd] at herr
      exact absurd rfl herr
    · rw [hlookup, if_pos rfl]
    · rw [hlookup, if_neg hkey]
      cases hbefore : m.lookup key with
      | some data => exact Or.inl rfl
      | none =>
          by_cases hdir : key ∈ pathDirs file.path
          · exact Or.inr ⟨rfl, hdir, by rw [if_pos hdir, Option.none_or]⟩
          · exact Or.inl (by rw [if_neg hdir, Option.none_or])

/-! ## 5. Updating and deleting -/

/-- **A file is always updated as intended.** -/
theorem updateFollows (hm : WellFormed m) (file : File) : UpdateFollows m file := by
  cases hlookup : m.lookup (encodeFilePath file.path) with
  | none =>
      have hupdate : updateFile m file = (some .missing, m) := by
        rw [updateFile, hlookup]
      refine ⟨?_, fun _ => ?_, fun h => ?_, fun _ _ => ?_⟩
      · rwa [hupdate]
      · rw [hupdate]
      · rw [hupdate] at h
        cases h
      · rw [hupdate]
  | some data =>
      by_cases hmark : marksDir data = true
      · have hupdate : updateFile m file = (some (.isDirectory file.path), m) := by
          rw [updateFile, hlookup]
          exact if_pos hmark
        refine ⟨?_, fun _ => ?_, fun h => ?_, fun _ _ => ?_⟩
        · rwa [hupdate]
        · rw [hupdate]
        · rw [hupdate] at h
          cases h
        · rw [hupdate]
      · have hupdate : updateFile m file = (none, m.insert (encodeFilePath file.path) file.content) := by
          rw [updateFile, hlookup]
          exact if_neg hmark
        have hisFile : IsFile m (encodeFilePath file.path) := ⟨data, hlookup, Bool.eq_false_of_not_eq_true hmark⟩
        -- what is above another key is a directory, so it is not the file
        have hstays (a : Str) (ha : IsDir m a) : IsDir (m.insert (encodeFilePath file.path) file.content) a :=
          (isDir_congr (AList.lookup_insert_ne fun e => (e ▸ ha).not_isFile hisFile)).mpr ha
        refine ⟨?_, fun h => ?_, fun _ => ?_, fun key hkey => ?_⟩
        · rw [hupdate]
          refine ⟨hstays _ hm.root, fun key hkey a ha => hstays a (hm.above key ?_ a ha)⟩
          rcases (AList.mem_insert _).mp hkey with rfl | hkey
          · exact AList.lookup_isSome.mp (by rw [hlookup]; rfl)
          · exact hkey
        · rw [hupdate] at h
          exact absurd rfl h
        · rw [hupdate, AList.lookup_insert]
        · rw [hupdate, AList.lookup_insert_ne hkey]

/-- What a delete leaves. -/
theorem lookup_deleteFile {data : Str} (hlookup : m.lookup (encodeFilePath path) = some data) (key : Str) :
    (deleteFile m path).2.lookup key =
      if key = encodeFilePath path ∨ marksDir data = true ∧ encodeFilePath path ++ slashReplacer <+: key then none
      else m.lookup key := by
  have hdelete : (deleteFile m path).2 =
      (if marksDir data then Tables.eraseAll m (keysBelow m (encodeFilePath path)) else m).erase
        (encodeFilePath path) := by
    rw [deleteFile, hlookup]
  rw [hdelete]
  by_cases hkey : key = encodeFilePath path
  · rw [if_pos (Or.inl hkey), hkey, AList.lookup_erase]
  · rw [AList.lookup_erase_ne hkey]
    by_cases hmark : marksDir data = true
    · rw [if_pos hmark, Tables.lookup_eraseAll]
      have hbelow : key ∈ keysBelow m (encodeFilePath path) ↔
          key ∈ m ∧ encodeFilePath path ++ slashReplacer <+: key := by
        rw [keysBelow, List.mem_filter, AList.mem_keys, List.isPrefixOf_iff_prefix]
      by_cases hfront : encodeFilePath path ++ slashReplacer <+: key
      · rw [if_pos (Or.inr ⟨hmark, hfront⟩)]
        by_cases hmem : key ∈ m
        · rw [if_pos (hbelow.mpr ⟨hmem, hfront⟩)]
        · rw [if_neg fun h => hmem (hbelow.mp h).1]
          exact AList.lookup_eq_none.mpr hmem
      · rw [if_neg fun h => hfront (hbelow.mp h).2, if_neg fun h => h.elim hkey fun h => hfront h.2]
    · rw [if_neg hmark, if_neg fun h => h.elim hkey fun h => hmark h.1]

/-- **A delete does what is intended, but for the root.** -/
theorem deleteFollows_iff (hm : WellFormed m) (hpath : Absolute path) : DeleteFollows m path ↔ path ≠ slash := by
  rw [Ne, ← encodeFilePath_eq_root_iff hpath]
  cases hlookup : m.lookup (encodeFilePath path) with
  | none =>
      have hdelete : deleteFile m path = (some .missing, m) := by
        rw [deleteFile, hlookup]
      refine iff_of_true ⟨by rwa [hdelete], fun _ => by rw [hdelete]⟩ fun hroot => ?_
      rw [hroot] at hlookup
      exact AList.lookup_eq_none.mp hlookup hm.root.mem
  | some data =>
      have hleft := lookup_deleteFile hlookup
      have hdone : (deleteFile m path).1 = none := by
        rw [deleteFile, hlookup]
      constructor
      · intro h hroot
        obtain ⟨content, hcontent, _⟩ := h.wellFormed.root
        rw [hleft, if_pos (Or.inl hroot.symm)] at hcontent
        cases hcontent
      · intro hroot
        refine ⟨?_, fun h => absurd hdone h⟩
        have hlength := (show slashReplacer <+: encodeFilePath path by
          rw [encodeFilePath_of_absolute hpath]
          exact List.prefix_append _ _).length_le
        have hsep := List.length_pos_iff.mpr slashReplacer_ne_nil
        have hrootStays : ¬ (slashReplacer = encodeFilePath path ∨
            marksDir data = true ∧ encodeFilePath path ++ slashReplacer <+: slashReplacer) := by
          rintro (heq | ⟨_, hfront⟩)
          · exact hroot heq.symm
          · have hle := hfront.length_le
            rw [List.length_append] at hle
            omega
        refine ⟨(isDir_congr (by rw [hleft, if_neg hrootStays])).mpr hm.root, fun key hkey a ha => ?_⟩
        have hstays : ¬ (key = encodeFilePath path ∨
            marksDir data = true ∧ encodeFilePath path ++ slashReplacer <+: key) := by
          intro hgone
          rw [← AList.lookup_isSome, hleft, if_pos hgone] at hkey
          cases hkey
        have hmem : key ∈ m := by
          rwa [← AList.lookup_isSome, hleft, if_neg hstays, AList.lookup_isSome] at hkey
        have hdir := hm.above key hmem a ha
        refine (isDir_congr ?_).mpr hdir
        rw [hleft]
        refine if_neg ?_
        by_cases haroot : a = slashReplacer
        · rwa [haroot]
        have hbehind := (exists_of_mem_ancestors ha).resolve_left fun h => haroot h.1
        obtain ⟨rest, hrest⟩ := hbehind
        rintro (heq | ⟨hmark, hfront⟩)
        · -- the directory is gone, and so is what was below it
          obtain ⟨content, hcontent, hmark⟩ := hdir
          rw [heq, hlookup, Option.some_inj] at hcontent
          refine hstays (Or.inr ⟨hcontent ▸ hmark, ?_⟩)
          rw [hrest, heq]
          exact List.prefix_append _ _
        · refine hstays (Or.inr ⟨hmark, hfront.trans ?_⟩)
          rw [hrest, List.append_assoc]
          exact List.prefix_append _ _

/-! ## 6. Cleaning up -/

theorem mem_validDirs :
    a ∈ validDirs m ↔
      ∃ k content, m.lookup k = some content ∧ content ≠ dirPlaceholder ∧ a ∈ heads slashReplacer k := by
  rw [validDirs, List.mem_flatMap]
  constructor
  · rintro ⟨e, he, ha⟩
    obtain ⟨hentry, hcontent⟩ := List.mem_filter.mp he
    exact ⟨e.1, e.2, AList.mem_lookup_iff.mpr hentry, of_decide_eq_true hcontent, ha⟩
  · rintro ⟨k, content, hlookup, hcontent, ha⟩
    exact ⟨⟨k, content⟩, List.mem_filter.mpr ⟨AList.mem_lookup_iff.mp hlookup, decide_eq_true hcontent⟩, ha⟩

/-- **What is in front of a separator is in use**, but for the empty text. -/
theorem inUse_of_mem_validDirs (ha : a ≠ []) (h : a ∈ validDirs m) : InUse m a := by
  obtain ⟨k, content, hlookup, hcontent, hhead⟩ := mem_validDirs.mp h
  exact ⟨k, content, hlookup, hcontent, mem_ancestors_of_mem_heads ha hhead⟩

theorem mem_validDirs_of_inUse (hroot : a ≠ slashReplacer) (h : InUse m a) : a ∈ validDirs m := by
  obtain ⟨k, content, hlookup, hcontent, habove⟩ := h
  exact mem_validDirs.mpr ⟨k, content, hlookup, hcontent, mem_heads_of_mem_ancestors hroot habove⟩

/-- No key has an empty ancestor. -/
theorem not_inUse_nil : ¬ InUse m [] := by
  rintro ⟨k, _, _, _, habove⟩
  obtain ⟨t, _, ht⟩ := List.mem_map.mp habove
  split at ht
  · exact slashReplacer_ne_nil ht
  · exact absurd ht ‹_›

theorem mem_uselessDirs : a ∈ uselessDirs m ↔ m.lookup a = some dirPlaceholder ∧ a ∉ validDirs m := by
  rw [uselessDirs, List.mem_filter, List.mem_filter, decide_eq_true_eq, decide_eq_true_eq, ← AList.mem_keys]
  refine and_congr_left fun _ => ⟨And.right, fun h => ⟨?_, h⟩⟩
  exact AList.lookup_isSome.mp (by rw [h]; rfl)

theorem lookup_cleanUp (m : ConfigMap) (key : Str) :
    (cleanUpConfigMap m).lookup key = if key ∈ uselessDirs m then none else m.lookup key := by
  rw [cleanUpConfigMap, Tables.lookup_eraseAll]
  by_cases h : key ∈ uselessDirs m
  · rw [if_pos h, if_pos h]
  · rw [if_neg h, if_neg h]

/-- **The condition of `CleanUpConfigMap`**: the root was created by a user, or is in use itself; and no empty key is
    taken for the root. -/
structure CleanMeets (m : ConfigMap) : Prop where
  root : m.lookup slashReplacer = some dirPlaceholder → slashReplacer ∈ validDirs m
  empty : m.lookup [] = some dirPlaceholder → [] ∉ validDirs m

/-- **What is not in use goes, exactly where the condition is met.** -/
theorem cleanFollows_iff (hm : WellFormed m) : CleanFollows m ↔ CleanMeets m := by
  have hgone (key : Str) (hkey : key ∈ m) : key ∉ cleanUpConfigMap m ↔ key ∈ uselessDirs m := by
    rw [← AList.lookup_eq_none, lookup_cleanUp]
    by_cases huseless : key ∈ uselessDirs m
    · exact iff_of_true (if_pos huseless) huseless
    · rw [if_neg huseless, AList.lookup_eq_none]
      exact iff_of_false (not_not.mpr hkey) huseless
  constructor
  · intro h
    refine ⟨fun hdir => ?_, fun hdir => ?_⟩
    · by_contra hvalid
      exact (hgone _ hm.root.mem).mpr (mem_uselessDirs.mpr ⟨hdir, hvalid⟩) h.wellFormed.root.mem
    · have hmem : [] ∈ m := AList.lookup_isSome.mp (by rw [hdir]; rfl)
      exact (mem_uselessDirs.mp ((hgone _ hmem).mp ((h.removed [] hmem).mpr ⟨hdir, not_inUse_nil⟩))).2
  · intro h
    have hstays (key : Str) (hkey : key ∉ uselessDirs m) : IsDir (cleanUpConfigMap m) key ↔ IsDir m key :=
      isDir_congr (by rw [lookup_cleanUp, if_neg hkey])
    have hroot : slashReplacer ∉ uselessDirs m := fun huseless =>
      (mem_uselessDirs.mp huseless).2 (h.root (mem_uselessDirs.mp huseless).1)
    refine ⟨⟨(hstays _ hroot).mpr hm.root, fun key hkey a ha => ?_⟩, fun key hkey => ?_, fun key hkey => ?_⟩
    · have huseful : key ∉ uselessDirs m := by
        intro huseless
        rw [← AList.lookup_isSome, lookup_cleanUp, if_pos huseless] at hkey
        cases hkey
      have hmem : key ∈ m := by
        rwa [← AList.lookup_isSome, lookup_cleanUp, if_neg huseful, AList.lookup_isSome] at hkey
      refine (hstays a fun huseless => ?_).mpr (hm.above key hmem a ha)
      by_cases haroot : a = slashReplacer
      · exact hroot (haroot ▸ huseless)
      -- what is above a useful key is useful
      have hhead := mem_heads_of_mem_ancestors haroot ha
      refine (mem_uselessDirs.mp huseless).2 ?_
      obtain ⟨content, hcontent⟩ := Option.isSome_iff_exists.mp (AList.lookup_isSome.mpr hmem)
      by_cases hauto : content = dirPlaceholder
      · have hvalid : key ∈ validDirs m := by
          by_contra hvalid
          exact huseful (mem_uselessDirs.mpr ⟨hauto ▸ hcontent, hvalid⟩)
        obtain ⟨k, content', hlookup, hcontent', hkeyHead⟩ := mem_validDirs.mp hvalid
        exact mem_validDirs.mpr
          ⟨k, content', hlookup, hcontent', Parts.mem_heads_trans slashReplacer_ne_nil hkeyHead hhead⟩
      · exact mem_validDirs.mpr ⟨key, content, hcontent, hauto, hhead⟩
    · rw [hgone key hkey, mem_uselessDirs]
      refine and_congr_right fun hdir => not_congr ?_
      by_cases hempty : key = []
      · subst hempty
        exact iff_of_false (h.empty hdir) not_inUse_nil
      by_cases hkeyroot : key = slashReplacer
      · subst hkeyroot
        exact iff_of_true (h.root hdir) (inUse_of_mem_validDirs hempty (h.root hdir))
      · exact ⟨inUse_of_mem_validDirs hempty, mem_validDirs_of_inUse hkeyroot⟩
    · rw [lookup_cleanUp]
      refine if_neg fun huseless => ?_
      rw [← AList.lookup_isSome, lookup_cleanUp, if_pos huseless] at hkey
      cases hkey

end Kalm.Files
