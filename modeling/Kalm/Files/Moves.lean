/-
  File:      Kalm/Files/Moves.lean
  Subject:   MOVING FILES: `MoveFile` and `GetFileItemTree` of controller/lib/files/files.go; all operations on the
             files of a config map together.

  * `FileItem`, `getFileItemTree`, `moveFile` -- the tree of a config map, and how it is moved, file by file;
  * `moves`, `runMoves`, `moveFile_eq` -- moving a tree is moving its files, one after the other;
  * `TreeOf` -- the files of a tree are those of the config map;
  * `moveFollows_iff` -- where a tree is moved as intended;
  * `Operation`, `operation_follows_iff` -- where the operations do what is intended.
-/
import Kalm.Files.Operations
import Mathlib.Data.List.Sort

namespace Kalm.Files

open Parts (parts)

/-! ## 1. Trees -/

/-- `FileItem`. -/
inductive FileItem where
  | mk (name absPath : Str) (isDir : Bool) (content : Str) (children : List FileItem)

namespace FileItem

def name : FileItem → Str
  | mk name _ _ _ _ => name

def absPath : FileItem → Str
  | mk _ absPath _ _ _ => absPath

def isDir : FileItem → Bool
  | mk _ _ isDir _ _ => isDir

end FileItem

mutual

/-- `MoveFile`. -/
def moveFile : FileItem → Str → ConfigMap → Changed
  | .mk _ absPath isDir content children, newPath, m =>
    if isDir then moveChildren children newPath m
    else
      match addFile m ⟨newPath, false, content⟩ false with
      | (some e, m') => (some e, m')
      | (none, m') => deleteFile m' absPath

/-- The loop over the children. -/
def moveChildren : List FileItem → Str → ConfigMap → Changed
  | [], _, m => (none, m)
  | child :: children, newPath, m =>
    match moveFile child (newPath ++ slash ++ child.name) m with
    | (some e, m') => (some e, m')
    | (none, m') => moveChildren children newPath m'

end

/-! ## 2. Moves -/

/-- A file that is moved. -/
structure Move where
  source : Str
  target : Str
  content : Str

mutual

/-- The files of a tree, and where they are moved. -/
def moves : FileItem → Str → List Move
  | .mk _ absPath isDir content children, newPath =>
    if isDir then movesOfChildren children newPath else [⟨absPath, newPath, content⟩]

def movesOfChildren : List FileItem → Str → List Move
  | [], _ => []
  | child :: children, newPath => moves child (newPath ++ slash ++ child.name) ++ movesOfChildren children newPath

end

/-- One file is moved. -/
def moveOne (m : ConfigMap) (mv : Move) : Changed :=
  match addFile m ⟨mv.target, false, mv.content⟩ false with
  | (some e, m') => (some e, m')
  | (none, m') => deleteFile m' mv.source

/-- The files are moved, one after the other. -/
def runMoves (m : ConfigMap) : List Move → Changed
  | [] => (none, m)
  | mv :: mvs =>
    match moveOne m mv with
    | (some e, m') => (some e, m')
    | (none, m') => runMoves m' mvs

theorem runMoves_append (m : ConfigMap) (mvs mvs' : List Move) :
    runMoves m (mvs ++ mvs') =
      match runMoves m mvs with
      | (some e, m') => (some e, m')
      | (none, m') => runMoves m' mvs' := by
  induction mvs generalizing m with
  | nil => rfl
  | cons mv mvs ih =>
      rw [List.cons_append, runMoves, runMoves]
      rcases moveOne m mv with ⟨e?, m'⟩
      cases e? with
      | none => exact ih m'
      | some e => rfl

mutual

/-- **Moving a tree is moving its files.** -/
theorem moveFile_eq (item : FileItem) (newPath : Str) (m : ConfigMap) :
    moveFile item newPath m = runMoves m (moves item newPath) := by
  obtain ⟨name, absPath, isDir, content, children⟩ := item
  rw [moveFile, moves]
  cases isDir with
  | true => exact moveChildren_eq children newPath m
  | false =>
      rw [if_neg Bool.false_ne_true, if_neg Bool.false_ne_true, runMoves, moveOne]
      rcases addFile m ⟨newPath, false, content⟩ false with ⟨e?, m'⟩
      cases e? with
      | some e => rfl
      | none =>
          simp only
          rcases deleteFile m' absPath with ⟨e?, m''⟩
          cases e? <;> rfl

theorem moveChildren_eq (children : List FileItem) (newPath : Str) (m : ConfigMap) :
    moveChildren children newPath m = runMoves m (movesOfChildren children newPath) := by
  cases children with
  | nil => rw [moveChildren, movesOfChildren, runMoves]
  | cons child children =>
      rw [moveChildren, movesOfChildren, runMoves_append, moveFile_eq child]
      rcases runMoves m (moves child (newPath ++ slash ++ child.name)) with ⟨e?, m'⟩
      cases e? with
      | some e => rfl
      | none => exact moveChildren_eq children newPath m'

end

/-! ## 3. One move -/

/-- The key that a file leaves, and the key that it takes. -/
def Move.sourceKey (mv : Move) : Str := encodeFilePath mv.source

def Move.targetKey (mv : Move) : Str := encodeFilePath mv.target

/-- The file can take its new place. -/
def Free (m : ConfigMap) (mv : Move) : Prop := mv.targetKey ∉ m ∧ ∀ d ∈ pathDirs mv.target, ¬ IsFile m d

/-- The file is there, with its content. -/
def There (m : ConfigMap) (mv : Move) : Prop :=
  m.lookup mv.sourceKey = some mv.content ∧ marksDir mv.content = false

/-- The config map in which a file has been moved. -/
def moved (m : ConfigMap) (mv : Move) : ConfigMap :=
  (((addDirs mv.target (pathDirs mv.target) m).2.insert mv.targetKey mv.content)).erase mv.sourceKey

variable {m : ConfigMap} {mv : Move} {mvs : List Move} {key a : Str}

theorem There.mem (h : There m mv) : mv.sourceKey ∈ m := AList.lookup_isSome.mp (by rw [h.1]; rfl)

theorem There.isFile (h : There m mv) : IsFile m mv.sourceKey := ⟨mv.content, h.1, h.2⟩

/-- **What is there behind a move.** -/
theorem lookup_moved (hfree : Free m mv) (key : Str) :
    (moved m mv).lookup key =
      if key = mv.sourceKey then none
      else if key = mv.targetKey then some mv.content
      else (m.lookup key).or (if key ∈ pathDirs mv.target then some dirPlaceholder else none) := by
  unfold moved
  by_cases hsource : key = mv.sourceKey
  · rw [if_pos hsource, hsource, AList.lookup_erase]
  · rw [if_neg hsource, AList.lookup_erase_ne hsource]
    by_cases htarget : key = mv.targetKey
    · rw [if_pos htarget, htarget, AList.lookup_insert]
    · rw [if_neg htarget, AList.lookup_insert_ne htarget, (addDirs_of_no_file mv.target hfree.2).2]

/-- **A file that can take its place is moved.** -/
theorem moveOne_of_free (hthere : There m mv) (hfree : Free m mv) (hpath : Absolute mv.target) :
    moveOne m mv = (none, moved m mv) := by
  have hne : encodeFilePath mv.source ≠ mv.targetKey := fun e => hfree.1 (e ▸ hthere.mem)
  have hlookup : m.lookup (encodeFilePath mv.source) = some mv.content := hthere.1
  obtain ⟨herror, hdirs⟩ := addDirs_of_no_file mv.target hfree.2
  have hadd : addFile m ⟨mv.target, false, mv.content⟩ false =
      (none, (addDirs mv.target (pathDirs mv.target) m).2.insert mv.targetKey mv.content) := by
    rw [addFile, if_neg fun h => hfree.1 (AList.lookup_isSome.mp h.1), if_neg hpath.ne_nil]
    simp only
    rcases haddDirs : addDirs mv.target (pathDirs mv.target) m with ⟨e?, m'⟩
    rw [haddDirs] at herror
    cases e? with
    | none => rfl
    | some e => cases herror
  have hsource : ((addDirs mv.target (pathDirs mv.target) m).2.insert mv.targetKey mv.content).lookup
      (encodeFilePath mv.source) = some mv.content := by
    rw [AList.lookup_insert_ne hne, hdirs, hlookup]
    rfl
  rw [moveOne, hadd]
  simp only
  rw [deleteFile, hsource]
  simp only
  rw [hthere.2]
  rfl

/-- Otherwise nothing is moved; the config map is as it was exactly where no directory was missing. -/
theorem moveOne_of_not_free (hfree : ¬ Free m mv) (hpath : Absolute mv.target) :
    (moveOne m mv).1 ≠ none ∧ (∀ key ∈ m, key ∈ (moveOne m mv).2) ∧
      ((moveOne m mv).2 = m ↔ mv.targetKey ∈ m ∨ FirstIsFile m (pathDirs mv.target)) := by
  by_cases htarget : mv.targetKey ∈ m
  · have hadd : addFile m ⟨mv.target, false, mv.content⟩ false = (some .exists, m) := by
      rw [addFile, if_pos ⟨AList.lookup_isSome.mpr htarget, rfl⟩]
    rw [moveOne, hadd]
    exact ⟨Option.some_ne_none _, fun _ hkey => hkey, iff_of_true rfl (Or.inl htarget)⟩
  · have hfile : ∃ d ∈ pathDirs mv.target, IsFile m d := by
      by_contra hnone
      exact hfree ⟨htarget, fun d hd hfile => hnone ⟨d, hd, hfile⟩⟩
    obtain ⟨d, hd, hfile⟩ := hfile
    have hblocked := addDirs_of_file mv.target hd hfile
    have hone : moveOne m mv = addDirs mv.target (pathDirs mv.target) m := by
      rw [moveOne, addFile, if_neg fun h => htarget (AList.lookup_isSome.mp h.1), if_neg hpath.ne_nil]
      simp only
      rcases haddDirs : addDirs mv.target (pathDirs mv.target) m with ⟨e?, m'⟩
      rw [haddDirs] at hblocked
      cases e? with
      | none => exact absurd rfl hblocked.1
      | some e => rfl
    rw [hone, or_iff_right htarget]
    exact ⟨hblocked.1, fun _ hkey => mem_addDirs hkey, hblocked.2⟩

/-! ## 4. All moves -/

/-- The files are there, under different keys, and have a path to go to. -/
structure Sources (m : ConfigMap) (mvs : List Move) : Prop where
  there : ∀ mv ∈ mvs, There m mv
  absolute : ∀ mv ∈ mvs, Absolute mv.target
  distinct : (mvs.map Move.sourceKey).Nodup

/-- **Every file can take its place** in the config map in which those in front of it have been moved. -/
def AllFree (m : ConfigMap) : List Move → Prop
  | [] => True
  | mv :: mvs => Free m mv ∧ AllFree (moved m mv) mvs

theorem Sources.moveOne_of_free (h : Sources m (mv :: mvs)) (hfree : Free m mv) : moveOne m mv = (none, moved m mv) :=
  Files.moveOne_of_free (h.there mv List.mem_cons_self) hfree (h.absolute mv List.mem_cons_self)

theorem Sources.moved (h : Sources m (mv :: mvs)) (hfree : Free m mv) : Sources (moved m mv) mvs := by
  have hnodup := h.distinct
  rw [List.map_cons, List.nodup_cons] at hnodup
  refine ⟨fun mv' hmv' => ?_, fun mv' hmv' => h.absolute mv' (List.mem_cons_of_mem mv hmv'), hnodup.2⟩
  obtain ⟨hlookup, hmark⟩ := h.there mv' (List.mem_cons_of_mem mv hmv')
  refine ⟨?_, hmark⟩
  rw [lookup_moved hfree, if_neg, if_neg, hlookup]
  · rfl
  · exact fun e => hfree.1 (e ▸ AList.lookup_isSome.mp (by rw [hlookup]; rfl))
  · exact fun e => hnodup.1 (e ▸ List.mem_map_of_mem hmv')

/-- Where every file can take its place, all are moved. -/
theorem runMoves_of_allFree (hsources : Sources m mvs) (hfree : AllFree m mvs) :
    runMoves m mvs = (none, mvs.foldl moved m) := by
  induction mvs generalizing m with
  | nil => rfl
  | cons mv mvs ih =>
      rw [runMoves, hsources.moveOne_of_free hfree.1]
      exact ih (hsources.moved hfree.1) hfree.2

/-- Otherwise there is an error. -/
theorem runMoves_of_not_allFree (hsources : Sources m mvs) (hfree : ¬ AllFree m mvs) : (runMoves m mvs).1 ≠ none := by
  induction mvs generalizing m with
  | nil => exact absurd trivial hfree
  | cons mv mvs ih =>
      rw [runMoves]
      by_cases hfirst : Free m mv
      · rw [hsources.moveOne_of_free hfirst]
        exact ih (hsources.moved hfirst) fun h => hfree ⟨hfirst, h⟩
      · have herror := (moveOne_of_not_free hfirst (hsources.absolute mv List.mem_cons_self)).1
        rcases hone : moveOne m mv with ⟨e?, m'⟩
        rw [hone] at herror
        cases e? with
        | none => exact absurd rfl herror
        | some e => exact Option.some_ne_none e

/-- What is there and is not moved stays. -/
theorem mem_runMoves (hsources : Sources m mvs) (hkey : key ∈ m) (hnot : key ∉ mvs.map Move.sourceKey) :
    key ∈ (runMoves m mvs).2 := by
  induction mvs generalizing m with
  | nil => exact hkey
  | cons mv mvs ih =>
      rw [List.map_cons, List.mem_cons, not_or] at hnot
      rw [runMoves]
      by_cases hfirst : Free m mv
      · rw [hsources.moveOne_of_free hfirst]
        refine ih (hsources.moved hfirst) ?_ hnot.2
        rw [← AList.lookup_isSome, lookup_moved hfirst, if_neg hnot.1]
        split
        · rfl
        · rw [Option.isSome_or, AList.lookup_isSome.mpr hkey, Bool.true_or]
      · obtain ⟨herror, hstays, _⟩ := moveOne_of_not_free hfirst (hsources.absolute mv List.mem_cons_self)
        have hthere := hstays key hkey
        rcases hone : moveOne m mv with ⟨e?, m'⟩
        rw [hone] at herror hthere
        cases e? with
        | none => exact absurd rfl herror
        | some e => exact hthere

/-- **Behind an error the config map is as it was** exactly where the first file was refused, and no directory was
    missing in front of the file in its way. -/
theorem runMoves_eq_iff (hsources : Sources m mvs) (hfree : ¬ AllFree m mvs) :
    (runMoves m mvs).2 = m ↔
      ∃ mv rest, mvs = mv :: rest ∧ (mv.targetKey ∈ m ∨ FirstIsFile m (pathDirs mv.target)) := by
  cases mvs with
  | nil => exact absurd trivial hfree
  | cons mv mvs =>
      have hhead : (∃ mv' rest, mv :: mvs = mv' :: rest ∧
          (mv'.targetKey ∈ m ∨ FirstIsFile m (pathDirs mv'.target))) ↔
          (mv.targetKey ∈ m ∨ FirstIsFile m (pathDirs mv.target)) := by
        constructor
        · rintro ⟨mv', rest, heq, h⟩
          rw [List.cons.injEq] at heq
          rwa [heq.1]
        · exact fun h => ⟨mv, mvs, rfl, h⟩
      rw [hhead, runMoves]
      by_cases hfirst : Free m mv
      · rw [hsources.moveOne_of_free hfirst]
        refine iff_of_false (fun heq => ?_) ?_
        · -- the first file has taken its place, and keeps it
          have hthere : mv.targetKey ∈ (runMoves (moved m mv) mvs).2 := by
            refine mem_runMoves (hsources.moved hfirst) ?_ fun hmem => ?_
            · rw [← AList.lookup_isSome, lookup_moved hfirst, if_neg, if_pos rfl]
              · rfl
              · exact fun e => hfirst.1 (e ▸ (hsources.there mv List.mem_cons_self).mem)
            · obtain ⟨mv', hmv', heq⟩ := List.mem_map.mp hmem
              exact hfirst.1 (heq ▸ (hsources.there mv' (List.mem_cons_of_mem mv hmv')).mem)
          have hm' : (runMoves (moved m mv) mvs).2 = m := heq
          exact hfirst.1 (hm' ▸ hthere)
        · rintro (htarget | ⟨before, dirName, behind, heq, hname, _⟩)
          · exact hfirst.1 htarget
          · exact hfirst.2 dirName (by rw [heq]; exact List.mem_append_right before List.mem_cons_self) hname
      · obtain ⟨herror, _, hiff⟩ := moveOne_of_not_free hfirst (hsources.absolute mv List.mem_cons_self)
        rw [← hiff]
        rcases hone : moveOne m mv with ⟨e?, m'⟩
        rw [hone] at herror
        cases e? with
        | none => exact absurd rfl herror
        | some e => exact Iff.rfl

/-! ## 5. The tree behind the moves -/

/-- The directories behind a move. -/
theorem isDir_moved (hthere : There m mv) (hfree : Free m mv) (hpath : Absolute mv.target) :
    IsDir (moved m mv) a ↔ IsDir m a ∨ a ∈ pathDirs mv.target := by
  have hlookup := lookup_moved hfree a
  by_cases hsource : a = mv.sourceKey
  · rw [if_pos hsource] at hlookup
    rw [IsDir, hlookup, hsource]
    refine iff_of_false (fun ⟨_, hnone, _⟩ => by cases hnone) ?_
    rintro (hdir | hdir)
    · exact IsDir.not_isFile hdir hthere.isFile
    · exact hfree.2 _ hdir hthere.isFile
  rw [if_neg hsource] at hlookup
  by_cases htarget : a = mv.targetKey
  · rw [if_pos htarget] at hlookup
    rw [IsDir, hlookup, htarget]
    refine iff_of_false (fun ⟨content, hcontent, hmark⟩ => ?_) ?_
    · rw [← Option.some.inj hcontent, hthere.2] at hmark
      cases hmark
    · rintro (hdir | hdir)
      · exact hfree.1 (IsDir.mem hdir)
      · exact encodeFilePath_not_mem_pathDirs hpath hdir
  rw [if_neg htarget] at hlookup
  exact isDir_of_lookup hlookup (hfree.2 a)

/-- The directories behind all moves. -/
theorem isDir_foldl_moved (hsources : Sources m mvs) (hfree : AllFree m mvs) :
    IsDir (mvs.foldl moved m) a ↔ IsDir m a ∨ ∃ mv ∈ mvs, a ∈ pathDirs mv.target := by
  induction mvs generalizing m with
  | nil => exact (or_iff_left fun ⟨_, h, _⟩ => absurd h List.not_mem_nil).symm
  | cons mv mvs ih =>
      have hthere := hsources.there mv List.mem_cons_self
      rw [List.foldl_cons, ih (hsources.moved hfree.1) hfree.2,
        isDir_moved hthere hfree.1 (hsources.absolute mv List.mem_cons_self), or_assoc]
      simp only [List.mem_cons, exists_eq_or_imp]

/-- What is there behind all moves. -/
theorem mem_foldl_moved (hfree : AllFree m mvs) (h : key ∈ mvs.foldl moved m) :
    key ∈ m ∨ ∃ mv ∈ mvs, key ∈ mv.targetKey :: pathDirs mv.target := by
  induction mvs generalizing m with
  | nil => exact Or.inl h
  | cons mv mvs ih =>
      rcases ih hfree.2 h with hkey | ⟨mv', hmv', hkey⟩
      · rw [← AList.lookup_isSome, lookup_moved hfree.1] at hkey
        split at hkey
        · cases hkey
        · split at hkey
          · rename_i htarget
            exact Or.inr ⟨mv, List.mem_cons_self, List.mem_cons.mpr (Or.inl htarget)⟩
          · rw [Option.isSome_or, Bool.or_eq_true, AList.lookup_isSome] at hkey
            rcases hkey with hkey | hkey
            · exact Or.inl hkey
            · split at hkey
              · exact Or.inr ⟨mv, List.mem_cons_self, List.mem_cons_of_mem _ ‹_›⟩
              · cases hkey
      · exact Or.inr ⟨mv', List.mem_cons_of_mem mv hmv', hkey⟩

/-- **Every file has taken its place.** -/
theorem targetKey_mem_foldl_moved (hsources : Sources m mvs) (hfree : AllFree m mvs) (hmv : mv ∈ mvs) :
    mv.targetKey ∈ mvs.foldl moved m := by
  have hall := runMoves_of_allFree hsources hfree
  induction mvs generalizing m with
  | nil => exact absurd hmv List.not_mem_nil
  | cons first mvs ih =>
      have hsources' := hsources.moved hfree.1
      rcases List.mem_cons.mp hmv with rfl | hmv
      · have hthere : mv.targetKey ∈ moved m mv := by
          rw [← AList.lookup_isSome, lookup_moved hfree.1, if_neg, if_pos rfl]
          · rfl
          · exact fun e => hfree.1.1 (e ▸ (hsources.there mv List.mem_cons_self).mem)
        have hstays := mem_runMoves hsources' hthere fun hmem => by
          obtain ⟨mv', hmv', heq⟩ := List.mem_map.mp hmem
          exact hfree.1.1 (heq ▸ (hsources.there mv' (List.mem_cons_of_mem _ hmv')).mem)
        rwa [runMoves_of_allFree hsources' hfree.2] at hstays
      · exact ih hsources' hfree.2 hmv (runMoves_of_allFree hsources' hfree.2)

/-- **The tree behind all moves is well formed** exactly where the ancestors of what is new are directories, or are
    created. -/
theorem wellFormed_moved_iff (hm : WellFormed m) (hsources : Sources m mvs) (hfree : AllFree m mvs) :
    WellFormed (mvs.foldl moved m) ↔ ∀ mv ∈ mvs, ∀ key ∈ mv.targetKey :: pathDirs mv.target, ∀ a ∈ ancestors key,
      IsDir m a ∨ ∃ mv' ∈ mvs, a ∈ pathDirs mv'.target := by
  have hdirs (a : Str) := isDir_foldl_moved (a := a) hsources hfree
  constructor
  · intro h mv hmv key hkey a ha
    refine (hdirs a).mp (h.above key ?_ a ha)
    rcases List.mem_cons.mp hkey with rfl | hdir
    · exact targetKey_mem_foldl_moved hsources hfree hmv
    · exact ((hdirs key).mpr (Or.inr ⟨mv, hmv, hdir⟩)).mem
  · intro h
    refine ⟨(hdirs _).mpr (Or.inl hm.root), fun key hkey a ha => (hdirs a).mpr ?_⟩
    rcases mem_foldl_moved hfree hkey with hold | ⟨mv, hmv, hnew⟩
    · exact Or.inl (hm.above key hold a ha)
    · exact h mv hmv key hnew a ha

/-! ## 6. Moving a tree -/

mutual

/-- The files of a tree: their paths, and their contents. -/
def filesOf : FileItem → List (Str × Str)
  | .mk _ absPath isDir content children => if isDir then filesOfChildren children else [(absPath, content)]

def filesOfChildren : List FileItem → List (Str × Str)
  | [] => []
  | child :: children => filesOf child ++ filesOfChildren children

end

/-- **The files of the tree are files of the config map.** -/
structure TreeOf (m : ConfigMap) (root : FileItem) : Prop where
  there : ∀ f ∈ filesOf root, m.lookup (encodeFilePath f.1) = some f.2 ∧ marksDir f.2 = false
  distinct : ((filesOf root).map fun f => encodeFilePath f.1).Nodup

mutual

/-- The files of a tree are what is moved. -/
theorem map_moves (item : FileItem) (newPath : Str) :
    (moves item newPath).map (fun mv => (mv.source, mv.content)) = filesOf item := by
  obtain ⟨name, absPath, isDir, content, children⟩ := item
  rw [moves, filesOf]
  cases isDir with
  | true => exact map_movesOfChildren children newPath
  | false => rfl

theorem map_movesOfChildren (children : List FileItem) (newPath : Str) :
    (movesOfChildren children newPath).map (fun mv => (mv.source, mv.content)) = filesOfChildren children := by
  cases children with
  | nil => rw [movesOfChildren, filesOfChildren, List.map_nil]
  | cons child children =>
      rw [movesOfChildren, filesOfChildren, List.map_append, map_moves child, map_movesOfChildren children newPath]

end

mutual

/-- The new places are below the new path. -/
theorem absolute_of_mem_moves (item : FileItem) {newPath : Str} (h : Absolute newPath) :
    ∀ mv ∈ moves item newPath, Absolute mv.target := by
  obtain ⟨name, absPath, isDir, content, children⟩ := item
  rw [moves]
  cases isDir with
  | true => exact absolute_of_mem_movesOfChildren children h
  | false =>
      intro mv hmv
      rw [if_neg Bool.false_ne_true, List.mem_singleton] at hmv
      rwa [hmv]

theorem absolute_of_mem_movesOfChildren (children : List FileItem) {newPath : Str} (h : Absolute newPath) :
    ∀ mv ∈ movesOfChildren children newPath, Absolute mv.target := by
  cases children with
  | nil =>
      rw [movesOfChildren]
      exact fun _ hmv => absurd hmv List.not_mem_nil
  | cons child children =>
      intro mv hmv
      rw [movesOfChildren, List.mem_append] at hmv
      rcases hmv with hmv | hmv
      · refine absolute_of_mem_moves child ?_ mv hmv
        rw [Absolute, List.append_assoc]
        exact h.trans (List.prefix_append _ _)
      · exact absolute_of_mem_movesOfChildren children h mv hmv

end

theorem TreeOf.sources {root : FileItem} {newPath : Str} (h : TreeOf m root) (hpath : Absolute newPath) :
    Sources m (moves root newPath) := by
  have hfiles := map_moves root newPath
  refine ⟨fun mv hmv => ?_, absolute_of_mem_moves root hpath, ?_⟩
  · exact h.there (mv.source, mv.content) (hfiles ▸ List.mem_map_of_mem hmv)
  · have hdistinct := h.distinct
    rwa [← hfiles, List.map_map] at hdistinct

/-- **A tree is moved**, or nothing happens. -/
structure MoveFollows (m : ConfigMap) (root : FileItem) (newPath : Str) : Prop where
  wellFormed : WellFormed (moveFile root newPath m).2
  unchanged : (moveFile root newPath m).1 ≠ none → (moveFile root newPath m).2 = m

/-- **The condition of `MoveFile`**: every file can take its new place in the config map in which those in front of it
    have been moved, and the ancestors of the new keys are directories or are created; or the first file is refused,
    and no directory is missing in front of a file in its way. -/
def MoveMeets (m : ConfigMap) (mvs : List Move) : Prop :=
  (AllFree m mvs ∧ ∀ mv ∈ mvs, ∀ key ∈ mv.targetKey :: pathDirs mv.target, ∀ a ∈ ancestors key,
      IsDir m a ∨ ∃ mv' ∈ mvs, a ∈ pathDirs mv'.target) ∨
    ∃ mv rest, mvs = mv :: rest ∧ (mv.targetKey ∈ m ∨ FirstIsFile m (pathDirs mv.target))

theorem moveFollows_iff {root : FileItem} {newPath : Str} (hm : WellFormed m) (htree : TreeOf m root)
    (hpath : Absolute newPath) : MoveFollows m root newPath ↔ MoveMeets m (moves root newPath) := by
  have hsources := htree.sources hpath
  have hmove := moveFile_eq root newPath m
  generalize moves root newPath = mvs at hsources hmove ⊢
  unfold MoveMeets
  by_cases hfree : AllFree m mvs
  · have hrun := runMoves_of_allFree hsources hfree
    have hrefused : ¬ ∃ mv rest, mvs = mv :: rest ∧ (mv.targetKey ∈ m ∨ FirstIsFile m (pathDirs mv.target)) := by
      rintro ⟨mv, rest, rfl, htarget | ⟨before, dirName, behind, heq, hname, _⟩⟩
      · exact hfree.1.1 htarget
      · exact hfree.1.2 dirName (by rw [heq]; exact List.mem_append_right before List.mem_cons_self) hname
    rw [or_iff_left hrefused, and_iff_right hfree, ← wellFormed_moved_iff hm hsources hfree]
    constructor
    · intro h
      have hwf := h.wellFormed
      rwa [hmove, hrun] at hwf
    · intro h
      refine ⟨by rwa [hmove, hrun], fun herror => ?_⟩
      rw [hmove, hrun] at herror
      exact absurd rfl herror
  · rw [or_iff_right fun h => hfree h.1, ← runMoves_eq_iff hsources hfree, ← hmove]
    have herror := runMoves_of_not_allFree hsources hfree
    rw [← hmove] at herror
    exact ⟨fun h => h.unchanged herror, fun heq => ⟨by rwa [heq], fun _ => heq⟩⟩

/-! ## 7. The tree of a config map -/

/-- The name of a path, and the path that it is in. -/
def fileName (path : Str) : Str := (parts slash path).getLastD []

def parentPath (path : Str) : Str := slash.intercalate (parts slash path).dropLast

/-- `NewFileItem`. -/
def newFileItem (path : Str) (isDir : Bool) (content : Str) : FileItem := .mk (fileName path) path isDir content []

mutual

/-- `FindParentNode`; what is found gets one more child. -/
def addBelow (parentAbsPath : Str) (node : FileItem) : FileItem → Option FileItem
  | .mk name absPath isDir content children =>
    if parentAbsPath = [] ∨ (parentAbsPath = absPath ∧ isDir = true) then
      some (.mk name absPath isDir content (children ++ [node]))
    else (addBelowChildren parentAbsPath node children).map (.mk name absPath isDir content)

def addBelowChildren (parentAbsPath : Str) (node : FileItem) : List FileItem → Option (List FileItem)
  | [] => none
  | item :: items =>
    if item.isDir = true ∧ item.absPath <+: parentAbsPath then (addBelow parentAbsPath node item).map (· :: items)
    else (addBelowChildren parentAbsPath node items).map (item :: ·)

end

/-- The node of a key. -/
def nodeOf (m : ConfigMap) (filePath : Str) : FileItem :=
  let content := (m.lookup filePath).getD []
  newFileItem (decodeFilePath filePath) (marksDir content) (if marksDir content then [] else content)

/-- The errors of `GetFileItemTree`. -/
inductive TreeError where
  | noEntry (basePath : Str)
  | noParent (absPath : Str)

/-- Their texts. -/
def TreeError.text : TreeError → Str
  | .noEntry basePath => str "No entry at basePath: " ++ basePath
  | .noParent absPath => str "can't find partent node for path " ++ absPath

/-- The nodes are put into the tree. -/
def grow (m : ConfigMap) : List Str → Option FileItem → Except TreeError (Option FileItem)
  | [], root => .ok root
  | filePath :: filePaths, none =>
    if (nodeOf m filePath).isDir then grow m filePaths (some (nodeOf m filePath)) else .ok (some (nodeOf m filePath))
  | filePath :: filePaths, some root =>
    match addBelow (parentPath (nodeOf m filePath).absPath) (nodeOf m filePath) root with
    | none => .error (.noParent (nodeOf m filePath).absPath)
    | some root' => grow m filePaths (some root')

/-- The keys at a path and below it. -/
def treeKeys (m : ConfigMap) (basePath : Str) : List Str :=
  (m.keys.filter fun k => (encodeFilePath basePath).isPrefixOf k).insertionSort (· ≤ ·)

/-- `GetFileItemTree`. -/
def getFileItemTree (m : ConfigMap) (basePath : Str) : Except TreeError (Option FileItem) :=
  if encodeFilePath basePath ∈ m then grow m (treeKeys m basePath) none else .error (.noEntry basePath)

theorem nodup_treeKeys (m : ConfigMap) (basePath : Str) : (treeKeys m basePath).Nodup :=
  (List.perm_insertionSort (· ≤ ·) _).nodup_iff.mpr (m.nodupKeys.filter _)

theorem mem_of_mem_treeKeys {m : ConfigMap} {basePath key : Str} (h : key ∈ treeKeys m basePath) : key ∈ m :=
  List.mem_of_mem_filter ((List.perm_insertionSort (· ≤ ·) _).mem_iff.mp h)

/-! ## 8. All operations -/

/-- An operation on a config map. -/
inductive Operation where
  | add (file : File) (replaceExisting : Bool)
  | update (file : File)
  | delete (path : Str)
  | move (root : FileItem) (newPath : Str)
  | clean

namespace Operation

/-- The paths are absolute, and the tree is one of the config map. -/
def Proper (m : ConfigMap) : Operation → Prop
  | add file _ => Absolute file.path
  | update file => Absolute file.path
  | delete path => Absolute path
  | move root newPath => TreeOf m root ∧ Absolute newPath
  | clean => True

/-- **What is intended**: the tree stays well formed, and the operation happens or does not. -/
def Follows (m : ConfigMap) : Operation → Prop
  | add file replaceExisting => AddFollows m file replaceExisting
  | update file => UpdateFollows m file
  | delete path => DeleteFollows m path
  | move root newPath => MoveFollows m root newPath
  | clean => CleanFollows m

/-- **Where it happens.** -/
def Meets (m : ConfigMap) : Operation → Prop
  | add file replaceExisting => AddMeets m file replaceExisting
  | update _ => True
  | delete path => path ≠ slash
  | move root newPath => MoveMeets m (moves root newPath)
  | clean => CleanMeets m

end Operation

/-- **The operations on the files of a config map do what is intended, exactly where their conditions are met.** -/
theorem operation_follows_iff (m : ConfigMap) (op : Operation) (hm : WellFormed m) (hop : op.Proper m) :
    op.Follows m ↔ op.Meets m := by
  cases op with
  | add file replaceExisting => exact addFollows_iff hm hop
  | update file => exact iff_of_true (updateFollows hm file) trivial
  | delete path => exact deleteFollows_iff hm hop
  | move root newPath => exact moveFollows_iff hm hop.1 hop.2
  | clean => exact cleanFollows_iff hm

/-- A config map with a root that a user created. -/
def rootOnly : ConfigMap := AList.singleton slashReplacer persistentDirPlaceholder

theorem wellFormed_rootOnly : WellFormed rootOnly := by
  have hroot : IsDir rootOnly slashReplacer := ⟨persistentDirPlaceholder, by decide, by decide⟩
  refine ⟨hroot, fun key hkey a ha => ?_⟩
  obtain rfl : key = slashReplacer := List.mem_singleton.mp hkey
  rw [ancestors_root, List.mem_singleton] at ha
  rwa [ha]

/-- A file in a directory that is not there yet. -/
theorem operation_follows_iff_rootOnly :
    (Operation.add ⟨str "/etc/nginx.conf", false, str "user nginx;"⟩ false).Follows rootOnly := by
  refine (operation_follows_iff rootOnly (.add ⟨str "/etc/nginx.conf", false, str "user nginx;"⟩ false)
    wellFormed_rootOnly ⟨str "etc/nginx.conf", by decide⟩).mpr (Or.inr (Or.inr ⟨?_, ?_, Or.inr ?_⟩))
  · rintro d _ ⟨content, hlookup, hfile⟩
    cases List.mem_singleton.mp (AList.mem_lookup_iff.mp hlookup)
    cases hfile
  · have hancestors : ∀ key ∈ encodeFilePath (str "/etc/nginx.conf") :: pathDirs (str "/etc/nginx.conf"),
        ∀ a ∈ ancestors key, a = slashReplacer ∨ a ∈ pathDirs (str "/etc/nginx.conf") := by decide
    intro key hkey _ a ha
    rcases hancestors key hkey a ha with rfl | hmem
    · exact Or.inl wellFormed_rootOnly.root
    · exact Or.inr hmem
  · rintro (hroot | ⟨key, hkey, hmem⟩)
    · exact absurd hroot (by decide)
    · cases List.mem_singleton.mp hkey
      exact absurd hmem (by decide)

/-- The root is deleted. -/
theorem delete_root_breaks :
    ¬ ∀ m : ConfigMap, WellFormed m → ∀ op : Operation, op.Proper m → op.Follows m := by
  intro h
  have hdelete : DeleteFollows rootOnly slash :=
    h rootOnly wellFormed_rootOnly (.delete slash) ⟨[], by decide⟩
  exact (deleteFollows_iff wellFormed_rootOnly ⟨[], by decide⟩).mp hdelete rfl

end Kalm.Files
