/-
  File:      Kalm/Files/Listing.lean
  Subject:   LISTING A DIRECTORY: what `GetFileItemTree` of controller/lib/files/files.go says of a well-formed config
             map, and what it says of a file that was just added.

  * `Lists` -- the tree has one node for the directory and for each entry below it, under the directory of the entry;
  * `Unambiguous` -- no path in front of another one misleads the search;
  * `Grown`, `grown_grow` -- what is in the tree after each key, in the order of the keys;
  * `lists_iff` -- a directory is listed exactly when it is unambiguous;
  * `reads_back_iff` -- a file that was added is read back exactly when its path is faithful and its content no mark.
-/
import Kalm.Files.Tree

namespace Kalm.Files

open Parts (parts heads)

/-! ## 1. What a listing says -/

/-- The path of the directory that an entry is in. -/
def parentOf (path : Str) : Str := if parentPath path = [] then slash else parentPath path

/-- The entry is below a directory. -/
def Below (base key : Str) : Prop := key ≠ base ∧ base ∈ ancestors key

/-- The keys of a directory and of what is below it. -/
def keysUnder (m : ConfigMap) (base : Str) : List Str := m.keys.filter fun key => key = base ∨ base ∈ ancestors key

/-- The node of an entry: its path, its kind and its content, under the directory that it is in. -/
def rowOf (m : ConfigMap) (base key : Str) : Row :=
  (nodeOf m key).row (if key = base then none else some (parentOf (decodeFilePath key)))

/-- **The tree lists the directory**: its nodes are those of the directory and of what is below it, each once. -/
def Lists (m : ConfigMap) (base : Str) (tree : FileItem) : Prop :=
  (rows none tree).Perm ((keysUnder m base).map (rowOf m base))

/-- **No path misleads**: what begins with the key of the directory is below it; and a directory with a path in front of
    the path of another one that is in the same directory is in front of an empty one. -/
structure Unambiguous (m : ConfigMap) (base : Str) : Prop where
  alone : ∀ key ∈ m, base <+: key → key = base ∨ base ∈ ancestors key
  apart : ∀ s d, IsDir m s → IsDir m d → Below base s → Below base d → s ≠ d →
    parentOf (decodeFilePath s) = parentOf (decodeFilePath d) → decodeFilePath s <+: decodeFilePath d →
    ∀ key ∈ m, d ∉ ancestors key

variable {m : ConfigMap} {base basePath key k s d a x y : Str} {init ks rest : List Str} {tree tree' : FileItem}

/-! ## 2. Keys and paths -/

theorem decodeFilePath_inj (hs : 47 ∉ s) (hd : 47 ∉ d) (h : decodeFilePath s = decodeFilePath d) : s = d := by
  rw [← encodeFilePath_decodeFilePath hs, h, encodeFilePath_decodeFilePath hd]

theorem decodeFilePath_root : decodeFilePath slashReplacer = slash := by decide

theorem decodeFilePath_ne_nil (h : key ≠ []) : decodeFilePath key ≠ [] := by
  intro hnil
  have hkey := Parts.intercalate_parts slashReplacer_ne_nil key
  rw [decodeFilePath, replaceAll] at hnil
  cases hparts : parts slashReplacer key with
  | nil => exact Parts.parts_ne_nil slashReplacer_ne_nil key hparts
  | cons p ps =>
      rw [hparts] at hnil hkey
      by_cases hps : ps = []
      · rw [hps, List.intercalate_singleton] at hnil hkey
        exact h (hkey.symm.trans hnil)
      · rw [List.intercalate_cons_of_ne_nil hps, List.append_eq_nil_iff, List.append_eq_nil_iff] at hnil
        exact slash_ne_nil hnil.1.2

/-- A slash is in no part of a key. -/
theorem not_mem_parts (h : 47 ∉ key) : ∀ p ∈ parts slashReplacer key, 47 ∉ p := fun p hp hmem => by
  refine h ?_
  rw [← Parts.intercalate_parts slashReplacer_ne_nil key]
  exact Parts.mem_intercalate hp hmem

/-- A key is cut into the directories above it, and its name. -/
theorem exists_of_ancestors (h : a ∈ ancestors key) : ∃ init x, parts slashReplacer key = init ++ [x] ∧ init ≠ [] := by
  obtain ⟨t, ht, _⟩ := List.mem_map.mp h
  obtain ⟨i, hi, _⟩ := Parts.mem_heads.mp ht
  have hne := Parts.parts_ne_nil slashReplacer_ne_nil key
  refine ⟨(parts slashReplacer key).dropLast, (parts slashReplacer key).getLast hne,
    (List.dropLast_concat_getLast hne).symm, fun hnil => ?_⟩
  have hlength := congrArg List.length hnil
  rw [List.length_dropLast, List.length_nil] at hlength
  omega

/-- The path of the directory above, from the parts. -/
theorem parentPath_of_parts (hkey : 47 ∉ key) (h : parts slashReplacer key = init ++ [x]) :
    parentPath (decodeFilePath key) = slash.intercalate init := by
  rw [parentPath, parts_decodeFilePath hkey, h, List.dropLast_concat]

/-- **The directory of an entry** is the last of its ancestors; the others are above it. -/
theorem parent_spec (hkey : 47 ∉ key) (h : a ∈ ancestors key) :
    ∃ d ∈ ancestors key, 47 ∉ d ∧ decodeFilePath d = parentOf (decodeFilePath key) ∧
      ∀ b ∈ ancestors key, b = d ∨ b ∈ ancestors d := by
  obtain ⟨init, x, hparts, hinit⟩ := exists_of_ancestors h
  obtain ⟨hhead, hmem⟩ := Parts.parts_init slashReplacer_ne_nil hparts hinit
  have hheads := Parts.heads_of_init slashReplacer_ne_nil hparts hinit
  have hpath := parentPath_of_parts hkey hparts
  by_cases hnil : slashReplacer.intercalate init = []
  · have hroot : init = [[]] := by rw [← hhead, hnil, Parts.parts_nil]
    have hancestors : ancestors key = [slashReplacer] := by
      rw [ancestors, hheads, hnil]
      rfl
    refine ⟨slashReplacer, hancestors ▸ List.mem_singleton_self _, by decide, ?_, fun b hb => ?_⟩
    · rw [parentOf, hpath, hroot, List.intercalate_singleton, if_pos rfl, decodeFilePath_root]
    · rw [hancestors] at hb
      exact Or.inl (List.mem_singleton.mp hb)
  · have hancestors : ancestors key =
        ancestors (slashReplacer.intercalate init) ++ [slashReplacer.intercalate init] := by
      rw [ancestors, hheads, List.map_append, List.map_singleton, if_neg hnil]
      rfl
    have hnot : 47 ∉ slashReplacer.intercalate init := by
      obtain ⟨rest, hrest⟩ := Parts.exists_of_mem_heads slashReplacer_ne_nil hmem
      intro hslash
      rw [hrest] at hkey
      exact hkey (List.mem_append_left _ (List.mem_append_left _ hslash))
    have hdecode : decodeFilePath (slashReplacer.intercalate init) = slash.intercalate init := by
      rw [decodeFilePath, replaceAll, hhead]
    refine ⟨slashReplacer.intercalate init, ?_, hnot, ?_, fun b hb => ?_⟩
    · rw [hancestors]
      exact List.mem_append_right _ (List.mem_singleton_self _)
    · rw [parentOf, hpath, ← hdecode, if_neg (decodeFilePath_ne_nil hnil)]
    · rw [hancestors] at hb
      rcases List.mem_append.mp hb with hb | hb
      · exact Or.inr hb
      · exact Or.inl (List.mem_singleton.mp hb)

/-- The directory of an entry has a path in front of that of the entry. -/
theorem parentOf_front (hkey : 47 ∉ key) (h : a ∈ ancestors key) :
    parentOf (decodeFilePath key) <+: decodeFilePath key := by
  obtain ⟨init, x, hparts, hinit⟩ := exists_of_ancestors h
  have hpath : decodeFilePath key = slash.intercalate init ++ slash ++ x := by
    rw [decodeFilePath, replaceAll, hparts, Parts.intercalate_append slash hinit (List.cons_ne_nil _ _),
      List.intercalate_singleton]
  rw [parentOf, parentPath_of_parts hkey hparts, hpath, List.append_assoc]
  split
  · rename_i hnil
    rw [hnil]
    exact List.prefix_append _ _
  · exact List.prefix_append _ _

/-- Below a directory, with its key in front. -/
theorem prefix_of_mem_ancestors (h : a ∈ ancestors key) : a <+: key := by
  rcases exists_of_mem_ancestors h with ⟨rfl, hfront⟩ | ⟨rest, rfl⟩
  · exact hfront
  · exact (List.prefix_append a slashReplacer).trans (List.prefix_append _ _)

theorem ancestors_ne_nil (h : a ∈ ancestors key) : a ≠ [] := by
  obtain ⟨t, _, rfl⟩ := List.mem_map.mp h
  split
  · exact slashReplacer_ne_nil
  · assumption

/-- **A path in front of another one**: on the way to the other is an entry of the same directory whose path begins
    with it. -/
theorem exists_on_way (hs : 47 ∉ s) (hd : 47 ∉ d) (habove : a ∈ ancestors s)
    (h : decodeFilePath s <+: decodeFilePath d) :
    s <+: d ∧ ∃ b, (b = d ∨ b ∈ ancestors d) ∧ 47 ∉ b ∧ ancestors b = ancestors s ∧
      parentOf (decodeFilePath b) = parentOf (decodeFilePath s) ∧ decodeFilePath s <+: decodeFilePath b := by
  obtain ⟨init, x, hparts, hinit⟩ := exists_of_ancestors habove
  have hne := Parts.parts_ne_nil slashReplacer_ne_nil d
  rw [decodeFilePath, replaceAll, decodeFilePath, replaceAll, hparts, slash_eq] at h
  obtain ⟨y, rest, hrest, hxy⟩ := Parts.exists_of_prefix (hparts ▸ not_mem_parts hs) (not_mem_parts hd) hne h
  have hkey : s <+: d := by
    rw [← Parts.intercalate_parts slashReplacer_ne_nil s, ← Parts.intercalate_parts slashReplacer_ne_nil d, hparts,
      hrest]
    exact Parts.intercalate_prefix slashReplacer hxy init rest
  refine ⟨hkey, ?_⟩
  -- what has the same parts up to `y`
  obtain ⟨b, hb, hbparts⟩ : ∃ b, (b = d ∨ b ∈ heads slashReplacer d) ∧ parts slashReplacer b = init ++ [y] := by
    by_cases hlast : rest = []
    · exact ⟨d, Or.inl rfl, by rw [hrest, hlast]⟩
    · have hfront : parts slashReplacer d = (init ++ [y] ++ rest.dropLast) ++ [rest.getLast hlast] := by
        rw [hrest, List.append_assoc, List.dropLast_concat_getLast hlast, List.append_assoc]
        rfl
      have hlength : init.length + 1 < (parts slashReplacer d).length := by
        have hpos := List.length_pos_iff.mpr hlast
        rw [hrest, List.length_append, List.length_cons]
        omega
      have hspec := Parts.head_spec slashReplacer_ne_nil d hlength
      refine ⟨Parts.head slashReplacer d init.length, Or.inr (Parts.mem_heads.mpr ⟨_, hlength, rfl⟩), ?_⟩
      rw [hspec.2, hrest, List.take_length_add_append]
      rfl
  have hbnil : b ≠ [] := by
    rintro rfl
    rw [Parts.parts_nil] at hbparts
    have hlength := congrArg List.length hbparts
    have hpos := List.length_pos_iff.mpr hinit
    rw [List.length_append, List.length_singleton, List.length_singleton] at hlength
    omega
  have hbd : b = d ∨ b ∈ ancestors d := hb.imp_right (mem_ancestors_of_mem_heads hbnil)
  have hbslash : 47 ∉ b := by
    rcases hbd with rfl | hmem
    · exact hd
    · exact fun hslash => hd ((prefix_of_mem_ancestors hmem).subset hslash)
  refine ⟨b, hbd, hbslash, ?_, ?_, ?_⟩
  · rw [ancestors, ancestors, Parts.heads_of_parts hparts, Parts.heads_of_parts hbparts]
  · rw [parentOf, parentOf, parentPath_of_parts hs hparts, parentPath_of_parts hbslash hbparts]
  · rw [decodeFilePath, replaceAll, decodeFilePath, replaceAll, hparts, hbparts]
    exact Parts.intercalate_prefix slash hxy init []

/-! ## 3. The tree behind each key -/

/-- Where the node of a key goes. -/
def placed (m : ConfigMap) (base key : Str) : Row :=
  (nodeOf m key).row (if key = base then none else
    some (if parentPath (decodeFilePath key) = [] then decodeFilePath base else parentPath (decodeFilePath key)))

/-- **The tree behind some keys** has their nodes, in the order of the keys. -/
structure Grown (m : ConfigMap) (base : Str) (ks : List Str) (tree : FileItem) : Prop where
  absPath : tree.absPath = decodeFilePath base
  perm : (rows none tree).Perm (ks.map (placed m base))
  ordered : Ordered (rows none tree)

theorem rows_nodeOf (above : Option Str) (m : ConfigMap) (key : Str) :
    rows above (nodeOf m key) = [(nodeOf m key).row above] := by
  rw [rows_eq]
  rfl

@[simp] theorem absPath_nodeOf (m : ConfigMap) (key : Str) : (nodeOf m key).absPath = decodeFilePath key := rfl

@[simp] theorem absPath_placed (m : ConfigMap) (base key : Str) :
    (placed m base key).absPath = decodeFilePath key := rfl

theorem isDir_placed_iff (base : Str) (h : key ∈ m) : (placed m base key).isDir = true ↔ IsDir m key := by
  obtain ⟨content, hcontent⟩ := Option.isSome_iff_exists.mp (AList.lookup_isSome.mpr h)
  have hmark : (placed m base key).isDir = marksDir content := by
    rw [placed, row_isDir, nodeOf, hcontent]
    rfl
  rw [hmark]
  refine ⟨fun hdir => ⟨content, hcontent, hdir⟩, ?_⟩
  rintro ⟨content', hcontent', hdir⟩
  rwa [Option.some.inj (hcontent.symm.trans hcontent')]

theorem Grown.mem_rows (h : Grown m base ks tree) {r : Row} : r ∈ rows none tree ↔ ∃ k ∈ ks, placed m base k = r := by
  rw [h.perm.mem_iff, List.mem_map]

/-- No two nodes have one path. -/
theorem Grown.nodup (h : Grown m base ks tree) (hkeys : ∀ k ∈ ks, 47 ∉ k) (hnodup : ks.Nodup) :
    (pathsOf (rows none tree)).Nodup := by
  have hpaths : (pathsOf (rows none tree)).Perm (ks.map decodeFilePath) := by
    have hmap := h.perm.map Row.absPath
    rwa [List.map_map] at hmap
  refine hpaths.nodup_iff.mpr (hnodup.map_on fun s hs d hd heq => ?_)
  exact decodeFilePath_inj (hkeys s hs) (hkeys d hd) heq

/-- The root of the tree keeps its path, and stays a directory. -/
theorem same_addBelow {path : Str} {node : FileItem} (h : addBelow path node tree = some tree') :
    tree'.absPath = tree.absPath ∧ tree'.isDir = tree.isDir := by
  obtain ⟨name, absPath, isDir, content, children⟩ := tree
  rw [addBelow] at h
  split at h
  · rw [← Option.some.inj h]
    exact ⟨rfl, rfl⟩
  · obtain ⟨children', _, rfl⟩ := Option.map_eq_some_iff.mp h
    exact ⟨rfl, rfl⟩

/-- Below the root of the tree comes what is in no directory. -/
theorem rows_addBelow_nil {above : Option Str} {node : FileItem} (h : addBelow [] node tree = some tree') :
    rows above tree' = rows above tree ++ rows (some tree.absPath) node := by
  obtain ⟨name, absPath, isDir, content, children⟩ := tree
  rw [addBelow, if_pos (Or.inl rfl)] at h
  obtain rfl := Option.some.inj h
  rw [rows, rows, rowsOfChildren_append, rowsOfChildren, rowsOfChildren, List.append_nil]
  rfl

/-- **One more key.** -/
theorem Grown.step (h : Grown m base ks tree) (hkeys : ∀ k ∈ ks, 47 ∉ k) (hkey : 47 ∉ key) (hnodup : ks.Nodup)
    (hless : ∀ k ∈ ks, k < key) (hne : key ≠ base)
    (hadd : addBelow (parentPath (decodeFilePath key)) (nodeOf m key) tree = some tree') :
    Grown m base (ks ++ [key]) tree' := by
  obtain ⟨l₁, l₂, hbefore, hafter, hbehind⟩ : ∃ l₁ l₂, rows none tree = l₁ ++ l₂ ∧
      rows none tree' = l₁ ++ ([placed m base key] ++ l₂) ∧ ∀ r ∈ l₂, r.above ≠ (placed m base key).above := by
    rw [placed, if_neg hne]
    by_cases hnil : parentPath (decodeFilePath key) = []
    · rw [hnil] at hadd
      refine ⟨rows none tree, [], (List.append_nil _).symm, ?_, fun _ hr => absurd hr List.not_mem_nil⟩
      rw [rows_addBelow_nil hadd, rows_nodeOf, h.absPath, if_pos hnil, List.append_nil]
    · obtain ⟨_, l₁, l₂, hbefore, hafter, hbehind⟩ := rows_addBelow tree hnil (h.nodup hkeys hnodup) hadd
      rw [rows_nodeOf] at hafter
      refine ⟨l₁, l₂, hbefore, ?_, fun r hr => ?_⟩
      · rw [if_neg hnil, hafter]
      · rw [row_above, if_neg hnil]
        exact hbehind r hr
  refine ⟨(same_addBelow hadd).1.trans h.absPath, ?_, ?_⟩
  · rw [hafter, List.map_append, List.map_singleton]
    refine (List.perm_append_comm.append_left l₁).trans ?_
    rw [← List.append_assoc, ← hbefore]
    exact h.perm.append_right _
  · rw [hafter]
    refine ordered_insert (hbefore ▸ h.ordered) hbehind fun s hs => ?_
    obtain ⟨k, hk, rfl⟩ := h.mem_rows.mp (hbefore ▸ hs)
    rw [absPath_placed, absPath_placed, encodeFilePath_decodeFilePath (hkeys k hk), encodeFilePath_decodeFilePath hkey]
    exact hless k hk

/-- The loop, cut in two. -/
theorem grow_append {tree? : Option FileItem} (h : grow m (ks ++ rest) (some tree) = .ok tree?) :
    ∃ tree', grow m ks (some tree) = .ok (some tree') ∧ grow m rest (some tree') = .ok tree? := by
  induction ks generalizing tree with
  | nil => exact ⟨tree, rfl, h⟩
  | cons key ks ih =>
      rw [List.cons_append, grow] at h
      rw [grow]
      split at h
      · cases h
      · rename_i tree' htree'
        obtain ⟨tree'', hks, hrest⟩ := ih h
        exact ⟨tree'', hks, hrest⟩

/-- What there is to say of the keys that are put into the tree. -/
structure Sorted (ks : List Str) : Prop where
  plain : ∀ k ∈ ks, 47 ∉ k
  ascending : ks.Pairwise (· < ·)

theorem Sorted.nodup (h : Sorted ks) : ks.Nodup := h.ascending.imp fun {s d} hlt heq => by
  rw [heq] at hlt
  exact List.lt_irrefl d hlt

theorem Sorted.left (h : Sorted (ks ++ rest)) : Sorted ks where
  plain k hk := h.plain k (List.mem_append_left _ hk)
  ascending := (List.pairwise_append.mp h.ascending).1

/-- **The tree behind all keys**, when they go in. -/
theorem grown_grow {tree? : Option FileItem} (h : Grown m base ks tree) (hbase : base ∈ ks)
    (hsorted : Sorted (ks ++ rest)) (hgrow : grow m rest (some tree) = .ok tree?) :
    ∃ tree', tree? = some tree' ∧ Grown m base (ks ++ rest) tree' := by
  induction rest generalizing ks tree with
  | nil =>
      rw [grow] at hgrow
      exact ⟨tree, (Except.ok.inj hgrow).symm, (List.append_nil ks).symm ▸ h⟩
  | cons key rest ih =>
      rw [grow] at hgrow
      split at hgrow
      · cases hgrow
      · rename_i tree' htree'
        obtain ⟨_, _, hbefore⟩ := List.pairwise_append.mp hsorted.ascending
        have hless (k : Str) (hk : k ∈ ks) : k < key := hbefore k hk key List.mem_cons_self
        have hne : key ≠ base := by
          rintro rfl
          exact List.lt_irrefl key (hless key hbase)
        have hkey := hsorted.plain key (List.mem_append_right _ List.mem_cons_self)
        have hstep := h.step hsorted.left.plain hkey hsorted.left.nodup hless hne htree'
        rw [← List.singleton_append, ← List.append_assoc] at hsorted ⊢
        exact ih hstep (List.mem_append_left _ hbase) hsorted hgrow

/-! ## 4. A directory that is unambiguous -/

theorem mem_treeKeys : key ∈ treeKeys m basePath ↔ key ∈ m ∧ encodeFilePath basePath <+: key := by
  rw [treeKeys, (List.perm_insertionSort (· ≤ ·) _).mem_iff, List.mem_filter, List.isPrefixOf_iff_prefix]
  rfl

theorem ascending_treeKeys (m : ConfigMap) (basePath : Str) : (treeKeys m basePath).Pairwise (· < ·) := by
  have hle : (treeKeys m basePath).Pairwise (· ≤ ·) := List.pairwise_insertionSort (· ≤ ·) _
  exact (hle.and (nodup_treeKeys m basePath)).imp fun hboth => (List.le_iff_lt_or_eq.mp hboth.1).resolve_right hboth.2

theorem sorted_treeKeys (hkeys : ∀ k ∈ m, 47 ∉ k) (basePath : Str) : Sorted (treeKeys m basePath) :=
  ⟨fun k hk => hkeys k (mem_of_mem_treeKeys hk), ascending_treeKeys m basePath⟩

/-- What is in front of a key comes first. -/
theorem mem_of_prefix (hsorted : Sorted (ks ++ key :: rest)) (hd : d ∈ ks ++ key :: rest) (hfront : d <+: key)
    (hne : d ≠ key) : d ∈ ks := by
  refine (List.mem_append.mp hd).resolve_right fun hbehind => ?_
  obtain ⟨_, hbehindSorted, _⟩ := List.pairwise_append.mp hsorted.ascending
  have hlt := (List.pairwise_cons.mp hbehindSorted).1 d ((List.mem_cons.mp hbehind).resolve_left hne)
  exact List.not_lt.mpr hfront.le hlt

/-- The keys begin with the directory itself. -/
theorem treeKeys_eq (hbase : encodeFilePath basePath ∈ m) :
    ∃ rest, treeKeys m basePath = encodeFilePath basePath :: rest := by
  have hmem : encodeFilePath basePath ∈ treeKeys m basePath := mem_treeKeys.mpr ⟨hbase, List.prefix_rfl⟩
  obtain ⟨ks, rest, hsplit⟩ := List.append_of_mem hmem
  cases ks with
  | nil => exact ⟨rest, hsplit⟩
  | cons key ks =>
      have hkey : key ∈ treeKeys m basePath := hsplit ▸ List.mem_cons_self
      have hlt : key < encodeFilePath basePath := by
        have hsorted := ascending_treeKeys m basePath
        rw [hsplit] at hsorted
        exact (List.pairwise_cons.mp hsorted).1 _ (List.mem_append_right _ List.mem_cons_self)
      exact absurd hlt (List.not_lt.mpr (mem_treeKeys.mp hkey).2.le)

/-- The tree of the directory alone. -/
theorem grown_base (m : ConfigMap) (base : Str) : Grown m base [base] (nodeOf m base) := by
  refine ⟨rfl, ?_, ?_⟩
  · rw [rows_nodeOf, List.map_singleton, placed, if_pos rfl]
  · rw [rows_nodeOf]
    exact List.pairwise_singleton _ _

/-- What is below a directory is not the root. -/
theorem Below.not_prefix_slash (h : Below base s) (hs : 47 ∉ s) : ¬ decodeFilePath s <+: slash := by
  intro hfront
  have hpath : decodeFilePath s = slash := by
    rw [slash_eq] at hfront ⊢
    cases hdecode : decodeFilePath s with
    | nil => exact absurd hdecode (decodeFilePath_ne_nil fun hnil => ancestors_ne_nil h.2 (by
        have hbase := prefix_of_mem_ancestors h.2
        rwa [hnil, List.prefix_nil] at hbase))
    | cons c cs =>
        rw [hdecode] at hfront
        obtain ⟨rfl, hcs⟩ := List.cons_prefix_cons.mp hfront
        rw [List.prefix_nil.mp hcs]
  have hroot : s = slashReplacer := decodeFilePath_inj hs (by decide) (hpath.trans decodeFilePath_root.symm)
  have hbase := h.2
  rw [hroot, ancestors_root] at hbase
  exact h.1 (hroot.trans (List.mem_singleton.mp hbase).symm)

section Unambiguous

variable (hm : WellFormed m) (hkeys : ∀ k ∈ m, 47 ∉ k)

include hm hkeys

/-- The directory of an entry is there, and is the directory itself or below it. -/
theorem exists_parent (hkey : key ∈ m) (hbelow : Below base key) :
    ∃ d ∈ m, IsDir m d ∧ (d = base ∨ Below base d) ∧ base <+: d ∧ d ∈ ancestors key ∧
      decodeFilePath d = parentOf (decodeFilePath key) := by
  obtain ⟨d, hd, _, hpath, hall⟩ := parent_spec (hkeys key hkey) hbelow.2
  have hdir := hm.above key hkey d hd
  refine ⟨d, hdir.mem, hdir, ?_, ?_, hd, hpath⟩
  · by_cases heq : d = base
    · exact Or.inl heq
    · exact Or.inr ⟨heq, (hall base hbelow.2).resolve_left (Ne.symm heq)⟩
  · rcases hall base hbelow.2 with heq | hmem
    · exact heq ▸ List.prefix_rfl
    · exact prefix_of_mem_ancestors hmem

/-- A node goes below the directory of the entry. -/
theorem placed_eq (hkey : key ∈ m) (h : key = base ∨ Below base key) : placed m base key = rowOf m base key := by
  unfold placed rowOf parentOf
  rcases h with heq | hbelow
  · rw [if_pos heq, if_pos heq]
  · rw [if_neg hbelow.1, if_neg hbelow.1]
    by_cases hnil : parentPath (decodeFilePath key) = []
    · obtain ⟨d, hd, _, hbase, _, _, hpath⟩ := exists_parent hm hkeys hkey hbelow
      rw [parentOf, if_pos hnil, ← decodeFilePath_root] at hpath
      have hroot := decodeFilePath_inj (hkeys d hd) (by decide) hpath
      have hbaseRoot : base = slashReplacer := by
        rcases hbase with heq | hbelow'
        · exact heq ▸ hroot
        · have hmem := hbelow'.2
          rw [hroot, ancestors_root] at hmem
          exact List.mem_singleton.mp hmem
      rw [if_pos hnil, if_pos hnil, hbaseRoot, decodeFilePath_root]
    · rw [if_neg hnil, if_neg hnil]

/-- **A directory with a path in front of the one that is looked for** is on the way to it, when nothing misleads. -/
theorem mem_ancestors_of_prefix (hu : Unambiguous m base) (hkey : key ∈ m) (hd : d ∈ ancestors key)
    (hs : IsDir m s) (hbelow : Below base s) (hfront : decodeFilePath s <+: decodeFilePath d) : s ∈ ancestors key := by
  have hsslash := hkeys s hs.mem
  have hdslash := hkeys d (hm.above key hkey d hd).mem
  have hnot := hbelow.not_prefix_slash hsslash
  have hdroot : d ≠ slashReplacer := by
    rintro rfl
    rw [decodeFilePath_root] at hfront
    exact hnot hfront
  obtain ⟨_, b, hb, hbslash, hancestors, hparent, hbfront⟩ := exists_on_way hsslash hdslash hbelow.2 hfront
  have hbkey : b ∈ ancestors key := by
    rcases hb with rfl | hb
    · exact hd
    · exact ancestors_trans hdroot hd hb
  by_cases heq : s = b
  · rwa [heq]
  · refine absurd hbkey (hu.apart s b hs (hm.above key hkey b hbkey) hbelow ⟨?_, ?_⟩ heq hparent.symm hbfront key hkey)
    · -- the directory itself is in front of nothing below it
      rintro rfl
      have hmem := hancestors ▸ hbelow.2
      have hroot : b = slashReplacer := by
        by_contra hne
        exact ne_of_mem_ancestors hne hmem rfl
      rw [hroot, decodeFilePath_root] at hbfront
      exact hnot hbfront
    · rw [hancestors]
      exact hbelow.2

/-- **The way to the directory of an entry is clear**, when nothing misleads. -/
theorem Grown.guided (hu : Unambiguous m base) (h : Grown m base ks tree) (hks : ∀ k ∈ ks, k ∈ m ∧ base <+: k)
    (hkey : key ∈ m) (hd : d ∈ ancestors key) : Guided (decodeFilePath d) (rows none tree) := by
  have hplaced (k : Str) (hk : k ∈ ks) : (k = base ∨ Below base k) ∧ placed m base k = rowOf m base k := by
    obtain ⟨hmem, hfront⟩ := hks k hk
    have hcases : k = base ∨ Below base k := by
      by_cases heq : k = base
      · exact Or.inl heq
      · exact Or.inr ⟨heq, (hu.alone k hmem hfront).resolve_left heq⟩
    exact ⟨hcases, placed_eq hm hkeys hmem hcases⟩
  constructor
  · intro r hr s hs habove
    obtain ⟨k, hk, rfl⟩ := h.mem_rows.mp hr
    obtain ⟨k', hk', rfl⟩ := h.mem_rows.mp hs
    obtain ⟨hcases, hrow⟩ := hplaced k hk
    have hne : k ≠ base := by
      rintro rfl
      rw [placed, if_pos rfl, row_above] at habove
      cases habove
    have hbelow := hcases.resolve_left hne
    rw [hrow, rowOf, if_neg hne, row_above, absPath_placed, Option.some_inj] at habove
    obtain ⟨p, hp, hpdir, _, _, _, hpath⟩ := exists_parent hm hkeys (hks k hk).1 hbelow
    obtain rfl : p = k' := decodeFilePath_inj (hkeys p hp) (hkeys k' (hks k' hk').1) (hpath.trans habove)
    rw [absPath_placed, absPath_placed, isDir_placed_iff base hp, hpath]
    exact ⟨parentOf_front (hkeys k (hks k hk).1) hbelow.2, hpdir⟩
  · intro s hs d' hd' habove hsdir hddir hsfront hdfront
    obtain ⟨k, hk, rfl⟩ := h.mem_rows.mp hs
    obtain ⟨k', hk', rfl⟩ := h.mem_rows.mp hd'
    obtain ⟨hcases, hrow⟩ := hplaced k hk
    obtain ⟨hcases', hrow'⟩ := hplaced k' hk'
    rw [isDir_placed_iff base (hks k hk).1] at hsdir
    rw [isDir_placed_iff base (hks k' hk').1] at hddir
    rw [absPath_placed] at hsfront hdfront ⊢
    rw [absPath_placed]
    rw [hrow, hrow', rowOf, rowOf, row_above, row_above] at habove
    by_cases hbase : k = base
    · by_cases hbase' : k' = base
      · rw [hbase, hbase']
      · rw [if_pos hbase, if_neg hbase'] at habove
        cases habove
    · by_cases hbase' : k' = base
      · rw [if_neg hbase, if_pos hbase'] at habove
        cases habove
      · rw [if_neg hbase, if_neg hbase', Option.some_inj] at habove
        have hbelow := hcases.resolve_left hbase
        have hbelow' := hcases'.resolve_left hbase'
        -- the longer of the two paths is on the way, and the shorter one misleads
        by_contra hne
        have hkeyne : k ≠ k' := fun heq => hne (heq ▸ rfl)
        rcases List.prefix_or_prefix_of_prefix hsfront hdfront with hfront | hfront
        · have hway := mem_ancestors_of_prefix hm hkeys hu hkey hd hddir hbelow' hdfront
          exact hu.apart k k' hsdir hddir hbelow hbelow' hkeyne habove hfront key hkey hway
        · have hway := mem_ancestors_of_prefix hm hkeys hu hkey hd hsdir hbelow hsfront
          exact hu.apart k' k hddir hsdir hbelow' hbelow hkeyne.symm habove.symm hfront key hkey hway

/-- **Every node goes in**, when nothing misleads. -/
theorem exists_grow (hu : Unambiguous m (encodeFilePath basePath)) (hsplit : treeKeys m basePath = ks ++ rest)
    (hbase : encodeFilePath basePath ∈ ks) (h : Grown m (encodeFilePath basePath) ks tree) :
    ∃ tree', grow m rest (some tree) = .ok (some tree') := by
  induction rest generalizing ks tree with
  | nil => exact ⟨tree, rfl⟩
  | cons key rest ih =>
      have hsorted := sorted_treeKeys hkeys basePath
      rw [hsplit] at hsorted
      have hmem {k : Str} (hk : k ∈ ks ++ key :: rest) : k ∈ m ∧ encodeFilePath basePath <+: k :=
        mem_treeKeys.mp (hsplit ▸ hk)
      obtain ⟨hkeymem, hfront⟩ := hmem (List.mem_append_right _ List.mem_cons_self)
      have hless (k : Str) (hk : k ∈ ks) : k < key :=
        (List.pairwise_append.mp hsorted.ascending).2.2 k hk key List.mem_cons_self
      have hne : key ≠ encodeFilePath basePath := by
        intro heq
        exact List.lt_irrefl _ (heq ▸ hless _ hbase)
      have hbelow : Below (encodeFilePath basePath) key := ⟨hne, (hu.alone key hkeymem hfront).resolve_left hne⟩
      obtain ⟨tree', htree'⟩ :
          ∃ tree', addBelow (parentPath (decodeFilePath key)) (nodeOf m key) tree = some tree' := by
        by_cases hnil : parentPath (decodeFilePath key) = []
        · rw [hnil]
          cases tree
          rw [addBelow, if_pos (Or.inl rfl)]
          exact ⟨_, rfl⟩
        · obtain ⟨d, hdmem, hdir, _, hdfront, hd, hpath⟩ := exists_parent hm hkeys hkeymem hbelow
          rw [parentOf, if_neg hnil] at hpath
          have hdkey : d ≠ key := by
            rintro rfl
            have hroot : d = slashReplacer := by
              by_contra hroot
              exact ne_of_mem_ancestors hroot hd rfl
            have hbase := hbelow.2
            rw [hroot, ancestors_root] at hbase
            exact hne (hroot.trans (List.mem_singleton.mp hbase).symm)
          have hdks : d ∈ ks := mem_of_prefix hsorted (hsplit ▸ mem_treeKeys.mpr ⟨hdmem, hdfront⟩)
            (prefix_of_mem_ancestors hd) hdkey
          have hguided := h.guided hm hkeys hu (fun k hk => hmem (List.mem_append_left _ hk)) hkeymem hd
          rw [← hpath]
          exact addBelow_of_guided tree hguided (h.nodup hsorted.left.plain hsorted.left.nodup)
            (h.mem_rows.mpr ⟨d, hdks, rfl⟩) ((isDir_placed_iff _ hdmem).mpr hdir) rfl
      have hkey := hkeys key hkeymem
      have hstep := h.step hsorted.left.plain hkey hsorted.left.nodup hless hne htree'
      rw [← List.singleton_append, ← List.append_assoc] at hsplit
      obtain ⟨tree'', htree''⟩ := ih hsplit (List.mem_append_left _ hbase) hstep
      refine ⟨tree'', ?_⟩
      rw [grow]
      split
      · rename_i hnone
        cases hnone.symm.trans htree'
      · rename_i tree₁ htree₁
        obtain rfl := Option.some.inj (htree₁.symm.trans htree')
        exact htree''

/-- Something directly in a directory, where something is below it. -/
theorem exists_child (hdroot : d ≠ slashReplacer) (hkey : key ∈ m) (hd : d ∈ ancestors key) :
    ∃ k ∈ m, d ∈ ancestors k ∧ decodeFilePath d = parentOf (decodeFilePath k) := by
  induction hlength : key.length using Nat.strong_induction_on generalizing key with
  | _ n ih =>
      obtain ⟨p, hp, _, hpath, hall⟩ := parent_spec (hkeys key hkey) hd
      rcases hall d hd with rfl | hdp
      · exact ⟨key, hkey, hd, hpath⟩
      · have hkeyroot : key ≠ slashReplacer := by
          rintro rfl
          rw [ancestors_root] at hd
          exact hdroot (List.mem_singleton.mp hd)
        have hne := ne_of_mem_ancestors hkeyroot hp
        have hshort : p.length < n := by
          have hfront := prefix_of_mem_ancestors hp
          rw [← hlength]
          exact lt_of_le_of_ne hfront.length_le fun heq => hne (hfront.eq_of_length heq)
        exact ih p.length hshort (hm.above key hkey p hp).mem hdp rfl

/-- **A directory misleads no more than it lists**: where another directory is in front of one with entries, the tree
    has no place for them. -/
theorem apart_of_grow {tree? : Option FileItem} (hdir : IsDir m (encodeFilePath basePath))
    (hok : getFileItemTree m basePath = .ok tree?) :
    (∃ tree, tree? = some tree ∧ Grown m (encodeFilePath basePath) (treeKeys m basePath) tree) ∧
      ∀ s d, IsDir m s → IsDir m d → Below (encodeFilePath basePath) s → Below (encodeFilePath basePath) d → s ≠ d →
        parentOf (decodeFilePath s) = parentOf (decodeFilePath d) → decodeFilePath s <+: decodeFilePath d →
        ∀ key ∈ m, d ∉ ancestors key := by
  have hbase := hdir.mem
  have hsorted := sorted_treeKeys hkeys basePath
  obtain ⟨rest, hrest⟩ := treeKeys_eq hbase
  have hnode : (nodeOf m (encodeFilePath basePath)).isDir = true := by
    have hplaced := (isDir_placed_iff (encodeFilePath basePath) hbase).mpr hdir
    rwa [placed, row_isDir] at hplaced
  have hgrow : grow m rest (some (nodeOf m (encodeFilePath basePath))) = .ok tree? := by
    rw [getFileItemTree, if_pos hbase, hrest, grow, if_pos hnode] at hok
    exact hok
  rw [hrest] at hsorted ⊢
  refine ⟨grown_grow (grown_base m _) (List.mem_singleton_self _) hsorted hgrow, ?_⟩
  intro s d hs hd hsbelow hdbelow hne hparent hfront key hkey habove
  have hsslash := hkeys s hs.mem
  have hdslash := hkeys d hd.mem
  have hdroot : d ≠ slashReplacer := by
    rintro rfl
    have hmem := hdbelow.2
    rw [ancestors_root] at hmem
    exact hdbelow.1 (List.mem_singleton.mp hmem).symm
  obtain ⟨k, hk, hdk, hpath⟩ := exists_child hm hkeys hdroot hkey habove
  have hparentPath : parentPath (decodeFilePath k) = decodeFilePath d := by
    rw [hpath, parentOf, if_neg]
    intro hnil
    rw [parentOf, if_pos hnil, ← decodeFilePath_root] at hpath
    exact hdroot (decodeFilePath_inj hdslash (by decide) hpath)
  have hsd := (exists_on_way hsslash hdslash hsbelow.2 hfront).1
  have hdfront := prefix_of_mem_ancestors hdk
  have hdk' : d ≠ k := by
    refine ne_of_mem_ancestors (fun hroot => ?_) hdk
    rw [hroot, ancestors_root] at hdk
    exact hdroot (List.mem_singleton.mp hdk)
  have hkbase : k ≠ encodeFilePath basePath := by
    rintro rfl
    exact hdbelow.1 (hdfront.eq_of_length_le (prefix_of_mem_ancestors hdbelow.2).length_le)
  have hbasefront {a : Str} (h : Below (encodeFilePath basePath) a) := prefix_of_mem_ancestors h.2
  have hin {a : Str} (ha : a ∈ m) (h : encodeFilePath basePath <+: a) : a ∈ encodeFilePath basePath :: rest :=
    hrest ▸ mem_treeKeys.mpr ⟨ha, h⟩
  -- the tree when the entry of the directory comes
  have hkin := (List.mem_cons.mp (hin hk ((hbasefront hdbelow).trans hdfront))).resolve_left hkbase
  obtain ⟨r₁, r₂, rfl⟩ := List.append_of_mem hkin
  obtain ⟨tree₁, htree₁, hstep⟩ := grow_append hgrow
  have hsorted' : Sorted ([encodeFilePath basePath] ++ r₁ ++ k :: r₂) := by
    rwa [List.append_assoc]
  obtain ⟨_, hsome, hgrown⟩ := grown_grow (grown_base m _) (List.mem_singleton_self _) hsorted'.left htree₁
  obtain rfl := Option.some.inj hsome
  have hsks : s ∈ [encodeFilePath basePath] ++ r₁ := by
    have hsk : s ≠ k := fun heq => hdk' (hdfront.eq_of_length_le (heq ▸ hsd).length_le)
    refine mem_of_prefix hsorted' ?_ (hsd.trans hdfront) hsk
    rw [List.append_assoc]
    exact hin hs.mem (hbasefront hsbelow)
  have hdks : d ∈ [encodeFilePath basePath] ++ r₁ := by
    refine mem_of_prefix hsorted' ?_ hdfront hdk'
    rw [List.append_assoc]
    exact hin hd.mem (hbasefront hdbelow)
  have hplaced (a : Str) (ha : IsDir m a) (h : Below (encodeFilePath basePath) a)
      (haks : a ∈ [encodeFilePath basePath] ++ r₁) :
      placed m (encodeFilePath basePath) a ∈ rowsOfChildren tree₁.absPath tree₁.children ∧
        (placed m (encodeFilePath basePath) a).above = some (parentOf (decodeFilePath a)) := by
    have habove : (placed m (encodeFilePath basePath) a).above = some (parentOf (decodeFilePath a)) := by
      rw [placed_eq hm hkeys ha.mem (Or.inr h), rowOf, if_neg h.1, row_above]
    refine ⟨(mem_rows.mp (hgrown.mem_rows.mpr ⟨a, haks, rfl⟩)).resolve_left fun heq => ?_, habove⟩
    rw [heq, row_above] at habove
    cases habove
  obtain ⟨hsrow, hsabove⟩ := hplaced s hs hsbelow hsks
  obtain ⟨hdrow, hdabove⟩ := hplaced d hd hdbelow hdks
  have hless : s < d := (List.le_iff_lt_or_eq.mp hsd.le).resolve_right hne
  have hnone : addBelow (decodeFilePath d) (nodeOf m k) tree₁ = none := by
    refine addBelow_of_blocked tree₁ (decodeFilePath_ne_nil (ancestors_ne_nil hdk))
      (hgrown.nodup hsorted'.left.plain hsorted'.left.nodup) hgrown.ordered hsrow hdrow ?_ ?_ hfront rfl ?_
    · rw [hsabove, hdabove, hparent]
    · exact (isDir_placed_iff _ hs.mem).mpr hs
    · rwa [absPath_placed, encodeFilePath_decodeFilePath hsslash, encodeFilePath_decodeFilePath hdslash]
  rw [grow, absPath_nodeOf, hparentPath, hnone] at hstep
  cases hstep

end Unambiguous

/-- What is listed is in the config map. -/
theorem mem_keysUnder : key ∈ keysUnder m base ↔ key ∈ m ∧ (key = base ∨ base ∈ ancestors key) := by
  rw [keysUnder, List.mem_filter, decide_eq_true_iff]
  rfl

theorem nodup_keysUnder (m : ConfigMap) (base : Str) : (keysUnder m base).Nodup := m.nodupKeys.filter _

/-- **A directory is listed exactly** when it is a file, or nothing misleads. -/
theorem lists_iff (hm : WellFormed m) (hkeys : ∀ k ∈ m, 47 ∉ k) (hbase : encodeFilePath basePath ∈ m) :
    (∃ tree, getFileItemTree m basePath = .ok (some tree) ∧ Lists m (encodeFilePath basePath) tree) ↔
      IsFile m (encodeFilePath basePath) ∨ Unambiguous m (encodeFilePath basePath) := by
  have hsub (k : Str) (hk : k ∈ keysUnder m (encodeFilePath basePath)) : k ∈ treeKeys m basePath := by
    obtain ⟨hmem, hcases⟩ := mem_keysUnder.mp hk
    refine mem_treeKeys.mpr ⟨hmem, ?_⟩
    rcases hcases with rfl | habove
    · exact List.prefix_rfl
    · exact prefix_of_mem_ancestors habove
  obtain ⟨rest, hrest⟩ := treeKeys_eq hbase
  rcases isDir_or_isFile hbase with hdir | hfile
  · rw [or_iff_right hdir.not_isFile]
    have hnode : (nodeOf m (encodeFilePath basePath)).isDir = true := by
      have hplaced := (isDir_placed_iff (encodeFilePath basePath) hbase).mpr hdir
      rwa [placed, row_isDir] at hplaced
    constructor
    · rintro ⟨tree, hok, hlists⟩
      obtain ⟨⟨tree', hsome, hgrown⟩, hapart⟩ := apart_of_grow hm hkeys hdir hok
      obtain rfl := Option.some.inj hsome
      refine ⟨fun key hkey hfront => ?_, hapart⟩
      -- as many nodes as keys
      have hlength := (hgrown.perm.symm.trans hlists).length_eq
      rw [List.length_map, List.length_map] at hlength
      have hperm := List.subperm_of_subset (nodup_keysUnder m (encodeFilePath basePath)) hsub
      have hall := (hperm.perm_of_length_le hlength.le).mem_iff.mpr (mem_treeKeys.mpr ⟨hkey, hfront⟩)
      exact (mem_keysUnder.mp hall).2
    · intro hu
      obtain ⟨tree, htree⟩ := exists_grow hm hkeys hu hrest (List.mem_singleton_self _) (grown_base m _)
      have hsorted := sorted_treeKeys hkeys basePath
      rw [hrest] at hsorted
      obtain ⟨tree', hsome, hgrown⟩ := grown_grow (grown_base m _) (List.mem_singleton_self _) hsorted htree
      obtain rfl := Option.some.inj hsome
      refine ⟨tree, ?_, ?_⟩
      · rw [getFileItemTree, if_pos hbase, hrest, grow, if_pos hnode]
        exact htree
      · have hall : (treeKeys m basePath).Perm (keysUnder m (encodeFilePath basePath)) := by
          refine (List.perm_ext_iff_of_nodup (nodup_treeKeys m basePath) (nodup_keysUnder m _)).mpr fun k =>
            ⟨fun hk => ?_, hsub k⟩
          obtain ⟨hmem, hfront⟩ := mem_treeKeys.mp hk
          exact mem_keysUnder.mpr ⟨hmem, hu.alone k hmem hfront⟩
        have hrows : (treeKeys m basePath).map (placed m (encodeFilePath basePath)) =
            (treeKeys m basePath).map (rowOf m (encodeFilePath basePath)) := by
          refine List.map_congr_left fun k hk => ?_
          obtain ⟨hmem, hfront⟩ := mem_treeKeys.mp hk
          refine placed_eq hm hkeys hmem ?_
          by_cases heq : k = encodeFilePath basePath
          · exact Or.inl heq
          · exact Or.inr ⟨heq, (hu.alone k hmem hfront).resolve_left heq⟩
        have hperm := hgrown.perm
        rw [List.singleton_append, ← hrest, hrows] at hperm
        exact hperm.trans (hall.map _)
  · refine iff_of_true ⟨nodeOf m (encodeFilePath basePath), ?_, ?_⟩ (Or.inl hfile)
    · have hnode : ¬ (nodeOf m (encodeFilePath basePath)).isDir = true := by
        intro hnode
        refine (IsDir.not_isFile ?_) hfile
        have hplaced := isDir_placed_iff (encodeFilePath basePath) hbase
        rw [placed, row_isDir] at hplaced
        exact hplaced.mp hnode
      rw [getFileItemTree, if_pos hbase, hrest, grow, if_neg hnode]
    · have hone : (keysUnder m (encodeFilePath basePath)).Perm [encodeFilePath basePath] := by
        refine (List.perm_ext_iff_of_nodup (nodup_keysUnder m _) (List.nodup_singleton _)).mpr fun k => ?_
        rw [mem_keysUnder, List.mem_singleton]
        constructor
        · rintro ⟨hmem, heq | habove⟩
          · exact heq
          · exact absurd hfile (hm.above k hmem _ habove).not_isFile
        · rintro rfl
          exact ⟨hbase, Or.inl rfl⟩
      rw [Lists, rows_nodeOf]
      refine List.Perm.trans ?_ (hone.map _).symm
      rw [List.map_singleton, rowOf, if_pos rfl]

/-- A shop's files. -/
def shopFiles : ConfigMap :=
  ((AList.singleton slashReplacer persistentDirPlaceholder).insert (str "__D__etc") dirPlaceholder).insert
    (str "__D__etc__D__shop.conf") (str "open = true")

theorem wellFormed_shopFiles : WellFormed shopFiles := by
  have hroot : IsDir shopFiles slashReplacer := ⟨persistentDirPlaceholder, by decide, by decide⟩
  have hall : ∀ key ∈ shopFiles.keys, ∀ a ∈ ancestors key, (shopFiles.lookup a).any marksDir = true := by decide
  refine ⟨hroot, fun key hkey a ha => ?_⟩
  have hmark := hall key hkey a ha
  cases hlookup : shopFiles.lookup a with
  | none =>
      rw [hlookup] at hmark
      cases hmark
  | some content =>
      rw [hlookup] at hmark
      exact ⟨content, hlookup, hmark⟩

/-- The directory of the shop's configuration is listed. -/
theorem lists_etc : ∃ tree, getFileItemTree shopFiles (str "/etc") = .ok (some tree) ∧
    Lists shopFiles (encodeFilePath (str "/etc")) tree := by
  have hkeys : ∀ key ∈ shopFiles.keys, 47 ∉ key := by decide
  have halone : ∀ key ∈ shopFiles.keys, encodeFilePath (str "/etc") <+: key →
      key = encodeFilePath (str "/etc") ∨ encodeFilePath (str "/etc") ∈ ancestors key := by decide
  have hfiles : ∀ key ∈ shopFiles.keys, key ≠ encodeFilePath (str "/etc") →
      encodeFilePath (str "/etc") ∈ ancestors key → (shopFiles.lookup key).any marksDir = false := by decide
  refine (lists_iff wellFormed_shopFiles hkeys (by decide)).mpr (Or.inr ⟨halone, fun s d _ hd _ hbelow => ?_⟩)
  have hfile := hfiles d hd.mem hbelow.1 hbelow.2
  obtain ⟨content, hcontent, hmark⟩ := hd
  rw [hcontent, Option.any_some, hmark] at hfile
  cases hfile

/-! ## 5. A file is read back -/

/-- A key has no slash. -/
theorem not_mem_encodeFilePath (path : Str) : 47 ∉ encodeFilePath path := by
  intro hmem
  rcases Parts.mem_of_mem_intercalate hmem with hsep | ⟨part, hpart, hslash⟩
  · exact absurd hsep (by decide)
  · rw [slash_eq] at hpart
    exact Parts.not_mem_of_mem_parts hpart hslash

/-- **A path comes back from its key** exactly when it is faithful. -/
theorem decodeFilePath_encodeFilePath_iff (path : Str) :
    decodeFilePath (encodeFilePath path) = path ↔ Faithful path := by
  constructor
  · intro h
    rw [Faithful, ← parts_decodeFilePath (not_mem_encodeFilePath path), h]
  · intro h
    rw [decodeFilePath, replaceAll, h]
    exact Parts.intercalate_parts slash_ne_nil path

/-- The root of the tree stays a directory. -/
theorem isDir_grow (h : grow m ks (some tree) = .ok (some tree')) : tree'.isDir = tree.isDir := by
  induction ks generalizing tree with
  | nil =>
      rw [grow] at h
      rw [Option.some.inj (Except.ok.inj h)]
  | cons key ks ih =>
      rw [grow] at h
      split at h
      · cases h
      · rename_i tree₁ htree₁
        exact (ih h).trans (same_addBelow htree₁).2

/-- **A file that was added is read back** exactly when its path is faithful, and its content is not the mark of a
    directory. -/
theorem reads_back_iff {m' : ConfigMap} {path content : Str} {replaceExisting : Bool}
    (hadd : addFile m ⟨path, false, content⟩ replaceExisting = (none, m')) :
    getFileItemTree m' path = .ok (some (.mk (fileName path) path false content [])) ↔
      Faithful path ∧ marksDir content = false := by
  have hlookup : m'.lookup (encodeFilePath path) = some content := by
    rw [addFile] at hadd
    split at hadd
    · cases hadd
    split at hadd
    · cases hadd
    split at hadd
    · cases hadd
    · obtain ⟨_, rfl⟩ := Prod.mk.inj hadd
      exact AList.lookup_insert _
  have hmem : encodeFilePath path ∈ m' := AList.lookup_isSome.mp (by rw [hlookup]; rfl)
  have hnode : nodeOf m' (encodeFilePath path) =
      newFileItem (decodeFilePath (encodeFilePath path)) (marksDir content)
        (if marksDir content then [] else content) := by
    rw [nodeOf, hlookup]
    rfl
  obtain ⟨rest, hrest⟩ := treeKeys_eq hmem
  rw [getFileItemTree, if_pos hmem, hrest, grow, hnode, ← decodeFilePath_encodeFilePath_iff]
  cases hmark : marksDir content with
  | true =>
      refine iff_of_false (fun h => ?_) fun h => Bool.false_ne_true h.2.symm
      rw [if_pos rfl] at h
      exact Bool.false_ne_true (isDir_grow h)
  | false =>
      rw [and_iff_left rfl, if_neg Bool.false_ne_true, newFileItem]
      constructor
      · intro h
        have heq := Option.some.inj (Except.ok.inj h)
        exact (FileItem.mk.inj heq).2.1
      · intro h
        rw [h]
        exact if_neg Bool.false_ne_true

/-- A file that is read back. -/
theorem reads_back_nginx : getFileItemTree (addFile rootOnly ⟨str "/nginx.conf", false, str "user nginx;"⟩ false).2
    (str "/nginx.conf") = .ok (some (.mk (str "nginx.conf") (str "/nginx.conf") false (str "user nginx;") [])) := by
  have hfaithful : parts slashReplacer (encodeFilePath (str "/nginx.conf")) = parts slash (str "/nginx.conf") := by
    decide
  have hnone : (addFile rootOnly ⟨str "/nginx.conf", false, str "user nginx;"⟩ false).1 = none := by decide
  exact (reads_back_iff (Prod.ext hnone rfl)).mpr ⟨hfaithful, by decide⟩

end Kalm.Files
