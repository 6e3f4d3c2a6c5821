/-
  File:      Kalm/Files/Paths.lean
  Subject:   PATHS IN A CONFIG MAP: controller/lib/files/files.go writes a slash as `__D__`, for a key of a config map
             has no slash.

  * `encodeFilePath`, `pathParts`, `pathDirs` -- the key of a path, and the keys of the directories that it names;
  * `ancestors` -- the ancestors of a key, as the key is cut;
  * `Faithful` -- a path whose key is cut into the names of the path;
  * `exists_of_mem_ancestors`, `ancestors_trans` -- a key begins with its ancestors, and theirs are its own.
-/
import Kalm.Go.Strings
import Kalm.Lib.Parts

namespace Kalm.Files

open Parts (heads parts)

/-! ## 1. Keys -/

/-- `KALM_SLASH_REPLACER`; it is the key of the root as well. -/
def slashReplacer : Str := str "__D__"

def slash : Str := str "/"

theorem slashReplacer_ne_nil : slashReplacer ≠ [] := by decide

theorem slash_ne_nil : slash ≠ [] := by decide

/-- `strings.ReplaceAll`, for an old text that is not empty. -/
def replaceAll (s old new : Str) : Str := new.intercalate (parts old s)

/-- `EncodeFilePath`. -/
def encodeFilePath (path : Str) : Str := replaceAll path slash slashReplacer

/-- `DecodeFilePath`. -/
def decodeFilePath (key : Str) : Str := replaceAll key slashReplacer slash

/-- The names of an absolute path. -/
def pathParts (path : Str) : List Str := parts slash (path.drop 1)

/-- The keys of the directories that an absolute path names, from the outside. -/
def pathDirs (path : Str) : List Str :=
  (List.range ((pathParts path).length - 1)).map fun i =>
    slashReplacer ++ slashReplacer.intercalate ((pathParts path).take (i + 1))

/-- The path begins with a slash. -/
def Absolute (path : Str) : Prop := slash <+: path

theorem Absolute.ne_nil {path : Str} (h : Absolute path) : path ≠ [] := by
  rintro rfl
  cases List.prefix_nil.mp h

/-- **The ancestors of a key**, as it is cut; in front of the first separator is the root. -/
def ancestors (key : Str) : List Str := (heads slashReplacer key).map fun a => if a = [] then slashReplacer else a

/-- **The key of a path is cut into the names of the path.** -/
def Faithful (path : Str) : Prop := parts slashReplacer (encodeFilePath path) = parts slash path

/-! ## 2. Absolute paths -/

variable {path key a b : Str}

theorem pathParts_ne_nil (path : Str) : pathParts path ≠ [] := Parts.parts_ne_nil slash_ne_nil _

theorem parts_of_absolute (h : Absolute path) : parts slash path = [] :: pathParts path := by
  obtain ⟨rest, rfl⟩ := h
  exact Parts.parts_append slash_ne_nil rest

/-- The key of a path is its names, each behind a separator. -/
theorem encodeFilePath_of_absolute (h : Absolute path) :
    encodeFilePath path = slashReplacer ++ slashReplacer.intercalate (pathParts path) := by
  rw [encodeFilePath, replaceAll, parts_of_absolute h,
    List.intercalate_cons_of_ne_nil (pathParts_ne_nil path), List.nil_append]

/-- The key of a directory that a path names is in front of a separator. -/
theorem exists_of_mem_pathDirs (h : Absolute path) (ha : a ∈ pathDirs path) :
    ∃ rest, encodeFilePath path = a ++ slashReplacer ++ rest := by
  obtain ⟨i, hi, rfl⟩ := List.mem_map.mp ha
  rw [List.mem_range] at hi
  refine ⟨slashReplacer.intercalate ((pathParts path).drop (i + 1)), ?_⟩
  have htake : (pathParts path).take (i + 1) ≠ [] := by
    rw [Ne, List.take_eq_nil_iff, not_or]
    exact ⟨Nat.succ_ne_zero i, pathParts_ne_nil path⟩
  have hdrop : (pathParts path).drop (i + 1) ≠ [] := by
    rw [Ne, List.drop_eq_nil_iff]
    omega
  have hcut := Parts.intercalate_append slashReplacer htake hdrop
  rw [List.take_append_drop] at hcut
  rw [encodeFilePath_of_absolute h, hcut]
  simp only [List.append_assoc]

/-- A directory that a path names is not what the path names. -/
theorem encodeFilePath_not_mem_pathDirs (h : Absolute path) : encodeFilePath path ∉ pathDirs path := by
  intro hmem
  obtain ⟨rest, hrest⟩ := exists_of_mem_pathDirs h hmem
  have hlength := congrArg List.length hrest
  rw [List.length_append, List.length_append] at hlength
  have hsep := List.length_pos_iff.mpr slashReplacer_ne_nil
  omega

/-- Only `/` has the key of the root. -/
theorem encodeFilePath_eq_root_iff (h : Absolute path) : encodeFilePath path = slashReplacer ↔ path = slash := by
  constructor
  · intro hroot
    rw [encodeFilePath_of_absolute h, List.append_right_eq_self] at hroot
    obtain ⟨rest, rfl⟩ := h
    have hparts : pathParts (slash ++ rest) = parts slash rest := rfl
    rw [hparts] at hroot
    have hrest := Parts.intercalate_parts slash_ne_nil rest
    cases hps : parts slash rest with
    | nil => exact absurd hps (Parts.parts_ne_nil slash_ne_nil rest)
    | cons p ps =>
        cases ps with
        | nil =>
            rw [hps, List.intercalate_singleton] at hroot
            rw [hps, List.intercalate_singleton, hroot] at hrest
            rw [← hrest, List.append_nil]
        | cons q ps =>
            rw [hps, List.intercalate_cons_cons, List.append_eq_nil_iff, List.append_eq_nil_iff] at hroot
            exact absurd hroot.1.2 slashReplacer_ne_nil
  · rintro rfl
    decide

/-! ## 3. Ancestors -/

/-- **A key begins with its ancestors**, each in front of a separator; the root is the separator. -/
theorem exists_of_mem_ancestors (h : a ∈ ancestors key) :
    a = slashReplacer ∧ slashReplacer <+: key ∨ ∃ rest, key = a ++ slashReplacer ++ rest := by
  obtain ⟨t, ht, rfl⟩ := List.mem_map.mp h
  obtain ⟨rest, hrest⟩ := Parts.exists_of_mem_heads slashReplacer_ne_nil ht
  split
  · rename_i hempty
    subst hempty
    exact Or.inl ⟨rfl, rest, by rw [hrest, List.nil_append]⟩
  · exact Or.inr ⟨rest, hrest⟩

/-- The root is above itself. -/
theorem ancestors_root : ancestors slashReplacer = [slashReplacer] := by decide

/-- A head that is not empty is an ancestor. -/
theorem mem_ancestors_of_mem_heads (ha : a ≠ []) (h : a ∈ heads slashReplacer key) : a ∈ ancestors key :=
  List.mem_map.mpr ⟨a, h, if_neg ha⟩

/-- An ancestor that is not the root is a head. -/
theorem mem_heads_of_mem_ancestors (hroot : a ≠ slashReplacer) (h : a ∈ ancestors key) :
    a ∈ heads slashReplacer key := by
  obtain ⟨t, ht, rfl⟩ := List.mem_map.mp h
  split at hroot
  · exact absurd rfl hroot
  · rw [if_neg ‹_›]
    exact ht

/-- **The ancestors of an ancestor are ancestors.** -/
theorem ancestors_trans (hroot : a ≠ slashReplacer) (ha : a ∈ ancestors key) (hb : b ∈ ancestors a) :
    b ∈ ancestors key := by
  obtain ⟨t, ht, rfl⟩ := List.mem_map.mp hb
  exact List.mem_map.mpr
    ⟨t, Parts.mem_heads_trans slashReplacer_ne_nil (mem_heads_of_mem_ancestors hroot ha) ht, rfl⟩

/-! ## 4. Faithful paths -/

theorem slash_eq : slash = [47] := by decide

/-- The parts of the path of a key are those of the key. -/
theorem parts_decodeFilePath (h : 47 ∉ key) : parts slash (decodeFilePath key) = parts slashReplacer key := by
  refine Parts.parts_intercalate slash_ne_nil (Parts.parts_ne_nil slashReplacer_ne_nil key) fun part hpart => ?_
  rw [slash_eq]
  refine Parts.plain_of_not_mem fun hmem => h ?_
  rw [← Parts.intercalate_parts slashReplacer_ne_nil key]
  exact Parts.mem_intercalate hpart hmem

/-- **A key without a slash is the key of its path.** -/
theorem encodeFilePath_decodeFilePath (h : 47 ∉ key) : encodeFilePath (decodeFilePath key) = key := by
  rw [encodeFilePath, replaceAll, parts_decodeFilePath h, Parts.intercalate_parts slashReplacer_ne_nil]

end Kalm.Files
