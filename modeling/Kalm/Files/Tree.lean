/-
  File:      Kalm/Files/Tree.lean
  Subject:   THE SEARCH FOR A PARENT: what `FindParentNode` of controller/lib/files/files.go finds in a tree, where it
             goes into the first directory whose path is in front of the one that it looks for.

  * `Row`, `rows` -- the nodes of a tree, each with the path of the node above it;
  * `above_of_mem_rowsOfChildren` -- what is above a node is in the tree;
  * `Ordered`, `ordered_insert` -- the children of a node stand in the order of their keys, also behind a new one;
  * `rows_addBelow` -- a new node comes below the node of the path, and nothing else changes;
  * `addBelow_of_guided` -- the node is found, when no other directory is in front of a node on the way;
  * `addBelow_of_blocked` -- it is not, when another directory is in front of it and comes first.
-/
import Kalm.Files.Moves

namespace Kalm.Files

/-! ## 1. Rows -/

/-- A node, with the path of the node above it. -/
structure Row where
  above : Option Str
  name : Str
  absPath : Str
  isDir : Bool
  content : Str

/-- The node itself. -/
def FileItem.row (above : Option Str) : FileItem → Row
  | .mk name absPath isDir content _ => ⟨above, name, absPath, isDir, content⟩

mutual

/-- The nodes of a tree. -/
def rows (above : Option Str) : FileItem → List Row
  | .mk name absPath isDir content children =>
    ⟨above, name, absPath, isDir, content⟩ :: rowsOfChildren absPath children

def rowsOfChildren (above : Str) : List FileItem → List Row
  | [] => []
  | item :: items => rows (some above) item ++ rowsOfChildren above items

end

/-- The paths of the nodes. -/
def pathsOf (l : List Row) : List Str := l.map Row.absPath

/-- **The children of a node stand in the order of their keys.** -/
def Ordered (l : List Row) : Prop :=
  l.Pairwise fun r r' => r.above = r'.above → encodeFilePath r.absPath < encodeFilePath r'.absPath

variable {above : Option Str} {top path : Str} {node item item' : FileItem} {items items' : List FileItem}
  {r s d : Row} {l l' : List Row}

/-- The children. -/
def FileItem.children : FileItem → List FileItem
  | .mk _ _ _ _ children => children

theorem rows_eq (above : Option Str) (item : FileItem) :
    rows above item = item.row above :: rowsOfChildren item.absPath item.children := by
  obtain ⟨name, absPath, isDir, content, children⟩ := item
  rw [rows]
  rfl

@[simp] theorem row_above (above : Option Str) (item : FileItem) : (item.row above).above = above := by
  cases item
  rfl

@[simp] theorem row_absPath (above : Option Str) (item : FileItem) : (item.row above).absPath = item.absPath := by
  cases item
  rfl

@[simp] theorem row_isDir (above : Option Str) (item : FileItem) : (item.row above).isDir = item.isDir := by
  cases item
  rfl

theorem mem_rows : r ∈ rows above item ↔ r = item.row above ∨ r ∈ rowsOfChildren item.absPath item.children := by
  rw [rows_eq, List.mem_cons]

theorem row_mem_rows (above : Option Str) (item : FileItem) : item.row above ∈ rows above item :=
  mem_rows.mpr (Or.inl rfl)

theorem mem_rowsOfChildren_cons :
    r ∈ rowsOfChildren top (item :: items) ↔ r ∈ rows (some top) item ∨ r ∈ rowsOfChildren top items := by
  rw [rowsOfChildren, List.mem_append]

theorem exists_of_mem_rowsOfChildren (h : r ∈ rowsOfChildren top items) :
    ∃ item ∈ items, r ∈ rows (some top) item ∧ rows (some top) item ⊆ rowsOfChildren top items := by
  induction items with
  | nil =>
      rw [rowsOfChildren] at h
      exact absurd h List.not_mem_nil
  | cons item items ih =>
      rcases mem_rowsOfChildren_cons.mp h with h | h
      · exact ⟨item, List.mem_cons_self, h, fun _ hr => mem_rowsOfChildren_cons.mpr (Or.inl hr)⟩
      · obtain ⟨item', hmem, hr, hsub⟩ := ih h
        exact ⟨item', List.mem_cons_of_mem item hmem, hr, fun _ hr' => mem_rowsOfChildren_cons.mpr (Or.inr (hsub hr'))⟩

theorem rowsOfChildren_append (top : Str) (items items' : List FileItem) :
    rowsOfChildren top (items ++ items') = rowsOfChildren top items ++ rowsOfChildren top items' := by
  induction items with
  | nil => rw [List.nil_append, rowsOfChildren, List.nil_append]
  | cons item items ih => rw [List.cons_append, rowsOfChildren, rowsOfChildren, ih, List.append_assoc]

theorem mem_pathsOf (h : r ∈ l) : r.absPath ∈ pathsOf l := List.mem_map_of_mem h

mutual

/-- What is above a node of a tree is in the tree, or is above the tree. -/
theorem above_of_mem_rows {above : Option Str} {r : Row} (item : FileItem) (h : r ∈ rows above item) :
    r = item.row above ∨ ∃ q ∈ pathsOf (rows above item), r.above = some q := by
  obtain ⟨name, absPath, isDir, content, children⟩ := item
  rw [rows] at h ⊢
  rcases List.mem_cons.mp h with rfl | h
  · exact Or.inl rfl
  · have hchildren := above_of_mem_rowsOfChildren children h
    rcases hchildren with habove | ⟨q, hq, habove⟩
    · exact Or.inr ⟨absPath, List.mem_cons_self, habove⟩
    · exact Or.inr ⟨q, List.mem_cons_of_mem _ hq, habove⟩

/-- **What is above a node is in the tree.** -/
theorem above_of_mem_rowsOfChildren {top : Str} {r : Row} (items : List FileItem)
    (h : r ∈ rowsOfChildren top items) :
    r.above = some top ∨ ∃ q ∈ pathsOf (rowsOfChildren top items), r.above = some q := by
  cases items with
  | nil =>
      rw [rowsOfChildren] at h
      exact absurd h List.not_mem_nil
  | cons item items =>
      rw [rowsOfChildren] at h ⊢
      rw [pathsOf, List.map_append]
      rcases List.mem_append.mp h with h | h
      · have hitem := above_of_mem_rows item h
        rcases hitem with rfl | ⟨q, hq, habove⟩
        · exact Or.inl (row_above _ _)
        · exact Or.inr ⟨q, List.mem_append_left _ hq, habove⟩
      · have hitems := above_of_mem_rowsOfChildren items h
        rcases hitems with habove | ⟨q, hq, habove⟩
        · exact Or.inl habove
        · exact Or.inr ⟨q, List.mem_append_right _ hq, habove⟩

end

/-! ## 2. A new node -/

mutual

/-- **A new node comes below the node of the path**; behind it is nothing else that is there. -/
theorem rows_addBelow {above : Option Str} {path : Str} {node : FileItem} (item : FileItem) (hpath : path ≠ [])
    (hnodup : (pathsOf (rows above item)).Nodup) {item' : FileItem} (h : addBelow path node item = some item') :
    path ∈ pathsOf (rows above item) ∧ ∃ l₁ l₂, rows above item = l₁ ++ l₂ ∧
      rows above item' = l₁ ++ (rows (some path) node ++ l₂) ∧ ∀ r ∈ l₂, r.above ≠ some path := by
  obtain ⟨name, absPath, isDir, content, children⟩ := item
  rw [addBelow] at h
  split at h
  · rename_i hhere
    obtain ⟨rfl, _⟩ := hhere.resolve_left hpath
    obtain rfl := Option.some.inj h
    refine ⟨mem_pathsOf (row_mem_rows above _), rows above (.mk name path isDir content children), [], ?_, ?_, ?_⟩
    · rw [List.append_nil]
    · rw [rows, rows, rowsOfChildren_append, rowsOfChildren, rowsOfChildren]
      rfl
    · exact fun _ hr => absurd hr List.not_mem_nil
  · obtain ⟨children', hchildren', rfl⟩ := Option.map_eq_some_iff.mp h
    rw [rows] at hnodup ⊢
    obtain ⟨htop, hrest⟩ := List.nodup_cons.mp hnodup
    obtain ⟨hmem, l₁, l₂, hbefore, hafter, hbehind⟩ := rows_addBelowChildren children hpath hrest htop hchildren'
    refine ⟨List.mem_cons_of_mem _ hmem, ⟨above, name, absPath, isDir, content⟩ :: l₁, l₂, ?_, ?_, hbehind⟩
    · rw [hbefore, List.cons_append]
    · rw [rows, hafter, List.cons_append]

theorem rows_addBelowChildren {top path : Str} {node : FileItem} (items : List FileItem) (hpath : path ≠ [])
    (hnodup : (pathsOf (rowsOfChildren top items)).Nodup) (htop : top ∉ pathsOf (rowsOfChildren top items))
    {items' : List FileItem} (h : addBelowChildren path node items = some items') :
    path ∈ pathsOf (rowsOfChildren top items) ∧ ∃ l₁ l₂, rowsOfChildren top items = l₁ ++ l₂ ∧
      rowsOfChildren top items' = l₁ ++ (rows (some path) node ++ l₂) ∧ ∀ r ∈ l₂, r.above ≠ some path := by
  cases items with
  | nil =>
      rw [addBelowChildren] at h
      cases h
  | cons item items =>
      rw [rowsOfChildren, pathsOf, List.map_append] at hnodup htop ⊢
      obtain ⟨hitemNodup, hitemsNodup, hdisjoint⟩ := List.nodup_append.mp hnodup
      rw [List.mem_append, not_or] at htop
      rw [addBelowChildren] at h
      split at h
      · obtain ⟨item', hitem', rfl⟩ := Option.map_eq_some_iff.mp h
        obtain ⟨hmem, l₁, l₂, hbefore, hafter, hbehind⟩ := rows_addBelow item hpath hitemNodup hitem'
        refine ⟨List.mem_append_left _ hmem, l₁, l₂ ++ rowsOfChildren top items, ?_, ?_, fun r hr => ?_⟩
        · rw [hbefore, List.append_assoc]
        · rw [rowsOfChildren, hafter]
          simp only [List.append_assoc]
        · rcases List.mem_append.mp hr with hr | hr
          · exact hbehind r hr
          · -- what is above a later child is not in this one
            intro habove
            rcases above_of_mem_rowsOfChildren items hr with htop' | ⟨q, hq, hq'⟩
            · obtain rfl := Option.some.inj (htop'.symm.trans habove)
              exact htop.1 hmem
            · obtain rfl := Option.some.inj (hq'.symm.trans habove)
              exact hdisjoint q hmem q hq rfl
      · obtain ⟨items', hitems', rfl⟩ := Option.map_eq_some_iff.mp h
        obtain ⟨hmem, l₁, l₂, hbefore, hafter, hbehind⟩ :=
          rows_addBelowChildren items hpath hitemsNodup htop.2 hitems'
        refine ⟨List.mem_append_right _ hmem, rows (some top) item ++ l₁, l₂, ?_, ?_, hbehind⟩
        · rw [hbefore, List.append_assoc]
        · rw [rowsOfChildren, hafter, List.append_assoc]

end

/-- **The order stays**, when the new node is behind all others. -/
theorem ordered_insert {l₁ l₂ : List Row} (h : Ordered (l₁ ++ l₂)) (hbehind : ∀ d ∈ l₂, d.above ≠ r.above)
    (hlast : ∀ s ∈ l₁ ++ l₂, encodeFilePath s.absPath < encodeFilePath r.absPath) : Ordered (l₁ ++ ([r] ++ l₂)) := by
  obtain ⟨h₁, h₂, hboth⟩ := List.pairwise_append.mp h
  refine List.pairwise_append.mpr ⟨h₁, List.pairwise_cons.mpr ⟨fun d hd heq => ?_, h₂⟩, fun s hs d hd => ?_⟩
  · exact absurd heq.symm (hbehind d hd)
  · rcases List.mem_cons.mp hd with rfl | hd
    · exact fun _ => hlast s (List.mem_append_left _ hs)
    · exact hboth s hs d hd

/-! ## 3. The way to a node -/

/-- **The way to a path is clear**: what is above a node is a directory whose path is in front of it; and of the
    directories below one node at most one has a path in front of the one that is looked for. -/
structure Guided (path : Str) (l : List Row) : Prop where
  branch : ∀ r ∈ l, ∀ s ∈ l, r.above = some s.absPath → s.absPath <+: r.absPath ∧ s.isDir = true
  single : ∀ s ∈ l, ∀ d ∈ l, s.above = d.above → s.isDir = true → d.isDir = true → s.absPath <+: path →
    d.absPath <+: path → s.absPath = d.absPath

theorem Guided.mono (h : Guided path l) (hsub : l' ⊆ l) : Guided path l' where
  branch r hr s hs := h.branch r (hsub hr) s (hsub hs)
  single s hs d hd := h.single s (hsub hs) d (hsub hd)

mutual

/-- A node is in front of what is below it, and is a directory then. -/
theorem prefix_of_mem_rows {above : Option Str} {path : Str} {l : List Row} {r : Row} (item : FileItem)
    (hguided : Guided path l) (hsub : rows above item ⊆ l) (h : r ∈ rows above item) :
    r = item.row above ∨ (item.absPath <+: r.absPath ∧ item.isDir = true) := by
  obtain ⟨name, absPath, isDir, content, children⟩ := item
  rw [rows] at hsub h
  rcases List.mem_cons.mp h with rfl | h
  · exact Or.inl rfl
  · exact Or.inr (prefix_of_mem_rowsOfChildren children hguided (hsub List.mem_cons_self)
      (fun _ hr => hsub (List.mem_cons_of_mem _ hr)) h)

theorem prefix_of_mem_rowsOfChildren {path : Str} {l : List Row} {r s : Row} (items : List FileItem)
    (hguided : Guided path l) (hs : s ∈ l) (hsub : rowsOfChildren s.absPath items ⊆ l)
    (h : r ∈ rowsOfChildren s.absPath items) : s.absPath <+: r.absPath ∧ s.isDir = true := by
  cases items with
  | nil =>
      rw [rowsOfChildren] at h
      exact absurd h List.not_mem_nil
  | cons item items =>
      have hitem : rows (some s.absPath) item ⊆ l := fun r hr => hsub (mem_rowsOfChildren_cons.mpr (Or.inl hr))
      rcases mem_rowsOfChildren_cons.mp h with h | h
      · have hrow := hitem (row_mem_rows (some s.absPath) item)
        obtain ⟨hfront, hdir⟩ := hguided.branch _ hrow s hs (row_above _ _)
        rw [row_absPath] at hfront
        have hbelow := prefix_of_mem_rows item hguided hitem h
        rcases hbelow with rfl | ⟨hrest, _⟩
        · rw [row_absPath]
          exact ⟨hfront, hdir⟩
        · exact ⟨hfront.trans hrest, hdir⟩
      · exact prefix_of_mem_rowsOfChildren items hguided hs
          (fun r hr => hsub (mem_rowsOfChildren_cons.mpr (Or.inr hr))) h

end

/-- A directory with a path in front of it is on the way to it. -/
theorem on_way (hguided : Guided path (rows above item)) (hd : d ∈ rows above item) (hdir : d.isDir = true)
    (hpath : d.absPath = path) : item.isDir = true ∧ item.absPath <+: path := by
  rcases prefix_of_mem_rows item hguided (List.Subset.refl _) hd with rfl | ⟨hfront, hitem⟩
  · rw [row_isDir] at hdir
    rw [row_absPath] at hpath
    exact ⟨hdir, hpath ▸ List.prefix_rfl⟩
  · exact ⟨hitem, hpath ▸ hfront⟩

mutual

/-- **On a clear way the node is found.** -/
theorem addBelow_of_guided {above : Option Str} {path : Str} {node : FileItem} {d : Row} (item : FileItem)
    (hguided : Guided path (rows above item)) (hnodup : (pathsOf (rows above item)).Nodup)
    (hd : d ∈ rows above item) (hdir : d.isDir = true) (hpath : d.absPath = path) :
    ∃ item', addBelow path node item = some item' := by
  obtain ⟨name, absPath, isDir, content, children⟩ := item
  rw [addBelow]
  split
  · exact ⟨_, rfl⟩
  · rename_i hhere
    rw [rows] at hguided hnodup hd
    have hbelow : d ∈ rowsOfChildren absPath children := by
      refine (List.mem_cons.mp hd).resolve_left fun heq => hhere (Or.inr ?_)
      subst heq
      exact ⟨hpath.symm, hdir⟩
    have hsub := List.subset_cons_self (⟨above, name, absPath, isDir, content⟩ : Row) (rowsOfChildren absPath children)
    obtain ⟨items', hitems'⟩ :=
      addBelowChildren_of_guided children (hguided.mono hsub) (List.nodup_cons.mp hnodup).2 hbelow hdir hpath
    exact ⟨_, congrArg (Option.map _) hitems'⟩

theorem addBelowChildren_of_guided {top path : Str} {node : FileItem} {d : Row} (items : List FileItem)
    (hguided : Guided path (rowsOfChildren top items)) (hnodup : (pathsOf (rowsOfChildren top items)).Nodup)
    (hd : d ∈ rowsOfChildren top items) (hdir : d.isDir = true) (hpath : d.absPath = path) :
    ∃ items', addBelowChildren path node items = some items' := by
  cases items with
  | nil =>
      rw [rowsOfChildren] at hd
      exact absurd hd List.not_mem_nil
  | cons item items =>
      rw [addBelowChildren]
      have hfirst : rows (some top) item ⊆ rowsOfChildren top (item :: items) :=
        fun r hr => mem_rowsOfChildren_cons.mpr (Or.inl hr)
      have hrest : rowsOfChildren top items ⊆ rowsOfChildren top (item :: items) :=
        fun r hr => mem_rowsOfChildren_cons.mpr (Or.inr hr)
      rw [rowsOfChildren, pathsOf, List.map_append] at hnodup
      obtain ⟨hitemNodup, hitemsNodup, hdisjoint⟩ := List.nodup_append.mp hnodup
      rcases mem_rowsOfChildren_cons.mp hd with hitem | hitems
      · rw [if_pos (on_way (hguided.mono hfirst) hitem hdir hpath)]
        obtain ⟨item', hitem'⟩ := addBelow_of_guided item (hguided.mono hfirst) hitemNodup hitem hdir hpath
        exact ⟨_, congrArg (Option.map _) hitem'⟩
      · -- another child on the way would have the same path
        obtain ⟨other, _, hother, hsub⟩ := exists_of_mem_rowsOfChildren hitems
        obtain ⟨hotherDir, hotherPath⟩ := on_way (hguided.mono (List.Subset.trans hsub hrest)) hother hdir hpath
        have hnot : ¬ (item.isDir = true ∧ item.absPath <+: path) := by
          rintro ⟨hitemDir, hitemPath⟩
          have hrow := row_mem_rows (some top) item
          have hrow' := hsub (row_mem_rows (some top) other)
          have heq := hguided.single _ (hfirst hrow) _ (hrest hrow') (by rw [row_above, row_above])
            (by rwa [row_isDir]) (by rwa [row_isDir]) (by rwa [row_absPath]) (by rwa [row_absPath])
          exact hdisjoint _ (mem_pathsOf hrow) _ (mem_pathsOf hrow') heq
        rw [if_neg hnot]
        obtain ⟨items', hitems'⟩ :=
          addBelowChildren_of_guided items (hguided.mono hrest) hitemsNodup hitems hdir hpath
        exact ⟨_, congrArg (Option.map _) hitems'⟩

end

/-! ## 4. A node that is not found -/

mutual

/-- **The node is not found**, when another directory below the same node has a path in front of it and comes first. -/
theorem addBelow_of_blocked {above : Option Str} {path : Str} {node : FileItem} {s d : Row} (item : FileItem)
    (hpath : path ≠ []) (hnodup : (pathsOf (rows above item)).Nodup) (hordered : Ordered (rows above item))
    (hs : s ∈ rowsOfChildren item.absPath item.children) (hd : d ∈ rowsOfChildren item.absPath item.children)
    (habove : s.above = d.above) (hsdir : s.isDir = true) (hsfront : s.absPath <+: path) (hdpath : d.absPath = path)
    (hless : encodeFilePath s.absPath < encodeFilePath path) : addBelow path node item = none := by
  obtain ⟨name, absPath, isDir, content, children⟩ := item
  rw [rows] at hnodup hordered
  obtain ⟨htop, hrest⟩ := List.nodup_cons.mp hnodup
  have hhere : ¬ (path = [] ∨ (path = absPath ∧ isDir = true)) := by
    rintro (hnil | ⟨rfl, _⟩)
    · exact hpath hnil
    · exact htop (List.mem_map.mpr ⟨d, hd, hdpath⟩)
  rw [addBelow, if_neg hhere, addBelowChildren_of_blocked children hpath hrest htop (List.pairwise_cons.mp hordered).2
    hs hd habove hsdir hsfront hdpath hless]
  rfl

theorem addBelowChildren_of_blocked {top path : Str} {node : FileItem} {s d : Row} (items : List FileItem)
    (hpath : path ≠ []) (hnodup : (pathsOf (rowsOfChildren top items)).Nodup)
    (htop : top ∉ pathsOf (rowsOfChildren top items)) (hordered : Ordered (rowsOfChildren top items))
    (hs : s ∈ rowsOfChildren top items) (hd : d ∈ rowsOfChildren top items) (habove : s.above = d.above)
    (hsdir : s.isDir = true) (hsfront : s.absPath <+: path) (hdpath : d.absPath = path)
    (hless : encodeFilePath s.absPath < encodeFilePath path) : addBelowChildren path node items = none := by
  cases items with
  | nil =>
      rw [rowsOfChildren] at hd
      exact absurd hd List.not_mem_nil
  | cons item items =>
      rw [rowsOfChildren] at hordered
      rw [rowsOfChildren, pathsOf, List.map_append] at hnodup htop
      obtain ⟨hitemNodup, hitemsNodup, hdisjoint⟩ := List.nodup_append.mp hnodup
      obtain ⟨hitemOrdered, hitemsOrdered, hboth⟩ := List.pairwise_append.mp hordered
      rw [List.mem_append, not_or] at htop
      -- what is above a node of the later children is not in this one
      have hlater (r : Row) (hr : r ∈ rowsOfChildren top items) (q : Str) (hq : q ∈ pathsOf (rows (some top) item)) :
          r.above ≠ some q := by
        intro hrq
        rcases above_of_mem_rowsOfChildren items hr with hrtop | ⟨q', hq', hrq'⟩
        · obtain rfl := Option.some.inj (hrtop.symm.trans hrq)
          exact htop.1 hq
        · obtain rfl := Option.some.inj (hrq'.symm.trans hrq)
          exact hdisjoint q' hq q' hq' rfl
      rw [addBelowChildren]
      rcases mem_rowsOfChildren_cons.mp hd with hditem | hditems
      · have hnotItems : addBelowChildren path node items = none := by
          rw [Option.eq_none_iff_forall_ne_some]
          intro items' hitems'
          have hmem := (rows_addBelowChildren items hpath hitemsNodup htop.2 hitems').1
          exact hdisjoint _ (mem_pathsOf hditem) _ hmem hdpath
        rcases above_of_mem_rows item hditem with rfl | ⟨q, hq, hdq⟩
        · -- the node is the child itself, and comes first
          rw [row_above] at habove
          rw [row_absPath] at hdpath
          rcases mem_rowsOfChildren_cons.mp hs with hsitem | hsitems
          · rcases above_of_mem_rows item hsitem with rfl | ⟨q, hq, hsq⟩
            · rw [row_absPath, hdpath] at hless
              exact absurd hless (List.lt_irrefl _)
            · obtain rfl := Option.some.inj (habove.symm.trans hsq)
              exact absurd hq htop.1
          · have hbefore := hboth _ hditem s hsitems (by rw [row_above, habove])
            rw [row_absPath, hdpath] at hbefore
            exact absurd (List.lt_trans hbefore hless) (List.lt_irrefl _)
        · have hinside {r : Row} (hr : r ∈ rows (some top) item) (hrq : r.above = some q) :
              r ∈ rowsOfChildren item.absPath item.children := by
            refine (mem_rows.mp hr).resolve_left fun heq => ?_
            rw [heq, row_above] at hrq
            obtain rfl := Option.some.inj hrq
            exact htop.1 hq
          have hsitem : s ∈ rows (some top) item :=
            (mem_rowsOfChildren_cons.mp hs).resolve_right fun hsitems => hlater s hsitems q hq (habove.trans hdq)
          have hnone : addBelow path node item = none :=
            addBelow_of_blocked item hpath hitemNodup hitemOrdered (hinside hsitem (habove.trans hdq))
              (hinside hditem hdq) habove hsdir hsfront hdpath hless
          rw [hnone, hnotItems]
          split
          · rfl
          · rfl
      · have hnotItem : addBelow path node item = none := by
          rw [Option.eq_none_iff_forall_ne_some]
          intro item' hitem'
          have hmem := (rows_addBelow item hpath hitemNodup hitem').1
          exact hdisjoint _ hmem _ (mem_pathsOf hditems) hdpath.symm
        rw [hnotItem]
        split
        · rfl
        · rename_i hguard
          have hsitems : s ∈ rowsOfChildren top items := by
            refine (mem_rowsOfChildren_cons.mp hs).resolve_left fun hsitem => ?_
            rcases above_of_mem_rows item hsitem with rfl | ⟨q, hq, hsq⟩
            · rw [row_isDir] at hsdir
              rw [row_absPath] at hsfront
              exact hguard ⟨hsdir, hsfront⟩
            · exact hlater d hditems q hq (habove.symm.trans hsq)
          rw [addBelowChildren_of_blocked items hpath hitemsNodup htop.2 hitemsOrdered hsitems hditems habove hsdir
            hsfront hdpath hless]
          rfl

end

end Kalm.Files
