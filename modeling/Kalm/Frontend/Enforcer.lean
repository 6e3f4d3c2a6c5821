/-
  File:      Kalm/Frontend/Enforcer.lean
  Subject:   THE DASHBOARD'S ENFORCER: frontend/src/rbac (model.ts, casbin/persist.ts,
             casbin/roleManager.ts, casbin/coreEnforcer.ts) over JavaScript strings.

  * `JsStr` -- a JavaScript string, 16-bit units; `jsTrim` -- `String.prototype.trim`;
  * `loadPolicyLine`, `jsLoadPolicy` -- the string adapter; lines it does not know are skipped;
  * `hasRole`, `hasLink` -- the role manager, which follows at most ten links;
  * `jsEnforce` -- the matcher on every rule. Unlike casbin for Go it does not look at the number of
    a rule's fields: missing ones are `undefined`, further ones are never read.
-/
import Kalm.Lib.Codes

namespace Kalm

/-! ## 1. JavaScript strings -/

/-- A JavaScript string. -/
abbrev JsStr := List UInt16

/-- The units of a literal. -/
def jstr (s : String) : JsStr := utf16.flat s.toList

/-- White space and line terminators of ECMAScript. Next to `unicode.IsSpace` they have U+FEFF and
    lack U+0085. -/
def jsSpaceTable : List Char :=
  [0x09, 0x0A, 0x0B, 0x0C, 0x0D, 0x20, 0xA0, 0x1680, 0x2000, 0x2001, 0x2002, 0x2003, 0x2004,
    0x2005, 0x2006, 0x2007, 0x2008, 0x2009, 0x200A, 0x2028, 0x2029, 0x202F, 0x205F, 0x3000,
    0xFEFF].map Char.ofNat

/-- The same, as texts of one code point. -/
def jsBlanks : List (List Char) := jsSpaceTable.map (fun c => [c])

/-- `String.prototype.trim`. -/
def jsTrim (s : JsStr) : JsStr := Fields.trim (jsBlanks.map utf16.flat) s

/-! ## 2. The string adapter -/

/-- The rules of the dashboard's model. -/
structure JsPolicy where
  p : List (List JsStr)
  g : List (List JsStr)
  deriving DecidableEq

/-- What a line adds. -/
inductive JsEntry where
  | skip
  | p (rule : List JsStr)
  | g (rule : List JsStr)
  deriving DecidableEq

/-- The adapter's `loadRules` and `loadPolicyLine` on one line. The sections `r`, `e` and `m` exist as
    well, and policies pushed there are never read. -/
def loadPolicyLine (line : JsStr) : JsEntry :=
  if jsTrim line = [] ∨ line.head? = some 35 then .skip
  else
    match (line.splitOn 44).map jsTrim with
    | [] => .skip
    | key :: rule =>
      if key = jstr "p" then .p rule
      else if key = jstr "g" then .g rule
      else .skip

/-- `loadPolicy` on a cleared model. -/
def jsLoadPolicy (policies : JsStr) : JsPolicy where
  p := (policies.splitOn 10).filterMap fun line =>
    match loadPolicyLine line with | .p rule => some rule | _ => none
  g := (policies.splitOn 10).filterMap fun line =>
    match loadPolicyLine line with | .g rule => some rule | _ => none

/-! ## 3. The role manager -/

/-- The links of the loaded rules; a rule of one name links to `undefined`, which no name is. -/
def JsPolicy.links (J : JsPolicy) : List (JsStr × JsStr) :=
  J.g.filterMap fun rule => match rule with
    | name1 :: name2 :: _ => some (name1, name2)
    | _ => none

/-- `Role.hasRole`. -/
def hasRole (links : List (JsStr × JsStr)) : Nat → JsStr → JsStr → Bool
  | 0, role, name => role == name
  | level + 1, role, name => role == name ||
      ((links.filter (fun l => l.1 == role)).map (·.2)).any fun r => hasRole links level r name

/-- `this.allRoles.has(name)`. -/
def knowsRole (links : List (JsStr × JsStr)) (name : JsStr) : Bool :=
  links.any fun l => l.1 == name || l.2 == name

/-- `DefaultRoleManager.hasLink`, with the maximal level 10. -/
def hasLink (links : List (JsStr × JsStr)) (name1 name2 : JsStr) : Bool :=
  name1 == name2 ||
    (knowsRole links name1 && knowsRole links name2 && hasRole links 10 name1 name2)

/-! ## 4. The matcher -/

/-- `objMatch` of rbac/model.ts. -/
def jsObjMatch (key1 key2 : JsStr) : Bool := Wildcard.prefixMatch 42 key1 key2

/-- The matcher of `RBACModel` on one rule. A missing subject or object counts as the empty string,
    a missing action or scope equals nothing. -/
def jsMatcher (links : List (JsStr × JsStr)) (sub act scope obj : JsStr) (rule : List JsStr) : Bool :=
  match rule with
  | psub :: pact :: pscope :: rest =>
    hasLink links sub psub && (scope == pscope || pscope == [42]) &&
      jsObjMatch obj (rest.headD []) && act == pact
  | _ => false

/-- `CoreEnforcer.enforce`: every rule, or the empty values where there is none. -/
def jsEnforce (J : JsPolicy) (sub act scope obj : JsStr) : Bool :=
  if J.p = [] then jsMatcher J.links sub act scope obj [[], [], [], []]
  else J.p.any (jsMatcher J.links sub act scope obj)

/-! ## 5. What the role manager finds -/

theorem mem_jsLinks {J : JsPolicy} {a b : JsStr} :
    (a, b) ∈ J.links ↔ ∃ rest, a :: b :: rest ∈ J.g := by
  unfold JsPolicy.links
  rw [List.mem_filterMap]
  constructor
  · rintro ⟨rule, hr, e⟩
    match rule, e with
    | n1 :: n2 :: rest, e =>
        simp only [Option.some.injEq, Prod.mk.injEq] at e
        obtain ⟨rfl, rfl⟩ := e
        exact ⟨rest, hr⟩
  · rintro ⟨rest, hr⟩
    exact ⟨_, hr, rfl⟩

/-- **A set closed under the links is not left** by the search, however deep it goes. -/
theorem hasRole_closed {links : List (JsStr × JsStr)} {S : JsStr → Prop}
    (hS : ∀ x y, S x → (x, y) ∈ links → S y) {level : Nat} {a b : JsStr} (ha : S a)
    (h : hasRole links level a b = true) : S b := by
  induction level generalizing a with
  | zero =>
      have e : a = b := by simpa [hasRole] using h
      exact e ▸ ha
  | succ level ih =>
      unfold hasRole at h
      rw [Bool.or_eq_true, beq_iff_eq] at h
      rcases h with rfl | h
      · exact ha
      · obtain ⟨r, hr, hb⟩ := List.any_eq_true.mp h
        obtain ⟨l, hl, rfl⟩ := List.mem_map.mp hr
        obtain ⟨hmem, e⟩ := List.mem_filter.mp hl
        have e' : l.1 = a := by simpa using e
        subst e'
        exact ih (hS _ _ ha hmem) hb

theorem hasLink_closed {links : List (JsStr × JsStr)} {S : JsStr → Prop}
    (hS : ∀ x y, S x → (x, y) ∈ links → S y) {a b : JsStr} (ha : S a)
    (h : hasLink links a b = true) : S b := by
  unfold hasLink at h
  rw [Bool.or_eq_true, beq_iff_eq, Bool.and_eq_true] at h
  rcases h with rfl | ⟨_, h⟩
  · exact ha
  · exact hasRole_closed hS ha h

theorem hasLink_self (links : List (JsStr × JsStr)) (a : JsStr) : hasLink links a a = true := by
  simp [hasLink]

/-- A direct link is found. -/
theorem hasLink_of_link {links : List (JsStr × JsStr)} {a b : JsStr} (h : (a, b) ∈ links) :
    hasLink links a b = true := by
  have h1 : knowsRole links a = true := List.any_eq_true.mpr ⟨_, h, by simp⟩
  have h2 : knowsRole links b = true := List.any_eq_true.mpr ⟨_, h, by simp⟩
  have h3 : hasRole links 10 a b = true := by
    unfold hasRole
    rw [Bool.or_eq_true]
    right
    refine List.any_eq_true.mpr ⟨b, ?_, by simp [hasRole]⟩
    exact List.mem_map.mpr ⟨(a, b), List.mem_filter.mpr ⟨h, by simp⟩, rfl⟩
  simp [hasLink, h1, h2, h3]

end Kalm
