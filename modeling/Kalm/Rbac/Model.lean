/-
  File:      Kalm/Rbac/Model.lean
  Subject:   THE ENFORCER: api/rbac (model.go, enforcer.go, string_policy_adapter.go) and what it
             uses of casbin -- the policy set, loading it from a text, and the decision.

  * `objMatch` -- rbac/model.go, a prefix pattern with one star;
  * `PolicySet` -- the p- and g-rules of a loaded model, as the field lists the loader appends;
  * `parseLine`, `parseLines`, `loadPolicy` -- `persist.LoadPolicyLine`, the string adapter's loop and
    the enforcer's `LoadPolicy`; `none` where the Go code panics or fails;
  * `enforce` -- the matcher of `RBACModelString` under the effect `some(where (p.eft == allow))`;
    a p-rule that does not have the four fields of the policy definition makes casbin fail, and
    `KalmRBACEnforcer.Enforce` answers a failure with false;
  * `getImplicitRolesForUser`, `getImplicitPermissionsForUser` -- the part of it a subject sees.

  Role inheritance is the reflexive transitive closure of the g-links (Reach.lean).
-/
import Kalm.Go.Strings
import Kalm.Lib.Reach

namespace Kalm

/-! ## 1. The matcher's object function -/

/-- `objMatch` of rbac/model.go. -/
def objMatch (key1 key2 : Str) : Bool := Wildcard.prefixMatch star key1 key2

theorem objMatch_iff {key1 key2 : Str} :
    objMatch key1 key2 = true ↔ Wildcard.Matches star key1 key2 :=
  Wildcard.prefixMatch_iff

theorem objMatch_self (obj : Str) : objMatch obj obj = true :=
  objMatch_iff.mpr (Wildcard.matches_self star obj)

theorem objMatch_trans {obj pat outer : Str} (h : objMatch obj pat = true)
    (ho : objMatch pat outer = true) : objMatch obj outer = true :=
  objMatch_iff.mpr (Wildcard.matches_trans (objMatch_iff.mp h) (objMatch_iff.mp ho))

theorem objMatch_star (obj : Str) : objMatch obj [star] = true :=
  objMatch_iff.mpr (Wildcard.matches_star star obj)

/-- Without a star the pattern is the object. -/
theorem objMatch_of_no_star {obj pat : Str} (h : star ∉ pat) :
    objMatch obj pat = true ↔ obj = pat := by
  rw [objMatch_iff, Wildcard.matches_of_no_star h]

/-! ## 2. Policy sets and the loader -/

/-- The rules of a loaded model: `model["p"]["p"].Policy` and `model["g"]["g"].Policy`. -/
structure PolicySet where
  p : List (List Str)
  g : List (List Str)
  deriving DecidableEq

/-- What one policy line adds. -/
inductive Entry where
  | skip
  | p (rule : List Str)
  | g (rule : List Str)
  deriving DecidableEq

/-- `persist.LoadPolicyLine`: the first field names the section. The sections `r`, `e` and `m`
    exist as well, and rules appended there are never read; a key without an assertion is a nil
    dereference, an empty key a slice out of range. -/
def parseLine (line : Str) : Option Entry :=
  if line = [] ∨ line.head? = some hash then some .skip
  else
    match splitRow line with
    | [] => none
    | key :: rule =>
      if key = str "p" then some (.p rule)
      else if key = str "g" then some (.g rule)
      else if key = str "r" ∨ key = str "e" ∨ key = str "m" then some .skip
      else none

/-- Put what a line adds in front of what the later lines add. -/
def Entry.addTo : Entry → PolicySet → PolicySet
  | .skip, P => P
  | .p rule, P => { P with p := rule :: P.p }
  | .g rule, P => { P with g := rule :: P.g }

/-- The adapter's loop over the lines of the text (blank lines are skipped by `parseLine`). -/
def parseLines : List Str → Option PolicySet
  | [] => some ⟨[], []⟩
  | line :: rest =>
    match parseLine line, parseLines rest with
    | some e, some P => some (e.addTo P)
    | _, _ => none

/-- `Enforcer.LoadPolicy`: clear, read the lines, build the role links (a g-rule needs two
    fields, further ones are cut off). -/
def loadPolicy (text : Str) : Option PolicySet :=
  match parseLines (text.splitOn newline) with
  | some P => if P.g.all (fun rule => 2 ≤ rule.length) then some P else none
  | none => none

/-- A line adds an entry, in any of the lines. -/
theorem mem_parseLines {lines : List Str} {P : PolicySet} (h : parseLines lines = some P) :
    (∀ rule, rule ∈ P.p ↔ ∃ line ∈ lines, parseLine line = some (.p rule)) ∧
    (∀ rule, rule ∈ P.g ↔ ∃ line ∈ lines, parseLine line = some (.g rule)) := by
  induction lines generalizing P with
  | nil =>
      simp only [parseLines, Option.some.injEq] at h
      subst h
      simp
  | cons line rest ih =>
      unfold parseLines at h
      split at h
      · rename_i e Q he hQ
        simp only [Option.some.injEq] at h
        subst h
        obtain ⟨ihp, ihg⟩ := ih hQ
        constructor
        · intro rule
          cases e <;> simp [Entry.addTo, ihp, he, eq_comm]
        · intro rule
          cases e <;> simp [Entry.addTo, ihg, he, eq_comm]
      · cases h

/-- The lines load exactly when each of them does. -/
theorem parseLines_isSome {lines : List Str} :
    (parseLines lines).isSome ↔ ∀ line ∈ lines, (parseLine line).isSome := by
  induction lines with
  | nil => simp [parseLines]
  | cons line rest ih =>
      unfold parseLines
      cases h1 : parseLine line with
      | none => simp [h1]
      | some e =>
          cases h2 : parseLines rest with
          | none =>
              have hn : ¬ ∀ line ∈ rest, (parseLine line).isSome := fun hall => by
                simpa [h2] using ih.mpr hall
              simpa [h1] using hn
          | some P =>
              have hall : ∀ line ∈ rest, (parseLine line).isSome := ih.mp (by simp [h2])
              simpa [h1] using hall

theorem loadPolicy_eq_some {text : Str} {P : PolicySet} :
    loadPolicy text = some P ↔
      parseLines (text.splitOn newline) = some P ∧ ∀ rule ∈ P.g, 2 ≤ rule.length := by
  unfold loadPolicy
  constructor
  · intro h
    split at h
    · rename_i Q hQ
      split at h
      · rename_i hg
        simp only [Option.some.injEq] at h
        subst h
        exact ⟨hQ, by simpa using hg⟩
      · cases h
    · cases h
  · rintro ⟨h1, h2⟩
    have hg : P.g.all (fun rule => 2 ≤ rule.length) = true := by simpa using h2
    rw [h1]
    simp only [hg, if_true]

/-! ## 3. What a line can hold -/

/-- The fields of a loaded rule are pieces of its line. -/
theorem fields_of_parseLine {line : Str} {rule : List Str}
    (h : parseLine line = some (.p rule) ∨ parseLine line = some (.g rule)) :
    ∃ key, splitRow line = key :: rule := by
  unfold parseLine at h
  split at h
  · rcases h with h | h <;> cases h
  · split at h
    · rcases h with h | h <;> cases h
    · rename_i key rest hrow
      refine ⟨key, ?_⟩
      rw [hrow]
      congr 1
      split at h
      · rcases h with h | h
        · simpa using h
        · cases h
      · split at h
        · rcases h with h | h
          · cases h
          · simpa using h
        · split at h <;> rcases h with h | h <;> cases h

/-- Every field of a loaded policy set is clean. -/
def CleanRules (P : PolicySet) : Prop :=
  (∀ rule ∈ P.p, ∀ f ∈ rule, CleanField f) ∧ (∀ rule ∈ P.g, ∀ f ∈ rule, CleanField f)

/-- **Loading leaves clean fields only**, whatever the text says. -/
theorem cleanRules_of_loadPolicy {text : Str} {P : PolicySet} (h : loadPolicy text = some P) :
    CleanRules P := by
  obtain ⟨hp, hg⟩ := mem_parseLines (loadPolicy_eq_some.mp h).1
  have key : ∀ line ∈ text.splitOn newline, ∀ rule,
      (parseLine line = some (.p rule) ∨ parseLine line = some (.g rule)) →
      ∀ f ∈ rule, CleanField f := by
    intro line hl rule hr f hf
    obtain ⟨k, hk⟩ := fields_of_parseLine hr
    refine cleanField_of_mem_splitRow (Fields.not_mem_of_mem_splitOn hl) ?_
    rw [hk]
    exact List.mem_cons_of_mem _ hf
  refine ⟨fun rule hr => ?_, fun rule hr => ?_⟩
  · obtain ⟨line, hl, he⟩ := (hp rule).mp hr
    exact key line hl rule (Or.inl he)
  · obtain ⟨line, hl, he⟩ := (hg rule).mp hr
    exact key line hl rule (Or.inr he)

/-- A row is no comment. -/
theorem not_comment_sprintfRow {key : Str} (hne : key ≠ []) (hkey : key.head? ≠ some hash) (fields : List Str) :
    ¬ (sprintfRow key fields = [] ∨ (sprintfRow key fields).head? = some hash) := by
  obtain ⟨b, key, rfl⟩ := List.exists_cons_of_ne_nil hne
  cases fields with
  | nil => simpa [sprintfRow] using hkey
  | cons f fields => simpa [sprintfRow, List.intercalate_cons_cons] using hkey

/-- A p-row of fields without commas adds its fields, each trimmed. -/
theorem parseLine_pRow {fields : List Str} (hf : ∀ f ∈ fields, comma ∉ f) :
    parseLine (sprintfRow (str "p") fields) = some (.p (fields.map trimSpace)) := by
  have hne := not_comment_sprintfRow (by decide : str "p" ≠ []) (by decide) fields
  have hp : trimSpace (str "p") = str "p" := by decide
  unfold parseLine
  rw [if_neg hne, splitRow_sprintfRow (by decide) hf, hp]
  simp

/-- A g-row likewise. -/
theorem parseLine_gRow {fields : List Str} (hf : ∀ f ∈ fields, comma ∉ f) :
    parseLine (sprintfRow (str "g") fields) = some (.g (fields.map trimSpace)) := by
  have hne := not_comment_sprintfRow (by decide : str "g" ≠ []) (by decide) fields
  have hg : trimSpace (str "g") = str "g" := by decide
  have hgp : str "g" ≠ str "p" := by decide
  unfold parseLine
  rw [if_neg hne, splitRow_sprintfRow (by decide) hf, hg]
  simp [hgp]

/-- A comment line adds nothing. -/
theorem parseLine_comment (s : Str) : parseLine (hash :: s) = some .skip := by
  simp [parseLine]

/-! ## 4. The decision -/

/-- The g-links of a policy set. -/
def PolicySet.links (P : PolicySet) : List (Str × Str) :=
  P.g.filterMap (fun rule => match rule with
    | name1 :: name2 :: _ => some (name1, name2)
    | _ => none)

/-- `RoleManager.HasLink`, which follows so many links and no more. -/
def PolicySet.hasLink (P : PolicySet) (levels : Nat) (name1 name2 : Str) : Bool :=
  (Reach.grow P.links levels [name1]).contains name2

/-- `NewRoleManager(10)`: the links an enforcer's role manager follows. -/
def maxHierarchyLevel : Nat := 10

/-- The matcher of `RBACModelString` on one p-rule (a rule of another size never reaches it). -/
def PolicySet.matcher (P : PolicySet) (levels : Nat) (sub act scope obj : Str) (rule : List Str) : Bool :=
  match rule with
  | [psub, pact, pscope, pobj] =>
    P.hasLink levels sub psub && (scope == pscope || pscope == [star]) && objMatch obj pobj && act == pact
  | _ => false

/-- Every p-rule has the four fields `sub, act, scope, obj` of the policy definition. -/
def PolicySet.WellFormed (P : PolicySet) : Prop := ∀ rule ∈ P.p, rule.length = 4

instance (P : PolicySet) : Decidable P.WellFormed :=
  inferInstanceAs (Decidable (∀ rule ∈ P.p, rule.length = 4))

/-- The rules `Enforce` evaluates: without any p-rule the matcher runs once, on empty values. -/
def PolicySet.evaluated (P : PolicySet) : List (List Str) :=
  if P.p = [] then [[[], [], [], []]] else P.p

/-- casbin's `Enforce`: `none` is the error for a p-rule of the wrong size. -/
def casbinEnforce (P : PolicySet) (levels : Nat) (sub act scope obj : Str) : Option Bool :=
  if P.WellFormed then some (P.evaluated.any (P.matcher levels sub act scope obj)) else none

/-- `Enforce` with an error for a denial, by a role manager that follows so many links. -/
def enforceWithin (P : PolicySet) (levels : Nat) (sub act scope obj : Str) : Bool :=
  (casbinEnforce P levels sub act scope obj).getD false

/-- `KalmRBACEnforcer.Enforce`. -/
def enforce (P : PolicySet) (sub act scope obj : Str) : Bool :=
  enforceWithin P maxHierarchyLevel sub act scope obj

/-- The decision when the links are followed to their end. -/
def enforceClosure (P : PolicySet) (sub act scope obj : Str) : Bool :=
  enforceWithin P P.links.length sub act scope obj

/-- What one p-rule allows to the subjects that inherit its own. -/
structure RuleAllows (psub pact pscope pobj : Str) (P : PolicySet) (levels : Nat)
    (sub act scope obj : Str) : Prop where
  link : psub ∈ Reach.grow P.links levels [sub]
  scope : scope = pscope ∨ pscope = [star]
  obj : objMatch obj pobj = true
  act : act = pact

theorem matcher_iff {P : PolicySet} {levels : Nat} {sub act scope obj psub pact pscope pobj : Str} :
    P.matcher levels sub act scope obj [psub, pact, pscope, pobj] = true ↔
      RuleAllows psub pact pscope pobj P levels sub act scope obj := by
  simp only [PolicySet.matcher, PolicySet.hasLink, Bool.and_eq_true, Bool.or_eq_true, beq_iff_eq,
    List.contains_iff_mem]
  exact ⟨fun ⟨⟨⟨h1, h2⟩, h3⟩, h4⟩ => ⟨h1, h2, h3, h4⟩, fun ⟨h1, h2, h3, h4⟩ => ⟨⟨⟨h1, h2⟩, h3⟩, h4⟩⟩

theorem PolicySet.evaluated_of_ne_nil {P : PolicySet} (h : P.p ≠ []) : P.evaluated = P.p := by
  simp [PolicySet.evaluated, h]

theorem PolicySet.length_of_mem_evaluated {P : PolicySet} (hw : P.WellFormed) {rule : List Str}
    (h : rule ∈ P.evaluated) : rule.length = 4 := by
  unfold PolicySet.evaluated at h
  split at h
  · rw [List.mem_singleton.mp h]
    rfl
  · exact hw rule h

/-- **A request is allowed when the rules are well-formed and one of them allows it.** -/
theorem enforceWithin_iff {P : PolicySet} {levels : Nat} {sub act scope obj : Str} :
    enforceWithin P levels sub act scope obj = true ↔ P.WellFormed ∧
      ∃ psub pact pscope pobj, [psub, pact, pscope, pobj] ∈ P.evaluated ∧
        RuleAllows psub pact pscope pobj P levels sub act scope obj := by
  unfold enforceWithin casbinEnforce
  by_cases hw : P.WellFormed
  · simp only [hw, if_true, Option.getD_some, List.any_eq_true, true_and]
    constructor
    · rintro ⟨rule, hr, hm⟩
      match rule, PolicySet.length_of_mem_evaluated hw hr with
      | [psub, pact, pscope, pobj], _ => exact ⟨psub, pact, pscope, pobj, hr, matcher_iff.mp hm⟩
    · rintro ⟨psub, pact, pscope, pobj, hr, hm⟩
      exact ⟨_, hr, matcher_iff.mpr hm⟩
  · simp [hw]

theorem enforce_iff {P : PolicySet} {sub act scope obj : Str} :
    enforce P sub act scope obj = true ↔ P.WellFormed ∧
      ∃ psub pact pscope pobj, [psub, pact, pscope, pobj] ∈ P.evaluated ∧
        RuleAllows psub pact pscope pobj P maxHierarchyLevel sub act scope obj :=
  enforceWithin_iff

theorem enforceClosure_iff {P : PolicySet} {sub act scope obj : Str} :
    enforceClosure P sub act scope obj = true ↔ P.WellFormed ∧
      ∃ psub pact pscope pobj, [psub, pact, pscope, pobj] ∈ P.evaluated ∧
        RuleAllows psub pact pscope pobj P P.links.length sub act scope obj :=
  enforceWithin_iff

/-- What some links allow, all of them allow. -/
theorem enforceClosure_of_enforce {P : PolicySet} {sub act scope obj : Str}
    (h : enforce P sub act scope obj = true) : enforceClosure P sub act scope obj = true := by
  obtain ⟨hw, psub, pact, pscope, pobj, hrule, hal⟩ := enforce_iff.mp h
  exact enforceClosure_iff.mpr ⟨hw, psub, pact, pscope, pobj, hrule,
    Reach.mem_reach_of_mem_grow hal.link, hal.scope, hal.obj, hal.act⟩

/-- A rule of the wrong size denies every request. -/
theorem enforceWithin_malformed {P : PolicySet} (h : ¬ P.WellFormed) (levels : Nat) (sub act scope obj : Str) :
    enforceWithin P levels sub act scope obj = false := by
  simp [enforceWithin, casbinEnforce, h]

theorem mem_links {P : PolicySet} {a b : Str} :
    (a, b) ∈ P.links ↔ ∃ rest, a :: b :: rest ∈ P.g := by
  unfold PolicySet.links
  rw [List.mem_filterMap]
  constructor
  · rintro ⟨rule, hr, e⟩
    match rule, e with
    | n1 :: n2 :: rest, e =>
        simp only [Option.some.injEq, Prod.mk.injEq] at e
        obtain ⟨rfl, rfl⟩ := e
        exact ⟨rest, hr⟩
  · rintro ⟨rest, hr⟩
    exact ⟨_, hr, rfl⟩

/-! ## 5. The part of the policy a subject sees -/

/-- `GetImplicitRolesForUser`: the roles the subject inherits, itself left out. -/
def PolicySet.getImplicitRolesForUser (P : PolicySet) (user : Str) : List Str :=
  (Reach.reach P.links user).dedup.filter (· ≠ user)

/-- `GetPermissionsForUser`: the p-rules whose subject is the name. -/
def PolicySet.getPermissionsForUser (P : PolicySet) (user : Str) : List (List Str) :=
  P.p.filter (fun rule => rule.head? = some user)

/-- `GetImplicitPermissionsForUser`: the p-rules of the subject and of its roles. -/
def PolicySet.getImplicitPermissionsForUser (P : PolicySet) (user : Str) : List (List Str) :=
  (user :: P.getImplicitRolesForUser user).flatMap P.getPermissionsForUser

theorem mem_getImplicitRolesForUser {P : PolicySet} {user role : Str} :
    role ∈ P.getImplicitRolesForUser user ↔ role ∈ Reach.reach P.links user ∧ role ≠ user := by
  simp [PolicySet.getImplicitRolesForUser]

theorem mem_getImplicitPermissionsForUser {P : PolicySet} {user : Str} {rule : List Str} :
    rule ∈ P.getImplicitPermissionsForUser user ↔
      rule ∈ P.p ∧ ∃ psub, rule.head? = some psub ∧ psub ∈ Reach.reach P.links user := by
  simp only [PolicySet.getImplicitPermissionsForUser, PolicySet.getPermissionsForUser,
    List.mem_flatMap, List.mem_cons, List.mem_filter, decide_eq_true_eq]
  constructor
  · rintro ⟨name, hn, hr, hh⟩
    refine ⟨hr, name, hh, ?_⟩
    rcases hn with rfl | hn
    · exact Reach.self_mem_reach _ _
    · exact (mem_getImplicitRolesForUser.mp hn).1
  · rintro ⟨hr, psub, hh, hp⟩
    by_cases e : psub = user
    · exact ⟨psub, Or.inl e, hr, hh⟩
    · exact ⟨psub, Or.inr (mem_getImplicitRolesForUser.mpr ⟨hp, e⟩), hr, hh⟩

end Kalm
