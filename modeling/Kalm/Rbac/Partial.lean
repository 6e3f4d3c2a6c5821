/-
  File:      Kalm/Rbac/Partial.lean
  Subject:   THE PARTIAL POLICY: `GetCompletePoliciesFor` prints for a list of subjects the rules they
             inherit and one link from each subject to every role it inherits; a fresh enforcer
             loads this text.

  * `completeLines`, `getCompletePoliciesFor` -- the text; `none` where a permission of fewer than
    four fields is indexed out of range;
  * `reach_partialRules` -- the flattened links lead a subject to the same roles;
  * `PartialAgrees`, `partialAgrees_iff` -- the fresh enforcer decides alike for these subjects if
    and only if the full policy has well-formed rules, or has nothing at all for them.

  A p-rule of the wrong size makes the full enforcer deny everything, and is cut to size in the text.
-/
import Kalm.Rbac.Injection

namespace Kalm

/-! ## 1. The text -/

section Text

variable (P : PolicySet)

/-- The lines `GetCompletePoliciesFor` appends. -/
def PolicySet.completeLines (subjects : List Str) : List PolicyLine :=
  subjects.flatMap fun subject =>
    (P.getImplicitPermissionsForUser subject).map (fun permission => .p (permission.take 4)) ++
      (P.getImplicitRolesForUser subject).map (fun role => .g [subject, role])

/-- `GetCompletePoliciesFor`: `permission[3]` needs four fields. -/
def PolicySet.getCompletePoliciesFor (subjects : List Str) : Option Str :=
  if ∀ s ∈ subjects, ∀ permission ∈ P.getImplicitPermissionsForUser s, 4 ≤ permission.length then
    some ([newline].intercalate ((P.completeLines subjects).map PolicyLine.render))
  else none

/-- Every p-rule has its four fields and there is something to print, or there is nothing to print
    and no subject inherits the empty name. -/
def PolicySet.PartialSafe (subjects : List Str) : Prop :=
  (P.WellFormed ∧ ∃ s ∈ subjects, P.getImplicitPermissionsForUser s ≠ []) ∨
    ∀ s ∈ subjects, P.getImplicitPermissionsForUser s = [] ∧ [] ∉ Reach.reach P.links s

/-- The partial policy decides for its subjects as the full one does, the links of both followed to their end. -/
def PolicySet.PartialAgrees (subjects : List Str) : Prop :=
  ∃ text Q, P.getCompletePoliciesFor subjects = some text ∧ loadPolicy text = some Q ∧
    ∀ s ∈ subjects, ∀ act scope obj, enforceClosure Q s act scope obj = enforceClosure P s act scope obj

end Text

theorem mem_completeLines_p {P : PolicySet} {subjects : List Str} {fields : List Str} :
    PolicyLine.p fields ∈ P.completeLines subjects ↔
      ∃ s ∈ subjects, ∃ rule ∈ P.getImplicitPermissionsForUser s, rule.take 4 = fields := by
  simp [PolicySet.completeLines]

theorem mem_completeLines_g {P : PolicySet} {subjects : List Str} {fields : List Str} :
    PolicyLine.g fields ∈ P.completeLines subjects ↔
      ∃ s ∈ subjects, ∃ role ∈ P.getImplicitRolesForUser s, [s, role] = fields := by
  simp [PolicySet.completeLines]

/-! ## 2. Loading it -/

/-- Lines joined by newlines load as the same lines closed by newlines. -/
theorem loadPolicy_intercalate {lines : List PolicyLine} (h : ∀ l ∈ lines, l.Separated) :
    loadPolicy ([newline].intercalate (lines.map PolicyLine.render)) =
      some (ruleSet lines).trimFields := by
  have hclosed := loadPolicy_eq_some.mp (loadPolicy_render h)
  refine loadPolicy_eq_some.mpr ⟨?_, hclosed.2⟩
  cases lines with
  | nil => rfl
  | cons l lines =>
      have hnl : ∀ t ∈ (l :: lines).map PolicyLine.render, newline ∉ t := by
        intro t ht
        obtain ⟨k, hk, rfl⟩ := List.mem_map.mp ht
        exact (h k hk).newline_not_mem
      rw [List.splitOn_intercalate newline hnl (by simp)]
      have hp := hclosed.1
      rw [splitOn_renderLines h] at hp
      exact parseLines_of_append_nil hp
where
  /-- The empty piece behind the last newline adds nothing. -/
  parseLines_of_append_nil {ls : List Str} {P : PolicySet}
      (h : parseLines (ls ++ [[]]) = some P) : parseLines ls = some P := by
    induction ls generalizing P with
    | nil => simpa [parseLines, parseLine, Entry.addTo] using h
    | cons l ls ih =>
        rw [List.cons_append] at h
        unfold parseLines at h ⊢
        split at h
        · rename_i e Q he hQ
          rw [he, ih hQ]
          exact h
        · cases h

section Loaded

variable {P : PolicySet} {subjects : List Str}

/-- Whoever inherits a role is named in a link, so its name is clean. -/
theorem cleanField_of_role (hc : CleanRules P) {s role : Str}
    (h : role ∈ P.getImplicitRolesForUser s) : CleanField s ∧ CleanField role := by
  obtain ⟨hr, hne⟩ := mem_getImplicitRolesForUser.mp h
  have hrole : role = s ∨ CleanField role :=
    Reach.reach_subset_of_closed (S := fun y => y = s ∨ CleanField y)
      (fun x y _ hl => by
        obtain ⟨rest, hg⟩ := mem_links.mp hl
        exact Or.inr (hc.2 _ hg y (by simp))) (Or.inl rfl) hr
  have hs : CleanField s ∨ role = s := by
    rcases Relation.ReflTransGen.cases_head (Reach.mem_reach_iff.mp hr) with e | ⟨y, hl, _⟩
    · exact Or.inr e.symm
    · obtain ⟨rest, hg⟩ := mem_links.mp hl
      exact Or.inl (hc.2 _ hg s (by simp))
  exact ⟨hs.resolve_right hne, hrole.resolve_left hne⟩

theorem cleanRules_completeLines (hc : CleanRules P) :
    CleanRules (ruleSet (P.completeLines subjects)) := by
  refine ⟨fun fields hf => ?_, fun fields hf => ?_⟩
  · obtain ⟨s, _, rule, hr, rfl⟩ := mem_completeLines_p.mp (mem_ruleSet_p.mp hf)
    exact fun f hf => hc.1 rule (mem_getImplicitPermissionsForUser.mp hr).1 f
      (List.mem_of_mem_take hf)
  · obtain ⟨s, _, role, hr, rfl⟩ := mem_completeLines_g.mp (mem_ruleSet_g.mp hf)
    obtain ⟨h1, h2⟩ := cleanField_of_role hc hr
    simp [h1, h2]

theorem completeLines_shaped : ∀ l ∈ P.completeLines subjects, l.Shaped := by
  intro l hl
  simp only [PolicySet.completeLines, List.mem_flatMap, List.mem_append, List.mem_map] at hl
  obtain ⟨s, _, ⟨rule, _, rfl⟩ | ⟨role, _, rfl⟩⟩ := hl
  · trivial
  · exact Nat.le_refl 2

/-- The rules of the partial policy. -/
def PolicySet.partialRules (P : PolicySet) (subjects : List Str) : PolicySet :=
  ruleSet (P.completeLines subjects)

/-- **The text loads as the lines it has.** -/
theorem loadPolicy_complete (hc : CleanRules P) :
    loadPolicy ([newline].intercalate ((P.completeLines subjects).map PolicyLine.render)) =
      some (P.partialRules subjects) := by
  have hclean : CleanRules (ruleSet (P.completeLines subjects)) := cleanRules_completeLines hc
  rw [loadPolicy_intercalate (PolicyLine.separated_of_clean completeLines_shaped hclean),
    PolicySet.trimFields_of_clean hclean]
  rfl

/-! ## 3. The same roles -/

theorem mem_partialRules_links {x y : Str} :
    (x, y) ∈ (P.partialRules subjects).links ↔
      x ∈ subjects ∧ y ∈ P.getImplicitRolesForUser x := by
  rw [mem_links]
  simp only [PolicySet.partialRules, mem_ruleSet_g, mem_completeLines_g, List.cons.injEq]
  constructor
  · rintro ⟨rest, s, hs, role, hr, rfl, rfl, _⟩
    exact ⟨hs, hr⟩
  · rintro ⟨hs, hr⟩
    exact ⟨[], x, hs, y, hr, rfl, rfl, rfl⟩

/-- **The flattened links lead a subject to the same roles**: each is one link away, and no link
    of another subject leads further. -/
theorem reach_partialRules {s y : Str} (hs : s ∈ subjects) :
    y ∈ Reach.reach (P.partialRules subjects).links s ↔ y ∈ Reach.reach P.links s := by
  constructor
  · refine Reach.reach_subset_of_closed (S := fun y => y ∈ Reach.reach P.links s) ?_
      (Reach.self_mem_reach _ _)
    intro x z hx hl
    have hz := (mem_getImplicitRolesForUser.mp (mem_partialRules_links.mp hl).2).1
    exact Reach.mem_reach_trans hx hz
  · intro h
    by_cases e : y = s
    · rw [e]
      exact Reach.self_mem_reach _ _
    · refine Reach.mem_reach_of_link (mem_partialRules_links.mpr ⟨hs, ?_⟩)
      exact mem_getImplicitRolesForUser.mpr ⟨h, e⟩

/-- A rule for a name the subject inherits is one of its permissions. -/
theorem mem_permissions {s psub : Str} {rule : List Str} (hr : psub :: rule ∈ P.p)
    (h : psub ∈ Reach.reach P.links s) :
    psub :: rule ∈ P.getImplicitPermissionsForUser s :=
  mem_getImplicitPermissionsForUser.mpr ⟨hr, psub, rfl, h⟩

/-! ## 4. The same decisions -/

theorem mem_partialRules_p {fields : List Str} : fields ∈ (P.partialRules subjects).p ↔
    ∃ s ∈ subjects, ∃ rule ∈ P.getImplicitPermissionsForUser s, rule.take 4 = fields := by
  rw [PolicySet.partialRules, mem_ruleSet_p, mem_completeLines_p]

/-- Permissions of four fields or more are printed with four. -/
theorem partialRules_wellFormed
    (h : ∀ s ∈ subjects, ∀ permission ∈ P.getImplicitPermissionsForUser s, 4 ≤ permission.length) :
    (P.partialRules subjects).WellFormed := by
  intro fields hf
  obtain ⟨s, hs, rule, hr, rfl⟩ := mem_partialRules_p.mp hf
  rw [List.length_take]
  exact Nat.min_eq_left (h s hs rule hr)

/-- A subject without permissions is denied everything by the full policy. -/
theorem enforce_of_no_permission (hne : P.p ≠ []) {s : Str}
    (h : P.getImplicitPermissionsForUser s = []) (act scope obj : Str) :
    enforceClosure P s act scope obj = false := by
  refine Bool.eq_false_iff.mpr fun hal => ?_
  obtain ⟨_, psub, pact, pscope, pobj, hrule, hal⟩ := enforceClosure_iff.mp hal
  rw [PolicySet.evaluated_of_ne_nil hne] at hrule
  have hmem := mem_permissions hrule hal.link
  rw [h] at hmem
  exact absurd hmem List.not_mem_nil

/-- Where some subject has a permission, well-formed rules are decided alike. -/
theorem enforce_partial (hw : P.WellFormed) {s₀ : Str} (hs₀ : s₀ ∈ subjects)
    (hne₀ : P.getImplicitPermissionsForUser s₀ ≠ []) {s : Str} (hs : s ∈ subjects)
    (act scope obj : Str) :
    enforceClosure (P.partialRules subjects) s act scope obj = enforceClosure P s act scope obj := by
  obtain ⟨rule₀, hrule₀⟩ := List.exists_mem_of_ne_nil _ hne₀
  have hp : P.p ≠ [] := List.ne_nil_of_mem (mem_getImplicitPermissionsForUser.mp hrule₀).1
  have hq : (P.partialRules subjects).p ≠ [] :=
    List.ne_nil_of_mem (mem_partialRules_p.mpr ⟨s₀, hs₀, rule₀, hrule₀, rfl⟩)
  have hqw : (P.partialRules subjects).WellFormed := partialRules_wellFormed
    fun _ _ r hr => Nat.le_of_eq (hw r (mem_getImplicitPermissionsForUser.mp hr).1).symm
  refine Bool.eq_iff_iff.mpr ?_
  rw [enforceClosure_iff, enforceClosure_iff, PolicySet.evaluated_of_ne_nil hp, PolicySet.evaluated_of_ne_nil hq]
  constructor
  · rintro ⟨_, psub, pact, pscope, pobj, hrule, hal⟩
    obtain ⟨t, _, rule, hr, e⟩ := mem_partialRules_p.mp hrule
    have hin := (mem_getImplicitPermissionsForUser.mp hr).1
    rw [List.take_of_length_le (Nat.le_of_eq (hw rule hin))] at e
    rw [e] at hin
    exact ⟨hw, psub, pact, pscope, pobj, hin, (reach_partialRules hs).mp hal.link, hal.scope, hal.obj,
      hal.act⟩
  · rintro ⟨_, psub, pact, pscope, pobj, hrule, hal⟩
    refine ⟨hqw, psub, pact, pscope, pobj, ?_, (reach_partialRules hs).mpr hal.link, hal.scope, hal.obj,
      hal.act⟩
    exact mem_partialRules_p.mpr ⟨s, hs, _, mem_permissions hrule hal.link, rfl⟩

/-- A printed permission is allowed by the partial policy. -/
theorem enforce_printed
    (h : ∀ s ∈ subjects, ∀ permission ∈ P.getImplicitPermissionsForUser s, 4 ≤ permission.length)
    {s : Str} (hs : s ∈ subjects) {rule : List Str}
    (hr : rule ∈ P.getImplicitPermissionsForUser s) :
    ∃ act ∈ rule, ∃ scope ∈ rule, ∃ obj ∈ rule,
      enforceClosure (P.partialRules subjects) s act scope obj = true := by
  obtain ⟨_, psub, hhead, hlink⟩ := mem_getImplicitPermissionsForUser.mp hr
  have hin : rule.take 4 ∈ (P.partialRules subjects).p := mem_partialRules_p.mpr ⟨s, hs, rule, hr, rfl⟩
  match rule, h s hs rule hr, hhead, hin with
  | first :: pact :: pscope :: pobj :: _, _, hhead, hin =>
      have e : first = psub := Option.some.inj hhead
      subst e
      refine ⟨pact, by simp, pscope, by simp, pobj, by simp, enforceClosure_iff.mpr
        ⟨partialRules_wellFormed h, first, pact, pscope, pobj, ?_, (reach_partialRules hs).mpr hlink,
          Or.inl rfl, objMatch_self pobj, rfl⟩⟩
      rw [PolicySet.evaluated_of_ne_nil (List.ne_nil_of_mem hin)]
      exact hin

/-- Without a permission to print, the partial policy asks about the empty name alone. -/
theorem partialRules_evaluated_nil (h : ∀ s ∈ subjects, P.getImplicitPermissionsForUser s = []) :
    (P.partialRules subjects).WellFormed ∧
      (P.partialRules subjects).evaluated = [[[], [], [], []]] := by
  have hnil : (P.partialRules subjects).p = [] := by
    refine List.eq_nil_iff_forall_not_mem.mpr fun fields hf => ?_
    obtain ⟨t, ht, rule, hr, _⟩ := mem_partialRules_p.mp hf
    rw [h t ht] at hr
    exact absurd hr List.not_mem_nil
  refine ⟨fun rule hr => ?_, by rw [PolicySet.evaluated, if_pos hnil]⟩
  rw [hnil] at hr
  exact absurd hr List.not_mem_nil

/-- A subject that inherits the empty name is then allowed the empty request. -/
theorem enforce_empty_request (h : ∀ s ∈ subjects, P.getImplicitPermissionsForUser s = [])
    {s : Str} (hs : s ∈ subjects) (hlink : [] ∈ Reach.reach P.links s) :
    enforceClosure (P.partialRules subjects) s [] [] [] = true := by
  obtain ⟨hw, hev⟩ := partialRules_evaluated_nil h
  refine enforceClosure_iff.mpr
    ⟨hw, [], [], [], [], ?_, (reach_partialRules hs).mpr hlink, Or.inl rfl, objMatch_self [], rfl⟩
  rw [hev]
  exact List.mem_cons_self

/-- A subject is then denied everything if and only if it does not inherit the empty name. -/
theorem enforce_partial_nil (h : ∀ s ∈ subjects, P.getImplicitPermissionsForUser s = []) {s : Str}
    (hs : s ∈ subjects) :
    (∀ act scope obj, enforceClosure (P.partialRules subjects) s act scope obj = false) ↔
      [] ∉ Reach.reach P.links s := by
  constructor
  · intro hall hlink
    have hallowed := enforce_empty_request h hs hlink
    rw [hall] at hallowed
    cases hallowed
  · intro hno act scope obj
    refine Bool.eq_false_iff.mpr fun hal => hno ?_
    obtain ⟨_, psub, pact, pscope, pobj, hrule, hal⟩ := enforceClosure_iff.mp hal
    rw [(partialRules_evaluated_nil h).2, List.mem_singleton] at hrule
    simp only [List.cons.injEq] at hrule
    obtain ⟨rfl, _⟩ := hrule
    exact (reach_partialRules hs).mp hal.link

/-- A set of rules that was loaded: its fields are clean, and it has the cluster roles' p-rules. -/
theorem partialAgrees_iff_of_clean (hc : CleanRules P) (hne : P.p ≠ []) :
    P.PartialAgrees subjects ↔ P.PartialSafe subjects := by
  constructor
  · rintro ⟨text, Q, htext, hQ, hagree⟩
    unfold PolicySet.getCompletePoliciesFor at htext
    split at htext
    · rename_i hlen
      obtain rfl := Option.some.inj htext
      obtain rfl : P.partialRules subjects = Q :=
        Option.some.inj ((loadPolicy_complete hc).symm.trans hQ)
      by_cases hany : ∃ s ∈ subjects, P.getImplicitPermissionsForUser s ≠ []
      · refine Or.inl ⟨?_, hany⟩
        by_contra hw
        obtain ⟨s, hs, hsne⟩ := hany
        obtain ⟨rule, hr⟩ := List.exists_mem_of_ne_nil _ hsne
        obtain ⟨act, _, scope, _, obj, _, hal⟩ := enforce_printed hlen hs hr
        rw [hagree s hs, enforceClosure, enforceWithin_malformed hw] at hal
        cases hal
      · have hnone : ∀ s ∈ subjects, P.getImplicitPermissionsForUser s = [] := fun s hs => by
          by_contra hsne
          exact hany ⟨s, hs, hsne⟩
        refine Or.inr fun s hs => ⟨hnone s hs, (enforce_partial_nil hnone hs).mp ?_⟩
        intro act scope obj
        rw [hagree s hs, enforce_of_no_permission hne (hnone s hs)]
    · cases htext
  · rintro (⟨hw, s₀, hs₀, hne₀⟩ | hnone)
    · have hlen : ∀ s ∈ subjects, ∀ permission ∈ P.getImplicitPermissionsForUser s,
          4 ≤ permission.length := fun _ _ r hr =>
        Nat.le_of_eq (hw r (mem_getImplicitPermissionsForUser.mp hr).1).symm
      refine ⟨_, _, if_pos hlen, loadPolicy_complete hc, fun s hs act scope obj => ?_⟩
      exact enforce_partial hw hs₀ hne₀ hs act scope obj
    · have hnone' : ∀ s ∈ subjects, P.getImplicitPermissionsForUser s = [] :=
        fun s hs => (hnone s hs).1
      have hlen : ∀ s ∈ subjects, ∀ permission ∈ P.getImplicitPermissionsForUser s,
          4 ≤ permission.length := by
        intro s hs r hr
        rw [hnone' s hs] at hr
        exact absurd hr List.not_mem_nil
      refine ⟨_, _, if_pos hlen, loadPolicy_complete hc, fun s hs act scope obj => ?_⟩
      rw [(enforce_partial_nil hnone' hs).mpr (hnone s hs).2 act scope obj,
        enforce_of_no_permission hne (hnone' s hs)]

end Loaded

/-- **The partial policy decides as the full one if and only if the p-rules have their four fields
    and there is something to print, or there is nothing to print and no subject inherits the
    empty name.** -/
theorem partialAgrees_iff {now : Int} {m : ManagerObjects} {P : PolicySet}
    (h : updatePolicies now m = some P) (subjects : List Str) :
    P.PartialAgrees subjects ↔ P.PartialSafe subjects :=
  partialAgrees_iff_of_clean (cleanRules_of_loadPolicy h) (updatePolicies_p_ne_nil h)

/-- A cluster owner's dashboard. -/
theorem partialAgrees_owner :
    (PolicySet.mk clusterRules.p
      (clusterRules.g ++ [[str "user-ann", str "role_clusterOwner"]])).PartialAgrees
        [str "user-ann"] := by
  have h : updatePolicies 0 ⟨[], [], [⟨⟨kalmSystemNamespace, by decide⟩, ⟨str "ann", by decide⟩,
      ⟨str "ann", .user, .clusterOwner, str "admin", none⟩⟩]⟩ = some (PolicySet.mk clusterRules.p
        (clusterRules.g ++ [[str "user-ann", str "role_clusterOwner"]])) := by
    decide
  exact (partialAgrees_iff h [str "user-ann"]).mpr (Or.inl ⟨by decide, by decide⟩)

/-- The digest of sixty-four letters `a`. -/
def sha256OfAs : List UInt8 :=
  [255, 224, 84, 254, 122, 224, 203, 109, 198, 92, 58, 249, 182, 29, 82, 9, 244, 57, 133, 29, 180,
    61, 11, 165, 153, 115, 55, 223, 21, 70, 104, 235]

/-- An accepted token whose rule has a comma in its kind. -/
def commaToken : AcceptedAccessToken (fun _ => sha256OfAs) where
  name := hexEncode sha256OfAs
  spec :=
    { token := List.replicate 64 97
      rules := [⟨.view, str "shop", str "components,x", str "web"⟩]
      creator := str "admin"
      expiredAt := none }
  markers :=
    { token := by decide
      rules := by decide
      creator := by decide
      rule := by
        intro rule hr
        rw [List.mem_singleton.mp hr]
        exact ⟨(by decide : str "shop" ≠ []), (by decide : str "components,x" ≠ []),
          (by decide : str "web" ≠ [])⟩ }
  valid := by decide

/-- The rule is loaded with five fields: the full policy denies everything, and the text for the
    token's own subject allows the four that are printed. -/
theorem partialAgrees_fails :
    ¬ ∀ (sum256 : Str → List UInt8) (now : Int) (m : AcceptedObjects sum256) (P : PolicySet)
      (subjects : List Str), updatePolicies now m.objects = some P → P.PartialAgrees subjects := by
  intro h
  have hsome : (updatePolicies 0 ⟨[], [commaToken.toAccessToken], []⟩).isSome = true := by
    decide
  obtain ⟨P, hP⟩ := Option.isSome_iff_exists.mp hsome
  have hfacts : (updatePolicies 0 ⟨[], [commaToken.toAccessToken], []⟩).map
      (fun P => decide (P.WellFormed ∨
        P.getImplicitPermissionsForUser (safeSubject commaToken.name .user) = [])) = some false := by
    decide
  rw [hP, Option.map_some, Option.some.injEq, decide_eq_false_iff_not, not_or] at hfacts
  have hagree := h _ 0 ⟨[], [commaToken], []⟩ P [safeSubject commaToken.name .user] hP
  rcases (partialAgrees_iff_of_clean (cleanRules_of_loadPolicy hP)
    (updatePolicies_p_ne_nil hP)).mp hagree with ⟨hw, _⟩ | hnone
  · exact hfacts.1 hw
  · exact hfacts.2 (hnone _ List.mem_cons_self).1

end Kalm
