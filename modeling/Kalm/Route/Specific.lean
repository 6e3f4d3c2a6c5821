/-
  File:      Kalm/Route/Specific.lean
  Subject:   THE RULES OF A HOST IN THEIR ORDER: `buildIstioHttpRoutes` and `sortRoutes` of
             controller/controllers/http_route_controller.go, and the rule the gateway takes.

  * `hostRules` -- the rules of a host, in the order of the routes; `sortRoutes` -- what sorts in front;
  * `rulePrefixes` -- the prefixes of the rules of a route: its paths, and behind a slash where they are
    stripped;
  * `picked_spec` -- the first rule that takes a path has the longest prefix of all rules that take it;
  * `mostSpecific_iff` -- it is a rule of a route with the longest declared path, unless a stripped path
    behind its slash is declared by another route.
-/
import Kalm.Lib.Sorting
import Kalm.Route.Matches

namespace Kalm

open Sorting (Procedure StrictWeak)

/-! ## 1. Rules -/

/-- `HTTPRoute` with its match. -/
structure HTTPRouteRule extends HTTPRoute where
  matchRequest : HTTPMatchRequest
  deriving DecidableEq

/-- `buildIstioHttpRoutes`. -/
def buildIstioHttpRoutes (route : HttpRoute) : List HTTPRouteRule :=
  (buildMatches route).map fun m => { buildIstioHttpRoute route with matchRequest := m }

/-- `sortRoutes`: whether `a` sorts before `b`; `none` where it panics. -/
def sortRoutes (a b : HTTPRouteRule) : Option Bool :=
  match a.matchRequest.uri, b.matchRequest.uri with
  | none, _ => some false
  | some _, none => some true
  | some (.regex a), some (.regex b) => some (b < a)
  | some (.regex _), some _ => some true
  | some _, some (.regex _) => some false
  | some (.prefixOf a), some (.prefixOf b) => some (b < a)
  | some _, some _ => none

/-- `hostVirtualService[host]`. -/
def hostRules (routes : List HttpRoute) (host : Str) : List HTTPRouteRule :=
  routes.flatMap fun route =>
    (route.spec.hosts.filter fun h => h = host).flatMap fun _ => buildIstioHttpRoutes route

/-- The prefix a match asks for; without a URI it is the slash. -/
def HTTPMatchRequest.prefixText (m : HTTPMatchRequest) : Str :=
  match m.uri with
  | some (.prefixOf path) => path
  | _ => [slash]

/-- The part of a match about the path. -/
def HTTPMatchRequest.matchesPath (regexMatch : Str → Str → Bool) (m : HTTPMatchRequest) (path : Str) :
    Bool := m.uri.all fun uri => uri.matches regexMatch path

/-- The path behind the rewrite of a rule: its URI takes the place of the matched prefix. -/
def HTTPRouteRule.rewritten (rule : HTTPRouteRule) (path : Str) : Str :=
  match rule.rewriteUri with
  | none => path
  | some uri => uri ++ path.drop rule.matchRequest.prefixText.length

/-- The rules of a host, each with its route. -/
def taggedRules (routes : List AcceptedHttpRoute) (host : Str) :
    List (AcceptedHttpRoute × HTTPRouteRule) :=
  routes.flatMap fun route =>
    (route.spec.hosts.filter fun h => h = host).flatMap fun _ =>
      (buildIstioHttpRoutes route.toHttpRoute).map fun rule => (route, rule)

/-- The comparison of `sort.Slice` in `Run`. -/
def ruleLess (a b : AcceptedHttpRoute × HTTPRouteRule) : Bool := sortRoutes a.2 b.2 = some true

/-- The rule the gateway takes for a path: the first one of the sorted list. -/
def pickedRule (regexMatch : Str → Str → Bool) (sort : Procedure) (routes : List AcceptedHttpRoute)
    (host path : Str) : Option (AcceptedHttpRoute × HTTPRouteRule) :=
  (sort.sort ruleLess (taggedRules routes host)).find? fun t =>
    t.2.matchRequest.matchesPath regexMatch path

/-- The paths that the routes of a host declare. -/
def declaredPaths (routes : List AcceptedHttpRoute) (host : Str) : List Str :=
  (routes.filter fun route => host ∈ route.spec.hosts).flatMap fun route => route.spec.paths

/-- The prefixes of the rules of a route. -/
def rulePrefixes (route : HttpRoute) : List Str :=
  route.spec.paths.flatMap fun path =>
    path :: if route.spec.stripPath && path ≠ [slash] then [path ++ [slash]] else []

/-- The rule of a route for a prefix. -/
def ruleAt (route : HttpRoute) (path : Str) : HTTPRouteRule :=
  { buildIstioHttpRoute route with matchRequest := pathMatch route.spec path }

/-! ## 2. The prefixes of the rules -/

/-- The URI of a match is set behind its conditions as well as before. -/
theorem foldl_patchCondition_uri (cs : List HttpRouteCondition) (m : HTTPMatchRequest)
    (uri : Option StringMatch) :
    { cs.foldl HTTPMatchRequest.patchCondition m with uri := uri } =
      cs.foldl HTTPMatchRequest.patchCondition { m with uri := uri } := by
  induction cs generalizing m with
  | nil => rfl
  | cons c cs ih =>
      have hone : { m.patchCondition c with uri := uri } =
          ({ m with uri := uri } : HTTPMatchRequest).patchCondition c := by
        unfold HTTPMatchRequest.patchCondition
        cases c.type <;> rfl
      rw [List.foldl_cons, ih, hone, List.foldl_cons]

theorem pathMatch_uri (spec : HttpRouteSpec) (path : Str) :
    (pathMatch spec path).uri = if path ≠ [slash] then some (.prefixOf path) else none :=
  (foldl_patchCondition_frame ..).1

theorem prefixText_pathMatch (spec : HttpRouteSpec) (path : Str) :
    (pathMatch spec path).prefixText = path := by
  unfold HTTPMatchRequest.prefixText
  rw [pathMatch_uri]
  by_cases h : path = [slash]
  · rw [h, if_neg (by simp)]
  · rw [if_pos h]

/-- An accepted path begins with a slash. -/
theorem AcceptedHttpRoute.slash_begins (r : AcceptedHttpRoute) {path : Str} (h : path ∈ r.spec.paths) :
    [slash] <+: path :=
  List.isPrefixOf_iff_prefix.mp ((HttpRoute.validate_eq_nil.mp r.valid).2.1 path h)

/-- **The rules of an accepted route are its prefixes.** -/
theorem buildIstioHttpRoutes_eq (r : AcceptedHttpRoute) :
    buildIstioHttpRoutes r.toHttpRoute = (rulePrefixes r.toHttpRoute).map (ruleAt r.toHttpRoute) := by
  unfold buildIstioHttpRoutes buildMatches rulePrefixes
  rw [List.map_flatMap, List.map_flatMap]
  refine List.flatMap_congr fun path hpath => ?_
  rw [List.map_cons, List.map_cons]
  refine congrArg₂ List.cons rfl ?_
  split
  · have hne : path ++ [slash] ≠ [slash] := by
      intro h
      have hnil : path = [] := List.append_left_eq_self.mp h
      have hpre := r.slash_begins hpath
      rw [hnil, List.prefix_nil] at hpre
      exact List.cons_ne_nil _ _ hpre
    rw [List.map_singleton, List.map_singleton, ruleAt]
    unfold pathMatch patchConditionsToHttpMatch
    rw [foldl_patchCondition_uri, if_pos hne]
  · rfl

theorem mem_rulePrefixes {route : HttpRoute} {q : Str} :
    q ∈ rulePrefixes route ↔ q ∈ route.spec.paths ∨
      route.spec.stripPath = true ∧ ∃ path ∈ route.spec.paths, path ≠ [slash] ∧ q = path ++ [slash] := by
  unfold rulePrefixes
  rw [List.mem_flatMap]
  constructor
  · rintro ⟨path, hpath, hq⟩
    rcases List.mem_cons.mp hq with rfl | hq
    · exact Or.inl hpath
    · split at hq
      · rename_i h
        rw [Bool.and_eq_true, decide_eq_true_eq] at h
        exact Or.inr ⟨h.1, path, hpath, h.2, List.mem_singleton.mp hq⟩
      · exact absurd hq List.not_mem_nil
  · rintro (hq | ⟨hstrip, path, hpath, hne, rfl⟩)
    · exact ⟨q, hq, List.mem_cons_self⟩
    · refine ⟨path, hpath, List.mem_cons_of_mem _ ?_⟩
      rw [if_pos (by rw [hstrip, Bool.true_and]; exact decide_eq_true hne)]
      exact List.mem_singleton.mpr rfl

variable {routes : List AcceptedHttpRoute} {host : Str}

theorem mem_taggedRules {t : AcceptedHttpRoute × HTTPRouteRule} :
    t ∈ taggedRules routes host ↔ t.1 ∈ routes ∧ host ∈ t.1.spec.hosts ∧
      ∃ q ∈ rulePrefixes t.1.toHttpRoute, t.2 = ruleAt t.1.toHttpRoute q := by
  obtain ⟨r, rule⟩ := t
  unfold taggedRules
  simp only [buildIstioHttpRoutes_eq, List.mem_flatMap, List.mem_filter, decide_eq_true_eq, List.map_map,
    List.mem_map, Function.comp_apply, Prod.mk.injEq]
  constructor
  · rintro ⟨r', hr, h, ⟨hh, rfl⟩, q, hq, rfl, rfl⟩
    exact ⟨hr, hh, q, hq, rfl⟩
  · rintro ⟨hr, hh, q, hq, rfl⟩
    exact ⟨r, hr, host, ⟨hh, rfl⟩, q, hq, rfl, rfl⟩

/-- The prefix of a tagged rule. -/
def tagPrefix (t : AcceptedHttpRoute × HTTPRouteRule) : Str := t.2.matchRequest.prefixText

theorem tagPrefix_ruleAt (r : AcceptedHttpRoute) (q : Str) :
    tagPrefix (r, ruleAt r.toHttpRoute q) = q := prefixText_pathMatch _ q

/-- A rule of a host is known by its route and its prefix. -/
theorem eq_ruleAt {t : AcceptedHttpRoute × HTTPRouteRule} (h : t ∈ taggedRules routes host) :
    tagPrefix t ∈ rulePrefixes t.1.toHttpRoute ∧ t = (t.1, ruleAt t.1.toHttpRoute (tagPrefix t)) := by
  obtain ⟨_, _, q, hq, hrule⟩ := mem_taggedRules.mp h
  have ht : t = (t.1, ruleAt t.1.toHttpRoute q) := Prod.ext rfl hrule
  have hfront : tagPrefix t = q := by
    rw [ht]
    exact tagPrefix_ruleAt t.1 q
  rw [hfront]
  exact ⟨hq, ht⟩

theorem slash_tagPrefix {t : AcceptedHttpRoute × HTTPRouteRule} (h : t ∈ taggedRules routes host) :
    [slash] <+: tagPrefix t := by
  rcases mem_rulePrefixes.mp (eq_ruleAt h).1 with hq | ⟨_, path, hpath, _, hq⟩
  · exact t.1.slash_begins hq
  · rw [hq]
    exact (t.1.slash_begins hpath).trans (List.prefix_append _ _)

/-- What the URI of a rule is. -/
theorem uri_eq {t : AcceptedHttpRoute × HTTPRouteRule} (h : t ∈ taggedRules routes host) :
    t.2.matchRequest.uri = if tagPrefix t ≠ [slash] then some (.prefixOf (tagPrefix t)) else none := by
  have ht := (eq_ruleAt h).2
  generalize tagPrefix t = q at ht
  rw [ht]
  exact pathMatch_uri _ q

/-- **`sortRoutes` puts the longer prefix in front**: rules are in descending order. -/
theorem ruleLess_eq {a b : AcceptedHttpRoute × HTTPRouteRule} (ha : a ∈ taggedRules routes host)
    (hb : b ∈ taggedRules routes host) : ruleLess a b = decide (tagPrefix b < tagPrefix a) := by
  unfold ruleLess sortRoutes
  rw [uri_eq ha, uri_eq hb]
  by_cases hna : tagPrefix a = [slash]
  · rw [hna, if_neg (by simp)]
    have hle : ¬ tagPrefix b < [slash] := List.not_lt.mpr (slash_tagPrefix hb).le
    simp [hle]
  · rw [if_pos hna]
    by_cases hnb : tagPrefix b = [slash]
    · rw [hnb, if_neg (by simp)]
      have hlt : [slash] < tagPrefix a := by
        by_contra hn
        exact hna (List.le_antisymm (List.not_lt.mp hn) (slash_tagPrefix ha).le)
      simp [hlt]
    · rw [if_pos hnb]
      simp

theorem matchesPath_eq (regexMatch : Str → Str → Bool) {t : AcceptedHttpRoute × HTTPRouteRule}
    (h : t ∈ taggedRules routes host) {p : Str} (hp : isValidPath p = true) :
    t.2.matchRequest.matchesPath regexMatch p = (tagPrefix t).isPrefixOf p := by
  unfold HTTPMatchRequest.matchesPath
  rw [uri_eq h]
  by_cases hn : tagPrefix t = [slash]
  · rw [hn, if_neg (by simp)]
    exact hp.symm
  · rw [if_pos hn]
    rfl

/-! ## 3. The rule that is picked -/

section Picked

variable (regexMatch : Str → Str → Bool) (sort : Procedure)

theorem pairwise_sorted (routes : List AcceptedHttpRoute) (host : Str) :
    (sort.sort ruleLess (taggedRules routes host)).Pairwise fun a b => tagPrefix b ≤ tagPrefix a := by
  have hkey : ∀ a ∈ taggedRules routes host, ∀ b ∈ taggedRules routes host,
      ruleLess a b = decide (tagPrefix b < tagPrefix a) := fun a ha b hb => ruleLess_eq ha hb
  refine List.Pairwise.imp_of_mem (fun {a b} ha hb h => ?_) (sort.sorted _ _ (StrictWeak.of_key hkey))
  rw [hkey b (sort.mem_sort.mp hb) a (sort.mem_sort.mp ha), decide_eq_false_iff_not] at h
  exact List.not_lt.mp h

/-- What is looked for is a prefix. -/
theorem pickedRule_eq {p : Str} (hp : isValidPath p = true) :
    pickedRule regexMatch sort routes host p =
      (sort.sort ruleLess (taggedRules routes host)).find? fun t => (tagPrefix t).isPrefixOf p := by
  unfold pickedRule
  rw [← List.head?_filter, ← List.head?_filter]
  refine congrArg List.head? (List.filter_congr fun t ht => ?_)
  exact matchesPath_eq regexMatch (sort.mem_sort.mp ht) hp

/-- **The rule that is picked** has a prefix of the path, and the prefixes of the path among the rules
    are prefixes of it. -/
theorem picked_spec {p : Str} (hp : isValidPath p = true) {t : AcceptedHttpRoute × HTTPRouteRule}
    (h : pickedRule regexMatch sort routes host p = some t) :
    t ∈ taggedRules routes host ∧ tagPrefix t <+: p ∧
      ∀ t' ∈ taggedRules routes host, tagPrefix t' <+: p → tagPrefix t' <+: tagPrefix t := by
  rw [pickedRule_eq regexMatch sort hp] at h
  have hmem := sort.mem_sort.mp (List.mem_of_find?_eq_some h)
  have hpre : (tagPrefix t).isPrefixOf p = true := (List.find?_some h :)
  refine ⟨hmem, List.isPrefixOf_iff_prefix.mp hpre, fun t' ht' hpre => ?_⟩
  exact Sorting.prefix_of_find? (pairwise_sorted sort routes host) h (sort.mem_sort.mpr ht') hpre

theorem picked_isSome {p : Str} (hp : isValidPath p = true) {t : AcceptedHttpRoute × HTTPRouteRule}
    (ht : t ∈ taggedRules routes host) (hpre : tagPrefix t <+: p) :
    (pickedRule regexMatch sort routes host p).isSome := by
  rw [pickedRule_eq regexMatch sort hp, List.find?_isSome]
  exact ⟨t, sort.mem_sort.mpr ht, List.isPrefixOf_iff_prefix.mpr hpre⟩

end Picked

theorem mem_declaredPaths {path : Str} :
    path ∈ declaredPaths routes host ↔
      ∃ r ∈ routes, host ∈ r.spec.hosts ∧ path ∈ r.spec.paths := by
  simp only [declaredPaths, List.mem_flatMap, List.mem_filter, decide_eq_true_eq, and_assoc]

/-- A declared path has a rule. -/
theorem exists_rule_of_declared {path : Str} (h : path ∈ declaredPaths routes host) :
    ∃ t ∈ taggedRules routes host, tagPrefix t = path := by
  obtain ⟨r, hr, hh, hpath⟩ := mem_declaredPaths.mp h
  exact ⟨(r, ruleAt r.toHttpRoute path),
    mem_taggedRules.mpr ⟨hr, hh, path, mem_rulePrefixes.mpr (Or.inl hpath), rfl⟩, tagPrefix_ruleAt r path⟩

/-! ## 4. The longest declared path -/

/-- What is asked of the rule that is picked for a path: there is one where a path of the request is
    declared, its route declares the longest one, and the rewrite removes the declared path and at most the
    slash behind it. -/
structure PicksLongest (routes : List AcceptedHttpRoute) (host p : Str)
    (picked : Option (AcceptedHttpRoute × HTTPRouteRule)) : Prop where
  found : (∃ d ∈ declaredPaths routes host, d <+: p) → picked.isSome
  longest : ∀ t, picked = some t → ∃ path ∈ t.1.spec.paths, path <+: p ∧
    ∀ d ∈ declaredPaths routes host, d <+: p → d.length ≤ path.length
  strips : ∀ t, picked = some t → t.1.spec.stripPath = true → ∃ path ∈ t.1.spec.paths, ∃ rest,
    (p = path ++ rest ∨ p = path ++ slash :: rest) ∧ t.2.rewritten p = slash :: rest
  keeps : ∀ t, picked = some t → t.1.spec.stripPath = false → t.2.rewritten p = p

/-- **The most specific declared path wins**, however the routes are listed and whatever the sorting does
    with rules that tie; with distinct declared paths it makes no difference. -/
def MostSpecific (regexMatch : Str → Str → Bool) (routes : List AcceptedHttpRoute) (host : Str) : Prop :=
  ∀ (sort : Procedure) (listed : List AcceptedHttpRoute), listed.Perm routes →
    ∀ p, isValidPath p = true →
      PicksLongest routes host p (pickedRule regexMatch sort listed host p) ∧
        ((declaredPaths routes host).Nodup → ∀ sort' : Procedure,
          pickedRule regexMatch sort listed host p = pickedRule regexMatch sort' routes host p)

/-- No route declares the slash behind a path that another one strips, unless that one declares it too. -/
def NoRival (routes : List AcceptedHttpRoute) (host : Str) : Prop :=
  ∀ a ∈ routes, host ∈ a.spec.hosts → a.spec.stripPath = true → ∀ path ∈ a.spec.paths, path ≠ [slash] →
    path ++ [slash] ∈ declaredPaths routes host → path ++ [slash] ∈ a.spec.paths

theorem mem_taggedRules_perm {listed : List AcceptedHttpRoute} (h : listed.Perm routes)
    {t : AcceptedHttpRoute × HTTPRouteRule} :
    t ∈ taggedRules listed host ↔ t ∈ taggedRules routes host := by
  rw [mem_taggedRules, mem_taggedRules, h.mem_iff]

/-- The declared path of a rule, or of its prefix without the slash, is the longest. -/
theorem longest_of_noRival (hrival : NoRival routes host) {p : Str}
    {t : AcceptedHttpRoute × HTTPRouteRule} (ht : t ∈ taggedRules routes host) (hpre : tagPrefix t <+: p)
    (hbest : ∀ t' ∈ taggedRules routes host, tagPrefix t' <+: p → tagPrefix t' <+: tagPrefix t) :
    ∃ path ∈ t.1.spec.paths, path <+: p ∧
      ∀ d ∈ declaredPaths routes host, d <+: p → d.length ≤ path.length := by
  have hdeclared : ∀ d ∈ declaredPaths routes host, d <+: p → d <+: tagPrefix t := by
    intro d hd hdp
    obtain ⟨t', ht', rfl⟩ := exists_rule_of_declared hd
    exact hbest t' ht' hdp
  by_cases hown : tagPrefix t ∈ t.1.spec.paths
  · exact ⟨tagPrefix t, hown, hpre, fun d hd hdp => (hdeclared d hd hdp).length_le⟩
  · -- the rule of a stripped path behind its slash: nobody declares that
    rcases mem_rulePrefixes.mp (eq_ruleAt ht).1 with hq | ⟨hstrip, path, hpath, hne, hq⟩
    · exact absurd hq hown
    · obtain ⟨hr, hhost, _⟩ := mem_taggedRules.mp ht
      have hfree : path ++ [slash] ∉ declaredPaths routes host := by
        intro hd
        rw [hq] at hown
        exact hown (hrival t.1 hr hhost hstrip path hpath hne hd)
      rw [hq] at hpre hdeclared
      refine ⟨path, hpath, (List.prefix_append _ _).trans hpre, fun d hd hdp => ?_⟩
      rcases List.prefix_concat_iff.mp (hdeclared d hd hdp) with rfl | hd'
      · exact absurd hd hfree
      · exact hd'.length_le

/-- A rule removes its declared path. -/
theorem rewritten_of_mem {p : Str} {t : AcceptedHttpRoute × HTTPRouteRule}
    (ht : t ∈ taggedRules routes host) (hpre : tagPrefix t <+: p) :
    (t.1.spec.stripPath = true → ∃ path ∈ t.1.spec.paths, ∃ rest,
        (p = path ++ rest ∨ p = path ++ slash :: rest) ∧ t.2.rewritten p = slash :: rest) ∧
      (t.1.spec.stripPath = false → t.2.rewritten p = p) := by
  have huri : t.2.rewriteUri = if t.1.spec.stripPath = true then some (str "/") else none := by
    rw [(eq_ruleAt ht).2]
    rfl
  obtain ⟨rest, rfl⟩ := hpre
  unfold HTTPRouteRule.rewritten
  rw [huri]
  constructor
  · intro hstrip
    rw [if_pos hstrip]
    have hdrop : (tagPrefix t ++ rest).drop t.2.matchRequest.prefixText.length = rest :=
      List.drop_left' rfl
    have hrest : str "/" ++ rest = slash :: rest := rfl
    simp only [hdrop, hrest]
    rcases mem_rulePrefixes.mp (eq_ruleAt ht).1 with hq | ⟨_, path, hpath, _, hq⟩
    · exact ⟨tagPrefix t, hq, rest, Or.inl rfl, rfl⟩
    · refine ⟨path, hpath, rest, Or.inr ?_, rfl⟩
      rw [hq, List.append_assoc, List.singleton_append]
  · intro hstrip
    rw [hstrip]
    rfl

/-- Where the declared paths are distinct, a declared path has one route. -/
theorem eq_of_declared (hdistinct : (declaredPaths routes host).Nodup) {r r' : AcceptedHttpRoute} {d : Str}
    (hr : r ∈ routes) (hr' : r' ∈ routes) (hhost : host ∈ r.spec.hosts) (hhost' : host ∈ r'.spec.hosts)
    (hd : d ∈ r.spec.paths) (hd' : d ∈ r'.spec.paths) : r = r' := by
  by_contra hne
  obtain ⟨_, hdisjoint⟩ := List.nodup_flatMap.mp hdistinct
  have hmem : ∀ {x : AcceptedHttpRoute}, x ∈ routes → host ∈ x.spec.hosts →
      x ∈ routes.filter fun route => host ∈ route.spec.hosts :=
    fun hx hh => List.mem_filter.mpr ⟨hx, decide_eq_true hh⟩
  have hsymm : Std.Symm (Function.onFun List.Disjoint fun r : AcceptedHttpRoute => r.spec.paths) :=
    ⟨fun _ _ h _ hb ha => h ha hb⟩
  exact hdisjoint.forall (hmem hr hhost) (hmem hr' hhost') hne hd hd'

/-- Where the declared paths are distinct, a prefix has one route. -/
theorem eq_of_tagPrefix (hrival : NoRival routes host) (hdistinct : (declaredPaths routes host).Nodup)
    {t t' : AcceptedHttpRoute × HTTPRouteRule} (ht : t ∈ taggedRules routes host)
    (ht' : t' ∈ taggedRules routes host) (h : tagPrefix t = tagPrefix t') : t = t' := by
  obtain ⟨hr, hhost, _⟩ := mem_taggedRules.mp ht
  obtain ⟨hr', hhost', _⟩ := mem_taggedRules.mp ht'
  -- a prefix that is declared at all is declared by the route of its rule
  have hown : ∀ {u : AcceptedHttpRoute × HTTPRouteRule}, u ∈ taggedRules routes host →
      tagPrefix u ∈ declaredPaths routes host → tagPrefix u ∈ u.1.spec.paths := by
    intro u hu hd
    obtain ⟨hur, huh, _⟩ := mem_taggedRules.mp hu
    rcases mem_rulePrefixes.mp (eq_ruleAt hu).1 with hq | ⟨hstrip, path, hpath, hne, hq⟩
    · exact hq
    · rw [hq] at hd ⊢
      exact hrival u.1 hur huh hstrip path hpath hne hd
  have hroute : t.1 = t'.1 := by
    by_cases hd : tagPrefix t ∈ declaredPaths routes host
    · exact eq_of_declared hdistinct hr hr' hhost hhost' (hown ht hd) (h ▸ hown ht' (h ▸ hd))
    · rcases mem_rulePrefixes.mp (eq_ruleAt ht).1 with hq | ⟨_, path, hpath, _, hq⟩
      · exact absurd (mem_declaredPaths.mpr ⟨t.1, hr, hhost, hq⟩) hd
      rcases mem_rulePrefixes.mp (eq_ruleAt ht').1 with hq' | ⟨_, path', hpath', _, hq'⟩
      · exact absurd (mem_declaredPaths.mpr ⟨t'.1, hr', hhost', h ▸ hq'⟩) (h ▸ hd)
      have hsame : path = path' := List.append_cancel_right (hq.symm.trans (h.trans hq'))
      exact eq_of_declared hdistinct hr hr' hhost hhost' hpath (hsame ▸ hpath')
  rw [(eq_ruleAt ht).2, (eq_ruleAt ht').2, hroute, h]

/-- **Without a rival the most specific declared path wins.** -/
theorem mostSpecific_of_noRival (regexMatch : Str → Str → Bool) (hrival : NoRival routes host) :
    MostSpecific regexMatch routes host := by
  intro sort listed hperm p hp
  have hspec : ∀ t, pickedRule regexMatch sort listed host p = some t →
      t ∈ taggedRules routes host ∧ tagPrefix t <+: p ∧
        ∀ t' ∈ taggedRules routes host, tagPrefix t' <+: p → tagPrefix t' <+: tagPrefix t := by
    intro t ht
    obtain ⟨hmem, hpre, hbest⟩ := picked_spec regexMatch sort hp ht
    exact ⟨(mem_taggedRules_perm hperm).mp hmem, hpre,
      fun t' ht' => hbest t' ((mem_taggedRules_perm hperm).mpr ht')⟩
  refine ⟨⟨?_, fun t ht => ?_, fun t ht => ?_, fun t ht => ?_⟩, fun hdistinct sort' => ?_⟩
  · rintro ⟨d, hd, hdp⟩
    obtain ⟨t, ht, rfl⟩ := exists_rule_of_declared hd
    exact picked_isSome regexMatch sort hp ((mem_taggedRules_perm hperm).mpr ht) hdp
  · obtain ⟨hmem, hpre, hbest⟩ := hspec t ht
    exact longest_of_noRival hrival hmem hpre hbest
  · obtain ⟨hmem, hpre, _⟩ := hspec t ht
    exact (rewritten_of_mem hmem hpre).1
  · obtain ⟨hmem, hpre, _⟩ := hspec t ht
    exact (rewritten_of_mem hmem hpre).2
  · cases hpicked : pickedRule regexMatch sort listed host p with
    | none =>
        cases hpicked' : pickedRule regexMatch sort' routes host p with
        | none => rfl
        | some t' =>
            obtain ⟨hmem, hpre, _⟩ := picked_spec regexMatch sort' hp hpicked'
            have hsome := picked_isSome regexMatch sort hp ((mem_taggedRules_perm hperm).mpr hmem) hpre
            rw [hpicked] at hsome
            cases hsome
    | some t =>
        obtain ⟨hmem, hpre, hbest⟩ := hspec t hpicked
        obtain ⟨t', hpicked'⟩ := Option.isSome_iff_exists.mp (picked_isSome regexMatch sort' hp hmem hpre)
        obtain ⟨hmem', hpre', hbest'⟩ := picked_spec regexMatch sort' hp hpicked'
        have hsame : tagPrefix t = tagPrefix t' :=
          (hbest' t hmem hpre).eq_of_length_le (hbest t' hmem' hpre').length_le
        rw [hpicked', eq_of_tagPrefix hrival hdistinct hmem hmem' hsame]

/-! ## 5. A rival -/

/-- Rules with one prefix tie. -/
theorem not_ruleLess_of_eq {a b : AcceptedHttpRoute × HTTPRouteRule} (ha : a ∈ taggedRules routes host)
    (hb : b ∈ taggedRules routes host) (h : tagPrefix a = tagPrefix b) : ruleLess a b = false := by
  rw [ruleLess_eq ha hb, h]
  exact decide_eq_false (List.lt_irrefl _)

/-- **Insertion sort picks the route that is listed first** among those with a rule for the path. -/
theorem picked_insertion (regexMatch : Str → Str → Bool) {a : AcceptedHttpRoute} {q : Str}
    (hhost : host ∈ a.spec.hosts) (hq : q ∈ rulePrefixes a.toHttpRoute) (hvalid : isValidPath q = true) :
    ∃ rule, pickedRule regexMatch Sorting.insertion (a :: routes) host q = some (a, rule) := by
  have hin : (a, ruleAt a.toHttpRoute q) ∈ taggedRules [a] host :=
    mem_taggedRules.mpr ⟨List.mem_singleton.mpr rfl, hhost, q, hq, rfl⟩
  have hsplit : taggedRules (a :: routes) host = taggedRules [a] host ++ taggedRules routes host := by
    rw [taggedRules, List.flatMap_cons, taggedRules, List.flatMap_singleton, taggedRules]
  have hall : (a, ruleAt a.toHttpRoute q) ∈ taggedRules (a :: routes) host := by
    rw [hsplit]
    exact List.mem_append_left _ hin
  have hown : tagPrefix (a, ruleAt a.toHttpRoute q) = q := tagPrefix_ruleAt a q
  have hself : tagPrefix (a, ruleAt a.toHttpRoute q) <+: q := by
    rw [hown]
  obtain ⟨t, ht⟩ := Option.isSome_iff_exists.mp
    (picked_isSome regexMatch Sorting.insertion hvalid hall hself)
  obtain ⟨hmem, hpre, hbest⟩ := picked_spec regexMatch Sorting.insertion hvalid ht
  have hbestq := hbest _ hall hself
  rw [hown] at hbestq
  have htag : tagPrefix t = q := hpre.eq_of_length_le hbestq.length_le
  -- so it is the first rule for `q` in the sorted list, and ties keep their order
  have hfirst : (Sorting.insertion.sort ruleLess (taggedRules (a :: routes) host)).find?
      (fun t => decide (tagPrefix t = q)) = some t := by
    rw [pickedRule_eq regexMatch Sorting.insertion hvalid] at ht
    obtain ⟨_, front, back, hlist, hfront⟩ := List.find?_eq_some_iff_append.mp ht
    refine List.find?_eq_some_iff_append.mpr ⟨decide_eq_true htag, front, back, hlist, fun u hu => ?_⟩
    have hno := hfront u hu
    rw [Bool.not_eq_true'] at hno ⊢
    refine decide_eq_false fun he => ?_
    rw [he, List.isPrefixOf_iff_prefix.mpr (List.prefix_refl q)] at hno
    cases hno
  rw [← List.head?_filter, Sorting.filter_insertion _ fun u hu v hv hpu hpv => not_ruleLess_of_eq hu hv
    ((of_decide_eq_true hpu).trans (of_decide_eq_true hpv).symm), List.head?_filter, hsplit,
    List.find?_append] at hfirst
  have hsome : ((taggedRules [a] host).find? fun t => decide (tagPrefix t = q)).isSome :=
    List.find?_isSome.mpr ⟨_, hin, decide_eq_true hown⟩
  obtain ⟨u, hu⟩ := Option.isSome_iff_exists.mp hsome
  rw [hu, Option.some_or] at hfirst
  have hmemu := (mem_taggedRules.mp (List.mem_of_find?_eq_some hu)).1
  rw [Option.some.inj hfirst, List.mem_singleton] at hmemu
  exact ⟨t.2, ht.trans (congrArg some (Prod.ext hmemu rfl))⟩

/-- **The most specific declared path wins exactly where no stripped path has a rival.** -/
theorem mostSpecific_iff (regexMatch : Str → Str → Bool) (routes : List AcceptedHttpRoute) (host : Str) :
    MostSpecific regexMatch routes host ↔ NoRival routes host := by
  refine ⟨fun h a ha hhost hstrip path hpath hne hdeclared => ?_, mostSpecific_of_noRival regexMatch⟩
  have hvalid : isValidPath (path ++ [slash]) = true :=
    List.isPrefixOf_iff_prefix.mpr ((a.slash_begins hpath).trans (List.prefix_append _ _))
  have hq : path ++ [slash] ∈ rulePrefixes a.toHttpRoute :=
    mem_rulePrefixes.mpr (Or.inr ⟨hstrip, path, hpath, hne, rfl⟩)
  -- the route that strips the path is listed first
  obtain ⟨front, back, rfl⟩ := List.append_of_mem ha
  obtain ⟨rule, hpicked⟩ : ∃ rule, pickedRule regexMatch Sorting.insertion (a :: (front ++ back)) host
      (path ++ [slash]) = some (a, rule) := picked_insertion regexMatch hhost hq hvalid
  obtain ⟨hpicks, _⟩ := h Sorting.insertion (a :: (front ++ back)) List.perm_middle.symm _ hvalid
  obtain ⟨d, hd, hpre, hbest⟩ := hpicks.longest _ hpicked
  have hlen := hbest _ hdeclared (List.prefix_refl _)
  rw [← hpre.eq_of_length_le hlen]
  exact hd

/-- A route of the host `shop.io`. -/
def shopRoute (name : DnsSubdomain) (path : Str) (stripPath : Bool) (h : isValidPath path = true) :
    AcceptedHttpRoute where
  ns := ⟨str "shop", isDNS1123Label_shop⟩
  name := name
  spec := plainSpec [str "shop.io"] [path] [] stripPath false
  valid := plainSpec_valid (by decide) fun p hp => List.mem_singleton.mp hp ▸ h

/-- A route that strips `/a`. -/
def stripsA : AcceptedHttpRoute := shopRoute ⟨str "eve", isDNS1123Subdomain_eve⟩ (str "/a") true (by decide)

/-- A route of `/a/`. -/
def declaresA : AcceptedHttpRoute :=
  shopRoute ⟨str "web", isDNS1123Subdomain_web⟩ (str "/a/") false (by decide)

/-- **The most specific declared path does not always win**: `/a/` goes to the route that strips `/a`. -/
theorem mostSpecific_fails : ¬ ∀ regexMatch routes host, MostSpecific regexMatch routes host := by
  intro h
  obtain ⟨rule, hpicked⟩ : ∃ rule, pickedRule matchAlternatives Sorting.insertion [stripsA, declaresA]
      (str "shop.io") (str "/a/") = some (stripsA, rule) :=
    picked_insertion matchAlternatives (by decide) (by decide) (by decide)
  obtain ⟨hpicks, _⟩ := h matchAlternatives [stripsA, declaresA] (str "shop.io") Sorting.insertion
    [stripsA, declaresA] (List.Perm.refl _) (str "/a/") (by decide)
  obtain ⟨d, hd, _, hbest⟩ := hpicks.longest _ hpicked
  have hlen := hbest (str "/a/") (by decide) (List.prefix_refl _)
  have hd' : d = str "/a" := List.mem_singleton.mp hd
  rw [hd'] at hlen
  exact absurd hlen (by decide)

end Kalm
