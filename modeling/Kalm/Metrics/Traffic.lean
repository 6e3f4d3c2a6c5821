/-
  File:      Kalm/Metrics/Traffic.lean
  Subject:   WHOSE TRAFFIC IT IS: the istio histories in `BuildComponentDetails`, for a map of histories whose keys are
             the host names of services.

  * `getComponentAndNSNameFromSvcName`, `componentTraffic` -- the first entry whose host is of the component;
  * `Attributed` -- the sum of the component's own services, in every order of the map, and no entry for two components;
  * `Told` -- there is no second entry, or it makes no difference;
  * `trafficAttributed_iff` -- the traffic is attributed right exactly when every component is told right, and none has
    the name of another one's headless service.
-/
import Kalm.Metrics.Merged
import Kalm.Component.Controller
import Kalm.K8s.Names

namespace Kalm.Traffic

open Series
open Controller (getNameForHeadlessService)

/-! ## 1. The source -/

/-- `getComponentAndNSNameFromSvcName` -/
def getComponentAndNSNameFromSvcName (svcName : Str) : Str × Str :=
  match svcName.splitOn dot with
  | compName :: nsName :: _ => (compName, nsName)
  | _ => ([], [])

/-- A component: its name and namespace, and whether its headless service is there. -/
structure Component where
  ns : Str
  name : Str
  headless : Bool
  deriving DecidableEq

/-- The test in the loop: the host is of the service, or of the headless service. -/
def Component.owns (component : Component) (svcName : Str) : Bool :=
  let (ownerCompName, ownerNsName) := getComponentAndNSNameFromSvcName svcName
  !((ownerCompName ≠ component.name && ownerCompName ≠ getNameForHeadlessService component.name) ||
    ownerNsName ≠ component.ns)

variable {V : Type}

/-- The loop over the map, in the order in which it is walked, stops at the first that is found. -/
def componentTraffic (component : Component) (histories : List (Str × IstioMetricHistories V)) :
    IstioMetricHistories V :=
  match histories.find? fun entry => component.owns entry.1 with
  | some (_, metric) => metric
  | none => .empty

/-! ## 2. Hosts -/

/-- A service. -/
structure Service where
  name : DnsLabel
  ns : DnsLabel
  deriving DecidableEq

/-- Its host name. -/
def Service.host (service : Service) : Str := service.name.val ++ str "." ++ service.ns.val ++ str ".svc.cluster.local"

/-- The histories of services; each service has one. -/
structure ServiceHistories (V : Type) where
  entries : List (Service × IstioMetricHistories V)
  nodup : (entries.map Prod.fst).Nodup

/-- An order in which the map is walked. -/
def ServiceHistories.Order (histories : ServiceHistories V) (order : List (Service × IstioMetricHistories V)) : Prop :=
  order.Perm histories.entries

/-- What is reported for a component in one order. -/
def Component.reported (component : Component) (order : List (Service × IstioMetricHistories V)) :
    IstioMetricHistories V :=
  componentTraffic component (order.map fun entry => (entry.1.host, entry.2))

/-- The entry that it is taken from. -/
def Component.taken (component : Component) (order : List (Service × IstioMetricHistories V)) :
    Option (Service × IstioMetricHistories V) :=
  order.find? fun entry => component.owns entry.1.host

/-- The history of the service with a name. -/
def ServiceHistories.get (histories : ServiceHistories V) (name ns : Str) : Option (IstioMetricHistories V) :=
  (histories.entries.find? fun entry => entry.1.name.val = name ∧ entry.1.ns.val = ns).map Prod.snd

/-- That of a component's service. -/
def ServiceHistories.own (histories : ServiceHistories V) (component : Component) : Option (IstioMetricHistories V) :=
  histories.get component.name component.ns

/-- That of the service with the name of its headless service. -/
def ServiceHistories.headless (histories : ServiceHistories V) (component : Component) :
    Option (IstioMetricHistories V) :=
  histories.get (getNameForHeadlessService component.name) component.ns

/-- Those of the services that are the component's. -/
def ServiceHistories.services (histories : ServiceHistories V) (component : Component) :
    List (IstioMetricHistories V) :=
  (histories.own component).toList ++ if component.headless then (histories.headless component).toList else []

section Specification

variable [AddCommMonoid V]

/-- Histories that tell the same. -/
def Same (h h' : IstioMetricHistories V) : Prop :=
  ∀ kind ∈ kinds, ∀ t, (t ∈ times (kind h) ↔ t ∈ times (kind h')) ∧ total (kind h) t = total (kind h') t

/-- Histories of nothing but zeros, at the same times. -/
def Silent (h h' : IstioMetricHistories V) : Prop :=
  ∀ kind ∈ kinds, ∀ t, (t ∈ times (kind h) ↔ t ∈ times (kind h')) ∧ total (kind h) t = 0 ∧ total (kind h') t = 0

/-- **The traffic is attributed**: what is reported for a component is the sum of its services, it is the same in every
    order, and no entry is taken for two components. -/
structure Attributed (components : List Component) (histories : ServiceHistories V) : Prop where
  sum : ∀ component ∈ components, ∀ order, histories.Order order →
    SumOf (component.reported order) (histories.services component)
  order : ∀ component ∈ components, ∀ order order', histories.Order order → histories.Order order' →
    Same (component.reported order) (component.reported order')
  once : ∀ component ∈ components, ∀ component' ∈ components,
    ¬ (component.ns = component'.ns ∧ component.name = component'.name) →
    ∀ order order', histories.Order order → histories.Order order' → ∀ entry, component.taken order = some entry →
      component'.taken order' ≠ some entry

/-- What a second entry must be like: next to its service, a headless one is silent, and so is the service; one that is
    not the component's tells what its service tells. -/
def Told (component : Component) (histories : ServiceHistories V) : Prop :=
  ∀ second ∈ histories.headless component,
    if component.headless then ∀ first ∈ histories.own component, Silent first second
    else Same second ((histories.own component).getD .empty)

end Specification

/-! ## 3. Which entries are a component's -/

section Entries

variable {component component' : Component} {service : Service} {histories : ServiceHistories V} {name ns : Str}
  {h : IstioMetricHistories V} {entry : Service × IstioMetricHistories V} {components : List Component}

theorem dot_not_mem_label (n : DnsLabel) : dot ∉ n.val := fun h => absurd (n.label dot h) (by decide)

/-- The host is taken apart. -/
theorem getComponentAndNSName_host (service : Service) : getComponentAndNSNameFromSvcName service.host =
    (service.name.val, service.ns.val) := by
  have hhost : service.host = service.name.val ++ dot :: (service.ns.val ++ dot :: str "svc.cluster.local") := by
    unfold Service.host
    simp only [List.append_assoc]
    rfl
  unfold getComponentAndNSNameFromSvcName
  rw [hhost, List.splitOn_append_cons_self, List.splitOn_append_cons_self,
    List.splitOn_eq_singleton (dot_not_mem_label _), List.splitOn_eq_singleton (dot_not_mem_label _)]
  rfl

theorem Component.owns_iff : component.owns service.host = true ↔
    (service.name.val = component.name ∨ service.name.val = getNameForHeadlessService component.name) ∧
      service.ns.val = component.ns := by
  unfold Component.owns
  rw [getComponentAndNSName_host]
  dsimp only
  rw [Bool.not_eq_true', Bool.or_eq_false_iff, Bool.and_eq_false_iff, decide_eq_false_iff_not, decide_eq_false_iff_not,
    decide_eq_false_iff_not, not_ne_iff, not_ne_iff, not_ne_iff]

theorem Service.ext_val {service service' : Service} (hname : service.name.val = service'.name.val)
    (hns : service.ns.val = service'.ns.val) : service = service' := by
  obtain ⟨⟨_, _⟩, ⟨_, _⟩⟩ := service
  obtain ⟨⟨_, _⟩, ⟨_, _⟩⟩ := service'
  obtain rfl := hname
  obtain rfl := hns
  rfl

/-- A service has one entry. -/
theorem ServiceHistories.eq_of_mem (histories : ServiceHistories V) {service : Service}
    {h h' : IstioMetricHistories V} (hmem : (service, h) ∈ histories.entries)
    (hmem' : (service, h') ∈ histories.entries) : h = h' := by
  have hpair := List.inj_on_of_nodup_map histories.nodup hmem hmem' rfl
  exact congrArg Prod.snd hpair

theorem ServiceHistories.get_eq_some : histories.get name ns = some h ↔
    ∃ service, (service, h) ∈ histories.entries ∧ service.name.val = name ∧ service.ns.val = ns := by
  unfold ServiceHistories.get
  rw [Option.map_eq_some_iff]
  constructor
  · intro ⟨entry, hfind, heq⟩
    obtain rfl := heq
    have htest := List.find?_some hfind
    rw [decide_eq_true_iff] at htest
    exact ⟨entry.1, List.mem_of_find?_eq_some hfind, htest⟩
  · intro ⟨service, hmem, hname, hns⟩
    have hsome : (histories.entries.find? fun entry => entry.1.name.val = name ∧ entry.1.ns.val = ns).isSome :=
      List.find?_isSome.mpr ⟨(service, h), hmem, by rw [decide_eq_true_iff]; exact ⟨hname, hns⟩⟩
    obtain ⟨entry, hfind⟩ := Option.isSome_iff_exists.mp hsome
    have htest := List.find?_some hfind
    rw [decide_eq_true_iff] at htest
    obtain ⟨service', h'⟩ := entry
    obtain rfl := Service.ext_val (hname.trans htest.1.symm) (hns.trans htest.2.symm)
    exact ⟨_, hfind, histories.eq_of_mem (List.mem_of_find?_eq_some hfind) hmem⟩

/-- The entries of a component are those of its names. -/
theorem exists_owned : (∃ entry ∈ histories.entries, component.owns entry.1.host = true ∧ entry.2 = h) ↔
    histories.own component = some h ∨ histories.headless component = some h := by
  unfold ServiceHistories.own ServiceHistories.headless
  rw [ServiceHistories.get_eq_some, ServiceHistories.get_eq_some]
  constructor
  · intro ⟨⟨service, _⟩, hmem, howns, heq⟩
    obtain rfl := heq
    obtain ⟨hname | hname, hns⟩ := Component.owns_iff.mp howns
    · exact Or.inl ⟨service, hmem, hname, hns⟩
    · exact Or.inr ⟨service, hmem, hname, hns⟩
  · intro hor
    rcases hor with ⟨service, hmem, hname, hns⟩ | ⟨service, hmem, hname, hns⟩
    · exact ⟨(service, h), hmem, Component.owns_iff.mpr ⟨Or.inl hname, hns⟩, rfl⟩
    · exact ⟨(service, h), hmem, Component.owns_iff.mpr ⟨Or.inr hname, hns⟩, rfl⟩

/-! ## 4. What can be reported -/

theorem Component.reported_eq (component : Component) (order : List (Service × IstioMetricHistories V)) :
    component.reported order = ((component.taken order).map Prod.snd).getD .empty := by
  unfold Component.reported Component.taken componentTraffic
  rw [List.find?_map]
  cases hfind : order.find? fun entry => component.owns entry.1.host with
  | none =>
      have hfind' : order.find? ((fun entry : Str × IstioMetricHistories V => component.owns entry.1) ∘
          fun entry => (entry.1.host, entry.2)) = none := hfind
      rw [hfind']
      rfl
  | some entry =>
      have hfind' : order.find? ((fun entry : Str × IstioMetricHistories V => component.owns entry.1) ∘
          fun entry => (entry.1.host, entry.2)) = some entry := hfind
      rw [hfind']
      rfl

/-- **Every entry of a component is taken in some order**, and no other. -/
theorem exists_taken : (∃ order, histories.Order order ∧ component.taken order = some entry) ↔
    entry ∈ histories.entries ∧ component.owns entry.1.host = true := by
  constructor
  · intro ⟨order, horder, htaken⟩
    unfold Component.taken at htaken
    have howns := List.find?_some htaken
    exact ⟨horder.mem_iff.mp (List.mem_of_find?_eq_some htaken), howns⟩
  · intro ⟨hmem, howns⟩
    obtain ⟨front, back, hsplit⟩ := List.append_of_mem hmem
    refine ⟨entry :: (front ++ back), ?_, List.find?_cons_of_pos howns⟩
    unfold ServiceHistories.Order
    rw [hsplit]
    exact List.perm_middle.symm

theorem taken_eq_none {order : List (Service × IstioMetricHistories V)} (horder : histories.Order order) :
    component.taken order = none ↔ histories.own component = none ∧ histories.headless component = none := by
  unfold Component.taken
  rw [List.find?_eq_none]
  constructor
  · intro hnone
    have hnever (h : IstioMetricHistories V) : ¬ (histories.own component = some h ∨
        histories.headless component = some h) := by
      rw [← exists_owned]
      exact fun ⟨entry, hmem, howns, _⟩ => hnone entry (horder.mem_iff.mpr hmem) howns
    exact ⟨Option.eq_none_iff_forall_ne_some.mpr fun h hh => hnever h (Or.inl hh),
      Option.eq_none_iff_forall_ne_some.mpr fun h hh => hnever h (Or.inr hh)⟩
  · intro ⟨hown, hheadless⟩ entry hmem howns
    have hor := exists_owned.mp ⟨entry, horder.mem_iff.mp hmem, howns, rfl⟩
    rw [hown, hheadless] at hor
    exact hor.elim nofun nofun

/-- **What is reported in some order**: the history of one of the two names, or nothing where there is none. -/
theorem exists_reported : (∃ order, histories.Order order ∧ component.reported order = h) ↔
    histories.own component = some h ∨ histories.headless component = some h ∨
      (histories.own component = none ∧ histories.headless component = none ∧ h = .empty) := by
  rw [← or_assoc, ← exists_owned]
  constructor
  · intro ⟨order, horder, hreported⟩
    rw [Component.reported_eq] at hreported
    cases htaken : component.taken order with
    | none =>
        rw [htaken] at hreported
        obtain ⟨hown, hheadless⟩ := (taken_eq_none horder).mp htaken
        exact Or.inr ⟨hown, hheadless, hreported.symm⟩
    | some entry =>
        rw [htaken] at hreported
        obtain ⟨hmem, howns⟩ := exists_taken.mp ⟨order, horder, htaken⟩
        exact Or.inl ⟨entry, hmem, howns, hreported⟩
  · intro hor
    rcases hor with ⟨entry, hmem, howns, heq⟩ | ⟨hown, hheadless, heq⟩
    · obtain ⟨order, horder, htaken⟩ := exists_taken.mpr ⟨hmem, howns⟩
      exact ⟨order, horder, by rw [Component.reported_eq, htaken]; exact heq⟩
    · have horder : histories.Order histories.entries := List.Perm.refl _
      exact ⟨_, horder, by rw [Component.reported_eq, (taken_eq_none horder).mpr ⟨hown, hheadless⟩]; exact heq.symm⟩

/-- What a statement about every order says. -/
theorem forall_reported {P : IstioMetricHistories V → Prop} :
    (∀ order, histories.Order order → P (component.reported order)) ↔
      (∀ first ∈ histories.own component, P first) ∧ (∀ second ∈ histories.headless component, P second) ∧
        (histories.own component = none → histories.headless component = none → P .empty) := by
  constructor
  · intro hall
    have hreported {h : IstioMetricHistories V} (hor : histories.own component = some h ∨
        histories.headless component = some h ∨
          (histories.own component = none ∧ histories.headless component = none ∧ h = .empty)) : P h := by
      obtain ⟨order, horder, rfl⟩ := exists_reported.mpr hor
      exact hall order horder
    exact ⟨fun first hfirst => hreported (Or.inl hfirst), fun second hsecond => hreported (Or.inr (Or.inl hsecond)),
      fun hown hheadless => hreported (Or.inr (Or.inr ⟨hown, hheadless, rfl⟩))⟩
  · intro ⟨hown, hheadless, hnone⟩ order horder
    rcases exists_reported.mp ⟨order, horder, rfl⟩ with hfirst | hsecond | ⟨hfirst, hsecond, hempty⟩
    · exact hown _ hfirst
    · exact hheadless _ hsecond
    · exact hempty ▸ hnone hfirst hsecond

/-- **No entry is taken twice** when no component has the name of another one's headless service. -/
theorem once_iff : (∀ component ∈ components, ∀ component' ∈ components,
    ¬ (component.ns = component'.ns ∧ component.name = component'.name) →
    ∀ order order', histories.Order order → histories.Order order' → ∀ entry, component.taken order = some entry →
      component'.taken order' ≠ some entry) ↔
    ∀ component ∈ components, ∀ component' ∈ components, component'.ns = component.ns →
      component'.name = getNameForHeadlessService component.name → histories.own component' = none := by
  constructor
  · intro honce component hmem component' hmem' hns hname
    by_contra hsome
    obtain ⟨h, hh⟩ := Option.ne_none_iff_exists'.mp hsome
    obtain ⟨service, hentry, hservice, hservicens⟩ := ServiceHistories.get_eq_some.mp hh
    have howns : component.owns service.host = true :=
      Component.owns_iff.mpr ⟨Or.inr (hservice.trans hname), hservicens.trans hns⟩
    have howns' : component'.owns service.host = true := Component.owns_iff.mpr ⟨Or.inl hservice, hservicens⟩
    obtain ⟨order, horder, htaken⟩ := exists_taken.mpr ⟨hentry, howns⟩
    obtain ⟨order', horder', htaken'⟩ := exists_taken.mpr ⟨hentry, howns'⟩
    have hne : component.name ≠ component'.name := by
      rw [hname]
      exact fun heq => absurd (List.self_eq_append_right.mp heq) (by decide)
    exact honce component hmem component' hmem' (fun heq => hne heq.2) order order' horder horder' _ htaken htaken'
  · intro hnone component hmem component' hmem' hne order order' horder horder' entry htaken htaken'
    obtain ⟨hentry, howns⟩ := exists_taken.mp ⟨order, horder, htaken⟩
    obtain ⟨_, howns'⟩ := exists_taken.mp ⟨order', horder', htaken'⟩
    obtain ⟨hname, hns⟩ := Component.owns_iff.mp howns
    obtain ⟨hname', hns'⟩ := Component.owns_iff.mp howns'
    have hsame : component.ns = component'.ns := hns.symm.trans hns'
    have hown {c : Component} (hc : entry.1.name.val = c.name) (hcns : entry.1.ns.val = c.ns) :
        histories.own c ≠ none := by
      have hsome : histories.own c = some entry.2 := ServiceHistories.get_eq_some.mpr ⟨entry.1, hentry, hc, hcns⟩
      rw [hsome]
      exact nofun
    rcases hname with hname | hname
    · rcases hname' with hname' | hname'
      · exact hne ⟨hsame, hname.symm.trans hname'⟩
      · exact hown hname hns (hnone component' hmem' component hmem hsame (hname.symm.trans hname'))
    · rcases hname' with hname' | hname'
      · exact hown hname' hns' (hnone component hmem component' hmem' hsame.symm (hname'.symm.trans hname))
      · exact hne ⟨hsame, List.append_cancel_right (hname.symm.trans hname')⟩

end Entries

/-! ## 5. Sums of one and of two -/

section Sums

variable [AddCancelCommMonoid V] {component : Component} {histories : ServiceHistories V}
  {h h' : IstioMetricHistories V}

theorem sumOf_one : SumOf h [h'] ↔ Same h h' := by
  refine forall₂_congr fun kind _ => forall_congr' fun t => ?_
  rw [List.map_singleton, List.sum_singleton]
  simp only [List.mem_singleton, exists_eq_left]

theorem sumOf_nil : SumOf h [] ↔ Same h .empty := by
  refine forall₂_congr fun kind hkind => forall_congr' fun t => ?_
  rw [kind_empty hkind, total_nil, List.map_nil, List.sum_nil]
  simp only [List.not_mem_nil, false_and, exists_false, times, List.map_nil]

theorem same_refl (h : IstioMetricHistories V) : Same h h := fun _ _ _ => ⟨Iff.rfl, rfl⟩

/-- **Two histories that are each the sum of both** are silent. -/
theorem sumOf_two : SumOf h [h, h'] ∧ SumOf h' [h, h'] ↔ Silent h h' := by
  have hsum (kind : IstioMetricHistories V → MetricHistory V) (t : Int) :
      ([h, h'].map fun h => total (kind h) t).sum = total (kind h) t + total (kind h') t := by
    rw [List.map_cons, List.map_singleton, List.sum_cons, List.sum_singleton]
  constructor
  · intro ⟨hfirst, hsecond⟩ kind hkind t
    obtain ⟨htimes, htotal⟩ := hfirst kind hkind t
    obtain ⟨htimes', htotal'⟩ := hsecond kind hkind t
    rw [hsum] at htotal htotal'
    exact ⟨⟨fun ht => htimes'.mpr ⟨h, List.mem_cons_self, ht⟩,
      fun ht => htimes.mpr ⟨h', List.mem_cons_of_mem _ (List.mem_singleton_self _), ht⟩⟩,
      right_eq_add.mp htotal', left_eq_add.mp htotal⟩
  · intro hsilent
    have hboth (kind : IstioMetricHistories V → MetricHistory V) (hkind : kind ∈ kinds) (t : Int) :
        (t ∈ times (kind h) ↔ ∃ g ∈ [h, h'], t ∈ times (kind g)) ∧
          0 = ([h, h'].map fun h => total (kind h) t).sum := by
      obtain ⟨htimes, hfirst, hsecond⟩ := hsilent kind hkind t
      rw [hsum, hfirst, hsecond, add_zero, List.exists_mem_cons_iff, List.exists_mem_cons_iff, ← htimes]
      simp
    refine ⟨fun kind hkind t => ?_, fun kind hkind t => ?_⟩
    · obtain ⟨_, hfirst, _⟩ := hsilent kind hkind t
      rw [hfirst]
      exact hboth kind hkind t
    · obtain ⟨htimes, _, hsecond⟩ := hsilent kind hkind t
      rw [hsecond, ← htimes]
      exact hboth kind hkind t

/-! ## 6. Attribution -/

/-- **The sum is reported in every order** when the second entry is told right. -/
theorem sum_iff_told : (∀ order, histories.Order order →
    SumOf (component.reported order) (histories.services component)) ↔ Told component histories := by
  refine (forall_reported (P := fun h => SumOf h (histories.services component))).trans ?_
  unfold Told ServiceHistories.services
  have hone (h : IstioMetricHistories V) : SumOf h [h] := sumOf_one.mpr (same_refl h)
  cases hown : histories.own component with
  | none =>
      cases hheadless : component.headless with
      | true =>
          cases histories.headless component with
          | none => simpa using sumOf_nil.mpr (same_refl _)
          | some second => simpa using hone second
      | false =>
          cases histories.headless component with
          | none => simpa using sumOf_nil.mpr (same_refl _)
          | some second => simpa using sumOf_nil
  | some first =>
      cases hheadless : component.headless with
      | true =>
          cases histories.headless component with
          | none => simpa using hone first
          | some second => simpa using sumOf_two
      | false =>
          cases histories.headless component with
          | none => simpa using hone first
          | some second => simpa using and_iff_right_of_imp (fun _ => hone first) |>.trans sumOf_one

/-- **The traffic is attributed** exactly when, for every component, a second entry is told right, and no component
    whose service has an entry has the name of another one's headless service. -/
theorem trafficAttributed_iff (components : List Component) (histories : ServiceHistories V) :
    Attributed components histories ↔ (∀ component ∈ components, Told component histories) ∧
      ∀ component ∈ components, ∀ component' ∈ components, component'.ns = component.ns →
        component'.name = getNameForHeadlessService component.name → histories.own component' = none := by
  constructor
  · intro h
    exact ⟨fun component hmem => sum_iff_told.mp (h.sum component hmem), once_iff.mp h.once⟩
  · intro ⟨htold, hnames⟩
    have hsum : ∀ component ∈ components, ∀ order, histories.Order order →
        SumOf (component.reported order) (histories.services component) :=
      fun component hmem => sum_iff_told.mpr (htold component hmem)
    refine ⟨hsum, fun component hmem order order' horder horder' kind hkind t => ?_, once_iff.mpr hnames⟩
    obtain ⟨htimes, htotal⟩ := hsum component hmem order horder kind hkind t
    obtain ⟨htimes', htotal'⟩ := hsum component hmem order' horder' kind hkind t
    exact ⟨htimes.trans htimes'.symm, htotal.trans htotal'.symm⟩

end Sums

/-! ## 7. A service and its headless service -/

theorem isDNS1123Label_shop : isDNS1123Label (str "shop") = true := by decide

/-- The service `web`, and a service behind it, in the namespace `shop`. -/
def shopService (name : DnsLabel) : Service := ⟨name, ⟨str "shop", isDNS1123Label_shop⟩⟩

/-- Requests in one second. -/
def requests (value : Int) : IstioMetricHistories Int := ⟨[⟨60, value⟩], [], [], [], [], [], [], []⟩

/-- A service with one request a second, and its headless service with two. -/
def shopHistories : ServiceHistories Int where
  entries :=
    [(shopService ⟨str "web", by decide⟩, requests 1), (shopService ⟨str "web-headless", by decide⟩, requests 2)]
  nodup := by decide

/-- **The traffic of a component with a headless service** is that of one of the two. -/
theorem trafficAttributed_fails : ¬ Attributed [⟨str "shop", str "web", true⟩] shopHistories := by
  intro h
  have htold := sum_iff_told.mp (h.sum _ (List.mem_singleton_self _))
  have hsilent := htold (requests 2) (by decide)
  rw [if_pos rfl] at hsilent
  have hzero := (hsilent (requests 1) (by decide) _ List.mem_cons_self 60).2.1
  exact absurd hzero (by decide)

end Kalm.Traffic
