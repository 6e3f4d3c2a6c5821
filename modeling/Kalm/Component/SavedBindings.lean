/-
  File:      Kalm/Component/SavedBindings.lean
  Subject:   WHAT A SAVE LEAVES OF THE BINDINGS: `UpdateComponentPluginBindingsForObject` of
             api/resources/component_plugin_binding.go lists the bindings of a component in every namespace, and
             creates and deletes in one.

  * `SavedExactly` -- the bindings of the component in its namespace are the requested ones, and nothing else changed;
  * `Apart` -- the listed names are those of bindings of this namespace, and what is created is free;
  * `saves_exactly_iff` -- **the update leaves exactly the requested bindings** where it is so, and nowhere else.
-/
import Kalm.Component.Saves

namespace Kalm

open Calls (Holds Returns)

section

variable (srv : ApiServer) (md5 : ComponentPluginBindingSpec → List UInt8) (ns name : Str)
  (plugins : List ComponentPluginBinding)

/-- **The update left exactly the requested bindings**: what has the label of the component neither before nor behind
    it is untouched, and so are the other kinds. -/
structure SavedExactly (s s' : Cluster) : Prop where
  requested : BindingsAsRequested srv md5 ns name plugins s'
  frame : ∀ key, ¬ (key.1 = ns ∧ (Labelled name key s ∨ Labelled name key s')) →
    s'.get .componentPluginBinding key = s.get .componentPluginBinding key
  others : ∀ k, k ≠ .componentPluginBinding → s'.objects k = s.objects k

/-- A binding of a name has the label of the component, in some namespace. -/
def SomewhereLabelled (n : Str) (s : Cluster) : Prop := ∃ ns', Labelled name (ns', n) s

/-- **No name of another namespace is in the way**: a requested name that is listed is already here as requested, one
    that is not listed is free and admitted, and any other listed name is one of a binding of the component here. -/
structure Apart (seed : Seed) (s : Cluster) : Prop where
  listed : ∀ n np, (newPlugins md5 name plugins).lookup n = some np → SomewhereLabelled name n s →
    BindingAsRequested srv name (ns, n) np s
  free : ∀ n np, (newPlugins md5 name plugins).lookup n = some np → ¬ SomewhereLabelled name n s →
    s.get .componentPluginBinding (ns, n) = none ∧ (srv.admits seed .componentPluginBinding (ns, n) none np).isSome
  own : ∀ n, (newPlugins md5 name plugins).lookup n = none → SomewhereLabelled name n s → Labelled name (ns, n) s

end

variable {srv : ApiServer} {md5 : ComponentPluginBindingSpec → List UInt8} {ns name : Str}
  {plugins : List ComponentPluginBinding} {x : Chance} {s : Cluster}

theorem mem_oldPlugins_iff {n : Str} : n ∈ oldPlugins s name ↔ SomewhereLabelled name n s := mem_oldPlugins

/-- In another namespace nothing is created or removed. -/
theorem get_bindingsAfter_of_ne {key : NamespacedName} (h : key.1 ≠ ns) :
    (bindingsAfter md5 x plugins srv ns name s).get .componentPluginBinding key =
      s.get .componentPluginBinding key := by
  rw [bindingsAfter, get_removed, if_neg fun hmem => h hmem.1]
  exact get_created_of_notMem fun e _ hkey => h (congrArg Prod.fst hkey)

theorem savedExactly_of_apart (h : Apart srv md5 ns name plugins x.seed s) :
    SavedExactly srv md5 ns name plugins s (bindingsAfter md5 x plugins srv ns name s) := by
  have hrequested {n : Str} {np : Doc} (hn : (newPlugins md5 name plugins).lookup n = some np) :
      BindingAsRequested srv name (ns, n) np (bindingsAfter md5 x plugins srv ns name s) := by
    have hafter : (bindingsAfter md5 x plugins srv ns name s).get .componentPluginBinding (ns, n) =
        if n ∈ oldPlugins s name then s.get .componentPluginBinding (ns, n)
        else (s.get .componentPluginBinding (ns, n)).or
          (srv.admits x.seed .componentPluginBinding (ns, n) none np) := get_bindingsAfter_of_some hn
    by_cases hold : n ∈ oldPlugins s name
    · rw [if_pos hold] at hafter
      exact (BindingAsRequested.congr hafter).mpr (h.listed n np hn (mem_oldPlugins_iff.mp hold))
    · obtain ⟨hnone, hadmits⟩ := h.free n np hn fun hl => hold (mem_oldPlugins_iff.mpr hl)
      obtain ⟨stored, ha⟩ := Option.isSome_iff_exists.mp hadmits
      rw [if_neg hold, hnone, Option.none_or, ha] at hafter
      exact bindingAsRequested_of_admits hn ha hafter
  have hunrequested {n : Str} (hn : (newPlugins md5 name plugins).lookup n = none) :
      (bindingsAfter md5 x plugins srv ns name s).get .componentPluginBinding (ns, n) =
        if n ∈ oldPlugins s name then none else s.get .componentPluginBinding (ns, n) :=
    get_bindingsAfter_of_none hn
  refine ⟨⟨fun n np hn => hrequested hn, fun n hn ⟨obj, hobj, hlabel⟩ => ?_⟩, ?_,
    fun k hk => bindingsAfter_objects hk⟩
  · rw [hunrequested hn] at hobj
    split at hobj
    · cases hobj
    · rename_i hold
      exact hold (mem_oldPlugins.mpr ⟨ns, obj, hobj, hlabel⟩)
  · rintro ⟨ns', n⟩ hkey
    by_cases hns : ns' = ns
    · subst hns
      have hneither : ¬ (Labelled name (ns', n) s ∨ Labelled name (ns', n) _) := fun hl => hkey ⟨rfl, hl⟩
      cases hn : (newPlugins md5 name plugins).lookup n with
      | some np => exact absurd (Or.inr (hrequested hn).1) hneither
      | none =>
          rw [hunrequested hn, if_neg]
          exact fun hold => hneither (Or.inl (h.own n hn (mem_oldPlugins_iff.mp hold)))
    · exact get_bindingsAfter_of_ne hns

theorem apart_of_savedExactly
    (hadmits : ∀ n np, (newPlugins md5 name plugins).lookup n = some np → n ∉ oldPlugins s name →
      (srv.admits x.seed .componentPluginBinding (ns, n) none np).isSome)
    (hthere : ∀ n ∈ oldPlugins s name, (newPlugins md5 name plugins).lookup n = none →
      (s.get .componentPluginBinding (ns, n)).isSome)
    (h : SavedExactly srv md5 ns name plugins s (bindingsAfter md5 x plugins srv ns name s)) :
    Apart srv md5 ns name plugins x.seed s := by
  refine ⟨fun n np hn hl => ?_, fun n np hn hl => ?_, fun n hn hl => ?_⟩
  · refine (BindingAsRequested.congr ?_).mp (h.requested.1 n np hn)
    rw [get_bindingsAfter_of_some hn, if_pos (mem_oldPlugins_iff.mpr hl)]
  · have hold : n ∉ oldPlugins s name := fun hmem => hl (mem_oldPlugins_iff.mp hmem)
    refine ⟨?_, hadmits n np hn hold⟩
    cases hobj : s.get .componentPluginBinding (ns, n) with
    | none => rfl
    | some obj =>
        -- what is there is left as it is, and has to have the label
        obtain ⟨⟨stored, hstored, hlabel⟩, -⟩ := h.requested.1 n np hn
        rw [get_bindingsAfter_of_some hn, if_neg hold, hobj, Option.some_or] at hstored
        cases hstored
        exact absurd ⟨ns, obj, hobj, hlabel⟩ hl
  · have hold : n ∈ oldPlugins s name := mem_oldPlugins_iff.mpr hl
    have hgone : (bindingsAfter md5 x plugins srv ns name s).get .componentPluginBinding (ns, n) = none := by
      rw [get_bindingsAfter_of_none hn, if_pos hold]
    by_contra hnot
    have hsame := h.frame (ns, n) fun ⟨_, hor⟩ => hor.elim hnot fun ⟨obj, hobj, _⟩ => by
      rw [hgone] at hobj
      cases hobj
    have hsome := hthere n hold hn
    rw [← hsame, hgone] at hsome
    cases hsome

theorem returns_exactly_iff : Returns (srv.answer x.seed) .unavailable
      (updateComponentPluginBindingsForObject md5 x ns name plugins) s
      (fun _ s' => SavedExactly srv md5 ns name plugins s s') ↔
    isValidLabelValue name = true ∧ Apart srv md5 ns name plugins x.seed s := by
  rw [returns_bindings]
  refine and_congr_right fun _ => ⟨fun ⟨hadmits, hthere, h⟩ => apart_of_savedExactly hadmits hthere h,
    fun h => ?_⟩
  refine ⟨fun n np hn hold => ?_, fun n hold hn => ?_, savedExactly_of_apart h⟩
  · exact (h.free n np hn fun hl => hold (mem_oldPlugins_iff.mpr hl)).2
  · obtain ⟨obj, hobj, _⟩ := h.own n hn (mem_oldPlugins_iff.mp hold)
    rw [hobj]
    rfl

/-- **The update can return, and a run that returns has left exactly the requested bindings**, whatever calls fail, if
    and only if the name is a label value and no name of another namespace is in the way. -/
theorem saves_exactly_iff (srv : ApiServer) (md5 : ComponentPluginBindingSpec → List UInt8) (x : Chance)
    (ns name : Str) (plugins : List ComponentPluginBinding) (s : Cluster) :
    (Returns (srv.answer x.seed) .unavailable (updateComponentPluginBindingsForObject md5 x ns name plugins) s
        fun _ _ => True) ∧
      Holds (srv.answer x.seed) .unavailable (updateComponentPluginBindingsForObject md5 x ns name plugins) s
        (fun o s' => o = .returned () → SavedExactly srv md5 ns name plugins s s') ↔
      isValidLabelValue name = true ∧ Apart srv md5 ns name plugins x.seed s := by
  rw [← returns_exactly_iff]
  constructor
  · rintro ⟨⟨u, t, hrun, -⟩, hholds⟩
    refine ⟨u, t, hrun, ?_⟩
    have hleft := hholds []
    rw [hrun] at hleft
    exact hleft rfl
  · intro h
    refine ⟨h.mono fun _ _ _ => trivial, ?_⟩
    refine ((strict_bindings md5 x ns name plugins).holds h).mono fun o t ho hreturned => ?_
    rcases ho with ⟨e, rfl⟩ | ⟨u, -, hexactly⟩
    · cases hreturned
    · exact hexactly

end Kalm
