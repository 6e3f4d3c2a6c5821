/-
  File:      Kalm/Operator/Manifests.lean
  Subject:   THE MANIFESTS OF THE OPERATOR: `SeparateYamlBytes` (operator/utils/utils.go) takes a stream of documents
             apart, `applyFromYaml` (operator/controllers/kalmoperatorconfig_controller.go) brings them to the cluster.

  * `Document`, `YamlDecodes` -- a document is decoded into the map of the documents in front of it;
  * `separateYamlBytes`, `separatesExactly_iff` -- the texts are the objects of the stream exactly when every document
    is a mapping with all keys of the one in front of it;
  * `applyFromYaml`, `serve` -- an object is created, or merged into the one that is stored;
  * `converges` -- whatever fails, in however many runs: a run that returns leaves what one run alone would leave.

  A text stands for the map that is written into it, `V` for the values below a key.
-/
import Kalm.Go.Strings
import Kalm.Lib.Histories
import Kalm.Lib.MergePatch
import Mathlib.Data.Finmap

namespace Kalm.Manifests

open Calls (Action Fault Outcome Holds)
open MergePatch (Json overlay overlays)

/-! ## 1. Streams -/

/-- The keys of a document with their values. -/
abbrev Mapping (V : Type) := Finmap fun _ : Str => V

/-- A document of a stream: nothing, a mapping, or what is not decoded into a map. -/
inductive Document (V : Type) where
  | empty
  | mapping (entries : Mapping V)
  | malformed

/-- `Decode` of the yaml library, into a map that may be nil: the map behind it, or an error. -/
abbrev DecodeInto (V : Type) := Option (Mapping V) → Document V → Option (Option (Mapping V))

variable {V : Type}

/-- **What the yaml library says of `Decode`**: the keys of a mapping are set in the map that is there, an empty
    document makes the map nil, and anything else is an error. -/
structure YamlDecodes (decodeInto : DecodeInto V) : Prop where
  empty : ∀ tmp, decodeInto tmp .empty = some none
  mapping : ∀ tmp entries, decodeInto tmp (.mapping entries) = some (some (entries ∪ tmp.getD ∅))
  malformed : ∀ tmp, decodeInto tmp .malformed = none

section Streams

variable (decodeInto : DecodeInto V)

/-- The loop of `SeparateYamlBytes`. A nil map is written as an empty one. -/
def separateFrom (tmp : Option (Mapping V)) : List (Document V) → List (Mapping V)
  | [] => []
  | document :: documents =>
    match decodeInto tmp document with
    | none => []
    | some tmp' => tmp'.getD ∅ :: separateFrom tmp' documents

/-- `SeparateYamlBytes` -/
def separateYamlBytes (documents : List (Document V)) : List (Mapping V) := separateFrom decodeInto none documents

/-- What a stream says: its objects, unless a document is malformed. -/
def objectsOf : List (Document V) → Option (List (Mapping V))
  | [] => some []
  | .empty :: documents => objectsOf documents
  | .mapping entries :: documents => (objectsOf documents).map (entries :: ·)
  | .malformed :: _ => none

/-- **The texts are the objects of the stream.** -/
def SeparatesExactly (documents : List (Document V)) : Prop :=
  objectsOf documents = some (separateYamlBytes decodeInto documents)

end Streams

/-- Each mapping has all keys of the one in front of it. -/
def Growing (mappings : List (Mapping V)) : Prop := mappings.IsChain fun a b => a.keys ⊆ b.keys

variable {decodeInto : DecodeInto V} {documents : List (Document V)} {mappings : List (Mapping V)}

/-! ## 2. What a text has -/

theorem lookup_union (a b : Mapping V) (k : Str) : (a ∪ b).lookup k = (a.lookup k).or (b.lookup k) := by
  by_cases h : k ∈ a
  · obtain ⟨v, hv⟩ := Option.isSome_iff_exists.mp (Finmap.lookup_isSome.mpr h)
    rw [Finmap.lookup_union_left h, hv]
    rfl
  · rw [Finmap.lookup_union_right h, Finmap.lookup_eq_none.mpr h]
    rfl

theorem separateFrom_mapping (hyaml : YamlDecodes decodeInto) (tmp : Option (Mapping V)) (m : Mapping V)
    (documents : List (Document V)) : separateFrom decodeInto tmp (.mapping m :: documents) =
      (m ∪ tmp.getD ∅) :: separateFrom decodeInto (some (m ∪ tmp.getD ∅)) documents := by
  rw [separateFrom, hyaml.mapping]
  rfl

/-- Where nothing is added, nothing is there that was not. -/
theorem union_eq_left_iff {a b : Mapping V} : a ∪ b = a ↔ b.keys ⊆ a.keys := by
  constructor
  · intro h
    rw [← Finset.union_eq_left, ← Finmap.keys_union, h]
  · intro h
    refine Finmap.ext_lookup fun k => ?_
    rw [lookup_union]
    cases ha : a.lookup k with
    | some v => rfl
    | none =>
        have hb : k ∉ b := fun hb => Finmap.lookup_eq_none.mp ha (Finmap.mem_keys.mp (h (Finmap.mem_keys.mpr hb)))
        rw [Finmap.lookup_eq_none.mpr hb]
        rfl

/-- Mappings are taken apart exactly when each has all keys of the one in front of it. -/
theorem separateFrom_eq_iff (hyaml : YamlDecodes decodeInto) (m : Mapping V) (mappings : List (Mapping V)) :
    separateFrom decodeInto (some m) (mappings.map .mapping) = mappings ↔ Growing (m :: mappings) := by
  induction mappings generalizing m with
  | nil => exact iff_of_true rfl (List.isChain_singleton m)
  | cons m' mappings ih =>
      rw [List.map_cons, separateFrom_mapping hyaml, Option.getD_some, List.cons.injEq, Growing,
        List.isChain_cons_cons, union_eq_left_iff]
      refine and_congr_right fun hkeys => ?_
      rw [union_eq_left_iff.mpr hkeys]
      exact ih m'

theorem objectsOf_mapping (mappings : List (Mapping V)) : objectsOf (mappings.map .mapping) = some mappings := by
  induction mappings with
  | nil => rfl
  | cons m mappings ih => rw [List.map_cons, objectsOf, ih]; rfl

/-- A stream has as many texts as documents, and an object for each mapping. -/
theorem length_le_of_objectsOf (hyaml : YamlDecodes decodeInto) (h : objectsOf documents = some mappings)
    (tmp : Option (Mapping V)) : (separateFrom decodeInto tmp documents).length = documents.length ∧
      mappings.length ≤ documents.length ∧
      (mappings.length = documents.length → documents = mappings.map .mapping) := by
  induction documents generalizing mappings tmp with
  | nil =>
      cases h
      exact ⟨rfl, le_rfl, fun _ => rfl⟩
  | cons document documents ih =>
      cases document with
      | malformed => cases h
      | empty =>
          obtain ⟨hlength, hle, _⟩ := ih h none
          rw [separateFrom, hyaml.empty]
          refine ⟨congrArg (· + 1) hlength, hle.trans (Nat.le_succ _), fun heq => ?_⟩
          rw [List.length_cons] at heq
          omega
      | mapping entries =>
          obtain ⟨rest, hrest, rfl⟩ := Option.map_eq_some_iff.mp h
          obtain ⟨hlength, hle, hall⟩ := ih hrest (some (entries ∪ tmp.getD ∅))
          rw [separateFrom_mapping hyaml]
          refine ⟨congrArg (· + 1) hlength, Nat.succ_le_succ hle, fun heq => ?_⟩
          exact congrArg _ (hall (Nat.succ.inj heq))

/-- Mappings are taken apart exactly when they grow. -/
theorem separateYamlBytes_eq_iff (hyaml : YamlDecodes decodeInto) (mappings : List (Mapping V)) :
    separateYamlBytes decodeInto (mappings.map .mapping) = mappings ↔ Growing mappings := by
  cases mappings with
  | nil => exact iff_of_true rfl List.isChain_nil
  | cons m mappings =>
      rw [separateYamlBytes, List.map_cons, separateFrom_mapping hyaml, Option.getD_none, Finmap.union_empty,
        List.cons.injEq, eq_self_iff_true, true_and, separateFrom_eq_iff hyaml]

/-- **A stream is taken apart exactly** when every document is a mapping, with all keys of the one in front of it. -/
theorem separatesExactly_iff (hyaml : YamlDecodes decodeInto) (documents : List (Document V)) :
    SeparatesExactly decodeInto documents ↔ ∃ mappings, documents = mappings.map .mapping ∧ Growing mappings := by
  constructor
  · intro h
    obtain ⟨hlength, _, hall⟩ := length_le_of_objectsOf hyaml h none
    have hdocuments := hall hlength
    refine ⟨separateYamlBytes decodeInto documents, hdocuments, ?_⟩
    rw [← separateYamlBytes_eq_iff hyaml, ← hdocuments]
  · rintro ⟨mappings, rfl, hgrowing⟩
    rw [SeparatesExactly, objectsOf_mapping, (separateYamlBytes_eq_iff hyaml mappings).mpr hgrowing]

/-- A decoder that does what the library says. -/
def plainDecode : DecodeInto V
  | _, .empty => some none
  | tmp, .mapping entries => some (some (entries ∪ tmp.getD ∅))
  | _, .malformed => none

theorem yamlDecodes_plainDecode : YamlDecodes (V := V) plainDecode := ⟨fun _ => rfl, fun _ _ => rfl, fun _ => rfl⟩

/-- A namespace, which has no `spec`. -/
def namespaceObject : Mapping Str := (∅ : Mapping Str).insert (str "kind") (str "Namespace")

/-- A service. -/
def serviceObject : Mapping Str :=
  ((∅ : Mapping Str).insert (str "kind") (str "Service")).insert (str "spec") (str "{ports: [80]}")

/-- A service behind a namespace is taken apart; a namespace behind a service is given its `spec`. -/
theorem separatesExactly_service :
    SeparatesExactly plainDecode [.mapping namespaceObject, .mapping serviceObject] ∧
      ¬ SeparatesExactly plainDecode [.mapping serviceObject, .mapping namespaceObject] := by
  constructor
  · refine (separatesExactly_iff yamlDecodes_plainDecode _).mpr ⟨[namespaceObject, serviceObject], rfl, ?_⟩
    exact List.isChain_pair.mpr (by decide)
  · rw [separatesExactly_iff yamlDecodes_plainDecode]
    rintro ⟨mappings, hdocuments, hgrowing⟩
    obtain rfl : [serviceObject, namespaceObject] = mappings :=
      List.map_injective_iff.mpr (fun _ _ => Document.mapping.inj) hdocuments
    exact absurd (List.isChain_pair.mp hgrowing) (by decide)

/-! ## 3. `applyFromYaml` -/

/-- Its API calls: `K` are the keys of objects, with their kinds. -/
inductive Call (K F L : Type) where
  | get (key : K)
  | create (key : K) (object : Json F L)
  | patch (key : K) (object : Json F L)

variable {K F L E : Type}

/-- A get answers with the object, if there is one. -/
abbrev Answer : Call K F L → Type
  | .get _ => Option (Json F L)
  | _ => Unit

/-- A program of the operator. -/
abbrev Program (K F L E α : Type) := Action (Call K F L) Answer E α

/-- The scheme decodes a text: the object with its key, or an error. -/
abbrev Decode (V K F L E : Type) := Mapping V → Except E (K × Json F L)

/-- An object is created, or merged into what is there. -/
def applyObject (key : K) (object : Json F L) : Program K F L E Unit :=
  Action.invoke (.get key) >>= fun (fetchedObj : Option (Json F L)) =>
    match fetchedObj with
    | none => Action.invoke (Call.create key object)
    | some _ => Action.invoke (Call.patch key object)

/-- The loop of `applyFromYaml`. -/
def applyTexts (decode : Decode V K F L E) : List (Mapping V) → Program K F L E Unit
  | [] => .done ()
  | text :: texts =>
    match decode text with
    | .error e => .fail e
    | .ok (key, object) => applyObject key object >>= fun _ => applyTexts decode texts

/-- `applyFromYaml` -/
def applyFromYaml (decodeInto : DecodeInto V) (decode : Decode V K F L E) (documents : List (Document V)) :
    Program K F L E Unit :=
  applyTexts decode (separateYamlBytes decodeInto documents)

/-- The objects of a cluster. -/
abbrev Cluster (K F L : Type) := K → Option (Json F L)

/-- The errors of the API server; a call that fails otherwise fails with `failure`. -/
structure ApiErrors (E : Type) where
  alreadyExists : E
  notFound : E
  failure : E

/-- What the cluster answers to a call, and what it stores. -/
def serve [DecidableEq K] [DecidableEq F] (errors : ApiErrors E) :
    (c : Call K F L) → Cluster K F L → Except E (Answer c) × Cluster K F L
  | .get key, s => (.ok (s key), s)
  | .create key object, s =>
    match s key with
    | none => (.ok (), Function.update s key (some object))
    | some _ => (.error errors.alreadyExists, s)
  | .patch key object, s =>
    match s key with
    | none => (.error errors.notFound, s)
    | some stored => (.ok (), Function.update s key (overlay object (some stored)))

/-- The objects in front of the first text that is not decoded. -/
def objectsRead (decode : Decode V K F L E) : List (Mapping V) → List (K × Json F L)
  | [] => []
  | text :: texts =>
    match decode text with
    | .error _ => []
    | .ok o => o :: objectsRead decode texts

/-- Every text is decoded. -/
def AllRead (decode : Decode V K F L E) (texts : List (Mapping V)) : Prop := ∀ text ∈ texts, ∃ o, decode text = .ok o

/-! ## 4. What is sent -/

section Sent

variable {decode : Decode V K F L E} {key : K} {object : Json F L} {texts : List (Mapping V)}
  {h h' : List (Calls.Performed (Call K F L) Answer E)}

/-- An object was created, or merged into what was there. -/
def Sent (h : List (Calls.Performed (Call K F L) Answer E)) (o : K × Json F L) : Prop :=
  (⟨.get o.1, .ok none⟩ ∈ h ∧ ⟨.create o.1 o.2, .ok ()⟩ ∈ h) ∨
    ∃ stored, ⟨.get o.1, .ok (some stored)⟩ ∈ h ∧ ⟨.patch o.1 o.2, .ok ()⟩ ∈ h

theorem Sent.mono {o : K × Json F L} (hsent : Sent h o)
    (hsub : h ⊆ h') : Sent h' o := by
  rcases hsent with ⟨hget, hcreate⟩ | ⟨stored, hget, hpatch⟩
  · exact Or.inl ⟨hsub hget, hsub hcreate⟩
  · exact Or.inr ⟨stored, hsub hget, hsub hpatch⟩

theorem sent_of_applyObject (ht : Calls.Traces (applyObject key object) h (.returned ())) :
    Sent h (key, object) := by
  obtain ⟨found, rest, rfl, hwrite⟩ := Calls.traces_invoke_returned.mp ht
  cases found with
  | none =>
      obtain rfl := Calls.traces_last.mp hwrite
      exact Or.inl ⟨List.mem_cons_self, List.mem_cons_of_mem _ List.mem_cons_self⟩
  | some stored =>
      obtain rfl := Calls.traces_last.mp hwrite
      exact Or.inr ⟨stored, List.mem_cons_self, List.mem_cons_of_mem _ List.mem_cons_self⟩

/-- **What returns has sent every object**, however its calls were answered. -/
theorem sent_of_applyTexts (ht : Calls.Traces (applyTexts decode texts) h (.returned ())) :
    AllRead decode texts ∧ ∀ o ∈ objectsRead decode texts, Sent h o := by
  induction texts generalizing h with
  | nil => exact ⟨fun _ htext => absurd htext List.not_mem_nil, fun _ ho => absurd ho List.not_mem_nil⟩
  | cons text texts ih =>
      rw [applyTexts] at ht
      rw [objectsRead]
      cases hread : decode text with
      | error e =>
          rw [hread] at ht
          cases ht.2
      | ok o =>
          rw [hread] at ht
          obtain ⟨_, h₁, h₂, rfl, hfirst, hrest⟩ := Calls.traces_bind_returned.mp ht
          obtain ⟨hall, hsent⟩ := ih hrest
          refine ⟨List.forall_mem_cons.mpr ⟨⟨o, hread⟩, hall⟩, List.forall_mem_cons.mpr ⟨?_, fun o' ho' => ?_⟩⟩
          · exact (sent_of_applyObject hfirst).mono (List.subset_append_left _ _)
          · exact (hsent o' ho').mono (List.subset_append_right _ _)

end Sent

section Runs

variable [DecidableEq K] [DecidableEq F]

/-- **Objects are brought to a cluster**: each lies over what is stored under its key. -/
def brought (objects : List (K × Json F L)) (s : Cluster K F L) : Cluster K F L :=
  fun key => overlays ((objects.filter fun o => o.1 = key).map Prod.snd) (s key)

variable (errors : ApiErrors E) (decodeInto : DecodeInto V) (decode : Decode V K F L E)

/-- A run of `applyFromYaml`. -/
def runApply (documents : List (Document V)) (faults : List Fault) (s : Cluster K F L) :
    Outcome E Unit × Cluster K F L :=
  Calls.run (serve errors) errors.failure (applyFromYaml decodeInto decode documents) faults s

/-- What runs leave, one after the other. -/
def afterRuns (documents : List (Document V)) (attempts : List (List Fault)) (s : Cluster K F L) : Cluster K F L :=
  attempts.foldl (fun s faults => (runApply errors decodeInto decode documents faults s).2) s

variable {errors decodeInto decode} {s : Cluster K F L} {key : K} {object : Json F L}
  {objects front : List (K × Json F L)} {texts : List (Mapping V)}

/-! ## 5. Runs -/

theorem brought_cons (key : K) (object : Json F L) (objects : List (K × Json F L)) (s : Cluster K F L) :
    brought ((key, object) :: objects) s = brought objects (Function.update s key (overlay object (s key))) := by
  funext k
  rw [brought, brought]
  by_cases h : key = k
  · subst h
    rw [List.filter_cons_of_pos (by simp), List.map_cons, MergePatch.overlays_cons, Function.update_self]
  · rw [List.filter_cons_of_neg (by simpa using h), Function.update_of_ne (Ne.symm h)]

/-- What is cut short and done again is done. -/
theorem brought_front (h : front <+: objects) (s : Cluster K F L) :
    brought objects (brought front s) = brought objects s := by
  funext key
  exact MergePatch.overlays_front ((h.filter fun o => decide (o.1 = key)).map Prod.snd) (s key)

theorem serve_create (h : s key = none) :
    serve errors (.create key object) s = (.ok (), brought [(key, object)] s) := by
  rw [brought_cons, h, MergePatch.overlay_none, serve, h]
  rfl

theorem serve_patch {stored : Json F L} (h : s key = some stored) :
    serve errors (.patch key object) s = (.ok (), brought [(key, object)] s) := by
  rw [brought_cons, serve, h]
  rfl

/-- **One object**: it is brought, or nothing happens; and it is brought when the program returns. -/
theorem holds_applyObject (key : K) (object : Json F L) (s : Cluster K F L) :
    Holds (serve errors) errors.failure (applyObject key object) s fun o s' =>
      s' = brought [(key, object)] s ∨ s' = s ∧ o ≠ .returned () := by
  rw [applyObject, Calls.holds_bind, Calls.holds_invoke_ok (v := s key) (t := s) rfl]
  refine ⟨?_, Or.inr ⟨rfl, nofun⟩, Or.inr ⟨rfl, nofun⟩⟩
  dsimp only
  cases hs : s key with
  | none => exact (Calls.holds_invoke_ok (serve_create hs)).mpr ⟨Or.inl rfl, Or.inr ⟨rfl, nofun⟩, Or.inl rfl⟩
  | some stored => exact (Calls.holds_invoke_ok (serve_patch hs)).mpr ⟨Or.inl rfl, Or.inr ⟨rfl, nofun⟩, Or.inl rfl⟩

theorem returns_applyObject (key : K) (object : Json F L) (s : Cluster K F L) :
    Calls.Returns (serve errors) errors.failure (applyObject key object) s fun _ _ => True := by
  rw [applyObject, Calls.returns_bind, Calls.returns_invoke_ok (v := s key) (t := s) rfl]
  cases hs : s key with
  | none => exact (Calls.returns_invoke_ok (serve_create hs)).mpr trivial
  | some stored => exact (Calls.returns_invoke_ok (serve_patch hs)).mpr trivial

/-- **One run**: the objects up to some point are brought; all of them are, when it returns. -/
theorem holds_applyTexts (texts : List (Mapping V)) (s : Cluster K F L) :
    Holds (serve errors) errors.failure (applyTexts decode texts) s fun o s' =>
      ∃ front, front <+: objectsRead decode texts ∧ s' = brought front s ∧
        (o = .returned () → front = objectsRead decode texts ∧ AllRead decode texts) := by
  induction texts generalizing s with
  | nil => exact Calls.holds_done.mpr ⟨[], List.prefix_rfl, rfl, fun _ => ⟨rfl, fun _ h => nomatch h⟩⟩
  | cons text texts ih =>
      rw [applyTexts, objectsRead]
      cases hread : decode text with
      | error e => exact Calls.holds_fail.mpr ⟨[], List.prefix_rfl, rfl, nofun⟩
      | ok o =>
          obtain ⟨key, object⟩ := o
          rw [Calls.holds_bind]
          refine (holds_applyObject key object s).mono fun outcome s' hs' => ?_
          cases outcome with
          | returned u =>
              obtain rfl := hs'.resolve_right fun h => h.2 rfl
              refine (ih _).mono fun outcome s'' hs'' => ?_
              obtain ⟨front, hfront, rfl, hall⟩ := hs''
              refine ⟨(key, object) :: front, List.cons_prefix_cons.mpr ⟨rfl, hfront⟩, ?_, fun ho => ?_⟩
              · rw [brought_cons, brought_cons]
                rfl
              · obtain ⟨rfl, hrest⟩ := hall ho
                exact ⟨rfl, List.forall_mem_cons.mpr ⟨⟨_, hread⟩, hrest⟩⟩
          | failed e =>
              rcases hs' with rfl | ⟨rfl, _⟩
              · exact ⟨[(key, object)], List.cons_prefix_cons.mpr ⟨rfl, List.nil_prefix⟩, rfl, nofun⟩
              · exact ⟨[], List.nil_prefix, rfl, nofun⟩
          | crashed =>
              rcases hs' with rfl | ⟨rfl, _⟩
              · exact ⟨[(key, object)], List.cons_prefix_cons.mpr ⟨rfl, List.nil_prefix⟩, rfl, nofun⟩
              · exact ⟨[], List.nil_prefix, rfl, nofun⟩

/-- Where every text is decoded, the run in which nothing fails returns. -/
theorem returns_applyTexts (hread : AllRead decode texts) (s : Cluster K F L) :
    Calls.Returns (serve errors) errors.failure (applyTexts decode texts) s fun _ _ => True := by
  induction texts generalizing s with
  | nil => exact Calls.returns_done.mpr trivial
  | cons text texts ih =>
      obtain ⟨⟨⟨key, object⟩, ho⟩, hrest⟩ := List.forall_mem_cons.mp hread
      rw [applyTexts, ho]
      exact Calls.returns_bind.mpr ((returns_applyObject key object s).mono fun _ s' _ => ih hrest s')

/-- **One run of `applyFromYaml`.** -/
theorem exists_runApply (errors : ApiErrors E) (documents : List (Document V)) (faults : List Fault)
    (s : Cluster K F L) : ∃ front, front <+: objectsRead decode (separateYamlBytes decodeInto documents) ∧
      (runApply errors decodeInto decode documents faults s).2 = brought front s ∧
        ((runApply errors decodeInto decode documents faults s).1 = .returned () →
          front = objectsRead decode (separateYamlBytes decodeInto documents) ∧
            AllRead decode (separateYamlBytes decodeInto documents)) :=
  holds_applyTexts (separateYamlBytes decodeInto documents) s faults

theorem afterRuns_cons (documents : List (Document V)) (faults : List Fault) (attempts : List (List Fault))
    (s : Cluster K F L) : afterRuns errors decodeInto decode documents (faults :: attempts) s =
      afterRuns errors decodeInto decode documents attempts
        (runApply errors decodeInto decode documents faults s).2 := rfl

/-- **Runs leave nothing to undo**: the objects brought behind them are those brought at the start. -/
theorem brought_afterRuns (documents : List (Document V)) (attempts : List (List Fault)) (s : Cluster K F L) :
    brought (objectsRead decode (separateYamlBytes decodeInto documents))
        (afterRuns errors decodeInto decode documents attempts s) =
      brought (objectsRead decode (separateYamlBytes decodeInto documents)) s := by
  induction attempts generalizing s with
  | nil => rfl
  | cons faults attempts ih =>
      obtain ⟨front, hfront, hs', _⟩ := exists_runApply errors documents faults s
      rw [afterRuns_cons, ih, hs', brought_front hfront]

/-- An object that is not named stays. -/
theorem afterRuns_of_not_named {documents : List (Document V)}
    (hkey : ∀ o ∈ objectsRead decode (separateYamlBytes decodeInto documents), o.1 ≠ key) (attempts : List (List Fault))
    (s : Cluster K F L) : afterRuns errors decodeInto decode documents attempts s key = s key := by
  induction attempts generalizing s with
  | nil => rfl
  | cons faults attempts ih =>
      obtain ⟨front, hfront, hs', _⟩ := exists_runApply errors documents faults s
      have hnone : (front.filter fun o => decide (o.1 = key)) = [] :=
        List.filter_eq_nil_iff.mpr fun o ho => by simpa using hkey o (hfront.subset ho)
      rw [afterRuns_cons, ih, hs', brought, hnone]
      rfl

/-- **The manifests converge**: whatever fails, in however many runs, a run that returns leaves what one run alone
    would leave of the cluster, and every text is decoded then; what no object names stays; and where every text is
    decoded, the next run in which nothing fails returns. -/
theorem converges (errors : ApiErrors E) (decodeInto : DecodeInto V) (decode : Decode V K F L E)
    (documents : List (Document V)) (attempts : List (List Fault)) (s : Cluster K F L) :
    (∀ faults,
      (runApply errors decodeInto decode documents faults
          (afterRuns errors decodeInto decode documents attempts s)).1 = .returned () →
        (runApply errors decodeInto decode documents faults
            (afterRuns errors decodeInto decode documents attempts s)).2 =
            brought (objectsRead decode (separateYamlBytes decodeInto documents)) s ∧
          AllRead decode (separateYamlBytes decodeInto documents)) ∧
    (∀ key, (∀ o ∈ objectsRead decode (separateYamlBytes decodeInto documents), o.1 ≠ key) →
      afterRuns errors decodeInto decode documents attempts s key = s key) ∧
    (AllRead decode (separateYamlBytes decodeInto documents) →
      (runApply errors decodeInto decode documents []
        (afterRuns errors decodeInto decode documents attempts s)).1 = .returned ()) := by
  refine ⟨fun faults ho => ?_, fun key hkey => afterRuns_of_not_named hkey attempts s, fun hread => ?_⟩
  · obtain ⟨front, _, hs', hall⟩ := exists_runApply errors documents faults
      (afterRuns errors decodeInto decode documents attempts s)
    obtain ⟨rfl, hread⟩ := hall ho
    exact ⟨hs'.trans (brought_afterRuns documents attempts s), hread⟩
  · obtain ⟨u, s', hrun, _⟩ := returns_applyTexts hread (afterRuns errors decodeInto decode documents attempts s)
    exact congrArg Prod.fst hrun

end Runs

end Kalm.Manifests
