/-
  File:      Kalm/Volumes/InUse.lean
  Subject:   CLAIMS THAT PODS USE: which answers of the API server make `reconcilePVForReUse` and
             `handleDeletePVC` delete a claim.

  * `traces_reconcilePVForReUse`, `traces_handleDeletePVC` -- the histories with a delete, and the others;
  * `ReusesSafely`, `DeletesUnused` -- a claim is deleted when a listing shows no pod that uses it; what is freed
    is stored, or an error is returned;
  * `deletes_unused_iff` -- this holds exactly when an error of the listing says not found or nothing is deleted,
    and behind a delete the volume has labels and its update is answered;
  * `deletes_unused_fails` -- the listing is refused, and the claim of a running pod is deleted.
-/
import Kalm.Lib.Histories
import Kalm.Volumes.Claims

namespace Kalm.Volumes

open Objects (Error Versioned)
open Calls (Action Outcome Traces Performed Preceded traces_bind traces_call traces_invoke traces_tryCall)

/-- The calls of a run with their answers. -/
abbrev History := List (Performed (Objects.Call schema) Objects.Call.Reply Error)

variable {h : History} {claim : Str × Str}

/-! ## 1. The statement -/

/-- A listing of the pods was answered, and no pod in the namespace of the claim mounts it. -/
def ListedUnused (h : History) (claim : Str × Str) : Prop :=
  ∃ pods : List (Stored .pod), ⟨.list .pod, .ok pods⟩ ∈ h ∧
    ∀ pod ∈ pods, Pod.ns pod.obj = claim.1 → some claim.2 ∉ Pod.volumes pod.obj

/-- The volume was read, and its policy is to retain. -/
def ReadRetained (h : History) (pvName : Str) : Prop :=
  ∃ pv : Stored .pv, ⟨.get .pv ([], pvName), .ok pv⟩ ∈ h ∧ PersistentVolume.reclaimPolicy pv.obj = .retain

/-- A claim was deleted. -/
def Deleted (h : History) : Prop := ∃ claim, ⟨.delete .pvc claim, .ok ()⟩ ∈ h

/-- The volume that was read is stored without a claim. -/
def StoredFree (h : History) (pvName : Str) : Prop :=
  ∃ pv freed : Stored .pv, ⟨.get .pv ([], pvName), .ok pv⟩ ∈ h ∧ ⟨.update .pv freed, .ok ()⟩ ∈ h ∧
    freed.key = pv.key ∧ PersistentVolume.claimRef freed.obj = none

/-- A claim is deleted when no pod uses it. -/
def DeletesUnused (h : History) : Prop :=
  Preceded (fun before x => ∀ claim, x.1 = .delete .pvc claim → ListedUnused before claim) h

/-- A claim is deleted when no pod uses it and the volume is retained; there is no panic, and a claim is not
    deleted without the volume being freed, or an error. -/
structure ReusesSafely (pvName : Str) (h : History) (o : Outcome Error Unit) : Prop where
  unused : DeletesUnused h
  retained : Preceded (fun before x => ∀ claim, x.1 = .delete .pvc claim → ReadRetained before pvName) h
  noPanic : o ≠ .crashed
  stored : o = .returned () → Deleted h → StoredFree h pvName

/-- Where the pods are not listed, the error says not found. -/
def PodsListed (h : History) : Prop := ∀ e, ⟨.list .pod, .error e⟩ ∈ h → e = .notFound

/-- Behind a delete the volume has labels, and its update is answered. -/
def Freed (h : History) (pvName : Str) : Prop :=
  Deleted h → (∃ pv : Stored .pv, ⟨.get .pv ([], pvName), .ok pv⟩ ∈ h ∧ PersistentVolume.labels pv.obj ≠ none) ∧
    ∀ (pv : Stored .pv) e, ⟨.update .pv pv, .error e⟩ ∉ h

/-- The volumes are not listed, or the volume of the claim is not marked. -/
def Stopped (h : History) : Prop :=
  (∃ e, ⟨.list .pv, .error e⟩ ∈ h) ∨ ∃ (pv : Stored .pv) (e : Error), ⟨.update .pv pv, .error e⟩ ∈ h

/-! ## 2. Histories -/

/-- What an answer to the listing says about a claim. -/
def usedBy (pvc : PersistentVolumeClaim) : Except Error (List (Stored .pod)) → Outcome Error Bool
  | .ok pods => .returned (isPVCInUse pvc (podsOf pvc.ns pods))
  | .error .notFound => .failed .notFound
  | .error _ => .returned false

theorem traces_claimInUse {pvc : PersistentVolumeClaim} {o : Outcome Error Bool} :
    Traces (claimInUse pvc) h o ↔ ∃ r, h = [⟨.list .pod, r⟩] ∧ o = usedBy pvc r := by
  unfold claimInUse
  rw [traces_tryCall]
  constructor
  · intro ⟨r, rest, hh, hrest⟩
    refine ⟨r, ?_⟩
    rcases r with e | pods
    · cases e with
      | _ =>
        obtain ⟨rfl, ho⟩ := hrest
        exact ⟨hh, ho⟩
    · obtain ⟨rfl, ho⟩ := hrest
      exact ⟨hh, ho⟩
  · intro ⟨r, hh, ho⟩
    refine ⟨r, [], hh, ?_⟩
    rcases r with e | pods
    · cases e with
      | _ => exact ⟨rfl, ho⟩
    · exact ⟨rfl, ho⟩

theorem usedBy_ne_crashed (pvc : PersistentVolumeClaim) (r : Except Error (List (Stored .pod))) :
    usedBy pvc r ≠ .crashed := by
  unfold usedBy
  split <;> simp

/-- Any other answer than a claim that is not in use says so, or that the pods are not found. -/
theorem eq_notFound_of_usedBy {pvc : PersistentVolumeClaim} {e : Error}
    (hr : usedBy pvc (.error e) ≠ .returned false) : e = .notFound := by
  cases e with
  | notFound => rfl
  | _ => exact absurd rfl hr

theorem isPVCInUse_eq_false {pvc : PersistentVolumeClaim} {pods : List (Stored .pod)} :
    isPVCInUse pvc (podsOf pvc.ns pods) = false ↔
      ∀ pod ∈ pods, Pod.ns pod.obj = pvc.ns → some pvc.name ∉ Pod.volumes pod.obj := by
  unfold isPVCInUse podsOf
  rw [List.any_eq_false]
  constructor
  · intro hall pod hpod hns hmem
    refine hall pod.obj (List.mem_filter.mpr ⟨List.mem_map_of_mem hpod, ?_⟩) (List.contains_iff_mem.mpr hmem)
    exact decide_eq_true hns
  · intro hall pod hpod hcontains
    obtain ⟨hmem, hns⟩ := List.mem_filter.mp hpod
    obtain ⟨stored, hstored, rfl⟩ := List.mem_map.mp hmem
    exact hall stored hstored (of_decide_eq_true hns) (List.contains_iff_mem.mp hcontains)

/-- No claim is deleted, nothing panics, and the pods are listed. -/
structure NothingDeleted {α : Type} (h : History) (o : Outcome Error α) : Prop where
  calls : ∀ x ∈ h, ∀ claim, x.1 ≠ .delete .pvc claim
  noPanic : o ≠ .crashed
  listed : PodsListed h

/-- The volume as it is freed. -/
def lockedFor (pv : Stored .pv) : Stored .pv :=
  ⟨(cleanPVToBeAvailable pv.obj).withLabel kalmLabelPVLocker controllerComponent, pv.version⟩

theorem traces_takeFrom {pv : Stored .pv} {ownerPVC : Stored .pvc} {o : Outcome Error Unit} :
    Traces (takeFrom pv ownerPVC) h o ↔
      (∃ e, h = [⟨.delete .pvc ownerPVC.key, .error e⟩] ∧ o = .failed e) ∨
        (PersistentVolume.labels pv.obj = none ∧ h = [⟨.delete .pvc ownerPVC.key, .ok ()⟩] ∧ o = .crashed) ∨
          ∃ r, PersistentVolume.labels pv.obj ≠ none ∧
            h = [⟨.delete .pvc ownerPVC.key, .ok ()⟩, ⟨.update .pv (lockedFor pv), r⟩] ∧ o = .returned () := by
  unfold takeFrom
  rw [traces_invoke, or_comm]
  refine or_congr Iff.rfl ?_
  have hlabels : (cleanPVToBeAvailable pv.obj).labels = none ↔ PersistentVolume.labels pv.obj = none :=
    Option.map_eq_none_iff
  by_cases hnil : PersistentVolume.labels pv.obj = none
  · rw [if_pos (hlabels.mpr hnil)]
    constructor
    · intro ⟨_, rest, hh, hrest, ho⟩
      exact Or.inl ⟨hnil, hrest ▸ hh, ho⟩
    · rintro (⟨_, hh, ho⟩ | ⟨_, hsome, _⟩)
      · exact ⟨(), [], hh, rfl, ho⟩
      · exact absurd hnil hsome
  · rw [if_neg fun hn => hnil (hlabels.mp hn)]
    constructor
    · intro ⟨_, rest, hh, r, rest', hrest, hend, ho⟩
      exact Or.inr ⟨r, hnil, by rw [hh, hrest, hend]; rfl, ho⟩
    · rintro (⟨hn, _⟩ | ⟨r, _, hh, ho⟩)
      · exact absurd hn hnil
      · exact ⟨(), _, hh, r, [], rfl, rfl, ho⟩

/-- **The histories of `reconcilePVForReUse`**: no claim is deleted; or the volume was read with the policy to
    retain, and the listing of the pods shows no use of its claim, or failed. -/
theorem traces_reconcilePVForReUse {pvc : PersistentVolumeClaim} {pvName : Str} {o : Outcome Error Unit}
    (hf : Traces (reconcilePVForReUse pvc pvName) h o) :
    NothingDeleted h o ∨ ∃ (pv : Stored .pv) (owner : Str × Str) (ownerPVC : Stored .pvc)
      (r : Except Error (List (Stored .pod))) (rest : History),
        h = ⟨.get .pv ([], pvName), .ok pv⟩ :: ⟨.get .pvc owner, .ok ownerPVC⟩ :: ⟨.list .pod, r⟩ :: rest ∧
          PersistentVolume.reclaimPolicy pv.obj = .retain ∧ usedBy ownerPVC.obj r = .returned false ∧
            Traces (takeFrom pv ownerPVC) rest o := by
  unfold reconcilePVForReUse at hf
  split at hf
  · obtain ⟨rfl, rfl⟩ := hf
    exact Or.inl ⟨by simp, by simp, by simp [PodsListed]⟩
  rcases traces_invoke.mp hf with ⟨pv, rest, rfl, hread⟩ | ⟨e, rfl, rfl⟩
  · split at hread
    · obtain ⟨rfl, rfl⟩ := hread
      exact Or.inl ⟨by simp, by simp, by simp [PodsListed]⟩
    rename_i owner hclaim
    obtain ⟨r, rest', rfl, hfound⟩ := traces_tryCall.mp hread
    rcases r with e | ownerPVC
    · cases e with
      | notFound =>
          obtain ⟨_, _, rfl, rfl, rfl⟩ := hfound
          exact Or.inl ⟨by simp, by simp, by simp [PodsListed]⟩
      | _ =>
          obtain ⟨rfl, rfl⟩ := hfound
          exact Or.inl ⟨by simp, by simp, by simp [PodsListed]⟩
    dsimp only at hfound
    split at hfound
    · obtain ⟨rfl, rfl⟩ := hfound
      exact Or.inl ⟨by simp, by simp, by simp [PodsListed]⟩
    rename_i hretain
    rcases traces_bind.mp hfound with ⟨used, h₁, h₂, rfl, hused, hrest⟩ | ⟨e, hused, rfl⟩ | ⟨hused, _⟩
    · obtain ⟨r, rfl, hr⟩ := traces_claimInUse.mp hused
      cases used with
      | true =>
          obtain ⟨rfl, rfl⟩ := hrest
          refine Or.inl ⟨by simp, by simp, fun e he => ?_⟩
          obtain rfl : .error e = r := by simpa using he
          exact eq_notFound_of_usedBy fun hfalse => nomatch hr.trans hfalse
      | false =>
          exact Or.inr ⟨pv, owner, ownerPVC, r, h₂, rfl, not_not.mp hretain, hr.symm, hrest⟩
    · obtain ⟨r, rfl, hr⟩ := traces_claimInUse.mp hused
      refine Or.inl ⟨by simp, by simp, fun e' he => ?_⟩
      obtain rfl : .error e' = r := by simpa using he
      exact eq_notFound_of_usedBy fun hfalse => nomatch hr.trans hfalse
    · obtain ⟨r, _, hr⟩ := traces_claimInUse.mp hused
      exact absurd hr.symm (usedBy_ne_crashed _ r)
  · exact Or.inl ⟨by simp, by simp, by simp [PodsListed]⟩

theorem traces_markVolume {pvc : Stored .pvc} {pvs : List (Stored .pv)} {o : Outcome Error Unit}
    (hf : Traces (markVolume claim pvc pvs) h o) :
    (o = .returned () ∧ (h = [] ∨ ∃ pv, h = [⟨.update .pv pv, .ok ()⟩])) ∨
      ∃ (pv : Stored .pv) (e : Error), h = [⟨.update .pv pv, .error e⟩] ∧ o = .failed e := by
  unfold markVolume at hf
  split at hf
  · exact Or.inl ⟨hf.2, Or.inl hf.1⟩
  · obtain ⟨r, rest, rfl, hrest⟩ := hf
    rcases r with e | _
    · obtain ⟨rfl, rfl⟩ := hrest
      exact Or.inr ⟨_, e, rfl, rfl⟩
    · obtain ⟨rfl, rfl⟩ := hrest
      exact Or.inl ⟨rfl, Or.inr ⟨_, rfl⟩⟩

/-- **The histories of `handleDeletePVC`**: no claim is deleted; or the claim is the last call, behind a listing
    of the pods that shows no use of it, or failed, and the calls between are answered. -/
theorem traces_handleDeletePVC {P : PolicySet} {user : ClientInfo} {o : Outcome Error (Except Refusal Unit)}
    (hf : Traces (handleDeletePVC P user claim) h o) :
    (∀ x ∈ h, ∀ claim, x.1 ≠ .delete .pvc claim) ∧ (PodsListed h ∨ Stopped h) ∨
      ∃ (pvc : Stored .pvc) (r : Except Error (List (Stored .pod))) (mid : History) (r' : Except Error Unit),
        h = ⟨.get .pvc claim, .ok pvc⟩ :: ⟨.list .pod, r⟩ :: (mid ++ [⟨.delete .pvc pvc.key, r'⟩]) ∧
          usedBy pvc.obj r = .returned false ∧ (∀ x ∈ mid, ∀ claim, x.1 ≠ .delete .pvc claim) ∧
            (∀ r'', ⟨.list .pod, r''⟩ ∉ mid) ∧ ¬ Stopped h := by
  unfold handleDeletePVC at hf
  split at hf
  · obtain ⟨rfl, _⟩ := hf
    exact Or.inl ⟨by simp, Or.inl (by simp [PodsListed])⟩
  · obtain ⟨rfl, _⟩ := hf
    exact Or.inl ⟨by simp, Or.inl (by simp [PodsListed])⟩
  rcases traces_invoke.mp hf with ⟨pvc, rest, rfl, hread⟩ | ⟨e, rfl, rfl⟩
  · rcases traces_bind.mp hread with ⟨used, h₁, h₂, rfl, hused, hrest⟩ | ⟨e, hused, rfl⟩ | ⟨hused, _⟩
    · obtain ⟨r, rfl, hr⟩ := traces_claimInUse.mp hused
      cases used with
      | true =>
          obtain ⟨rfl, rfl⟩ := hrest
          refine Or.inl ⟨by simp, Or.inl fun e he => ?_⟩
          obtain rfl : .error e = r := by simpa using he
          exact eq_notFound_of_usedBy fun hfalse => nomatch hr.trans hfalse
      | false =>
          rcases traces_invoke.mp hrest with ⟨pvs, rest, rfl, hlisted⟩ | ⟨e, rfl, rfl⟩
          · rcases traces_bind.mp hlisted with ⟨_, h₁, h₂, rfl, hmark, hdelete⟩ | ⟨e, hmark, rfl⟩ | ⟨hmark, _⟩
            · rcases traces_markVolume hmark with ⟨_, hmarked⟩ | ⟨_, _, _, hfailed⟩
              · have hlast : ∃ r', h₂ = [⟨.delete .pvc pvc.key, r'⟩] := by
                  rcases traces_invoke.mp hdelete with ⟨_, _, rfl, rfl, _⟩ | ⟨e, rfl, _⟩
                  · exact ⟨_, rfl⟩
                  · exact ⟨_, rfl⟩
                obtain ⟨r', rfl⟩ := hlast
                refine Or.inr ⟨pvc, r, ⟨.list .pv, .ok pvs⟩ :: h₁, r', rfl, hr.symm, ?_⟩
                rcases hmarked with rfl | ⟨pv, rfl⟩
                · exact ⟨by simp, by simp, by simp [Stopped]⟩
                · exact ⟨by simp, by simp, by simp [Stopped]⟩
              · cases hfailed
            · rcases traces_markVolume hmark with ⟨hreturned, _⟩ | ⟨pv, e', rfl, _⟩
              · cases hreturned
              · exact Or.inl ⟨by simp, Or.inr (Or.inr ⟨pv, e', by simp⟩)⟩
            · rcases traces_markVolume hmark with ⟨hreturned, _⟩ | ⟨_, _, _, hfailed⟩
              · cases hreturned
              · cases hfailed
          · exact Or.inl ⟨by simp, Or.inr (Or.inl ⟨e, by simp⟩)⟩
    · obtain ⟨r, rfl, hr⟩ := traces_claimInUse.mp hused
      refine Or.inl ⟨by simp, Or.inl fun e' he => ?_⟩
      obtain rfl : .error e' = r := by simpa using he
      exact eq_notFound_of_usedBy fun hfalse => nomatch hr.trans hfalse
    · obtain ⟨r, _, hr⟩ := traces_claimInUse.mp hused
      exact absurd hr.symm (usedBy_ne_crashed _ r)
  · exact Or.inl ⟨by simp, Or.inl (by simp [PodsListed])⟩

/-! ## 3. What is deleted -/

/-- A call that neither lists the pods nor deletes a claim. -/
def Plain (x : Performed (Objects.Call schema) Objects.Call.Reply Error) : Prop :=
  x.1 ≠ .list .pod ∧ ∀ claim, x.1 ≠ .delete .pvc claim

/-- A listing that shows no use of a claim was answered, if it is not taken for one that was not. -/
theorem usedBy_eq_false {pvc : PersistentVolumeClaim} {r : Except Error (List (Stored .pod))}
    (hr : usedBy pvc r = .returned false) (hlisted : ∀ e, r = .error e → e = .notFound) :
    ∃ pods, r = .ok pods ∧
      ∀ pod ∈ pods, Pod.ns pod.obj = pvc.ns → some pvc.name ∉ Pod.volumes pod.obj := by
  rcases r with e | pods
  · obtain rfl := hlisted e rfl
    cases hr
  · exact ⟨pods, rfl, isPVCInUse_eq_false.mp (Outcome.returned.inj hr)⟩

section Delete

variable {front mid tail : History} {r : Except Error (List (Stored .pod))} {r' : Except Error Unit}
  {pvc : Stored .pvc}

theorem mem_listing (hfront : ∀ x ∈ front, x.1 ≠ .list .pod) (hmid : ∀ x ∈ mid, x.1 ≠ .list .pod)
    {r₁ : Except Error (List (Stored .pod))} (hmem : ⟨.list .pod, r₁⟩ ∈ front ++ ⟨.list .pod, r⟩ :: mid) :
    r₁ = r := by
  rcases List.mem_append.mp hmem with hx | hx
  · exact absurd rfl (hfront _ hx)
  rcases List.mem_cons.mp hx with heq | hx
  · cases heq
    rfl
  · exact absurd rfl (hmid _ hx)

/-- **A claim whose listing shows no use is deleted**: no pod uses it exactly if the listing was answered. -/
theorem deletesUnused_iff (front mid tail : History) (hfront : ∀ x ∈ front, Plain x) (hmid : ∀ x ∈ mid, Plain x)
    (htail : ∀ x ∈ tail, Plain x) (hr : usedBy pvc.obj r = .returned false)
    (hh : h = front ++ ⟨.list .pod, r⟩ :: (mid ++ ⟨.delete .pvc pvc.key, r'⟩ :: tail)) :
    DeletesUnused h ↔ PodsListed h := by
  subst hh
  have hrest : ∀ x ∈ mid ++ ⟨.delete .pvc pvc.key, r'⟩ :: tail, x.1 ≠ .list .pod := by
    intro x hx
    rcases List.mem_append.mp hx with hx | hx
    · exact (hmid x hx).1
    rcases List.mem_cons.mp hx with rfl | hx
    · exact nofun
    · exact (htail x hx).1
  constructor
  · intro hdelete e he
    obtain ⟨pods, hpods, _⟩ := hdelete (front ++ ⟨.list .pod, r⟩ :: mid)
      ⟨.delete .pvc pvc.key, r'⟩ tail (by simp) pvc.key rfl
    have hok := mem_listing (fun x hx => (hfront x hx).1) (fun x hx => (hmid x hx).1) hpods
    have herror := mem_listing (fun x hx => (hfront x hx).1) hrest he
    exact nomatch herror.trans hok.symm
  · intro hlisted
    obtain ⟨pods, rfl, hunused⟩ := usedBy_eq_false hr fun e he => hlisted e (by simp [he])
    -- only the one delete asks for anything before it
    refine Calls.preceded_append.mpr ⟨?_, Calls.preceded_cons.mpr ⟨nofun, ?_⟩⟩
    · exact Calls.preceded_of_forall fun x hx _ claim he => absurd he ((hfront x hx).2 claim)
    refine Calls.preceded_append.mpr ⟨?_, Calls.preceded_cons.mpr ⟨?_, ?_⟩⟩
    · exact Calls.preceded_of_forall fun x hx _ claim he => absurd he ((hmid x hx).2 claim)
    · intro claim he
      cases he
      exact ⟨pods, by simp, hunused⟩
    · exact Calls.preceded_of_forall fun x hx _ claim he => absurd he ((htail x hx).2 claim)

end Delete

theorem deletesUnused_of_calls (hcalls : ∀ x ∈ h, ∀ claim, x.1 ≠ .delete .pvc claim) : DeletesUnused h :=
  Calls.preceded_of_forall fun x hx _ claim he => absurd he (hcalls x hx claim)

/-- **A reuse is safe** exactly when the pods are listed, and behind a delete the volume has labels and its
    update is answered. -/
theorem reusesSafely_iff {pvc : PersistentVolumeClaim} {pvName : Str} {o : Outcome Error Unit}
    (hf : Traces (reconcilePVForReUse pvc pvName) h o) :
    ReusesSafely pvName h o ↔ PodsListed h ∧ Freed h pvName := by
  rcases traces_reconcilePVForReUse hf with hnone | ⟨pv, owner, ownerPVC, r, rest, rfl, hretain, hr, hrest⟩
  · have hnot : ¬ Deleted h := fun ⟨claim, hmem⟩ => hnone.calls _ hmem claim rfl
    refine iff_of_true ⟨deletesUnused_of_calls hnone.calls, ?_, hnone.noPanic, fun _ hd => absurd hd hnot⟩
      ⟨hnone.listed, fun hd => absurd hd hnot⟩
    exact Calls.preceded_of_forall fun x hx _ claim he => absurd he (hnone.calls x hx claim)
  -- the volume was read first
  have hread : ∀ rest : History,
      Preceded (fun before x => ∀ claim, x.1 = .delete .pvc claim → ReadRetained before pvName)
        (⟨.get .pv ([], pvName), .ok pv⟩ :: rest) := fun rest =>
    Calls.preceded_cons.mpr ⟨nofun, fun _ _ _ _ _ _ => ⟨pv, List.mem_cons_self, hretain⟩⟩
  have hunused : ∀ (r' : Except Error Unit) (tail : History), (∀ x ∈ tail, Plain x) →
      (DeletesUnused (⟨.get .pv ([], pvName), .ok pv⟩ :: ⟨.get .pvc owner, .ok ownerPVC⟩ :: ⟨.list .pod, r⟩ ::
        ⟨.delete .pvc ownerPVC.key, r'⟩ :: tail) ↔ PodsListed _) := fun r' tail htail =>
    deletesUnused_iff [⟨.get .pv ([], pvName), .ok pv⟩, ⟨.get .pvc owner, .ok ownerPVC⟩] [] tail (by simp [Plain])
      nofun htail hr rfl
  rcases traces_takeFrom.mp hrest with ⟨e, rfl, rfl⟩ | ⟨hnil, rfl, rfl⟩ | ⟨r', hsome, rfl, rfl⟩
  · -- the delete failed
    have hnot : ¬ Deleted (⟨.get .pv ([], pvName), .ok pv⟩ :: ⟨.get .pvc owner, .ok ownerPVC⟩ :: ⟨.list .pod, r⟩ ::
        [⟨.delete .pvc ownerPVC.key, .error e⟩]) := by simp [Deleted]
    constructor
    · intro h
      exact ⟨(hunused _ _ (List.forall_mem_nil Plain)).mp h.unused, fun hd => absurd hd hnot⟩
    · intro ⟨hlisted, _⟩
      exact ⟨(hunused _ _ (List.forall_mem_nil Plain)).mpr hlisted, hread _, nofun, nofun⟩
  · -- the labels are nil
    constructor
    · intro h
      exact absurd rfl h.noPanic
    · intro ⟨_, hfreed⟩
      obtain ⟨⟨pv', hmem, hlabels⟩, _⟩ := hfreed ⟨ownerPVC.key, by simp⟩
      obtain rfl : pv' = pv := by simpa using hmem
      exact absurd hnil hlabels
  · -- the update is made
    have htail : ∀ x ∈ ([⟨.update .pv (lockedFor pv), r'⟩] : History), Plain x := by simp [Plain]
    constructor
    · intro h
      refine ⟨(hunused _ _ htail).mp h.unused, fun hd => ⟨⟨pv, by simp, hsome⟩, fun pv' e he => ?_⟩⟩
      obtain ⟨_, freed, _, hfreed, _, _⟩ := h.stored rfl hd
      obtain ⟨-, hok⟩ : freed = lockedFor pv ∧ .ok () = r' := by simpa using hfreed
      obtain ⟨-, herror⟩ : pv' = lockedFor pv ∧ .error e = r' := by simpa using he
      exact nomatch hok.trans herror.symm
    · intro ⟨hlisted, hfreed⟩
      obtain ⟨_, hanswered⟩ := hfreed ⟨ownerPVC.key, by simp⟩
      refine ⟨(hunused _ _ htail).mpr hlisted, hread _, nofun, fun _ _ => ⟨pv, lockedFor pv, by simp, ?_, rfl, rfl⟩⟩
      rcases r' with e | _
      · exact absurd (by simp) (hanswered (lockedFor pv) e)
      · simp

/-- **A claim is deleted unused by its user** exactly when the pods are listed, or a call between the listing and
    the delete fails. -/
theorem deletesUnused_handleDeletePVC_iff {P : PolicySet} {user : ClientInfo}
    {o : Outcome Error (Except Refusal Unit)} (hf : Traces (handleDeletePVC P user claim) h o) :
    DeletesUnused h ↔ PodsListed h ∨ Stopped h := by
  rcases traces_handleDeletePVC hf with ⟨hcalls, hend⟩ | ⟨pvc, r, mid, r', hh, hr, hdelete, hlist, hstopped⟩
  · exact iff_of_true (deletesUnused_of_calls hcalls) hend
  · rw [or_iff_left hstopped]
    refine deletesUnused_iff [⟨.get .pvc claim, .ok pvc⟩] mid [] (by simp [Plain]) (fun x hx => ⟨?_, hdelete x hx⟩)
      (List.forall_mem_nil Plain) hr hh
    intro he
    obtain ⟨c, r''⟩ := x
    cases he
    exact hlist r'' hx

/-! ## 4. Both programs -/

/-- **Which answers destroy no claim that a pod uses**, in every history of the two programs. -/
theorem deletes_unused_iff (pvc : PersistentVolumeClaim) (pvName : Str) (P : PolicySet) (user : ClientInfo)
    (claim : Str × Str) (h : History) :
    (∀ o, Traces (reconcilePVForReUse pvc pvName) h o →
      (ReusesSafely pvName h o ↔ PodsListed h ∧ Freed h pvName)) ∧
    ∀ o, Traces (handleDeletePVC P user claim) h o → (DeletesUnused h ↔ PodsListed h ∨ Stopped h) :=
  ⟨fun _ => reusesSafely_iff, fun _ => deletesUnused_handleDeletePVC_iff⟩

/-- The claim, its volume, and a pod that mounts it. -/
def ledgerCluster : Cluster :=
  ((emptyCluster.put Kind.pv ledgerVolume).put Kind.pvc ledgerClaim).put Kind.pod
    ⟨str "bank", str "ledger-0", ∅, [some (str "ledger")]⟩

/-- The history of `reconcilePVForReUse` for a component that asks for the volume. -/
def copyHistory (faults : List Calls.Fault) (s : Cluster) : History :=
  Calls.history Objects.serve .unavailable (reconcilePVForReUse copyDisk.expectedPVC copyDisk.pvToMatch) faults s

/-- Where no pod uses the claim and all calls are answered, the volume is taken over. -/
theorem deletes_unused_free :
    ReusesSafely copyDisk.pvToMatch
      (copyHistory [] ((emptyCluster.put Kind.pv ledgerVolume).put Kind.pvc ledgerClaim)) (.returned ()) := by
  have hhistory : ∃ (pv freed : Stored .pv) (pvc : Stored .pvc) (pods : List (Stored .pod)),
      copyHistory [] ((emptyCluster.put Kind.pv ledgerVolume).put Kind.pvc ledgerClaim) =
        [⟨.get .pv ([], copyDisk.pvToMatch), .ok pv⟩, ⟨.get .pvc (str "bank", str "ledger"), .ok pvc⟩,
          ⟨.list .pod, .ok pods⟩, ⟨.delete .pvc (str "bank", str "ledger"), .ok ()⟩, ⟨.update .pv freed, .ok ()⟩] ∧
      PersistentVolume.labels pv.obj = ledgerVolume.labels := ⟨_, _, _, _, rfl, rfl⟩
  obtain ⟨pv, freed, pvc, pods, hh, hlabels⟩ := hhistory
  refine ((deletes_unused_iff copyDisk.expectedPVC copyDisk.pvToMatch ⟨[], []⟩ ⟨[], none, [], []⟩ ([], []) _).1 _
    (Calls.traces_history Objects.serve .unavailable _ [] _)).mpr ⟨fun e he => ?_, fun _ => ⟨⟨pv, ?_, ?_⟩, ?_⟩⟩
  · rw [← copyHistory, hh] at he
    simp at he
  · rw [← copyHistory, hh]
    exact List.mem_cons_self
  · rw [hlabels]
    exact nofun
  · intro _ e he
    rw [← copyHistory, hh] at he
    simp at he

theorem deletes_unused_fails :
    ¬ ∀ (s : Cluster) (faults : List Calls.Fault) pvc pvName,
      ReusesSafely pvName (Calls.history Objects.serve .unavailable (reconcilePVForReUse pvc pvName) faults s)
        (Calls.run Objects.serve .unavailable (reconcilePVForReUse pvc pvName) faults s).1 := by
  intro h
  have hsafe := h ledgerCluster [.served, .served, .refused] copyDisk.expectedPVC copyDisk.pvToMatch
  have hlisted := ((reusesSafely_iff (Calls.traces_history Objects.serve .unavailable _ _ _)).mp hsafe).1
  have hhistory : ∃ (pv : Stored .pv) (pvc : Stored .pvc) (rest : History),
      copyHistory [.served, .served, .refused] ledgerCluster =
        ⟨.get .pv ([], copyDisk.pvToMatch), .ok pv⟩ :: ⟨.get .pvc (str "bank", str "ledger"), .ok pvc⟩ ::
          ⟨.list .pod, .error .unavailable⟩ :: rest := ⟨_, _, _, rfl⟩
  obtain ⟨pv, pvc, rest, hh⟩ := hhistory
  rw [← copyHistory, hh] at hlisted
  exact nomatch hlisted .unavailable (by simp)

end Kalm.Volumes
