/-
  File:      Kalm/Certs/Naming.lean
  Subject:   A NAME FOR A CERTIFICATE: `CreateAutoManagedHttpsCert` of api/resources/https_cert.go.

  * `autoGenCertName`, `cleanToResName` -- a name from the first domain and a random suffix;
  * `nameLoop` -- names are tried until one is reported not found; the counter of the loop is never counted up, so it
    may have no end (`nameLoop_eq_some_iff`);
  * `createAutoManagedHttpsCert` -- a run, with the answers it gets;
  * `named_iff` -- it comes to an end in time exactly where the certificate has a name or one of the first five checks
    reports that a name is not found; what exists is never written over (`get_createCert`).
-/
import Kalm.Certs.HttpsCerts
import Kalm.Files.Paths
import Kalm.Lib.Served

namespace Kalm.Tls

open Calls (Fault)
open Certs (Iteration defaultDNS01IssuerName)
open Objects (Error)

/-! ## 1. The program -/

/-- `HttpsCert` of the API server. -/
structure HttpsCertResource where
  name : Str
  isSelfManaged : Bool
  selfManagedCertContent : Str
  selfManagedCertPrvKey : Str
  httpsCertIssuer : Str
  domains : List Str
  deriving DecidableEq

/-- What a check whether a name exists comes to. -/
inductive CheckResult where
  | found
  | notFound
  | failed
  deriving DecidableEq

/-- What a run does not control: what `strings.ToLower` makes of a text, the random suffixes, the checks and their
    order, the order of a map in the webhook, and what becomes of the call that creates. -/
structure Answers where
  toLower : Str → Str
  suffix : Nat → Str
  check : Nat → CheckResult
  it : Iteration
  fault : Fault

/-- The errors: a text, or what the cluster answers. -/
inductive Failure where
  | text (message : Str)
  | api (e : Error)
  deriving DecidableEq

/-- `maxCnt`. -/
def maxCnt : Nat := 5

section Program

variable (answers : Answers)

/-- `cleanToResName`. -/
def cleanToResName (s : Str) : Str :=
  Files.replaceAll (Files.replaceAll (answers.toLower s) (str "*") (str "wildcard")) (str ".") (str "-")

/-- `autoGenCertName`, with the random suffix `suffix`. -/
def autoGenCertName (cert : HttpsCertResource) (suffix : Str) : Str :=
  let issued := if cert.httpsCertIssuer = defaultDNS01IssuerName then str "wildcard-" else []
  let managed := if cert.isSelfManaged then str "self-managed-" else []
  cleanToResName answers (issued ++ managed ++ cert.domains.head?.getD (str "cert") ++ str "-" ++ suffix)

/-- The loop for a name, from its `i`-th check: the number of checks and the name. -/
def nameLoop (cert : HttpsCertResource) : (fuel i cnt : Nat) → Option (Nat × Str)
  | 0, _, _ => none
  | fuel + 1, i, cnt =>
    if cnt < maxCnt then
      let name := autoGenCertName answers cert (answers.suffix i)
      if answers.check i = .notFound then some (i + 1, name)
      -- the counter is as it was
      else nameLoop cert fuel (i + 1) cnt
    else some (i, [])

/-- The issuer that is used without one. -/
def HttpsCertResource.withIssuer (cert : HttpsCertResource) : HttpsCertResource :=
  if cert.httpsCertIssuer = [] then { cert with httpsCertIssuer := defaultHTTP01IssuerName } else cert

/-- The certificate that is created. -/
def HttpsCertResource.autoManaged (cert : HttpsCertResource) : HttpsCert where
  name := cert.name
  spec := ⟨false, [], cert.httpsCertIssuer, cert.domains⟩
  status := ⟨[], 0, false⟩

/-- The certificate is created, if it has a name. -/
def createCert (cert : HttpsCertResource) (s : Cluster) : Except Failure HttpsCertResource × Cluster :=
  if cert.name = [] then (.error (.text (str "fail to generate name for HttpsCert, please retry")), s)
  else
    let create := Objects.Call.create (S := schema) .httpsCert (cert.autoManaged.default answers.it)
    match Calls.meet Objects.serve .unavailable answers.fault create s with
    | (.error e, t) => (.error (.api e), t)
    | (.ok _, t) => (.ok cert, t)

/-- `CreateAutoManagedHttpsCert`: the number of checks, what it returns, and the cluster behind it. -/
def createAutoManagedHttpsCert (fuel : Nat) (request : HttpsCertResource) (s : Cluster) :
    Option (Nat × Except Failure HttpsCertResource × Cluster) :=
  let cert := request.withIssuer
  if cert.name = [] then
    (nameLoop answers cert fuel 0 0).map fun x => (x.1, createCert answers { cert with name := x.2 } s)
  else some (0, createCert answers cert s)

/-! ## 2. What it is for -/

/-- A run that makes `n` checks comes to an end in time: with a certificate under a name that was free, and that was
    reported not found where it was generated, or with an error; what exists stays as it is. -/
structure InTime (request : HttpsCertResource) (s : Cluster) (n : Nat)
    (r : Except Failure HttpsCertResource) (t : Cluster) : Prop where
  bounded : n ≤ maxCnt
  created : ∀ made, r = .ok made → s.get .httpsCert ([], made.name) = none ∧
    t.objAt .httpsCert ([], made.name) = some (made.autoManaged.default answers.it) ∧
    (made.name = request.name ∨ ∃ i, i < n ∧ answers.check i = .notFound ∧
      made.name = autoGenCertName answers request.withIssuer (answers.suffix i))
  kept : ∀ k key, (s.get k key).isSome → t.get k key = s.get k key

/-- **Naming a certificate terminates.** -/
def Named (request : HttpsCertResource) (s : Cluster) : Prop :=
  ∃ fuel n r t, createAutoManagedHttpsCert answers fuel request s = some (n, r, t) ∧ InTime answers request s n r t

end Program

/-! ## 3. The loop -/

variable {answers : Answers} {cert request made : HttpsCertResource} {s t : Cluster}

/-- **The loop ends with the first name that is reported not found**, and never without one. -/
theorem nameLoop_eq_some_iff {fuel i n : Nat} {name : Str} : nameLoop answers cert fuel i 0 = some (n, name) ↔
    ∃ j, i ≤ j ∧ j < i + fuel ∧ answers.check j = .notFound ∧ (∀ k, i ≤ k → k < j → answers.check k ≠ .notFound) ∧
      n = j + 1 ∧ name = autoGenCertName answers cert (answers.suffix j) := by
  induction fuel generalizing i with
  | zero =>
      refine iff_of_false (fun h => by cases h) fun h => ?_
      obtain ⟨j, hi, hj, _⟩ := h
      omega
  | succ fuel ih =>
      rw [nameLoop, if_pos (by decide : 0 < maxCnt)]
      by_cases hcheck : answers.check i = .notFound
      · rw [if_pos hcheck, Option.some.injEq, Prod.mk.injEq]
        constructor
        · intro h
          obtain ⟨rfl, rfl⟩ := h
          exact ⟨i, Nat.le_refl i, by omega, hcheck, fun k hk hki => absurd hk (by omega), rfl, rfl⟩
        · intro h
          obtain ⟨j, hij, _, hj, hfirst, rfl, rfl⟩ := h
          have hji : j = i := by
            by_contra hne
            exact hfirst i (Nat.le_refl i) (by omega) hcheck
          rw [hji]
          exact ⟨rfl, rfl⟩
      · rw [if_neg hcheck]
        refine ih.trans ⟨fun h => ?_, fun h => ?_⟩
        · obtain ⟨j, hij, hj, hnot, hfirst, hrest⟩ := h
          refine ⟨j, by omega, by omega, hnot, fun k hk hkj => ?_, hrest⟩
          by_cases hki : k = i
          · rw [hki]
            exact hcheck
          · exact hfirst k (by omega) hkj
        · obtain ⟨j, hij, hj, hnot, hfirst, hrest⟩ := h
          have hne : j ≠ i := fun e => hcheck (e ▸ hnot)
          exact ⟨j, by omega, by omega, hnot, fun k hk hkj => hfirst k (by omega) hkj, hrest⟩

/-! ## 4. The certificate -/

/-- **Nothing that exists is written over.** -/
theorem get_createCert {k : schema.Kind} {key : Str × Str} (h : (s.get k key).isSome) :
    (createCert answers cert s).2.get k key = s.get k key := by
  have hmeet : ∀ obj : HttpsCert, (Calls.meet Objects.serve .unavailable answers.fault
      (Objects.Call.create (S := schema) .httpsCert obj) s).2.get k key = s.get k key := by
    intro obj
    rcases Calls.meet_state Objects.serve .unavailable answers.fault
      (Objects.Call.create (S := schema) .httpsCert obj) s with hstate | hstate
    · rw [hstate]
    · rw [hstate]
      rcases Objects.get_serve (.create (S := schema) .httpsCert obj) s k key with
        hsame | ⟨_, _, _, hnone, _⟩ | ⟨_, _, hc, _⟩ | hc
      · exact hsame
      · rw [hnone] at h
        cases h
      · cases hc
      · cases hc.1
  unfold createCert
  split
  · rfl
  · have hcert := hmeet (cert.autoManaged.default answers.it)
    simp only
    split
    · rename_i heq
      rwa [heq] at hcert
    · rename_i heq
      rwa [heq] at hcert

/-- What is returned has been created under a name that was free. -/
theorem createCert_ok (h : (createCert answers cert s).1 = .ok made) : made = cert ∧
    s.get .httpsCert ([], made.name) = none ∧
      (createCert answers cert s).2.objAt .httpsCert ([], made.name) =
        some (made.autoManaged.default answers.it) := by
  unfold createCert at h ⊢
  split at h
  · cases h
  · rename_i hname
    rw [if_neg hname]
    simp only at h ⊢
    split at h
    · cases h
    · rename_i r t heq
      obtain rfl := Except.ok.inj h
      obtain ⟨hcreatable, hstate⟩ := Objects.meet_create_ok (congrArg Prod.fst heq)
      rw [heq] at hstate
      refine ⟨rfl, hcreatable.2, ?_⟩
      have hkey : schema.key (k := .httpsCert) (cert.autoManaged.default answers.it) = ([], cert.name) := rfl
      have hput : t = s.put .httpsCert (cert.autoManaged.default answers.it) := hstate
      rw [hput, Objects.State.objAt, Objects.State.get_put, if_pos hkey.symm]
      rfl

/-- Where the name is the one of the request or was reported not found, it is all right. -/
theorem inTime_createCert {n : Nat} (hn : n ≤ maxCnt)
    (hname : cert.name = request.name ∨ ∃ i, i < n ∧ answers.check i = .notFound ∧
      cert.name = autoGenCertName answers request.withIssuer (answers.suffix i)) :
    InTime answers request s n (createCert answers cert s).1 (createCert answers cert s).2 := by
  refine ⟨hn, fun made hmade => ?_, fun k key => get_createCert⟩
  obtain ⟨rfl, hfree, hthere⟩ := createCert_ok hmade
  exact ⟨hfree, hthere, hname⟩

/-- **A certificate is named in time exactly where it has a name, or one of the first checks finds one.** -/
theorem named_iff : Named answers request s ↔
    request.name ≠ [] ∨ ∃ i, i < maxCnt ∧ answers.check i = .notFound := by
  have hissuer : request.withIssuer.name = request.name := by
    unfold HttpsCertResource.withIssuer
    split <;> rfl
  constructor
  · intro h
    obtain ⟨fuel, n, r, t, hrun, hin⟩ := h
    by_contra hnot
    rw [not_or, not_not] at hnot
    rw [createAutoManagedHttpsCert, if_pos (hissuer.trans hnot.1), Option.map_eq_some_iff] at hrun
    obtain ⟨x, hloop, hx⟩ := hrun
    obtain ⟨j, _, _, hj, _, hn, _⟩ := nameLoop_eq_some_iff.mp hloop
    have hbound := hin.bounded
    have hcount : x.1 = n := congrArg Prod.fst hx
    exact hnot.2 ⟨j, by omega, hj⟩
  · intro h
    by_cases hname : request.name = []
    · have hfound := h.resolve_left (not_not.mpr hname)
      have hsome : ∃ i, answers.check i = .notFound := hfound.imp fun i hi => hi.2
      obtain ⟨i, hi, hnotFound⟩ := hfound
      -- the first of them is among the first checks as well
      have hfirst : Nat.find hsome ≤ i := Nat.find_min' hsome hnotFound
      let named := { request.withIssuer with
        name := autoGenCertName answers request.withIssuer (answers.suffix (Nat.find hsome)) }
      have hloop : nameLoop answers request.withIssuer (Nat.find hsome + 1) 0 0 =
          some (Nat.find hsome + 1, named.name) :=
        nameLoop_eq_some_iff.mpr ⟨Nat.find hsome, Nat.zero_le _, by omega, Nat.find_spec hsome,
          fun k _ hk => Nat.find_min hsome hk, rfl, rfl⟩
      have htime : InTime answers request s (Nat.find hsome + 1) (createCert answers named s).1
          (createCert answers named s).2 :=
        inTime_createCert (by omega) (Or.inr ⟨Nat.find hsome, Nat.lt_succ_self _, Nat.find_spec hsome, rfl⟩)
      refine ⟨Nat.find hsome + 1, _, _, _, ?_, htime⟩
      rw [createAutoManagedHttpsCert, if_pos (hissuer.trans hname), hloop]
      rfl
    · refine ⟨0, 0, _, _, ?_, inTime_createCert (Nat.zero_le _) (Or.inl hissuer)⟩
      rw [createAutoManagedHttpsCert, if_neg (fun e => hname (hissuer.symm.trans e))]

/-- The cluster does not answer. -/
def silent : Answers where
  toLower := id
  suffix _ := str "bcdfgh"
  check _ := .failed
  it := ⟨id, List.Perm.refl⟩
  fault := .served

/-- **While the checks fail, a certificate without a name is never answered.** -/
theorem named_fails :
    ¬ ∀ (answers : Answers) (request : HttpsCertResource) (s : Cluster), Named answers request s := by
  intro h
  obtain ⟨fuel, n, r, t, hrun, _⟩ :=
    h silent ⟨[], false, [], [], [], [str "shop.com"]⟩ ⟨fun _ => .empty, 0⟩
  rw [createAutoManagedHttpsCert, if_pos (by decide), Option.map_eq_some_iff] at hrun
  obtain ⟨x, hloop, _⟩ := hrun
  obtain ⟨j, _, _, hj, _⟩ := nameLoop_eq_some_iff.mp hloop
  cases hj

end Kalm.Tls
