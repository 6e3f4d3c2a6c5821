/-
  File:      Kalm/Api/Impersonation.lean
  Subject:   IMPERSONATION: `parseImpersonationString` of api/client/impersonation.go and `SetImpersonation` of
             api/client/standard_manager.go.

  * `parseImpersonationString` -- the subject and the type of a raw value;
  * `Reads` -- what the expression reads in it, without the search;
  * `parse_header` -- a subject without a newline and one of the two types are read back;
  * `answers_iff` -- nothing panics behind `SetImpersonation` exactly when the value has no match, an empty subject
    or one of the two types; `answers_fails` -- any other type is taken over, and panics.
-/
import Kalm.Frontend.Login
import Kalm.Lib.Captures

namespace Kalm.Impersonation

open Captures (Piece Found)

/-! ## 1. The value -/

/-- `subject=(.*); type=(.*)`. -/
def impersonationExpr : List (Piece UInt8) := [.lit (str "subject="), .any, .lit (str "; type="), .any]

/-- `parseImpersonationString`; an error is `none`. -/
def parseImpersonationString (raw : Str) : Option (Str × Str) :=
  match Captures.find newline impersonationExpr raw with
  | some [subject, subjectType] => some (subject, subjectType)
  | _ => none

/-- `SetImpersonation`; `none` where it panics. -/
def setImpersonation (P : PolicySet) (clientInfo : ClientInfo) (rawImpersonation : Str) : Option ClientInfo :=
  if rawImpersonation = [] then some clientInfo
  else
    (canManageCluster P clientInfo).map fun allowed =>
      match allowed, parseImpersonationString rawImpersonation with
      | true, some (impersonation, impersonationType) =>
        { clientInfo with impersonation := impersonation, impersonationType := impersonationType }
      | _, _ => clientInfo

/-- The expression reads this subject and this type, at the first place where it matches. -/
def Reads (raw subject subjectType : Str) : Prop :=
  ∃ front rest, Found newline impersonationExpr raw front rest [subject, subjectType]

/-- A match has two groups. -/
theorem groups_of_found {raw front rest : Str} {groups : List Str}
    (h : Found newline impersonationExpr raw front rest groups) : ∃ s t, groups = [s, t] := by
  obtain ⟨_, _, subject, _, _, rfl, ⟨_, _, subjectType, _, _, rfl, hnil, _⟩, _⟩ := h.here
  exact ⟨subject, subjectType, by rw [hnil]⟩

/-- **What is parsed is what the expression reads.** -/
theorem parseImpersonationString_eq_some {raw subject subjectType : Str} :
    parseImpersonationString raw = some (subject, subjectType) ↔ Reads raw subject subjectType := by
  unfold Reads
  rw [← Captures.find_eq_some, parseImpersonationString]
  cases hfind : Captures.find newline impersonationExpr raw with
  | none => exact ⟨nofun, nofun⟩
  | some groups =>
      obtain ⟨front, rest, hfound⟩ := Captures.find_eq_some.mp hfind
      obtain ⟨s, t, rfl⟩ := groups_of_found hfound
      constructor
      · intro h
        obtain ⟨rfl, rfl⟩ := Prod.mk.inj (Option.some.inj h)
        rfl
      · intro h
        obtain ⟨rfl, hrest⟩ := List.cons.inj (Option.some.inj h)
        obtain ⟨rfl, -⟩ := List.cons.inj hrest
        rfl

/-- The header for a subject. -/
def header (s : Str) (t : SubjectType) : Str := str "subject=" ++ (s ++ (str "; type=" ++ t.value))

theorem mem_tail_tails {more rest s : Str} (h : s = more ++ rest) (hmore : more ≠ []) : rest ∈ s.tails.tail := by
  cases more with
  | nil => exact absurd rfl hmore
  | cons c more =>
      rw [h, List.cons_append, List.tails_cons, List.tail_cons]
      exact (List.mem_tails _ _).mpr (List.suffix_append more rest)

/-- **A subject and its type are read back**, whatever the subject holds. -/
theorem parse_header (s : Str) (t : SubjectType) (hs : newline ∉ s) :
    parseImpersonationString (header s t) = some (s, t.value) := by
  have hvalue : newline ∉ t.value := by cases t <;> decide
  have hend : ∀ c ∈ ([] : Str).head?, c = newline := nofun
  -- the text between the groups begins with the only semicolon behind the subject
  have hlast : ∀ u ∈ (str "; type=" ++ t.value).tails.tail, ¬ str "; type=" <+: u := by
    cases t <;> decide
  have hhere := Captures.here_pair (a := str "subject=") (b := str "; type=") hs hvalue hend
    fun more rest' hsplit hmore _ => hlast rest' (mem_tail_tails (by rwa [List.append_nil] at hsplit) hmore)
  rw [List.append_nil] at hhere
  rw [parseImpersonationString, header, impersonationExpr, Captures.find_of_here hhere]

/-! ## 2. Behind it -/

/-- Every question and the login status are answered. -/
structure Answers (P : PolicySet) (client : ClientInfo) : Prop where
  asks : ∀ authFunc, (wrapper client authFunc).isSome
  logsIn : (handleLoginStatus P client).isSome

/-- The value has no match, or one with an empty subject, or with one of the two types. -/
def Acceptable (raw : Str) : Prop :=
  ∀ s t, Reads raw s t → s = [] ∨ t = SubjectType.user.value ∨ t = SubjectType.group.value

/-- The client is told everything, if it has subjects and the rules are well formed. -/
theorem answers_iff_subjects {P : PolicySet} (hP : P.WellFormed) {client : ClientInfo} :
    Answers P client ↔ client.subjects.isSome := by
  constructor
  · intro h
    have hasks := h.asks fun _ => true
    rwa [wrapper, Option.isSome_map] at hasks
  · intro h
    obtain ⟨subjects, hsubjects⟩ := Option.isSome_iff_exists.mp h
    have hlen : ∀ s ∈ subjects, ∀ permission ∈ P.getImplicitPermissionsForUser s, 4 ≤ permission.length :=
      fun _ _ r hr => Nat.le_of_eq (hP r (mem_getImplicitPermissionsForUser.mp hr).1).symm
    have htext : P.getCompletePoliciesFor subjects =
        some ([newline].intercalate ((P.completeLines subjects).map PolicyLine.render)) := if_pos hlen
    refine ⟨fun authFunc => by rw [wrapper, hsubjects]; rfl, ?_⟩
    simp only [handleLoginStatus, hsubjects, htext, Option.map_some, Option.isSome_some]

/-- Who can manage the cluster has subjects, and the rules are well formed. -/
theorem wellFormed_of_manager {P : PolicySet} {client : ClientInfo} (h : canManageCluster P client = some true) :
    P.WellFormed ∧ client.subjects.isSome := by
  obtain ⟨subjects, hsubjects, s, _, henforce⟩ := wrapper_eq_true.mp h
  exact ⟨(enforce_iff.mp henforce).1, by rw [hsubjects]; rfl⟩

/-- The subjects of a client that impersonates. -/
theorem subjects_impersonating (client : ClientInfo) (s t : Str) :
    ({ client with impersonation := s, impersonationType := t } : ClientInfo).subjects.isSome ↔
      s = [] ∨ t = SubjectType.user.value ∨ t = SubjectType.group.value := by
  unfold ClientInfo.subjects
  by_cases hs : s = []
  · rw [if_neg (not_not.mpr hs)]
    exact iff_of_true rfl (Or.inl hs)
  · rw [if_pos hs, Option.isSome_map, or_iff_right hs, toSafeSubject]
    by_cases huser : t = str "user"
    · rw [if_pos huser]
      exact iff_of_true rfl (Or.inl huser)
    · rw [if_neg huser, or_iff_right (show t ≠ SubjectType.user.value from huser)]
      by_cases hgroup : t = str "group"
      · rw [if_pos hgroup]
        exact iff_of_true rfl hgroup
      · rw [if_neg hgroup]
        exact iff_of_false Bool.false_ne_true hgroup

/-- What a manager of the cluster sets. -/
theorem setImpersonation_manager {P : PolicySet} {client : ClientInfo} (h : canManageCluster P client = some true)
    (raw : Str) :
    setImpersonation P client raw = some (((parseImpersonationString raw).map fun m =>
      { client with impersonation := m.1, impersonationType := m.2 }).getD client) := by
  unfold setImpersonation
  split
  · rename_i hraw
    rw [hraw]
    rfl
  · rw [h, Option.map_some]
    cases parseImpersonationString raw with
    | none => rfl
    | some m => rfl

/-- **Nothing panics behind `SetImpersonation` exactly for acceptable values**, and a subject and its type are set as
    the header has them. -/
theorem answers_iff (P : PolicySet) (client : ClientInfo) (h : canManageCluster P client = some true) :
    (∀ raw, (∃ client', setImpersonation P client raw = some client' ∧ Answers P client') ↔ Acceptable raw) ∧
      ∀ s (t : SubjectType), newline ∉ s →
        setImpersonation P client (header s t) =
          some { client with impersonation := s, impersonationType := t.value } := by
  obtain ⟨hP, hsubjects⟩ := wellFormed_of_manager h
  refine ⟨fun raw => ?_, fun s t hs => ?_⟩
  · rw [setImpersonation_manager h]
    cases hparse : parseImpersonationString raw with
    | none =>
        refine iff_of_true ⟨client, rfl, (answers_iff_subjects hP).mpr hsubjects⟩ fun s t hreads => ?_
        rw [parseImpersonationString_eq_some.mpr hreads] at hparse
        cases hparse
    | some m =>
        have hreads := parseImpersonationString_eq_some.mp hparse
        have hcan := subjects_impersonating client m.1 m.2
        constructor
        · rintro ⟨client', heq, hanswers⟩ s t hst
          obtain rfl := Option.some.inj heq
          obtain rfl := Option.some.inj ((parseImpersonationString_eq_some.mpr hst).symm.trans hparse)
          exact hcan.mp ((answers_iff_subjects hP).mp hanswers)
        · intro hacceptable
          exact ⟨_, rfl, (answers_iff_subjects hP).mpr (hcan.mpr (hacceptable m.1 m.2 hreads))⟩
  · rw [setImpersonation_manager h, parse_header s t hs]
    rfl

/-- Olga can manage the cluster. -/
def olgaPolicies : PolicySet := ⟨[[str "user-olga", str "manage", [star], [star]]], []⟩

/-- Olga. -/
def olga : ClientInfo := ⟨str "olga", some [], [], []⟩

/-- Olga acts as the group `a; type=user`. -/
theorem answers_olga :
    setImpersonation olgaPolicies olga (header (str "a; type=user") .group) =
      some { olga with impersonation := str "a; type=user", impersonationType := str "group" } :=
  (answers_iff olgaPolicies olga (by decide)).2 _ _ (by decide)

/-- A third type is taken over. -/
theorem answers_fails :
    ¬ ∀ P client, canManageCluster P client = some true → ∀ raw,
      ∃ client', setImpersonation P client raw = some client' ∧ Answers P client' := by
  intro h
  obtain ⟨client', hset, hanswers⟩ := h olgaPolicies olga (by decide) (str "subject=ann; type=robot")
  have hrobot : setImpersonation olgaPolicies olga (str "subject=ann; type=robot") =
      some { olga with impersonation := str "ann", impersonationType := str "robot" } := by decide
  obtain rfl := Option.some.inj (hrobot.symm.trans hset)
  have hpanics : wrapper { olga with impersonation := str "ann", impersonationType := str "robot" }
      (fun _ => true) = none := by decide
  have hasks := hanswers.asks fun _ => true
  rw [hpanics] at hasks
  cases hasks

end Kalm.Impersonation
