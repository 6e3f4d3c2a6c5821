/-
  File:      Kalm/Api/ImageTag.lean
  Subject:   THE TAG OF AN IMAGE: what `replaceImageTag` of api/handler/webhook.go makes of a reference.

  * `replaceImageTag_of_last`, `replaceImageTag_of_none` -- the text behind the last colon is replaced, or one is added;
  * `replaceImageTag_twice` -- replacing twice is replacing once with the last tag;
  * `Retags` -- the result is a reference with the same name, the tag, and no digest;
  * `retags_iff` -- it is one exactly when there was no digest, and a tag or no port.
-/
import Kalm.Docker.Reference
import Kalm.Api.DeployWebhook
import Kalm.Lib.Parts

namespace Kalm.Images

open DeployWebhook (replaceImageTag)

variable {image front back tag tag' : Str} {r : Reference}

/-! ## 1. Behind the last colon -/

/-- The tag replaces what is behind the last colon. -/
theorem replaceImageTag_of_last (hback : colon ∉ back) :
    replaceImageTag (front ++ colon :: back) tag = front ++ colon :: tag := by
  have hsplit : (front ++ colon :: back).splitOn colon = front.splitOn colon ++ [back] := by
    rw [List.splitOn_append_cons_self, List.splitOn_eq_singleton hback]
  have hjoin : [colon].intercalate (front.splitOn colon) = front := List.intercalate_splitOn colon
  rw [replaceImageTag, if_neg (not_not.mpr (List.mem_append_right _ List.mem_cons_self)), hsplit, List.dropLast_concat,
    Parts.intercalate_append [colon] (List.splitOn_ne_nil colon front) (List.cons_ne_nil _ _), hjoin,
    List.intercalate_singleton, List.append_assoc]
  rfl

/-- Where there is no colon, it is added. -/
theorem replaceImageTag_of_none (h : colon ∉ image) : replaceImageTag image tag = image ++ colon :: tag := if_pos h

/-- **The last tag wins.** -/
theorem replaceImageTag_twice (htag : colon ∉ tag) :
    replaceImageTag (replaceImageTag image tag) tag' = replaceImageTag image tag' := by
  cases hcut : Cuts.cutLast colon image with
  | none =>
      have hcolon := Cuts.cutLast_eq_none.mp hcut
      rw [replaceImageTag_of_none hcolon, replaceImageTag_of_last htag, replaceImageTag_of_none hcolon]
  | some halves =>
      obtain ⟨front, back⟩ := halves
      obtain ⟨hback, rfl⟩ := Cuts.cutLast_eq_some.mp hcut
      rw [replaceImageTag_of_last hback, replaceImageTag_of_last htag, replaceImageTag_of_last hback]

/-! ## 2. References -/

/-- The reference with a tag and without a digest. -/
def Reference.retag (r : Reference) (tag : Str) : Reference := { r with tag := some tag, digest := none }

/-- **The tag is changed and nothing else**: the result reads as the reference with the tag, and another replacement
    forgets it. -/
def Retags (image tag tag' : Str) (r : Reference) : Prop :=
  parse (replaceImageTag image tag) = some (r.retag tag) ∧
    replaceImageTag (replaceImageTag image tag) tag' = replaceImageTag image tag'

theorem Reference.Valid.retag (h : r.Valid) (htag : isTag tag = true) : (r.retag tag).Valid :=
  ⟨⟨h.name, fun _ ht => Option.some.inj ht ▸ htag, nofun⟩, h.length⟩

theorem text_retag (r : Reference) (tag : Str) : (r.retag tag).text = r.name ++ colon :: tag := List.append_nil _

/-- The result reads as the reference with the tag when it is written so. -/
theorem parse_eq_retag (h : r.Valid) (htag : isTag tag = true) {s : Str} :
    parse s = some (r.retag tag) ↔ s = r.name ++ colon :: tag := by
  rw [parse_eq_some, text_retag]
  exact and_iff_right (h.retag htag)

/-- A digest ends in a colon and digits. -/
theorem exists_of_isDigest {digest : Str} (h : isDigest digest = true) :
    ∃ algorithm encoded, colon ∉ encoded ∧ digest = algorithm ++ colon :: encoded := by
  unfold isDigest at h
  split at h
  · cases h
  · rename_i algorithm encoded hcut
    refine ⟨algorithm, encoded, fun hmem => ?_, (Cuts.cut_eq_some.mp hcut).2⟩
    have hbyte := List.all_eq_true.mp (Bool.and_eq_true_iff.mp h).2 colon hmem
    exact absurd hbyte (by decide)

/-- The colons of a name are those of its domain. -/
theorem Reference.Valid.colon_mem_iff (h : r.Valid) : colon ∈ r.name ↔ colon ∈ r.domain := by
  rcases parseName_eq_some h.name with ⟨hdomain, hname, hpath⟩ | ⟨hname, _, hpath⟩
  · rw [hname, hdomain]
    exact iff_of_false (colon_not_mem_path hpath) List.not_mem_nil
  · rw [hname]
    refine ⟨fun hmem => ?_, List.mem_append_left _⟩
    rcases List.mem_append.mp hmem with hmem | hmem
    · exact hmem
    · rcases List.mem_cons.mp hmem with heq | hmem
      · exact absurd heq (by decide)
      · exact absurd hmem (colon_not_mem_path hpath)

/-- **Deploying a tag changes the tag and nothing else** exactly when the image has no digest, and has a tag or no
    port. -/
theorem retags_iff (h : parse image = some r) (htag : isTag tag = true) :
    Retags image tag tag' r ↔ r.digest = none ∧ (r.tag ≠ none ∨ colon ∉ r.domain) := by
  obtain ⟨hvalid, rfl⟩ := parse_eq_some.mp h
  obtain ⟨hcolon, _, hat⟩ := not_mem_tag htag
  unfold Retags
  rw [and_iff_left (replaceImageTag_twice hcolon), parse_eq_retag hvalid htag]
  unfold Reference.text
  cases hdigest : r.digest with
  | some digest =>
      -- the tag comes behind the at sign
      obtain ⟨algorithm, encoded, hencoded, rfl⟩ := exists_of_isDigest (hvalid.digest digest hdigest)
      refine iff_of_false (fun heq => ?_) fun hnone => nomatch hnone.1
      have hlast : r.name ++ tagText r.tag ++ digestText (some (algorithm ++ colon :: encoded)) =
          (r.name ++ tagText r.tag ++ atSign :: algorithm) ++ colon :: encoded := by
        rw [digestText, List.append_assoc _ (atSign :: algorithm), List.cons_append]
      rw [hlast, replaceImageTag_of_last hencoded] at heq
      have hmem : atSign ∈ r.name ++ colon :: tag := by
        rw [← heq]
        exact List.mem_append_left _ (List.mem_append_right _ List.mem_cons_self)
      rcases List.mem_append.mp hmem with hmem | hmem
      · exact hvalid.atSign_not_mem hmem
      · rcases List.mem_cons.mp hmem with heq | hmem
        · exact absurd heq (by decide)
        · exact hat hmem
  | none =>
      rw [digestText, List.append_nil, eq_self_iff_true, true_and]
      cases hold : r.tag with
      | some old =>
          rw [tagText, replaceImageTag_of_last (not_mem_tag (hvalid.tag old hold)).1]
          exact iff_of_true rfl (Or.inl (Option.some_ne_none old))
      | none =>
          rw [tagText, List.append_nil, ← hvalid.colon_mem_iff]
          by_cases hmem : colon ∈ r.name
          · -- the port is taken for a tag, and the path goes with it
            obtain ⟨⟨front, back⟩, hcut⟩ := Option.ne_none_iff_exists'.mp
              (mt Cuts.cutLast_eq_none.mp (not_not.mpr hmem))
            obtain ⟨hback, hname⟩ := Cuts.cutLast_eq_some.mp hcut
            refine iff_of_false (fun heq => ?_) (not_or.mpr ⟨not_not.mpr rfl, not_not.mpr hmem⟩)
            have hlength := congrArg List.length heq
            rw [hname, replaceImageTag_of_last hback] at hlength
            simp only [List.length_append, List.length_cons] at hlength
            omega
          · rw [replaceImageTag_of_none hmem]
            exact iff_of_true rfl (Or.inr hmem)

/-- A tag is replaced. -/
theorem retags_web : Retags (str "web:v1") (str "v2") (str "v3") ⟨[], str "web", some (str "v1"), none⟩ :=
  (retags_iff (by decide) (by decide)).mpr ⟨rfl, Or.inl nofun⟩

/-- **A port without a tag**: the image becomes `localhost:v2`. -/
theorem retags_fails : parse (str "localhost:5000/web") = some ⟨str "localhost:5000", str "web", none, none⟩ ∧
    ¬ Retags (str "localhost:5000/web") (str "v2") (str "v3") ⟨str "localhost:5000", str "web", none, none⟩ := by
  refine ⟨by decide, fun h => ?_⟩
  have hread : parse (replaceImageTag (str "localhost:5000/web") (str "v2")) =
      some ⟨[], str "localhost", some (str "v2"), none⟩ := by decide
  have heq := h.1.symm.trans hread
  exact absurd heq (by decide)

end Kalm.Images
