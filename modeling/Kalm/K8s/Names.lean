/-
  File:      Kalm/K8s/Names.lean
  Subject:   NAMES of Kubernetes objects: the three documented name grammars of
             `k8s.io/apimachinery/pkg/util/validation`, and names that carry their validity.

  * `isDNS1123Label`, `isDNS1123Subdomain`, `isDNS1035Label` -- the grammars (the API functions
    return a list of messages; the modelled code only asks whether it is empty);
  * `DnsLabel`, `DnsSubdomain` -- a namespace name and an object name, as the API server lets them
    exist: an invalid name cannot be built.
-/
import Kalm.Go.Strings

namespace Kalm

/-- `[a-z0-9]` -/
def isLowerAlnum (b : UInt8) : Bool := (97 ≤ b && b ≤ 122) || (48 ≤ b && b ≤ 57)

/-- `[-a-z0-9]` -/
def isLabelByte (b : UInt8) : Bool := b == dash || isLowerAlnum b

/-- `[a-z0-9]([-a-z0-9]*[a-z0-9])?` -/
def isLabelText (s : Str) : Bool :=
  s.head?.any isLowerAlnum && s.getLast?.any isLowerAlnum && s.all isLabelByte

/-- `IsDNS1123Label`. -/
def isDNS1123Label (s : Str) : Bool := isLabelText s && s.length ≤ 63

/-- `IsDNS1123Subdomain`: labels joined by dots. -/
def isDNS1123Subdomain (s : Str) : Bool := (s.splitOn dot).all isLabelText && s.length ≤ 253

/-- `IsDNS1035Label`: a label that starts with a letter. -/
def isDNS1035Label (s : Str) : Bool :=
  isLabelText s && s.head?.any (fun b => 97 ≤ b && b ≤ 122) && s.length ≤ 63

/-- `apimachineryvalidation.ValidateNamespaceName(name, false)` finds nothing. -/
def validNamespaceName (s : Str) : Bool := isDNS1123Label s

/-- The name of a namespace. -/
structure DnsLabel where
  val : Str
  ok : isDNS1123Label val = true
  deriving DecidableEq

/-- The name of an object. -/
structure DnsSubdomain where
  val : Str
  ok : isDNS1123Subdomain val = true
  deriving DecidableEq

theorem isLabelByte_graphic {b : UInt8} (h : isLabelByte b = true) : 0x21 ≤ b ∧ b ≤ 0x7E := by
  unfold isLabelByte isLowerAlnum at h
  simp only [Bool.or_eq_true, Bool.and_eq_true, beq_iff_eq, decide_eq_true_eq, UInt8.le_iff_toNat_le,
    UInt8.reduceToNat] at h ⊢
  rcases h with rfl | h | h
  · decide
  · omega
  · omega

theorem isLabelByte_ne_comma {b : UInt8} (h : isLabelByte b = true) : b ≠ comma := by
  rintro rfl
  exact absurd h (by decide)

theorem all_of_isLabelText {s : Str} (h : isLabelText s = true) : ∀ b ∈ s, isLabelByte b = true := by
  unfold isLabelText at h
  simp only [Bool.and_eq_true, List.all_eq_true] at h
  exact h.2

theorem isLabelText_ne_nil {s : Str} (h : isLabelText s = true) : s ≠ [] := by
  rintro rfl
  exact absurd h (by decide)

theorem isDNS1123Label_text {s : Str} (h : isDNS1123Label s = true) : isLabelText s = true := by
  unfold isDNS1123Label at h
  exact (Bool.and_eq_true_iff.mp h).1

theorem isDNS1035Label_text {s : Str} (h : isDNS1035Label s = true) : isLabelText s = true := by
  unfold isDNS1035Label at h
  exact (Bool.and_eq_true_iff.mp (Bool.and_eq_true_iff.mp h).1).1

theorem isLabelText_graphic {s : Str} (h : isLabelText s = true) : Graphic s :=
  fun b hb => isLabelByte_graphic (all_of_isLabelText h b hb)

theorem isLabelText_cleanField {s : Str} (h : isLabelText s = true) : CleanField s :=
  cleanField_of_graphic (isLabelText_graphic h)
    fun hc => isLabelByte_ne_comma (all_of_isLabelText h _ hc) rfl

theorem DnsLabel.text (n : DnsLabel) : isLabelText n.val = true := isDNS1123Label_text n.ok

theorem DnsLabel.label (n : DnsLabel) : ∀ b ∈ n.val, isLabelByte b = true :=
  all_of_isLabelText n.text

/-- The bytes of an object name are those of its labels and the dots between them. -/
theorem DnsSubdomain.bytes (n : DnsSubdomain) : ∀ b ∈ n.val, isLabelByte b = true ∨ b = dot := by
  have h := n.ok
  unfold isDNS1123Subdomain at h
  have hall := List.all_eq_true.mp (Bool.and_eq_true_iff.mp h).1
  intro b hb
  by_cases hd : b = dot
  · exact Or.inr hd
  · left
    have hj : [dot].intercalate (n.val.splitOn dot) = n.val := List.intercalate_splitOn dot
    rw [← hj] at hb
    obtain ⟨piece, hp, hbp⟩ := mem_intercalate hd hb
    exact all_of_isLabelText (hall piece hp) b hbp
where
  mem_intercalate {b d : UInt8} {ls : List Str} (hd : b ≠ d) (hb : b ∈ [d].intercalate ls) :
      ∃ l ∈ ls, b ∈ l := by
    induction ls with
    | nil => simp at hb
    | cons l ls ih =>
        cases ls with
        | nil => exact ⟨l, List.mem_cons_self, by simpa using hb⟩
        | cons m ls =>
            rw [List.intercalate_cons_cons] at hb
            rcases List.mem_append.mp hb with hb | hb
            · rcases List.mem_append.mp hb with hb | hb
              · exact ⟨l, List.mem_cons_self, hb⟩
              · exact absurd (List.mem_singleton.mp hb) hd
            · obtain ⟨k, hk, hbk⟩ := ih hb
              exact ⟨k, List.mem_cons_of_mem _ hk, hbk⟩

theorem DnsSubdomain.graphic (n : DnsSubdomain) : Graphic n.val := by
  intro b hb
  rcases n.bytes b hb with h | rfl
  · exact isLabelByte_graphic h
  · decide

/-! The names that the examples of other files use. -/

theorem isDNS1123Label_shop : isDNS1123Label (str "shop") = true := by decide

theorem isDNS1123Label_bank : isDNS1123Label (str "bank") = true := by decide

theorem isDNS1123Subdomain_eve : isDNS1123Subdomain (str "eve") = true := by decide

theorem isDNS1123Subdomain_web : isDNS1123Subdomain (str "web") = true := by decide

end Kalm
