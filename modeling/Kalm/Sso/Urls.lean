/-
  File:      Kalm/Sso/Urls.lean
  Subject:   THE URLS OF THE AUTH-PROXY: `GetOIDCProviderInfo` writes them from the domain and the port of a config.

  * `HasSchemeAndHost` -- a URL with a scheme (`getScheme`) and a host in its authority;
  * `urls_iff` -- the issuer and the external URL have both exactly where there is no other issuer, and the domain
    names a host.
-/
import Mathlib.Data.List.TakeWhile
import Kalm.Go.Url
import Kalm.Proxy.Groups

namespace Kalm.Sso

/-! ## 1. URLs -/

/-- A byte at which the authority of a URL ends. -/
def endsAuthority (c : UInt8) : Bool := c = slash || c = questionMark || c = 35

/-- What stands behind `//`, up to the path, the query or the fragment. -/
def authority (s : Str) : Str := s.takeWhile fun c => !endsAuthority c

/-- An authority without its user. -/
def withoutUser (a : Str) : Str := (a.reverse.takeWhile fun c => c ≠ atSign).reverse

/-- It names a host: there is a byte, and it is not the colon of a port. -/
def NamesHost (s : Str) : Prop := ∃ c rest, withoutUser (authority s) = c :: rest ∧ c ≠ colon

/-- A URL with a scheme and a host. -/
def HasSchemeAndHost (url : Str) : Prop :=
  ∃ scheme rest, getScheme url = some (scheme, str "//" ++ rest) ∧ scheme ≠ [] ∧ NamesHost rest

/-! ## 2. Ports and paths -/

/-- The bytes of a number are digits. -/
theorem isDigit_of_mem_itoa {n : Nat} {b : UInt8} (h : b ∈ itoa n) : isDigit b = true := by
  have hdigits : ∀ k : Fin 10, (utf8.enc (Char.ofNat (48 + k))).all isDigit = true := by decide
  obtain ⟨c, hc, hb⟩ := List.mem_flatMap.mp h
  have hdigit := Nat.isDigit_of_mem_toDigits (by decide) (by decide) hc
  simp only [Char.isDigit, ge_iff_le, Bool.and_eq_true, decide_eq_true_eq] at hdigit
  have hlow : 48 ≤ c.toNat := hdigit.1
  have hhigh : c.toNat ≤ 57 := hdigit.2
  have hchar : c = Char.ofNat (48 + (⟨c.toNat - 48, by omega⟩ : Fin 10)) := by
    rw [show 48 + ((⟨c.toNat - 48, by omega⟩ : Fin 10) : Nat) = c.toNat from by simp only; omega, Char.ofNat_toNat]
  have hall := hdigits ⟨c.toNat - 48, by omega⟩
  rw [← hchar] at hall
  exact List.all_eq_true.mp hall b hb

theorem itoa_inj {m n : Nat} (h : itoa m = itoa n) : m = n := by
  have hdigits := utf8.flat_inj.mp h
  have hm : Nat.ofDigitChars 10 (Nat.toDigits 10 m) 0 = m := Nat.ofDigitChars_ten_toDigits
  rw [hdigits, Nat.ofDigitChars_ten_toDigits] at hm
  exact hm.symm

theorem dash_not_mem_itoa (n : Nat) : dash ∉ itoa n := fun h => absurd (isDigit_of_mem_itoa h) (by decide)

/-- A number behind a dash can be read back, and so can what stands before it. -/
theorem append_itoa_inj {a b : Str} {m n : Nat} (h : a ++ dash :: itoa m = b ++ dash :: itoa n) : a = b ∧ m = n := by
  have hnumber : ∀ (s : Str) (k : Nat),
      (s ++ dash :: itoa k).reverse.takeWhile (fun b => b != dash) = (itoa k).reverse := by
    intro s k
    have hplain : ∀ b ∈ (itoa k).reverse, (b != dash) = true := by
      intro b hb
      rw [bne_iff_ne]
      rintro rfl
      exact dash_not_mem_itoa k (List.mem_reverse.mp hb)
    simp [List.takeWhile_append_of_pos hplain]
  have hreverse : (itoa m).reverse = (itoa n).reverse := by rw [← hnumber a m, ← hnumber b n, h]
  obtain rfl := itoa_inj (List.reverse_injective hreverse)
  exact ⟨List.append_cancel_right h, rfl⟩

/-- A port has no byte that ends an authority, and no user. -/
theorem plain_of_mem_formatInt {n : Int} {b : UInt8} (h : b ∈ formatInt n) :
    endsAuthority b = false ∧ b ≠ atSign := by
  have hdigit (b : UInt8) : isDigit b = true → endsAuthority b = false ∧ b ≠ atSign :=
    forall_byte (P := fun b => isDigit b = true → endsAuthority b = false ∧ b ≠ atSign) (by decide +kernel) b
  unfold formatInt at h
  split at h
  · rcases List.mem_cons.mp h with rfl | h
    · decide
    · exact hdigit b (isDigit_of_mem_itoa h)
  · exact hdigit b (isDigit_of_mem_itoa h)

/-- A path behind it does not change the authority. -/
theorem authority_append_path (s path : Str) : authority (s ++ slash :: path) = authority s := by
  unfold authority
  rw [List.takeWhile_append]
  split
  · rename_i h
    have hnone : (slash :: path).takeWhile (fun c => !endsAuthority c) = [] := rfl
    rw [hnone, List.append_nil, (List.takeWhile_prefix _).eq_of_length h]
  · rfl

/-- **A port behind it** does not change whether it names a host. -/
theorem namesHost_append_port (s : Str) (n : Int) : NamesHost (s ++ colon :: formatInt n) ↔ NamesHost s := by
  unfold NamesHost authority
  have hplain : (colon :: formatInt n).takeWhile (fun c => !endsAuthority c) = colon :: formatInt n := by
    refine List.takeWhile_eq_self_iff.mpr fun b hb => ?_
    rcases List.mem_cons.mp hb with rfl | hb
    · rfl
    · rw [(plain_of_mem_formatInt hb).1]
      rfl
  rw [List.takeWhile_append]
  split
  · rename_i h
    rw [hplain, (List.takeWhile_prefix _).eq_of_length h]
    unfold withoutUser
    have huser : ∀ b ∈ (colon :: formatInt n).reverse, decide (b ≠ atSign) = true := by
      intro b hb
      rcases List.mem_cons.mp (List.mem_reverse.mp hb) with rfl | hb
      · rfl
      · exact decide_eq_true (plain_of_mem_formatInt hb).2
    rw [List.reverse_append, List.takeWhile_append_of_pos huser, List.reverse_append, List.reverse_reverse]
    cases (s.reverse.takeWhile fun c => c ≠ atSign).reverse with
    | nil =>
        refine iff_of_false ?_ (by rintro ⟨c, rest, h, _⟩; cases h)
        rintro ⟨c, rest, h, hc⟩
        exact hc (List.cons.inj h).1.symm
    | cons c rest =>
        rw [List.cons_append]
        constructor
        · rintro ⟨d, rest', h, hd⟩
          exact ⟨c, rest, rfl, (List.cons.inj h).1 ▸ hd⟩
        · rintro ⟨d, rest', h, hd⟩
          exact ⟨c, _, rfl, (List.cons.inj h).1 ▸ hd⟩
  · exact Iff.rfl

/-! ## 3. The URLs of a config -/

/-- The domain, with the port of the config. -/
theorem namesHost_portText (spec : SingleSignOnConfigSpec) :
    NamesHost (spec.domain ++ spec.portText) ↔ NamesHost spec.domain := by
  unfold SingleSignOnConfigSpec.portText
  split
  · rw [List.append_nil]
  · split
    · rw [List.append_nil]
    · exact namesHost_append_port ..

/-- A URL without a scheme. -/
theorem not_hasSchemeAndHost (rest : Str) : ¬ HasSchemeAndHost (str "://" ++ rest) := by
  rintro ⟨scheme, rest', h, _⟩
  have hnone : getScheme (str "://" ++ rest) = none := rfl
  rw [hnone] at h
  cases h

/-- A URL with one of the two schemes. -/
theorem hasSchemeAndHost_iff (useHttp : Bool) (rest : Str) :
    HasSchemeAndHost ((if useHttp then str "http" else str "https") ++ str "://" ++ rest) ↔ NamesHost rest := by
  have hscheme : getScheme ((if useHttp then str "http" else str "https") ++ str "://" ++ rest) =
      some (if useHttp then str "http" else str "https", str "//" ++ rest) := by
    cases useHttp <;> rfl
  constructor
  · rintro ⟨scheme, rest', h, _, hhost⟩
    have heq := (Prod.ext_iff.mp (Option.some.inj (hscheme.symm.trans h))).2
    rwa [List.append_cancel_left heq]
  · exact fun h => ⟨_, rest, hscheme, by cases useHttp <;> decide, h⟩

/-- **The URLs of the auth-proxy** have a scheme and a host where there is no issuer, and the domain names a host. -/
theorem urls_iff {spec : SingleSignOnConfigSpec} (hext : spec.externalEnvoyExtAuthz = none) :
    HasSchemeAndHost (getOIDCProviderInfo spec).issuer ∧
        HasSchemeAndHost (getOIDCProviderInfo spec).authProxyExternalUrl ↔
      spec.issuer = [] ∧ NamesHost spec.domain := by
  unfold getOIDCProviderInfo
  simp only [hext]
  by_cases hissuer : spec.issuer = []
  · have hscheme : spec.scheme = if spec.useHttp then str "http" else str "https" := if_neg (not_not.mpr hissuer)
    have hdex : NamesHost (spec.domain ++ spec.portText ++ str "/dex") ↔ NamesHost spec.domain := by
      rw [← namesHost_portText spec, NamesHost, NamesHost,
        show str "/dex" = slash :: str "dex" from rfl, authority_append_path]
    rw [if_neg (not_not.mpr hissuer), hscheme, List.append_assoc _ spec.domain, List.append_assoc _ (_ ++ _),
      hasSchemeAndHost_iff, hasSchemeAndHost_iff, hdex, namesHost_portText, and_self, and_iff_right hissuer]
  · have hscheme : spec.scheme = [] := if_pos hissuer
    refine iff_of_false (fun h => ?_) fun h => hissuer h.1
    rw [hscheme, List.nil_append, List.append_assoc] at h
    exact not_hasSchemeAndHost _ h.2

end Kalm.Sso
