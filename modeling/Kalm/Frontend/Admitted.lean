/-
  File:      Kalm/Frontend/Admitted.lean
  Subject:   WHAT THE FORMS ACCEPT AND WHAT ADMISSION ACCEPTS: the validators of the forms against `ParseStandard`,
             `IsCIdentifier`, `ParseQuantity` and `isValidRouteHost`.

  * `ScheduleAdmitted`, `EnvNameAdmitted`, `SizeAdmitted` -- what the form accepts, admission accepts;
  * `HostAccepted`, `RouteHostsAgree` -- addresses and host names, and the hosts of a route;
  * `ScheduleGap`, `EnvNameGap`, `SizeGap`, `HostGap`, `RouteHostsGap` -- the texts where it is not so;
  * `forms_iff` -- these are all of them.
-/
import Kalm.Frontend.Validator
import Kalm.Go.Cron
import Kalm.Route.Objects

namespace Kalm.Forms

open Cron (Bounds minutes hours dom months dow parseStandard getField IsField isBlank)

/-! ## 1. Schedules -/

/-- What the form accepts is a schedule. -/
def ScheduleAdmitted (value : Str) : Prop := validatorSchedule value = none → parseStandard value = true

/-- A field that the grammar does not have: steps of zero, and a number out of range. -/
def BadField (r : Bounds) (field : Str) : Prop :=
  field = str "*/0" ∨ ∃ n, field = itoa n ∧ ¬ (r.min ≤ n ∧ n ≤ r.max)

/-- A schedule of the form with a field that the grammar does not have. -/
def ScheduleGap (value : Str) : Prop :=
  ∃ minute hour dayOfMonth month dayOfWeek, FormSchedule value minute hour dayOfMonth month dayOfWeek ∧
    (BadField minutes minute ∨ BadField hours hour ∨ BadField dom dayOfMonth ∨ BadField months month ∨
      BadField dow dayOfWeek)

theorem star_not_mem_itoa (n : Nat) : star ∉ itoa n := fun h => absurd (Sso.isDigit_of_mem_itoa h) (by decide)

theorem itoa_ne_step (n : Nat) (s : Str) : itoa n ≠ str "*/" ++ s := fun h => by
  have hmem : star ∈ str "*/" ++ s := List.mem_cons_self
  exact star_not_mem_itoa n (h ▸ hmem)

/-- The fields of the form, in any of the ranges. -/
theorem getField_numbers : ∀ r ∈ [minutes, hours, dom, months, dow], getField [star] r = true ∧ ∀ n < 60,
    getField (itoa n) r = decide (r.min ≤ n ∧ n ≤ r.max) ∧ getField (str "*/" ++ itoa n) r = decide (n ≠ 0) := by
  decide +kernel

/-- **A field of the form is read when it is not a bad one.** -/
theorem getField_iff {r : Bounds} (hr : r ∈ [minutes, hours, dom, months, dow]) {low high : Nat} (hhigh : high < 60)
    {field : Str} (h : FormField low high field) : getField field r = true ↔ ¬ BadField r field := by
  obtain ⟨hstar, hnumbers⟩ := getField_numbers r hr
  rcases h with rfl | ⟨n, _, hn, rfl | rfl⟩
  · refine iff_of_true hstar fun hbad => ?_
    rcases hbad with hzero | ⟨n, hn, _⟩
    · exact absurd hzero (by decide)
    · exact star_not_mem_itoa n (hn ▸ List.mem_singleton_self star)
  · rw [(hnumbers n (by omega)).1, decide_eq_true_iff]
    constructor
    · intro hrange hbad
      rcases hbad with hzero | ⟨m, hm, hnot⟩
      · exact itoa_ne_step n _ hzero
      · exact hnot (Sso.itoa_inj hm ▸ hrange)
    · intro hgood
      by_contra hnot
      exact hgood (Or.inr ⟨n, rfl, hnot⟩)
  · rw [(hnumbers n (by omega)).2, decide_eq_true_iff]
    constructor
    · intro hne hbad
      rcases hbad with hzero | ⟨m, hm, _⟩
      · have hdigits : itoa n = itoa 0 := List.append_cancel_left hzero
        exact hne (Sso.itoa_inj hdigits)
      · exact itoa_ne_step m _ hm.symm
    · intro hgood hzero
      exact hgood (Or.inl (by rw [hzero]; decide))

theorem isField_of_formField {low high : Nat} {field : Str} (h : FormField low high field) : IsField isBlank field := by
  refine ⟨formField_ne_nil h, fun b hb => ?_⟩
  have hdigit (hb : isDigit b = true) : isBlank b = false := by grind [isDigit, isBlank]
  rcases h with rfl | ⟨n, _, _, rfl | rfl⟩
  · rw [List.mem_singleton.mp hb]
    decide
  · exact hdigit (Sso.isDigit_of_mem_itoa hb)
  · rcases List.mem_append.mp hb with hb | hb
    · have hall : ∀ c ∈ str "*/", isBlank c = false := by decide +kernel
      exact hall b hb
    · exact hdigit (Sso.isDigit_of_mem_itoa hb)

/-- **A schedule of the form is one when no field is bad.** -/
theorem FormSchedule.parse_iff {value minute hour dayOfMonth month dayOfWeek : Str}
    (h : FormSchedule value minute hour dayOfMonth month dayOfWeek) : parseStandard value = true ↔
      ¬ (BadField minutes minute ∨ BadField hours hour ∨ BadField dom dayOfMonth ∨ BadField months month ∨
        BadField dow dayOfWeek) := by
  rw [h.text, Cron.parseStandard_intercalate (isField_of_formField h.minute) (isField_of_formField h.hour)
    (isField_of_formField h.dayOfMonth) (isField_of_formField h.month) (isField_of_formField h.dayOfWeek)]
  simp only [Bool.and_eq_true, not_or, and_assoc]
  rw [getField_iff (by decide) (by decide) h.minute, getField_iff (by decide) (by decide) h.hour,
    getField_iff (by decide) (by decide) h.dayOfMonth, getField_iff (by decide) (by decide) h.month,
    getField_iff (by decide) (by decide) h.dayOfWeek]

/-- **Schedules.** -/
theorem scheduleAdmitted_iff (value : Str) : ScheduleAdmitted value ↔ ¬ ScheduleGap value := by
  rw [ScheduleAdmitted, validatorSchedule_eq_none]
  constructor
  · intro hadmitted ⟨minute, hour, dayOfMonth, month, dayOfWeek, hform, hbad⟩
    exact hform.parse_iff.mp (hadmitted ⟨minute, hour, dayOfMonth, month, dayOfWeek, hform⟩) hbad
  · intro hgap ⟨minute, hour, dayOfMonth, month, dayOfWeek, hform⟩
    exact hform.parse_iff.mpr fun hbad => hgap ⟨minute, hour, dayOfMonth, month, dayOfWeek, hform, hbad⟩

/-! ## 2. Names of variables -/

/-- What the form accepts is a name of a variable. -/
def EnvNameAdmitted (value : Str) : Prop := validatorEnvName value = none → isCIdentifier value = true

/-- A name of the form with a dash or a dot. -/
def EnvNameGap (value : Str) : Prop :=
  ∃ b rest, value = b :: rest ∧ isEnvStart b = true ∧ (∀ c ∈ rest, isEnvStart c = true ∨ isDigit c = true) ∧
    (dash ∈ value ∨ dot ∈ value)

theorem isEnvStart_iff (b : UInt8) : isEnvStart b = true ↔ b = dash ∨ b = dot ∨ isIdentifierStart b = true := by
  grind [isEnvStart, isIdentifierStart, isLetter]

/-- A dash and a dot are no bytes of an identifier. -/
theorem not_mem_of_isCIdentifier {value : Str} (h : isCIdentifier value = true) : dash ∉ value ∧ dot ∉ value := by
  have hall := List.all_eq_true.mp (Bool.and_eq_true_iff.mp h).2
  exact ⟨fun hmem => absurd (hall dash hmem) (by decide), fun hmem => absurd (hall dot hmem) (by decide)⟩

/-- **Names of variables.** -/
theorem envNameAdmitted_iff (value : Str) : EnvNameAdmitted value ↔ ¬ EnvNameGap value := by
  rw [EnvNameAdmitted, validatorEnvName_eq_none]
  constructor
  · intro hadmitted ⟨b, rest, hvalue, hb, hrest, hmem⟩
    obtain ⟨hdash, hdot⟩ := not_mem_of_isCIdentifier (hadmitted ⟨b, rest, hvalue, hb, hrest⟩)
    exact hmem.elim hdash hdot
  · intro hgap ⟨b, rest, hvalue, hb, hrest⟩
    have hnot : ¬ (dash ∈ value ∨ dot ∈ value) := fun hmem => hgap ⟨b, rest, hvalue, hb, hrest, hmem⟩
    rw [not_or] at hnot
    have hstart {c : UInt8} (hc : isEnvStart c = true) (hmem : c ∈ value) : isIdentifierStart c = true := by
      rcases (isEnvStart_iff c).mp hc with rfl | rfl | hstart
      · exact absurd hmem hnot.1
      · exact absurd hmem hnot.2
      · exact hstart
    have hbstart := hstart hb (hvalue ▸ List.mem_cons_self)
    have hall : ∀ c ∈ value, (isIdentifierStart c || isDigit c) = true := by
      intro c hc
      rw [Bool.or_eq_true]
      rcases List.mem_cons.mp (hvalue ▸ hc) with rfl | hcrest
      · exact Or.inl hbstart
      · exact (hrest c hcrest).imp_left fun hcstart => hstart hcstart hc
    have hhead : value.head?.any isIdentifierStart = true := by
      rw [hvalue]
      exact hbstart
    rw [isCIdentifier, hhead, List.all_eq_true.mpr hall]
    rfl

/-! ## 3. Sizes of volumes -/

/-- What the form accepts is a quantity. -/
def SizeAdmitted (value : Str) : Prop := validatorVolumeSize value = none → isQuantity value = true

/-- A number of the form with a suffix that quantities do not have. -/
def SizeGap (value : Str) : Prop :=
  value ≠ str "0Gi" ∧ ∃ num suffix, IsNumber num ∧ FormSuffix suffix ∧ value = num ++ suffix ∧
    isQuantitySuffix suffix = false

/-- **Sizes.** -/
theorem sizeAdmitted_iff (value : Str) : SizeAdmitted value ↔ ¬ SizeGap value := by
  rw [SizeAdmitted, validatorVolumeSize_eq_none]
  constructor
  · intro hadmitted ⟨hzero, num, suffix, hnum, hsuffix, hvalue, hnot⟩
    have hquantity := hadmitted ⟨hzero, num, suffix, hnum, hsuffix, hvalue⟩
    rw [hvalue, isQuantity_append hnum hsuffix.ends, hnot] at hquantity
    cases hquantity
  · intro hgap ⟨hzero, num, suffix, hnum, hsuffix, hvalue⟩
    rw [hvalue, isQuantity_append hnum hsuffix.ends]
    by_contra hnot
    exact hgap ⟨hzero, num, suffix, hnum, hsuffix, hvalue, Bool.not_eq_true _ ▸ hnot⟩

/-! ## 4. Labels -/

/-- A capital letter. -/
def isUpper (b : UInt8) : Bool := 65 ≤ b && b ≤ 90

theorem isLowerAlnum_iff (b : UInt8) (h : isWordByte b = true) :
    isLowerAlnum b = true ↔ b ≠ underscore ∧ isUpper b = false := by
  grind [isWordByte, isLetter, isDigit, isLowerAlnum, isUpper]

theorem isLabelByte_iff (b : UInt8) (h : isWordByte b = true) : isLabelByte b = true ↔ isLowerAlnum b = true := by
  grind [isWordByte, isLetter, isDigit, isLabelByte, isLowerAlnum]

theorem lowerLetter_iff (b : UInt8) (h : isLetter b = true) :
    (97 ≤ b && b ≤ 122) = true ↔ isLowerAlnum b = true := by
  grind [isLetter, isLowerAlnum]

theorem isLetter_of_lower {b : UInt8} (h : (97 ≤ b && b ≤ 122) = true) : isLetter b = true := by
  grind [isLetter]

theorem not_isDigit {b : UInt8} (h : isLetter b = true) : ¬ isDigit b = true := by
  grind [isLetter, isDigit]

/-- There is no letter among digits and dots. -/
theorem no_letter {s : Str} (h : ∀ b ∈ s, isDigit b = true ∨ b = dot) : ¬ ∃ b ∈ s, isLetter b = true := by
  intro ⟨b, hb, hletter⟩
  rcases h b hb with hdigit | rfl
  · exact not_isDigit hletter hdigit
  · exact absurd hletter (by decide)

/-- A label of word bytes is one of Kubernetes when its bytes are. -/
theorem isLabelText_iff {w : Str} (hne : w ≠ []) (hword : ∀ b ∈ w, isWordByte b = true) :
    isLabelText w = true ↔ ∀ b ∈ w, isLowerAlnum b = true := by
  constructor
  · exact fun h b hb => (isLabelByte_iff b (hword b hb)).mp (all_of_isLabelText h b hb)
  · intro h
    have hall : w.all isLabelByte = true :=
      List.all_eq_true.mpr fun b hb => (isLabelByte_iff b (hword b hb)).mpr (h b hb)
    have hhead : w.head?.any isLowerAlnum = true := by
      rw [List.head?_eq_some_head hne]
      exact h _ (List.head_mem hne)
    have hlast : w.getLast?.any isLowerAlnum = true := by
      rw [List.getLast?_eq_some_getLast hne]
      exact h _ (List.getLast_mem hne)
    rw [isLabelText, hhead, hlast, hall]
    rfl

/-- A label without a dash is one of a domain when its bytes are. -/
theorem isDomainLabel_iff {w : Str} (hne : w ≠ []) (hdash : dash ∉ w) :
    isDomainLabel w = true ↔ ∀ b ∈ w, isLowerAlnum b = true := by
  rw [isDomainLabel, List.splitOn_eq_singleton hdash, List.all_cons, List.all_nil, Bool.and_true, decide_eq_true hne,
    Bool.true_and, List.all_eq_true]

/-! ## 5. Admission of dotted names -/

section Dotted

variable {s rest last : Str} {labels : List Str}

theorem dash_not_mem_of_word {w : Str} (h : ∀ b ∈ w, isWordByte b = true) : dash ∉ w :=
  fun hmem => absurd (h dash hmem) (by decide)

/-- The bytes of the labels are those of the text without the dots. -/
theorem DottedName.clean_iff (h : DottedName s labels last) :
    ((∀ w ∈ labels, ∀ b ∈ w, isLowerAlnum b = true) ∧ ∀ b ∈ last, isLowerAlnum b = true) ↔
      ∀ b ∈ s, b ≠ underscore ∧ isUpper b = false := by
  constructor
  · intro ⟨hlabels, hlast⟩ b hb
    by_cases hdot : b = dot
    · rw [hdot]
      decide
    · obtain ⟨piece, hpiece, hmem⟩ := Fields.exists_piece_of_mem hb hdot
      rw [h.split] at hpiece
      rcases List.mem_append.mp hpiece with hpiece | hpiece
      · exact (isLowerAlnum_iff b ((h.labels piece hpiece).2 b hmem)).mp (hlabels piece hpiece b hmem)
      · rw [List.mem_singleton.mp hpiece] at hmem
        exact (isLowerAlnum_iff b (isWordByte_of_isLetter (h.last.2 b hmem))).mp (hlast b hmem)
  · intro hclean
    have hmem {w : Str} (hw : w ∈ labels ++ [last]) {b : UInt8} (hb : b ∈ w) : b ∈ s :=
      Fields.mem_of_mem_splitOn (h.split ▸ hw) hb
    refine ⟨fun w hw b hb => ?_, fun b hb => ?_⟩
    · exact (isLowerAlnum_iff b ((h.labels w hw).2 b hb)).mpr (hclean b (hmem (List.mem_append_left _ hw) hb))
    · exact (isLowerAlnum_iff b (isWordByte_of_isLetter (h.last.2 b hb))).mpr
        (hclean b (hmem (List.mem_append_right _ (List.mem_singleton_self _)) hb))

theorem DottedName.isValidK8sHost_iff (h : DottedName s labels last) :
    isValidK8sHost s = true ↔ (∀ b ∈ s, b ≠ underscore ∧ isUpper b = false) ∧ s.length ≤ 253 := by
  rw [← h.clean_iff, isValidK8sHost, isDNS1123Subdomain, Bool.and_eq_true, decide_eq_true_iff, h.split,
    List.all_append, Bool.and_eq_true, List.all_eq_true, List.all_cons, List.all_nil, Bool.and_true]
  refine and_congr_left fun _ => and_congr (forall₂_congr fun w hw => ?_) ?_
  · exact isLabelText_iff (h.labels w hw).1 (h.labels w hw).2
  · exact isLabelText_iff h.last.1 fun b hb => isWordByte_of_isLetter (h.last.2 b hb)

theorem DottedName.isValidDomain_iff (h : DottedName s labels last) :
    isValidDomain s = true ↔ (∀ b ∈ s, b ≠ underscore ∧ isUpper b = false) ∧ 2 ≤ last.length := by
  have hlength : 2 ≤ (labels ++ [last]).length := by
    have hpos := List.length_pos_iff.mpr h.ne_nil
    rw [List.length_append, List.length_singleton]
    omega
  rw [← h.clean_iff, isValidDomain, h.split, List.dropLast_concat, List.getLast?_concat, decide_eq_true hlength,
    Bool.true_and, Bool.and_eq_true,
    List.all_eq_true, Option.any_some, Bool.and_eq_true, decide_eq_true_iff, List.all_eq_true, and_assoc,
    and_comm (a := 2 ≤ last.length)]
  refine and_congr (forall₂_congr fun w hw => ?_) (and_congr_left fun _ => forall₂_congr fun b hb => ?_)
  · exact isDomainLabel_iff (h.labels w hw).1 (dash_not_mem_of_word (h.labels w hw).2)
  · exact lowerLetter_iff b (h.last.2 b hb)

end Dotted

/-! ## 6. Addresses and wildcards -/

/-- A number in front is digits. -/
theorem digits_of_ipNumber {n m : Nat} {seen : Bool} {s rest : Str} (h : ipNumber 10 n seen s = some (m, rest)) :
    ∃ digits, s = digits ++ rest ∧ ∀ b ∈ digits, isDigit b = true := by
  induction s generalizing n seen with
  | nil =>
      unfold ipNumber at h
      split at h
      · obtain ⟨_, rfl⟩ := Prod.mk.inj (Option.some.inj h)
        exact ⟨[], rfl, fun _ hb => absurd hb List.not_mem_nil⟩
      · cases h
  | cons c s ih =>
      unfold ipNumber at h
      split at h
      · split at h
        · obtain ⟨_, rfl⟩ := Prod.mk.inj (Option.some.inj h)
          exact ⟨[], rfl, fun _ hb => absurd hb List.not_mem_nil⟩
        · cases h
      · rename_i d hd
        split at h
        · cases h
        · obtain ⟨digits, rfl, hdigits⟩ := ih h
          have hc : isDigit c = true := by grind [digitValue, isDigit]
          exact ⟨c :: digits, rfl, List.forall_mem_cons.mpr ⟨hc, hdigits⟩⟩

/-- **The bytes of an IPv4 address** are digits and dots. -/
theorem bytes_of_parseIPv4From {i : Nat} {first : Bool} {s : Str} (h : parseIPv4From i first s = true) :
    ∀ b ∈ s, isDigit b = true ∨ b = dot := by
  induction i generalizing first s with
  | zero =>
      have hnil : s = [] := of_decide_eq_true h
      rw [hnil]
      exact fun _ hb => absurd hb List.not_mem_nil
  | succ i ih =>
      unfold parseIPv4From at h
      split at h
      · cases h
      · rename_i t ht
        split at h
        · cases h
        · rename_i n rest hnumber
          split at h
          · cases h
          · obtain ⟨digits, rfl, hdigits⟩ := digits_of_ipNumber hnumber
            have htail : ∀ b ∈ digits ++ rest, isDigit b = true ∨ b = dot := fun b hb =>
              (List.mem_append.mp hb).elim (fun hb => Or.inl (hdigits b hb)) (ih h b)
            cases first with
            | true => exact Option.some.inj ht ▸ htail
            | false =>
                obtain ⟨hdot, ht⟩ := Option.ite_none_right_eq_some.mp ht
                cases s with
                | nil => cases hdot
                | cons c s =>
                    obtain rfl := Option.some.inj hdot
                    obtain rfl := Option.some.inj ht
                    exact List.forall_mem_cons.mpr ⟨Or.inr rfl, htail⟩

/-- An address has a colon, or digits and dots alone. -/
theorem bytes_of_isValidIP {s : Str} (h : isValidIP s = true) : colon ∈ s ∨ ∀ b ∈ s, isDigit b = true ∨ b = dot := by
  unfold isValidIP parseIP at h
  split at h
  · cases h
  · rename_i b hfind
    split at h
    · exact Or.inr (bytes_of_parseIPv4From h)
    · rename_i hdot
      have hb := List.find?_some hfind
      have hmem := List.mem_of_find?_eq_some hfind
      rw [Bool.or_eq_true, beq_iff_eq, beq_iff_eq] at hb
      exact Or.inl (hb.resolve_left hdot ▸ hmem)

/-- **A wildcard is a star, or a star in front of a domain.** -/
theorem isValidWildcardDomain_iff {s : Str} : isValidWildcardDomain s = true ↔
    s = [star] ∨ ∃ rest, s = star :: dot :: rest ∧ isValidDomain rest = true := by
  have hjoin : [dot].intercalate (s.splitOn dot) = s := List.intercalate_splitOn dot
  unfold isValidWildcardDomain
  by_cases hstar : s = [star]
  · rw [if_pos hstar]
    exact iff_of_true rfl (Or.inl hstar)
  · rw [if_neg hstar, or_iff_right hstar]
    dsimp only
    constructor
    · intro h
      split at h
      · cases h
      · rename_i hlength
        rw [Bool.and_eq_true, decide_eq_true_iff] at h
        obtain ⟨hfirst, hdomain⟩ := h
        cases hpieces : s.splitOn dot with
        | nil => exact absurd hpieces (List.splitOn_ne_nil dot s)
        | cons first pieces =>
            rw [hpieces] at hfirst hdomain hjoin hlength
            obtain rfl := Option.some.inj hfirst
            cases pieces with
            | nil => exact absurd (by decide) hlength
            | cons second pieces =>
                refine ⟨[dot].intercalate (second :: pieces), ?_, hdomain⟩
                rw [← hjoin, List.intercalate_cons_cons]
                rfl
    · intro ⟨rest, hs, hdomain⟩
      have hsplit : s.splitOn dot = [star] :: rest.splitOn dot := by
        have hs' : s = [star] ++ dot :: rest := hs
        rw [hs', List.splitOn_append_cons_self, List.splitOn_eq_singleton (by decide)]
        rfl
      have hlength : 2 ≤ (rest.splitOn dot).length := by
        unfold isValidDomain at hdomain
        exact of_decide_eq_true (Bool.and_eq_true_iff.mp (Bool.and_eq_true_iff.mp hdomain).1).1
      have hthree : ¬ ([star] :: rest.splitOn dot).length < 3 := by
        rw [List.length_cons]
        omega
      rw [hsplit, if_neg hthree, List.head?_cons, List.drop_one, List.tail_cons]
      have hrest : [dot].intercalate (rest.splitOn dot) = rest := List.intercalate_splitOn dot
      rw [hrest, hdomain]
      rfl

/-! ## 7. The hosts of a route -/

/-- The piece behind the last dot. -/
def lastLabel (s : Str) : Str := (s.splitOn dot).getLast?.getD []

/-- A host of the form that admission refuses: an underscore, a capital letter, or a last label of one letter behind a
    wildcard or in a name of more than 253 bytes. -/
def FormOnly (s : Str) : Prop :=
  FormName s ∧ (underscore ∈ s ∨ (∃ b ∈ s, isUpper b = true) ∨
    ((lastLabel s).length = 1 ∧ (star ∈ s ∨ 253 < s.length)))

/-- A name that the form does not read: with a dash, without a dot, or with a digit behind the last one. -/
def Unread (s : Str) : Prop := dash ∈ s ∨ dot ∉ s ∨ ∃ b ∈ lastLabel s, isDigit b = true

/-- A host of admission that the form refuses: a Kubernetes name that is not read; an address that is not four short
    numbers; a domain with a dash or of more than 511 bytes. -/
def AdmissionOnly (s : Str) : Prop :=
  (isValidK8sHost s = true ∧ ¬ ShortQuad s ∧ Unread s) ∨
  (isValidIP s = true ∧ ¬ ShortQuad s) ∨
  ((isValidDomain s = true ∨ isValidWildcardDomain s = true) ∧ s ≠ [star] ∧ (dash ∈ s ∨ 511 < s.length))

section Names

variable {s rest last : Str} {labels : List Str}

theorem DottedName.exists_letter (h : DottedName s labels last) : ∃ b ∈ s, isLetter b = true := by
  obtain ⟨b, hb⟩ := List.exists_mem_of_ne_nil last h.last.1
  have hpiece : last ∈ s.splitOn dot := h.split ▸ List.mem_append_right _ (List.mem_singleton_self _)
  exact ⟨b, Fields.mem_of_mem_splitOn hpiece hb, h.last.2 b hb⟩

theorem DottedName.dot_mem (h : DottedName s labels last) : dot ∈ s := by
  by_contra hdot
  have hsplit := h.split
  rw [List.splitOn_eq_singleton hdot] at hsplit
  have hlength := congrArg List.length hsplit
  have hpos := List.length_pos_iff.mpr h.ne_nil
  rw [List.length_append, List.length_singleton, List.length_singleton] at hlength
  omega

theorem DottedName.star_not_mem (h : DottedName s labels last) : star ∉ s := by
  intro hmem
  rcases h.bytes star hmem with hword | hdot
  · exact absurd hword (by decide)
  · exact absurd hdot (by decide)

theorem DottedName.lastLabel_eq (h : DottedName s labels last) : lastLabel s = last := by
  rw [lastLabel, h.split, List.getLast?_concat]
  rfl

/-- A wildcard in front adds a label. -/
theorem splitOn_starred (rest : Str) : (star :: dot :: rest).splitOn dot = [star] :: rest.splitOn dot := by
  have hs : star :: dot :: rest = [star] ++ dot :: rest := rfl
  rw [hs, List.splitOn_append_cons_self, List.splitOn_eq_singleton (by decide)]
  rfl

theorem lastLabel_starred (rest : Str) : lastLabel (star :: dot :: rest) = lastLabel rest := by
  obtain ⟨first, pieces, hpieces⟩ := List.exists_cons_of_ne_nil (List.splitOn_ne_nil dot rest)
  rw [lastLabel, lastLabel, splitOn_starred, hpieces, List.getLast?_cons_cons]

theorem isValidRouteHost_iff (s : Str) : isValidRouteHost s = true ↔
    isValidK8sHost s = true ∨ isValidIP s = true ∨ isValidDomain s = true ∨ isValidWildcardDomain s = true := by
  rw [isValidRouteHost, Bool.or_eq_true, Bool.or_eq_true, Bool.or_eq_true, or_assoc, or_assoc]

/-- A text with a letter and without a colon is no address. -/
theorem isValidIP_eq_false (hletter : ∃ b ∈ s, isLetter b = true) (hcolon : colon ∉ s) : ¬ isValidIP s = true := by
  intro hip
  rcases bytes_of_isValidIP hip with hmem | hall
  · exact hcolon hmem
  · exact no_letter hall hletter

theorem DottedName.colon_not_mem (h : DottedName s labels last) : colon ∉ s := by
  intro hmem
  rcases h.bytes colon hmem with hword | hdot
  · exact absurd hword (by decide)
  · exact absurd hdot (by decide)

/-- **A name without a wildcard is admitted** when its bytes are, and it is short or has a long last label. -/
theorem DottedName.admitted_iff (h : DottedName s labels last) : isValidRouteHost s = true ↔
    (∀ b ∈ s, b ≠ underscore ∧ isUpper b = false) ∧ (s.length ≤ 253 ∨ 2 ≤ last.length) := by
  have hip := isValidIP_eq_false h.exists_letter h.colon_not_mem
  have hwildcard : ¬ isValidWildcardDomain s = true := by
    intro hwild
    rcases isValidWildcardDomain_iff.mp hwild with rfl | ⟨rest, rfl, _⟩
    · exact h.star_not_mem (List.mem_singleton_self _)
    · exact h.star_not_mem List.mem_cons_self
  rw [isValidRouteHost_iff, or_iff_right hip, or_iff_left hwildcard, h.isValidK8sHost_iff, h.isValidDomain_iff,
    and_or_left]

/-- **A name with one** when its bytes are and its last label is long. -/
theorem DottedName.starred_admitted_iff (h : DottedName rest labels last) :
    isValidRouteHost (star :: dot :: rest) = true ↔
      (∀ b ∈ rest, b ≠ underscore ∧ isUpper b = false) ∧ 2 ≤ last.length := by
  have hfirst : [star] ∈ (star :: dot :: rest).splitOn dot := splitOn_starred rest ▸ List.mem_cons_self
  have hk8s : ¬ isValidK8sHost (star :: dot :: rest) = true := by
    intro hk8s
    unfold isValidK8sHost isDNS1123Subdomain at hk8s
    have hall := List.all_eq_true.mp (Bool.and_eq_true_iff.mp hk8s).1
    exact absurd (hall _ hfirst) (by decide)
  have hletter : ∃ b ∈ star :: dot :: rest, isLetter b = true := by
    obtain ⟨b, hb, hletter⟩ := h.exists_letter
    exact ⟨b, List.mem_cons_of_mem _ (List.mem_cons_of_mem _ hb), hletter⟩
  have hcolon : colon ∉ star :: dot :: rest := by
    intro hmem
    rcases List.mem_cons.mp hmem with heq | hmem
    · exact absurd heq (by decide)
    · rcases List.mem_cons.mp hmem with heq | hmem
      · exact absurd heq (by decide)
      · exact h.colon_not_mem hmem
  have hdomain : ¬ isValidDomain (star :: dot :: rest) = true := by
    intro hdomain
    unfold isValidDomain at hdomain
    rw [splitOn_starred, h.split, ← List.cons_append] at hdomain
    dsimp only at hdomain
    rw [List.dropLast_concat] at hdomain
    have hall := List.all_eq_true.mp (Bool.and_eq_true_iff.mp (Bool.and_eq_true_iff.mp hdomain).1).2
    exact absurd (hall _ List.mem_cons_self) (by decide)
  have hwildcard : isValidWildcardDomain (star :: dot :: rest) = true ↔ isValidDomain rest = true := by
    rw [isValidWildcardDomain_iff]
    constructor
    · intro hwild
      rcases hwild with heq | ⟨rest', heq, hrest⟩
      · exact absurd (List.cons.inj heq).2 (List.cons_ne_nil _ _)
      · obtain rfl := (List.cons.inj (List.cons.inj heq).2).2
        exact hrest
    · exact fun hrest => Or.inr ⟨rest, rfl, hrest⟩
  rw [isValidRouteHost_iff, or_iff_right hk8s, or_iff_right (isValidIP_eq_false hletter hcolon), or_iff_right hdomain,
    hwildcard, h.isValidDomain_iff]

/-- What admission refuses of the names of the form. -/
theorem formName_admitted_iff (h : FormName s) : isValidRouteHost s = true ↔ ¬ FormOnly s := by
  have hclean (t : Str) : (∀ b ∈ t, b ≠ underscore ∧ isUpper b = false) ↔
      underscore ∉ t ∧ ¬ ∃ b ∈ t, isUpper b = true := by
    constructor
    · intro hall
      exact ⟨fun hmem => (hall _ hmem).1 rfl, fun ⟨b, hb, hupper⟩ => by rw [(hall b hb).2] at hupper; cases hupper⟩
    · intro ⟨hunderscore, hupper⟩ b hb
      exact ⟨fun heq => hunderscore (heq ▸ hb), Bool.not_eq_true _ ▸ fun hb' => hupper ⟨b, hb, hb'⟩⟩
  have hiff : FormOnly s ↔ underscore ∈ s ∨ (∃ b ∈ s, isUpper b = true) ∨
      ((lastLabel s).length = 1 ∧ (star ∈ s ∨ 253 < s.length)) := and_iff_right h
  obtain ⟨_, rest, labels, last, hs, hname⟩ := h
  have hpos := List.length_pos_iff.mpr hname.last.1
  rw [hiff, not_or, not_or, ← and_assoc, ← hclean, not_and, not_or, not_lt]
  rcases hs with rfl | rfl
  · rw [hname.admitted_iff, hname.lastLabel_eq]
    refine and_congr_right fun _ => ?_
    constructor
    · intro hor hone
      exact ⟨hname.star_not_mem, hor.resolve_right (by omega)⟩
    · intro himp
      by_cases hone : last.length = 1
      · exact Or.inl (himp hone).2
      · exact Or.inr (by omega)
  · rw [hname.starred_admitted_iff, lastLabel_starred, hname.lastLabel_eq]
    refine and_congr ?_ ?_
    · constructor
      · intro hall
        exact List.forall_mem_cons.mpr ⟨by decide, List.forall_mem_cons.mpr ⟨by decide, hall⟩⟩
      · exact fun hall b hb => hall b (List.mem_cons_of_mem _ (List.mem_cons_of_mem _ hb))
    · constructor
      · intro hlong hone
        omega
      · intro himp
        by_contra hshort
        exact (himp (by omega)).1 List.mem_cons_self

theorem FormName.exists_letter (h : FormName s) : ∃ b ∈ s, isLetter b = true := by
  obtain ⟨_, rest, labels, last, hs, hname⟩ := h
  obtain ⟨b, hb, hletter⟩ := hname.exists_letter
  rcases hs with rfl | rfl
  · exact ⟨b, hb, hletter⟩
  · exact ⟨b, List.mem_cons_of_mem _ (List.mem_cons_of_mem _ hb), hletter⟩

/-- The bytes of a name of the form. -/
theorem FormName.bytes (h : FormName s) : ∀ b ∈ s, isWordByte b = true ∨ b = dot ∨ b = star := by
  obtain ⟨_, rest, labels, last, hs, hname⟩ := h
  have hrest : ∀ b ∈ rest, isWordByte b = true ∨ b = dot ∨ b = star :=
    fun b hb => (hname.bytes b hb).imp_right Or.inl
  rcases hs with rfl | rfl
  · exact hrest
  · exact List.forall_mem_cons.mpr ⟨Or.inr (Or.inr rfl), List.forall_mem_cons.mpr ⟨Or.inr (Or.inl rfl), hrest⟩⟩

theorem FormName.dot_mem (h : FormName s) : dot ∈ s := by
  obtain ⟨_, rest, labels, last, hs, hname⟩ := h
  rcases hs with rfl | rfl
  · exact hname.dot_mem
  · exact List.mem_cons_of_mem _ List.mem_cons_self

theorem FormName.lastLabel_letters (h : FormName s) : ∀ b ∈ lastLabel s, isLetter b = true := by
  obtain ⟨_, rest, labels, last, hs, hname⟩ := h
  rcases hs with rfl | rfl
  · rw [hname.lastLabel_eq]
    exact hname.last.2
  · rw [lastLabel_starred, hname.lastLabel_eq]
    exact hname.last.2

theorem FormName.not_mem (h : FormName s) {b : UInt8} (hb : isWordByte b = false ∧ b ≠ dot ∧ b ≠ star) : b ∉ s := by
  intro hmem
  rcases h.bytes b hmem with hword | hdot | hstar
  · rw [hb.1] at hword
    cases hword
  · exact hb.2.1 hdot
  · exact hb.2.2 hstar

/-- An address of the form is no name. -/
theorem not_formName_of_digits (h : ∀ b ∈ s, isDigit b = true ∨ b = dot) : ¬ FormName s :=
  fun hname => no_letter h hname.exists_letter

/-- It is a name for Kubernetes. -/
theorem ShortQuad.isValidK8sHost (h : ShortQuad s) : isValidK8sHost s = true := by
  have hlength : s.length ≤ 253 := h.length_le.trans (by decide)
  obtain ⟨a, b, c, d, ha, hb, hc, hd, rfl⟩ := h
  have hdot {w : Str} (hw : IsOctet w) : dot ∉ w := fun hmem => absurd ((digits_of_octet hw).2 dot hmem) (by decide)
  have hlabel {w : Str} (hw : IsOctet w) : isLabelText w = true := by
    obtain ⟨hne, hdigits⟩ := digits_of_octet hw
    have hbyte {x : UInt8} (hx : isDigit x = true) : isWordByte x = true ∧ isLowerAlnum x = true := by
      grind [isDigit, isWordByte, isLowerAlnum]
    exact (isLabelText_iff hne fun x hx => (hbyte (hdigits x hx)).1).mpr fun x hx => (hbyte (hdigits x hx)).2
  rw [Kalm.isValidK8sHost, isDNS1123Subdomain, List.splitOn_append_cons_self, List.splitOn_append_cons_self,
    List.splitOn_append_cons_self, List.splitOn_eq_singleton (hdot ha), List.splitOn_eq_singleton (hdot hb),
    List.splitOn_eq_singleton (hdot hc), List.splitOn_eq_singleton (hdot hd), decide_eq_true hlength, Bool.and_true]
  refine List.all_eq_true.mpr fun w hw => ?_
  simp only [List.singleton_append, List.mem_cons, List.not_mem_nil, or_false] at hw
  rcases hw with rfl | rfl | rfl | rfl
  · exact hlabel ha
  · exact hlabel hb
  · exact hlabel hc
  · exact hlabel hd

/-- **What admission refuses of the hosts of the form.** -/
theorem formHost_admitted_iff (h : FormHost s) : isValidRouteHost s = true ↔ ¬ FormOnly s := by
  rcases h with rfl | hquad | hname
  · have hvalid : isValidRouteHost [star] = true := by decide
    refine iff_of_true hvalid fun honly => ?_
    exact absurd honly.1.dot_mem (by decide)
  · refine iff_of_true ((isValidRouteHost_iff s).mpr (Or.inl hquad.isValidK8sHost)) fun honly => ?_
    exact not_formName_of_digits hquad.bytes honly.1
  · exact formName_admitted_iff hname

/-- A text has a last piece. -/
theorem exists_lastLabel (s : Str) : ∃ init, s.splitOn dot = init ++ [lastLabel s] := by
  obtain ⟨init, last, hsplit⟩ := List.eq_nil_or_concat (s.splitOn dot) |>.resolve_left (List.splitOn_ne_nil dot s)
  have hlast : lastLabel s = last := by
    rw [lastLabel, hsplit, List.concat_eq_append, List.getLast?_concat]
    rfl
  exact ⟨init, by rw [hsplit, hlast, List.concat_eq_append]⟩

/-- A text whose labels are words, the last one of letters, is a dotted name. -/
theorem dottedName_of_labels (hdot : dot ∈ s) (hlabels : ∀ w ∈ s.splitOn dot, w ≠ [] ∧ ∀ b ∈ w, isWordByte b = true)
    (hlast : ∀ b ∈ lastLabel s, isLetter b = true) : ∃ labels, DottedName s labels (lastLabel s) := by
  obtain ⟨init, hsplit⟩ := exists_lastLabel s
  rw [hsplit] at hlabels
  have hne : init ≠ [] := by
    intro hnil
    rw [hnil, List.nil_append] at hsplit
    have hs : [dot].intercalate (s.splitOn dot) = s := List.intercalate_splitOn dot
    rw [hsplit, List.intercalate_singleton] at hs
    have hpiece : s ∈ s.splitOn dot := by
      rw [hsplit, hs]
      exact List.mem_singleton_self _
    exact Fields.not_mem_of_mem_splitOn hpiece hdot
  exact ⟨init, hsplit, hne, fun w hw => hlabels w (List.mem_append_left _ hw),
    (hlabels _ (List.mem_append_right _ (List.mem_singleton_self _))).1, hlast⟩

theorem lastLabel_subset {b : UInt8} (hb : b ∈ lastLabel s) : b ∈ s := by
  obtain ⟨init, hsplit⟩ := exists_lastLabel s
  exact Fields.mem_of_mem_splitOn (hsplit ▸ List.mem_append_right _ (List.mem_singleton_self _)) hb

/-- A name of letters, digits and dashes is one of the form when it is read. -/
theorem formName_of_labels (hlabels : ∀ w ∈ s.splitOn dot, w ≠ [] ∧ ∀ b ∈ w, b = dash ∨ isAlphanumeric b = true)
    (hlength : s.length ≤ 253) (hread : ¬ Unread s) : FormName s := by
  rw [Unread, not_or, not_or, not_not] at hread
  obtain ⟨hdash, hdot, hdigits⟩ := hread
  have hbyte {b : UInt8} (hb : isAlphanumeric b = true) :
      isWordByte b = true ∧ (isDigit b = false → isLetter b = true) := by
    grind [isAlphanumeric, isWordByte, isDigit, isLetter]
  have halphanumeric {w : Str} (hw : w ∈ s.splitOn dot) {b : UInt8} (hb : b ∈ w) : isAlphanumeric b = true := by
    rcases (hlabels w hw).2 b hb with rfl | hb
    · exact absurd (Fields.mem_of_mem_splitOn hw hb) hdash
    · exact hb
  obtain ⟨init, hsplit⟩ := exists_lastLabel s
  have hlast : lastLabel s ∈ s.splitOn dot := hsplit ▸ List.mem_append_right _ (List.mem_singleton_self _)
  obtain ⟨labels, hname⟩ := dottedName_of_labels hdot
    (fun w hw => ⟨(hlabels w hw).1, fun b hb => (hbyte (halphanumeric hw hb)).1⟩)
    (fun b hb => (hbyte (halphanumeric hlast hb)).2 (Bool.not_eq_true _ ▸ fun hdigit => hdigits ⟨b, hb, hdigit⟩))
  exact ⟨hlength.trans (by decide), s, labels, _, Or.inl rfl, hname⟩

theorem formName_of_isValidK8sHost (h : isValidK8sHost s = true) (hread : ¬ Unread s) : FormName s := by
  unfold isValidK8sHost isDNS1123Subdomain at h
  rw [Bool.and_eq_true, decide_eq_true_iff, List.all_eq_true] at h
  refine formName_of_labels (fun w hw => ⟨fun hnil => ?_, fun b hb => ?_⟩) h.2 hread
  · have hlabel := h.1 w hw
    rw [hnil] at hlabel
    cases hlabel
  · have hbyte := all_of_isLabelText (h.1 w hw) b hb
    grind [isLabelByte, isLowerAlnum, isAlphanumeric]

/-- A name of the form is read. -/
theorem FormName.not_unread (h : FormName s) : ¬ Unread s := by
  intro hunread
  rcases hunread with hdash | hdot | ⟨b, hb, hdigit⟩
  · exact h.not_mem (by decide) hdash
  · exact hdot h.dot_mem
  · exact not_isDigit (h.lastLabel_letters b hb) hdigit

/-- What a domain is made of. -/
theorem dottedName_of_isValidDomain (h : isValidDomain s = true) (hdash : dash ∉ s) :
    ∃ labels, DottedName s labels (lastLabel s) := by
  obtain ⟨init, hsplit⟩ := exists_lastLabel s
  unfold isValidDomain at h
  rw [hsplit] at h
  dsimp only at h
  rw [List.dropLast_concat, List.getLast?_concat, Option.any_some, Bool.and_eq_true, Bool.and_eq_true,
    Bool.and_eq_true, decide_eq_true_iff, decide_eq_true_iff, List.all_eq_true, List.all_eq_true] at h
  obtain ⟨⟨hlength, hall⟩, htwo, hlast⟩ := h
  have hlower {b : UInt8} (hb : isLowerAlnum b = true) : isWordByte b = true := by
    grind [isLowerAlnum, isWordByte, isLetter, isDigit]
  have hdot : dot ∈ s := by
    by_contra hdot
    rw [← hsplit, List.splitOn_eq_singleton hdot, List.length_singleton] at hlength
    exact absurd hlength (by decide)
  refine dottedName_of_labels hdot (fun w hw => ?_) fun b hb => isLetter_of_lower (hlast b hb)
  have hdash' : dash ∉ w := fun hmem => hdash (Fields.mem_of_mem_splitOn hw hmem)
  rcases List.mem_append.mp (hsplit ▸ hw) with hw | hw
  · have hlabel := hall w hw
    have hne : w ≠ [] := by
      intro hnil
      rw [hnil] at hlabel
      exact absurd hlabel (by decide)
    exact ⟨hne, fun b hb => hlower ((isDomainLabel_iff hne hdash').mp hlabel b hb)⟩
  · rw [List.mem_singleton.mp hw]
    exact ⟨List.ne_nil_of_length_pos (by omega), fun b hb => isWordByte_of_isLetter (isLetter_of_lower (hlast b hb))⟩

/-- A domain has a letter. -/
theorem exists_letter_of_isValidDomain (h : isValidDomain s = true) : ∃ b ∈ s, isLetter b = true := by
  obtain ⟨init, hsplit⟩ := exists_lastLabel s
  unfold isValidDomain at h
  rw [hsplit] at h
  dsimp only at h
  have htld := (Bool.and_eq_true_iff.mp h).2
  rw [List.getLast?_concat, Option.any_some, Bool.and_eq_true, decide_eq_true_iff, List.all_eq_true] at htld
  obtain ⟨htwo, hlast⟩ := htld
  obtain ⟨b, hb⟩ := List.exists_mem_of_ne_nil (lastLabel s) (List.ne_nil_of_length_pos (by omega))
  exact ⟨b, lastLabel_subset hb, isLetter_of_lower (hlast b hb)⟩

theorem not_shortQuad_of_letter (h : ∃ b ∈ s, isLetter b = true) : ¬ ShortQuad s :=
  fun hquad => no_letter hquad.bytes h

/-- **What the form refuses of the hosts of admission.** -/
theorem admitted_formHost_iff (h : isValidRouteHost s = true) : FormHost s ↔ ¬ AdmissionOnly s := by
  constructor
  · intro hform honly
    rcases hform with rfl | hquad | hname
    · rcases honly with ⟨hk8s, _⟩ | ⟨hip, _⟩ | ⟨_, hne, _⟩
      · exact absurd hk8s (by decide)
      · exact absurd hip (by decide)
      · exact hne rfl
    · rcases honly with ⟨_, hnot, _⟩ | ⟨_, hnot⟩ | ⟨hdomain | hwild, hne, _⟩
      · exact hnot hquad
      · exact hnot hquad
      · exact not_shortQuad_of_letter (exists_letter_of_isValidDomain hdomain) hquad
      · obtain ⟨rest, rfl, _⟩ := (isValidWildcardDomain_iff.mp hwild).resolve_left hne
        rcases hquad.bytes star List.mem_cons_self with hdigit | hdot
        · exact absurd hdigit (by decide)
        · exact absurd hdot (by decide)
    · have hcolon : colon ∉ s := hname.not_mem (by decide)
      rcases honly with ⟨_, _, hunread⟩ | ⟨hip, _⟩ | ⟨_, _, hdash | hlong⟩
      · exact hname.not_unread hunread
      · exact isValidIP_eq_false hname.exists_letter hcolon hip
      · exact hname.not_unread (Or.inl hdash)
      · exact Nat.not_le_of_lt hlong hname.1
  · intro hgood
    by_contra hnot
    rw [FormHost, not_or, not_or] at hnot
    obtain ⟨hstar, hquad, hname⟩ := hnot
    rcases (isValidRouteHost_iff s).mp h with hk8s | hip | hdomain | hwild
    · refine hgood (Or.inl ⟨hk8s, hquad, ?_⟩)
      by_contra hread
      exact hname (formName_of_isValidK8sHost hk8s hread)
    · exact hgood (Or.inr (Or.inl ⟨hip, hquad⟩))
    · refine hgood (Or.inr (Or.inr ⟨Or.inl hdomain, hstar, ?_⟩))
      by_contra hnone
      rw [not_or, not_lt] at hnone
      obtain ⟨labels, hdotted⟩ := dottedName_of_isValidDomain hdomain hnone.1
      exact hname ⟨hnone.2, s, labels, _, Or.inl rfl, hdotted⟩
    · refine hgood (Or.inr (Or.inr ⟨Or.inr hwild, hstar, ?_⟩))
      by_contra hnone
      rw [not_or, not_lt] at hnone
      obtain ⟨rest, rfl, hrest⟩ := (isValidWildcardDomain_iff.mp hwild).resolve_left hstar
      have hdash : dash ∉ rest := fun hmem => hnone.1 (List.mem_cons_of_mem _ (List.mem_cons_of_mem _ hmem))
      obtain ⟨labels, hdotted⟩ := dottedName_of_isValidDomain hrest hdash
      exact hname ⟨hnone.2, rest, labels, _, Or.inr rfl, hdotted⟩

end Names

/-- The form takes the hosts of a route when admission takes each. -/
def RouteHostsAgree (hosts : List Str) : Prop :=
  validatorIpAndHosts hosts = none ↔ ∀ host ∈ hosts, isValidRouteHost host = true

/-- Hosts where they do not agree: none at all; hosts of the form, one of which admission refuses; hosts of admission,
    one of which the form refuses. -/
def RouteHostsGap (hosts : List Str) : Prop :=
  hosts = [] ∨
  ((∀ host ∈ hosts, FormHost host) ∧ ∃ host ∈ hosts, FormOnly host) ∨
  ((∀ host ∈ hosts, (FormHost host ∧ ¬ FormOnly host) ∨ AdmissionOnly host) ∧ ∃ host ∈ hosts, AdmissionOnly host)

/-- What admission accepts that the form does not. -/
theorem AdmissionOnly.isValidRouteHost {s : Str} (h : AdmissionOnly s) : isValidRouteHost s = true := by
  rw [isValidRouteHost_iff]
  rcases h with ⟨hk8s, _⟩ | ⟨hip, _⟩ | ⟨hdomain, _⟩
  · exact Or.inl hk8s
  · exact Or.inr (Or.inl hip)
  · exact Or.inr (Or.inr hdomain)

/-- Admission, in the terms of the form. -/
theorem admitted_iff (s : Str) : isValidRouteHost s = true ↔ (FormHost s ∧ ¬ FormOnly s) ∨ AdmissionOnly s := by
  constructor
  · intro h
    by_cases hform : FormHost s
    · exact Or.inl ⟨hform, (formHost_admitted_iff hform).mp h⟩
    · exact Or.inr (not_not.mp (mt (admitted_formHost_iff h).mpr hform))
  · intro h
    rcases h with ⟨hform, hnot⟩ | honly
    · exact (formHost_admitted_iff hform).mpr hnot
    · exact honly.isValidRouteHost

/-- **The hosts of a route.** -/
theorem routeHostsAgree_iff (hosts : List Str) : RouteHostsAgree hosts ↔ ¬ RouteHostsGap hosts := by
  rw [RouteHostsAgree, validatorIpAndHosts_eq_none]
  constructor
  · intro hagree hgap
    rcases hgap with rfl | ⟨hform, host, hmem, honly⟩ | ⟨hadmitted, host, hmem, honly⟩
    · exact (hagree.mpr fun _ h => absurd h List.not_mem_nil).1 rfl
    · have hall := hagree.mp ⟨List.ne_nil_of_mem hmem, hform⟩
      exact (formHost_admitted_iff (hform host hmem)).mp (hall host hmem) honly
    · have hall := hagree.mpr fun host hmem => (admitted_iff host).mpr (hadmitted host hmem)
      exact (admitted_formHost_iff honly.isValidRouteHost).mp (hall.2 host hmem) honly
  · intro hgap
    constructor
    · intro ⟨_, hform⟩ host hmem
      refine (formHost_admitted_iff (hform host hmem)).mpr fun honly => ?_
      exact hgap (Or.inr (Or.inl ⟨hform, host, hmem, honly⟩))
    · intro hadmitted
      refine ⟨fun hnil => hgap (Or.inl hnil), fun host hmem => ?_⟩
      refine (admitted_formHost_iff (hadmitted host hmem)).mpr fun honly => ?_
      exact hgap (Or.inr (Or.inr ⟨fun host hmem => (admitted_iff host).mp (hadmitted host hmem), host, hmem, honly⟩))

/-! ## 8. Addresses and host names -/

/-- An IPv4 address: four numbers up to 255. -/
def IsIPv4 (s : Str) : Prop :=
  ∃ a b c d, a ≤ 255 ∧ b ≤ 255 ∧ c ≤ 255 ∧ d ≤ 255 ∧
    s = itoa a ++ dot :: (itoa b ++ dot :: (itoa c ++ dot :: itoa d))

/-- A label of a host name: letters, digits and dashes, no dash at an end, at most 63 bytes. -/
def isHostLabel (w : Str) : Bool :=
  w.head?.any isAlphanumeric && w.getLast?.any isAlphanumeric && w.all (fun b => b == dash || isAlphanumeric b) &&
    w.length ≤ 63

/-- A DNS host name. -/
def IsHostName (s : Str) : Prop := (∀ w ∈ s.splitOn dot, isHostLabel w = true) ∧ s.length ≤ 253

/-- Every address and every host name is accepted as the host of a probe. -/
def HostAccepted (s : Str) : Prop := IsIPv4 s ∨ IsHostName s → validateHost s = none

/-- An address; a host name that is not read. -/
def HostGap (s : Str) : Prop := IsIPv4 s ∨ (IsHostName s ∧ Unread s)

theorem IsIPv4.bytes {s : Str} (h : IsIPv4 s) : ∀ b ∈ s, isDigit b = true ∨ b = dot := by
  obtain ⟨a, b, c, d, _, _, _, _, rfl⟩ := h
  intro x hx
  simp only [List.mem_append, List.mem_cons] at hx
  rcases hx with hx | hx | hx | hx | hx | hx | hx
  · exact Or.inl (Sso.isDigit_of_mem_itoa hx)
  · exact Or.inr hx
  · exact Or.inl (Sso.isDigit_of_mem_itoa hx)
  · exact Or.inr hx
  · exact Or.inl (Sso.isDigit_of_mem_itoa hx)
  · exact Or.inr hx
  · exact Or.inl (Sso.isDigit_of_mem_itoa hx)

/-- A host name is one of the form when it is read. -/
theorem IsHostName.formName_iff {s : Str} (h : IsHostName s) : FormName s ↔ ¬ Unread s := by
  refine ⟨FormName.not_unread, formName_of_labels (fun w hw => ?_) h.2⟩
  have hlabel := h.1 w hw
  unfold isHostLabel at hlabel
  rw [Bool.and_eq_true, Bool.and_eq_true, Bool.and_eq_true, List.all_eq_true] at hlabel
  obtain ⟨⟨⟨hhead, _⟩, hall⟩, _⟩ := hlabel
  refine ⟨fun hnil => ?_, fun b hb => ?_⟩
  · rw [hnil] at hhead
    cases hhead
  · have hb' := hall b hb
    rwa [Bool.or_eq_true, beq_iff_eq] at hb'

/-- **Addresses and host names.** -/
theorem hostAccepted_iff (s : Str) : HostAccepted s ↔ ¬ HostGap s := by
  rw [HostAccepted, validateHost_eq_none]
  constructor
  · intro haccepted hgap
    rcases hgap with hip | ⟨hhost, hgap⟩
    · exact not_formName_of_digits hip.bytes (haccepted (Or.inl hip))
    · exact hhost.formName_iff.mp (haccepted (Or.inr hhost)) hgap
  · intro hgap h
    rcases h with hip | hhost
    · exact absurd (Or.inl hip) hgap
    · exact hhost.formName_iff.mpr fun hunread => hgap (Or.inr ⟨hhost, hunread⟩)

/-! ## 9. All of them -/

/-- **What the forms accept, admission accepts**, outside of the gaps alone: schedules, names of variables and sizes of
    volumes; addresses and host names; the hosts of a route. -/
theorem forms_iff (value : Str) (hosts : List Str) : (ScheduleAdmitted value ↔ ¬ ScheduleGap value) ∧
    (EnvNameAdmitted value ↔ ¬ EnvNameGap value) ∧ (SizeAdmitted value ↔ ¬ SizeGap value) ∧
    (HostAccepted value ↔ ¬ HostGap value) ∧ (RouteHostsAgree hosts ↔ ¬ RouteHostsGap hosts) :=
  ⟨scheduleAdmitted_iff value, envNameAdmitted_iff value, sizeAdmitted_iff value, hostAccepted_iff value,
    routeHostsAgree_iff hosts⟩

/-- None of the five holds of every text: a schedule with a seventh day of the week, a name with a dash, a size in `K`,
    an address, and a host with a dash. -/
theorem forms_fail : ¬ ScheduleAdmitted (str "0 0 1 1 7") ∧ ¬ EnvNameAdmitted (str "a-b") ∧
    ¬ SizeAdmitted (str "1K") ∧ ¬ HostAccepted (str "1.2.3.4") ∧ ¬ RouteHostsAgree [str "my-app.com"] := by
  refine ⟨fun h => ?_, fun h => ?_, fun h => ?_, fun h => ?_, fun h => ?_⟩
  · have hform : FormSchedule (str "0 0 1 1 7") (itoa 0) (itoa 0) (itoa 1) (itoa 1) (itoa 7) :=
      { text := by decide
        minute := Or.inr ⟨0, by decide, by decide, Or.inl rfl⟩
        hour := Or.inr ⟨0, by decide, by decide, Or.inl rfl⟩
        dayOfMonth := Or.inr ⟨1, by decide, by decide, Or.inl rfl⟩
        month := Or.inr ⟨1, by decide, by decide, Or.inl rfl⟩
        dayOfWeek := Or.inr ⟨7, by decide, by decide, Or.inl rfl⟩ }
    exact (scheduleAdmitted_iff _).mp h ⟨_, _, _, _, _, hform,
      Or.inr (Or.inr (Or.inr (Or.inr (Or.inr ⟨7, rfl, by decide⟩))))⟩
  · exact (envNameAdmitted_iff _).mp h ⟨97, str "-b", rfl, by decide, by decide +kernel, by decide⟩
  · have hnum : IsNumber (str "1") := .whole (by decide) (by decide +kernel)
    have hsuffix : FormSuffix (str "K") :=
      Or.inr ⟨str "K", [], [], rfl, by decide +kernel, Or.inl rfl, by decide +kernel, by decide⟩
    exact (sizeAdmitted_iff _).mp h ⟨by decide, str "1", str "K", hnum, hsuffix, rfl, by decide⟩
  · have hip : IsIPv4 (str "1.2.3.4") := ⟨1, 2, 3, 4, by decide, by decide, by decide, by decide, by decide⟩
    exact (hostAccepted_iff _).mp h (Or.inl hip)
  · have hadmitted : isValidK8sHost (str "my-app.com") = true := by decide
    have hquad : ¬ ShortQuad (str "my-app.com") := not_shortQuad_of_letter ⟨109, by decide, by decide⟩
    have honly : AdmissionOnly (str "my-app.com") := Or.inl ⟨hadmitted, hquad, Or.inl (by decide)⟩
    exact (routeHostsAgree_iff _).mp h (Or.inr (Or.inr ⟨List.forall_mem_singleton.mpr (Or.inr honly), _,
      List.mem_singleton_self _, honly⟩))

end Kalm.Forms
