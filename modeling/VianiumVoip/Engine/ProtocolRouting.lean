import VianiumVoip.Engine.MediaPlane

/-!
# The protocol of a call

`IsClassicReflectorDescriptor` of `application/voip_engine` with its loop over the library versions and the rule for the
layers behind it.

The rule that stands in its comments is about a number: a version of 8 or higher is modern, and without a version a layer
above 92 is (`Modern`).  The code compares the first characters of a version, with the numbers from 8 to 13 in mind, and
takes every layer for classic; `follows_rule_iff` says for which descriptors this comes to the same.
-/

namespace VianiumVoip.Engine

/-- The descriptor with the layers of the protocol. -/
structure ProtocolDescriptor extends VoipCallStartDescriptor where
  minLayer : ℤ := 0
  maxLayer : ℤ := 0

namespace ProtocolDescriptor

def kClassicMaxLayer : ℤ := 92

/-- The two flags of the loop. -/
structure Saw where
  anyVersion : Bool := false
  nonClassic : Bool := false

/-- The body of the loop. -/
def Saw.look (saw : Saw) (v : String) : Saw :=
  match v.toList with
  | [] => saw
  | first :: rest =>
    if first = '8' ∨ first = '9' then { anyVersion := true, nonClassic := true }
    else if first = '1' ∧ (rest.head? = some '0' ∨ rest.head? = some '1' ∨ rest.head? = some '2' ∨ rest.head? = some '3')
    then { anyVersion := true, nonClassic := true }
    else { saw with anyVersion := true }

/-- `IsClassicReflectorDescriptor` -/
def isClassicReflectorDescriptor (d : ProtocolDescriptor) : Bool :=
  let saw := d.libraryVersions.foldl Saw.look {}
  if saw.anyVersion then !saw.nonClassic
  else if d.maxLayer ≠ 0 ∧ d.maxLayer ≤ kClassicMaxLayer then true
  else if d.minLayer ≠ 0 ∧ d.minLayer ≤ kClassicMaxLayer ∧ d.maxLayer = 0 then true
  else true

/-! ### The rule -/

/-- The number that a version begins with, 0 without one. -/
def major (v : String) : ℕ := Nat.ofDigitChars 10 (v.toList.takeWhile Char.isDigit) 0

/-- The peer is modern, by the rule. -/
def Modern (d : ProtocolDescriptor) : Prop :=
  if ∃ v ∈ d.libraryVersions, v ≠ "" then ∃ v ∈ d.libraryVersions, v ≠ "" ∧ 8 ≤ major v
  else kClassicMaxLayer < d.maxLayer

/-- How the versions begin that the loop takes for modern. -/
def modernBeginnings : List String := ["8", "9", "10", "11", "12", "13"]

def BeginsModern (v : String) : Prop := ∃ beginning ∈ modernBeginnings, beginning.toList <+: v.toList

/-- Where a version of 8 or higher is given, there is one that begins so; without a version the layer is a classic one. -/
def Covered (d : ProtocolDescriptor) : Prop :=
  if ∃ v ∈ d.libraryVersions, v ≠ "" then
    (∃ v ∈ d.libraryVersions, 8 ≤ major v) → ∃ v ∈ d.libraryVersions, BeginsModern v
  else d.maxLayer ≤ kClassicMaxLayer

/-! ### What the loop sees -/

variable {d : ProtocolDescriptor} {v : String}

theorem look_eq (saw : Saw) (v : String) :
    saw.look v = { anyVersion := saw.anyVersion || decide (v ≠ "")
                   nonClassic := saw.nonClassic || isModernVersion v } := by
  have hempty : v = "" ↔ v.toList = [] := String.toList_eq_nil_iff.symm
  unfold Saw.look isModernVersion
  simp only [ne_eq, hempty]
  rcases v.toList with _ | ⟨first, _ | ⟨second, rest⟩⟩
  · simp
  · by_cases h8 : first = '8'
    · simp [h8]
    by_cases h9 : first = '9'
    · simp [h9]
    · simp [h8, h9]
  · by_cases h8 : first = '8'
    · simp [h8]
    by_cases h9 : first = '9'
    · simp [h9]
    by_cases h1 : first = '1'
    · by_cases hsecond : second = '0' ∨ second = '1' ∨ second = '2' ∨ second = '3' <;> simp [h1, hsecond]
    · simp [h8, h9, h1]

theorem foldl_look (versions : List String) (saw : Saw) :
    versions.foldl Saw.look saw
      = { anyVersion := saw.anyVersion || versions.any fun v => decide (v ≠ "")
          nonClassic := saw.nonClassic || versions.any isModernVersion } := by
  induction versions generalizing saw with
  | nil => simp
  | cons v versions ih => rw [List.foldl_cons, ih, look_eq, List.any_cons, List.any_cons, Bool.or_assoc, Bool.or_assoc]

theorem isModernVersion_iff : isModernVersion v = true ↔ BeginsModern v := by
  have hbegins : BeginsModern v ↔ ['8'] <+: v.toList ∨ ['9'] <+: v.toList ∨ ['1', '0'] <+: v.toList ∨
      ['1', '1'] <+: v.toList ∨ ['1', '2'] <+: v.toList ∨ ['1', '3'] <+: v.toList := by
    simp [BeginsModern, modernBeginnings]
  rw [hbegins]
  unfold isModernVersion
  rcases v.toList with _ | ⟨first, _ | ⟨second, rest⟩⟩
  · simp
  · by_cases h8 : first = '8'
    · simp [h8]
    by_cases h9 : first = '9'
    · simp [h9]
    · simp [h8, h9, eq_comm (b := first)]
  · by_cases h8 : first = '8'
    · simp [h8]
    by_cases h9 : first = '9'
    · simp [h9]
    by_cases h1 : first = '1'
    · simp [h1, eq_comm (b := second)]
    · simp [h8, h9, h1, eq_comm (b := first)]

/-- A version is modern to the function where one begins so, whatever the layers are. -/
theorem isClassicReflectorDescriptor_eq_false_iff :
    d.isClassicReflectorDescriptor = false ↔ ∃ v ∈ d.libraryVersions, BeginsModern v := by
  have hmodern : (d.libraryVersions.any isModernVersion) = true ↔ ∃ v ∈ d.libraryVersions, BeginsModern v := by
    simp only [List.any_eq_true, isModernVersion_iff]
  have hgiven : d.libraryVersions.any isModernVersion = true →
      (d.libraryVersions.any fun v => decide (v ≠ "")) = true := by
    rw [List.any_eq_true, List.any_eq_true]
    rintro ⟨v, hv, hbegins⟩
    refine ⟨v, hv, decide_eq_true ?_⟩
    rintro rfl
    exact absurd hbegins (by decide)
  rw [← hmodern, isClassicReflectorDescriptor, foldl_look]
  simp only [Bool.false_or, ite_self]
  cases hany : d.libraryVersions.any isModernVersion with
  | false => simp
  | true => simp only [hgiven hany, if_true, Bool.not_true]

/-- **The layers change nothing**: the function is the one that the media are started with. -/
theorem isClassicReflectorDescriptor_eq :
    d.isClassicReflectorDescriptor = Engine.isClassicReflectorDescriptor d.toVoipCallStartDescriptor := by
  have hiff : Engine.isClassicReflectorDescriptor d.toVoipCallStartDescriptor = false ↔
      ∃ v ∈ d.libraryVersions, BeginsModern v := by
    have hne {v : String} (h : BeginsModern v) : v ≠ "" := by
      rintro rfl
      exact absurd (isModernVersion_iff.2 h) (by decide)
    simp only [Engine.isClassicReflectorDescriptor, decide_eq_false_iff_not, not_not, List.any_eq_true, List.mem_filter,
      decide_eq_true_eq, isModernVersion_iff]
    exact ⟨fun ⟨v, hv, hb⟩ => ⟨v, hv.1, hb⟩, fun ⟨v, hv, hb⟩ => ⟨v, ⟨hv, hne hb⟩, hb⟩⟩
  rw [Bool.eq_iff_iff, ← Bool.not_eq_false, ← Bool.not_eq_false, isClassicReflectorDescriptor_eq_false_iff, hiff]

/-- The order of the versions does not matter, nor how often each is given. -/
theorem isClassicReflectorDescriptor_congr {versions : List String} (h : ∀ v, v ∈ versions ↔ v ∈ d.libraryVersions) :
    ({ d with libraryVersions := versions } : ProtocolDescriptor).isClassicReflectorDescriptor
      = d.isClassicReflectorDescriptor := by
  rw [Bool.eq_iff_iff, ← Bool.not_eq_false, ← Bool.not_eq_false, isClassicReflectorDescriptor_eq_false_iff,
    isClassicReflectorDescriptor_eq_false_iff]
  simp only [h]

/-! ### The numbers -/

theorem le_ofDigitChars (digits : List Char) (n : ℕ) : n ≤ Nat.ofDigitChars 10 digits n := by
  induction digits generalizing n with
  | nil => exact le_rfl
  | cons c digits ih =>
    rw [Nat.ofDigitChars_cons]
    exact le_trans (by omega) (ih _)

theorem le_major_of_beginsModern (h : BeginsModern v) : 8 ≤ major v := by
  obtain ⟨beginning, hmem, rest, hv⟩ := h
  have hnumber {digits : List Char} (hdigits : ∀ c ∈ digits, c.isDigit = true) (hvalue : 8 ≤ Nat.ofDigitChars 10 digits 0)
      (htext : digits ++ rest = v.toList) : 8 ≤ major v := by
    rw [major, ← htext, List.takeWhile_append_of_pos hdigits, Nat.ofDigitChars_append]
    exact hvalue.trans (le_ofDigitChars _ _)
  have hall : ∀ b ∈ modernBeginnings, b.toList.all Char.isDigit = true ∧ 8 ≤ Nat.ofDigitChars 10 b.toList 0 := by
    decide +kernel
  exact hnumber (List.all_eq_true.1 (hall beginning hmem).1) (hall beginning hmem).2 hv

theorem major_empty : major "" = 0 := rfl

/-- **When the function follows the rule**: with a version, exactly where one that begins as the loop expects is given
whenever one of 8 or higher is; without a version, exactly where the layer is a classic one.  The order of the versions
and their multiplicity never matter. -/
theorem follows_rule_iff (d : ProtocolDescriptor) :
    ((d.isClassicReflectorDescriptor = false ↔ d.Modern) ∧
      ∀ versions : List String, (∀ v, v ∈ versions ↔ v ∈ d.libraryVersions) →
        ({ d with libraryVersions := versions } : ProtocolDescriptor).isClassicReflectorDescriptor
          = d.isClassicReflectorDescriptor) ↔
      d.Covered := by
  have hcongr : ∀ versions : List String, (∀ v, v ∈ versions ↔ v ∈ d.libraryVersions) →
      ({ d with libraryVersions := versions } : ProtocolDescriptor).isClassicReflectorDescriptor
        = d.isClassicReflectorDescriptor := fun _ => isClassicReflectorDescriptor_congr
  have hne {v : String} (h : 8 ≤ major v) : v ≠ "" := by
    rintro rfl
    rw [major_empty] at h
    omega
  rw [and_iff_left hcongr, isClassicReflectorDescriptor_eq_false_iff, Modern, Covered]
  by_cases hgiven : ∃ v ∈ d.libraryVersions, v ≠ ""
  · rw [if_pos hgiven, if_pos hgiven]
    constructor
    · rintro hrule ⟨v, hv, hmajor⟩
      exact hrule.2 ⟨v, hv, hne hmajor, hmajor⟩
    · intro hcovered
      constructor
      · rintro ⟨v, hv, hbegins⟩
        have hmajor := le_major_of_beginsModern hbegins
        exact ⟨v, hv, hne hmajor, hmajor⟩
      · rintro ⟨v, hv, -, hmajor⟩
        exact hcovered ⟨v, hv, hmajor⟩
  · rw [if_neg hgiven, if_neg hgiven]
    have hclassic : ¬ ∃ v ∈ d.libraryVersions, BeginsModern v := by
      rintro ⟨v, hv, hbegins⟩
      exact hgiven ⟨v, hv, hne (le_major_of_beginsModern hbegins)⟩
    rw [iff_false_left hclassic, not_lt]

/-- Version 14 goes the classic way. -/
theorem fourteen_classic :
    ¬ ∀ d : ProtocolDescriptor, (d.isClassicReflectorDescriptor = false ↔ d.Modern) ∧
      ∀ versions : List String, (∀ v, v ∈ versions ↔ v ∈ d.libraryVersions) →
        ({ d with libraryVersions := versions } : ProtocolDescriptor).isClassicReflectorDescriptor
          = d.isClassicReflectorDescriptor := by
  intro h
  have hrule := (h { callId := 1, keyHandle := "", endpoints := [], libraryVersions := ["14.0.0"] }).1
  have hmodern : Modern { callId := 1, keyHandle := "", endpoints := [], libraryVersions := ["14.0.0"] } := by
    rw [Modern, if_pos ⟨"14.0.0", List.mem_cons_self, by decide⟩]
    exact ⟨"14.0.0", List.mem_cons_self, by decide, by decide +kernel⟩
  exact absurd (hrule.2 hmodern) (by decide +kernel)

end ProtocolDescriptor

end VianiumVoip.Engine
