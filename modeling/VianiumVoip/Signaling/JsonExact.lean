import VianiumVoip.Signaling.JsonGrammar

/-!
# The parser and its grammar

What `ParseJson` finds is a value of the loose grammar at the beginning of the text (`sound`), and it finds every such
value that is the whole text but for blanks around it (`parseJson_of_isPadded`).
-/

namespace VianiumVoip.Signaling.Json

open VianiumVoip.Lib

variable {c : UInt8} {input rest text : Bytes}

/-! ### Blanks -/

theorem skipWs_blank {blank : Bytes} (h : IsBlank blank) (rest : Bytes) : skipWs (blank ++ rest) = skipWs rest := by
  rw [skipWs, List.dropWhile_append_of_pos h, skipWs]

theorem matchChar_blank {blank : Bytes} (h : IsBlank blank) (c : UInt8) (rest : Bytes) :
    matchChar c (blank ++ rest) = matchChar c rest := by
  rw [matchChar, skipWs_blank h, matchChar]

theorem skipWs_spec (input : Bytes) :
    ∃ blank, IsBlank blank ∧ input = blank ++ skipWs input ∧ ∀ c, (skipWs input).head? = some c → isWs c = false := by
  refine ⟨input.takeWhile isWs, fun c hc => List.mem_takeWhile_imp hc, (List.takeWhile_append_dropWhile).symm, ?_⟩
  intro c hc
  have h := List.head?_dropWhile_not isWs input
  rw [skipWs] at hc
  rw [hc] at h
  simpa using h

theorem matchChar_eq_some (h : matchChar c input = some rest) : ∃ blank, IsBlank blank ∧ input = blank ++ c :: rest := by
  obtain ⟨blank, hblank, hsplit, -⟩ := skipWs_spec input
  unfold matchChar at h
  cases hskip : skipWs input with
  | nil =>
    rw [hskip] at h
    cases h
  | cons x tail =>
    rw [hskip] at h hsplit
    simp only at h
    split_ifs at h with hx
    cases h
    exact ⟨blank, hblank, hx ▸ hsplit⟩

theorem matchChar_eq_none {blank : Bytes} {x : UInt8} (hblank : IsBlank blank)
    (hx : isWs x = false) (hne : x ≠ c) (rest : Bytes) : matchChar c (blank ++ x :: rest) = none := by
  rw [matchChar_blank hblank, matchChar_of_ne hx hne]

/-! ### Strings -/

theorem loose_escape {e : UInt8} (h : e ≠ 0x75) : loose.escape e = some (unescape e) := if_neg h

/-- **Soundness of `ParseString`**, behind the opening quote. -/
theorem isStringBody_of_parse {out : Bytes} (h : parseStringBody input = some (out, rest)) :
    ∃ text, IsStringBody loose text out ∧ input = text ++ 0x22 :: rest := by
  induction input using parseStringBody.induct generalizing out rest with
  | case1 => cases h
  | case2 tail =>
    rw [parseStringBody_of_quote] at h
    cases h
    exact ⟨[], .nil, rfl⟩
  | case3 => cases h
  | case4 h1 h2 h3 h4 tail hnone =>
    rw [parseStringBody_of_no_codePoint hnone] at h
    cases h
  | case5 h1 h2 h3 h4 tail cp hsome _ ih =>
    rw [parseStringBody_of_unicode hsome, Option.map_eq_some_iff] at h
    obtain ⟨⟨out', rest'⟩, htail, heq⟩ := h
    obtain ⟨text, htext, rfl⟩ := ih htail
    cases heq
    exact ⟨_, .unicode hsome htext, rfl⟩
  | case6 tail hshort =>
    rw [parseStringBody_of_short hshort] at h
    cases h
  | case7 e tail he _ ih =>
    rw [parseStringBody_of_escape he, Option.map_eq_some_iff] at h
    obtain ⟨⟨out', rest'⟩, htail, heq⟩ := h
    obtain ⟨text, htext, rfl⟩ := ih htail
    cases heq
    exact ⟨_, .escape (loose_escape he) htext, rfl⟩
  | case8 x tail hquote hbackslash ih =>
    rw [parseStringBody_of_plain hquote hbackslash, Option.map_eq_some_iff] at h
    obtain ⟨⟨out', rest'⟩, htail, heq⟩ := h
    obtain ⟨text, htext, rfl⟩ := ih htail
    cases heq
    exact ⟨_, .plain hquote hbackslash htext, rfl⟩

/-- **Completeness of `ParseString`**, behind the opening quote. -/
theorem parseStringBody_of_isStringBody {out : Bytes} (h : IsStringBody loose text out) (rest : Bytes) :
    parseStringBody (text ++ 0x22 :: rest) = some (out, rest) := by
  induction h with
  | nil =>
    rw [List.nil_append, parseStringBody_of_quote]
  | plain hquote hbackslash _ ih =>
    rw [List.cons_append, parseStringBody_of_plain hquote hbackslash, ih]
    rfl
  | @escape e c text out he _ ih =>
    have hne : e ≠ 0x75 := by
      rintro rfl
      cases he
    rw [loose_escape hne] at he
    rw [List.cons_append, List.cons_append, parseStringBody_of_escape hne, ih, ← Option.some.inj he]
    rfl
  | unicode hcp _ ih =>
    simp only [List.cons_append]
    rw [parseStringBody_of_unicode hcp, ih]
    rfl

/-! ### Numbers -/

open NumberText

/-- No byte of a number comes next, and no sign. -/
def Delimited (rest : Bytes) : Prop :=
  ∀ c, rest.head? = some c → isWs c = true ∨ c = 0x2C ∨ c = 0x5D ∨ c = 0x7D

theorem Delimited.numberEnd (h : Delimited rest) : NumberEnd rest := by
  intro c hc
  rcases h c hc with hws | rfl | rfl | rfl
  · simp only [isWs, Bool.or_eq_true, decide_eq_true_eq] at hws
    rcases hws with ((rfl | rfl) | rfl) | rfl <;> decide
  all_goals decide

theorem scanSign_spec {negative : Bool} (h : scanSign input = (negative, rest)) :
    ∃ sign, negative = decide (sign = some true) ∧ input = signText sign ++ rest := by
  cases input with
  | nil =>
    cases h
    exact ⟨none, rfl, rfl⟩
  | cons c input =>
    simp only [scanSign] at h
    split_ifs at h with hminus hplus
    · cases h
      exact ⟨some true, rfl, by rw [hminus]; rfl⟩
    · cases h
      exact ⟨some false, rfl, by rw [hplus]; rfl⟩
    · cases h
      exact ⟨none, rfl, rfl⟩

theorem span_spec {digits : Bytes} (h : input.span isDigit = (digits, rest)) :
    input = digits ++ rest ∧ ∀ c ∈ digits, isDigit c = true := by
  rw [List.span_eq_takeWhile_dropWhile] at h
  cases h
  exact ⟨(List.takeWhile_append_dropWhile).symm, fun c hc => List.mem_takeWhile_imp hc⟩

theorem scanFraction_spec {digits : Bytes} (h : scanFraction input = (digits, rest)) :
    ∃ fraction, digits = fraction.getD [] ∧ input = fractionText fraction ++ rest ∧
      ∀ digits, fraction = some digits → ∀ c ∈ digits, isDigit c = true := by
  cases input with
  | nil =>
    cases h
    exact ⟨none, rfl, rfl, by simp⟩
  | cons c input =>
    simp only [scanFraction] at h
    split_ifs at h with hpoint
    · obtain ⟨rfl, hdigits⟩ := span_spec h
      exact ⟨some digits, rfl, by rw [hpoint]; rfl, fun x hx => Option.some.inj hx ▸ hdigits⟩
    · cases h
      exact ⟨none, rfl, rfl, by simp⟩

theorem scanExponent_spec {negative : Bool} {digits : Bytes} (h : scanExponent input = ((negative, digits), rest)) :
    ∃ exponent : Option (UInt8 × Option Bool × Bytes),
      negative = (exponent.map fun part => decide (part.2.1 = some true)).getD false ∧
      digits = (exponent.map fun part => part.2.2).getD [] ∧ input = exponentText exponent ++ rest ∧
      ∀ part, exponent = some part → (part.1 = 0x65 ∨ part.1 = 0x45) ∧ ∀ c ∈ part.2.2, isDigit c = true := by
  cases input with
  | nil =>
    cases h
    exact ⟨none, rfl, rfl, rfl, by simp⟩
  | cons c input =>
    simp only [scanExponent] at h
    split_ifs at h with hletter
    · rcases hsign : scanSign input with ⟨negative', tail⟩
      rcases hspan : tail.span isDigit with ⟨digits', rest'⟩
      simp only [hsign, hspan] at h
      cases h
      obtain ⟨sign, rfl, rfl⟩ := scanSign_spec hsign
      obtain ⟨rfl, hdigits⟩ := span_spec hspan
      refine ⟨some (c, sign, digits), rfl, rfl, ?_, fun part hpart => ?_⟩
      · rw [exponentText, List.cons_append, List.append_assoc]
      · cases hpart
        exact ⟨hletter, hdigits⟩
    · cases h
      exact ⟨none, rfl, rfl, rfl, by simp⟩

/-- **Soundness of `ParseNumber`.** -/
theorem number_of_scan {numeral : Numeral} (hfirst : ∃ c, input.head? = some c ∧ (c = 0x2D ∨ isDigit c = true))
    (hdigit : ¬ (numeral.whole = [] ∧ numeral.fraction = [])) (h : scanNumeral input = (numeral, rest)) :
    ∃ n : NumberText, n.Loose ∧ input = n.text ++ rest ∧ n.numeral = numeral := by
  obtain ⟨c, hhead, hc⟩ := hfirst
  rcases hsign : scanSign input with ⟨negative, tail₁⟩
  rcases hspan : tail₁.span isDigit with ⟨whole, tail₂⟩
  rcases hfrac : scanFraction tail₂ with ⟨fraction', tail₃⟩
  rcases hexp : scanExponent tail₃ with ⟨⟨exponentNegative, exponent'⟩, tail₄⟩
  simp only [scanNumeral, hsign, hspan, hfrac, hexp] at h
  cases h
  obtain ⟨hwhole, hdigits⟩ := span_spec hspan
  obtain ⟨fraction, rfl, rfl, hfraction⟩ := scanFraction_spec hfrac
  obtain ⟨exponent, rfl, rfl, rfl, hexponent⟩ := scanExponent_spec hexp
  have hsigned : input = (if negative then [0x2D] else []) ++ tail₁ ∧ (negative = true ∨ whole ≠ []) := by
    obtain ⟨input, rfl⟩ : ∃ more, input = c :: more := by
      cases input with
      | nil => cases hhead
      | cons x input => exact ⟨input, by rw [Option.some.inj hhead]⟩
    rcases hc with rfl | hc
    · cases hsign
      exact ⟨rfl, .inl rfl⟩
    · have hminus : c ≠ 0x2D := by
        rintro rfl
        revert hc
        decide
      have hplus : c ≠ 0x2B := by
        rintro rfl
        revert hc
        decide
      simp only [scanSign, if_neg hminus, if_neg hplus] at hsign
      cases hsign
      rw [List.span_eq_takeWhile_dropWhile, List.takeWhile_cons_of_pos hc] at hspan
      exact ⟨rfl, .inr ((Prod.mk.inj hspan).1 ▸ List.cons_ne_nil _ _)⟩
  obtain ⟨hsigned, hfirst⟩ := hsigned
  refine ⟨⟨negative, whole, fraction, exponent⟩, ⟨⟨hdigits, hfraction, hexponent⟩, ?_, hfirst⟩, ?_, rfl⟩
  · by_cases hnil : whole = []
    · exact .inr fun hempty => hdigit ⟨hnil, hempty⟩
    · exact .inl hnil
  · rw [hsigned, hwhole, NumberText.text]
    simp only [List.append_assoc]

theorem span_of_head {digits : Bytes} (hdigits : ∀ c ∈ digits, isDigit c = true)
    (hrest : ∀ c, rest.head? = some c → isDigit c = false) : (digits ++ rest).span isDigit = (digits, rest) := by
  rw [List.span_eq_takeWhile_dropWhile, List.takeWhile_append_of_pos hdigits, List.dropWhile_append_of_pos hdigits]
  cases rest with
  | nil => rw [List.takeWhile_nil, List.dropWhile_nil, List.append_nil]
  | cons c rest =>
    have hc : ¬ isDigit c = true := by rw [hrest c rfl]; decide
    rw [List.takeWhile_cons_of_neg hc, List.dropWhile_cons_of_neg hc, List.append_nil]

/-- Neither digit nor sign comes first. -/
def NoSign (input : Bytes) : Prop := ∀ c, input.head? = some c → c ≠ 0x2D ∧ c ≠ 0x2B

theorem scanSign_signText (sign : Option Bool) (hrest : sign = none → NoSign rest) :
    scanSign (signText sign ++ rest) = (decide (sign = some true), rest) := by
  rcases sign with _ | _ | _
  · cases rest with
    | nil => rfl
    | cons c rest =>
      obtain ⟨hminus, hplus⟩ := hrest rfl c rfl
      show scanSign (c :: rest) = _
      rw [scanSign, if_neg hminus, if_neg hplus]
      rfl
  · rfl
  · rfl

theorem noSign_of_digits {digits : Bytes} (hdigits : ∀ c ∈ digits, isDigit c = true) (hrest : NoSign rest) :
    NoSign (digits ++ rest) := by
  cases digits with
  | nil => exact hrest
  | cons c digits =>
    intro x hx
    cases hx
    have hc := hdigits c List.mem_cons_self
    constructor <;>
    · rintro rfl
      revert hc
      decide

theorem Delimited.noSign (h : Delimited rest) : NoSign rest := by
  intro c hc
  rcases h c hc with hws | rfl | rfl | rfl
  · simp only [isWs, Bool.or_eq_true, decide_eq_true_eq] at hws
    rcases hws with ((rfl | rfl) | rfl) | rfl <;> decide
  all_goals decide

theorem scanExponent_text {exponent : Option (UInt8 × Option Bool × Bytes)}
    (h : ∀ part, exponent = some part → (part.1 = 0x65 ∨ part.1 = 0x45) ∧ ∀ c ∈ part.2.2, isDigit c = true)
    (hrest : Delimited rest) :
    scanExponent (exponentText exponent ++ rest)
      = (((exponent.map fun part => decide (part.2.1 = some true)).getD false,
          (exponent.map fun part => part.2.2).getD []), rest) := by
  rcases exponent with _ | ⟨letter, sign, digits⟩
  · cases rest with
    | nil => rfl
    | cons c rest =>
      obtain ⟨-, -, hsmall, hcapital⟩ := hrest.numberEnd c rfl
      exact if_neg fun h => h.elim hsmall hcapital
  · obtain ⟨hletter, hdigits⟩ := h _ rfl
    have hsign := scanSign_signText sign fun _ => noSign_of_digits hdigits hrest.noSign
    have hspan := span_of_head hdigits fun c hc => (hrest.numberEnd c hc).1
    simp only [exponentText, List.cons_append, List.append_assoc, scanExponent]
    rw [if_pos hletter, hsign]
    simp only [hspan]
    rfl

theorem scanFraction_text {fraction : Option Bytes}
    (h : ∀ digits, fraction = some digits → ∀ c ∈ digits, isDigit c = true)
    (hrest : ∀ c, rest.head? = some c → isDigit c = false ∧ c ≠ 0x2E) :
    scanFraction (fractionText fraction ++ rest) = (fraction.getD [], rest) := by
  rcases fraction with _ | digits
  · cases rest with
    | nil => rfl
    | cons c rest => exact if_neg (hrest c rfl).2
  · show scanFraction (0x2E :: (digits ++ rest)) = _
    simp only [scanFraction, if_true]
    exact span_of_head (h digits rfl) fun c hc => (hrest c hc).1

/-- **Completeness of `ParseNumber`.** -/
theorem scanNumeral_of_number {n : NumberText} (hn : n.Loose) (hrest : Delimited rest) :
    scanNumeral (n.text ++ rest) = (n.numeral, rest) := by
  obtain ⟨⟨hwhole, hfraction, hexponent⟩, -, hfirst⟩ := hn
  have hexp := scanExponent_text hexponent hrest
  have hexpHead : ∀ c, (exponentText n.exponent ++ rest).head? = some c → isDigit c = false ∧ c ≠ 0x2E := by
    intro c hc
    cases hpart : n.exponent with
    | none =>
      rw [hpart] at hc
      exact ⟨(hrest.numberEnd c hc).1, (hrest.numberEnd c hc).2.1⟩
    | some part =>
      rw [hpart] at hc
      have hletter := (hexponent part hpart).1
      cases hc
      rcases hletter with hletter | hletter <;> rw [hletter] <;> decide
  have hfrac := scanFraction_text hfraction hexpHead
  have hfracHead : ∀ c, (fractionText n.fraction ++ (exponentText n.exponent ++ rest)).head? = some c →
      isDigit c = false := by
    intro c hc
    cases hpart : n.fraction with
    | none =>
      rw [hpart] at hc
      exact (hexpHead c hc).1
    | some digits =>
      rw [hpart] at hc
      cases hc
      decide
  have hspan := span_of_head hwhole hfracHead
  have hsign : scanSign (n.text ++ rest)
      = (n.minus, n.whole ++ (fractionText n.fraction ++ (exponentText n.exponent ++ rest))) := by
    cases hminus : n.minus with
    | true => simp [NumberText.text, hminus, scanSign]
    | false =>
      have hne : n.whole ≠ [] := hfirst.resolve_left (by rw [hminus]; decide)
      obtain ⟨c, digits, hcons⟩ := List.exists_cons_of_ne_nil hne
      have hno : NoSign (n.whole ++ (fractionText n.fraction ++ (exponentText n.exponent ++ rest))) := by
        rw [hcons] at hwhole ⊢
        intro x hx
        cases hx
        have hc := hwhole c List.mem_cons_self
        constructor <;>
        · rintro rfl
          revert hc
          decide
      have htext : n.text ++ rest
          = signText none ++ (n.whole ++ (fractionText n.fraction ++ (exponentText n.exponent ++ rest))) := by
        simp [NumberText.text, hminus, signText]
      rw [htext, scanSign_signText none fun _ => hno]
      rfl
  simp only [scanNumeral, hsign, hspan, hfrac, hexp]
  rfl

/-! ### Values -/

theorem parseLiteral_spec {value : JsonValue} (h : parseLiteral input = some (value, rest)) :
    ∃ text, IsValue loose text value ∧ input = text ++ rest := by
  unfold parseLiteral at h
  split at h
  · next tail htrue =>
    cases h
    exact ⟨_, .true, (List.isPrefixOf?_eq_some_iff_append_eq.1 htrue).symm⟩
  · split at h
    · next tail hfalse =>
      cases h
      exact ⟨_, .false, (List.isPrefixOf?_eq_some_iff_append_eq.1 hfalse).symm⟩
    · obtain ⟨tail, hnull, heq⟩ := Option.map_eq_some_iff.1 h
      cases heq
      exact ⟨_, .null, (List.isPrefixOf?_eq_some_iff_append_eq.1 hnull).symm⟩

theorem parseString_spec {out : Bytes} (h : parseString input = some (out, rest)) :
    ∃ blank body, IsBlank blank ∧ IsStringBody loose body out ∧ input = blank ++ 0x22 :: (body ++ 0x22 :: rest) := by
  obtain ⟨tail, hquote, hbody⟩ := Option.bind_eq_some_iff.1 h
  obtain ⟨blank, hblank, rfl⟩ := matchChar_eq_some hquote
  obtain ⟨body, htext, rfl⟩ := isStringBody_of_parse hbody
  exact ⟨blank, body, hblank, htext, rfl⟩

theorem parseNumber_spec {value : Double} (hws : isWs c = false) (hc : c = 0x2D ∨ isDigit c = true)
    (h : parseNumber (c :: input) = some (value, rest)) :
    ∃ text, IsValue loose text (.number value) ∧ c :: input = text ++ rest := by
  unfold parseNumber at h
  rw [skipWs_cons hws] at h
  rcases hscan : scanNumeral (c :: input) with ⟨numeral, tail⟩
  simp only [hscan] at h
  split_ifs at h with hdigit
  cases h
  obtain ⟨n, hn, htext, rfl⟩ := number_of_scan ⟨c, rfl, hc⟩ hdigit hscan
  exact ⟨n.text, .number hn, htext⟩

/-- A value at the beginning, with blanks in front of it. -/
def Begins (input : Bytes) (value : JsonValue) (rest : Bytes) : Prop :=
  ∃ blank text, IsBlank blank ∧ IsValue loose text value ∧ input = blank ++ (text ++ rest)

/-- Behind a value and blanks comes what ends the text that it belongs to. -/
theorem Begins.padded {value : JsonValue} {blank tail : Bytes} (h : Begins input value (blank ++ tail))
    (hblank : IsBlank blank) : ∃ text, IsPadded loose text value ∧ input = text ++ tail := by
  obtain ⟨front, text, hfront, hvalue, rfl⟩ := h
  exact ⟨front ++ (text ++ blank), .mk hfront hvalue hblank, by simp⟩

/-- What is parsed on that fuel is a value of the grammar. -/
def SoundValue (fuel : ℕ) : Prop :=
  ∀ input value rest, parseValue fuel input = some (value, rest) → Begins input value rest

def SoundMembers (fuel : ℕ) : Prop :=
  ∀ input members rest, parseMembers fuel input = some (members, rest) →
    ∃ text, IsMembers loose text members ∧ input = text ++ 0x7D :: rest

def SoundElements (fuel : ℕ) : Prop :=
  ∀ input values rest, parseElements fuel input = some (values, rest) →
    ∃ text, IsElements loose text values ∧ input = text ++ 0x5D :: rest

variable {fuel : ℕ}

theorem object_of_parse (hmembers : SoundMembers fuel) {value : JsonValue}
    (h : (match matchChar 0x7D input with
      | some rest => some (.object [], rest)
      | none => (parseMembers fuel input).map fun r => (.object r.1, r.2)) = some (value, rest)) :
    ∃ text, IsValue loose text value ∧ 0x7B :: input = text ++ rest := by
  cases hclose : matchChar 0x7D input with
  | some tail =>
    rw [hclose] at h
    cases h
    obtain ⟨blank, hblank, rfl⟩ := matchChar_eq_some hclose
    exact ⟨_, .emptyObject trivial hblank, by simp⟩
  | none =>
    rw [hclose] at h
    obtain ⟨⟨members, tail⟩, hparse, heq⟩ := Option.map_eq_some_iff.1 h
    cases heq
    obtain ⟨text, htext, rfl⟩ := hmembers _ _ _ hparse
    exact ⟨_, .object htext, by simp⟩

theorem array_of_parse (helements : SoundElements fuel) {value : JsonValue}
    (h : (match matchChar 0x5D input with
      | some rest => some (.array [], rest)
      | none => (parseElements fuel input).map fun r => (.array r.1, r.2)) = some (value, rest)) :
    ∃ text, IsValue loose text value ∧ 0x5B :: input = text ++ rest := by
  cases hclose : matchChar 0x5D input with
  | some tail =>
    rw [hclose] at h
    cases h
    obtain ⟨blank, hblank, rfl⟩ := matchChar_eq_some hclose
    exact ⟨_, .emptyArray trivial hblank, by simp⟩
  | none =>
    rw [hclose] at h
    obtain ⟨⟨values, tail⟩, hparse, heq⟩ := Option.map_eq_some_iff.1 h
    cases heq
    obtain ⟨text, htext, rfl⟩ := helements _ _ _ hparse
    exact ⟨_, .array htext, by simp⟩

theorem soundValue_succ (hmembers : SoundMembers fuel) (helements : SoundElements fuel) : SoundValue (fuel + 1) := by
  intro input value rest h
  obtain ⟨blank, hblank, hsplit, hnot⟩ := skipWs_spec input
  rw [parseValue] at h
  cases hskip : skipWs input with
  | nil =>
    rw [hskip] at h
    cases h
  | cons c tail =>
    rw [hskip] at h hsplit hnot
    have hc := hnot c rfl
    suffices hvalue : ∃ text, IsValue loose text value ∧ c :: tail = text ++ rest by
      obtain ⟨text, hvalue, htext⟩ := hvalue
      exact ⟨blank, text, hblank, hvalue, by rw [hsplit, htext]⟩
    simp only at h
    split_ifs at h with hquote hbrace hbracket hnumber
    · obtain ⟨⟨out, tail'⟩, hstring, heq⟩ := Option.map_eq_some_iff.1 h
      cases heq
      rw [hquote, parseString, matchChar_cons (by decide), Option.bind_some] at hstring
      obtain ⟨body, hbody, rfl⟩ := isStringBody_of_parse hstring
      exact ⟨_, .string hbody, by rw [hquote]; simp⟩
    · rw [hbrace]
      exact object_of_parse hmembers h
    · rw [hbracket]
      exact array_of_parse helements h
    · obtain ⟨⟨number, tail'⟩, hparse, heq⟩ := Option.map_eq_some_iff.1 h
      cases heq
      exact parseNumber_spec hc hnumber hparse
    · exact parseLiteral_spec h

theorem soundMembers_succ (hvalues : SoundValue fuel) (hmembers : SoundMembers fuel) : SoundMembers (fuel + 1) := by
  intro input members rest h
  rw [parseMembers] at h
  rcases hkey : parseString input with _ | ⟨key, tail⟩
  · rw [hkey] at h
    cases h
  rcases hcolon : matchChar 0x3A tail with _ | tail'
  · simp only [hkey, hcolon] at h
    cases h
  rcases hvalue : parseValue fuel tail' with _ | ⟨value, mid⟩
  · simp only [hkey, hcolon, hvalue] at h
    cases h
  simp only [hkey, hcolon, hvalue] at h
  obtain ⟨front, body, hfront, hbody, rfl⟩ := parseString_spec hkey
  obtain ⟨back, hback, rfl⟩ := matchChar_eq_some hcolon
  have hbegins := hvalues _ _ _ hvalue
  rcases hcomma : matchChar 0x2C mid with _ | next
  · rw [hcomma] at h
    obtain ⟨tail'', hclose, heq⟩ := Option.map_eq_some_iff.1 h
    cases heq
    obtain ⟨blank, hblank, rfl⟩ := matchChar_eq_some hclose
    obtain ⟨text, hpadded, rfl⟩ := hbegins.padded hblank
    exact ⟨_, .last hfront hbody hback hpadded, by simp⟩
  · rw [hcomma] at h
    obtain ⟨⟨others, tail''⟩, hothers, heq⟩ := Option.map_eq_some_iff.1 h
    cases heq
    obtain ⟨blank, hblank, rfl⟩ := matchChar_eq_some hcomma
    obtain ⟨text, hpadded, rfl⟩ := hbegins.padded hblank
    obtain ⟨texts, htexts, rfl⟩ := hmembers _ _ _ hothers
    exact ⟨_, .cons hfront hbody hback hpadded htexts, by simp⟩

theorem soundElements_succ (hvalues : SoundValue fuel) (helements : SoundElements fuel) :
    SoundElements (fuel + 1) := by
  intro input values rest h
  rw [parseElements] at h
  rcases hvalue : parseValue fuel input with _ | ⟨value, mid⟩
  · rw [hvalue] at h
    cases h
  simp only [hvalue] at h
  have hbegins := hvalues _ _ _ hvalue
  rcases hcomma : matchChar 0x2C mid with _ | next
  · rw [hcomma] at h
    obtain ⟨tail, hclose, heq⟩ := Option.map_eq_some_iff.1 h
    cases heq
    obtain ⟨blank, hblank, rfl⟩ := matchChar_eq_some hclose
    obtain ⟨text, hpadded, rfl⟩ := hbegins.padded hblank
    exact ⟨_, .last hpadded, rfl⟩
  · rw [hcomma] at h
    obtain ⟨⟨others, tail⟩, hothers, heq⟩ := Option.map_eq_some_iff.1 h
    cases heq
    obtain ⟨blank, hblank, rfl⟩ := matchChar_eq_some hcomma
    obtain ⟨text, hpadded, rfl⟩ := hbegins.padded hblank
    obtain ⟨texts, htexts, rfl⟩ := helements _ _ _ hothers
    exact ⟨_, .cons hpadded htexts, by simp⟩

/-- **Soundness of `ParseValue`**, with the loops over elements and members. -/
theorem sound (fuel : ℕ) : SoundValue fuel ∧ SoundMembers fuel ∧ SoundElements fuel := by
  induction fuel with
  | zero =>
    refine ⟨?_, ?_, ?_⟩ <;>
    · intro input found rest h
      cases h
  | succ fuel ih =>
    obtain ⟨ihValue, ihMembers, ihElements⟩ := ih
    exact ⟨soundValue_succ ihMembers ihElements, soundMembers_succ ihValue ihMembers,
      soundElements_succ ihValue ihElements⟩

/-! ### Completeness -/

theorem Delimited.blank {blank : Bytes} (hblank : IsBlank blank) (h : Delimited rest) : Delimited (blank ++ rest) := by
  cases blank with
  | nil => exact h
  | cons c blank =>
    intro x hx
    cases hx
    exact .inl (hblank c List.mem_cons_self)

theorem delimited_nil : Delimited [] := by
  intro c hc
  cases hc

theorem delimited_cons (h : c = 0x2C ∨ c = 0x5D ∨ c = 0x7D) (rest : Bytes) : Delimited (c :: rest) := by
  intro x hx
  cases hx
  exact .inr h

theorem parseValue_blank {blank : Bytes} (h : IsBlank blank) (fuel : ℕ) (rest : Bytes) :
    parseValue fuel (blank ++ rest) = parseValue fuel rest := by
  cases fuel with
  | zero => rfl
  | succ fuel => rw [parseValue, parseValue, skipWs_blank h]

theorem exists_head_of_loose {n : NumberText} (h : n.Loose) :
    ∃ c tail, n.text = c :: tail ∧ (c = 0x2D ∨ isDigit c = true) := by
  rcases h.first with hminus | hwhole
  · exact ⟨0x2D, _, by rw [NumberText.text, if_pos hminus]; rfl, .inl rfl⟩
  · obtain ⟨c, digits, hcons⟩ := List.exists_cons_of_ne_nil hwhole
    have hc : isDigit c = true := h.wellFormed.whole c (hcons ▸ List.mem_cons_self)
    cases hminus : n.minus with
    | true => exact ⟨0x2D, _, by rw [NumberText.text, if_pos hminus]; rfl, .inl rfl⟩
    | false =>
      exact ⟨c, digits ++ fractionText n.fraction ++ exponentText n.exponent, by simp [NumberText.text, hminus, hcons],
        .inr hc⟩

/-- No value begins with a blank or a closing bracket. -/
theorem exists_head_of_isValue {value : JsonValue} (h : IsValue loose text value) :
    ∃ c tail, text = c :: tail ∧ isWs c = false ∧ c ≠ 0x5D := by
  cases h with
  | null => exact ⟨0x6E, _, rfl, by decide, by decide⟩
  | true => exact ⟨0x74, _, rfl, by decide, by decide⟩
  | false => exact ⟨0x66, _, rfl, by decide, by decide⟩
  | number hn =>
    obtain ⟨c, tail, hcons, hc⟩ := exists_head_of_loose hn
    refine ⟨c, tail, hcons, (not_isWs_of_number hc).1, ?_⟩
    rintro rfl
    revert hc
    decide
  | string _ => exact ⟨0x22, _, rfl, by decide, by decide⟩
  | emptyArray _ _ => exact ⟨0x5B, _, rfl, by decide, by decide⟩
  | array _ => exact ⟨0x5B, _, rfl, by decide, by decide⟩
  | emptyObject _ _ => exact ⟨0x7B, _, rfl, by decide, by decide⟩
  | object _ => exact ⟨0x7B, _, rfl, by decide, by decide⟩

theorem matchChar_of_isPadded {value : JsonValue} (h : IsPadded loose text value) (rest : Bytes) :
    matchChar 0x5D (text ++ rest) = none := by
  obtain ⟨hfront, hvalue, -⟩ := h
  obtain ⟨c, tail, rfl, hws, hne⟩ := exists_head_of_isValue hvalue
  rw [List.append_assoc, List.append_assoc, List.cons_append]
  exact matchChar_eq_none hfront hws hne _

theorem matchChar_of_isElements {values : List JsonValue} (h : IsElements loose text values) (rest : Bytes) :
    matchChar 0x5D (text ++ rest) = none := by
  cases h with
  | last h => exact matchChar_of_isPadded h rest
  | cons h _ =>
    rw [List.append_assoc]
    exact matchChar_of_isPadded h _

theorem matchChar_of_isMembers {members : List (Bytes × JsonValue)} (h : IsMembers loose text members) (rest : Bytes) :
    matchChar 0x7D (text ++ rest) = none := by
  cases h with
  | last hfront _ _ _ =>
    rw [List.append_assoc]
    exact matchChar_eq_none hfront (by decide) (by decide) _
  | cons hfront _ _ _ _ =>
    rw [List.append_assoc]
    exact matchChar_eq_none hfront (by decide) (by decide) _

/-- **Completeness of `ParseString`.** -/
theorem parseString_of_isStringBody {blank body out : Bytes} (hblank : IsBlank blank)
    (h : IsStringBody loose body out) (rest : Bytes) :
    parseString (blank ++ 0x22 :: (body ++ 0x22 :: rest)) = some (out, rest) := by
  rw [parseString, matchChar_blank hblank, matchChar_cons (by decide), Option.bind_some,
    parseStringBody_of_isStringBody h]

mutual

/-- **Completeness of `ParseValue`.** -/
theorem IsValue.parse {text : Bytes} {value : JsonValue} (h : IsValue loose text value) (fuel : ℕ) (rest : Bytes)
    (hfuel : text.length < fuel) (hrest : Delimited rest) : parseValue fuel (text ++ rest) = some (value, rest) := by
  obtain ⟨fuel, rfl⟩ := Nat.exists_eq_succ_of_ne_zero (Nat.ne_of_gt (Nat.zero_lt_of_lt hfuel))
  match h with
  | .null =>
    show parseValue (fuel + 1) (0x6E :: 0x75 :: 0x6C :: 0x6C :: rest) = _
    rw [parseValue, skipWs_cons (by decide)]
    rfl
  | .true =>
    show parseValue (fuel + 1) (0x74 :: 0x72 :: 0x75 :: 0x65 :: rest) = _
    rw [parseValue, skipWs_cons (by decide)]
    rfl
  | .false =>
    show parseValue (fuel + 1) (0x66 :: 0x61 :: 0x6C :: 0x73 :: 0x65 :: rest) = _
    rw [parseValue, skipWs_cons (by decide)]
    rfl
  | @IsValue.number _ n hn =>
    obtain ⟨c, tail, hcons, hc⟩ := exists_head_of_loose hn
    obtain ⟨hws, hquote, hbrace, hbracket⟩ := not_isWs_of_number hc
    have hscan := scanNumeral_of_number hn hrest
    have hdigit : ¬ (n.numeral.whole = [] ∧ n.numeral.fraction = []) :=
      fun hempty => hn.digit.elim (fun hne => hne hempty.1) fun hne => hne hempty.2
    rw [hcons, List.cons_append] at hscan ⊢
    have hparse : parseNumber (c :: (tail ++ rest)) = some (n.numeral.atof, rest) := by
      unfold parseNumber
      rw [skipWs_cons hws, hscan]
      exact if_neg hdigit
    rw [parseValue, skipWs_cons hws]
    simp only [if_neg hquote, if_neg hbrace, if_neg hbracket, if_pos hc, hparse]
    rfl
  | @IsValue.string _ body out h =>
    have hparse := parseString_of_isStringBody (List.forall_mem_nil _ : IsBlank []) h rest
    have htext : 0x22 :: (body ++ [0x22]) ++ rest = 0x22 :: (body ++ 0x22 :: rest) := by simp
    rw [htext, parseValue, skipWs_cons (by decide)]
    simp only [if_true]
    rw [List.nil_append] at hparse
    rw [hparse]
    rfl
  | @IsValue.emptyArray _ blank _ hblank =>
    have hclose : matchChar 0x5D (blank ++ 0x5D :: rest) = some rest := by
      rw [matchChar_blank hblank, matchChar_cons (by decide)]
    have htext : 0x5B :: (blank ++ [0x5D]) ++ rest = 0x5B :: (blank ++ 0x5D :: rest) := by simp
    rw [htext, parseValue, skipWs_cons (by decide)]
    simp only [hclose]
    rfl
  | @IsValue.array _ body values h =>
    have hopen := matchChar_of_isElements h (0x5D :: rest)
    have hparse := h.parse fuel rest (by simpa using hfuel)
    have htext : 0x5B :: (body ++ [0x5D]) ++ rest = 0x5B :: (body ++ 0x5D :: rest) := by simp
    rw [htext, parseValue, skipWs_cons (by decide)]
    simp only [hopen, hparse]
    rfl
  | @IsValue.emptyObject _ blank _ hblank =>
    have hclose : matchChar 0x7D (blank ++ 0x7D :: rest) = some rest := by
      rw [matchChar_blank hblank, matchChar_cons (by decide)]
    have htext : 0x7B :: (blank ++ [0x7D]) ++ rest = 0x7B :: (blank ++ 0x7D :: rest) := by simp
    rw [htext, parseValue, skipWs_cons (by decide)]
    simp only [hclose]
    rfl
  | @IsValue.object _ body members h =>
    have hopen := matchChar_of_isMembers h (0x7D :: rest)
    have hparse := h.parse fuel rest (by simpa using hfuel)
    have htext : 0x7B :: (body ++ [0x7D]) ++ rest = 0x7B :: (body ++ 0x7D :: rest) := by simp
    rw [htext, parseValue, skipWs_cons (by decide)]
    simp only [hopen, hparse]
    rfl

theorem IsPadded.parse {text : Bytes} {value : JsonValue} (h : IsPadded loose text value) (fuel : ℕ) (rest : Bytes)
    (hfuel : text.length < fuel) (hrest : Delimited rest) :
    ∃ blank, IsBlank blank ∧ parseValue fuel (text ++ rest) = some (value, blank ++ rest) := by
  match h with
  | @IsPadded.mk _ front body back _ hfront hvalue hback =>
    rw [List.length_append, List.length_append] at hfuel
    refine ⟨back, hback, ?_⟩
    rw [List.append_assoc, parseValue_blank hfront, List.append_assoc]
    exact hvalue.parse fuel (back ++ rest) (by omega) (hrest.blank hback)

theorem IsElements.parse {text : Bytes} {values : List JsonValue} (h : IsElements loose text values) (fuel : ℕ)
    (rest : Bytes) (hfuel : text.length + 1 < fuel) :
    parseElements fuel (text ++ 0x5D :: rest) = some (values, rest) := by
  obtain ⟨fuel, rfl⟩ := Nat.exists_eq_succ_of_ne_zero (Nat.ne_of_gt (Nat.zero_lt_of_lt hfuel))
  match h with
  | .last h =>
    obtain ⟨blank, hblank, hparse⟩ := h.parse fuel (0x5D :: rest) (by omega) (delimited_cons (by decide) rest)
    have hcomma := matchChar_eq_none (c := 0x2C) hblank (show isWs 0x5D = false by decide) (by decide) rest
    have hclose : matchChar 0x5D (blank ++ 0x5D :: rest) = some rest := by
      rw [matchChar_blank hblank, matchChar_cons (by decide)]
    rw [parseElements, hparse]
    simp only [hcomma, hclose]
    rfl
  | @IsElements.cons _ body texts _ values h hrest =>
    rw [List.length_append, List.length_cons] at hfuel
    obtain ⟨blank, hblank, hparse⟩ := h.parse fuel (0x2C :: (texts ++ 0x5D :: rest)) (by omega)
      (delimited_cons (by decide) _)
    have hcomma : matchChar 0x2C (blank ++ 0x2C :: (texts ++ 0x5D :: rest)) = some (texts ++ 0x5D :: rest) := by
      rw [matchChar_blank hblank, matchChar_cons (by decide)]
    have hothers := hrest.parse fuel rest (by omega)
    rw [List.append_assoc, List.cons_append, parseElements, hparse]
    simp only [hcomma, hothers]
    rfl

theorem IsMembers.parse {text : Bytes} {members : List (Bytes × JsonValue)} (h : IsMembers loose text members) (fuel : ℕ)
    (rest : Bytes) (hfuel : text.length + 1 < fuel) :
    parseMembers fuel (text ++ 0x7D :: rest) = some (members, rest) := by
  obtain ⟨fuel, rfl⟩ := Nat.exists_eq_succ_of_ne_zero (Nat.ne_of_gt (Nat.zero_lt_of_lt hfuel))
  match h with
  | @IsMembers.last _ front body back valueText key _ hfront hkey hback h =>
    have hlength : valueText.length < fuel := by
      simp only [List.length_append, List.length_cons] at hfuel
      omega
    obtain ⟨blank, hblank, hparse⟩ := h.parse fuel (0x7D :: rest) hlength (delimited_cons (by decide) rest)
    have hcomma := matchChar_eq_none (c := 0x2C) hblank (show isWs 0x7D = false by decide) (by decide) rest
    have hclose : matchChar 0x7D (blank ++ 0x7D :: rest) = some rest := by
      rw [matchChar_blank hblank, matchChar_cons (by decide)]
    have hstring := parseString_of_isStringBody hfront hkey (back ++ 0x3A :: (valueText ++ 0x7D :: rest))
    have hcolon : matchChar 0x3A (back ++ 0x3A :: (valueText ++ 0x7D :: rest)) = some (valueText ++ 0x7D :: rest) := by
      rw [matchChar_blank hback, matchChar_cons (by decide)]
    simp only [List.append_assoc, List.cons_append]
    rw [parseMembers, hstring]
    simp only [hcolon, hparse, hcomma, hclose]
    rfl
  | @IsMembers.cons _ front body back valueText texts key _ members hfront hkey hback h hrest =>
    have hlength : valueText.length < fuel ∧ texts.length + 1 < fuel := by
      simp only [List.length_append, List.length_cons] at hfuel
      omega
    obtain ⟨blank, hblank, hparse⟩ := h.parse fuel (0x2C :: (texts ++ 0x7D :: rest)) hlength.1
      (delimited_cons (by decide) _)
    have hcomma : matchChar 0x2C (blank ++ 0x2C :: (texts ++ 0x7D :: rest)) = some (texts ++ 0x7D :: rest) := by
      rw [matchChar_blank hblank, matchChar_cons (by decide)]
    have hothers := hrest.parse fuel rest hlength.2
    have hstring := parseString_of_isStringBody hfront hkey (back ++ 0x3A :: (valueText ++ 0x2C :: (texts ++ 0x7D :: rest)))
    have hcolon : matchChar 0x3A (back ++ 0x3A :: (valueText ++ 0x2C :: (texts ++ 0x7D :: rest)))
        = some (valueText ++ 0x2C :: (texts ++ 0x7D :: rest)) := by
      rw [matchChar_blank hback, matchChar_cons (by decide)]
    simp only [List.append_assoc, List.cons_append]
    rw [parseMembers, hstring]
    simp only [hcolon, hparse, hcomma, hothers]
    rfl

end

theorem parseJson_of_isPadded {json : Bytes} {value : JsonValue} (h : IsPadded loose json value) :
    parseJson json = some value := by
  obtain ⟨blank, -, hparse⟩ := h.parse (json.length + 1) [] (Nat.lt_succ_self _) delimited_nil
  rw [List.append_nil, List.append_nil] at hparse
  rw [parseJson, hparse]
  rfl

/-- **`ParseJson` and its grammar.**  What it finds is the value that the loose grammar gives to the beginning of the
text, blanks in front of it, and it finds the value of every text that is one, blanks around it. -/
theorem parseJson_loose :
    (∀ json value, parseJson json = some value →
      ∃ blank text rest, IsBlank blank ∧ IsValue loose text value ∧ json = blank ++ (text ++ rest)) ∧
    (∀ json value, IsPadded loose json value → parseJson json = some value) ∧
    ∀ json value, IsPadded documented json value → IsPadded loose json value := by
  refine ⟨?_, fun json value h => parseJson_of_isPadded h, fun json value h => h.loose⟩
  intro json value h
  obtain ⟨⟨value', rest⟩, hparse, rfl⟩ := Option.map_eq_some_iff.1 h
  obtain ⟨blank, text, hblank, hvalue, hsplit⟩ := (sound _).1 _ _ _ hparse
  exact ⟨blank, text, rest, hblank, hvalue, hsplit⟩

/-- A documented text that does not begin with a blank is a value, and blanks behind it. -/
theorem exists_value_of_isPadded {D : Dialect} {value : JsonValue} (h : IsPadded D (c :: input) value)
    (hc : isWs c = false) : ∃ text back, IsValue D text value ∧ c :: input = text ++ back := by
  generalize hjson : c :: input = json at h
  obtain @⟨front, text, back, _, hfront, hvalue, -⟩ := h
  cases front with
  | nil => exact ⟨text, back, hvalue, rfl⟩
  | cons x front =>
    obtain rfl : c = x := (List.cons.inj hjson).1
    rw [hfront c List.mem_cons_self] at hc
    cases hc

/-- **A letter that is not listed.**  Behind a backslash it is taken for itself. -/
theorem unlisted_escape_taken :
    parseJson [0x22, 0x5C, 0x71, 0x22] = some (.string [0x71]) ∧
      ¬ ∃ value, IsPadded documented [0x22, 0x5C, 0x71, 0x22] value := by
  refine ⟨rfl, ?_⟩
  rintro ⟨value, h⟩
  obtain ⟨text, back, hvalue, hjson⟩ := exists_value_of_isPadded h (by decide)
  cases hvalue with
  | number hn =>
    obtain ⟨c, tail, hcons, hc⟩ := exists_head_of_loose hn.loose
    rw [hcons] at hjson
    obtain rfl : 0x22 = c := (List.cons.inj hjson).1
    revert hc
    decide
  | string hbody =>
    have hjson := (List.cons.inj hjson).2
    cases hbody with
    | nil => exact absurd (List.cons.inj hjson).1 (by decide)
    | plain _ hbackslash _ => exact hbackslash (List.cons.inj hjson).1.symm
    | escape he _ =>
      obtain rfl := (List.cons.inj (List.cons.inj hjson).2).1
      cases he
    | unicode _ _ => exact absurd (List.cons.inj (List.cons.inj hjson).2).1 (by decide)
  | _ => exact absurd (List.cons.inj hjson).1 (by decide)

end VianiumVoip.Signaling.Json
