import Mathlib.Data.List.DropRight
import VianiumVoip.Signaling.JsonExact
import VianiumVoip.Signaling.JsonReads

/-!
# The JSON parser by positions and by suffixes

The parser that keeps a position finds what the parser of `Signaling/Json` finds that hands the rest of the text on
(`value_parseJson`); its grammar is that of `Signaling/JsonExact`.
-/

namespace VianiumVoip.Signaling.JsonReads

open VianiumVoip.Lib Traced

variable {data : Bytes} {α : Type}

/-- The text that is left. -/
def JsonParser.rest (data : Bytes) (p : JsonParser) : Bytes := data.drop p.pos

/-- What was found, and the text that is left. -/
def found (data : Bytes) (r : Option α × JsonParser) : Option (α × Bytes) := r.1.map fun x => (x, r.2.rest data)

@[simp] theorem found_none (p : JsonParser) : found data ((none, p) : Option α × JsonParser) = none := rfl
@[simp] theorem found_fail (p : JsonParser) : found data (p.fail : Option α × JsonParser) = none := rfl
@[simp] theorem found_some (x : α) (p : JsonParser) : found data (some x, p) = some (x, p.rest data) := rfl

theorem rest_of_lt {p : JsonParser} (h : p.pos < data.length) :
    p.rest data = data.getD p.pos 0 :: (p.advance 1).rest data :=
  drop_eq_getD_cons h

theorem rest_of_le {p : JsonParser} (h : data.length ≤ p.pos) : p.rest data = [] := List.drop_eq_nil_of_le h

/-- The flag stays as it is. -/
def Keeps (p : JsonParser) (r : Option α × JsonParser) : Prop := r.1.isSome = true → r.2.failed = p.failed

theorem value_byteAt_bind {β : Type} (i : ℕ) (f : UInt8 → Traced β) :
    (byteAt data i >>= f).value = (f (data.getD i 0)).value := rfl

theorem value_skipWs (data : Bytes) (p : JsonParser) :
    (skipWs data p).value.rest data = Json.skipWs (p.rest data) ∧ (skipWs data p).value.failed = p.failed := by
  fun_induction skipWs data p with
  | case1 p hlt ih =>
    rw [rest_of_lt hlt, value_byteAt_bind]
    by_cases hws : Json.isWs (data.getD p.pos 0) = true
    · rw [if_pos hws, Json.skipWs, List.dropWhile_cons_of_pos hws]
      exact ih
    · rw [if_neg hws, Json.skipWs, List.dropWhile_cons_of_neg hws, value_pure, rest_of_lt hlt]
      exact ⟨rfl, rfl⟩
  | case2 p hlt =>
    rw [value_pure, rest_of_le (by omega)]
    exact ⟨rfl, rfl⟩

theorem skipWs_skipWs (input : Bytes) : Json.skipWs (Json.skipWs input) = Json.skipWs input :=
  List.dropWhile_idempotent Json.isWs input

theorem matchChar_skipWs (c : UInt8) (input : Bytes) : Json.matchChar c (Json.skipWs input) = Json.matchChar c input := by
  rw [Json.matchChar, skipWs_skipWs, Json.matchChar]

theorem value_matchChar (data : Bytes) (c : UInt8) (p : JsonParser) :
    (found data (matchChar data c p).value).map Prod.snd = Json.matchChar c (p.rest data) ∧
      (matchChar data c p).value.2.failed = p.failed ∧
      ((matchChar data c p).value.1 = none → (matchChar data c p).value.2.rest data = Json.skipWs (p.rest data)) := by
  obtain ⟨hrest, hfailed⟩ := value_skipWs data p
  rw [matchChar, value_bind]
  generalize (skipWs data p).value = q at hrest hfailed
  rw [Json.matchChar, ← hrest]
  by_cases hlt : q.pos < data.length
  · rw [if_pos hlt, rest_of_lt hlt, value_byteAt_bind]
    by_cases hc : data.getD q.pos 0 = c
    · simp only [if_pos hc]
      exact ⟨rfl, hfailed, fun h => by cases h⟩
    · simp only [if_neg hc]
      exact ⟨rfl, hfailed, fun _ => rest_of_lt hlt⟩
  · have hend := rest_of_le (Nat.le_of_not_lt hlt)
    rw [if_neg hlt, hend]
    exact ⟨rfl, hfailed, fun _ => hend⟩

theorem value_expect (data : Bytes) (c : UInt8) (p : JsonParser) :
    (found data (expect data c p).value).map Prod.snd = Json.matchChar c (p.rest data) ∧ Keeps p (expect data c p).value := by
  obtain ⟨hfound, hfailed, -⟩ := value_matchChar data c p
  rw [expect, value_bind]
  generalize (matchChar data c p).value = r at hfound hfailed
  obtain ⟨_ | ⟨⟩, q⟩ := r
  · exact ⟨hfound, fun hsome => by cases hsome⟩
  · exact ⟨hfound, fun _ => hfailed⟩

/-! ### Strings -/

theorem value_hexDigits_none {p : JsonParser} {i : ℕ} (h : Json.hexValue? (data.getD (p.pos + i) 0) = none) (left cp : ℕ) :
    (hexDigits data (left + 1) cp i p).value = (none, i + 1) := by
  rw [hexDigits, value_byteAt_bind, h]
  rfl

theorem value_hexDigits_some {p : JsonParser} {i d : ℕ} (h : Json.hexValue? (data.getD (p.pos + i) 0) = some d)
    (left cp : ℕ) :
    (hexDigits data (left + 1) cp i p).value = (hexDigits data left (cp * 16 + d) (i + 1) p).value := by
  rw [hexDigits, value_byteAt_bind, h]

theorem value_hexDigits (data : Bytes) (p : JsonParser) :
    (hexDigits data 4 0 0 p).value.1
        = Json.codePoint? (data.getD p.pos 0) (data.getD (p.pos + 1) 0) (data.getD (p.pos + 2) 0)
            (data.getD (p.pos + 3) 0) ∧
      ((hexDigits data 4 0 0 p).value.1.isSome = true → (hexDigits data 4 0 0 p).value.2 = 4) := by
  rw [Json.codePoint?]
  cases h₀ : Json.hexValue? (data.getD p.pos 0) with
  | none =>
    rw [value_hexDigits_none h₀]
    exact ⟨rfl, fun hsome => by cases hsome⟩
  | some d1 =>
    rw [value_hexDigits_some h₀]
    cases h₁ : Json.hexValue? (data.getD (p.pos + 1) 0) with
    | none =>
      rw [value_hexDigits_none h₁]
      exact ⟨rfl, fun hsome => by cases hsome⟩
    | some d2 =>
      rw [value_hexDigits_some h₁]
      cases h₂ : Json.hexValue? (data.getD (p.pos + 2) 0) with
      | none =>
        rw [value_hexDigits_none h₂]
        exact ⟨rfl, fun hsome => by cases hsome⟩
      | some d3 =>
        rw [value_hexDigits_some h₂]
        cases h₃ : Json.hexValue? (data.getD (p.pos + 3) 0) with
        | none =>
          rw [value_hexDigits_none h₃]
          exact ⟨rfl, fun hsome => by cases hsome⟩
        | some d4 =>
          rw [value_hexDigits_some h₃, Nat.zero_mul, Nat.zero_add]
          exact ⟨rfl, fun _ => rfl⟩

theorem rest_of_four {p : JsonParser} (h : p.pos + 4 ≤ data.length) :
    p.rest data = data.getD p.pos 0 :: data.getD (p.pos + 1) 0 :: data.getD (p.pos + 2) 0 :: data.getD (p.pos + 3) 0 ::
      (p.advance 4).rest data := by
  have h₀ : p.rest data = _ := rest_of_lt (by omega)
  have h₁ : (p.advance 1).rest data = _ := rest_of_lt (by simp only [JsonParser.pos_advance]; omega)
  have h₂ : (p.advance 2).rest data = _ := rest_of_lt (by simp only [JsonParser.pos_advance]; omega)
  have h₃ : (p.advance 3).rest data = _ := rest_of_lt (by simp only [JsonParser.pos_advance]; omega)
  rw [h₀, h₁]
  exact congrArg _ (congrArg _ (h₂.trans (congrArg _ h₃)))

theorem map_append_out (out more : Bytes) (r : Option (Bytes × Bytes)) :
    r.map (fun r => (out ++ more ++ r.1, r.2)) = (r.map fun r => (more ++ r.1, r.2)).map fun r => (out ++ r.1, r.2) := by
  rw [Option.map_map]
  congr 1
  funext r
  simp

theorem value_parseStringLoop (data : Bytes) (out : Bytes) (p : JsonParser) :
    found data (parseStringLoop data out p).value
        = (Json.parseStringBody (p.rest data)).map (fun r => (out ++ r.1, r.2)) ∧
      Keeps p (parseStringLoop data out p).value := by
  fun_induction parseStringLoop data out p with
  | case1 out p hlt ihUnicode ihEscape ihPlain =>
    rw [value_byteAt_bind, rest_of_lt hlt]
    generalize data.getD p.pos 0 = c
    by_cases hquote : c = 0x22
    · rw [if_pos hquote, hquote, Json.parseStringBody_of_quote]
      refine ⟨?_, fun _ => rfl⟩
      simp
    rw [if_neg hquote]
    by_cases hbackslash : c = 0x5C
    · rw [if_pos hbackslash, hbackslash]
      by_cases hmore : data.length ≤ p.pos + 1
      · rw [if_pos hmore, rest_of_le (by exact hmore), Json.parseStringBody.eq_def]
        exact ⟨rfl, fun hsome => by cases hsome⟩
      have hescape : (p.advance 1).rest data = data.getD (p.pos + 1) 0 :: (p.advance 2).rest data :=
        rest_of_lt (Nat.lt_of_not_le hmore)
      rw [if_neg hmore, hescape, value_byteAt_bind]
      generalize data.getD (p.pos + 1) 0 = e
      by_cases hu : e = 0x75
      · rw [if_pos hu, hu]
        by_cases hshort : data.length < p.pos + 2 + 4
        · have hfew : ∀ h1 h2 h3 h4 rest, (p.advance 2).rest data ≠ h1 :: h2 :: h3 :: h4 :: rest := by
            intro h1 h2 h3 h4 rest heq
            have hlength := congrArg List.length heq
            simp only [JsonParser.rest, List.length_drop, JsonParser.pos_advance, List.length_cons] at hlength
            omega
          rw [if_pos hshort, Json.parseStringBody_of_short hfew]
          exact ⟨rfl, fun hsome => by cases hsome⟩
        · obtain ⟨hcp, hcount⟩ := value_hexDigits data (p.advance 2)
          rw [if_neg hshort, rest_of_four (Nat.le_of_not_lt hshort), value_bind]
          generalize (hexDigits data 4 0 0 (p.advance 2)).value = r at hcp hcount
          obtain ⟨_ | cp, n⟩ := r
          · rw [Json.parseStringBody_of_no_codePoint hcp.symm]
            exact ⟨rfl, fun hsome => by cases hsome⟩
          · obtain rfl : n = 4 := hcount rfl
            obtain ⟨hloop, hkeeps⟩ := ihUnicode hshort 4 cp
            rw [Json.parseStringBody_of_unicode hcp.symm]
            refine ⟨hloop.trans ?_, hkeeps⟩
            exact map_append_out _ _ _
      · obtain ⟨hloop, hkeeps⟩ := ihEscape hmore e
        rw [if_neg hu, Json.parseStringBody_of_escape hu]
        refine ⟨hloop.trans ?_, hkeeps⟩
        exact map_append_out _ _ _
    · rw [if_neg hbackslash, Json.parseStringBody_of_plain hquote hbackslash]
      obtain ⟨hloop, hkeeps⟩ := ihPlain c
      refine ⟨hloop.trans ?_, hkeeps⟩
      exact map_append_out _ _ _
  | case2 out p hlt =>
    rw [value_pure, rest_of_le (by omega)]
    exact ⟨rfl, fun hsome => by cases hsome⟩

theorem value_parseString (data : Bytes) (p : JsonParser) :
    found data (parseString data p).value = Json.parseString (p.rest data) ∧ Keeps p (parseString data p).value := by
  obtain ⟨hrest, hfailed⟩ := value_skipWs data p
  rw [parseString, value_bind]
  generalize (skipWs data p).value = q at hrest hfailed
  rw [Json.parseString, Json.matchChar, ← hrest]
  by_cases hle : data.length ≤ q.pos
  · rw [if_pos hle, rest_of_le hle]
    exact ⟨rfl, fun hsome => by cases hsome⟩
  · rw [if_neg hle, rest_of_lt (by omega), value_byteAt_bind]
    by_cases hc : data.getD q.pos 0 = 0x22
    · obtain ⟨hloop, hkeeps⟩ := value_parseStringLoop data [] (q.advance 1)
      rw [if_neg (not_not.2 hc)]
      simp only [if_pos hc, Option.bind_some]
      refine ⟨hloop.trans ?_, fun hsome => (hkeeps hsome).trans hfailed⟩
      simp
    · rw [if_pos hc]
      simp only [if_neg hc]
      exact ⟨rfl, fun hsome => by cases hsome⟩

/-! ### Literals and numbers -/

theorem value_parseLiteral (data : Bytes) {lit : Bytes} (hne : lit ≠ []) (p : JsonParser) :
    (found data (parseLiteral data lit p).value).map Prod.snd = lit.isPrefixOf? (p.rest data) ∧
      Keeps p (parseLiteral data lit p).value := by
  have hnone : ¬ lit <+: p.rest data → lit.isPrefixOf? (p.rest data) = none := by
    intro h
    cases hprefix : lit.isPrefixOf? (p.rest data) with
    | none => rfl
    | some tail => exact absurd ⟨tail, List.isPrefixOf?_eq_some_iff_append_eq.1 hprefix⟩ h
  rw [parseLiteral]
  by_cases hshort : data.length < p.pos + lit.length
  · rw [if_pos hshort, hnone]
    · exact ⟨rfl, fun hsome => by cases hsome⟩
    · intro hprefix
      have hle := hprefix.length_le
      rw [JsonParser.rest, List.length_drop] at hle
      have hpos := List.length_pos_iff.2 hne
      omega
  · rw [if_neg hshort, value_bind, value_slice]
    by_cases hfound : (data.drop p.pos).take lit.length = lit
    · have hprefix : lit.isPrefixOf? (p.rest data) = some ((p.advance lit.length).rest data) := by
        rw [List.isPrefixOf?_eq_some_iff_append_eq]
        calc lit ++ (p.advance lit.length).rest data
            = (data.drop p.pos).take lit.length ++ (data.drop p.pos).drop lit.length := by
              rw [hfound, List.drop_drop]
              rfl
          _ = p.rest data := List.take_append_drop _ _
      rw [if_neg (not_not.2 hfound), hprefix]
      exact ⟨rfl, fun _ => rfl⟩
    · rw [if_pos hfound, hnone]
      · exact ⟨rfl, fun hsome => by cases hsome⟩
      · intro hprefix
        exact hfound (List.prefix_iff_eq_take.1 hprefix).symm

theorem value_skipSign (data : Bytes) (p : JsonParser) :
    (skipSign data p).value.rest data = (Json.scanSign (p.rest data)).2 ∧ (skipSign data p).value.failed = p.failed := by
  rw [skipSign]
  by_cases hlt : p.pos < data.length
  · have hcons := rest_of_lt hlt
    rw [if_pos hlt, value_byteAt_bind]
    generalize data.getD p.pos 0 = c at hcons
    rw [hcons, Json.scanSign]
    by_cases hminus : c = 0x2D
    · rw [if_pos (.inl hminus), if_pos hminus]
      exact ⟨rfl, rfl⟩
    rw [if_neg hminus]
    by_cases hplus : c = 0x2B
    · rw [if_pos (.inr hplus), if_pos hplus]
      exact ⟨rfl, rfl⟩
    rw [if_neg (not_or.2 ⟨hminus, hplus⟩), if_neg hplus]
    exact ⟨hcons, rfl⟩
  · rw [if_neg hlt, rest_of_le (Nat.le_of_not_lt hlt)]
    exact ⟨rest_of_le (Nat.le_of_not_lt hlt), rfl⟩

/-- What is seen of digits, and what is left behind them. -/
def Skips (data : Bytes) (sawDigit : Bool) (p : JsonParser) (s : Bytes × Bytes) (r : Bool × JsonParser) : Prop :=
  r.1 = (sawDigit || !s.1.isEmpty) ∧ r.2.rest data = s.2 ∧ r.2.failed = p.failed

theorem value_skipDigits (data : Bytes) (sawDigit : Bool) (p : JsonParser) :
    Skips data sawDigit p ((p.rest data).span isDigit) (skipDigits data sawDigit p).value := by
  fun_induction skipDigits data sawDigit p with
  | case1 sawDigit p hlt ih =>
    have hcons := rest_of_lt hlt
    rw [value_byteAt_bind]
    generalize data.getD p.pos 0 = c at hcons
    rw [List.span_eq_takeWhile_dropWhile] at ih ⊢
    rw [hcons]
    by_cases hc : isDigit c = true
    · obtain ⟨hsaw, hrest, hfailed⟩ := ih
      rw [if_pos hc, List.takeWhile_cons_of_pos hc, List.dropWhile_cons_of_pos hc]
      exact ⟨by rw [hsaw]; simp, hrest, hfailed⟩
    · rw [if_neg hc, List.takeWhile_cons_of_neg hc, List.dropWhile_cons_of_neg hc]
      exact ⟨by simp, hcons, rfl⟩
  | case2 sawDigit p hlt =>
    have hend := rest_of_le (Nat.le_of_not_lt hlt)
    rw [value_pure, hend]
    exact ⟨by simp, hend, rfl⟩

theorem value_skipFraction (data : Bytes) (sawDigit : Bool) (p : JsonParser) :
    Skips data sawDigit p (Json.scanFraction (p.rest data)) (skipFraction data sawDigit p).value := by
  rw [skipFraction]
  by_cases hlt : p.pos < data.length
  · have hcons := rest_of_lt hlt
    rw [if_pos hlt, value_byteAt_bind]
    generalize data.getD p.pos 0 = c at hcons
    rw [hcons, Json.scanFraction]
    by_cases hpoint : c = 0x2E
    · rw [if_pos hpoint, if_pos hpoint]
      exact value_skipDigits data sawDigit (p.advance 1)
    · rw [if_neg hpoint, if_neg hpoint]
      exact ⟨by simp, hcons, rfl⟩
  · have hend := rest_of_le (Nat.le_of_not_lt hlt)
    rw [if_neg hlt, hend]
    exact ⟨by simp [Json.scanFraction], hend, rfl⟩

theorem value_skipExponent (data : Bytes) (p : JsonParser) :
    (skipExponent data p).value.rest data = (Json.scanExponent (p.rest data)).2 ∧
      (skipExponent data p).value.failed = p.failed := by
  rw [skipExponent]
  by_cases hlt : p.pos < data.length
  · have hcons := rest_of_lt hlt
    rw [if_pos hlt, value_byteAt_bind]
    generalize data.getD p.pos 0 = c at hcons
    rw [hcons, Json.scanExponent]
    by_cases hletter : c = 0x65 ∨ c = 0x45
    · obtain ⟨hsign, hfailed⟩ := value_skipSign data (p.advance 1)
      obtain ⟨-, hrest, hfailed'⟩ := value_skipDigits data false (skipSign data (p.advance 1)).value
      rw [if_pos hletter, if_pos hletter]
      exact ⟨hrest.trans (by rw [hsign]), hfailed'.trans hfailed⟩
    · rw [if_neg hletter, if_neg hletter]
      exact ⟨hcons, rfl⟩
  · have hend := rest_of_le (Nat.le_of_not_lt hlt)
    rw [if_neg hlt, hend]
    exact ⟨hend, rfl⟩

/-- The text of a number is scanned as the number was. -/
theorem atof_text {input rest : Bytes} {numeral : Numeral}
    (hfirst : ∃ c, input.head? = some c ∧ (c = 0x2D ∨ isDigit c = true))
    (hdigit : ¬ (numeral.whole = [] ∧ numeral.fraction = [])) (h : Json.scanNumeral input = (numeral, rest)) :
    atof (input.take (input.length - rest.length)) = numeral.atof := by
  obtain ⟨n, hn, rfl, rfl⟩ := Json.number_of_scan hfirst hdigit h
  have hscan := Json.scanNumeral_of_number hn Json.delimited_nil
  rw [List.append_nil] at hscan
  rw [List.length_append, Nat.add_sub_cancel, List.take_left, atof, hscan]

theorem value_parseNumber {p : JsonParser} (hp : p.pos ≤ data.length) {c : UInt8} {tail : Bytes}
    (hrest : p.rest data = c :: tail) (hws : Json.isWs c = false) (hc : c = 0x2D ∨ isDigit c = true) :
    found data (parseNumber data p).value = Json.parseNumber (p.rest data) ∧ Keeps p (parseNumber data p).value := by
  obtain ⟨hskip, hfailed₀⟩ := value_skipWs data p
  have hstart := (skipWs_meets (n := 0) ⟨Nat.zero_le _, hp⟩).2
  rw [hrest, Json.skipWs_cons hws] at hskip
  rw [parseNumber, value_bind, Json.parseNumber, hrest, Json.skipWs_cons hws]
  generalize (skipWs data p).value = start at hskip hfailed₀ hstart
  -- the walk over the literal
  obtain ⟨hrest₁, hfailed₁⟩ := value_skipSign data start
  have hreach₁ := (skipSign_meets (n := start.pos) ⟨le_rfl, hstart.2⟩).2
  rw [value_bind]
  generalize (skipSign data start).value = p₁ at hrest₁ hfailed₁ hreach₁
  obtain ⟨hsaw₂, hrest₂, hfailed₂⟩ := value_skipDigits data false p₁
  have hreach₂ := (skipDigits_meets (n := start.pos) ⟨hreach₁, Bool.noConfusion⟩ : Meets _ _ (skipDigits data false p₁)).2
  rw [value_bind]
  generalize (skipDigits data false p₁).value = r₂ at hsaw₂ hrest₂ hfailed₂ hreach₂
  obtain ⟨saw₂, p₂⟩ := r₂
  obtain ⟨hsaw₃, hrest₃, hfailed₃⟩ := value_skipFraction data saw₂ p₂
  have hreach₃ := (skipFraction_meets hreach₂).2
  rw [value_bind]
  generalize (skipFraction data saw₂ p₂).value = r₃ at hsaw₃ hrest₃ hfailed₃ hreach₃
  obtain ⟨saw₃, p₃⟩ := r₃
  obtain ⟨hrest₄, hfailed₄⟩ := value_skipExponent data p₃
  have hreach₄ := (skipExponent_meets hreach₃.1).2
  simp only [value_bind]
  generalize (skipExponent data p₃).value = p₄ at hrest₄ hfailed₄ hreach₄
  -- and the scan of it
  have hrest : (Json.scanNumeral (c :: tail)).2 = p₄.rest data := by
    rw [hrest₄, hrest₃, hrest₂, hrest₁, hskip]
    rfl
  have hsaw : saw₃ = false ↔
      (Json.scanNumeral (c :: tail)).1.whole = [] ∧ (Json.scanNumeral (c :: tail)).1.fraction = [] := by
    have hwhole : (Json.scanNumeral (c :: tail)).1.whole = ((p₁.rest data).span isDigit).1 := by
      rw [hrest₁, hskip]
      rfl
    have hfraction : (Json.scanNumeral (c :: tail)).1.fraction = (Json.scanFraction (p₂.rest data)).1 := by
      rw [hrest₂, hrest₁, hskip]
      rfl
    rw [hwhole, hfraction]
    simp only at hsaw₂ hsaw₃
    rw [hsaw₃, hsaw₂]
    simp
  rcases hscan : Json.scanNumeral (c :: tail) with ⟨numeral, rest⟩
  rw [hscan] at hrest hsaw
  simp only at hrest hsaw ⊢
  by_cases hdigit : numeral.whole = [] ∧ numeral.fraction = []
  · rw [if_pos (hsaw.2 hdigit), if_pos hdigit]
    exact ⟨rfl, fun hsome => by cases hsome⟩
  · rw [if_neg (fun h => hdigit (hsaw.1 h)), if_neg hdigit]
    have htext := atof_text ⟨c, rfl, hc⟩ hdigit hscan
    have hlength : (c :: tail).length - rest.length = p₄.pos - start.pos := by
      rw [← hskip, hrest, JsonParser.rest, JsonParser.rest, List.length_drop, List.length_drop]
      have := hreach₄.1
      have := hreach₄.2
      omega
    refine ⟨?_, fun _ => ?_⟩
    · rw [hlength, ← hskip] at htext
      rw [hrest, ← htext]
      rfl
    · exact hfailed₄.trans (hfailed₃.trans (hfailed₂.trans (hfailed₁.trans hfailed₀)))

/-! ### Values -/

/-- A run on fuel finds this, and leaves the flag down where it finds something. -/
def Agrees (data : Bytes) (expected : Option (α × Bytes)) (run : Option (Option α × JsonParser)) : Prop :=
  run.bind (found data) = expected ∧ ∀ r, run = some r → r.1.isSome = true → r.2.failed = false

theorem agrees_some {expected : Option (α × Bytes)} {p : JsonParser} {r : Option α × JsonParser} (hp : p.failed = false)
    (hfound : found data r = expected) (hkeeps : Keeps p r) : Agrees data expected (some r) := by
  refine ⟨hfound, fun r' hr' hsome => ?_⟩
  obtain rfl := Option.some.inj hr'
  rw [hkeeps hsome, hp]

theorem agrees_fail {p : JsonParser} : Agrees data none (some (p.fail : Option α × JsonParser)) :=
  ⟨rfl, fun r hr hsome => by cases hr; cases hsome⟩

theorem Agrees.map {β : Type} {f : α → β} {expected : Option (α × Bytes)} {run : Option (Option α × JsonParser)}
    (h : Agrees data expected run) :
    Agrees data (expected.map fun r => (f r.1, r.2)) (run.map fun r => (r.1.map f, r.2)) := by
  obtain ⟨rfl, hkeeps⟩ := h
  rcases run with _ | ⟨_ | x, q⟩
  · exact ⟨rfl, fun r hr => by cases hr⟩
  · exact ⟨rfl, fun r hr hsome => by cases hr; cases hsome⟩
  · refine ⟨rfl, fun r hr _ => ?_⟩
    cases hr
    exact hkeeps _ rfl rfl

theorem parseMembers_skipWs (fuel : ℕ) (input : Bytes) :
    Json.parseMembers fuel (Json.skipWs input) = Json.parseMembers fuel input := by
  cases fuel with
  | zero => rfl
  | succ fuel => rw [Json.parseMembers, Json.parseMembers, Json.parseString, Json.parseString, matchChar_skipWs]

theorem parseValue_skipWs (fuel : ℕ) (input : Bytes) :
    Json.parseValue fuel (Json.skipWs input) = Json.parseValue fuel input := by
  cases fuel with
  | zero => rfl
  | succ fuel => rw [Json.parseValue, Json.parseValue, skipWs_skipWs]

theorem parseElements_skipWs (fuel : ℕ) (input : Bytes) :
    Json.parseElements fuel (Json.skipWs input) = Json.parseElements fuel input := by
  cases fuel with
  | zero => rfl
  | succ fuel => rw [Json.parseElements, Json.parseElements, parseValue_skipWs]

theorem matchChar_of_rest {c : UInt8} {p : JsonParser} {input : Bytes} (hp : p.pos ≤ data.length)
    (hrest : p.rest data = Json.skipWs input) :
    ∃ q : JsonParser, q.pos ≤ data.length ∧ q.failed = p.failed ∧
      (((matchChar data c p).value = (some (), q) ∧ Json.matchChar c input = some (q.rest data)) ∨
        ((matchChar data c p).value = (none, q) ∧ Json.matchChar c input = none ∧ q.rest data = Json.skipWs input)) := by
  obtain ⟨hfound, hfailed, hnone⟩ := value_matchChar data c p
  have hreach := (matchChar_meets (n := 0) c ⟨Nat.zero_le _, hp⟩).2
  rw [hrest, matchChar_skipWs] at hfound
  rw [hrest, skipWs_skipWs] at hnone
  generalize (matchChar data c p).value = r at hfound hfailed hnone hreach
  obtain ⟨_ | ⟨⟩, q⟩ := r
  · exact ⟨q, hreach.1.2, hfailed, .inr ⟨rfl, hfound.symm, hnone rfl⟩⟩
  · exact ⟨q, hreach.1.2, hfailed, .inl ⟨rfl, hfound.symm⟩⟩

theorem value_opening {β : Type} (bracket : UInt8) (empty : α) (f : β → α)
    {more : JsonParser → Traced (Option (Option β × JsonParser))} {next : Bytes → Option (β × Bytes)}
    (hnext : ∀ input, next (Json.skipWs input) = next input) {q : JsonParser} (hq : q.pos ≤ data.length)
    (hfailed : q.failed = false)
    (hmore : ∀ p : JsonParser, p.pos ≤ data.length → p.failed = false → Agrees data (next (p.rest data)) (more p).value) :
    Agrees data
      (match Json.matchChar bracket (q.rest data) with
        | some rest => some (empty, rest)
        | none => (next (q.rest data)).map fun r => (f r.1, r.2))
      (do
        let p ← skipWs data q
        let (closed, p) ← matchChar data bracket p
        if closed.isSome then return some (some empty, p)
        else do
          let run ← more p
          return run.map fun (found, p) => (found.map f, p) : Traced _).value := by
  obtain ⟨hrest, hfailed₁⟩ := value_skipWs data q
  have hreach := (skipWs_meets (n := 0) ⟨Nat.zero_le _, hq⟩).2
  rw [value_bind]
  generalize (skipWs data q).value = p at hrest hfailed₁ hreach
  obtain ⟨p₁, hp₁, hfailed₂, ⟨hvalue, hclose⟩ | ⟨hvalue, hclose, hrest₁⟩⟩ :=
    matchChar_of_rest (c := bracket) hreach.2 hrest
  · rw [value_bind, hvalue, hclose]
    exact agrees_some (p := q) hfailed rfl fun _ => by rw [hfailed₂, hfailed₁]
  · rw [value_bind, hvalue, hclose]
    have hagree := hmore p₁ hp₁ (by rw [hfailed₂, hfailed₁, hfailed])
    rw [hrest₁, hnext] at hagree
    change Agrees data _ (more p₁ >>= _).value
    rw [value_bind]
    exact hagree.map

theorem value_closing (bracket : UInt8) (x : α) {more : JsonParser → Traced (Option (Option α × JsonParser))}
    (next : Bytes → Option (α × Bytes)) {q : JsonParser} (hq : q.pos ≤ data.length) (hfailed : q.failed = false)
    (hmore : ∀ p : JsonParser, p.pos ≤ data.length → p.failed = false → Agrees data (next (p.rest data)) (more p).value) :
    Agrees data
      (match Json.matchChar 0x2C (q.rest data) with
        | some rest => next rest
        | none => (Json.matchChar bracket (q.rest data)).map fun rest => (x, rest))
      (do
        let p ← skipWs data q
        let (comma, p) ← matchChar data 0x2C p
        if comma.isSome then more p
        else do
          let (closed, p) ← matchChar data bracket p
          if closed.isSome then return some (some x, p) else return some p.fail : Traced _).value := by
  obtain ⟨hrest, hfailed₁⟩ := value_skipWs data q
  have hreach := (skipWs_meets (n := 0) ⟨Nat.zero_le _, hq⟩).2
  rw [value_bind]
  generalize (skipWs data q).value = p at hrest hfailed₁ hreach
  obtain ⟨p₁, hp₁, hfailed₂, ⟨hvalue, hcomma⟩ | ⟨hvalue, hcomma, hrest₁⟩⟩ := matchChar_of_rest (c := 0x2C) hreach.2 hrest
  · rw [value_bind, hvalue, hcomma]
    exact hmore p₁ hp₁ (by rw [hfailed₂, hfailed₁, hfailed])
  · rw [value_bind, hvalue, hcomma]
    obtain ⟨p₂, hp₂, hfailed₃, ⟨hvalue', hclose⟩ | ⟨hvalue', hclose, -⟩⟩ := matchChar_of_rest (c := bracket) hp₁ hrest₁
    · change Agrees data _ (matchChar data bracket p₁ >>= _).value
      rw [value_bind, hvalue', hclose]
      exact agrees_some (p := q) hfailed rfl fun _ => by rw [hfailed₃, hfailed₂, hfailed₁]
    · change Agrees data _ (matchChar data bracket p₁ >>= _).value
      rw [value_bind, hvalue', hclose]
      exact agrees_fail

theorem parseLiteral_of_literalOf {c : UInt8} {tail lit : Bytes} {value : JsonValue}
    (h : literalOf c = some (lit, value)) :
    Json.parseLiteral (c :: tail) = (lit.isPrefixOf? (c :: tail)).map fun rest => (value, rest) := by
  unfold literalOf at h
  split_ifs at h with htrue hfalse hnull
  · cases h
    rw [htrue, Json.parseLiteral]
    cases (ascii "true").isPrefixOf? (0x74 :: tail) <;> rfl
  · cases h
    rw [hfalse, Json.parseLiteral]
    have hother : (ascii "true").isPrefixOf? (0x66 :: tail) = none := rfl
    rw [hother]
    cases (ascii "false").isPrefixOf? (0x66 :: tail) <;> rfl
  · cases h
    rw [hnull]
    rfl

theorem parseLiteral_of_none {c : UInt8} {tail : Bytes} (h : literalOf c = none) : Json.parseLiteral (c :: tail) = none := by
  unfold literalOf at h
  split_ifs at h with htrue hfalse hnull
  have hmismatch : ∀ {x : UInt8} {lit : Bytes}, c ≠ x → (x :: lit).isPrefixOf? (c :: tail) = none := by
    intro x lit hne
    simp [List.isPrefixOf?, Ne.symm hne]
  have h₁ : (ascii "true").isPrefixOf? (c :: tail) = none := hmismatch htrue
  have h₂ : (ascii "false").isPrefixOf? (c :: tail) = none := hmismatch hfalse
  have h₃ : (ascii "null").isPrefixOf? (c :: tail) = none := hmismatch hnull
  rw [Json.parseLiteral, h₁, h₂, h₃]
  rfl

theorem literalOf_of_number {c : UInt8} (h : c = 0x2D ∨ isDigit c = true) : literalOf c = none := by
  have hne : ∀ x : UInt8, x ≠ 0x2D → isDigit x = false → c ≠ x := by
    rintro x hx hdigit rfl
    rcases h with h | h
    · exact hx h
    · rw [h] at hdigit
      cases hdigit
  rw [literalOf, if_neg (hne _ (by decide) (by decide)), if_neg (hne _ (by decide) (by decide)),
    if_neg (hne _ (by decide) (by decide))]

/-- The calls of `ParseValue` on that fuel agree. -/
def ValuesAgree (data : Bytes) (fuel : ℕ) : Prop :=
  ∀ p : JsonParser, p.pos ≤ data.length → p.failed = false →
    Agrees data (Json.parseValue fuel (p.rest data)) (parseValue data fuel p).value

def MembersAgree (data : Bytes) (fuel : ℕ) : Prop :=
  ∀ (members : List (Bytes × JsonValue)) (p : JsonParser), p.pos ≤ data.length → p.failed = false →
    Agrees data ((Json.parseMembers fuel (p.rest data)).map fun r => (members ++ r.1, r.2))
      (parseMembers data fuel members p).value

def ElementsAgree (data : Bytes) (fuel : ℕ) : Prop :=
  ∀ (values : List JsonValue) (p : JsonParser), p.pos ≤ data.length → p.failed = false →
    Agrees data ((Json.parseElements fuel (p.rest data)).map fun r => (values ++ r.1, r.2))
      (parseElements data fuel values p).value

variable {fuel : ℕ}

theorem agrees_of_nil_append {β : Type} {expected : Option (List β × Bytes)}
    {run : Option (Option (List β) × JsonParser)}
    (h : Agrees data (expected.map fun r => ([] ++ r.1, r.2)) run) : Agrees data expected run := by
  simpa using h

theorem valuesAgree_succ (hmembers : MembersAgree data fuel) (helements : ElementsAgree data fuel) :
    ValuesAgree data (fuel + 1) := by
  intro p₀ hp₀ hfailed₀
  obtain ⟨hrest, hfailed⟩ := value_skipWs data p₀
  have hreach := (skipWs_meets (n := 0) ⟨Nat.zero_le _, hp₀⟩).2
  rw [parseValue, value_bind, Json.parseValue, ← hrest]
  rw [hfailed₀] at hfailed
  have hws : ∀ c, ((skipWs data p₀).value.rest data).head? = some c → Json.isWs c = false := by
    obtain ⟨-, -, -, hhead⟩ := Json.skipWs_spec (p₀.rest data)
    rw [hrest]
    exact hhead
  generalize (skipWs data p₀).value = p at hfailed hreach hws
  by_cases hend : data.length ≤ p.pos
  · rw [if_pos (.inr hend), rest_of_le hend]
    exact agrees_fail
  have hlt := Nat.lt_of_not_le hend
  rw [if_neg (by rw [hfailed]; simp only [Bool.false_eq_true, false_or]; exact hend), value_byteAt_bind]
  have hcons := rest_of_lt hlt
  generalize data.getD p.pos 0 = c at hcons
  have hc := hws c (by rw [hcons]; rfl)
  rw [hcons]
  simp only
  by_cases hquote : c = 0x22
  · rw [if_pos hquote, if_pos hquote, ← hcons]
    obtain ⟨hstring, hkeeps⟩ := value_parseString data p
    rw [value_bind]
    exact (agrees_some hfailed hstring hkeeps).map
  rw [if_neg hquote, if_neg hquote]
  have hinside : (p.advance 1).pos ≤ data.length := hlt
  by_cases hbrace : c = 0x7B
  · rw [if_pos hbrace, if_pos hbrace]
    exact value_opening 0x7D _ _ (parseMembers_skipWs fuel) hinside hfailed
      fun q hq hfailed' => agrees_of_nil_append (hmembers [] q hq hfailed')
  rw [if_neg hbrace, if_neg hbrace]
  by_cases hbracket : c = 0x5B
  · rw [if_pos hbracket, if_pos hbracket]
    exact value_opening 0x5D _ _ (parseElements_skipWs fuel) hinside hfailed
      fun q hq hfailed' => agrees_of_nil_append (helements [] q hq hfailed')
  rw [if_neg hbracket, if_neg hbracket]
  by_cases hnumber : c = 0x2D ∨ isDigit c = true
  · obtain ⟨hfound, hkeeps⟩ := value_parseNumber hreach.2 hcons hc hnumber
    rw [literalOf_of_number hnumber, if_pos hnumber, if_pos hnumber, ← hcons]
    change Agrees data _ (parseNumber data p >>= _).value
    rw [value_bind]
    exact (agrees_some hfailed hfound hkeeps).map
  · rw [if_neg hnumber]
    cases hliteral : literalOf c with
    | some literal =>
      obtain ⟨lit, value⟩ := literal
      obtain ⟨hfound, hkeeps⟩ := value_parseLiteral data (literalOf_ne_nil hliteral) p
      rw [parseLiteral_of_literalOf hliteral, ← hcons, ← hfound]
      simp only [value_bind]
      generalize (parseLiteral data lit p).value = r at hkeeps
      obtain ⟨_ | ⟨⟩, q⟩ := r
      · exact agrees_fail
      · exact agrees_some hfailed rfl fun _ => hkeeps rfl
    | none =>
      rw [parseLiteral_of_none hliteral]
      simp only [if_neg hnumber]
      exact agrees_fail

theorem membersAgree_succ (hvalues : ValuesAgree data fuel) (hmembers : MembersAgree data fuel) :
    MembersAgree data (fuel + 1) := by
  intro members p₀ hp₀ hfailed₀
  obtain ⟨hstring, hkeeps⟩ := value_parseString data p₀
  have hreach := (parseString_meets (n := 0) ⟨Nat.zero_le _, hp₀⟩).2
  rw [parseMembers, value_bind, Json.parseMembers, ← hstring]
  generalize (parseString data p₀).value = r at hkeeps hreach
  obtain ⟨_ | key, p⟩ := r
  · exact ⟨rfl, fun r hr hsome => by cases hr; cases hsome⟩
  have hfailed : p.failed = false := (hkeeps rfl).trans hfailed₀
  obtain ⟨hskip, hfailed₁⟩ := value_skipWs data p
  have hreach₁ := (skipWs_meets (n := 0) ⟨Nat.zero_le _, hreach.1.2⟩).2
  simp only [found_some, value_bind]
  generalize (skipWs data p).value = p₁ at hskip hfailed₁ hreach₁
  obtain ⟨hcolon, hkeeps₂⟩ := value_expect data 0x3A p₁
  have hreach₂ := (expect_meets (n := 0) 0x3A ⟨Nat.zero_le _, hreach₁.2⟩).2
  rw [hskip, matchChar_skipWs] at hcolon
  rw [← hcolon]
  generalize (expect data 0x3A p₁).value = r at hkeeps₂ hreach₂
  obtain ⟨_ | ⟨⟩, p₂⟩ := r
  · exact ⟨rfl, fun r hr hsome => by cases hr; cases hsome⟩
  have hfailed₂ : p₂.failed = false := (hkeeps₂ rfl).trans (hfailed₁.trans hfailed)
  have hagree := hvalues p₂ hreach₂.1.2 hfailed₂
  have hruns := ((runs_meets fuel).1 p₂ hreach₂.1.2).2
  simp only [found_some, Option.map_some, Option.isSome_some, Bool.true_eq_false, if_false, value_bind]
  rw [← hagree.1]
  generalize (parseValue data fuel p₂).value = run at hagree hruns
  rcases run with _ | ⟨_ | value, q⟩
  · exact ⟨rfl, fun r hr => by cases hr⟩
  · exact ⟨rfl, fun r hr hsome => by cases hr; cases hsome⟩
  have hclosing := value_closing 0x7D (members ++ [(key, value)])
    (fun rest => (Json.parseMembers fuel rest).map fun r => (members ++ [(key, value)] ++ r.1, r.2))
    (hruns.1 _ rfl).1.2 (hagree.2 _ rfl rfl) fun p hp hfailed => hmembers (members ++ [(key, value)]) p hp hfailed
  refine Eq.mp (congrArg (fun expected => Agrees data expected _) ?_) hclosing
  simp only [Option.bind_some, found_some]
  cases Json.matchChar 0x2C (q.rest data) with
  | some rest => simp [Function.comp_def]
  | none => simp [Function.comp_def]

theorem elementsAgree_succ (hvalues : ValuesAgree data fuel) (helements : ElementsAgree data fuel) :
    ElementsAgree data (fuel + 1) := by
  intro values p₀ hp₀ hfailed₀
  have hagree := hvalues p₀ hp₀ hfailed₀
  have hruns := ((runs_meets fuel).1 p₀ hp₀).2
  rw [parseElements, value_bind, Json.parseElements, ← hagree.1]
  generalize (parseValue data fuel p₀).value = run at hagree hruns
  rcases run with _ | ⟨_ | value, q⟩
  · exact ⟨rfl, fun r hr => by cases hr⟩
  · exact ⟨rfl, fun r hr hsome => by cases hr; cases hsome⟩
  have hclosing := value_closing 0x5D (values ++ [value])
    (fun rest => (Json.parseElements fuel rest).map fun r => (values ++ [value] ++ r.1, r.2))
    (hruns.1 _ rfl).1.2 (hagree.2 _ rfl rfl) fun p hp hfailed => helements (values ++ [value]) p hp hfailed
  refine Eq.mp (congrArg (fun expected => Agrees data expected _) ?_) hclosing
  simp only [Option.bind_some, found_some]
  cases Json.matchChar 0x2C (q.rest data) with
  | some rest => simp [Function.comp_def]
  | none => simp [Function.comp_def]

/-- **The two parsers agree**, fuel for fuel. -/
theorem value_runs (data : Bytes) (fuel : ℕ) :
    ValuesAgree data fuel ∧ MembersAgree data fuel ∧ ElementsAgree data fuel := by
  induction fuel with
  | zero =>
    refine ⟨fun p _ _ => ⟨rfl, fun r hr => ?_⟩, fun _ p _ _ => ⟨rfl, fun r hr => ?_⟩,
      fun _ p _ _ => ⟨rfl, fun r hr => ?_⟩⟩ <;> cases hr
  | succ fuel ih =>
    obtain ⟨ihValues, ihMembers, ihElements⟩ := ih
    exact ⟨valuesAgree_succ ihMembers ihElements, membersAgree_succ ihValues ihMembers,
      elementsAgree_succ ihValues ihElements⟩

/-- **`ParseJson` finds what the parser on suffixes finds.** -/
theorem value_parseJson (json : Bytes) : (parseJson json).value = some (Json.parseJson json) := by
  obtain ⟨hagree, hkeeps⟩ := (value_runs json (2 * json.length + 1)).1 {} (Nat.zero_le _) rfl
  have hends := ((runs_meets (2 * json.length + 1)).1 {} (Nat.zero_le json.length)).2.2 le_rfl
  rw [parseJson, value_bind]
  generalize (parseValue json (2 * json.length + 1) {}).value = run at hagree hkeeps hends
  obtain ⟨⟨root, p⟩, rfl⟩ := Option.isSome_iff_exists.1 hends
  have hrest : ({} : JsonParser).rest json = json := List.drop_zero
  rw [hrest] at hagree
  cases root with
  | none =>
    have hnone : Json.parseValue (json.length + 1) json = none := by
      cases hparse : Json.parseValue (json.length + 1) json with
      | none => rfl
      | some r =>
        have hmore := (Json.parse_fuel (json.length + 1)).1 json r.1 r.2 hparse (2 * json.length + 1) (by omega)
        rw [hmore] at hagree
        cases hagree
    rw [Json.parseJson, hnone, value_pure]
    cases hfailed : p.failed <;> simp [hfailed]
  | some root =>
    have hfailed : p.failed = false := hkeeps _ rfl rfl
    rw [Json.parseJson_of_parseValue hagree.symm, value_pure, Option.map_some]
    simp [hfailed]

end VianiumVoip.Signaling.JsonReads
