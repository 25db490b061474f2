import Mathlib.Data.List.TakeWhile
import VianiumVoip.Lib.Decimal

/-!
# JSON, as the signaling messages use it

The parser of `domain/tgcalls_signaling_messages` (`JsonParser`) and its `EscapeJson`, on bytes.  The parser is more
lenient than JSON: it lets numbers begin with zeros, takes any byte behind a backslash, and looks at nothing behind the
value.  `parseValue` works on fuel; more of it than the input has bytes finds nothing else (`parseJson_of_parseValue`).

`Reads text value` says that the parser finds `value` in `text`, whatever comes behind it.  It is built up as texts are:
`reads_string` for any bytes, escaped; `reads_int`; `reads_array` and `reads_object` from the parts.
-/

namespace VianiumVoip.Signaling

open VianiumVoip.Lib

inductive JsonValue
  | null
  | bool (value : Bool)
  | number (value : Double)
  | string (value : Bytes)
  | array (values : List JsonValue)
  | object (members : List (Bytes × JsonValue))

/-- `Find`: the first value under a key. -/
def JsonValue.find (value : JsonValue) (key : Bytes) : Option JsonValue :=
  match value with
  | object members => (members.find? fun member => member.1 = key).map Prod.snd
  | _ => none

namespace Json

/-! ### The parser -/

def isWs (c : UInt8) : Bool := c = 0x20 || c = 0x09 || c = 0x0A || c = 0x0D

/-- `SkipWs` -/
def skipWs (input : Bytes) : Bytes := input.dropWhile isWs

/-- `Match`, and `Expect` where `none` is the failure. -/
def matchChar (c : UInt8) (input : Bytes) : Option Bytes :=
  match skipWs input with
  | [] => none
  | x :: rest => if x = c then some rest else none

/-- A hexadecimal digit. -/
def hexValue? (h : UInt8) : Option ℕ :=
  if 0x30 ≤ h ∧ h ≤ 0x39 then some (h.toNat - 0x30)
  else if 0x61 ≤ h ∧ h ≤ 0x66 then some (h.toNat - 0x61 + 10)
  else if 0x41 ≤ h ∧ h ≤ 0x46 then some (h.toNat - 0x41 + 10)
  else none

/-- The code point of four hexadecimal digits. -/
def codePoint? (h1 h2 h3 h4 : UInt8) : Option ℕ :=
  match hexValue? h1, hexValue? h2, hexValue? h3, hexValue? h4 with
  | some d1, some d2, some d3, some d4 => some (((d1 * 16 + d2) * 16 + d3) * 16 + d4)
  | _, _, _, _ => none

/-- A code point of the basic plane as UTF-8. -/
def utf8 (cp : ℕ) : Bytes :=
  if cp < 0x80 then [UInt8.ofNat cp]
  else if cp < 0x800 then [UInt8.ofNat (0xC0 ||| (cp >>> 6)), UInt8.ofNat (0x80 ||| (cp &&& 0x3F))]
  else
    [UInt8.ofNat (0xE0 ||| (cp >>> 12)), UInt8.ofNat (0x80 ||| ((cp >>> 6) &&& 0x3F)),
      UInt8.ofNat (0x80 ||| (cp &&& 0x3F))]

/-- The byte that a letter behind a backslash stands for; any other one stands for itself. -/
def unescape (e : UInt8) : UInt8 :=
  if e = 0x62 then 0x08
  else if e = 0x66 then 0x0C
  else if e = 0x6E then 0x0A
  else if e = 0x72 then 0x0D
  else if e = 0x74 then 0x09
  else e

/-- The loop of `ParseString`, behind the opening quote. -/
def parseStringBody : Bytes → Option (Bytes × Bytes)
  | [] => none
  | c :: rest =>
    if c = 0x22 then some ([], rest)
    else if c = 0x5C then
      match rest with
      | [] => none
      | e :: rest =>
        if e = 0x75 then
          match rest with
          | h1 :: h2 :: h3 :: h4 :: rest =>
            match codePoint? h1 h2 h3 h4 with
            | none => none
            | some cp => (parseStringBody rest).map fun (out, rest) => (utf8 cp ++ out, rest)
          | _ => none
        else (parseStringBody rest).map fun (out, rest) => (unescape e :: out, rest)
    else (parseStringBody rest).map fun (out, rest) => (c :: out, rest)

/-- `ParseString` -/
def parseString (input : Bytes) : Option (Bytes × Bytes) := (matchChar 0x22 input).bind parseStringBody

/-- A sign that may be there: whether it is a minus, and what comes behind it. -/
def scanSign (input : Bytes) : Bool × Bytes :=
  match input with
  | [] => (false, [])
  | c :: rest => if c = 0x2D then (true, rest) else if c = 0x2B then (false, rest) else (false, c :: rest)

/-- The digits behind a point that may be there. -/
def scanFraction (input : Bytes) : Bytes × Bytes :=
  match input with
  | [] => ([], [])
  | c :: rest => if c = 0x2E then rest.span isDigit else ([], c :: rest)

/-- The sign and the digits of an exponent that may be there. -/
def scanExponent (input : Bytes) : (Bool × Bytes) × Bytes :=
  match input with
  | [] => ((false, []), [])
  | c :: rest =>
    if c = 0x65 ∨ c = 0x45 then
      let (negative, rest) := scanSign rest
      let (digits, rest) := rest.span isDigit
      ((negative, digits), rest)
    else ((false, []), c :: rest)

/-- The walk of `ParseNumber` over the literal. -/
def scanNumeral (input : Bytes) : Numeral × Bytes :=
  let (negative, rest) := scanSign input
  let (whole, rest) := rest.span isDigit
  let (fraction, rest) := scanFraction rest
  let ((exponentNegative, exponent), rest) := scanExponent rest
  ({ negative := negative
     whole := whole
     fraction := fraction
     exponentNegative := exponentNegative
     exponent := exponent },
    rest)

/-- `ParseNumber` -/
def parseNumber (input : Bytes) : Option (Double × Bytes) :=
  let (numeral, rest) := scanNumeral (skipWs input)
  if numeral.whole = [] ∧ numeral.fraction = [] then none else some (numeral.atof, rest)

/-- `ParseLiteral`, for the three of them. -/
def parseLiteral (input : Bytes) : Option (JsonValue × Bytes) :=
  match (ascii "true").isPrefixOf? input with
  | some rest => some (.bool true, rest)
  | none =>
    match (ascii "false").isPrefixOf? input with
    | some rest => some (.bool false, rest)
    | none => ((ascii "null").isPrefixOf? input).map fun rest => (.null, rest)

mutual

/-- `ParseValue` -/
def parseValue : ℕ → Bytes → Option (JsonValue × Bytes)
  | 0, _ => none
  | fuel + 1, input =>
    match skipWs input with
    | [] => none
    | c :: rest =>
      if c = 0x22 then (parseString (c :: rest)).map fun (value, rest) => (.string value, rest)
      else if c = 0x7B then
        match matchChar 0x7D rest with
        | some rest => some (.object [], rest)
        | none => (parseMembers fuel rest).map fun (members, rest) => (.object members, rest)
      else if c = 0x5B then
        match matchChar 0x5D rest with
        | some rest => some (.array [], rest)
        | none => (parseElements fuel rest).map fun (values, rest) => (.array values, rest)
      else if c = 0x2D ∨ isDigit c = true then
        (parseNumber (c :: rest)).map fun (value, rest) => (.number value, rest)
      else parseLiteral (c :: rest)

/-- The loop over the members of an object. -/
def parseMembers : ℕ → Bytes → Option (List (Bytes × JsonValue) × Bytes)
  | 0, _ => none
  | fuel + 1, input =>
    match parseString input with
    | none => none
    | some (key, rest) =>
      match matchChar 0x3A rest with
      | none => none
      | some rest =>
        match parseValue fuel rest with
        | none => none
        | some (value, rest) =>
          match matchChar 0x2C rest with
          | some rest => (parseMembers fuel rest).map fun (members, rest) => ((key, value) :: members, rest)
          | none => (matchChar 0x7D rest).map fun rest => ([(key, value)], rest)

/-- The loop over the elements of an array. -/
def parseElements : ℕ → Bytes → Option (List JsonValue × Bytes)
  | 0, _ => none
  | fuel + 1, input =>
    match parseValue fuel input with
    | none => none
    | some (value, rest) =>
      match matchChar 0x2C rest with
      | some rest => (parseElements fuel rest).map fun (values, rest) => (value :: values, rest)
      | none => (matchChar 0x5D rest).map fun rest => ([value], rest)

end

/-- `ParseJson` -/
def parseJson (json : Bytes) : Option JsonValue := (parseValue (json.length + 1) json).map Prod.fst

/-! ### Writing -/

/-- A lower-case hexadecimal digit. -/
def hexDigit (n : ℕ) : UInt8 := UInt8.ofNat (if n < 10 then 0x30 + n else 0x61 + (n - 10))

/-- A byte in `EscapeJson`. -/
def escapeByte (c : UInt8) : Bytes :=
  if c = 0x22 then [0x5C, 0x22]
  else if c = 0x5C then [0x5C, 0x5C]
  else if c = 0x08 then [0x5C, 0x62]
  else if c = 0x0C then [0x5C, 0x66]
  else if c = 0x0A then [0x5C, 0x6E]
  else if c = 0x0D then [0x5C, 0x72]
  else if c = 0x09 then [0x5C, 0x74]
  else if c < 0x20 then [0x5C, 0x75, 0x30, 0x30, hexDigit (c.toNat / 16), hexDigit (c.toNat % 16)]
  else [c]

/-- `EscapeJson` -/
def escapeJson (input : Bytes) : Bytes := input.flatMap escapeByte

/-- `, `-separated texts, without the blank. -/
def commaJoin : List Bytes → Bytes
  | [] => []
  | [text] => text
  | text :: texts => text ++ 0x2C :: commaJoin texts

/-- `"key":text` -/
def memberText (key text : Bytes) : Bytes := 0x22 :: (escapeJson key ++ 0x22 :: 0x3A :: text)

/-- A text between quotes. -/
def stringText (value : Bytes) : Bytes := 0x22 :: (escapeJson value ++ [0x22])

def arrayText (texts : List Bytes) : Bytes := 0x5B :: (commaJoin texts ++ [0x5D])

def objectText (members : List (Bytes × Bytes)) : Bytes :=
  0x7B :: (commaJoin (members.map fun member => memberText member.1 member.2) ++ [0x7D])

/-! ### What the parser finds -/

/-- No character of a number comes next. -/
def NumberEnd (rest : Bytes) : Prop :=
  ∀ c, rest.head? = some c → isDigit c = false ∧ c ≠ 0x2E ∧ c ≠ 0x65 ∧ c ≠ 0x45

/-- **The parser finds the value in the text**, and stops behind it. -/
def Reads (text : Bytes) (value : JsonValue) : Prop :=
  ∀ fuel rest, text.length < fuel → NumberEnd rest → parseValue fuel (text ++ rest) = some (value, rest)

variable {c : UInt8} {rest text : Bytes}

theorem skipWs_cons (h : isWs c = false) (rest : Bytes) : skipWs (c :: rest) = c :: rest :=
  List.dropWhile_cons_of_neg (by rw [h]; decide)

theorem matchChar_cons (h : isWs c = false) (rest : Bytes) : matchChar c (c :: rest) = some rest := by
  rw [matchChar, skipWs_cons h]
  exact if_pos rfl

theorem matchChar_of_ne {x : UInt8} (h : isWs x = false) (hne : x ≠ c) (rest : Bytes) :
    matchChar c (x :: rest) = none := by
  rw [matchChar, skipWs_cons h]
  exact if_neg hne

/-! Strings. -/

theorem parseStringBody_of_plain (hquote : c ≠ 0x22) (hbackslash : c ≠ 0x5C) (rest : Bytes) :
    parseStringBody (c :: rest) = (parseStringBody rest).map fun (out, rest) => (c :: out, rest) := by
  rw [parseStringBody.eq_def]
  exact (if_neg hquote).trans (if_neg hbackslash)

theorem parseStringBody_of_escape {e : UInt8} (h : e ≠ 0x75) (rest : Bytes) :
    parseStringBody (0x5C :: e :: rest)
      = (parseStringBody rest).map fun (out, rest) => (unescape e :: out, rest) := by
  rw [parseStringBody.eq_def]
  exact if_neg h

theorem parseStringBody_of_unicode {h1 h2 h3 h4 : UInt8} {cp : ℕ} (h : codePoint? h1 h2 h3 h4 = some cp)
    (rest : Bytes) :
    parseStringBody (0x5C :: 0x75 :: h1 :: h2 :: h3 :: h4 :: rest)
      = (parseStringBody rest).map fun (out, rest) => (utf8 cp ++ out, rest) := by
  rw [parseStringBody.eq_def]
  simp only [h]
  rfl

theorem parseStringBody_of_quote (rest : Bytes) : parseStringBody (0x22 :: rest) = some ([], rest) := by
  rw [parseStringBody.eq_def]
  rfl

theorem parseStringBody_of_no_codePoint {h1 h2 h3 h4 : UInt8} (h : codePoint? h1 h2 h3 h4 = none) (rest : Bytes) :
    parseStringBody (0x5C :: 0x75 :: h1 :: h2 :: h3 :: h4 :: rest) = none := by
  rw [parseStringBody.eq_def]
  simp only [h]
  rfl

theorem parseStringBody_of_short {tail : Bytes} (h : ∀ h1 h2 h3 h4 rest, tail ≠ h1 :: h2 :: h3 :: h4 :: rest) :
    parseStringBody (0x5C :: 0x75 :: tail) = none := by
  rw [parseStringBody.eq_def]
  rcases tail with _ | ⟨h1, _ | ⟨h2, _ | ⟨h3, _ | ⟨h4, tail⟩⟩⟩⟩
  case cons.cons.cons.cons => exact absurd rfl (h h1 h2 h3 h4 tail)
  all_goals rfl

theorem codePoint_control (h : c < 0x20) :
    codePoint? 0x30 0x30 (hexDigit (c.toNat / 16)) (hexDigit (c.toNat % 16)) = some c.toNat ∧ utf8 c.toNat = [c] := by
  have hall : ∀ n : Fin 32, codePoint? 0x30 0x30 (hexDigit (n / 16)) (hexDigit (n % 16)) = some n.val := by decide
  have hlt : c.toNat < 32 := UInt8.lt_iff_toNat_lt.1 h
  refine ⟨hall ⟨c.toNat, hlt⟩, ?_⟩
  rw [utf8, if_pos (by omega), UInt8.ofNat_toNat]

/-- **Every byte is read back from what `EscapeJson` makes of it.** -/
theorem parseStringBody_escapeByte (c : UInt8) (rest : Bytes) :
    parseStringBody (escapeByte c ++ rest) = (parseStringBody rest).map fun (out, rest) => (c :: out, rest) := by
  unfold escapeByte
  split
  · next h => rw [h]; exact parseStringBody_of_escape (by decide) rest
  split
  · next h => rw [h]; exact parseStringBody_of_escape (by decide) rest
  split
  · next h => rw [h]; exact parseStringBody_of_escape (by decide) rest
  split
  · next h => rw [h]; exact parseStringBody_of_escape (by decide) rest
  split
  · next h => rw [h]; exact parseStringBody_of_escape (by decide) rest
  split
  · next h => rw [h]; exact parseStringBody_of_escape (by decide) rest
  split
  · next h => rw [h]; exact parseStringBody_of_escape (by decide) rest
  split
  · next h =>
    obtain ⟨hcode, hutf8⟩ := codePoint_control h
    have := parseStringBody_of_unicode hcode rest
    rwa [hutf8] at this
  · next hquote hbackslash _ _ _ _ _ _ => exact parseStringBody_of_plain hquote hbackslash rest

theorem parseStringBody_escapeJson (value rest : Bytes) :
    parseStringBody (escapeJson value ++ 0x22 :: rest) = some (value, rest) := by
  induction value with
  | nil =>
    exact parseStringBody_of_quote rest
  | cons c value ih =>
    rw [escapeJson, List.flatMap_cons, List.append_assoc, parseStringBody_escapeByte]
    exact congrArg (Option.map _) ih

theorem parseString_stringText (value rest : Bytes) : parseString (stringText value ++ rest) = some (value, rest) := by
  have htext : stringText value ++ rest = 0x22 :: (escapeJson value ++ 0x22 :: rest) := by
    rw [stringText, List.cons_append, List.append_assoc, List.singleton_append]
  rw [htext, parseString, matchChar_cons (by decide), Option.bind_some, parseStringBody_escapeJson]

theorem reads_string (value : Bytes) : Reads (stringText value) (.string value) := by
  intro fuel rest hfuel _
  obtain ⟨fuel, rfl⟩ := Nat.exists_eq_succ_of_ne_zero (Nat.ne_of_gt (Nat.zero_lt_of_lt hfuel))
  have hskip : skipWs (stringText value ++ rest) = 0x22 :: (escapeJson value ++ [0x22] ++ rest) :=
    skipWs_cons (by decide) _
  rw [parseValue, hskip]
  simp only [if_true]
  have := parseString_stringText value rest
  rw [stringText, List.cons_append] at this
  rw [this]
  rfl

/-! Literals and numbers. -/

theorem reads_bool (value : Bool) : Reads (if value then ascii "true" else ascii "false") (.bool value) := by
  intro fuel rest hfuel _
  obtain ⟨fuel, rfl⟩ := Nat.exists_eq_succ_of_ne_zero (Nat.ne_of_gt (Nat.zero_lt_of_lt hfuel))
  cases value
  · show parseValue (fuel + 1) (0x66 :: 0x61 :: 0x6C :: 0x73 :: 0x65 :: rest) = _
    rw [parseValue, skipWs_cons (by decide)]
    rfl
  · show parseValue (fuel + 1) (0x74 :: 0x72 :: 0x75 :: 0x65 :: rest) = _
    rw [parseValue, skipWs_cons (by decide)]
    rfl

theorem span_digits {digits : Bytes} (hdigits : ∀ c ∈ digits, isDigit c = true) (hrest : NumberEnd rest) :
    (digits ++ rest).span isDigit = (digits, rest) := by
  rw [List.span_eq_takeWhile_dropWhile, List.takeWhile_append_of_pos hdigits, List.dropWhile_append_of_pos hdigits]
  cases rest with
  | nil => rw [List.takeWhile_nil, List.dropWhile_nil, List.append_nil]
  | cons c rest =>
    have hc : ¬ isDigit c = true := by rw [(hrest c rfl).1]; decide
    rw [List.takeWhile_cons_of_neg hc, List.dropWhile_cons_of_neg hc, List.append_nil]

/-- Behind the digits of an integer comes neither fraction nor exponent. -/
theorem scanNumeral_of_sign {digits input : Bytes} {negative : Bool} (hsign : scanSign input = (negative, digits ++ rest))
    (hdigits : ∀ c ∈ digits, isDigit c = true) (hrest : NumberEnd rest) :
    scanNumeral input = ({ negative := negative, whole := digits }, rest) := by
  have hfraction : scanFraction rest = ([], rest) := by
    cases rest with
    | nil => rfl
    | cons c rest => exact if_neg (hrest c rfl).2.1
  have hexponent : scanExponent rest = ((false, []), rest) := by
    cases rest with
    | nil => rfl
    | cons c rest => exact if_neg fun h => h.elim (hrest c rfl).2.2.1 (hrest c rfl).2.2.2
  unfold scanNumeral
  simp only [hsign, span_digits hdigits hrest, hfraction, hexponent]

theorem scanNumeral_decimalInt (n : ℤ) (hrest : NumberEnd rest) :
    scanNumeral (decimalInt n ++ rest) = (Numeral.ofInt n, rest) := by
  have hdigits : ∀ c ∈ decimal n.natAbs, isDigit c = true := fun c => isDigit_of_mem_decimal
  rcases lt_or_ge n 0 with hlt | hge
  · have hsign : scanSign (decimalInt n ++ rest) = (true, decimal n.natAbs ++ rest) := by
      rw [decimalInt, if_pos hlt]
      rfl
    rw [scanNumeral_of_sign hsign hdigits hrest, Numeral.ofInt, decide_eq_true hlt]
  · have hnot : ¬ n < 0 := not_lt.2 hge
    have hsign : scanSign (decimalInt n ++ rest) = (false, decimal n.natAbs ++ rest) := by
      rw [decimalInt, if_neg hnot]
      obtain ⟨c, digits, hcons⟩ := List.exists_cons_of_ne_nil (decimal_ne_nil n.natAbs)
      have hc : isDigit c = true := hdigits c (by rw [hcons]; exact List.mem_cons_self)
      rw [hcons, List.cons_append, scanSign, if_neg (by rintro rfl; exact Bool.noConfusion hc),
        if_neg (by rintro rfl; exact Bool.noConfusion hc)]
    rw [scanNumeral_of_sign hsign hdigits hrest, Numeral.ofInt, decide_eq_false hnot]

theorem exists_head_decimalInt (n : ℤ) :
    ∃ c digits, decimalInt n = c :: digits ∧ (c = 0x2D ∨ isDigit c = true) := by
  unfold decimalInt
  split
  · exact ⟨_, _, rfl, .inl rfl⟩
  · obtain ⟨c, digits, hcons⟩ := List.exists_cons_of_ne_nil (decimal_ne_nil n.natAbs)
    exact ⟨c, digits, hcons, .inr (isDigit_of_mem_decimal (by rw [hcons]; exact List.mem_cons_self))⟩

theorem not_isWs_of_number (h : c = 0x2D ∨ isDigit c = true) :
    isWs c = false ∧ c ≠ 0x22 ∧ c ≠ 0x7B ∧ c ≠ 0x5B := by
  refine ⟨?_, ?_, ?_, ?_⟩
  · simp only [isWs, Bool.or_eq_false_iff, decide_eq_false_iff_not]
    refine ⟨⟨⟨?_, ?_⟩, ?_⟩, ?_⟩ <;> rintro rfl <;> revert h <;> decide
  all_goals
    rintro rfl
    revert h
    decide

/-- **An integer of 53 bits is read as itself.** -/
theorem reads_int {n : ℤ} (h : |n| < 2 ^ 53) : Reads (decimalInt n) (.number (.finite n)) := by
  intro fuel rest hfuel hrest
  obtain ⟨fuel, rfl⟩ := Nat.exists_eq_succ_of_ne_zero (Nat.ne_of_gt (Nat.zero_lt_of_lt hfuel))
  obtain ⟨c, digits, hcons, hc⟩ := exists_head_decimalInt n
  obtain ⟨hws, hquote, hbrace, hbracket⟩ := not_isWs_of_number hc
  have hskip : skipWs (decimalInt n ++ rest) = decimalInt n ++ rest := by
    rw [hcons]
    exact skipWs_cons hws _
  have hnumber : parseNumber (decimalInt n ++ rest) = some (.finite n, rest) := by
    have hwhole : ¬ ((Numeral.ofInt n).whole = [] ∧ (Numeral.ofInt n).fraction = []) :=
      fun hempty => decimal_ne_nil n.natAbs hempty.1
    unfold parseNumber
    rw [hskip, scanNumeral_decimalInt n hrest]
    simp only [Numeral.atof_ofInt h]
    exact if_neg hwhole
  rw [parseValue, hskip]
  rw [hcons, List.cons_append] at hnumber ⊢
  simp only [if_neg hquote, if_neg hbrace, if_neg hbracket, if_pos hc, hnumber]
  rfl

/-! Arrays and objects. -/

theorem numberEnd_cons (h : isDigit c = false ∧ c ≠ 0x2E ∧ c ≠ 0x65 ∧ c ≠ 0x45) (rest : Bytes) :
    NumberEnd (c :: rest) := by
  intro x hx
  rwa [← Option.some.inj hx]

theorem parseElements_commaJoin {elements : List (Bytes × JsonValue)} (hne : elements ≠ [])
    (hreads : ∀ element ∈ elements, Reads element.1 element.2) {fuel : ℕ}
    (hfuel : (commaJoin (elements.map Prod.fst)).length + 1 < fuel) (rest : Bytes) :
    parseElements fuel (commaJoin (elements.map Prod.fst) ++ 0x5D :: rest) = some (elements.map Prod.snd, rest) := by
  induction elements generalizing fuel with
  | nil => exact absurd rfl hne
  | cons element elements ih =>
    obtain ⟨fuel, rfl⟩ := Nat.exists_eq_succ_of_ne_zero (Nat.ne_of_gt (Nat.zero_lt_of_lt hfuel))
    have hfirst := hreads element List.mem_cons_self
    cases elements with
    | nil =>
      have hlen : element.1.length < fuel := Nat.lt_of_succ_lt_succ hfuel
      have hvalue := hfirst fuel (0x5D :: rest) hlen (numberEnd_cons (by decide) rest)
      show parseElements (fuel + 1) (element.1 ++ 0x5D :: rest) = _
      rw [parseElements, hvalue]
      simp only [matchChar_of_ne (show isWs 0x5D = false by decide) (show (0x5D : UInt8) ≠ 0x2C by decide),
        matchChar_cons (show isWs 0x5D = false by decide)]
      rfl
    | cons next elements =>
      have hjoin : commaJoin ((element :: next :: elements).map Prod.fst)
          = element.1 ++ 0x2C :: commaJoin ((next :: elements).map Prod.fst) := rfl
      rw [hjoin, List.length_append, List.length_cons] at hfuel
      have hvalue := hfirst fuel (0x2C :: (commaJoin ((next :: elements).map Prod.fst) ++ 0x5D :: rest)) (by omega)
        (numberEnd_cons (by decide) _)
      have hrest := ih (List.cons_ne_nil _ _) (fun e he => hreads e (List.mem_cons_of_mem _ he))
        (show (commaJoin ((next :: elements).map Prod.fst)).length + 1 < fuel by omega)
      rw [hjoin, List.append_assoc, List.cons_append, parseElements, hvalue]
      simp only [matchChar_cons (show isWs 0x2C = false by decide), hrest]
      rfl

/-- No value begins with a closing bracket. -/
theorem matchChar_of_reads {value : JsonValue} (h : Reads text value) (hrest : NumberEnd rest) :
    matchChar 0x5D (text ++ rest) = none := by
  have hvalue := h (text.length + 1) rest (Nat.lt_succ_self _) hrest
  by_contra hsome
  have hskip : ∃ tail, skipWs (text ++ rest) = 0x5D :: tail := by
    unfold matchChar at hsome
    rcases hws : skipWs (text ++ rest) with _ | ⟨c, tail⟩
    · rw [hws] at hsome
      exact absurd rfl hsome
    · rw [hws] at hsome
      by_cases hc : c = 0x5D
      · exact ⟨tail, by rw [hc]⟩
      · exact absurd (if_neg hc) hsome
  obtain ⟨tail, hskip⟩ := hskip
  rw [parseValue, hskip] at hvalue
  cases hvalue

theorem reads_array (elements : List (Bytes × JsonValue)) (hreads : ∀ element ∈ elements, Reads element.1 element.2) :
    Reads (arrayText (elements.map Prod.fst)) (.array (elements.map Prod.snd)) := by
  intro fuel rest hfuel _
  obtain ⟨fuel, rfl⟩ := Nat.exists_eq_succ_of_ne_zero (Nat.ne_of_gt (Nat.zero_lt_of_lt hfuel))
  have htext : arrayText (elements.map Prod.fst) ++ rest
      = 0x5B :: (commaJoin (elements.map Prod.fst) ++ 0x5D :: rest) := by
    rw [arrayText, List.cons_append, List.append_assoc, List.singleton_append]
  rw [htext, parseValue, skipWs_cons (by decide)]
  simp only [show (0x5B : UInt8) ≠ 0x22 by decide, show (0x5B : UInt8) ≠ 0x7B by decide, if_false, if_true]
  rcases Decidable.eq_or_ne elements [] with rfl | hne
  · show (match matchChar 0x5D (0x5D :: rest) with
      | some rest => some (JsonValue.array [], rest)
      | none => (parseElements fuel (0x5D :: rest)).map fun (values, rest) => (JsonValue.array values, rest)) = _
    rw [matchChar_cons (by decide)]
    rfl
  · have hloop := parseElements_commaJoin hne hreads
      (show (commaJoin (elements.map Prod.fst)).length + 1 < fuel by
        rw [arrayText, List.length_cons, List.length_append, List.length_singleton] at hfuel
        omega) rest
    have hopen : matchChar 0x5D (commaJoin (elements.map Prod.fst) ++ 0x5D :: rest) = none := by
      obtain ⟨element, elements, rfl⟩ := List.exists_cons_of_ne_nil hne
      have hfirst := hreads element List.mem_cons_self
      cases elements with
      | nil => exact matchChar_of_reads hfirst (numberEnd_cons (by decide) rest)
      | cons next elements =>
        show matchChar 0x5D ((element.1 ++ 0x2C :: commaJoin ((next :: elements).map Prod.fst)) ++ 0x5D :: rest) = none
        rw [List.append_assoc, List.cons_append]
        exact matchChar_of_reads hfirst (numberEnd_cons (by decide) _)
    rw [hopen]
    simp only [hloop]
    rfl

/-- The loop over the members of an object: each is a key with the text of its value. -/
theorem parseMembers_commaJoin {members : List (Bytes × Bytes × JsonValue)} (hne : members ≠ [])
    (hreads : ∀ member ∈ members, Reads member.2.1 member.2.2) {fuel : ℕ}
    (hfuel : (commaJoin (members.map fun member => memberText member.1 member.2.1)).length + 1 < fuel) (rest : Bytes) :
    parseMembers fuel (commaJoin (members.map fun member => memberText member.1 member.2.1) ++ 0x7D :: rest)
      = some (members.map fun member => (member.1, member.2.2), rest) := by
  induction members generalizing fuel with
  | nil => exact absurd rfl hne
  | cons member members ih =>
    obtain ⟨fuel, rfl⟩ := Nat.exists_eq_succ_of_ne_zero (Nat.ne_of_gt (Nat.zero_lt_of_lt hfuel))
    obtain ⟨key, text, value⟩ := member
    have hfirst : Reads text value := hreads _ List.mem_cons_self
    have hkey (tail : Bytes) : parseString (memberText key text ++ tail) = some (key, 0x3A :: (text ++ tail)) := by
      have := parseString_stringText key (0x3A :: (text ++ tail))
      rw [stringText, List.cons_append, List.append_assoc, List.singleton_append] at this
      rwa [memberText, List.cons_append, List.append_assoc, List.cons_append, List.cons_append]
    have hlength : text.length < (memberText key text).length := by
      rw [memberText, List.length_cons, List.length_append, List.length_cons, List.length_cons]
      omega
    cases members with
    | nil =>
      have hlen : (memberText key text).length < fuel := Nat.lt_of_succ_lt_succ hfuel
      have hvalue := hfirst fuel (0x7D :: rest) (by omega) (numberEnd_cons (by decide) rest)
      show parseMembers (fuel + 1) (memberText key text ++ 0x7D :: rest) = _
      rw [parseMembers, hkey]
      simp only [matchChar_cons (show isWs 0x3A = false by decide), hvalue,
        matchChar_of_ne (show isWs 0x7D = false by decide) (show (0x7D : UInt8) ≠ 0x2C by decide),
        matchChar_cons (show isWs 0x7D = false by decide)]
      rfl
    | cons next members =>
      have hjoin : commaJoin (((key, text, value) :: next :: members).map fun member => memberText member.1 member.2.1)
          = memberText key text
            ++ 0x2C :: commaJoin ((next :: members).map fun member => memberText member.1 member.2.1) := rfl
      rw [hjoin, List.length_append, List.length_cons] at hfuel
      have hvalue := hfirst fuel
        (0x2C :: (commaJoin ((next :: members).map fun member => memberText member.1 member.2.1) ++ 0x7D :: rest))
        (by omega) (numberEnd_cons (by decide) _)
      have hrest := ih (List.cons_ne_nil _ _) (fun m hm => hreads m (List.mem_cons_of_mem _ hm))
        (show (commaJoin ((next :: members).map fun member => memberText member.1 member.2.1)).length + 1 < fuel by omega)
      rw [hjoin, List.append_assoc, List.cons_append, parseMembers, hkey]
      simp only [matchChar_cons (show isWs 0x3A = false by decide), hvalue,
        matchChar_cons (show isWs 0x2C = false by decide), hrest]
      rfl

theorem reads_object (members : List (Bytes × Bytes × JsonValue)) (hne : members ≠ [])
    (hreads : ∀ member ∈ members, Reads member.2.1 member.2.2) :
    Reads (objectText (members.map fun member => (member.1, member.2.1)))
      (.object (members.map fun member => (member.1, member.2.2))) := by
  intro fuel rest hfuel _
  obtain ⟨fuel, rfl⟩ := Nat.exists_eq_succ_of_ne_zero (Nat.ne_of_gt (Nat.zero_lt_of_lt hfuel))
  have hmap : ((members.map fun member => (member.1, member.2.1)).map fun member => memberText member.1 member.2)
      = members.map fun member => memberText member.1 member.2.1 := by
    rw [List.map_map]
    rfl
  have htext : objectText (members.map fun member => (member.1, member.2.1)) ++ rest
      = 0x7B :: (commaJoin (members.map fun member => memberText member.1 member.2.1) ++ 0x7D :: rest) := by
    rw [objectText, hmap, List.cons_append, List.append_assoc, List.singleton_append]
  have hloop := parseMembers_commaJoin hne hreads
    (show (commaJoin (members.map fun member => memberText member.1 member.2.1)).length + 1 < fuel by
      rw [objectText, hmap, List.length_cons, List.length_append, List.length_singleton] at hfuel
      omega) rest
  have hopen : matchChar 0x7D (commaJoin (members.map fun member => memberText member.1 member.2.1) ++ 0x7D :: rest)
      = none := by
    obtain ⟨member, members, rfl⟩ := List.exists_cons_of_ne_nil hne
    cases members <;> exact matchChar_of_ne (by decide) (by decide) _
  rw [htext, parseValue, skipWs_cons (by decide)]
  simp only [show (0x7B : UInt8) ≠ 0x22 by decide, if_false, if_true, hopen, hloop]
  rfl

/-- **What is read as a value is parsed as that value.** -/
theorem parseJson_of_reads {value : JsonValue} (h : Reads text value) : parseJson text = some value := by
  have hend : NumberEnd [] := by
    intro c hc
    cases hc
  have := h (text.length + 1) [] (Nat.lt_succ_self _) hend
  rw [List.append_nil] at this
  rw [parseJson, this]
  rfl

/-! ### The fuel is enough -/

theorem length_skipWs (input : Bytes) : (skipWs input).length ≤ input.length :=
  List.length_dropWhile_le _ input

theorem length_matchChar {c : UInt8} {input rest : Bytes} (h : matchChar c input = some rest) :
    rest.length < input.length := by
  have hskip := length_skipWs input
  unfold matchChar at h
  split at h
  · cases h
  · next x tail hcons =>
    rw [hcons, List.length_cons] at hskip
    split at h
    · rw [← Option.some.inj h]
      omega
    · cases h

theorem length_parseStringBody {input out rest : Bytes} (h : parseStringBody input = some (out, rest)) :
    rest.length < input.length := by
  induction input using parseStringBody.induct generalizing out rest with
  | case1 => cases h
  | case2 tail =>
    rw [parseStringBody_of_quote] at h
    cases h
    exact Nat.lt_succ_self _
  | case3 => cases h
  | case4 h1 h2 h3 h4 tail hnone =>
    rw [parseStringBody_of_no_codePoint hnone] at h
    cases h
  | case5 h1 h2 h3 h4 tail cp hsome _ ih =>
    rw [parseStringBody_of_unicode hsome, Option.map_eq_some_iff] at h
    obtain ⟨⟨out', rest'⟩, htail, heq⟩ := h
    have := ih htail
    cases heq
    simp only [List.length_cons]
    omega
  | case6 tail hshort =>
    rw [parseStringBody_of_short hshort] at h
    cases h
  | case7 e tail he _ ih =>
    rw [parseStringBody_of_escape he, Option.map_eq_some_iff] at h
    obtain ⟨⟨out', rest'⟩, htail, heq⟩ := h
    have := ih htail
    cases heq
    simp only [List.length_cons]
    omega
  | case8 x tail hquote hbackslash ih =>
    rw [parseStringBody_of_plain hquote hbackslash, Option.map_eq_some_iff] at h
    obtain ⟨⟨out', rest'⟩, htail, heq⟩ := h
    have := ih htail
    cases heq
    simp only [List.length_cons]
    omega

theorem length_parseString {input out rest : Bytes} (h : parseString input = some (out, rest)) :
    rest.length < input.length := by
  obtain ⟨body, hbody, hrest⟩ := Option.bind_eq_some_iff.1 h
  exact lt_trans (length_parseStringBody hrest) (length_matchChar hbody)

theorem length_scanSign (input : Bytes) : (scanSign input).2.length ≤ input.length := by
  unfold scanSign
  split
  · exact le_rfl
  · split_ifs <;> simp only [List.length_cons] <;> omega

theorem length_span (input : Bytes) : (input.span isDigit).1.length + (input.span isDigit).2.length = input.length := by
  rw [List.span_eq_takeWhile_dropWhile, ← List.length_append, List.takeWhile_append_dropWhile]

theorem length_scanFraction (input : Bytes) :
    (scanFraction input).1.length + (scanFraction input).2.length ≤ input.length := by
  unfold scanFraction
  split
  · exact le_rfl
  · next c tail =>
    split_ifs
    · rw [length_span, List.length_cons]
      exact Nat.le_succ _
    · exact (Nat.zero_add _).le

theorem length_scanExponent (input : Bytes) : (scanExponent input).2.length ≤ input.length := by
  unfold scanExponent
  split
  · exact le_rfl
  · next c tail =>
    split_ifs
    · have hsign := length_scanSign tail
      have hspan := length_span (scanSign tail).2
      show (((scanSign tail).2.span isDigit).2).length ≤ (c :: tail).length
      rw [List.length_cons]
      omega
    · exact le_rfl

theorem length_parseNumber {input rest : Bytes} {value : Double} (h : parseNumber input = some (value, rest)) :
    rest.length < input.length := by
  have hskip := length_skipWs input
  have hsign := length_scanSign (skipWs input)
  have hspan := length_span (scanSign (skipWs input)).2
  have hfraction := length_scanFraction ((scanSign (skipWs input)).2.span isDigit).2
  have hexponent := length_scanExponent (scanFraction ((scanSign (skipWs input)).2.span isDigit).2).2
  unfold parseNumber at h
  dsimp only [scanNumeral] at h
  split at h
  · cases h
  · next hdigits =>
    have hpos : 0 < ((scanSign (skipWs input)).2.span isDigit).1.length
        + (scanFraction ((scanSign (skipWs input)).2.span isDigit).2).1.length := by
      by_contra hzero
      refine hdigits ⟨List.length_eq_zero_iff.1 ?_, List.length_eq_zero_iff.1 ?_⟩ <;> omega
    cases h
    omega

theorem length_isPrefixOf? {literal input rest : Bytes} (hne : literal ≠ [])
    (h : literal.isPrefixOf? input = some rest) : rest.length < input.length := by
  have hpos := List.length_pos_iff.2 hne
  rw [← List.isPrefixOf?_eq_some_iff_append_eq.1 h, List.length_append]
  omega

theorem length_parseLiteral {input rest : Bytes} {value : JsonValue} (h : parseLiteral input = some (value, rest)) :
    rest.length < input.length := by
  unfold parseLiteral at h
  split at h
  · next htrue =>
    cases h
    exact length_isPrefixOf? (by decide) htrue
  · split at h
    · next hfalse =>
      cases h
      exact length_isPrefixOf? (by decide) hfalse
    · obtain ⟨tail, hnull, heq⟩ := Option.map_eq_some_iff.1 h
      cases heq
      exact length_isPrefixOf? (by decide) hnull

/-- What `ParseValue` may have found: a value without parts, which takes no fuel, or one whose parts it went through. -/
theorem parseValue_cases {fuel : ℕ} {input : Bytes} {value : JsonValue}
    (h : parseValue (fuel + 1) input = some (value, rest)) :
    (rest.length < input.length ∧ ∀ fuel, parseValue (fuel + 1) input = some (value, rest))
      ∨ (∃ members tail, tail.length < input.length ∧ parseMembers fuel tail = some (members, rest)
        ∧ ∀ fuel, parseMembers fuel tail = some (members, rest) → parseValue (fuel + 1) input = some (value, rest))
      ∨ ∃ values tail, tail.length < input.length ∧ parseElements fuel tail = some (values, rest)
        ∧ ∀ fuel, parseElements fuel tail = some (values, rest) → parseValue (fuel + 1) input = some (value, rest) := by
  have hskip := length_skipWs input
  rcases hws : skipWs input with _ | ⟨c, tail⟩
  · rw [parseValue, hws] at h
    cases h
  rw [hws, List.length_cons] at hskip
  simp only [parseValue, hws] at h ⊢
  split_ifs at h ⊢
  · obtain ⟨⟨text, tail'⟩, hstring, heq⟩ := Option.map_eq_some_iff.1 h
    have hlt := length_parseString hstring
    rw [List.length_cons] at hlt
    cases heq
    exact .inl ⟨hlt.trans_le hskip, fun _ => h⟩
  · rcases hclose : matchChar 0x7D tail with _ | tail'
    · rw [hclose] at h
      obtain ⟨⟨members, tail'⟩, hmembers, heq⟩ := Option.map_eq_some_iff.1 h
      cases heq
      refine .inr (.inl ⟨members, tail, by omega, hmembers, fun fuel hfuel => ?_⟩)
      simp only [hfuel]
      rfl
    · have := length_matchChar hclose
      rw [hclose] at h
      cases h
      exact .inl ⟨by omega, fun _ => rfl⟩
  · rcases hclose : matchChar 0x5D tail with _ | tail'
    · rw [hclose] at h
      obtain ⟨⟨values, tail'⟩, hvalues, heq⟩ := Option.map_eq_some_iff.1 h
      cases heq
      refine .inr (.inr ⟨values, tail, by omega, hvalues, fun fuel hfuel => ?_⟩)
      simp only [hfuel]
      rfl
    · have := length_matchChar hclose
      rw [hclose] at h
      cases h
      exact .inl ⟨by omega, fun _ => rfl⟩
  · obtain ⟨⟨number, tail'⟩, hnumber, heq⟩ := Option.map_eq_some_iff.1 h
    have hlt := length_parseNumber hnumber
    rw [List.length_cons] at hlt
    cases heq
    exact .inl ⟨hlt.trans_le hskip, fun _ => h⟩
  · have := length_parseLiteral h
    rw [List.length_cons] at this
    exact .inl ⟨by omega, fun _ => h⟩

theorem parseMembers_cases {fuel : ℕ} {input : Bytes} {members : List (Bytes × JsonValue)}
    (h : parseMembers (fuel + 1) input = some (members, rest)) :
    ∃ value tail mid, tail.length < input.length ∧ parseValue fuel tail = some (value, mid)
      ∧ ((∃ next others, next.length < mid.length ∧ parseMembers fuel next = some (others, rest)
          ∧ ∀ fuel, parseValue fuel tail = some (value, mid) → parseMembers fuel next = some (others, rest) →
            parseMembers (fuel + 1) input = some (members, rest))
        ∨ (rest.length < mid.length ∧ ∀ fuel, parseValue fuel tail = some (value, mid) →
            parseMembers (fuel + 1) input = some (members, rest))) := by
  rw [parseMembers] at h
  rcases hkey : parseString input with _ | ⟨key, afterKey⟩
  · rw [hkey] at h
    cases h
  rcases hcolon : matchChar 0x3A afterKey with _ | tail
  · simp only [hkey, hcolon] at h
    cases h
  have hlength := lt_trans (length_matchChar hcolon) (length_parseString hkey)
  rcases hvalue : parseValue fuel tail with _ | ⟨value, mid⟩
  · simp only [hkey, hcolon, hvalue] at h
    cases h
  simp only [hkey, hcolon, hvalue] at h
  refine ⟨value, tail, mid, hlength, hvalue, ?_⟩
  rcases hcomma : matchChar 0x2C mid with _ | next
  · rw [hcomma] at h
    obtain ⟨tail', hclose, heq⟩ := Option.map_eq_some_iff.1 h
    cases heq
    refine .inr ⟨length_matchChar hclose, fun fuel hfuel => ?_⟩
    simp only [parseMembers, hkey, hcolon, hfuel, hcomma]
    exact h
  · rw [hcomma] at h
    obtain ⟨⟨others, tail'⟩, hothers, heq⟩ := Option.map_eq_some_iff.1 h
    cases heq
    refine .inl ⟨next, others, length_matchChar hcomma, hothers, fun fuel hfuel hnext => ?_⟩
    simp only [parseMembers, hkey, hcolon, hfuel, hcomma, hnext]
    rfl

theorem parseElements_cases {fuel : ℕ} {input : Bytes} {values : List JsonValue}
    (h : parseElements (fuel + 1) input = some (values, rest)) :
    ∃ value mid, parseValue fuel input = some (value, mid)
      ∧ ((∃ next others, next.length < mid.length ∧ parseElements fuel next = some (others, rest)
          ∧ ∀ fuel, parseValue fuel input = some (value, mid) → parseElements fuel next = some (others, rest) →
            parseElements (fuel + 1) input = some (values, rest))
        ∨ (rest.length < mid.length ∧ ∀ fuel, parseValue fuel input = some (value, mid) →
            parseElements (fuel + 1) input = some (values, rest))) := by
  rw [parseElements] at h
  rcases hvalue : parseValue fuel input with _ | ⟨value, mid⟩
  · rw [hvalue] at h
    cases h
  simp only [hvalue] at h
  refine ⟨value, mid, rfl, ?_⟩
  rcases hcomma : matchChar 0x2C mid with _ | next
  · rw [hcomma] at h
    obtain ⟨tail', hclose, heq⟩ := Option.map_eq_some_iff.1 h
    cases heq
    refine .inr ⟨length_matchChar hclose, fun fuel hfuel => ?_⟩
    simp only [parseElements, hfuel, hcomma]
    exact h
  · rw [hcomma] at h
    obtain ⟨⟨others, tail'⟩, hothers, heq⟩ := Option.map_eq_some_iff.1 h
    cases heq
    refine .inl ⟨next, others, length_matchChar hcomma, hothers, fun fuel hfuel hnext => ?_⟩
    simp only [parseElements, hfuel, hcomma, hnext]
    rfl

theorem length_parse (fuel : ℕ) :
    (∀ input value rest, parseValue fuel input = some (value, rest) → rest.length < input.length)
      ∧ (∀ input members rest, parseMembers fuel input = some (members, rest) → rest.length < input.length)
      ∧ ∀ input values rest, parseElements fuel input = some (values, rest) → rest.length < input.length := by
  induction fuel with
  | zero =>
    refine ⟨?_, ?_, ?_⟩ <;>
    · intro input found rest h
      cases h
  | succ fuel ih =>
    obtain ⟨ihValue, ihMembers, ihElements⟩ := ih
    refine ⟨?_, ?_, ?_⟩
    · intro input value rest h
      rcases parseValue_cases h with ⟨hlt, -⟩ | ⟨members, tail, hlt, hmembers, -⟩ | ⟨values, tail, hlt, hvalues, -⟩
      · exact hlt
      · exact lt_trans (ihMembers _ _ _ hmembers) hlt
      · exact lt_trans (ihElements _ _ _ hvalues) hlt
    · intro input members rest h
      obtain ⟨value, tail, mid, htail, hvalue, ⟨next, others, hnext, hothers, -⟩ | ⟨hrest, -⟩⟩ :=
        parseMembers_cases h
      · exact ((ihMembers _ _ _ hothers).trans hnext).trans ((ihValue _ _ _ hvalue).trans htail)
      · exact hrest.trans ((ihValue _ _ _ hvalue).trans htail)
    · intro input values rest h
      obtain ⟨value, mid, hvalue, ⟨next, others, hnext, hothers, -⟩ | ⟨hrest, -⟩⟩ := parseElements_cases h
      · exact ((ihElements _ _ _ hothers).trans hnext).trans (ihValue _ _ _ hvalue)
      · exact hrest.trans (ihValue _ _ _ hvalue)

/-- Fuel for the bytes that the parser went over is enough to find the same again. -/
theorem parse_fuel (enough : ℕ) :
    (∀ input value rest, parseValue enough input = some (value, rest) →
        ∀ fuel, input.length < fuel + rest.length → parseValue fuel input = some (value, rest))
      ∧ (∀ input members rest, parseMembers enough input = some (members, rest) →
        ∀ fuel, input.length < fuel + rest.length → parseMembers fuel input = some (members, rest))
      ∧ ∀ input values rest, parseElements enough input = some (values, rest) →
        ∀ fuel, input.length < fuel + rest.length → parseElements fuel input = some (values, rest) := by
  induction enough with
  | zero =>
    refine ⟨?_, ?_, ?_⟩ <;>
    · intro input found rest h
      cases h
  | succ enough ih =>
    obtain ⟨ihValue, ihMembers, ihElements⟩ := ih
    obtain ⟨lengthValue, lengthMembers, lengthElements⟩ := length_parse enough
    refine ⟨?_, ?_, ?_⟩
    · intro input value rest h fuel hfuel
      have hrest : rest.length < input.length := (length_parse (enough + 1)).1 _ _ _ h
      obtain ⟨fuel, rfl⟩ := Nat.exists_eq_succ_of_ne_zero (show fuel ≠ 0 by omega)
      rcases parseValue_cases h with ⟨-, hagain⟩ | ⟨members, tail, hlt, hmembers, hagain⟩
        | ⟨values, tail, hlt, hvalues, hagain⟩
      · exact hagain fuel
      · exact hagain fuel (ihMembers _ _ _ hmembers fuel (by omega))
      · exact hagain fuel (ihElements _ _ _ hvalues fuel (by omega))
    · intro input members rest h fuel hfuel
      have hrest : rest.length < input.length := (length_parse (enough + 1)).2.1 _ _ _ h
      obtain ⟨fuel, rfl⟩ := Nat.exists_eq_succ_of_ne_zero (show fuel ≠ 0 by omega)
      obtain ⟨value, tail, mid, htail, hvalue, ⟨next, others, hnext, hothers, hagain⟩ | ⟨hlt, hagain⟩⟩ :=
        parseMembers_cases h
      · have hmid := lengthValue _ _ _ hvalue
        have hend := lengthMembers _ _ _ hothers
        exact hagain fuel (ihValue _ _ _ hvalue fuel (by omega)) (ihMembers _ _ _ hothers fuel (by omega))
      · exact hagain fuel (ihValue _ _ _ hvalue fuel (by omega))
    · intro input values rest h fuel hfuel
      have hrest : rest.length < input.length := (length_parse (enough + 1)).2.2 _ _ _ h
      obtain ⟨fuel, rfl⟩ := Nat.exists_eq_succ_of_ne_zero (show fuel ≠ 0 by omega)
      obtain ⟨value, mid, hvalue, ⟨next, others, hnext, hothers, hagain⟩ | ⟨hlt, hagain⟩⟩ := parseElements_cases h
      · have hmid := lengthValue _ _ _ hvalue
        have hend := lengthElements _ _ _ hothers
        exact hagain fuel (ihValue _ _ _ hvalue fuel (by omega)) (ihElements _ _ _ hothers fuel (by omega))
      · exact hagain fuel (ihValue _ _ _ hvalue fuel (by omega))

/-- **More fuel finds no other value**: what the parser finds with any fuel, `ParseJson` finds. -/
theorem parseJson_of_parseValue {fuel : ℕ} {json : Bytes} {value : JsonValue}
    (h : parseValue fuel json = some (value, rest)) : parseJson json = some value := by
  rw [parseJson, (parse_fuel fuel).1 _ _ _ h (json.length + 1) (by omega)]
  rfl

end Json

end VianiumVoip.Signaling
