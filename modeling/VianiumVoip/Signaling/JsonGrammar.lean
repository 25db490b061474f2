import VianiumVoip.Signaling.Json

/-!
# The grammar of the messages

What a JSON text is (`IsValue`, and `IsPadded` with blanks around it), for two dialects: the one that the header of
`domain/tgcalls_signaling_messages` writes down (`documented`), with the numbers of RFC 8259, and the one that `JsonParser`
takes (`loose`), where objects and arrays may be empty, every letter may stand behind a backslash, and digits may be
missing from a number or begin with zeros.

Every documented text is a loose one with the same value (`IsPadded.loose`).
-/

namespace VianiumVoip.Signaling.Json

open VianiumVoip.Lib

/-! ### Numbers -/

/-- The parts of a number as it is written. -/
structure NumberText where
  minus : Bool
  whole : Bytes
  /-- the digits behind a point -/
  fraction : Option Bytes
  /-- the letter, a sign with whether it is a minus, and the digits -/
  exponent : Option (UInt8 × Option Bool × Bytes)

namespace NumberText

def signText : Option Bool → Bytes
  | none => []
  | some true => [0x2D]
  | some false => [0x2B]

def fractionText : Option Bytes → Bytes
  | none => []
  | some digits => 0x2E :: digits

def exponentText : Option (UInt8 × Option Bool × Bytes) → Bytes
  | none => []
  | some (letter, sign, digits) => letter :: (signText sign ++ digits)

def text (n : NumberText) : Bytes :=
  (if n.minus then [0x2D] else []) ++ n.whole ++ fractionText n.fraction ++ exponentText n.exponent

/-- What the number denotes. -/
def numeral (n : NumberText) : Numeral where
  negative := n.minus
  whole := n.whole
  fraction := n.fraction.getD []
  exponentNegative := (n.exponent.map fun part => decide (part.2.1 = some true)).getD false
  exponent := (n.exponent.map fun part => part.2.2).getD []

/-- Digits are digits, and the letter of an exponent is an `e`. -/
structure WellFormed (n : NumberText) : Prop where
  whole : ∀ c ∈ n.whole, isDigit c = true
  fraction : ∀ digits, n.fraction = some digits → ∀ c ∈ digits, isDigit c = true
  exponent : ∀ part, n.exponent = some part → (part.1 = 0x65 ∨ part.1 = 0x45) ∧ ∀ c ∈ part.2.2, isDigit c = true

/-- The numbers of RFC 8259: no zero in front of other digits, and no part without digits. -/
structure Documented (n : NumberText) : Prop where
  wellFormed : n.WellFormed
  whole : n.whole = [0x30] ∨ ∃ c, n.whole.head? = some c ∧ c ≠ 0x30
  fraction : n.fraction ≠ some []
  exponent : ∀ part, n.exponent = some part → part.2.2 ≠ []

/-- Some digit in front of the exponent, and behind no sign a digit first. -/
structure Loose (n : NumberText) : Prop where
  wellFormed : n.WellFormed
  digit : n.whole ≠ [] ∨ n.fraction.getD [] ≠ []
  first : n.minus = true ∨ n.whole ≠ []

theorem Documented.loose {n : NumberText} (h : n.Documented) : n.Loose := by
  have hne : n.whole ≠ [] := by
    intro hnil
    rcases h.whole with hzero | ⟨c, hhead, -⟩
    · rw [hnil] at hzero
      cases hzero
    · rw [hnil] at hhead
      cases hhead
  exact ⟨h.wellFormed, .inl hne, .inr hne⟩

end NumberText

/-! ### Texts -/

/-- What two ways of writing JSON differ in. -/
structure Dialect where
  number : NumberText → Prop
  /-- what a letter behind a backslash stands for -/
  escape : UInt8 → Option UInt8
  /-- whether objects and arrays may be empty -/
  empty : Prop

/-- The escapes of the header, but for `\uXXXX`. -/
def listedEscape (e : UInt8) : Option UInt8 :=
  if e = 0x22 ∨ e = 0x5C ∨ e = 0x2F ∨ e = 0x6E ∨ e = 0x72 ∨ e = 0x74 ∨ e = 0x62 ∨ e = 0x66 then some (unescape e) else none

/-- The grammar of the header. -/
def documented : Dialect where
  number := NumberText.Documented
  escape := listedEscape
  empty := False

/-- What the parser takes. -/
def loose : Dialect where
  number := NumberText.Loose
  escape e := if e = 0x75 then none else some (unescape e)
  empty := True

def IsBlank (text : Bytes) : Prop := ∀ c ∈ text, isWs c = true

/-- What stands between the quotes of a string, and the bytes that it denotes. -/
inductive IsStringBody (D : Dialect) : Bytes → Bytes → Prop
  | nil : IsStringBody D [] []
  | plain {c : UInt8} {text out : Bytes} (hquote : c ≠ 0x22) (hbackslash : c ≠ 0x5C) (h : IsStringBody D text out) :
      IsStringBody D (c :: text) (c :: out)
  | escape {e c : UInt8} {text out : Bytes} (he : D.escape e = some c) (h : IsStringBody D text out) :
      IsStringBody D (0x5C :: e :: text) (c :: out)
  | unicode {h1 h2 h3 h4 : UInt8} {cp : ℕ} {text out : Bytes} (hcp : codePoint? h1 h2 h3 h4 = some cp)
      (h : IsStringBody D text out) : IsStringBody D (0x5C :: 0x75 :: h1 :: h2 :: h3 :: h4 :: text) (utf8 cp ++ out)

mutual

/-- The text is a value. -/
inductive IsValue (D : Dialect) : Bytes → JsonValue → Prop
  | null : IsValue D (ascii "null") .null
  | true : IsValue D (ascii "true") (.bool true)
  | false : IsValue D (ascii "false") (.bool false)
  | number {n : NumberText} (hn : D.number n) : IsValue D n.text (.number n.numeral.atof)
  | string {text out : Bytes} (h : IsStringBody D text out) : IsValue D (0x22 :: (text ++ [0x22])) (.string out)
  | emptyArray {blank : Bytes} (hD : D.empty) (hblank : IsBlank blank) : IsValue D (0x5B :: (blank ++ [0x5D])) (.array [])
  | array {text : Bytes} {values : List JsonValue} (h : IsElements D text values) :
      IsValue D (0x5B :: (text ++ [0x5D])) (.array values)
  | emptyObject {blank : Bytes} (hD : D.empty) (hblank : IsBlank blank) :
      IsValue D (0x7B :: (blank ++ [0x7D])) (.object [])
  | object {text : Bytes} {members : List (Bytes × JsonValue)} (h : IsMembers D text members) :
      IsValue D (0x7B :: (text ++ [0x7D])) (.object members)

/-- The text is a value with blanks around it. -/
inductive IsPadded (D : Dialect) : Bytes → JsonValue → Prop
  | mk {front text back : Bytes} {value : JsonValue} (hfront : IsBlank front) (h : IsValue D text value)
      (hback : IsBlank back) : IsPadded D (front ++ (text ++ back)) value

/-- The text is these values, with commas in between. -/
inductive IsElements (D : Dialect) : Bytes → List JsonValue → Prop
  | last {text : Bytes} {value : JsonValue} (h : IsPadded D text value) : IsElements D text [value]
  | cons {text texts : Bytes} {value : JsonValue} {values : List JsonValue} (h : IsPadded D text value)
      (hrest : IsElements D texts values) : IsElements D (text ++ 0x2C :: texts) (value :: values)

/-- The text is these members, each a string, a colon and a value, with commas in between. -/
inductive IsMembers (D : Dialect) : Bytes → List (Bytes × JsonValue) → Prop
  | last {front body back text key : Bytes} {value : JsonValue} (hfront : IsBlank front) (hkey : IsStringBody D body key)
      (hback : IsBlank back) (h : IsPadded D text value) :
      IsMembers D (front ++ 0x22 :: (body ++ 0x22 :: (back ++ 0x3A :: text))) [(key, value)]
  | cons {front body back text texts key : Bytes} {value : JsonValue} {members : List (Bytes × JsonValue)}
      (hfront : IsBlank front) (hkey : IsStringBody D body key) (hback : IsBlank back) (h : IsPadded D text value)
      (hrest : IsMembers D texts members) :
      IsMembers D (front ++ 0x22 :: (body ++ 0x22 :: (back ++ 0x3A :: (text ++ 0x2C :: texts)))) ((key, value) :: members)

end

/-! ### Documented texts are loose ones -/

theorem loose_escape_of_listed {e c : UInt8} (h : listedEscape e = some c) : loose.escape e = some c := by
  unfold listedEscape at h
  split_ifs at h with hlisted
  have hne : e ≠ 0x75 := by
    rintro rfl
    revert hlisted
    decide
  rw [← h]
  exact if_neg hne

theorem IsStringBody.loose {text out : Bytes} (h : IsStringBody documented text out) : IsStringBody loose text out := by
  induction h with
  | nil => exact .nil
  | plain hquote hbackslash _ ih => exact .plain hquote hbackslash ih
  | escape he _ ih => exact .escape (loose_escape_of_listed he) ih
  | unicode hcp _ ih => exact .unicode hcp ih

mutual

theorem IsValue.loose {text : Bytes} {value : JsonValue} : IsValue documented text value → IsValue loose text value
  | .null => .null
  | .true => .true
  | .false => .false
  | .number hn => .number (NumberText.Documented.loose hn)
  | .string h => .string h.loose
  | .emptyArray hD hblank => .emptyArray trivial hblank
  | .array h => .array h.loose
  | .emptyObject hD hblank => .emptyObject trivial hblank
  | .object h => .object h.loose

theorem IsPadded.loose {text : Bytes} {value : JsonValue} : IsPadded documented text value → IsPadded loose text value
  | .mk hfront h hback => .mk hfront h.loose hback

theorem IsElements.loose {text : Bytes} {values : List JsonValue} :
    IsElements documented text values → IsElements loose text values
  | .last h => .last h.loose
  | .cons h hrest => .cons h.loose hrest.loose

theorem IsMembers.loose {text : Bytes} {members : List (Bytes × JsonValue)} :
    IsMembers documented text members → IsMembers loose text members
  | .last hfront hkey hback h => .last hfront hkey.loose hback h.loose
  | .cons hfront hkey hback h hrest => .cons hfront hkey.loose hback h.loose hrest.loose

end

end VianiumVoip.Signaling.Json
