import VianiumVoip.Lib.TracedReads
import VianiumVoip.Signaling.Json

/-!
# What the JSON parser reads

`JsonParser` of `domain/tgcalls_signaling_messages` with its position, its flag and every read of the text in a trace.
The calls of `ParseValue` in one another run on fuel, and a run that is out of it says so (`none`); with two units for
each byte and one more that does not happen.

`Moves` is what one piece of the parser does: it reads inside the text, goes forward and not past the end, and when it
finds something it has gone on by a byte at least.
-/

namespace VianiumVoip.Signaling.JsonReads

open VianiumVoip.Lib Traced Json

/-! ### The parser -/

structure JsonParser where
  pos : ℕ := 0
  failed : Bool := false

namespace JsonParser

/-- `n` bytes on. -/
def advance (p : JsonParser) (n : ℕ) : JsonParser := { p with pos := p.pos + n }

/-- `Failed = true; return false;` -/
def fail {α : Type} (p : JsonParser) : Option α × JsonParser := (none, { p with failed := true })

@[simp] theorem pos_advance (p : JsonParser) (n : ℕ) : (p.advance n).pos = p.pos + n := rfl
@[simp] theorem failed_advance (p : JsonParser) (n : ℕ) : (p.advance n).failed = p.failed := rfl
@[simp] theorem found_fail {α : Type} (p : JsonParser) : (p.fail : Option α × JsonParser).1 = none := rfl
@[simp] theorem pos_fail {α : Type} (p : JsonParser) : (p.fail : Option α × JsonParser).2.pos = p.pos := rfl

end JsonParser

variable (data : Bytes)

/-- `SkipWs` -/
def skipWs (p : JsonParser) : Traced JsonParser :=
  if p.pos < data.length then do
    let c ← byteAt data p.pos
    if isWs c then skipWs (p.advance 1) else pure p
  else pure p
termination_by data.length - p.pos
decreasing_by
  rw [JsonParser.pos_advance]
  omega

/-- `Match` -/
def matchChar (c : UInt8) (p : JsonParser) : Traced (Option Unit × JsonParser) := do
  let p ← skipWs data p
  if p.pos < data.length then do
    let x ← byteAt data p.pos
    if x = c then return (some (), p.advance 1) else return (none, p)
  else return (none, p)

/-- `Expect`, with the look at `Failed` behind it. -/
def expect (c : UInt8) (p : JsonParser) : Traced (Option Unit × JsonParser) := do
  let (found, p) ← matchChar data c p
  if found.isSome then return (some (), p) else return p.fail

/-- The loop over the digits behind `\u`: the code point, and how many bytes were read. -/
def hexDigits : (left cp i : ℕ) → (p : JsonParser) → Traced (Option ℕ × ℕ)
  | 0, cp, i, _ => return (some cp, i)
  | left + 1, cp, i, p => do
    let h ← byteAt data (p.pos + i)
    match hexValue? h with
    | some d => hexDigits left (cp * 16 + d) (i + 1) p
    | none => return (none, i + 1)

/-- The loop of `ParseString`. -/
def parseStringLoop (out : Bytes) (p : JsonParser) : Traced (Option Bytes × JsonParser) :=
  if p.pos < data.length then do
    let c ← byteAt data p.pos
    if c = 0x22 then return (some out, p.advance 1)
    else if c = 0x5C then
      if data.length ≤ p.pos + 1 then return (p.advance 1).fail
      else do
        let e ← byteAt data (p.pos + 1)
        if e = 0x75 then
          if data.length < p.pos + 2 + 4 then return (p.advance 2).fail
          else do
            let (cp, n) ← hexDigits data 4 0 0 (p.advance 2)
            match cp with
            | some cp => parseStringLoop (out ++ utf8 cp) (p.advance (2 + n))
            | none => return (p.advance (2 + n)).fail
        else parseStringLoop (out ++ [unescape e]) (p.advance 2)
    else parseStringLoop (out ++ [c]) (p.advance 1)
  else return p.fail
termination_by data.length - p.pos
decreasing_by all_goals
  rw [JsonParser.pos_advance]
  omega

/-- `ParseString` -/
def parseString (p : JsonParser) : Traced (Option Bytes × JsonParser) := do
  let p ← skipWs data p
  if data.length ≤ p.pos then return p.fail
  else do
    let c ← byteAt data p.pos
    if c ≠ 0x22 then return p.fail else parseStringLoop data [] (p.advance 1)

/-- `ParseLiteral` -/
def parseLiteral (lit : Bytes) (p : JsonParser) : Traced (Option Unit × JsonParser) :=
  if data.length < p.pos + lit.length then return (none, p)
  else do
    let found ← slice data p.pos lit.length
    if found ≠ lit then return (none, p) else return (some (), p.advance lit.length)

/-- `if (Pos < Size && (Data[Pos] == '-' || Data[Pos] == '+')) Pos++;` -/
def skipSign (p : JsonParser) : Traced JsonParser :=
  if p.pos < data.length then do
    let c ← byteAt data p.pos
    if c = 0x2D ∨ c = 0x2B then return p.advance 1 else return p
  else return p

/-- A loop over digits, with `sawDigit`. -/
def skipDigits (sawDigit : Bool) (p : JsonParser) : Traced (Bool × JsonParser) :=
  if p.pos < data.length then do
    let c ← byteAt data p.pos
    if isDigit c then skipDigits true (p.advance 1) else return (sawDigit, p)
  else return (sawDigit, p)
termination_by data.length - p.pos
decreasing_by
  rw [JsonParser.pos_advance]
  omega

/-- The point, and the digits behind it. -/
def skipFraction (sawDigit : Bool) (p : JsonParser) : Traced (Bool × JsonParser) :=
  if p.pos < data.length then do
    let c ← byteAt data p.pos
    if c = 0x2E then skipDigits data sawDigit (p.advance 1) else return (sawDigit, p)
  else return (sawDigit, p)

/-- The letter of an exponent, with what comes behind it. -/
def skipExponent (p : JsonParser) : Traced JsonParser :=
  if p.pos < data.length then do
    let c ← byteAt data p.pos
    if c = 0x65 ∨ c = 0x45 then do
      let p ← skipSign data (p.advance 1)
      let (_, p) ← skipDigits data false p
      return p
    else return p
  else return p

/-- `atof`, on a text that is a number. -/
def atof (buf : Bytes) : Double := (scanNumeral buf).1.atof

/-- `ParseNumber` -/
def parseNumber (p : JsonParser) : Traced (Option Double × JsonParser) := do
  let p ← skipWs data p
  let start := p.pos
  let p ← skipSign data p
  let (sawDigit, p) ← skipDigits data false p
  let (sawDigit, p) ← skipFraction data sawDigit p
  let p ← skipExponent data p
  if sawDigit = false then return p.fail
  else do
    let buf ← slice data start (p.pos - start)
    return (some (atof buf), p)

/-- The literal that begins with a letter, and its value. -/
def literalOf (c : UInt8) : Option (Bytes × JsonValue) :=
  if c = 0x74 then some (ascii "true", .bool true)
  else if c = 0x66 then some (ascii "false", .bool false)
  else if c = 0x6E then some (ascii "null", .null)
  else none

mutual

/-- `ParseValue` -/
def parseValue : ℕ → JsonParser → Traced (Option (Option JsonValue × JsonParser))
  | 0, _ => return none
  | fuel + 1, p => do
    let p ← skipWs data p
    if p.failed = true ∨ data.length ≤ p.pos then return some p.fail
    else do
      let c ← byteAt data p.pos
      if c = 0x22 then do
        let (out, p) ← parseString data p
        return some (out.map .string, p)
      else if c = 0x7B then do
        let p ← skipWs data (p.advance 1)
        let (closed, p) ← matchChar data 0x7D p
        if closed.isSome then return some (some (.object []), p)
        else do
          let run ← parseMembers fuel [] p
          return run.map fun (members, p) => (members.map .object, p)
      else if c = 0x5B then do
        let p ← skipWs data (p.advance 1)
        let (closed, p) ← matchChar data 0x5D p
        if closed.isSome then return some (some (.array []), p)
        else do
          let run ← parseElements fuel [] p
          return run.map fun (values, p) => (values.map .array, p)
      else
        match literalOf c with
        | some (lit, value) => do
          let (found, p) ← parseLiteral data lit p
          if found.isSome then return some (some value, p) else return some p.fail
        | none =>
          if c = 0x2D ∨ isDigit c = true then do
            let (out, p) ← parseNumber data p
            return some (out.map .number, p)
          else return some p.fail

/-- The loop over the members of an object, with those before. -/
def parseMembers : ℕ → List (Bytes × JsonValue) → JsonParser →
    Traced (Option (Option (List (Bytes × JsonValue)) × JsonParser))
  | 0, _, _ => return none
  | fuel + 1, members, p => do
    let (key, p) ← parseString data p
    match key with
    | none => return some (none, p)
    | some key => do
      let p ← skipWs data p
      let (colon, p) ← expect data 0x3A p
      if colon.isSome = false then return some (none, p)
      else do
        let run ← parseValue fuel p
        match run with
        | none => return none
        | some (none, p) => return some (none, p)
        | some (some value, p) => do
          let p ← skipWs data p
          let (comma, p) ← matchChar data 0x2C p
          if comma.isSome then parseMembers fuel (members ++ [(key, value)]) p
          else do
            let (closed, p) ← matchChar data 0x7D p
            if closed.isSome then return some (some (members ++ [(key, value)]), p) else return some p.fail

/-- The loop over the elements of an array, with those before. -/
def parseElements : ℕ → List JsonValue → JsonParser → Traced (Option (Option (List JsonValue) × JsonParser))
  | 0, _, _ => return none
  | fuel + 1, values, p => do
    let run ← parseValue fuel p
    match run with
    | none => return none
    | some (none, p) => return some (none, p)
    | some (some value, p) => do
      let p ← skipWs data p
      let (comma, p) ← matchChar data 0x2C p
      if comma.isSome then parseElements fuel (values ++ [value]) p
      else do
        let (closed, p) ← matchChar data 0x5D p
        if closed.isSome then return some (some (values ++ [value]), p) else return some p.fail

end

/-- `ParseJson` -/
def parseJson (json : Bytes) : Traced (Option (Option JsonValue)) := do
  let run ← parseValue json (2 * json.length + 1) {}
  return run.map fun (root, p) => if p.failed then none else root

/-! ### Where it reads and how it moves -/

/-- The parser is at `n` or behind it, and not behind the end. -/
def Reaches (n : ℕ) (p : JsonParser) : Prop := n ≤ p.pos ∧ p.pos ≤ data.length

/-- One piece of the parser that began at `n`: it goes forward, and on by a byte at least when it finds something. -/
def Finds {α : Type} (n : ℕ) (r : Option α × JsonParser) : Prop :=
  Reaches data n r.2 ∧ (r.1.isSome = true → n < r.2.pos)

/-- A run of one of the calls with fuel, which ends if there is as much of it as needed. -/
def Runs {α : Type} (n need fuel : ℕ) (run : Option (Option α × JsonParser)) : Prop :=
  (∀ r, run = some r → Finds data n r) ∧ (need ≤ fuel → run.isSome = true)

/-- Every access is inside the text. -/
abbrev Inside (a : Access) : Prop := a.Below data.length

variable {data} {α : Type} {p : JsonParser} {n : ℕ}

theorem covers_inside : Covers (Inside data) data.length := fun _ hi => hi

theorem finds_none (h : Reaches data n p) : Finds data n ((none, p) : Option α × JsonParser) :=
  ⟨h, fun hsome => by cases hsome⟩

theorem finds_fail (h : Reaches data n p) : Finds data n (p.fail : Option α × JsonParser) :=
  ⟨h, fun hsome => by cases hsome⟩

theorem finds_some {x : α} (h : Reaches data (n + 1) p) : Finds data n (some x, p) :=
  ⟨⟨Nat.le_of_succ_le h.1, h.2⟩, fun _ => h.1⟩

theorem Finds.of_le {m : ℕ} {r : Option α × JsonParser} (h : Finds data n r) (hle : m ≤ n) : Finds data m r :=
  ⟨⟨hle.trans h.1.1, h.1.2⟩, fun hsome => lt_of_le_of_lt hle (h.2 hsome)⟩

theorem Finds.map {β : Type} {f : α → β} {r : Option α × JsonParser} (h : Finds data n r) :
    Finds data n (r.1.map f, r.2) :=
  ⟨h.1, fun hsome => h.2 (by simpa using hsome)⟩

theorem Reaches.advance {k m : ℕ} (h : Reaches data n p) (hm : m ≤ n + k) (hle : p.pos + k ≤ data.length) :
    Reaches data m (p.advance k) :=
  ⟨hm.trans (Nat.add_le_add_right h.1 k), hle⟩

theorem skipWs_meets (hp : Reaches data n p) : Meets (Inside data) (Reaches data n) (skipWs data p) := by
  fun_induction skipWs data p with
  | case1 p hlt ih =>
    refine (meets_byteAt covers_inside hlt).bind fun c _ => ?_
    exact meets_ite (fun _ => ih (hp.advance (Nat.le_add_right n 1) hlt)) fun _ => meets_pure hp
  | case2 p hlt => exact meets_pure hp

theorem matchChar_meets (c : UInt8) (hp : Reaches data n p) :
    Meets (Inside data) (Finds data n) (matchChar data c p) := by
  refine (skipWs_meets hp).bind fun p hp => ?_
  refine meets_ite ?_ fun _ => meets_pure (finds_none hp)
  intro hlt
  refine (meets_byteAt covers_inside hlt).bind fun x _ => ?_
  exact meets_ite (fun _ => meets_pure (finds_some (hp.advance le_rfl hlt))) fun _ => meets_pure (finds_none hp)

theorem expect_meets (c : UInt8) (hp : Reaches data n p) : Meets (Inside data) (Finds data n) (expect data c p) := by
  refine (matchChar_meets c hp).bind ?_
  rintro ⟨found, p⟩ hfound
  exact meets_ite (fun hsome => meets_pure ⟨hfound.1, fun _ => hfound.2 hsome⟩) fun _ => meets_pure (finds_fail hfound.1)

theorem hexDigits_meets {left cp i : ℕ} (h : p.pos + i + left ≤ data.length) :
    Meets (Inside data) (fun r => i ≤ r.2 ∧ r.2 ≤ i + left) (hexDigits data left cp i p) := by
  induction left generalizing cp i with
  | zero => exact meets_pure ⟨le_rfl, le_rfl⟩
  | succ left ih =>
    refine (meets_byteAt covers_inside (by omega)).bind fun x _ => ?_
    split
    · refine (ih (by omega)).mono fun r hr => ?_
      omega
    · exact meets_pure ⟨Nat.le_succ i, by omega⟩

theorem parseStringLoop_meets (out : Bytes) (hp : Reaches data n p) :
    Meets (Inside data) (Finds data n) (parseStringLoop data out p) := by
  fun_induction parseStringLoop data out p with
  | case1 out p hlt ihUnicode ihEscape ihPlain =>
    refine (meets_byteAt covers_inside hlt).bind fun c _ => ?_
    refine meets_ite (fun _ => meets_pure (finds_some (hp.advance le_rfl hlt))) fun _ => ?_
    refine meets_ite (fun _ => ?_) fun _ => ihPlain c (hp.advance (Nat.le_add_right n 1) hlt)
    refine meets_ite (fun _ => meets_pure (finds_fail (hp.advance (Nat.le_add_right n 1) hlt))) fun hmore => ?_
    have htwo := hp.advance (k := 2) (Nat.le_add_right n 2) (by omega)
    refine (meets_byteAt covers_inside (by omega)).bind fun e _ => ?_
    refine meets_ite (fun _ => ?_) fun _ => ihEscape hmore e htwo
    refine meets_ite (fun _ => meets_pure (finds_fail htwo)) fun hfour => ?_
    refine (hexDigits_meets (by simp only [JsonParser.pos_advance]; omega)).bind ?_
    rintro ⟨cp, i⟩ ⟨-, hi⟩
    have hbehind := hp.advance (k := 2 + i) (Nat.le_add_right n _) (by simp only at hi; omega)
    cases cp with
    | none => exact meets_pure (finds_fail hbehind)
    | some cp => exact ihUnicode hfour i cp hbehind
  | case2 out p hlt => exact meets_pure (finds_fail hp)

theorem parseString_meets (hp : Reaches data n p) : Meets (Inside data) (Finds data n) (parseString data p) := by
  refine (skipWs_meets hp).bind fun p hp => ?_
  refine meets_ite (fun _ => meets_pure (finds_fail hp)) fun hlt => ?_
  refine (meets_byteAt covers_inside (by omega)).bind fun c _ => ?_
  refine meets_ite (fun _ => meets_pure (finds_fail hp)) fun _ => ?_
  exact parseStringLoop_meets [] (hp.advance (Nat.le_add_right n 1) (by omega))

theorem parseLiteral_meets {lit : Bytes} (hne : lit ≠ []) (hp : Reaches data n p) :
    Meets (Inside data) (Finds data n) (parseLiteral data lit p) := by
  have hpos := List.length_pos_iff.2 hne
  refine meets_ite (fun _ => meets_pure (finds_none hp)) fun hlt => ?_
  refine (meets_slice covers_inside (by omega)).bind fun found _ => ?_
  refine meets_ite (fun _ => meets_pure (finds_none hp)) fun _ => ?_
  exact meets_pure (finds_some (hp.advance (by omega) (by omega)))

theorem skipSign_meets (hp : Reaches data n p) : Meets (Inside data) (Reaches data n) (skipSign data p) := by
  refine meets_ite (fun hlt => ?_) fun _ => meets_pure hp
  refine (meets_byteAt covers_inside hlt).bind fun c _ => ?_
  exact meets_ite (fun _ => meets_pure (hp.advance (Nat.le_add_right n 1) hlt)) fun _ => meets_pure hp

/-- Digits are only seen where the parser goes on. -/
def Saw (data : Bytes) (n : ℕ) (sawDigit : Bool) (p : JsonParser) : Prop :=
  Reaches data n p ∧ (sawDigit = true → n < p.pos)

theorem skipDigits_meets {sawDigit : Bool} (hp : Saw data n sawDigit p) :
    Meets (Inside data) (fun r => Saw data n r.1 r.2) (skipDigits data sawDigit p) := by
  fun_induction skipDigits data sawDigit p with
  | case1 sawDigit p hlt ih =>
    refine (meets_byteAt covers_inside hlt).bind fun c _ => ?_
    refine meets_ite (fun _ => ih ⟨hp.1.advance (Nat.le_add_right n 1) hlt, fun _ => ?_⟩) fun _ => meets_pure hp
    exact Nat.lt_succ_of_le hp.1.1
  | case2 sawDigit p hlt => exact meets_pure hp

theorem skipFraction_meets {sawDigit : Bool} (hp : Saw data n sawDigit p) :
    Meets (Inside data) (fun r => Saw data n r.1 r.2) (skipFraction data sawDigit p) := by
  refine meets_ite (fun hlt => ?_) fun _ => meets_pure hp
  refine (meets_byteAt covers_inside hlt).bind fun c _ => ?_
  refine meets_ite (fun _ => ?_) fun _ => meets_pure hp
  exact skipDigits_meets ⟨hp.1.advance (Nat.le_add_right n 1) hlt, fun hsaw => Nat.lt_succ_of_lt (hp.2 hsaw)⟩

theorem skipExponent_meets {m : ℕ} (hp : Reaches data m p) :
    Meets (Inside data) (Reaches data m) (skipExponent data p) := by
  refine meets_ite (fun hlt => ?_) fun _ => meets_pure hp
  refine (meets_byteAt covers_inside hlt).bind fun c _ => ?_
  refine meets_ite (fun _ => ?_) fun _ => meets_pure hp
  refine (skipSign_meets (hp.advance (Nat.le_add_right m 1) hlt)).bind fun p hp => ?_
  exact (skipDigits_meets ⟨hp, fun hsaw => by cases hsaw⟩).bind fun r hr => meets_pure hr.1

theorem parseNumber_meets (hp : Reaches data n p) : Meets (Inside data) (Finds data n) (parseNumber data p) := by
  refine (skipWs_meets hp).bind fun start hstart => ?_
  refine (skipSign_meets ⟨le_refl start.pos, hstart.2⟩).bind fun p hsign => ?_
  refine (skipDigits_meets ⟨hsign, fun hsaw => by cases hsaw⟩).bind ?_
  rintro ⟨sawDigit, p⟩ hwhole
  refine (skipFraction_meets hwhole).bind ?_
  rintro ⟨sawDigit, p⟩ hfraction
  refine (skipExponent_meets ⟨le_refl p.pos, hfraction.1.2⟩).bind fun q hq => ?_
  have hle : n ≤ q.pos := hstart.1.trans (hfraction.1.1.trans hq.1)
  refine meets_ite (fun _ => meets_pure (finds_fail ⟨hle, hq.2⟩)) fun hsaw => ?_
  have hlt : n < q.pos := lt_of_lt_of_le (lt_of_le_of_lt hstart.1 (hfraction.2 (by simpa using hsaw))) hq.1
  have hend : start.pos + (q.pos - start.pos) ≤ data.length := by
    have := hfraction.1.1.trans hq.1
    have := hq.2
    omega
  exact (meets_slice covers_inside hend).bind fun buf _ => meets_pure (finds_some ⟨hlt, hq.2⟩)

/-! ### The calls on fuel -/

theorem runs_done {need fuel : ℕ} {r : Option α × JsonParser} (h : Finds data n r) : Runs data n need fuel (some r) :=
  ⟨fun _ hr => Option.some.inj hr ▸ h, fun _ => rfl⟩

theorem runs_out {need : ℕ} (h : 0 < need) : Runs data n need 0 (none : Option (Option α × JsonParser)) :=
  ⟨fun r hr => (by cases hr), fun hfuel => by omega⟩

theorem Runs.map {β : Type} {need fuel : ℕ} {run : Option (Option α × JsonParser)} {f : α → β}
    (h : Runs data n need fuel run) :
    Runs data n need fuel (run.map fun r => (r.1.map f, r.2)) := by
  refine ⟨?_, fun hfuel => by rw [Option.isSome_map]; exact h.2 hfuel⟩
  intro r hr
  obtain ⟨r', hr', rfl⟩ := Option.map_eq_some_iff.1 hr
  exact (h.1 r' hr').map

theorem Runs.weaken {m need need' fuel fuel' : ℕ} {run : Option (Option α × JsonParser)}
    (h : Runs data n need fuel run) (hle : m ≤ n) (hneed : need' ≤ fuel' → need ≤ fuel) :
    Runs data m need' fuel' run :=
  ⟨fun r hr => (h.1 r hr).of_le hle, fun hfuel => h.2 (hneed hfuel)⟩

theorem literalOf_ne_nil {c : UInt8} {lit : Bytes} {value : JsonValue} (h : literalOf c = some (lit, value)) :
    lit ≠ [] := by
  unfold literalOf at h
  split_ifs at h <;> cases h <;> decide

/-- What comes behind a member or an element: a comma and the rest of the loop, or a closing bracket. -/
theorem closing_meets {fuel : ℕ} (bracket : UInt8) (x : α) (more : JsonParser → Traced (Option (Option α × JsonParser)))
    {q : JsonParser} (hq : Reaches data (n + 1) q)
    (hmore : ∀ p, p.pos ≤ data.length →
      Meets (Inside data) (Runs data p.pos (2 * (data.length - p.pos) + 2) fuel) (more p)) :
    Meets (Inside data) (Runs data n (2 * (data.length - n) + 2) (fuel + 1)) (do
      let p ← skipWs data q
      let (comma, p) ← matchChar data 0x2C p
      if comma.isSome then more p
      else do
        let (closed, p) ← matchChar data bracket p
        if closed.isSome then return some (some x, p) else return some p.fail) := by
  refine (skipWs_meets hq).bind fun p hp => (matchChar_meets 0x2C hp).bind ?_
  rintro ⟨comma, p⟩ hcomma
  obtain ⟨hle, hend⟩ : n + 1 ≤ p.pos ∧ p.pos ≤ data.length := hcomma.1
  refine meets_ite (fun _ => (hmore p hend).mono fun run hrun => hrun.weaken (by omega) fun hfuel => by omega) fun _ => ?_
  refine (matchChar_meets bracket hcomma.1).bind ?_
  rintro ⟨closed, p⟩ hclosed
  refine meets_ite (fun _ => meets_pure (runs_done (finds_some hclosed.1))) fun _ => ?_
  exact meets_pure (runs_done (finds_fail ⟨Nat.le_of_succ_le hclosed.1.1, hclosed.1.2⟩))

/-- What comes behind an opening bracket: the closing one, or the loop up to it. -/
theorem opening_meets {β : Type} {fuel : ℕ} (bracket : UInt8) (empty : α) (f : β → α)
    (more : JsonParser → Traced (Option (Option β × JsonParser))) {q : JsonParser} (hq : Reaches data (n + 1) q)
    (hmore : ∀ p, p.pos ≤ data.length →
      Meets (Inside data) (Runs data p.pos (2 * (data.length - p.pos) + 2) fuel) (more p)) :
    Meets (Inside data) (Runs data n (2 * (data.length - n) + 1) (fuel + 1)) (do
      let p ← skipWs data q
      let (closed, p) ← matchChar data bracket p
      if closed.isSome then return some (some empty, p)
      else do
        let run ← more p
        return run.map fun (found, p) => (found.map f, p)) := by
  refine (skipWs_meets hq).bind fun p hp => (matchChar_meets bracket hp).bind ?_
  rintro ⟨closed, p⟩ hclosed
  refine meets_ite (fun _ => meets_pure (runs_done (finds_some hclosed.1))) fun _ => ?_
  obtain ⟨hle, hend⟩ : n + 1 ≤ p.pos ∧ p.pos ≤ data.length := hclosed.1
  exact (hmore p hend).bind fun run hrun => meets_pure (hrun.map.weaken (by omega) fun hfuel => by omega)

/-- The calls of `ParseValue` on that fuel go forward inside the text, and do not run out of it if there is enough. -/
def ValueRuns (data : Bytes) (fuel : ℕ) : Prop :=
  ∀ p : JsonParser, p.pos ≤ data.length →
    Meets (Inside data) (Runs data p.pos (2 * (data.length - p.pos) + 1) fuel) (parseValue data fuel p)

def MembersRun (data : Bytes) (fuel : ℕ) : Prop :=
  ∀ members, ∀ p : JsonParser, p.pos ≤ data.length →
    Meets (Inside data) (Runs data p.pos (2 * (data.length - p.pos) + 2) fuel) (parseMembers data fuel members p)

def ElementsRun (data : Bytes) (fuel : ℕ) : Prop :=
  ∀ values, ∀ p : JsonParser, p.pos ≤ data.length →
    Meets (Inside data) (Runs data p.pos (2 * (data.length - p.pos) + 2) fuel) (parseElements data fuel values p)

variable {fuel : ℕ}

theorem valueRuns_succ (hmembers : MembersRun data fuel) (helements : ElementsRun data fuel) :
    ValueRuns data (fuel + 1) := by
  intro p₀ hp₀
  have hbegin : Reaches data p₀.pos p₀ := ⟨le_rfl, hp₀⟩
  rw [parseValue]
  refine (skipWs_meets hbegin).bind fun p hp => ?_
  refine meets_ite (fun _ => meets_pure (runs_done (finds_fail hp))) fun hlt => ?_
  have hlt : p.pos < data.length := Nat.lt_of_not_le fun hle => hlt (.inr hle)
  refine (meets_byteAt covers_inside hlt).bind fun c _ => ?_
  refine meets_ite (fun _ => ?_) fun _ => ?_
  · refine (parseString_meets hp).bind ?_
    rintro ⟨out, p⟩ hout
    exact meets_pure (runs_done hout.map)
  have hopen := hp.advance (k := 1) le_rfl hlt
  refine meets_ite (fun _ => opening_meets 0x7D _ _ _ hopen (hmembers [])) fun _ => ?_
  refine meets_ite (fun _ => opening_meets 0x5D _ _ _ hopen (helements [])) fun _ => ?_
  cases hliteral : literalOf c with
  | some literal =>
    obtain ⟨lit, value⟩ := literal
    refine (parseLiteral_meets (literalOf_ne_nil hliteral) hp).bind ?_
    rintro ⟨found, p⟩ hfound
    refine meets_ite (fun hsome => ?_) fun _ => meets_pure (runs_done (finds_fail hfound.1))
    exact meets_pure (runs_done ⟨hfound.1, fun _ => hfound.2 hsome⟩)
  | none =>
    refine meets_ite (fun _ => ?_) fun _ => meets_pure (runs_done (finds_fail hp))
    refine (parseNumber_meets hp).bind ?_
    rintro ⟨out, p⟩ hout
    exact meets_pure (runs_done hout.map)

theorem membersRun_succ (hvalues : ValueRuns data fuel) (hmembers : MembersRun data fuel) :
    MembersRun data (fuel + 1) := by
  intro members p₀ hp₀
  have hbegin : Reaches data p₀.pos p₀ := ⟨le_rfl, hp₀⟩
  rw [parseMembers]
  refine (parseString_meets hbegin).bind ?_
  rintro ⟨_ | key, p⟩ hkey
  · exact meets_pure (runs_done hkey)
  have hkeyed : Reaches data (p₀.pos + 1) p := ⟨hkey.2 rfl, hkey.1.2⟩
  refine (skipWs_meets hkeyed).bind fun p hp => (expect_meets 0x3A hp).bind ?_
  rintro ⟨colon, p⟩ hcolon
  have hback := hcolon.of_le (Nat.le_succ p₀.pos)
  refine meets_ite (fun _ => meets_pure (runs_done (finds_none hback.1))) fun _ => ?_
  obtain ⟨hle, hend⟩ : p₀.pos + 1 ≤ p.pos ∧ p.pos ≤ data.length := hcolon.1
  refine (hvalues p hend).bind fun run hrun => ?_
  rcases run with _ | ⟨_ | value, q⟩
  · exact meets_pure ⟨fun r hr => (by cases hr), fun hfuel => hrun.2 (by omega)⟩
  · exact meets_pure (runs_done ((hrun.1 _ rfl).of_le (by omega)))
  have hvalue := (hrun.1 _ rfl).1
  exact closing_meets 0x7D _ _ ⟨hle.trans hvalue.1, hvalue.2⟩ fun p hp => hmembers _ p hp

theorem elementsRun_succ (hvalues : ValueRuns data fuel) (helements : ElementsRun data fuel) :
    ElementsRun data (fuel + 1) := by
  intro values p₀ hp₀
  have hbegin : Reaches data p₀.pos p₀ := ⟨le_rfl, hp₀⟩
  rw [parseElements]
  refine (hvalues p₀ hp₀).bind fun run hrun => ?_
  rcases run with _ | ⟨_ | value, q⟩
  · exact meets_pure ⟨fun r hr => (by cases hr), fun hfuel => hrun.2 (by omega)⟩
  · exact meets_pure (runs_done (hrun.1 _ rfl))
  have hvalue := hrun.1 _ rfl
  exact closing_meets 0x5D _ _ ⟨hvalue.2 rfl, hvalue.1.2⟩ fun p hp => helements _ p hp

/-- **The calls go forward inside the text**, and two units of fuel for each byte that is left are enough. -/
theorem runs_meets (fuel : ℕ) : ValueRuns data fuel ∧ MembersRun data fuel ∧ ElementsRun data fuel := by
  induction fuel with
  | zero =>
    exact ⟨fun p _ => meets_pure (runs_out (by omega)), fun _ p _ => meets_pure (runs_out (by omega)),
      fun _ p _ => meets_pure (runs_out (by omega))⟩
  | succ fuel ih =>
    obtain ⟨ihValue, ihMembers, ihElements⟩ := ih
    exact ⟨valueRuns_succ ihMembers ihElements, membersRun_succ ihValue ihMembers, elementsRun_succ ihValue ihElements⟩

/-- **The JSON parser is safe** on every text.  `ParseJson` comes to an end and reads inside the text; so does every
piece of the parser wherever it begins, and it goes forward and not past the end, and on by a byte at least when it
finds something. -/
theorem jsonParser_safe (data : Bytes) :
    Meets (Inside data) (fun root => root.isSome = true) (parseJson data) ∧
      ∀ p : JsonParser, p.pos ≤ data.length →
        Meets (Inside data) (Reaches data p.pos) (skipWs data p) ∧
        (∀ c, Meets (Inside data) (Finds data p.pos) (matchChar data c p)) ∧
        (∀ c, Meets (Inside data) (Finds data p.pos) (expect data c p)) ∧
        Meets (Inside data) (Finds data p.pos) (parseString data p) ∧
        (∀ c lit value, literalOf c = some (lit, value) →
          Meets (Inside data) (Finds data p.pos) (parseLiteral data lit p)) ∧
        Meets (Inside data) (Finds data p.pos) (parseNumber data p) ∧
        (∀ fuel, Meets (Inside data) (Runs data p.pos (2 * (data.length - p.pos) + 1) fuel) (parseValue data fuel p)) ∧
        (∀ fuel members,
          Meets (Inside data) (Runs data p.pos (2 * (data.length - p.pos) + 2) fuel) (parseMembers data fuel members p)) ∧
        ∀ fuel values,
          Meets (Inside data) (Runs data p.pos (2 * (data.length - p.pos) + 2) fuel) (parseElements data fuel values p) := by
  refine ⟨?_, fun p hp => ?_⟩
  · refine ((runs_meets (2 * data.length + 1)).1 {} (Nat.zero_le _)).bind fun run hrun => meets_pure ?_
    rw [Option.isSome_map]
    exact hrun.2 le_rfl
  · have hbegin : Reaches data p.pos p := ⟨le_rfl, hp⟩
    exact ⟨skipWs_meets hbegin, fun c => matchChar_meets c hbegin, fun c => expect_meets c hbegin,
      parseString_meets hbegin, fun c lit value h => parseLiteral_meets (literalOf_ne_nil h) hbegin,
      parseNumber_meets hbegin, fun fuel => (runs_meets fuel).1 p hp, fun fuel members => (runs_meets fuel).2.1 members p hp,
      fun fuel values => (runs_meets fuel).2.2 values p hp⟩

/-- An array that breaks off, behind its bracket. -/
theorem jsonParser_safe_cut :
    (parseValue [0x5B, 0x31, 0x2C] 5 { pos := 1 }).value.isSome = true :=
  ((((jsonParser_safe [0x5B, 0x31, 0x2C]).2 { pos := 1 } (by decide)).2.2.2.2.2.2.1) 5).2.2 (by decide)

end VianiumVoip.Signaling.JsonReads
