import Mathlib.Tactic.SplitIfs
import VianiumVoip.Ice.CandidateParser

/-!
# Candidate lines that are written and read

`IceCandidateParser::Format` of `domain/ice_candidate`, and what `Parse` makes of a line that it has written.

A candidate that comes out of `Parse` is `Printable`: its texts are tokens, its numbers fit into an `int`.  The line that
`Format` writes for it has the tokens of the candidate (`tokens_format`), except that the blanks at the end of a line are
trimmed, which takes them off a ufrag that stands there.  What `Format` does not write, `Parse` sets to zero
(`canonical`).
-/

namespace VianiumVoip.Ice.IceCandidateParser

/-- `TypeToString` -/
def typeToString : IceCandidateType → String
  | .host => "host"
  | .srflx => "srflx"
  | .prflx => "prflx"
  | .relay => "relay"
  | .unknown => "host"

/-- `Format` -/
def format (c : ParsedIceCandidate) : String :=
  "candidate:" ++ c.foundation
    ++ " " ++ toString c.componentId
    ++ " " ++ (if c.transport = "" then "udp" else c.transport)
    ++ " " ++ toString c.priority.toNat
    ++ " " ++ c.ip
    ++ " " ++ toString c.port
    ++ " typ " ++ typeToString c.type
    ++ (if c.relatedAddress = "" then "" else " raddr " ++ c.relatedAddress ++ " rport " ++ toString c.relatedPort)
    ++ " generation " ++ toString c.generation
    ++ (if c.ufrag = "" then "" else " ufrag " ++ c.ufrag)
    ++ (if 0 < c.networkId then " network-id " ++ toString c.networkId else "")
    ++ (if 0 < c.networkCost then " network-cost " ++ toString c.networkCost else "")

/-! ### Numbers -/

/-- What an `int` holds. -/
def IsInt (n : ℤ) : Prop := -2 ^ 31 ≤ n ∧ n ≤ 2 ^ 31 - 1

theorem isInt_of_parseInt {s : List Char} {n : ℤ} (h : parseInt s = some n) : IsInt n := by
  unfold parseInt at h
  split at h
  · cases h
  dsimp only at h
  split at h
  · cases h
  cases h
  unfold IsInt
  split <;> omega

theorem not_isSpace_of_isDigit {c : Char} (h : c.isDigit = true) : isSpace c = false := by
  have hrange : 48 ≤ c.toNat ∧ c.toNat ≤ 57 := by
    rw [Char.isDigit, Bool.and_eq_true, decide_eq_true_eq, decide_eq_true_eq] at h
    exact h
  have hne : c ≠ ' ' := by
    rintro rfl
    exact absurd hrange.1 (by decide)
  unfold isSpace
  simp only [hne, false_or, decide_eq_false_iff_not]
  omega

theorem not_isBlank_of_isDigit {c : Char} (h : c.isDigit = true) : isBlank c = false := by
  have hne {d : Char} (hd : d.isDigit = false) : c ≠ d := by
    rintro rfl
    rw [h] at hd
    cases hd
  unfold isBlank
  simp [hne (d := ' ') rfl, hne (d := '\t') rfl, hne (d := '\r') rfl, hne (d := '\n') rfl]

theorem isDigit_of_mem {c : Char} {n : ℕ} (hc : c ∈ Nat.toDigits 10 n) : c.isDigit = true :=
  Nat.isDigit_of_mem_toDigits (by decide) (by decide) hc

theorem value_toDigits (n : ℕ) : (Nat.toDigits 10 n).foldl (fun n c => 10 * n + (c.toNat - '0'.toNat)) 0 = n := by
  rw [← Nat.ofDigitChars_eq_foldl]
  exact Nat.ofDigitChars_ten_toDigits

theorem takeWhile_toDigits (n : ℕ) : (Nat.toDigits 10 n).takeWhile Char.isDigit = Nat.toDigits 10 n :=
  List.takeWhile_eq_self_iff.2 fun _ => isDigit_of_mem

theorem dropWhile_toDigits (n : ℕ) : (Nat.toDigits 10 n).dropWhile Char.isDigit = [] :=
  List.dropWhile_eq_nil_iff.2 fun _ => isDigit_of_mem

theorem scanNumber_digits (n : ℕ) : scanNumber (Nat.toDigits 10 n) = (false, n, []) := by
  obtain ⟨d, ds, hcons⟩ := List.exists_cons_of_ne_nil (Nat.toDigits_ne_nil (n := n) (b := 10))
  have hd : d.isDigit = true := isDigit_of_mem (n := n) (by rw [hcons]; exact List.mem_cons_self)
  have hblank : (Nat.toDigits 10 n).dropWhile isSpace = Nat.toDigits 10 n := by
    rw [hcons, List.dropWhile_cons_of_neg (by rw [not_isSpace_of_isDigit hd]; decide)]
  have htake := takeWhile_toDigits n
  have hdrop := dropWhile_toDigits n
  have hvalue := value_toDigits n
  unfold scanNumber
  rw [hblank, hcons]
  rw [hcons] at htake hdrop hvalue
  dsimp only
  split
  · next heq =>
    cases heq
    exact absurd hd (by decide)
  · next heq =>
    cases heq
    exact absurd hd (by decide)
  · dsimp only
    rw [htake, hdrop, hvalue, if_neg (List.cons_ne_nil d ds)]

theorem scanNumber_negative (n : ℕ) : scanNumber ('-' :: Nat.toDigits 10 n) = (true, n, []) := by
  have hblank : ('-' :: Nat.toDigits 10 n).dropWhile isSpace = '-' :: Nat.toDigits 10 n :=
    List.dropWhile_cons_of_neg (by decide)
  unfold scanNumber
  rw [hblank]
  show (if (Nat.toDigits 10 n).takeWhile Char.isDigit = [] then (false, 0, '-' :: Nat.toDigits 10 n)
    else (true, ((Nat.toDigits 10 n).takeWhile Char.isDigit).foldl (fun n c => 10 * n + (c.toNat - '0'.toNat)) 0,
      (Nat.toDigits 10 n).dropWhile Char.isDigit)) = (true, n, [])
  rw [takeWhile_toDigits, dropWhile_toDigits, value_toDigits, if_neg Nat.toDigits_ne_nil]

theorem not_nul_of_isDigit {c : Char} (h : c.isDigit = true) : c ≠ '\x00' := by
  rintro rfl
  cases h

theorem toList_toString_ofNat (n : ℕ) : (toString (n : ℤ)).toList = Nat.toDigits 10 n := Nat.toList_repr

theorem toList_toString_negSucc (n : ℕ) : (toString (Int.negSucc n)).toList = '-' :: Nat.toDigits 10 (n + 1) := by
  show ("-" ++ (n + 1).repr).toList = _
  rw [String.toList_append, Nat.toList_repr]
  rfl

/-- **A number that is written is read.** -/
theorem parseInt_toString {n : ℤ} (h : IsInt n) : parseInt (toString n).toList = some n := by
  obtain ⟨hlow, hhigh⟩ := h
  rcases n with n | n
  · have hnul : (Nat.toDigits 10 n).takeWhile (· ≠ '\x00') = Nat.toDigits 10 n :=
      List.takeWhile_eq_self_iff.2 fun c hc => decide_eq_true (not_nul_of_isDigit (isDigit_of_mem hc))
    show parseInt (toString (n : ℤ)).toList = some (n : ℤ)
    rw [toList_toString_ofNat, parseInt, if_neg Nat.toDigits_ne_nil, hnul, scanNumber_digits]
    dsimp only
    rw [if_neg (by simp), if_neg (by decide), min_eq_left (by exact hhigh)]
  · have hnul : ('-' :: Nat.toDigits 10 (n + 1)).takeWhile (· ≠ '\x00') = '-' :: Nat.toDigits 10 (n + 1) := by
      refine List.takeWhile_eq_self_iff.2 fun c hc => decide_eq_true ?_
      rcases List.mem_cons.1 hc with rfl | hc
      · decide
      · exact not_nul_of_isDigit (isDigit_of_mem hc)
    have hvalue : (-((n + 1 : ℕ) : ℤ)) = Int.negSucc n := rfl
    rw [toList_toString_negSucc, parseInt, if_neg (List.cons_ne_nil _ _), hnul, scanNumber_negative]
    dsimp only
    rw [if_neg (by simp), if_pos rfl, hvalue, max_eq_left hlow]

theorem parseInt_repr {n : ℤ} (h : IsInt n) : parseInt n.repr.toList = some n := parseInt_toString h

theorem parseU32_toString (n : UInt32) : parseU32 (toString n.toNat).toList = some n := by
  have hdigits : (toString n.toNat).toList = Nat.toDigits 10 n.toNat := Nat.toList_repr
  have hnul : (Nat.toDigits 10 n.toNat).takeWhile (· ≠ '\x00') = Nat.toDigits 10 n.toNat :=
    List.takeWhile_eq_self_iff.2 fun c hc => decide_eq_true (not_nul_of_isDigit (isDigit_of_mem hc))
  have hlt := n.toNat_lt
  rw [hdigits, parseU32, if_neg Nat.toDigits_ne_nil, hnul, scanNumber_digits]
  dsimp only
  rw [if_neg (by simp), if_neg (by omega), if_neg (by decide), UInt32.ofNat_toNat]

/-! ### Tokens -/

/-- What `SplitSpaces` finds: some characters, none of which it splits at. -/
def IsToken (t : List Char) : Prop := t ≠ [] ∧ ∀ c ∈ t, ¬ (c = ' ' ∨ c = '\t')

instance (t : List Char) : Decidable (IsToken t) :=
  decidable_of_iff (t ≠ [] ∧ (t.all fun c => !decide (c = ' ' ∨ c = '\t')) = true) (by simp [IsToken])

/-- Tokens with a space in front of each. -/
def spaced (ts : List (List Char)) : List Char := ts.flatMap fun t => ' ' :: t

variable {cur s t : List Char} {ts : List (List Char)}

theorem spaced_append (ts ts' : List (List Char)) : spaced (ts ++ ts') = spaced ts ++ spaced ts' := List.flatMap_append

theorem splitLoop_token (h : ∀ c ∈ t, ¬ (c = ' ' ∨ c = '\t')) : splitLoop cur (t ++ s) = splitLoop (cur ++ t) s := by
  induction t generalizing cur with
  | nil => rw [List.nil_append, List.append_nil]
  | cons c t ih =>
    rw [List.cons_append, splitLoop, if_neg (h c List.mem_cons_self), ih fun d hd => h d (List.mem_cons_of_mem _ hd),
      List.append_assoc]
    rfl

theorem splitLoop_spaced (hcur : cur ≠ []) (h : ∀ t ∈ ts, IsToken t) : splitLoop cur (spaced ts) = cur :: ts := by
  induction ts generalizing cur with
  | nil => exact if_neg hcur
  | cons t ts ih =>
    have ht := h t List.mem_cons_self
    have hspaced : spaced (t :: ts) = ' ' :: (t ++ spaced ts) := by
      rw [spaced, List.flatMap_cons]
      rfl
    rw [hspaced, splitLoop, if_pos (.inl rfl), if_neg hcur, splitLoop_token ht.2, List.nil_append,
      ih ht.1 fun t' ht' => h t' (List.mem_cons_of_mem _ ht')]

/-- **Tokens that are written are found.** -/
theorem splitSpaces_spaced (ht : IsToken t) (hts : ∀ t ∈ ts, IsToken t) : splitSpaces (t ++ spaced ts) = t :: ts := by
  rw [splitSpaces, splitLoop_token ht.2, List.nil_append, splitLoop_spaced ht.1 hts]

theorem isToken_of_mem_splitLoop (hcur : ∀ c ∈ cur, ¬ (c = ' ' ∨ c = '\t')) (h : t ∈ splitLoop cur s) : IsToken t := by
  induction s generalizing cur with
  | nil =>
    rw [splitLoop] at h
    split_ifs at h with hnil
    · cases h
    · rw [List.mem_singleton.1 h]
      exact ⟨hnil, hcur⟩
  | cons c s ih =>
    have hempty : ∀ c ∈ ([] : List Char), ¬ (c = ' ' ∨ c = '\t') := fun c hc => by cases hc
    rw [splitLoop] at h
    split_ifs at h with hblank hnil
    · exact ih hempty h
    · rcases List.mem_cons.1 h with rfl | h
      · exact ⟨hnil, hcur⟩
      · exact ih hempty h
    · refine ih ?_ h
      intro d hd
      rcases List.mem_append.1 hd with hd | hd
      · exact hcur d hd
      · rw [List.mem_singleton.1 hd]
        exact hblank

theorem isToken_of_mem_splitSpaces (h : t ∈ splitSpaces s) : IsToken t :=
  isToken_of_mem_splitLoop (fun c hc => by cases hc) h

theorem isToken_toString (n : ℤ) : IsToken (toString n).toList := by
  have hdigit {c : Char} (hc : c.isDigit = true) : ¬ (c = ' ' ∨ c = '\t') := by
    rintro (rfl | rfl) <;> cases hc
  rcases n with n | n
  · show IsToken (toString (n : ℤ)).toList
    rw [toList_toString_ofNat]
    exact ⟨Nat.toDigits_ne_nil, fun c hc => hdigit (isDigit_of_mem hc)⟩
  · rw [toList_toString_negSucc]
    refine ⟨List.cons_ne_nil _ _, fun c hc => ?_⟩
    rcases List.mem_cons.1 hc with rfl | hc
    · decide
    · exact hdigit (isDigit_of_mem hc)

theorem rdropWhile_toString (n : ℤ) : (toString n).toList.rdropWhile isBlank = (toString n).toList := by
  rw [List.rdropWhile_eq_self_iff]
  intro hne
  rcases n with n | n
  · have hlist := toList_toString_ofNat n
    have hmem : (toString (Int.ofNat n)).toList.getLast hne ∈ Nat.toDigits 10 n := by
      rw [← hlist]
      exact List.getLast_mem hne
    rw [not_isBlank_of_isDigit (isDigit_of_mem hmem)]
    decide
  · have hlist := toList_toString_negSucc n
    have hlast : (toString (Int.negSucc n)).toList.getLast hne ∈ Nat.toDigits 10 (n + 1) := by
      simp only [hlist, List.getLast_cons Nat.toDigits_ne_nil]
      exact List.getLast_mem _
    rw [not_isBlank_of_isDigit (isDigit_of_mem hlast)]
    decide

/-! ### Blanks at the end -/

theorem rdropWhile_append (a t : List Char) :
    (a ++ t).rdropWhile isBlank
      = if t.rdropWhile isBlank = [] then a.rdropWhile isBlank else a ++ t.rdropWhile isBlank := by
  simp only [List.rdropWhile, List.reverse_append, List.dropWhile_append, List.reverse_eq_nil_iff, List.isEmpty_iff]
  by_cases h : t.reverse.dropWhile isBlank = []
  · rw [if_pos h, if_pos h]
  · rw [if_neg h, if_neg h, List.reverse_append, List.reverse_reverse]

theorem trim_append (hne : t ≠ []) (ht : t.rdropWhile isBlank = t) :
    trim ("candidate:".toList ++ (s ++ t)) = "candidate:".toList ++ (s ++ t) := by
  have hfront : ("candidate:".toList ++ (s ++ t)).dropWhile isBlank = "candidate:".toList ++ (s ++ t) := rfl
  rw [trim, hfront, ← List.append_assoc, rdropWhile_append, ht, if_neg hne]

theorem stripPrefixes_candidate (s : List Char) : stripPrefixes ("candidate:".toList ++ s) = s := rfl

/-! ### Candidates -/

/-- A text that is there is a token. -/
def IsText (s : String) : Prop := s = "" ∨ IsToken s.toList

/-- What comes out of `Parse`. -/
structure Printable (c : ParsedIceCandidate) : Prop where
  foundation : IsToken c.foundation.toList
  componentId : IsInt c.componentId
  transport : IsToken c.transport.toList
  ip : IsToken c.ip.toList
  port : IsInt c.port
  type : c.type ≠ .unknown
  relatedAddress : IsText c.relatedAddress
  relatedPort : IsInt c.relatedPort
  generation : IsInt c.generation
  ufrag : IsText c.ufrag
  networkId : IsInt c.networkId
  networkCost : IsInt c.networkCost

variable {c : ParsedIceCandidate}

theorem isInt_getD {n : ℤ} (h : IsInt n) (v : List Char) : IsInt ((parseInt v).getD n) := by
  rcases hv : parseInt v with _ | m
  · exact h
  · exact isInt_of_parseInt hv

theorem isText_ofList (h : IsToken t) : IsText (String.ofList t) := by
  right
  rwa [String.toList_ofList]

theorem printable_readExtensions {ext : List (List Char)} (hext : ∀ t ∈ ext, IsToken t) (h : Printable c) :
    Printable (readExtensions ext c) := by
  fun_induction readExtensions ext c with
  | case1 k v rest out ih =>
    have hv : IsToken v := hext v (List.mem_cons_of_mem _ List.mem_cons_self)
    refine ih (fun t ht => hext t (List.mem_cons_of_mem _ (List.mem_cons_of_mem _ ht))) ?_
    split_ifs
    · exact { h with relatedAddress := isText_ofList hv }
    · exact { h with relatedPort := isInt_getD h.relatedPort v }
    · exact { h with generation := isInt_getD h.generation v }
    · exact { h with ufrag := isText_ofList hv }
    · exact { h with networkId := isInt_getD h.networkId v }
    · exact { h with networkCost := isInt_getD h.networkCost v }
    · exact h
  | case2 => exact h

/-- **What comes out of `Parse` is printable.** -/
theorem printable_of_parse {line : String} (h : parse line = some c) : Printable c := by
  unfold parse at h
  dsimp only at h
  split at h
  · cases h
  split at h
  · next foundation component transport priority ip port typ type extensions htokens =>
    have htoken : ∀ t ∈ foundation :: component :: transport :: priority :: ip :: port :: typ :: type :: extensions,
        IsToken t := by
      intro t ht
      rw [← htokens] at ht
      exact isToken_of_mem_splitSpaces ht
    obtain ⟨componentId, hcomponent, h⟩ := Option.bind_eq_some_iff.1 h
    obtain ⟨priority', -, h⟩ := Option.bind_eq_some_iff.1 h
    obtain ⟨port', hport, h⟩ := Option.bind_eq_some_iff.1 h
    split at h
    · cases h
    split at h
    · cases h
    next htype =>
    cases h
    have hzero : IsInt 0 := by
      unfold IsInt
      omega
    refine printable_readExtensions (fun t ht => htoken t (by simp [ht])) ?_
    exact {
      foundation := by simpa using htoken foundation (by simp)
      componentId := isInt_of_parseInt hcomponent
      transport := by simpa using htoken transport (by simp)
      ip := by simpa using htoken ip (by simp)
      port := isInt_of_parseInt hport
      type := htype
      relatedAddress := .inl rfl
      relatedPort := hzero
      generation := hzero
      ufrag := .inl rfl
      networkId := hzero
      networkCost := hzero }
  · cases h

/-! ### The tokens of a candidate -/

section Tokens

variable (c : ParsedIceCandidate)

/-- The tokens between the foundation and the pairs. -/
def fields : List (List Char) :=
  [(toString c.componentId).toList, c.transport.toList, (toString c.priority.toNat).toList, c.ip.toList,
    (toString c.port).toList, "typ".toList, (typeToString c.type).toList]

def relatedTokens : List (List Char) :=
  if c.relatedAddress = "" then []
  else ["raddr".toList, c.relatedAddress.toList, "rport".toList, (toString c.relatedPort).toList]

def generationTokens : List (List Char) := ["generation".toList, (toString c.generation).toList]

def ufragTokens : List (List Char) := if c.ufrag = "" then [] else ["ufrag".toList, c.ufrag.toList]

def networkIdTokens : List (List Char) :=
  if 0 < c.networkId then ["network-id".toList, (toString c.networkId).toList] else []

def networkCostTokens : List (List Char) :=
  if 0 < c.networkCost then ["network-cost".toList, (toString c.networkCost).toList] else []

/-- The pairs behind the type. -/
def pairs : List (List Char) :=
  relatedTokens c ++ (generationTokens c ++ (ufragTokens c ++ (networkIdTokens c ++ networkCostTokens c)))

end Tokens

/-- **A line that is written is its tokens.** -/
theorem toList_format (h : c.transport ≠ "") :
    (format c).toList = "candidate:".toList ++ (c.foundation.toList ++ spaced (fields c ++ pairs c)) := by
  have hrelated : (if c.relatedAddress = "" then ""
      else " raddr " ++ c.relatedAddress ++ " rport " ++ toString c.relatedPort).toList = spaced (relatedTokens c) := by
    unfold relatedTokens
    split <;> simp [spaced]
  have hufrag : (if c.ufrag = "" then "" else " ufrag " ++ c.ufrag).toList = spaced (ufragTokens c) := by
    unfold ufragTokens
    split <;> simp [spaced]
  have hid : (if 0 < c.networkId then " network-id " ++ toString c.networkId else "").toList
      = spaced (networkIdTokens c) := by
    unfold networkIdTokens
    split <;> simp [spaced]
  have hcost : (if 0 < c.networkCost then " network-cost " ++ toString c.networkCost else "").toList
      = spaced (networkCostTokens c) := by
    unfold networkCostTokens
    split <;> simp [spaced]
  unfold format pairs
  simp only [String.toList_append, spaced_append, hrelated, hufrag, hid, hcost, if_neg h]
  simp [spaced, fields, generationTokens]

theorem typeFromString_typeToString {type : IceCandidateType} (h : type ≠ .unknown) :
    typeFromString (typeToString type).toList = type := by
  cases type
  case unknown => exact absurd rfl h
  all_goals decide

/-- The candidate without what stands in pairs. -/
def basic (c : ParsedIceCandidate) : ParsedIceCandidate :=
  { foundation := c.foundation
    componentId := c.componentId
    transport := c.transport
    priority := c.priority
    ip := c.ip
    port := c.port
    type := c.type }

theorem parse_of_tokens (hc : Printable c) {line : String} (hline : trim line.toList ≠ []) {ext : List (List Char)}
    (htokens : splitSpaces (stripPrefixes (trim line.toList)) = c.foundation.toList :: (fields c ++ ext)) :
    parse line = some (readExtensions ext (basic c)) := by
  unfold parse
  dsimp only
  rw [if_neg hline, htokens]
  have hread : ∀ {α : Type} (f : ℤ → UInt32 → ℤ → Option α), (do
      let componentId ← parseInt (toString c.componentId).toList
      let priority ← parseU32 (toString c.priority.toNat).toList
      let port ← parseInt (toString c.port).toList
      f componentId priority port) = f c.componentId c.priority c.port := by
    intro α f
    rw [parseInt_toString hc.componentId, parseU32_toString, parseInt_toString hc.port]
    rfl
  refine (hread _).trans ?_
  rw [if_neg (by simp), typeFromString_typeToString hc.type, if_neg hc.type]
  simp only [String.ofList_toList]
  rfl

/-! ### The pairs of a candidate -/

variable {ext : List (List Char)} {out : ParsedIceCandidate}

theorem readExtensions_relatedTokens (hc : Printable c) :
    readExtensions (relatedTokens c ++ ext) out
      = readExtensions ext { out with
          relatedAddress := if c.relatedAddress = "" then out.relatedAddress else c.relatedAddress
          relatedPort := if c.relatedAddress = "" then out.relatedPort else c.relatedPort } := by
  unfold relatedTokens
  split
  · rfl
  · simp [readExtensions, parseInt_repr hc.relatedPort]

theorem readExtensions_generationTokens (hc : Printable c) :
    readExtensions (generationTokens c ++ ext) out = readExtensions ext { out with generation := c.generation } := by
  simp [generationTokens, readExtensions, parseInt_repr hc.generation]

theorem readExtensions_ufragTokens :
    readExtensions (ufragTokens c ++ ext) out
      = readExtensions ext { out with ufrag := if c.ufrag = "" then out.ufrag else c.ufrag } := by
  unfold ufragTokens
  split
  · rfl
  · simp [readExtensions]

theorem readExtensions_networkIdTokens (hc : Printable c) :
    readExtensions (networkIdTokens c ++ ext) out
      = readExtensions ext { out with networkId := if 0 < c.networkId then c.networkId else out.networkId } := by
  unfold networkIdTokens
  split
  · simp [readExtensions, parseInt_repr hc.networkId]
  · rfl

theorem readExtensions_networkCostTokens (hc : Printable c) :
    readExtensions (networkCostTokens c) out
      = { out with networkCost := if 0 < c.networkCost then c.networkCost else out.networkCost } := by
  unfold networkCostTokens
  split
  · simp [readExtensions, parseInt_repr hc.networkCost]
  · rfl

/-- The candidate without what `Format` leaves out: a related port of no address, and network numbers that are not
positive. -/
def canonical (c : ParsedIceCandidate) : ParsedIceCandidate :=
  { c with
    relatedPort := if c.relatedAddress = "" then 0 else c.relatedPort
    networkId := max c.networkId 0
    networkCost := max c.networkCost 0 }

theorem readExtensions_pairs (hc : Printable c) : readExtensions (pairs c) (basic c) = canonical c := by
  have hmax (n : ℤ) : (if 0 < n then n else 0) = max n 0 := by
    split <;> omega
  have htext (s : String) : (if s = "" then "" else s) = s := by
    split
    · next h => exact h.symm
    · rfl
  unfold pairs
  rw [readExtensions_relatedTokens hc, readExtensions_generationTokens hc, readExtensions_ufragTokens,
    readExtensions_networkIdTokens hc, readExtensions_networkCostTokens hc]
  simp only [basic, canonical, hmax, htext]

/-! ### A line that is written and read -/

theorem toList_ne_nil {s : String} (h : s ≠ "") : s.toList ≠ [] := fun hnil => h (String.toList_eq_nil_iff.1 hnil)

theorem IsText.isToken {s : String} (h : IsText s) (hne : s ≠ "") : IsToken s.toList := h.resolve_left hne

theorem isToken_of_mem_fields (hc : Printable c) : ∀ t ∈ fields c, IsToken t := by
  have htype : IsToken (typeToString c.type).toList := by
    cases c.type <;> decide
  have hpriority : IsToken (toString c.priority.toNat).toList := isToken_toString (c.priority.toNat : ℤ)
  simp only [fields, List.forall_mem_cons]
  exact ⟨isToken_toString _, hc.transport, hpriority, hc.ip, isToken_toString _, by decide, htype,
    fun t ht => by cases ht⟩

theorem isToken_of_mem_generationTokens : ∀ t ∈ generationTokens c, IsToken t := by
  simp only [generationTokens, List.forall_mem_cons]
  exact ⟨by decide, isToken_toString _, fun t ht => by cases ht⟩

theorem isToken_of_mem_relatedTokens (hc : Printable c) : ∀ t ∈ relatedTokens c, IsToken t := by
  unfold relatedTokens
  split
  · intro t ht
    cases ht
  next hne =>
  simp only [List.forall_mem_cons]
  exact ⟨by decide, hc.relatedAddress.isToken hne, by decide, isToken_toString _, fun t ht => by cases ht⟩

theorem isToken_of_mem_pairs (hc : Printable c) : ∀ t ∈ pairs c, IsToken t := by
  have hufrag : ∀ t ∈ ufragTokens c, IsToken t := by
    unfold ufragTokens
    split
    · intro t ht
      cases ht
    next hne =>
    simp only [List.forall_mem_cons]
    exact ⟨by decide, hc.ufrag.isToken hne, fun t ht => by cases ht⟩
  have hid : ∀ t ∈ networkIdTokens c, IsToken t := by
    unfold networkIdTokens
    split
    · simp only [List.forall_mem_cons]
      exact ⟨by decide, isToken_toString _, fun t ht => by cases ht⟩
    · intro t ht
      cases ht
  have hcost : ∀ t ∈ networkCostTokens c, IsToken t := by
    unfold networkCostTokens
    split
    · simp only [List.forall_mem_cons]
      exact ⟨by decide, isToken_toString _, fun t ht => by cases ht⟩
    · intro t ht
      cases ht
  simp only [pairs, List.forall_mem_append]
  exact ⟨isToken_of_mem_relatedTokens hc, isToken_of_mem_generationTokens, hufrag, hid, hcost⟩

/-- A number stands behind the ufrag, or the ufrag does not end in a blank (a CR or an LF; no token has others). -/
def KeepsUfrag (c : ParsedIceCandidate) : Prop :=
  0 < c.networkId ∨ 0 < c.networkCost ∨ c.ufrag.toList.rdropWhile isBlank = c.ufrag.toList

instance (c : ParsedIceCandidate) : Decidable (KeepsUfrag c) := by
  unfold KeepsUfrag
  infer_instance

theorem exists_last (h : KeepsUfrag c) : ∃ front t, pairs c = front ++ [t] ∧ t ≠ [] ∧ t.rdropWhile isBlank = t := by
  have hnumber (n : ℤ) : (toString n).toList ≠ [] ∧ (toString n).toList.rdropWhile isBlank = (toString n).toList :=
    ⟨(isToken_toString n).1, rdropWhile_toString n⟩
  by_cases hcost : 0 < c.networkCost
  · refine ⟨relatedTokens c ++ (generationTokens c ++ (ufragTokens c ++ (networkIdTokens c ++ ["network-cost".toList]))),
      _, ?_, hnumber c.networkCost⟩
    simp [pairs, networkCostTokens, hcost]
  by_cases hid : 0 < c.networkId
  · refine ⟨relatedTokens c ++ (generationTokens c ++ (ufragTokens c ++ ["network-id".toList])), _, ?_,
      hnumber c.networkId⟩
    simp [pairs, networkIdTokens, networkCostTokens, hcost, hid]
  by_cases hufrag : c.ufrag = ""
  · refine ⟨relatedTokens c ++ ["generation".toList], _, ?_, hnumber c.generation⟩
    simp [pairs, generationTokens, ufragTokens, networkIdTokens, networkCostTokens, hcost, hid, hufrag]
  · refine ⟨relatedTokens c ++ (generationTokens c ++ ["ufrag".toList]), c.ufrag.toList, ?_, toList_ne_nil hufrag,
      (h.resolve_left hid).resolve_left hcost⟩
    simp [pairs, ufragTokens, networkIdTokens, networkCostTokens, hcost, hid, hufrag]

theorem transport_ne_empty (hc : Printable c) : c.transport ≠ "" := by
  intro hempty
  refine hc.transport.1 ?_
  rw [hempty]
  rfl

/-- A line whose end is not trimmed has the tokens of the candidate. -/
theorem tokens_format (hc : Printable c) (h : KeepsUfrag c) :
    trim (format c).toList = (format c).toList ∧
      splitSpaces (stripPrefixes (format c).toList) = c.foundation.toList :: (fields c ++ pairs c) := by
  have hformat := toList_format (transport_ne_empty hc)
  constructor
  · obtain ⟨front, t, hpairs, hne, ht⟩ := exists_last h
    have hlist : (format c).toList
        = "candidate:".toList ++ ((c.foundation.toList ++ spaced (fields c ++ front) ++ [' ']) ++ t) := by
      rw [hformat, hpairs]
      simp [spaced]
    rw [hlist]
    exact trim_append hne ht
  · rw [hformat, stripPrefixes_candidate]
    refine splitSpaces_spaced hc.foundation fun t ht => ?_
    rcases List.mem_append.1 ht with ht | ht
    · exact isToken_of_mem_fields hc t ht
    · exact isToken_of_mem_pairs hc t ht

/-- The tokens of a text that blanks are trimmed off: one, or none if nothing is left. -/
def trimmedToken (t : List Char) : List (List Char) :=
  if t.rdropWhile isBlank = [] then [] else [t.rdropWhile isBlank]

theorem isToken_of_mem_trimmedToken (hc : Printable c) (hufrag : c.ufrag ≠ "") :
    ∀ t ∈ trimmedToken c.ufrag.toList, IsToken t := by
  intro t ht
  unfold trimmedToken at ht
  split at ht
  · cases ht
  next hne =>
  rw [List.mem_singleton.1 ht]
  exact ⟨hne, fun d hd => (hc.ufrag.isToken hufrag).2 d ((List.rdropWhile_prefix isBlank _).subset hd)⟩

theorem rdropWhile_cons_space (t : List Char) : (' ' :: t).rdropWhile isBlank = spaced (trimmedToken t) := by
  rw [← List.singleton_append, rdropWhile_append, trimmedToken]
  split
  · rfl
  · simp [spaced]

/-- A ufrag at the end of the line is trimmed. -/
theorem tokens_format_trimmed (hc : Printable c) (h : ¬ KeepsUfrag c) :
    trim (format c).toList ≠ [] ∧ splitSpaces (stripPrefixes (trim (format c).toList))
      = c.foundation.toList ::
        (fields c ++ (relatedTokens c ++ (generationTokens c ++ "ufrag".toList :: trimmedToken c.ufrag.toList))) := by
  obtain ⟨hid, hcost, hblank⟩ : ¬ 0 < c.networkId ∧ ¬ 0 < c.networkCost ∧
      c.ufrag.toList.rdropWhile isBlank ≠ c.ufrag.toList := by
    unfold KeepsUfrag at h
    tauto
  have hufrag : c.ufrag ≠ "" := by
    intro hempty
    rw [hempty] at hblank
    exact hblank rfl
  set behind := relatedTokens c ++ (generationTokens c ++ ["ufrag".toList]) with hbehind
  set front := c.foundation.toList ++ spaced (fields c ++ (relatedTokens c ++ generationTokens c)) ++ [' '] with hfront
  have hlist : (format c).toList = "candidate:".toList ++ ((front ++ "ufrag".toList) ++ (' ' :: c.ufrag.toList)) := by
    rw [toList_format (transport_ne_empty hc), hfront]
    simp [pairs, ufragTokens, networkIdTokens, networkCostTokens, spaced, hid, hcost, hufrag]
  have hspaced : front ++ "ufrag".toList = c.foundation.toList ++ spaced (fields c ++ behind) := by
    rw [hfront, hbehind]
    simp [spaced]
  have htrim : trim (format c).toList
      = "candidate:".toList ++ (c.foundation.toList ++ spaced (fields c ++ (behind ++ trimmedToken c.ufrag.toList))) := by
    have hkey : trim ("candidate:".toList ++ (front ++ "ufrag".toList))
        = "candidate:".toList ++ (front ++ "ufrag".toList) := trim_append (by decide) (by decide)
    have hdrop (s : List Char) : trim ("candidate:".toList ++ s) = ("candidate:".toList ++ s).rdropWhile isBlank := rfl
    rw [hdrop] at hkey
    rw [hlist, hdrop, ← List.append_assoc, rdropWhile_append, rdropWhile_cons_space, hkey, hspaced,
      ← List.append_assoc (fields c) behind, spaced_append (fields c ++ behind)]
    split
    · next hnil => rw [hnil, List.append_nil]
    · simp only [List.append_assoc]
  have hbehindToken : ∀ t ∈ behind, IsToken t := by
    simp only [hbehind, List.forall_mem_append, List.forall_mem_cons]
    exact ⟨isToken_of_mem_relatedTokens hc, isToken_of_mem_generationTokens, by decide, fun t ht => by cases ht⟩
  rw [htrim]
  refine ⟨by simp, ?_⟩
  rw [stripPrefixes_candidate, splitSpaces_spaced hc.foundation]
  · simp [hbehind]
  · simp only [List.forall_mem_append]
    exact ⟨isToken_of_mem_fields hc, hbehindToken, isToken_of_mem_trimmedToken hc hufrag⟩

theorem readExtensions_trimmed (hc : Printable c) (h : ¬ KeepsUfrag c) :
    readExtensions (relatedTokens c ++ (generationTokens c ++ "ufrag".toList :: trimmedToken c.ufrag.toList)) (basic c)
      = { canonical c with ufrag := String.ofList (c.ufrag.toList.rdropWhile isBlank) } := by
  have hid : max c.networkId 0 = 0 := max_eq_right (not_lt.1 fun hpos => h (.inl hpos))
  have hcost : max c.networkCost 0 = 0 := max_eq_right (not_lt.1 fun hpos => h (.inr (.inl hpos)))
  have hrelated : (if c.relatedAddress = "" then "" else c.relatedAddress) = c.relatedAddress := by
    split
    · next h => exact h.symm
    · rfl
  rw [readExtensions_relatedTokens hc, readExtensions_generationTokens hc, trimmedToken]
  split
  · next hnil => simp [readExtensions, basic, canonical, hid, hcost, hnil, hrelated]
  · simp [readExtensions, basic, canonical, hid, hcost, hrelated]

/-- **A candidate that has been read is read again from the line that is written for it**, without what `Format` leaves
out; with its ufrag where no blank is trimmed off it. -/
theorem parse_format (line : String) (c : ParsedIceCandidate) (h : parse line = some c) :
    ∃ ufrag, parse (format c) = some { canonical c with ufrag := ufrag } ∧ (KeepsUfrag c → ufrag = c.ufrag) := by
  have hc := printable_of_parse h
  by_cases hkeeps : KeepsUfrag c
  · obtain ⟨htrim, htokens⟩ := tokens_format hc hkeeps
    rw [← htrim] at htokens
    refine ⟨c.ufrag, ?_, fun _ => rfl⟩
    rw [parse_of_tokens hc ?_ htokens, readExtensions_pairs hc]
    · rfl
    · rw [htrim, toList_format (transport_ne_empty hc)]
      simp
  · obtain ⟨hne, htokens⟩ := tokens_format_trimmed hc hkeeps
    refine ⟨String.ofList (c.ufrag.toList.rdropWhile isBlank), ?_, fun hk => absurd hk hkeeps⟩
    rw [parse_of_tokens hc hne htokens, readExtensions_trimmed hc hkeeps]

/-- A relayed candidate with its address, its ufrag and a network number. -/
def relayed : ParsedIceCandidate :=
  { foundation := "1", componentId := 1, transport := "udp", priority := 255, ip := "10.0.0.1", port := 9, type := .relay
    ufrag := "ab", networkId := 3, relatedAddress := "10.0.0.2", relatedPort := 7 }

theorem parse_format_relayed :
    ∃ ufrag, parse (format relayed) = some { canonical relayed with ufrag := ufrag } ∧
      (KeepsUfrag relayed → ufrag = relayed.ufrag) :=
  parse_format "a=candidate:1 1 udp 255 10.0.0.1 9 typ relay network-id 3 ufrag ab rport 7 raddr 10.0.0.2" relayed
    (by decide +kernel)

/-- A related port of no address is not written. -/
theorem related_port_lost :
    ¬ ∀ (line : String) (c : ParsedIceCandidate), parse line = some c → parse (format c) = some c := by
  intro h
  have hread : parse "candidate:1 1 udp 255 10.0.0.1 9 typ host rport 7"
      = some { foundation := "1", componentId := 1, transport := "udp", priority := 255, ip := "10.0.0.1", port := 9
               type := .host, relatedPort := 7 } := by decide +kernel
  exact absurd (h _ _ hread) (by decide +kernel)

end VianiumVoip.Ice.IceCandidateParser
