import VianiumVoip.Cert.EcdsaP256KeyPair
import VianiumVoip.Cert.Asn1Integer
import VianiumVoip.Lib.DerTree

/-!
# The writer builds the tree of its calls

A sequence of calls of `Asn1Builder` stands for elements: a write for one, a begin and its end for one around those of
the calls between them.  `Draft` is that reading of the calls, with a stack of the elements that are still open; it
knows nothing of bytes and offsets.  `callTree` is what it has in the end, if every end has had its begin and
every begin its end.

The writer follows it step by step: at any time its buffer holds the elements that are finished, with identifier and
placeholder of each open one between them, and its offsets are those of the placeholders (`Draft.layout`).

* `Draft.call_cases` : what a call can do to a draft;
* `Draft.call_write`, `Draft.run_write` : the writer keeps to the layout, over one call and over any number;
* `run_callTree` : in the end it has appended the encoding of the tree, and a reader finds the tree in it.
-/

namespace VianiumVoip.Cert.Asn1Builder

open VianiumVoip.Lib

/-! ### Calls -/

def writeUtcTime (b : Asn1Builder) (t : ℕ) : Asn1Builder := b.writeBytes 0x17 (utcTime t)

def writeOctetString (b : Asn1Builder) (data : Bytes) : Asn1Builder := b.writeBytes 0x04 data

inductive Call where
  | writeRaw (data : Bytes)
  | writeBytes (tag : UInt8) (data : Bytes)
  | writeInteger (data : Bytes)
  | writeIntegerSmall (value : Int64)
  | writeOidRaw (der : Bytes)
  | writeUtcTime (t : ℕ)
  | writeBitString (data : Bytes) (unusedBits : UInt8)
  | writeOctetString (data : Bytes)
  | beginConstructed (tag : UInt8)
  | endConstructed

def call (b : Asn1Builder) : Call → Asn1Builder
  | .writeRaw data => b.writeRaw data
  | .writeBytes tag data => b.writeBytes tag data
  | .writeInteger data => b.writeInteger data
  | .writeIntegerSmall value => b.writeIntegerSmall value
  | .writeOidRaw der => b.writeOidRaw der
  | .writeUtcTime t => b.writeUtcTime t
  | .writeBitString data unusedBits => b.writeBitString data unusedBits
  | .writeOctetString data => b.writeOctetString data
  | .beginConstructed tag => b.beginConstructed tag
  | .endConstructed => b.endConstructed

def run (b : Asn1Builder) (calls : List Call) : Asn1Builder := calls.foldl call b

/-! ### The tree of the calls -/

/-- The element with this identifier and content.  The content of a constructed one has to consist of elements. -/
def element (tag : UInt8) (content : Bytes) : Option Der.Tree :=
  if Der.oneByte tag then
    if Der.isConstructed tag then (Der.decode content).map (.constructed tag) else some (.primitive tag content)
  else none

/-- The element with this identifier around others.  Behind the identifier of a primitive one they are its bytes. -/
def enclose (tag : UInt8) (children : List Der.Tree) : Der.Tree :=
  if Der.isConstructed tag then .constructed tag children else .primitive tag (Der.encodeAll children)

/-- The elements that are finished at the innermost open level, and for each open element, from the innermost one
outwards, those in front of it at its own level and its identifier. -/
structure Draft where
  opened : List (List Der.Tree × UInt8) := []
  done : List Der.Tree := []

namespace Draft

def put (d : Draft) (ts : List Der.Tree) : Draft := { d with done := d.done ++ ts }

/-- Nothing when the call does not fit: raw bytes that are not elements, an identifier that is more than one byte, an
end without a begin. -/
def call (d : Draft) : Call → Option Draft
  | .writeRaw data => (Der.decode data).map d.put
  | .writeBytes tag data => (element tag data).map fun t => d.put [t]
  | .writeInteger data => some (d.put [.primitive 0x02 (integerBody data)])
  | .writeIntegerSmall value => some (d.put [.primitive 0x02 (integerBody
      (if value < 0 then dropLeadingOnes (storeBE64 value.toUInt64)
        else dropLeadingZeros (storeBE64 value.toUInt64)))])
  | .writeOidRaw der => some (d.put [.primitive 0x06 der])
  | .writeUtcTime t => some (d.put [.primitive 0x17 (utcTime t)])
  | .writeBitString data unusedBits => some (d.put [.primitive 0x03 (unusedBits :: data)])
  | .writeOctetString data => some (d.put [.primitive 0x04 data])
  | .beginConstructed tag => if Der.oneByte tag then some { opened := (d.done, tag) :: d.opened } else none
  | .endConstructed =>
    match d.opened with
    | [] => none
    | (before, tag) :: outer => some { opened := outer, done := before ++ [enclose tag d.done] }

def run : Draft → List Call → Option Draft
  | d, [] => some d
  | d, c :: calls => (d.call c).bind fun d' => d'.run calls

end Draft

/-- The elements that a well-nested sequence of calls stands for. -/
def callTree (calls : List Call) : Option (List Der.Tree) :=
  (({} : Draft).run calls).bind fun d => if d.opened.isEmpty then some d.done else none

/-! ### Well-nested sequences -/

/-- The depth behind a call.  An end takes a begin. -/
def Call.nest : Call → ℕ → Option ℕ
  | .beginConstructed _, depth => some (depth + 1)
  | .endConstructed, 0 => none
  | .endConstructed, depth + 1 => some depth
  | _, depth => some depth

def nesting : ℕ → List Call → Option ℕ
  | depth, [] => some depth
  | depth, c :: calls => (c.nest depth).bind fun depth' => nesting depth' calls

/-- Every end has its begin and every begin its end. -/
def WellNested (calls : List Call) : Prop := nesting 0 calls = some 0

/-- What one call may write: raw bytes that are complete elements, an identifier of one byte, and behind that of a
constructed element complete elements again. -/
def Call.Fits : Call → Prop
  | .writeRaw data => (Der.decode data).isSome
  | .writeBytes tag data => (element tag data).isSome
  | .beginConstructed tag => Der.oneByte tag
  | _ => True

instance : DecidablePred Call.Fits := fun c => by
  cases c <;> unfold Call.Fits <;> infer_instance

theorem Draft.call_of_fits {d : Draft} {c : Call} {depth : ℕ} (hfits : c.Fits)
    (hnest : c.nest d.opened.length = some depth) : ∃ d', d.call c = some d' ∧ d'.opened.length = depth := by
  cases c with
  | writeRaw data =>
    obtain ⟨ts, hts⟩ := Option.isSome_iff_exists.1 hfits
    exact ⟨d.put ts, by rw [Draft.call, hts, Option.map_some], Option.some.inj hnest⟩
  | writeBytes tag data =>
    obtain ⟨t, ht⟩ := Option.isSome_iff_exists.1 hfits
    exact ⟨d.put [t], by rw [Draft.call, ht, Option.map_some], Option.some.inj hnest⟩
  | writeInteger data => exact ⟨_, rfl, Option.some.inj hnest⟩
  | writeIntegerSmall value => exact ⟨_, rfl, Option.some.inj hnest⟩
  | writeOidRaw der => exact ⟨_, rfl, Option.some.inj hnest⟩
  | writeUtcTime t => exact ⟨_, rfl, Option.some.inj hnest⟩
  | writeBitString data unusedBits => exact ⟨_, rfl, Option.some.inj hnest⟩
  | writeOctetString data => exact ⟨_, rfl, Option.some.inj hnest⟩
  | beginConstructed tag => exact ⟨_, if_pos hfits, Option.some.inj hnest⟩
  | endConstructed =>
    obtain ⟨_ | ⟨⟨before, tag⟩, outer⟩, done⟩ := d
    · cases hnest
    · exact ⟨_, rfl, Option.some.inj hnest⟩

theorem Draft.run_of_fits {d : Draft} {calls : List Call} {depth : ℕ} (hfits : ∀ c ∈ calls, c.Fits)
    (hnest : nesting d.opened.length calls = some depth) : ∃ d', d.run calls = some d' ∧ d'.opened.length = depth := by
  induction calls generalizing d with
  | nil => exact ⟨d, rfl, Option.some.inj hnest⟩
  | cons c calls ih =>
    obtain ⟨depth', hone, hrest⟩ := Option.bind_eq_some_iff.1 hnest
    obtain ⟨d₁, hcall, rfl⟩ := Draft.call_of_fits (hfits c List.mem_cons_self) hone
    obtain ⟨d', hrun, hdepth⟩ := ih (fun c hc => hfits c (List.mem_cons_of_mem _ hc)) hrest
    exact ⟨d', by rw [Draft.run, hcall, Option.bind_some, hrun], hdepth⟩

theorem exists_callTree {calls : List Call} (hnest : WellNested calls) (hfits : ∀ c ∈ calls, c.Fits) :
    ∃ ts, callTree calls = some ts := by
  obtain ⟨d, hrun, hdepth⟩ := Draft.run_of_fits (d := {}) hfits hnest
  refine ⟨d.done, ?_⟩
  rw [callTree, hrun, Option.bind_some, List.length_eq_zero_iff.1 hdepth]
  rfl

/-! ### What a call does to a draft -/

theorem element_spec {tag : UInt8} {content : Bytes} {t : Der.Tree} (h : element tag content = some t) :
    t.encode = Der.tlv tag content ∧ t.WellTagged := by
  unfold element at h
  split_ifs at h with htag hcons
  · obtain ⟨children, hdecode, rfl⟩ := Option.map_eq_some_iff.1 h
    obtain ⟨rfl, hwell⟩ := Der.decode_sound hdecode
    rw [Der.encode_constructed, Der.Tree.WellTagged]
    exact ⟨rfl, htag, hcons, hwell⟩
  · cases h
    rw [Der.encode_primitive, Der.Tree.WellTagged]
    exact ⟨rfl, htag, Bool.not_eq_true _ ▸ hcons⟩

theorem encode_enclose (tag : UInt8) (children : List Der.Tree) :
    (enclose tag children).encode = Der.tlv tag (Der.encodeAll children) := by
  unfold enclose
  split_ifs
  · rw [Der.encode_constructed]
  · rw [Der.encode_primitive]

theorem wellTagged_enclose {tag : UInt8} {children : List Der.Tree} (htag : Der.oneByte tag = true)
    (h : Der.AllWellTagged children) : (enclose tag children).WellTagged := by
  unfold enclose
  split_ifs with hcons
  · rw [Der.Tree.WellTagged]
    exact ⟨htag, hcons, h⟩
  · rw [Der.Tree.WellTagged]
    exact ⟨htag, Bool.not_eq_true _ ▸ hcons⟩

theorem allWellTagged_singleton {t : Der.Tree} (h : t.WellTagged) : Der.AllWellTagged [t] := by
  rw [Der.AllWellTagged, Der.AllWellTagged]
  exact ⟨h, trivial⟩

theorem encodeAll_singleton (t : Der.Tree) : Der.encodeAll [t] = t.encode := by
  rw [Der.encodeAll_cons, Der.encodeAll_nil, List.append_nil]

namespace Draft

/-- A write puts elements behind what is finished, and the writer appends their encoding. -/
def Puts (c : Call) (ts : List Der.Tree) : Prop :=
  Der.AllWellTagged ts ∧
    ∀ b : Asn1Builder, (Der.encodeAll ts).length < 2 ^ 64 → b.call c = b.append (Der.encodeAll ts)

theorem puts_one {c : Call} {t : Der.Tree} {tag : UInt8} {content : Bytes} (hencode : t.encode = Der.tlv tag content)
    (hwell : t.WellTagged) (hcall : ∀ b : Asn1Builder, b.call c = b.writeBytes tag content) : Puts c [t] := by
  refine ⟨allWellTagged_singleton hwell, fun b hlen => ?_⟩
  rw [encodeAll_singleton, hencode] at hlen ⊢
  have hcontent := Der.two_le_length_tlv tag content
  rw [hcall, Asn1Builder.writeBytes_eq _ _ _ (by omega)]

theorem puts_primitive {c : Call} {tag : UInt8} {content : Bytes} (hone : Der.oneByte tag = true)
    (hprim : Der.isConstructed tag = false) (hcall : ∀ b : Asn1Builder, b.call c = b.writeBytes tag content) :
    Puts c [.primitive tag content] :=
  puts_one (Der.encode_primitive tag content) (by rw [Der.Tree.WellTagged]; exact ⟨hone, hprim⟩) hcall

variable {d d' : Draft} {c : Call} {b : Asn1Builder}

theorem call_cases (h : d.call c = some d') :
    (∃ ts, Puts c ts ∧ d' = d.put ts) ∨
    (∃ tag, Der.oneByte tag = true ∧ c = .beginConstructed tag ∧ d' = { opened := (d.done, tag) :: d.opened }) ∨
    (∃ before tag outer, c = .endConstructed ∧ d.opened = (before, tag) :: outer ∧
      d' = { opened := outer, done := before ++ [enclose tag d.done] }) := by
  cases c with
  | writeRaw data =>
    obtain ⟨ts, hdecode, rfl⟩ := Option.map_eq_some_iff.1 h
    obtain ⟨rfl, hwell⟩ := Der.decode_sound hdecode
    exact Or.inl ⟨ts, ⟨hwell, fun _ _ => rfl⟩, rfl⟩
  | writeBytes tag data =>
    obtain ⟨t, helement, rfl⟩ := Option.map_eq_some_iff.1 h
    obtain ⟨hencode, hwell⟩ := element_spec helement
    exact Or.inl ⟨[t], puts_one hencode hwell fun _ => rfl, rfl⟩
  | writeInteger data => exact Or.inl ⟨_, puts_primitive rfl rfl fun _ => rfl, (Option.some.inj h).symm⟩
  | writeIntegerSmall value => exact Or.inl ⟨_, puts_primitive rfl rfl fun _ => rfl, (Option.some.inj h).symm⟩
  | writeOidRaw der => exact Or.inl ⟨_, puts_primitive rfl rfl fun _ => rfl, (Option.some.inj h).symm⟩
  | writeUtcTime t => exact Or.inl ⟨_, puts_primitive rfl rfl fun _ => rfl, (Option.some.inj h).symm⟩
  | writeBitString data unusedBits => exact Or.inl ⟨_, puts_primitive rfl rfl fun _ => rfl, (Option.some.inj h).symm⟩
  | writeOctetString data => exact Or.inl ⟨_, puts_primitive rfl rfl fun _ => rfl, (Option.some.inj h).symm⟩
  | beginConstructed tag =>
    obtain ⟨htag, h⟩ := Option.ite_none_right_eq_some.1 h
    exact Or.inr (Or.inl ⟨tag, htag, rfl, (Option.some.inj h).symm⟩)
  | endConstructed =>
    obtain ⟨_ | ⟨⟨before, tag⟩, outer⟩, done⟩ := d
    · cases h
    · exact Or.inr (Or.inr ⟨before, tag, outer, rfl, rfl, (Option.some.inj h).symm⟩)

/-! ### The writer at a draft -/

/-- The writer between two calls, begun at `b`: finished elements and, for each open one, identifier and placeholder. -/
def layout (b : Asn1Builder) : List (List Der.Tree × UInt8) → Asn1Builder
  | [] => b
  | (before, tag) :: outer => ((layout b outer).append (Der.encodeAll before)).beginConstructed tag

def write (d : Draft) (b : Asn1Builder) : Asn1Builder := (layout b d.opened).append (Der.encodeAll d.done)

theorem length_write (d : Draft) (b : Asn1Builder) :
    (d.write b).out.length = (layout b d.opened).out.length + (Der.encodeAll d.done).length := List.length_append

theorem length_layout_cons (b : Asn1Builder) (before : List Der.Tree) (tag : UInt8)
    (outer : List (List Der.Tree × UInt8)) :
    (layout b ((before, tag) :: outer)).out.length
      = (layout b outer).out.length + (Der.encodeAll before).length + 2 := by
  simp [layout, Asn1Builder.beginConstructed, Asn1Builder.append, Nat.add_assoc]

theorem put_write (d : Draft) (ts : List Der.Tree) (b : Asn1Builder) :
    (d.put ts).write b = (d.write b).append (Der.encodeAll ts) := by
  rw [write, write, put, Der.encodeAll_append, Asn1Builder.append_append]

theorem encodeAll_enclose (before : List Der.Tree) (tag : UInt8) (children : List Der.Tree) :
    Der.encodeAll (before ++ [enclose tag children])
      = Der.encodeAll before ++ Der.tlv tag (Der.encodeAll children) := by
  rw [Der.encodeAll_append, encodeAll_singleton, encode_enclose]

theorem call_length_le (h : d.call c = some d') (b : Asn1Builder) :
    (d.write b).out.length ≤ (d'.write b).out.length := by
  obtain ⟨ts, -, rfl⟩ | ⟨tag, -, -, rfl⟩ | ⟨before, tag, outer, -, hopened, rfl⟩ := call_cases h
  · rw [put_write, Asn1Builder.append, List.length_append]
    omega
  · rw [length_write, length_write, length_layout_cons]
    omega
  · have htlv := Der.two_le_length_tlv tag (Der.encodeAll d.done)
    simp only [length_write, hopened, length_layout_cons, encodeAll_enclose, List.length_append]
    omega

/-- **One call keeps the writer to the layout.** -/
theorem call_write (h : d.call c = some d') (hsize : (d'.write b).out.length < 2 ^ 64) :
    (d.write b).call c = d'.write b := by
  obtain ⟨ts, hputs, rfl⟩ | ⟨tag, -, rfl, rfl⟩ | ⟨before, tag, outer, rfl, hopened, rfl⟩ := call_cases h
  · rw [put_write] at hsize ⊢
    rw [Asn1Builder.append, List.length_append] at hsize
    exact hputs.2 _ (by omega)
  · have hnil (x : Asn1Builder) : x.append (Der.encodeAll []) = x := by simp [Asn1Builder.append]
    show (d.write b).beginConstructed tag = ((d.write b).beginConstructed tag).append (Der.encodeAll [])
    rw [hnil]
  · have htlv := Der.two_le_length_tlv tag (Der.encodeAll d.done)
    rw [length_write, encodeAll_enclose, List.length_append] at hsize
    rw [write, hopened, layout]
    -- the end finds the offset of the innermost open element, and its content behind it
    show ((((layout b outer).append (Der.encodeAll before)).beginConstructed tag).append
      (Der.encodeAll d.done)).endConstructed = _
    rw [Asn1Builder.endConstructed_append _ _ (by omega), write, encodeAll_enclose, Asn1Builder.append_append]

/-- Every element of the draft has an identifier of its kind. -/
def WellTagged (d : Draft) : Prop :=
  Der.AllWellTagged d.done ∧ ∀ o ∈ d.opened, Der.AllWellTagged o.1 ∧ Der.oneByte o.2 = true

theorem call_wellTagged (h : d.call c = some d') (hd : d.WellTagged) : d'.WellTagged := by
  obtain ⟨ts, hputs, rfl⟩ | ⟨tag, htag, -, rfl⟩ | ⟨before, tag, outer, -, hopened, rfl⟩ := call_cases h
  · exact ⟨Der.allWellTagged_append hd.1 hputs.1, hd.2⟩
  · refine ⟨by rw [Der.AllWellTagged]; trivial, fun o ho => ?_⟩
    rcases List.mem_cons.1 ho with rfl | ho
    · exact ⟨hd.1, htag⟩
    · exact hd.2 o ho
  · have hall := hd.2
    rw [hopened, List.forall_mem_cons] at hall
    obtain ⟨⟨hbefore, htag⟩, houter⟩ := hall
    exact ⟨Der.allWellTagged_append hbefore (allWellTagged_singleton (wellTagged_enclose htag hd.1)), houter⟩

/-! ### Any number of calls -/

variable {calls : List Call}

theorem run_cons : d.run (c :: calls) = some d' ↔ ∃ d₁, d.call c = some d₁ ∧ d₁.run calls = some d' := by
  rw [run, Option.bind_eq_some_iff]

theorem run_length_le (h : d.run calls = some d') (b : Asn1Builder) :
    (d.write b).out.length ≤ (d'.write b).out.length := by
  induction calls generalizing d with
  | nil =>
    cases h
    exact Nat.le_refl _
  | cons c calls ih =>
    obtain ⟨d₁, hcall, hrun⟩ := run_cons.1 h
    exact (call_length_le hcall b).trans (ih hrun)

theorem run_write (h : d.run calls = some d') (hsize : (d'.write b).out.length < 2 ^ 64) :
    (d.write b).run calls = d'.write b := by
  induction calls generalizing d with
  | nil =>
    cases h
    rfl
  | cons c calls ih =>
    obtain ⟨d₁, hcall, hrun⟩ := run_cons.1 h
    rw [Asn1Builder.run, List.foldl_cons, call_write hcall ((run_length_le hrun b).trans_lt hsize)]
    exact ih hrun

theorem run_wellTagged (h : d.run calls = some d') (hd : d.WellTagged) : d'.WellTagged := by
  induction calls generalizing d with
  | nil =>
    cases h
    exact hd
  | cons c calls ih =>
    obtain ⟨d₁, hcall, hrun⟩ := run_cons.1 h
    exact ih hrun (call_wellTagged hcall hd)

end Draft

theorem callTree_eq_some {calls : List Call} {ts : List Der.Tree} :
    callTree calls = some ts ↔ ({} : Draft).run calls = some { done := ts } := by
  unfold callTree
  rw [Option.bind_eq_some_iff]
  constructor
  · rintro ⟨⟨_ | ⟨o, os⟩, done⟩, hrun, hdone⟩
    · obtain rfl := Option.some.inj hdone
      exact hrun
    · cases hdone
  · intro hrun
    exact ⟨_, hrun, rfl⟩

/-- **A well-nested sequence of calls appends the encoding of its tree**, and the tree is what a reader finds. -/
theorem run_callTree {calls : List Call} {ts : List Der.Tree} (h : callTree calls = some ts) (b : Asn1Builder)
    (hsize : b.out.length + (Der.encodeAll ts).length < 2 ^ 64) :
    b.run calls = b.append (Der.encodeAll ts) ∧ Der.decode (Der.encodeAll ts) = some ts := by
  have hrun := callTree_eq_some.1 h
  have hwell := (Draft.run_wellTagged hrun ⟨by rw [Der.AllWellTagged]; trivial, fun o ho => by cases ho⟩).1
  have hstart : ({} : Draft).write b = b := by simp [Draft.write, Draft.layout, Asn1Builder.append]
  have hend := Draft.run_write (b := b) hrun (by rw [Draft.length_write]; exact hsize)
  rw [hstart] at hend
  exact ⟨hend, Der.decode_encodeAll hwell (by omega)⟩

end VianiumVoip.Cert.Asn1Builder
