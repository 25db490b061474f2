import VianiumVoip.Lib.Tlv
import VianiumVoip.Lib.TracedReads

/-!
# The reads of an attribute walk

The two loops over padded attributes, with the position in the buffer and a trace of their reads: `walk` hands every
attribute to a visitor, and `findAt` stops at the first one of a kind.  The section ends at `last`.

They find what `Tlv.attributes` and `Tlv.find` find (`value_walk`, `value_findAt`), and read below `last` if the visitor
keeps to the value that it is handed (`reads_walk`, `reads_findAt`).
-/

namespace VianiumVoip.Lib.Tlv

open Traced

variable {σ : Type} (visit : σ → UInt16 → ℕ → ℕ → Traced σ) (kind : UInt16 → ℕ → Bool) (b : Bytes) (last : ℕ)

/-- The loop that hands the attributes to `visit`: the type, and where the value begins and how long it is.  `none`
where a value runs past the end of the section. -/
def walk (out : σ) (p : ℕ) : Traced (Option σ) :=
  if p + 4 ≤ last then do
    let aType ← loadBE16At b p
    let aLen ← loadBE16At b (p + 2)
    if last < p + 4 + aLen.toNat then pure none
    else do
      let out ← visit out aType (p + 4) aLen.toNat
      walk out (p + advance aLen.toNat)
  else pure (some out)
termination_by last - p
decreasing_by
  have := le_advance aLen.toNat
  omega

/-- The loop that looks for an attribute by its type and length: where its header begins. -/
def findAt (p : ℕ) : Traced (Option ℕ) :=
  if p + 4 ≤ last then do
    let aType ← loadBE16At b p
    let aLen ← loadBE16At b (p + 2)
    if last < p + 4 + aLen.toNat then pure none
    else if kind aType aLen.toNat then pure (some p)
    else findAt (p + advance aLen.toNat)
  else pure none
termination_by last - p
decreasing_by
  have := le_advance aLen.toNat
  omega

variable {visit kind b last} {P : Access → Prop} {out : σ} {p : ℕ}

/-! ### Where the loops read -/

theorem reads_walk (hP : Covers P last)
    (hvisit : ∀ out aType aVal aLen, aVal + aLen ≤ last → Reads P (visit out aType aVal aLen)) (out : σ) (p : ℕ) :
    Reads P (walk visit b last out p) := by
  induction hn : last - p using Nat.strong_induction_on generalizing out p with
  | _ n ih =>
    rw [walk]
    refine reads_ite ?_ fun _ => reads_pure _
    intro hsize
    refine (reads_loadBE16At hP (by omega)).bind ((reads_loadBE16At hP (by omega)).bind ?_)
    refine reads_ite (fun _ => reads_pure _) ?_
    intro hlen
    have hadvance := le_advance (loadBE16At b (p + 2)).value.toNat
    exact (hvisit _ _ _ _ (by omega)).bind (ih _ (by omega) _ _ rfl)

theorem reads_findAt (hP : Covers P last) (p : ℕ) : Reads P (findAt kind b last p) := by
  induction hn : last - p using Nat.strong_induction_on generalizing p with
  | _ n ih =>
    rw [findAt]
    refine reads_ite ?_ fun _ => reads_pure _
    intro hsize
    refine (reads_loadBE16At hP (by omega)).bind ((reads_loadBE16At hP (by omega)).bind ?_)
    refine reads_ite (fun _ => reads_pure _) ?_
    intro hlen
    have hadvance := le_advance (loadBE16At b (p + 2)).value.toNat
    exact reads_ite (fun _ => reads_pure _) fun _ => ih _ (by omega) _ rfl

theorem le_of_findAt {offset : ℕ} (h : (findAt kind b last p).value = some offset) :
    p ≤ offset ∧ offset + 4 + (loadBE16 (b.drop (offset + 2))).toNat ≤ last ∧
      kind (loadBE16 (b.drop offset)) (loadBE16 (b.drop (offset + 2))).toNat = true := by
  induction hn : last - p using Nat.strong_induction_on generalizing p with
  | _ n ih =>
    rw [findAt] at h
    simp only [value_ite, value_bind, value_pure, value_loadBE16At] at h
    split_ifs at h with hsize hlen hkind
    · cases h
      exact ⟨le_rfl, by omega, hkind⟩
    · have hadvance := le_advance (loadBE16 (b.drop (p + 2))).toNat
      obtain ⟨hle, hend⟩ := ih _ (by omega) h rfl
      exact ⟨by omega, hend⟩

/-! ### What they find -/

theorem loadBE16_section {q k : ℕ} (h : q + k + 2 ≤ last) :
    loadBE16 (((b.take last).drop q).drop k) = loadBE16 (b.drop (q + k)) := by
  rw [List.drop_drop, List.drop_take, loadBE16, loadBE16, List.take_take, Nat.min_eq_left (by omega)]

theorem headLength_section {q : ℕ} (hq : q + 4 ≤ last) :
    headLength ((b.take last).drop q) = (loadBE16 (b.drop (q + 2))).toNat := by
  rw [headLength, loadBE16_section (by omega)]

theorem head_section {q : ℕ} (hq : q + 4 ≤ last) (hlen : ¬ last < q + 4 + (loadBE16 (b.drop (q + 2))).toNat) :
    head ((b.take last).drop q)
      = ⟨loadBE16 (b.drop q), (b.drop (q + 4)).take (loadBE16 (b.drop (q + 2))).toNat⟩ := by
  have htype : loadBE16 (((b.take last).drop q).drop 0) = loadBE16 (b.drop (q + 0)) := loadBE16_section (by omega)
  rw [List.drop_zero, Nat.add_zero] at htype
  rw [head, headLength_section hq, htype, List.drop_drop, List.drop_take, List.take_take, Nat.min_eq_left (by omega)]

theorem length_section {q : ℕ} (hlast : last ≤ b.length) : ((b.take last).drop q).length = last - q := by
  rw [List.length_drop, List.length_take, Nat.min_eq_left hlast]

theorem value_walk {read : σ → Attribute → σ} (hlast : last ≤ b.length)
    (hvisit : ∀ out aType aVal aLen, aVal + aLen ≤ last →
      (visit out aType aVal aLen).value = read out ⟨aType, (b.drop aVal).take aLen⟩) (out : σ) (p : ℕ) :
    (walk visit b last out p).value = (attributes ((b.take last).drop p)).map fun as => as.foldl read out := by
  induction hn : last - p using Nat.strong_induction_on generalizing out p with
  | _ n ih =>
    have hsection := length_section (q := p) hlast
    rw [walk, attributes, hsection]
    simp only [value_ite, value_bind, value_pure, value_loadBE16At]
    by_cases hsize : p + 4 ≤ last
    · have hlength := headLength_section (b := b) hsize
      have harea : 4 ≤ last - p := by omega
      rw [if_pos hsize, if_pos harea, hlength]
      by_cases hlen : last < p + 4 + (loadBE16 (b.drop (p + 2))).toNat
      · have hover : last - p < 4 + (loadBE16 (b.drop (p + 2))).toNat := by omega
        rw [if_pos hlen, if_pos hover]
        rfl
      · have hfits : ¬ last - p < 4 + (loadBE16 (b.drop (p + 2))).toNat := by omega
        have hadvance := le_advance (loadBE16 (b.drop (p + 2))).toNat
        rw [if_neg hlen, if_neg hfits, ih _ (by omega) _ _ rfl, hvisit _ _ _ _ (by omega),
          head_section hsize hlen, List.drop_drop, Option.map_map]
        rfl
    · have harea : ¬ 4 ≤ last - p := by omega
      rw [if_neg hsize, if_neg harea]
      rfl

theorem head_of_find {p : Attribute → Bool} {area : Bytes} {offset : ℕ} {a : Attribute}
    (h : find p area = some (offset, a)) : a = head (area.drop offset) := by
  induction area using find.induct p generalizing offset with
  | case1 area hsize hover =>
    rw [find, if_pos hsize, if_pos hover] at h
    cases h
  | case2 area hsize hover hp =>
    rw [find, if_pos hsize, if_neg hover, if_pos hp] at h
    cases h
    rfl
  | case3 area hsize hover hp ih =>
    rw [find, if_pos hsize, if_neg hover, if_neg hp, Option.map_eq_some_iff] at h
    obtain ⟨⟨offset', a'⟩, hfind, heq⟩ := h
    cases heq
    rw [← List.drop_drop]
    exact ih hfind
  | case4 area hsize =>
    rw [find, if_neg hsize] at h
    cases h

theorem value_of_find {p : Attribute → Bool} {area : Bytes} {offset : ℕ} {a : Attribute}
    (h : find p area = some (offset, a)) : a.value = (area.drop (offset + 4)).take a.value.length := by
  have hprefix : a.value <+: area.drop (offset + 4) := by
    rw [head_of_find h, head, List.drop_drop]
    exact List.take_prefix ..
  exact List.prefix_iff_eq_take.1 hprefix

theorem value_findAt (hlast : last ≤ b.length) (p : ℕ) :
    (findAt kind b last p).value
      = (find (fun a => kind a.type a.value.length) ((b.take last).drop p)).map fun r => p + r.1 := by
  induction hn : last - p using Nat.strong_induction_on generalizing p with
  | _ n ih =>
    have hsection := length_section (q := p) hlast
    rw [findAt, find, hsection]
    simp only [value_ite, value_bind, value_pure, value_loadBE16At]
    by_cases hsize : p + 4 ≤ last
    · have hlength := headLength_section (b := b) hsize
      have harea : 4 ≤ last - p := by omega
      rw [if_pos hsize, if_pos harea, hlength]
      by_cases hlen : last < p + 4 + (loadBE16 (b.drop (p + 2))).toNat
      · have hover : last - p < 4 + (loadBE16 (b.drop (p + 2))).toNat := by omega
        rw [if_pos hlen, if_pos hover]
        rfl
      · have hfits : ¬ last - p < 4 + (loadBE16 (b.drop (p + 2))).toNat := by omega
        have hadvance := le_advance (loadBE16 (b.drop (p + 2))).toNat
        have hhead := head_section hsize hlen
        have hvalue : (head ((b.take last).drop p)).value.length = (loadBE16 (b.drop (p + 2))).toNat := by
          rw [length_head (by omega), hlength]
        have htype : (head ((b.take last).drop p)).type = loadBE16 (b.drop p) := by rw [hhead]
        rw [if_neg hlen, if_neg hfits, hvalue, htype]
        by_cases hkind : kind (loadBE16 (b.drop p)) (loadBE16 (b.drop (p + 2))).toNat = true
        · rw [if_pos hkind, if_pos hkind]
          rfl
        · rw [if_neg hkind, if_neg hkind, ih _ (by omega) _ rfl, List.drop_drop, Option.map_map]
          congr 1
          funext r
          exact Nat.add_assoc ..
    · have harea : ¬ 4 ≤ last - p := by omega
      rw [if_neg hsize, if_neg harea]
      rfl

end VianiumVoip.Lib.Tlv
