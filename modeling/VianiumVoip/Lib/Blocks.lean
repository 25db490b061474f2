import Mathlib.Data.List.Flatten
import Mathlib.Data.Nat.Notation

/-!
# A stream in blocks

A list cut into consecutive blocks of `n` elements; what is left at the end is no block.  A list that is made of blocks
and a rest below `n` is cut into these blocks again (`blocks_flatten_append`), so that who keeps such a decomposition up
to date knows the blocks of all that has come.
-/

namespace VianiumVoip.Lib

variable {α : Type*} {n : ℕ}

/-- The blocks of `n` elements. -/
def blocks (n : ℕ) (stream : List α) : List (List α) :=
  (List.range (stream.length / n)).map fun i => (stream.drop (n * i)).take n

theorem blocks_of_lt {stream : List α} (h : stream.length < n) : blocks n stream = [] := by
  rw [blocks, Nat.div_eq_of_lt h]
  rfl

theorem blocks_append (hn : 0 < n) {block : List α} (hblock : block.length = n) (stream : List α) :
    blocks n (block ++ stream) = block :: blocks n stream := by
  have hcount : (block ++ stream).length / n = stream.length / n + 1 := by
    rw [List.length_append, hblock, Nat.add_comm, Nat.add_div_right _ hn]
  rw [blocks, hcount, List.range_succ_eq_map, List.map_cons, List.map_map, blocks, Nat.mul_zero, List.drop_zero,
    List.take_left' hblock]
  refine congrArg _ (List.map_congr_left fun i _ => ?_)
  have hdrop : n * (i + 1) = block.length + n * i := by rw [hblock, Nat.mul_succ, Nat.add_comm]
  rw [Function.comp_apply, Nat.succ_eq_add_one, hdrop, List.drop_length_add_append]

/-- **Blocks with a rest** are the blocks of the whole. -/
theorem blocks_flatten_append (hn : 0 < n) {cut : List (List α)} (hcut : ∀ block ∈ cut, block.length = n)
    {rest : List α} (hrest : rest.length < n) : blocks n (cut.flatten ++ rest) = cut := by
  induction cut with
  | nil => exact blocks_of_lt hrest
  | cons block cut ih =>
    rw [List.flatten_cons, List.append_assoc, blocks_append hn (hcut block List.mem_cons_self),
      ih fun b hb => hcut b (List.mem_cons_of_mem _ hb)]

end VianiumVoip.Lib
