import Mathlib.Data.List.Infix

/-!
# Queues that evict

A queue with a limit: what arrives is put at the back, and while the whole does not fit the oldest elements go.  The
limit is any predicate `fits` on lists.

What is left is the longest suffix that fits (`suffix_evict`).  Where a list that fits still does without its last
elements, what has gone before some arrivals would have gone with them, too (`evict_evict_append`).  A queue with a
capacity keeps the last elements (`evict_length_le`), and making room in front of an arrival is the same as evicting
behind it (`evict_lt_append`).

`Accounts` tells what has become of all arrivals: they have been taken, in order, or dropped, or are in the queue.
-/

namespace VianiumVoip.Lib.BoundedQueue

variable {α β : Type*} (fits : List α → Prop) [DecidablePred fits]

/-- The oldest elements go until the others fit. -/
def evict : List α → List α
  | [] => []
  | a :: queue => if fits (a :: queue) then a :: queue else evict queue

variable {fits} {queue suffix : List α}

theorem evict_of_fits (h : fits queue) : evict fits queue = queue := by
  cases queue with
  | nil => rfl
  | cons a queue => rw [evict, if_pos h]

theorem evict_suffix (queue : List α) : evict fits queue <:+ queue := by
  induction queue with
  | nil => exact List.suffix_rfl
  | cons a queue ih =>
    rw [evict]
    split
    · exact List.suffix_rfl
    · exact ih.trans (List.suffix_cons a queue)

theorem fits_evict (hnil : fits []) (queue : List α) : fits (evict fits queue) := by
  induction queue with
  | nil => exact hnil
  | cons a queue ih =>
    rw [evict]
    split
    · next h => exact h
    · exact ih

/-- **No longer suffix fits.** -/
theorem suffix_evict (h : suffix <:+ queue) (hfits : fits suffix) : suffix <:+ evict fits queue := by
  induction queue with
  | nil => exact h
  | cons a queue ih =>
    rw [evict]
    split
    · exact h
    · next hnot =>
      rcases List.suffix_cons_iff.1 h with rfl | h
      · exact absurd hfits hnot
      · exact ih h

/-- What has gone before some arrivals would have gone with them, too. -/
theorem evict_evict_append (hshorter : ∀ queue arrivals, fits (queue ++ arrivals) → fits queue)
    (queue arrivals : List α) : evict fits (evict fits queue ++ arrivals) = evict fits (queue ++ arrivals) := by
  induction queue with
  | nil => rfl
  | cons b queue ih =>
    by_cases h : fits (b :: queue)
    · rw [evict_of_fits h]
    · have hlonger : ¬ fits (b :: (queue ++ arrivals)) := fun hfits => h (hshorter (b :: queue) arrivals hfits)
      rw [evict, if_neg h, ih, List.cons_append, evict, if_neg hlonger]

/-! ### A capacity -/

section Capacity

variable {capacity : ℕ}

theorem length_le_of_append (queue arrivals : List α) (h : (queue ++ arrivals).length ≤ capacity) :
    queue.length ≤ capacity := (List.sublist_append_left queue arrivals).length_le.trans h

theorem evict_length_le (queue : List α) :
    evict (fun queue => queue.length ≤ capacity) queue = queue.drop (queue.length - capacity) := by
  induction queue with
  | nil => rw [List.length_nil, Nat.zero_sub, evict, List.drop_zero]
  | cons a queue ih =>
    rw [evict]
    split
    · next h => rw [Nat.sub_eq_zero_of_le h, List.drop_zero]
    · next h =>
      have hdrop : (a :: queue).length - capacity = queue.length - capacity + 1 := by
        rw [List.length_cons] at h ⊢
        omega
      rw [ih, hdrop, List.drop_succ_cons]

theorem length_evict_le (queue : List α) : (evict (fun queue => queue.length ≤ capacity) queue).length ≤ capacity := by
  rw [evict_length_le, List.length_drop]
  omega

/-- **Room for one**, made in front of it. -/
theorem evict_lt_append (hcapacity : 0 < capacity) (queue : List α) (a : α) :
    evict (fun queue => queue.length < capacity) queue ++ [a]
      = evict (fun queue => queue.length ≤ capacity) (queue ++ [a]) := by
  induction queue with
  | nil =>
    have hfits : [a].length ≤ capacity := hcapacity
    rw [evict, List.nil_append, evict_of_fits hfits]
  | cons b queue ih =>
    have hlength : (b :: (queue ++ [a])).length = (b :: queue).length + 1 := by
      rw [List.length_cons, List.length_append, List.length_singleton, List.length_cons]
    by_cases h : (b :: queue).length < capacity
    · rw [evict, if_pos h, List.cons_append, evict_of_fits (by rw [hlength]; exact h)]
    · rw [evict, if_neg h, ih, List.cons_append, evict, if_neg (by rw [hlength]; exact h)]

end Capacity

/-! ### What becomes of the arrivals -/

/-- The elements that have left the queue, in order, each with the note of who has taken it, or with none where it was
dropped, and behind them those in the queue, are the arrivals. -/
def Accounts (left : List (α × Option β)) (queue arrivals : List α) : Prop := left.map Prod.fst ++ queue = arrivals

/-- The elements that have been taken. -/
def taken (left : List (α × Option β)) : List (α × β) := left.filterMap fun entry => entry.2.map (entry.1, ·)

variable {left : List (α × Option β)} {arrivals : List α}

theorem taken_append_taken (left : List (α × Option β)) (a : α) (note : β) :
    taken (left ++ [(a, some note)]) = taken left ++ [(a, note)] := by
  rw [taken, List.filterMap_append]
  rfl

theorem taken_append_dropped (left : List (α × Option β)) (dropped : List α) :
    taken (left ++ dropped.map (·, none)) = taken left := by
  have hnone : (dropped.map fun a => ((a, none) : α × Option β)).filterMap (fun e => e.2.map (e.1, ·)) = [] := by
    rw [List.filterMap_eq_nil_iff]
    intro entry hentry
    obtain ⟨a, -, rfl⟩ := List.mem_map.1 hentry
    rfl
  rw [taken, List.filterMap_append, hnone, List.append_nil]
  rfl

theorem Accounts.take {a : α} (h : Accounts left (a :: queue) arrivals) (note : β) :
    Accounts (left ++ [(a, some note)]) queue arrivals := by
  rw [Accounts, List.map_append, List.append_assoc]
  exact h

theorem Accounts.arrive (fits : List α → Prop) [DecidablePred fits] (h : Accounts left queue arrivals)
    (more : List α) :
    ∃ dropped : List α,
      Accounts (left ++ dropped.map (·, none)) (evict fits (queue ++ more)) (arrivals ++ more) := by
  have hsuffix : evict fits (queue ++ more) <:+ queue ++ more := evict_suffix (queue ++ more)
  obtain ⟨dropped, hdropped⟩ := hsuffix
  refine ⟨dropped, ?_⟩
  have hmap : (dropped.map fun a => ((a, none) : α × Option β)).map Prod.fst = dropped := by
    rw [List.map_map]
    exact List.map_id dropped
  rw [Accounts, List.map_append, hmap, List.append_assoc, hdropped, ← List.append_assoc]
  exact congrArg (· ++ more) h

theorem taken_sublist_left (left : List (α × Option β)) :
    ((taken left).map Prod.fst).Sublist (left.map Prod.fst) := by
  induction left with
  | nil => exact List.Sublist.slnil
  | cons entry left ih =>
    obtain ⟨a, note⟩ := entry
    cases note with
    | none => exact ih.cons a
    | some note => exact ih.cons_cons a

/-- **What has been taken** is taken in the order of the arrivals, and each at most once. -/
theorem Accounts.taken_sublist (h : Accounts left queue arrivals) : ((taken left).map Prod.fst).Sublist arrivals := by
  rw [← h]
  exact (taken_sublist_left left).trans (List.sublist_append_left ..)

end VianiumVoip.Lib.BoundedQueue
