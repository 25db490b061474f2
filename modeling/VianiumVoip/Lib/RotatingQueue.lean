import Mathlib.Data.List.Basic

/-!
# Queues that are rotated

A queue from whose front elements are taken until one is wanted; those that are not are put at the back again.  A search
through all of the queue takes out the first one that is wanted (`search_eq`), and the wanted ones stay in order
(`search_filter`), although the others do not.
-/

namespace VianiumVoip.Lib.RotatingQueue

variable {α : Type*} (wanted : α → Bool)

/-- Up to `pending` elements are taken from the front: the first one that is wanted, and the queue behind the search. -/
def search : (pending : ℕ) → List α → Option α × List α
  | 0, queue => (none, queue)
  | _ + 1, [] => (none, [])
  | pending + 1, a :: queue => if wanted a then (some a, queue) else search pending (queue ++ [a])

variable {wanted} {front back : List α}

/-- Elements that are not wanted are rotated to the back. -/
theorem search_append (h : ∀ a ∈ front, wanted a = false) (pending : ℕ) (back : List α) :
    search wanted (front.length + pending) (front ++ back) = search wanted pending (back ++ front) := by
  induction front generalizing back with
  | nil => simp
  | cons a front ih =>
    have ha : ¬ wanted a = true := by simp [h a List.mem_cons_self]
    have hfront : ∀ b ∈ front, wanted b = false := fun b hb => h b (List.mem_cons_of_mem a hb)
    rw [List.length_cons, Nat.succ_add, List.cons_append, search, if_neg ha, List.append_assoc, ih hfront]
    simp

theorem search_of_forall {queue : List α} (h : ∀ a ∈ queue, wanted a = false) :
    search wanted queue.length queue = (none, queue) := by
  have hsearch := search_append h 0 []
  rwa [List.append_nil, Nat.add_zero, List.nil_append] at hsearch

/-- **A search through all of the queue** takes the first element that is wanted. -/
theorem search_of_first {a : α} (hfront : ∀ b ∈ front, wanted b = false) (ha : wanted a = true) :
    search wanted (front ++ a :: back).length (front ++ a :: back) = (some a, back ++ front) := by
  rw [List.length_append, search_append hfront, List.length_cons, List.cons_append, search, if_pos ha]

theorem first_or_none (wanted : α → Bool) (queue : List α) :
    (∀ a ∈ queue, wanted a = false) ∨
      ∃ front a back, queue = front ++ a :: back ∧ (∀ b ∈ front, wanted b = false) ∧ wanted a = true := by
  induction queue with
  | nil => exact .inl fun a ha => absurd ha List.not_mem_nil
  | cons a queue ih =>
    cases ha : wanted a with
    | true => exact .inr ⟨[], a, queue, rfl, fun b hb => absurd hb List.not_mem_nil, ha⟩
    | false =>
      rcases ih with hnone | ⟨front, b, back, rfl, hfront, hb⟩
      · exact .inl (List.forall_mem_cons.2 ⟨ha, hnone⟩)
      · exact .inr ⟨a :: front, b, back, rfl, List.forall_mem_cons.2 ⟨ha, hfront⟩, hb⟩

/-- **The wanted elements stay in order**: the one that is found was the first of them. -/
theorem search_filter (wanted : α → Bool) (queue : List α) :
    (search wanted queue.length queue).1.toList ++ (search wanted queue.length queue).2.filter wanted
      = queue.filter wanted := by
  rcases first_or_none wanted queue with hnone | ⟨front, a, back, rfl, hfront, ha⟩
  · rw [search_of_forall hnone]
    rfl
  · have hempty : front.filter wanted = [] := by
      rw [List.filter_eq_nil_iff]
      intro b hb
      simp [hfront b hb]
    rw [search_of_first hfront ha, List.filter_append, List.filter_append, hempty, List.filter_cons_of_pos ha]
    simp

end VianiumVoip.Lib.RotatingQueue
