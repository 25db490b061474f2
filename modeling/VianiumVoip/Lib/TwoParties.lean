import VianiumVoip.Lib.Run

/-!
# Two parties and the network between them

Two deterministic machines that send each other messages.  The network between them loses, duplicates, delays and
reorders: what a party has sent may be heard any number of times, at any later moment, or never.  It may also bring
*foreign* messages, which neither of them has sent.

What a party promises is a contract (`Keeps`): as long as what it hears is as it assumes, it keeps its invariant, and
every message it sends is justified by what it has heard so far.  Where each party's promise is what the other assumes,
both hold along every run (`sound_run`).
-/

namespace VianiumVoip.Lib.TwoParties

open VianiumVoip.Lib.Run

/-- A party: what an input does to its state, the messages it sends on that, and the messages the input brings. -/
structure Party (σ ι μ : Type*) where
  step : σ → ι → σ
  sends : σ → ι → List μ
  hears : σ → ι → List μ

/-- The two parties, what each has sent to the other, and what each has heard. -/
structure Net (σ τ μ : Type*) where
  left : σ
  right : τ
  toRight : List μ := []
  toLeft : List μ := []
  heardLeft : List μ := []
  heardRight : List μ := []

variable {σ τ ι κ μ : Type*} (P : Party σ ι μ) (Q : Party τ κ μ)

namespace Net

/-- One of the two takes an input. -/
def step (n : Net σ τ μ) : ι ⊕ κ → Net σ τ μ
  | .inl i =>
    { n with
      left := P.step n.left i
      toRight := n.toRight ++ P.sends n.left i
      heardLeft := n.heardLeft ++ P.hears n.left i }
  | .inr k =>
    { n with
      right := Q.step n.right k
      toLeft := n.toLeft ++ Q.sends n.right k
      heardRight := n.heardRight ++ Q.hears n.right k }

end Net

variable {P Q}

/-- **The network.**  What an input brings has been sent by the other party, or is foreign. -/
def Delivers (P : Party σ ι μ) (Q : Party τ κ μ) (foreignLeft foreignRight : μ → Prop) (n : Net σ τ μ) : ι ⊕ κ → Prop
  | .inl i => ∀ m ∈ P.hears n.left i, m ∈ n.toLeft ∨ foreignLeft m
  | .inr k => ∀ m ∈ Q.hears n.right k, m ∈ n.toRight ∨ foreignRight m

/-- The inputs are allowed, too. -/
def Allows (allowedLeft : σ → ι → Prop) (allowedRight : τ → κ → Prop) (n : Net σ τ μ) : ι ⊕ κ → Prop
  | .inl i => allowedLeft n.left i
  | .inr k => allowedRight n.right k

/-- **What a party promises**, of its state with what it has heard and sent, and of each message with what was heard
before it: as long as the inputs are allowed and what they bring is as assumed. -/
structure Keeps (P : Party σ ι μ) (allowed : σ → ι → Prop) (Assumes : μ → Prop) (Inv : σ → List μ → List μ → Prop)
    (Justified : List μ → μ → Prop) : Prop where
  step : ∀ {s heard sent i}, Inv s heard sent → allowed s i → (∀ m ∈ P.hears s i, Assumes m) →
    Inv (P.step s i) (heard ++ P.hears s i) (sent ++ P.sends s i)
  sends : ∀ {s heard sent i}, Inv s heard sent → allowed s i → (∀ m ∈ P.hears s i, Assumes m) →
    ∀ m ∈ P.sends s i, Justified (heard ++ P.hears s i) m
  later : ∀ {heard m}, Justified heard m → ∀ more, Justified (heard ++ more) m

variable {allowedLeft : σ → ι → Prop} {allowedRight : τ → κ → Prop}
  {foreignLeft foreignRight AssumesLeft AssumesRight : μ → Prop} {InvLeft : σ → List μ → List μ → Prop}
  {InvRight : τ → List μ → List μ → Prop} {JustifiedLeft JustifiedRight : List μ → μ → Prop}

/-- **Both promises hold**: the invariants; what was sent is justified by what its sender has heard; and what was heard
has been sent, or is foreign. -/
structure Sound (foreignLeft foreignRight : μ → Prop) (InvLeft : σ → List μ → List μ → Prop)
    (InvRight : τ → List μ → List μ → Prop) (JustifiedLeft JustifiedRight : List μ → μ → Prop) (n : Net σ τ μ) :
    Prop where
  left : InvLeft n.left n.heardLeft n.toRight
  right : InvRight n.right n.heardRight n.toLeft
  toRight : ∀ m ∈ n.toRight, JustifiedLeft n.heardLeft m
  toLeft : ∀ m ∈ n.toLeft, JustifiedRight n.heardRight m
  heardLeft : ∀ m ∈ n.heardLeft, m ∈ n.toLeft ∨ foreignLeft m
  heardRight : ∀ m ∈ n.heardRight, m ∈ n.toRight ∨ foreignRight m

/-- **One step.** -/
theorem Sound.step (hleft : Keeps P allowedLeft AssumesLeft InvLeft JustifiedLeft)
    (hright : Keeps Q allowedRight AssumesRight InvRight JustifiedRight)
    (hassumesLeft : ∀ heard m, JustifiedRight heard m ∨ foreignLeft m → AssumesLeft m)
    (hassumesRight : ∀ heard m, JustifiedLeft heard m ∨ foreignRight m → AssumesRight m) {n : Net σ τ μ}
    (h : Sound foreignLeft foreignRight InvLeft InvRight JustifiedLeft JustifiedRight n) {i : ι ⊕ κ}
    (hallowed : Allows allowedLeft allowedRight n i) (hdelivers : Delivers P Q foreignLeft foreignRight n i) :
    Sound foreignLeft foreignRight InvLeft InvRight JustifiedLeft JustifiedRight (n.step P Q i) := by
  cases i with
  | inl i =>
    have hassumed : ∀ m ∈ P.hears n.left i, AssumesLeft m := fun m hm =>
      hassumesLeft n.heardRight m ((hdelivers m hm).imp_left (h.toLeft m))
    refine ⟨hleft.step h.left hallowed hassumed, h.right, fun m hm => ?_, h.toLeft, fun m hm => ?_, fun m hm => ?_⟩
    · rcases List.mem_append.1 hm with hm | hm
      · exact hleft.later (h.toRight m hm) _
      · exact hleft.sends h.left hallowed hassumed m hm
    · rcases List.mem_append.1 hm with hm | hm
      · exact h.heardLeft m hm
      · exact hdelivers m hm
    · exact (h.heardRight m hm).imp_left (List.mem_append_left _)
  | inr k =>
    have hassumed : ∀ m ∈ Q.hears n.right k, AssumesRight m := fun m hm =>
      hassumesRight n.heardLeft m ((hdelivers m hm).imp_left (h.toRight m))
    refine ⟨h.left, hright.step h.right hallowed hassumed, h.toRight, fun m hm => ?_, fun m hm => ?_, fun m hm => ?_⟩
    · rcases List.mem_append.1 hm with hm | hm
      · exact hright.later (h.toLeft m hm) _
      · exact hright.sends h.right hallowed hassumed m hm
    · exact (h.heardLeft m hm).imp_left (List.mem_append_left _)
    · rcases List.mem_append.1 hm with hm | hm
      · exact h.heardRight m hm
      · exact hdelivers m hm

/-- **The rule for runs.**  Each party's promise is what the other assumes, and what is foreign is as assumed. -/
theorem sound_run (hleft : Keeps P allowedLeft AssumesLeft InvLeft JustifiedLeft)
    (hright : Keeps Q allowedRight AssumesRight InvRight JustifiedRight)
    (hassumesLeft : ∀ heard m, JustifiedRight heard m ∨ foreignLeft m → AssumesLeft m)
    (hassumesRight : ∀ heard m, JustifiedLeft heard m ∨ foreignRight m → AssumesRight m) {n : Net σ τ μ}
    (h : Sound foreignLeft foreignRight InvLeft InvRight JustifiedLeft JustifiedRight n) {is : List (ι ⊕ κ)}
    (hrun : Guarded (Net.step P Q)
      (fun n i => Allows allowedLeft allowedRight n i ∧ Delivers P Q foreignLeft foreignRight n i) n is) :
    Sound foreignLeft foreignRight InvLeft InvRight JustifiedLeft JustifiedRight (run (Net.step P Q) n is) :=
  invariant_run (fun _ _ hsound hi => hsound.step hleft hright hassumesLeft hassumesRight hi.1 hi.2) h hrun

theorem sound_start {left : σ} {right : τ} (hleft : InvLeft left [] []) (hright : InvRight right [] []) :
    Sound foreignLeft foreignRight InvLeft InvRight JustifiedLeft JustifiedRight
      ({ left := left, right := right } : Net σ τ μ) where
  left := hleft
  right := hright
  toRight := fun _ hm => absurd hm List.not_mem_nil
  toLeft := fun _ hm => absurd hm List.not_mem_nil
  heardLeft := fun _ hm => absurd hm List.not_mem_nil
  heardRight := fun _ hm => absurd hm List.not_mem_nil

end VianiumVoip.Lib.TwoParties
