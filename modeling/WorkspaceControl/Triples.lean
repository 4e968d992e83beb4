/-
**A logic of triples for routines.**

`Triple C pre x post err`: started with a local variable and a store that satisfy `pre`, the
routine `x` makes only calls that the contract `C` allows, ends well only where `post` holds and
leaves with an error only where `err` holds.  A contract fixes what the calls do, what the routine
may rely on and what it guarantees; the rules go by the shape of the routine, and none of them
looks at the store.

Main definitions: `Contract`, `Routine.Triple`.

Main results: `Routine.triple_bind`, the rule of sequences, with one rule for each way to build a
routine, and `Routine.Triple.conseq`, the rule of consequence.
-/

import WorkspaceControl.Interaction

set_option autoImplicit false

namespace Interaction

variable {S : Signature} {σ α β ω ε ε' : Type}

/-- What calls do, what may happen between them, and what the caller promises of them. -/
structure Contract (S : Signature) (σ : Type) where
  semantics : Semantics S σ
  rely : σ → σ → Prop
  guarantee : Semantics S σ

namespace Routine

/-- A postcondition for the two ways to end. -/
def Outcome (post : α → ω → σ → Prop) (err : ε → ω → σ → Prop) : Except ε α → ω → σ → Prop
  | .ok a => post a
  | .error e => err e

/-- **Triples**, with a postcondition for errors. -/
def Triple (C : Contract S σ) (pre : ω → σ → Prop) (x : Routine S ω ε α)
    (post : α → ω → σ → Prop) (err : ε → ω → σ → Prop) : Prop :=
  ∀ w s, pre w s → x.Holds C.semantics C.rely C.guarantee (Outcome post err) w s

section Rules

variable {C : Contract S σ} {pre pre' : ω → σ → Prop} {err err' : ε → ω → σ → Prop}
  {post post' : α → ω → σ → Prop} {x : Routine S ω ε α}

theorem Triple.conseq (h : Triple C pre x post err) (hpre : ∀ w s, pre' w s → pre w s)
    (hpost : ∀ a w s, post a w s → post' a w s) (herr : ∀ e w s, err e w s → err' e w s) :
    Triple C pre' x post' err' := by
  intro w s hs
  refine (h w s (hpre w s hs)).mono fun r w' s' hr => ?_
  cases r with
  | ok a => exact hpost a w' s' hr
  | error e => exact herr e w' s' hr

theorem Triple.strengthen (h : Triple C pre x post err) (hpre : ∀ w s, pre' w s → pre w s) :
    Triple C pre' x post err :=
  h.conseq hpre (fun _ _ _ => id) fun _ _ _ => id

theorem Triple.weaken (h : Triple C pre x post err)
    (hpost : ∀ a w s, post a w s → post' a w s) : Triple C pre x post' err :=
  h.conseq (fun _ _ => id) hpost fun _ _ _ => id

theorem triple_pure {a : α} (h : ∀ w s, pre w s → post a w s) :
    Triple C pre (pure a : Routine S ω ε α) post err := h

theorem triple_throw {e : ε} (h : ∀ w s, pre w s → err e w s) :
    Triple C pre (throw e : Routine S ω ε α) post err := h

theorem triple_modify {f : ω → ω} {post : Unit → ω → σ → Prop}
    (h : ∀ w s, pre w s → post () (f w) s) :
    Triple C pre (modify f : Routine S ω ε Unit) post err := h

theorem triple_attempt {f : ε' → ε} {r : Except ε' α}
    (hok : ∀ a, r = .ok a → ∀ w s, pre w s → post a w s)
    (herr : ∀ e, r = .error e → ∀ w s, pre w s → err (f e) w s) :
    Triple C pre (attempt f r : Routine S ω ε α) post err := by
  cases r with
  | ok a => exact hok a rfl
  | error e => exact herr e rfl

theorem triple_mapError {f : ε → ε'} {err : ε' → ω → σ → Prop}
    (h : Triple C pre x post fun e => err (f e)) : Triple C pre (mapError f x) post err := by
  intro w s hs
  rw [holds_mapError]
  refine (h w s hs).mono fun r w' s' hr => ?_
  cases r with
  | ok | error => exact hr

theorem triple_result {post : Except ε α → ω → σ → Prop} {err : ε' → ω → σ → Prop}
    (h : Triple C pre x (fun a => post (.ok a)) fun e => post (.error e)) :
    Triple C pre (result x : Routine S ω ε' (Except ε α)) post err := by
  intro w s hs
  rw [holds_result]
  refine (h w s hs).mono fun r w' s' hr => ?_
  cases r with
  | ok | error => exact hr

/-- A routine with a local variable of its own leaves the one of its caller alone. -/
theorem triple_scope {ω' : Type} {w' : ω'} {x : Routine S ω' ε α}
    (h : ∀ w s, pre w s → x.Holds C.semantics C.rely C.guarantee
      (fun r _ s' => Outcome post err r w s') w' s) :
    Triple C pre (scope w' x : Routine S ω ε α) post err := by
  intro w s hs
  rw [holds_scope]
  exact h w s hs

/-- **The rule of sequences.** -/
theorem triple_bind {f : α → Routine S ω ε β} {m : α → ω → σ → Prop}
    {post : β → ω → σ → Prop} (hx : Triple C pre x m err)
    (hf : ∀ a, Triple C (m a) (f a) post err) : Triple C pre (x >>= f) post err := by
  intro w s hs
  rw [holds_bind]
  refine (hx w s hs).mono fun r w' s' hr => ?_
  cases r with
  | ok a => exact hf a w' s' hr
  | error e => exact hr

theorem triple_read_bind {f : ω → Routine S ω ε β} {post : β → ω → σ → Prop}
    (h : ∀ w₀, Triple C (fun w s => w = w₀ ∧ pre w s) (f w₀) post err) :
    Triple C pre (read >>= f) post err := by
  have hread : Triple C pre (read : Routine S ω ε ω) (fun w₀ w s => w = w₀ ∧ pre w s) err :=
    fun w s hs => ⟨rfl, hs⟩
  exact triple_bind hread h

theorem triple_ite {p : Prop} [Decidable p] {y : Routine S ω ε α}
    (ht : p → Triple C pre x post err) (he : ¬ p → Triple C pre y post err) :
    Triple C pre (if p then x else y) post err := by
  split
  · exact ht ‹_›
  · exact he ‹_›

end Rules

end Routine

end Interaction
