/-
**Programs that call a shared store.**

A program either is done with a value or makes one call and goes on with the response.  What a
call does to the store is a relation, so that the store may answer in several ways: a transaction
can commit or fail, a remote service can say anything.  `Program.Meets` is the weakest
precondition of a program run in small steps, with a *rely* (what may happen to the store between
two calls of the program) and a *guarantee* (what every call of the program does to the store).
Run alone the rely is equality; next to other programs it is what those guarantee.

A `Routine` is a program with a mutable local variable and an error exit which keeps the last
value of the variable: this is the shape of an `async fn` that borrows a value mutably and leaves
with `?`.

Main definitions:

* `Program`, `Program.Reaches`, `Program.Meets` — programs, the stores seen while one runs alone,
  and the weakest precondition with interference;
* `Routine`, `Routine.Holds`, `Routine.Always` — routines, their weakest precondition, and what
  every call of one does;
* `System`, `System.Step` — many programs over one store, started, stepped and stopped in any
  order, with steps of the environment in between.

Main results:

* `Program.meets_bind`, `Routine.holds_bind` — the precondition of a sequence;
* `Program.Meets.and_invariant`, `Program.Meets.of_image`, `Program.Meets.of_link` — invariants,
  stores that forget, and ghost state;
* `System.RelyGuarantee.invariant_of_steps` — **the rely-guarantee rule**: if every program meets its
  guarantee under what the others guarantee, the invariant holds in every reachable store;
* `System.RelyGuarantee.ensures_of_step` — the rule for a relation between the stores before and
  after each step.
-/
import Mathlib.Logic.Relation
import Mathlib.Logic.Function.Basic

set_option autoImplicit false

namespace Interaction

/-- The calls programs make, with the type of the response to each. -/
structure Signature where
  Call : Type
  Response : Call → Type

variable {S : Signature} {σ ι α β ω ε : Type}

/-! ### Programs -/

/-- A program over the calls of `S` which ends with a value of type `α`. -/
inductive Program (S : Signature) (α : Type) : Type
  | done (a : α)
  | call (c : S.Call) (next : S.Response c → Program S α)

/-- What a call may do: the store before, the call, its response and the store after. -/
abbrev Semantics (S : Signature) (σ : Type) : Type :=
  σ → (c : S.Call) → S.Response c → σ → Prop

variable {ε' : Type}

namespace Program

/-- Sequential composition. -/
def bind : Program S α → (α → Program S β) → Program S β
  | done a, f => f a
  | call c next, f => call c fun r => (next r).bind f

instance : Monad (Program S) where
  pure := done
  bind := bind

/-- The program that makes one call and returns the response. -/
def perform (c : S.Call) : Program S (S.Response c) := call c done

@[simp] theorem call_bind (c : S.Call) (next : S.Response c → Program S α)
    (f : α → Program S β) : (call c next >>= f) = call c fun r => next r >>= f := rfl

/-- The stores seen while the program runs alone: at any point it may be cut off. -/
inductive Reaches (sem : Semantics S σ) : Program S α → σ → σ → Prop
  | here (p : Program S α) (s : σ) : Reaches sem p s s
  | step {c : S.Call} {next : S.Response c → Program S α} {r : S.Response c} {s s₁ s₂ : σ}
      (hcall : sem s c r s₁) (hrest : Reaches sem (next r) s₁ s₂) :
      Reaches sem (call c next) s s₂

/-- Running a program against a function that answers its calls. -/
def interpret (answer : σ → (c : S.Call) → S.Response c × σ) : Program S α → σ → α × σ
  | done a, s => (a, s)
  | call c next, s => interpret answer (next (answer s c).1) (answer s c).2

/-- What an answering function computes is a run, when its answers are possible ones. -/
theorem reaches_interpret {sem : Semantics S σ}
    {answer : σ → (c : S.Call) → S.Response c × σ}
    (hsem : ∀ s c, sem s c (answer s c).1 (answer s c).2) (p : Program S α) (s : σ) :
    p.Reaches sem s (p.interpret answer s).2 := by
  induction p generalizing s with
  | done a => exact .here _ _
  | call c next ih => exact .step (hsem s c) (ih _ _)

/-- The first calls of a program: what is left of it, and the store. -/
def advance (answer : σ → (c : S.Call) → S.Response c × σ) :
    Nat → Program S α → σ → Program S α × σ
  | 0, p, s => (p, s)
  | _ + 1, done a, s => (done a, s)
  | n + 1, call c next, s => advance answer n (next (answer s c).1) (answer s c).2

/-! ### Weakest preconditions -/

/-- **The weakest precondition under interference.**  Between two calls the store moves along
`rely`; every call does what `guar` says; a program that is done has established `post`. -/
def Meets (sem : Semantics S σ) (rely : σ → σ → Prop) (guar : Semantics S σ)
    (post : α → σ → Prop) : Program S α → σ → Prop
  | done a, s => post a s
  | call c next, s => ∀ s₁, rely s s₁ → ∀ r s₂, sem s₁ c r s₂ →
      guar s₁ c r s₂ ∧ (next r).Meets sem rely guar post s₂

section Meets

variable {sem guar : Semantics S σ} {rely : σ → σ → Prop} {post : α → σ → Prop}

theorem meets_call (c : S.Call) (next : S.Response c → Program S α) (s : σ) :
    (call c next).Meets sem rely guar post s ↔ ∀ s₁, rely s s₁ → ∀ r s₂, sem s₁ c r s₂ →
      guar s₁ c r s₂ ∧ (next r).Meets sem rely guar post s₂ := Iff.rfl

/-- The precondition of a sequence is the precondition of its first part for that of its rest. -/
theorem meets_bind (p : Program S α) (f : α → Program S β) (post : β → σ → Prop) (s : σ) :
    (p >>= f).Meets sem rely guar post s ↔
      p.Meets sem rely guar (fun a s' => (f a).Meets sem rely guar post s') s := by
  induction p generalizing s with
  | done a => rfl
  | call c next ih =>
    rw [call_bind, meets_call, meets_call]
    simp only [ih]

variable {I : σ → Prop} {P : S.Call → Prop} {Q : α → Prop} {p : Program S α}

variable {s s' : σ}

theorem Meets.mono {post' : α → σ → Prop} (h : p.Meets sem rely guar post s)
    (hpost : ∀ a s', post a s' → post' a s') :
    p.Meets sem rely guar post' s := by
  induction p generalizing s with
  | done a => exact hpost a s h
  | call c next ih =>
    intro s₁ hrely r s₂ hcall
    obtain ⟨hguar, hnext⟩ := h s₁ hrely r s₂ hcall
    exact ⟨hguar, ih r hnext⟩

theorem Meets.mono_guar {guar' : Semantics S σ} (h : p.Meets sem rely guar post s)
    (hguar : ∀ s₁ c r s₂, guar s₁ c r s₂ → guar' s₁ c r s₂) : p.Meets sem rely guar' post s := by
  induction p generalizing s with
  | done a => exact h
  | call c next ih =>
    intro s₁ hrely r s₂ hcall
    obtain ⟨hstep, hnext⟩ := h s₁ hrely r s₂ hcall
    exact ⟨hguar s₁ c r s₂ hstep, ih r hnext⟩

/-- A program that has not started yet does not mind interference before its first call, as long
as its postcondition does not. -/
theorem Meets.stable (h : p.Meets sem rely guar post s)
    (htrans : ∀ s₁ s₂ s₃, rely s₁ s₂ → rely s₂ s₃ → rely s₁ s₃) (hpost : ∀ a, post a s → post a s')
    (hrely : rely s s') :
    p.Meets sem rely guar post s' := by
  cases p with
  | done a => exact hpost a h
  | call c next =>
    intro s₁ hs₁
    exact h s₁ (htrans _ _ _ hrely hs₁)

/-- **The invariant rule**: what every step that does as guaranteed keeps, and interference keeps
too, may be added to the guarantee and to the postcondition. -/
theorem Meets.and_invariant (h : p.Meets sem rely guar post s) (hI : I s)
    (hrely : ∀ s₁ s₂, I s₁ → rely s₁ s₂ → I s₂)
    (hstep : ∀ s₁ c r s₂, I s₁ → sem s₁ c r s₂ → guar s₁ c r s₂ → I s₂) :
    p.Meets sem rely (fun s₁ c r s₂ => guar s₁ c r s₂ ∧ I s₁ ∧ I s₂)
      (fun a s' => post a s' ∧ I s') s := by
  induction p generalizing s with
  | done a => exact ⟨h, hI⟩
  | call c next ih =>
    intro s₁ hs₁ r s₂ hcall
    obtain ⟨hguar, hnext⟩ := h s₁ hs₁ r s₂ hcall
    have hI₁ := hrely s s₁ hI hs₁
    have hI₂ := hstep s₁ c r s₂ hI₁ hcall hguar
    exact ⟨⟨hguar, hI₁, hI₂⟩, ih r hnext hI₂⟩

/-- **Simulation**: a program meets over a store what it meets over an image of the store, when
every call and all interference have an image. -/
theorem Meets.of_image {τ : Type} {sem' guar' : Semantics S τ} {rely' : τ → τ → Prop}
    {post' : α → τ → Prop} (image : σ → τ) (h : p.Meets sem' rely' guar' post' (image s))
    (hrely : ∀ s₁ s₂, rely s₁ s₂ → rely' (image s₁) (image s₂))
    (hsem : ∀ s₁ c r s₂, sem s₁ c r s₂ → sem' (image s₁) c r (image s₂)) :
    p.Meets sem rely (fun s₁ c r s₂ => guar' (image s₁) c r (image s₂))
      (fun a s' => post' a (image s')) s := by
  induction p generalizing s with
  | done a => exact h
  | call c next ih =>
    intro s₁ hs₁ r s₂ hcall
    obtain ⟨hguar, hnext⟩ := h _ (hrely s s₁ hs₁) r _ (hsem s₁ c r s₂ hcall)
    exact ⟨hguar, ih r hnext⟩

/-- **Ghost state**: what a program meets over a ghost that records its calls it meets over the
store, as long as a link between the two is kept by interference and by every call that does to
the ghost as guaranteed. -/
theorem Meets.of_link {γ : Type} {sem' guar' : Semantics S γ} {post' : α → γ → Prop}
    {L : σ → γ → Prop} (after : γ → (c : S.Call) → S.Response c → γ) {g : γ}
    (h : p.Meets sem' Eq guar' post' g) (hlink : L s g)
    (hrely : ∀ s s₁ g, L s g → rely s s₁ → L s₁ g)
    (hcall : ∀ s c r s₁ g, L s g → sem s c r s₁ → sem' g c r (after g c r) ∧
      (guar' g c r (after g c r) → guar s c r s₁ ∧ L s₁ (after g c r)))
    (hpost : ∀ a s g, L s g → post' a g → post a s) : p.Meets sem rely guar post s := by
  induction p generalizing s g with
  | done a => exact hpost a s g hlink h
  | call c next ih =>
    intro s₁ hs₁ r s₂ hsem
    obtain ⟨hsem', hkept⟩ := hcall s₁ c r s₂ g (hrely s s₁ g hlink hs₁) hsem
    obtain ⟨hguar', hnext⟩ := h g rfl r _ hsem'
    obtain ⟨hguar, hlink'⟩ := hkept hguar'
    exact ⟨hguar, ih r hnext hlink'⟩

/-- The guarantee of a call may speak of what the call does. -/
theorem Meets.with_semantics (h : p.Meets sem rely guar post s) :
    p.Meets sem rely (fun s₁ c r s₂ => guar s₁ c r s₂ ∧ sem s₁ c r s₂) post s := by
  induction p generalizing s with
  | done a => exact h
  | call c next ih =>
    intro s₁ hs₁ r s₂ hcall
    obtain ⟨hguar, hnext⟩ := h s₁ hs₁ r s₂ hcall
    exact ⟨⟨hguar, hcall⟩, ih r hnext⟩

/-- Run alone, a program whose calls keep `I` sees only stores that satisfy `I`. -/
theorem Meets.invariant_of_reaches (h : p.Meets sem Eq (fun _ _ _ s₂ => I s₂) post s) (hI : I s)
    (hrun : p.Reaches sem s s') :
    I s' := by
  induction hrun with
  | here p s => exact hI
  | step hcall hrest ih =>
    obtain ⟨hguar, hnext⟩ := h _ rfl _ _ hcall
    exact ih hnext hguar

/-- Whatever the store answers, the program makes only calls that satisfy `P`, and ends with a
value that satisfies `Q`. -/
def Yields (P : S.Call → Prop) (Q : α → Prop) : Program S α → Prop
  | done a => Q a
  | call c next => P c ∧ ∀ r, (next r).Yields P Q

theorem yields_bind {Q' : β → Prop} {f : α → Program S β} (h : p.Yields P Q)
    (hf : ∀ a, Q a → (f a).Yields P Q') :
    (p >>= f).Yields P Q' := by
  induction p with
  | done a => exact hf a h
  | call c next ih => exact ⟨h.1, fun r => ih r (h.2 r)⟩

theorem Yields.mono {Q Q' : α → Prop} (h : p.Yields P Q) (hQ : ∀ a, Q a → Q' a) :
    p.Yields P Q' := by
  induction p with
  | done a => exact hQ a h
  | call c next ih => exact ⟨h.1, fun r => ih r (h.2 r)⟩

theorem Yields.mono_calls {P P' : S.Call → Prop} (h : p.Yields P Q) (hP : ∀ c, P c → P' c) :
    p.Yields P' Q := by
  induction p with
  | done a => exact h
  | call c next ih => exact ⟨hP c h.1, fun r => ih r (h.2 r)⟩

theorem Yields.meets (h : p.Yields P Q) (s : σ) :
    p.Meets sem rely (fun _ c _ _ => P c) (fun a _ => Q a) s := by
  induction p generalizing s with
  | done a => exact h
  | call c next ih => exact fun s₁ _ r s₂ _ => ⟨h.1, ih r (h.2 r) s₂⟩

/-- A program of harmless calls, next to a fact that interference and harmless calls keep. -/
theorem Yields.meets_keeping {J : σ → Prop} (h : p.Yields P Q) (hJ : J s)
    (hcall : ∀ s s₁ c r s₂, J s → rely s s₁ → P c → sem s₁ c r s₂ → guar s₁ c r s₂ ∧ J s₂)
    (hpost : ∀ a s, J s → Q a → post a s) : p.Meets sem rely guar post s := by
  induction p generalizing s with
  | done a => exact hpost a s hJ h
  | call c next ih =>
    intro s₁ hs₁ r s₂ hsem
    obtain ⟨hguar, hJ₂⟩ := hcall s s₁ c r s₂ hJ hs₁ h.1 hsem
    exact ⟨hguar, ih r (h.2 r) hJ₂⟩

/-- What interference leaves may be used to show the guarantee. -/
theorem Meets.of_rely (h : p.Meets sem rely (fun s₁ c r s₂ => I s₁ → guar s₁ c r s₂) post s)
    (hrely : ∀ s s₁, rely s s₁ → I s₁) : p.Meets sem rely guar post s := by
  induction p generalizing s with
  | done a => exact h
  | call c next ih =>
    intro s₁ hs₁ r s₂ hcall
    obtain ⟨hguar, hnext⟩ := h s₁ hs₁ r s₂ hcall
    exact ⟨hguar (hrely s s₁ hs₁), ih r hnext⟩

end Meets

end Program

/-! ### Routines -/

/-- A fallible program with a mutable local variable of type `ω`, whose last value survives an
error exit. -/
def Routine (S : Signature) (ω ε α : Type) : Type := ω → Program S (Except ε α × ω)

namespace Routine

/-- Go on after a routine has ended: only when it ended well. -/
def resume (f : α → Routine S ω ε β) : Except ε α × ω → Program S (Except ε β × ω)
  | (.ok a, w) => f a w
  | (.error e, w) => .done (.error e, w)

instance : Monad (Routine S ω ε) where
  pure a := fun w => .done (.ok a, w)
  bind x f := fun w => x w >>= resume f

/-- Leave with an error. -/
def throw (e : ε) : Routine S ω ε α := fun w => .done (.error e, w)

/-- Read the local variable. -/
def read : Routine S ω ε ω := fun w => .done (.ok w, w)

/-- Change the local variable. -/
def modify (f : ω → ω) : Routine S ω ε Unit := fun w => .done (.ok (), f w)

/-- Make a call. -/
def perform (c : S.Call) : Routine S ω ε (S.Response c) :=
  fun w => .call c fun r => .done (.ok r, w)

/-- Go on with the value of a result, or leave with its error translated: the `?` operator. -/
def attempt {ε' : Type} (f : ε' → ε) : Except ε' α → Routine S ω ε α
  | .ok a => pure a
  | .error e => throw (f e)

/-- Translate the error. -/
def mapError {ε' : Type} (f : ε → ε') (x : Routine S ω ε α) : Routine S ω ε' α :=
  fun w => x w >>= fun a => .done (a.1.mapError f, a.2)

/-- The result of a routine as a value, which the caller may inspect. -/
def result {ε' : Type} (x : Routine S ω ε α) : Routine S ω ε' (Except ε α) :=
  fun w => x w >>= fun a => .done (.ok a.1, a.2)

/-- Run a routine with a local variable of its own. -/
def scope {ω' : Type} (w' : ω') (x : Routine S ω' ε α) : Routine S ω ε α :=
  fun w => x w' >>= fun a => .done (a.1, w)

/-- **The weakest precondition of a routine**; the postcondition sees the result, the local
variable and the store. -/
def Holds (sem : Semantics S σ) (rely : σ → σ → Prop) (guar : Semantics S σ)
    (x : Routine S ω ε α) (post : Except ε α → ω → σ → Prop) (w : ω) (s : σ) : Prop :=
  (x w).Meets sem rely guar (fun a s' => post a.1 a.2 s') s

section Holds

variable {sem guar : Semantics S σ} {rely : σ → σ → Prop} {w : ω} {s : σ}

@[simp] theorem holds_pure (a : α) (post : Except ε α → ω → σ → Prop) :
    Holds sem rely guar (pure a) post w s ↔ post (.ok a) w s := Iff.rfl

@[simp] theorem holds_throw (e : ε) (post : Except ε α → ω → σ → Prop) :
    Holds sem rely guar (throw e) post w s ↔ post (.error e) w s := Iff.rfl

@[simp] theorem holds_attempt_ok (f : ε' → ε) (a : α) (post : Except ε α → ω → σ → Prop) :
    Holds sem rely guar (attempt f (.ok a)) post w s ↔ post (.ok a) w s := Iff.rfl

@[simp] theorem holds_attempt_error (f : ε' → ε) (e : ε') (post : Except ε α → ω → σ → Prop) :
    Holds sem rely guar (attempt f (.error e)) post w s ↔ post (.error (f e)) w s := Iff.rfl

theorem holds_mapError (f : ε → ε') (x : Routine S ω ε α) (post : Except ε' α → ω → σ → Prop) :
    Holds sem rely guar (mapError f x) post w s ↔
      Holds sem rely guar x (fun r w' s' => post (r.mapError f) w' s') w s :=
  Program.meets_bind (x w) _ _ s

theorem holds_result (x : Routine S ω ε α) (post : Except ε' (Except ε α) → ω → σ → Prop) :
    Holds sem rely guar (result x) post w s ↔
      Holds sem rely guar x (fun r w' s' => post (.ok r) w' s') w s :=
  Program.meets_bind (x w) _ _ s

theorem holds_scope {ω' : Type} (w' : ω') (x : Routine S ω' ε α)
    (post : Except ε α → ω → σ → Prop) :
    Holds sem rely guar (scope w' x) post w s ↔
      Holds sem rely guar x (fun r _ s' => post r w s') w' s :=
  Program.meets_bind (x w') _ _ s

/-- What is left to show of the continuation of a sequence: on an error there is none. -/
def Continues (sem : Semantics S σ) (rely : σ → σ → Prop) (guar : Semantics S σ)
    (f : α → Routine S ω ε β) (post : Except ε β → ω → σ → Prop) : Except ε α → ω → σ → Prop
  | .ok a, w, s => Holds sem rely guar (f a) post w s
  | .error e, w, s => post (.error e) w s

@[simp] theorem continues_ok (f : α → Routine S ω ε β) (post : Except ε β → ω → σ → Prop)
    (a : α) : Continues sem rely guar f post (.ok a) w s ↔
      Holds sem rely guar (f a) post w s := Iff.rfl

theorem holds_bind (x : Routine S ω ε α) (f : α → Routine S ω ε β)
    (post : Except ε β → ω → σ → Prop) :
    Holds sem rely guar (x >>= f) post w s ↔
      Holds sem rely guar x (Continues sem rely guar f post) w s := by
  have hresume : ∀ (a : Except ε α × ω) (s' : σ),
      (resume f a).Meets sem rely guar (fun b s'' => post b.1 b.2 s'') s' ↔
        Continues sem rely guar f post a.1 a.2 s' := by
    rintro ⟨_ | _, _⟩ s' <;> rfl
  refine (Program.meets_bind (x w) (resume f) _ s).trans ?_
  exact ⟨fun h => h.mono fun a s' => (hresume a s').1,
    fun h => h.mono fun a s' => (hresume a s').2⟩

/-- Whatever the store answers, the routine makes only calls that satisfy `P`, and ends with a
result that satisfies `Q`. -/
def Yields (P : S.Call → Prop) (Q : Except ε α → Prop) (x : Routine S ω ε α) : Prop :=
  ∀ w, (x w).Yields P fun a => Q a.1

section Yields

variable {P : S.Call → Prop} {Q : Except ε α → Prop} {Q' : Except ε β → Prop}

variable {x : Routine S ω ε α}

theorem Yields.mono {Q'' : Except ε α → Prop} (h : Yields P Q x) (hQ : ∀ r, Q r → Q'' r) :
    Yields P Q'' x :=
  fun w => Program.Yields.mono (h w) fun a => hQ a.1

theorem Yields.mono_calls {P' : S.Call → Prop} (h : Yields P Q x) (hP : ∀ c, P c → P' c) :
    Yields P' Q x :=
  fun w => Program.Yields.mono_calls (h w) hP

theorem yields_pure {a : α} (h : Q (.ok a)) : Yields P Q (pure a : Routine S ω ε α) := fun _ => h

theorem yields_throw {e : ε} (h : Q (.error e)) : Yields P Q (throw e : Routine S ω ε α) :=
  fun _ => h

theorem yields_attempt {f : ε' → ε} {r : Except ε' α} (h : Q (r.mapError f)) :
    Yields P Q (attempt f r : Routine S ω ε α) := by
  cases r with
  | ok | error => exact fun _ => h

theorem yields_bind {f : α → Routine S ω ε β} (hx : Yields P Q x)
    (hf : ∀ a, Q (.ok a) → Yields P Q' (f a)) (he : ∀ e, Q (.error e) → Q' (.error e)) :
    Yields P Q' (x >>= f) := by
  intro w
  refine Program.yields_bind (hx w) ?_
  rintro ⟨_ | a, w'⟩ h
  · exact he _ h
  · exact hf a h w'

theorem yields_mapError {f : ε → ε'} {Q' : Except ε' α → Prop}
    (h : Yields P (fun r => Q' (r.mapError f)) x) : Yields P Q' (mapError f x) :=
  fun w => Program.yields_bind (h w) fun _ ha => ha

theorem yields_result {Q' : Except ε' (Except ε α) → Prop} (h : Yields P (fun r => Q' (.ok r)) x) :
    Yields P Q' (result x) :=
  fun w => Program.yields_bind (h w) fun _ ha => ha

theorem Yields.holds (h : Yields P Q x) (w : ω) (s : σ) :
    Holds sem rely (fun _ c _ _ => P c) x (fun r _ _ => Q r) w s :=
  (h w).meets s

end Yields

theorem Holds.mono {x : Routine S ω ε α} {post post' : Except ε α → ω → σ → Prop}
    (h : Holds sem rely guar x post w s)
    (hpost : ∀ r w' s', post r w' s' → post' r w' s') : Holds sem rely guar x post' w s :=
  Program.Meets.mono h fun a s' => hpost a.1 a.2 s'

section Always

variable {x : Routine S ω ε α}

/-- Every call of the routine does what `guar` says, from any store. -/
def Always (sem : Semantics S σ) (rely : σ → σ → Prop) (guar : Semantics S σ)
    (x : Routine S ω ε α) : Prop :=
  ∀ w s, Holds sem rely guar x (fun _ _ _ => True) w s

theorem always_pure (a : α) : Always sem rely guar (pure a : Routine S ω ε α) :=
  fun _ _ => trivial

theorem always_throw (e : ε) : Always sem rely guar (throw e : Routine S ω ε α) :=
  fun _ _ => trivial

theorem always_attempt (f : ε' → ε) (r : Except ε' α) :
    Always sem rely guar (attempt f r : Routine S ω ε α) := by
  cases r with
  | ok | error => exact fun _ _ => trivial

theorem always_bind {f : α → Routine S ω ε β} (hx : Always sem rely guar x)
    (hf : ∀ a, Always sem rely guar (f a)) : Always sem rely guar (x >>= f) := by
  intro w s
  refine (holds_bind _ _ _).2 ((hx w s).mono fun r w' s' _ => ?_)
  cases r with
  | ok a => exact hf a w' s'
  | error e => trivial

theorem always_result (hx : Always sem rely guar x) :
    Always sem rely guar (result x : Routine S ω ε' (Except ε α)) :=
  fun w s => (holds_result _ _).2 (hx w s)

/-- A routine all of whose calls are of a class that does what `guar` says. -/
theorem Yields.always {P : S.Call → Prop} {Q : Except ε α → Prop} (h : Yields P Q x)
    (hguar : ∀ s c r s', P c → sem s c r s' → guar s c r s') : Always sem rely guar x := by
  intro w s
  have hcalls : Holds sem rely (fun _ c _ _ => P c) x (fun _ _ _ => True) w s :=
    (h.holds w s).mono fun _ _ _ _ => trivial
  exact hcalls.with_semantics.mono_guar fun s₁ c r s₂ hs => hguar s₁ c r s₂ hs.1 hs.2

end Always

end Holds

end Routine

/-! ### Many programs over one store -/

/-- A system of programs: what the calls of each do, what the environment may do, and which
programs may be started for each identity. -/
structure System (S : Signature) (σ ι : Type) where
  semantics : ι → Semantics S σ
  environment : σ → σ → Prop
  start : ι → Program S Unit → Prop

/-- The store and the programs in flight, at most one for an identity. -/
structure Configuration (S : Signature) (σ ι : Type) where
  store : σ
  running : ι → Option (Program S Unit)

namespace System

variable [DecidableEq ι]

/-- One step: of the environment, the start of a program, one call of a program in flight, or its
end (it is done, or its process is gone). -/
inductive Step (M : System S σ ι) : Configuration S σ ι → Configuration S σ ι → Prop
  | environment {s s' : σ} {running : ι → Option (Program S Unit)}
      (henv : M.environment s s') : Step M ⟨s, running⟩ ⟨s', running⟩
  | start {s : σ} {running : ι → Option (Program S Unit)} (i : ι) (p : Program S Unit)
      (hidle : running i = none) (hstart : M.start i p) :
      Step M ⟨s, running⟩ ⟨s, Function.update running i (some p)⟩
  | call {s s' : σ} {running : ι → Option (Program S Unit)} (i : ι) (c : S.Call)
      (next : S.Response c → Program S Unit) (r : S.Response c)
      (hrunning : running i = some (.call c next)) (hcall : M.semantics i s c r s') :
      Step M ⟨s, running⟩ ⟨s', Function.update running i (some (next r))⟩
  | stop {s : σ} {running : ι → Option (Program S Unit)} (i : ι) :
      Step M ⟨s, running⟩ ⟨s, Function.update running i none⟩

/-- Any number of steps. -/
def Steps (M : System S σ ι) : Configuration S σ ι → Configuration S σ ι → Prop :=
  Relation.ReflTransGen M.Step

variable {answer : σ → (c : S.Call) → S.Response c × σ} {i : ι} {p : Program S Unit}
  {running : ι → Option (Program S Unit)} {s : σ}

/-- The first calls of a program in flight are steps, when the answers are possible ones. -/
theorem steps_advance {M : System S σ ι}
    (hsem : ∀ s c, M.semantics i s c (answer s c).1 (answer s c).2) (n : Nat) (p : Program S Unit)
    (s : σ) (running : ι → Option (Program S Unit)) :
    M.Steps ⟨s, Function.update running i (some p)⟩
      ⟨(p.advance answer n s).2, Function.update running i (some (p.advance answer n s).1)⟩ := by
  induction n generalizing p s with
  | zero => exact .refl
  | succ n ih =>
    cases p with
    | done a => exact .refl
    | call c next =>
      refine Relation.ReflTransGen.head ?_ (ih (next (answer s c).1) (answer s c).2)
      have hrunning : Function.update running i (some (.call c next)) i = some (.call c next) :=
        Function.update_self ..
      have hstep := Step.call i c next (answer s c).1 hrunning (hsem s c)
      rwa [Function.update_idem] at hstep

theorem steps_run {M : System S σ ι} (hsem : ∀ s c, M.semantics i s c (answer s c).1 (answer s c).2)
    (n : Nat) (hstart : M.start i p) (s : σ) (hidle : running i = none) :
    M.Steps ⟨s, running⟩ ⟨(p.advance answer n s).2, running⟩ := by
  refine .head (.start i p hidle hstart) ((steps_advance hsem n p s running).tail ?_)
  have hstop : M.Step
      ⟨(p.advance answer n s).2, Function.update running i (some (p.advance answer n s).1)⟩
      ⟨(p.advance answer n s).2, Function.update (Function.update running i
        (some (p.advance answer n s).1)) i none⟩ := .stop i
  have hrestored : Function.update running i none = running :=
    Function.update_eq_self_iff.2 hidle.symm
  rwa [Function.update_idem, hrestored] at hstop

/-- What has to be shown of a system: each program, started in any store that satisfies the
invariant, keeps the invariant and the relies of the others, relying on its own; and so does the
environment. -/
structure RelyGuarantee (M : System S σ ι) (I : σ → Prop) (R : ι → σ → σ → Prop) : Prop where
  refl : ∀ i s, R i s s
  trans : ∀ i s₁ s₂ s₃, R i s₁ s₂ → R i s₂ s₃ → R i s₁ s₃
  environment : ∀ s s', I s → M.environment s s' → I s' ∧ ∀ i, R i s s'
  start : ∀ i p s, I s → M.start i p → p.Meets (M.semantics i) (fun s₁ s₂ => R i s₁ s₂ ∧ I s₂)
    (fun s₁ _ _ s₂ => I s₂ ∧ ∀ j, j ≠ i → R j s₁ s₂) (fun _ _ => True) s

variable {M : System S σ ι} {I : σ → Prop} {R : ι → σ → σ → Prop}

/-- Every program in flight still guarantees `G` of its calls. -/
def InFlight (M : System S σ ι) (I : σ → Prop) (R G : ι → σ → σ → Prop)
    (C : Configuration S σ ι) : Prop :=
  ∀ i p, C.running i = some p → p.Meets (M.semantics i) (fun s₁ s₂ => R i s₁ s₂ ∧ I s₂)
    (fun s₁ _ _ s₂ => G i s₁ s₂) (fun _ _ => True) C.store

/-- The invariant of the configurations: that of the store, and every program in flight still
meets its guarantee. -/
def Sound (M : System S σ ι) (I : σ → Prop) (R : ι → σ → σ → Prop)
    (C : Configuration S σ ι) : Prop :=
  I C.store ∧ M.InFlight I R (fun i s₁ s₂ => I s₂ ∧ ∀ j, j ≠ i → R j s₁ s₂) C

/-- The program an identity runs after one slot was overwritten. -/
theorem eq_or_ne_of_update_eq_some {i j : ι} {o : Option (Program S Unit)}
    (h : Function.update running i o j = some p) :
    (j = i ∧ o = some p) ∨ (j ≠ i ∧ running j = some p) := by
  by_cases hj : j = i
  · subst hj
    exact .inl ⟨rfl, by rwa [Function.update_self] at h⟩
  · exact .inr ⟨hj, by rwa [Function.update_of_ne hj] at h⟩

omit [DecidableEq ι] in
theorem RelyGuarantee.and_trans (h : M.RelyGuarantee I R) (i : ι) (s₁ s₂ s₃ : σ)
    (h₁ : R i s₁ s₂ ∧ I s₂) (h₂ : R i s₂ s₃ ∧ I s₃) : R i s₁ s₃ ∧ I s₃ :=
  ⟨h.trans i s₁ s₂ s₃ h₁.1 h₂.1, h₂.2⟩

variable {C C' : Configuration S σ ι}

/-- Programs that guarantee `G` when they start go on to do so. -/
theorem RelyGuarantee.inFlight_step {G : ι → σ → σ → Prop} (h : M.RelyGuarantee I R)
    (hG : ∀ i p s, I s → M.start i p → p.Meets (M.semantics i) (fun s₁ s₂ => R i s₁ s₂ ∧ I s₂)
      (fun s₁ _ _ s₂ => G i s₁ s₂) (fun _ _ => True) s)
    (hC : Sound M I R C) (hF : M.InFlight I R G C) (hstep : M.Step C C') :
    M.InFlight I R G C' := by
  cases hstep with
  | environment henv =>
    obtain ⟨hI, hR⟩ := h.environment _ _ hC.1 henv
    exact fun i p hp => (hF i p hp).stable (h.and_trans i) (fun _ _ => trivial) ⟨hR i, hI⟩
  | start i p hidle hstart =>
    intro j q hq
    rcases eq_or_ne_of_update_eq_some hq with ⟨rfl, hp⟩ | ⟨_, hq⟩
    · obtain rfl := Option.some_inj.1 hp
      exact hG j p _ hC.1 hstart
    · exact hF j q hq
  | call i c next r hrunning hcall =>
    obtain ⟨⟨hI, hR⟩, -⟩ := hC.2 i _ hrunning _ ⟨h.refl i _, hC.1⟩ r _ hcall
    obtain ⟨-, hnext⟩ := hF i _ hrunning _ ⟨h.refl i _, hC.1⟩ r _ hcall
    intro j q hq
    rcases eq_or_ne_of_update_eq_some hq with ⟨rfl, hp⟩ | ⟨hj, hq⟩
    · obtain rfl := Option.some_inj.1 hp
      exact hnext
    · exact (hF j q hq).stable (h.and_trans j) (fun _ _ => trivial) ⟨hR j hj, hI⟩
  | stop i =>
    intro j q hq
    rcases eq_or_ne_of_update_eq_some hq with ⟨_, hp⟩ | ⟨_, hq⟩
    · cases hp
    · exact hF j q hq

theorem RelyGuarantee.sound_step (h : M.RelyGuarantee I R) (hC : Sound M I R C)
    (hstep : M.Step C C') : Sound M I R C' := by
  refine ⟨?_, h.inFlight_step h.start hC hC.2 hstep⟩
  cases hstep with
  | environment henv => exact (h.environment _ _ hC.1 henv).1
  | call i c next r hrunning hcall =>
    exact (hC.2 i _ hrunning _ ⟨h.refl i _, hC.1⟩ r _ hcall).1.1
  | start | stop => exact hC.1

/-- **The rely-guarantee rule.** -/
theorem RelyGuarantee.invariant_of_steps (h : M.RelyGuarantee I R) (hI : I s)
    (hsteps : M.Steps ⟨s, fun _ => none⟩ C) :
    I C.store := by
  suffices hsound : Sound M I R C from hsound.1
  induction hsteps with
  | refl => exact ⟨hI, fun i p hp => nomatch hp⟩
  | tail _ hstep ih => exact h.sound_step ih hstep

/-- **What every step does**: `G` relates the stores before and after each call, when the programs
show it under what they rely on, and the environment keeps to it. -/
structure Ensures (M : System S σ ι) (I : σ → Prop) (R : ι → σ → σ → Prop) (G : σ → σ → Prop) :
    Prop where
  environment : ∀ s s', I s → M.environment s s' → G s s'
  start : ∀ i p s, I s → M.start i p → p.Meets (M.semantics i) (fun s₁ s₂ => R i s₁ s₂ ∧ I s₂)
    (fun s₁ _ _ s₂ => G s₁ s₂) (fun _ _ => True) s

variable {G : σ → σ → Prop}

theorem Ensures.step (hG : M.Ensures I R G) (h : M.RelyGuarantee I R) (hC : Sound M I R C)
    (hE : M.InFlight I R (fun _ => G) C) (hstep : M.Step C C') :
    (C'.store = C.store ∨ G C.store C'.store) ∧ M.InFlight I R (fun _ => G) C' := by
  refine ⟨?_, h.inFlight_step hG.start hC hE hstep⟩
  cases hstep with
  | environment henv => exact .inr (hG.environment _ _ hC.1 henv)
  | call i c next r hrunning hcall =>
    exact .inr (hE i _ hrunning _ ⟨h.refl i _, hC.1⟩ r _ hcall).1
  | start | stop => exact .inl rfl

/-- **The rule for steps**: what the programs and the environment ensure of each step is true of
every step from a configuration that is reached. -/
theorem RelyGuarantee.ensures_of_step (h : M.RelyGuarantee I R) (hG : M.Ensures I R G) (hI : I s)
    (hsteps : M.Steps ⟨s, fun _ => none⟩ C) (hstep : M.Step C C') :
    C'.store = C.store ∨ G C.store C'.store := by
  suffices hboth : Sound M I R C ∧ M.InFlight I R (fun _ => G) C from
    (hG.step h hboth.1 hboth.2 hstep).1
  clear hstep
  induction hsteps with
  | refl => exact ⟨⟨hI, fun i p hp => nomatch hp⟩, fun i p hp => nomatch hp⟩
  | tail _ hstep ih => exact ⟨h.sound_step ih.1 hstep, (hG.step h ih.1 ih.2 hstep).2⟩

end System

end Interaction
