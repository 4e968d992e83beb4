/-
**Transactions at read committed.**

A transaction is a sequence of statements over a shared database.  A query sees what is committed
when it runs; a lock is waited for and then held to the end; what the transaction writes becomes
visible when it commits.  Any statement may fail, and then the transaction is rolled back and its
locks are gone; the answer to a commit may be lost.  Transactions run next to each other, one
statement at a time.

The rule for such transactions is the usual one of locking: a *guard* says for each lock what nobody
else may do to the database while it is held.  A transaction that commits has to respect the guards
of the locks that others hold, and may use those of its own.

Main definitions:

* `Store`, `Statement`, `Performs` — the committed database with the locks, and the statements;
* `Transaction` — programs of statements which may be refused;
* `Discipline` — the guards, the invariant, what a commit ensures, and which statements are allowed;
* `Discipline.Keeps` — a transaction that respects the discipline, with assertions;
* `pool` — the system of all transactions;
* `Transaction.focus` — a transaction about a part of the database.

Main results:

* `Discipline.keeps_query`, `Discipline.keeps_lock`, `Discipline.keeps_commit` — the rules;
* `Discipline.Governs.invariant_of_steps`, `Discipline.Governs.ensures_of_step`,
  `Discipline.Governs.kept_of_steps` — **what disciplined transactions keep, in every interleaving**;
* `Discipline.Focuses.keeps` — the rule for transactions about a part of the database.
-/
import WorkspaceControl.Interaction

set_option autoImplicit false

namespace Transactions

open Interaction

variable {ι K D E α β : Type}

/-! ### Locks -/

inductive Mode
  | shared
  | exclusive

/-- Two holders may have these modes at once. -/
def Mode.compatible : Mode → Mode → Bool
  | shared, shared => true
  | _, _ => false

theorem Mode.compatible_comm (a b : Mode) : a.compatible b = b.compatible a := by
  cases a <;> cases b <;> rfl

theorem Mode.not_compatible_exclusive (a : Mode) : a.compatible exclusive = false := by
  cases a <;> rfl

/-- A lock that is held. -/
structure Grant (ι K : Type) where
  owner : ι
  key : K
  mode : Mode

/-- What is committed, and the locks. -/
structure Store (ι K D : Type) where
  committed : D
  grants : List (Grant ι K)

namespace Store

/-- Nobody else holds a lock that conflicts. -/
def Free (s : Store ι K D) (i : ι) (key : K) (mode : Mode) : Prop :=
  ∀ g ∈ s.grants, g.owner ≠ i → g.key = key → g.mode.compatible mode = true

instance [DecidableEq ι] [DecidableEq K] (s : Store ι K D) (i : ι) (key : K) (mode : Mode) :
    Decidable (s.Free i key mode) :=
  inferInstanceAs (Decidable (∀ g ∈ s.grants, g.owner ≠ i → g.key = key →
    g.mode.compatible mode = true))

def grant (s : Store ι K D) (i : ι) (key : K) (mode : Mode) : Store ι K D :=
  { s with grants := ⟨i, key, mode⟩ :: s.grants }

/-- No two transactions hold conflicting locks. -/
def Compatible (s : Store ι K D) : Prop :=
  ∀ g ∈ s.grants, ∀ h ∈ s.grants, g.owner ≠ h.owner → g.key = h.key →
    g.mode.compatible h.mode = true

variable {g : Grant ι K} {i : ι} {key : K} {mode : Mode} {s : Store ι K D}

theorem mem_grant :
    g ∈ (s.grant i key mode).grants ↔ g = ⟨i, key, mode⟩ ∨ g ∈ s.grants := List.mem_cons

theorem Compatible.grant (h : s.Compatible) (hfree : s.Free i key mode) :
    (s.grant i key mode).Compatible := by
  intro g hg g' hg' howner hkey
  rcases mem_grant.1 hg with rfl | hg <;> rcases mem_grant.1 hg' with rfl | hg'
  · exact absurd rfl howner
  · rw [Mode.compatible_comm]
    exact hfree g' hg' (Ne.symm howner) hkey.symm
  · exact hfree g hg howner hkey
  · exact h g hg g' hg' howner hkey

variable [DecidableEq ι]

/-- The locks of a transaction that has ended are gone. -/
def release (s : Store ι K D) (i : ι) : Store ι K D :=
  { s with grants := s.grants.filter fun g => g.owner ≠ i }

def commit (s : Store ι K D) (i : ι) (d : D) : Store ι K D := { s.release i with committed := d }

theorem mem_release :
    g ∈ (s.release i).grants ↔ g ∈ s.grants ∧ g.owner ≠ i := by
  simp [release]

theorem Compatible.release (h : s.Compatible) (i : ι) :
    (s.release i).Compatible :=
  fun g hg g' hg' => h g (mem_release.1 hg).1 g' (mem_release.1 hg').1

end Store

/-! ### Statements -/

/-- The statements of a transaction.  A lock that a query takes comes with the snapshot of the
query, which is older than the lock when the query has waited. -/
inductive Statement (K D : Type)
  | query
  | lock (key : K) (mode : Mode) (since : Option D)
  | commit (change : D → Option D)

def Statement.Answer : Statement K D → Type
  | query => D
  | lock _ _ _ => Unit
  | commit _ => Unit

/-- A statement that fails has no answer. -/
def statements (K D : Type) : Signature where
  Call := Statement K D
  Response c := Option c.Answer

/-- **What a statement does.**  It fails and the transaction is rolled back, or it succeeds; a
change that a constraint of the database refuses can only fail. -/
def Performs [DecidableEq ι] (allowed : ι → Store ι K D → Statement K D → Prop) (i : ι) :
    Semantics (statements K D) (Store ι K D)
  | s, .query, r, s' => (r = none ∧ s' = s.release i) ∨ (r = some s.committed ∧ s' = s)
  | s, .lock key mode since, r, s' => (r = none ∧ s' = s.release i) ∨
      (r = some () ∧ allowed i s (.lock key mode since) ∧ s.Free i key mode ∧
        s' = s.grant i key mode)
  | s, .commit change, r, s' => (r = none ∧ s' = s.release i) ∨
      ∃ d, change s.committed = some d ∧ allowed i s (.commit change) ∧ s' = s.commit i d

/-- Every statement succeeds that can and that is permitted. -/
def answer [DecidableEq ι] [DecidableEq K] (permits : ι → Store ι K D → Statement K D → Bool)
    (i : ι) (s : Store ι K D) :
    (c : (statements K D).Call) → (statements K D).Response c × Store ι K D
  | .query => (some s.committed, s)
  | .lock key mode since =>
    if permits i s (.lock key mode since) = true ∧ s.Free i key mode then
      (some (), s.grant i key mode)
    else (none, s.release i)
  | .commit change =>
    match if permits i s (.commit change) then change s.committed else none with
    | some d => (some (), s.commit i d)
    | none => (none, s.release i)

theorem performs_answer [DecidableEq ι] [DecidableEq K]
    {allowed : ι → Store ι K D → Statement K D → Prop}
    {permits : ι → Store ι K D → Statement K D → Bool}
    (hallowed : ∀ i s c, permits i s c = true → allowed i s c) (i : ι) (s : Store ι K D)
    (c : (statements K D).Call) :
    Performs allowed i s c (answer permits i s c).1 (answer permits i s c).2 := by
  cases c with
  | query => exact .inr ⟨rfl, rfl⟩
  | lock key mode since =>
    by_cases hfree : permits i s (.lock key mode since) = true ∧ s.Free i key mode
    · simp only [answer, if_pos hfree]
      exact .inr ⟨rfl, hallowed i s _ hfree.1, hfree.2, rfl⟩
    · simp only [answer, if_neg hfree]
      exact .inl ⟨rfl, rfl⟩
  | commit change =>
    cases hchange : if permits i s (.commit change) then change s.committed else none with
    | none =>
      simp only [answer, hchange]
      exact .inl ⟨rfl, rfl⟩
    | some d =>
      simp only [answer, hchange]
      obtain ⟨hpermits, hd⟩ := Option.ite_none_right_eq_some.1 hchange
      exact .inr ⟨d, hd, hallowed i s _ hpermits, rfl⟩

/-! ### Transactions -/

/-- A statement failed, or the transaction was refused by its own checks. -/
inductive Failure (E : Type)
  | lost
  | refused (e : E)

abbrev Transaction (K D E α : Type) : Type := Routine (statements K D) Unit (Failure E) α

namespace Transaction

/-- Go on with the answer of a statement. -/
def answered : Option α → Transaction K D E α
  | some a => pure a
  | none => Routine.throw .lost

/-- One statement. -/
def statement (c : Statement K D) : Transaction K D E c.Answer :=
  (Routine.perform (S := statements K D) c : Transaction K D E (Option c.Answer)) >>= answered

def query : Transaction K D E D := statement .query

def lock (key : K) (mode : Mode) : Transaction K D E Unit := statement (.lock key mode none)

/-- The lock of a row that a query with this snapshot selects. -/
def lockRow (snapshot : D) (key : K) (mode : Mode) : Transaction K D E Unit :=
  statement (.lock key mode (some snapshot))

def commit (change : D → Option D) : Transaction K D E Unit := statement (.commit change)

def lift : Except E α → Transaction K D E α := Routine.attempt .refused

def require (condition : Bool) (e : E) : Transaction K D E Unit :=
  if condition then pure () else Routine.throw (.refused e)

/-- One lock after the other. -/
def lockAll (mode : Mode) : List K → Transaction K D E Unit
  | [] => pure ()
  | key :: keys => lock key mode >>= fun _ => lockAll mode keys

/-- A transaction that runs alone: it has the only writer's lock before it reads. -/
def serialized (writer : K) (f : D → Except E D) : Transaction K D E Unit := do
  lock writer .exclusive
  let d ← query
  let d' ← lift (f d)
  commit fun _ => some d'

/-- The program of a transaction, whose result nobody reads. -/
def program (x : Transaction K D E α) : Program (statements K D) Unit :=
  x () >>= fun _ => .done ()

end Transaction

/-- The transactions that satisfy `starts`, on connections `ι`, in any number and order. -/
def pool [DecidableEq ι] (allowed : ι → Store ι K D → Statement K D → Prop)
    (starts : Transaction K D E Unit → Prop) : System (statements K D) (Store ι K D) ι where
  semantics := Performs allowed
  environment := fun _ _ => False
  start := fun _ p => ∃ x, starts x ∧ p = x.program

/-- Nothing is locked and nothing runs. -/
def idle (ι K : Type) {D : Type} (d : D) : Configuration (statements K D) (Store ι K D) ι :=
  ⟨⟨d, []⟩, fun _ => none⟩

/-! ### Runs that are written down -/

/-- A connection starts a transaction, or performs so many statements. -/
inductive Move (ι τ : Type)
  | start (i : ι) (request : τ)
  | proceed (i : ι) (count : Nat)

section Scheduled

variable {τ : Type} [DecidableEq ι] [DecidableEq K] {transaction : τ → Transaction K D E Unit}
variable {permits : ι → Store ι K D → Statement K D → Bool}

def Move.perform (permits : ι → Store ι K D → Statement K D → Bool)
    (transaction : τ → Transaction K D E Unit)
    (C : Configuration (statements K D) (Store ι K D) ι) :
    Move ι τ → Configuration (statements K D) (Store ι K D) ι
  | start i request =>
    { C with running := Function.update C.running i (some (transaction request).program) }
  | proceed i count =>
    match C.running i with
    | none => C
    | some p => ⟨(p.advance (answer permits i) count C.store).2,
        Function.update C.running i (some (p.advance (answer permits i) count C.store).1)⟩

/-- The run of these moves, in which every statement succeeds that can and that is permitted. -/
def scheduled (permits : ι → Store ι K D → Statement K D → Bool)
    (transaction : τ → Transaction K D E Unit)
    (C : Configuration (statements K D) (Store ι K D) ι) (moves : List (Move ι τ)) :
    Configuration (statements K D) (Store ι K D) ι :=
  moves.foldl (Move.perform permits transaction) C

variable {allowed : ι → Store ι K D → Statement K D → Prop}
  {starts : Transaction K D E Unit → Prop}

theorem Move.steps_perform (hallowed : ∀ i s c, permits i s c = true → allowed i s c)
    (C : Configuration (statements K D) (Store ι K D) ι) (move : Move ι τ)
    (hstarts : ∀ i request, move = .start i request → starts (transaction request)) :
    (pool allowed starts).Steps C (move.perform permits transaction C) := by
  obtain ⟨s, running⟩ := C
  cases move with
  | start i request =>
    -- what the connection ran before is given up
    refine .tail (.single (.stop i)) ?_
    have hstart : (pool allowed starts).Step ⟨s, Function.update running i none⟩
        ⟨s, Function.update (Function.update running i none) i
          (some (transaction request).program)⟩ :=
      .start i _ (Function.update_self ..) ⟨_, hstarts i request rfl, rfl⟩
    rwa [Function.update_idem] at hstart
  | proceed i count =>
    cases hrunning : running i with
    | none =>
      simp only [perform, hrunning]
      exact .refl
    | some p =>
      simp only [perform, hrunning]
      have hsteps := System.steps_advance (M := pool allowed starts)
        (performs_answer hallowed i) count p s running
      rwa [← hrunning, Function.update_eq_self] at hsteps

theorem Move.step_or_eq (hallowed : ∀ i s c, permits i s c = true → allowed i s c)
    (C : Configuration (statements K D) (Store ι K D) ι) (i : ι) :
    (pool allowed starts).Step C ((Move.proceed i 1).perform permits transaction C) ∨
      (Move.proceed i 1).perform permits transaction C = C := by
  obtain ⟨s, running⟩ := C
  cases hrunning : running i with
  | none =>
    simp only [perform, hrunning]
    exact .inr trivial
  | some p =>
    simp only [perform, hrunning]
    cases p with
    | done a =>
      right
      simp only [Program.advance]
      rw [← hrunning, Function.update_eq_self]
    | call c next =>
      exact .inl (.call i c next (answer permits i s c).1 hrunning
        (performs_answer hallowed i s c))

theorem steps_scheduled (hallowed : ∀ i s c, permits i s c = true → allowed i s c)
    (C : Configuration (statements K D) (Store ι K D) ι) (moves : List (Move ι τ))
    (hstarts : ∀ i request, .start i request ∈ moves → starts (transaction request)) :
    (pool allowed starts).Steps C (scheduled permits transaction C moves) := by
  induction moves generalizing C with
  | nil => exact .refl
  | cons move moves ih =>
    refine (Move.steps_perform hallowed C move fun i request hmove =>
      hstarts i request (hmove ▸ List.mem_cons_self)).trans (ih _ fun i request hmem =>
        hstarts i request (List.mem_cons_of_mem _ hmem))

end Scheduled

/-! ### Disciplines -/

/-- What is agreed about the locks.  `guard` says how the database may change under a lock that
somebody else holds; `ensures` is what every commit does. -/
structure Discipline (ι K D : Type) where
  allowed : ι → Store ι K D → Statement K D → Prop
  guard : K → Mode → D → D → Prop
  invariant : D → Prop
  ensures : D → D → Prop
  guard_refl : ∀ key mode d, guard key mode d d
  guard_trans : ∀ key mode d₁ d₂ d₃, guard key mode d₁ d₂ → guard key mode d₂ d₃ →
    guard key mode d₁ d₃

namespace Discipline

variable (T : Discipline ι K D)

/-- The guards of the locks that are held have been respected. -/
def Since (held : List (K × Mode)) (d d' : D) : Prop :=
  ∀ lock ∈ held, T.guard lock.1 lock.2 d d'

/-- A connection keeps its locks, and their guards are respected. -/
def Rely (i : ι) (s s' : Store ι K D) : Prop :=
  ∀ g ∈ s.grants, g.owner = i → g ∈ s'.grants ∧ T.guard g.key g.mode s.committed s'.committed

def Invariant (s : Store ι K D) : Prop := s.Compatible ∧ T.invariant s.committed

/-- What a statement of a connection may do. -/
def Guarantee (i : ι) : Semantics (statements K D) (Store ι K D) :=
  fun s _ _ s' => T.Invariant s' ∧ (∀ j, j ≠ i → T.Rely j s s') ∧
    (s'.committed = s.committed ∨ T.ensures s.committed s'.committed)

/-- The usual assertion: some locks are held, and something is known of what is committed. -/
def Under (i : ι) (held : List (K × Mode)) (P : D → Prop) (s : Store ι K D) : Prop :=
  (∀ lock ∈ held, ⟨i, lock.1, lock.2⟩ ∈ s.grants) ∧ P s.committed

/-- Under these locks nobody else can make `P` false. -/
def Stable (held : List (K × Mode)) (P : D → Prop) : Prop :=
  ∀ d d', P d → T.invariant d' → T.Since held d d' → P d'

/-- **A transaction that respects the discipline**: it starts where `A` holds, and where it ends
well `B` holds. -/
structure Keeps [DecidableEq ι] (i : ι) (A : Store ι K D → Prop) (x : Transaction K D E α)
    (B : α → Store ι K D → Prop) : Prop where
  meets : ∀ s, T.Invariant s → A s → (x ()).Meets (Performs T.allowed i)
    (fun s₁ s₂ => T.Rely i s₁ s₂ ∧ T.Invariant s₂) (T.Guarantee i)
    (fun r s' => ∀ a, r.1 = .ok a → T.Invariant s' ∧ B a s') s

/-- Started anywhere. -/
abbrev Respects [DecidableEq ι] (i : ι) (x : Transaction K D E α) : Prop :=
  T.Keeps i (fun _ => True) x fun _ _ => True

variable {T} {i : ι} {A A' : Store ι K D → Prop} {B : α → Store ι K D → Prop}
  {held held' : List (K × Mode)} {P Q : D → Prop}

theorem Since.refl (held : List (K × Mode)) (d : D) : T.Since held d d :=
  fun lock _ => T.guard_refl lock.1 lock.2 d

theorem Since.trans {d₁ d₂ d₃ : D} (h : T.Since held d₁ d₂) (h' : T.Since held d₂ d₃) :
    T.Since held d₁ d₃ :=
  fun lock hlock => T.guard_trans _ _ _ _ _ (h lock hlock) (h' lock hlock)

theorem Since.mono {d d' : D} (h : T.Since held' d d') (hsub : held ⊆ held') :
    T.Since held d d' :=
  fun lock hlock => h lock (hsub hlock)

theorem stable_true : T.Stable held fun _ => True := fun _ _ _ _ _ => trivial

theorem Stable.and (hP : T.Stable held P) (hQ : T.Stable held Q) :
    T.Stable held fun d => P d ∧ Q d :=
  fun d d' h hd' hsince => ⟨hP d d' h.1 hd' hsince, hQ d d' h.2 hd' hsince⟩

theorem Stable.mono (hP : T.Stable held P) (hsub : held ⊆ held') : T.Stable held' P :=
  fun d d' h hd' hsince => hP d d' h hd' (hsince.mono hsub)

/-- What has happened since a query. -/
theorem stable_since (d : D) (hsub : held ⊆ held') : T.Stable held' (T.Since held d) :=
  fun _ _ h _ hsince => h.trans (hsince.mono hsub)

/-- Something that a query has seen. -/
theorem stable_exists_since (hsub : held ⊆ held') :
    T.Stable held' fun d' => ∃ d, T.Since held d d' ∧ Q d := by
  rintro d' d'' ⟨d, hd, hQ⟩ - hsince
  exact ⟨d, hd.trans (hsince.mono hsub), hQ⟩

variable {condition : Bool} {e : E} {key : K} {mode : Mode} {p : Prop} {snapshot : D}

theorem stable_imp (h : T.Stable held P) : T.Stable held fun d => p → P d :=
  fun d d' hd hd' hsince hp => h d d' (hd hp) hd' hsince

theorem Rely.refl (i : ι) (s : Store ι K D) : T.Rely i s s :=
  fun _ hg _ => ⟨hg, T.guard_refl _ _ _⟩

theorem Rely.trans {s₁ s₂ s₃ : Store ι K D} (h : T.Rely i s₁ s₂) (h' : T.Rely i s₂ s₃) :
    T.Rely i s₁ s₃ := by
  intro g hg hi
  obtain ⟨hg₂, hguard⟩ := h g hg hi
  obtain ⟨hg₃, hguard'⟩ := h' g hg₂ hi
  exact ⟨hg₃, T.guard_trans _ _ _ _ _ hguard hguard'⟩

variable {d : D} {j : ι} {s s' : Store ι K D} {x : Transaction K D E α}

/-- Locks that others release or take do not matter. -/
theorem Rely.of_grants (hcommitted : s'.committed = s.committed)
    (hgrants : ∀ g ∈ s.grants, g.owner = j → g ∈ s'.grants) : T.Rely j s s' :=
  fun _ hg hj => ⟨hgrants _ hg hj, hcommitted ▸ T.guard_refl _ _ _⟩

theorem Under.rely (hP : T.Stable held P) (h : Under i held P s) (hrely : T.Rely i s s')
    (hs' : T.Invariant s') :
    Under i held P s' :=
  ⟨fun lock hlock => (hrely _ (h.1 lock hlock) rfl).1,
    hP _ _ h.2 hs'.2 fun lock hlock => (hrely _ (h.1 lock hlock) rfl).2⟩

theorem invariant_idle (hd : T.invariant d) : T.Invariant ⟨d, []⟩ :=
  ⟨fun _ hg => absurd hg List.not_mem_nil, hd⟩

variable {g : Grant ι K}

/-- A lock that is held excludes the conflicting ones of the others. -/
theorem Under.excludes (h : Under i held P s) (hs : T.Invariant s) (hheld : (key, mode) ∈ held)
    (hg : g ∈ s.grants) (hne : g.owner ≠ i) (hkey : g.key = key) :
    g.mode.compatible mode = true :=
  hs.1 g hg _ (h.1 _ hheld) hne hkey

theorem Under.not_exclusive (h : Under i held P s) (hs : T.Invariant s)
    (hheld : (key, .exclusive) ∈ held) (hg : g ∈ s.grants) (hne : g.owner ≠ i) :
    g.key ≠ key := by
  intro hkey
  have hcompatible := h.excludes hs hheld hg hne hkey
  rw [Mode.not_compatible_exclusive] at hcompatible
  cases hcompatible

/-! ### Rules -/

variable [DecidableEq ι]

theorem rely_release (hj : j ≠ i) (s : Store ι K D) : T.Rely j s (s.release i) :=
  .of_grants rfl fun _ hg howner => Store.mem_release.2 ⟨hg, howner ▸ hj⟩

/-- A statement that fails changes nothing that others see. -/
theorem guarantee_release (h : T.Invariant s) (c : (statements K D).Call)
    (r : (statements K D).Response c) :
    T.Guarantee i s c r (s.release i) :=
  ⟨⟨h.1.release i, h.2⟩, fun _ hj => rely_release hj s, .inl rfl⟩

theorem keeps_pure {a : α} (h : ∀ s, T.Invariant s → A s → B a s) :
    T.Keeps i A (pure a : Transaction K D E α) B := by
  refine ⟨fun s hs hA b hb => ?_⟩
  cases hb
  exact ⟨hs, h s hs hA⟩

theorem keeps_throw (e : Failure E) : T.Keeps i A (Routine.throw e : Transaction K D E α) B :=
  ⟨fun _ _ _ _ h => nomatch h⟩

theorem Keeps.bind {x : Transaction K D E α} {f : α → Transaction K D E β}
    {C : β → Store ι K D → Prop} (hx : T.Keeps i A x B) (hf : ∀ a, T.Keeps i (B a) (f a) C) :
    T.Keeps i A (x >>= f) C := by
  refine ⟨fun s hs hA => (Program.meets_bind (x ()) (Routine.resume f) _ s).2 ?_⟩
  refine (hx.meets s hs hA).mono ?_
  rintro ⟨_ | a, _⟩ s' h
  · exact fun _ hok => nomatch hok
  · obtain ⟨hs', hB⟩ := h a rfl
    exact (hf a).meets s' hs' hB

theorem Keeps.pre (h : T.Keeps i A x B) (hA : ∀ s, T.Invariant s → A' s → A s) : T.Keeps i A' x B :=
  ⟨fun s hs hA' => h.meets s hs (hA s hs hA')⟩

theorem Keeps.post {B' : α → Store ι K D → Prop} (h : T.Keeps i A x B)
    (hB : ∀ a s, T.Invariant s → B a s → B' a s) : T.Keeps i A x B' :=
  ⟨fun s hs hA => (h.meets s hs hA).mono fun _ s' hB' a ha =>
    ⟨(hB' a ha).1, hB a s' (hB' a ha).1 (hB' a ha).2⟩⟩

/-- A transaction starts without locks, and knows nothing. -/
theorem Keeps.start (h : T.Keeps i (Under i [] fun _ => True) x B) :
    T.Keeps i (fun _ => True) x B :=
  h.pre fun _ _ _ => ⟨fun _ hlock => absurd hlock List.not_mem_nil, trivial⟩

/-- What is known beside the locks may be forgotten, in whole or in part. -/
theorem Keeps.forget (h : T.Keeps i (Under i held fun _ => True) x B) :
    T.Keeps i (Under i held P) x B :=
  h.pre fun _ _ hunder => ⟨hunder.1, trivial⟩

theorem Keeps.left (h : T.Keeps i (Under i held P) x B) :
    T.Keeps i (Under i held fun d => P d ∧ Q d) x B :=
  h.pre fun _ _ hunder => ⟨hunder.1, hunder.2.1⟩

theorem Keeps.right (h : T.Keeps i (Under i held Q) x B) :
    T.Keeps i (Under i held fun d => P d ∧ Q d) x B :=
  h.pre fun _ _ hunder => ⟨hunder.1, hunder.2.2⟩

theorem keeps_exists {τ : Type} {A : τ → Store ι K D → Prop} (h : ∀ t, T.Keeps i (A t) x B) :
    T.Keeps i (fun s => ∃ t, A t s) x B :=
  ⟨fun s hs ⟨t, hA⟩ => (h t).meets s hs hA⟩

theorem keeps_ite {c : Prop} [Decidable c] {x y : Transaction K D E α}
    (hx : c → T.Keeps i A x B) (hy : ¬c → T.Keeps i A y B) :
    T.Keeps i A (if c then x else y) B := by
  by_cases h : c
  · rw [if_pos h]
    exact hx h
  · rw [if_neg h]
    exact hy h

theorem keeps_of_fact (hp : ∀ s, A s → p) (h : p → T.Keeps i A x B) :
    T.Keeps i A x B :=
  ⟨fun s hs hA => (h (hp s hA)).meets s hs hA⟩

variable {C C' : Configuration (statements K D) (Store ι K D) ι}

theorem keeps_require :
    T.Keeps i A (Transaction.require condition e : Transaction K D E Unit)
      fun _ s => A s ∧ condition = true := by
  unfold Transaction.require
  exact keeps_ite (fun h => keeps_pure fun _ _ hA => ⟨hA, h⟩) fun _ => keeps_throw _

theorem keeps_lift {r : Except E α} :
    T.Keeps i A (Transaction.lift r : Transaction K D E α) fun a s => A s ∧ r = .ok a := by
  cases r with
  | error e => exact keeps_throw _
  | ok a => exact keeps_pure fun _ _ hA => ⟨hA, rfl⟩

/-- One statement: where it fails the transaction is rolled back. -/
theorem keeps_statement {c : Statement K D} {B : c.Answer → Store ι K D → Prop}
    (hA : ∀ s s', A s → T.Rely i s s' → T.Invariant s' → A s')
    (h : ∀ s r s', A s → T.Invariant s → Performs T.allowed i s c r s' →
      (r = none ∧ s' = s.release i) ∨ (T.Guarantee i s c r s' ∧ ∀ a, r = some a → B a s')) :
    T.Keeps i A (Transaction.statement c : Transaction K D E c.Answer) B := by
  refine ⟨fun s _ hAs s₁ hrely r s₂ hcall => ?_⟩
  have hA₁ := hA s s₁ hAs hrely.1 hrely.2
  rcases h s₁ r s₂ hA₁ hrely.2 hcall with ⟨rfl, rfl⟩ | ⟨hguar, hB⟩
  · exact ⟨guarantee_release hrely.2 c _, fun _ hok => nomatch hok⟩
  · refine ⟨hguar, ?_⟩
    cases r with
    | none => exact fun _ hok => nomatch hok
    | some a =>
      intro b hb
      cases hb
      exact ⟨hguar.1, hB a rfl⟩

/-- **Queries**: the result is what was committed then, and since then the guards have been
respected. -/
theorem keeps_query (hP : T.Stable held P) :
    T.Keeps i (Under i held P) (Transaction.query : Transaction K D E D) fun d =>
      Under i held fun d' => (P d ∧ T.invariant d) ∧ P d' ∧ T.Since held d d' := by
  refine keeps_statement (fun s s' hA hrely hs' => hA.rely hP hrely hs') ?_
  rintro s r s' hA hs (hlost | ⟨rfl, rfl⟩)
  · exact .inl hlost
  · refine .inr ⟨⟨hs, fun j _ => Rely.refl j _, .inl rfl⟩, ?_⟩
    rintro a ⟨⟩
    exact ⟨hA.1, ⟨hA.2, hs.2⟩, hA.2, Since.refl held _⟩

/-- A query of which only the result is used. -/
theorem keeps_read (hP : T.Stable held P) :
    T.Keeps i (Under i held P) (Transaction.query : Transaction K D E D) fun d =>
      Under i held fun d' => P d' ∧ T.Since held d d' :=
  (keeps_query hP).post fun _ _ _ h => ⟨h.1, h.2.2⟩

/-- A query and what follows: what the query has seen is a fact. -/
theorem keeps_query_bind {f : D → Transaction K D E α} (hP : T.Stable held P)
    (h : ∀ d, P d → T.invariant d →
      T.Keeps i (Under i held fun d' => P d' ∧ T.Since held d d') (f d) B) :
    T.Keeps i (Under i held P) (Transaction.query >>= f) B := by
  refine (keeps_query hP).bind fun d => ?_
  refine keeps_of_fact (p := P d ∧ T.invariant d) (fun s hs => hs.2.1) fun hd => ?_
  exact (h d hd.1 hd.2).pre fun s _ hs => ⟨hs.1, hs.2.2⟩

theorem keeps_lift_bind {r : Except E β} {f : β → Transaction K D E α}
    (h : ∀ b, r = .ok b → T.Keeps i A (f b) B) :
    T.Keeps i A (Transaction.lift r >>= f) B := by
  refine keeps_lift.bind fun b => ?_
  exact keeps_of_fact (fun s hs => hs.2) fun hb => (h b hb).pre fun s _ hs => hs.1

theorem keeps_require_bind {f : Unit → Transaction K D E α}
    (h : condition = true → T.Keeps i A (f ()) B) :
    T.Keeps i A (Transaction.require condition e >>= f) B := by
  refine keeps_require.bind fun _ => ?_
  exact keeps_of_fact (fun s hs => hs.2) fun hc => (h hc).pre fun s _ hs => hs.1

theorem keeps_lock_statement (hP : T.Stable held P) {since : Option D}
    (hQ : ∀ s, Under i held P s → T.allowed i s (.lock key mode since) → Q s.committed) :
    T.Keeps i (Under i held P)
      (Transaction.statement (.lock key mode since) : Transaction K D E Unit)
      fun _ => Under i ((key, mode) :: held) fun d => P d ∧ Q d := by
  refine keeps_statement (fun s s' hA hrely hs' => hA.rely hP hrely hs') ?_
  rintro s r s' hA hs (hlost | ⟨rfl, hallowed, hfree, rfl⟩)
  · exact .inl hlost
  · refine .inr ⟨⟨⟨hs.1.grant hfree, hs.2⟩, fun j _ => ?_, .inl rfl⟩, ?_⟩
    · exact .of_grants rfl fun g hg _ => Store.mem_grant.2 (.inr hg)
    · rintro _ -
      refine ⟨fun lock hlock => ?_, hA.2, hQ s hA hallowed⟩
      rcases List.mem_cons.1 hlock with rfl | hlock
      · exact Store.mem_grant.2 (.inl rfl)
      · exact Store.mem_grant.2 (.inr (hA.1 lock hlock))

/-- **Locks.** -/
theorem keeps_lock (hP : T.Stable held P) :
    T.Keeps i (Under i held P) (Transaction.lock key mode : Transaction K D E Unit)
      fun _ => Under i ((key, mode) :: held) P :=
  (keeps_lock_statement (Q := fun _ => True) hP fun _ _ _ => trivial).post
    fun _ _ _ h => ⟨h.1, h.2.1⟩

theorem keeps_lockRow (hP : T.Stable held P) :
    T.Keeps i (Under i held P) (Transaction.lockRow snapshot key mode : Transaction K D E Unit)
      fun _ => Under i ((key, mode) :: held) P :=
  (keeps_lock_statement (Q := fun _ => True) hP fun _ _ _ => trivial).post
    fun _ _ _ h => ⟨h.1, h.2.1⟩

/-- The lock of a row, where it has to be allowed. -/
theorem keeps_lockRow_allowed (hP : T.Stable held P)
    (hQ : ∀ s, Under i held P s → T.allowed i s (.lock key mode (some snapshot)) →
      Q s.committed) :
    T.Keeps i (Under i held P) (Transaction.lockRow snapshot key mode : Transaction K D E Unit)
      fun _ => Under i ((key, mode) :: held) fun d => P d ∧ Q d :=
  keeps_lock_statement hP hQ

theorem keeps_lockAll (hP : ∀ more, T.Stable (more ++ held) P) {keys : List K} :
    T.Keeps i (Under i held P) (Transaction.lockAll mode keys : Transaction K D E Unit)
      fun _ => Under i ((keys.map fun key => (key, mode)) ++ held) P := by
  induction keys generalizing held with
  | nil => exact keeps_pure fun _ _ hA => hA
  | cons key keys ih =>
    refine (keeps_lock (hP [])).bind fun _ => ?_
    have hmore : ∀ more, T.Stable (more ++ (key, mode) :: held) P := by
      intro more
      have := hP (more ++ [(key, mode)])
      rwa [List.append_assoc] at this
    refine (ih hmore).post fun _ s _ h => ⟨fun lock hlock => h.1 lock ?_, h.2⟩
    simp only [List.map_cons, List.cons_append, List.mem_cons, List.mem_append] at hlock ⊢
    rcases hlock with rfl | hlock | hlock
    · exact .inr (.inl rfl)
    · exact .inl hlock
    · exact .inr (.inr hlock)

/-- **Commits**: the invariant is kept, and so are the guards of the locks that others hold. -/
theorem keeps_commit (hP : T.Stable held P) {change : D → Option D}
    (h : ∀ s d, Under i held P s → T.Invariant s → change s.committed = some d →
      T.allowed i s (.commit change) → T.invariant d ∧ T.ensures s.committed d ∧
        ∀ g ∈ s.grants, g.owner ≠ i → T.guard g.key g.mode s.committed d) :
    T.Keeps i (Under i held P) (Transaction.commit change : Transaction K D E Unit)
      fun _ _ => True := by
  refine keeps_statement (fun s s' hA hrely hs' => hA.rely hP hrely hs') ?_
  rintro s r s' hA hs (hlost | ⟨d, hchange, hallowed, rfl⟩)
  · exact .inl hlost
  · obtain ⟨hinvariant, hensures, hguards⟩ := h s d hA hs hchange hallowed
    refine .inr ⟨⟨⟨hs.1.release i, hinvariant⟩, fun j hj g hg howner => ?_, .inr hensures⟩,
      fun _ _ => trivial⟩
    have hne : g.owner ≠ i := howner ▸ hj
    exact ⟨Store.mem_release.2 ⟨hg, hne⟩, hguards g hg hne⟩

/-! ### Transactions that run alone -/

/-- While a transaction has the writer's lock nobody else writes. -/
def serial (writer : K) (invariant : D → Prop) (ensures : D → D → Prop) : Discipline ι K D where
  allowed := fun _ _ _ => True
  guard key _ d d' := key = writer → d' = d
  invariant := invariant
  ensures := ensures
  guard_refl := fun _ _ _ _ => rfl
  guard_trans := fun _ _ _ _ _ h h' hkey => (h' hkey).trans (h hkey)

theorem keeps_serialized {writer : K} {invariant : D → Prop} {ensures : D → D → Prop}
    {f : D → Except E D}
    (hf : ∀ d d', invariant d → f d = .ok d' → invariant d' ∧ ensures d d') :
    (serial writer invariant ensures).Respects i
      (Transaction.serialized writer f : Transaction K D E Unit) := by
  refine Keeps.start ((keeps_lock stable_true).bind fun _ => ?_)
  refine (keeps_query stable_true).bind fun d => keeps_lift.bind fun d' => ?_
  refine keeps_of_fact (p := invariant d ∧ f d = .ok d') (fun s h => ⟨h.1.2.1.2, h.2⟩) fun hd => ?_
  have hstable : (serial writer invariant ensures : Discipline ι K D).Stable
      [(writer, .exclusive)] fun d₁ => d₁ = d := by
    rintro _ d₂ rfl - hsince
    exact hsince _ List.mem_cons_self rfl
  refine (keeps_commit hstable ?_).pre ?_
  · rintro s d₁ hunder hs hcommit -
    obtain rfl := Option.some_inj.1 hcommit
    have hsame : s.committed = d := hunder.2
    rw [hsame]
    refine ⟨(hf d _ hd.1 hd.2).1, (hf d _ hd.1 hd.2).2, fun g hg hne hkey => ?_⟩
    exact absurd hkey (hunder.not_exclusive hs List.mem_cons_self hg hne)
  · intro s _ h
    exact ⟨h.1.1, h.1.2.2.2 _ List.mem_cons_self rfl⟩

/-! ### All interleavings -/

/-- Every transaction respects the discipline, started anywhere. -/
def Governs (T : Discipline ι K D) (starts : Transaction K D E Unit → Prop) : Prop :=
  ∀ x, starts x → ∀ i, T.Keeps i (fun _ => True) x fun _ _ => True

variable {starts : Transaction K D E Unit → Prop}

theorem Governs.meets (h : T.Governs starts) {x : Transaction K D E Unit} (hx : starts x) (i : ι)
    (hs : T.Invariant s) :
    x.program.Meets (Performs T.allowed i) (fun s₁ s₂ => T.Rely i s₁ s₂ ∧ T.Invariant s₂)
      (T.Guarantee i) (fun _ _ => True) s :=
  (Program.meets_bind _ _ _ s).2 (((h x hx i).meets s hs trivial).mono fun _ _ _ => trivial)

theorem Governs.relyGuarantee (h : T.Governs starts) :
    (pool T.allowed starts).RelyGuarantee T.Invariant T.Rely where
  refl := Rely.refl
  trans := fun _ _ _ _ => Rely.trans
  environment := fun _ _ _ hstep => hstep.elim
  start := by
    rintro i _ s hs ⟨x, hx, rfl⟩
    exact (h.meets hx i hs).mono_guar fun _ _ _ _ hguar => ⟨hguar.1, hguar.2.1⟩

/-- **The invariant holds in every interleaving.** -/
theorem Governs.invariant_of_steps (h : T.Governs starts) (hd : T.invariant d)
    (hsteps : (pool T.allowed starts).Steps (idle ι K d) C) : T.invariant C.store.committed :=
  (h.relyGuarantee.invariant_of_steps (invariant_idle hd) hsteps).2

/-- **Every commit does what is ensured**, in every interleaving. -/
theorem Governs.ensures_of_step (h : T.Governs starts) (hd : T.invariant d)
    (hsteps : (pool T.allowed starts).Steps (idle ι K d) C)
    (hstep : (pool T.allowed starts).Step C C') :
    C'.store.committed = C.store.committed ∨ T.ensures C.store.committed C'.store.committed := by
  have hG : (pool T.allowed starts).Ensures T.Invariant T.Rely fun s s' =>
      s'.committed = s.committed ∨ T.ensures s.committed s'.committed :=
    { environment := fun _ _ _ henv => henv.elim
      start := by
        rintro i _ s hs ⟨x, hx, rfl⟩
        exact (h.meets hx i hs).mono_guar fun _ _ _ _ hguar => hguar.2.2 }
  rcases h.relyGuarantee.ensures_of_step hG (invariant_idle hd) hsteps hstep with heq | hG
  · exact .inl (congrArg Store.committed heq)
  · exact hG

/-- **What every commit keeps, once it is so, is so ever after.** -/
theorem Governs.kept_of_steps (h : T.Governs starts) (hd : T.invariant d) {J : D → Prop}
    (hJ : ∀ d d', T.ensures d d' → J d → J d')
    (hbefore : (pool T.allowed starts).Steps (idle ι K d) C) (hC : J C.store.committed)
    (hafter : (pool T.allowed starts).Steps C C') : J C'.store.committed := by
  induction hafter with
  | refl => exact hC
  | tail hsteps hstep ih =>
    rcases h.ensures_of_step hd (hbefore.trans hsteps) hstep with heq | hensures
    · rw [heq]
      exact ih
    · exact hJ _ _ hensures ih

end Discipline

/-! ### A part of the database -/

section Focus

variable {D' : Type}

/-- What is committed, seen through `get`. -/
def Store.image (get : D' → D) (s : Store ι K D') : Store ι K D := ⟨get s.committed, s.grants⟩

/-- A program about a part of the database. -/
def Transaction.focusProgram (get : D' → D) (put : D' → D → D') :
    Program (statements K D) α → Program (statements K D') α
  | .done a => .done a
  | .call .query next =>
    .call (S := statements K D') .query fun r => focusProgram get put (next (Option.map get r))
  | .call (.lock key mode _) next =>
    .call (S := statements K D') (.lock key mode none) fun r => focusProgram get put (next r)
  | .call (.commit change) next =>
    .call (S := statements K D') (.commit fun d => (change (get d)).map (put d)) fun r =>
      focusProgram get put (next r)

def Transaction.focus (get : D' → D) (put : D' → D → D') (x : Transaction K D E α) :
    Transaction K D' E α :=
  fun w => focusProgram get put (x w)

/-- **One discipline is about a part of what the other is about.** -/
structure Discipline.Focuses (T : Discipline ι K D) (T' : Discipline ι K D') (get : D' → D)
    (put : D' → D → D') : Prop where
  put_get : ∀ d, put d (get d) = d
  allowed : ∀ i s c, T.allowed i s c
  invariant_get : ∀ d, T'.invariant d → T.invariant (get d)
  guard_get : ∀ key mode d d', T'.guard key mode d d' → T.guard key mode (get d) (get d')
  invariant_put : ∀ d e, T'.invariant d → T.invariant e → T'.invariant (put d e)
  guard_put : ∀ key mode d e, T.guard key mode (get d) e → T'.guard key mode d (put d e)
  ensures_put : ∀ d e, T'.invariant d → T.ensures (get d) e → T'.ensures d (put d e)
  get_put : ∀ d e, get (put d e) = e

namespace Discipline.Focuses

variable {T : Discipline ι K D} {T' : Discipline ι K D'} {get : D' → D} {put : D' → D → D'} {i : ι}

variable {s : Store ι K D'}

theorem invariant_image (h : Focuses T T' get put) (hs : T'.Invariant s) :
    T.Invariant (s.image get) := ⟨hs.1, h.invariant_get _ hs.2⟩

variable {s' : Store ι K D'}

theorem rely_image (h : Focuses T T' get put) (hrely : T'.Rely i s s') :
    T.Rely i (s.image get) (s'.image get) :=
  fun g hg hi => ⟨(hrely g hg hi).1, h.guard_get _ _ _ _ (hrely g hg hi).2⟩

/-- What a statement guarantees for the part it guarantees for the whole, when it writes nothing
else. -/
theorem guarantee_of_image (h : Focuses T T' get put) {c : (statements K D).Call}
    {r : (statements K D).Response c} (c' : (statements K D').Call)
    (r' : (statements K D').Response c') (hs : T'.invariant s.committed)
    (hput : s'.committed = put s.committed (get s'.committed))
    (hguar : T.Guarantee i (s.image get) c r (s'.image get)) : T'.Guarantee i s c' r' s' := by
  obtain ⟨hinvariant, hrely, hcommit⟩ := hguar
  refine ⟨⟨hinvariant.1, ?_⟩, fun j hj g hg howner => ⟨(hrely j hj g hg howner).1, ?_⟩, ?_⟩
  · rw [hput]
    exact h.invariant_put _ _ hs hinvariant.2
  · rw [hput]
    exact h.guard_put _ _ _ _ (hrely j hj g hg howner).2
  · rcases hcommit with hsame | hensures
    · left
      rw [hput, show get s'.committed = get s.committed from hsame, h.put_get]
    · right
      rw [hput]
      exact h.ensures_put _ _ hs hensures

variable [DecidableEq ι]

theorem meets_focusProgram (h : Focuses T T' get put) {p : Program (statements K D) α}
    {post : α → Store ι K D → Prop} (hs : T'.Invariant s)
    (hp : p.Meets (Performs T.allowed i) (fun s₁ s₂ => T.Rely i s₁ s₂ ∧ T.Invariant s₂)
      (T.Guarantee i) post (s.image get)) :
    (Transaction.focusProgram get put p).Meets (Performs T'.allowed i)
      (fun s₁ s₂ => T'.Rely i s₁ s₂ ∧ T'.Invariant s₂) (T'.Guarantee i)
      (fun a s' => T'.Invariant s' ∧ post a (s'.image get)) s := by
  induction p generalizing s with
  | done a => exact ⟨hs, hp⟩
  | call c next ih =>
    have himage : ∀ {s₁ : Store ι K D'}, T'.Rely i s s₁ ∧ T'.Invariant s₁ →
        T.Rely i (s.image get) (s₁.image get) ∧ T.Invariant (s₁.image get) :=
      fun hrely => ⟨h.rely_image hrely.1, h.invariant_image hrely.2⟩
    cases c with
    | query =>
      intro s₁ hrely r s₂ hcall
      have hperforms : Performs T.allowed i (s₁.image get) .query (Option.map get r)
          (s₂.image get) := by
        rcases hcall with ⟨rfl, rfl⟩ | ⟨rfl, rfl⟩
        · exact .inl ⟨rfl, rfl⟩
        · exact .inr ⟨rfl, rfl⟩
      have hsame : s₂.committed = s₁.committed := by
        rcases hcall with ⟨-, rfl⟩ | ⟨-, rfl⟩ <;> rfl
      obtain ⟨hguar, hnext⟩ := hp _ (himage hrely) _ _ hperforms
      have hguar' := h.guarantee_of_image .query r hrely.2.2 (by rw [hsame, h.put_get]) hguar
      exact ⟨hguar', ih _ hguar'.1 hnext⟩
    | lock key mode since =>
      intro s₁ hrely r s₂ hcall
      have hperforms : Performs T.allowed i (s₁.image get) (.lock key mode since) r
          (s₂.image get) := by
        rcases hcall with ⟨rfl, rfl⟩ | ⟨rfl, -, hfree, rfl⟩
        · exact .inl ⟨rfl, rfl⟩
        · exact .inr ⟨rfl, h.allowed _ _ _, hfree, rfl⟩
      have hsame : s₂.committed = s₁.committed := by
        rcases hcall with ⟨-, rfl⟩ | ⟨-, -, -, rfl⟩ <;> rfl
      obtain ⟨hguar, hnext⟩ := hp _ (himage hrely) _ _ hperforms
      have hguar' := h.guarantee_of_image (.lock key mode none) r hrely.2.2
        (by rw [hsame, h.put_get]) hguar
      exact ⟨hguar', ih _ hguar'.1 hnext⟩
    | commit change =>
      intro s₁ hrely r s₂ hcall
      have hperforms : Performs T.allowed i (s₁.image get) (.commit change) r
          (s₂.image get) := by
        rcases hcall with ⟨rfl, rfl⟩ | ⟨_, hchange, -, rfl⟩
        · exact .inl ⟨rfl, rfl⟩
        · obtain ⟨e, he, rfl⟩ := Option.map_eq_some_iff.1 hchange
          refine .inr ⟨e, he, h.allowed _ _ _, ?_⟩
          simp [Store.image, Store.commit, Store.release, h.get_put]
      have hput : s₂.committed = put s₁.committed (get s₂.committed) := by
        rcases hcall with ⟨-, rfl⟩ | ⟨_, hchange, -, rfl⟩
        · exact (h.put_get _).symm
        · obtain ⟨e, -, rfl⟩ := Option.map_eq_some_iff.1 hchange
          simp [Store.commit, h.get_put]
      obtain ⟨hguar, hnext⟩ := hp _ (himage hrely) _ _ hperforms
      have hguar' := h.guarantee_of_image (.commit _) r hrely.2.2 hput hguar
      exact ⟨hguar', ih _ hguar'.1 hnext⟩

/-- **A transaction about a part of the database** respects the discipline of the whole. -/
theorem keeps (h : Focuses T T' get put) {A : Store ι K D → Prop} {x : Transaction K D E α}
    {B : α → Store ι K D → Prop} (hx : T.Keeps i A x B) :
    T'.Keeps i (fun s => A (s.image get)) (x.focus get put) fun a s => B a (s.image get) := by
  refine ⟨fun s hs hA => ?_⟩
  have hmeets := h.meets_focusProgram hs (hx.meets _ (h.invariant_image hs) hA)
  exact hmeets.mono fun r s' hr a ha => ⟨hr.1, (hr.2 a ha).2⟩

end Discipline.Focuses

end Focus

end Transactions
