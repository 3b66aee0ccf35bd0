import Depot.Dialogue

/-!
# Reasoning about runs

A run of a dialogue takes the peer through a list of `states`, and each of its requests finds the peer in
one of them (`encounters`).  A `Contract` says what may be seen on the way: which states are good, and which
requests may be put in a state.

`Dialogue.Meets` computes, by recursion on the dialogue, what has to be shown of a run: that it honours a
contract and ends well.  Two facts carry everything else:

* `meets_iff`: to meet a contract is to honour it in every state and at every encounter of the run, and to
  end with a value and a peer as promised;
* `meets_bind`: of two dialogues in a row, the first one has to end where the second one may begin.

So a proof about a call follows the text of the call, one exchange after the other, and the statement about
the whole run is read off at the end.
-/

namespace Depot.Dialogue

variable {σ ε α β : Type} {env : Environment σ}

/-! ### What a run goes through -/

/-- The states of the peer: the first one, and the one after each exchange and each read. -/
def states (env : Environment σ) : Dialogue ε α → σ → List σ
  | done _, t => [t]
  | emit _ next, t => next.states env t
  | read source start stop next, t =>
    t :: (next (env.read source start stop t).1).states env (env.read source start stop t).2
  | send request next, t => t :: (next (env.send request t).1).states env (env.send request t).2

/-- The requests, each with the state in which it finds the peer. -/
def encounters (env : Environment σ) : Dialogue ε α → σ → List (Request × σ)
  | done _, _ => []
  | emit _ next, t => next.encounters env t
  | read source start stop next, t =>
    (next (env.read source start stop t).1).encounters env (env.read source start stop t).2
  | send request next, t =>
    (request, t) :: (next (env.send request t).1).encounters env (env.send request t).2

/-- The encounters are about the requests that are logged. -/
theorem requests_run (d : Dialogue ε α) (t : σ) :
    requests (d.run env t).log = (d.encounters env t).map Prod.fst := by
  induction d generalizing t with
  | done a => rfl
  | emit e next ih => exact ih t
  | read source start stop next ih => exact ih _ _
  | send request next ih =>
    show request :: requests ((next (env.send request t).1).run env (env.send request t).2).log = _
    rw [ih]
    rfl

/-- What two dialogues in a row encounter. -/
theorem encounters_bind (d : Dialogue ε β) (k : β → Dialogue ε α) (t : σ) :
    (d >>= k).encounters env t =
      d.encounters env t ++ (k (d.run env t).value).encounters env (d.run env t).peer := by
  show (d.bind k).encounters env t = _
  induction d generalizing t with
  | done b => rfl
  | emit e next ih => exact ih t
  | read source start stop next ih => exact ih _ _
  | send request next ih =>
    show _ :: ((next (env.send request t).1).bind k).encounters env (env.send request t).2 = _
    rw [ih]
    rfl

/-- Of three dialogues in a row, it does not matter which two are put together first. -/
theorem bind_bind {γ : Type} (d : Dialogue ε α) (k : α → Dialogue ε β) (l : β → Dialogue ε γ) :
    (d >>= k) >>= l = d >>= fun a => k a >>= l := by
  show (d.bind k).bind l = d.bind fun a => (k a).bind l
  induction d with
  | done a => rfl
  | emit e next ih => simp only [bind, ih]
  | read source start stop next ih => simp only [bind, ih]
  | send request next ih => simp only [bind, ih]

/-- The value of two dialogues in a row is the value of the second one. -/
theorem value_bind (d : Dialogue ε β) (k : β → Dialogue ε α) (t : σ) :
    ((d >>= k).run env t).value = ((k (d.run env t).value).run env (d.run env t).peer).value := by
  show ((d.bind k).run env t).value = _
  induction d generalizing t with
  | done b => rfl
  | emit e next ih => exact ih t
  | read source start stop next ih => exact ih _ _
  | send request next ih => exact ih _ _

@[simp] theorem encounters_pure (a : α) (t : σ) :
    (pure a : Dialogue ε α).encounters env t = [] := rfl

@[simp] theorem encounters_tellAll (events : List ε) (t : σ) :
    (tellAll events).encounters env t = [] := by
  induction events with
  | nil => rfl
  | cons e rest ih => exact ih

/-! ### Contracts -/

/-- What may be seen while a dialogue runs. -/
structure Contract (σ : Type) where
  /-- The peer is in a good state. -/
  good : σ → Prop
  /-- The request may be put to a peer in this state. -/
  admits : Request → σ → Prop

/-- Nothing is asked of what is seen on the way. -/
def Contract.any : Contract σ := ⟨fun _ => True, fun _ _ => True⟩

/-- From `t` on, the run honours the contract and ends with a value and a state that satisfy `Q`. -/
def Meets (env : Environment σ) (C : Contract σ) (Q : α → σ → Prop) : Dialogue ε α → σ → Prop
  | done a, t => C.good t ∧ Q a t
  | emit _ next, t => next.Meets env C Q t
  | read source start stop next, t =>
    C.good t ∧ (next (env.read source start stop t).1).Meets env C Q (env.read source start stop t).2
  | send request next, t =>
    C.good t ∧ C.admits request t ∧
      (next (env.send request t).1).Meets env C Q (env.send request t).2

variable {C : Contract σ} {Q Q' : α → σ → Prop}

/-- **What it means to meet a contract**: every state of the run is good, every request is admitted in the
state that it finds, and the end is as promised. -/
theorem meets_iff {d : Dialogue ε α} {t : σ} :
    d.Meets env C Q t ↔ (∀ u ∈ d.states env t, C.good u) ∧
      (∀ e ∈ d.encounters env t, C.admits e.1 e.2) ∧
        Q (d.run env t).value (d.run env t).peer := by
  induction d generalizing t with
  | done a => simp [Meets, states, encounters, run]
  | emit e next ih => simpa [Meets, states, encounters, run] using ih
  | read source start stop next ih =>
    simp only [Meets, states, encounters, run, ih, List.forall_mem_cons, and_assoc]
  | send request next ih =>
    simp only [Meets, states, encounters, run, ih, List.forall_mem_cons]
    constructor
    · rintro ⟨hgood, hadmits, hstates, hencounters, hend⟩
      exact ⟨⟨hgood, hstates⟩, ⟨hadmits, hencounters⟩, hend⟩
    · rintro ⟨⟨hgood, hstates⟩, ⟨hadmits, hencounters⟩, hend⟩
      exact ⟨hgood, hadmits, hstates, hencounters, hend⟩

theorem Meets.good {d : Dialogue ε α} {t : σ} (h : d.Meets env C Q t) : C.good t := by
  induction d with
  | done a => exact h.1
  | emit e next ih => exact ih h
  | read source start stop next ih => exact h.1
  | send request next ih => exact h.1

theorem Meets.mono {d : Dialogue ε α} {t : σ} (h : d.Meets env C Q t)
    (imp : ∀ a u, C.good u → Q a u → Q' a u) : d.Meets env C Q' t := by
  induction d generalizing t with
  | done a => exact ⟨h.1, imp a t h.1 h.2⟩
  | emit e next ih => exact ih h
  | read source start stop next ih => exact ⟨h.1, ih _ h.2⟩
  | send request next ih => exact ⟨h.1, h.2.1, ih _ h.2.2⟩

@[simp] theorem meets_pure {a : α} {t : σ} :
    (pure a : Dialogue ε α).Meets env C Q t ↔ C.good t ∧ Q a t := Iff.rfl

/-- **Two dialogues in a row**: the first one ends where the second one may begin. -/
@[simp] theorem meets_bind {d : Dialogue ε β} {k : β → Dialogue ε α} {t : σ} :
    (d >>= k).Meets env C Q t ↔ d.Meets env C (fun b u => (k b).Meets env C Q u) t := by
  show (d.bind k).Meets env C Q t ↔ _
  -- the state between the two is good twice over: as the last of the first and the first of the second
  induction d generalizing t with
  | done b =>
    simp only [bind, Meets]
    exact ⟨fun h => ⟨h.good, h⟩, fun h => h.2⟩
  | emit e next ih => exact ih
  | read source start stop next ih => simp only [bind, Meets, ih]
  | send request next ih => simp only [bind, Meets, ih]

theorem meets_ask {request : Request} {Q : Reply → σ → Prop} {t : σ} :
    (ask request : Dialogue ε Reply).Meets env C Q t ↔
      C.good t ∧ C.admits request t ∧ C.good (env.send request t).2 ∧
        Q (env.send request t).1 (env.send request t).2 := Iff.rfl

@[simp] theorem meets_tell {e : ε} {Q : Unit → σ → Prop} {t : σ} :
    (tell e : Dialogue ε Unit).Meets env C Q t ↔ C.good t ∧ Q () t := Iff.rfl

/-- Nobody answers to what is told. -/
@[simp] theorem meets_tellAll {events : List ε} {Q : Unit → σ → Prop} {t : σ} :
    (tellAll events : Dialogue ε Unit).Meets env C Q t ↔ C.good t ∧ Q () t := by
  induction events with
  | nil => exact Iff.rfl
  | cons e rest ih => exact ih

end Depot.Dialogue
