import Depot.Proofs.Dialogue.Log

/-!
# Whatever is answered

`Dialogue.Meets` follows a dialogue against one peer.  Here it is followed along every line of answers, and
what is known on the way is the log of all that has happened so far.  A `Pact` has two sides: what the
dialogue may ask, and what it relies on when it is answered, both by what has happened before.

`Dialogue.Honours` computes, by recursion on the dialogue, what has to be shown for that.  As with a contract,
two facts carry everything else:

* `Honours.run`: in a run in which the other side does what the pact relies on, every request is admitted at
  its place in the log, and the end is as promised;
* `honours_bind`: of two dialogues in a row, the first one has to end where the second one may begin.
-/

namespace Depot.Dialogue

variable {σ ε α β : Type}

/-- What may be asked, and what may be answered, by what has happened before. -/
structure Pact (ε : Type) where
  /-- What may be asked. -/
  admits : Log ε → Request → Prop
  /-- What may happen next. -/
  relies : Log ε → Happening ε → Prop

/-- Anything may be asked, and anything be answered. -/
def Pact.any : Pact ε := ⟨fun _ _ => True, fun _ _ => True⟩

theorem follows_any (past log : Log ε) : Follows Pact.any.relies past log :=
  follows_iff.2 fun _ _ _ _ => trivial

/-- What is asked next is admitted. -/
def Pact.Admits (pact : Pact ε) (past : Log ε) : Happening ε → Prop
  | .sent request _ => pact.admits past request
  | _ => True

/-- After what has happened, the dialogue honours the pact and comes to an end where its value and the log
satisfy `Q`. -/
def Honours (pact : Pact ε) (Q : α → Log ε → Prop) : Dialogue ε α → Log ε → Prop
  | done a, past => Q a past
  | emit e next, past => next.Honours pact Q (past ++ [.told e])
  | read source start stop next, past =>
    ∀ outcome, pact.relies past (.read source start stop outcome) →
      (next outcome).Honours pact Q (past ++ [.read source start stop outcome])
  | send request next, past =>
    pact.admits past request ∧ ∀ reply, pact.relies past (.sent request reply) →
      (next reply).Honours pact Q (past ++ [.sent request reply])

variable {pact : Pact ε} {Q Q' : α → Log ε → Prop} {past : Log ε}

/-- **What it means to honour a pact**, in a run in which the other side can be relied on. -/
theorem Honours.run {d : Dialogue ε α} (h : d.Honours pact Q past) (env : Environment σ) (t : σ)
    (relied : Follows pact.relies past (d.run env t).log) :
    Follows pact.Admits past (d.run env t).log ∧
      Q (d.run env t).value (past ++ (d.run env t).log) := by
  -- one happening more is in the past, one fewer in the rest of the log
  induction d generalizing past t with
  | done a =>
    refine ⟨trivial, ?_⟩
    show Q a (past ++ [])
    rwa [List.append_nil]
  | emit e next ih =>
    obtain ⟨admitted, ends⟩ := ih h t relied.2
    refine ⟨⟨trivial, admitted⟩, ?_⟩
    rwa [List.append_assoc] at ends
  | read source start stop next ih =>
    obtain ⟨admitted, ends⟩ := ih _ (h _ relied.1) _ relied.2
    refine ⟨⟨trivial, admitted⟩, ?_⟩
    rwa [List.append_assoc] at ends
  | send request next ih =>
    obtain ⟨admitted, ends⟩ := ih _ (h.2 _ relied.1) _ relied.2
    refine ⟨⟨h.1, admitted⟩, ?_⟩
    rwa [List.append_assoc] at ends

theorem Honours.mono {d : Dialogue ε α} (h : d.Honours pact Q past)
    (imp : ∀ a log, Q a log → Q' a log) : d.Honours pact Q' past := by
  induction d generalizing past with
  | done a => exact imp a past h
  | emit e next ih => exact ih h
  | read source start stop next ih => exact fun outcome relied => ih outcome (h outcome relied)
  | send request next ih => exact ⟨h.1, fun reply relied => ih reply (h.2 reply relied)⟩

/-- A pact may be relaxed: it admits more, and relies on more. -/
theorem Honours.relax {pact' : Pact ε} {d : Dialogue ε α} (h : d.Honours pact Q past)
    (admits : ∀ log request, pact.admits log request → pact'.admits log request)
    (relies : ∀ log e, pact'.relies log e → pact.relies log e) : d.Honours pact' Q past := by
  induction d generalizing past with
  | done a => exact h
  | emit e next ih => exact ih h
  | read source start stop next ih => exact fun outcome relied => ih outcome (h outcome (relies _ _ relied))
  | send request next ih =>
    exact ⟨admits _ _ h.1, fun reply relied => ih reply (h.2 reply (relies _ _ relied))⟩

/-- What is honoured to two ends is honoured to both. -/
theorem Honours.and {d : Dialogue ε α} (h : d.Honours pact Q past) (h' : d.Honours pact Q' past) :
    d.Honours pact (fun a log => Q a log ∧ Q' a log) past := by
  induction d generalizing past with
  | done a => exact ⟨h, h'⟩
  | emit e next ih => exact ih h h'
  | read source start stop next ih =>
    exact fun outcome relied => ih outcome (h outcome relied) (h' outcome relied)
  | send request next ih => exact ⟨h.1, fun reply relied => ih reply (h.2 reply relied) (h'.2 reply relied)⟩

/-! ### Following a dialogue -/

@[simp] theorem honours_pure {a : α} : (pure a : Dialogue ε α).Honours pact Q past ↔ Q a past := Iff.rfl

/-- **Two dialogues in a row**: the first one ends where the second one may begin. -/
@[simp] theorem honours_bind {d : Dialogue ε β} {k : β → Dialogue ε α} :
    (d >>= k).Honours pact Q past ↔ d.Honours pact (fun b log => (k b).Honours pact Q log) past := by
  show (d.bind k).Honours pact Q past ↔ _
  induction d generalizing past with
  | done b => rfl
  | emit e next ih => exact ih
  | read source start stop next ih => simp only [bind, Honours, ih]
  | send request next ih => simp only [bind, Honours, ih]

theorem honours_ask {request : Request} {Q : Reply → Log ε → Prop} :
    (ask request : Dialogue ε Reply).Honours pact Q past ↔
      pact.admits past request ∧ ∀ reply, pact.relies past (.sent request reply) →
        Q reply (past ++ [.sent request reply]) := Iff.rfl

theorem honours_fetch {source : ByteSource} {start stop : Nat}
    {Q : Except IoError Bytes → Log ε → Prop} :
    (fetch source start stop : Dialogue ε _).Honours pact Q past ↔
      ∀ outcome, pact.relies past (.read source start stop outcome) →
        Q outcome (past ++ [.read source start stop outcome]) := Iff.rfl

theorem honours_tell {e : ε} {Q : Unit → Log ε → Prop} :
    (tell e : Dialogue ε Unit).Honours pact Q past ↔ Q () (past ++ [.told e]) := Iff.rfl

theorem honours_tellAll {told : List ε} {Q : Unit → Log ε → Prop} :
    (tellAll told : Dialogue ε Unit).Honours pact Q past ↔ Q () (past ++ told.map .told) := by
  induction told generalizing past with
  | nil =>
    rw [List.map_nil, List.append_nil]
    rfl
  | cons e rest ih =>
    show (tellAll rest).Honours pact Q (past ++ [.told e]) ↔ _
    rw [ih, List.append_assoc]
    rfl

/-! ### Ends that do not depend on answers -/

theorem Always.run {P : α → Prop} {d : Dialogue ε α} (h : d.Always P) (env : Environment σ) (t : σ) :
    P (d.run env t).value := by
  induction d generalizing t with
  | done a => exact h
  | emit e next ih => exact ih h t
  | read source start stop next ih => exact ih _ (h _) _
  | send request next ih => exact ih _ (h _) _

theorem Always.mono {P P' : α → Prop} {d : Dialogue ε α} (h : d.Always P) (imp : ∀ a, P a → P' a) :
    d.Always P' := by
  induction d with
  | done a => exact imp a h
  | emit e next ih => exact ih h
  | read source start stop next ih => exact fun outcome => ih outcome (h outcome)
  | send request next ih => exact fun reply => ih reply (h reply)

/-- What comes last decides the end. -/
theorem always_bind {P : α → Prop} (d : Dialogue ε β) {k : β → Dialogue ε α} (h : ∀ b, (k b).Always P) :
    (d >>= k).Always P := by
  show (d.bind k).Always P
  induction d with
  | done b => exact h b
  | emit e next ih => exact ih
  | read source start stop next ih => exact fun outcome => ih outcome
  | send request next ih => exact fun reply => ih reply

end Depot.Dialogue
