import Depot.Proofs.Dialogue.Pact

/-!
# Along one line of answers

`Dialogue.Leads` follows a dialogue along one line of answers, whoever gives them.  A run against a peer is one
such line (`leads_run`), two dialogues in a row are followed one after the other (`leads_bind`), and what a
dialogue honours whatever is answered holds at the end of every line (`Honours.leads`).
-/

namespace Depot.Dialogue

variable {σ ε α β : Type} {pact : Pact ε} {Q : α → Log ε → Prop} {past log : Log ε} {a : α}

/-- A run is a line of answers. -/
theorem leads_run (env : Environment σ) (d : Dialogue ε α) (t : σ) :
    d.Leads (d.run env t).log (d.run env t).value := by
  induction d generalizing t with
  | done a => exact .done a
  | emit e next ih => exact .emit (ih t)
  | read source start stop next ih => exact .read _ (ih _ _)
  | send request next ih => exact .send _ (ih _ _)

/-- **What is honoured holds at the end of every line** that can be relied on. -/
theorem Honours.leads {d : Dialogue ε α} (h : d.Honours pact Q past) (leads : d.Leads log a)
    (relied : Follows pact.relies past log) : Q a (past ++ log) := by
  induction leads generalizing past with
  | done a => rwa [List.append_nil]
  | emit leads ih =>
    have ends := ih h relied.2
    rwa [List.append_assoc] at ends
  | read outcome leads ih =>
    have ends := ih (h outcome relied.1) relied.2
    rwa [List.append_assoc] at ends
  | send reply leads ih =>
    have ends := ih (h.2 reply relied.1) relied.2
    rwa [List.append_assoc] at ends

/-- Whatever is answered, to honour a promise is to keep it at the end of every line. -/
theorem honours_any_iff {d : Dialogue ε α} :
    d.Honours .any Q past ↔ ∀ log a, d.Leads log a → Q a (past ++ log) := by
  refine ⟨fun h log a leads => h.leads leads (follows_any _ _), fun kept => ?_⟩
  induction d generalizing past with
  | done a =>
    have ends := kept [] a (.done a)
    rwa [List.append_nil] at ends
  | emit e next ih =>
    refine ih fun log a leads => ?_
    rw [List.append_assoc]
    exact kept (.told e :: log) a (.emit leads)
  | read source start stop next ih =>
    refine fun outcome _ => ih outcome fun log a leads => ?_
    rw [List.append_assoc]
    exact kept (.read source start stop outcome :: log) a (.read outcome leads)
  | send request next ih =>
    refine ⟨trivial, fun reply _ => ih reply fun log a leads => ?_⟩
    rw [List.append_assoc]
    exact kept (.sent request reply :: log) a (.send reply leads)

/-! ### Following a dialogue -/

@[simp] theorem leads_pure {b : α} : (pure b : Dialogue ε α).Leads log a ↔ log = [] ∧ a = b := by
  constructor
  · rintro ⟨⟩
    exact ⟨rfl, rfl⟩
  · rintro ⟨rfl, rfl⟩
    exact .done a

/-- **Two dialogues in a row** are followed one after the other. -/
theorem leads_bind {d : Dialogue ε β} {k : β → Dialogue ε α} : (d >>= k).Leads log a ↔
    ∃ b first second, d.Leads first b ∧ (k b).Leads second a ∧ log = first ++ second := by
  show (d.bind k).Leads log a ↔ _
  constructor
  · intro leads
    induction d generalizing log with
    | done b => exact ⟨b, [], log, .done b, leads, rfl⟩
    | emit e next ih =>
      cases leads with
      | emit leads =>
        obtain ⟨b, first, second, ends, goes, rfl⟩ := ih leads
        exact ⟨b, .told e :: first, second, .emit ends, goes, rfl⟩
    | read source start stop next ih =>
      cases leads with
      | read outcome leads =>
        obtain ⟨b, first, second, ends, goes, rfl⟩ := ih outcome leads
        exact ⟨b, .read source start stop outcome :: first, second, .read outcome ends, goes, rfl⟩
    | send request next ih =>
      cases leads with
      | send reply leads =>
        obtain ⟨b, first, second, ends, goes, rfl⟩ := ih reply leads
        exact ⟨b, .sent request reply :: first, second, .send reply ends, goes, rfl⟩
  · rintro ⟨b, first, second, ends, goes, rfl⟩
    induction ends with
    | done b => exact goes
    | emit _ ih => exact .emit (ih goes)
    | read outcome _ ih => exact .read outcome (ih goes)
    | send reply _ ih => exact .send reply (ih goes)

/-- To tell something and be done. -/
theorem leads_closing {e : ε} {b : α} :
    (do tell e; return b : Dialogue ε α).Leads log a ↔ log = [.told e] ∧ a = b := by
  constructor
  · rintro (_ | ⟨⟨⟩⟩)
    exact ⟨rfl, rfl⟩
  · rintro ⟨rfl, rfl⟩
    exact .emit (.done a)

end Depot.Dialogue
