import Manuscript.Proofs.Xhtml.Outside

/-!
# After the body

The end of the body is the only call that brings a document to its last phase
(`Session.exists_endsBody`). From then on a run writes nothing to the root (`Session.run_done`):
what may still be begun there are macros, and their content is held back.
-/

namespace Manuscript

open Markup Xhtml

namespace Session

variable {loose : String → Prop} {s : Session} {calls : List Call}

/-- After the end of the body a call leaves the phase, and what stands at the root. -/
theorem perform_done (call : Call) (free : ∀ id, loose id) (h : s.document.Settled loose)
    (hp : s.document.phase = .done) :
    (s.perform backend call).2.document.phase = .done ∧
      (s.perform backend call).2.document.output.whole = s.document.output.whole := by
  have outside : s.document.phase ≠ .body := by
    rw [hp]
    decide
  rcases turn_perform call free h with ⟨_, turn⟩ | ⟨ht, same⟩
  · rw [hp] at turn
    cases turn
  · exact ⟨same.trans hp, perform_outside call h outside ht⟩

/-- After the end of the body a run writes nothing to the root. -/
theorem run_done (calls : List Call) (free : ∀ id, loose id) (h : s.document.Settled loose)
    (hp : s.document.phase = .done) :
    (s.run backend calls).document.phase = .done ∧
      (s.run backend calls).document.output.whole = s.document.output.whole := by
  induction calls generalizing s with
  | nil => exact ⟨hp, rfl⟩
  | cons call calls ih =>
    obtain ⟨phase, whole⟩ := perform_done call free h hp
    have settled := (settled_perform_of_forall call free h).1
    obtain ⟨done, same⟩ := ih settled phase
    rw [run_cons]
    exact ⟨done, same.trans whole⟩

/-- A document that has come to a phase was brought there by a turn. -/
theorem exists_turn {phase : Phase} (free : ∀ id, loose id) (h : s.document.Settled loose)
    (hp : s.document.phase ≠ phase) (he : (s.run backend calls).document.phase = phase) :
    ∃ before call after, calls = before ++ call :: after ∧
      ((s.run backend before).perform backend call).1.isOk = true ∧
      Turn (s.run backend before).document.phase call phase := by
  induction calls generalizing s with
  | nil => exact absurd he hp
  | cons call calls ih =>
    by_cases hd : (s.perform backend call).2.document.phase = phase
    · rcases turn_perform call free h with ⟨accepted, turn⟩ | ⟨_, same⟩
      · exact ⟨[], call, calls, rfl, accepted, hd ▸ turn⟩
      · exact absurd (same.symm.trans hd) hp
    · rw [run_cons] at he
      obtain ⟨before, turn, after, rfl, accepted, turns⟩ :=
        ih (settled_perform_of_forall call free h).1 hd he
      exact ⟨call :: before, turn, after, rfl, accepted, turns⟩

/-- The end of the body is accepted between two parts of a list of calls. -/
def EndsBody (s : Session) (calls before after : List Call) : Prop :=
  calls = before ++ .endElement .body :: after ∧
    ((s.run backend before).perform backend (.endElement .body)).1.isOk = true

/-- A document comes to its last phase when its body is ended. -/
theorem exists_endsBody {calls : List Call} (free : ∀ id, loose id) (h : s.document.Settled loose)
    (hp : s.document.phase ≠ .done) (he : (s.run backend calls).document.phase = .done) :
    ∃ before after, s.EndsBody calls before after := by
  obtain ⟨before, call, after, rfl, accepted, turn⟩ := exists_turn free h hp he
  obtain rfl := turn.call_eq .endBody
  exact ⟨before, after, rfl, accepted⟩

end Session

end Manuscript
