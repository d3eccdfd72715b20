import Scoreline.Event
import Scoreline.Proofs.Json.Form

/-!
# Scoreline.Proofs.Event

What a platform reports is read as it was written.
-/

namespace Scoreline

open Json

theorem Event.form_lawful : Event.form.Lawful := by
  refine Form.record_lawful _ ?_ fun _ => rfl
  exact ⟨by decide, Form.int64_lawful, by decide, Form.int64_lawful, trivial⟩

theorem Team.form_lawful : Team.form.Lawful := by
  refine Form.record_lawful _ ?_ fun _ => rfl
  exact ⟨by decide, Form.string_lawful, by decide, Form.list_lawful Event.form_lawful, trivial⟩

theorem Status.form_lawful : Status.form.Lawful := by
  refine Form.record_lawful _ ?_ fun _ => rfl
  exact ⟨by decide, Form.int64_lawful, trivial⟩

end Scoreline
