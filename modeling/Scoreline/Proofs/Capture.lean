import Scoreline.Feed.Client
import Scoreline.Feed.Dump
import Scoreline.Graph
import Scoreline.Proofs.Event

/-!
# Scoreline.Proofs.Capture

What is kept for another run is the same when it is read again: dumps, settings, the configurations of
clients, and graphs (`captures_reread`). All of them are records of lawful members. The members of a
dump and the cookie of a client may be missing; they are written as `null` then, which no list, no
integer and no string is taken for.
-/

namespace Scoreline

open Json

theorem Dump.form_lawful : Dump.form.Lawful := by
  refine Form.record_lawful _ ?_ fun _ => rfl
  have htime := Form.option_lawful Form.int64_lawful Form.int64_neverNull
  have hteams := Form.option_lawful (Form.list_lawful Team.form_lawful) (Form.list_neverNull _)
  have hteam := Form.option_lawful (Form.list_lawful Event.form_lawful) (Form.list_neverNull _)
  exact ⟨by decide, htime, by decide, hteams, by decide, hteam, trivial⟩

theorem Settings.form_lawful : Settings.form.Lawful := by
  refine Form.record_lawful _ ?_ fun _ => rfl
  exact ⟨by decide, Form.word_lawful _, by decide, Form.int64_lawful, by decide, Form.int64_lawful,
    trivial⟩

theorem ClientConfig.form_lawful : ClientConfig.form.Lawful := by
  refine Form.record_lawful _ ?_ fun _ => rfl
  have hcookie := Form.option_lawful Form.string_lawful Form.string_neverNull
  exact ⟨by decide, Form.string_lawful, by decide, Form.word_lawful _, by decide, hcookie, trivial⟩

/-! ## Graphs -/

theorem Window.form_lawful : Window.form.Lawful := by
  refine Form.record_lawful _ ?_ fun _ => rfl
  exact ⟨by decide, Form.int64_lawful, by decide, Form.int64_lawful, trivial⟩

theorem Layout.form_lawful : Layout.form.Lawful := by
  refine Form.record_lawful _ ?_ fun _ => rfl
  exact ⟨by decide, Window.form_lawful, by decide, Form.int64_lawful, by decide,
    Form.word_lawful _, trivial⟩

theorem Graph.form_lawful : Graph.form.Lawful := by
  refine Form.record_lawful _ ?_ fun _ => rfl
  have hseries := Form.list_lawful (Form.list_lawful Form.int64_lawful)
  exact ⟨by decide, Layout.form_lawful, by decide, hseries, trivial⟩

/-- Dumps, settings, configurations of clients and graphs are read back from their texts, whatever
they hold. -/
theorem captures_reread (d : Dump) (s : Settings) (c : ClientConfig) (g : Graph) :
    Dump.form.Rereads d ∧ Settings.form.Rereads s ∧ ClientConfig.form.Rereads c ∧
      Graph.form.Rereads g :=
  ⟨Dump.form_lawful.rereads d, Settings.form_lawful.rereads s, ClientConfig.form_lawful.rereads c,
    Graph.form_lawful.rereads g⟩

end Scoreline
