import Scoreline.Feed.Dump
import Scoreline.Proofs.Feed.Root
import Scoreline.Proofs.Json.Additions

/-!
# Scoreline.Proofs.Payload

What a server sends may grow. A status, an event, a team and a dump, and lists of them, are read as
before when members are added to their objects that they do not have, when such members are taken away,
when the members come in another order, and when the blanks are others (`Payload.parse_of_changes`). What
is added may be any JSON: numbers of any size, strings that are no texts, and members with the names of
the payload's own, further in. It may change at will, since it may be taken away and something else be
added.
-/

namespace Scoreline

open Json (Form Fields Shape Change Tree Key)
open Text (utf8)

def Event.shape : Shape := .record [("time", .plain), ("score", .plain)]

def Team.shape : Shape := .record [("name", .plain), ("score_progression", .list Event.shape)]

def Status.shape : Shape := .record [("time", .plain)]

def Dump.shape : Shape :=
  .record [("time", .plain), ("teams", .list Team.shape), ("team", .list Event.shape)]

theorem Event.form_steady : Event.form.Steady Event.shape :=
  Fields.Steady.record (.cons (Form.steady_plain Json.reads_int64)
    (.cons (Form.steady_plain Json.reads_int64) .nil)) _ _ _

theorem Team.form_steady : Team.form.Steady Team.shape :=
  Fields.Steady.record (.cons (Form.steady_plain Json.reads_string)
    (.cons Event.form_steady.list .nil)) _ _ _

theorem Status.form_steady : Status.form.Steady Status.shape :=
  Fields.Steady.record (.cons (Form.steady_plain Json.reads_int64) .nil) _ _ _

theorem Dump.form_steady : Dump.form.Steady Dump.shape :=
  Fields.Steady.record (.cons (Form.steady_plain Json.reads_int64.option)
    (.cons Team.form_steady.list.option (.cons Event.form_steady.list.option .nil))) _ _ _

/-- The forms of what a server sends and a dump keeps, and where their records are. -/
inductive Payload : {α : Type} → Form α → Shape → Prop where
  | status : Payload Status.form Status.shape
  | event : Payload Event.form Event.shape
  | team : Payload Team.form Team.shape
  | dump : Payload Dump.form Dump.shape
  | list {α : Type} {f : Form α} {s : Shape} (h : Payload f s) : Payload (.list f) (.list s)

namespace Payload

variable {α : Type} {f : Form α} {s : Shape}

theorem steady (h : Payload f s) : f.Steady s := by
  induction h with
  | status => exact Status.form_steady
  | event => exact Event.form_steady
  | team => exact Team.form_steady
  | dump => exact Dump.form_steady
  | list _ ih => exact ih.list

/-- A text that is read is of a tree, and all texts of that tree and of what changes make of it are read
as the same. -/
theorem parse_of_changes (h : Payload f s) {text : Bytes} {a : α} (hparse : f.parse text = .ok a) :
    (∃ t : Tree, t.WholeText text) ∧
      ∀ (t t' : Tree) (text' : Bytes), t.WholeText text → Relation.EqvGen (Change s) t t' →
        t'.WholeText text' → f.parse text' = .ok a := by
  constructor
  · obtain ⟨t, ht, -⟩ := h.steady.reads.exists_wholeText hparse
    exact ⟨t, ht⟩
  · intro t t' text' ht hchanges ht'
    exact (h.steady.parse_iff hchanges ht ht').1 hparse

/-- An event gets a member that has a `time` of its own, between its members in another order. -/
theorem parse_event_grown :
    let text := utf8 "\x7b\"time\":15,\"score\":-7\x7d"
    let grown := utf8 "\x7b\"score\":-7,\"solver\":\x7b\"time\":[true]\x7d,\"time\":15\x7d"
    Event.form.parse text = .ok ⟨15, -7⟩ ∧ Event.form.parse grown = .ok ⟨15, -7⟩ := by
  intro text grown
  have hparse : Event.form.parse text = .ok ⟨15, -7⟩ := ok_of_toOption (by decide +kernel)
  have hfifteen : Json.Magnitude (utf8 "15") :=
    @Json.Magnitude.digits 0x31 [0x35] [] [] rfl (by decide) (List.forall_mem_singleton.2 rfl)
      .none .none
  have hseven : Json.Magnitude (utf8 "7") :=
    @Json.Magnitude.digits 0x37 [] [] [] rfl (by decide) (List.forall_mem_nil _) .none .none
  let time : Key × Tree := (.written "time", .plain _ (.magnitude hfifteen))
  let score : Key × Tree := (.written "score", .plain _ (.negative hseven))
  let more : Tree := .object [(.written "time", .array [.plain _ .literalTrue])]
  have hreorder : Change Event.shape (.object [time, score]) (.object [score, time]) :=
    .reorder (.swap score time [])
  have hadd : Change Event.shape (.object [score, time])
      (.object [score, (.written "solver", more), time]) :=
    @Change.add _ [score] [time] _ _ more (Key.names_written "solver") (by decide)
  have hchanges := Relation.EqvGen.trans _ _ _ (.rel _ _ hreorder) (.rel _ _ hadd)
  exact ⟨hparse, (event.parse_of_changes hparse).2 _ _ grown
    (Tree.wholeText_compact (.object [time, score])) hchanges (Tree.wholeText_compact _)⟩

end Payload

end Scoreline
