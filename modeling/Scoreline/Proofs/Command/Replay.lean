import Scoreline.Proofs.Command.Guards

/-!
# Scoreline.Proofs.Command.Replay

A dump that knows its time is drawn as it is for that time (`Dump.snapshot_none_eq`), so a command on
it comes to the same with the time as its present and without a present. The clock of a dump answers
at once and without a notice, and what is asked with it is then as good as asked alone
(`Call.both_of_ready`).

On the command line the present is an option. In front of all others it changes nothing but the present
of what is asked for (`parse_now`): reading goes on as before as long as no present is met
(`gather_now`).

`replay_unchanged` puts both together, and says what becomes of a dump without a time.
-/

namespace Scoreline

/-! ## The clock of a dump -/

/-- A question beside one that has its answer already is as good as asked alone. -/
theorem Call.both_of_ready {α β : Type} (a : α) (b : Call β) :
    (Call.atOnce [] (.ok a)).both b = b.run.andThen fun y => .said [] (.ok (a, y)) := by
  cases hresult : b.run.result with
  | error e => simp only [both, paired, Run.andThen, hresult, List.map_nil, List.nil_append]
  | ok y =>
    simp only [both, paired, Run.andThen, Run.said, hresult, List.map_nil, List.nil_append,
      List.append_nil]

theorem Run.andThen_andThen {ε α β γ : Type} (r : Run ε α) (f : α → Run ε β) (g : β → Run ε γ) :
    (r.andThen f).andThen g = r.andThen fun a => (f a).andThen g := by
  cases hresult : r.result with
  | error e => simp only [andThen, hresult]
  | ok a =>
    cases hnext : (f a).result with
    | error e => simp only [andThen, hresult, hnext]
    | ok b => simp only [andThen, hresult, hnext, List.append_assoc]

theorem Run.said_andThen {ε α β : Type} (a : α) (next : α → Run ε β) :
    (Run.said [] (.ok a)).andThen next = next a := rfl

theorem Run.andThen_congr {ε α β : Type} {r : Run ε α} {next next' : α → Run ε β}
    (h : ∀ a, r.result = .ok a → next a = next' a) : r.andThen next = r.andThen next' := by
  cases hresult : r.result with
  | error e => simp only [andThen, hresult]
  | ok a => simp only [andThen, hresult, h a hresult]

namespace Dump

variable {d : Dump}

/-- Whether the dump has the progressions of a source. -/
def Serves (d : Dump) : Source → Prop
  | .ranking _ _ => ∃ teams, d.teams = some teams
  | .team _ => ∃ events, d.team = some events

/-- The dump with another time, or with none. -/
def withTime (d : Dump) (time : Option Int64) : Dump := { d with time := time }

/-- The time of a dump is the present unless another is given. -/
theorem snapshot_none_eq {t : Int64} (h : d.time = some t) (source : Source) :
    d.feed.snapshot source none = d.feed.snapshot source (some t) := by
  have hclock : d.feed.status = .atOnce [] (.ok ⟨t⟩) := by
    rw [feed, h]
    rfl
  simp only [Feed.snapshot, hclock, Call.both_of_ready, Run.andThen_andThen, Run.said_andThen]

theorem snapshot_none_missing (h : d.time = none) (source : Source) :
    (d.feed.snapshot source none).result = .error (.missing "time") := by
  have hclock : d.feed.status = .atOnce [] (.error (.missing "time")) := by
    rw [feed, h]
    rfl
  simp only [Feed.snapshot, hclock]
  rfl

theorem exists_progressions_iff (d : Dump) (source : Source) :
    (∃ p, (d.feed.progressions source).result = .ok p) ↔ d.Serves source := by
  cases source with
  | ranking r limit =>
    show (∃ p, ((part "teams" d.teams).map (limited limit)).map Progressions.ranking = .ok p) ↔ _
    cases hteams : d.teams with
    | none => simp [Serves, hteams, part, Except.map]
    | some teams => simp [Serves, hteams, part, Except.map]
  | team category =>
    show (∃ p, (part "team" d.team).map Progressions.team = .ok p) ↔ _
    cases hteam : d.team with
    | none => simp [Serves, hteam, part, Except.map]
    | some events => simp [Serves, hteam, part, Except.map]

theorem exists_snapshot_iff (d : Dump) (source : Source) (now : Int64) :
    (∃ shot, (d.feed.snapshot source (some now)).result = .ok shot) ↔ d.Serves source := by
  rw [← exists_progressions_iff]
  constructor
  · rintro ⟨shot, hshot⟩
    exact ⟨_, Feed.progressions_of_snapshot hshot⟩
  · rintro ⟨p, hp⟩
    have hclock : some now = none → d.feed.status.result = .ok ⟨now⟩ := nofun
    exact ⟨_, Feed.snapshot_result hclock hp⟩

/-- With a present the time of the dump is not asked for. -/
theorem snapshot_some_congr (d : Dump) (time : Option Int64) (source : Source) (now : Int64) :
    (d.withTime time).feed.snapshot source (some now) =
      d.feed.snapshot source (some now) := by
  cases source with
  | ranking r limit => rfl
  | team category => rfl

end Dump

namespace Command

/-! ## The present on the command line -/

def General.withNow (g : General) (t : Int64) : General := { g with now := some t }

def Gathered.withNow (g : Gathered) (t : Int64) : Gathered := { g with now := some t }

namespace Stop

/-- Whether options were read to their end and no present among them. -/
def LacksNow : Stop → Prop
  | .atEnd g | .atWord g _ _ => g.now = none
  | .help | .usage => False

def withNow (t : Int64) : Stop → Stop
  | .atEnd g => .atEnd (g.withNow t)
  | .atWord g word rest => .atWord (g.withNow t) word rest
  | .help => .help
  | .usage => .usage

end Stop

theorem Gathered.set_withNow {g g' : Gathered} {o : Opt} {value : String} (t : Int64)
    (h : g.set o value = some g') (hnow : g'.now = none) :
    g.now = none ∧ (g.withNow t).set o value = some (g'.withNow t) := by
  cases o with
  | now =>
    obtain ⟨v, hv, rfl⟩ := Option.map_eq_some_iff.1 h
    unfold fresh at hv
    split at hv
    · cases hv
      cases hnow
    · cases hv
  | _ =>
    obtain ⟨v, hv, rfl⟩ := Option.map_eq_some_iff.1 h
    exact ⟨hnow, Option.map_eq_some_iff.2 ⟨v, hv, rfl⟩⟩

/-- Where no present is met, a present that is there from the start makes no other difference. -/
theorem gather_now {c : Option Subcommand} {g : Gathered} {args : List String} (t : Int64)
    (h : (gather c g args).LacksNow) :
    g.now = none ∧ gather c (g.withNow t) args = (gather c g args).withNow t := by
  fun_induction gather c g args
  -- what ends in help or in an error has read nothing to its end
  all_goals try exact h.elim
  case case1 g => exact ⟨h, rfl⟩
  case case2 g arg rest harg hrest =>
    refine ⟨h, ?_⟩
    rw [gather, harg]
    simp only [hrest, if_true]
    rfl
  case case6 g arg rest word harg =>
    refine ⟨h, ?_⟩
    rw [gather, harg]
    rfl
  case case8 g arg rest harg hteam ih =>
    obtain ⟨hnow, hrest⟩ := ih h
    refine ⟨hnow, ?_⟩
    rw [gather, harg, ← hrest]
    exact if_pos hteam
  case case12 g arg name o hname hallowed value rest g' hset hhelp hteam harg ih =>
    obtain ⟨hnow, hrest⟩ := ih h
    obtain ⟨hnow, hset⟩ := Gathered.set_withNow t hset hnow
    refine ⟨hnow, ?_⟩
    rw [gather, harg, ← hrest]
    simp only [hname, hallowed, if_true, hset]
  case case15 g arg name o hname hallowed next rest value hnext g' hset hhelp hteam harg ih =>
    obtain ⟨hnow, hrest⟩ := ih h
    obtain ⟨hnow, hset⟩ := Gathered.set_withNow t hset hnow
    refine ⟨hnow, ?_⟩
    rw [gather, harg, ← hrest]
    simp only [hname, hallowed, if_true, hnext, hset]

/-- The option that gives a present. -/
def nowOption (t : Int64) : String := "--now=" ++ toString t.toInt

theorem ofString_nowOption (t : Int64) :
    Argument.ofString (nowOption t) = .option "now" (some (toString t.toInt)) := by
  have hchars : (nowOption t).toList =
      '-' :: '-' :: 'n' :: 'o' :: 'w' :: '=' :: (toString t.toInt).toList := by
    rw [nowOption, String.toList_append]
    rfl
  have hname : String.ofList ['n', 'o', 'w'] = "now" := rfl
  simp [Argument.ofString, hchars, hname]

/-- No digit is a sign. -/
theorem toList_toString_nat (n : Nat) :
    ∃ c cs, (toString n).toList = c :: cs ∧ c ≠ '-' ∧ c ≠ '+' := by
  obtain ⟨c, cs, hchars⟩ := List.exists_cons_of_ne_nil (Nat.toDigits_ne_nil (n := n) (b := 10))
  have hdigit : c.isDigit = true :=
    Nat.isDigit_of_mem_toDigits (by decide) (by decide) (hchars ▸ List.mem_cons_self)
  refine ⟨c, cs, by rw [Nat.toString_eq_ofList_toDigits, String.toList_ofList, hchars], ?_, ?_⟩
  · rintro rfl
    cases hdigit
  · rintro rfl
    cases hdigit

theorem signed?_toString (n : Int) : Decimal.signed? (toString n) = some n := by
  cases n with
  | ofNat n =>
    obtain ⟨c, cs, hchars, hminus, hplus⟩ := toList_toString_nat n
    have hdigits : Decimal.natural? (c :: cs) = some n := hchars ▸ Question.natural?_toString n
    rw [show toString (Int.ofNat n) = toString n from rfl, Decimal.signed?, hchars]
    split
    · rename_i heq
      exact absurd (List.cons.inj heq).1 hminus
    · rename_i heq
      exact absurd (List.cons.inj heq).1 hplus
    · rw [hdigits]
      rfl
  | negSucc n =>
    have hchars : (toString (Int.negSucc n)).toList = '-' :: (toString (n + 1)).toList := by
      rw [show toString (Int.negSucc n) = "-" ++ toString (n + 1) from rfl, String.toList_append]
      rfl
    simp only [Decimal.signed?, hchars, Question.natural?_toString]
    rfl

theorem int64?_toString (t : Int64) : Gathered.int64? (toString t.toInt) = some t := by
  have hrange : Int64.minValue.toInt ≤ t.toInt ∧ t.toInt ≤ Int64.maxValue.toInt :=
    ⟨Int64.minValue_le_toInt t, Int64.toInt_le t⟩
  simp only [Gathered.int64?, signed?_toString, if_pos hrange, Int64.ofInt_toInt]

theorem gather_ofString_now {g g' : Gathered} {arg value : String}
    (harg : Argument.ofString arg = .option "now" (some value)) (hset : g.set .now value = some g')
    (args : List String) : gather none g (arg :: args) = gather none g' args := by
  have hname : Opt.ofName? "now" = some .now := rfl
  have hallowed : Opt.now.allowed none = true := rfl
  rw [gather, harg]
  simp [hname, hallowed, hset]

theorem gather_nowOption (t : Int64) (args : List String) :
    gather none {} (nowOption t :: args) = gather none (Gathered.withNow {} t) args := by
  refine gather_ofString_now (ofString_nowOption t) ?_ args
  simp only [Gathered.set, int64?_toString]
  rfl

theorem helpAbout_ne_run (names : List String) (i : Invocation) : helpAbout names ≠ .run i := by
  fun_cases helpAbout names <;> simp

/-- A line asks for something if its options end at a subcommand, and the options of that at the end of
the line. -/
theorem parse_eq_run_iff {args : List String} {general : General} {task : Task} :
    parse args = .run ⟨general, task⟩ ↔
      ∃ outer word rest c inner, gather none {} args = .atWord outer word rest ∧
        Subcommand.ofName? word = some c ∧ gather (some c) {} rest = .atEnd inner ∧
        inner.task? c = some task ∧ Gathered.general outer inner = general := by
  constructor
  · intro h
    simp only [parse] at h
    split at h
    · cases h
    · cases h
    · cases h
    · rename_i outer word rest houter
      split at h
      · split at h
        · exact absurd h (helpAbout_ne_run rest _)
        · cases h
      · rename_i c hword
        split at h
        · cases h
        · cases h
        · cases h
        · rename_i inner hinner
          split at h
          · cases h
          · rename_i task' htask
            cases h
            exact ⟨outer, word, rest, c, inner, houter, hword, hinner, htask, rfl⟩
  · rintro ⟨outer, word, rest, c, inner, houter, hword, hinner, htask, rfl⟩
    simp only [parse, houter, hword, hinner, htask]

/-- A present in front of a line without one is the present of what the line asks for. -/
theorem parse_now {args : List String} {general : General} {task : Task}
    (h : parse args = .run ⟨general, task⟩) (hnow : general.now = none) (t : Int64) :
    parse (nowOption t :: args) = .run ⟨general.withNow t, task⟩ := by
  obtain ⟨outer, word, rest, c, inner, houter, hword, hinner, htask, rfl⟩ := parse_eq_run_iff.1 h
  obtain ⟨hinnerNow, houterNow⟩ : inner.now = none ∧ outer.now = none :=
    Option.or_eq_none_iff.1 hnow
  have hlacks : (gather none {} args).LacksNow := by
    rw [houter]
    exact houterNow
  refine parse_eq_run_iff.2 ⟨outer.withNow t, word, rest, c, inner, ?_, hword, hinner, htask, ?_⟩
  · rw [gather_nowOption, (gather_now t hlacks).2, houter]
    rfl
  · simp only [Gathered.general, Gathered.withNow, General.withNow, hinnerNow, Option.none_or]

/-! ## Runs -/

/-- The dump that a task reads. -/
def Task.input? : Task → Option String
  | .points input _ | .chart input _ => some input
  | .fetch _ _ _ _ => none

variable {w : World} {input : String} {d : Dump} {t : Int64}

theorem withDump_congr {selection : Selection} {next next' : Feed → Source → Output}
    (hload : (Dump.load input (w.files input)).result = .ok d)
    (h : ∀ source, next d.feed source = next' d.feed source) :
    withDump w input selection next = withDump w input selection next' := by
  refine Run.andThen_congr fun d' hd' => ?_
  have hd : d' = d := by
    simp only [Run.mapError, hload] at hd'
    cases hd'
    rfl
  subst hd
  cases selection.source with
  | error message => rfl
  | ok source => exact h source

/-- A task on a dump does for the time of the dump what it does without a present. -/
theorem Task.run_now {task : Task} (hinput : task.input? = some input)
    (hload : (Dump.load input (w.files input)).result = .ok d) (htime : d.time = some t)
    (s : Settings) : task.run w (some t) s = task.run w none s := by
  cases task with
  | points input' selection =>
    cases hinput
    simp only [run]
    refine withDump_congr hload fun source => ?_
    rw [printPoints, printPoints, Dump.snapshot_none_eq htime]
  | chart input' selection =>
    cases hinput
    simp only [run]
    refine withDump_congr hload fun source => ?_
    rw [printChart, printChart, Dump.snapshot_none_eq htime]
  | fetch server cookie timeout selection => cases hinput

theorem Invocation.run_now {general : General} {task : Task} (hnow : general.now = none)
    (hinput : task.input? = some input)
    (hload : (Dump.load input (w.files input)).result = .ok d) (htime : d.time = some t) :
    Invocation.run w ⟨general.withNow t, task⟩ = Invocation.run w ⟨general, task⟩ := by
  simp only [Invocation.run, General.withNow, hnow, Task.run_now hinput hload htime]

/-- Take a dump and a source. If the dump has a time, a snapshot is the same with that time and without
a present. If it has none, a snapshot without a present fails for want of the time, whatever else the
dump has. With a present there is a snapshot where the dump has the progressions of the source, and the
time of the dump makes no difference to it.

Take a command line that prints points or a chart of a dump with a time, and gives no present. With the
option for that time in front it still asks for the same, and any line that asks for the same with that
present comes to the same: exit code, standard output, report and notices. -/
theorem replay_unchanged :
    (∀ (d : Dump) (source : Source),
      (∀ t, d.time = some t →
        d.feed.snapshot source none = d.feed.snapshot source (some t)) ∧
      (d.time = none → (d.feed.snapshot source none).result = .error (.missing "time")) ∧
      ∀ now, ((∃ shot, (d.feed.snapshot source (some now)).result = .ok shot) ↔ d.Serves source) ∧
        ∀ time, (d.withTime time).feed.snapshot source (some now) =
          d.feed.snapshot source (some now)) ∧
    ∀ (w : World) (args : List String) (general : General) (task : Task) (input : String) (d : Dump)
      (t : Int64), parse args = .run ⟨general, task⟩ → general.now = none →
      task.input? = some input → (Dump.load input (w.files input)).result = .ok d →
      d.time = some t →
      parse (nowOption t :: args) = .run ⟨general.withNow t, task⟩ ∧
      ∀ args', parse args' = .run ⟨general.withNow t, task⟩ →
        run w args' = run w args := by
  refine ⟨fun d source => ⟨fun t h => Dump.snapshot_none_eq h source,
    fun h => Dump.snapshot_none_missing h source,
    fun now => ⟨Dump.exists_snapshot_iff d source now,
      fun time => Dump.snapshot_some_congr d time source now⟩⟩, ?_⟩
  intro w args general task input d t hargs hnow hinput hload htime
  refine ⟨parse_now hargs hnow t, fun args' hargs' => ?_⟩
  simp only [run, hargs, hargs', Invocation.run_now hnow hinput hload htime]

/-- A dump with a time before all times, and one without a time. -/
theorem replay_unchanged_early :
    let w : World := ⟨fun _ => .ok (Text.utf8 "\x7b\"time\": -5, \"team\": [[100, 5]]\x7d"),
      fun _ => none⟩
    let args := ["points", "--input", "dump", "--team"]
    run w ("--now=-5" :: args) = run w args ∧
      ((Dump.feed ⟨none, none, some []⟩).snapshot (.team none) none).result =
        .error (.missing "time") ∧
      ∃ shot, ((Dump.feed ⟨none, none, some []⟩).snapshot (.team none) (some 3)).result =
        .ok shot := by
  intro w args
  obtain ⟨hsnapshot, hruns⟩ := replay_unchanged
  obtain ⟨-, hmissing, hpresent⟩ := hsnapshot ⟨none, none, some []⟩ (.team none)
  have hload : (Dump.load "dump" (w.files "dump")).result =
      .ok ⟨some (-5), none, some [⟨100, 5⟩]⟩ := by decide +kernel
  obtain ⟨hparse, hsame⟩ := hruns w args ⟨none, none, none⟩
    (.points "dump" ⟨none, none, true, none, none⟩) "dump" _ (-5) (by decide) rfl rfl hload rfl
  have hoption : nowOption (-5) = "--now=-5" := by decide
  exact ⟨hsame _ (hoption ▸ hparse), hmissing rfl, (hpresent 3).1.2 ⟨_, rfl⟩⟩

end Command
end Scoreline
