import Elan0c00.ElanctlFrames
import Elan0c00.Lifecycle

/-! # The whole of `elanctl`

From the arguments to the exit code: which word selects which command, what happens when the
sensor cannot be opened, and the drop of the sensor at the end. Every run is one of those
described by `Elanctl.MainRun`, none panics, and each lives by the policy of `elanctl`
(`Elanctl.meets_main`).
-/

namespace Elan0c00.Elanctl

open Interaction Bytes

/-- `run`: open the sensor, put it to the command, and drop it. -/
def runCommand (command : Command) : SysM ExitCode := do
  match ← openElanMoc2.run.translate usbWords with
  | .error e => do
      Sys.print (.openFailed e)
      return .failure
  | .ok dev => do
      let known ← (run command dev.toElanMoc2).run.translate (sensorWords dev.handle)
      let _ ← dev.drop.run.translate usbWords
      -- The errors of a command have been turned into an exit code.
      match known with
      | .ok code => return code
      | .error _ => return .failure

/-- `main`, by the arguments of the process, of which the first is the name of the program. -/
def main (args : List String) : SysM ExitCode :=
  match args[1]?.getD "help" with
  | "info" => runCommand .info
  | "identify" => runCommand .identify
  | "dump" => runCommand .dump
  | "collision" => runCommand .collision
  | "help" | "-h" | "--help" => do
      Sys.print .usage
      return .success
  | other => do
      Sys.print (.unknownCommand other)
      Sys.print .usage
      return .failure

section Runs

/-- What a command leaves as exit code. -/
def exitCode : Except Error Unit → ExitCode
  | .ok () => .success
  | .error _ => .failure

/-- The line about an error of a command. -/
def failedLines : Except Error Unit → List Line
  | .ok () => []
  | .error e => [.failed e]

/-- A command does what is described of it. -/
theorem described_of_body {command : Command} {dev : ElanMoc2} {inner : Trace}
    {known : Except Error Unit} (body : (command.body dev).run.Runs inner (.ok known)) :
    Described dev command inner := by
  cases command with
  | info => exact (runs_info body).1
  | identify =>
      obtain ⟨known, described, -⟩ := runs_identify body
      exact ⟨known, described⟩
  | dump => exact (runs_dump body).1
  | collision =>
      obtain ⟨known, described, -⟩ := runs_collision body
      exact ⟨known, described⟩

/-- The command on the opened sensor, with what it returned and the exit code. -/
theorem runs_run_result {command : Command} {dev : ElanMoc2} {trace : Trace}
    {result : Except Fault (Except Error ExitCode)}
    (ran : (run command dev).run.Runs trace result) :
    ∃ inner known, (command.body dev).run.Runs inner (.ok known) ∧
      trace = Bus.printed (.opened dev.pid) ::
        (inner ++ (failedLines known).map Bus.printed) ∧
      result = .ok (.ok (exitCode known)) := by
  unfold run at ran
  obtain ⟨_, rfl, opened⟩ := runs_println_bind_iff.mp ran
  obtain ⟨known, inner, last, rfl, inside, ended⟩ :=
    (body_safe command).runs_outcome_bind_iff.mp opened
  refine ⟨inner, known, inside, ?_⟩
  cases known with
  | ok value =>
      obtain ⟨rfl, rfl⟩ := Fallible.runs_pure_iff.mp ended
      exact ⟨rfl, rfl⟩
  | error e =>
      obtain ⟨_, rfl, returned⟩ := runs_println_bind_iff.mp ended
      obtain ⟨rfl, rfl⟩ := Fallible.runs_pure_iff.mp returned
      exact ⟨rfl, rfl⟩

/-- The runs of a command: the sensor was not opened, or it was, and was dropped after the
command. -/
inductive CommandRun (command : Command) : SysTrace → ExitCode → Prop where
  | unopened {opening : UsbTrace} {e : Error}
      (attempt : openElanMoc2.run.Runs opening (.ok (.error e))) :
      CommandRun command (opening.map usbWords.event ++ [Sys.printed (.openFailed e)]) .failure
  | ran {opening dropping : UsbTrace} {inner : Trace} {dev : Opened} {known : Except Error Unit}
      (attempt : openElanMoc2.run.Runs opening (.ok (.ok dev)))
      (body : (command.body dev.toElanMoc2).run.Runs inner (.ok known))
      (drop : dev.drop.run.Runs dropping (.ok (.ok ()))) :
      CommandRun command
        (opening.map usbWords.event ++
          ((Bus.printed (.opened dev.pid) :: (inner ++ (failedLines known).map Bus.printed)).map
            (sensorWords dev.handle).event ++ dropping.map usbWords.event))
        (exitCode known)

/-- An opened sensor is claimed on interface 0. -/
theorem usable_of_opened {opening : UsbTrace} {dev : Opened}
    (attempt : openElanMoc2.run.Runs opening (.ok (.ok dev))) :
    dev.interface = 0 ∧ dev.claimed = true := by
  cases openRun_of_runs attempt with
  | claimed => exact ⟨rfl, rfl⟩

theorem runs_runCommand {command : Command} {trace : SysTrace} {result : Except Fault ExitCode}
    (ran : (runCommand command).Runs trace result) :
    ∃ code, result = .ok code ∧ CommandRun command trace code := by
  rcases Program.runs_bind_iff.mp ran with
    ⟨fault, head, rfl⟩ | ⟨known, first, second, rfl, head, tail⟩
  · obtain ⟨opening, rfl, attempt⟩ := Program.runs_translate_iff.mp head
    cases openRun_of_runs attempt
  obtain ⟨opening, rfl, attempt⟩ := Program.runs_translate_iff.mp head
  cases known with
  | error e =>
      obtain ⟨_, rfl, ended⟩ := Sys.runs_print_bind_iff.mp tail
      obtain ⟨rfl, rfl⟩ := Program.runs_pure_iff.mp ended
      exact ⟨_, rfl, .unopened attempt⟩
  | ok dev =>
      obtain ⟨interface, claimed⟩ := usable_of_opened attempt
      rcases Program.runs_bind_iff.mp tail with
        ⟨fault, inside, rfl⟩ | ⟨known, body, rest, rfl, inside, later⟩
      · obtain ⟨inner, rfl, own⟩ := Program.runs_translate_iff.mp inside
        obtain ⟨_, _, _, _, impossible⟩ := runs_run_result own
        cases impossible
      obtain ⟨body, rfl, own⟩ := Program.runs_translate_iff.mp inside
      obtain ⟨inner, known, ranBody, rfl, same⟩ := runs_run_result own
      cases same
      rcases Program.runs_bind_iff.mp later with
        ⟨fault, dropping, rfl⟩ | ⟨dropped, dropping, last, rfl, dropping', ended⟩
      · obtain ⟨calls, rfl, drop⟩ := Program.runs_translate_iff.mp dropping
        obtain ⟨_, _, impossible⟩ := (runs_drop_iff claimed).mp drop
        cases impossible
      obtain ⟨calls, rfl, drop⟩ := Program.runs_translate_iff.mp dropping'
      obtain ⟨answer, rfl, same⟩ := (runs_drop_iff claimed).mp drop
      cases same
      obtain ⟨rfl, rfl⟩ := Program.runs_pure_iff.mp ended
      rw [List.append_nil]
      exact ⟨_, rfl, .ran attempt ranBody drop⟩

/-- The runs of `main`. -/
inductive MainRun (args : List String) : SysTrace → ExitCode → Prop where
  | ran {word : String} {command : Command} {trace : SysTrace} {code : ExitCode}
      (asked : args[1]? = some word)
      (known : (word, command) ∈
        [("info", .info), ("identify", .identify), ("dump", .dump), ("collision", .collision)])
      (run : CommandRun command trace code) : MainRun args trace code
  | helped (asked : args[1]?.getD "help" ∈ ["help", "-h", "--help"]) :
      MainRun args [Sys.printed .usage] .success
  | unknown {other : String} (asked : args[1]? = some other)
      (stranger : other ∉ ["info", "identify", "dump", "collision", "help", "-h", "--help"]) :
      MainRun args [Sys.printed (.unknownCommand other), Sys.printed .usage] .failure

theorem mainRun_of_command {args : List String} {word : String} {command : Command}
    {trace : SysTrace} {result : Except Fault ExitCode}
    (known : (word, command) ∈
      [("info", .info), ("identify", .identify), ("dump", .dump), ("collision", .collision)])
    (asked : args[1]? = some word) (ran : (runCommand command).Runs trace result) :
    ∃ code, result = .ok code ∧ MainRun args trace code := by
  obtain ⟨code, rfl, run⟩ := runs_runCommand ran
  exact ⟨code, rfl, .ran asked known run⟩

theorem mainRun_of_help {args : List String} {trace : SysTrace} {result : Except Fault ExitCode}
    (asked : args[1]?.getD "help" ∈ ["help", "-h", "--help"])
    (ran : (do
      Sys.print .usage
      return .success : SysM ExitCode).Runs trace result) :
    ∃ code, result = .ok code ∧ MainRun args trace code := by
  obtain ⟨_, rfl, ended⟩ := Sys.runs_print_bind_iff.mp ran
  obtain ⟨rfl, rfl⟩ := Program.runs_pure_iff.mp ended
  exact ⟨_, rfl, .helped asked⟩

/-- **Runs of `elanctl`.** Whatever the arguments are and whatever is answered, a run returns an
exit code and is one of those described. -/
theorem runs_main {args : List String} {trace : SysTrace} {result : Except Fault ExitCode}
    (ran : (main args).Runs trace result) :
    ∃ code, result = .ok code ∧ MainRun args trace code := by
  have given : ∀ word, args[1]?.getD "help" = word → word ≠ "help" → args[1]? = some word := by
    rintro _ rfl other
    cases asked : args[1]? with
    | none => exact absurd (by rw [asked]; rfl) other
    | some word => rfl
  unfold main at ran
  split at ran
  next asked => exact mainRun_of_command (by decide) (given _ asked (by decide)) ran
  next asked => exact mainRun_of_command (by decide) (given _ asked (by decide)) ran
  next asked => exact mainRun_of_command (by decide) (given _ asked (by decide)) ran
  next asked => exact mainRun_of_command (by decide) (given _ asked (by decide)) ran
  next asked => exact mainRun_of_help (by rw [asked]; decide) ran
  next asked => exact mainRun_of_help (by rw [asked]; decide) ran
  next asked => exact mainRun_of_help (by rw [asked]; decide) ran
  next info identify dump collision help short long =>
    obtain ⟨_, rfl, unknown⟩ := Sys.runs_print_bind_iff.mp ran
    obtain ⟨_, rfl, ended⟩ := Sys.runs_print_bind_iff.mp unknown
    obtain ⟨rfl, rfl⟩ := Program.runs_pure_iff.mp ended
    refine ⟨_, rfl, .unknown (given _ rfl help) ?_⟩
    simp only [List.mem_cons, List.not_mem_nil, or_false, not_or]
    exact ⟨info, identify, dump, collision, help, short, long⟩

/-- What a run asked for a command is. -/
theorem MainRun.runs_command {args : List String} {word : String} {command : Command}
    {trace : SysTrace} {code : ExitCode} (described : MainRun args trace code)
    (asked : args[1]? = some word)
    (known : (word, command) ∈
      [("info", .info), ("identify", .identify), ("dump", .dump), ("collision", .collision)]) :
    CommandRun command trace code := by
  simp only [List.mem_cons, Prod.mk.injEq, List.not_mem_nil, or_false] at known
  cases described with
  | @ran other command' _ _ asked' known' run =>
      obtain rfl := Option.some.inj (asked'.symm.trans asked)
      rcases known with ⟨rfl, rfl⟩ | ⟨rfl, rfl⟩ | ⟨rfl, rfl⟩ | ⟨rfl, rfl⟩
      all_goals
        obtain rfl : command' = _ := by simpa using known'
        exact run
  | helped other =>
      rw [asked] at other
      rcases known with ⟨rfl, rfl⟩ | ⟨rfl, rfl⟩ | ⟨rfl, rfl⟩ | ⟨rfl, rfl⟩
      all_goals exact absurd other (by decide)
  | unknown asked' stranger =>
      obtain rfl := Option.some.inj (asked'.symm.trans asked)
      rcases known with ⟨rfl, rfl⟩ | ⟨rfl, rfl⟩ | ⟨rfl, rfl⟩ | ⟨rfl, rfl⟩
      all_goals exact absurd stranger (by decide)

end Runs

/-! ### Errors and the exit code -/

section Reports

open Fallible

variable {α β : Type} {dev : ElanMoc2}

/-- The line is the one about an error that ended a command, which goes to standard error. -/
def isFailed : Line → Bool
  | .failed _ => true
  | _ => false

/-- Refuses the line about an error of a command. -/
def reports : Monitor (Event Answer) Unit
  | _, ⟨.println line, _⟩ => if isFailed line then none else some ()
  | _, _ => some ()

/-- A program that does not print the line about an error of a command. -/
def Reportless (program : DeviceM α) : Prop :=
  Meets reports () program (fun _ _ => True) fun _ _ => True

theorem Reportless.bind {program : DeviceM α} {rest : α → DeviceM β} (first : Reportless program)
    (later : ∀ value, Reportless (rest value)) : Reportless (program >>= rest) :=
  Meets.bind first fun value _ _ => later value

theorem Reportless.outcome {program : DeviceM α} (first : Reportless program) :
    Reportless (outcome program : DeviceM (Except Error α)) := by
  have inspected : Meets reports () (Fallible.outcome program : DeviceM (Except Error α))
      (fun _ _ => True) (Ends (fun _ _ => True) fun _ _ => True) := Meets.outcome first
  exact inspected.mono (fun _ _ _ => trivial) fun _ _ _ => trivial

theorem reportless_pure (value : α) : Reportless (pure value : DeviceM α) :=
  meets_pure trivial

theorem reportless_println {line : Line} (other : isFailed line = false) :
    Reportless (println line) :=
  meets_request fun _ => ⟨(), if_neg (Bool.eq_false_iff.mp other), trivial⟩

theorem reportless_forM {items : List UInt8} {body : UInt8 → DeviceM Unit}
    (round : ∀ item, Reportless (body item)) : Reportless (items.forM body) :=
  meets_forM (fun item _ _ _ => round item) trivial

/-- A program that only transfers prints nothing. -/
theorem reportless_of_transfers {program : DeviceM α} (safe : Safe program)
    (transfers : ∀ (trace : Trace) result, program.run.Runs trace result →
      trace.transfers = trace) :
    Reportless program := by
  intro trace result run
  have quiet : reports.watch () trace = some () := by
    refine Monitor.watch_stays fun event member => ?_
    rw [← transfers trace result run] at member
    have transfer := (List.mem_filter.mp member).2
    rcases event with ⟨request, answer⟩
    cases request with
    | println => cases transfer
    | _ => rfl
  cases result with
  | error fault => exact absurd run (safe trace fault)
  | ok known => exact ⟨known, (), rfl, quiet, by cases known <;> trivial⟩

theorem reportless_fingerInfo (i : UInt8) : Reportless (dev.fingerInfo i) :=
  reportless_of_transfers (fingerInfo_safe i) fun _ _ run => (fingerInfo_query run).1

theorem reportless_enrolledCount : Reportless dev.enrolledCount :=
  reportless_of_transfers enrolledCount_safe fun _ _ run => (enrolledCount_query run).1

theorem reportless_firmwareVersion : Reportless dev.firmwareVersion :=
  reportless_of_transfers firmwareVersion_safe fun _ _ run => (firmwareVersion_single run).1

theorem reportless_abort : Reportless dev.abort :=
  reportless_of_transfers abort_safe fun _ _ run => (abort_single run).1

theorem reportless_transceive (cmd : Cmd) (payload : List UInt8) :
    Reportless (dev.transceive cmd payload) := by
  refine reportless_of_transfers (transceive_safe cmd payload) fun _ _ run => ?_
  obtain ⟨_, asked, -⟩ := (EntryPoint.runs_perform_iff .transceive dev).mp run
  exact asked.transfers

theorem reportless_transceiveRaw (cmd : Cmd) (payload : List UInt8) :
    Reportless (dev.transceiveRaw cmd payload) := by
  refine reportless_of_transfers (transceiveRaw_safe cmd payload) fun _ _ run => ?_
  obtain ⟨_, asked, -⟩ := (EntryPoint.runs_perform_iff .transceiveRaw dev).mp run
  exact asked.transfers

theorem reportless_showSlot (i : UInt8) : Reportless (showSlot dev i) := by
  refine (reportless_fingerInfo i).outcome.bind fun known => ?_
  exact reportless_println (by cases known <;> rfl)

theorem reportless_cmdInfo : Reportless (cmdInfo dev) := by
  refine (reportless_println rfl).bind fun _ => ?_
  refine reportless_firmwareVersion.outcome.bind fun version => ?_
  refine (reportless_println (by cases version <;> rfl)).bind fun _ => ?_
  refine reportless_enrolledCount.outcome.bind fun count => ?_
  cases count with
  | error e => exact reportless_println rfl
  | ok count =>
      refine (reportless_println rfl).bind fun _ => ?_
      split
      · exact reportless_println rfl
      · refine (reportless_println rfl).bind fun _ => ?_
        exact reportless_forM reportless_showSlot

theorem reportless_dumpQuery (label : String) (cmd : Cmd) :
    Reportless (dumpQuery dev label cmd) := by
  refine (reportless_transceiveRaw cmd []).outcome.bind fun known => ?_
  exact reportless_println (by cases known <;> rfl)

theorem reportless_dumpSlot (i : UInt8) : Reportless (dumpSlot dev i) := by
  refine (reportless_transceiveRaw Proto.fingerInfo [i]).outcome.bind fun known => ?_
  cases known with
  | error e => exact reportless_println rfl
  | ok reply =>
      refine (reportless_println rfl).bind fun _ => ?_
      exact reportless_println rfl

theorem reportless_cmdDump : Reportless (cmdDump dev) := by
  refine (reportless_println rfl).bind fun _ => ?_
  refine (reportless_dumpQuery _ _).bind fun _ => ?_
  refine (reportless_dumpQuery _ _).bind fun _ => ?_
  refine (reportless_println rfl).bind fun _ => ?_
  exact reportless_forM reportless_dumpSlot

theorem reportless_check {α : Type} (value : α) : Reportless (check (.ok value) : DeviceM α) :=
  meets_pure trivial

theorem reportless_cmdCollision : Reportless (cmdCollision dev) := by
  refine (reportless_println rfl).bind fun _ => ?_
  refine (reportless_println rfl).bind fun _ => ?_
  refine (reportless_transceiveRaw Proto.checkEnrollCollision []).bind fun reply => ?_
  refine (reportless_println rfl).bind fun _ => ?_
  match reply with
  | [] => exact reportless_println rfl
  | [_] => exact reportless_println rfl
  | first :: status :: rest =>
      have long : ¬ (first :: status :: rest).length < 2 :=
        Nat.not_lt.mpr (Nat.le_add_left 2 rest.length)
      rw [if_neg long]
      refine (reportless_check status).bind fun b => ?_
      refine (reportless_println rfl).bind fun _ => ?_
      refine (reportless_println rfl).bind fun _ => ?_
      exact reportless_println (by cases Status.fromByte b <;> rfl)

theorem reportless_identified (reply : Except Error (List UInt8)) :
    Reportless (identified dev reply) := by
  cases reply with
  | error e =>
      refine (reportless_println rfl).bind fun _ => ?_
      exact reportless_abort.outcome.bind fun _ => reportless_pure ()
  | ok reply =>
      match reply with
      | [] => exact reportless_println rfl
      | [_] => exact reportless_println rfl
      | first :: status :: rest =>
          have long : (first :: status :: rest).length ≥ 2 := Nat.le_add_left 2 rest.length
          simp only [identified]
          rw [if_pos long]
          refine (reportless_check status).bind fun _ => ?_
          refine (reportless_println rfl).bind fun _ => ?_
          split
          · refine (reportless_fingerInfo _).outcome.bind fun known => ?_
            exact reportless_println (by cases known <;> rfl)
          · exact reportless_pure ()

theorem reportless_cmdIdentify : Reportless (cmdIdentify dev) := by
  refine reportless_enrolledCount.bind fun count => ?_
  refine (reportless_println rfl).bind fun _ => ?_
  split
  · exact reportless_println rfl
  · refine (reportless_println rfl).bind fun _ => ?_
    refine (reportless_transceive Proto.identify []).outcome.bind fun reply => ?_
    exact reportless_identified reply

/-- **Commands report no error of their own.** The line about one is left to `run`. -/
theorem reportless_body (command : Command) : Reportless (command.body dev) := by
  cases command with
  | info => exact reportless_cmdInfo
  | identify => exact reportless_cmdIdentify
  | dump => exact reportless_cmdDump
  | collision => exact reportless_cmdCollision

theorem isFailed_of_body {command : Command} {inner : Trace}
    {result : Except Fault (Except Error Unit)} (body : (command.body dev).run.Runs inner result) :
    ∀ line ∈ inner.lines, isFailed line = false := by
  obtain ⟨_, after, -, accepted, -⟩ := reportless_body command inner result body
  clear body
  induction inner with
  | nil => exact List.forall_mem_nil _
  | cons event rest ih =>
      obtain ⟨_, step, tail⟩ := Monitor.watch_cons_iff.mp accepted
      rcases event with ⟨request, answer⟩
      cases request with
      | println line =>
          have other : isFailed line = false := by
            by_contra reported
            rw [Bool.not_eq_false] at reported
            cases (if_pos reported).symm.trans step
          exact List.forall_mem_cons.mpr ⟨other, ih tail⟩
      | _ => exact ih tail

/-- The text goes to standard error. -/
def toStderr : Text → Bool
  | .openFailed _ => true
  | .unknownCommand _ => true
  | .line line => isFailed line
  | .probe (.openFailed _) => true
  | _ => false

theorem CommandRun.exit {command : Command} {trace : SysTrace} {code : ExitCode}
    (run : CommandRun command trace code) :
    code = .failure ↔ ∃ text ∈ Sys.texts trace, toStderr text = true := by
  cases run with
  | @unopened opening e attempt =>
      refine (iff_true_left rfl).mpr ⟨.openFailed e, ?_, rfl⟩
      rw [Sys.texts_append]
      exact List.mem_append_right _ List.mem_cons_self
  | @ran opening dropping inner dev known attempt body drop =>
      have quiet := isFailed_of_body body
      rw [Sys.texts_append, Sys.texts_append, Sys.texts_usbWords, Sys.texts_usbWords,
        Sys.texts_sensorWords, List.append_nil, List.nil_append, Bus.lines_printed,
        Trace.lines_append]
      cases known with
      | ok value =>
          have succeeds : exitCode (.ok value) ≠ .failure := by rintro ⟨⟩
          refine (iff_false_left succeeds).mpr ?_
          rintro ⟨text, printed, reported⟩
          obtain ⟨line, member, rfl⟩ := List.mem_map.mp printed
          have silent : Trace.lines ((failedLines (.ok value)).map Bus.printed) = [] := rfl
          rw [silent, List.append_nil] at member
          rcases List.mem_cons.mp member with rfl | inside
          · cases reported
          · cases (quiet line inside).symm.trans reported
      | error e =>
          refine (iff_true_left rfl).mpr ⟨.line (.failed e), ?_, rfl⟩
          refine List.mem_map.mpr ⟨.failed e, List.mem_cons_of_mem _ ?_, rfl⟩
          exact List.mem_append_right _ List.mem_cons_self

theorem MainRun.exit {args : List String} {trace : SysTrace} {code : ExitCode}
    (run : MainRun args trace code) :
    code = .failure ↔ ∃ text ∈ Sys.texts trace, toStderr text = true := by
  cases run with
  | ran asked known run => exact run.exit
  | helped asked =>
      have succeeds : ExitCode.success ≠ .failure := by rintro ⟨⟩
      refine (iff_false_left succeeds).mpr ?_
      rintro ⟨text, printed, reported⟩
      obtain rfl := List.mem_singleton.mp printed
      cases reported
  | @unknown other asked stranger =>
      exact (iff_true_left rfl).mpr ⟨.unknownCommand other, List.mem_cons_self, rfl⟩

/-- Without one of the four words nothing is done but printing. -/
theorem MainRun.exists_command {args : List String} {trace : SysTrace} {code : ExitCode}
    (run : MainRun args trace code) {event : Event SysAnswer} (member : event ∈ trace)
    (silent : Sys.text? event = none) :
    ∃ word ∈ ["info", "identify", "dump", "collision"], args[1]? = some word := by
  cases run with
  | @ran word command trace code asked known run =>
      exact ⟨word, List.mem_map_of_mem (f := Prod.fst) known, asked⟩
  | helped asked =>
      obtain rfl := List.mem_singleton.mp member
      cases silent
  | unknown asked stranger =>
      rcases List.mem_cons.mp member with rfl | last
      · cases silent
      · obtain rfl := List.mem_singleton.mp last
        cases silent

end Reports

/-! ### The life of `elanctl` -/

section Life

open Program

theorem meets_print (text : Text) {phase : Phase} :
    Meets (lifecycle policy) phase (Sys.print text) fun _ after => after = phase :=
  meets_request fun _ => ⟨phase, lifecycle_iff.mpr (.neutral phase), rfl⟩

theorem meets_run {command : Command} {dev : ElanMoc2} {handle : DeviceHandle} :
    Meets (lifecycle policy) (.holding handle)
      ((run command dev).run.translate (sensorWords handle)) fun _ after =>
        after = .holding handle := by
  intro trace result ran
  obtain ⟨inner, rfl, own⟩ := runs_translate_iff.mp ran
  obtain ⟨_, known, _, _, same⟩ := runs_run_result own
  have harmless : ∀ out ∈ Trace.outFrames inner, policy.frames out = true := by
    intro out sent
    rw [← Trace.outFrames_transfers] at sent
    exact decide_eq_true ((frames_of_runs own).not_persistentHeader out sent)
  exact ⟨_, .holding handle, same, watch_sensorWords harmless, rfl⟩

/-- **The life of a command.** The sensor is claimed while it is put to the command, and nothing
is open at the end. -/
theorem meets_runCommand (command : Command) :
    Meets (lifecycle policy) Phase.start (runCommand command) fun _ after => after.Ended := by
  refine meets_openElanMoc2.translate.bind fun known phase ended => ?_
  cases known with
  | error e =>
      refine (meets_print _).bind ?_
      rintro _ _ rfl
      exact meets_pure ended
  | ok me =>
      obtain ⟨rfl, interface, claimed⟩ := ended
      refine meets_run.bind ?_
      rintro known _ rfl
      refine (meets_drop interface claimed).bind ?_
      rintro _ _ rfl
      cases known with
      | ok code => exact meets_pure rfl
      | error e => exact meets_pure rfl

/-- **The life of `elanctl`.** Whatever its arguments are and whatever it is answered. -/
theorem meets_main (args : List String) :
    Meets (lifecycle policy) Phase.start (main args) fun _ after => after.Ended := by
  unfold main
  split
  · exact meets_runCommand _
  · exact meets_runCommand _
  · exact meets_runCommand _
  · exact meets_runCommand _
  · exact (meets_print _).bind (by rintro _ _ rfl; exact meets_pure rfl)
  · exact (meets_print _).bind (by rintro _ _ rfl; exact meets_pure rfl)
  · exact (meets_print _).bind (by rintro _ _ rfl; exact meets_pure rfl)
  · refine (meets_print _).bind ?_
    rintro _ _ rfl
    exact (meets_print _).bind (by rintro _ _ rfl; exact meets_pure rfl)

/-! ### When something is printed -/

/-- Nothing is open, or the sensor is held: what is on the stack when something is printed. -/
def Droppable (phase : Phase) : Prop := phase.Ended ∨ ∃ handle, phase = .holding handle

variable {command : Command} {args : List String} {done rest : SysTrace} {text : Text}
  {code : ExitCode} {phase after : Phase} {handle : DeviceHandle}

/-- What does not stand in the first part stands in the second. -/
theorem split_of_not_mem {α : Type} {first second before after : List α} {item : α}
    (same : first ++ second = before ++ item :: after) (absent : item ∉ first) :
    ∃ middle, before = first ++ middle ∧ second = middle ++ item :: after := by
  rcases List.append_eq_append_iff.mp same with ⟨more, rfl, tail⟩ | ⟨more, rfl, tail⟩
  · exact ⟨more, rfl, tail⟩
  · cases more with
    | nil => exact ⟨[], by simp, by simpa using tail.symm⟩
    | cons other more =>
        obtain ⟨rfl, -⟩ := List.cons.inj tail
        exact absurd (List.mem_append_right before List.mem_cons_self) absent

/-- Opening and dropping print nothing. -/
theorem printed_not_mem_usbWords (text : Text) (calls : UsbTrace) :
    Sys.printed text ∉ calls.map usbWords.event := by
  intro member
  obtain ⟨call, -, impossible⟩ := List.mem_map.mp member
  cases impossible

/-- Through a held handle the library transfers, and the handle stays held. -/
theorem holding_of_watch_sensorWords {trace : Trace}
    (accepted : (lifecycle policy).watch (.holding handle) (trace.map (sensorWords handle).event) =
      some after) : after = .holding handle := by
  induction trace with
  | nil => exact (Option.some.inj accepted).symm
  | cons event trace ih =>
      obtain ⟨middle, step, tail⟩ := Monitor.watch_cons_iff.mp accepted
      rw [lifecycle_iff] at step
      have same : middle = .holding handle := by
        rcases event with ⟨request, answer⟩
        cases request with
        | println line =>
            cases step with
            | neutral => rfl
        | writeBulk endpoint buf timeout =>
            cases step with
            | sends => rfl
        | readBulk endpoint len timeout =>
            cases step with
            | receives => rfl
      rw [same] at tail
      exact ih tail

/-- A command prints when its sensor could not be opened, and while it holds it. -/
theorem CommandRun.droppable (run : CommandRun command (done ++ Sys.printed text :: rest) code)
    (accepted : (lifecycle policy).watch Phase.start done = some phase) : Droppable phase := by
  generalize whole : done ++ Sys.printed text :: rest = trace at run
  cases run with
  | @unopened opening e attempt =>
      obtain ⟨_, ended, same, opened, nothing⟩ := meets_openElanMoc2 _ _ attempt
      cases same
      obtain ⟨middle, rfl, last⟩ := split_of_not_mem whole.symm (printed_not_mem_usbWords _ _)
      have none : middle = [] := by
        cases middle with
        | nil => rfl
        | cons other middle =>
            have lengths := congrArg List.length last
            simp at lengths
      rw [none, List.append_nil, Monitor.watch_map] at accepted
      obtain rfl := Option.some.inj (opened.symm.trans accepted)
      exact .inl nothing
  | @ran opening dropping inner me known attempt body drop =>
      obtain ⟨_, _, same, opened, holds⟩ := meets_openElanMoc2 _ _ attempt
      cases same
      obtain ⟨rfl, -, -⟩ := holds
      obtain ⟨middle, rfl, later⟩ := split_of_not_mem whole.symm (printed_not_mem_usbWords _ _)
      obtain ⟨_, head, tail⟩ := Monitor.watch_append_iff.mp accepted
      rw [Monitor.watch_map] at head
      obtain rfl := Option.some.inj (opened.symm.trans head)
      rcases List.append_eq_append_iff.mp later with ⟨more, rfl, dropped⟩ | ⟨more, inside, -⟩
      · refine absurd (?_ : Sys.printed text ∈ _) (printed_not_mem_usbWords text dropping)
        rw [dropped]
        exact List.mem_append_right more List.mem_cons_self
      · obtain ⟨early, late, -, rfl, -⟩ := List.map_eq_append_iff.mp inside
        exact .inr ⟨_, holding_of_watch_sensorWords tail⟩

/-- **What a failed print leaves.** Whenever `elanctl` prints, it has nothing open or holds the
sensor. -/
theorem droppable_of_runs {result : Except Fault ExitCode}
    (run : (main args).Runs (done ++ Sys.printed text :: rest) result)
    (accepted : (lifecycle policy).watch Phase.start done = some phase) : Droppable phase := by
  obtain ⟨code, -, described⟩ := runs_main run
  -- Before an opening there are lines only, at which a process stays where it is.
  have unmoved : (∀ event ∈ done, ∃ text, event = Sys.printed text) → Droppable phase := by
    intro lines
    have stays : (lifecycle policy).watch Phase.start done = some Phase.start := by
      refine Monitor.watch_stays fun event member => ?_
      obtain ⟨text, rfl⟩ := lines event member
      exact lifecycle_iff.mpr (.neutral _)
    obtain rfl := Option.some.inj (stays.symm.trans accepted)
    exact .inl rfl
  generalize whole : done ++ Sys.printed text :: rest = trace at described
  cases described with
  | ran asked known run =>
      rw [← whole] at run
      exact run.droppable accepted
  | helped asked =>
      refine unmoved fun event member => ?_
      have inside : event ∈ [Sys.printed .usage] := whole ▸ List.mem_append_left _ member
      exact ⟨_, List.mem_singleton.mp inside⟩
  | @unknown other asked stranger =>
      refine unmoved fun event member => ?_
      have inside : event ∈ [Sys.printed (.unknownCommand other), Sys.printed .usage] :=
        whole ▸ List.mem_append_left _ member
      rcases List.mem_cons.mp inside with same | last
      · exact ⟨_, same⟩
      · exact ⟨_, List.mem_singleton.mp last⟩

end Life

end Elan0c00.Elanctl
