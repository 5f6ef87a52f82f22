import Elan0c00.ElanctlMain
import Elan0c00.Interaction.Budget
import Mathlib.Algebra.Order.Monoid.Prod

/-! # What a run may ask of the sensor

Every transfer has a price: the frames it offers and the time it is granted. An exchange costs one
frame and both timeouts (`Exchange.spent_le`), a retried query three exchanges; from the rules for
programs it follows what each command, and `elanctl` with any arguments, can cost at most, and
that there are answers which cost it as much (`Elanctl.main_budget`). So a sensor that never
answers keeps the terminal waiting for a time that is known.
-/

namespace Elan0c00

open Interaction Interaction.Fallible Bytes

/-- The frames a request of the library offers, and the milliseconds it may take. -/
def Bus.price : Request → Nat × Nat
  | .writeBulk _ _ timeout => (1, timeout)
  | .readBulk _ _ timeout => (0, timeout)
  | .println _ => 0

/-- The frames a request offers, and the milliseconds it may take where it is given a limit. -/
def Sys.price : SysRequest → Nat × Nat
  | .writeBulk _ _ _ timeout => (1, timeout)
  | .readBulk _ _ _ timeout => (0, timeout)
  | .readControl _ _ _ _ _ _ timeout => (0, timeout)
  | .readString _ _ _ timeout => (0, timeout)
  | .readLanguages _ timeout => (0, timeout)
  | _ => 0

/-- The most an exchange can cost. -/
def exchangePrice : Nat × Nat := (1, sendTimeout + recvTimeout)

theorem price_sensorWords (handle : DeviceHandle) (request : Request) :
    Sys.price ((sensorWords handle).op request) = Bus.price request := by
  cases request <;> rfl

section Exchanges

variable {entry : EntryPoint} {dev : ElanMoc2} {cmd : Cmd} {payload : List UInt8}
  {trace : Trace} {outcome : Except Error (List UInt8)}

theorem Exchange.spent_le (exchange : Exchange cmd payload trace outcome) :
    spent Bus.price trace ≤ exchangePrice := by
  cases exchange with
  | sendFailed | silent => exact (by decide : (1, sendTimeout) ≤ exchangePrice)
  | recvFailed | received => exact le_rfl

theorem Asked.spent_le (asked : Asked entry cmd payload trace outcome) :
    spent Bus.price trace ≤ exchangePrice := by
  cases asked with
  | refused => exact zero_le
  | exchanged _ exchange => exact exchange.spent_le

theorem Retried.spent_le {attempts : Nat} (retried : Retried cmd payload attempts trace outcome) :
    spent Bus.price trace ≤ attempts • exchangePrice := by
  induction retried with
  | exhausted => exact zero_le
  | settled asked =>
      rw [succ_nsmul']
      exact asked.spent_le.trans le_self_add
  | again empty _ ih =>
      rw [succ_nsmul', spent_append]
      exact add_le_add empty.spent_le ih

theorem within_perform : Within Bus.price (entry.perform dev cmd payload) exchangePrice := by
  intro trace result run
  obtain ⟨outcome, asked, -⟩ := (entry.runs_perform_iff dev).mp run
  exact asked.spent_le

theorem within_firmwareVersion : Within Bus.price dev.firmwareVersion exchangePrice := by
  intro trace result run
  obtain ⟨outcome, asked, -⟩ := runs_firmwareVersion_iff.mp run
  exact asked.spent_le

theorem within_enrolledCount :
    Within Bus.price dev.enrolledCount (Proto.maxRetries • exchangePrice) := by
  intro trace result run
  obtain ⟨outcome, retried, -⟩ := runs_enrolledCount_iff.mp run
  exact retried.spent_le

theorem within_fingerInfo {index : UInt8} :
    Within Bus.price (dev.fingerInfo index) (Proto.maxRetries • exchangePrice) := by
  intro trace result run
  obtain ⟨outcome, retried, -⟩ := runs_fingerInfo_iff.mp run
  exact retried.spent_le

theorem within_abort : Within Bus.price dev.abort exchangePrice := by
  intro trace result run
  obtain ⟨outcome, asked, -⟩ := runs_abort_iff.mp run
  exact asked.spent_le

theorem within_println {line : Line} : Within Bus.price (println line) 0 :=
  within_request

theorem spends_println {line : Line} : Spends Bus.price (println line) (.ok ()) 0 :=
  spends_request ()

/-- A sensor that takes a frame and does not answer costs a whole exchange. -/
theorem spends_perform (allowed : entry.refusal cmd payload = none) (replying : 0 < cmd.inLen) :
    Spends Bus.price (entry.perform dev cmd payload) (.error (.usb .timeout)) exchangePrice := by
  refine ⟨[Bus.sentWhole (Proto.encode cmd payload), Bus.recvFailed cmd .timeout], ?_, rfl⟩
  refine (entry.runs_perform_iff dev).mpr ⟨_, ?_, rfl⟩
  exact Asked.exchanged allowed (.recvFailed replying _ _)

theorem spends_answered {reply : {bytes : List UInt8 // bytes.length ≤ cmd.inLen}}
    (allowed : entry.refusal cmd payload = none) (replying : 0 < cmd.inLen)
    (accepted : entry.accept reply = .ok reply) :
    Spends Bus.price (entry.perform dev cmd payload) (.ok reply.val) exchangePrice := by
  refine ⟨[Bus.sentWhole (Proto.encode cmd payload), Bus.received cmd reply], ?_, rfl⟩
  refine (entry.runs_perform_iff dev).mpr ⟨_, ?_, congrArg Except.ok accepted.symm⟩
  exact Asked.exchanged allowed (.received replying _ _)

/-- Empty replies to all attempts but the last. -/
theorem exists_retried {attempts : Nat} {reply : {bytes : List UInt8 // bytes.length ≤ cmd.inLen}}
    (allowed : EntryPoint.refusal .transceive cmd payload = none) (replying : 0 < cmd.inLen)
    (framed : EntryPoint.accept .transceive reply = .ok reply) (answered : reply.val ≠ []) :
    ∃ trace, Retried cmd payload (attempts + 1) trace (.ok reply.val) ∧
      spent Bus.price trace = (attempts + 1) • exchangePrice := by
  have exchanged := fun reply => Asked.exchanged allowed
    (.received replying ⟨_, Nat.le_refl (Proto.encode cmd payload).length⟩ reply)
  induction attempts with
  | zero =>
      have asked := exchanged reply
      rw [Except.bind, framed] at asked
      refine ⟨_, .settled asked fun same => answered (Except.ok.inj same), ?_⟩
      rw [zero_add, one_nsmul]
      rfl
  | succ attempts ih =>
      obtain ⟨rest, later, costs⟩ := ih
      refine ⟨_, .again (exchanged ⟨[], Nat.zero_le _⟩) later, ?_⟩
      rw [spent_append, costs, succ_nsmul' _ (attempts + 1)]
      rfl

theorem spends_firmwareVersion :
    Spends Bus.price dev.firmwareVersion (.error (.usb .timeout)) exchangePrice := by
  refine ⟨[Bus.sentWhole (Proto.encode Proto.getFwVer []), Bus.recvFailed Proto.getFwVer .timeout],
    runs_firmwareVersion_iff.mpr ⟨_, Asked.exchanged (by decide) (.recvFailed ?_ _ _), rfl⟩, rfl⟩
  decide

theorem spends_enrolledCount (count : UInt8) :
    Spends Bus.price dev.enrolledCount (.ok count) (Proto.maxRetries • exchangePrice) := by
  have fits : [Proto.frameMagic, count].length ≤ Proto.getEnrolledCount.inLen := Nat.le_refl 2
  obtain ⟨trace, retried, costs⟩ := @exists_retried Proto.getEnrolledCount [] 2 ⟨_, fits⟩
    (by decide) (by decide) (EntryPoint.accept_magic _ _) (List.cons_ne_nil _ _)
  exact ⟨trace, runs_enrolledCount_iff.mpr ⟨_, retried, rfl⟩, costs⟩

theorem exists_spends_fingerInfo (index : UInt8) : ∃ known,
    Spends Bus.price (dev.fingerInfo index) known (Proto.maxRetries • exchangePrice) := by
  obtain ⟨trace, retried, costs⟩ := @exists_retried Proto.fingerInfo [index] 2
    ⟨[Proto.frameMagic], by decide⟩
    (EntryPoint.refusal_eq_none _ (by decide) (Proto.fits_fingerInfo index)) (by decide)
    (EntryPoint.accept_magic _ _) (List.cons_ne_nil _ _)
  exact ⟨_, trace, runs_fingerInfo_iff.mpr ⟨_, retried, rfl⟩, costs⟩

end Exchanges

/-! ### The commands -/

namespace Elanctl

variable {dev : ElanMoc2}

/-- How many exchanges a command may need: a query that is not repeated is one. -/
def Command.exchanges : Command → Nat
  | .info => 1 + Proto.maxRetries + Proto.maxPrints * Proto.maxRetries
  | .identify => Proto.maxRetries + 1 + Proto.maxRetries
  | .dump => 2 + Proto.maxPrints
  | .collision => 1

theorem length_slotsBelow (bound : Nat) : (slotsBelow bound).length = bound := by
  rw [slotsBelow, List.length_map, List.length_range]

theorem within_showSlot (i : UInt8) :
    Within Bus.price (showSlot dev i) (Proto.maxRetries • exchangePrice) :=
  within_fingerInfo.outcome.bind fun _ => within_println

theorem within_cmdInfo :
    Within Bus.price (cmdInfo dev) (Command.info.exchanges • exchangePrice) := by
  have slots (count : UInt8) :
      Within Bus.price ((slotsBelow (min count.toNat Proto.maxPrints)).forM (showSlot dev))
        (Proto.maxPrints • Proto.maxRetries • exchangePrice) := by
    refine (within_forM fun i _ => within_showSlot i).mono ?_
    rw [length_slotsBelow]
    exact nsmul_le_nsmul_left zero_le (Nat.min_le_right _ _)
  suffices Within Bus.price (cmdInfo dev) (0 + (exchangePrice + (0 +
      (Proto.maxRetries • exchangePrice +
        (0 + (0 + Proto.maxPrints • Proto.maxRetries • exchangePrice)))))) from this
  refine within_println.bind fun _ => within_firmwareVersion.outcome.bind fun _ =>
    within_println.bind fun _ => within_enrolledCount.outcome.bind fun known => ?_
  cases known with
  | error e => exact within_println.mono zero_le
  | ok count =>
      refine within_println.bind fun _ => ?_
      by_cases empty : count = 0
      · rw [if_pos empty]
        exact within_println.mono zero_le
      · rw [if_neg empty]
        exact within_println.bind fun _ => slots count

/-- A query that is not repeated, with its error as a value. -/
theorem within_raw (cmd : Cmd) (payload : List UInt8) :
    Within Bus.price (outcome (dev.transceiveRaw cmd payload) :
      DeviceM (Except Error (List UInt8))) exchangePrice :=
  (@within_perform .transceiveRaw dev cmd payload).outcome

theorem within_dumpSlot (i : UInt8) : Within Bus.price (dumpSlot dev i) exchangePrice := by
  rw [← add_zero exchangePrice]
  refine (within_raw _ _).bind fun known => ?_
  cases known with
  | ok reply => exact within_println.bind fun _ => within_println
  | error e => exact within_println

theorem within_dumpQuery (label : String) (cmd : Cmd) :
    Within Bus.price (dumpQuery dev label cmd) exchangePrice := by
  rw [← add_zero exchangePrice]
  exact (within_raw _ _).bind fun _ => within_println

theorem within_cmdDump :
    Within Bus.price (cmdDump dev) (Command.dump.exchanges • exchangePrice) := by
  have slots : Within Bus.price ((slotsBelow Proto.maxPrints).forM (dumpSlot dev))
      (Proto.maxPrints • exchangePrice) := by
    rw [← length_slotsBelow Proto.maxPrints]
    exact within_forM fun i _ => within_dumpSlot i
  exact within_println.bind fun _ => (within_dumpQuery _ _).bind fun _ =>
    (within_dumpQuery _ _).bind fun _ => within_println.bind fun _ => slots

theorem within_cmdCollision :
    Within Bus.price (cmdCollision dev) (Command.collision.exchanges • exchangePrice) := by
  have shown (reply : List UInt8) :
      Within Bus.price (if reply.length < 2 then println .collisionTooShort else do
        let b ← check (index reply 1)
        println (.collisionStatus b (Status.fromByte b))
        println .upstreamHeader
        println (upstreamLine (Status.fromByte b)) : DeviceM Unit) (0 + (0 + (0 + 0))) := by
    by_cases short : reply.length < 2
    · rw [if_pos short]
      exact within_println
    · rw [if_neg short]
      exact within_check.bind fun _ => within_println.bind fun _ => within_println.bind fun _ =>
        within_println
  exact within_println.bind fun _ => within_println.bind fun _ =>
    (@within_perform .transceiveRaw dev _ _).bind fun reply => within_println.bind fun _ =>
      shown reply

theorem within_identified (reply : Except Error (List UInt8)) :
    Within Bus.price (identified dev reply) (Proto.maxRetries • exchangePrice) := by
  cases reply with
  | error e =>
      have cancelled : Within Bus.price (identified dev (.error e)) (0 + (exchangePrice + 0)) :=
        within_println.bind fun _ => within_abort.outcome.bind fun _ => within_pure
      exact cancelled.mono (by decide)
  | ok reply =>
      suffices Within Bus.price (identified dev (.ok reply))
          (0 + (0 + (Proto.maxRetries • exchangePrice + 0))) from this
      change Within Bus.price (ite (reply.length ≥ 2) _ _) _
      by_cases long : reply.length ≥ 2
      · rw [if_pos long]
        refine within_check.bind fun status => within_println.bind fun _ => ?_
        cases Status.fromByte status with
        | ok idx => exact within_fingerInfo.outcome.bind fun _ => within_println
        | _ => exact within_pure.mono zero_le
      · rw [if_neg long]
        exact within_println.mono zero_le

theorem within_cmdIdentify :
    Within Bus.price (cmdIdentify dev) (Command.identify.exchanges • exchangePrice) := by
  have waited (count : UInt8) : Within Bus.price (if count = 0 then println .nothingToMatch else do
      println .placeFinger
      identified dev (← outcome (dev.transceive Proto.identify [])) : DeviceM Unit)
      (0 + (exchangePrice + Proto.maxRetries • exchangePrice)) := by
    by_cases empty : count = 0
    · rw [if_pos empty]
      exact within_println.mono zero_le
    · rw [if_neg empty]
      exact within_println.bind fun _ =>
        (@within_perform .transceive dev _ _).outcome.bind within_identified
  exact within_enrolledCount.bind fun count => within_println.bind fun _ => waited count

theorem within_body (command : Command) :
    Within Bus.price (command.body dev) (command.exchanges • exchangePrice) := by
  cases command with
  | info => exact within_cmdInfo
  | identify => exact within_cmdIdentify
  | dump => exact within_cmdDump
  | collision => exact within_cmdCollision

/-! Answers that make a command as dear as it can be. -/

/-- Ten fingers, and no record before the third attempt. -/
theorem spends_cmdInfo :
    Spends Bus.price (cmdInfo dev) (.ok ()) (Command.info.exchanges • exchangePrice) := by
  have rounds (i : UInt8) :
      Spends Bus.price (showSlot dev i) (.ok ()) (Proto.maxRetries • exchangePrice + 0) := by
    obtain ⟨known, asked⟩ := @exists_spends_fingerInfo dev i
    exact asked.outcome.bind spends_println
  have slots : Spends Bus.price ((slotsBelow Proto.maxPrints).forM (showSlot dev)) (.ok ())
      (Proto.maxPrints • Proto.maxRetries • exchangePrice) := by
    rw [← length_slotsBelow Proto.maxPrints]
    exact spends_forM fun i _ => rounds i
  suffices Spends Bus.price (cmdInfo dev) (.ok ()) (0 + (exchangePrice + (0 +
      (Proto.maxRetries • exchangePrice +
        (0 + (0 + Proto.maxPrints • Proto.maxRetries • exchangePrice)))))) from this
  exact spends_println.bind (spends_firmwareVersion.outcome.bind (spends_println.bind
    ((spends_enrolledCount 10).outcome.bind (spends_println.bind (spends_println.bind slots)))))

theorem spends_raw (cmd : Cmd) (payload : List UInt8)
    (allowed : EntryPoint.refusal .transceiveRaw cmd payload = none) (replying : 0 < cmd.inLen) :
    Spends Bus.price (outcome (dev.transceiveRaw cmd payload) :
      DeviceM (Except Error (List UInt8))) (.ok (.error (.usb .timeout))) exchangePrice :=
  (@spends_perform .transceiveRaw dev cmd payload allowed replying).outcome

/-- No reply at all. -/
theorem spends_cmdDump :
    Spends Bus.price (cmdDump dev) (.ok ()) (Command.dump.exchanges • exchangePrice) := by
  have rounds (i : UInt8) :
      Spends Bus.price (dumpSlot dev i) (.ok ()) (exchangePrice + 0) :=
    (spends_raw Proto.fingerInfo [i]
      (EntryPoint.refusal_eq_none _ (by decide) (Proto.fits_fingerInfo i)) (by decide)).bind
      spends_println
  have slots : Spends Bus.price ((slotsBelow Proto.maxPrints).forM (dumpSlot dev)) (.ok ())
      (Proto.maxPrints • exchangePrice) := by
    rw [← length_slotsBelow Proto.maxPrints]
    exact spends_forM fun i _ => rounds i
  have query (label : String) (cmd : Cmd)
      (allowed : EntryPoint.refusal .transceiveRaw cmd [] = none) (replying : 0 < cmd.inLen) :
      Spends Bus.price (dumpQuery dev label cmd) (.ok ()) (exchangePrice + 0) :=
    (spends_raw cmd [] allowed replying).bind spends_println
  suffices Spends Bus.price (cmdDump dev) (.ok ()) (0 + (exchangePrice + 0 + (exchangePrice + 0 +
      (0 + Proto.maxPrints • exchangePrice)))) from this
  exact spends_println.bind ((query _ _ (by decide) (by decide)).bind
    ((query _ _ (by decide) (by decide)).bind (spends_println.bind slots)))

/-- The sensor is not touched. -/
theorem spends_cmdCollision :
    Spends Bus.price (cmdCollision dev) (.error (.usb .timeout))
      (Command.collision.exchanges • exchangePrice) := by
  have waited : Spends Bus.price (dev.transceiveRaw Proto.checkEnrollCollision [])
      (.error (.usb .timeout)) exchangePrice :=
    @spends_perform .transceiveRaw dev _ _ (by decide) (by decide)
  suffices Spends Bus.price (cmdCollision dev) (.error (.usb .timeout)) (0 + (0 + exchangePrice))
    from this
  exact spends_println.bind (spends_println.bind waited.bind_error)

/-- A match, and no record before the third attempt. -/
theorem spends_cmdIdentify :
    Spends Bus.price (cmdIdentify dev) (.ok ()) (Command.identify.exchanges • exchangePrice) := by
  have matched : Spends Bus.price (dev.transceive Proto.identify []) (.ok [Proto.frameMagic, 0])
      exchangePrice :=
    @spends_answered .transceive dev Proto.identify [] ⟨[Proto.frameMagic, 0], by decide⟩
      (by decide) (by decide) (EntryPoint.accept_magic _ _)
  obtain ⟨known, record⟩ := @exists_spends_fingerInfo dev 0
  have shown : Spends Bus.price (identified dev (.ok [Proto.frameMagic, 0])) (.ok ())
      (0 + (Proto.maxRetries • exchangePrice + 0)) :=
    spends_println.bind (record.outcome.bind spends_println)
  suffices Spends Bus.price (cmdIdentify dev) (.ok ()) (Proto.maxRetries • exchangePrice +
      (0 + (0 + (exchangePrice + (0 + (Proto.maxRetries • exchangePrice + 0)))))) from this
  exact (spends_enrolledCount 1).bind (spends_println.bind (spends_println.bind
    (matched.outcome.bind shown)))

theorem exists_spends_body (command : Command) : ∃ known,
    Spends Bus.price (command.body dev) known (command.exchanges • exchangePrice) := by
  cases command with
  | info => exact ⟨_, spends_cmdInfo⟩
  | identify => exact ⟨_, spends_cmdIdentify⟩
  | dump => exact ⟨_, spends_cmdDump⟩
  | collision => exact ⟨_, spends_cmdCollision⟩

/-! ### The whole of `elanctl` -/

theorem within_run (command : Command) :
    Within Bus.price (run command dev) (command.exchanges • exchangePrice) := by
  suffices Within Bus.price (run command dev) (0 + (command.exchanges • exchangePrice + (0 + 0)))
    from this.mono (by rw [zero_add, add_zero, add_zero])
  refine within_println.bind fun _ => (within_body command).outcome.bind fun known => ?_
  cases known with
  | ok value => exact within_pure
  | error e => exact within_println.bind fun _ => within_pure

theorem exists_spends_run (command : Command) : ∃ code,
    Spends Bus.price (run command dev) (.ok code) (command.exchanges • exchangePrice) := by
  obtain ⟨known, body⟩ := @exists_spends_body dev command
  rw [← zero_add (command.exchanges • exchangePrice), ← add_zero (command.exchanges • exchangePrice),
    ← add_zero (0 : Nat × Nat)]
  cases known with
  | ok value => exact ⟨_, spends_println.bind (body.outcome.bind spends_pure)⟩
  | error e =>
      exact ⟨_, spends_println.bind (body.outcome.bind (spends_println.bind spends_pure))⟩

/-- An opening that succeeds. -/
theorem exists_opened : ∃ trace dev, openElanMoc2.run.Runs trace (.ok (.ok dev)) := by
  let device : UsbDevice := ⟨0⟩
  refine ⟨[⟨.newContext, (.ok ⟨0⟩ : Except UsbError Context)⟩,
    ⟨.devices ⟨0⟩, (.ok [device] : Except UsbError (List UsbDevice))⟩,
    ⟨.deviceDescriptor device, (.ok ⟨0x04f3, 0x0c00⟩ : Except UsbError DeviceDescriptor)⟩,
    ⟨.deviceDescriptor device, (.ok ⟨0x04f3, 0x0c00⟩ : Except UsbError DeviceDescriptor)⟩,
    Usb.opened ⟨device, 0⟩, Usb.active ⟨device, 0⟩ 0 (.ok false),
    Usb.claimed ⟨device, 0⟩ 0 (.ok ())], ⟨⟨0x0c00, 0, true⟩, ⟨device, 0⟩⟩, ?_⟩
  repeat constructor

theorem within_runCommand (command : Command) :
    Program.Within Sys.price (runCommand command) (command.exchanges • exchangePrice) := by
  have calls {α : Type} (program : Program UsbAnswer Fault α) :
      Program.Within Sys.price (program.translate usbWords) 0 :=
    (Program.within_free fun _ => rfl).translate
  have texts (text : Text) : Program.Within Sys.price (Sys.print text) 0 := Program.within_request
  have inside (dev : Opened) : Program.Within Sys.price
      ((run command dev.toElanMoc2).run.translate (sensorWords dev.handle))
      (command.exchanges • exchangePrice) := by
    apply Program.Within.translate
    rw [funext (price_sensorWords dev.handle)]
    exact within_run command
  suffices Program.Within Sys.price (runCommand command)
      (0 + (command.exchanges • exchangePrice + (0 + 0)))
    from this.mono (by rw [zero_add, add_zero, add_zero])
  refine (calls _).bind fun known => ?_
  cases known with
  | error e => exact ((texts _).bind fun _ => Program.within_pure).mono zero_le
  | ok dev =>
      refine (inside dev).bind fun known => (calls _).bind fun _ => ?_
      cases known <;> exact Program.within_pure

theorem exists_spends_runCommand (command : Command) : ∃ code,
    Program.Spends Sys.price (runCommand command) (.ok code)
      (command.exchanges • exchangePrice) := by
  obtain ⟨opening, dev, opened⟩ := exists_opened
  obtain ⟨code, ran⟩ := @exists_spends_run dev.toElanMoc2 command
  have calls {α : Type} {program : Program UsbAnswer Fault α} {trace : UsbTrace} {value : α}
      (run : program.Runs trace (.ok value)) :
      Program.Spends Sys.price (program.translate usbWords) (.ok value) 0 :=
    (Program.spends_free (fun _ => rfl) run).translate
  have inside : Program.Spends Sys.price
      ((run command dev.toElanMoc2).run.translate (sensorWords dev.handle)) (.ok (.ok code))
      (command.exchanges • exchangePrice) := by
    apply Program.Spends.translate
    rw [funext (price_sensorWords dev.handle)]
    exact ran
  have dropped := calls ((runs_drop_iff (usable_of_opened opened).2).mpr ⟨.ok (), rfl, rfl⟩)
  have whole : Program.Spends Sys.price (runCommand command) (.ok code)
      (0 + (command.exchanges • exchangePrice + (0 + 0))) :=
    (calls opened).bind (inside.bind (dropped.bind Program.spends_pure))
  rw [zero_add, add_zero, add_zero] at whole
  exact ⟨code, whole⟩

/-- The command a process was started with, if any. -/
def chosen (args : List String) : Option Command :=
  match args[1]?.getD "help" with
  | "info" => some .info
  | "identify" => some .identify
  | "dump" => some .dump
  | "collision" => some .collision
  | _ => none

/-- The most exchanges a process may need. -/
def exchanges (args : List String) : Nat := (chosen args).elim 0 Command.exchanges

theorem isGreatest_runCommand (command : Command) :
    IsGreatest {amount | ∃ result, Program.Spends Sys.price (runCommand command) result amount}
      (command.exchanges • exchangePrice) := by
  obtain ⟨code, spends⟩ := exists_spends_runCommand command
  exact (within_runCommand command).isGreatest spends

/-- Printing is free. -/
theorem print_free (text : Text) {program : SysM ExitCode} {code : ExitCode}
    (rest : Program.Within Sys.price program 0 ∧ Program.Spends Sys.price program (.ok code) 0) :
    Program.Within Sys.price (Sys.print text >>= fun _ => program) (0 + 0) ∧
      Program.Spends Sys.price (Sys.print text >>= fun _ => program) (.ok code) (0 + 0) :=
  ⟨Program.within_request.bind fun _ => rest.1,
    Program.Spends.bind (Program.spends_request ()) rest.2⟩

/-- **What `elanctl` may cost.** Whatever it is answered, a process offers its sensor no more
frames, and its transfers are granted no more time, than the exchanges of its command; and there
are answers with which it offers and takes as much. -/
theorem main_budget (args : List String) :
    IsGreatest {amount | ∃ result, Program.Spends Sys.price (main args) result amount}
      (exchanges args • exchangePrice) := by
  have returned (code : ExitCode) : Program.Within Sys.price (pure code : SysM ExitCode) 0 ∧
      Program.Spends Sys.price (pure code : SysM ExitCode) (.ok code) 0 :=
    ⟨Program.within_pure, Program.spends_pure⟩
  unfold main exchanges chosen
  generalize args[1]?.getD "help" = word
  split
  next => exact isGreatest_runCommand .info
  next => exact isGreatest_runCommand .identify
  next => exact isGreatest_runCommand .dump
  next => exact isGreatest_runCommand .collision
  next =>
    obtain ⟨within, spends⟩ := print_free .usage (returned .success)
    exact within.isGreatest spends
  next =>
    obtain ⟨within, spends⟩ := print_free .usage (returned .success)
    exact within.isGreatest spends
  next =>
    obtain ⟨within, spends⟩ := print_free .usage (returned .success)
    exact within.isGreatest spends
  next info identify dump collision help short long =>
    split
    next => exact absurd rfl info
    next => exact absurd rfl identify
    next => exact absurd rfl dump
    next => exact absurd rfl collision
    next =>
      obtain ⟨within, spends⟩ :=
        print_free (.unknownCommand _) (print_free .usage (returned .failure))
      exact within.isGreatest spends

/-- `elanctl info` may offer 34 frames and wait for eleven minutes and twenty seconds. -/
example : exchanges ["elanctl", "info"] • exchangePrice = (34, 680000) := by decide

end Elanctl

end Elan0c00
