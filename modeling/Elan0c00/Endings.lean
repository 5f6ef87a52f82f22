import Elan0c00.Processes

/-! # How the programs end

From the words the system passes to the way the process ends. A word is bytes, and reading one that
is not UTF-8 panics, as does a print that fails. `elanctl` panics for nothing else and ends in an
exit code otherwise (`Elanctl.main_exit`). The probe reads no words and panics for a failed print
only; also then it has kept its policy (`Probe.main_passive`).
-/

namespace Elan0c00

open Interaction Bytes

namespace Elanctl

/-- A word as text, if it is UTF-8. -/
def readWord (word : List UInt8) : Option String := String.fromUTF8? ⟨word.toArray⟩

/-- The words `std::env::args().nth(1)` reads: the name of the program and the one it returns. -/
def args (words : List (List UInt8)) : Option (List String) := (words.take 2).mapM readWord

/-- What a panic is about. -/
inductive Panic where
  | notUnicode
  | fault (fault : Fault)
  | unprinted (text : Text)

/-- The end of a process. -/
inductive Ending where
  | exited (code : ExitCode)
  | panicked (panic : Panic)

/-- What `elanctl` does with the words it was started with, and how it ends. -/
inductive Ends (words : List (List UInt8)) : SysTrace → Ending → Prop where
  | notUnicode (unread : args words = none) : Ends words [] (.panicked .notUnicode)
  | exited {given : List String} {trace : SysTrace} {code : ExitCode}
      (read : args words = some given) (run : (main given).Runs trace (.ok code)) :
      Ends words trace (.exited code)
  | faulted {given : List String} {trace : SysTrace} {fault : Fault}
      (read : args words = some given) (run : (main given).Runs trace (.error fault)) :
      Ends words trace (.panicked (.fault fault))
  | unprinted {given : List String} {done rest : SysTrace} {text : Text} {calls : UsbTrace}
      (read : args words = some given)
      (run : (Process.elanctl given).Finishes (done ++ Sys.printed text :: rest))
      (unwinds : (Process.elanctl given).Unwinds (Process.stillOpen done) calls) :
      Ends words (done ++ calls.map usbWords.event) (.panicked (.unprinted text))

section Args

variable {words : List (List UInt8)} {given : List String}

/-- The words are read one after another. -/
theorem args_eq_none_iff : args words = none ↔ ∃ word ∈ words.take 2, readWord word = none := by
  match words with
  | [] => exact iff_of_false nofun (by rintro ⟨_, ⟨⟩, _⟩)
  | [name] =>
      cases known : readWord name with
      | none => exact iff_of_true (by simp [args, known]) ⟨name, List.mem_cons_self, known⟩
      | some name' => simp [args, known]
  | name :: word :: rest =>
      cases known : readWord name with
      | none => exact iff_of_true (by simp [args, known]) ⟨name, List.mem_cons_self, known⟩
      | some name' =>
          cases asked : readWord word with
          | none => exact iff_of_true (by simp [args, known, asked]) ⟨word, by simp, asked⟩
          | some word' => simp [args, known, asked]

/-- The word that selects the command is the second. -/
theorem args_second (read : args words = some given) :
    given[1]? = words[1]?.bind readWord := by
  match words with
  | [] =>
      cases read
      rfl
  | [name] =>
      cases known : readWord name with
      | none => simp [args, known] at read
      | some name' =>
          obtain rfl : [name'] = given := by simpa [args, known] using read
          rfl
  | name :: word :: rest =>
      cases known : readWord name with
      | none => simp [args, known] at read
      | some name' =>
          cases asked : readWord word with
          | none => simp [args, known, asked] at read
          | some word' =>
              obtain rfl : [name', word'] = given := by simpa [args, known, asked] using read
              exact asked.symm

end Args

section Endings

variable {words : List (List UInt8)} {trace : SysTrace} {ending : Ending}

/-- What was only printed leaves nothing open. -/
theorem stillOpen_of_printed (printed : ∀ event ∈ trace, Sys.text? event ≠ none) :
    Process.stillOpen trace = [] := by
  have unmoved : ∀ handles, trace.foldl
      (fun handles event => Process.openAfter handles (act event)) handles = handles := by
    induction trace with
    | nil => exact fun _ => rfl
    | cons event rest ih =>
        obtain ⟨here, later⟩ := List.forall_mem_cons.mp printed
        intro handles
        rcases event with ⟨request, answer⟩
        cases request with
        | print text => exact ih later handles
        | _ => exact absurd rfl here
  exact unmoved []

/-- Unwinding makes calls only where something is open. -/
theorem exists_silent {process : Process} {done : SysTrace} {calls : UsbTrace}
    (unwinds : process.Unwinds (Process.stillOpen done) calls)
    (other : ∃ event ∈ done ++ calls.map usbWords.event, Sys.text? event = none) :
    ∃ event ∈ done, Sys.text? event = none := by
  by_contra printed
  have none : Process.stillOpen done = [] :=
    stillOpen_of_printed fun event member silent => printed ⟨event, member, silent⟩
  rw [none] at unwinds
  cases unwinds
  obtain ⟨event, member, silent⟩ := other
  rw [List.map_nil, List.append_nil] at member
  exact printed ⟨event, member, silent⟩

/-- **The end of `elanctl`.** It panics for a word that is not UTF-8 among the two it reads, having
done nothing, and otherwise only for a print that failed. If it ends with an exit code, it is that
of a failure exactly if something was written to standard error. More than printing is done only
for the four commands. -/
theorem main_exit (ended : Ends words trace ending) :
    (ending = .panicked .notUnicode ↔ ∃ word ∈ words.take 2, readWord word = none) ∧
      (ending = .panicked .notUnicode → trace = []) ∧
      (∀ fault, ending ≠ .panicked (.fault fault)) ∧
      (∀ code, ending = .exited code →
        (code = .failure ↔ ∃ text ∈ Sys.texts trace, toStderr text = true)) ∧
      ((∃ event ∈ trace, Sys.text? event = none) →
        ∃ word ∈ ["info", "identify", "dump", "collision"],
          words[1]?.bind readWord = some word) := by
  rw [← args_eq_none_iff]
  cases ended with
  | notUnicode unread =>
      refine ⟨iff_of_true rfl unread, fun _ => rfl, nofun, nofun, ?_⟩
      rintro ⟨_, ⟨⟩, _⟩
  | @exited given trace code read run =>
      obtain ⟨_, same, described⟩ := runs_main run
      cases same
      refine ⟨iff_of_false nofun (by rw [read]; nofun), nofun, nofun, ?_, ?_⟩
      · rintro _ ⟨⟩
        exact described.exit
      · rintro ⟨event, member, silent⟩
        rw [← args_second read]
        exact described.exists_command member silent
  | faulted read run =>
      obtain ⟨_, impossible, -⟩ := runs_main run
      cases impossible
  | @unprinted given done rest text calls read run unwinds =>
      obtain ⟨_, run⟩ := run
      obtain ⟨_, -, described⟩ := runs_main run
      refine ⟨iff_of_false nofun (by rw [read]; nofun), nofun, nofun, nofun, ?_⟩
      intro other
      obtain ⟨event, member, silent⟩ := exists_silent unwinds other
      rw [← args_second read]
      exact described.exists_command (List.mem_append_left _ member) silent

/-- `elanctl wipe`. -/
def wipeWords : List (List UInt8) :=
  [[0x65, 0x6c, 0x61, 0x6e, 0x63, 0x74, 0x6c], [0x77, 0x69, 0x70, 0x65]]

/-- A word that is no command, and one that is not UTF-8. -/
theorem main_exit_wipe :
    (Ends wipeWords [Sys.printed (.unknownCommand "wipe"), Sys.printed .usage]
        (.exited .failure) ∧
      ∃ text ∈ Sys.texts [Sys.printed (.unknownCommand "wipe"), Sys.printed .usage],
        toStderr text = true) ∧
      Ends [[0x65], [0xff]] [] (.panicked .notUnicode) ∧
        ∃ word ∈ [[0x65], [0xff]].take 2, readWord word = none := by
  have refused : Ends wipeWords [Sys.printed (.unknownCommand "wipe"), Sys.printed .usage]
      (.exited .failure) := by
    refine .exited (by decide : args wipeWords = some ["elanctl", "wipe"]) ?_
    repeat constructor
  have unread : Ends [[0x65], [0xff]] [] (.panicked .notUnicode) := .notUnicode (by decide)
  obtain ⟨-, -, -, exits, -⟩ := main_exit refused
  exact ⟨⟨refused, (exits .failure rfl).mp rfl⟩, unread, (main_exit unread).1.mp rfl⟩

end Endings

end Elanctl

namespace Probe

variable {dev : UsbDevice}

/-- A device is tried only after it was vetted. -/
theorem vetted_of_open {phase after : Phase} {trace : SysTrace}
    {answer : Except UsbError {handle : DeviceHandle // handle.device = dev}}
    (accepted : (lifecycle policy).watch Phase.start trace = some phase)
    (step : lifecycle policy phase ⟨.usb (.openDevice dev), answer⟩ = some after) :
    Vetted policy.supports dev trace := by
  rw [lifecycle_iff] at step
  cases answer with
  | error e =>
      cases step with
      | unopened known => exact vetted_of_watch accepted dev known
  | ok opened =>
      cases step with
      | opens known => exact vetted_of_watch accepted dev known

/-- **The probe keeps its safety policy.** Whatever it is answered, it panics at nothing but a
print. At any time, running, ended, killed or in a panic, it has tried to open no device but one
whose descriptor it had read as `04f3:0c00`, has sent nothing and detached no driver, and its
control transfers were standard reads of a descriptor. -/
theorem main_passive {trace : SysTrace} (lives : Process.probe.Lives trace) :
    Fallible.Safe main ∧ (∀ event ∈ trace, Passive event) ∧
      ∀ first dev (answer : Except UsbError {handle : DeviceHandle // handle.device = dev}) rest,
        trace = first ++ ⟨.usb (.openDevice dev), answer⟩ :: rest →
          Vetted (fun d => d.vendorId = 0x04f3 && d.productId = 0x0c00) dev first := by
  obtain ⟨phase, accepted⟩ := Process.accepted_of_lives lives
  refine ⟨main_safe, fun event member => ?_, ?_⟩
  · obtain ⟨_, _, step⟩ := Monitor.exists_step_of_mem accepted member
    exact passive_of_step step
  · rintro first dev answer rest rfl
    obtain ⟨middle, head, tail⟩ := Monitor.watch_append_iff.mp accepted
    obtain ⟨_, step, -⟩ := Monitor.watch_cons_iff.mp tail
    exact vetted_of_open head step

/-- A probe that could open its sensor, and not say so. -/
def unspoken : SysTrace :=
  bareShown ++ [usbWords.event (Usb.opened ⟨⟨0⟩, 0⟩)] ++
    [Usb.closed ⟨⟨0⟩, 0⟩].map usbWords.event

theorem main_passive_unspoken :
    Vetted (fun d => d.vendorId = 0x04f3 && d.productId = 0x0c00) ⟨0⟩ bareShown := by
  have run : Process.probe.Finishes (bareShown ++ [usbWords.event (Usb.opened ⟨⟨0⟩, 0⟩)] ++
      Sys.printed (.probe .openedOk) ::
      [⟨.readLanguages ⟨⟨0⟩, 0⟩ 1000, (.error .io : Except UsbError (List UInt16))⟩,
        ⟨.usb (.close ⟨⟨0⟩, 0⟩), ()⟩]) := by
    refine ⟨.ok (.error (.usb .io)), ?_⟩
    repeat constructor
  have lives : Process.probe.Lives unspoken := .gone (.unprinted run (.handle _))
  exact (main_passive lives).2.2 _ _ _ _ rfl

end Probe

end Elan0c00
