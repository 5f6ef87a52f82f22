import Elan0c00.Interaction.Environment
import Elan0c00.Values

/-! # What the host asks of the outside

The program transfers on bulk endpoints and prints lines. A transfer is a call of rusb, which may
refuse it without asking the device: an OUT is answered with the number of bytes it took, never more
than were offered, an IN with the bytes received, never more than the buffer holds, and either with
an error. Nothing else is assumed of the answers. Buffers are allocated without fail, whatever
length a command declares, where `vec!` panics beyond `isize::MAX` bytes.
-/

namespace Elan0c00

open Interaction Bytes

/-- Milliseconds before a bulk OUT gives up. -/
def sendTimeout : Nat := 10000

/-- Milliseconds before a bulk IN gives up. -/
def recvTimeout : Nat := 10000

/-- The lines `elanctl` prints, by the values filled in; elapsed times are left out. -/
inductive Line where
  | opened (pid : UInt16)
  | failed (e : Error)
  | readOnlyQueries
  | fwVersion (v : FirmwareVersion)
  | fwError (e : Error)
  | enrolledCount (count : UInt8)
  | enrolledCountError (e : Error)
  | noFingers
  | enrolledSlots
  | slot (i : UInt8) (userId : String) (bytes : Nat)
  | slotError (i : UInt8) (e : Error)
  | rawReplies
  | rawReply (label : String) (outLen got : Nat) (epIn : UInt8) (reply : List UInt8)
  | rawError (label : String) (e : Error)
  | allSlots (maxPrints : Nat)
  | rawSlot (i : UInt8) (got nonzero : Nat)
  | rawBytes (reply : List UInt8)
  | collisionHeader
  | placeFingerIfWaiting
  | collisionReply (reply : List UInt8)
  | collisionTooShort
  | collisionStatus (b : UInt8) (st : Status)
  | upstreamHeader
  | upstreamEnrolls
  | upstreamDeletes (idx : UInt8)
  | upstreamAborts
  | fingersEnrolled (count : UInt8)
  | nothingToMatch
  | placeFinger
  | identified (reply : List UInt8) (st : Status)
  | matchedSlot (idx : UInt8) (userId : String)
  | matchedSlotError (idx : UInt8) (e : Error)
  | identifyShort (reply : List UInt8)
  | identifyError (e : Error)
  deriving DecidableEq, Repr

/-- One request to libusb or to the terminal. -/
inductive Request where
  | writeBulk (endpoint : UInt8) (buf : List UInt8) (timeout : Nat)
  | readBulk (endpoint : UInt8) (len timeout : Nat)
  | println (line : Line)
  deriving DecidableEq, Repr

/-- What a request is answered with. -/
def Answer : Request → Type
  | .writeBulk _ buf _ => Except UsbError {n : Nat // n ≤ buf.length}
  | .readBulk _ len _ => Except UsbError {bytes : List UInt8 // bytes.length ≤ len}
  | .println _ => Unit

abbrev DeviceM := Fallible Answer Fault Error

abbrev Trace := List (Event Answer)

namespace Trace

/-- The frame an event offers to the sensor, whatever came of it. -/
def outFrame? : Event Answer → Option (List UInt8)
  | ⟨.writeBulk _ buf _, _⟩ => some buf
  | _ => none

/-- The line an event printed. -/
def line? : Event Answer → Option Line
  | ⟨.println line, _⟩ => some line
  | _ => none

/-- The event is a transfer. -/
def isTransfer : Event Answer → Bool
  | ⟨.println _, _⟩ => false
  | _ => true

/-- What a transfer brought: the bytes of an IN, nothing for an OUT, `none` if it failed. -/
def reply? : Event Answer → Option (List UInt8)
  | ⟨.writeBulk _ _ _, .ok _⟩ => some []
  | ⟨.readBulk _ _ _, .ok bytes⟩ => some bytes.val
  | _ => none

/-- The frames of the attempted OUT transfers, in order. -/
def outFrames (trace : Trace) : List (List UInt8) := trace.filterMap outFrame?

/-- The lines printed, in order. -/
def lines (trace : Trace) : List Line := trace.filterMap line?

/-- The transfers without the printed lines. -/
def transfers (trace : Trace) : Trace := trace.filter isTransfer

/-- What the last event of a trace brought. -/
def lastReply (trace : Trace) : Option (List UInt8) := trace.getLast?.bind reply?

theorem lastReply_append {rest : Trace} (nonempty : rest ≠ []) (first : Trace) :
    lastReply (first ++ rest) = lastReply rest := by
  unfold lastReply
  rw [List.getLast?_append_of_ne_nil first nonempty]

@[simp] theorem transfers_append (first second : Trace) :
    transfers (first ++ second) = transfers first ++ transfers second :=
  List.filter_append ..

@[simp] theorem outFrames_append (first second : Trace) :
    outFrames (first ++ second) = outFrames first ++ outFrames second :=
  List.filterMap_append

@[simp] theorem lines_nil : lines [] = [] := rfl

@[simp] theorem lines_append (first second : Trace) :
    lines (first ++ second) = lines first ++ lines second :=
  List.filterMap_append

/-- Only transfers attempt frames. -/
theorem outFrames_transfers (trace : Trace) :
    outFrames (transfers trace) = outFrames trace := by
  induction trace with
  | nil => rfl
  | cons event trace ih =>
      rcases event with ⟨request, answer⟩
      cases request with
      | println => exact ih
      | writeBulk _ buf _ => exact congrArg (buf :: ·) ih
      | readBulk => exact ih

/-- Transfers print nothing. -/
theorem lines_transfers (trace : Trace) : lines (transfers trace) = [] := by
  induction trace with
  | nil => rfl
  | cons event trace ih =>
      rcases event with ⟨request, answer⟩
      cases request <;> exact ih

theorem lines_eq_nil {trace : Trace} (transfers : trace.transfers = trace) : trace.lines = [] := by
  rw [← transfers]
  exact lines_transfers trace

end Trace

namespace Bus

/-- The OUT transfer of a frame, with the number of bytes taken. -/
def sent (out : List UInt8) (taken : {n : Nat // n ≤ out.length}) : Event Answer :=
  ⟨.writeBulk Proto.epCmdOut out sendTimeout, .ok taken⟩

/-- All of the frame was taken. -/
def sentWhole (out : List UInt8) : Event Answer := sent out ⟨out.length, Nat.le_refl _⟩

def sendFailed (out : List UInt8) (e : UsbError) : Event Answer :=
  ⟨.writeBulk Proto.epCmdOut out sendTimeout, .error e⟩

/-- The IN transfer of a command's reply. -/
def received (cmd : Cmd) (reply : {bytes : List UInt8 // bytes.length ≤ cmd.inLen}) :
    Event Answer :=
  ⟨.readBulk cmd.epIn cmd.inLen recvTimeout, .ok reply⟩

def recvFailed (cmd : Cmd) (e : UsbError) : Event Answer :=
  ⟨.readBulk cmd.epIn cmd.inLen recvTimeout, .error e⟩

/-- A line has been printed. -/
def printed (line : Line) : Event Answer := ⟨.println line, ()⟩

@[simp] theorem transfers_printed (line : Line) (rest : Trace) :
    Trace.transfers (printed line :: rest) = Trace.transfers rest := rfl

@[simp] theorem lines_printed (line : Line) (rest : Trace) :
    Trace.lines (printed line :: rest) = line :: Trace.lines rest := rfl

end Bus

/-- Offer a buffer to a bulk OUT endpoint; how much of it was taken. -/
def writeBulk (endpoint : UInt8) (buf : List UInt8) (timeout : Nat) : DeviceM Nat :=
  Fallible.request (.writeBulk endpoint buf timeout)
    fun answer : Except UsbError {n : Nat // n ≤ buf.length} =>
      (answer.map Subtype.val).mapError .usb

/-- Read from a bulk IN endpoint into a buffer of `len` bytes; the bytes received. -/
def readBulk (endpoint : UInt8) (len timeout : Nat) : DeviceM (List UInt8) :=
  Fallible.request (.readBulk endpoint len timeout)
    fun answer : Except UsbError {bytes : List UInt8 // bytes.length ≤ len} =>
      (answer.map Subtype.val).mapError .usb

def println (line : Line) : DeviceM Unit :=
  Fallible.request (.println line) fun _ => .ok ()

section Runs

variable {α : Type} {trace : Trace} {result : Except Fault (Except Error α)}

/-- An OUT transfer fails and ends the run, or takes some of the buffer. -/
theorem runs_writeBulk_bind_iff {out : List UInt8} {rest : Nat → DeviceM α} :
    (writeBulk Proto.epCmdOut out sendTimeout >>= rest).run.Runs trace result ↔
      (∃ e, trace = [Bus.sendFailed out e] ∧ result = .ok (.error (.usb e))) ∨
        ∃ taken tail, trace = Bus.sent out taken :: tail ∧
          (rest taken.val).run.Runs tail result := by
  refine Fallible.runs_request_bind_iff.trans ?_
  constructor
  · rintro ⟨answer, tail, rfl, outcome⟩
    cases answer with
    | error e =>
        rcases outcome with ⟨_, same, rfl, rfl⟩ | ⟨_, impossible, _⟩
        · cases same
          exact .inl ⟨e, rfl, rfl⟩
        · exact nomatch impossible
    | ok taken =>
        rcases outcome with ⟨_, impossible, _⟩ | ⟨_, same, run⟩
        · exact nomatch impossible
        · cases same
          exact .inr ⟨taken, tail, rfl, run⟩
  · rintro (⟨e, rfl, rfl⟩ | ⟨taken, tail, rfl, run⟩)
    · exact ⟨.error e, [], rfl, .inl ⟨.usb e, rfl, rfl, rfl⟩⟩
    · exact ⟨.ok taken, tail, rfl, .inr ⟨taken.val, rfl, run⟩⟩

/-- An IN transfer fails and ends the run, or fills some of the buffer. -/
theorem runs_readBulk_bind_iff {cmd : Cmd} {rest : List UInt8 → DeviceM α} :
    (readBulk cmd.epIn cmd.inLen recvTimeout >>= rest).run.Runs trace result ↔
      (∃ e, trace = [Bus.recvFailed cmd e] ∧ result = .ok (.error (.usb e))) ∨
        ∃ reply tail, trace = Bus.received cmd reply :: tail ∧
          (rest reply.val).run.Runs tail result := by
  refine Fallible.runs_request_bind_iff.trans ?_
  constructor
  · rintro ⟨answer, tail, rfl, outcome⟩
    cases answer with
    | error e =>
        rcases outcome with ⟨_, same, rfl, rfl⟩ | ⟨_, impossible, _⟩
        · cases same
          exact .inl ⟨e, rfl, rfl⟩
        · exact nomatch impossible
    | ok reply =>
        rcases outcome with ⟨_, impossible, _⟩ | ⟨_, same, run⟩
        · exact nomatch impossible
        · cases same
          exact .inr ⟨reply, tail, rfl, run⟩
  · rintro (⟨e, rfl, rfl⟩ | ⟨reply, tail, rfl, run⟩)
    · exact ⟨.error e, [], rfl, .inl ⟨.usb e, rfl, rfl, rfl⟩⟩
    · exact ⟨.ok reply, tail, rfl, .inr ⟨reply.val, rfl, run⟩⟩

/-- Printing a line never fails. -/
theorem runs_println_bind_iff {line : Line} {rest : Unit → DeviceM α} :
    (println line >>= rest).run.Runs trace result ↔
      ∃ tail, trace = Bus.printed line :: tail ∧ (rest ()).run.Runs tail result := by
  refine Fallible.runs_request_bind_iff.trans ?_
  constructor
  · rintro ⟨_, tail, rfl, ⟨_, impossible, _⟩ | ⟨_, _, run⟩⟩
    · exact nomatch impossible
    · exact ⟨tail, rfl, run⟩
  · rintro ⟨tail, rfl, run⟩
    exact ⟨(), tail, rfl, .inr ⟨(), rfl, run⟩⟩

theorem runs_println_iff {line : Line} {result : Except Fault (Except Error Unit)} :
    (println line).run.Runs trace result ↔
      trace = [Bus.printed line] ∧ result = .ok (.ok ()) := by
  refine Fallible.runs_request_iff.trans ?_
  constructor
  · rintro ⟨_, rfl, rfl⟩
    exact ⟨rfl, rfl⟩
  · rintro ⟨rfl, rfl⟩
    exact ⟨(), rfl, rfl⟩

end Runs

end Elan0c00
