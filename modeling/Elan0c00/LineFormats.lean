import Elan0c00.Rendering

/-! # The formats of the lines

The formats by which `elanctl` shows a status, an error and a line, as grammars: `statusGrammar`
for `Debug for Status`, `errorGrammar` for `Display for Error`, `lineGrammar` for the `println!`
calls. A status may stand in an error and both in a line, so each grammar is a kind of value for
the next (`statusKind`, `errorKind`).
-/

namespace Elan0c00

open Formats

/-! ### Statuses -/

inductive StatusForm where
  | ok
  | moveDown
  | moveRight
  | moveUp
  | moveLeft
  | maxEnrolledReached
  | sensorDirty
  | notEnrolled
  | notEnoughSurface
  | rejected
  | unknown

/-- The formats of `Debug for Status`. -/
def StatusForm.format : StatusForm → Format Unit
  | .ok => [.text "Ok(", .hole (), .text ")"]
  | .moveDown => [.text "MoveDown"]
  | .moveRight => [.text "MoveRight"]
  | .moveUp => [.text "MoveUp"]
  | .moveLeft => [.text "MoveLeft"]
  | .maxEnrolledReached => [.text "MaxEnrolledReached"]
  | .sensorDirty => [.text "SensorDirty"]
  | .notEnrolled => [.text "NotEnrolled"]
  | .notEnoughSurface => [.text "NotEnoughSurface"]
  | .rejected => [.text "Rejected"]
  | .unknown => [.text "Unknown(", .hole (), .text ")"]

def statusForms : List StatusForm :=
  [.ok, .moveDown, .moveRight, .moveUp, .moveLeft, .maxEnrolledReached, .sensorDirty, .notEnrolled,
    .notEnoughSurface, .rejected, .unknown]

def statusGrammar : Grammar fun _ : Unit => numberShape where
  Form := StatusForm
  forms := statusForms
  complete form := by cases form <;> simp [statusForms]
  format := StatusForm.format
  outer := [' ', ')']
  ended := by decide +kernel
  apart := by decide +kernel

/-- A byte in decimal. -/
def byteKind : Kind numberShape := number.via UInt8.toNat fun _ _ => UInt8.toNat_inj.mp

def Status.filled : Status → statusGrammar.Filled fun _ => byteKind
  | .ok b => ⟨.ok, b, ()⟩
  | .moveDown => ⟨.moveDown, ()⟩
  | .moveRight => ⟨.moveRight, ()⟩
  | .moveUp => ⟨.moveUp, ()⟩
  | .moveLeft => ⟨.moveLeft, ()⟩
  | .maxEnrolledReached => ⟨.maxEnrolledReached, ()⟩
  | .sensorDirty => ⟨.sensorDirty, ()⟩
  | .notEnrolled => ⟨.notEnrolled, ()⟩
  | .notEnoughSurface => ⟨.notEnoughSurface, ()⟩
  | .rejected => ⟨.rejected, ()⟩
  | .unknown b => ⟨.unknown, b, ()⟩

def Status.ofFilled : statusGrammar.Filled (fun _ => byteKind) → Status
  | ⟨.ok, b, _⟩ => .ok b
  | ⟨.moveDown, _⟩ => .moveDown
  | ⟨.moveRight, _⟩ => .moveRight
  | ⟨.moveUp, _⟩ => .moveUp
  | ⟨.moveLeft, _⟩ => .moveLeft
  | ⟨.maxEnrolledReached, _⟩ => .maxEnrolledReached
  | ⟨.sensorDirty, _⟩ => .sensorDirty
  | ⟨.notEnrolled, _⟩ => .notEnrolled
  | ⟨.notEnoughSurface, _⟩ => .notEnoughSurface
  | ⟨.rejected, _⟩ => .rejected
  | ⟨.unknown, b, _⟩ => .unknown b

theorem Status.ofFilled_filled (st : Status) : Status.ofFilled st.filled = st := by
  cases st <;> rfl

/-- A status as `Debug` shows it. -/
def statusKind : Kind statusGrammar.outline :=
  statusGrammar.toKind _ Status Status.filled Status.ofFilled Status.ofFilled_filled

/-! ### Errors -/

/-- What the formats of errors have holes for. -/
inductive ErrorHole where
  | usb
  | hexByte
  | number
  | name
  | described
  | status
  deriving DecidableEq

def ErrorHole.shape : ErrorHole → Shape
  | .usb => anyShape [[]]
  | .hexByte => anyShape [[]]
  | .number => numberShape
  | .name => anyShape (commandNames.map String.toList)
  | .described => anyShape (descriptions.map String.toList)
  | .status => statusGrammar.outline

def ErrorHole.kind (wording : Wording) : (hole : ErrorHole) → Kind hole.shape
  | .usb => prefixFree (fun e => (wording.usb e).toList) wording.free
  | .hexByte => fixed 2 Elan0c00.hexByte (fun _ => rfl) fun _ _ => hexByte_inj
  | .number => Formats.number
  | .name => word commandNames (by decide +kernel)
  | .described => word descriptions (by decide +kernel)
  | .status => statusKind

inductive ErrorForm where
  | usb
  | notFound
  | badMagic
  | short
  | payloadTooLarge
  | status
  | noResponse
  | gated

/-- The formats of `Display for Error`. -/
def ErrorForm.format : ErrorForm → Format ErrorHole
  | .usb => [.text "usb: ", .hole .usb]
  | .notFound => [.text "no supported ELAN sensor found"]
  | .badMagic => [.text "bad frame magic: expected 0x40, got 0x", .hole .hexByte]
  | .short =>
      [.text "short read: expected ", .hole .number, .text " bytes, got ", .hole .number]
  | .payloadTooLarge => [.text "payload too large for ", .hole .name]
  | .status => [.text "sensor status: ", .hole .described, .text " (", .hole .status, .text ")"]
  | .noResponse => [.text "no response to ", .hole .name, .text " after retries"]
  | .gated =>
      [.hole .name,
        .text " writes persistent data and requires an explicit DestructiveOps token"]

def errorForms : List ErrorForm :=
  [.usb, .notFound, .badMagic, .short, .payloadTooLarge, .status, .noResponse, .gated]

def errorGrammar : Grammar ErrorHole.shape where
  Form := ErrorForm
  forms := errorForms
  complete form := by cases form <;> simp [errorForms]
  format := ErrorForm.format
  outer := [' ', '\n']
  ended := by decide +kernel
  apart := by decide +kernel

section Errors

variable (wording : Wording)

def Error.filled : Error → errorGrammar.Filled (ErrorHole.kind wording)
  | .usb e => ⟨.usb, e, ()⟩
  | .notFound => ⟨.notFound, ()⟩
  | .badMagic got => ⟨.badMagic, got, ()⟩
  | .short expected got => ⟨.short, expected, got, ()⟩
  | .payloadTooLarge cmd => ⟨.payloadTooLarge, cmd, ()⟩
  | .status s => ⟨.status, s.describe, s, ()⟩
  | .noResponse cmd => ⟨.noResponse, cmd, ()⟩
  | .gated cmd => ⟨.gated, cmd, ()⟩

def Error.ofFilled : errorGrammar.Filled (ErrorHole.kind wording) → Error
  | ⟨.usb, e, _⟩ => .usb e
  | ⟨.notFound, _⟩ => .notFound
  | ⟨.badMagic, got, _⟩ => .badMagic got
  | ⟨.short, expected, got, _⟩ => .short expected got
  | ⟨.payloadTooLarge, cmd, _⟩ => .payloadTooLarge cmd
  | ⟨.status, _, s, _⟩ => .status s
  | ⟨.noResponse, cmd, _⟩ => .noResponse cmd
  | ⟨.gated, cmd, _⟩ => .gated cmd

theorem Error.ofFilled_filled (e : Error) : Error.ofFilled wording (e.filled wording) = e := by
  cases e <;> rfl

/-- An error as `Display` shows it. -/
def errorKind : Kind errorGrammar.outline :=
  errorGrammar.toKind _ Error (Error.filled wording) (Error.ofFilled wording)
    (Error.ofFilled_filled wording)

end Errors

/-! ### Lines -/

/-- The two queries that `dump` shows by a label. -/
inductive RawQuery where
  | version
  | count
  deriving DecidableEq

def RawQuery.label : RawQuery → String
  | .version => "get_fw_ver        "
  | .count => "get_enrolled_count"

/-- What the formats of lines have holes for. -/
inductive LineHole where
  | byte
  | number
  | spaced
  | zeroed
  | hexByte
  | hexWord
  | hex
  | quoted
  | status
  | described
  | error
  | elapsed
  deriving DecidableEq

/-- The text of a duration has none of these. -/
def endsElapsed (c : Char) : Bool := c == ')' || c == '\n'

def LineHole.shape : LineHole → Shape
  | .byte => numberShape
  | .number => numberShape
  | .spaced => ⟨fun c => !isSpaced c, [[]]⟩
  | .zeroed => ⟨fun c => !c.isDigit, [[]]⟩
  | .hexByte => anyShape [[]]
  | .hexWord => anyShape [[]]
  | .hex => ⟨fun c => !isHex c, [[]]⟩
  | .quoted => anyShape [['"']]
  | .status => statusGrammar.outline
  | .described => anyShape (descriptions.map String.toList)
  | .error => errorGrammar.outline
  | .elapsed => ⟨endsElapsed, [[]]⟩

/-- Four digits of lower-case hexadecimal. -/
def hexWord (word : UInt16) : List Char :=
  hexByte (word.toNat / 256).toUInt8 ++ hexByte (word.toNat % 256).toUInt8

theorem hexWord_inj : Function.Injective hexWord := by
  intro word other same
  obtain ⟨high, low⟩ := List.append_inj same rfl
  have highs := congrArg UInt8.toNat (hexByte_inj high)
  have lows := congrArg UInt8.toNat (hexByte_inj low)
  have bounded := word.toNat_lt
  have bounded' := other.toNat_lt
  simp only [Nat.toUInt8, UInt8.toNat_ofNat'] at highs lows
  apply UInt16.toNat_inj.mp
  omega

/-- Bytes in hexadecimal. -/
def hexKind : Kind ⟨fun c => !isHex c, [[]]⟩ where
  Value := List UInt8
  print := hex
  Legal _ := True
  begins _ _ := ⟨[], List.mem_singleton_self _, List.nil_prefix⟩
  determines _ _ _ _ _ _ stops stops' same :=
    hex_inj (append_inj_of_stop (fun _ => isHex_of_mem) (fun _ => isHex_of_mem) stops stops' same)

def LineHole.kind (wording : Wording) : (hole : LineHole) → Kind hole.shape
  | .byte => byteKind
  | .number => Formats.number
  | .spaced => spacedNumber
  | .zeroed => zeroedNumber.via UInt8.toNat fun _ _ => UInt8.toNat_inj.mp
  | .hexByte => fixed 2 Elan0c00.hexByte (fun _ => rfl) fun _ _ => hexByte_inj
  | .hexWord => fixed 4 Elan0c00.hexWord (fun _ => rfl) hexWord_inj
  | .hex => hexKind
  | .quoted =>
      Formats.quoted (escapeDebug wording.coded) (escapeDebug_apart _) (escapeDebug_unquoted _)
  | .status => statusKind
  | .described => word descriptions (by decide +kernel)
  | .error => errorKind wording
  | .elapsed => upTo endsElapsed

/-- The texts on standard output, by the call that prints them. -/
inductive LineForm where
  | usage
  | opened
  | readOnlyQueries
  | fwVersion
  | fwError
  | enrolledCount
  | enrolledCountError
  | noFingers
  | enrolledSlots
  | slot
  | slotError
  | rawReplies
  | rawReply (query : RawQuery)
  | rawError (query : RawQuery)
  | allSlots
  | rawSlot
  | rawBytes
  | collisionHeader
  | placeFingerIfWaiting
  | collisionReply
  | collisionTooShort
  | collisionStatus
  | upstreamHeader
  | upstreamEnrolls
  | upstreamDeletes
  | upstreamAborts
  | fingersEnrolled
  | nothingToMatch
  | placeFinger
  | identified
  | matchedSlot
  | matchedSlotError
  | identifyShort
  | identifyError

def lineForms : List LineForm :=
  [.opened, .readOnlyQueries, .fwVersion, .fwError, .enrolledCount, .enrolledCountError,
    .noFingers, .enrolledSlots, .slot, .slotError, .rawReplies, .rawReply .version,
    .rawReply .count, .rawError .version, .rawError .count, .allSlots, .rawSlot, .rawBytes, .collisionHeader,
    .placeFingerIfWaiting, .collisionReply, .collisionTooShort, .collisionStatus, .upstreamHeader,
    .upstreamEnrolls, .upstreamDeletes, .upstreamAborts, .fingersEnrolled, .nothingToMatch,
    .placeFinger, .identified, .matchedSlot, .matchedSlotError, .identifyShort, .identifyError,
    .usage]

/-- `usage`, line by line. -/
def usageLines : List String :=
  ["elanctl — ELAN elanmoc2 (04f3:0c00) driver\n",
    "\n",
    "USAGE:\n",
    "    elanctl <COMMAND>\n",
    "\n",
    "COMMANDS:\n",
    "    info        Firmware version, enrolled count, and enrolled slot metadata.\n",
    "                Read-only: sends only get_fw_ver, get_enrolled_count,\n",
    "                finger_info. Writes nothing.\n",
    "    dump        Raw hex of every read-only reply, with the 0x40 frame-magic\n",
    "                check disabled. Diagnostic. Sends no commands beyond those\n",
    "                `info` already sends.\n",
    "    collision   Send check_enroll_collision (ff 10) once and decode the reply.\n",
    "                Read-only: this command queries, it never writes. Determines\n",
    "                whether the elanmoc2 enroll path would abort safely or fall\n",
    "                through to its delete-then-wipe branch on this device.\n",
    "    identify    Wait for a finger and match it on-sensor. Stores nothing, but\n",
    "                blocks until you touch the sensor. Ctrl-C aborts.\n",
    "    help        This message.\n",
    "\n",
    "NOT AVAILABLE (persistent writes; require explicit operator approval):\n",
    "    enroll, commit, delete, wipe — implemented in the library behind\n",
    "    DestructiveOps, intentionally not exposed on the CLI.\n",
    "\n",
    "NOTE: needs write access to /dev/bus/usb/... — run under sudo, or install a\n",
    "udev rule for 04f3:0c00.\n"]

/-- The formats of the `println!` calls. A version is shown as `Display for FirmwareVersion` does
it, `major.minor` with two digits for the minor. -/
def LineForm.format : LineForm → Format LineHole
  | .usage => usageLines.map .text
  | .opened => [.text "opened ELAN 04f3:", .hole .hexWord, .text ", interface 0 claimed\n"]
  | .readOnlyQueries => [.text "\n-- read-only queries --\n"]
  | .fwVersion =>
      [.text "  get_fw_ver          -> ", .hole .byte, .text ".", .hole .zeroed, .text "  (raw [",
        .hole .hex, .text "])  (", .hole .elapsed, .text ")\n"]
  | .fwError =>
      [.text "  get_fw_ver          -> ERROR: ", .hole .error, .text "  (", .hole .elapsed,
        .text ")\n"]
  | .enrolledCount =>
      [.text "  get_enrolled_count  -> ", .hole .byte, .text "  (", .hole .elapsed, .text ")\n"]
  | .enrolledCountError =>
      [.text "  get_enrolled_count  -> ERROR: ", .hole .error, .text "  (", .hole .elapsed,
        .text ")\n"]
  | .noFingers => [.text "\n  no fingers enrolled on this sensor\n"]
  | .enrolledSlots =>
      [.text "\n-- enrolled slots (metadata only; templates never leave the sensor) --\n"]
  | .slot =>
      [.text "  slot ", .hole .byte, .text ": user_id=", .hole .quoted, .text " (", .hole .number,
        .text " bytes)  (", .hole .elapsed, .text ")\n"]
  | .slotError =>
      [.text "  slot ", .hole .byte, .text ": ERROR: ", .hole .error, .text "  (", .hole .elapsed,
        .text ")\n"]
  | .rawReplies => [.text "\n-- raw replies (frame-magic check DISABLED) --\n"]
  | .rawReply query =>
      [.text "  ", .text query.label, .text " out=", .hole .spaced, .text "B in=", .hole .spaced,
        .text "B ep=0x", .hole .hexByte, .text " -> [", .hole .hex, .text "]  (", .hole .elapsed,
        .text ")\n"]
  | .rawError query =>
      [.text "  ", .text query.label, .text " ERROR: ", .hole .error, .text "  (", .hole .elapsed,
        .text ")\n"]
  | .allSlots =>
      [.text "\n-- finger_info, all ", .hole .number, .text " slots, full 64-byte replies --\n"]
  | .rawSlot =>
      [.text "  slot ", .hole .byte, .text ": ", .hole .number, .text "B, ", .hole .number,
        .text " non-zero  (", .hole .elapsed, .text ")\n"]
  | .rawBytes => [.text "    ", .hole .hex, .text "\n"]
  | .collisionHeader => [.text "\n-- check_enroll_collision (ff 10), read-only --\n"]
  | .placeFingerIfWaiting =>
      [.text "place a finger on the sensor if it waits (Ctrl-C aborts)...\n"]
  | .collisionReply =>
      [.text "  raw reply: [", .hole .hex, .text "]  (", .hole .elapsed, .text ")\n"]
  | .collisionTooShort => [.text "  reply shorter than 2 bytes; cannot decode\n"]
  | .collisionStatus =>
      [.text "  status byte 0x", .hole .hexByte, .text " -> ", .hole .status, .text " (",
        .hole .described, .text ")\n"]
  | .upstreamHeader => [.text "\n-- what upstream's enroll path would do with this --\n"]
  | .upstreamEnrolls =>
      [.text "  0xfd -> jumps straight to ENROLL_ENROLL.\n",
        .text "               SAFE: no delete, no wipe.\n"]
  | .upstreamDeletes =>
      [.text "  MSN clear -> treated as \"already enrolled at slot ", .hole .byte, .text "\".\n",
        .text "               Sends finger_info (known broken here), then ENROLL_ATTEMPT_DELETE.\n",
        .text "               If that delete fails, ",
        .text "ENROLL_CHECK_DELETED jumps to ENROLL_WIPE_SENSOR.\n",
        .text "               *** DANGEROUS: enrolling could wipe the sensor. ***\n"]
  | .upstreamAborts =>
      [.text "  terminal error, can_retry = false -> fpi_device_enroll_complete(error).\n",
        .text "               SAFE: aborts before reaching delete or wipe.\n"]
  | .fingersEnrolled => [.text "\n", .hole .byte, .text " finger(s) enrolled\n"]
  | .nothingToMatch => [.text "nothing to match against; not sending identify\n"]
  | .placeFinger => [.text "place a finger on the sensor (Ctrl-C to abort)...\n"]
  | .identified =>
      [.text "identify -> [", .hole .hex, .text "] status=", .hole .status, .text " (",
        .hole .described, .text ") in ", .hole .elapsed, .text "\n"]
  | .matchedSlot =>
      [.text "matched slot ", .hole .byte, .text ": user_id=", .hole .quoted, .text "\n"]
  | .matchedSlotError =>
      [.text "matched slot ", .hole .byte, .text ", finger_info failed: ", .hole .error, .text "\n"]
  | .identifyShort =>
      [.text "identify -> short reply [", .hole .hex, .text "] in ", .hole .elapsed, .text "\n"]
  | .identifyError =>
      [.text "identify -> ", .hole .error, .text " after ", .hole .elapsed, .text "\n"]

set_option maxRecDepth 4000 in
/-- The texts on standard output. All of them end with a line break, so that anything may follow. -/
def lineGrammar : Grammar LineHole.shape where
  Form := LineForm
  forms := lineForms
  complete form := by
    cases form
    case rawReply query => cases query <;> simp [lineForms]
    case rawError query => cases query <;> simp [lineForms]
    all_goals simp [lineForms]
  format := LineForm.format
  outer := []
  ended := by decide +kernel
  apart := by decide +kernel

end Elan0c00
