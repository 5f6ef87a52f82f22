import Elan0c00.LineFormats
import Elan0c00.Processes

/-! # What a run writes

The lines of `elanctl` filled in, and read back (`Text.ofFilled_filled`). Every line of a run is one
that can be read back: the errors it shows name commands of the protocol, the labels are the two of
`dump` (`Elanctl.plain_of_lives`). So what runs of `elanctl` have written to standard output shows
what they have printed (`Elanctl.output_determines`).
-/

namespace Elan0c00

open Interaction Formats Bytes

section Lines

variable (wording : Wording) (elapsed : String)

/-- How a line is filled in, with the time the call before it took. Errors of a command go to
standard error. -/
def Line.filled : Line → Option (lineGrammar.Filled (LineHole.kind wording))
  | .opened pid => some ⟨.opened, pid, ()⟩
  | .failed _ => none
  | .readOnlyQueries => some ⟨.readOnlyQueries, ()⟩
  | .fwVersion v => some ⟨.fwVersion, v.major, v.minor, [v.raw.1, v.raw.2], elapsed, ()⟩
  | .fwError e => some ⟨.fwError, e, elapsed, ()⟩
  | .enrolledCount count => some ⟨.enrolledCount, count, elapsed, ()⟩
  | .enrolledCountError e => some ⟨.enrolledCountError, e, elapsed, ()⟩
  | .noFingers => some ⟨.noFingers, ()⟩
  | .enrolledSlots => some ⟨.enrolledSlots, ()⟩
  | .slot i userId bytes => some ⟨.slot, i, userId, bytes, elapsed, ()⟩
  | .slotError i e => some ⟨.slotError, i, e, elapsed, ()⟩
  | .rawReplies => some ⟨.rawReplies, ()⟩
  | .rawReply label outLen got epIn reply =>
      if label = RawQuery.version.label then
        some ⟨.rawReply .version, outLen, got, epIn, reply, elapsed, ()⟩
      else if label = RawQuery.count.label then
        some ⟨.rawReply .count, outLen, got, epIn, reply, elapsed, ()⟩
      else none
  | .rawError label e =>
      if label = RawQuery.version.label then some ⟨.rawError .version, e, elapsed, ()⟩
      else if label = RawQuery.count.label then some ⟨.rawError .count, e, elapsed, ()⟩
      else none
  | .allSlots maxPrints => some ⟨.allSlots, maxPrints, ()⟩
  | .rawSlot i got nonzero => some ⟨.rawSlot, i, got, nonzero, elapsed, ()⟩
  | .rawBytes reply => some ⟨.rawBytes, reply, ()⟩
  | .collisionHeader => some ⟨.collisionHeader, ()⟩
  | .placeFingerIfWaiting => some ⟨.placeFingerIfWaiting, ()⟩
  | .collisionReply reply => some ⟨.collisionReply, reply, elapsed, ()⟩
  | .collisionTooShort => some ⟨.collisionTooShort, ()⟩
  | .collisionStatus b st => some ⟨.collisionStatus, b, st, st.describe, ()⟩
  | .upstreamHeader => some ⟨.upstreamHeader, ()⟩
  | .upstreamEnrolls => some ⟨.upstreamEnrolls, ()⟩
  | .upstreamDeletes idx => some ⟨.upstreamDeletes, idx, ()⟩
  | .upstreamAborts => some ⟨.upstreamAborts, ()⟩
  | .fingersEnrolled count => some ⟨.fingersEnrolled, count, ()⟩
  | .nothingToMatch => some ⟨.nothingToMatch, ()⟩
  | .placeFinger => some ⟨.placeFinger, ()⟩
  | .identified reply st => some ⟨.identified, reply, st, st.describe, elapsed, ()⟩
  | .matchedSlot idx userId => some ⟨.matchedSlot, idx, userId, ()⟩
  | .matchedSlotError idx e => some ⟨.matchedSlotError, idx, e, ()⟩
  | .identifyShort reply => some ⟨.identifyShort, reply, elapsed, ()⟩
  | .identifyError e => some ⟨.identifyError, e, elapsed, ()⟩

/-- How a text is filled in that goes to standard output. -/
def Text.filled : Text → Option (lineGrammar.Filled (LineHole.kind wording))
  | .line said => said.filled wording elapsed
  | .usage => some ⟨.usage, ()⟩
  | .openFailed _ => none
  | .unknownCommand _ => none
  | .probe _ => none

/-- The text that was filled in. -/
def Text.ofFilled : lineGrammar.Filled (LineHole.kind wording) → Text
  | ⟨.usage, _⟩ => .usage
  | ⟨.opened, pid, _⟩ => .line (.opened pid)
  | ⟨.readOnlyQueries, _⟩ => .line .readOnlyQueries
  | ⟨.fwVersion, major, minor, raw, _, _⟩ =>
      .line (.fwVersion ⟨major, minor, (raw.getD 0 0, raw.getD 1 0)⟩)
  | ⟨.fwError, e, _, _⟩ => .line (.fwError e)
  | ⟨.enrolledCount, count, _, _⟩ => .line (.enrolledCount count)
  | ⟨.enrolledCountError, e, _, _⟩ => .line (.enrolledCountError e)
  | ⟨.noFingers, _⟩ => .line .noFingers
  | ⟨.enrolledSlots, _⟩ => .line .enrolledSlots
  | ⟨.slot, i, userId, bytes, _, _⟩ => .line (.slot i userId bytes)
  | ⟨.slotError, i, e, _, _⟩ => .line (.slotError i e)
  | ⟨.rawReplies, _⟩ => .line .rawReplies
  | ⟨.rawReply query, outLen, got, epIn, reply, _, _⟩ =>
      .line (.rawReply query.label outLen got epIn reply)
  | ⟨.rawError query, e, _, _⟩ => .line (.rawError query.label e)
  | ⟨.allSlots, maxPrints, _⟩ => .line (.allSlots maxPrints)
  | ⟨.rawSlot, i, got, nonzero, _, _⟩ => .line (.rawSlot i got nonzero)
  | ⟨.rawBytes, reply, _⟩ => .line (.rawBytes reply)
  | ⟨.collisionHeader, _⟩ => .line .collisionHeader
  | ⟨.placeFingerIfWaiting, _⟩ => .line .placeFingerIfWaiting
  | ⟨.collisionReply, reply, _, _⟩ => .line (.collisionReply reply)
  | ⟨.collisionTooShort, _⟩ => .line .collisionTooShort
  | ⟨.collisionStatus, b, st, _, _⟩ => .line (.collisionStatus b st)
  | ⟨.upstreamHeader, _⟩ => .line .upstreamHeader
  | ⟨.upstreamEnrolls, _⟩ => .line .upstreamEnrolls
  | ⟨.upstreamDeletes, idx, _⟩ => .line (.upstreamDeletes idx)
  | ⟨.upstreamAborts, _⟩ => .line .upstreamAborts
  | ⟨.fingersEnrolled, count, _⟩ => .line (.fingersEnrolled count)
  | ⟨.nothingToMatch, _⟩ => .line .nothingToMatch
  | ⟨.placeFinger, _⟩ => .line .placeFinger
  | ⟨.identified, reply, st, _, _, _⟩ => .line (.identified reply st)
  | ⟨.matchedSlot, idx, userId, _⟩ => .line (.matchedSlot idx userId)
  | ⟨.matchedSlotError, idx, e, _⟩ => .line (.matchedSlotError idx e)
  | ⟨.identifyShort, reply, _, _⟩ => .line (.identifyShort reply)
  | ⟨.identifyError, e, _, _⟩ => .line (.identifyError e)

variable {wording elapsed}

theorem Text.ofFilled_filled {text : Text} {filled : lineGrammar.Filled (LineHole.kind wording)}
    (shown : text.filled wording elapsed = some filled) : Text.ofFilled wording filled = text := by
  cases text with
  | line said =>
      cases said
      case rawReply label outLen got epIn reply =>
        simp only [Text.filled, Line.filled] at shown
        split at shown
        next version =>
          obtain rfl := Option.some.inj shown
          rw [version]
          rfl
        split at shown
        next count =>
          obtain rfl := Option.some.inj shown
          rw [count]
          rfl
        cases shown
      case rawError label e =>
        simp only [Text.filled, Line.filled] at shown
        split at shown
        next version =>
          obtain rfl := Option.some.inj shown
          rw [version]
          rfl
        split at shown
        next count =>
          obtain rfl := Option.some.inj shown
          rw [count]
          rfl
        cases shown
      case failed e => cases shown
      all_goals
        obtain rfl := Option.some.inj shown
        rfl
  | usage =>
      obtain rfl := Option.some.inj shown
      rfl
  | _ => cases shown

end Lines

/-! ### The lines of a run -/

/-- An error names a command of the protocol, if any. -/
def Error.Named : Error → Prop
  | .payloadTooLarge cmd => cmd ∈ commandNames
  | .noResponse cmd => cmd ∈ commandNames
  | .gated cmd => cmd ∈ commandNames
  | _ => True

/-- The label is one of those `dump` shows. -/
def Labelled (label : String) : Prop :=
  label = RawQuery.version.label ∨ label = RawQuery.count.label

/-- A line says what `elanctl` may say where a format takes any text. -/
def Line.Plain : Line → Prop
  | .fwError e => e.Named
  | .enrolledCountError e => e.Named
  | .slotError _ e => e.Named
  | .matchedSlotError _ e => e.Named
  | .identifyError e => e.Named
  | .rawReply label _ _ _ _ => Labelled label
  | .rawError label e => Labelled label ∧ e.Named
  | _ => True

section Errors

variable {cmd : Cmd} {payload : List UInt8} {trace : Trace} {e : Error} {dev : ElanMoc2}

theorem Asked.named {entry : EntryPoint} {outcome : Except Error (List UInt8)}
    (asked : Asked entry cmd payload trace outcome) (known : cmd.name ∈ commandNames)
    (failed : outcome = .error e) : e.Named := by
  cases asked with
  | refused refusal =>
      obtain rfl := Except.error.inj failed
      unfold EntryPoint.refusal at refusal
      split at refusal
      · obtain rfl := Option.some.inj refusal
        exact known
      split at refusal
      · cases refusal
      · obtain rfl := Option.some.inj refusal
        exact known
  | @exchanged _ outcome _ exchange =>
      cases outcome with
      | ok reply =>
          change entry.accept reply = .error e at failed
          rcases entry.accept_cases reply with accepted | ⟨first, refused⟩
          · cases accepted.symm.trans failed
          · obtain rfl := Except.error.inj (refused.symm.trans failed)
            trivial
      | error e' =>
          obtain rfl := Except.error.inj failed
          cases exchange <;> trivial

theorem Retried.named {attempts : Nat} {outcome : Except Error (List UInt8)}
    (retried : Retried cmd payload attempts trace outcome) (known : cmd.name ∈ commandNames)
    (failed : outcome = .error e) : e.Named := by
  induction retried with
  | exhausted =>
      obtain rfl := Except.error.inj failed
      exact known
  | settled asked => exact asked.named known failed
  | again _ _ ih => exact ih failed

theorem decodeVersion_named {reply : List UInt8} (failed : decodeVersion reply = .error e) :
    e.Named := by
  unfold decodeVersion at failed
  split at failed
  · cases failed
  · obtain rfl := Except.error.inj failed
    trivial

theorem decodeCount_named {reply : List UInt8} (failed : decodeCount reply = .error e) :
    e.Named := by
  unfold decodeCount at failed
  split at failed
  · cases failed
  · obtain rfl := Except.error.inj failed
    trivial

theorem decodeUserId_named {pid : UInt16} {i : UInt8} {reply : List UInt8}
    (failed : decodeUserId pid i reply = .error e) : e.Named := by
  unfold decodeUserId at failed
  split at failed
  · obtain rfl := Except.error.inj failed
    trivial
  · cases failed

theorem decodeFingerInfo_named {pid : UInt16} {i : UInt8} {reply : List UInt8}
    (failed : decodeFingerInfo pid i reply = .error e) : e.Named := by
  unfold decodeFingerInfo at failed
  split at failed
  · split at failed
    · exact decodeUserId_named failed
    · obtain rfl := Except.error.inj failed
      trivial
  · exact decodeUserId_named failed

/-- An error of a decoded reply is one of the exchange or one of the decoder. -/
theorem named_of_bind {α : Type} {outcome : Except Error (List UInt8)}
    {decode : List UInt8 → Except Error α} (failed : outcome.bind decode = .error e)
    (exchange : outcome = .error e → e.Named)
    (decoder : ∀ reply, decode reply = .error e → e.Named) : e.Named := by
  cases outcome with
  | error e' =>
      obtain rfl := Except.error.inj failed
      exact exchange rfl
  | ok reply => exact decoder reply failed

theorem firmwareVersion_named (run : dev.firmwareVersion.run.Runs trace (.ok (.error e))) :
    e.Named := by
  obtain ⟨outcome, asked, same⟩ := runs_firmwareVersion_iff.mp run
  exact named_of_bind (Except.ok.inj same).symm (asked.named (by decide))
    fun _ => decodeVersion_named

theorem enrolledCount_named (run : dev.enrolledCount.run.Runs trace (.ok (.error e))) :
    e.Named := by
  obtain ⟨outcome, retried, same⟩ := runs_enrolledCount_iff.mp run
  exact named_of_bind (Except.ok.inj same).symm (retried.named (by decide))
    fun _ => decodeCount_named

theorem fingerInfo_named {i : UInt8} (run : (dev.fingerInfo i).run.Runs trace (.ok (.error e))) :
    e.Named := by
  obtain ⟨outcome, retried, same⟩ := runs_fingerInfo_iff.mp run
  exact named_of_bind (Except.ok.inj same).symm (retried.named (by decide))
    fun _ => decodeFingerInfo_named

theorem perform_named (dev : ElanMoc2) (entry : EntryPoint) (known : cmd.name ∈ commandNames)
    (run : (entry.perform dev cmd payload).run.Runs trace (.ok (.error e))) : e.Named := by
  obtain ⟨outcome, asked, same⟩ := (entry.runs_perform_iff dev).mp run
  exact asked.named known (Except.ok.inj same).symm

end Errors

namespace Elanctl

section Lines

variable {dev : ElanMoc2} {trace : Trace}

theorem plain_slotLine {part : Trace} {i : UInt8} {known : Except Error FingerInfo}
    (asked : (dev.fingerInfo i).run.Runs part (.ok known)) : (slotLine i known).Plain := by
  cases known with
  | ok info => trivial
  | error e =>
      have named : e.Named := fingerInfo_named asked
      exact named

theorem ShownSlots.plain {slots : List UInt8} (shown : ShownSlots dev slots trace) :
    ∀ line ∈ trace.lines, line.Plain := by
  induction shown with
  | nil => exact List.forall_mem_nil _
  | cons asked _ ih =>
      rw [Trace.lines_append, Trace.lines_eq_nil (fingerInfo_query asked).1, List.nil_append]
      exact List.forall_mem_cons.mpr ⟨plain_slotLine asked, ih⟩

theorem Listed.plain {count : Except Error UInt8} (listed : Listed dev count trace)
    (named : ∀ e, count = .error e → e.Named) : ∀ line ∈ trace.lines, line.Plain := by
  cases listed with
  | uncounted e => exact List.forall_mem_singleton.mpr (named e rfl)
  | empty =>
      exact List.forall_mem_cons.mpr ⟨trivial, List.forall_mem_singleton.mpr trivial⟩
  | slots _ shown =>
      exact List.forall_mem_cons.mpr ⟨trivial, List.forall_mem_cons.mpr ⟨trivial, shown.plain⟩⟩

theorem InfoRun.plain (run : InfoRun dev trace) : ∀ line ∈ trace.lines, line.Plain := by
  obtain ⟨fwRun, cntRun, listed⟩ := run
  rename_i fw cnt tail version count
  have versionLine : (fwLine version).Plain := by
    cases version with
    | ok v => trivial
    | error e =>
        have named : e.Named := firmwareVersion_named fwRun
        exact named
  have counted : ∀ e, count = .error e → e.Named := by
    rintro e rfl
    exact enrolledCount_named cntRun
  rw [Bus.lines_printed, Trace.lines_append, Trace.lines_eq_nil (firmwareVersion_single fwRun).1,
    List.nil_append, Bus.lines_printed, Trace.lines_append,
    Trace.lines_eq_nil (enrolledCount_query cntRun).1, List.nil_append]
  exact List.forall_mem_cons.mpr ⟨trivial, List.forall_mem_cons.mpr
    ⟨versionLine, listed.plain counted⟩⟩

/-- Sending a command prints nothing. -/
theorem lines_of_perform (dev : ElanMoc2) (entry : EntryPoint) {cmd : Cmd} {payload : List UInt8}
    {result : Except Fault (Except Error (List UInt8))}
    (run : (entry.perform dev cmd payload).run.Runs trace result) : trace.lines = [] := by
  obtain ⟨_, asked, -⟩ := (entry.runs_perform_iff dev).mp run
  exact Trace.lines_eq_nil asked.transfers

theorem lines_map_printed (lines : List Line) : Trace.lines (lines.map Bus.printed) = lines := by
  induction lines with
  | nil => rfl
  | cons line lines ih => exact congrArg (line :: ·) ih

theorem plain_rawLine {label : String} {cmd : Cmd} {known : Except Error (List UInt8)}
    (labelled : Labelled label) (named : ∀ e, known = .error e → e.Named) :
    (rawLine label cmd known).Plain := by
  cases known with
  | ok reply => exact labelled
  | error e => exact ⟨labelled, named e rfl⟩

theorem rawQuery_named {cmd : Cmd} {payload : List UInt8} {known : Except Error (List UInt8)}
    (run : (dev.transceiveRaw cmd payload).run.Runs trace (.ok known))
    (listed : cmd.name ∈ commandNames) (e : Error) (failed : known = .error e) : e.Named := by
  subst failed
  exact perform_named dev .transceiveRaw listed run

theorem DumpedSlots.plain {slots : List UInt8} (dumped : DumpedSlots dev slots trace) :
    ∀ line ∈ trace.lines, line.Plain := by
  induction dumped with
  | nil => exact List.forall_mem_nil _
  | @cons i _ _ _ known asked _ ih =>
      rw [Trace.lines_append, lines_of_perform dev .transceiveRaw asked, List.nil_append,
        Trace.lines_append, lines_map_printed]
      refine List.forall_mem_append.mpr ⟨?_, ih⟩
      cases known with
      | ok reply =>
          exact List.forall_mem_cons.mpr ⟨trivial, List.forall_mem_singleton.mpr trivial⟩
      | error e =>
          exact List.forall_mem_singleton.mpr (rawQuery_named asked (by decide) e rfl)

theorem DumpRun.plain (run : DumpRun dev trace) : ∀ line ∈ trace.lines, line.Plain := by
  cases run with
  | mk fwRun cntRun dumped =>
      rw [Bus.lines_printed, Trace.lines_append,
        lines_of_perform dev .transceiveRaw fwRun, List.nil_append, Bus.lines_printed,
        Trace.lines_append, lines_of_perform dev .transceiveRaw cntRun, List.nil_append,
        Bus.lines_printed, Bus.lines_printed]
      refine List.forall_mem_cons.mpr ⟨trivial, List.forall_mem_cons.mpr
        ⟨plain_rawLine (.inl rfl) (rawQuery_named fwRun (by decide)), List.forall_mem_cons.mpr
          ⟨plain_rawLine (.inr rfl) (rawQuery_named cntRun (by decide)), ?_⟩⟩⟩
      exact List.forall_mem_cons.mpr ⟨trivial, dumped.plain⟩

theorem CollisionRun.plain {known : Except Error Unit} (run : CollisionRun dev trace known) :
    ∀ line ∈ trace.lines, line.Plain := by
  cases run with
  | failed asked =>
      rw [Bus.lines_printed, Bus.lines_printed,
        lines_of_perform dev .transceiveRaw asked]
      exact List.forall_mem_cons.mpr ⟨trivial, List.forall_mem_singleton.mpr trivial⟩
  | @replied _ reply asked =>
      rw [Bus.lines_printed, Bus.lines_printed, Trace.lines_append,
        lines_of_perform dev .transceiveRaw asked, List.nil_append, Bus.lines_printed,
        lines_map_printed]
      refine List.forall_mem_cons.mpr ⟨trivial, List.forall_mem_cons.mpr
        ⟨trivial, List.forall_mem_cons.mpr ⟨trivial, ?_⟩⟩⟩
      unfold collisionLines
      split
      · refine List.forall_mem_cons.mpr ⟨trivial, List.forall_mem_cons.mpr
          ⟨trivial, List.forall_mem_singleton.mpr ?_⟩⟩
        unfold upstreamLine
        split <;> trivial
      · exact List.forall_mem_singleton.mpr trivial

theorem Matched.plain {reply : Except Error (List UInt8)} (matched : Matched dev reply trace)
    (named : ∀ e, reply = .error e → e.Named) : ∀ line ∈ trace.lines, line.Plain := by
  cases matched with
  | @slot _ status _ _ info _ asked =>
      rw [Bus.lines_printed, Trace.lines_append, Trace.lines_eq_nil (fingerInfo_query asked).1,
        List.nil_append]
      refine List.forall_mem_cons.mpr ⟨trivial, List.forall_mem_singleton.mpr ?_⟩
      cases info with
      | ok info => trivial
      | error e =>
          have named : e.Named := fingerInfo_named asked
          exact named
  | refused => exact List.forall_mem_singleton.mpr trivial
  | short => exact List.forall_mem_singleton.mpr trivial
  | @failed e _ _ aborted =>
      rw [Bus.lines_printed, Trace.lines_eq_nil (abort_single aborted).1]
      exact List.forall_mem_singleton.mpr (named e rfl)

theorem IdentifyRun.plain {known : Except Error Unit} (run : IdentifyRun dev trace known) :
    ∀ line ∈ trace.lines, line.Plain := by
  cases run with
  | uncounted cntRun =>
      rw [Trace.lines_eq_nil (enrolledCount_query cntRun).1]
      exact List.forall_mem_nil _
  | empty cntRun =>
      rw [Trace.lines_append, Trace.lines_eq_nil (enrolledCount_query cntRun).1, List.nil_append]
      exact List.forall_mem_cons.mpr ⟨trivial, List.forall_mem_singleton.mpr trivial⟩
  | @waited _ _ _ _ reply _ cntRun identRun matched =>
      have named : ∀ e, reply = .error e → e.Named := by
        rintro e rfl
        exact perform_named dev .transceive (by decide) identRun
      rw [Trace.lines_append, Trace.lines_eq_nil (enrolledCount_query cntRun).1, List.nil_append,
        Bus.lines_printed, Bus.lines_printed, Trace.lines_append,
        lines_of_perform dev .transceive identRun, List.nil_append]
      exact List.forall_mem_cons.mpr ⟨trivial, List.forall_mem_cons.mpr
        ⟨trivial, matched.plain named⟩⟩

theorem Described.plain {command : Command} (described : Described dev command trace) :
    ∀ line ∈ trace.lines, line.Plain := by
  cases command with
  | info => exact InfoRun.plain described
  | identify =>
      obtain ⟨known, run⟩ := described
      exact run.plain
  | dump => exact DumpRun.plain described
  | collision =>
      obtain ⟨known, run⟩ := described
      exact run.plain

end Lines

end Elanctl

/-! ### The output of a run -/

/-- The time a call took, as it is shown. -/
structure Elapsed where
  text : String
  plain : ∀ c ∈ text.toList, (!endsElapsed c) = true

/-- A text says what `elanctl` may say where a format takes any text. -/
def Text.Plain : Text → Prop
  | .line said => said.Plain
  | _ => True

/-- The text goes to standard output. -/
def Text.isStdout : Text → Bool
  | .line said => !Elanctl.isFailed said
  | .usage => true
  | _ => false

/-- What is written to standard output: the texts, each with the time the call before it took. -/
def stdout (wording : Wording) (printed : List (Text × Elapsed)) : String :=
  String.ofList (Grammar.stream (printed.filterMap fun entry =>
    entry.1.filled wording entry.2.text))

section Output

variable {wording : Wording}

theorem legal_status (st : Status) : statusKind.Legal st := by
  cases st with
  | ok b => exact ⟨trivial, trivial⟩
  | unknown b => exact ⟨trivial, trivial⟩
  | _ => trivial

theorem legal_error {e : Error} (named : e.Named) : (errorKind wording).Legal e := by
  cases e with
  | usb e => exact ⟨trivial, trivial⟩
  | notFound => trivial
  | badMagic got => exact ⟨trivial, trivial⟩
  | short expected got => exact ⟨trivial, trivial, trivial⟩
  | payloadTooLarge cmd => exact ⟨named, trivial⟩
  | status s => exact ⟨s.describe_mem, legal_status s, trivial⟩
  | noResponse cmd => exact ⟨named, trivial⟩
  | gated cmd => exact ⟨named, trivial⟩

theorem Line.exists_filled {line : Line} (plain : line.Plain) (elapsed : Elapsed)
    (other : Elanctl.isFailed line = false) :
    ∃ filled, line.filled wording elapsed.text = some filled ∧ filled.Legal := by
  have timed := elapsed.plain
  cases line with
  | opened pid => exact ⟨_, rfl, trivial, trivial⟩
  | failed e => cases other
  | fwVersion v => exact ⟨_, rfl, trivial, trivial, trivial, timed, trivial⟩
  | fwError e => exact ⟨_, rfl, legal_error plain, timed, trivial⟩
  | enrolledCount count => exact ⟨_, rfl, trivial, timed, trivial⟩
  | enrolledCountError e => exact ⟨_, rfl, legal_error plain, timed, trivial⟩
  | slot i userId bytes => exact ⟨_, rfl, trivial, trivial, trivial, timed, trivial⟩
  | slotError i e => exact ⟨_, rfl, trivial, legal_error plain, timed, trivial⟩
  | rawReply label outLen got epIn reply =>
      rcases plain with rfl | rfl
      · refine ⟨_, by rw [filled, if_pos rfl], ?_⟩
        exact ⟨trivial, trivial, trivial, trivial, timed, trivial⟩
      · refine ⟨_, by rw [filled, if_neg (by decide), if_pos rfl], ?_⟩
        exact ⟨trivial, trivial, trivial, trivial, timed, trivial⟩
  | rawError label e =>
      obtain ⟨rfl | rfl, named⟩ := plain
      · refine ⟨_, by rw [filled, if_pos rfl], ?_⟩
        exact ⟨legal_error named, timed, trivial⟩
      · refine ⟨_, by rw [filled, if_neg (by decide), if_pos rfl], ?_⟩
        exact ⟨legal_error named, timed, trivial⟩
  | allSlots maxPrints => exact ⟨_, rfl, trivial, trivial⟩
  | rawSlot i got nonzero => exact ⟨_, rfl, trivial, trivial, trivial, timed, trivial⟩
  | rawBytes reply => exact ⟨_, rfl, trivial, trivial⟩
  | collisionReply reply => exact ⟨_, rfl, trivial, timed, trivial⟩
  | collisionStatus b st =>
      exact ⟨_, rfl, trivial, legal_status st, st.describe_mem, trivial⟩
  | upstreamDeletes idx => exact ⟨_, rfl, trivial, trivial⟩
  | fingersEnrolled count => exact ⟨_, rfl, trivial, trivial⟩
  | identified reply st =>
      exact ⟨_, rfl, trivial, legal_status st, st.describe_mem, timed, trivial⟩
  | matchedSlot idx userId => exact ⟨_, rfl, trivial, trivial, trivial⟩
  | matchedSlotError idx e => exact ⟨_, rfl, trivial, legal_error plain, trivial⟩
  | identifyShort reply => exact ⟨_, rfl, trivial, timed, trivial⟩
  | identifyError e => exact ⟨_, rfl, legal_error plain, timed, trivial⟩
  | _ => exact ⟨_, rfl, trivial⟩

/-- A text for standard output is filled in, any other is not. -/
theorem Text.filled_cases (wording : Wording) {text : Text} (plain : text.Plain) (elapsed : Elapsed) :
    text.isStdout = true ∧
        (∃ filled, text.filled wording elapsed.text = some filled ∧ filled.Legal) ∨
      text.isStdout = false ∧ text.filled wording elapsed.text = none := by
  cases text with
  | line said =>
      cases failed : Elanctl.isFailed said with
      | false =>
          refine .inl ⟨?_, said.exists_filled plain elapsed failed⟩
          rw [isStdout, failed]
          rfl
      | true =>
          refine .inr ⟨?_, ?_⟩
          · rw [isStdout, failed]
            rfl
          · cases said <;> first | rfl | cases failed
  | usage => exact .inl ⟨rfl, _, rfl, trivial⟩
  | _ => exact .inr ⟨rfl, rfl⟩

/-- What was written shows the texts for standard output. -/
theorem map_ofFilled (wording : Wording) {printed : List (Text × Elapsed)}
    (plain : ∀ entry ∈ printed, entry.1.Plain) :
    (printed.filterMap fun entry => entry.1.filled wording entry.2.text).map
        (Text.ofFilled wording) = (printed.map Prod.fst).filter Text.isStdout := by
  induction printed with
  | nil => rfl
  | cons entry printed ih =>
      obtain ⟨here, later⟩ := List.forall_mem_cons.mp plain
      rcases Text.filled_cases wording here entry.2 with
        ⟨out, filled, shown, -⟩ | ⟨out, hidden⟩
      · simp only [List.filterMap_cons, shown, List.map_cons]
        rw [List.filter_cons_of_pos out, ih later, Text.ofFilled_filled shown]
      · simp only [List.filterMap_cons, hidden, List.map_cons]
        rw [List.filter_cons_of_neg (Bool.eq_false_iff.mp out), ih later]

theorem legal_of_mem {printed : List (Text × Elapsed)} (plain : ∀ entry ∈ printed, entry.1.Plain)
    {filled : lineGrammar.Filled (LineHole.kind wording)}
    (member : filled ∈ printed.filterMap fun entry => entry.1.filled wording entry.2.text) :
    filled.Legal := by
  obtain ⟨entry, inside, shown⟩ := List.mem_filterMap.mp member
  rcases Text.filled_cases wording (plain entry inside) entry.2 with
    ⟨-, other, same, legal⟩ | ⟨-, hidden⟩
  · obtain rfl := Option.some.inj (same.symm.trans shown)
    exact legal
  · cases hidden.symm.trans shown

theorem stdout_inj {printed printed' : List (Text × Elapsed)}
    (plain : ∀ entry ∈ printed, entry.1.Plain) (plain' : ∀ entry ∈ printed', entry.1.Plain)
    (same : stdout wording printed = stdout wording printed') :
    (printed.map Prod.fst).filter Text.isStdout = (printed'.map Prod.fst).filter Text.isStdout := by
  have filled := Grammar.stream_inj rfl (by decide +kernel) (fun _ => legal_of_mem plain)
    (fun _ => legal_of_mem plain') (String.ofList_injective same)
  rw [← map_ofFilled wording plain, filled, map_ofFilled wording plain']

end Output

namespace Elanctl

theorem CommandRun.plain {command : Command} {trace : SysTrace} {code : ExitCode}
    (run : CommandRun command trace code) : ∀ text ∈ Sys.texts trace, text.Plain := by
  cases run with
  | unopened attempt =>
      rw [Sys.texts_append, Sys.texts_usbWords, List.nil_append]
      exact List.forall_mem_singleton.mpr trivial
  | @ran _ _ inner _ known _ body _ =>
      rw [Sys.texts_append, Sys.texts_append, Sys.texts_usbWords, Sys.texts_usbWords,
        Sys.texts_sensorWords, List.append_nil, List.nil_append, Bus.lines_printed,
        Trace.lines_append, lines_map_printed]
      refine List.forall_mem_map.mpr (List.forall_mem_cons.mpr ⟨trivial, ?_⟩)
      refine List.forall_mem_append.mpr ⟨(described_of_body body).plain, ?_⟩
      cases known with
      | ok value => exact List.forall_mem_nil _
      | error e => exact List.forall_mem_singleton.mpr trivial

theorem MainRun.plain {args : List String} {trace : SysTrace} {code : ExitCode}
    (run : MainRun args trace code) : ∀ text ∈ Sys.texts trace, text.Plain := by
  cases run with
  | ran _ _ run => exact run.plain
  | helped => exact List.forall_mem_singleton.mpr trivial
  | unknown => exact List.forall_mem_cons.mpr ⟨trivial, List.forall_mem_singleton.mpr trivial⟩

theorem plain_of_lives {args : List String} {trace : SysTrace}
    (lives : (Process.elanctl args).Lives trace) : ∀ text ∈ Sys.texts trace, text.Plain := by
  obtain ⟨done, rest, calls, rfl, result, ran⟩ := Process.exists_begun lives
  obtain ⟨code, -, run⟩ := runs_main ran
  have whole := run.plain
  rw [Sys.texts_append] at whole ⊢
  rw [Sys.texts_usbWords, List.append_nil]
  exact (List.forall_mem_append.mp whole).1

/-- **Output.** Whatever two runs of `elanctl` were asked and answered, whether they finished, run,
were killed or ended in a panic, and however long their calls took: if they have written the same
characters to standard output, they have printed the same lines, with the same values in them. -/
theorem output_determines {args args' : List String} {trace trace' : SysTrace}
    (lives : (Process.elanctl args).Lives trace) (lives' : (Process.elanctl args').Lives trace')
    (wording : Wording) {printed printed' : List (Text × Elapsed)}
    (said : printed.map Prod.fst = Sys.texts trace)
    (said' : printed'.map Prod.fst = Sys.texts trace')
    (same : stdout wording printed = stdout wording printed') :
    (Sys.texts trace).filter Text.isStdout = (Sys.texts trace').filter Text.isStdout := by
  rw [← said, ← said']
  refine stdout_inj (fun entry member => ?_) (fun entry member => ?_) same
  · exact plain_of_lives lives _ (said ▸ List.mem_map_of_mem member)
  · exact plain_of_lives lives' _ (said' ▸ List.mem_map_of_mem member)

/-- The texts of `rusb`. -/
def rusbText : UsbError → String
  | .io => "Input/Output Error"
  | .invalidParam => "Invalid parameter"
  | .access => "Access denied (insufficient permissions)"
  | .noDevice => "No such device (it may have been disconnected)"
  | .notFound => "Entity not found"
  | .busy => "Resource busy"
  | .timeout => "Operation timed out"
  | .overflow => "Overflow"
  | .pipe => "Pipe error"
  | .interrupted => "System call interrupted (perhaps due to signal)"
  | .noMem => "Insufficient memory"
  | .notSupported => "Operation not supported or unimplemented on this platform"
  | .badDescriptor => "Malformed descriptor"
  | .other => "Other error"

def usbErrors : List UsbError :=
  [.io, .invalidParam, .access, .noDevice, .notFound, .busy, .timeout, .overflow, .pipe,
    .interrupted, .noMem, .notSupported, .badDescriptor, .other]

theorem rusbText_free (e e' : UsbError) (begins : (rusbText e).toList <+: (rusbText e').toList) :
    e = e' := by
  have clashes : ∀ e ∈ usbErrors, ∀ e' ∈ usbErrors,
      e = e' ∨ clash (rusbText e).toList (rusbText e').toList = true := by decide +kernel
  have all : ∀ e : UsbError, e ∈ usbErrors := by
    intro e
    cases e <;> decide
  rcases clashes e (all e) e' (all e') with same | differ
  · exact same
  · exact absurd List.prefix_rfl (not_prefix_of_clash differ begins)

def rusbWording : Wording := ⟨rusbText, rusbText_free, isControl⟩

theorem twoFingers_fits : ([0x40, 2] : List UInt8).length ≤ Proto.getEnrolledCount.inLen :=
  Nat.le_refl 2

theorem rejection_fits : ([0x40, 0xff] : List UInt8).length ≤ Proto.fingerInfo.inLen := by
  decide

/-- A listing of two slots, the second of which the sensor rejects. -/
def rejecting (handle : DeviceHandle) (driver : Bool) : SysTrace :=
  OneSensor.finding handle ++ OneSensor.opening handle driver ++ OneSensor.claim handle ::
    [Bus.printed (.opened 0x0c00), Bus.printed .readOnlyQueries,
      Bus.sentWhole [0x40, 0x19], Bus.received Proto.getFwVer ⟨_, OneSensor.version_fits⟩,
      Bus.printed (.fwVersion ⟨1, 2, (1, 2)⟩),
      Bus.sentWhole [0x40, 0xff, 0x04], Bus.received Proto.getEnrolledCount ⟨_, twoFingers_fits⟩,
      Bus.printed (.enrolledCount 2), Bus.printed .enrolledSlots,
      Bus.sentWhole [0x40, 0xff, 0x12, 0],
      Bus.received Proto.fingerInfo ⟨_, OneSensor.record_fits⟩,
      Bus.printed (.slot 0 (FingerInfo.userIdDisplay ⟨0, [0x46]⟩) 1),
      Bus.sentWhole [0x40, 0xff, 0x12, 1],
      Bus.received Proto.fingerInfo ⟨_, rejection_fits⟩,
      Bus.printed (.slotError 1 (.status .rejected))].map (sensorWords handle).event

/-- What it prints, each with a time. -/
def rejected (moment : Elapsed) : List (Text × Elapsed) :=
  [.opened 0x0c00, .readOnlyQueries, .fwVersion ⟨1, 2, (1, 2)⟩, .enrolledCount 2, .enrolledSlots,
    .slot 0 (FingerInfo.userIdDisplay ⟨0, [0x46]⟩) 1, .slotError 1 (.status .rejected)].map
      fun line => (.line line, moment)

theorem finishes_rejecting (handle : DeviceHandle) (driver : Bool) :
    (Process.elanctl ["elanctl", "info"]).Finishes (rejecting handle driver ++
      [Usb.released handle 0 (.ok ()), Usb.closed handle].map usbWords.event) := by
  refine ⟨.ok .success, ?_⟩
  cases driver <;> repeat constructor

/-- Of two sensors with the same contents, one is listed to the end and the other, whose driver
has to be detached, until `elanctl` is killed. -/
theorem output_determines_rejecting :
    (Sys.texts (rejecting ⟨⟨0⟩, 0⟩ false ++ [Usb.released ⟨⟨0⟩, 0⟩ 0 (.ok ()),
        Usb.closed ⟨⟨0⟩, 0⟩].map usbWords.event)).filter Text.isStdout =
      (Sys.texts (rejecting ⟨⟨1⟩, 0⟩ true ++ Process.closings [⟨⟨1⟩, 0⟩])).filter
        Text.isStdout := by
  have moment : Elapsed := ⟨"1.5ms", List.all_eq_true.mp (by decide)⟩
  have lives := Process.Lives.gone (.finished (finishes_rejecting ⟨⟨0⟩, 0⟩ false))
  have lives' : (Process.elanctl ["elanctl", "info"]).Lives
      (rejecting ⟨⟨1⟩, 0⟩ true ++ Process.closings [⟨⟨1⟩, 0⟩]) :=
    .gone (.killed (finishes_rejecting ⟨⟨1⟩, 0⟩ true))
  exact @output_determines _ _ _ _ lives lives' rusbWording (rejected moment) (rejected moment)
    rfl rfl rfl

end Elanctl

end Elan0c00
