import Elan0c00.ElanctlFrames
import Elan0c00.Record
import Mathlib.Data.Fintype.Card

/-! # A synchronous sensor

The sensor keeps a user id in each occupied slot and answers every frame before the next one
is sent. How it conducts itself is left open where that was seen to differ: whether
`finger_info` honours the slot asked for or shows the last identified one, whether a query
may be answered by zero bytes and whether transfers may fail. `Sensor.exchange_answers`
reads an exchange of the host as one answer of the sensor; `Sensor.path_frame` says what the
frames of a run leave unchanged.
-/

namespace Elan0c00

open Interaction Bytes

abbrev Slot := Fin Proto.maxPrints

instance {n : Nat} : OfNat Slot n := ⟨⟨n % Proto.maxPrints, Nat.mod_lt n (Nat.succ_pos 9)⟩⟩

/-- A stored user id: without trailing NULs, and no longer than the record holds. -/
@[ext]
structure UserId (pid : UInt16) where
  bytes : List UInt8
  trimmed : NoTrailing 0 bytes
  fits : bytes.length ≤ Proto.fingerInfo.inLen - Proto.userIdOffset pid

/-- The state of the sensor, the reply to be read next, and, not visible to the host, the
slots matched so far. -/
structure Sensor (pid : UInt16) where
  slots : Slot → Option (UserId pid)
  lastIdentified : Option Slot
  reply : List UInt8
  matched : List Slot

/-- The ways sensors and transfers differ. -/
structure Conduct where
  honoursSlot : Bool
  stalls : Bool
  failures : Bool

/-- The slot a byte names. -/
def slot? (i : UInt8) : Option Slot :=
  if inside : i.toNat < Proto.maxPrints then some ⟨i.toNat, inside⟩ else none

theorem toNat_ofNat_slot (slot : Slot) : (UInt8.ofNat slot).toNat = slot :=
  UInt8.toNat_ofNat_of_lt' (Nat.lt_trans slot.isLt (by decide))

/-- A byte made from a slot names that slot. -/
theorem slot?_ofNat (slot : Slot) : slot? (UInt8.ofNat slot) = some slot := by
  have same := toNat_ofNat_slot slot
  unfold slot?
  rw [dif_pos (by rw [same]; exact slot.isLt)]
  exact congrArg some (Fin.ext same)

namespace Sensor

variable {pid : UInt16}

/-- A sensor as delivered. -/
def blank : Sensor pid := ⟨fun _ => none, none, [], []⟩

/-- The number of occupied slots. -/
def count (sensor : Sensor pid) : Nat :=
  (Finset.univ.filter fun slot => (sensor.slots slot).isSome).card

theorem count_le (sensor : Sensor pid) : sensor.count ≤ Proto.maxPrints := by
  have bounded := Finset.card_le_univ
    (Finset.univ.filter fun slot => (sensor.slots slot).isSome)
  rw [Fintype.card_fin] at bounded
  exact bounded

/-- The user id `finger_info` shows when asked for a slot. -/
def shown (conduct : Conduct) (sensor : Sensor pid) (i : UInt8) : Option (UserId pid) :=
  (if conduct.honoursSlot then slot? i else sensor.lastIdentified).bind sensor.slots

/-- The answers to a frame: the reply, and the state it leaves. What a persistent command does
is left open. -/
inductive Answers (conduct : Conduct) (before : Sensor pid) (out : List UInt8) :
    List UInt8 → Sensor pid → Prop where
  | stall (stalls : conduct.stalls = true) : Answers conduct before out [] before
  | count (asked : out = [0x40, 0xff, 0x04]) :
      Answers conduct before out [0x40, UInt8.ofNat before.count] before
  | record {i status extra : UInt8} {userId : UserId pid} (asked : out = [0x40, 0xff, 0x12, i])
      (shown : before.shown conduct i = some userId) (ordinary : status &&& 0xF0 = 0) :
      Answers conduct before out (Proto.record pid status extra userId.bytes) before
  | noRecord {i : UInt8} (asked : out = [0x40, 0xff, 0x12, i])
      (none : before.shown conduct i = none) : Answers conduct before out [0x40, 0xff] before
  | identified {slot : Slot} (asked : out = [0x40, 0xff, 0x03])
      (occupied : (before.slots slot).isSome) :
      Answers conduct before out [0x40, UInt8.ofNat slot]
        { before with lastIdentified := some slot, matched := before.matched ++ [slot] }
  | notIdentified {status : UInt8} (asked : out = [0x40, 0xff, 0x03])
      (failing : status &&& 0xF0 ≠ 0) : Answers conduct before out [0x40, status] before
  | other {reply : List UInt8} (notCount : out ≠ [0x40, 0xff, 0x04])
      (notIdentify : out ≠ [0x40, 0xff, 0x03]) (notRecord : ∀ i, out ≠ [0x40, 0xff, 0x12, i])
      (harmless : ¬ Proto.PersistentHeader out) : Answers conduct before out reply before
  | persistent {reply : List UInt8} {after : Sensor pid} (header : Proto.PersistentHeader out) :
      Answers conduct before out reply after

/-- The sensor as the environment of the host. A read returns the reply as far as the buffer
goes; a failed OUT did not reach the sensor. -/
def environment (pid : UInt16) (conduct : Conduct) : Environment Answer (Sensor pid) :=
  fun before request answer after =>
    match request, answer with
    | .writeBulk _ out _, .ok _ => ∃ reply middle, Answers conduct before out reply middle ∧
        after = { middle with reply := reply }
    | .writeBulk _ _ _, .error _ => conduct.failures = true ∧ after = before
    | .readBulk _ len _, .ok bytes => bytes.val = before.reply.take len ∧
        after = { before with reply := [] }
    | .readBulk _ _ _, .error _ => conduct.failures = true ∧ after = before
    | .println _, _ => after = before

variable {conduct : Conduct} {before after : Sensor pid}

/-- The sensor has an answer for every frame. -/
theorem exists_answers (conduct : Conduct) (before : Sensor pid) (out : List UInt8) :
    ∃ reply after, Answers conduct before out reply after := by
  by_cases counted : out = [0x40, 0xff, 0x04]
  · exact ⟨_, _, .count counted⟩
  · by_cases identify : out = [0x40, 0xff, 0x03]
    · exact ⟨_, _, .notIdentified identify (by decide : (0xfd : UInt8) &&& 0xF0 ≠ 0)⟩
    · by_cases record : ∃ i, out = [0x40, 0xff, 0x12, i]
      · obtain ⟨i, asked⟩ := record
        cases shown : before.shown conduct i with
        | none => exact ⟨_, _, .noRecord asked shown⟩
        | some userId => exact ⟨_, _, @Answers.record _ _ _ _ _ 0 0 _ asked shown rfl⟩
      · by_cases header : Proto.PersistentHeader out
        · exact ⟨[], before, .persistent header⟩
        · exact ⟨[], _, .other counted identify (fun i asked => record ⟨i, asked⟩) header⟩

/-- Every request of the host is answered. -/
theorem environment_total (conduct : Conduct) (before : Sensor pid) (request : Request) :
    ∃ answer after, environment pid conduct before request answer after := by
  cases request with
  | writeBulk endpoint out timeout =>
      obtain ⟨reply, middle, answers⟩ := exists_answers conduct before out
      exact ⟨.ok ⟨0, Nat.zero_le _⟩, _, reply, middle, answers, rfl⟩
  | readBulk endpoint len timeout =>
      exact ⟨.ok ⟨before.reply.take len, List.length_take_le ..⟩, _, rfl, rfl⟩
  | println line => exact ⟨(), before, rfl⟩

/-- Without a persistent command an answer never changes what is stored, and only `identify`
changes what was matched. -/
theorem Answers.frame {out reply : List UInt8} (harmless : ¬ Proto.PersistentHeader out)
    (answers : Answers conduct before out reply after) :
    after.slots = before.slots ∧ (out ≠ [0x40, 0xff, 0x03] →
      after.lastIdentified = before.lastIdentified ∧ after.matched = before.matched) := by
  cases answers with
  | identified asked => exact ⟨rfl, fun other => absurd asked other⟩
  | persistent header => exact absurd header harmless
  | _ => exact ⟨rfl, fun _ => ⟨rfl, rfl⟩⟩

/-- One request leaves the stored user ids alone, and the match as well unless it offers the
frame of `identify`. -/
theorem environment_frame {request : Request} {answer : Answer request}
    (step : environment pid conduct before request answer after)
    (harmless : ∀ out ∈ Trace.outFrames [⟨request, answer⟩], ¬ Proto.PersistentHeader out) :
    after.slots = before.slots ∧
      ([0x40, 0xff, 0x03] ∉ Trace.outFrames [⟨request, answer⟩] →
        after.lastIdentified = before.lastIdentified ∧ after.matched = before.matched) := by
  cases request with
  | writeBulk endpoint out timeout =>
      cases answer with
      | ok taken =>
          obtain ⟨reply, middle, answers, rfl⟩ := step
          obtain ⟨slots, kept⟩ := answers.frame (harmless out List.mem_cons_self)
          exact ⟨slots, fun absent => kept fun same => absent (List.mem_singleton.mpr same.symm)⟩
      | error e =>
          obtain ⟨-, rfl⟩ := step
          exact ⟨rfl, fun _ => ⟨rfl, rfl⟩⟩
  | readBulk endpoint len timeout =>
      cases answer with
      | ok bytes =>
          obtain ⟨-, rfl⟩ := step
          exact ⟨rfl, fun _ => ⟨rfl, rfl⟩⟩
      | error e =>
          obtain ⟨-, rfl⟩ := step
          exact ⟨rfl, fun _ => ⟨rfl, rfl⟩⟩
  | println line =>
      obtain rfl := step
      exact ⟨rfl, fun _ => ⟨rfl, rfl⟩⟩

/-- **What a run leaves unchanged.** Without persistent commands, the stored user ids, and the
match as long as `identify` is not sent. -/
theorem path_frame {trace : Trace} (path : Path (environment pid conduct) before trace after)
    (harmless : ∀ out ∈ trace.outFrames, ¬ Proto.PersistentHeader out) :
    after.slots = before.slots ∧ ([0x40, 0xff, 0x03] ∉ trace.outFrames →
      after.lastIdentified = before.lastIdentified ∧ after.matched = before.matched) := by
  induction path with
  | nil => exact ⟨rfl, fun _ => ⟨rfl, rfl⟩⟩
  | @cons before middle after request answer rest step tail ih =>
      have split : Trace.outFrames (⟨request, answer⟩ :: rest) =
          Trace.outFrames [⟨request, answer⟩] ++ Trace.outFrames rest :=
        Trace.outFrames_append [⟨request, answer⟩] rest
      rw [split] at harmless ⊢
      obtain ⟨slots, kept⟩ := environment_frame step fun out inside =>
        harmless out (List.mem_append_left _ inside)
      obtain ⟨slots', kept'⟩ := ih fun out inside => harmless out (List.mem_append_right _ inside)
      refine ⟨slots'.trans slots, ?_⟩
      intro absent
      rw [List.mem_append, not_or] at absent
      obtain ⟨last, matched⟩ := kept absent.1
      obtain ⟨last', matched'⟩ := kept' absent.2
      exact ⟨last'.trans last, matched'.trans matched⟩

/-- A query of another frame leaves everything but the reply. -/
theorem query_frame {frame : List UInt8} {trace : Trace} (query : Query frame trace)
    (harmless : ¬ Proto.PersistentHeader frame) (other : frame ≠ [0x40, 0xff, 0x03])
    (path : Path (environment pid conduct) before trace after) :
    after.slots = before.slots ∧ after.lastIdentified = before.lastIdentified ∧
      after.matched = before.matched := by
  obtain ⟨slots, kept⟩ := path_frame path fun out attempted => by
    rw [query.eq_of_mem attempted]
    exact harmless
  exact ⟨slots, kept fun attempted => other (query.eq_of_mem attempted).symm⟩

/-- Printing a line does not reach the sensor. -/
theorem path_printed_iff {line : Line} {rest : Trace} :
    Path (environment pid conduct) before (Bus.printed line :: rest) after ↔
      Path (environment pid conduct) before rest after := by
  refine Path.cons_iff.trans ⟨?_, fun path => ⟨before, rfl, path⟩⟩
  rintro ⟨_, rfl, path⟩
  exact path

/-- An exchange that brought a reply is one answer of the sensor. -/
theorem exchange_answers {cmd : Cmd} {payload reply : List UInt8} {trace : Trace}
    (replying : 0 < cmd.inLen) (exchange : Exchange cmd payload trace (.ok reply))
    (path : Path (environment pid conduct) before trace after) :
    ∃ full middle, Answers conduct before (Proto.encode cmd payload) full middle ∧
      reply = full.take cmd.inLen ∧ after = { middle with reply := [] } := by
  cases exchange with
  | silent replyless => exact absurd replyless (Nat.ne_of_gt replying)
  | received _ taken bytes =>
      obtain ⟨_, ⟨full, middle, answers, rfl⟩, tail⟩ := Path.cons_iff.mp path
      obtain ⟨_, ⟨same, rfl⟩, ended⟩ := Path.cons_iff.mp tail
      obtain rfl := Path.nil_iff.mp ended
      exact ⟨full, middle, answers, same, rfl⟩

theorem exchange_fails {cmd : Cmd} {payload : List UInt8} {trace : Trace} {e : Error}
    (exchange : Exchange cmd payload trace (.error e))
    (path : Path (environment pid conduct) before trace after) : conduct.failures = true := by
  cases exchange with
  | sendFailed e =>
      obtain ⟨_, ⟨failures, -⟩, -⟩ := Path.cons_iff.mp path
      exact failures
  | recvFailed _ taken e =>
      obtain ⟨_, -, tail⟩ := Path.cons_iff.mp path
      obtain ⟨_, ⟨failures, -⟩, -⟩ := Path.cons_iff.mp tail
      exact failures

/-! ### Queries -/

/-- The same user ids are stored and the same slot was identified last. -/
def SameStore (first second : Sensor pid) : Prop :=
  first.slots = second.slots ∧ first.lastIdentified = second.lastIdentified

theorem SameStore.shown_eq {first second : Sensor pid} (same : SameStore first second)
    (conduct : Conduct) (i : UInt8) : first.shown conduct i = second.shown conduct i := by
  unfold shown
  rw [same.1, same.2]

theorem SameStore.count_eq {first second : Sensor pid} (same : SameStore first second) :
    first.count = second.count := by
  unfold count
  rw [same.1]

theorem answers_count {full : List UInt8}
    (answers : Answers conduct before [0x40, 0xff, 0x04] full after) :
    after = before ∧ (full = [] ∧ conduct.stalls = true ∨
      full = [0x40, UInt8.ofNat before.count]) := by
  cases answers with
  | stall stalls => exact ⟨rfl, .inl ⟨rfl, stalls⟩⟩
  | count => exact ⟨rfl, .inr rfl⟩
  | record asked => exact nomatch asked
  | noRecord asked => exact nomatch asked
  | identified asked => exact absurd asked (by decide)
  | notIdentified asked => exact absurd asked (by decide)
  | other notCount => exact absurd rfl notCount
  | persistent header => exact absurd header (by decide)

/-- What `finger_info` answers when asked for a slot. -/
theorem answers_fingerInfo {i : UInt8} {full : List UInt8}
    (answers : Answers conduct before [0x40, 0xff, 0x12, i] full after) :
    after = before ∧ (full = [] ∧ conduct.stalls = true ∨
      (∃ status extra userId, before.shown conduct i = some userId ∧ status &&& 0xF0 = 0 ∧
        full = Proto.record pid status extra userId.bytes) ∨
      before.shown conduct i = none ∧ full = [0x40, 0xff]) := by
  cases answers with
  | stall stalls => exact ⟨rfl, .inl ⟨rfl, stalls⟩⟩
  | count asked => exact nomatch asked
  | record asked shown ordinary =>
      cases asked
      exact ⟨rfl, .inr (.inl ⟨_, _, _, shown, ordinary, rfl⟩)⟩
  | noRecord asked none =>
      cases asked
      exact ⟨rfl, .inr (.inr ⟨none, rfl⟩)⟩
  | identified asked => exact nomatch asked
  | notIdentified asked => exact nomatch asked
  | other _ _ notRecord => exact absurd rfl (notRecord i)
  | persistent header => exact absurd header (Elanctl.not_persistentHeader_fingerInfo i)

theorem answers_identify {full : List UInt8}
    (answers : Answers conduct before [0x40, 0xff, 0x03] full after) :
    full = [] ∨ (∃ slot : Slot, (before.slots slot).isSome ∧ full = [0x40, UInt8.ofNat slot] ∧
      after = { before with
        lastIdentified := some slot, matched := before.matched ++ [slot] }) ∨
      ∃ status, status &&& 0xF0 ≠ 0 ∧ full = [0x40, status] := by
  cases answers with
  | stall => exact .inl rfl
  | count asked => exact absurd asked (by decide)
  | record asked => exact nomatch asked
  | noRecord asked => exact nomatch asked
  | identified _ occupied => exact .inr (.inl ⟨_, occupied, rfl, rfl⟩)
  | notIdentified _ failing => exact .inr (.inr ⟨_, failing, rfl⟩)
  | other _ notIdentify => exact absurd rfl notIdentify
  | persistent header => exact absurd header (by decide)

/-- A query changes nothing, and is answered by zero bytes only where the sensor stalls. -/
structure IsQuery (conduct : Conduct) (pid : UInt16) (out : List UInt8) : Prop where
  unchanged : ∀ {before after : Sensor pid} {full}, Answers conduct before out full after →
    after = before
  stalls : ∀ {before after : Sensor pid}, Answers conduct before out [] after →
    conduct.stalls = true

theorem isQuery_count : IsQuery conduct pid [0x40, 0xff, 0x04] where
  unchanged answers := (answers_count answers).1
  stalls answers := by
    rcases (answers_count answers).2 with ⟨-, stalls⟩ | full
    · exact stalls
    · exact nomatch full

theorem isQuery_fingerInfo (i : UInt8) : IsQuery conduct pid [0x40, 0xff, 0x12, i] where
  unchanged answers := (answers_fingerInfo answers).1
  stalls answers := by
    rcases (answers_fingerInfo answers).2 with ⟨-, stalls⟩ | ⟨_, _, _, -, -, full⟩ | ⟨-, full⟩
    · exact stalls
    · exact nomatch full
    · exact nomatch full

section Queries

variable {cmd : Cmd} {payload : List UInt8} {trace : Trace}
  {outcome : Except Error (List UInt8)}

/-- An exchange of a query is one answer, by zero bytes or not, and changes nothing. -/
theorem IsQuery.exchange_answers (query : IsQuery conduct pid (Proto.encode cmd payload))
    (replying : 0 < cmd.inLen) {reply : List UInt8}
    (exchange : Exchange cmd payload trace (.ok reply))
    (path : Path (environment pid conduct) before trace after) :
    SameStore after before ∧ ∃ full,
      Answers conduct before (Proto.encode cmd payload) full before ∧
        reply = full.take cmd.inLen := by
  obtain ⟨full, middle, answers, same, rfl⟩ := Sensor.exchange_answers replying exchange path
  obtain rfl := query.unchanged answers
  exact ⟨⟨rfl, rfl⟩, full, answers, same⟩

theorem take_eq_nil {full : List UInt8} {len : Nat} (positive : 0 < len)
    (none : full.take len = []) : full = [] := by
  rcases List.take_eq_nil_iff.mp none with zero | empty
  · exact absurd zero (Nat.ne_of_gt positive)
  · exact empty

/-- An empty reply to a query is a stall. -/
theorem IsQuery.empty_stalls (query : IsQuery conduct pid (Proto.encode cmd payload))
    (replying : 0 < cmd.inLen) (asked : Asked .transceive cmd payload trace (.ok []))
    (path : Path (environment pid conduct) before trace after) :
    conduct.stalls = true ∧ SameStore after before := by
  obtain ⟨store, full, answers, none⟩ := query.exchange_answers replying asked.exchange path
  rw [take_eq_nil replying none.symm] at answers
  exact ⟨query.stalls answers, store⟩

/-- An attempt at a query that is not repeated is settled by one answer, or its transfers
failed. -/
theorem IsQuery.settled_answers (query : IsQuery conduct pid (Proto.encode cmd payload))
    (replying : 0 < cmd.inLen) (allowed : EntryPoint.refusal .transceive cmd payload = none)
    (asked : Asked .transceive cmd payload trace outcome) (final : outcome ≠ .ok [])
    (path : Path (environment pid conduct) before trace after) :
    (∃ full, Answers conduct before (Proto.encode cmd payload) full before ∧ full ≠ [] ∧
        outcome = EntryPoint.accept .transceive (full.take cmd.inLen)) ∨
      (∃ e, outcome = .error e) ∧ conduct.failures = true := by
  obtain ⟨known, exchange, rfl⟩ := asked.of_allowed allowed
  cases known with
  | error e => exact .inr ⟨⟨e, rfl⟩, exchange_fails exchange path⟩
  | ok reply =>
      obtain ⟨-, full, answers, rfl⟩ := query.exchange_answers replying exchange path
      refine .inl ⟨full, answers, ?_, rfl⟩
      rintro rfl
      rw [List.take_nil] at final
      exact final rfl

/-- **Queries.** A retried query is settled by one answer of the sensor, or fails for stalls or
failed transfers. -/
theorem IsQuery.retried_answers (query : IsQuery conduct pid (Proto.encode cmd payload))
    (replying : 0 < cmd.inLen) (allowed : EntryPoint.refusal .transceive cmd payload = none)
    {attempts : Nat} (retried : Retried cmd payload attempts trace outcome)
    (path : Path (environment pid conduct) before trace after) :
    (∃ start full, Answers conduct start (Proto.encode cmd payload) full start ∧
        SameStore start before ∧ full ≠ [] ∧
        outcome = EntryPoint.accept .transceive (full.take cmd.inLen)) ∨
      (∃ e, outcome = .error e) ∧
        (attempts = 0 ∨ conduct.stalls = true ∨ conduct.failures = true) := by
  induction retried generalizing before with
  | exhausted => exact .inr ⟨⟨_, rfl⟩, .inl rfl⟩
  | settled asked final =>
      rcases query.settled_answers replying allowed asked final path with
        ⟨full, answers, nonempty, same⟩ | ⟨failed, failures⟩
      · exact .inl ⟨before, full, answers, ⟨rfl, rfl⟩, nonempty, same⟩
      · exact .inr ⟨failed, .inr (.inr failures)⟩
  | again empty later ih =>
      obtain ⟨middle, head, tail⟩ := Path.append_iff.mp path
      obtain ⟨stalls, slots, last⟩ := query.empty_stalls replying empty head
      rcases ih tail with ⟨start, full, answers, ⟨slots', last'⟩, rest⟩ | ⟨failed, -⟩
      · exact .inl ⟨start, full, answers, ⟨slots'.trans slots, last'.trans last⟩, rest⟩
      · exact .inr ⟨failed, .inr (.inl stalls)⟩

end Queries

/-! ### Library calls on the sensor -/

section Calls

variable {dev : ElanMoc2} {before after : Sensor dev.pid} {trace : Trace}

theorem enrolledCount_answers {known : Except Error UInt8}
    (run : dev.enrolledCount.run.Runs trace (.ok known))
    (path : Path (environment dev.pid conduct) before trace after) :
    known = .ok (UInt8.ofNat before.count) ∨
      (∃ e, known = .error e) ∧ (conduct.stalls = true ∨ conduct.failures = true) := by
  obtain ⟨outcome, retried, same⟩ := runs_enrolledCount_iff.mp run
  obtain rfl := Except.ok.inj same
  have query : IsQuery conduct dev.pid (Proto.encode Proto.getEnrolledCount []) := isQuery_count
  rcases query.retried_answers (by decide) (by decide) retried path with
    ⟨start, full, answers, store, nonempty, rfl⟩ | ⟨⟨e, rfl⟩, none | excuse⟩
  · rcases (answers_count answers).2 with ⟨empty, -⟩ | rfl
    · exact absurd empty nonempty
    · rw [← store.count_eq]
      exact .inl rfl
  · exact absurd none (by decide)
  · exact .inr ⟨⟨e, rfl⟩, excuse⟩

/-- What `fingerInfo` returns when nothing goes wrong. -/
def report (conduct : Conduct) {pid : UInt16} (sensor : Sensor pid) (i : UInt8) :
    Except Error FingerInfo :=
  match sensor.shown conduct i with
  | some userId => .ok { index := i, userId := userId.bytes }
  | none => .error (.status .rejected)

theorem fingerInfo_answers {i : UInt8} {known : Except Error FingerInfo}
    (run : (dev.fingerInfo i).run.Runs trace (.ok known))
    (path : Path (environment dev.pid conduct) before trace after) :
    known = before.report conduct i ∨
      (∃ e, known = .error e) ∧ (conduct.stalls = true ∨ conduct.failures = true) := by
  obtain ⟨outcome, retried, same⟩ := runs_fingerInfo_iff.mp run
  obtain rfl := Except.ok.inj same
  have allowed : EntryPoint.refusal .transceive Proto.fingerInfo [i] = none :=
    EntryPoint.refusal_eq_none _ (by decide) (Proto.fits_fingerInfo i)
  have query : IsQuery conduct dev.pid (Proto.encode Proto.fingerInfo [i]) := isQuery_fingerInfo i
  rcases query.retried_answers (by decide) allowed retried path with
    ⟨start, full, answers, store, nonempty, rfl⟩ | ⟨⟨e, rfl⟩, none | excuse⟩
  · refine .inl ?_
    unfold report
    rw [← store.shown_eq]
    rcases (answers_fingerInfo answers).2 with
      ⟨empty, -⟩ | ⟨status, extra, userId, shown, ordinary, rfl⟩ | ⟨none, rfl⟩
    · exact absurd empty nonempty
    · have whole : (Proto.record dev.pid status extra userId.bytes).take Proto.fingerInfo.inLen =
          Proto.record dev.pid status extra userId.bytes :=
        List.take_of_length_le (Nat.le_of_eq (Proto.length_record userId.fits))
      have framed : EntryPoint.accept .transceive
          (Proto.record dev.pid status extra userId.bytes) =
            .ok (Proto.record dev.pid status extra userId.bytes) :=
        EntryPoint.accept_magic _ _
      rw [shown, whole, framed]
      exact Proto.decodeFingerInfo_record i ordinary userId.trimmed userId.fits
    · rw [none]
      rfl
  · exact absurd none (by decide)
  · exact .inr ⟨⟨e, rfl⟩, excuse⟩

end Calls

end Sensor

end Elan0c00
