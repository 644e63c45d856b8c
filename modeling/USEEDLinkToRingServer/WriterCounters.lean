import USEEDLinkToRingServer.DataLinkClient

/-!
# The writer's counters and when it gives up

The failure counter is the streak of failed `dl_write` calls in the whole history of the thread, over
packets, records and reconnections.
-/

namespace USEEDLinkToRingServer

open Machine Streak

def WriteCall.failed (call : WriteCall) : Bool := call.returnCode < 0

/-- The counters say what the history says. -/
structure WriterLog.Counted (log : WriterLog) : Prop where
  packetsWritten : log.packetsWritten = log.calls.countP (!·.failed)
  failedPacketsSent : log.failedPacketsSent = log.calls.countP (·.failed)
  consecutiveWriteFailures : log.consecutiveWriteFailures = streak (·.failed) log.calls
  invalidPackets : log.invalidPackets = log.invalid.length

namespace WriterLog.Counted

variable {log : WriterLog} {call : WriteCall}

theorem written (h : log.Counted) (hcall : 0 ≤ call.returnCode) : (log.written call).Counted := by
  have hfailed : call.failed = false := decide_eq_false (not_lt.mpr hcall)
  constructor <;> simp [WriterLog.written, List.countP_append, streak_concat, hfailed,
    h.packetsWritten, h.failedPacketsSent, h.invalidPackets]

theorem failedToWrite (h : log.Counted) (hcall : call.returnCode < 0) :
    (log.failedToWrite call).Counted := by
  have hfailed : call.failed = true := decide_eq_true hcall
  constructor <;> simp [WriterLog.failedToWrite, List.countP_append, streak_concat, hfailed,
    h.packetsWritten, h.failedPacketsSent, h.consecutiveWriteFailures, h.invalidPackets]

theorem countedInvalid (h : log.Counted) (ordinal : Nat) : (log.countedInvalid ordinal).Counted := by
  constructor <;> simp [WriterLog.countedInvalid, h.packetsWritten, h.failedPacketsSent,
    h.consecutiveWriteFailures, h.invalidPackets]

end WriterLog.Counted

namespace DataLinkClient

/-- The thread gives up when 32 calls in a row have failed, and not before. -/
structure GivesUp (c : DataLinkClient) : Prop where
  counted : c.log.Counted
  threw : c.writer = .threw tooManyConsecutiveWriteFailures ↔ 32 ≤ streak (·.failed) c.log.calls
  before : ∀ earlier, earlier <+: c.log.calls → earlier ≠ c.log.calls →
    streak (·.failed) earlier < 32

/-- The packets counted as invalid and the packets written are different packets. -/
structure Separated (c : DataLinkClient) : Prop where
  called : ∀ call ∈ c.log.calls, call.ordinal ≤ c.queue.obtained.length
  unwritten : (∃ packet, c.writer = .converting packet) ∨
      (∃ packet records, c.writer = .naming packet records) →
    ∀ call ∈ c.log.calls, call.ordinal < c.queue.obtained.length
  invalid : ∀ ordinal ∈ c.log.invalid, ordinal ≤ c.queue.obtained.length
  left : c.writer.packetInWork = true → ∀ ordinal ∈ c.log.invalid, ordinal < c.queue.obtained.length
  disjoint : ∀ ordinal ∈ c.log.invalid, ∀ call ∈ c.log.calls, call.ordinal ≠ ordinal

section

variable {lib : Libmseed} {options : WriterOptions} {c c' : DataLinkClient}

theorem ne_threw_of_not_ended (h : c.writer.ended = false) (exception : Exception) :
    c.writer ≠ .threw exception := by
  intro hthrew
  rw [hthrew] at h
  cases h

/-- A step after which the same calls were made, and before and after which the thread goes on. -/
theorem GivesUp.of_same_calls (h : c.GivesUp) (hcounted : c'.log.Counted)
    (hcalls : c'.log.calls = c.log.calls)
    (hbefore : c.writer ≠ .threw tooManyConsecutiveWriteFailures)
    (hafter : c'.writer ≠ .threw tooManyConsecutiveWriteFailures) : c'.GivesUp where
  counted := hcounted
  threw := by
    rw [hcalls]
    exact iff_of_false hafter (mt h.threw.mpr hbefore)
  before := by
    rw [hcalls]
    exact h.before

/-- A `dl_write` after a history that did not end the thread. -/
theorem GivesUp.before_call (h : c.GivesUp) (hwriter : c.writer ≠ .threw tooManyConsecutiveWriteFailures)
    (call : WriteCall) (earlier : List WriteCall) (hshorter : earlier <+: c.log.calls ++ [call])
    (hne : earlier ≠ c.log.calls ++ [call]) : streak (·.failed) earlier < 32 := by
  have hstreak : streak (·.failed) c.log.calls < 32 := not_le.mp (mt h.threw.mpr hwriter)
  rcases List.prefix_concat_iff.mp hshorter with heq | hshorter
  · exact absurd heq hne
  · by_cases hall : earlier = c.log.calls
    · rw [hall]
      exact hstreak
    · exact h.before earlier hshorter hall

theorem couldNotReconnect_ne : couldNotReconnect ≠ tooManyConsecutiveWriteFailures := by decide

theorem GivesUp.write (h : c.GivesUp) (hstep : WriteStep lib options c c') : c'.GivesUp := by
  cases hstep with
  | moved writer isConnected hfrom hto hrunning hreturned hthrew =>
    refine h.of_same_calls h.counted rfl (ne_threw_of_not_ended hrunning _) fun heq => ?_
    exact couldNotReconnect_ne (hthrew _ heq).symm
  | took packet queue hdequeuing htake =>
    exact h.of_same_calls h.counted rfl (by rw [hdequeuing]; nofun) nofun
  | refused packet exception hconverting herror =>
    exact h.of_same_calls (h.counted.countedInvalid _) rfl (by rw [hconverting]; nofun) nofun
  | converted packet records hconverting hok =>
    exact h.of_same_calls h.counted rfl (by rw [hconverting]; nofun) nofun
  | unnamed packet records exception hnaming herror =>
    exact h.of_same_calls (h.counted.countedInvalid _) rfl (by rw [hnaming]; nofun) nofun
  | named packet records streamIdentifier hnaming hok =>
    exact h.of_same_calls h.counted rfl (by rw [hnaming]; nofun) nofun
  | finished streamIdentifier hwriting =>
    exact h.of_same_calls h.counted rfl (by rw [hwriting]; nofun) nofun
  | skipped streamIdentifier record rest hwriting hempty =>
    exact h.of_same_calls h.counted rfl (by rw [hwriting]; nofun) nofun
  | wrote streamIdentifier record rest answer hwriting hnonempty =>
    have hwriter : c.writer ≠ .threw tooManyConsecutiveWriteFailures := by
      rw [hwriting]
      nofun
    have hcount := h.counted.consecutiveWriteFailures
    obtain ⟨call, isConnected, _, ⟨hfailed, hmany, heq⟩ | ⟨hfailed, hfew, heq⟩ | ⟨hwritten, heq⟩⟩ :=
      dlWrite_cases (c := c) streamIdentifier record rest answer
    · rw [heq]
      refine ⟨h.counted.failedToWrite hfailed, iff_of_true rfl ?_, h.before_call hwriter call⟩
      have hfailed' : call.failed = true := decide_eq_true hfailed
      simp only [WriterLog.failedToWrite, streak_concat, hfailed', if_true]
      omega
    · rw [heq]
      refine ⟨h.counted.failedToWrite hfailed, iff_of_false nofun ?_, h.before_call hwriter call⟩
      have hfailed' : call.failed = true := decide_eq_true hfailed
      simp only [WriterLog.failedToWrite, streak_concat, hfailed', if_true]
      omega
    · rw [heq]
      refine ⟨h.counted.written hwritten, iff_of_false nofun ?_, h.before_call hwriter call⟩
      have hfailed' : call.failed = false := decide_eq_false (not_lt.mpr hwritten)
      simp only [WriterLog.written, streak_concat, hfailed', Bool.false_eq_true, if_false]
      omega

theorem GivesUp.other (h : c.GivesUp) (hstep : OtherStep c c') : c'.GivesUp := by
  have hthrew : c'.writer = .threw tooManyConsecutiveWriteFailures ↔
      c.writer = .threw tooManyConsecutiveWriteFailures := by
    rcases hstep.writer with heq | ⟨_, _, hbefore, hafter⟩
    · rw [heq]
    · exact iff_of_false (ne_threw_of_not_ended hafter _) (ne_threw_of_not_ended hbefore _)
  constructor
  · rw [hstep.log]
    exact h.counted
  · rw [hthrew, hstep.log]
    exact h.threw
  · rw [hstep.log]
    exact h.before

/-- The packet in work is left or counted as invalid. -/
theorem Separated.leave (h : c.Separated) (hqueue : c'.queue = c.queue) (hwriter : c'.writer = .testing)
    (hcalls : c'.log.calls = c.log.calls) (hinvalid : c'.log.invalid = c.log.invalid) :
    c'.Separated := by
  constructor
  · rw [hcalls, hqueue]
    exact h.called
  · rw [hwriter]
    rintro (⟨_, heq⟩ | ⟨_, _, heq⟩) <;> cases heq
  · rw [hinvalid, hqueue]
    exact h.invalid
  · rw [hwriter]
    nofun
  · rw [hinvalid, hcalls]
    exact h.disjoint

/-- A packet is counted as invalid before any of its records is written. -/
theorem Separated.countInvalid (h : c.Separated)
    (hunwritten : ∀ call ∈ c.log.calls, call.ordinal < c.queue.obtained.length) :
    c.countInvalid.Separated := by
  constructor
  · exact h.called
  · rintro (⟨_, heq⟩ | ⟨_, _, heq⟩) <;> cases heq
  · intro ordinal hordinal
    rcases List.mem_append.mp hordinal with hold | hnew
    · exact h.invalid ordinal hold
    · rw [List.mem_singleton.mp hnew]
      exact le_refl _
  · nofun
  · intro ordinal hordinal call hcall
    rcases List.mem_append.mp hordinal with hold | hnew
    · exact h.disjoint ordinal hold call hcall
    · rw [List.mem_singleton.mp hnew]
      exact (hunwritten call hcall).ne

theorem Separated.wrote (h : c.Separated) {streamIdentifier : Str} {record : DataLinkPacket}
    {rest : List DataLinkPacket} (hwriting : c.writer = .writing streamIdentifier (record :: rest))
    (answer : Answer) : (c.dlWrite streamIdentifier record rest answer).Separated := by
  have hleft := h.left (by rw [hwriting]; rfl)
  obtain ⟨call, isConnected, rfl, hcases⟩ :=
    dlWrite_cases (c := c) streamIdentifier record rest answer
  have hshape : ∃ log writer, c.dlWrite streamIdentifier record rest answer =
        { c with log, isConnected, writer } ∧
      log.calls = c.log.calls ++ [⟨c.queue.obtained.length, streamIdentifier, record, answer.returnCode⟩] ∧
      log.invalid = c.log.invalid ∧ (∀ packet, writer ≠ .converting packet) ∧
      ∀ packet records, writer ≠ .naming packet records := by
    rcases hcases with ⟨_, _, heq⟩ | ⟨_, _, heq⟩ | ⟨_, heq⟩ <;>
      exact ⟨_, _, heq, rfl, rfl, nofun, nofun⟩
  obtain ⟨log, writer, heq, hcalls, hinvalid, hconverting, hnaming⟩ := hshape
  rw [heq]
  constructor
  · intro call hcall
    rcases List.mem_append.mp (hcalls ▸ hcall) with hold | hnew
    · exact h.called call hold
    · rw [List.mem_singleton.mp hnew]
  · rintro (⟨packet, hpacket⟩ | ⟨packet, records, hpacket⟩)
    · exact absurd hpacket (hconverting packet)
    · exact absurd hpacket (hnaming packet records)
  · intro ordinal hordinal
    exact h.invalid ordinal (hinvalid ▸ hordinal)
  · intro _ ordinal hordinal
    exact hleft ordinal (hinvalid ▸ hordinal)
  · intro ordinal hordinal call hcall
    rcases List.mem_append.mp (hcalls ▸ hcall) with hold | hnew
    · exact h.disjoint ordinal (hinvalid ▸ hordinal) call hold
    · rw [List.mem_singleton.mp hnew]
      exact (hleft ordinal (hinvalid ▸ hordinal)).ne'

theorem Separated.write (h : c.Separated) (hstep : WriteStep lib options c c') : c'.Separated := by
  cases hstep with
  | moved writer isConnected hfrom hto hrunning hreturned hthrew =>
    refine ⟨h.called, ?_, h.invalid, ?_, h.disjoint⟩
    · rintro (⟨_, rfl⟩ | ⟨_, _, rfl⟩) <;> cases hto
    · intro hin
      rw [hto] at hin
      cases hin
  | took packet queue hdequeuing htake =>
    obtain ⟨rest, _, rfl⟩ := BoundedQueue.take_eq_some.mp htake
    have hlt : c.queue.obtained.length < (c.queue.obtained ++ [packet]).length := by simp
    refine ⟨?_, ?_, ?_, ?_, h.disjoint⟩
    · exact fun call hcall => (h.called call hcall).trans hlt.le
    · exact fun _ call hcall => (h.called call hcall).trans_lt hlt
    · exact fun ordinal hordinal => (h.invalid ordinal hordinal).trans hlt.le
    · exact fun _ ordinal hordinal => (h.invalid ordinal hordinal).trans_lt hlt
  | refused packet exception hconverting herror =>
    exact h.countInvalid (h.unwritten (Or.inl ⟨packet, hconverting⟩))
  | converted packet records hconverting hok =>
    have hunwritten := h.unwritten (Or.inl ⟨packet, hconverting⟩)
    exact ⟨h.called, fun _ => hunwritten, h.invalid, fun _ => h.left (by rw [hconverting]; rfl),
      h.disjoint⟩
  | unnamed packet records exception hnaming herror =>
    exact h.countInvalid (h.unwritten (Or.inr ⟨packet, records, hnaming⟩))
  | named packet records streamIdentifier hnaming hok =>
    refine ⟨h.called, ?_, h.invalid, fun _ => h.left (by rw [hnaming]; rfl), h.disjoint⟩
    rintro (⟨_, heq⟩ | ⟨_, _, heq⟩) <;> cases heq
  | finished streamIdentifier hwriting => exact h.leave rfl rfl rfl rfl
  | skipped streamIdentifier record rest hwriting hempty =>
    refine ⟨h.called, ?_, h.invalid, fun _ => h.left (by rw [hwriting]; rfl), h.disjoint⟩
    rintro (⟨_, heq⟩ | ⟨_, _, heq⟩) <;> cases heq
  | wrote streamIdentifier record rest answer hwriting hnonempty => exact h.wrote hwriting answer

theorem Separated.other (h : c.Separated) (hstep : OtherStep c c') : c'.Separated := by
  have hwork : c'.writer = c.writer ∨ c'.writer.packetInWork = false :=
    hstep.writer.imp_right fun hidle => hidle.2.1
  constructor
  · rw [hstep.log, hstep.obtained]
    exact h.called
  · rw [hstep.log, hstep.obtained]
    rcases hwork with heq | hidle
    · rw [heq]
      exact h.unwritten
    · rintro (⟨_, heq⟩ | ⟨_, _, heq⟩) <;> rw [heq] at hidle <;> cases hidle
  · rw [hstep.log, hstep.obtained]
    exact h.invalid
  · rw [hstep.log, hstep.obtained]
    rcases hwork with heq | hidle
    · rw [heq]
      exact h.left
    · rw [hidle]
      nofun
  · rw [hstep.log]
    exact h.disjoint

end

/-- The component while libmseed may answer differently at each step. -/
def nextWith (options : WriterOptions) (c : DataLinkClient) (a : Libmseed × Event) :
    Option DataLinkClient :=
  next a.1 options c a.2

/-- The answer to a `dl_write`: the writer is at a record that is not empty. -/
def answered (c : DataLinkClient) (a : Libmseed × Event) : Option Int :=
  match a.2, c.writer with
  | .write answer, .writing _ (dataLinkPacket :: _) =>
    if dataLinkPacket.data.isEmpty then none else some answer.returnCode
  | _, _ => none

theorem WriteStep.calls {lib : Libmseed} {options : WriterOptions} {c c' : DataLinkClient}
    (h : WriteStep lib options c c')
    (hnone : ∀ streamIdentifier record rest, c.writer = .writing streamIdentifier (record :: rest) →
      record.data = []) : c'.log.calls = c.log.calls := by
  cases h with
  | wrote streamIdentifier record rest _ hwriting hnonempty =>
    exact absurd (hnone streamIdentifier record rest hwriting) hnonempty
  | _ => rfl

/-- A step adds a call to the log just when a `dl_write` is answered in it. -/
theorem calls_of_next {options : WriterOptions} {c c' : DataLinkClient} {a : Libmseed × Event}
    (h : nextWith options c a = some c') :
    c'.log.calls.map (·.returnCode) = c.log.calls.map (·.returnCode) ++ (c.answered a).toList := by
  obtain ⟨lib, event⟩ := a
  cases event with
  | write answer =>
    have hstep := writeStep_of_runWriter h
    cases hwriter : c.writer with
    | writing streamIdentifier records =>
      cases records with
      | nil =>
        rw [hstep.calls (by rw [hwriter]; nofun), answered, hwriter]
        exact (List.append_nil _).symm
      | cons record rest =>
        cases hempty : record.data.isEmpty with
        | true =>
          have hdata : ∀ s r t, c.writer = .writing s (r :: t) → r.data = [] := by
            intro s r t heq
            obtain ⟨_, hrecords⟩ := Writer.writing.inj (hwriter.symm.trans heq)
            obtain ⟨rfl, _⟩ := List.cons.inj hrecords
            exact List.isEmpty_iff.mp hempty
          simp only [hstep.calls hdata, answered, hwriter, hempty, if_true]
          exact (List.append_nil _).symm
        | false =>
          have hcalled : c.runWriter lib options answer =
              some (c.dlWrite streamIdentifier record rest answer) := by
            rw [runWriter, hwriter]
            exact if_neg (by rw [hempty]; exact Bool.false_ne_true)
          obtain rfl := Option.some.inj (hcalled.symm.trans h)
          obtain ⟨call, hcode, hcalls⟩ := dlWrite_calls (c := c) streamIdentifier record rest answer
          rw [hcalls, List.map_append, List.map_singleton, hcode]
          simp only [answered, hwriter, hempty]
          rfl
    | _ =>
      rw [hstep.calls (by rw [hwriter]; nofun), answered, hwriter]
      exact (List.append_nil _).symm
  | start | enqueue _ | produce _ | stop =>
    rw [(otherStep_of_next (fun _ heq => by cases heq) h).log, answered]
    exact (List.append_nil _).symm

/-- **Writer counters and the give-up rule.** In every run the calls are those that the writer came to and `dl_write`
answered, in order; the counters are the numbers of calls with each result, no packet counted as invalid was written,
and the thread throws for too many failures exactly when the last 32 calls have failed, which no shorter history ends
with. -/
theorem writer_counters (options : WriterOptions) (as : List (Libmseed × Event)) (c : DataLinkClient)
    (hrun : exec (nextWith options) {} as = some c) :
    c.log.calls.map (·.returnCode) = observed (nextWith options) answered {} as ∧
      c.log.packetsWritten = c.log.calls.countP (0 ≤ ·.returnCode) ∧
      c.log.failedPacketsSent = c.log.calls.countP (·.returnCode < 0) ∧
      (c.log.invalidPackets = c.log.invalid.length ∧
        ∀ ordinal ∈ c.log.invalid, ∀ call ∈ c.log.calls, call.ordinal ≠ ordinal) ∧
      (c.writer = .threw tooManyConsecutiveWriteFailures ↔
        EndsWith (·.returnCode < 0) 32 c.log.calls) ∧
      ∀ earlier, earlier <+: c.log.calls → earlier ≠ c.log.calls →
        ¬ EndsWith (·.returnCode < 0) 32 earlier := by
  have hstep : ∀ (s : DataLinkClient) (a : Libmseed × Event) (s' : DataLinkClient),
      s.GivesUp ∧ s.Separated → nextWith options s a = some s' → s'.GivesUp ∧ s'.Separated := by
    rintro s a s' ⟨hgives, hseparated⟩ hnext
    rcases next_cases hnext with hstep | hstep
    · exact ⟨hgives.write hstep, hseparated.write hstep⟩
    · exact ⟨hgives.other hstep, hseparated.other hstep⟩
  have hinit : GivesUp {} ∧ Separated {} := by
    constructor
    · refine ⟨⟨rfl, rfl, rfl, rfl⟩, iff_of_false nofun (by decide), ?_⟩
      exact fun earlier hshorter hne => absurd (List.prefix_nil.mp hshorter) hne
    · constructor <;> simp
  obtain ⟨hgives, hseparated⟩ := invariant hstep hinit hrun
  have hwritten : ∀ call : WriteCall, (!call.failed) = decide (0 ≤ call.returnCode) := by
    intro call
    rw [WriteCall.failed, ← decide_not]
    exact decide_eq_decide.mpr not_lt
  refine ⟨log_eq_observed (fun _ _ _ hnext => calls_of_next hnext) hrun, ?_, hgives.counted.failedPacketsSent,
    ⟨hgives.counted.invalidPackets, hseparated.disjoint⟩, ?_, ?_⟩
  · rw [hgives.counted.packetsWritten]
    exact List.countP_congr fun call _ => by rw [hwritten call]
  · rw [endsWith_iff]
    exact hgives.threw
  · intro earlier hshorter hne
    rw [endsWith_iff, not_le]
    exact hgives.before earlier hshorter hne

/-- A packet is handed to a writer, which writes it. -/
def writeOne (packet : Packet) (returnCode : Int) : List Event :=
  [.start, .enqueue packet, .produce true, .produce true, .write {}, .write {}, .write {}, .write {},
    .write {}, .write { returnCode }]

/-- A packer that makes 33 copies of the known record. -/
def copying : Libmseed :=
  { Libmseed.knowing knownRecord knownNames with
    msr3Pack := fun packed _ => ⟨List.replicate 33 knownRecord.bytes, 33, packed.numsamples⟩ }

/-- The first copy is written and all others fail. -/
def failAfterFirst : List Event :=
  writeOne (knownPacket .integer32 [5]) 0 ++ List.replicate 32 (.write { returnCode := -1 })

/-- The thread gives up after the last copy. -/
theorem writer_counters_known :
    ∃ c, exec (nextWith {}) {} (failAfterFirst.map (copying, ·)) = some c ∧ c.log.packetsWritten = 1 ∧
      c.log.failedPacketsSent = 32 ∧ EndsWith (·.returnCode < 0) 32 c.log.calls := by
  have hend : ((exec (nextWith {}) {} (failAfterFirst.map (copying, ·))).map fun c =>
        decide ((match c.writer with | .threw exception => some exception | _ => none) =
          some tooManyConsecutiveWriteFailures)) = some true ∧
      observed (nextWith {}) answered {} (failAfterFirst.map (copying, ·)) = 0 :: List.replicate 32 (-1) := by
    decide +kernel
  obtain ⟨hthrows, hanswers⟩ := hend
  obtain ⟨c, hrun, hthrew⟩ := Option.map_eq_some_iff.mp hthrows
  have hwriter : c.writer = .threw tooManyConsecutiveWriteFailures := by
    have hexception := of_decide_eq_true hthrew
    split at hexception
    · next exception hwriter => rw [hwriter, Option.some.inj hexception]
    · cases hexception
  obtain ⟨hcalls, hwritten, hfailed, _, hgivesUp, _⟩ := writer_counters {} _ c hrun
  rw [hanswers] at hcalls
  have hcount (code : Int → Bool) :
      c.log.calls.countP (fun call => code call.returnCode) = (0 :: List.replicate 32 (-1)).countP code := by
    rw [← hcalls, List.countP_map]
    rfl
  refine ⟨c, hrun, ?_, ?_, hgivesUp.mp hwriter⟩
  · rw [hwritten, hcount fun code => 0 ≤ code]
    decide
  · rw [hfailed, hcount fun code => code < 0]
    decide

end DataLinkClient

end USEEDLinkToRingServer
