import USEEDLinkToRingServer.Known
import USEEDLinkToRingServer.SEEDLinkClient

/-!
# The polling loop

What the loop hands to the callback and how often it saves the state, whatever `sl_collect` returns,
whatever the callback throws and whenever another thread changes the keep-running flag.
-/

namespace USEEDLinkToRingServer

open Machine

/-- The payloads the loop unpacks. -/
def PayloadFormat.isMSEED : PayloadFormat → Bool
  | .mseed2 | .mseed3 => true
  | .other => false

/-- The packets that come of a payload. -/
def unpacked (lib : Libmseed) (collected : PayloadFormat × Bytes) : List Packet :=
  if collected.1.isMSEED then
    match miniSEEDToDataPackets lib collected.2 (Int32.ofNat collected.2.length) with
    | some (.ok packets, _) => packets
    | _ => []
  else []

namespace Poller

/-- In the body of the loop or at its test. -/
def inLoop : Poller → Bool
  | .testing | .collecting | .offering _ | .callingBack _ | .updatingStateFile => true
  | _ => false

/-- Between the collection of a payload and the end of its turn of the loop. -/
def handling : Poller → Bool
  | .offering _ | .callingBack _ | .updatingStateFile => true
  | _ => false

/-- The packets of the payload in work that are still to be offered. -/
def remaining : Poller → List Packet
  | .offering packets => packets
  | .callingBack rest => rest
  | _ => []

end Poller

namespace SEEDLinkClient

section

variable (lib : Libraries) (options : SEEDLinkOptions) (c : SEEDLinkClient)

/-- An exception of the callback is caught, and the loop goes on to the next packet. -/
def catchCallback : Option SEEDLinkClient :=
  match c.poller with
  | .callingBack rest => some { c with poller := .offering rest }
  | _ => none

/-- The terminate command that goes with it is an answer of `sl_collect`. -/
def setRunning (running : Bool) : SEEDLinkClient := { c with mKeepRunning := running }

/-- What the loop lives through. -/
inductive LoopEvent
  | start
  | poll (answer : PollAnswer)
  | callbackThrows (exception : Exception)
  | setRunning (running : Bool)
deriving DecidableEq, Repr

def loopNext : LoopEvent → Option SEEDLinkClient
  | .start => c.start
  | .poll answer => c.packetToCallback lib options answer
  | .callbackThrows _ => c.catchCallback
  | .setRunning running => some (c.setRunning running)

/-- What `sl_collect` returns in this step, if it is called. -/
def returns (event : LoopEvent) : Option Collected :=
  match c.poller, event with
  | .collecting, .poll answer => some answer.collected
  | _, _ => none

/-- The payload that is collected in this step, if one is. -/
def payloadOf (event : LoopEvent) : List (PayloadFormat × Bytes) :=
  match c.returns event with
  | some (.packet payloadFormat payload) => [(payloadFormat, payload)]
  | _ => []

/-- What a step owes to the way out: the loop is left only at its test or on a terminate request, and
the function returns only if it is not to keep running, and throws if it is. -/
structure LeavesProperly (event : LoopEvent) (c' : SEEDLinkClient) : Prop where
  left : c.poller.inLoop = true → c'.poller.inLoop = false →
    c.poller = .testing ∧ c.mKeepRunning = false ∨ c.returns event = some .terminate
  returned : c.poller.ended = false → c'.poller = .returned →
    c.poller = .leaving ∧ c.mKeepRunning = false
  threw : c.poller = .leaving → c'.poller.ended = true → c.mKeepRunning = true →
    ∃ exception, c'.poller = .threw exception
  collected : c'.collected = c.collected ++ c.payloadOf event

end

variable {lib : Libraries} {options : SEEDLinkOptions} {c c' : SEEDLinkClient}

/-! ### One turn of the loop -/

/-- What becomes of a payload that was collected. -/
theorem collect_eq_some {payloadFormat : PayloadFormat} {payload : Bytes}
    (h : c.collect lib payloadFormat payload = some c') :
    ∃ poller, c' = { c with collected := c.collected ++ [(payloadFormat, payload)], poller } ∧
      poller.remaining = unpacked lib (payloadFormat, payload) ∧
      poller.handling = payloadFormat.isMSEED ∧ poller.inLoop = true := by
  unfold collect at h
  dsimp only at h
  split at h
  · next hformat =>
    have hmseed : payloadFormat.isMSEED = true := by
      rcases hformat with rfl | rfl <;> rfl
    split at h
    · cases h
    · next packets walk hunpack =>
      refine ⟨.offering packets, (Option.some.inj h).symm, ?_, hmseed.symm, rfl⟩
      simp only [unpacked, hmseed, if_true, hunpack, Poller.remaining]
    · next exception walk hunpack =>
      refine ⟨.updatingStateFile, (Option.some.inj h).symm, ?_, hmseed.symm, rfl⟩
      simp only [unpacked, hmseed, if_true, hunpack, Poller.remaining]
  · next hformat =>
    have hother : payloadFormat.isMSEED = false := by
      cases payloadFormat <;> first | rfl | simp at hformat
    refine ⟨.testing, (Option.some.inj h).symm, ?_, hother.symm, rfl⟩
    simp [unpacked, hother, Poller.remaining]

theorem catchCallback_eq_some :
    c.catchCallback = some c' ↔
      ∃ rest, c.poller = .callingBack rest ∧ c' = { c with poller := .offering rest } := by
  unfold catchCallback
  split
  · next rest hcalling => simp [hcalling, eq_comm]
  · next hno => exact ⟨fun h => (nomatch h), fun ⟨rest, hcalling, _⟩ => (hno rest hcalling).elim⟩

theorem countPayload_collected : (c.countPayload lib options).collected = c.collected := by
  unfold countPayload
  split
  · dsimp only
    split <;> rfl
  · rfl

/-! ### The packets that are offered -/

/-- What was offered and what is still to be offered is what was unpacked, in order. -/
def Offers (lib : Libraries) (c : SEEDLinkClient) : Prop :=
  c.offered ++ c.poller.remaining = c.collected.flatMap (unpacked lib)

theorem Offers.of_remaining {poller : Poller} (h : c.Offers lib)
    (hsame : poller.remaining = c.poller.remaining) : Offers lib { c with poller } := by
  show c.offered ++ poller.remaining = _
  rw [hsame]
  exact h

/-- Outside the handling of a payload everything was offered. -/
theorem Offers.offered_eq (h : c.Offers lib) (hnone : c.poller.remaining = []) :
    c.offered = c.collected.flatMap (unpacked lib) := by
  rw [← h, hnone, List.append_nil]

theorem Offers.poll {answer : PollAnswer} (h : c.Offers lib)
    (hstep : c.packetToCallback lib options answer = some c') : c'.Offers lib := by
  have hmoved {before after : Poller} (hpoller : c.poller = before)
      (hsame : after.remaining = before.remaining) : Offers lib { c with poller := after } := by
    subst hpoller
    exact h.of_remaining hsame
  cases loopStep_of_packetToCallback hstep with
  | collected payloadFormat payload _ hpoller _ hcollect =>
    obtain ⟨poller, rfl, hremaining, _⟩ := collect_eq_some hcollect
    have hall := h.offered_eq (by rw [hpoller]; rfl)
    show c.offered ++ poller.remaining = (c.collected ++ [(payloadFormat, payload)]).flatMap _
    rw [hremaining, List.flatMap_append, List.flatMap_singleton, ← hall]
  | offered packet rest hpoller =>
    have hall := h
    rw [Offers, hpoller] at hall
    show (c.offered ++ [packet]) ++ rest = _
    rw [List.append_assoc]
    exact hall
  | counted hpoller =>
    have hall := h.offered_eq (by rw [hpoller]; rfl)
    show (c.countPayload lib options).offered ++ [] = (c.countPayload lib options).collected.flatMap _
    rw [countPayload_frame.2, countPayload_collected, List.append_nil]
    exact hall
  | purged hpoller _ => exact hmoved hpoller rfl
  | recovered hpoller | notRecovered _ hpoller | entered hpoller | stopped hpoller | terminated hpoller
  | collectedNothing hpoller | offeredAll hpoller | calledBack _ hpoller | kept hpoller
  | notPurged _ hpoller | endedEarly _ hpoller | returned hpoller =>
    exact hmoved hpoller rfl

theorem Offers.next {event : LoopEvent} (h : c.Offers lib)
    (hstep : loopNext lib options c event = some c') : c'.Offers lib := by
  cases event with
  | start =>
    obtain ⟨_, hnotStarted, rfl⟩ := start_eq_some.mp hstep
    exact h.of_remaining (by rw [hnotStarted]; rfl)
  | poll answer => exact h.poll hstep
  | callbackThrows exception =>
    obtain ⟨rest, hcalling, rfl⟩ := catchCallback_eq_some.mp hstep
    exact h.of_remaining (by rw [hcalling]; rfl)
  | setRunning running =>
    obtain rfl := Option.some.inj hstep
    exact h

/-! ### The ways out of the loop -/

theorem returns_of_ne {event : LoopEvent} (h : c.poller ≠ .collecting) : c.returns event = none := by
  unfold returns
  split
  · next hcollecting => exact absurd hcollecting h
  · rfl

theorem payloadOf_of_ne {event : LoopEvent} (h : c.poller ≠ .collecting) : c.payloadOf event = [] := by
  rw [payloadOf, returns_of_ne h]

theorem returns_poll {answer : PollAnswer} (h : c.poller = .collecting) :
    c.returns (.poll answer) = some answer.collected := by
  simp only [returns, h]

/-- A step that stays in the loop, or is not in it. -/
theorem leavesProperly_of_stays {event : LoopEvent}
    (hstays : c.poller.inLoop = true → c'.poller.inLoop = true) (hleaving : c.poller ≠ .leaving)
    (hreturned : c'.poller ≠ .returned) (hcollected : c'.collected = c.collected ++ c.payloadOf event) :
    LeavesProperly c event c' where
  left hin hout := nomatch (hstays hin).symm.trans hout
  returned _ hto := absurd hto hreturned
  threw hfrom := absurd hfrom hleaving
  collected := hcollected

theorem leavesProperly_poll {answer : PollAnswer}
    (hstep : c.packetToCallback lib options answer = some c') :
    LeavesProperly c (.poll answer) c' := by
  have hcollected (hnot : c.poller ≠ .collecting) (hsame : c'.collected = c.collected) :
      c'.collected = c.collected ++ c.payloadOf (.poll answer) := by
    rw [payloadOf_of_ne hnot, List.append_nil, hsame]
  cases loopStep_of_packetToCallback hstep with
  | recovered hpoller | notRecovered _ hpoller | kept hpoller | purged hpoller _ | notPurged _ hpoller =>
    exact leavesProperly_of_stays (by rw [hpoller]; nofun) (by rw [hpoller]; nofun) nofun
      (hcollected (by rw [hpoller]; nofun) rfl)
  | entered hpoller | offeredAll hpoller | offered _ _ hpoller | calledBack _ hpoller =>
    exact leavesProperly_of_stays (fun _ => rfl) (by rw [hpoller]; nofun) nofun
      (hcollected (by rw [hpoller]; nofun) rfl)
  | counted hpoller =>
    exact leavesProperly_of_stays (fun _ => rfl) (by rw [hpoller]; nofun) nofun
      (hcollected (by rw [hpoller]; nofun) countPayload_collected)
  | collected payloadFormat payload _ hpoller hanswer hcollect =>
    obtain ⟨poller, rfl, _, _, hin⟩ := collect_eq_some hcollect
    refine leavesProperly_of_stays (fun _ => hin) (by rw [hpoller]; nofun) ?_ ?_
    · rintro rfl
      cases hin
    · simp only [payloadOf, returns_poll hpoller, hanswer]
  | collectedNothing hpoller hanswer =>
    refine leavesProperly_of_stays (fun _ => rfl) (by rw [hpoller]; nofun) nofun ?_
    rw [payloadOf, returns_poll hpoller]
    split
    · next payloadFormat payload hreturns =>
      exact absurd (Option.some.inj hreturns) (hanswer payloadFormat payload)
    · exact (List.append_nil _).symm
  | stopped hpoller hkeep =>
    exact ⟨fun _ _ => Or.inl ⟨hpoller, hkeep⟩, nofun, by rw [hpoller]; nofun,
      hcollected (by rw [hpoller]; nofun) rfl⟩
  | terminated hpoller hanswer =>
    have hreturns : c.returns (.poll answer) = some .terminate := by rw [returns_poll hpoller, hanswer]
    refine ⟨fun _ _ => Or.inr hreturns, nofun, by rw [hpoller]; nofun, ?_⟩
    simp only [payloadOf, hreturns, List.append_nil]
  | endedEarly exception hpoller hkeep =>
    exact ⟨by rw [hpoller]; nofun, nofun, fun _ _ _ => ⟨exception, rfl⟩,
      hcollected (by rw [hpoller]; nofun) rfl⟩
  | returned hpoller hkeep =>
    exact ⟨by rw [hpoller]; nofun, fun _ _ => ⟨hpoller, hkeep⟩,
      fun _ _ htrue => (nomatch hkeep.symm.trans htrue), hcollected (by rw [hpoller]; nofun) rfl⟩

theorem leavesProperly_next {event : LoopEvent} (hstep : loopNext lib options c event = some c') :
    LeavesProperly c event c' := by
  have hnothing (hnot : ∀ answer, event ≠ .poll answer) : c.payloadOf event = [] := by
    unfold payloadOf returns
    split
    · next hreturns =>
      split at hreturns
      · next answer _ => exact absurd rfl (hnot answer)
      · cases hreturns
    · rfl
  have hcollected (hnot : ∀ answer, event ≠ .poll answer) (hsame : c'.collected = c.collected) :
      c'.collected = c.collected ++ c.payloadOf event := by
    rw [hnothing hnot, List.append_nil, hsame]
  cases event with
  | start =>
    obtain ⟨_, hnotStarted, rfl⟩ := start_eq_some.mp hstep
    exact leavesProperly_of_stays (by rw [hnotStarted]; nofun) (by rw [hnotStarted]; nofun) nofun
      (hcollected nofun rfl)
  | poll answer => exact leavesProperly_poll hstep
  | callbackThrows exception =>
    obtain ⟨rest, hcalling, rfl⟩ := catchCallback_eq_some.mp hstep
    exact leavesProperly_of_stays (fun _ => rfl) (by rw [hcalling]; nofun) nofun (hcollected nofun rfl)
  | setRunning running =>
    obtain rfl := Option.some.inj hstep
    refine ⟨fun hin hout => (nomatch hin.symm.trans hout), fun hrunning hto => ?_, fun hleaving hto => ?_,
      hcollected nofun rfl⟩
    · rw [show (c.setRunning running).poller = c.poller from rfl] at hto
      rw [hto] at hrunning
      cases hrunning
    · rw [show (c.setRunning running).poller = c.poller from rfl, hleaving] at hto
      cases hto

/-- **The polling loop forwards exactly the good data payloads.** Outside the handling of a payload the
packets that were given to the callback are the packets of the collected payloads that unpack, in order;
within it those still to be offered are missing. The loop is left only when it is not to keep running or
on a terminate request, and the thread then returns only if it is not to keep running. -/
theorem forwards_good_payloads (lib : Libraries) (options : SEEDLinkOptions) (before : Option Nat)
    (as : List LoopEvent) (c : SEEDLinkClient)
    (hrun : exec (loopNext lib options) (initializeClient options before) as = some c) :
    c.offered ++ c.poller.remaining = c.collected.flatMap (unpacked lib) ∧
      (c.poller.handling = false → c.offered = c.collected.flatMap (unpacked lib)) ∧
      Along (loopNext lib options)
        (fun c event => ∀ c', loopNext lib options c event = some c' → LeavesProperly c event c')
        (initializeClient options before) as := by
  have hinit : (initializeClient options before).Offers lib := rfl
  have hoffers : c.Offers lib := invariant (fun _ _ _ hs hnext => hs.next hnext) hinit hrun
  refine ⟨hoffers, fun hrest => hoffers.offered_eq ?_, along_of (fun _ _ _ => leavesProperly_next) _ _⟩
  cases hpoller : c.poller <;> first | rfl | simp [hpoller, Poller.handling] at hrest

/-- A payload is collected and its packet is given to a callback that throws. The loop is then stopped. -/
def callbackThrowsOnce : List LoopEvent :=
  [.start, .poll {}, .poll {}, .poll { collected := .packet .mseed3 knownRecord.bytes }, .poll {},
    .callbackThrows (.runtimeError "callback"), .poll {}, .poll {}, .setRunning false, .poll {},
    .poll {}, .poll {}]

/-- The packet of the known record is offered once. -/
theorem forwards_good_payloads_known :
    ∃ c, exec (loopNext (.knowing knownRecord knownNames) {}) (initializeClient {} none)
        callbackThrowsOnce = some c ∧ c.offered.length = 1 ∧
      c.offered = c.collected.flatMap (unpacked (.knowing knownRecord knownNames)) := by
  have hrun : ∃ c, exec (loopNext (.knowing knownRecord knownNames) {}) (initializeClient {} none)
      callbackThrowsOnce = some c ∧ c.offered.length = 1 ∧ c.poller.handling = false :=
    ⟨_, rfl, rfl, rfl⟩
  obtain ⟨c, hrun, hone, hrest⟩ := hrun
  exact ⟨c, hrun, hone, (forwards_good_payloads _ _ _ _ c hrun).2.1 hrest⟩

/-! ### The saves from the loop

The counter starts at one, is tested before it is incremented and starts again at zero. -/

/-- The payloads that were collected to be unpacked. -/
def payloads (c : SEEDLinkClient) : Nat := c.collected.countP (·.1.isMSEED)

/-- The counter and the saves after a number of payloads. -/
structure Counts (interval count : Nat) (c : SEEDLinkClient) : Prop where
  payloads : c.payloads = count + if c.poller.handling then 1 else 0
  updateStateFile : c.updateStateFile = (1 + count % (interval + 1) : Nat)
  loopSaves : c.loopSaves = count / (interval + 1)

theorem Counts.of_poller {interval count : Nat} (h : c.Counts interval count) {poller : Poller}
    (hsame : poller.handling = c.poller.handling) : Counts interval count { c with poller } where
  payloads := by
    show c.payloads = count + if poller.handling then 1 else 0
    rw [hsame]
    exact h.payloads
  updateStateFile := h.updateStateFile
  loopSaves := h.loopSaves

theorem add_one_div_mod_of_eq {count interval : Nat} (h : count % (interval + 1) = interval) :
    (count + 1) % (interval + 1) = 0 ∧
      (count + 1) / (interval + 1) = count / (interval + 1) + 1 := by
  have hzero := Nat.succ_mod_succ_eq_zero_iff.mpr h
  exact ⟨hzero, Nat.succ_div_of_mod_eq_zero hzero⟩

theorem add_one_div_mod_of_ne {count interval : Nat} (h : count % (interval + 1) ≠ interval) :
    (count + 1) % (interval + 1) = count % (interval + 1) + 1 ∧
      (count + 1) / (interval + 1) = count / (interval + 1) := by
  have hdiv := Nat.succ_div_of_mod_ne_zero (mt Nat.succ_mod_succ_eq_zero_iff.mp h)
  have hbefore := Nat.div_add_mod count (interval + 1)
  have hafter := Nat.div_add_mod (count + 1) (interval + 1)
  rw [hdiv] at hafter
  exact ⟨by omega, hdiv⟩

/-- The turn of the loop that ends a payload counts it, and saves the state at every `interval + 1`st. -/
theorem Counts.countPayload {interval count : Nat} (h : c.Counts interval count)
    (huse : options.mUseStateFile = true) (hinterval : options.mStateFileUpdateInterval = interval)
    (hhandling : c.poller = .updatingStateFile) :
    Counts interval (count + 1) { c.countPayload lib options with poller := .testing } := by
  have hpayloads : c.payloads = count + 1 := by
    have hpayloads := h.payloads
    rwa [hhandling] at hpayloads
  have hlt : count % (interval + 1) < interval + 1 := Nat.mod_lt count (Nat.succ_pos interval)
  have hcounter := h.updateStateFile
  have hsaves := h.loopSaves
  by_cases hlast : count % (interval + 1) = interval
  · obtain ⟨hmod, hdiv⟩ := add_one_div_mod_of_eq hlast
    have hpast : c.updateStateFile > options.mStateFileUpdateInterval := by omega
    rw [SEEDLinkClient.countPayload, if_pos huse, if_pos hpast]
    refine ⟨hpayloads, ?_, ?_⟩
    · rw [hmod]
      rfl
    · rw [hdiv, ← hsaves]
  · obtain ⟨hmod, hdiv⟩ := add_one_div_mod_of_ne hlast
    have hnotPast : ¬ c.updateStateFile > options.mStateFileUpdateInterval := by omega
    rw [SEEDLinkClient.countPayload, if_pos huse, if_neg hnotPast]
    refine ⟨hpayloads, ?_, hsaves.trans hdiv.symm⟩
    show c.updateStateFile + 1 = _
    rw [hmod, hcounter]
    omega

theorem Counts.poll {interval count : Nat} (h : c.Counts interval count)
    (huse : options.mUseStateFile = true) (hinterval : options.mStateFileUpdateInterval = interval)
    {answer : PollAnswer} (hstep : c.packetToCallback lib options answer = some c') :
    ∃ count', c'.Counts interval count' := by
  have hmoved {before after : Poller} (hpoller : c.poller = before)
      (hsame : after.handling = before.handling) : Counts interval count { c with poller := after } := by
    subst hpoller
    exact h.of_poller hsame
  cases loopStep_of_packetToCallback hstep with
  | collected payloadFormat payload _ hpoller _ hcollect =>
    obtain ⟨poller, rfl, _, hhandling, _⟩ := collect_eq_some hcollect
    have hpayloads : c.payloads = count := by
      have hpayloads := h.payloads
      rwa [hpoller] at hpayloads
    refine ⟨count, ?_, h.updateStateFile, h.loopSaves⟩
    show (c.collected ++ [(payloadFormat, payload)]).countP (·.1.isMSEED) = _
    rw [List.countP_append, List.countP_singleton, ← hpayloads]
    show c.payloads + _ = c.payloads + if poller.handling then 1 else 0
    rw [hhandling]
  | counted hpoller => exact ⟨count + 1, h.countPayload huse hinterval hpoller⟩
  | offered packet rest hpoller => exact ⟨count, hmoved hpoller rfl |>.payloads, h.2, h.3⟩
  | purged hpoller _ => exact ⟨count, hmoved hpoller rfl |>.payloads, h.2, h.3⟩
  | recovered hpoller | notRecovered _ hpoller | entered hpoller | stopped hpoller | terminated hpoller
  | collectedNothing hpoller | offeredAll hpoller | calledBack _ hpoller | kept hpoller
  | notPurged _ hpoller | endedEarly _ hpoller | returned hpoller =>
    exact ⟨count, hmoved hpoller rfl⟩

theorem packetToCallback_started {answer : PollAnswer}
    (hstep : c.packetToCallback lib options answer = some c') : c'.poller ≠ .notStarted := by
  cases loopStep_of_packetToCallback hstep with
  | collected _ _ _ _ _ hcollect =>
    obtain ⟨poller, rfl, _, _, hin⟩ := collect_eq_some hcollect
    rintro rfl
    cases hin
  | _ => nofun

/-- The counter follows the payloads, of which there are none before the thread is started. -/
structure Counting (interval : Nat) (c : SEEDLinkClient) : Prop where
  counts : ∃ count, c.Counts interval count
  notStarted : c.poller = .notStarted → c.payloads = 0

theorem Counting.next {interval : Nat} (huse : options.mUseStateFile = true)
    (hinterval : options.mStateFileUpdateInterval = interval) {event : LoopEvent}
    (h : c.Counting interval) (hstep : loopNext lib options c event = some c') :
    c'.Counting interval := by
  obtain ⟨count, hcounts⟩ := h.counts
  cases event with
  | start =>
    obtain ⟨_, hnotStarted, rfl⟩ := start_eq_some.mp hstep
    have hpayloads := hcounts.payloads
    rw [h.notStarted hnotStarted] at hpayloads
    obtain rfl : count = 0 := by omega
    refine ⟨⟨0, ?_, rfl, hcounts.loopSaves⟩, nofun⟩
    exact h.notStarted hnotStarted
  | poll answer =>
    exact ⟨hcounts.poll huse hinterval hstep, fun hnot => absurd hnot (packetToCallback_started hstep)⟩
  | callbackThrows exception =>
    obtain ⟨rest, hcalling, rfl⟩ := catchCallback_eq_some.mp hstep
    exact ⟨⟨count, hcounts.of_poller (by rw [hcalling]; rfl)⟩, nofun⟩
  | setRunning running =>
    obtain rfl := Option.some.inj hstep
    exact ⟨⟨count, hcounts.1, hcounts.2, hcounts.3⟩, h.notStarted⟩

/-- Between payloads the loop has saved the state once for every `interval + 1` of them. -/
theorem loopSaves_eq {interval : Nat} (huse : options.mUseStateFile = true)
    (hinterval : options.mStateFileUpdateInterval = interval) {before : Option Nat} {as : List LoopEvent}
    (hrun : exec (loopNext lib options) (initializeClient options before) as = some c)
    (hrest : c.poller.handling = false) : c.loopSaves = c.payloads / (interval + 1) := by
  have hinit : (initializeClient options before).Counting interval :=
    ⟨⟨0, rfl, by simp [initializeClient], by simp [initializeClient]⟩, fun _ => rfl⟩
  have hcounting : c.Counting interval :=
    invariant (fun _ _ _ hs hnext => hs.next huse hinterval hnext) hinit hrun
  obtain ⟨count, hcounts⟩ := hcounting.counts
  have hpayloads := hcounts.payloads
  rw [hrest] at hpayloads
  rw [hcounts.loopSaves, hpayloads]
  rfl

/-- Division by one more gives the same exactly when the quotient is not above the remainder. -/
theorem div_add_one_eq_div_iff {count interval : Nat} (hpos : 1 ≤ interval) :
    count / (interval + 1) = count / interval ↔ count / interval ≤ count % interval := by
  have hle : count / (interval + 1) ≤ count / interval :=
    Nat.div_le_div_left (Nat.le_succ interval) hpos
  have hsplit := Nat.div_add_mod count interval
  calc count / (interval + 1) = count / interval
      ↔ count / interval ≤ count / (interval + 1) := ⟨fun h => h.ge, fun h => le_antisymm hle h⟩
    _ ↔ count / interval * (interval + 1) ≤ count := Nat.le_div_iff_mul_le (Nat.succ_pos interval)
    _ ↔ count / interval ≤ count % interval := by
      rw [Nat.mul_add, Nat.mul_one, Nat.mul_comm]
      omega

/-- **Saves from the loop.** After a number of payloads the loop has saved the state once for every
`interval` of them exactly when the quotient is not above the remainder: the saves are in fact
`interval + 1` payloads apart. -/
theorem loopSaves_eq_iff (lib : Libraries) (options : SEEDLinkOptions) (interval : Nat)
    (hinterval : 1 ≤ interval) (hoptions : options.mStateFileUpdateInterval = interval)
    (huse : options.mUseStateFile = true) (before : Option Nat) (as : List LoopEvent)
    (c : SEEDLinkClient)
    (hrun : exec (loopNext lib options) (initializeClient options before) as = some c)
    (hrest : c.poller.handling = false) :
    c.loopSaves = c.payloads / interval ↔ c.payloads / interval ≤ c.payloads % interval := by
  rw [loopSaves_eq huse hoptions hrun hrest]
  exact div_add_one_eq_div_iff hinterval

/-- A client that is to save its state after every `interval` payloads. -/
def savingEvery (interval : Nat) : SEEDLinkOptions :=
  { stateFile := some "state", mStateFileUpdateInterval := interval }

/-- Payloads without records are collected. -/
def collectPayloads (count : Nat) : List LoopEvent :=
  .start :: .poll {} :: (List.replicate count
    [.poll {}, .poll { collected := .packet .mseed3 [] }, .poll {}, .poll {}]).flatten

/-- Three payloads are one save whether every second or every third is to be followed by one. -/
theorem loopSaves_eq_iff_known :
    ∃ c, exec (loopNext (.knowing knownRecord knownNames) (savingEvery 2))
        (initializeClient (savingEvery 2) none) (collectPayloads 3) = some c ∧
      c.loopSaves = c.payloads / 2 := by
  have hrun : ∃ c, exec (loopNext (.knowing knownRecord knownNames) (savingEvery 2))
      (initializeClient (savingEvery 2) none) (collectPayloads 3) = some c ∧
      c.poller.handling = false ∧ c.payloads = 3 := ⟨_, rfl, rfl, rfl⟩
  obtain ⟨c, hrun, hrest, hpayloads⟩ := hrun
  refine ⟨c, hrun, (loopSaves_eq_iff _ (savingEvery 2) 2 (by decide) rfl rfl none _ c hrun hrest).mpr ?_⟩
  rw [hpayloads]

/-- After the first payload the state is not saved. -/
theorem loopSaves_not_eq :
    ¬ ∀ (lib : Libraries) (options : SEEDLinkOptions) (interval : Nat), 1 ≤ interval →
      options.mStateFileUpdateInterval = interval → options.mUseStateFile = true →
      ∀ (before : Option Nat) (as : List LoopEvent) (c : SEEDLinkClient),
        exec (loopNext lib options) (initializeClient options before) as = some c →
        c.poller.handling = false → c.loopSaves = c.payloads / interval := by
  intro hclaim
  have hrun : ∃ c, exec (loopNext (.knowing knownRecord knownNames) (savingEvery 1))
      (initializeClient (savingEvery 1) none) (collectPayloads 1) = some c ∧
      c.poller.handling = false ∧ c.loopSaves = 0 ∧ c.payloads = 1 := ⟨_, rfl, rfl, rfl, rfl⟩
  obtain ⟨c, hrun, hrest, hsaves, hpayloads⟩ := hrun
  have hequal := hclaim _ (savingEvery 1) 1 (le_refl _) rfl rfl none _ c hrun hrest
  rw [hsaves, hpayloads] at hequal
  cases hequal

end SEEDLinkClient

end USEEDLinkToRingServer
