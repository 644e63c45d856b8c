import USEEDLinkToRingServer.Library.LossyFifo
import USEEDLinkToRingServer.Known

/-!
# The bounded queues

The import queue and every writer's queue have one producer, which makes room by popping, and one
consumer. `addPacketCallback` and `enqueue` are the same steps with other counters and another answer
to a pop that finds the queue empty.
-/

namespace USEEDLinkToRingServer

open Machine

/-- Where the producer is in a call. -/
inductive Producer (α : Type)
  | idle
  /-- Reads the size for the first time. -/
  | sizing (packet : α)
  /-- At the test of the loop that makes room. -/
  | looping (packet : α)
  /-- About to count a popped packet. -/
  | counting (packet : α)
  | popping (packet : α)
  | pushing (packet : α)
deriving DecidableEq, Repr

/-- A queue with its producer, its counters and the history of its two ends. -/
structure BoundedQueue (α : Type) where
  items : List α := []
  producer : Producer α := .idle
  packetsPopped : Nat := 0
  packetsFailedToEnqueue : Nat := 0
  handedIn : List α := []
  obtained : List α := []
  /-- The packets the producer popped or could not push. -/
  lost : List α := []

/-- What the two producers do differently. -/
structure MakingRoom where
  maximumSize : Nat
  /-- A pop is counted as popped, and not as failed to enqueue. -/
  countsPopped : Bool
  /-- A pop that finds the queue empty ends the loop. -/
  breaksOnEmpty : Bool
deriving DecidableEq, Repr

/-- `Process::addPacketCallback`. -/
def addPacketCallback (mImportQueueMaximumSize : Nat) : MakingRoom where
  maximumSize := mImportQueueMaximumSize
  countsPopped := true
  breaksOnEmpty := true

/-- `DataLinkClientImpl::enqueue`. -/
def enqueue (mMaximumInternalQueueSize : Nat) : MakingRoom where
  maximumSize := mMaximumInternalQueueSize
  countsPopped := false
  breaksOnEmpty := false

namespace BoundedQueue

variable {α : Type}

/-- The producer is handed a packet. -/
def call (q : BoundedQueue α) (packet : α) : Option (BoundedQueue α) :=
  match q.producer with
  | .idle => some { q with producer := .sizing packet, handedIn := q.handedIn ++ [packet] }
  | _ => none

/-- One step of the producer in a call. Whether a push succeeds is up to the queue. -/
def produce (room : MakingRoom) (q : BoundedQueue α) (pushSucceeds : Bool) : Option (BoundedQueue α) :=
  match q.producer with
  | .idle => none
  | .sizing packet =>
    some { q with
      producer := if q.items.length ≥ room.maximumSize then .looping packet else .pushing packet }
  | .looping packet =>
    some { q with
      producer := if q.items.length ≥ room.maximumSize then .counting packet else .pushing packet }
  | .counting packet =>
    if room.countsPopped then
      some { q with producer := .popping packet, packetsPopped := q.packetsPopped + 1 }
    else
      some { q with producer := .popping packet, packetsFailedToEnqueue := q.packetsFailedToEnqueue + 1 }
  | .popping packet =>
    match q.items with
    | [] => some { q with producer := if room.breaksOnEmpty then .pushing packet else .looping packet }
    | oldest :: rest =>
      some { q with items := rest, producer := .looping packet, lost := q.lost ++ [oldest] }
  | .pushing packet =>
    if pushSucceeds then some { q with items := q.items ++ [packet], producer := .idle }
    else
      some { q with
        producer := .idle
        packetsFailedToEnqueue := q.packetsFailedToEnqueue + 1
        lost := q.lost ++ [packet] }

/-- The consumer's pop. -/
def take (q : BoundedQueue α) : Option (α × BoundedQueue α) :=
  match q.items with
  | [] => none
  | oldest :: rest => some (oldest, { q with items := rest, obtained := q.obtained ++ [oldest] })

inductive Action (α : Type)
  | call (packet : α)
  | produce (pushSucceeds : Bool)
  | take
deriving DecidableEq, Repr

/-- A consumer that finds the queue empty changes nothing. -/
def next (room : MakingRoom) (q : BoundedQueue α) : Action α → Option (BoundedQueue α)
  | .call packet => q.call packet
  | .produce pushSucceeds => q.produce room pushSucceeds
  | .take =>
    match q.take with
    | none => some q
    | some (_, q') => some q'

/-! ### What the steps do -/

/-- The packet of the call under way. -/
def inHand (q : BoundedQueue α) : List α :=
  match q.producer with
  | .idle => []
  | .sizing packet | .looping packet | .counting packet | .popping packet | .pushing packet => [packet]

/-- The queue and the packet in hand are a lossy channel. -/
def toFifo (q : BoundedQueue α) : LossyFifo α where
  sent := q.handedIn
  inTransit := q.items ++ q.inHand
  delivered := q.obtained
  lost := q.lost

section

variable {room : MakingRoom} {q q' : BoundedQueue α} {packet : α}

theorem call_eq_some :
    q.call packet = some q' ↔ q.producer = .idle ∧
      q' = { q with producer := .sizing packet, handedIn := q.handedIn ++ [packet] } := by
  unfold call
  split
  · next hidle => simp [hidle, eq_comm]
  · next hbusy => exact ⟨fun h => (nomatch h), fun h => (hbusy h.1).elim⟩

theorem take_eq_some :
    q.take = some (packet, q') ↔ ∃ rest, q.items = packet :: rest ∧
      q' = { q with items := rest, obtained := q.obtained ++ [packet] } := by
  unfold take
  split
  · next hnil => simp [hnil]
  · next oldest rest hcons =>
    rw [hcons]
    constructor
    · intro h
      obtain ⟨rfl, rfl⟩ := Prod.mk.inj (Option.some.inj h)
      exact ⟨rest, rfl, rfl⟩
    · rintro ⟨rest', hrest, rfl⟩
      obtain ⟨rfl, rfl⟩ := List.cons.inj hrest
      rfl

/-- Everything a step of the producer does: it decides, it pops the oldest packet, or it ends the call
with a push that succeeds or fails. -/
theorem produce_cases {pushSucceeds : Bool} (h : q.produce room pushSucceeds = some q') :
    (q'.items = q.items ∧ q'.inHand = q.inHand ∧ q'.lost = q.lost ∧ q'.handedIn = q.handedIn ∧
        q'.obtained = q.obtained ∧ q.inHand ≠ []) ∨
      (∃ packet oldest rest, q.producer = .popping packet ∧ q.items = oldest :: rest ∧
        q' = { q with items := rest, producer := .looping packet, lost := q.lost ++ [oldest] }) ∨
      (∃ packet, q.producer = .pushing packet ∧ pushSucceeds = true ∧
        q' = { q with items := q.items ++ [packet], producer := .idle }) ∨
      ∃ packet, q.producer = .pushing packet ∧ pushSucceeds = false ∧
        q' = { q with
          producer := .idle
          packetsFailedToEnqueue := q.packetsFailedToEnqueue + 1
          lost := q.lost ++ [packet] } := by
  unfold produce at h
  cases hproducer : q.producer with
  | idle => simp [hproducer] at h
  | sizing packet | looping packet =>
    simp only [hproducer] at h
    obtain rfl := Option.some.inj h
    refine Or.inl ⟨rfl, ?_, rfl, rfl, rfl, by simp [inHand, hproducer]⟩
    by_cases hfull : q.items.length ≥ room.maximumSize <;> simp [inHand, hproducer, hfull]
  | counting packet =>
    simp only [hproducer] at h
    split at h <;> obtain rfl := Option.some.inj h <;>
      exact Or.inl ⟨rfl, by simp [inHand, hproducer], rfl, rfl, rfl, by simp [inHand, hproducer]⟩
  | popping packet =>
    simp only [hproducer] at h
    split at h
    · obtain rfl := Option.some.inj h
      refine Or.inl ⟨rfl, ?_, rfl, rfl, rfl, by simp [inHand, hproducer]⟩
      cases hbreaks : room.breaksOnEmpty <;> simp [inHand, hproducer]
    · next oldest rest hitems =>
      exact Or.inr (Or.inl ⟨packet, oldest, rest, rfl, hitems, (Option.some.inj h).symm⟩)
  | pushing packet =>
    simp only [hproducer] at h
    split at h
    · next hsucceeds =>
      exact Or.inr (Or.inr (Or.inl ⟨packet, rfl, hsucceeds, (Option.some.inj h).symm⟩))
    · next hfails =>
      exact Or.inr (Or.inr (Or.inr ⟨packet, rfl, by simpa using hfails, (Option.some.inj h).symm⟩))

/-- The producer in a call does not touch the two ends. -/
theorem produce_frame {pushSucceeds : Bool} (h : q.produce room pushSucceeds = some q') :
    q'.handedIn = q.handedIn ∧ q'.obtained = q.obtained := by
  rcases produce_cases h with ⟨_, _, _, hhandedIn, hobtained, _⟩ | ⟨_, _, _, _, _, rfl⟩ |
    ⟨_, _, _, rfl⟩ | ⟨_, _, _, rfl⟩
  · exact ⟨hhandedIn, hobtained⟩
  all_goals exact ⟨rfl, rfl⟩

/-! ### The queue is a lossy channel -/

theorem inHand_eq_nil : q.inHand = [] ↔ q.producer = .idle := by
  unfold inHand
  cases q.producer <;> simp

theorem call_toFifo (h : q.call packet = some q') :
    Reaches LossyFifo.next q.toFifo q'.toFifo := by
  obtain ⟨hidle, rfl⟩ := call_eq_some.mp h
  have hsend := LossyFifo.reaches_send q.toFifo packet
  simpa [toFifo, inHand, hidle] using hsend

theorem take_toFifo (h : q.take = some (packet, q')) :
    Reaches LossyFifo.next q.toFifo q'.toFifo := by
  obtain ⟨rest, hitems, rfl⟩ := take_eq_some.mp h
  have htransit : q.toFifo.inTransit = packet :: (rest ++ q.inHand) := by
    simp only [toFifo, hitems, List.cons_append]
  exact LossyFifo.reaches_deliver htransit

theorem produce_toFifo {pushSucceeds : Bool} (h : q.produce room pushSucceeds = some q') :
    Reaches LossyFifo.next q.toFifo q'.toFifo := by
  rcases produce_cases h with ⟨hitems, hinHand, hlost, hhandedIn, hobtained, _⟩ |
    ⟨packet, oldest, rest, hproducer, hitems, rfl⟩ | ⟨packet, hproducer, _, rfl⟩ |
    ⟨packet, hproducer, _, rfl⟩
  · have hsame : q'.toFifo = q.toFifo := by
      simp only [toFifo, hitems, hinHand, hlost, hhandedIn, hobtained]
    rw [hsame]
    exact .refl _
  · have htransit : q.toFifo.inTransit = [] ++ oldest :: (rest ++ [packet]) := by
      simp [toFifo, hitems, inHand, hproducer]
    have hlose := LossyFifo.reaches_lose htransit
    exact hlose
  · have hsame : q.toFifo = toFifo { q with items := q.items ++ [packet], producer := .idle } := by
      simp [toFifo, inHand, hproducer]
    rw [hsame]
    exact .refl _
  · have htransit : q.toFifo.inTransit = q.items ++ packet :: [] := by
      simp [toFifo, inHand, hproducer]
    exact LossyFifo.reaches_lose htransit

/-- The queue refines the lossy channel. -/
theorem refines (room : MakingRoom) :
    Refines (next room) LossyFifo.next (@toFifo α) fun _ => True := by
  intro q a q' _ h
  cases a with
  | call packet => exact call_toFifo h
  | produce pushSucceeds => exact produce_toFifo h
  | take =>
    rw [next] at h
    split at h
    · obtain rfl := Option.some.inj h
      exact .refl _
    · next packet mid hmid =>
      obtain rfl := Option.some.inj h
      exact take_toFifo hmid

/-- Reachable queues keep the order and account for every packet. -/
theorem ordered_accounted {as : List (Action α)} (hrun : exec (next room) {} as = some q) :
    q.toFifo.Ordered ∧ q.toFifo.Accounted :=
  LossyFifo.ordered_accounted_of_reaches
    ((refines room).reaches (fun _ _ _ _ _ => trivial) trivial hrun)

/-! ### The loss counters

A pop is counted before it is tried. A pop that finds the queue empty, because the consumer was
faster, was counted all the same. -/

/-- Both counters together. -/
def counted (q : BoundedQueue α) : Nat := q.packetsPopped + q.packetsFailedToEnqueue

/-- One for a pop that is counted and not yet tried. -/
def owed (q : BoundedQueue α) : Nat :=
  match q.producer with
  | .popping _ => 1
  | _ => 0

/-- What the counters say beyond the packets lost. -/
def overcount (q : BoundedQueue α) : Int := q.counted - q.owed - q.lost.length

/-- A pop of the producer, if this step is one, finds a packet. -/
def PopFindsPacket (q : BoundedQueue α) (a : Action α) : Prop :=
  ∀ pushSucceeds packet, a = .produce pushSucceeds → q.producer = .popping packet → q.items ≠ []

instance (q : BoundedQueue α) (a : Action α) : Decidable (q.PopFindsPacket a) :=
  decidable_of_iff
    ((match a, q.producer with
      | .produce _, .popping _ => !q.items.isEmpty
      | _, _ => true) = true) <| by
    cases a <;> cases hproducer : q.producer <;> simp [PopFindsPacket, hproducer]

theorem produce_overcount {pushSucceeds : Bool} (h : q.produce room pushSucceeds = some q') :
    (q.PopFindsPacket (.produce pushSucceeds) → q'.overcount = q.overcount) ∧
      (¬ q.PopFindsPacket (.produce pushSucceeds) → q.overcount < q'.overcount) := by
  have hpop (hnot : ∀ packet, q.producer ≠ .popping packet) :
      q.PopFindsPacket (.produce pushSucceeds) :=
    fun _ packet _ hproducer => absurd hproducer (hnot packet)
  unfold produce at h
  cases hproducer : q.producer with
  | idle => simp [hproducer] at h
  | sizing packet | looping packet =>
    simp only [hproducer] at h
    obtain rfl := Option.some.inj h
    refine ⟨fun _ => ?_, fun hnot => absurd (hpop (by simp [hproducer])) hnot⟩
    by_cases hfull : q.items.length ≥ room.maximumSize <;>
      simp [overcount, counted, owed, hproducer, hfull]
  | counting packet =>
    simp only [hproducer] at h
    refine ⟨fun _ => ?_, fun hnot => absurd (hpop (by simp [hproducer])) hnot⟩
    split at h <;> obtain rfl := Option.some.inj h <;>
      simp only [overcount, counted, owed, hproducer] <;> omega
  | popping packet =>
    simp only [hproducer] at h
    split at h
    · next hitems =>
      obtain rfl := Option.some.inj h
      refine ⟨fun hfinds => absurd hitems (hfinds _ packet rfl hproducer), fun _ => ?_⟩
      cases hbreaks : room.breaksOnEmpty <;> simp [overcount, counted, owed, hproducer]
    · next oldest rest hitems =>
      obtain rfl := Option.some.inj h
      refine ⟨fun _ => ?_, fun hnot => absurd ?_ hnot⟩
      · simp only [overcount, counted, owed, hproducer, List.length_append, List.length_singleton]
        omega
      · intro _ _ _ _
        simp [hitems]
  | pushing packet =>
    simp only [hproducer] at h
    refine ⟨fun _ => ?_, fun hnot => absurd (hpop (by simp [hproducer])) hnot⟩
    split at h <;> obtain rfl := Option.some.inj h <;>
      simp only [overcount, counted, owed, hproducer, List.length_append, List.length_singleton]
    · omega

/-- The counters go ahead of the losses exactly at the pops that find nothing. -/
theorem next_overcount {a : Action α} (h : next room q a = some q') :
    (q.PopFindsPacket a → q'.overcount = q.overcount) ∧
      (¬ q.PopFindsPacket a → q.overcount < q'.overcount) := by
  cases a with
  | call packet =>
    obtain ⟨hidle, rfl⟩ := call_eq_some.mp h
    refine ⟨fun _ => ?_, fun hnot => absurd (fun _ _ ha => by cases ha) hnot⟩
    simp only [overcount, counted, owed, hidle]
  | produce pushSucceeds => exact produce_overcount h
  | take =>
    refine ⟨fun _ => ?_, fun hnot => absurd (fun _ _ ha => by cases ha) hnot⟩
    rw [next] at h
    split at h
    · rw [Option.some.inj h]
    · next packet mid hmid =>
      obtain ⟨rest, _, rfl⟩ := take_eq_some.mp hmid
      rw [← Option.some.inj h]
      rfl

end

/-- The conservation law between two calls: what was handed in was obtained, is in the queue, or was
counted as lost. -/
def Conserved (q : BoundedQueue α) : Prop :=
  q.handedIn.length =
    q.obtained.length + q.items.length + (q.packetsPopped + q.packetsFailedToEnqueue)

instance (q : BoundedQueue α) : Decidable q.Conserved := inferInstanceAs (Decidable (_ = _))

/-- **Loss accounting.** Between two calls the counters account for every packet exactly when every pop
of the producer so far found a packet. -/
theorem conserved_iff (room : MakingRoom) (as : List (Action α)) (q : BoundedQueue α)
    (hrun : exec (next room) {} as = some q) (hidle : q.producer = .idle) :
    q.Conserved ↔ Along (next room) PopFindsPacket {} as := by
  have haccounted := (ordered_accounted hrun).2.length_eq
  simp only [toFifo, inHand_eq_nil.mpr hidle, List.append_nil, List.length_append] at haccounted
  have hmeasure := (along_iff_of_measure (fun s a s' hp h => (next_overcount h).1 hp)
    (fun s a s' hp h => (next_overcount h).2 hp) hrun).2
  rw [← hmeasure]
  have hstart : (overcount ({} : BoundedQueue α)) = 0 := rfl
  simp only [Conserved, overcount, counted, owed, hidle] at hstart ⊢
  omega

/-- Two packets are handed to a queue with room for one, and the consumer takes the one that is left. -/
def evictFirst (first second : Packet) : List (Action Packet) :=
  [.call first, .produce true, .produce true, .call second] ++ List.replicate 6 (.produce true) ++ [.take]

/-- The first packet is counted as lost and the second one is obtained. -/
theorem conserved_iff_known :
    ∃ q, exec (next (addPacketCallback 1)) {}
        (evictFirst (knownPacket .integer32 [5]) (knownPacket .integer32 [6])) = some q ∧
      q.lost.length = 1 ∧ q.packetsPopped = 1 ∧ q.obtained.length = 1 ∧ q.Conserved := by
  have halong : Along (next (addPacketCallback 1)) PopFindsPacket {}
      (evictFirst (knownPacket .integer32 [5]) (knownPacket .integer32 [6])) := by
    decide
  exact ⟨_, rfl, rfl, rfl, rfl, (conserved_iff _ _ _ rfl rfl).mpr halong⟩

/-- Two packets are handed to a queue with room for one, and the consumer takes the first after the
second call has counted it as popped and before it tries to pop. -/
def raceWithConsumer (first second : Packet) : List (Action Packet) :=
  [.call first, .produce true, .produce true, .call second, .produce true, .produce true,
    .produce true, .take, .produce true, .produce true]

/-- The conservation law holds between any two calls in any run. -/
def Conserves (makingRoom : Nat → MakingRoom) : Prop :=
  ∀ (maximumSize : Nat), 1 ≤ maximumSize → ∀ (as : List (Action Packet)) (q : BoundedQueue Packet),
    exec (next (makingRoom maximumSize)) {} as = some q → q.producer = .idle → q.Conserved

/-- Each of the two queues can count a packet as lost that was delivered. -/
theorem not_conserved : ¬ Conserves addPacketCallback ∧ ¬ Conserves enqueue := by
  let race := raceWithConsumer (knownPacket .integer32 [5]) (knownPacket .integer32 [5])
  constructor <;> intro hclaim
  · exact absurd (hclaim 1 (le_refl _) race _ rfl rfl) (by decide)
  · -- `enqueue` tests the size once more
    exact absurd (hclaim 1 (le_refl _) (race ++ [.produce true]) _ rfl rfl) (by decide)

end BoundedQueue

end USEEDLinkToRingServer
