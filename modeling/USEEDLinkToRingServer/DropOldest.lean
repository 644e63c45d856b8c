import USEEDLinkToRingServer.BoundedQueue

/-!
# The queues drop the oldest packets

Both queues, from any contents that fit. The queue underneath is taken to be a first-in first-out queue
whose size is exact and whose push succeeds while it holds fewer packets than the maximum.
-/

namespace USEEDLinkToRingServer

open Machine

namespace BoundedQueue

variable {α : Type}

/-- A queue that holds packets which were handed in before. -/
def holding (start : List α) : BoundedQueue α := { items := start, handedIn := start }

/-- What is assumed of the queue underneath. -/
def PushSucceedsBelow (room : MakingRoom) (q : BoundedQueue α) (a : Action α) : Prop :=
  ∀ pushSucceeds packet, a = .produce pushSucceeds → q.producer = .pushing packet →
    q.items.length < room.maximumSize → pushSucceeds = true

/-- A push, if this step is one, succeeds. -/
def PushSucceeds (q : BoundedQueue α) (a : Action α) : Prop :=
  ∀ pushSucceeds packet, a = .produce pushSucceeds → q.producer = .pushing packet → pushSucceeds = true

namespace Action

/-- The packet that a step hands in. -/
def handed : Action α → Option α
  | .call packet => some packet
  | _ => none

/-- A step of the producer in a call. -/
def isProduce : Action α → Bool
  | .produce _ => true
  | _ => false

def isTake : Action α → Bool
  | .take => true
  | _ => false

end Action

variable {room : MakingRoom} {q q' : BoundedQueue α}

/-- A pop of the consumer takes the oldest packet, if there is one. -/
theorem next_take_cases (h : next room q .take = some q') :
    (q.items = [] ∧ q' = q) ∨
      ∃ packet rest, q.items = packet :: rest ∧
        q' = { q with items := rest, obtained := q.obtained ++ [packet] } := by
  rw [next] at h
  split at h
  · next hnone =>
    refine Or.inl ⟨?_, (Option.some.inj h).symm⟩
    unfold take at hnone
    split at hnone
    · next hnil => exact hnil
    · cases hnone
  · next packet mid hmid =>
    obtain rfl := Option.some.inj h
    obtain ⟨rest, hitems, hq'⟩ := take_eq_some.mp hmid
    exact Or.inr ⟨packet, rest, hitems, hq'⟩

/-! ### The bound -/

/-- The queue is never too full, and there is room when the producer comes to push. -/
structure Bounded (room : MakingRoom) (q : BoundedQueue α) : Prop where
  length_le : q.items.length ≤ room.maximumSize
  room_to_push : ∀ packet, q.producer = .pushing packet → q.items.length < room.maximumSize

theorem Bounded.produce {pushSucceeds : Bool} (hroom : 1 ≤ room.maximumSize) (h : q.Bounded room)
    (hstep : q.produce room pushSucceeds = some q') : q'.Bounded room := by
  have hlength := h.length_le
  unfold BoundedQueue.produce at hstep
  cases hproducer : q.producer with
  | idle => simp [hproducer] at hstep
  | sizing packet | looping packet =>
    simp only [hproducer] at hstep
    obtain rfl := Option.some.inj hstep
    refine ⟨hlength, fun packet' hpushing => ?_⟩
    dsimp only at hpushing ⊢
    split at hpushing
    · cases hpushing
    · next hfits => exact not_le.mp hfits
  | counting packet =>
    simp only [hproducer] at hstep
    split at hstep <;> obtain rfl := Option.some.inj hstep <;> exact ⟨hlength, nofun⟩
  | popping packet =>
    simp only [hproducer] at hstep
    split at hstep <;> obtain rfl := Option.some.inj hstep
    · next hitems =>
      refine ⟨hlength, fun _ _ => ?_⟩
      show q.items.length < room.maximumSize
      rw [hitems]
      exact hroom
    · next oldest rest hitems =>
      rw [hitems, List.length_cons] at hlength
      exact ⟨by dsimp only; omega, nofun⟩
  | pushing packet =>
    have hfits := h.room_to_push packet hproducer
    simp only [hproducer] at hstep
    split at hstep <;> obtain rfl := Option.some.inj hstep
    · refine ⟨?_, nofun⟩
      rw [List.length_append, List.length_singleton]
      exact hfits
    · exact ⟨hlength, nofun⟩

theorem Bounded.next {a : Action α} (hroom : 1 ≤ room.maximumSize) (h : q.Bounded room)
    (hstep : BoundedQueue.next room q a = some q') : q'.Bounded room := by
  cases a with
  | call packet =>
    obtain ⟨_, rfl⟩ := call_eq_some.mp hstep
    exact ⟨h.length_le, nofun⟩
  | produce pushSucceeds => exact h.produce hroom hstep
  | take =>
    rcases next_take_cases hstep with ⟨_, rfl⟩ | ⟨packet, rest, hitems, rfl⟩
    · exact h
    · have hlength := h.length_le
      have hpush := h.room_to_push
      rw [hitems, List.length_cons] at hlength hpush
      exact ⟨by dsimp only; omega, fun packet' hpushing => by have := hpush packet' hpushing; dsimp only; omega⟩

/-! ### Every call ends -/

/-- The steps a call still needs at most. -/
def stepsLeft (room : MakingRoom) (q : BoundedQueue α) : Nat :=
  match q.producer with
  | .idle => 0
  | .sizing _ => 3 + 3 * (q.items.length + 1 - room.maximumSize)
  | .looping _ => 2 + 3 * (q.items.length + 1 - room.maximumSize)
  | .counting _ => 4 + 3 * (q.items.length - room.maximumSize)
  | .popping _ => 3 + 3 * (q.items.length - room.maximumSize)
  | .pushing _ => 1

/-- A step of the producer brings the end of the call nearer, whatever was taken in between. -/
theorem produce_stepsLeft {pushSucceeds : Bool} (hroom : 1 ≤ room.maximumSize)
    (hstep : q.produce room pushSucceeds = some q') : q'.stepsLeft room + 1 ≤ q.stepsLeft room := by
  unfold produce at hstep
  cases hproducer : q.producer with
  | idle => simp [hproducer] at hstep
  | sizing packet | looping packet =>
    simp only [hproducer] at hstep
    obtain rfl := Option.some.inj hstep
    by_cases hfull : q.items.length ≥ room.maximumSize <;>
      simp only [stepsLeft, hproducer, hfull, if_true, if_false] <;> omega
  | counting packet =>
    simp only [hproducer] at hstep
    split at hstep <;> obtain rfl := Option.some.inj hstep <;> simp only [stepsLeft, hproducer] <;> omega
  | popping packet =>
    simp only [hproducer] at hstep
    split at hstep <;> obtain rfl := Option.some.inj hstep
    · next hitems =>
      cases hbreaks : room.breaksOnEmpty <;> simp [stepsLeft, hproducer, hitems]
      omega
    · next oldest rest hitems =>
      simp only [stepsLeft, hproducer, hitems, List.length_cons]
      omega
  | pushing packet =>
    simp only [hproducer] at hstep
    split at hstep <;> obtain rfl := Option.some.inj hstep <;> simp [stepsLeft, hproducer]

theorem next_stepsLeft (hroom : 1 ≤ room.maximumSize) {a : Action α} (hcall : a.handed = none)
    (hstep : next room q a = some q') :
    q'.stepsLeft room + (if a.isProduce then 1 else 0) ≤ q.stepsLeft room := by
  cases a with
  | call packet => cases hcall
  | produce pushSucceeds => exact produce_stepsLeft hroom hstep
  | take =>
    rcases next_take_cases hstep with ⟨_, rfl⟩ | ⟨packet, rest, hitems, rfl⟩
    · exact Nat.le_refl _
    · cases hproducer : q.producer <;> simp [stepsLeft, hproducer, hitems, Action.isProduce] <;> omega

/-- A producer in a call can always take a step. -/
theorem produce_isSome (hbusy : q.producer ≠ .idle) (pushSucceeds : Bool) :
    (q.produce room pushSucceeds).isSome = true := by
  unfold produce
  cases hproducer : q.producer with
  | idle => exact absurd hproducer hbusy
  | sizing packet | looping packet => rfl
  | counting packet | popping packet | pushing packet =>
    dsimp only
    split <;> rfl

/-- A call of a bounded queue needs six steps of the producer at most. -/
theorem Bounded.steps_le (hroom : 1 ≤ room.maximumSize) (h : q.Bounded room) {packet : α}
    {during : List (Action α)} (hcalls : ∀ a ∈ during, a.handed = none)
    (hrun : exec (BoundedQueue.next room) q (.call packet :: during) = some q') :
    during.countP (·.isProduce) ≤ 6 := by
  obtain ⟨mid, hcall, hduring⟩ := exec_cons_eq_some.mp hrun
  obtain ⟨_, rfl⟩ := call_eq_some.mp hcall
  have hlength := h.length_le
  have hpaid := measure_add_countP_le (fun _ _ _ hnone hstep => next_stepsLeft hroom hnone hstep)
    (along_of_mem hcalls _) hduring
  simp only [stepsLeft] at hpaid
  omega

/-! ### What is kept -/

/-- The packets that are handed in are those of the calls. -/
theorem handedIn_eq {as : List (Action α)} (hrun : exec (next room) q as = some q') :
    q'.handedIn = q.handedIn ++ as.filterMap Action.handed := by
  induction as generalizing q with
  | nil =>
    obtain rfl := Option.some.inj hrun
    exact (List.append_nil _).symm
  | cons a as ih =>
    obtain ⟨mid, hmid, hrest⟩ := exec_cons_eq_some.mp hrun
    rw [ih hrest]
    cases a with
    | call packet =>
      obtain ⟨_, rfl⟩ := call_eq_some.mp hmid
      simp [Action.handed]
    | produce pushSucceeds =>
      rw [(produce_frame hmid).1]
      rfl
    | take =>
      rcases next_take_cases hmid with ⟨_, rfl⟩ | ⟨packet, rest, _, rfl⟩ <;> rfl

/-- What the consumer obtains is a subsequence of what was handed in. -/
theorem obtained_sublist {start : List α} {as : List (Action α)}
    (hrun : exec (next room) (holding start) as = some q) : q.obtained.Sublist q.handedIn := by
  obtain ⟨steps, hsteps⟩ := (refines room).reaches (fun _ _ _ _ _ => trivial) trivial hrun
  have hinit : (holding start).toFifo.Ordered := by
    simp [LossyFifo.Ordered, toFifo, holding, inHand]
  have hordered := invariant LossyFifo.next_ordered hinit hsteps
  exact (List.sublist_append_left _ _).trans hordered

/-- Without a consumer nothing but the oldest packets are missing, and only as many as there was no room
for. -/
structure KeepsNewest (room : MakingRoom) (q : BoundedQueue α) : Prop where
  handedIn : q.handedIn = q.lost ++ q.items ++ q.inHand
  full : q.lost = [] ∨ room.maximumSize ≤ q.items.length + q.inHand.length
  popping : ∀ packet, q.producer = .counting packet ∨ q.producer = .popping packet →
    room.maximumSize ≤ q.items.length

/-- Without a consumer a queue that was full when the pop was counted is so when it is tried. -/
theorem produce_popping {pushSucceeds : Bool} (hstep : q.produce room pushSucceeds = some q')
    (hfull : ∀ packet, q.producer = .counting packet ∨ q.producer = .popping packet →
      room.maximumSize ≤ q.items.length) (packet : α)
    (hto : q'.producer = .counting packet ∨ q'.producer = .popping packet) :
    room.maximumSize ≤ q'.items.length := by
  unfold produce at hstep
  cases hproducer : q.producer with
  | idle => simp [hproducer] at hstep
  | sizing packet' | looping packet' =>
    simp only [hproducer] at hstep
    obtain rfl := Option.some.inj hstep
    by_cases hlong : q.items.length ≥ room.maximumSize
    · exact hlong
    · simp [hlong] at hto
  | counting packet' =>
    have hlong := hfull packet' (Or.inl hproducer)
    simp only [hproducer] at hstep
    split at hstep <;> obtain rfl := Option.some.inj hstep <;> exact hlong
  | popping packet' =>
    simp only [hproducer] at hstep
    split at hstep <;> obtain rfl := Option.some.inj hstep
    · cases hbreaks : room.breaksOnEmpty <;> simp [hbreaks] at hto
    · simp at hto
  | pushing packet' =>
    simp only [hproducer] at hstep
    split at hstep <;> obtain rfl := Option.some.inj hstep <;> simp at hto

theorem KeepsNewest.produce {pushSucceeds : Bool} (h : q.KeepsNewest room)
    (hpush : q.PushSucceeds (.produce pushSucceeds))
    (hstep : q.produce room pushSucceeds = some q') : q'.KeepsNewest room := by
  have hpopping := produce_popping hstep h.popping
  rcases produce_cases hstep with ⟨hitems, hinHand, hlost, hhandedIn, _⟩ |
    ⟨packet, oldest, rest, hproducer, hitems, rfl⟩ | ⟨packet, hproducer, _, rfl⟩ |
    ⟨packet, hproducer, hfails, rfl⟩
  · refine ⟨?_, ?_, hpopping⟩
    · rw [hitems, hinHand, hlost, hhandedIn]
      exact h.handedIn
    · rw [hitems, hinHand, hlost]
      exact h.full
  · have hhandedIn := h.handedIn
    have hfull := h.popping packet (Or.inr hproducer)
    rw [hitems, List.length_cons] at hfull
    refine ⟨?_, Or.inr hfull, hpopping⟩
    simpa [inHand, hproducer, hitems] using hhandedIn
  · have hhandedIn := h.handedIn
    have hfull := h.full
    simp only [inHand, hproducer, List.length_singleton] at hhandedIn hfull
    refine ⟨?_, ?_, hpopping⟩
    · simpa [inHand] using hhandedIn
    · simpa [inHand] using hfull
  · cases hfails.symm.trans (hpush _ packet rfl hproducer)

theorem KeepsNewest.next {a : Action α} (h : q.KeepsNewest room) (hpush : q.PushSucceeds a)
    (htake : a.isTake = false) (hstep : BoundedQueue.next room q a = some q') :
    q'.KeepsNewest room := by
  cases a with
  | take => cases htake
  | produce pushSucceeds => exact h.produce hpush hstep
  | call packet =>
    obtain ⟨hidle, rfl⟩ := call_eq_some.mp hstep
    have hhandedIn := h.handedIn
    have hfull := h.full
    simp only [inHand, hidle, List.length_nil, Nat.add_zero, List.append_nil] at hhandedIn hfull
    refine ⟨?_, hfull.imp_right fun hlong => Nat.le_add_right_of_le hlong, ?_⟩
    · simp only [inHand, hhandedIn]
    · rintro _ (hcounting | hpopping)
      · cases hcounting
      · cases hpopping

/-- Between two calls the queue holds the last packets that were handed in, as many as there is room
for. -/
theorem KeepsNewest.items_eq (h : q.KeepsNewest room) (hbounded : q.Bounded room)
    (hidle : q.producer = .idle) :
    q.items = q.handedIn.drop (q.handedIn.length - room.maximumSize) := by
  have hhandedIn := h.handedIn
  have hfull := h.full
  have hlength := hbounded.length_le
  simp only [inHand, hidle, List.length_nil, Nat.add_zero, List.append_nil] at hhandedIn hfull
  have hlost : q.handedIn.length - room.maximumSize = q.lost.length := by
    rw [hhandedIn, List.length_append]
    rcases hfull with hnone | hlong
    · rw [hnone, List.length_nil]
      omega
    · omega
  rw [hlost, hhandedIn, List.drop_left]

/-! ### Every run -/

theorem bounded_holding {start : List α} (hstart : start.length ≤ room.maximumSize) :
    (holding start).Bounded room := ⟨hstart, nofun⟩

theorem keepsNewest_holding (start : List α) : (holding start).KeepsNewest room :=
  ⟨(List.append_nil _).symm, Or.inl rfl, nofun⟩

/-- With a queue underneath that behaves as assumed, every push of a bounded queue succeeds. -/
theorem Bounded.pushSucceeds {a : Action α} (h : q.Bounded room) (hbelow : q.PushSucceedsBelow room a) :
    q.PushSucceeds a := fun pushSucceeds packet ha hpushing =>
  hbelow pushSucceeds packet ha hpushing (h.room_to_push packet hpushing)

/-- **Bounded queues that drop the oldest packets**, whichever of the two producers makes room, and whatever
number of packets there is room for. In every run the queue holds at most as many packets
as there is room for, every push succeeds, and the consumer obtains a subsequence of what was handed in.
A producer in a call can always go on, and six steps end the call. Without a consumer the queue holds the
last packets handed in between any two calls. -/
theorem drops_oldest (room : MakingRoom) (hroom : 1 ≤ room.maximumSize) (start : List α)
    (hstart : start.length ≤ room.maximumSize) (as : List (Action α)) (q : BoundedQueue α)
    (hrun : exec (next room) (holding start) as = some q)
    (hbelow : Along (next room) (PushSucceedsBelow room) (holding start) as) :
    q.items.length ≤ room.maximumSize ∧
      Along (next room) PushSucceeds (holding start) as ∧
      q.handedIn = start ++ as.filterMap Action.handed ∧
      q.obtained.Sublist q.handedIn ∧
      (q.producer ≠ .idle → ∀ pushSucceeds, (q.produce room pushSucceeds).isSome = true) ∧
      (∀ before packet during, as = before ++ .call packet :: during →
        (∀ a ∈ during, a.handed = none) → during.countP (·.isProduce) ≤ 6) ∧
      ((∀ a ∈ as, a.isTake = false) → q.producer = .idle →
        q.items = q.handedIn.drop (q.handedIn.length - room.maximumSize)) := by
  have hstep (s : BoundedQueue α) (a : Action α) (s' : BoundedQueue α) (hs : s.Bounded room)
      (hnext : next room s a = some s') : s'.Bounded room := hs.next hroom hnext
  have hbounded : q.Bounded room := invariant hstep (bounded_holding hstart) hrun
  have hpush : Along (next room) PushSucceeds (holding start) as :=
    hbelow.mono hstep (fun _ _ hs => hs.pushSucceeds) (bounded_holding hstart)
  refine ⟨hbounded.length_le, hpush, handedIn_eq hrun, obtained_sublist hrun, produce_isSome, ?_, ?_⟩
  · rintro before packet during rfl hcalls
    obtain ⟨mid, hbefore, hcall⟩ := exec_append.mp hrun
    exact (invariant hstep (bounded_holding hstart) hbefore).steps_le hroom hcalls hcall
  · intro htakes hidle
    have hkeeps : q.KeepsNewest room :=
      invariant_along (fun _ _ _ hp hs hnext => hs.next hp.1 hp.2 hnext) (keepsNewest_holding start)
        (hpush.and (along_of_mem htakes _)) hrun
    exact hkeeps.items_eq hbounded hidle

/-- Two packets are handed to a queue with room for one, and there is no consumer. -/
def handTwo (first second : α) : List (Action α) :=
  [.call first, .produce true, .produce true, .call second, .produce true, .produce true,
    .produce true, .produce true, .produce true, .produce true]

/-- The import queue keeps the second packet. -/
theorem drops_oldest_known :
    ∃ q, exec (next (addPacketCallback 1)) (holding [])
        (handTwo (knownPacket .integer32 [5]) (knownPacket .integer32 [6])) = some q ∧
      q.items = [knownPacket .integer32 [6]] := by
  let as := handTwo (knownPacket .integer32 [5]) (knownPacket .integer32 [6])
  have hrun : ∃ q, exec (next (addPacketCallback 1)) (holding []) as = some q ∧ q.producer = .idle ∧
      q.handedIn = [knownPacket .integer32 [5], knownPacket .integer32 [6]] := ⟨_, rfl, rfl, rfl⟩
  obtain ⟨q, hrun, hidle, hhandedIn⟩ := hrun
  have hpushes : ∀ a ∈ as, (∀ pushSucceeds, a = .produce pushSucceeds → pushSucceeds = true) ∧
      a.isTake = false := by
    simp [as, handTwo, Action.isTake]
  have hbelow : Along (next (addPacketCallback 1)) (PushSucceedsBelow (addPacketCallback 1)) (holding []) as :=
    (along_of_mem (fun a ha => (hpushes a ha).1) _).mono (I := fun _ => True) (fun _ _ _ _ _ => trivial)
      (fun _ _ _ htrue pushSucceeds _ ha _ _ => htrue pushSucceeds ha) trivial
  have hall := drops_oldest (addPacketCallback 1) (le_refl _) [] (Nat.zero_le _) as q hrun hbelow
  refine ⟨q, hrun, ?_⟩
  rw [hall.2.2.2.2.2.2 (fun a ha => (hpushes a ha).2) hidle, hhandedIn]
  rfl

end BoundedQueue

end USEEDLinkToRingServer
