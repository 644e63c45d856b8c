import USEEDLinkToRingServer.ActivitySummary
import USEEDLinkToRingServer.PacketObjects
import USEEDLinkToRingServer.StreamNames

/-!
# The names of identifiers

The cached name of an identifier is always that of its parts. Identifiers are compared by it and the metrics
are filed under it, but a part may itself contain the dots that join the parts.
-/

namespace USEEDLinkToRingServer

open Objects

namespace StreamIdentifier

/-! ### The cached name -/

variable {id : StreamIdentifier}

theorem hasParts_iff :
    id.HasParts ↔ id.mNetwork ≠ [] ∧ id.mStation ≠ [] ∧ id.mChannel ≠ [] ∧ id.mHasLocationCode = true := by
  simp [HasParts, hasNetwork, hasStation, hasChannel, hasLocationCode]

theorem joined_ne_nil (id : StreamIdentifier) : id.joined ≠ [] := by
  simp [joined]

theorem Coherent.mString_ne_nil_iff (h : id.Coherent) : id.mString ≠ [] ↔ id.HasParts := by
  rw [h.cache]
  split
  · next hparts => exact iff_of_true (joined_ne_nil id) hparts
  · next hparts => exact iff_of_false (fun hne => hne rfl) hparts

theorem getStringReference_of_hasParts (h : id.Coherent) (hparts : id.HasParts) :
    id.getStringReference = .ok id.joined := by
  have hname : id.mString = id.joined := by rw [h.cache, if_pos hparts]
  have hne : ¬ id.mString.isEmpty = true := by
    rw [hname, List.isEmpty_iff]
    exact joined_ne_nil id
  rw [getStringReference, if_neg hne, hname]

theorem getStringReference_of_not_hasParts (h : id.Coherent) (hparts : ¬ id.HasParts) :
    ∃ e, id.getStringReference = .error e := by
  have hnil : id.mString = [] := by rw [h.cache, if_neg hparts]
  rw [getStringReference, hnil, if_pos List.isEmpty_nil]
  cases hnetwork : id.hasNetwork with
  | false => exact ⟨_, rfl⟩
  | true =>
    cases hstation : id.hasStation with
    | false => exact ⟨_, rfl⟩
    | true =>
      cases hchannel : id.hasChannel with
      | false => exact ⟨_, rfl⟩
      | true =>
        cases hlocation : id.hasLocationCode with
        | false => exact ⟨_, rfl⟩
        | true => exact absurd ⟨hnetwork, hstation, hchannel, hlocation⟩ hparts

/-- The name cannot be had exactly when some part is missing. -/
theorem getStringReference_throws_iff (h : id.Coherent) :
    (∃ e, id.getStringReference = .error e) ↔ ¬ id.HasParts := by
  refine ⟨?_, getStringReference_of_not_hasParts h⟩
  rintro ⟨e, he⟩ hparts
  rw [getStringReference_of_hasParts h hparts] at he
  cases he

/-- A call that throws has changed nothing. -/
theorem call_error {c : IdentifierCall} {e : Exception} (h : (objects.call id c).2 = .error e) :
    (objects.call id c).1 = id := by
  rw [call_eq_attempt] at h ⊢
  exact attempt_error h

end StreamIdentifier

/-! ### Packets have complete identifiers -/

namespace Packet

def HasCompleteIdentifier (p : Packet) : Prop := ∀ id, p.registers.identifier = some id → id.HasParts

theorem keeps_hasCompleteIdentifier : objects.Keeps HasCompleteIdentifier where
  make := by
    intro _ p hmake id hid
    obtain rfl := Except.ok.inj hmake
    cases hid
  call := by
    intro p c h id hid
    rw [registers_call] at hid
    cases c with
    | setStreamIdentifier identifier =>
      by_cases hparts : identifier.HasParts
      · simp only [PacketCall.setsIdentifier, if_pos hparts, Option.getD_some, Option.some.injEq] at hid
        rwa [← hid]
      · simp only [PacketCall.setsIdentifier, if_neg hparts] at hid
        exact h id hid
    | clear => cases hid
    | setSamplingRate _ => exact h id hid
    | setStartTime _ => exact h id hid
    | setStartTimeSeconds _ => exact h id hid
    | setData _ _ => exact h id hid
    | setDataArray _ _ _ => exact h id hid

/-- The identifier of a packet gives its names. -/
theorem HasCompleteIdentifier.names {p : Packet} (h : p.HasCompleteIdentifier)
    (hhas : p.hasStreamIdentifier = true) :
    ∃ id, p.getStreamIdentifierReference = .ok id ∧ (∃ name, id.getStringReference = .ok name) ∧
      ∃ name, toDataLinkIdentifier id = .ok name := by
  have hregister : p.registers.identifier = some p.pImpl.mIdentifier := if_pos hhas
  have hparts := h _ hregister
  refine ⟨p.pImpl.mIdentifier, ?_, ?_, _, toDataLinkIdentifier_of_has hparts⟩
  · rw [getStreamIdentifierReference_eq, hregister]
  · obtain ⟨hnetwork, hstation, hchannel, hlocation⟩ := hparts
    refine ⟨p.pImpl.mIdentifier.mString, ?_⟩
    rw [StreamIdentifier.getStringReference, hnetwork, hstation, hchannel, hlocation]
    split <;> rfl

end Packet

namespace StreamIdentifier

/-- **The cached name is always that of the parts**: whatever a client has called, copied, moved and assigned,
the name of every identifier it holds is there exactly when every part is, and is the joined parts; it can be
had in that case, and in that case only; the parts are in their canonical spelling, and a call that throws
changes nothing. The names of the identifier of a packet that has one can always be had. -/
theorem cached_name {Var : Type} [DecidableEq Var] (s : Var → Option StreamIdentifier)
    (hreached : Machine.Reaches objects.next (fun _ => none) s) (x : Var) (id : StreamIdentifier)
    (hx : s x = some id) :
    (id.mString ≠ [] ↔
      id.mNetwork ≠ [] ∧ id.mStation ≠ [] ∧ id.mChannel ≠ [] ∧ id.mHasLocationCode = true) ∧
    (id.mString ≠ [] →
      id.mString = id.mNetwork ++ '.' :: id.mStation ++ '.' :: id.mChannel ++
        if id.mLocationCode.isEmpty then [] else '.' :: id.mLocationCode) ∧
    (id.HasParts → id.toString = .ok id.mString ∧ id.getStringReference = .ok id.mString) ∧
    ((∃ e, id.toString = .error e) ↔ ¬ id.HasParts) ∧
    ((∃ e, id.getStringReference = .error e) ↔ ¬ id.HasParts) ∧
    (∀ part ∈ [id.mNetwork, id.mStation, id.mChannel, id.mLocationCode],
      ∀ c ∈ part, c ≠ ' ' ∧ c.isLower = false) ∧
    (∀ c e, (objects.call id c).2 = .error e → (objects.call id c).1 = id) ∧
    ∀ (packets : Var → Option Packet), Machine.Reaches Packet.objects.next (fun _ => none) packets →
      ∀ y p, packets y = some p → p.hasStreamIdentifier = true →
        ∃ id, p.getStreamIdentifierReference = .ok id ∧ (∃ name, id.getStringReference = .ok name) ∧
          ∃ name, toDataLinkIdentifier id = .ok name := by
  have hcoherent : id.Coherent := keeps_coherent.live hreached hx
  have hname : id.HasParts → id.getStringReference = .ok id.mString := by
    intro hparts
    rw [getStringReference_of_hasParts hcoherent hparts, hcoherent.cache, if_pos hparts]
  refine ⟨?_, fun hne => ?_, fun hparts => ⟨hname hparts, hname hparts⟩,
    getStringReference_throws_iff hcoherent, getStringReference_throws_iff hcoherent, ?_, fun c e => call_error, ?_⟩
  · rw [hcoherent.mString_ne_nil_iff, hasParts_iff]
  · rw [hcoherent.cache, if_pos (hcoherent.mString_ne_nil_iff.mp hne)]
    rfl
  · intro part hpart
    simp only [List.mem_cons, List.not_mem_nil, or_false] at hpart
    rcases hpart with rfl | rfl | rfl | rfl
    · exact hcoherent.network
    · exact hcoherent.station
    · exact hcoherent.channel
    · exact hcoherent.locationCode
  · intro packets hpackets y p hp hhas
    exact (Packet.keeps_hasCompleteIdentifier.live hpackets hp).names hhas

/-- An identifier made of its parts, and a copy of it that is cleared. -/
def knownCommands : List (Command Bool IdentifierInit IdentifierCall) :=
  [.make true (.parts ['u', 'u'] ['f', 't', 'u'] ['h', 'h', 'n'] [' ', '0', '1']), .copy false true,
    .call false .clear]

/-- A packet that is given a complete identifier. -/
def knownPacketCommands : List (Command Bool Unit PacketCall) :=
  [.make true (), .call true (.setStreamIdentifier
    { mNetwork := ['U', 'U'], mStation := ['F', 'T', 'U'], mChannel := ['H', 'H', 'N'], mHasLocationCode := true })]

/-- The complete identifier gives its name, the cleared one throws, and the packet has the names of its own. -/
theorem cached_name_known :
    ∃ s id cleared, Machine.exec objects.next (fun _ => none) knownCommands = some s ∧ s true = some id ∧
      s false = some cleared ∧ id.mString = knownName ∧ id.toString = .ok id.mString ∧
      (∃ e, cleared.toString = .error e) ∧
      ∃ packets p, Machine.exec Packet.objects.next (fun _ => none) knownPacketCommands = some packets ∧
        packets true = some p ∧ ∃ id, p.getStreamIdentifierReference = .ok id ∧
          (∃ name, id.getStringReference = .ok name) ∧ ∃ name, toDataLinkIdentifier id = .ok name := by
  have hruns : (Machine.exec objects.next (fun _ => none) knownCommands).map
      (fun s => ((s true).map fun id => (id.mString, decide id.HasParts),
        (s false).map fun id => decide id.HasParts)) =
      some (some (knownName, true), some false) := by
    decide +kernel
  have hpacket : (Machine.exec Packet.objects.next (fun _ => none) knownPacketCommands).map
      (fun packets => (packets true).map (·.hasStreamIdentifier)) = some (some true) := by
    decide +kernel
  obtain ⟨s, hrun, hheld⟩ := Option.map_eq_some_iff.mp hruns
  obtain ⟨htrue, hfalse⟩ := Prod.mk.inj hheld
  obtain ⟨id, hid, hstring⟩ := Option.map_eq_some_iff.mp htrue
  obtain ⟨cleared, hcleared, hlacks⟩ := Option.map_eq_some_iff.mp hfalse
  obtain ⟨hstring, hparts⟩ := Prod.mk.inj hstring
  obtain ⟨packets, hpackets, hheld⟩ := Option.map_eq_some_iff.mp hpacket
  obtain ⟨p, hp, hhas⟩ := Option.map_eq_some_iff.mp hheld
  obtain ⟨_, _, hname, _, _, _, _, hnames⟩ := cached_name s ⟨_, hrun⟩ true id hid
  refine ⟨s, id, cleared, hrun, hid, hcleared, hstring, (hname (of_decide_eq_true hparts)).1, ?_,
    packets, p, hpackets, hp, hnames packets ⟨_, hpackets⟩ true p hp hhas⟩
  exact (cached_name s ⟨_, hrun⟩ false cleared hcleared).2.2.2.1.mpr (of_decide_eq_false hlacks)

end StreamIdentifier

end USEEDLinkToRingServer
