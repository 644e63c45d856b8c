import USEEDLinkToRingServer.PacketInWork

/-!
# A writer is a relay

The records a writer has passed to `dl_write`, and those it has still to pass of the packet in work, are
the records of the packets it has taken from its queue.
-/

namespace USEEDLinkToRingServer

namespace DataLinkClient

variable {lib : Libmseed} {options : WriterOptions} {c c' : DataLinkClient}
  {pending : List (Str × DataLinkPacket)}

/-- What is still to be written of the packet in work. A thread that has thrown writes nothing more,
whatever was left. -/
def Pending (lib : Libmseed) (options : WriterOptions) :
    Writer → List (Str × DataLinkPacket) → Prop
  | .converting packet, pending => pending = writes lib options packet
  | .naming packet dataLinkPackets, pending =>
    toDataLinkPackets lib packet options.packing = .ok dataLinkPackets ∧
      pending = writes lib options packet
  | .writing streamIdentifier rest, pending =>
    pending = (rest.filter (!·.data.isEmpty)).map (streamIdentifier, ·)
  | .threw _, _ => True
  | _, pending => pending = []

theorem pending_nil {writer : Writer} (h : writer.packetInWork = false) :
    Pending lib options writer [] := by
  cases writer with
  | converting packet | naming packet records | writing streamIdentifier records => cases h
  | threw exception => exact trivial
  | _ => rfl

theorem eq_nil_of_pending {writer : Writer} (hwork : writer.packetInWork = false)
    (hrunning : writer.ended = false) (h : Pending lib options writer pending) : pending = [] := by
  cases writer with
  | converting packet | naming packet records | writing streamIdentifier records => cases hwork
  | threw exception => cases hrunning
  | _ => exact h

/-- The calls and what is pending are the records of the packets taken, and what is pending is of the
last of them. -/
structure RelaysWith (lib : Libmseed) (options : WriterOptions) (c : DataLinkClient)
    (pending : List (Str × DataLinkPacket)) : Prop where
  writer : Pending lib options c.writer pending
  calls : c.log.calls.map (·.written) ++ pending = c.queue.obtained.flatMap (writes lib options)
  last : pending = [] ∨ ∃ earlier packet, c.queue.obtained = earlier ++ [packet] ∧
    pending <:+ writes lib options packet

theorem RelaysWith.relays (h : RelaysWith lib options c pending) :
    LossyFifo.Relays (writes lib options) c.queue.obtained (c.log.calls.map (·.written)) := by
  refine ⟨c.queue.obtained, .refl _, ?_⟩
  rcases h.last with rfl | ⟨earlier, packet, hobtained, part, hpart⟩
  · exact Or.inl (by rw [← h.calls, List.append_nil])
  · refine Or.inr ⟨earlier, packet, part, hobtained, ⟨pending, hpart⟩, ?_⟩
    have hcalls := h.calls
    rw [hobtained, List.flatMap_append, List.flatMap_singleton, ← hpart, ← List.append_assoc] at hcalls
    exact List.append_cancel_right hcalls

theorem writes_of_error {packet : Packet} {exception : Exception}
    (h : toDataLinkPackets lib packet options.packing = .error exception ∨
      streamName packet = .error exception) : writes lib options packet = [] := by
  unfold writes
  rcases h with h | h <;> rw [h]
  cases toDataLinkPackets lib packet options.packing <;> rfl

/-- A step that changes neither the calls nor the packets taken, and leaves the same or nothing
pending. -/
theorem RelaysWith.of_same (h : RelaysWith lib options c pending) (hlog : c'.log.calls = c.log.calls)
    (hobtained : c'.queue.obtained = c.queue.obtained) (hwriter : Pending lib options c'.writer pending) :
    RelaysWith lib options c' pending :=
  ⟨hwriter, by rw [hlog, hobtained, h.calls], by rw [hobtained]; exact h.last⟩

theorem RelaysWith.write (h : RelaysWith lib options c pending) (hstep : WriteStep lib options c c') :
    ∃ pending', RelaysWith lib options c' pending' := by
  have hpending := h.writer
  cases hstep with
  | moved writer isConnected hfrom hto hrunning =>
    obtain rfl := eq_nil_of_pending hfrom hrunning hpending
    exact ⟨[], h.of_same rfl rfl (pending_nil hto)⟩
  | took packet queue hdequeuing htake =>
    rw [hdequeuing] at hpending
    obtain rfl : pending = [] := hpending
    obtain ⟨rest, _, rfl⟩ := BoundedQueue.take_eq_some.mp htake
    refine ⟨writes lib options packet, rfl, ?_, Or.inr ⟨_, packet, rfl, List.suffix_refl _⟩⟩
    have hcalls := h.calls
    rw [List.append_nil] at hcalls
    rw [List.flatMap_append, List.flatMap_singleton, hcalls]
  | refused packet exception hconverting herror =>
    rw [hconverting] at hpending
    obtain rfl : pending = [] := hpending.trans (writes_of_error (Or.inl herror))
    exact ⟨[], h.of_same rfl rfl rfl⟩
  | converted packet records hconverting hok =>
    rw [hconverting] at hpending
    exact ⟨pending, h.of_same rfl rfl ⟨hok, hpending⟩⟩
  | unnamed packet records exception hnaming herror =>
    rw [hnaming] at hpending
    obtain rfl : pending = [] := hpending.2.trans (writes_of_error (Or.inr herror))
    exact ⟨[], h.of_same rfl rfl rfl⟩
  | named packet records streamIdentifier hnaming hname =>
    rw [hnaming] at hpending
    exact ⟨pending, h.of_same rfl rfl (hpending.2.trans (writes_of_ok hpending.1 hname))⟩
  | finished streamIdentifier hwriting =>
    rw [hwriting] at hpending
    obtain rfl : pending = [] := hpending
    exact ⟨[], h.of_same rfl rfl rfl⟩
  | skipped streamIdentifier record rest hwriting hempty =>
    rw [hwriting] at hpending
    refine ⟨pending, h.of_same rfl rfl ?_⟩
    simpa [Pending, hempty] using hpending
  | wrote streamIdentifier record rest answer hwriting hnonempty =>
    rw [hwriting] at hpending
    let pending' := (rest.filter (!·.data.isEmpty)).map (streamIdentifier, ·)
    have hsplit : pending = (streamIdentifier, record) :: pending' := by
      simpa [Pending, hnonempty] using hpending
    obtain ⟨call, isConnected, hcall, hcases⟩ :=
      dlWrite_cases (c := c) streamIdentifier record rest answer
    have hwritten : call.written = (streamIdentifier, record) := by rw [hcall, WriteCall.written]
    have hcalls : (c.log.calls ++ [call]).map (·.written) ++ pending' =
        c.queue.obtained.flatMap (writes lib options) := by
      rw [← h.calls, hsplit]
      simp [hwritten]
    have hlast : pending' = [] ∨ ∃ earlier packet, c.queue.obtained = earlier ++ [packet] ∧
        pending' <:+ writes lib options packet := by
      rcases h.last with hnil | ⟨earlier, packet, hobtained, hsuffix⟩
      · cases hsplit.symm.trans hnil
      · refine Or.inr ⟨earlier, packet, hobtained, List.IsSuffix.trans ?_ hsuffix⟩
        rw [hsplit]
        exact List.suffix_cons _ _
    refine ⟨pending', ?_⟩
    rcases hcases with ⟨_, _, heq⟩ | ⟨_, _, heq⟩ | ⟨_, heq⟩ <;> rw [heq]
    · exact ⟨trivial, hcalls, hlast⟩
    · exact ⟨rfl, hcalls, hlast⟩
    · exact ⟨rfl, hcalls, hlast⟩

theorem RelaysWith.other (h : RelaysWith lib options c pending) (hstep : OtherStep c c') :
    RelaysWith lib options c' pending := by
  apply h.of_same (congrArg WriterLog.calls hstep.log) hstep.obtained
  rcases hstep.writer with heq | ⟨hfrom, hto, hrunning, _⟩
  · rw [heq]
    exact h.writer
  · rw [eq_nil_of_pending hfrom hrunning h.writer]
    exact pending_nil hto

/-- When the thread has returned, every record of every packet taken was passed to `dl_write`. -/
theorem RelaysWith.returned (h : RelaysWith lib options c pending) (hreturned : c.writer = .returned) :
    c.log.calls.map (·.written) = c.queue.obtained.flatMap (writes lib options) := by
  have hpending := h.writer
  rw [hreturned] at hpending
  obtain rfl : pending = [] := hpending
  rw [← h.calls, List.append_nil]

end DataLinkClient

end USEEDLinkToRingServer
