import USEEDLinkToRingServer.RecordWalk

/-!
# The records that are freed

The reader frees each record by hand: at the end of the loop body and before the exceptions that it throws
itself. An exception of a function that the body calls leaves the loop without it.
-/

namespace USEEDLinkToRingServer

open Machine

/-- The records handed out are freed once each, and nothing else is. -/
def Walk.Released (walk : Walk) : Prop :=
  ∀ k, walk.freed.count k = if k < walk.handedOut.length then 1 else 0

/-- The contents of a record that no function called by the loop body refuses: codes that are not blank, a
positive rate, and an address where there are samples to copy. -/
structure Unrefused (lib : Libmseed) (record : MS3Record) : Prop where
  codes : ∀ nslc, lib.msSid2nslc record.sid = some nslc → nslc.NonBlank ∧ 0 < record.samprate
  samples : (∃ nslc, lib.msSid2nslc record.sid = some nslc) → 0 < castToInt record.numsamples →
    record.sampletype ∈ ['i', 'f', 'd'] → record.datasamples ≠ .null

/-! ### Which exceptions leave a record -/

section

variable {lib : Libmseed} {record : MS3Record} {packet : Packet} {nslc : Nslc}

/-- Every exception but those of the callees comes after the record was freed. -/
def Frees {α : Type} (result : Except Rejection α) : Prop :=
  ∀ rejection, result = .error rejection → rejection.freed = true

theorem not_frees_unfreed_error {α : Type} (e : Exception) : ¬ Frees (unfreed (.error e : Except Exception α)) :=
  fun h => Bool.false_ne_true (h ⟨e, false⟩ rfl)

theorem frees_ok {α : Type} (a : α) : Frees (.ok a : Except Rejection α) := by
  rintro rejection ⟨⟩

theorem Samples.as_eq_none_iff {u : SampleType} {samples : Samples} : samples.as u = none ↔ samples = .null := by
  cases samples with
  | null => exact iff_of_true rfl rfl
  | of v values =>
    refine iff_of_false (fun h => ?_) Samples.noConfusion
    rw [Samples.as] at h
    split at h <;> cases h

/-- A copy of the samples is refused only if they have no address. -/
theorem frees_setDataArray_iff {u : SampleType} {nSamples : Int} (hcount : 0 < nSamples) :
    Frees (unfreed (packet.setDataArray u nSamples (record.datasamples.as u))) ↔
      record.datasamples ≠ .null := by
  simp only [Packet.setDataArray, if_neg (not_lt.mpr hcount.le)]
  rw [ne_eq, ← Samples.as_eq_none_iff (u := u)]
  cases record.datasamples.as u with
  | none => exact iff_of_false (not_frees_unfreed_error _) (fun h => h rfl)
  | some values => exact iff_of_true (frees_ok _) nofun

theorem frees_unpackSamples_iff :
    Frees (unpackSamples record packet) ↔
      (0 < castToInt record.numsamples → record.sampletype ∈ ['i', 'f', 'd'] →
        record.datasamples ≠ .null) := by
  unfold unpackSamples
  dsimp only
  split
  · next hcount =>
    rw [forall_prop_of_true hcount]
    split
    · next htype =>
      rw [frees_setDataArray_iff hcount, forall_prop_of_true (by rw [htype]; decide)]
    · split
      · next htype =>
        rw [frees_setDataArray_iff hcount, forall_prop_of_true (by rw [htype]; decide)]
      · split
        · next htype =>
          rw [frees_setDataArray_iff hcount, forall_prop_of_true (by rw [htype]; decide)]
        · next hi hf hd =>
          have hother : record.sampletype ∉ ['i', 'f', 'd'] := by simp [hi, hf, hd]
          refine iff_of_true ?_ fun htype => absurd htype hother
          rintro rejection ⟨⟩
          rfl
  · next hnone => exact iff_of_true (frees_ok _) fun hcount => absurd hcount hnone

theorem frees_unpackRecord_iff : Frees (unpackRecord lib record) ↔ Unrefused lib record := by
  cases hnslc : lib.msSid2nslc record.sid with
  | none =>
    have hnone : ¬ ∃ nslc, lib.msSid2nslc record.sid = some nslc := by simp [hnslc]
    refine iff_of_true ?_ ⟨fun nslc h => absurd ⟨nslc, h⟩ hnone, fun h => absurd h hnone⟩
    simp only [unpackRecord, hnslc]
    rintro rejection ⟨⟩
    rfl
  | some nslc =>
    by_cases hdescribed : nslc.NonBlank ∧ 0 < record.samprate
    · rw [unpackRecord_of_described hnslc hdescribed.1 hdescribed.2, frees_unpackSamples_iff]
      refine ⟨fun h => ⟨fun other hother => ?_, fun _ => h⟩, fun h => h.samples ⟨nslc, hnslc⟩⟩
      obtain rfl := Option.some.inj (hnslc.symm.trans hother)
      exact hdescribed
    · obtain ⟨exception, herror⟩ := unpackRecord_of_refused hnslc hdescribed
      refine iff_of_false (fun h => ?_) fun h => hdescribed (h.codes nslc hnslc)
      exact Bool.false_ne_true (h _ herror)

end

/-! ### The loop -/

section

variable {lib : Libmseed} {buffer : Bytes} {bufferSize : Int32} {walk walk' : Walk}
  {result : Except Exception (List Packet)}

/-- The record that the loop body is handed in a state. -/
def Parses (lib : Libmseed) (buffer : Bytes) (bufferSize : Int32) (walk : Walk) (record : MS3Record) : Prop :=
  lib.MINRECLEN < u64Sub (bufferLength bufferSize) walk.offset ∧
    lib.msr3Parse (offered buffer bufferSize walk) true = ⟨MS_NOERROR, some record⟩

/-- All records handed out so far are freed, in their order. -/
def Walk.AllFreed (walk : Walk) : Prop := walk.freed = List.range walk.handedOut.length

theorem Walk.AllFreed.released (h : walk.AllFreed) : walk.Released := by
  intro k
  rw [h, List.count_range]

theorem nextTurn_allFreed (walk : Walk) (a : Unit) (walk' : Walk) (h : walk.AllFreed)
    (hnext : nextTurn lib buffer bufferSize walk a = some walk') : walk'.AllFreed := by
  obtain ⟨_, record, packet, _, _, rfl⟩ := turn_again (nextTurn_eq_some.mp hnext)
  show walk.freed ++ [walk.handedOut.length] = List.range (walk.handedOut ++ [record]).length
  rw [h, List.length_append, List.length_singleton, List.range_succ]

/-- One more record is handed out and freed. -/
theorem Walk.AllFreed.free (h : walk.AllFreed) (record : MS3Record) :
    ({ walk with handedOut := walk.handedOut ++ [record] } : Walk).free.AllFreed := by
  show walk.freed ++ [(walk.handedOut ++ [record]).length - 1] =
    List.range (walk.handedOut ++ [record]).length
  rw [h, List.length_append, List.length_singleton, List.range_succ, Nat.add_sub_cancel]

/-- One more record is handed out and not freed. -/
theorem Walk.AllFreed.not_released (h : walk.AllFreed) (record : MS3Record) :
    ¬ ({ walk with handedOut := walk.handedOut ++ [record] } : Walk).Released := by
  intro hreleased
  have hlast := hreleased walk.handedOut.length
  rw [h, List.count_range, if_neg (lt_irrefl _), List.length_append, List.length_singleton,
    if_pos (Nat.lt_succ_self _)] at hlast
  cases hlast

/-- The last turn leaves a record exactly when a callee refused it. -/
theorem released_of_leave_iff (h : walk.AllFreed)
    (hleave : turn lib buffer bufferSize walk = .leave result walk') :
    walk'.Released ↔ ∀ record, Parses lib buffer bufferSize walk record → Unrefused lib record := by
  unfold turn at hleave
  split at hleave
  · next htest =>
    split at hleave
    · next returnCode hparse =>
      have hwalk : walk' = walk := by
        split at hleave <;> exact (Turn.leave.inj hleave).2.symm
      rw [hwalk]
      refine iff_of_true h.released fun record hrecord => ?_
      obtain ⟨_, hparsed⟩ := hrecord
      rw [hparse] at hparsed
      cases hparsed
    · next returnCode record hparse =>
      dsimp only at hleave
      split at hleave
      · next hok =>
        have hrecord : ∀ other, Parses lib buffer bufferSize walk other ↔ other = record := by
          intro other
          rw [Parses, hparse, hok]
          simp only [ParseResult.mk.injEq, Option.some.injEq, true_and]
          exact (and_iff_right htest).trans eq_comm
        simp only [hrecord, forall_eq, ← frees_unpackRecord_iff]
        split at hleave
        · next rejection hrejected =>
          obtain ⟨_, rfl⟩ := Turn.leave.inj hleave
          cases hfreed : rejection.freed with
          | true =>
            refine iff_of_true (h.free record).released fun other hother => ?_
            obtain rfl := Except.error.inj (hrejected.symm.trans hother)
            exact hfreed
          | false =>
            refine iff_of_false (h.not_released record) fun hfrees => ?_
            rw [hfrees rejection hrejected] at hfreed
            cases hfreed
        · cases hleave
      · next herror =>
        obtain ⟨_, rfl⟩ := Turn.leave.inj hleave
        refine iff_of_true (h.free record).released fun other hother => ?_
        obtain ⟨_, hparsed⟩ := hother
        rw [hparse] at hparsed
        exact absurd (congrArg ParseResult.returnCode hparsed) herror
  · next hdone =>
    obtain ⟨_, rfl⟩ := Turn.leave.inj hleave
    exact iff_of_true h.released fun record hrecord => absurd hrecord.1 hdone

/-- **Every record is freed** when the loop is left, however that is, exactly when no record that it comes
to is refused by a function that the loop body calls. -/
theorem records_released_iff (lib : Libmseed) (buffer : Bytes) (bufferSize : Int32) (fuel : Nat)
    (result : Except Exception (List Packet)) (walk : Walk)
    (hexit : walkRecords lib buffer bufferSize fuel {} = some (result, walk)) :
    walk.Released ↔ ∀ reached record, Reaches (nextTurn lib buffer bufferSize) {} reached →
      Parses lib buffer bufferSize reached record → Unrefused lib record := by
  have hallFreed : ∀ reached, Reaches (nextTurn lib buffer bufferSize) {} reached → reached.AllFreed := by
    rintro reached ⟨turns, hrun⟩
    have hinit : Walk.AllFreed {} := rfl
    exact invariant nextTurn_allFreed hinit hrun
  obtain ⟨last, hlast, hleave⟩ := walkRecords_reaches hexit
  constructor
  · intro hreleased reached record hreached hparses
    cases hturn : turn lib buffer bufferSize reached with
    | again next =>
      obtain ⟨_, other, packet, hparse, hunpack, _⟩ := turn_again hturn
      obtain rfl := Option.some.inj (ParseResult.mk.inj (hparses.2.symm.trans hparse)).2
      rw [← frees_unpackRecord_iff, hunpack]
      exact frees_ok packet
    | leave result' walk' =>
      -- the loop has one way out, so this is the turn that left
      have hleft : walkRecords lib buffer bufferSize fuel {} ≠ none := by
        rw [hexit]
        exact Option.some_ne_none _
      have hsame := walkRecords_eq_of_leave hreached hturn hleft
      obtain ⟨_, rfl⟩ := Prod.mk.inj (Option.some.inj (hexit.symm.trans hsame))
      exact (released_of_leave_iff (hallFreed reached hreached) hturn).mp hreleased record hparses
  · intro hnone
    exact (released_of_leave_iff (hallFreed last hlast) hleave).mpr fun record => hnone last record hlast

end

theorem records_released_iff_known :
    ∃ result walk,
      walkRecords (.knowing knownRecord knownNames) knownRecord.bytes 64 65 {} = some (result, walk) ∧
      (walk.Released ↔ ∀ reached record,
        Reaches (nextTurn (.knowing knownRecord knownNames) knownRecord.bytes 64) {} reached →
          Parses (.knowing knownRecord knownNames) knownRecord.bytes 64 reached record →
            Unrefused (.knowing knownRecord knownNames) record) := by
  have hexit : ∃ result walk,
      walkRecords (.knowing knownRecord knownNames) knownRecord.bytes 64 65 {} = some (result, walk) :=
    ⟨_, _, rfl⟩
  obtain ⟨result, walk, hexit⟩ := hexit
  exact ⟨result, walk, hexit, records_released_iff _ _ _ _ result walk hexit⟩

/-- The known record with a sample every ten seconds, which its header states as a negative rate. -/
def knownPeriodRecord : KnownRecord where
  bytes :=
    [77, 83, 3, 0, 1, 0, 0, 0, 233, 7, 25, 1, 19, 48, 7, 3, 0, 0, 0, 0, 0, 0, 36, 192, 1, 0, 0, 0,
      154, 79, 135, 205, 1, 20, 0, 0, 4, 0, 0, 0, 70, 68, 83, 78, 58, 85, 85, 95, 70, 84, 85, 95,
      48, 49, 95, 72, 95, 72, 95, 78, 5, 0, 0, 0]
  record := { knownRecord.record with samprate := -10 }

/-- Its rate is refused, and it is never freed. -/
theorem records_not_released :
    ¬ ∀ (lib : Libmseed) (buffer : Bytes) (bufferSize : Int32) (fuel : Nat)
        (result : Except Exception (List Packet)) (walk : Walk),
      walkRecords lib buffer bufferSize fuel {} = some (result, walk) → walk.Released := by
  intro hclaim
  have hrun : (walkRecords (.knowing knownPeriodRecord knownNames) knownPeriodRecord.bytes 64 65 {}).map
      (fun exit => (exit.2.handedOut.length, exit.2.freed)) = some (1, []) := by decide +kernel
  obtain ⟨⟨result, walk⟩, hexit, hwalk⟩ := Option.map_eq_some_iff.mp hrun
  obtain ⟨hhanded, hfreed⟩ := Prod.mk.inj hwalk
  have hfirst := hclaim _ _ _ _ result walk hexit 0
  rw [hfreed, hhanded] at hfirst
  cases hfirst

end USEEDLinkToRingServer
