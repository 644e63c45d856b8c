import USEEDLinkToRingServer.Library.Separated
import USEEDLinkToRingServer.IdentifierNames

/-!
# When identifiers are equal

Identifiers are equal, ordered and counted by their joined names. These show the pieces between the dots and
not which of them make up a part, so two streams are taken for one when a dot that joins two parts of the one
is inside a part of the other.
-/

namespace USEEDLinkToRingServer

open Objects

namespace StreamIdentifier

/-- `operator==`. -/
def equal (lhs rhs : StreamIdentifier) : Except Exception Bool := do
  return (← lhs.getStringReference) == (← rhs.getStringReference)

/-- `operator<`. -/
def less (lhs rhs : StreamIdentifier) : Except Exception Bool := do
  return stringLess (← lhs.getStringReference) (← rhs.getStringReference)

/-! ### Names and parts -/

/-- The parts that are joined: an empty location code is left out. -/
def nameParts (id : StreamIdentifier) : List Str :=
  [id.mNetwork, id.mStation, id.mChannel] ++ if id.mLocationCode.isEmpty then [] else [id.mLocationCode]

variable {a b c : StreamIdentifier}

theorem nameParts_ne_nil (id : StreamIdentifier) : id.nameParts ≠ [] := List.cons_ne_nil _ _

theorem joined_eq (id : StreamIdentifier) : id.joined = ['.'].intercalate id.nameParts := by
  rw [joined, nameParts]
  cases id.mLocationCode with
  | nil => simp
  | cons c cs => simp

theorem sameParts_iff : SameParts a b ↔ a.nameParts = b.nameParts := by
  constructor
  · rintro ⟨hnetwork, hstation, hchannel, hlocation⟩
    rw [nameParts, nameParts, hnetwork, hstation, hchannel, hlocation]
  · intro h
    simp only [nameParts, List.cons_append, List.nil_append, List.cons.injEq] at h
    obtain ⟨hnetwork, hstation, hchannel, hlocation⟩ := h
    refine ⟨hnetwork, hstation, hchannel, ?_⟩
    cases ha : a.mLocationCode with
    | nil =>
      cases hb : b.mLocationCode with
      | nil => rfl
      | cons d ds => simp [ha, hb] at hlocation
    | cons c cs =>
      cases hb : b.mLocationCode with
      | nil => simp [ha, hb] at hlocation
      | cons d ds => simpa [ha, hb] using hlocation

/-- The name shows the pieces of the parts. -/
theorem joined_eq_iff :
    a.joined = b.joined ↔ Separated.pieces '.' a.nameParts = Separated.pieces '.' b.nameParts := by
  rw [joined_eq, joined_eq, Separated.intercalate_eq_iff (nameParts_ne_nil a) (nameParts_ne_nil b)]

/-! ### The operators compare the names -/

section Operators

variable (ha : a.Coherent) (hb : b.Coherent) (hpa : a.HasParts) (hpb : b.HasParts)
include ha hb hpa hpb

theorem equal_eq : a.equal b = .ok (a.joined == b.joined) := by
  rw [equal, getStringReference_of_hasParts ha hpa, getStringReference_of_hasParts hb hpb]
  rfl

theorem less_eq : a.less b = .ok (stringLess a.joined b.joined) := by
  rw [less, getStringReference_of_hasParts ha hpa, getStringReference_of_hasParts hb hpb]
  rfl

theorem equal_iff : a.equal b = .ok true ↔ a.joined = b.joined := by
  rw [equal_eq ha hb hpa hpb, Except.ok.injEq, beq_iff_eq]

theorem tie_iff : (a.less b = .ok false ∧ b.less a = .ok false) ↔ a.joined = b.joined := by
  rw [less_eq ha hb hpa hpb, less_eq hb ha hpb hpa, Except.ok.injEq, Except.ok.injEq, stringLess_tie_iff]

theorem less_trans (hc : c.Coherent) (hpc : c.HasParts) (hab : a.less b = .ok true)
    (hbc : b.less c = .ok true) : a.less c = .ok true := by
  rw [less_eq ha hb hpa hpb, Except.ok.injEq] at hab
  rw [less_eq hb hc hpb hpc, Except.ok.injEq] at hbc
  rw [less_eq ha hc hpa hpc, stringLess_trans hab hbc]

end Operators

end StreamIdentifier

/-! ### The metrics of two packets -/

namespace MetricsStore

/-- An update that returns counts the packet for the stream with its name. -/
theorem update_runningOf {s : MetricsStore} {packet : Packet} {now later : Int} {name : Str}
    (hname : packetName packet = .ok name) (hok : (s.update packet now later).2 = .ok ()) (name' : Str) :
    (s.update packet now later).1.runningOf name' = s.runningOf name' + if name' = name then 1 else 0 := by
  have hcases := update_cases s packet now later
  generalize s.update packet now later = result at hcases hok ⊢
  cases hcases with
  | failed o e hcounter => cases hok
  | counted o m time hcounter hnamed htime hstream =>
    obtain rfl := Except.ok.inj (hname.symm.trans hnamed)
    have hbefore : s.runningOf m.mName = m.running .total := by
      rcases hstream with hold | ⟨hnone, hnew⟩
      · exact runningOf_of_some hold
      · rw [runningOf_of_none hnone, (StreamMetrics.named_fresh hnew).2.2]
    rw [runningOf, setStream, AListSum.value_insert]
    split
    · next hsame =>
      rw [hsame, hbefore, StreamMetrics.count_running, if_pos (Branch.counts_total _)]
    · exact (Int.add_zero _).symm

/-- Both packets are counted for one stream exactly when their names are the same. -/
theorem counted_together_iff {s : MetricsStore} {p q : Packet} {now later now' later' : Int} {name name' : Str}
    (hp : packetName p = .ok name) (hq : packetName q = .ok name')
    (hokp : (s.update p now later).2 = .ok ())
    (hokq : ((s.update p now later).1.update q now' later').2 = .ok ()) :
    (∃ stream, ((s.update p now later).1.update q now' later').1.runningOf stream =
      s.runningOf stream + 2) ↔ name = name' := by
  constructor
  · rintro ⟨stream, hstream⟩
    rw [update_runningOf hq hokq, update_runningOf hp hokp] at hstream
    by_cases hname : stream = name
    · by_cases hname' : stream = name'
      · rw [← hname, ← hname']
      · rw [if_pos hname, if_neg hname'] at hstream
        omega
    · rw [if_neg hname] at hstream
      split at hstream <;> omega
  · rintro rfl
    refine ⟨name, ?_⟩
    rw [update_runningOf hq hokq, update_runningOf hp hokp, if_pos rfl]
    omega

end MetricsStore

/-! ### Equal identifiers and equal streams -/

namespace StreamIdentifier

/-- The operators and the metrics tell two identifiers apart exactly when a part is different. -/
structure Identifies (a b : StreamIdentifier) : Prop where
  equal : a.equal b = .ok true ↔ SameParts a b
  irreflexive : a.less a = .ok false
  transitive : ∀ c : StreamIdentifier, objects.Reachable c → c.HasParts →
    a.less b = .ok true → b.less c = .ok true → a.less c = .ok true
  ties : (a.less b = .ok false ∧ b.less a = .ok false) ↔ SameParts a b
  metrics : ∀ (s : MetricsStore) (p q : Packet) (now later now' later' : Int),
    p.getStreamIdentifierReference = .ok a → q.getStreamIdentifierReference = .ok b →
    (s.update p now later).2 = .ok () → ((s.update p now later).1.update q now' later').2 = .ok () →
    ((∃ stream, ((s.update p now later).1.update q now' later').1.runningOf stream =
      s.runningOf stream + 2) ↔ SameParts a b)

variable {a b : StreamIdentifier}

/-- Everything is decided by whether the names are the same. -/
theorem identifies_iff_joined (ha : a.Coherent) (hb : b.Coherent) (hpa : a.HasParts) (hpb : b.HasParts) :
    a.Identifies b ↔ (a.joined = b.joined ↔ SameParts a b) := by
  constructor
  · intro h
    rw [← equal_iff ha hb hpa hpb]
    exact h.equal
  · intro h
    refine ⟨?_, ?_, ?_, ?_, ?_⟩
    · rwa [equal_iff ha hb hpa hpb]
    · rw [less_eq ha ha hpa hpa, stringLess_irrefl]
    · intro c hc hpc
      exact less_trans ha hb hpa hpb (keeps_coherent.reachable hc) hpc
    · rwa [tie_iff ha hb hpa hpb]
    · intro s p q now later now' later' hp hq hokp hokq
      have hname : packetName p = .ok a.joined := by
        rw [packetName, hp]
        exact getStringReference_of_hasParts ha hpa
      have hname' : packetName q = .ok b.joined := by
        rw [packetName, hq]
        exact getStringReference_of_hasParts hb hpb
      rwa [MetricsStore.counted_together_iff hname hname' hokp hokq]

/-- **Equality identifies streams exactly when the dots in the parts do not matter**: two complete identifiers
are equal, tie in the order and are counted together just when their parts are the same, if and only if the
pieces between the dots of the one are not those of the other, or each part consists of as many of them. -/
theorem identifies_iff (a b : StreamIdentifier) (ha : objects.Reachable a) (hb : objects.Reachable b)
    (hpa : a.HasParts) (hpb : b.HasParts) :
    a.Identifies b ↔ Separated.pieces '.' a.nameParts ≠ Separated.pieces '.' b.nameParts ∨
      Separated.pieceCounts '.' a.nameParts = Separated.pieceCounts '.' b.nameParts := by
  have hparts : SameParts a b ↔
      Separated.pieces '.' a.nameParts = Separated.pieces '.' b.nameParts ∧
        Separated.pieceCounts '.' a.nameParts = Separated.pieceCounts '.' b.nameParts :=
    sameParts_iff.trans Separated.parts_eq_iff
  rw [identifies_iff_joined (keeps_coherent.reachable ha) (keeps_coherent.reachable hb) hpa hpb, joined_eq_iff,
    hparts]
  constructor
  · intro h
    by_cases hpieces : Separated.pieces '.' a.nameParts = Separated.pieces '.' b.nameParts
    · exact .inr (h.mp hpieces).2
    · exact .inl hpieces
  · rintro (hpieces | hcounts)
    · exact iff_of_false hpieces fun h => hpieces h.1
    · exact ⟨fun hpieces => ⟨hpieces, hcounts⟩, And.left⟩

/-- An identifier as the constructor from the parts makes it. -/
def knownIdentifier (network station channel locationCode : Str) : StreamIdentifier :=
  { mNetwork := network
    mStation := station
    mChannel := channel
    mLocationCode := locationCode
    mHasLocationCode := true : StreamIdentifier }.setString

/-- The two horizontal channels of a station are told apart. -/
theorem identifies_iff_known :
    (knownIdentifier ['U', 'U'] ['F', 'T', 'U'] ['H', 'H', 'N'] ['0', '1']).Identifies
      (knownIdentifier ['U', 'U'] ['F', 'T', 'U'] ['H', 'H', 'E'] ['0', '1']) := by
  refine (identifies_iff _ _ ?_ ?_ (by decide) (by decide)).mpr (.inl (by decide))
  · exact ⟨.parts ['U', 'U'] ['F', 'T', 'U'] ['H', 'H', 'N'] ['0', '1'], _, [], by decide +kernel, rfl⟩
  · exact ⟨.parts ['U', 'U'] ['F', 'T', 'U'] ['H', 'H', 'E'] ['0', '1'], _, [], by decide +kernel, rfl⟩

/-- Station C of network A.B is station B.C of network A. -/
theorem not_identifies :
    ¬ ∀ a b : StreamIdentifier, objects.Reachable a → objects.Reachable b → a.HasParts → b.HasParts →
      a.Identifies b := by
  intro hclaim
  have hidentifies := hclaim (knownIdentifier ['A', '.', 'B'] ['C'] ['D'] [])
    (knownIdentifier ['A'] ['B', '.', 'C'] ['D'] [])
    ⟨.parts ['A', '.', 'B'] ['C'] ['D'] [], _, [], by decide +kernel, rfl⟩
    ⟨.parts ['A'] ['B', '.', 'C'] ['D'] [], _, [], by decide +kernel, rfl⟩ (by decide) (by decide)
  have hsame : SameParts (knownIdentifier ['A', '.', 'B'] ['C'] ['D'] [])
      (knownIdentifier ['A'] ['B', '.', 'C'] ['D'] []) :=
    hidentifies.equal.mp (by decide +kernel)
  exact absurd hsame.1 (by decide)

end StreamIdentifier

end USEEDLinkToRingServer
