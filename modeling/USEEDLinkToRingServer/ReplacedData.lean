import USEEDLinkToRingServer.PacketObjects

/-!
# Samples that replace others

The three overloads of `setData` come down to one function, which returns early when there is nothing to store.
The samples held before are then held still.
-/

namespace USEEDLinkToRingServer

/-- The overloads of `Packet::setData`. -/
inductive SetDataOverload
  | moved
  | copied
  /-- The address of a vector without elements can be null. -/
  | array (isNull : Bool)
deriving DecidableEq, Repr

namespace Packet

/-- The samples of a vector are set. The overload for arrays is given its size and address. -/
def setDataThrough (p : Packet) (overload : SetDataOverload) (u : SampleType) (x : List u.Value) :
    Packet × Except Exception Unit :=
  match overload with
  | .moved => objects.call p (.setData u x)
  | .copied =>
    let xWork := x
    objects.call p (.setData u xWork)
  | .array isNull =>
    objects.call p (.setDataArray u (castToInt x.length) (if x.isEmpty && isNull then none else some x))

/-- The packet holds these samples and no others. -/
structure HoldsOnly (p : Packet) (u : SampleType) (x : List u.Value) : Prop where
  numberOfSamples : p.getNumberOfSamples = x.length
  data : p.getData u = x
  converted : ∀ v, p.getData v = x.map (u.convert v)
  pointer : p.getDataPointer = if x.isEmpty then .null else .of u x

/-! ### What an overload sets -/

variable {p : Packet} {u : SampleType} {x : List u.Value}

/-- However they are passed, samples that can be counted in an `int` are stored, unless there are none. -/
theorem heldSamples_setDataThrough (overload : SetDataOverload) (hlength : x.length < 2 ^ 31) :
    (p.setDataThrough overload u x).1.heldSamples = if x.isEmpty then p.heldSamples else .of u x := by
  cases overload with
  | moved => exact heldSamples_setData p u x
  | copied => exact heldSamples_setData p u x
  | array isNull =>
    have hcall : p.setDataThrough (.array isNull) u x =
        Objects.attempt p (p.setDataArray u (castToInt x.length)
          (if x.isEmpty && isNull then none else some x)) := by
      exact call_eq_attempt p _
    rw [hcall, castToInt_of_lt hlength]
    cases hnull : x.isEmpty && isNull with
    | true =>
      have hempty : x.isEmpty = true := (Bool.and_eq_true_iff.mp hnull).1
      rw [Objects.attempt_of_ne_ok, if_pos hempty]
      rintro p' hset
      obtain ⟨_, values, hvalues, _⟩ := setDataArray_eq_ok.mp hset
      cases hvalues
    | false =>
      rw [if_neg Bool.false_ne_true, setDataArray_eq_ok.mpr ⟨Int.natCast_nonneg _, x, rfl, rfl⟩, Int.toNat_natCast,
        List.take_length]
      exact heldSamples_setData p u x

theorem countOf_lt (samples : Samples) : countOf samples < 2 ^ 31 := by
  cases samples with
  | null => decide
  | of u data => exact (castToInt_le data.length).2

theorem getNumberOfSamples_lt (p : Packet) : p.getNumberOfSamples < 2 ^ 31 := by
  rw [(getters_eq p).2.1]
  exact countOf_lt _

/-- Samples that are held are all that is seen. -/
theorem holdsOnly_of_held (hheld : p.heldSamples = .of u x) (hne : x ≠ []) (hlength : x.length < 2 ^ 31) :
    p.HoldsOnly u x := by
  obtain ⟨_, hnumber, hdata, hpointer⟩ := getters_eq p
  have hpos : 0 < x.length := List.length_pos_iff.mpr hne
  rw [hheld, countOf, castToInt_of_lt hlength] at hnumber
  have hsome : ¬ p.getNumberOfSamples < 1 := by omega
  have hconverted : ∀ v, p.getData v = x.map (u.convert v) := by
    intro v
    rw [hdata, if_neg hsome, hheld, copyOf, hnumber, Int.toNat_natCast, List.take_length]
  refine ⟨hnumber, ?_, hconverted, ?_⟩
  · rw [hconverted, SampleType.convert_self, List.map_id]
  · rw [hpointer, if_neg hsome, hheld, if_neg (mt List.isEmpty_iff.mp hne)]

/-- Nothing is seen of a packet that says it has no samples. -/
theorem holdsOnly_nil_iff (p : Packet) (u : SampleType) :
    p.HoldsOnly u [] ↔ p.getNumberOfSamples = 0 := by
  refine ⟨fun h => h.numberOfSamples, fun hnone => ?_⟩
  obtain ⟨_, _, hdata, hpointer⟩ := getters_eq p
  have hfew : p.getNumberOfSamples < 1 := by omega
  have hempty : ∀ v, p.getData v = [] := fun v => by rw [hdata, if_pos hfew]
  exact ⟨hnone, hempty u, hempty, by rw [hpointer, if_pos hfew]; rfl⟩

/-- **Setting samples replaces those before** exactly when there are some, no more than an `int` can count, or
there are none and the packet had none. -/
theorem setData_replaces_iff (p : Packet) (overload : SetDataOverload) (u : SampleType) (x : List u.Value) :
    (p.setDataThrough overload u x).1.HoldsOnly u x ↔
      if x = [] then p.getNumberOfSamples = 0 else x.length < 2 ^ 31 := by
  split
  · next hnone =>
    subst hnone
    have hkept := heldSamples_setDataThrough (p := p) (u := u) (x := []) overload (Nat.two_pow_pos 31)
    rw [holdsOnly_nil_iff, (samples_getters hkept).2.1]
  · next hne =>
    constructor
    · intro h
      have hlt := getNumberOfSamples_lt (p.setDataThrough overload u x).1
      rw [h.numberOfSamples] at hlt
      omega
    · intro hlength
      have hheld := heldSamples_setDataThrough (p := p) overload hlength
      rw [if_neg (mt List.isEmpty_iff.mp hne)] at hheld
      exact holdsOnly_of_held hheld hne hlength

/-- One sample is set and then none: the first is still there. -/
theorem setData_not_replaces :
    ¬ (((objects.after {} [.setData .integer32 [5]]).setDataThrough .moved .integer32 []).1.HoldsOnly
        .integer32 []) := by
  intro h
  exact absurd h.numberOfSamples (by decide)

end Packet

end USEEDLinkToRingServer
