import USEEDLinkToRingServer.Library.Fallible
import USEEDLinkToRingServer.Library.Objects
import USEEDLinkToRingServer.Packet

/-!
# Stream identifiers as objects

What a client can do with stream identifiers, what holds of every identifier whatever was done, and what of
its past an identifier still shows after `clear`.
-/

namespace USEEDLinkToRingServer

open Fallible Objects

/-- The two constructors. -/
inductive IdentifierInit
  | empty
  | parts (network station channel locationCode : Str)

inductive IdentifierCall
  | setNetwork (network : Str)
  | setStation (station : Str)
  | setChannel (channel : Str)
  | setLocationCode (locationCode : Str)
  | clear

namespace StreamIdentifier

/-- The checks are those of `getStringReference`. -/
def toString (id : StreamIdentifier) : Except Exception Str := id.getStringReference

/-- The constructor from the four parts. -/
def ofParts (network station channel locationCode : Str) : Except Exception StreamIdentifier := do
  let temp ← setNetwork {} network
  let temp ← temp.setStation station
  let temp ← temp.setChannel channel
  return temp.setLocationCode locationCode

def make : IdentifierInit → Except Exception StreamIdentifier
  | .empty => .ok {}
  | .parts network station channel locationCode => ofParts network station channel locationCode

/-! The statements of the setters that throw, on the object they change. -/

def setNetworkTo (network : Str) : EStateM Exception StreamIdentifier Unit := do
  let s := convertString network
  if isEmpty s then throw (.invalidArgument "Network is empty")
  modify fun id => { id with mNetwork := s }
  modify setString

def setStationTo (station : Str) : EStateM Exception StreamIdentifier Unit := do
  let s := convertString station
  if isEmpty s then throw (.invalidArgument "Station is empty")
  modify fun id => { id with mStation := s }
  modify setString

def setChannelTo (channel : Str) : EStateM Exception StreamIdentifier Unit := do
  let s := convertString channel
  if isEmpty s then throw (.invalidArgument "Channel is empty")
  modify fun id => { id with mChannel := s }
  modify setString

def call (id : StreamIdentifier) : IdentifierCall → StreamIdentifier × Except Exception Unit
  | .setNetwork network => perform id (setNetworkTo network)
  | .setStation station => perform id (setStationTo station)
  | .setChannel channel => perform id (setChannelTo channel)
  | .setLocationCode locationCode => (id.setLocationCode locationCode, .ok ())
  | .clear => (id.clear, .ok ())

/-- The class of stream identifiers. -/
def objects : Class StreamIdentifier IdentifierInit IdentifierCall Exception := ⟨make, call⟩

/-- The identifier that a call makes of another if it returns. -/
def outcome (id : StreamIdentifier) : IdentifierCall → Except Exception StreamIdentifier
  | .setNetwork network => id.setNetwork network
  | .setStation station => id.setStation station
  | .setChannel channel => id.setChannel channel
  | .setLocationCode locationCode => .ok (id.setLocationCode locationCode)
  | .clear => .ok id.clear

/-- The setters check the part before they change the identifier. -/
theorem call_eq_attempt (id : StreamIdentifier) (c : IdentifierCall) :
    objects.call id c = attempt id (id.outcome c) := by
  cases c with
  | setNetwork network =>
    show perform id (setNetworkTo network) = attempt id (id.setNetwork network)
    rw [setNetworkTo, setNetwork]
    exact perform_check fun _ => rfl
  | setStation station =>
    show perform id (setStationTo station) = attempt id (id.setStation station)
    rw [setStationTo, setStation]
    exact perform_check fun _ => rfl
  | setChannel channel =>
    show perform id (setChannelTo channel) = attempt id (id.setChannel channel)
    rw [setChannelTo, setChannel]
    exact perform_check fun _ => rfl
  | setLocationCode locationCode => rfl
  | clear => rfl

section Setters

variable {id id' : StreamIdentifier} {part : Str}

theorem setNetwork_eq_ok :
    id.setNetwork part = .ok id' ↔
      isEmpty part = false ∧ { id with mNetwork := convertString part }.setString = id' := by
  simp only [setNetwork, isEmpty_convertString]
  rw [ite_error_eq_ok_iff, Bool.not_eq_true, Except.ok.injEq]

theorem setStation_eq_ok :
    id.setStation part = .ok id' ↔
      isEmpty part = false ∧ { id with mStation := convertString part }.setString = id' := by
  simp only [setStation, isEmpty_convertString]
  rw [ite_error_eq_ok_iff, Bool.not_eq_true, Except.ok.injEq]

theorem setChannel_eq_ok :
    id.setChannel part = .ok id' ↔
      isEmpty part = false ∧ { id with mChannel := convertString part }.setString = id' := by
  simp only [setChannel, isEmpty_convertString]
  rw [ite_error_eq_ok_iff, Bool.not_eq_true, Except.ok.injEq]

end Setters

/-! ### The class invariant -/

/-- In its canonical spelling a string has neither blanks nor lower-case letters. -/
def Canonical (s : Str) : Prop := ∀ c ∈ s, c ≠ ' ' ∧ c.isLower = false

theorem canonical_convertString (s : Str) : Canonical (convertString s) := by
  intro c hc
  obtain ⟨d, hd, rfl⟩ := List.mem_map.mp hc
  have hblank : d ≠ ' ' := bne_iff_ne.mp (List.mem_filter.mp hd).2
  refine ⟨fun heq => ?_, isLower_toupper d⟩
  have hspace : isspace d = true := by
    rw [← isspace_toupper, heq]
    rfl
  rcases toupper_eq d with ⟨hsame, _⟩ | ⟨hrange, _⟩
  · exact hblank (hsame ▸ heq)
  · rw [isspace_iff] at hspace
    omega

/-- The name of an identifier that has all its parts. -/
def joined (id : StreamIdentifier) : Str :=
  id.mNetwork ++ '.' :: id.mStation ++ '.' :: id.mChannel ++
    if id.mLocationCode.isEmpty then [] else '.' :: id.mLocationCode

/-- Every part that a name needs is there. -/
def HasParts (id : StreamIdentifier) : Prop :=
  id.hasNetwork = true ∧ id.hasStation = true ∧ id.hasChannel = true ∧ id.hasLocationCode = true

instance (id : StreamIdentifier) : Decidable id.HasParts := inferInstanceAs (Decidable (_ ∧ _))

/-- The cached name is that of the parts, and the parts are in their canonical spelling. -/
structure Coherent (id : StreamIdentifier) : Prop where
  cache : id.mString = if id.HasParts then id.joined else []
  network : Canonical id.mNetwork
  station : Canonical id.mStation
  channel : Canonical id.mChannel
  locationCode : Canonical id.mLocationCode

theorem canonical_nil : Canonical [] := fun _ h => absurd h List.not_mem_nil

variable {id id' : StreamIdentifier}

/-- `setString` recomputes the cache. -/
theorem setString_cache (id : StreamIdentifier) :
    id.setString.mString = if id.setString.HasParts then id.setString.joined else [] := by
  have hparts : id.setString.HasParts ↔
      (!id.mNetwork.isEmpty && !id.mStation.isEmpty && !id.mChannel.isEmpty && id.mHasLocationCode) = true := by
    simp only [HasParts, hasNetwork, hasStation, hasChannel, hasLocationCode, setString_mNetwork,
      setString_mStation, setString_mChannel, setString_mHasLocationCode, Bool.and_eq_true, and_assoc]
  simp only [hparts]
  rw [setString]
  split
  · rw [joined]
    cases id.mLocationCode <;> simp
  · rfl

theorem Coherent.setNetwork {network : Str} (h : id.Coherent) (hset : id.setNetwork network = .ok id') :
    id'.Coherent := by
  obtain ⟨_, rfl⟩ := setNetwork_eq_ok.mp hset
  exact ⟨setString_cache _, canonical_convertString network, h.station, h.channel, h.locationCode⟩

theorem Coherent.setStation {station : Str} (h : id.Coherent) (hset : id.setStation station = .ok id') :
    id'.Coherent := by
  obtain ⟨_, rfl⟩ := setStation_eq_ok.mp hset
  exact ⟨setString_cache _, h.network, canonical_convertString station, h.channel, h.locationCode⟩

theorem Coherent.setChannel {channel : Str} (h : id.Coherent) (hset : id.setChannel channel = .ok id') :
    id'.Coherent := by
  obtain ⟨_, rfl⟩ := setChannel_eq_ok.mp hset
  exact ⟨setString_cache _, h.network, h.station, canonical_convertString channel, h.locationCode⟩

theorem Coherent.setLocationCode (h : id.Coherent) (locationCode : Str) :
    (id.setLocationCode locationCode).Coherent := by
  refine ⟨setString_cache _, h.network, h.station, h.channel, ?_⟩
  show Canonical (if isEmpty locationCode then [] else convertString locationCode)
  split
  · exact canonical_nil
  · exact canonical_convertString locationCode

theorem coherent_clear (id : StreamIdentifier) : id.clear.Coherent :=
  ⟨setString_cache _, canonical_nil, canonical_nil, canonical_nil, canonical_nil⟩

theorem coherent_empty : Coherent {} :=
  ⟨rfl, canonical_nil, canonical_nil, canonical_nil, canonical_nil⟩

/-- Every identifier is coherent. -/
theorem keeps_coherent : objects.Keeps Coherent where
  make := by
    intro init id hmake
    cases init with
    | empty =>
      obtain rfl := Except.ok.inj hmake
      exact coherent_empty
    | parts network station channel locationCode =>
      obtain ⟨_, hnetwork, hmake⟩ := bind_eq_ok_iff.mp hmake
      obtain ⟨_, hstation, hmake⟩ := bind_eq_ok_iff.mp hmake
      obtain ⟨_, hchannel, hmake⟩ := bind_eq_ok_iff.mp hmake
      obtain rfl := pure_eq_ok_iff.mp hmake
      exact (((coherent_empty.setNetwork hnetwork).setStation hstation).setChannel hchannel).setLocationCode _
  call := by
    intro id call h
    rw [call_eq_attempt]
    refine attempt_keeps h fun id' hset => ?_
    cases call with
    | setNetwork network => exact h.setNetwork hset
    | setStation station => exact h.setStation hset
    | setChannel channel => exact h.setChannel hset
    | setLocationCode locationCode =>
      obtain rfl := Except.ok.inj hset
      exact h.setLocationCode locationCode
    | clear =>
      obtain rfl := Except.ok.inj hset
      exact coherent_clear id

end StreamIdentifier

/-! ### What shows after `clear` -/

/-- All that can be asked of an identifier, and whether a packet accepts it. -/
structure IdentifierView where
  hasNetwork : Bool
  hasStation : Bool
  hasChannel : Bool
  hasLocationCode : Bool
  network : Except Exception Str
  station : Except Exception Str
  channel : Except Exception Str
  locationCode : Except Exception Str
  string : Except Exception Str
  stringReference : Except Exception Str
  accepted : Packet → Except Exception Unit

namespace StreamIdentifier

def view (id : StreamIdentifier) : IdentifierView where
  hasNetwork := id.hasNetwork
  hasStation := id.hasStation
  hasChannel := id.hasChannel
  hasLocationCode := id.hasLocationCode
  network := id.getNetwork
  station := id.getStation
  channel := id.getChannel
  locationCode := id.getLocationCode
  string := id.toString
  stringReference := id.getStringReference
  accepted p := (p.setStreamIdentifier id).map fun _ => ()

/-- The actions after which a location code is set, or another identifier has taken the place of this one. -/
def ReplacesLocation : Action StreamIdentifier IdentifierCall → Prop
  | .call (.setLocationCode _) => True
  | .assign _ => True
  | _ => False

/-- The parts other than the location code are the same. -/
def SameName (a b : StreamIdentifier) : Prop :=
  a.mNetwork = b.mNetwork ∧ a.mStation = b.mStation ∧ a.mChannel = b.mChannel

variable {a b id : StreamIdentifier} {action : Action StreamIdentifier IdentifierCall}
  {further : List (Action StreamIdentifier IdentifierCall)}

/-- `clear` leaves nothing but the flag of the location code. -/
theorem clear_eq (id : StreamIdentifier) :
    id.clear = { ({} : StreamIdentifier) with mHasLocationCode := id.mHasLocationCode } := rfl

/-- An action returns or throws whatever the location code is, and it keeps the other parts the same. -/
theorem act_sameName (action : Action StreamIdentifier IdentifierCall) (h : SameName a b) :
    (objects.act a action).2 = (objects.act b action).2 ∧
      SameName (objects.act a action).1 (objects.act b action).1 := by
  obtain ⟨hnetwork, hstation, hchannel⟩ := h
  cases action with
  | assign other => exact ⟨rfl, rfl, rfl, rfl⟩
  | call c =>
    show (objects.call a c).2 = (objects.call b c).2 ∧ SameName (objects.call a c).1 (objects.call b c).1
    rw [call_eq_attempt, call_eq_attempt]
    cases c with
    | setNetwork part =>
      simp only [outcome, setNetwork]
      split
      · exact ⟨rfl, hnetwork, hstation, hchannel⟩
      · exact ⟨rfl, rfl, hstation, hchannel⟩
    | setStation part =>
      simp only [outcome, setStation]
      split
      · exact ⟨rfl, hnetwork, hstation, hchannel⟩
      · exact ⟨rfl, hnetwork, rfl, hchannel⟩
    | setChannel part =>
      simp only [outcome, setChannel]
      split
      · exact ⟨rfl, hnetwork, hstation, hchannel⟩
      · exact ⟨rfl, hnetwork, hstation, rfl⟩
    | setLocationCode locationCode => exact ⟨rfl, hnetwork, hstation, hchannel⟩
    | clear => exact ⟨rfl, rfl, rfl, rfl⟩

/-- What replaces the location code makes the identifiers the same. -/
theorem act_eq_of_replaces (hreplaces : ReplacesLocation action) (h : SameName a b) :
    (objects.act a action).1 = (objects.act b action).1 := by
  obtain ⟨hnetwork, hstation, hchannel⟩ := h
  cases action with
  | assign other => rfl
  | call c =>
    cases c with
    | setLocationCode locationCode =>
      show a.setLocationCode locationCode = b.setLocationCode locationCode
      simp only [setLocationCode, setString, hnetwork, hstation, hchannel]
    | setNetwork _ => exact hreplaces.elim
    | setStation _ => exact hreplaces.elim
    | setChannel _ => exact hreplaces.elim
    | clear => exact hreplaces.elim

/-- Nothing else touches the flag. -/
theorem act_mHasLocationCode (hkeeps : ¬ ReplacesLocation action) :
    (objects.act a action).1.mHasLocationCode = a.mHasLocationCode := by
  cases action with
  | assign other => exact absurd trivial hkeeps
  | call c =>
    show (objects.call a c).1.mHasLocationCode = _
    rw [call_eq_attempt]
    cases c with
    | setLocationCode _ => exact absurd trivial hkeeps
    | clear => rfl
    | setNetwork part =>
      simp only [outcome, setNetwork]
      split <;> rfl
    | setStation part =>
      simp only [outcome, setStation]
      split <;> rfl
    | setChannel part =>
      simp only [outcome, setChannel]
      split <;> rfl

theorem sameAfter_of_replaces (h : SameName a b) (hreplaces : ∃ action ∈ further, ReplacesLocation action) :
    objects.SameAfter view further a b := by
  induction further generalizing a b with
  | nil =>
    obtain ⟨_, hmem, _⟩ := hreplaces
    exact absurd hmem List.not_mem_nil
  | cons action further ih =>
    obtain ⟨hresult, hname⟩ := act_sameName action h
    rw [Class.sameAfter_cons]
    refine ⟨hresult, ?_⟩
    by_cases hfirst : ReplacesLocation action
    · rw [act_eq_of_replaces hfirst h]
      exact ⟨rfl, rfl⟩
    · obtain ⟨later, hmem, hlater⟩ := hreplaces
      rcases List.mem_cons.mp hmem with rfl | hmem
      · exact absurd hlater hfirst
      · exact ih hname ⟨later, hmem, hlater⟩

theorem afterActions_mHasLocationCode (hkeeps : ∀ action ∈ further, ¬ ReplacesLocation action) :
    (objects.afterActions a further).mHasLocationCode = a.mHasLocationCode := by
  refine List.foldlRecOn further _
    (motive := fun b : StreamIdentifier => b.mHasLocationCode = a.mHasLocationCode) rfl ?_
  intro id hid action hmem
  rw [act_mHasLocationCode (hkeeps action hmem), hid]

/-- **A cleared identifier is like a new one exactly when its location code was not set or is replaced**:
whatever is done after `clear`, it has the same results and leaves an identifier that looks the same as if it
was done to a new identifier, if and only if the identifier had no location code when it was cleared, or a
location code is set or another identifier assigned afterwards. -/
theorem clear_sameAfter_iff (id : StreamIdentifier)
    (further : List (Action StreamIdentifier IdentifierCall)) :
    objects.SameAfter view further id.clear {} ↔
      id.hasLocationCode = false ∨ ∃ action ∈ further, ReplacesLocation action := by
  constructor
  · intro hsame
    by_cases hreplaces : ∃ action ∈ further, ReplacesLocation action
    · exact .inr hreplaces
    · left
      have hkeeps : ∀ action ∈ further, ¬ ReplacesLocation action :=
        fun action hmem hreplace => hreplaces ⟨action, hmem, hreplace⟩
      have hflag : (objects.afterActions id.clear further).mHasLocationCode =
          (objects.afterActions {} further).mHasLocationCode :=
        congrArg IdentifierView.hasLocationCode hsame.2
      rwa [afterActions_mHasLocationCode hkeeps, afterActions_mHasLocationCode hkeeps] at hflag
  · rintro (hflag | hreplaces)
    · have hnew : id.clear = {} := by
        rw [clear_eq, show id.mHasLocationCode = false from hflag]
      rw [hnew]
      exact ⟨rfl, rfl⟩
    · exact sameAfter_of_replaces ⟨rfl, rfl, rfl⟩ hreplaces

/-- The flag of the location code survives `clear`. -/
theorem clear_not_indistinguishable :
    ¬ ∀ id : StreamIdentifier, objects.Reachable id → objects.Indistinguishable view id.clear {} := by
  intro hclaim
  have hsame := hclaim (setLocationCode {} ['0', '1'])
    ⟨.empty, {}, [.setLocationCode ['0', '1']], rfl, rfl⟩ []
  exact absurd (congrArg IdentifierView.hasLocationCode hsame.2) (by decide)

end StreamIdentifier

end USEEDLinkToRingServer
