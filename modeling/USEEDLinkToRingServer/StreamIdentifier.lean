import USEEDLinkToRingServer.Standard

/-!
# Stream identifiers

A network, station, channel and location code in their canonical spelling: no blanks, upper case. The
location code may be empty, so a flag says whether it was set. The joined name is cached.
-/

namespace USEEDLinkToRingServer

/-- True if the string is empty or full of white space. -/
def isEmpty (s : Str) : Bool := s.isEmpty || s.all isspace

def convertString (s : Str) : Str := (s.filter (· != ' ')).map toupper

structure StreamIdentifier where
  mNetwork : Str := []
  mStation : Str := []
  mChannel : Str := []
  mLocationCode : Str := []
  mString : Str := []
  mHasLocationCode : Bool := false
deriving DecidableEq, Repr

namespace StreamIdentifier

/-- Recomputes the cached name. -/
def setString (id : StreamIdentifier) : StreamIdentifier :=
  { id with
    mString :=
      if !id.mNetwork.isEmpty && !id.mStation.isEmpty && !id.mChannel.isEmpty && id.mHasLocationCode then
        let joined := id.mNetwork ++ '.' :: id.mStation ++ '.' :: id.mChannel
        if !id.mLocationCode.isEmpty then joined ++ '.' :: id.mLocationCode else joined
      else [] }

/-- Empties the strings; the flag of the location code is not touched. -/
def clear (id : StreamIdentifier) : StreamIdentifier :=
  { id with mNetwork := [], mStation := [], mChannel := [], mLocationCode := [] }.setString

def setNetwork (id : StreamIdentifier) (network : Str) : Except Exception StreamIdentifier :=
  let s := convertString network
  if isEmpty s then .error (.invalidArgument "Network is empty")
  else .ok { id with mNetwork := s }.setString

def hasNetwork (id : StreamIdentifier) : Bool := !id.mNetwork.isEmpty

def getNetwork (id : StreamIdentifier) : Except Exception Str :=
  if !id.hasNetwork then .error (.runtimeError "Network not set yet") else .ok id.mNetwork

def setStation (id : StreamIdentifier) (station : Str) : Except Exception StreamIdentifier :=
  let s := convertString station
  if isEmpty s then .error (.invalidArgument "Station is empty")
  else .ok { id with mStation := s }.setString

def hasStation (id : StreamIdentifier) : Bool := !id.mStation.isEmpty

def getStation (id : StreamIdentifier) : Except Exception Str :=
  if !id.hasStation then .error (.runtimeError "Station not set yet") else .ok id.mStation

def setChannel (id : StreamIdentifier) (channel : Str) : Except Exception StreamIdentifier :=
  let s := convertString channel
  if isEmpty s then .error (.invalidArgument "Channel is empty")
  else .ok { id with mChannel := s }.setString

def hasChannel (id : StreamIdentifier) : Bool := !id.mChannel.isEmpty

def getChannel (id : StreamIdentifier) : Except Exception Str :=
  if !id.hasChannel then .error (.runtimeError "Channel not set yet") else .ok id.mChannel

/-- Unlike the other parts the location code may be blank. The test looks at the argument, not at the
converted string. -/
def setLocationCode (id : StreamIdentifier) (locationCode : Str) : StreamIdentifier :=
  { id with
    mLocationCode := if isEmpty locationCode then [] else convertString locationCode
    mHasLocationCode := true }.setString

def hasLocationCode (id : StreamIdentifier) : Bool := id.mHasLocationCode

def getLocationCode (id : StreamIdentifier) : Except Exception Str :=
  if !id.hasLocationCode then .error (.runtimeError "Location code not set yet")
  else .ok id.mLocationCode

/-- The cached name. -/
def getStringReference (id : StreamIdentifier) : Except Exception Str :=
  if id.mString.isEmpty then
    if !id.hasNetwork then .error (.runtimeError "Network not set")
    else if !id.hasStation then .error (.runtimeError "Station not set")
    else if !id.hasChannel then .error (.runtimeError "Channel not set")
    else if !id.hasLocationCode then .error (.runtimeError "Location code not set")
    else .ok id.mString
  else .ok id.mString

end StreamIdentifier

/-- The DataLink name of a stream. -/
def toDataLinkIdentifier (id : StreamIdentifier) : Except Exception Str := do
  let network ← id.getNetwork
  let station ← id.getStation
  let locationCode ← id.getLocationCode
  let channel ← id.getChannel
  return network ++ '_' :: station ++ '_' :: locationCode ++ '_' :: channel ++
    ['/', 'M', 'S', 'E', 'E', 'D']

/-! ### Canonical strings -/

theorem isEmpty_iff (s : Str) : isEmpty s = true ↔ ∀ c ∈ s, isspace c = true := by
  cases s <;> simp [isEmpty]

/-- Removing blanks and raising letters leaves a blank string blank and no other. -/
@[simp] theorem isEmpty_convertString (s : Str) : isEmpty (convertString s) = isEmpty s := by
  rw [Bool.eq_iff_iff, isEmpty_iff, isEmpty_iff]
  simp only [convertString, List.mem_map, List.mem_filter, bne_iff_ne, ne_eq, forall_exists_index,
    and_imp]
  constructor
  · intro h c hc
    by_cases hblank : c = ' '
    · rw [hblank]
      rfl
    · rw [← isspace_toupper]
      exact h _ c hc hblank rfl
  · rintro h _ c hc _ rfl
    rw [isspace_toupper]
    exact h c hc

/-- A string with neither blanks nor lower-case letters is in its canonical spelling. -/
theorem convertString_eq_self {s : Str} (h : ∀ c ∈ s, c ≠ ' ' ∧ c.isLower = false) :
    convertString s = s := by
  have hfilter : s.filter (· != ' ') = s :=
    List.filter_eq_self.mpr fun c hc => bne_iff_ne.mpr (h c hc).1
  rw [convertString, hfilter]
  exact (List.map_congr_left fun c hc => toupper_of_not_lower (h c hc).2).trans (List.map_id s)

namespace StreamIdentifier

/-! ### The parts after each operation -/

section Parts

variable (id : StreamIdentifier) (locationCode : Str)

@[simp] theorem setString_mNetwork : id.setString.mNetwork = id.mNetwork := rfl
@[simp] theorem setString_mStation : id.setString.mStation = id.mStation := rfl
@[simp] theorem setString_mChannel : id.setString.mChannel = id.mChannel := rfl
@[simp] theorem setString_mLocationCode : id.setString.mLocationCode = id.mLocationCode := rfl
@[simp] theorem setString_mHasLocationCode :
    id.setString.mHasLocationCode = id.mHasLocationCode := rfl

end Parts

/-- The name is complete: every part was set. -/
def Complete (id : StreamIdentifier) : Prop :=
  isEmpty id.mNetwork = false ∧ isEmpty id.mStation = false ∧ isEmpty id.mChannel = false ∧
    id.mHasLocationCode = true

theorem Complete.has {id : StreamIdentifier} (h : id.Complete) :
    id.hasNetwork = true ∧ id.hasStation = true ∧ id.hasChannel = true ∧
      id.hasLocationCode = true := by
  obtain ⟨hnetwork, hstation, hchannel, hlocation⟩ := h
  simp only [isEmpty, Bool.or_eq_false_iff] at hnetwork hstation hchannel
  simp [hasNetwork, hasStation, hasChannel, hasLocationCode, hnetwork.1, hstation.1, hchannel.1,
    hlocation]

/-- The parts of a complete identifier are what its getters return. -/
theorem get_of_has {id : StreamIdentifier}
    (h : id.hasNetwork = true ∧ id.hasStation = true ∧ id.hasChannel = true ∧
      id.hasLocationCode = true) :
    id.getNetwork = .ok id.mNetwork ∧ id.getStation = .ok id.mStation ∧
      id.getChannel = .ok id.mChannel ∧ id.getLocationCode = .ok id.mLocationCode := by
  simp [getNetwork, getStation, getChannel, getLocationCode, h.1, h.2.1, h.2.2.1, h.2.2.2]

end StreamIdentifier

/-- A DataLink name needs every part. -/
theorem has_of_toDataLinkIdentifier {id : StreamIdentifier} {name : Str}
    (h : toDataLinkIdentifier id = .ok name) :
    id.hasNetwork = true ∧ id.hasStation = true ∧ id.hasChannel = true ∧
      id.hasLocationCode = true := by
  unfold toDataLinkIdentifier StreamIdentifier.getNetwork StreamIdentifier.getStation
    StreamIdentifier.getChannel StreamIdentifier.getLocationCode at h
  cases hnetwork : id.hasNetwork <;> cases hstation : id.hasStation <;>
    cases hlocation : id.hasLocationCode <;> cases hchannel : id.hasChannel <;>
    simp [hnetwork, hstation, hchannel, hlocation, bind, Except.bind] at h ⊢

/-- A DataLink name can be made of every complete identifier. -/
theorem toDataLinkIdentifier_of_has {id : StreamIdentifier}
    (h : id.hasNetwork = true ∧ id.hasStation = true ∧ id.hasChannel = true ∧
      id.hasLocationCode = true) :
    toDataLinkIdentifier id =
      .ok (id.mNetwork ++ '_' :: id.mStation ++ '_' :: id.mLocationCode ++ '_' :: id.mChannel ++
        ['/', 'M', 'S', 'E', 'E', 'D']) := by
  obtain ⟨hnetwork, hstation, hchannel, hlocation⟩ := StreamIdentifier.get_of_has h
  simp only [toDataLinkIdentifier, hnetwork, hstation, hchannel, hlocation]
  rfl

end USEEDLinkToRingServer
