import USEEDLinkToRingServer.Boost
import USEEDLinkToRingServer.Library.Fallible

/-!
# Stream selectors

What is asked of the SEEDLink server: a network, a station, and a pattern for the location codes, channels
and types of data. A selector is read from one piece of the configuration.
-/

namespace USEEDLinkToRingServer

open Fallible

/-- `StreamSelector::Type`. -/
inductive SelectorType
  | all
  | data
  | event
  | calibration
  | blockette
  | timing
  | log
deriving DecidableEq, Repr

structure StreamSelector where
  mNetwork : Str := []
  mStation : Str := ['*']
  mChannel : Str := []
  mLocationCode : Str := []
  mType : SelectorType := .all
  mNoLocationCode : Bool := false
deriving DecidableEq, Repr

namespace StreamSelector

section

variable (s : StreamSelector)

def setNetwork (network : Str) : Except Exception StreamSelector :=
  if network.length ≠ 2 then .error (.invalidArgument "Network size must 2")
  else .ok { s with mNetwork := network.map toupper }

def hasNetwork : Bool := !s.mNetwork.isEmpty

def getNetwork : Except Exception Str :=
  if !s.hasNetwork then .error (.runtimeError "Network not set") else .ok s.mNetwork

def setStation (station : Str) : Except Exception StreamSelector :=
  if station.isEmpty then .error (.invalidArgument "Station is empty")
  else .ok { s with mStation := station.map toupper }

def getStation : Str := s.mStation

/-- The overload of `setSelector` without a location code. -/
def setChannelSelector (channel : Str) (type : SelectorType) : StreamSelector :=
  { s with
    mChannel := channel.map toupper
    mLocationCode := []
    mNoLocationCode := true
    mType := type }

/-- The overload of `setSelector` with a location code, which is not raised. -/
def setSelector (channel locationCode : Str) (type : SelectorType) : StreamSelector :=
  { s with
    mChannel := channel.map toupper
    mLocationCode := locationCode
    mNoLocationCode := false
    mType := type }

/-- The location code and the channel of the selector, with their wildcards. -/
def locationChannel : Str :=
  if s.mLocationCode.isEmpty && s.mChannel.isEmpty then []
  else
    let location :=
      if s.mLocationCode.isEmpty then if s.mNoLocationCode then [] else ['?', '?']
      else s.mLocationCode
    if s.mChannel.isEmpty then location ++ ['*'] else location ++ s.mChannel

/-- A selector for one type of data. -/
def ofType (locationChannel : Str) (letter : Char) : Str :=
  if locationChannel.isEmpty then ['*', '.', letter] else locationChannel ++ ['.', letter]

def getSelector : Str :=
  match s.mType with
  | .all => if s.locationChannel.isEmpty then [] else s.locationChannel ++ ['.', '*']
  | .data => ofType s.locationChannel 'D'
  | .timing => ofType s.locationChannel 'T'
  | .log => ofType s.locationChannel 'L'
  | .event => ofType s.locationChannel 'E'
  | .blockette => ofType s.locationChannel 'B'
  | .calibration => ofType s.locationChannel 'C'

end

/-! ### Reading a selector -/

/-- The loop that erases a blank after a blank, from a position on. -/
def eraseDoubleBlanks (s : Str) (k : Nat) : Str :=
  if h : k < castToInt s.length then
    have hk : k < s.length := by
      have hle := (castToInt_le s.length).1
      omega
    if s[k - 1] = s[k] ∧ s[k] = ' ' then eraseDoubleBlanks (s.eraseIdx k) k
    else eraseDoubleBlanks s (k + 1)
  else s
termination_by s.length - k
decreasing_by
  · rw [List.length_eraseIdx_of_lt hk]
    omega
  · omega

/-- The type that the last part stands for; what is not known stands for all types. -/
def getDataType (boost : Boost) (thisSelector : List Str) : SelectorType :=
  let back := boost.trim (thisSelector.getLastD [])
  if back = ['D'] ∨ back = ['d'] then .data
  else if back = ['A'] ∨ back = ['a'] then .all
  else .all

/-- The channel, the location code and the type among the parts of a selector. A fourth and last part is
the type unless it looks like a location code. -/
def readSelector (boost : Boost) (s : StreamSelector) (thisSelector : List Str) : StreamSelector :=
  let channel := (thisSelector[2]?.map boost.trim).getD ['*']
  match thisSelector with
  | _ :: _ :: _ :: locationCode :: _ :: _ =>
    s.setSelector channel (boost.trim locationCode) (getDataType boost thisSelector)
  | [_, _, _, locationCode] =>
    if locationCode.length > 1 then s.setSelector channel locationCode .all
    else s.setChannelSelector channel (getDataType boost thisSelector)
  | _ => s.setSelector channel ['?', '?'] .all

/-- Whether there is a station to read is asked of the length of the text, not of the number of its
parts. -/
def fromString (boost : Boost) (streamSelector : Str) : Except Exception StreamSelector := do
  let splitSelector := eraseDoubleBlanks (boost.trim streamSelector) 1
  let thisSelector := boost.split splitSelector [' ', '\t']
  if splitSelector.isEmpty then .error (.invalidArgument "Empty selector")
  else
    let network ← vectorAt thisSelector 0
    let selector ← setNetwork {} (boost.trim network)
    if splitSelector.length > 1 then
      let station ← vectorAt thisSelector 1
      let selector ← selector.setStation (boost.trim station)
      return selector.readSelector boost thisSelector
    else return selector.readSelector boost thisSelector

/-! ### What is read -/

theorem hasNetwork_of_setNetwork {s s' : StreamSelector} {network : Str}
    (h : s.setNetwork network = .ok s') : s'.hasNetwork = true := by
  rw [setNetwork] at h
  split at h
  · cases h
  · next hlength =>
    obtain rfl := Except.ok.inj h
    cases network with
    | nil => exact absurd hlength (by decide)
    | cons c cs => rfl

theorem mNetwork_of_setStation {s s' : StreamSelector} {station : Str}
    (h : s.setStation station = .ok s') : s'.mNetwork = s.mNetwork := by
  rw [setStation] at h
  split at h
  · cases h
  · obtain rfl := Except.ok.inj h
    rfl

theorem mNetwork_readSelector (boost : Boost) (s : StreamSelector) (thisSelector : List Str) :
    (s.readSelector boost thisSelector).mNetwork = s.mNetwork := by
  unfold readSelector
  dsimp only
  split
  · rfl
  · split
    · rfl
    · rfl
  · rfl

/-- A selector that was read has a network. -/
theorem hasNetwork_of_fromString {boost : Boost} {text : Str} {s : StreamSelector}
    (h : fromString boost text = .ok s) : s.hasNetwork = true := by
  rw [fromString] at h
  split at h
  · cases h
  · obtain ⟨network, _, h⟩ := bind_eq_ok_iff.mp h
    obtain ⟨selector, hnetwork, h⟩ := bind_eq_ok_iff.mp h
    have hselector : selector.hasNetwork = true := hasNetwork_of_setNetwork hnetwork
    suffices hsame : s.mNetwork = selector.mNetwork by
      rw [hasNetwork, hsame]
      exact hselector
    split at h
    · obtain ⟨station, _, h⟩ := bind_eq_ok_iff.mp h
      obtain ⟨selector', hstation, h⟩ := bind_eq_ok_iff.mp h
      rw [← pure_eq_ok_iff.mp h, mNetwork_readSelector]
      exact mNetwork_of_setStation hstation
    · rw [← pure_eq_ok_iff.mp h, mNetwork_readSelector]

/-- Blanks, the spelling and the type's letter do not matter. -/
example :
    (fromString .known " UU bhu  hH?  01 d ".toList).map
        (fun s => (s.mNetwork, s.getStation, s.getSelector)) =
      .ok ("UU".toList, "BHU".toList, "01HH?.D".toList) := by
  decide +kernel

end StreamSelector

end USEEDLinkToRingServer
