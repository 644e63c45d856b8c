import USEEDLinkToRingServer.SEEDLinkSection

/-!
# What the client asks the server for

`initialize` sets a new connection structure up and deletes the old state file if it is to be. A selector that
libslink refuses is only logged, and without any that it accepts the client asks for all stations.
-/

namespace USEEDLinkToRingServer

open Fallible

/-- What libslink and the file system answer while the client is initialized. -/
structure InitializeAnswers where
  /-- `sl_initslcd` gives a structure. -/
  initslcd : Bool := true
  setServeraddress : Int := 0
  /-- Of `std::filesystem::exists` and `std::filesystem::remove`, for the state file. -/
  stateFileExists : Except Exception Bool := .ok false
  removeStateFile : Except Exception Bool := .ok true
  /-- Of `sl_add_stream`, for a station and a selector. -/
  addStream : Str → Str → Int := fun _ _ => 0
  setAllstationParams : Int := 0
  ping : Int := 0

/-- What the connection structure is to ask for. -/
structure Subscription where
  /-- The station and the selector of each stream. -/
  streams : List (Str × Str) := []
  allStations : Bool := false
deriving DecidableEq, Repr

namespace SEEDLinkClientOptions

section

variable (answers : InitializeAnswers) (options : SEEDLinkClientOptions)

def seedLinkAddress : Str := options.mHost ++ ':' :: (Nat.repr options.getPort.toNat).toList

/-- The body of the loop over the selectors, which an exception leaves for the next round. -/
def addStream (selector : StreamSelector) : Except Exception (Str × Str) := do
  let network ← selector.getNetwork
  let station := selector.getStation
  let stationID := network ++ '_' :: station
  let streamSelector := selector.getSelector
  if answers.addStream stationID streamSelector ≠ 0 then
    .error (.runtimeError ("Failed to add selector: " ++ String.ofList network ++ " " ++ String.ofList station ++
      " " ++ String.ofList streamSelector))
  else return (stationID, streamSelector)

/-- The loop over the selectors. -/
def addStreams : List StreamSelector → List (Str × Str) → List (Str × Str)
  | [], streams => streams
  | selector :: selectors, streams =>
    match addStream answers selector with
    | .ok stream => addStreams selectors (streams ++ [stream])
    | .error _ => addStreams selectors streams

/-- That the state file was not removed is only logged, but the file system may throw. -/
def deleteStateFile : Except Exception Unit :=
  if options.hasStateFile ∧ options.deleteStateFileOnStart then do
    let present ← answers.stateFileExists
    if present then
      let _ ← answers.removeStateFile
      return ()
    else return ()
  else return ()

/-- `initialize`. -/
def initializeConnection : Except Exception Subscription :=
  if !answers.initslcd then .error (.runtimeError "Failed to create client handle")
  else if answers.setServeraddress ≠ 0 then
    .error (.invalidArgument ("Failed to set server address " ++ String.ofList options.seedLinkAddress))
  else do
    deleteStateFile answers options
    let streams := addStreams answers options.mSelectors []
    if streams.isEmpty ∧ answers.setAllstationParams ≠ 0 then
      .error (.runtimeError "Failed to create a SEEDLink uni-station client")
    else if options.pingOnStartUp ∧ answers.ping ≠ 0 ∧ answers.ping ≠ -1 then
      .error (.runtimeError "Failed to connect")
    else .ok { streams, allStations := streams.isEmpty }

end

variable {answers : InitializeAnswers} {options : SEEDLinkClientOptions}

/-! ### The streams -/

/-- The stream that a selector stands for. -/
def streamOf (selector : StreamSelector) : Str × Str :=
  (selector.mNetwork ++ '_' :: selector.getStation, selector.getSelector)

def Accepts (answers : InitializeAnswers) (stream : Str × Str) : Prop := answers.addStream stream.1 stream.2 = 0

instance (answers : InitializeAnswers) : DecidablePred (Accepts answers) := fun _ =>
  inferInstanceAs (Decidable (_ = _))

theorem addStream_eq_ok_iff {selector : StreamSelector} {stream : Str × Str} (hnetwork : selector.hasNetwork = true) :
    addStream answers selector = .ok stream ↔ Accepts answers (streamOf selector) ∧ streamOf selector = stream := by
  have hget : selector.getNetwork = .ok selector.mNetwork := by
    rw [StreamSelector.getNetwork, hnetwork]
    rfl
  rw [addStream, hget, ok_bind, ite_error_eq_ok_iff, not_not, pure_eq_ok_iff]
  exact Iff.rfl

/-- The loop adds the streams that are accepted, in order. -/
theorem addStreams_eq {selectors : List StreamSelector} (hnetworks : ∀ s ∈ selectors, s.hasNetwork = true)
    (streams : List (Str × Str)) :
    addStreams answers selectors streams = streams ++ (selectors.map streamOf).filter (Accepts answers) := by
  induction selectors generalizing streams with
  | nil => simp [addStreams]
  | cons selector selectors ih =>
    obtain ⟨hfirst, hrest⟩ := List.forall_mem_cons.mp hnetworks
    rw [addStreams, List.map_cons]
    by_cases haccepted : Accepts answers (streamOf selector)
    · rw [(addStream_eq_ok_iff hfirst).mpr ⟨haccepted, rfl⟩, List.filter_cons_of_pos (by simpa using haccepted)]
      dsimp only
      rw [ih hrest, List.append_assoc]
      rfl
    · rw [List.filter_cons_of_neg (by simpa using haccepted)]
      cases hadd : addStream answers selector with
      | ok stream => exact absurd ((addStream_eq_ok_iff hfirst).mp hadd).1 haccepted
      | error e => exact ih hrest streams

/-- The file system answers, and does not throw, when the client looks for the state file and removes it. -/
def CanDelete (answers : InitializeAnswers) : Prop :=
  answers.stateFileExists = .ok false ∨
    answers.stateFileExists = .ok true ∧ ∃ removed, answers.removeStateFile = .ok removed

theorem deleteStateFile_eq_ok_iff :
    deleteStateFile answers options = .ok () ↔
      (options.hasStateFile = true → options.deleteStateFileOnStart = true → CanDelete answers) := by
  rw [deleteStateFile, ← and_imp, CanDelete]
  split
  · next hdelete =>
    rw [imp_iff_right hdelete, bind_eq_ok_iff]
    cases answers.stateFileExists with
    | error exception => simp
    | ok present =>
      cases present with
      | false => simp [pure_eq_ok_iff]
      | true => cases answers.removeStateFile <;> simp [pure_eq_ok_iff]
  · next hkeep => exact iff_of_true rfl fun h => absurd h hkeep

/-- The answers let the client be initialized, whatever the streams are. -/
structure Lets (answers : InitializeAnswers) (options : SEEDLinkClientOptions) : Prop where
  initslcd : answers.initslcd = true
  setServeraddress : answers.setServeraddress = 0
  stateFile : options.hasStateFile = true → options.deleteStateFileOnStart = true → CanDelete answers
  ping : options.pingOnStartUp = true → answers.ping = 0 ∨ answers.ping = -1

theorem initializeConnection_eq_ok_iff {subscription : Subscription}
    (hnetworks : ∀ s ∈ options.mSelectors, s.hasNetwork = true) :
    options.initializeConnection answers = .ok subscription ↔
      Lets answers options ∧
        (((options.mSelectors.map streamOf).filter (Accepts answers) = [] → answers.setAllstationParams = 0) ∧
          { streams := (options.mSelectors.map streamOf).filter (Accepts answers)
            allStations := ((options.mSelectors.map streamOf).filter (Accepts answers)).isEmpty } =
              subscription) := by
  rw [initializeConnection, addStreams_eq hnetworks, List.nil_append]
  dsimp only
  rw [ite_error_eq_ok_iff, ite_error_eq_ok_iff, bind_eq_ok_iff]
  simp only [ite_error_eq_ok_iff, Except.ok.injEq, Bool.not_eq_true', Bool.not_eq_false, not_not, List.isEmpty_iff,
    not_and]
  constructor
  · rintro ⟨hinitslcd, haddress, _, hdelete, hall, hping, hsubscription⟩
    refine ⟨⟨hinitslcd, haddress, deleteStateFile_eq_ok_iff.mp hdelete, fun hon => ?_⟩, hall, hsubscription⟩
    by_contra hnot
    obtain ⟨hzero, hinvalid⟩ := not_or.mp hnot
    exact hinvalid (hping hon hzero)
  · rintro ⟨⟨hinitslcd, haddress, hdelete, hping⟩, hall, hsubscription⟩
    exact ⟨hinitslcd, haddress, (), deleteStateFile_eq_ok_iff.mpr hdelete, hall,
      fun hon hzero => (hping hon).resolve_left hzero, hsubscription⟩

/-- A client whose old state file cannot be removed is not initialized. -/
example :
    initializeConnection { stateFileExists := .ok true, removeStateFile := .error (.runtimeError "not permitted") }
        { mStateFile := "state".toList, mDeleteStateFileOnStart := true } =
      .error (.runtimeError "not permitted") :=
  rfl

end SEEDLinkClientOptions

/-! ### Different selectors are different streams -/

namespace StreamSelector

theorem length_of_setNetwork {s s' : StreamSelector} {network : Str} (h : s.setNetwork network = .ok s') :
    s'.mNetwork.length = 2 := by
  rw [setNetwork] at h
  split at h
  · cases h
  · next hlength =>
    obtain rfl := Except.ok.inj h
    simpa using hlength

/-- The network of a selector that was read has two letters. -/
theorem length_of_fromString {boost : Boost} {text : Str} {s : StreamSelector}
    (h : fromString boost text = .ok s) : s.mNetwork.length = 2 := by
  rw [fromString] at h
  split at h
  · cases h
  · obtain ⟨network, _, h⟩ := bind_eq_ok_iff.mp h
    obtain ⟨selector, hnetwork, h⟩ := bind_eq_ok_iff.mp h
    rw [← length_of_setNetwork hnetwork]
    split at h
    · obtain ⟨station, _, h⟩ := bind_eq_ok_iff.mp h
      obtain ⟨selector', hstation, h⟩ := bind_eq_ok_iff.mp h
      rw [← pure_eq_ok_iff.mp h, mNetwork_readSelector, mNetwork_of_setStation hstation]
    · rw [← pure_eq_ok_iff.mp h, mNetwork_readSelector]

/-- Selectors that stand for one stream ask for the same. -/
theorem same_of_streamOf {s t : StreamSelector} (hs : s.mNetwork.length = 2) (ht : t.mNetwork.length = 2)
    (h : SEEDLinkClientOptions.streamOf s = SEEDLinkClientOptions.streamOf t) : s.Same t := by
  obtain ⟨hstation, hselector⟩ := Prod.mk.inj h
  obtain ⟨hnetwork, hstation⟩ := List.append_inj hstation (hs.trans ht.symm)
  exact ⟨hnetwork, List.tail_eq_of_cons_eq hstation, hselector⟩

end StreamSelector

namespace Section

variable {s : Section} {options : SEEDLinkClientOptions}

/-- **What a configured client asks for.** A client whose options were loaded is initialized just when libslink
gives it a structure and takes the address, the file system does not throw when an old state file is to be deleted,
the server, if it is to be pinged, does not fail to answer, and libslink takes one of the streams or all stations. It
then asks for the streams of the section that libslink took, in their order and none twice, and for all stations just
when there are none. -/
theorem subscription_iff (s : Section) (options : SEEDLinkClientOptions) (hload : s.getSEEDLinkOptions = .ok options)
    (answers : InitializeAnswers) :
    ∃ selectors, s.selectorTexts.mapM (StreamSelector.fromString s.boost) = .ok selectors ∧
      (selectors.map SEEDLinkClientOptions.streamOf).Nodup ∧
      ∀ subscription, options.initializeConnection answers = .ok subscription ↔
        SEEDLinkClientOptions.Lets answers options ∧
          (subscription.streams = [] → answers.setAllstationParams = 0) ∧
          subscription.streams =
            (selectors.map SEEDLinkClientOptions.streamOf).filter (SEEDLinkClientOptions.Accepts answers) ∧
          (subscription.allStations = true ↔ subscription.streams = []) := by
  obtain ⟨host, _, _, selectors, ⟨hread, hdiffer⟩, rfl⟩ := getSEEDLinkOptions_eq_ok_iff.mp hload
  have hselector : ∀ t ∈ selectors, t.mNetwork.length = 2 ∧ t.hasNetwork = true := by
    intro t ht
    have hmem : Except.ok t ∈ s.selectorTexts.map (StreamSelector.fromString s.boost) := by
      rw [mapM_eq_ok_iff.mp hread]
      exact List.mem_map_of_mem ht
    obtain ⟨text, _, htext⟩ := List.mem_map.mp hmem
    exact ⟨StreamSelector.length_of_fromString htext, StreamSelector.hasNetwork_of_fromString htext⟩
  refine ⟨selectors, hread, ?_, fun subscription => ?_⟩
  · refine List.pairwise_map.mpr (hdiffer.imp_of_mem fun ht ht' hnot heq => hnot ?_)
    exact StreamSelector.same_of_streamOf (hselector _ ht).1 (hselector _ ht').1 heq
  · have hmine : (s.loaded host selectors).mSelectors = selectors := rfl
    rw [SEEDLinkClientOptions.initializeConnection_eq_ok_iff (fun t ht => (hselector t ht).2), hmine]
    apply and_congr_right
    intro _
    constructor
    · rintro ⟨hall, rfl⟩
      exact ⟨hall, rfl, List.isEmpty_iff⟩
    · rintro ⟨hall, hstreams, hallStations⟩
      rw [← hstreams]
      refine ⟨hall, ?_⟩
      cases subscription with
      | mk streams allStations =>
        have hempty : streams.isEmpty = allStations := by
          rw [Bool.eq_iff_iff, List.isEmpty_iff]
          exact hallStations.symm
        rw [← hempty]

/-- Two selectors, of which libslink takes the second. -/
theorem subscription_iff_known :
    ∃ options, (knownSubscription [(2, "UU FORK|UU CTU".toList)]).getSEEDLinkOptions = .ok options ∧
      options.initializeConnection { addStream := fun station _ => if station = "UU_FORK".toList then -1 else 0 } =
        .ok { streams := [("UU_CTU".toList, "??*.*".toList)] } := by
  have hread : ((knownSubscription [(2, "UU FORK|UU CTU".toList)]).selectorTexts.mapM
      (StreamSelector.fromString .known)).map
        (fun selectors => (selectors.map SEEDLinkClientOptions.streamOf,
          decide (selectors.Pairwise fun t t' => ¬ t.Same t'))) =
        .ok ([("UU_FORK".toList, "??*.*".toList), ("UU_CTU".toList, "??*.*".toList)], true) := by
    rw [selectorTexts_knownSubscription _ 2 (by decide) (by decide)]
    decide +kernel
  obtain ⟨selectors, hselectors, heq⟩ := map_eq_ok_iff.mp hread
  obtain ⟨hstreams, hdiffer⟩ := Prod.mk.inj heq
  have hhost : (knownSubscription [(2, "UU FORK|UU CTU".toList)]).propertyTree.data
      ((knownSubscription [(2, "UU FORK|UU CTU".toList)]).key "host") = some "rtserve.earthscope.org".toList := by
    decide +kernel
  have hstateFile : (knownSubscription [(2, "UU FORK|UU CTU".toList)]).stateFile = [] := by decide +kernel
  have hload := getSEEDLinkOptions_eq_ok_iff.mpr ⟨_, ⟨hhost, 'r', by decide +kernel, by decide⟩,
    .inl (by rw [hstateFile]; rfl), selectors, ⟨hselectors, of_decide_eq_true hdiffer⟩, rfl⟩
  refine ⟨_, hload, ?_⟩
  obtain ⟨selectors', hselectors', _, hasks⟩ := subscription_iff _ _ hload
    { addStream := fun station _ => if station = "UU_FORK".toList then -1 else 0 }
  obtain rfl := Except.ok.inj (hselectors.symm.trans hselectors')
  refine (hasks _).mpr ⟨⟨rfl, rfl, fun _ _ => .inl rfl, fun _ => .inl rfl⟩, fun _ => rfl, ?_, by decide⟩
  rw [hstreams]
  decide +kernel

end Section

end USEEDLinkToRingServer
