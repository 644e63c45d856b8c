import USEEDLinkToRingServer.DataLinkClientOptions
import USEEDLinkToRingServer.SEEDLinkClientOptions

/-!
# The options of the SEEDLink client as objects

Whatever is called, an options object keeps of the selectors it was offered the first of those that ask the
server for the same.
-/

namespace USEEDLinkToRingServer

open Fallible Objects

namespace SEEDLinkClientOptions

section

variable (options : SEEDLinkClientOptions)

/-- In seconds, as the delay. -/
def setNetworkTimeOut (timeOut : Int) : Except Exception SEEDLinkClientOptions :=
  if timeOut < 0 then .error (.invalidArgument "Network time-out cannot be negative")
  else .ok { options with mNetworkTimeOut := timeOut }

def setNetworkReconnectDelay (delay : Int) : Except Exception SEEDLinkClientOptions :=
  if delay < 0 then .error (.invalidArgument "Network delay cannot be negative")
  else .ok { options with mNetworkDelay := delay }

end

/-- What a client can call. -/
inductive OptionCall
  | setHost (host : Str)
  | setPort (port : UInt16)
  | setStateFile (files : FileSystem) (stateFile : Str)
  | setStateFileUpdateInterval (interval : UInt16)
  | setNetworkTimeOut (timeOut : Int)
  | setNetworkReconnectDelay (delay : Int)
  | deleteStateFileOnStart (enable : Bool)
  | deleteStateFileOnStop (enable : Bool)
  | pingOnStartUp (enable : Bool)
  | addStreamSelector (selector : StreamSelector)
  | clear

/-! The statements of the setters that throw, on the object they change. -/

def setHostTo (hostIn : Str) : EStateM Exception SEEDLinkClientOptions Unit := do
  let host := (hostIn.filter (· != ' ')).map tolower
  if host.isEmpty then throw (.invalidArgument "Host is empty")
  modify fun options => { options with mHost := host }

def setStateFileTo (files : FileSystem) (stateFile : Str) : EStateM Exception SEEDLinkClientOptions Unit := do
  if stateFile.isEmpty then
    modify fun options => { options with mStateFile := [] }
  else
    let _ ← ofExcept (files.makeParentPath stateFile (.runtimeError "Failed to create state file path"))
    modify fun options => { options with mStateFile := stateFile }

def setNetworkTimeOutTo (timeOut : Int) : EStateM Exception SEEDLinkClientOptions Unit := do
  if timeOut < 0 then throw (.invalidArgument "Network time-out cannot be negative")
  modify fun options => { options with mNetworkTimeOut := timeOut }

def setNetworkReconnectDelayTo (delay : Int) : EStateM Exception SEEDLinkClientOptions Unit := do
  if delay < 0 then throw (.invalidArgument "Network delay cannot be negative")
  modify fun options => { options with mNetworkDelay := delay }

def addStreamSelectorTo (selector : StreamSelector) : EStateM Exception SEEDLinkClientOptions Unit := do
  if !selector.hasNetwork then throw (.invalidArgument "Network not set")
  let options ← get
  forM options.mSelectors fun mySelector => ofExcept (refuseDuplicate selector mySelector)
  modify fun options => { options with mSelectors := options.mSelectors ++ [selector] }

def callOption (options : SEEDLinkClientOptions) : OptionCall → SEEDLinkClientOptions × Except Exception Unit
  | .setHost host => perform options (setHostTo host)
  | .setPort port => (options.setPort port, .ok ())
  | .setStateFile files stateFile => perform options (setStateFileTo files stateFile)
  | .setStateFileUpdateInterval interval => (options.setStateFileUpdateInterval interval, .ok ())
  | .setNetworkTimeOut timeOut => perform options (setNetworkTimeOutTo timeOut)
  | .setNetworkReconnectDelay delay => perform options (setNetworkReconnectDelayTo delay)
  | .deleteStateFileOnStart enable =>
    (if enable then options.enableDeleteStateFileOnStart else options.disableDeleteStateFileOnStart, .ok ())
  | .deleteStateFileOnStop enable =>
    (if enable then options.enableDeleteStateFileOnStop else options.disableDeleteStateFileOnStop, .ok ())
  | .pingOnStartUp enable =>
    (if enable then options.enablePingOnStartUp else options.disablePingOnStartUp, .ok ())
  | .addStreamSelector selector => perform options (addStreamSelectorTo selector)
  | .clear => ({}, .ok ())

/-- The class of options, with its one constructor. -/
def optionObjects : Class SEEDLinkClientOptions Unit OptionCall Exception := ⟨fun _ => .ok {}, callOption⟩

/-! ### Calls that throw -/

/-- The loop over the selectors only looks, so an exception leaves the object as it was. -/
theorem perform_addStreamSelectorTo (options : SEEDLinkClientOptions) (selector : StreamSelector) :
    perform options (addStreamSelectorTo selector) = attempt options (options.addStreamSelector selector) := by
  rw [addStreamSelectorTo, addStreamSelector]
  refine perform_check fun _ => ?_
  show perform options (EStateM.bind
    (forM options.mSelectors fun mySelector => ofExcept (refuseDuplicate selector mySelector)) _) = _
  rw [perform, EStateM.run, EStateM.bind]
  cases hchecks : forM options.mSelectors (refuseDuplicate selector) with
  | error e =>
    rw [run_forM_error options hchecks]
    rfl
  | ok _ =>
    rw [run_forM_ok options hchecks]
    rfl

/-- The options that a call makes of others if it returns. -/
def outcome (options : SEEDLinkClientOptions) : OptionCall → Except Exception SEEDLinkClientOptions
  | .setHost host => options.setHost host
  | .setStateFile files stateFile => options.setStateFile files stateFile
  | .setNetworkTimeOut timeOut => options.setNetworkTimeOut timeOut
  | .setNetworkReconnectDelay delay => options.setNetworkReconnectDelay delay
  | .addStreamSelector selector => options.addStreamSelector selector
  | call => .ok (options.callOption call).1

/-- The setters check what they are given before they change the options. -/
theorem callOption_eq_attempt (options : SEEDLinkClientOptions) (c : OptionCall) :
    optionObjects.call options c = attempt options (options.outcome c) := by
  cases c with
  | setHost host =>
    show perform options (setHostTo host) = attempt options (options.setHost host)
    rw [setHostTo, setHost]
    exact perform_check fun _ => rfl
  | setStateFile files stateFile =>
    show perform options (setStateFileTo files stateFile) = attempt options (options.setStateFile files stateFile)
    rw [setStateFileTo, setStateFile]
    split
    · rfl
    · cases files.makeParentPath stateFile (.runtimeError "Failed to create state file path") <;> rfl
  | setNetworkTimeOut timeOut =>
    show perform options (setNetworkTimeOutTo timeOut) = attempt options (options.setNetworkTimeOut timeOut)
    rw [setNetworkTimeOutTo, setNetworkTimeOut]
    exact perform_check fun _ => rfl
  | setNetworkReconnectDelay delay =>
    show perform options (setNetworkReconnectDelayTo delay) =
      attempt options (options.setNetworkReconnectDelay delay)
    rw [setNetworkReconnectDelayTo, setNetworkReconnectDelay]
    exact perform_check fun _ => rfl
  | addStreamSelector selector => exact perform_addStreamSelectorTo options selector
  | setPort | setStateFileUpdateInterval | deleteStateFileOnStart | deleteStateFileOnStop | pingOnStartUp
  | clear => rfl

/-! ### What an options object holds -/

structure Valid (options : SEEDLinkClientOptions) : Prop where
  host : options.mHost ≠ [] ∧ ∀ c ∈ options.mHost, c ≠ ' ' ∧ c.isUpper = false
  times : 0 ≤ options.mNetworkTimeOut ∧ 0 ≤ options.mNetworkDelay
  selectors : options.Distinct

variable {options options' : SEEDLinkClientOptions}

/-- What only sets a flag, the port, the state file or the interval. -/
theorem Valid.of_same (h : options.Valid) (hhost : options'.mHost = options.mHost)
    (htimeOut : options'.mNetworkTimeOut = options.mNetworkTimeOut)
    (hdelay : options'.mNetworkDelay = options.mNetworkDelay)
    (hselectors : options'.mSelectors = options.mSelectors) : options'.Valid where
  host := by rw [hhost]; exact h.host
  times := by rw [htimeOut, hdelay]; exact h.times
  selectors := ⟨by rw [hselectors]; exact h.selectors.networks, by rw [hselectors]; exact h.selectors.differ⟩

theorem setStateFile_cases {files : FileSystem} {stateFile : Str}
    (h : options.setStateFile files stateFile = .ok options') :
    options' = { options with mStateFile := stateFile } := by
  rw [setStateFile] at h
  split at h
  · next hempty =>
    rw [List.isEmpty_iff.mp hempty]
    exact (Except.ok.inj h).symm
  · obtain ⟨_, _, h⟩ := bind_eq_ok_iff.mp h
    exact (pure_eq_ok_iff.mp h).symm

theorem setNetworkTimeOut_eq_ok_iff {timeOut : Int} :
    options.setNetworkTimeOut timeOut = .ok options' ↔
      0 ≤ timeOut ∧ { options with mNetworkTimeOut := timeOut } = options' := by
  rw [setNetworkTimeOut, ite_error_eq_ok_iff, Except.ok.injEq, not_lt]

theorem setNetworkReconnectDelay_eq_ok_iff {delay : Int} :
    options.setNetworkReconnectDelay delay = .ok options' ↔
      0 ≤ delay ∧ { options with mNetworkDelay := delay } = options' := by
  rw [setNetworkReconnectDelay, ite_error_eq_ok_iff, Except.ok.injEq, not_lt]

theorem valid_default : Valid {} where
  host := by
    have hplain : ("rtserve.earthscope.org".toList.all fun c => decide (c ≠ ' ' ∧ c.isUpper = false)) = true := by
      decide
    exact ⟨by decide, fun c hc => of_decide_eq_true (List.all_eq_true.mp hplain c hc)⟩
  times := by decide
  selectors := distinct_of_nil rfl

theorem keeps_valid : optionObjects.Keeps Valid where
  make := by
    intro _ options hmake
    obtain rfl := Except.ok.inj hmake
    exact valid_default
  call := by
    intro options call h
    rw [callOption_eq_attempt]
    refine attempt_keeps (I := Valid) h fun options' hset => ?_
    cases call with
    | setHost host =>
      obtain ⟨⟨c, hc, hblank⟩, rfl⟩ := setHost_eq_ok_iff.mp hset
      refine ⟨⟨?_, fun c' hc' => ?_⟩, h.times, h.selectors.networks, h.selectors.differ⟩
      · exact List.ne_nil_of_mem (List.mem_map_of_mem (List.mem_filter.mpr ⟨hc, by simpa using hblank⟩))
      · obtain ⟨c'', hc'', rfl⟩ := List.mem_map.mp hc'
        exact DataLinkClientOptions.tolower_character (by simpa using (List.mem_filter.mp hc'').2)
    | setStateFile files stateFile =>
      rw [setStateFile_cases hset]
      exact h.of_same rfl rfl rfl rfl
    | setNetworkTimeOut timeOut =>
      obtain ⟨htimeOut, rfl⟩ := setNetworkTimeOut_eq_ok_iff.mp hset
      exact ⟨h.host, ⟨htimeOut, h.times.2⟩, h.selectors.networks, h.selectors.differ⟩
    | setNetworkReconnectDelay delay =>
      obtain ⟨hdelay, rfl⟩ := setNetworkReconnectDelay_eq_ok_iff.mp hset
      exact ⟨h.host, ⟨h.times.1, hdelay⟩, h.selectors.networks, h.selectors.differ⟩
    | addStreamSelector selector =>
      obtain ⟨hnetwork, hnew, rfl⟩ := (addStreamSelector_eq_ok_iff h.selectors.networks).mp hset
      exact ⟨h.host, h.times, h.selectors.add hnetwork hnew⟩
    | clear =>
      obtain rfl := Except.ok.inj hset
      exact valid_default
    | setPort port | setStateFileUpdateInterval interval =>
      obtain rfl := Except.ok.inj hset
      exact h.of_same rfl rfl rfl rfl
    | deleteStateFileOnStart enable | deleteStateFileOnStop enable | pingOnStartUp enable =>
      obtain rfl := Except.ok.inj hset
      cases enable <;> exact h.of_same rfl rfl rfl rfl

/-! ### The selectors -/

instance : DecidableRel fun s t : StreamSelector => ¬ s.Same t := fun _ _ => inferInstance

/-- Of the selectors that ask for the same, the first. -/
def firsts (selectors : List StreamSelector) : List StreamSelector :=
  (selectors.reverse.pwFilter fun s t => ¬ s.Same t).reverse

/-- The selectors that were offered after the last call of `clear`, but for those without a network. -/
def OptionCall.offer (offered : List StreamSelector) : OptionCall → List StreamSelector
  | .addStreamSelector selector => if selector.hasNetwork then offered ++ [selector] else offered
  | .clear => []
  | _ => offered

def OptionCall.keepsSelectors : OptionCall → Bool
  | .addStreamSelector _ | .clear => false
  | _ => true

theorem Same.symm {s t : StreamSelector} (h : s.Same t) : t.Same s := ⟨h.1.symm, h.2.1.symm, h.2.2.symm⟩

theorem firsts_of_pairwise {selectors : List StreamSelector}
    (h : selectors.Pairwise fun s t => ¬ s.Same t) : firsts selectors = selectors := by
  have hreverse : selectors.reverse.Pairwise fun s t => ¬ s.Same t :=
    List.pairwise_reverse.mpr (h.imp fun hnot hsame => hnot (Same.symm hsame))
  rw [firsts, List.pwFilter_eq_self.mpr hreverse, List.reverse_reverse]

theorem firsts_concat (selectors : List StreamSelector) (selector : StreamSelector) :
    firsts (selectors ++ [selector]) =
      if ∀ s ∈ firsts selectors, ¬ s.Same selector then firsts selectors ++ [selector] else firsts selectors := by
  have hsymm : (∀ s ∈ firsts selectors, ¬ s.Same selector) ↔
      ∀ s ∈ selectors.reverse.pwFilter (fun s t => ¬ s.Same t), ¬ selector.Same s := by
    simp only [firsts, List.mem_reverse]
    exact forall₂_congr fun s _ => not_congr ⟨Same.symm, Same.symm⟩
  rw [firsts, List.reverse_append, List.reverse_singleton, List.singleton_append]
  split
  · next hnew =>
    rw [List.pwFilter_cons_of_pos (hsymm.mp hnew), List.reverse_cons]
    rfl
  · next hold =>
    rw [List.pwFilter_cons_of_neg (fun hnew => hold (hsymm.mpr hnew))]
    rfl

theorem addStreamSelector_selectors (h : options.Distinct) (selector : StreamSelector) :
    (attempt options (options.addStreamSelector selector)).1.mSelectors =
      if selector.hasNetwork = true ∧ ∀ s ∈ options.mSelectors, ¬ s.Same selector then
        options.mSelectors ++ [selector]
      else options.mSelectors := by
  split
  · next hadded =>
    rw [(addStreamSelector_eq_ok_iff h.networks).mpr ⟨hadded.1, hadded.2, rfl⟩]
    rfl
  · next hrefused =>
    rw [attempt_of_ne_ok]
    rintro options' hset
    obtain ⟨hnetwork, hnew, _⟩ := (addStreamSelector_eq_ok_iff h.networks).mp hset
    exact hrefused ⟨hnetwork, hnew⟩

theorem callOption_selectors {call : OptionCall} (h : call.keepsSelectors = true) :
    (optionObjects.call options call).1.mSelectors = options.mSelectors := by
  rw [callOption_eq_attempt]
  refine attempt_keeps (I := fun o : SEEDLinkClientOptions => o.mSelectors = options.mSelectors) rfl ?_
  intro options' hset
  cases call with
  | addStreamSelector | clear => cases h
  | setHost host => rw [← (setHost_eq_ok_iff.mp hset).2]
  | setStateFile files stateFile => rw [setStateFile_cases hset]
  | setNetworkTimeOut timeOut => rw [← (setNetworkTimeOut_eq_ok_iff.mp hset).2]
  | setNetworkReconnectDelay delay => rw [← (setNetworkReconnectDelay_eq_ok_iff.mp hset).2]
  | setPort port | setStateFileUpdateInterval interval =>
    obtain rfl := Except.ok.inj hset
    rfl
  | deleteStateFileOnStart enable | deleteStateFileOnStop enable | pingOnStartUp enable =>
    obtain rfl := Except.ok.inj hset
    cases enable <;> rfl

theorem after_selectors (h : options.Valid) (calls : List OptionCall) :
    (optionObjects.after options calls).mSelectors = firsts (calls.foldl OptionCall.offer options.mSelectors) := by
  induction calls using List.reverseRecOn with
  | nil => exact (firsts_of_pairwise h.selectors.differ).symm
  | append_singleton calls call ih =>
    have hvalid : (optionObjects.after options calls).Valid := keeps_valid.after h calls
    rw [Class.after_append, List.foldl_append]
    show (optionObjects.call (optionObjects.after options calls) call).1.mSelectors =
      firsts (OptionCall.offer (calls.foldl OptionCall.offer options.mSelectors) call)
    cases call with
    | clear => rfl
    | addStreamSelector selector =>
      rw [callOption_eq_attempt]
      show (attempt _ (addStreamSelector _ selector)).1.mSelectors = _
      rw [addStreamSelector_selectors hvalid.selectors, ih, OptionCall.offer]
      by_cases hnetwork : selector.hasNetwork = true
      · simp only [hnetwork, true_and, if_true, firsts_concat]
      · simp only [hnetwork, false_and, if_false, Bool.false_eq_true]
    | _ =>
      rw [callOption_selectors rfl, ih]
      rfl

theorem callOption_error {c : OptionCall} {e : Exception} (h : (optionObjects.call options c).2 = .error e) :
    (optionObjects.call options c).1 = options := by
  rw [callOption_eq_attempt] at h ⊢
  exact attempt_error h

/-- **Nothing is asked for twice.** Whatever a client has called, copied, moved and assigned, the options it
holds have a host, no negative times and selectors with networks, no two of which ask the server for the same.
After more calls they have, of the selectors offered since the last `clear`, the first of those that ask for the
same, in order. A call that throws changes nothing. -/
theorem selectors_are_firsts {Var : Type} [DecidableEq Var] (s : Var → Option SEEDLinkClientOptions)
    (hreached : Machine.Reaches optionObjects.next (fun _ => none) s) (x : Var) (options : SEEDLinkClientOptions)
    (hx : s x = some options) :
    options.Valid ∧
      (∀ calls, (optionObjects.after options calls).mSelectors =
        firsts (calls.foldl OptionCall.offer options.mSelectors)) ∧
      ∀ c e, (optionObjects.call options c).2 = .error e → (optionObjects.call options c).1 = options := by
  have hvalid : options.Valid := keeps_valid.live hreached hx
  exact ⟨hvalid, after_selectors hvalid, fun c e => callOption_error⟩

def knownSelector (station : String) : StreamSelector :=
  { mNetwork := ['U', 'U'], mStation := station.toList, mChannel := ['*'], mLocationCode := ['?', '?'] }

/-- Two of three selectors ask for the same, and the options are copied in between. -/
def knownOptionCommands : List (Command Bool Unit OptionCall) :=
  [.make true (), .call true (.addStreamSelector (knownSelector "FORK")), .copy false true,
    .call false (.addStreamSelector (knownSelector "FORK")), .call false (.addStreamSelector (knownSelector "CTU"))]

theorem selectors_are_firsts_known :
    ∃ s options, Machine.exec optionObjects.next (fun _ => none) knownOptionCommands = some s ∧ s false = some options ∧
      options.mSelectors = [knownSelector "FORK", knownSelector "CTU"] ∧ options.Valid := by
  have hruns : (Machine.exec optionObjects.next (fun _ => none) knownOptionCommands).map
      (fun s => (s false).map (·.mSelectors)) = some (some [knownSelector "FORK", knownSelector "CTU"]) := by
    decide +kernel
  obtain ⟨s, hrun, hheld⟩ := Option.map_eq_some_iff.mp hruns
  obtain ⟨options, hoptions, hselectors⟩ := Option.map_eq_some_iff.mp hheld
  exact ⟨s, options, hrun, hoptions, hselectors, (selectors_are_firsts s ⟨_, hrun⟩ false options hoptions).1⟩

end SEEDLinkClientOptions

end USEEDLinkToRingServer
