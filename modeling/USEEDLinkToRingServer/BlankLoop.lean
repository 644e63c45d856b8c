import USEEDLinkToRingServer.Library.Machine
import USEEDLinkToRingServer.Library.Runs
import USEEDLinkToRingServer.SelectorText

/-!
# The loop over the blanks, turn by turn

The loop of `fromString` erases from the text it runs over and moves on in the other case only. Each turn uses
up one character of what is left, so the loop ends, and what it leaves has one blank for each run that it
reaches. It counts with an `int` up to the size cast to `int`, which is where a long text falls short.
-/

namespace USEEDLinkToRingServer

open Machine Tokens

namespace StreamSelector

/-- The variables of the loop. -/
structure BlankLoop where
  splitSelector : Str
  k : Nat := 1
deriving DecidableEq, Repr

/-- One turn: the test of the loop and its body. -/
def blankTurn (loop : BlankLoop) (_ : Unit) : Option BlankLoop :=
  if loop.k < castToInt loop.splitSelector.length then
    if loop.splitSelector[loop.k - 1]? = loop.splitSelector[loop.k]? ∧
        loop.splitSelector[loop.k]? = some ' ' then
      some { loop with splitSelector := loop.splitSelector.eraseIdx loop.k }
    else some { loop with k := loop.k + 1 }
  else none

/-- What the loop is there for. -/
structure CollapsesBlanks (s : Str) : Prop where
  /-- The loop ends, and what it leaves is what `fromString` goes on with. -/
  terminates : ∃ turns loop, turns.length ≤ s.length ∧ exec blankTurn ⟨s, 1⟩ turns = some loop ∧
    blankTurn loop () = none ∧ loop.splitSelector = eraseDoubleBlanks s 1
  /-- Both characters of a comparison are there, the character erased is there, and the index remains an
  `int`. -/
  inRange : ∀ loop loop', Reaches blankTurn ⟨s, 1⟩ loop → blankTurn loop () = some loop' →
    1 ≤ loop.k ∧ loop.k < loop.splitSelector.length ∧ loop'.k < 2 ^ 31
  noDouble : NoDouble ' ' (eraseDoubleBlanks s 1)
  /-- One blank for each run of blanks, and every other character. -/
  collapsed : eraseDoubleBlanks s 1 = runHeads ' ' s
  again : eraseDoubleBlanks (eraseDoubleBlanks s 1) 1 = eraseDoubleBlanks s 1

/-! ### The turns -/

variable {loop loop' : BlankLoop} {s : Str}

theorem lt_reach_of_blankTurn (h : blankTurn loop () = some loop') :
    loop.k < reach loop.splitSelector.length := by
  rw [lt_reach_iff]
  unfold blankTurn at h
  split at h
  · next hmore => exact hmore
  · cases h

/-- A turn leaves what the rest of the loop will make of the text as it was, and uses up one character. -/
theorem blankTurn_eq_some (h : blankTurn loop () = some loop') :
    eraseDoubleBlanks loop'.splitSelector loop'.k = eraseDoubleBlanks loop.splitSelector loop.k ∧
      loop'.splitSelector.length - loop'.k + 1 = loop.splitSelector.length - loop.k ∧
      loop.k ≤ loop'.k ∧ loop'.k ≤ loop.k + 1 := by
  have hreach := lt_reach_of_blankTurn h
  have hlength := hreach.trans_le (reach_le loop.splitSelector.length)
  rw [blankTurn, if_pos ((lt_reach_iff _ _).mp hreach)] at h
  split at h
  · next hsame =>
    obtain rfl := Option.some.inj h
    refine ⟨(eraseDoubleBlanks_erase hreach ⟨hsame.1.trans hsame.2, hsame.2⟩).symm, ?_, le_rfl, Nat.le_succ _⟩
    show (loop.splitSelector.eraseIdx loop.k).length - loop.k + 1 = _
    rw [List.length_eraseIdx_of_lt hlength]
    omega
  · next hother =>
    obtain rfl := Option.some.inj h
    refine ⟨(eraseDoubleBlanks_next hreach fun hblanks => ?_).symm, ?_, Nat.le_succ _, le_rfl⟩
    · exact hother ⟨hblanks.1.trans hblanks.2.symm, hblanks.2⟩
    · show loop.splitSelector.length - (loop.k + 1) + 1 = _
      omega

theorem blankTurn_eq_none (h : blankTurn loop () = none) :
    eraseDoubleBlanks loop.splitSelector loop.k = loop.splitSelector := by
  refine eraseDoubleBlanks_of_le (not_lt.mp fun hmore => ?_)
  rw [blankTurn, if_pos ((lt_reach_iff _ _).mp hmore)] at h
  split at h <;> cases h

/-! ### The whole loop -/

theorem loop_terminates (loop : BlankLoop) :
    ∃ turns last, turns.length ≤ loop.splitSelector.length - loop.k ∧
      exec blankTurn loop turns = some last ∧ blankTurn last () = none ∧
      last.splitSelector = eraseDoubleBlanks loop.splitSelector loop.k := by
  generalize hleft : loop.splitSelector.length - loop.k = left
  induction left generalizing loop with
  | zero =>
    refine ⟨[], loop, Nat.le_refl _, rfl, ?_, ?_⟩
    all_goals
      have hle : reach loop.splitSelector.length ≤ loop.k :=
        (reach_le _).trans (Nat.le_of_sub_eq_zero hleft)
    · exact if_neg (mt (lt_reach_iff _ _).mpr hle.not_gt)
    · exact (eraseDoubleBlanks_of_le hle).symm
  | succ left ih =>
    cases hturn : blankTurn loop () with
    | none => exact ⟨[], loop, Nat.zero_le _, rfl, hturn, (blankTurn_eq_none hturn).symm⟩
    | some next =>
      obtain ⟨hsame, hless, _, _⟩ := blankTurn_eq_some hturn
      obtain ⟨turns, last, hlength, hrun, hend, hlast⟩ := ih next (by omega)
      refine ⟨() :: turns, last, Nat.succ_le_succ hlength, ?_, hend, hlast.trans hsame⟩
      exact exec_cons_eq_some.mpr ⟨next, hturn, hrun⟩

theorem loop_inRange (hreached : Reaches blankTurn ⟨s, 1⟩ loop) (h : blankTurn loop () = some loop') :
    1 ≤ loop.k ∧ loop.k < loop.splitSelector.length ∧ loop'.k < 2 ^ 31 := by
  have hk : 1 ≤ loop.k := by
    obtain ⟨turns, hrun⟩ := hreached
    refine invariant (I := fun loop => 1 ≤ loop.k) ?_ le_rfl hrun
    intro loop _ loop' hk hturn
    exact hk.trans (blankTurn_eq_some hturn).2.2.1
  have hreach := lt_reach_of_blankTurn h
  refine ⟨hk, hreach.trans_le (reach_le _), ?_⟩
  have hint := (castToInt_le loop.splitSelector.length).2
  have hmore := (lt_reach_iff _ _).mp hreach
  have hstep := (blankTurn_eq_some h).2.2.2
  omega

/-- The loop that reaches far enough does what it is there for. -/
theorem collapsesBlanks_of_noDouble (h : NoDouble ' ' (s.drop (reach s.length - 1))) : CollapsesBlanks s := by
  have hall : eraseDoubleBlanks s 1 = squeeze ' ' s := by
    rw [eraseDoubleBlanks_eq]
    exact (squeezeTo_eq_squeeze_iff _ s).mpr h
  obtain ⟨turns, last, hlength, hrun, hend, hlast⟩ := loop_terminates ⟨s, 1⟩
  refine ⟨⟨turns, last, hlength.trans (Nat.sub_le _ _), hrun, hend, hlast⟩, fun loop loop' => loop_inRange,
    ?_, ?_, ?_⟩
  · rw [hall]
    exact noDouble_squeeze s
  · rw [hall, squeeze_eq_runHeads]
  · rw [hall, eraseDoubleBlanks_eq]
    have hsingle : NoDouble ' ' (squeeze ' ' s) := noDouble_squeeze s
    exact ((squeezeTo_eq_squeeze_iff _ _).mpr (hsingle.drop _)).trans (squeeze_squeeze s)

/-- A text of fewer than 2^31 characters is reached to its end. -/
theorem collapsesBlanks_of_lt (h : s.length < 2 ^ 31) : CollapsesBlanks s := by
  apply collapsesBlanks_of_noDouble
  rw [noDouble_drop_iff, reach, castToInt_of_lt h, Int.toNat_natCast]
  rintro k hk ⟨_, hnext⟩
  obtain ⟨hlt, _⟩ := List.getElem?_eq_some_iff.mp hnext
  omega

/-- **The loop that collapses blanks** ends, keeps its index in range and leaves one blank of each run exactly
when no blank that is out of its reach follows another. -/
theorem collapsesBlanks_iff (s : Str) :
    CollapsesBlanks s ↔ ∀ k, reach s.length ≤ k + 1 → ¬ (s[k]? = some ' ' ∧ s[k + 1]? = some ' ') := by
  have hdrop : NoDouble ' ' (s.drop (reach s.length - 1)) ↔
      ∀ k, reach s.length ≤ k + 1 → ¬ (s[k]? = some ' ' ∧ s[k + 1]? = some ' ') := by
    rw [noDouble_drop_iff]
    exact forall_congr' fun k => imp_congr Nat.sub_le_iff_le_add Iff.rfl
  rw [← hdrop]
  refine ⟨fun h => ?_, collapsesBlanks_of_noDouble⟩
  rw [← squeezeTo_eq_squeeze_iff, squeeze_eq_runHeads, ← h.collapsed, eraseDoubleBlanks_eq]

/-- The size of a letter, 2^31 blanks and another letter is a negative `int`, so the loop does not begin. -/
theorem not_collapsesBlanks : ¬ CollapsesBlanks ('a' :: (List.replicate (2 ^ 31) ' ' ++ ['b'])) := by
  intro h
  have hlength : ('a' :: (List.replicate (2 ^ 31) ' ' ++ ['b'])).length = 2 ^ 31 + 2 := by
    rw [List.length_cons, List.length_append, List.length_replicate, List.length_singleton]
  have hreach : reach (2 ^ 31 + 2) = 0 := by decide
  have hblank : ∀ k, k < 2 ^ 31 → ('a' :: (List.replicate (2 ^ 31) ' ' ++ ['b']))[k + 1]? = some ' ' := by
    intro k hk
    rw [List.getElem?_cons_succ, List.getElem?_append_left (by rwa [List.length_replicate]),
      List.getElem?_replicate_of_lt hk]
  have hnone := h.noDouble
  rw [eraseDoubleBlanks_eq, hlength, hreach, squeezeTo_zero, noDouble_iff] at hnone
  exact hnone 1 ⟨hblank 0 (by decide), hblank 1 (by decide)⟩

end StreamSelector

end USEEDLinkToRingServer
