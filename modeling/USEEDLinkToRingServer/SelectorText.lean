import USEEDLinkToRingServer.Library.Tokens
import USEEDLinkToRingServer.StreamSelector

/-!
# The text of a selector

A selector is given as tokens with blanks and tabs between them. Before the text is cut at these, a loop makes
one blank of several in a row. It leaves tabs alone, and blanks next to a tab, so that a gap between two tokens
can still leave empty parts.
-/

namespace USEEDLinkToRingServer

open Tokens

namespace StreamSelector

/-! ### The loop over the blanks -/

/-- The number of characters that the loop reaches. The size is cast to `int`, so the end of a text that is
too long is out of reach. -/
def reach (size : Nat) : Nat := (castToInt size).toNat

theorem lt_reach_iff (k size : Nat) : k < reach size ↔ (k : Int) < castToInt size := by
  rw [reach, Int.lt_toNat]

theorem reach_le (size : Nat) : reach size ≤ size := Int.toNat_le.mpr (castToInt_le size).1

/-- A text that gets shorter by one character is reached one character less. -/
theorem reach_pred {size : Nat} (h : 0 < reach (size + 1)) : reach size = reach (size + 1) - 1 := by
  have hcast := castToInt_pred ((lt_reach_iff 0 (size + 1)).mp h)
  rw [reach, reach, hcast]
  exact Int.toNat_sub' _ 1

section Loop

variable {s : Str} {k : Nat}

theorem eraseDoubleBlanks_of_le (h : reach s.length ≤ k) : eraseDoubleBlanks s k = s := by
  unfold eraseDoubleBlanks
  exact dif_neg (mt (lt_reach_iff k s.length).mpr h.not_gt)

theorem eraseDoubleBlanks_erase (h : k < reach s.length) (hsame : s[k - 1]? = some ' ' ∧ s[k]? = some ' ') :
    eraseDoubleBlanks s k = eraseDoubleBlanks (s.eraseIdx k) k := by
  obtain ⟨hprevious, hprevious_eq⟩ := List.getElem?_eq_some_iff.mp hsame.1
  obtain ⟨hthis, hthis_eq⟩ := List.getElem?_eq_some_iff.mp hsame.2
  conv_lhs => unfold eraseDoubleBlanks
  rw [dif_pos ((lt_reach_iff k s.length).mp h)]
  exact if_pos ⟨hprevious_eq.trans hthis_eq.symm, hthis_eq⟩

theorem eraseDoubleBlanks_next (h : k < reach s.length) (hother : ¬ (s[k - 1]? = some ' ' ∧ s[k]? = some ' ')) :
    eraseDoubleBlanks s k = eraseDoubleBlanks s (k + 1) := by
  conv_lhs => unfold eraseDoubleBlanks
  rw [dif_pos ((lt_reach_iff k s.length).mp h)]
  refine if_neg fun hsame => hother ?_
  have hthis : s[k]? = some ' ' := by
    rw [← hsame.2]
    exact List.getElem?_eq_getElem _
  refine ⟨?_, hthis⟩
  rw [← hsame.2, ← hsame.1]
  exact List.getElem?_eq_getElem _

end Loop

/-- What the loop makes of a text from a position on. -/
theorem eraseDoubleBlanks_append (before : Str) (c : Char) (s : Str) :
    eraseDoubleBlanks (before ++ c :: s) (before.length + 1) =
      before ++ squeezeTo ' ' (reach (before.length + 1 + s.length) - before.length) (c :: s) := by
  induction s generalizing before c with
  | nil =>
    have hle := reach_le (before ++ [c]).length
    rw [List.length_append, List.length_singleton] at hle
    rw [eraseDoubleBlanks_of_le (by rwa [List.length_append, List.length_singleton]), squeezeTo_singleton]
  | cons d s ih =>
    have hlength : (before ++ c :: d :: s).length = before.length + 1 + (s.length + 1) := by
      rw [List.length_append, List.length_cons, List.length_cons]
      omega
    generalize hreach : reach (before.length + 1 + (s.length + 1)) = r
    rcases Nat.lt_or_ge (before.length + 1) r with hlt | hle
    · have hmore : before.length + 1 < reach (before ++ c :: d :: s).length := by rwa [hlength, hreach]
      obtain ⟨n, hn⟩ : ∃ n, r - before.length = n + 2 := ⟨r - before.length - 2, by omega⟩
      have hprevious : (before ++ c :: d :: s)[before.length + 1 - 1]? = some c := by simp
      have hthis : (before ++ c :: d :: s)[before.length + 1]? = some d := by simp
      rw [hn, squeezeTo_cons_cons]
      split
      · next hsame =>
        obtain ⟨rfl, rfl⟩ := hsame
        have herase : (before ++ ' ' :: ' ' :: s).eraseIdx (before.length + 1) = before ++ ' ' :: s := by
          rw [List.eraseIdx_append_of_length_le (Nat.le_succ _)]
          simp
        have hshorter : reach (before.length + 1 + s.length) - before.length = n + 1 := by
          rw [reach_pred (hreach ▸ by omega), Nat.add_assoc, hreach]
          omega
        rw [eraseDoubleBlanks_erase hmore ⟨hprevious, hthis⟩, herase, ih, hshorter]
      · next hother =>
        have hnext := ih (before ++ [c]) d
        have hsame : before.length + 1 + 1 + s.length = before.length + 1 + (s.length + 1) := by omega
        have hrest : r - (before.length + 1) = n + 1 := by omega
        rw [List.append_assoc, List.singleton_append, List.length_append, List.length_singleton, hsame, hreach,
          hrest] at hnext
        have hblank : ¬ ((before ++ c :: d :: s)[before.length + 1 - 1]? = some ' ' ∧
            (before ++ c :: d :: s)[before.length + 1]? = some ' ') := by
          rw [hprevious, hthis, Option.some.injEq, Option.some.injEq]
          exact hother
        rw [eraseDoubleBlanks_next hmore hblank, hnext, List.append_assoc, List.singleton_append]
    · rw [eraseDoubleBlanks_of_le (by rwa [hlength, hreach])]
      rcases Nat.le_one_iff_eq_zero_or_eq_one.mp (Nat.sub_le_iff_le_add'.mpr hle) with hzero | hone
      · rw [hzero, squeezeTo_zero]
      · rw [hone, squeezeTo_one]

/-- **The loop makes one blank of several in a row**, as far as it reaches. -/
theorem eraseDoubleBlanks_eq (s : Str) : eraseDoubleBlanks s 1 = squeezeTo ' ' (reach s.length) s := by
  cases s with
  | nil => exact eraseDoubleBlanks_of_le ((reach_le 0).trans (Nat.zero_le 1))
  | cons c s =>
    have h := eraseDoubleBlanks_append [] c s
    rwa [List.nil_append, List.nil_append, List.length_nil, Nat.zero_add, Nat.sub_zero, Nat.add_comm 1] at h

/-! ### Spaced tokens -/

/-- A way of joining tokens: with blanks and tabs between them, and white space around them. -/
structure Spacing (tokens : List Str) where
  leading : Str
  gaps : List Str
  trailing : Str
  isspace_leading : ∀ c ∈ leading, isspace c = true
  isspace_trailing : ∀ c ∈ trailing, isspace c = true
  length_gaps : gaps.length + 1 = tokens.length
  isGap : ∀ gap ∈ gaps, IsGap [' ', '\t'].contains gap

namespace Spacing

variable {tokens : List Str} (spacing : Spacing tokens)

/-- The tokens after the first, each with the gap before it. -/
def rest : List (Str × Str) := spacing.gaps.zip tokens.tail

def joined : Str := written (tokens.headD []) spacing.rest

def text : Str := spacing.leading ++ spacing.joined ++ spacing.trailing

/-- What the loop leaves of the gaps, and the tokens after them. -/
def squeezed : List (Str × Str) :=
  squeezeGaps ' ' (reach spacing.joined.length) (tokens.headD []) spacing.rest

/-- The tokens after the first, each with the number of empty parts before it. -/
def parts : List (Nat × Str) := spacing.squeezed.map fun x => (emptyPieces x.1, x.2)

def emptyParts : List Nat := spacing.parts.map Prod.fst

theorem tokens_ne_nil (spacing : Spacing tokens) : tokens ≠ [] := by
  have hlength := spacing.length_gaps
  apply List.ne_nil_of_length_pos
  omega

theorem isToken_head (spacing : Spacing tokens) (htokens : ∀ t ∈ tokens, IsToken isspace t) :
    IsToken isspace (tokens.headD []) := by
  obtain ⟨first, others, rfl⟩ := List.exists_cons_of_ne_nil spacing.tokens_ne_nil
  exact htokens first List.mem_cons_self

theorem isSpaced_rest (htokens : ∀ t ∈ tokens, IsToken isspace t) :
    ∀ x ∈ spacing.rest, IsGap [' ', '\t'].contains x.1 ∧ IsToken isspace x.2 := by
  rintro ⟨gap, token⟩ hx
  obtain ⟨hgap, htoken⟩ := List.of_mem_zip hx
  exact ⟨spacing.isGap gap hgap, htokens token (List.mem_of_mem_tail htoken)⟩

theorem map_snd_parts : spacing.parts.map Prod.snd = tokens.tail := by
  have hlength := spacing.length_gaps
  rw [parts, List.map_map]
  refine (map_snd_squeezeGaps _ _).trans ?_
  rw [rest, List.map_snd_zip]
  rw [List.length_tail]
  omega

theorem length_emptyParts : spacing.emptyParts.length = tokens.tail.length := by
  rw [← spacing.map_snd_parts, emptyParts, List.length_map, List.length_map]

theorem isspace_nil : ∀ c ∈ ([] : Str), isspace c = true := List.forall_mem_nil _

/-- One blank between each two tokens. -/
def single (tokens : List Str) (hne : tokens ≠ []) : Spacing tokens where
  leading := []
  gaps := tokens.tail.map fun _ => [' ']
  trailing := []
  isspace_leading := isspace_nil
  isspace_trailing := isspace_nil
  length_gaps := by
    rw [List.length_map, List.length_tail]
    exact Nat.sub_add_cancel (List.length_pos_iff.mpr hne)
  isGap := by
    intro gap hgap
    obtain ⟨_, _, rfl⟩ := List.mem_map.mp hgap
    exact ⟨List.cons_ne_nil _ _, List.forall_mem_singleton.mpr rfl⟩

theorem rest_single (hne : tokens ≠ []) : (single tokens hne).rest = tokens.tail.map ([' '], ·) := by
  have hzip := List.zip_map' (f := fun _ : Str => [' ']) (g := id) (l := tokens.tail)
  rwa [List.map_id] at hzip

theorem text_single (hne : tokens ≠ []) : (single tokens hne).text = [' '].intercalate tokens := by
  obtain ⟨first, others, rfl⟩ := List.exists_cons_of_ne_nil hne
  rw [text, joined, rest_single, List.tail_cons, List.headD_cons, written_singletons]
  exact List.append_nil _

/-- No part is empty then. -/
theorem emptyParts_single (hne : tokens ≠ []) :
    (single tokens hne).emptyParts = tokens.tail.map fun _ => 0 := by
  rw [emptyParts, parts, squeezed, rest_single, squeezeGaps_singletons, List.map_map, List.map_map]
  rfl

/-! ### What the text is cut into -/

section Boost

variable {boost : Boost} (hboost : boost.Documented) (htokens : ∀ t ∈ tokens, IsToken isspace t)
include hboost htokens

theorem trim_text : boost.trim spacing.text = spacing.joined := by
  rw [hboost.trim]
  exact trim_written spacing.isspace_leading spacing.isspace_trailing (spacing.isToken_head htokens)
    fun x hx => (spacing.isSpaced_rest htokens x hx).2

theorem eraseDoubleBlanks_trim_text :
    eraseDoubleBlanks (boost.trim spacing.text) 1 = written (tokens.headD []) spacing.squeezed := by
  rw [spacing.trim_text hboost htokens, eraseDoubleBlanks_eq]
  exact squeezeTo_written (by decide) (spacing.isToken_head htokens)
    (fun x hx => (spacing.isSpaced_rest htokens x hx).2) _

theorem split_squeezed :
    boost.split (written (tokens.headD []) spacing.squeezed) [' ', '\t'] =
      tokens.headD [] :: pieces spacing.parts := by
  have hfree : ∀ {t : Str}, IsToken isspace t → ∀ c ∈ t, [' ', '\t'].contains c = false := by
    intro t ht c hc
    have hspace := ht.free c hc
    refine Bool.eq_false_iff.mpr fun hcontains => ?_
    rcases List.mem_pair.mp (List.contains_iff_mem.mp hcontains) with rfl | rfl
    · exact absurd hspace (by decide)
    · exact absurd hspace (by decide)
  rw [hboost.split]
  refine splitOnP_written (hfree (spacing.isToken_head htokens)) fun x hx => ?_
  obtain ⟨hgap, htoken⟩ := squeezeGaps_spaced (spacing.isSpaced_rest htokens) _ _ x hx
  exact ⟨hgap, hfree htoken⟩

end Boost

end Spacing

end StreamSelector

end USEEDLinkToRingServer
