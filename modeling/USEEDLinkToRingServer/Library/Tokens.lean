import Mathlib.Data.List.DropRight

/-!
# Tokens and the gaps between them

A text of tokens with a gap of separators before each token but the first. A program that erases repeated
blanks, as far as it gets, and cuts the text at each separator finds the tokens and, for each separator of a
gap after its first, an empty piece.
-/

namespace Tokens

variable {α : Type*}

structure IsToken (blank : α → Bool) (token : List α) : Prop where
  ne_nil : token ≠ []
  free : ∀ c ∈ token, blank c = false

instance [DecidableEq α] (blank : α → Bool) (token : List α) : Decidable (IsToken blank token) :=
  decidable_of_iff (token ≠ [] ∧ ∀ c ∈ token, blank c = false)
    ⟨fun h => ⟨h.1, h.2⟩, fun h => ⟨h.ne_nil, h.free⟩⟩

structure IsGap (separator : α → Bool) (gap : List α) : Prop where
  ne_nil : gap ≠ []
  all : ∀ c ∈ gap, separator c = true

instance [DecidableEq α] (separator : α → Bool) (gap : List α) : Decidable (IsGap separator gap) :=
  decidable_of_iff (gap ≠ [] ∧ ∀ c ∈ gap, separator c = true)
    ⟨fun h => ⟨h.1, h.2⟩, fun h => ⟨h.ne_nil, h.all⟩⟩

/-- The first token, and each other one after the gap before it. -/
def written (first : List α) : List (List α × List α) → List α
  | [] => first
  | (gap, token) :: rest => first ++ (gap ++ written token rest)

/-- The number of empty pieces that a gap leaves. -/
def emptyPieces (gap : List α) : Nat := gap.length - 1

/-- The pieces of tokens with a number of empty pieces before each. -/
def pieces : List (Nat × List α) → List (List α)
  | [] => []
  | (n, token) :: rest => List.replicate n [] ++ token :: pieces rest

variable {blank separator : α → Bool} {first token gap : List α} {rest : List (List α × List α)}

/-- The last piece is the last token. -/
theorem getLast?_pieces (rest : List (Nat × List α)) :
    (pieces rest).getLast? = rest.getLast?.map Prod.snd := by
  induction rest with
  | nil => rfl
  | cons x rest ih =>
    obtain ⟨n, token⟩ := x
    rw [pieces, List.getLast?_append, List.getLast?_cons, List.getLast?_cons, ih]
    cases rest.getLast? with
    | none => rfl
    | some y => rfl

/-! ### Cutting at the separators -/

theorem splitOnP_gap (hall : ∀ c ∈ gap, separator c = true) (s : List α) :
    (gap ++ s).splitOnP separator = List.replicate gap.length [] ++ s.splitOnP separator := by
  induction gap with
  | nil => rfl
  | cons c gap ih =>
    have hc : separator c = true := hall c List.mem_cons_self
    have hcut : (c :: (gap ++ s)).splitOnP separator = [] :: (gap ++ s).splitOnP separator :=
      List.splitOnP_append_cons_of_forall_mem (List.forall_mem_nil _) c hc (gap ++ s)
    rw [List.cons_append, hcut, ih fun d hd => hall d (List.mem_cons_of_mem c hd), List.length_cons,
      List.replicate_succ, List.cons_append]

/-- The text is cut into the tokens and an empty piece for each separator of a gap after its first. -/
theorem splitOnP_written (hfirst : ∀ c ∈ first, separator c = false)
    (hrest : ∀ x ∈ rest, IsGap separator x.1 ∧ ∀ c ∈ x.2, separator c = false) :
    (written first rest).splitOnP separator =
      first :: pieces (rest.map fun x => (emptyPieces x.1, x.2)) := by
  induction rest generalizing first with
  | nil => exact List.splitOnP_eq_singleton hfirst
  | cons x rest ih =>
    obtain ⟨gap, token⟩ := x
    obtain ⟨⟨hgap, htoken⟩, hothers⟩ := List.forall_mem_cons.mp hrest
    obtain ⟨c, gap, rfl⟩ := List.exists_cons_of_ne_nil hgap.ne_nil
    obtain ⟨hc, hall⟩ := List.forall_mem_cons.mp hgap.all
    rw [written, List.cons_append, List.splitOnP_append_cons_of_forall_mem hfirst c hc, splitOnP_gap hall,
      ih htoken hothers, List.map_cons, pieces, emptyPieces, List.length_cons, Nat.add_sub_cancel]

/-- With one separator in each gap the tokens are joined by it. -/
theorem written_singletons (c : α) (first : List α) (others : List (List α)) :
    written first (others.map ([c], ·)) = [c].intercalate (first :: others) := by
  induction others generalizing first with
  | nil => exact List.intercalate_singleton.symm
  | cons token others ih =>
    rw [List.map_cons, written, ih, List.intercalate_cons_cons, List.append_assoc]

/-! ### The ends of a written text -/

theorem length_le_written (first : List α) (rest : List (List α × List α)) :
    first.length ≤ (written first rest).length := by
  cases rest with
  | nil => exact Nat.le_refl _
  | cons x rest =>
    rw [written, List.length_append]
    exact Nat.le_add_right _ _

theorem written_eq_cons (rest : List (List α × List α)) (hfirst : IsToken blank first) :
    ∃ c s, written first rest = c :: s ∧ blank c = false := by
  obtain ⟨c, s, rfl⟩ := List.exists_cons_of_ne_nil hfirst.ne_nil
  have hc : blank c = false := hfirst.free c List.mem_cons_self
  cases rest with
  | nil => exact ⟨c, s, rfl, hc⟩
  | cons x rest => exact ⟨c, s ++ (x.1 ++ written x.2 rest), rfl, hc⟩

theorem written_eq_concat (hfirst : IsToken blank first) (hrest : ∀ x ∈ rest, IsToken blank x.2) :
    ∃ s c, written first rest = s ++ [c] ∧ blank c = false := by
  induction rest generalizing first with
  | nil =>
    refine ⟨first.dropLast, first.getLast hfirst.ne_nil, ?_, ?_⟩
    · exact (List.dropLast_append_getLast hfirst.ne_nil).symm
    · exact hfirst.free _ (List.getLast_mem hfirst.ne_nil)
  | cons x rest ih =>
    obtain ⟨htoken, hrest⟩ := List.forall_mem_cons.mp hrest
    obtain ⟨s, c, heq, hc⟩ := ih htoken hrest
    refine ⟨first ++ (x.1 ++ s), c, ?_, hc⟩
    rw [written, heq, List.append_assoc, List.append_assoc]

/-- Without the blanks around it the text starts and ends with a token. -/
theorem trim_written {leading trailing : List α} (hleading : ∀ c ∈ leading, blank c = true)
    (htrailing : ∀ c ∈ trailing, blank c = true) (hfirst : IsToken blank first)
    (hrest : ∀ x ∈ rest, IsToken blank x.2) :
    ((leading ++ written first rest ++ trailing).dropWhile blank).rdropWhile blank = written first rest := by
  obtain ⟨c, s, hstart, hc⟩ := written_eq_cons rest hfirst
  obtain ⟨s', d, hend, hd⟩ := written_eq_concat hfirst hrest
  have hdrop : (leading ++ written first rest ++ trailing).dropWhile blank =
      written first rest ++ trailing := by
    rw [List.append_assoc, List.dropWhile_append_of_pos hleading, hstart, List.cons_append,
      List.dropWhile_cons_of_neg (by simp [hc])]
  have hreverse : ∀ e ∈ trailing.reverse, blank e = true := fun e he =>
    htrailing e (List.mem_reverse.mp he)
  rw [hdrop, List.rdropWhile, List.reverse_append, List.dropWhile_append_of_pos hreverse, hend,
    List.reverse_concat, List.dropWhile_cons_of_neg (by simp [hd]), ← List.reverse_concat,
    List.reverse_reverse]

theorem trim_token (htoken : IsToken blank token) : (token.dropWhile blank).rdropWhile blank = token := by
  have h : (([] ++ written token [] ++ []).dropWhile blank).rdropWhile blank = written token [] :=
    trim_written (List.forall_mem_nil _) (List.forall_mem_nil _) htoken (List.forall_mem_nil _)
  rwa [List.nil_append, List.append_nil] at h

/-! ### Erasing repeated blanks -/

section Squeeze

variable [DecidableEq α] {b : α}

/-- One `b` in place of several in a row. -/
def squeeze (b : α) : List α → List α
  | [] => []
  | [c] => [c]
  | c :: d :: s => if c = b ∧ d = b then squeeze b (d :: s) else c :: squeeze b (d :: s)

/-- The first elements are squeezed, and those that are out of reach stay. -/
def squeezeTo (b : α) (reach : Nat) (s : List α) : List α := squeeze b (s.take reach) ++ s.drop reach

/-- The gaps that squeezing the written text leaves. -/
def squeezeGaps (b : α) : Nat → List α → List (List α × List α) → List (List α × List α)
  | _, _, [] => []
  | reach, first, (gap, token) :: rest =>
    (squeezeTo b (reach - first.length) gap, token) ::
      squeezeGaps b (reach - first.length - gap.length) token rest

@[simp] theorem squeezeTo_zero (s : List α) : squeezeTo b 0 s = s := rfl

@[simp] theorem squeezeTo_one (s : List α) : squeezeTo b 1 s = s := by
  cases s with
  | nil => rfl
  | cons c s => rfl

theorem squeezeTo_cons_cons (n : Nat) (c d : α) (s : List α) :
    squeezeTo b (n + 2) (c :: d :: s) =
      if c = b ∧ d = b then squeezeTo b (n + 1) (d :: s) else c :: squeezeTo b (n + 1) (d :: s) := by
  rw [squeezeTo, squeezeTo, List.take_succ_cons, List.take_succ_cons, List.drop_succ_cons, squeeze]
  split
  · rfl
  · rfl

theorem squeeze_append_of_notMem {t : List α} (ht : b ∉ t) (s : List α) :
    squeeze b (t ++ s) = t ++ squeeze b s := by
  induction t with
  | nil => rfl
  | cons c t ih =>
    obtain ⟨hc, ht⟩ := not_or.mp (mt List.mem_cons.mpr ht)
    rw [List.cons_append, List.cons_append, ← ih ht]
    cases t ++ s with
    | nil => rfl
    | cons d s => rw [squeeze, if_neg fun h => hc h.1.symm]

theorem squeeze_append_cons {c : α} (hc : c ≠ b) (t s : List α) :
    squeeze b (t ++ c :: s) = squeeze b t ++ squeeze b (c :: s) := by
  induction t with
  | nil => rfl
  | cons d t ih =>
    cases t with
    | nil => exact if_neg fun h => hc h.2
    | cons e t =>
      rw [List.cons_append, List.cons_append, squeeze, ← List.cons_append, ih, squeeze]
      split <;> rfl

theorem squeezeTo_append_of_notMem {t : List α} (ht : b ∉ t) (reach : Nat) (s : List α) :
    squeezeTo b reach (t ++ s) = t ++ squeezeTo b (reach - t.length) s := by
  have htake : b ∉ t.take reach := fun hmem => ht (List.mem_of_mem_take hmem)
  rw [squeezeTo, squeezeTo, List.take_append, List.drop_append, squeeze_append_of_notMem htake]
  rcases Nat.le_total reach t.length with hle | hle
  · rw [Nat.sub_eq_zero_of_le hle]
    simp only [List.take_zero, List.drop_zero, squeeze, List.append_nil, List.nil_append]
    rw [← List.append_assoc, List.take_append_drop]
  · rw [List.take_of_length_le hle, List.drop_of_length_le hle, List.nil_append, List.append_assoc]

theorem squeezeTo_append_cons {c : α} (hc : c ≠ b) (reach : Nat) (t s : List α) :
    squeezeTo b reach (t ++ c :: s) = squeezeTo b reach t ++ squeezeTo b (reach - t.length) (c :: s) := by
  rw [squeezeTo, squeezeTo, squeezeTo, List.take_append, List.drop_append]
  rcases Nat.lt_or_ge t.length reach with hlt | hle
  · obtain ⟨n, hn⟩ : ∃ n, reach - t.length = n + 1 := ⟨reach - t.length - 1, by omega⟩
    rw [hn, List.take_succ_cons, squeeze_append_cons hc, List.drop_of_length_le hlt.le]
    simp only [List.nil_append, List.append_nil, List.append_assoc]
  · rw [Nat.sub_eq_zero_of_le hle]
    simp only [List.take_zero, List.drop_zero, squeeze, List.append_nil, List.nil_append, List.append_assoc]

/-- **Only the gaps are squeezed.** -/
theorem squeezeTo_written (hb : blank b = true) (hfirst : IsToken blank first)
    (hrest : ∀ x ∈ rest, IsToken blank x.2) (reach : Nat) :
    squeezeTo b reach (written first rest) = written first (squeezeGaps b reach first rest) := by
  have hnotMem : ∀ {t : List α}, IsToken blank t → b ∉ t := fun ht hmem => by
    simp [ht.free b hmem] at hb
  induction rest generalizing first reach with
  | nil =>
    have h := squeezeTo_append_of_notMem (hnotMem hfirst) reach []
    simpa [written, squeezeGaps, squeezeTo, squeeze] using h
  | cons x rest ih =>
    obtain ⟨gap, token⟩ := x
    obtain ⟨htoken, hrest⟩ := List.forall_mem_cons.mp hrest
    obtain ⟨c, s, hstart, hc⟩ := written_eq_cons rest htoken
    have hcb : c ≠ b := by
      rintro rfl
      simp [hc] at hb
    rw [written, squeezeTo_append_of_notMem (hnotMem hfirst), hstart, squeezeTo_append_cons hcb, ← hstart,
      ih htoken hrest]
    rfl

/-! ### What squeezing leaves of a gap -/

theorem squeeze_ne_nil {s : List α} (hs : s ≠ []) : squeeze b s ≠ [] := by
  induction s with
  | nil => exact absurd rfl hs
  | cons c s ih =>
    cases s with
    | nil => exact hs
    | cons d s =>
      rw [squeeze]
      split
      · exact ih (List.cons_ne_nil d s)
      · exact List.cons_ne_nil _ _

theorem mem_of_mem_squeeze {s : List α} {c : α} (h : c ∈ squeeze b s) : c ∈ s := by
  induction s with
  | nil => exact h
  | cons d s ih =>
    cases s with
    | nil => exact h
    | cons e s =>
      rw [squeeze] at h
      split at h
      · exact List.mem_cons_of_mem d (ih h)
      · rcases List.mem_cons.mp h with rfl | h
        · exact List.mem_cons_self
        · exact List.mem_cons_of_mem d (ih h)

theorem IsGap.squeezeTo (hgap : IsGap separator gap) (reach : Nat) :
    IsGap separator (squeezeTo b reach gap) := by
  constructor
  · intro hnil
    obtain ⟨htake, hdrop⟩ := List.append_eq_nil_iff.mp hnil
    have htake : gap.take reach = [] := by
      by_contra hne
      exact squeeze_ne_nil hne htake
    exact hgap.ne_nil (by rw [← List.take_append_drop reach gap, htake, hdrop, List.nil_append])
  · intro c hc
    rcases List.mem_append.mp hc with hc | hc
    · exact hgap.all c (List.mem_of_mem_take (mem_of_mem_squeeze hc))
    · exact hgap.all c (List.mem_of_mem_drop hc)

theorem squeezeTo_singleton (reach : Nat) (c : α) : squeezeTo b reach [c] = [c] := by
  cases reach with
  | zero => rfl
  | succ reach =>
    rw [squeezeTo, List.take_succ_cons, List.take_nil, List.drop_succ_cons, List.drop_nil]
    rfl

/-- The gaps stay gaps, before the same tokens. -/
theorem squeezeGaps_spaced (hrest : ∀ x ∈ rest, IsGap separator x.1 ∧ IsToken blank x.2) (reach : Nat)
    (first : List α) :
    ∀ x ∈ squeezeGaps b reach first rest, IsGap separator x.1 ∧ IsToken blank x.2 := by
  induction rest generalizing reach first with
  | nil => exact hrest
  | cons x rest ih =>
    obtain ⟨⟨hgap, htoken⟩, hothers⟩ := List.forall_mem_cons.mp hrest
    exact List.forall_mem_cons.mpr ⟨⟨hgap.squeezeTo _, htoken⟩, ih hothers _ _⟩

theorem map_snd_squeezeGaps (reach : Nat) (first : List α) :
    (squeezeGaps b reach first rest).map Prod.snd = rest.map Prod.snd := by
  induction rest generalizing reach first with
  | nil => rfl
  | cons x rest ih => exact congrArg (x.2 :: ·) (ih _ _)

/-- Gaps of a single separator are left alone. -/
theorem squeezeGaps_singletons (c : α) (reach : Nat) (first : List α) (others : List (List α)) :
    squeezeGaps b reach first (others.map ([c], ·)) = others.map ([c], ·) := by
  induction others generalizing reach first with
  | nil => rfl
  | cons token others ih =>
    rw [List.map_cons, squeezeGaps, squeezeTo_singleton, ih]

end Squeeze

end Tokens
