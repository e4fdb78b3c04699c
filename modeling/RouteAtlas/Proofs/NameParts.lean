import RouteAtlas.Proofs.References

set_option autoImplicit false

namespace RouteAtlas.Text

theorem split_eq_splitOn (separator : CodePoint) (text : Text) : split separator text = text.splitOn separator := by
  induction text with
  | nil => rfl
  | cons point rest ih =>
    rw [split, ih, List.splitOn_cons_eq_if_modifyHead]
    simp only [beq_iff_eq]
    split
    next => rfl
    next =>
      obtain ⟨part, parts, known⟩ := List.exists_cons_of_ne_nil (List.splitOn_ne_nil separator rest)
      rw [known]
      rfl

theorem flatMap_split (separator : CodePoint) (text : Text) :
    (split separator text).flatMap (separator :: ·) = separator :: text := by
  induction text with
  | nil => rfl
  | cons point rest ih =>
    rw [split]
    split
    next same => rw [List.flatMap_cons, ih, same]; rfl
    next other =>
      obtain ⟨part, parts, known⟩ := List.exists_cons_of_ne_nil (split_ne_nil separator rest)
      rw [known, List.flatMap_cons] at ih
      rw [known, List.flatMap_cons]
      simpa using ih

theorem not_mem_of_mem_split {separator : CodePoint} {text part : Text} (member : part ∈ split separator text) :
    separator ∉ part := by
  induction text generalizing part with
  | nil =>
    obtain rfl := List.mem_singleton.mp member
    exact List.not_mem_nil
  | cons point rest ih =>
    rw [split] at member
    split at member
    next =>
      rcases List.mem_cons.mp member with rfl | later
      · exact List.not_mem_nil
      · exact ih later
    next other =>
      obtain ⟨first, parts, known⟩ := List.exists_cons_of_ne_nil (split_ne_nil separator rest)
      rw [known] at member ih
      rcases List.mem_cons.mp member with rfl | later
      · rw [List.mem_cons, not_or]
        exact ⟨Ne.symm other, ih List.mem_cons_self⟩
      · exact ih (List.mem_cons_of_mem first later)

theorem eq_append_of_lastTwo {parts : List Text} {before last : Text} (told : lastTwo parts = (some before, last)) :
    ∃ path, parts = path ++ [before, last] := by
  induction parts using lastTwo.induct with
  | case1 => simp [lastTwo] at told
  | case2 only => simp [lastTwo] at told
  | case3 first second =>
    obtain ⟨rfl, rfl⟩ : first = before ∧ second = last := by simpa [lastTwo] using told
    exact ⟨[], rfl⟩
  | case4 first second third rest ih =>
    obtain ⟨path, known⟩ := ih told
    exact ⟨first :: path, by rw [known]; rfl⟩

/-- The last two parts of a text are the names that it ends with, each behind a separator; the first part of the whole
text needs none. -/
theorem lastTwo_split_iff {separator : CodePoint} {qualifier name : Text} (text : Text) (whole : separator ∉ qualifier)
    (single : separator ∉ name) :
    lastTwo (split separator text) = (some qualifier, name) ↔
      separator :: qualifier ++ separator :: name <:+ separator :: text := by
  constructor
  · intro told
    obtain ⟨path, parts⟩ := eq_append_of_lastTwo told
    refine ⟨path.flatMap (separator :: ·), ?_⟩
    rw [← flatMap_split separator text, parts, List.flatMap_append]
    simp
  · rintro ⟨front, joined⟩
    cases front with
    | nil =>
      obtain rfl : qualifier ++ separator :: name = text := (List.cons.inj joined).2
      rw [split_eq_splitOn, List.splitOn_append_cons_self, List.splitOn_eq_singleton whole,
        List.splitOn_eq_singleton single]
      rfl
    | cons first rest =>
      obtain rfl : rest ++ separator :: (qualifier ++ separator :: name) = text := (List.cons.inj joined).2
      rw [split_eq_splitOn, List.splitOn_append_cons_self, List.splitOn_append_cons_self,
        List.splitOn_eq_singleton whole, List.splitOn_eq_singleton single]
      exact lastTwo_append _ _ _

def lastPart (separator : CodePoint) (text : Text) : Text :=
  (lastTwo (split separator text)).2

theorem eq_append_lastTwo {parts : List Text} (given : parts ≠ []) : ∃ path, parts = path ++ [(lastTwo parts).2] := by
  induction parts using lastTwo.induct with
  | case1 => exact absurd rfl given
  | case2 only => exact ⟨[], rfl⟩
  | case3 first second => exact ⟨[first], rfl⟩
  | case4 first second third rest ih =>
    obtain ⟨path, known⟩ := ih (List.cons_ne_nil _ _)
    exact ⟨first :: path, congrArg (first :: ·) known⟩

theorem split_eq_append (separator : CodePoint) (text : Text) :
    ∃ path, split separator text = path ++ [lastPart separator text] :=
  eq_append_lastTwo (split_ne_nil separator text)

theorem not_mem_lastPart (separator : CodePoint) (text : Text) : separator ∉ lastPart separator text := by
  obtain ⟨path, parts⟩ := split_eq_append separator text
  apply not_mem_of_mem_split
  rw [parts]
  exact List.mem_append_right path (List.mem_singleton.mpr rfl)

theorem cons_lastPart_suffix (separator : CodePoint) (text : Text) :
    separator :: lastPart separator text <:+ separator :: text := by
  obtain ⟨path, parts⟩ := split_eq_append separator text
  refine ⟨path.flatMap (separator :: ·), ?_⟩
  rw [← flatMap_split separator text, parts, List.flatMap_append, List.flatMap_singleton]

theorem suffix_lastPart {separator : CodePoint} {ending text : Text} (single : separator ∉ ending)
    (ends : ending <:+ text) : ending <:+ lastPart separator text := by
  have last := cons_lastPart_suffix separator text
  rcases List.suffix_or_suffix_of_suffix (ends.trans (List.suffix_cons separator text)) last with inside | around
  · rcases List.suffix_cons_iff.mp inside with same | below
    · exact absurd (same ▸ List.mem_cons_self) single
    · exact below
  · exact absurd (around.subset List.mem_cons_self) single

theorem lastPart_eq_iff {separator : CodePoint} {name : Text} (text : Text) (single : separator ∉ name) :
    lastPart separator text = name ↔ separator :: name <:+ separator :: text := by
  constructor
  · rintro rfl
    exact cons_lastPart_suffix separator text
  · intro ends
    have apart {first second : Text} (free : separator ∉ second)
        (inside : separator :: first <:+ separator :: second) : first = second := by
      rcases List.suffix_cons_iff.mp inside with same | below
      · exact (List.cons.inj same).2
      · exact absurd (below.subset List.mem_cons_self) free
    rcases List.suffix_or_suffix_of_suffix ends (cons_lastPart_suffix separator text) with inside | around
    · exact (apart (not_mem_lastPart separator text) inside).symm
    · exact apart single around

end RouteAtlas.Text

namespace RouteAtlas

theorem Operand.label_dotted (source : Text) :
    (Operand.dotted source).label = Text.lastPart CodePoint.dot (Text.compact source) :=
  rfl

theorem Constants.label_of_meaning (constants : Constants) (owners : List Text) (reference : Operand) {label : Text}
    (unknown : constants.meaning owners reference = .symbol label) : reference.label = label := by
  cases reference with
  | literal text => simp [meaning] at unknown
  | bare name =>
    rw [meaning, nameValue] at unknown
    split at unknown
    · simp at unknown
    · exact Value.symbol.inj unknown
  | dotted source =>
    rw [meaning, dottedValue] at unknown
    split at unknown
    · simp at unknown
    · exact Value.symbol.inj unknown

end RouteAtlas
