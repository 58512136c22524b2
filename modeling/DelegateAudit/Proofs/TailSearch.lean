import DelegateAudit.Proofs.LetterCase

/-!
# DelegateAudit — the search for the metadata tail

The marker of a tail is looked for at even offsets. `Text.alignedFind?` goes through the text two
characters at a time. The usual way is another one: take the first place where the marker stands,
and as long as that place is odd, go on to the next place behind it. `Text.AlignedSearch` describes
these rounds. A derivation is finite, so that there is one says that the rounds come to an end.

Before each round the same thing holds: the marker stands at no even offset among those already
passed. An odd place that is given up keeps this true, and the next round starts further to the
right, so there are no more rounds than characters. The place where the rounds end is therefore the
least even one, and that is where the walk by twos ends as well.

Lower case keeps the offsets of an ASCII text, so what is found there is found in the text itself,
and a cut leaves a front without a marker and a rest that starts with one.

Main results:

* `Text.alignedSearch_iff` — the rounds end, and with the answer of the walk by twos.
* `Text.alignedFind?_eq_some_iff_isLeast`, `Text.alignedFind?_eq_none_iff` — which answer that is.
* `Text.tail_found_least` — both for the marker, and what the cut leaves of an ASCII text.
-/

namespace DelegateAudit

theorem Bytecode.hex_ofText (t : Text) : (ofText (some t)).hex = t.cleanHex := rfl

theorem Bytecode.hex_stripped (code : Bytecode) : code.stripped.hex = code.hex.cutTail.cleanHex :=
  rfl

namespace Text

-- ---------------------------------------------------------------------------
-- The first place from an offset on
-- ---------------------------------------------------------------------------

/-- The first offset, `start` or a later one, at which the needle stands in the text. -/
def findFrom? (needle t : Text) (start : Nat) : Option Nat :=
  (find? needle (t.drop start)).map (start + ·)

variable {needle t : Text} {start p : Nat}

/-- Looking for a needle is looking for a tail of the text that it starts. -/
theorem find?_eq_findIdx? (needle t : Text) :
    find? needle t = t.tails.findIdx? needle.isPrefixOf := by
  induction t with
  | nil => cases needle <;> rfl
  | cons c rest ih =>
    rw [find?, ih, List.tails, List.findIdx?_cons]

theorem findFrom?_eq_some (h : findFrom? needle t start = some p) :
    start ≤ p ∧ needle <+: t.drop p ∧ ∀ q, start ≤ q → q < p → ¬ needle <+: t.drop q := by
  obtain ⟨i, hi, rfl⟩ := Option.map_eq_some_iff.mp h
  rw [find?_eq_findIdx?, List.findIdx?_eq_some_iff_getElem] at hi
  obtain ⟨_, hstands, hfirst⟩ := hi
  simp only [List.getElem_tails, List.drop_drop, List.isPrefixOf_iff_prefix] at hstands hfirst
  refine ⟨Nat.le_add_right start i, hstands, fun q hle hlt => ?_⟩
  have hq := hfirst (q - start) (by omega)
  rwa [Nat.add_sub_cancel' hle] at hq

theorem findFrom?_eq_none (h : findFrom? needle t start = none) :
    ∀ q, start ≤ q → ¬ needle <+: t.drop q := by
  intro q hle
  rw [findFrom?, Option.map_eq_none_iff, find?_eq_findIdx?, List.findIdx?_eq_none_iff] at h
  -- what is left from here on is a tail of what was searched
  have htail : t.drop q ∈ (t.drop start).tails := by
    rw [List.mem_tails, ← Nat.add_sub_cancel' hle, ← List.drop_drop]
    exact List.drop_suffix _ _
  rw [← List.isPrefixOf_iff_prefix, Bool.not_eq_true]
  exact h _ htail

theorem lt_length_of_stands (hne : needle ≠ []) (h : needle <+: t.drop p) : p < t.length := by
  have hpos := List.length_pos_iff.mpr hne
  have hle := h.length_le
  rw [List.length_drop] at hle
  omega

-- ---------------------------------------------------------------------------
-- The walk by twos
-- ---------------------------------------------------------------------------

/-- Nothing at an even offset is missed. -/
theorem alignedFind?_complete {needle : Text} : ∀ {t : Text},
    alignedFind? needle t = none → ∀ q, Even q → ¬ needle <+: t.drop q
  | [], h, q, _ => by
    rw [alignedFind?] at h
    split_ifs at h with hempty
    rw [List.drop_nil, List.prefix_nil, ← List.isEmpty_iff]
    exact hempty
  | [c], h, q, _ => by
    rw [alignedFind?] at h
    split_ifs at h with hhere
    rw [List.isPrefixOf_iff_prefix] at hhere
    cases q with
    | zero => exact hhere
    | succ j =>
      -- behind the only character nothing stands that does not stand everywhere
      rw [List.drop_succ_cons, List.drop_nil, List.prefix_nil]
      rintro rfl
      exact hhere List.nil_prefix
  | a :: b :: rest, h, q, hq => by
    rw [alignedFind?] at h
    split_ifs at h with hhere
    rw [List.isPrefixOf_iff_prefix] at hhere
    have hrest := alignedFind?_complete (Option.map_eq_none_iff.mp h)
    rcases q with _ | _ | j
    · exact hhere
    · exact absurd hq Nat.not_even_one
    · obtain ⟨k, hk⟩ := hq
      exact hrest j ⟨k - 1, by omega⟩

theorem alignedFind?_eq_some_iff_isLeast :
    alignedFind? needle t = some p ↔ IsLeast {q | Even q ∧ needle <+: t.drop q} p := by
  constructor
  · intro h
    obtain ⟨heven, hstands, hleast⟩ := alignedFind?_least h
    refine ⟨⟨heven, hstands⟩, ?_⟩
    rintro q ⟨hq, hqstands⟩
    exact not_lt.mp fun hlt => hleast q hlt hq hqstands
  · rintro ⟨⟨heven, hstands⟩, hlower⟩
    cases hfind : alignedFind? needle t with
    | none => exact absurd hstands (alignedFind?_complete hfind p heven)
    | some q =>
      obtain ⟨hq, hqstands, hleast⟩ := alignedFind?_least hfind
      have hle : p ≤ q := hlower ⟨hq, hqstands⟩
      have hge : q ≤ p := not_lt.mp fun hlt => hleast p hlt heven hstands
      rw [le_antisymm hge hle]

theorem alignedFind?_eq_none_iff :
    alignedFind? needle t = none ↔ ¬ ∃ q, Even q ∧ needle <+: t.drop q := by
  constructor
  · rintro h ⟨q, hq, hstands⟩
    exact alignedFind?_complete h q hq hstands
  · intro h
    cases hfind : alignedFind? needle t with
    | none => rfl
    | some p =>
      obtain ⟨heven, hstands, -⟩ := alignedFind?_least hfind
      exact absurd ⟨p, heven, hstands⟩ h

-- ---------------------------------------------------------------------------
-- Searching in rounds
-- ---------------------------------------------------------------------------

/-- From a place, or from nowhere, the rounds end with an answer: an odd place is given up for the
next place behind it. -/
inductive AlignedSearch (needle t : Text) : (place answer : Option Nat) → Prop
  | nowhere : AlignedSearch needle t none none
  | aligned {p : Nat} (heven : Even p) : AlignedSearch needle t (some p) (some p)
  | straddling {p : Nat} {answer : Option Nat} (hodd : ¬ Even p)
      (hnext : AlignedSearch needle t (findFrom? needle t (p + 1)) answer) :
      AlignedSearch needle t (some p) answer

theorem AlignedSearch.unique {place answer other : Option Nat}
    (h : AlignedSearch needle t place answer) (h' : AlignedSearch needle t place other) :
    answer = other := by
  induction h with
  | nowhere =>
    cases h'
    rfl
  | aligned heven =>
    cases h' with
    | aligned _ => rfl
    | straddling hodd _ => exact absurd heven hodd
  | straddling hodd _ ih =>
    cases h' with
    | aligned heven => exact absurd heven hodd
    | straddling _ hnext => exact ih hnext

/-- If the needle stands at no even offset before `start`, the rounds from there on end, and with
the answer of the walk by twos. -/
theorem alignedSearch_from (hne : needle ≠ []) (start : Nat)
    (hpassed : ∀ q < start, Even q → ¬ needle <+: t.drop q) :
    AlignedSearch needle t (findFrom? needle t start) (alignedFind? needle t) := by
  cases hfind : findFrom? needle t start with
  | none =>
    have hnone : alignedFind? needle t = none := by
      rw [alignedFind?_eq_none_iff]
      rintro ⟨q, hq, hstands⟩
      rcases Nat.lt_or_ge q start with hlt | hge
      · exact hpassed q hlt hq hstands
      · exact findFrom?_eq_none hfind q hge hstands
    rw [hnone]
    exact .nowhere
  | some p =>
    obtain ⟨hle, hstands, hfirst⟩ := findFrom?_eq_some hfind
    have hpassed' : ∀ q < p, Even q → ¬ needle <+: t.drop q := by
      intro q hlt hq
      rcases Nat.lt_or_ge q start with hbefore | hge
      · exact hpassed q hbefore hq
      · exact hfirst q hge hlt
    by_cases heven : Even p
    · have hsome : alignedFind? needle t = some p := by
        rw [alignedFind?_eq_some_iff_isLeast]
        refine ⟨⟨heven, hstands⟩, ?_⟩
        rintro q ⟨hq, hqstands⟩
        exact not_lt.mp fun hlt => hpassed' q hlt hq hqstands
      rw [hsome]
      exact .aligned heven
    · -- the place that is given up is odd, so nothing even has been passed
      refine .straddling heven (alignedSearch_from hne (p + 1) fun q hlt hq => ?_)
      have hneq : q ≠ p := by
        rintro rfl
        exact heven hq
      exact hpassed' q (by omega) hq
termination_by t.length - start
decreasing_by
  have hlt := lt_length_of_stands hne hstands
  omega

/-- **The rounds end, and with one answer only.** -/
theorem alignedSearch_iff (hne : needle ≠ []) {answer : Option Nat} :
    AlignedSearch needle t (findFrom? needle t 0) answer ↔ answer = alignedFind? needle t := by
  have hends : AlignedSearch needle t (findFrom? needle t 0) (alignedFind? needle t) :=
    alignedSearch_from hne 0 fun q hlt => absurd hlt (Nat.not_lt_zero q)
  constructor
  · intro h
    exact h.unique hends
  · rintro rfl
    exact hends

-- ---------------------------------------------------------------------------
-- Cutting ASCII text
-- ---------------------------------------------------------------------------

/-- Made of the first 128 code points. -/
def IsAscii (t : Text) : Prop := ∀ c ∈ t, c.isAscii = true

instance (t : Text) : Decidable t.IsAscii := inferInstanceAs (Decidable (∀ c ∈ t, _))

theorem IsAscii.cleanHex {x : Text} (hx : x.IsAscii) : x.cleanHex.IsAscii :=
  fun c hc => hx c ((cleanHex_isInfix x).subset hc)

/-- Lower case moves nothing. -/
theorem IsAscii.lower_eq (ht : t.IsAscii) : t.lower = t.map CodePoint.lower := by
  induction t with
  | nil => rfl
  | cons c rest ih =>
    obtain ⟨hc, hrest⟩ := List.forall_mem_cons.mp ht
    have hplain : c.value ≠ 0x130 := by
      rw [CodePoint.isAscii, decide_eq_true_eq] at hc
      omega
    have hlower : lower (c :: rest) = [c.lower] ++ lower rest := by
      rw [lower, List.flatMap_cons, if_neg hplain]
      rfl
    rw [hlower, ih hrest]
    rfl

/-- No letter of the marker is a capital. -/
theorem tailMarker_not_isCapital : ∀ d ∈ tailMarker, ¬ d.IsCapital := by decide

/-- The marker stands in the lower case of a text where it stands in the text in some case. -/
theorem IsAscii.stands_iff (ht : t.IsAscii) :
    tailMarker <+: t.lower.drop p ↔
      ∃ mark back : Text, t.drop p = mark ++ back ∧ mark.IsCaseOf tailMarker := by
  have hcase : ∀ mark : Text, (∀ c ∈ mark, c ∈ t) →
      (mark.map CodePoint.lower = tailMarker ↔ mark.IsCaseOf tailMarker) := fun mark hmark =>
    map_lower_eq_iff fun c hc d hd =>
      CodePoint.lower_eq_iff_of_isAscii (ht c (hmark c hc)) (tailMarker_not_isCapital d hd)
  have hmem : ∀ {mark back : Text}, t.drop p = mark ++ back → ∀ c ∈ mark, c ∈ t :=
    fun hsplit c hc => List.mem_of_mem_drop (hsplit ▸ List.mem_append_left _ hc)
  rw [ht.lower_eq, ← List.map_drop]
  constructor
  · rintro ⟨rest, hrest⟩
    obtain ⟨mark, back, hsplit, hmark, -⟩ := List.map_eq_append_iff.mp hrest.symm
    exact ⟨mark, back, hsplit, (hcase mark (hmem hsplit)).mp hmark⟩
  · rintro ⟨mark, back, hsplit, hmark⟩
    rw [hsplit, List.map_append, (hcase mark (hmem hsplit)).mpr hmark]
    exact List.prefix_append _ _

/-- What a cut takes away starts with the marker, at an even offset. -/
theorem IsAscii.cutTail_rest (ht : t.IsAscii) :
    ∃ rest, t = t.cutTail ++ rest ∧
      (rest = [] ∨ Even t.cutTail.length ∧
        ∃ mark back : Text, rest = mark ++ back ∧ mark.IsCaseOf tailMarker) := by
  cases hp : t.tailOffset? with
  | none =>
    rw [cutTail_of_none hp]
    exact ⟨[], (List.append_nil t).symm, .inl rfl⟩
  | some p =>
    obtain ⟨heven, hstands, -⟩ := alignedFind?_least hp
    obtain ⟨mark, back, hsplit, hmark⟩ := ht.stands_iff.mp hstands
    have hlt : p ≤ t.length := by
      have hlength := hmark.length_eq
      have hdrop := congrArg List.length hsplit
      rw [List.length_drop, List.length_append, hlength] at hdrop
      have hpos : 0 < tailMarker.length := by decide
      omega
    rw [cutTail_of_some hp, List.length_take_of_le hlt]
    exact ⟨t.drop p, (List.take_append_drop p t).symm, .inr ⟨heven, mark, back, hsplit, hmark⟩⟩

/-- What a cut leaves has no marker at an even offset. -/
theorem IsAscii.cutTail_free (ht : t.IsAscii) {front mark back : Text}
    (hcut : t.cutTail = front ++ mark ++ back) (heven : Even front.length) :
    ¬ mark.IsCaseOf tailMarker := by
  intro hmark
  obtain ⟨rest, hrest, -⟩ := ht.cutTail_rest
  have hstands : tailMarker <+: t.lower.drop front.length := by
    refine ht.stands_iff.mpr ⟨mark, back ++ rest, ?_, hmark⟩
    rw [hrest, hcut, List.append_assoc, List.append_assoc, List.drop_left]
  cases hp : t.tailOffset? with
  | none => exact alignedFind?_complete hp _ heven hstands
  | some p =>
    -- the marker of the tail is no later than this one, so this one is not in front of the cut
    obtain ⟨-, -, hleast⟩ := alignedFind?_least hp
    have hle : p ≤ front.length := not_lt.mp fun hlt => hleast _ hlt heven hstands
    have hlength := congrArg List.length hcut
    rw [cutTail_of_some hp, List.length_append, List.length_append, hmark.length_eq] at hlength
    have hshort := List.length_take_le p t
    have hpos : 0 < tailMarker.length := by decide
    omega

/-- There is nothing to clean in hex digits. -/
theorem cleanHex_of_digits (h : ∀ c ∈ t, c ∈ hexAlphabet) : t.cleanHex = t := by
  have hbare : t.IsBare := by
    intro c hc
    obtain ⟨n, hn⟩ := exists_hexDigit_of_mem (h c hc)
    exact ⟨hn.notBlank, hn.notQuote⟩
  rw [hbare.cleanHex]
  rcases dropHexMark_cases t with hself | ⟨x, hx, ht⟩
  · exact hself
  · -- the `x` of a mark is no digit
    obtain ⟨n, hn⟩ := exists_hexDigit_of_mem (h x (by rw [ht]; simp))
    rcases hx with rfl | rfl
    · exact absurd rfl hn.notMark.1
    · exact absurd rfl hn.notMark.2

/-- **The tail is found at the least even offset.** For every text the search in rounds ends with
the answer that is used, and with no other: the least even offset at which the marker stands in
the lower case of the text, or none exactly if there is no such offset. If the text is ASCII, what
stripping leaves is a front of the cleaned text without a marker, in whatever letter case, at an
even offset; the rest is nothing or starts, at an even offset, with a marker. If the cleaned text is
made of hex digits, the code without its tail has exactly the stripped text. -/
theorem tail_found_least (t : Text) :
    (∀ answer, AlignedSearch tailMarker t.lower (findFrom? tailMarker t.lower 0) answer ↔
        answer = t.tailOffset?) ∧
      (∀ p, t.tailOffset? = some p ↔ IsLeast {q | Even q ∧ tailMarker <+: t.lower.drop q} p) ∧
      (t.tailOffset? = none ↔ ¬ ∃ q, Even q ∧ tailMarker <+: t.lower.drop q) ∧
      (t.IsAscii →
        (∃ rest, t.cleanHex = t.stripTail ++ rest ∧
          (rest = [] ∨ Even t.stripTail.length ∧
            ∃ mark back : Text, rest = mark ++ back ∧ mark.IsCaseOf tailMarker)) ∧
        ∀ front mark back, t.stripTail = front ++ mark ++ back → Even front.length →
          ¬ mark.IsCaseOf tailMarker) ∧
      ((∀ c ∈ t.cleanHex, c ∈ hexAlphabet) →
        (Bytecode.ofText (some t)).stripped.hex = t.stripTail) := by
  refine ⟨fun answer => alignedSearch_iff (by decide), fun p => alignedFind?_eq_some_iff_isLeast,
    alignedFind?_eq_none_iff, fun hascii => ⟨hascii.cleanHex.cutTail_rest, ?_⟩, ?_⟩
  · intro front mark back hcut heven
    exact hascii.cleanHex.cutTail_free hcut heven
  · intro hdigits
    rw [Bytecode.hex_stripped, Bytecode.hex_ofText, stripTail]
    exact cleanHex_of_digits fun c hc => hdigits c ((cutTail_isPrefix _).subset hc)

/-- A marker that straddles bytes, and behind it one in capitals that does not. -/
def straddledText : Text := "0x6a26469706673580A264697066735800"

/-- In the straddled text the search takes a second round, and the cut is made at the second
marker. -/
theorem tail_found_least_straddled :
    straddledText.IsAscii ∧ (∀ c ∈ straddledText.cleanHex, c ∈ hexAlphabet) ∧
      findFrom? tailMarker straddledText.lower 0 = some 3 ∧
      AlignedSearch tailMarker straddledText.lower (findFrom? tailMarker straddledText.lower 0)
        (some 18) ∧
      straddledText.stripTail = "6a26469706673580" ∧
      (∀ front mark back, straddledText.stripTail = front ++ mark ++ back → Even front.length →
        ¬ mark.IsCaseOf tailMarker) ∧
      (Bytecode.ofText (some straddledText)).stripped.hex = straddledText.stripTail := by
  have hascii : straddledText.IsAscii := by decide
  have hdigits : ∀ c ∈ straddledText.cleanHex, c ∈ hexAlphabet := by decide +kernel
  have hoffset : straddledText.tailOffset? = some 18 := by decide
  obtain ⟨hrounds, -, -, hcut, hstripped⟩ := tail_found_least straddledText
  obtain ⟨-, hfree⟩ := hcut hascii
  exact ⟨hascii, hdigits, by decide, (hrounds _).mpr hoffset.symm, by decide, hfree,
    hstripped hdigits⟩

end Text
end DelegateAudit
