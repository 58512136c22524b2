import DelegateAudit.Proofs.JsonText

/-!
# DelegateAudit — JSON as it is written

The reader merges repeated keys as it goes, and what it returns no longer shows how often a key
stood in the text, or where. Here a text is taken as it is written: `Written` keeps every member,
and `Spells` says by which rules a text spells what is written. The rules are a grammar, each made
of the rule for what is nested in it. Of the reader they only use what a single string or number
is.

The grammar is unambiguous, so that one may speak of the keys in a text. The reader takes exactly
what the grammar allows: what it reads is spelled, and what is spelled is read, because nothing is
spelled without taking up text and so the fuel of the reader never runs out.

Main results:

* `Spells.unique` — a text spells one thing only.
* `Reader.value_follows` — what is read is spelled, along the nesting.
* `Reader.value_reads` — what is spelled is read, along the nesting.
* `parse_eq_ok_iff` — a text is read exactly if it spells something, and as the value of that.
-/

namespace DelegateAudit.Json

open Reader (skip)

-- ---------------------------------------------------------------------------
-- What is written
-- ---------------------------------------------------------------------------

/-- What stands in a text, with all members of its objects. -/
inductive Written where
  | scalar (v : Value) (hflat : v.members? = none)
  | list (items : List Written)
  | object (members : List (Text × Written))

/-- The members of an object as they are written. -/
abbrev WrittenMembers := List (Text × Written)

namespace Written

mutual

/-- What is meant: a repeated key has its first place and its last value. -/
def value : Written → Value
  | .scalar v _ => v
  | .list items => .arr (values items)
  | .object members => .obj (Members.ofList (memberValues members))

/-- The values of items. -/
def values : List Written → List Value
  | [] => []
  | w :: rest => value w :: values rest

/-- The values of members, before any of them are merged. -/
def memberValues : WrittenMembers → List (Text × Value)
  | [] => []
  | (key, w) :: rest => (key, value w) :: memberValues rest

end

theorem memberValues_eq_map (members : WrittenMembers) :
    memberValues members = members.map fun m => (m.1, m.2.value) := by
  induction members with
  | nil => rfl
  | cons m rest ih => rw [memberValues, ih, List.map_cons]

end Written

-- ---------------------------------------------------------------------------
-- The grammar
-- ---------------------------------------------------------------------------

/-- A rule: the front of a text spells something, and the rest is left. -/
abbrev Rule (α : Type) := Text → α → Text → Prop

section Rules

variable {α : Type}

/-- One or more of a kind, with commas between them, up to what closes them. -/
inductive Row (one : Rule α) (close : CodePoint) : Rule (List α)
  | last {t left rest : Text} {a : α} (h : one t a left) (hclose : skip left = close :: rest) :
      Row one close t [a] rest
  | next {t left after rest : Text} {a : α} {more : List α} (h : one t a left)
      (hcomma : skip left = .scalar ',' :: after) (hmore : Row one close (skip after) more rest) :
      Row one close t (a :: more) rest

/-- Any number of a kind behind what opens them. -/
inductive Enclosed (one : Rule α) (close : CodePoint) : Rule (List α)
  | none {t rest : Text} (hclose : skip t = close :: rest) : Enclosed one close t [] rest
  | some {t rest : Text} {all : List α} (hopen : ∀ more, skip t ≠ close :: more)
      (hrow : Row one close (skip t) all rest) : Enclosed one close t all rest

/-- A key, a colon and a value. -/
inductive Member (inner : Rule Written) : Rule (Text × Written)
  | mk {t named after rest key : Text} {w : Written} (hkey : Reader.string t = .ok (key, named))
      (hcolon : skip named = .scalar ':' :: after) (h : inner (skip after) w rest) :
      Member inner (.scalar '"' :: t) (key, w) rest

/-- A value whose items or members are spelled by a rule. -/
inductive Nested (limit : Option Nat) (inner : Rule Written) : Rule Written
  | scalar {t rest : Text} {v : Value} {hflat : v.members? = Option.none}
      (h : Reader.scalar limit t = .ok (v, rest)) : Nested limit inner t (.scalar v hflat) rest
  | list {t rest : Text} {items : List Written} (h : Enclosed inner ']' t items rest) :
      Nested limit inner (.scalar '[' :: t) (.list items) rest
  | object {t rest : Text} {members : WrittenMembers}
      (h : Enclosed (Member inner) '}' t members rest) :
      Nested limit inner (.scalar '{' :: t) (.object members) rest

/-- The front of a text spells a value, with so many digits in a number and nested at most `depth`
deep. -/
def SpellsWithin (limit : Option Nat) : (depth : Nat) → Rule Written
  | 0, t, w, rest => ∃ v hflat, Reader.scalar limit t = .ok (v, rest) ∧ w = .scalar v hflat
  | depth + 1, t, w, rest => Nested limit (SpellsWithin limit depth) t w rest

/-- A whole text spells a value, within some bounds. -/
def Spells (bounds : Bounds) (t : Text) (w : Written) : Prop :=
  ∃ rest, SpellsWithin bounds.digits bounds.nesting (skip t) w rest ∧ skip rest = []

-- ---------------------------------------------------------------------------
-- A text spells one thing only
-- ---------------------------------------------------------------------------

/-- The rule lets a text spell one thing only, and leaves one rest. -/
def Unambiguous (one : Rule α) : Prop :=
  ∀ ⦃t a rest a' rest'⦄, one t a rest → one t a' rest' → a = a' ∧ rest = rest'

variable {one : Rule α} {inner : Rule Written} {close : CodePoint}

/-- A row is known from the text that starts with it, since a comma or the closing sign follows. -/
theorem Row.unambiguous (hone : Unambiguous one) (hcomma : close ≠ ',') :
    Unambiguous (Row one close) := by
  intro t as rest as' rest' h
  induction h generalizing as' rest' with
  | last ha hclose =>
    rintro (⟨ha', hclose'⟩ | ⟨ha', hnext', -⟩)
    · obtain ⟨rfl, rfl⟩ := hone ha ha'
      rw [hclose] at hclose'
      cases hclose'
      exact ⟨rfl, rfl⟩
    · obtain ⟨rfl, rfl⟩ := hone ha ha'
      rw [hclose] at hnext'
      exact absurd (List.cons.inj hnext').1 hcomma
  | next ha hnext hmore ih =>
    rintro (⟨ha', hclose'⟩ | ⟨ha', hnext', hmore'⟩)
    · obtain ⟨rfl, rfl⟩ := hone ha ha'
      rw [hnext] at hclose'
      exact absurd (List.cons.inj hclose').1.symm hcomma
    · obtain ⟨rfl, rfl⟩ := hone ha ha'
      rw [hnext] at hnext'
      cases hnext'
      obtain ⟨rfl, rfl⟩ := ih hmore'
      exact ⟨rfl, rfl⟩

theorem Enclosed.unambiguous (hone : Unambiguous one) (hcomma : close ≠ ',') :
    Unambiguous (Enclosed one close) := by
  rintro t as rest as' rest' (hclose | ⟨hopen, hrow⟩) (hclose' | ⟨hopen', hrow'⟩)
  · rw [hclose] at hclose'
    cases hclose'
    exact ⟨rfl, rfl⟩
  · exact absurd hclose (hopen' _)
  · exact absurd hclose' (hopen _)
  · exact Row.unambiguous hone hcomma hrow hrow'

/-- A member is known from its text: the key ends at its quote, and the value is known. -/
theorem Member.unambiguous (hinner : Unambiguous inner) : Unambiguous (Member inner) := by
  rintro _ _ rest _ rest' ⟨hkey, hcolon, h⟩ ⟨hkey', hcolon', h'⟩
  rw [hkey] at hkey'
  cases hkey'
  rw [hcolon] at hcolon'
  cases hcolon'
  obtain ⟨rfl, rfl⟩ := hinner h h'
  exact ⟨rfl, rfl⟩

theorem Nested.unambiguous {limit : Option Nat} (hinner : Unambiguous inner) :
    Unambiguous (Nested limit inner) := by
  -- what opens a list or an object opens nothing else
  have hlist : ∀ t v rest, Reader.scalar limit (.scalar '[' :: t) ≠ .ok (v, rest) := by
    rintro t v rest ⟨⟩
  have hobject : ∀ t v rest, Reader.scalar limit (.scalar '{' :: t) ≠ .ok (v, rest) := by
    rintro t v rest ⟨⟩
  intro t w rest w' rest' h h'
  cases h with
  | scalar h =>
    cases h' with
    | scalar h' =>
      rw [h] at h'
      cases h'
      exact ⟨rfl, rfl⟩
    | list => exact absurd h (hlist _ _ _)
    | object => exact absurd h (hobject _ _ _)
  | list h =>
    cases h' with
    | scalar h' => exact absurd h' (hlist _ _ _)
    | list h' =>
      obtain ⟨rfl, rfl⟩ := Enclosed.unambiguous hinner (by decide) h h'
      exact ⟨rfl, rfl⟩
  | object h =>
    cases h' with
    | scalar h' => exact absurd h' (hobject _ _ _)
    | object h' =>
      obtain ⟨rfl, rfl⟩ := Enclosed.unambiguous (Member.unambiguous hinner) (by decide) h h'
      exact ⟨rfl, rfl⟩

/-- **A text spells at most one value.** -/
theorem SpellsWithin.unambiguous (limit : Option Nat) (depth : Nat) :
    Unambiguous (SpellsWithin limit depth) := by
  induction depth with
  | zero =>
    rintro t w rest w' rest' ⟨v, hflat, h, rfl⟩ ⟨v', hflat', h', rfl⟩
    rw [h] at h'
    cases h'
    exact ⟨rfl, rfl⟩
  | succ depth ih => exact Nested.unambiguous ih

end Rules

/-- **A text spells one thing only.** -/
theorem Spells.unique {bounds : Bounds} {t : Text} {w w' : Written} (h : Spells bounds t w)
    (h' : Spells bounds t w') : w = w' := by
  obtain ⟨rest, hw, -⟩ := h
  obtain ⟨rest', hw', -⟩ := h'
  exact (SpellsWithin.unambiguous _ _ hw hw').1

-- ---------------------------------------------------------------------------
-- Single values
-- ---------------------------------------------------------------------------

namespace Reader

variable {limit : Option Nat} {t rest : Text} {v : Value}

theorem number_flat (h : number limit t = .ok (v, rest)) : v.members? = none := by
  unfold number at h
  repeat' split at h
  all_goals cases h
  all_goals rfl

/-- What is read without nesting is no object. -/
theorem scalar_flat (h : scalar limit t = .ok (v, rest)) : v.members? = none := by
  unfold scalar at h
  split at h
  · obtain ⟨_, -, hv⟩ := map_eq_ok h
    cases hv
    rfl
  · split at h
    case h_7 => exact number_flat h
    all_goals
      cases h
      rfl

theorem length_skip_le (t : Text) : (skip t).length ≤ t.length :=
  (List.dropWhile_suffix _).length_le

theorem length_of_hex4? {n : Nat} (h : hex4? t = some (n, rest)) : rest.length ≤ t.length := by
  unfold hex4? at h
  split at h
  · simp only [bind, Option.bind_eq_some_iff, Option.some.injEq, Prod.mk.injEq] at h
    obtain ⟨_, -, _, -, _, -, _, -, -, rfl⟩ := h
    simp only [List.length_cons]
    omega
  · cases h

theorem length_of_unicodeEscape {letter : Text} {c : CodePoint}
    (h : unicodeEscape letter t = .ok (c, rest)) : rest.length ≤ t.length := by
  unfold unicodeEscape at h
  split at h
  · cases h
  · cases h
  next n after _ hhex =>
  have hafter := length_of_hex4? hhex
  have halone : ∀ d, (.ok (d, after) : Result CodePoint) = .ok (c, rest) →
      rest.length ≤ t.length := by
    intro d hd
    obtain ⟨-, rfl⟩ := Prod.mk.inj (Except.ok.inj hd)
    exact hafter
  simp only at h
  split at h
  case isFalse => exact halone _ h
  split at h
  case h_2 => exact halone _ h
  split at h
  case isTrue => exact halone _ h
  split at h
  · cases h
  next hmore =>
  have hleft := length_of_hex4? hmore
  split at h
  · obtain ⟨-, rfl⟩ := Prod.mk.inj (Except.ok.inj h)
    simp only [List.length_cons] at hafter
    omega
  · exact halone _ h

theorem length_of_stringFrom {opening done s : Text} {fuel : Nat}
    (h : stringFrom opening fuel done t = .ok (s, rest)) : rest.length ≤ t.length := by
  induction fuel generalizing done t with
  | zero => cases h
  | succ fuel ih =>
    rw [stringFrom.eq_def] at h
    simp only at h
    split at h
    · cases h
    · cases h
      simp
    · split at h
      · cases h
      · split at h
        · cases h
        next hescape =>
        have hleft := length_of_unicodeEscape hescape
        have hrest := ih h
        simp only [List.length_cons]
        omega
      · split at h
        · have hrest := ih h
          simp only [List.length_cons]
          omega
        · cases h
    · split at h
      · cases h
      · have hrest := ih h
        simp only [List.length_cons]
        omega

theorem length_span_le (t : Text) : (t.span isDigit).2.length ≤ t.length := by
  rw [List.span_eq_takeWhile_dropWhile]
  exact (List.dropWhile_suffix _).length_le

theorem length_wholePart_le (t : Text) : (wholePart t).2.length ≤ t.length := by
  unfold wholePart
  split
  · simp
  · exact length_span_le t

theorem length_fractionPart_le (t : Text) : (fractionPart t).2.length ≤ t.length := by
  unfold fractionPart
  split
  · simp only
    split
    · exact le_rfl
    · exact (length_span_le _).trans (Nat.le_succ _)
  · exact le_rfl

theorem length_exponentPart_le (t : Text) : (exponentPart t).2.length ≤ t.length := by
  unfold exponentPart
  split
  case h_3 => exact le_rfl
  -- either letter, and then one of three signs
  all_goals
    simp only
    split
    all_goals
      split
      · exact le_rfl
      · refine (length_span_le _).trans ?_
        simp only [List.length_cons]
        omega

theorem length_of_number (h : number limit t = .ok (v, rest)) : rest.length ≤ t.length := by
  unfold number at h
  split at h
  next negative body hsign =>
  have hbody : body.length ≤ t.length := by
    split at hsign
    · cases hsign
      simp
    · cases hsign
      exact le_rfl
  have hwhole := length_wholePart_le body
  split at h
  next whole after hafter =>
  rw [hafter] at hwhole
  split at h
  · cases h
  have hfraction := length_fractionPart_le after
  split at h
  next fraction left hleft =>
  rw [hleft] at hfraction
  have hexponent := length_exponentPart_le left
  split at h
  next exponent last hlast =>
  rw [hlast] at hexponent
  simp only at hwhole hfraction hexponent
  split at h
  · split at h
    · cases h
    · cases h
      omega
  · cases h
    omega

theorem length_of_word? {word : Text} (h : word? word t = some rest) : rest.length ≤ t.length := by
  unfold word? at h
  split at h
  · cases h
    exact (List.drop_suffix _ _).length_le
  · cases h

/-- Reading never makes the rest longer. -/
theorem length_of_scalar (h : scalar limit t = .ok (v, rest)) : rest.length ≤ t.length := by
  unfold scalar at h
  split at h
  · obtain ⟨⟨s, left⟩, hstring, hv⟩ := map_eq_ok h
    cases hv
    exact (length_of_stringFrom hstring).trans (Nat.le_succ _)
  · split at h
    case h_7 => exact length_of_number h
    all_goals
      cases h
      exact length_of_word? (by assumption)

end Reader

-- ---------------------------------------------------------------------------
-- What is left
-- ---------------------------------------------------------------------------

section Rests

open Reader

variable {α : Type} {one : Rule α} {inner : Rule Written} {close : CodePoint} {limit : Option Nat}
  {t rest : Text}

/-- The rule leaves no more than there was. -/
def Shrinks (one : Rule α) : Prop := ∀ ⦃t a rest⦄, one t a rest → rest.length ≤ t.length

/-- A row takes up at least one character for each of its items. -/
theorem Row.length_le (hone : Shrinks one) {all : List α} (h : Row one close t all rest) :
    all.length + rest.length ≤ t.length := by
  induction h with
  | @last t left rest a ha hclose =>
    have hleft := hone ha
    have hskip := length_skip_le left
    rw [hclose] at hskip
    simp only [List.length_cons, List.length_nil] at hskip ⊢
    omega
  | @next t left after rest a more ha hcomma _ ih =>
    have hleft := hone ha
    have hskip := length_skip_le left
    rw [hcomma] at hskip
    have hafter := length_skip_le after
    simp only [List.length_cons] at hskip ⊢
    omega

theorem Enclosed.shrinks (hone : Shrinks one) : Shrinks (Enclosed one close) := by
  rintro t all rest (hclose | ⟨-, hrow⟩)
  · have hskip := length_skip_le t
    rw [hclose, List.length_cons] at hskip
    omega
  · have hskip := length_skip_le t
    have hlength := Row.length_le hone hrow
    omega

theorem Member.shrinks (hinner : Shrinks inner) : Shrinks (Member inner) := by
  rintro _ _ rest @⟨t, named, after, _, key, w, hkey, hcolon, h⟩
  have hnamed := length_of_stringFrom hkey
  have hskip := length_skip_le named
  rw [hcolon] at hskip
  have hafter := length_skip_le after
  have hrest := hinner h
  simp only [List.length_cons] at hskip ⊢
  omega

theorem Nested.shrinks (hinner : Shrinks inner) : Shrinks (Nested limit inner) := by
  intro t w rest h
  cases h with
  | scalar h => exact length_of_scalar h
  | list h => exact (Enclosed.shrinks hinner h).trans (Nat.le_succ _)
  | object h => exact (Enclosed.shrinks (Member.shrinks hinner) h).trans (Nat.le_succ _)

/-- What spells a value leaves no more than there was. -/
theorem SpellsWithin.shrinks (limit : Option Nat) (depth : Nat) :
    Shrinks (SpellsWithin limit depth) := by
  induction depth with
  | zero =>
    rintro t w rest ⟨v, -, h, -⟩
    exact length_of_scalar h
  | succ depth ih => exact Nested.shrinks ih

end Rests

-- ---------------------------------------------------------------------------
-- The reader follows the grammar
-- ---------------------------------------------------------------------------

namespace Reader

variable {limit : Option Nat} {t rest : Text} {v : Value}

/-- Whatever is read is the value of what the rule says is written. -/
def Follows (item : Text → Result Value) (one : Rule Written) : Prop :=
  ∀ ⦃t v rest⦄, item t = .ok (v, rest) → ∃ w, one t w rest ∧ w.value = v

variable {item : Text → Result Value} {one : Rule Written}

/-- Items that are read stand in a row. -/
theorem items_follows (hitem : Follows item one) {fuel : Nat} {done vs : List Value}
    (h : items item fuel done t = .ok (vs, rest)) :
    ∃ ws, Row one ']' t ws rest ∧ vs = done.reverse ++ Written.values ws := by
  -- the items that were read before stand in front, and the text at hand spells the others
  induction fuel generalizing done t with
  | zero => cases h
  | succ fuel ih =>
    rw [items] at h
    split at h
    · cases h
    next v left hv =>
    obtain ⟨w, hw, rfl⟩ := hitem hv
    split at h
    · next hclose =>
      cases h
      exact ⟨[w], .last hw hclose, List.reverse_cons⟩
    · next hcomma =>
      obtain ⟨ws, hrow, rfl⟩ := ih h
      refine ⟨w :: ws, .next hw hcomma hrow, ?_⟩
      rw [List.reverse_cons, List.append_assoc]
      rfl
    · cases h

/-- Members that are read stand in a row. -/
theorem members_follows (hitem : Follows item one) {fuel : Nat} {done ms : List (Text × Value)}
    (h : members item fuel done t = .ok (ms, rest)) :
    ∃ ws, Row (Member one) '}' t ws rest ∧ ms = done.reverse ++ Written.memberValues ws := by
  induction fuel generalizing done t with
  | zero => cases h
  | succ fuel ih =>
    rw [members.eq_def] at h
    simp only at h
    split at h
    case h_2 => cases h
    split at h
    · cases h
    next key named hkey =>
    split at h
    case h_2 => cases h
    next hcolon =>
    split at h
    · cases h
    next v left hv =>
    obtain ⟨w, hw, rfl⟩ := hitem hv
    split at h
    · next hclose =>
      cases h
      exact ⟨[(key, w)], .last ⟨hkey, hcolon, hw⟩ hclose, List.reverse_cons⟩
    · next hcomma =>
      obtain ⟨ws, hrow, rfl⟩ := ih h
      refine ⟨(key, w) :: ws, .next ⟨hkey, hcolon, hw⟩ hcomma hrow, ?_⟩
      rw [List.reverse_cons, List.append_assoc]
      rfl
    · cases h

/-- **The reader follows the grammar.** -/
theorem value_follows (limit : Option Nat) (depth : Nat) :
    Follows (value limit depth) (SpellsWithin limit depth) := by
  induction depth with
  | zero =>
    intro t v rest h
    rw [value.eq_def] at h
    simp only at h
    split at h
    · cases h
    · cases h
    · exact ⟨.scalar v (scalar_flat h), ⟨v, scalar_flat h, h, rfl⟩, rfl⟩
  | succ depth ih =>
    intro t v rest h
    rw [value.eq_def] at h
    simp only at h
    split at h
    · split at h
      · next hclose =>
        cases h
        exact ⟨.list [], .list (.none hclose), rfl⟩
      · next hopen =>
        obtain ⟨⟨vs, left⟩, hitems, hv⟩ := map_eq_ok h
        cases hv
        obtain ⟨ws, hrow, rfl⟩ := items_follows ih hitems
        exact ⟨.list ws, .list (.some hopen hrow), rfl⟩
    · split at h
      · next hclose =>
        cases h
        exact ⟨.object [], .object (.none hclose), rfl⟩
      · next hopen =>
        obtain ⟨⟨ms, left⟩, hmembers, hv⟩ := map_eq_ok h
        cases hv
        obtain ⟨ws, hrow, rfl⟩ := members_follows ih hmembers
        exact ⟨.object ws, .object (.some hopen hrow), rfl⟩
    · exact ⟨.scalar v (scalar_flat h), .scalar h, rfl⟩

/-- Whatever the rule says is written is read. -/
def Reads (item : Text → Result Value) (one : Rule Written) : Prop :=
  ∀ ⦃t w rest⦄, one t w rest → item t = .ok (w.value, rest)

/-- Items in a row are read. -/
theorem items_reads (hitem : Reads item one) {ws : List Written} (h : Row one ']' t ws rest)
    {fuel : Nat} (hfuel : ws.length ≤ fuel) (done : List Value) :
    items item fuel done t = .ok (done.reverse ++ Written.values ws, rest) := by
  -- along the row; each of its items costs one unit of fuel
  induction h generalizing fuel done with
  | last hw hclose =>
    obtain ⟨fuel, rfl⟩ := Nat.exists_eq_add_of_le' hfuel
    rw [List.length_singleton, items, hitem hw]
    simp only [hclose]
    rw [List.reverse_cons]
    rfl
  | next hw hcomma _ ih =>
    obtain ⟨fuel, rfl⟩ := Nat.exists_eq_add_of_le' (Nat.le_trans (Nat.le_add_left 1 _) hfuel)
    rw [items, hitem hw]
    simp only [hcomma]
    rw [ih (Nat.le_of_succ_le_succ hfuel), List.reverse_cons, List.append_assoc]
    rfl

/-- Members in a row are read. -/
theorem members_reads (hitem : Reads item one) {ws : WrittenMembers}
    (h : Row (Member one) '}' t ws rest) {fuel : Nat} (hfuel : ws.length ≤ fuel)
    (done : List (Text × Value)) :
    members item fuel done t = .ok (done.reverse ++ Written.memberValues ws, rest) := by
  induction h generalizing fuel done with
  | last hm hclose =>
    obtain ⟨hkey, hcolon, hw⟩ := hm
    obtain ⟨fuel, rfl⟩ := Nat.exists_eq_add_of_le' hfuel
    rw [List.length_singleton, members, hkey]
    simp only [hcolon, hitem hw, hclose]
    rw [List.reverse_cons]
    rfl
  | next hm hcomma _ ih =>
    obtain ⟨hkey, hcolon, hw⟩ := hm
    obtain ⟨fuel, rfl⟩ := Nat.exists_eq_add_of_le' (Nat.le_trans (Nat.le_add_left 1 _) hfuel)
    rw [members, hkey]
    simp only [hcolon, hitem hw, hcomma]
    rw [ih (Nat.le_of_succ_le_succ hfuel), List.reverse_cons, List.append_assoc]
    rfl

theorem value_of_scalar (h : scalar limit t = .ok (v, rest)) (depth : Nat) :
    value limit depth t = .ok (v, rest) := by
  cases depth with
  | zero =>
    rw [value.eq_def]
    simp only
    split
    · cases h
    · cases h
    · exact h
  | succ depth =>
    rw [value.eq_def]
    simp only
    split
    · cases h
    · cases h
    · exact h

/-- **Whatever the grammar says is written is read.** -/
theorem value_reads (limit : Option Nat) (depth : Nat) :
    Reads (value limit depth) (SpellsWithin limit depth) := by
  induction depth with
  | zero =>
    rintro t w rest ⟨v, hflat, h, rfl⟩
    exact value_of_scalar h 0
  | succ depth ih =>
    have hone := SpellsWithin.shrinks limit depth
    intro t w rest h
    cases h with
    | scalar h => exact value_of_scalar h _
    | @list t rest ws h =>
      rw [value]
      cases h with
      | none hclose =>
        simp only [hclose]
        rfl
      | some hopen hrow =>
        have hlength := Row.length_le hone hrow
        split
        · next more hmore => exact absurd hmore (hopen more)
        rw [items_reads ih hrow (by omega)]
        rfl
    | @object t rest ws h =>
      rw [value]
      cases h with
      | none hclose =>
        simp only [hclose]
        rfl
      | some hopen hrow =>
        have hlength := Row.length_le (Member.shrinks hone) hrow
        split
        · next more hmore => exact absurd hmore (hopen more)
        rw [members_reads ih hrow (by omega)]
        rfl

end Reader

/-- **What is read is what the text spells.** -/
theorem parse_eq_ok_iff {bounds : Bounds} {t : Text} {v : Value} :
    parse bounds t = .ok v ↔ ∃ w, Spells bounds t w ∧ w.value = v := by
  constructor
  · intro h
    unfold parse at h
    split at h
    · cases h
    split at h
    · cases h
    next hvalue =>
    obtain ⟨w, hw, rfl⟩ := Reader.value_follows _ _ hvalue
    split at h
    · next hrest =>
      cases h
      exact ⟨w, ⟨_, hw, hrest⟩, rfl⟩
    · cases h
  · rintro ⟨w, ⟨rest, hw, hrest⟩, rfl⟩
    have hvalue := Reader.value_reads _ _ hw
    unfold parse
    split
    · next tail =>
      -- nothing starts with a byte order mark
      have hstop : ∀ depth, Reader.value bounds.digits depth (.scalar '\ufeff' :: tail) =
          .error (.complaint .expectingValue (.scalar '\ufeff' :: tail)) := by
        intro depth
        cases depth <;> rfl
      cases (hstop _).symm.trans hvalue
    rw [hvalue]
    simp only [hrest]

end DelegateAudit.Json
