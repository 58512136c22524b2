import DelegateAudit.Abi
import DelegateAudit.Proofs.Outcome

/-!
# DelegateAudit — what the surface of a contract means

Every entry of an ABI shows a surface of its own (`Abi.entrySurface`), and going through the
entries unites these in order (`Abi.outcome_addEntries_cons`). Both flags are thus known from
single entries: `Abi.IsFallbackEntry` and `Abi.IsForwarderEntry` say which entries set them, in
terms of the entry and the rule table alone.
-/

namespace DelegateAudit

open Json

theorem Text.contains_iff_infix {needle t : Text} : contains needle t = true ↔ needle <:+: t := by
  induction t with
  | nil => simp [contains]
  | cons c rest ih =>
    rw [contains, Bool.or_eq_true, List.isPrefixOf_iff_prefix, ih, List.infix_cons_iff]

theorem ForwarderRules.signatureMatches_iff {rules : ForwarderRules} {types : Text} :
    rules.signatureMatches types = true ↔
      types ∈ rules.exactSignatures ∨ ∃ group ∈ rules.groups, ∀ t ∈ group, t <:+: types := by
  simp [signatureMatches, Text.contains_iff_infix]

namespace Abi

/-! ## Single entries -/

/-- A fallback or receive entry. -/
def IsFallbackEntry (v : Value) : Prop :=
  ∃ entry, v = .obj entry ∧
    (textOf entry "type" = ("fallback" : Text) ∨ textOf entry "type" = ("receive" : Text))

/-- An entry of a function that can change state and has the name or the comma-joined parameter
types of a forwarder. -/
def IsForwarderEntry (rules : ForwarderRules) (v : Value) : Prop :=
  ∃ entry, v = .obj entry ∧ textOf entry "type" = ("function" : Text) ∧
    textOf entry "stateMutability" ≠ ("pure" : Text) ∧
    textOf entry "stateMutability" ≠ ("view" : Text) ∧
    (textOf entry "name" ∈ rules.names ∨
      Text.join "," (inputTypes entry) ∈ rules.exactSignatures ∨
      ∃ group ∈ rules.groups, ∀ t ∈ group, t <:+: Text.join "," (inputTypes entry))

theorem isForwarder_iff {rules : ForwarderRules} {entry : Members} :
    isForwarder rules entry = true ↔
      textOf entry "name" ∈ rules.names ∨
        Text.join "," (inputTypes entry) ∈ rules.exactSignatures ∨
        ∃ group ∈ rules.groups, ∀ t ∈ group, t <:+: Text.join "," (inputTypes entry) := by
  rw [isForwarder, Bool.or_eq_true, ForwarderRules.signatureMatches_iff, ForwarderRules.nameMatches,
    List.elem_iff]

/-- How an entry is sorted says which of the two it is, and no entry is both. -/
theorem kindOf_cases (rules : ForwarderRules) (v : Value) :
    (kindOf rules v = .fallback ∧ IsFallbackEntry v ∧ ¬ IsForwarderEntry rules v) ∨
      (∃ entry, kindOf rules v = .forwarder entry ∧ v = .obj entry ∧ ¬ IsFallbackEntry v ∧
        IsForwarderEntry rules v) ∨
      (kindOf rules v = .malformed ∧ (∀ members, v ≠ .obj members) ∧ ¬ IsFallbackEntry v ∧
        ¬ IsForwarderEntry rules v) ∨
      (kindOf rules v = .other ∧ (∃ members, v = .obj members) ∧ ¬ IsFallbackEntry v ∧
        ¬ IsForwarderEntry rules v) := by
  cases v with
  | obj entry =>
    simp only [kindOf, IsFallbackEntry, IsForwarderEntry, Value.obj.injEq, exists_eq_left']
    by_cases hfallback :
        textOf entry "type" = ("fallback" : Text) ∨ textOf entry "type" = ("receive" : Text)
    · -- one type is not another
      have hfunction : textOf entry "type" ≠ ("function" : Text) := by
        rcases hfallback with h | h <;> rw [h] <;> decide
      refine .inl ⟨if_pos (by simpa using hfallback), hfallback, fun h => hfunction h.1⟩
    · rw [if_neg (by simpa using hfallback)]
      by_cases hfunction : textOf entry "type" = ("function" : Text)
      · rw [if_neg (not_not.mpr hfunction)]
        by_cases hreads : textOf entry "stateMutability" = ("pure" : Text) ∨
            textOf entry "stateMutability" = ("view" : Text)
        · rw [if_pos (by simpa using hreads)]
          refine .inr (.inr (.inr ⟨rfl, ⟨entry, rfl⟩, hfallback, fun h => ?_⟩))
          exact hreads.elim h.2.1 h.2.2.1
        · rw [if_neg (by simpa using hreads)]
          rw [not_or] at hreads
          by_cases hforwarder : isForwarder rules entry = true
          · rw [if_pos hforwarder]
            exact .inr (.inl ⟨entry, rfl, rfl, hfallback, hfunction, hreads.1, hreads.2,
              isForwarder_iff.mp hforwarder⟩)
          · rw [if_neg hforwarder]
            exact .inr (.inr (.inr ⟨rfl, ⟨entry, rfl⟩, hfallback,
              fun h => hforwarder (isForwarder_iff.mpr h.2.2.2)⟩))
      · rw [if_pos hfunction]
        exact .inr (.inr (.inr ⟨rfl, ⟨entry, rfl⟩, hfallback, fun h => hfunction h.1⟩))
  -- what is no object is malformed
  | _ =>
    exact .inr (.inr (.inl ⟨rfl, nofun, by simp [IsFallbackEntry], by simp [IsForwarderEntry]⟩))

/-! ## All entries -/

/-- What two lists of entries show together, one after the other. -/
def Surface.union (s t : Surface) : Surface :=
  ⟨s.hasForwarder || t.hasForwarder, s.hasFallback || t.hasFallback, s.forwarders ++ t.forwarders⟩

/-- What a single entry shows. -/
def entrySurface (limits : Limits) (rules : ForwarderRules) (v : Value) : Except Fault Surface :=
  match kindOf rules v with
  | .malformed => do
    let _ ← quotedEntry limits v
    return {}
  | .other => .ok {}
  | .fallback => .ok { hasFallback := true }
  | .forwarder entry => do
    let signature ← signature limits.expansion entry
    let selector ← selector signature
    return { hasForwarder := true, forwarders := [signature ++ " " ++ selector] }

theorem Surface.union_empty (s : Surface) : s.union {} = s := by
  simp [union]

/-- One entry after another. -/
theorem outcome_addEntries_cons (limits : Limits) (rules : ForwarderRules) (surface : Surface)
    (v : Value) (rest : List Value) :
    (addEntries limits rules surface (v :: rest)).outcome =
      entrySurface limits rules v >>= fun shown =>
        (addEntries limits rules (surface.union shown) rest).outcome := by
  rw [addEntries, entrySurface]
  cases kindOf rules v with
  | malformed =>
    simp only [Run.outcome_bind, Run.outcome_ofExcept]
    cases quotedEntry limits v with
    | error fault => rfl
    | ok quoted =>
      show _ = (addEntries limits rules (surface.union {}) rest).outcome
      rw [Surface.union_empty]
      rfl
  | fallback =>
    show _ = (addEntries limits rules (surface.union { hasFallback := true }) rest).outcome
    simp [Surface.union]
  | other =>
    show _ = (addEntries limits rules (surface.union {}) rest).outcome
    rw [Surface.union_empty]
  | forwarder entry =>
    -- signature and selector can both fail, and then nothing is added
    simp only [Run.outcome_bind, Run.outcome_ofExcept]
    cases signature limits.expansion entry with
    | error fault => rfl
    | ok written =>
      cases hselector : selector written with
      | error fault => simp [hselector, bind, Except.bind]
      | ok chosen =>
        simp [hselector, bind, Except.bind, pure, Except.pure, Surface.union]

/-- The flags of a single entry's surface. -/
theorem entrySurface_flags {limits : Limits} {rules : ForwarderRules} {v : Value} {shown : Surface}
    (h : entrySurface limits rules v = .ok shown) :
    (shown.hasFallback = true ↔ IsFallbackEntry v) ∧
      (shown.hasForwarder = true ↔ IsForwarderEntry rules v) := by
  rw [entrySurface] at h
  rcases kindOf_cases rules v with ⟨hkind, hfallback, hforwarder⟩ |
    ⟨entry, hkind, -, hfallback, hforwarder⟩ | ⟨hkind, -, hfallback, hforwarder⟩ |
    ⟨hkind, -, hfallback, hforwarder⟩
  · rw [hkind] at h
    cases h
    simp [hfallback, hforwarder]
  · rw [hkind] at h
    obtain ⟨written, -, h⟩ := Run.except_bind_eq_ok.mp h
    obtain ⟨chosen, -, h⟩ := Run.except_bind_eq_ok.mp h
    cases h
    simp [hfallback, hforwarder]
  · rw [hkind] at h
    obtain ⟨quoted, -, h⟩ := Run.except_bind_eq_ok.mp h
    cases h
    simp [hfallback, hforwarder]
  · rw [hkind] at h
    cases h
    simp [hfallback, hforwarder]

/-- What going through entries adds to the flags. -/
theorem addEntries_flags {limits : Limits} {rules : ForwarderRules} {entries : List Value}
    {surface result : Surface}
    (h : (addEntries limits rules surface entries).outcome = .ok result) :
    (result.hasFallback = true ↔
        surface.hasFallback = true ∨ ∃ v ∈ entries, IsFallbackEntry v) ∧
      (result.hasForwarder = true ↔
        surface.hasForwarder = true ∨ ∃ v ∈ entries, IsForwarderEntry rules v) := by
  induction entries generalizing surface with
  | nil =>
    cases h
    simp
  | cons v rest ih =>
    rw [outcome_addEntries_cons] at h
    obtain ⟨shown, hshown, h⟩ := Run.except_bind_eq_ok.mp h
    obtain ⟨hfallback, hforwarder⟩ := ih h
    obtain ⟨hshownFallback, hshownForwarder⟩ := entrySurface_flags hshown
    simp only [hfallback, hforwarder, Surface.union, Bool.or_eq_true, hshownFallback,
      hshownForwarder, List.exists_mem_cons_iff, or_assoc, and_self]

/-- **The surface means what its flags say.** -/
theorem analyze_flags {limits : Limits} {rules : ForwarderRules} {entries : List Value}
    {surface : Surface} (h : (analyze limits rules entries).outcome = .ok surface) :
    (surface.hasFallback = true ↔ ∃ v ∈ entries, IsFallbackEntry v) ∧
      (surface.hasForwarder = true ↔ ∃ v ∈ entries, IsForwarderEntry rules v) := by
  simpa using addEntries_flags h

end Abi
end DelegateAudit
