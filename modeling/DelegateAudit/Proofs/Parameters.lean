import DelegateAudit.Proofs.Hex
import DelegateAudit.Proofs.Quoting
import DelegateAudit.Proofs.Surface

/-!
# DelegateAudit — malformed parameters

An ABI comes straight from JSON, so anything may stand where an entry or a parameter should. Most
of it does no harm: a parameter whose type cannot be written falls back on its declared type. Three
things do:

* while the type of a tuple is put together, its components are gone through from left to right,
  and a component that is neither an object nor a string ends the whole analysis, unless something
  before it is missing already;
* so does a component that is too deep inside for the machine to follow;
* what is no entry at all is quoted in a message, and quoting fails for a value that nests too deep
  or holds a number with too many digits.

`Abi.HasWrittenType` and `Abi.Stops` say which parameters can be written and which end the analysis,
by the shape of the value and without the writing function. `Abi.Ends` puts this together with what
is known of quoting (`Value.Hinders`) for single entries.

Main results:

* `Abi.writtenType_stops_iff` — the writing function fails for good exactly on the parameters that
  stop it.
* `Abi.analyze_returns_iff` — an analysis ends with a surface exactly if no entry ends it; otherwise
  it ends with the fault of the first entry that does.
* `Abi.analyze_number_parameter` — a number for a parameter is enough for that.
-/

namespace DelegateAudit

open Json

-- ---------------------------------------------------------------------------
-- Text with an encoding
-- ---------------------------------------------------------------------------

/-- Every code point is a character; no surrogate stands alone. -/
def Text.isUnicode (t : Text) : Bool :=
  t.all fun
    | .scalar _ => true
    | .surrogate _ => false

theorem Text.isUnicode_append {s t : Text} (hs : s.isUnicode = true) (ht : t.isUnicode = true) :
    (s ++ t).isUnicode = true := by
  unfold isUnicode at *
  rw [List.all_append, hs, ht]
  rfl

theorem Text.isUnicode_of_subset {s t : Text} (hsub : s ⊆ t) (ht : t.isUnicode = true) :
    s.isUnicode = true := by
  unfold isUnicode at *
  rw [List.all_eq_true] at *
  intro c hc
  exact ht c (hsub hc)

/-- Unicode pieces put together with a Unicode separator are Unicode text. -/
theorem Text.isUnicode_join {sep : Text} {pieces : List Text} (hsep : sep.isUnicode = true)
    (hpieces : ∀ piece ∈ pieces, piece.isUnicode = true) : (join sep pieces).isUnicode = true := by
  unfold join
  induction pieces with
  | nil => rfl
  | cons piece rest ih =>
    have hpiece := hpieces piece (by simp)
    have hrest := ih fun other hother => hpieces other (by simp [hother])
    cases rest with
    | nil => simpa [List.intercalate] using hpiece
    | cons next more =>
      rw [List.intercalate_cons_cons]
      exact isUnicode_append (isUnicode_append hpiece hsep) hrest

/-- Unicode text has an encoding. -/
theorem Text.exists_encodeUtf8 {t : Text} (h : t.isUnicode = true) :
    ∃ bytes, t.encodeUtf8 = .ok bytes := by
  unfold isUnicode at h
  rw [List.all_eq_true] at h
  rw [encodeUtf8, BadRun.find?_eq_none]
  · exact ⟨_, rfl⟩
  · intro c hc
    cases c with
    | scalar c => rfl
    | surrogate s => exact absurd (h _ hc) (by simp)

-- ---------------------------------------------------------------------------
-- One computation for every item of a list
-- ---------------------------------------------------------------------------

section MapM

variable {α β ε : Type} {f : α → Except ε β}

/-- What does not fail has a result. -/
theorem exists_ok_iff {r : Except ε α} : (∃ a, r = .ok a) ↔ ∀ fault, r ≠ .error fault := by
  cases r with
  | ok a => simp
  | error fault => simp

/-- A traversal has results exactly if each item has its own. -/
theorem mapM_eq_ok_iff {xs : List α} {ys : List β} :
    xs.mapM f = .ok ys ↔ xs.map f = ys.map .ok := by
  induction xs generalizing ys with
  | nil =>
    rw [List.mapM_nil, List.map_nil, eq_comm, eq_comm (b := ys.map _), List.map_eq_nil_iff]
    exact ⟨fun h => Except.ok.inj h, fun h => by rw [h]; rfl⟩
  | cons x rest ih =>
    rw [List.mapM_cons, List.map_cons]
    cases hx : f x with
    | error fault => cases ys <;> simp [bind, Except.bind]
    | ok y =>
      cases hrest : rest.mapM f with
      | error fault => cases ys <;> simp [bind, Except.bind, ← ih, hrest]
      | ok more => cases ys <;> simp [bind, Except.bind, pure, Except.pure, ← ih, hrest]

/-- Every item has its result, and every result its item. -/
theorem results_of_mapM {xs : List α} {ys : List β} (h : xs.mapM f = .ok ys) :
    (∀ x ∈ xs, ∃ y, f x = .ok y) ∧ ∀ y ∈ ys, ∃ x ∈ xs, f x = .ok y := by
  rw [mapM_eq_ok_iff] at h
  constructor
  · intro x hx
    have hmem : f x ∈ ys.map .ok := by
      rw [← h]
      exact List.mem_map_of_mem hx
    obtain ⟨y, -, hy⟩ := List.mem_map.mp hmem
    exact ⟨y, hy.symm⟩
  · intro y hy
    have hmem : .ok y ∈ xs.map f := by
      rw [h]
      exact List.mem_map_of_mem hy
    exact List.mem_map.mp hmem

/-- The first item that fails decides how the whole fails. -/
theorem mapM_eq_error_iff {xs : List α} {fault : ε} :
    xs.mapM f = .error fault ↔
      ∃ front x back, xs = front ++ x :: back ∧ (∀ u ∈ front, ∃ y, f u = .ok y) ∧
        f x = .error fault := by
  induction xs with
  | nil => simp [pure, Except.pure]
  | cons first rest ih =>
    rw [List.mapM_cons]
    cases hfirst : f first with
    | error cause =>
      constructor
      · intro h
        cases h
        exact ⟨[], first, rest, rfl, by simp, hfirst⟩
      · rintro ⟨front, x, back, hxs, hfront, hx⟩
        -- nothing that succeeds can stand before an item that is the first and fails
        cases front with
        | nil =>
          cases hxs
          cases hfirst.symm.trans hx
          rfl
        | cons u front =>
          cases hxs
          obtain ⟨y, hy⟩ := hfront first (by simp)
          rw [hfirst] at hy
          cases hy
    | ok y =>
      have hrest : (do pure ((← Except.ok y) :: (← rest.mapM f)) : Except ε (List β)) =
          .error fault ↔ rest.mapM f = .error fault := by
        cases rest.mapM f with
        | error cause => simp [bind, Except.bind]
        | ok more => simp [bind, Except.bind, pure, Except.pure]
      rw [hrest, ih]
      constructor
      · rintro ⟨front, x, back, rfl, hfront, hx⟩
        refine ⟨first :: front, x, back, rfl, ?_, hx⟩
        intro u hu
        rcases List.mem_cons.mp hu with rfl | hu
        · exact ⟨y, hfirst⟩
        · exact hfront u hu
      · rintro ⟨front, x, back, hxs, hfront, hx⟩
        cases front with
        | nil =>
          cases hxs
          rw [hfirst] at hx
          cases hx
        | cons u front =>
          cases hxs
          exact ⟨front, x, back, rfl, fun u hu => hfront u (by simp [hu]), hx⟩

end MapM

namespace Json.Value

mutual

/-- All strings in the value, keys included, are Unicode text. -/
def isUnicode : Value → Bool
  | .str t => t.isUnicode
  | .arr items => itemsUnicode items
  | .obj members => membersUnicode members
  | _ => true

def itemsUnicode : List Value → Bool
  | [] => true
  | v :: rest => isUnicode v && itemsUnicode rest

def membersUnicode : List (Text × Value) → Bool
  | [] => true
  | (key, v) :: rest => key.isUnicode && isUnicode v && membersUnicode rest

end

@[simp] theorem isUnicode_str (t : Text) : (Value.str t).isUnicode = t.isUnicode := by
  rw [isUnicode]

theorem isUnicode_of_mem_items {items : List Value} (h : itemsUnicode items = true) {v : Value}
    (hv : v ∈ items) : v.isUnicode = true := by
  induction items with
  | nil => simp at hv
  | cons first rest ih =>
    rw [itemsUnicode, Bool.and_eq_true] at h
    rcases List.mem_cons.mp hv with rfl | hv
    · exact h.1
    · exact ih h.2 hv

/-- The keys of Unicode members are Unicode text, and so are their values. -/
theorem isUnicode_of_mem_members {members : Members} (h : membersUnicode members = true)
    {member : Text × Value} (hmem : member ∈ members) :
    member.1.isUnicode = true ∧ member.2.isUnicode = true := by
  induction members with
  | nil => simp at hmem
  | cons first rest ih =>
    obtain ⟨key, v⟩ := first
    rw [membersUnicode, Bool.and_eq_true, Bool.and_eq_true] at h
    rcases List.mem_cons.mp hmem with rfl | hmem
    · exact h.1
    · exact ih h.2 hmem

/-- What one goes through in Unicode text is Unicode text. -/
theorem isUnicode_of_mem_elements {v : Value} (h : v.isUnicode = true) {items : List Value}
    (hitems : v.elements? = some items) {u : Value} (hu : u ∈ items) : u.isUnicode = true := by
  cases v with
  | arr inner =>
    cases hitems
    rw [isUnicode] at h
    exact isUnicode_of_mem_items h hu
  | obj members =>
    cases hitems
    obtain ⟨member, hmember, rfl⟩ := List.mem_map.mp hu
    rw [isUnicode] at h
    rw [isUnicode_str]
    exact (isUnicode_of_mem_members h hmember).1
  | str t =>
    cases hitems
    obtain ⟨c, hc, rfl⟩ := List.mem_map.mp hu
    rw [isUnicode_str] at h ⊢
    exact Text.isUnicode_of_subset (by simpa using hc) h
  | _ => cases hitems

end Json.Value

theorem Json.Members.mem_of_get? {members : Members} {key : Text} {v : Value}
    (h : members.get? key = some v) : (key, v) ∈ members := by
  obtain ⟨front, back, rfl, -⟩ := List.lookup_eq_some_iff.mp h
  simp

/-- A member of a Unicode object is Unicode text. -/
theorem Json.Members.isUnicode_of_get? {members : Members} {key : Text} {v : Value}
    (hmembers : (Value.obj members).isUnicode = true) (h : members.get? key = some v) :
    v.isUnicode = true := by
  rw [Value.isUnicode] at hmembers
  exact (Value.isUnicode_of_mem_members hmembers (mem_of_get? h)).2

namespace Abi

-- ---------------------------------------------------------------------------
-- Which parameters can be written
-- ---------------------------------------------------------------------------

/-- A parameter of some type that is a tuple with these components. -/
def IsTuple (members : Members) (type : Text) (components : Value) : Prop :=
  members.get? "type" = some (.str type) ∧ ("tuple" : Text) <+: type ∧
    members.get? "components" = some components

section Limited

variable {limit : DepthLimit}

/-- The type of the parameter can be written: it is within the limit, and it is a string, an object
with a type that is no tuple, or a tuple all of whose components can be written one level deeper. An
object or a string in the place of the components stands for its keys or characters. -/
inductive HasWrittenType (limit : DepthLimit) : Nat → Value → Prop
  | text {level : Nat} {t : Text} (hreached : limit level (.str t) = none) :
      HasWrittenType limit level (.str t)
  | plain {level : Nat} {members : Members} {type : Text}
      (hreached : limit level (.obj members) = none)
      (htype : members.get? "type" = some (.str type)) (hplain : ¬ ("tuple" : Text) <+: type) :
      HasWrittenType limit level (.obj members)
  | tuple {level : Nat} {members : Members} {type : Text} {components : Value} {items : List Value}
      (hreached : limit level (.obj members) = none) (htuple : IsTuple members type components)
      (helements : components.elements? = some items)
      (hitems : ∀ v ∈ items, HasWrittenType limit (level + 1) v) :
      HasWrittenType limit level (.obj members)

/-- Going through the parameter from left to right, one comes upon a value that is beyond the limit,
or neither an object nor a string, and up to there nothing is missing. -/
inductive Stops (limit : DepthLimit) : Nat → Value → Fault → Prop
  | deep {level : Nat} {v : Value} {doing : Text} (hbeyond : limit level v = some doing) :
      Stops limit level v (.tooDeep doing)
  | shapeless {level : Nat} {v : Value} (hreached : limit level v = none)
      (htext : ∀ t, v ≠ .str t) (hmembers : ∀ members, v ≠ .obj members) :
      Stops limit level v (.noMembers v.kindName)
  | inside {level : Nat} {members : Members} {type : Text} {components v : Value}
      {front back : List Value} {fault : Fault}
      (hreached : limit level (.obj members) = none) (htuple : IsTuple members type components)
      (helements : components.elements? = some (front ++ v :: back))
      (hfront : ∀ u ∈ front, HasWrittenType limit (level + 1) u)
      (hv : Stops limit (level + 1) v fault) : Stops limit level (.obj members) fault

/-- What one goes through is hardly larger than what it comes from; a character is its own string.
-/
theorem sizeOf_le_of_mem_elements {components u : Value} {items : List Value}
    (h : components.elements? = some items) (hu : u ∈ items) :
    sizeOf u ≤ sizeOf components + 1 := by
  cases components with
  | arr inner =>
    cases h
    have hitem := List.sizeOf_lt_of_mem hu
    rw [Value.arr.sizeOf_spec]
    omega
  | obj members =>
    cases h
    obtain ⟨⟨key, v⟩, hmember, rfl⟩ := List.mem_map.mp hu
    have hsize := List.sizeOf_lt_of_mem hmember
    rw [Prod.mk.sizeOf_spec] at hsize
    rw [Value.obj.sizeOf_spec, Value.str.sizeOf_spec]
    change 1 + sizeOf key ≤ _
    omega
  | str t =>
    cases h
    obtain ⟨c, hc, rfl⟩ := List.mem_map.mp hu
    have hsize := List.sizeOf_lt_of_mem hc
    have hsingle : sizeOf ([c] : Text) = 1 + sizeOf c + 1 := by simp
    rw [Value.str.sizeOf_spec, Value.str.sizeOf_spec]
    omega
  | _ => cases h

/-- Induction along the components of parameters. -/
theorem component_induction {motive : Value → Prop}
    (step : ∀ v, (∀ members components items, v = .obj members →
      Members.get? members "components" = some components →
      components.elements? = some items → ∀ u ∈ items, motive u) → motive v)
    (v : Value) : motive v := by
  apply step
  intro members components items hv hget helements u hu
  exact component_induction step u
termination_by sizeOf v
decreasing_by
  have hmember := List.sizeOf_lt_of_mem (Members.mem_of_get? hget)
  have hitem := sizeOf_le_of_mem_elements helements hu
  subst hv
  rw [Prod.mk.sizeOf_spec] at hmember
  rw [Value.obj.sizeOf_spec]
  omega

/-- The components are the member with this key, one level down. -/
theorem writtenComponents_eq (level : Nat) (members : Members) :
    writtenComponents limit level members =
      (members.get? "components").bind (componentTypes limit (level + 1)) := by
  induction members with
  | nil => rfl
  | cons member rest ih =>
    obtain ⟨key, v⟩ := member
    rw [writtenComponents, ih]
    by_cases hkey : key = "components"
    · simp [hkey, Members.get?]
    · have hother : (("components" : Text) == key) = false := by
        rw [beq_eq_false_iff_ne]
        exact Ne.symm hkey
      simp [hkey, hother, Members.get?, List.lookup_cons]

/-- Writing a list is writing each of its parameters in turn. -/
theorem writtenTypes_eq_mapM (level : Nat) (items : List Value) :
    writtenTypes limit level items = items.mapM (writtenType limit level) := by
  induction items with
  | nil => rfl
  | cons v rest ih =>
    rw [writtenTypes, List.mapM_cons, ih]
    cases writtenType limit level v with
    | error fault => rfl
    | ok t =>
      cases rest.mapM (writtenType limit level) with
      | error fault => rfl
      | ok types => rfl

/-- Keys and characters are written like strings in a list. -/
theorem componentTypes_eq (level : Nat) (v : Value) :
    componentTypes limit level v =
      v.elements?.map fun items => items.mapM (writtenType limit level) := by
  have htext : (fun t : Text => writtenType limit level (.str t)) = writtenText limit level := by
    funext t
    rw [writtenType]
  cases v with
  | arr items =>
    rw [componentTypes, writtenTypes_eq_mapM]
    rfl
  | obj members =>
    rw [componentTypes, ← htext, List.mapM_map]
    show _ = some ((members.map fun m => Value.str m.1).mapM _)
    rw [List.mapM_map]
    rfl
  | str t =>
    rw [componentTypes, ← htext, List.mapM_map]
    show _ = some ((t.map fun c => Value.str [c]).mapM _)
    rw [List.mapM_map]
    rfl
  | _ =>
    rw [componentTypes]
    · rfl
    all_goals nofun

/-- The written type of a tuple, from what is known of its components. -/
def tupleType (type : Text) : Option (Except TypeFault (List Text)) → Except TypeFault Text
  | none => .error .incomplete
  | some (.error fault) => .error fault
  | some (.ok types) => .ok ("(" ++ Text.join "," types ++ ")" ++ type.drop 5)

/-- Beyond the limit nothing is written. -/
theorem writtenType_of_beyond {level : Nat} {v : Value} {doing : Text}
    (h : limit level v = some doing) : writtenType limit level v = .error (.tooDeep doing) := by
  cases v with
  | str t => rw [writtenType, writtenText, h]
  | obj members => rw [writtenType, h]
  | _ =>
    rw [writtenType, h]
    all_goals nofun

/-- A parameter of a plain type is written by its type. -/
theorem writtenType_of_plain {level : Nat} {members : Members} {type : Text}
    (hreached : limit level (.obj members) = none)
    (htype : members.get? "type" = some (.str type)) (hplain : ¬ ("tuple" : Text) <+: type) :
    writtenType limit level (.obj members) = .ok type := by
  rw [← List.isPrefixOf_iff_prefix] at hplain
  rw [writtenType, hreached, htype]
  simp [Value.text?, hplain]

/-- A tuple is written from the components that one goes through. -/
theorem writtenType_of_isTuple {level : Nat} {members : Members} {type : Text} {components : Value}
    (hreached : limit level (.obj members) = none) (h : IsTuple members type components) :
    writtenType limit level (.obj members) =
      tupleType type (components.elements?.map fun items =>
        items.mapM (writtenType limit (level + 1))) := by
  obtain ⟨htype, htuple, hcomponents⟩ := h
  rw [← List.isPrefixOf_iff_prefix] at htuple
  rw [writtenType, hreached, htype, writtenComponents_eq, hcomponents, ← componentTypes_eq]
  simp only [Option.bind_some, Value.text?, htuple, if_true]
  rcases componentTypes limit (level + 1) components with _ | fault | types
  · rfl
  · rfl
  · rfl

/-- An object within the limit is a parameter of a plain type, a tuple, or incomplete. -/
theorem writtenType_obj_cases {level : Nat} {members : Members}
    (hreached : limit level (.obj members) = none) :
    (∃ type, members.get? "type" = some (.str type) ∧ ¬ ("tuple" : Text) <+: type) ∨
      (∃ type components, IsTuple members type components) ∨
      writtenType limit level (.obj members) = .error .incomplete := by
  cases htype : (members.get? "type").bind Value.text? with
  | none =>
    right; right
    rw [writtenType, hreached, htype]
  | some type =>
    have hget : members.get? "type" = some (.str type) := by
      obtain ⟨v, hv, htext⟩ := Option.bind_eq_some_iff.mp htype
      cases v with
      | str t =>
        cases htext
        exact hv
      | _ => cases htext
    by_cases htuple : ("tuple" : Text) <+: type
    · right
      cases hcomponents : members.get? "components" with
      | some components => exact .inl ⟨type, components, hget, htuple, hcomponents⟩
      | none =>
        right
        rw [← List.isPrefixOf_iff_prefix] at htuple
        rw [writtenType, hreached, htype, writtenComponents_eq, hcomponents]
        simp [htuple]
    · exact .inl ⟨type, hget, htuple⟩

/-- What can be written is written. -/
theorem exists_writtenType {level : Nat} {v : Value} (h : HasWrittenType limit level v) :
    ∃ t, writtenType limit level v = .ok t := by
  induction h with
  | @text level t hreached => exact ⟨t, by rw [writtenType, writtenText, hreached]⟩
  | plain hreached htype hplain => exact ⟨_, writtenType_of_plain hreached htype hplain⟩
  | @tuple level members type components items hreached htuple helements hitems ih =>
    -- every component has a written type, so the list of them has
    have hall : ∃ types, items.mapM (writtenType limit (level + 1)) = .ok types := by
      cases hmap : items.mapM (writtenType limit (level + 1)) with
      | ok types => exact ⟨types, rfl⟩
      | error fault =>
        obtain ⟨front, v, back, rfl, -, hv⟩ := mapM_eq_error_iff.mp hmap
        obtain ⟨t, ht⟩ := ih v (by simp)
        rw [hv] at ht
        cases ht
    obtain ⟨types, htypes⟩ := hall
    rw [writtenType_of_isTuple hreached htuple, helements, Option.map_some, htypes]
    exact ⟨_, rfl⟩

/-- What stops is not written, and its declared type will not do either. -/
theorem exists_ending {level : Nat} {v : Value} {fault : Fault} (h : Stops limit level v fault) :
    ∃ cause, writtenType limit level v = .error cause ∧ cause.ending? = some fault := by
  induction h with
  | deep hbeyond => exact ⟨_, writtenType_of_beyond hbeyond, rfl⟩
  | @shapeless level v hreached htext hmembers =>
    refine ⟨.shapeless v.kindName, ?_, rfl⟩
    rw [writtenType, hreached]
    · exact htext
    · exact hmembers
  | @inside level members type components v front back fault hreached htuple helements hfront hv
      ih =>
    obtain ⟨cause, hcause, hending⟩ := ih
    have hall : (front ++ v :: back).mapM (writtenType limit (level + 1)) = .error cause := by
      rw [mapM_eq_error_iff]
      exact ⟨front, v, back, rfl, fun u hu => exists_writtenType (hfront u hu), hcause⟩
    refine ⟨cause, ?_, hending⟩
    rw [writtenType_of_isTuple hreached htuple, helements, Option.map_some, hall]
    rfl

theorem isUnicode_tupleType {members : Members} {type t : Text} {components : Value}
    {types : List Text} (hmembers : (Value.obj members).isUnicode = true)
    (htuple : IsTuple members type components)
    (htypes : ∀ part ∈ types, part.isUnicode = true)
    (ht : tupleType type (some (.ok types)) = .ok t) : t.isUnicode = true := by
  cases ht
  have htype : type.isUnicode = true := by
    simpa using Members.isUnicode_of_get? hmembers htuple.1
  have hparts : (Text.join "," types).isUnicode = true := Text.isUnicode_join (by decide) htypes
  have hsuffix : Text.isUnicode (type.drop 5) = true :=
    Text.isUnicode_of_subset (List.drop_subset 5 type) htype
  exact Text.isUnicode_append (Text.isUnicode_append (Text.isUnicode_append (by decide) hparts)
    (by decide)) hsuffix

/-- What is known of a parameter from how the writing of its type ends. -/
structure Sound (limit : DepthLimit) (level : Nat) (v : Value) : Prop where
  written : ∀ t, writtenType limit level v = .ok t → HasWrittenType limit level v
  unicode : ∀ t, writtenType limit level v = .ok t → v.isUnicode = true → t.isUnicode = true
  stops : ∀ cause fault, writtenType limit level v = .error cause → cause.ending? = some fault →
    Stops limit level v fault

/-- All that is left to show where a type is written. -/
theorem Sound.of_ok {level : Nat} {v : Value} {t : Text} (h : writtenType limit level v = .ok t)
    (hwritten : HasWrittenType limit level v)
    (hunicode : v.isUnicode = true → t.isUnicode = true) : Sound limit level v where
  written _ _ := hwritten
  unicode u hu := by
    cases h.symm.trans hu
    exact hunicode
  stops cause fault hcause := by cases h.symm.trans hcause

/-- All that is left to show where no type is written. -/
theorem Sound.of_error {level : Nat} {v : Value} {cause : TypeFault}
    (h : writtenType limit level v = .error cause)
    (hstops : ∀ fault, cause.ending? = some fault → Stops limit level v fault) :
    Sound limit level v where
  written t ht := by cases h.symm.trans ht
  unicode t ht := by cases h.symm.trans ht
  stops other fault hother := by
    cases h.symm.trans hother
    exact hstops fault

/-- The step from the components of a tuple to the tuple. -/
theorem sound_of_isTuple {level : Nat} {members : Members} {type : Text} {components : Value}
    (hreached : limit level (.obj members) = none) (htuple : IsTuple members type components)
    (ih : ∀ items, components.elements? = some items → ∀ u ∈ items, Sound limit (level + 1) u) :
    Sound limit level (.obj members) := by
  have hwrites := writtenType_of_isTuple hreached htuple
  cases helements : components.elements? with
  | none =>
    -- what may stand there besides cannot be gone through, and the declared type has to do
    rw [helements] at hwrites
    exact .of_error hwrites nofun
  | some items =>
    rw [helements, Option.map_some] at hwrites
    replace ih := ih items helements
    cases hmap : items.mapM (writtenType limit (level + 1)) with
    | ok types =>
      obtain ⟨hwritten, hparts⟩ := results_of_mapM hmap
      rw [hmap] at hwrites
      refine .of_ok hwrites ?_ ?_
      · refine .tuple hreached htuple helements fun u hu => ?_
        obtain ⟨part, hpart⟩ := hwritten u hu
        exact (ih u hu).written part hpart
      · intro hmembers
        have hcomponents := Members.isUnicode_of_get? hmembers htuple.2.2
        refine isUnicode_tupleType hmembers htuple (fun part hpart => ?_) rfl
        obtain ⟨u, hu, hwrites⟩ := hparts part hpart
        exact (ih u hu).unicode part hwrites
          (Value.isUnicode_of_mem_elements hcomponents helements hu)
    | error cause =>
      rw [hmap] at hwrites
      refine .of_error hwrites fun fault hending => ?_
      -- the first component without a written type is the one that stops
      obtain ⟨front, v, back, rfl, hfront, hv⟩ := mapM_eq_error_iff.mp hmap
      refine .inside hreached htuple helements (fun u hu => ?_)
        ((ih v (by simp)).stops cause fault hv hending)
      obtain ⟨part, hpart⟩ := hfront u hu
      exact (ih u (by simp [hu])).written part hpart

/-- Nothing else is written, a written type is as well encoded as its parameter, and nothing else
fails for good. -/
theorem writtenType_sound (level : Nat) (v : Value) : Sound limit level v := by
  induction v using component_induction generalizing level with
  | step v ih =>
    cases hreached : limit level v with
    | some doing =>
      refine .of_error (writtenType_of_beyond hreached) fun fault hending => ?_
      cases hending
      exact .deep hreached
    | none =>
      cases v with
      | str t =>
        have hwrites : writtenType limit level (.str t) = .ok t := by
          rw [writtenType, writtenText, hreached]
        exact .of_ok hwrites (.text hreached) fun hunicode => by rwa [Value.isUnicode] at hunicode
      | obj members =>
        rcases writtenType_obj_cases hreached with
          ⟨type, htype, hplain⟩ | ⟨type, components, htuple⟩ | hincomplete
        · refine .of_ok (writtenType_of_plain hreached htype hplain)
            (.plain hreached htype hplain) fun hmembers => ?_
          have hunicode := Members.isUnicode_of_get? hmembers htype
          rwa [Value.isUnicode] at hunicode
        · refine sound_of_isTuple hreached htuple fun items helements u hu => ?_
          exact ih members components items rfl htuple.2.2 helements u hu (level + 1)
        · exact .of_error hincomplete nofun
      | _ =>
        refine .of_error (by simp only [writtenType, hreached]; rfl) fun fault hending => ?_
        cases hending
        exact .shapeless hreached nofun nofun

/-- **The writing of a type fails for good exactly on the parameters that stop it.** -/
theorem writtenType_stops_iff {level : Nat} {v : Value} {fault : Fault} :
    (∃ cause, writtenType limit level v = .error cause ∧ cause.ending? = some fault) ↔
      Stops limit level v fault := by
  constructor
  · rintro ⟨cause, hcause, hending⟩
    exact (writtenType_sound level v).stops cause fault hcause hending
  · exact exists_ending

-- ---------------------------------------------------------------------------
-- Signatures and selectors
-- ---------------------------------------------------------------------------

theorem isUnicode_textOf {members : Members} (h : (Value.obj members).isUnicode = true)
    (key : Text) : (textOf members key).isUnicode = true := by
  unfold textOf
  cases hget : members.get? key with
  | none => rfl
  | some v =>
    have hv := Members.isUnicode_of_get? h hget
    cases v with
    | str t => simpa [Value.text?] using hv
    | _ => rfl

theorem isUnicode_declaredType {v : Value} (h : v.isUnicode = true) :
    (declaredType v).isUnicode = true := by
  cases v with
  | obj members => exact isUnicode_textOf h "type"
  | _ => rfl

theorem isUnicode_of_mem_parameters {entry : Members} (h : (Value.obj entry).isUnicode = true)
    {v : Value} (hv : v ∈ parameters entry) : v.isUnicode = true := by
  unfold parameters at hv
  split at hv
  · next inputs hinputs =>
    have hall := Members.isUnicode_of_get? h hinputs
    rw [Value.isUnicode] at hall
    exact Value.isUnicode_of_mem_items hall hv
  · simp at hv

/-- A parameter keeps a signature from being written exactly if it stops. -/
theorem signaturePart_eq_error_iff {v : Value} {fault : Fault} :
    signaturePart limit v = .error fault ↔ Stops limit 0 v fault := by
  rw [← writtenType_stops_iff, signaturePart]
  cases writtenType limit 0 v with
  | ok t => simp
  | error cause =>
    cases cause with
    | incomplete => simp [TypeFault.ending?]
    | shapeless kind => simp [TypeFault.ending?]
    | tooDeep doing => simp [TypeFault.ending?]

/-- What a parameter adds to a signature is as well encoded as the parameter. -/
theorem isUnicode_signaturePart {v : Value} {t : Text} (h : signaturePart limit v = .ok t)
    (hv : v.isUnicode = true) : t.isUnicode = true := by
  rw [signaturePart] at h
  cases hwritten : writtenType limit 0 v with
  | ok type =>
    rw [hwritten] at h
    cases h
    exact (writtenType_sound 0 v).unicode t hwritten hv
  | error cause =>
    simp only [hwritten] at h
    split at h
    · cases h
    · cases h
      exact isUnicode_declaredType hv

/-- The first parameter that stops ends the writing of a signature. -/
theorem signature_eq_error_iff {entry : Members} {fault : Fault} :
    signature limit entry = .error fault ↔
      ∃ front v back, parameters entry = front ++ v :: back ∧
        (∀ u ∈ front, ∀ cause, ¬ Stops limit 0 u cause) ∧ Stops limit 0 v fault := by
  have hparts : signature limit entry = .error fault ↔
      (parameters entry).mapM (signaturePart limit) = .error fault := by
    rw [signature]
    cases (parameters entry).mapM (signaturePart limit) with
    | error cause => simp [bind, Except.bind]
    | ok types => exact iff_of_false nofun nofun
  simp only [hparts, mapM_eq_error_iff, exists_ok_iff, ne_eq, signaturePart_eq_error_iff]

/-- The signature of a Unicode entry is Unicode text. -/
theorem isUnicode_signature {entry : Members} {t : Text} (h : signature limit entry = .ok t)
    (hentry : (Value.obj entry).isUnicode = true) : t.isUnicode = true := by
  obtain ⟨types, htypes, h⟩ := Run.except_bind_eq_ok.mp h
  cases h
  have hjoined : (Text.join "," types).isUnicode = true := by
    refine Text.isUnicode_join (by decide) fun t ht => ?_
    obtain ⟨v, hv, hpart⟩ := (results_of_mapM htypes).2 t ht
    exact isUnicode_signaturePart hpart (isUnicode_of_mem_parameters hentry hv)
  have hname := isUnicode_textOf hentry "name"
  exact Text.isUnicode_append (Text.isUnicode_append (Text.isUnicode_append hname
    (by decide)) hjoined) (by decide)

end Limited

/-- Unicode text has a selector. -/
theorem exists_selector {t : Text} (h : t.isUnicode = true) :
    ∃ chosen, selector t = .ok chosen := by
  have hfiltered : Text.isUnicode (t.filter fun c => c ≠ .scalar ' ') = true :=
    Text.isUnicode_of_subset List.filter_sublist.subset h
  obtain ⟨bytes, hbytes⟩ := Text.exists_encodeUtf8 hfiltered
  rw [selector, hbytes]
  exact ⟨_, rfl⟩

-- ---------------------------------------------------------------------------
-- The analysis
-- ---------------------------------------------------------------------------

/-- The entry ends the analysis: it is none and cannot be quoted, or it is that of a forwarder
with a parameter that stops. -/
inductive Ends (limits : Limits) (rules : ForwarderRules) : Value → Fault → Prop
  | quoting {v : Value} {cause : Value.QuoteFault} (hmembers : ∀ members, v ≠ .obj members)
      (hcause : v.Hinders limits.digits limits.quoting cause) :
      Ends limits rules v (.ofQuoting cause)
  | parameter {entry : Members} {front back : List Value} {v : Value} {fault : Fault}
      (hforwarder : IsForwarderEntry rules (.obj entry))
      (hparameters : parameters entry = front ++ v :: back)
      (hfront : ∀ u ∈ front, ∀ cause, ¬ Stops limits.expansion 0 u cause)
      (hv : Stops limits.expansion 0 v fault) : Ends limits rules (.obj entry) fault

/-- A value that is no entry is not quoted exactly if something is in the way. -/
theorem quotedEntry_eq_error_iff {limits : Limits} {v : Value} {fault : Fault} :
    quotedEntry limits v = .error fault ↔
      ∃ cause, v.Hinders limits.digits limits.quoting cause ∧ fault = .ofQuoting cause := by
  simp only [← Value.quoteFault?_eq_some_iff]
  rw [quotedEntry]
  cases v.quoteFault? limits.digits limits.quoting with
  | none => simp
  | some cause => simp [eq_comm]

/-- An object that is no entry of a forwarder ends nothing. -/
theorem not_ends_of_other {limits : Limits} {rules : ForwarderRules} {members : Members}
    {fault : Fault} (h : ¬ IsForwarderEntry rules (.obj members)) :
    ¬ Ends limits rules (.obj members) fault := by
  intro hends
  cases hends with
  | quoting hmembers => exact hmembers members rfl
  | parameter hforwarder => exact h hforwarder

/-- A single entry shows nothing exactly if it ends the analysis. -/
theorem entrySurface_eq_error_iff {limits : Limits} {rules : ForwarderRules} {v : Value}
    (unicode : v.isUnicode = true) {fault : Fault} :
    entrySurface limits rules v = .error fault ↔ Ends limits rules v fault := by
  rw [entrySurface]
  rcases kindOf_cases rules v with ⟨hkind, ⟨members, rfl, -⟩, hother⟩ |
    ⟨entry, hkind, rfl, -, hforwarder⟩ | ⟨hkind, hmembers, -⟩ | ⟨hkind, ⟨members, rfl⟩, -, hother⟩
  · rw [hkind]
    exact iff_of_false (by simp) (not_ends_of_other hother)
  · -- the selector never fails, so all depends on the signature
    have hsigned : entrySurface limits rules (.obj entry) = .error fault ↔
        signature limits.expansion entry = .error fault := by
      rw [entrySurface, hkind]
      cases hsignature : signature limits.expansion entry with
      | error cause => simp [hsignature, bind, Except.bind]
      | ok written =>
        obtain ⟨chosen, hchosen⟩ := exists_selector (isUnicode_signature hsignature unicode)
        simp [hsignature, hchosen, bind, Except.bind, pure, Except.pure]
    rw [← entrySurface, hsigned, signature_eq_error_iff]
    constructor
    · rintro ⟨front, p, back, hparameters, hfront, hp⟩
      exact .parameter hforwarder hparameters hfront hp
    · intro h
      cases h with
      | quoting hmembers => exact absurd rfl (hmembers entry)
      | parameter _ hparameters hfront hp => exact ⟨_, _, _, hparameters, hfront, hp⟩
  · rw [hkind]
    have hquoted : (do let _ ← quotedEntry limits v; return ({} : Surface)) = .error fault ↔
        quotedEntry limits v = .error fault := by
      cases quotedEntry limits v with
      | error cause => simp [bind, Except.bind]
      | ok quoted => simp [bind, Except.bind, pure, Except.pure]
    rw [hquoted, quotedEntry_eq_error_iff]
    constructor
    · rintro ⟨cause, hcause, rfl⟩
      exact .quoting hmembers hcause
    · intro h
      cases h with
      | quoting _ hcause => exact ⟨_, hcause, rfl⟩
      | parameter => exact absurd rfl (hmembers _)
  · rw [hkind]
    exact iff_of_false (by simp) (not_ends_of_other hother)

/-- Going through entries ends with the fault of the first entry that shows nothing. -/
theorem addEntries_eq_error_iff {limits : Limits} {rules : ForwarderRules} {surface : Surface}
    {entries : List Value} {fault : Fault} :
    (addEntries limits rules surface entries).outcome = .error fault ↔
      entries.mapM (entrySurface limits rules) = .error fault := by
  induction entries generalizing surface with
  | nil => exact iff_of_false nofun nofun
  | cons v rest ih =>
    rw [outcome_addEntries_cons, List.mapM_cons]
    cases entrySurface limits rules v with
    | error cause => simp [bind, Except.bind]
    | ok shown =>
      refine (@ih (surface.union shown)).trans ?_
      cases rest.mapM (entrySurface limits rules) with
      | error cause => simp [bind, Except.bind]
      | ok more => exact iff_of_false nofun nofun

/-- **When an analysis returns.** Whatever the entries look like, as long as their strings have an
encoding, and however far the machine goes, the analysis ends with a surface exactly if no entry
ends it. If one does, the analysis ends with the fault of the first: that something was asked for
its members that has none, that something nests too deep, or that a number has too many digits. -/
theorem analyze_returns_iff (limits : Limits) (rules : ForwarderRules) (entries : List Value)
    (unicode : ∀ v ∈ entries, v.isUnicode = true) :
    ((∃ surface, (analyze limits rules entries).outcome = .ok surface) ↔
        ∀ v ∈ entries, ∀ fault, ¬ Ends limits rules v fault) ∧
      ∀ fault, (analyze limits rules entries).outcome = .error fault ↔
        ∃ front v back, entries = front ++ v :: back ∧
          (∀ u ∈ front, ∀ cause, ¬ Ends limits rules u cause) ∧ Ends limits rules v fault := by
  have hends : ∀ v ∈ entries, ∀ fault,
      entrySurface limits rules v = .error fault ↔ Ends limits rules v fault :=
    fun v hv fault => entrySurface_eq_error_iff (unicode v hv)
  have hfault : ∀ fault, (analyze limits rules entries).outcome = .error fault ↔
      ∃ front v back, entries = front ++ v :: back ∧
        (∀ u ∈ front, ∀ cause, ¬ Ends limits rules u cause) ∧ Ends limits rules v fault := by
    intro fault
    rw [analyze, addEntries_eq_error_iff, mapM_eq_error_iff]
    refine exists_congr fun front => exists_congr fun v => exists_congr fun back =>
      and_congr_right fun hentries => and_congr ?_ ?_
    · refine forall₂_congr fun u hu => ?_
      rw [exists_ok_iff]
      exact forall_congr' fun cause => not_congr (hends u (by simp [hentries, hu]) cause)
    · exact hends v (by simp [hentries]) fault
  refine ⟨?_, hfault⟩
  rw [exists_ok_iff]
  constructor
  · intro hno v hv cause hcause
    -- some entry ends the analysis, so there is a first one
    have hfirst : ∃ fault, entries.mapM (entrySurface limits rules) = .error fault := by
      cases hmap : entries.mapM (entrySurface limits rules) with
      | error fault => exact ⟨fault, rfl⟩
      | ok shown =>
        obtain ⟨surface, hsurface⟩ := (results_of_mapM hmap).1 v hv
        rw [(hends v hv cause).mpr hcause] at hsurface
        cases hsurface
    obtain ⟨fault, hfault⟩ := hfirst
    exact hno fault (addEntries_eq_error_iff.mpr hfault)
  · intro hnone fault h
    obtain ⟨front, v, back, rfl, -, hv⟩ := (hfault fault).mp h
    exact hnone v (by simp) fault hv

/-- A tuple in which something is missing before one comes upon the number. -/
def damagedTuple : Value :=
  .obj [("type", .str "tuple[]"), ("components", .arr [.obj [("name", .str "x")], .int 1])]

/-- A forwarder with this tuple and a string for its parameters. -/
def damagedForwarder : Members :=
  [("type", .str "function"), ("name", .str "execute"),
   ("inputs", .arr [damagedTuple, .str "bytes"])]

/-- Entries with damage that does no harm. -/
def damagedEntries : List Value := [.null, .int 7, .obj damagedForwarder]

theorem analyze_returns_iff_damaged :
    (∀ v ∈ damagedEntries, v.isUnicode = true) ∧
      ∃ surface, (analyze {} .standard damagedEntries).outcome = .ok surface := by
  have hunicode : ∀ v ∈ damagedEntries, v.isUnicode = true := by decide
  refine ⟨hunicode, (analyze_returns_iff {} .standard damagedEntries hunicode).1.mpr ?_⟩
  intro v hv fault hends
  cases hends with
  | quoting hmembers hcause =>
    -- both values that are no entries can be quoted
    rw [← Value.quoteFault?_eq_some_iff] at hcause
    simp only [damagedEntries, List.mem_cons, List.not_mem_nil, or_false] at hv
    rcases hv with rfl | rfl | rfl
    · cases hcause
    · have hquoted : (Value.int 7).quoteFault? ({} : Limits).digits
          ({} : Limits).quoting = none := by decide
      rw [hquoted] at hcause
      cases hcause
    · exact hmembers _ rfl
  | @parameter entry front back p fault hforwarder hparameters hfront hp =>
    obtain rfl : entry = damagedForwarder := by simpa [damagedEntries] using hv
    have hsignature : signature ({} : Limits).expansion damagedForwarder =
        .ok "execute(tuple[],bytes)" := by decide
    have hstopped := signature_eq_error_iff.mpr ⟨front, p, back, hparameters, hfront, hp⟩
    rw [hsignature] at hstopped
    cases hstopped

/-- A forwarder with a number for its only parameter. -/
def numberEntries : List Value :=
  [.obj [("type", .str "function"), ("name", .str "execute"), ("inputs", .arr [.int 1])]]

/-- The number ends the analysis, and there is no surface. -/
theorem analyze_number_parameter :
    (∀ v ∈ numberEntries, v.isUnicode = true) ∧
      (analyze {} .standard numberEntries).outcome = .error (.noMembers "int") := by
  decide

end Abi
end DelegateAudit
