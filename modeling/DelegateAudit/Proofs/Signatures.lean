import DelegateAudit.Proofs.Parameters

/-!
# DelegateAudit — signatures are unambiguous

A signature is flat text, while the parameters it is made from are trees: a tuple has components,
which may be tuples again. We show that the text tells the trees apart. A type of its own name has
no parenthesis and no comma in it, so where such a character stands a type has just ended or a
tuple starts or ends; read from left to right, the text leaves no choice.

The induction is over the trees and says more than that written types differ: a written type
together with *what follows it* tells both, as long as what follows starts with a parenthesis or a
comma (`TypeTree.write_append_inj`). Only this passes from the components to the tuple, where a
component is followed by its neighbours.

A machine may give up on types that nest too deep, but it never writes another signature for that:
the text is the one that is written without any limit, or there is none (`signature_of_declares`).

Main results:

* `TypeTree.write_append_inj`, `TypeTree.closed_append_inj` — types, and lists of types up to the
  closing parenthesis, are known from the text that starts with them.
* `signature_of_declares` — the signature of a well-formed entry, from its name and its types.
* `signature_unambiguous` — entries with the same signature have the same name and the same types,
  whatever the limits were.
-/

namespace DelegateAudit.Abi

open Json

-- ---------------------------------------------------------------------------
-- Types as trees
-- ---------------------------------------------------------------------------

/-- The characters that show in a signature where types start and end. -/
def marks : Text := "(),"

/-- A text without any of them. -/
def Unmarked (t : Text) : Prop := ∀ c ∈ t, c ∉ marks

instance (t : Text) : Decidable (Unmarked t) := inferInstanceAs (Decidable (∀ c ∈ t, c ∉ marks))

/-- The name of a type that is no tuple. -/
structure IsPlainType (type : Text) : Prop where
  nonempty : type ≠ []
  noTuple : ¬ ("tuple" : Text) <+: type
  unmarked : Unmarked type

instance (type : Text) : Decidable (IsPlainType type) :=
  decidable_of_iff (type ≠ [] ∧ ¬ ("tuple" : Text) <+: type ∧ Unmarked type)
    ⟨fun h => ⟨h.1, h.2.1, h.2.2⟩, fun h => ⟨h.nonempty, h.noTuple, h.unmarked⟩⟩

/-- The type of a parameter: one with a name of its own, or a tuple of types, with what stands
after the word in its name, as in `tuple[3][]`. -/
inductive TypeTree where
  | plain (type : Text) (h : IsPlainType type)
  | tuple (components : List TypeTree) (suffix : Text) (h : Unmarked suffix)

namespace TypeTree

mutual

/-- A type as it stands in a signature. -/
def write : TypeTree → Text
  | .plain type _ => type
  | .tuple components suffix _ => "(" ++ Text.join "," (writeAll components) ++ ")" ++ suffix

def writeAll : List TypeTree → List Text
  | [] => []
  | t :: ts => write t :: writeAll ts

end

-- ---------------------------------------------------------------------------
-- Reading from left to right
-- ---------------------------------------------------------------------------

/-- Where a text goes on after the first character of some kind is known. -/
theorem append_inj_of_stop {p : CodePoint → Prop} {s s' rest rest' : Text}
    (hs : ∀ c ∈ s, ¬ p c) (hs' : ∀ c ∈ s', ¬ p c)
    (hrest : ∀ c ∈ rest.head?, p c) (hrest' : ∀ c ∈ rest'.head?, p c)
    (h : s ++ rest = s' ++ rest') : s = s' ∧ rest = rest' := by
  -- neither front can be longer than the other: what it has more would start with the character
  have hshort : ∀ {front middle back : Text}, (∀ c ∈ front ++ middle, ¬ p c) →
      (∀ c ∈ (middle ++ back).head?, p c) → middle = [] := by
    intro front middle back hno hyes
    cases middle with
    | nil => rfl
    | cons c more => exact absurd (hyes c rfl) (hno c (by simp))
  rcases List.append_eq_append_iff.mp h with ⟨middle, rfl, rfl⟩ | ⟨middle, rfl, rfl⟩
  · have hnil := hshort hs' hrest
    simp [hnil]
  · have hnil := hshort hs hrest'
    simp [hnil]

/-- What may follow a type in a signature. -/
def Follows (rest : Text) : Prop := ∀ c ∈ rest.head?, c ∈ marks

/-- The types of a list up to the closing parenthesis. -/
def closed (ts : List TypeTree) : Text := Text.join "," (writeAll ts) ++ ")"

/-- What follows a type in a list. -/
def after : List TypeTree → Text
  | [] => ")"
  | t :: ts => "," ++ closed (t :: ts)

theorem closed_cons (t : TypeTree) (ts : List TypeTree) :
    closed (t :: ts) = t.write ++ after ts := by
  cases ts with
  | nil => simp [closed, after, writeAll, Text.join, List.intercalate]
  | cons u us =>
    simp only [closed, after, writeAll, Text.join]
    rw [List.intercalate_cons_cons, List.append_assoc, List.append_assoc]

theorem follows_after (ts : List TypeTree) (rest : Text) : Follows (after ts ++ rest) := by
  intro c hc
  cases ts with
  | nil =>
    obtain rfl : c = .scalar ')' := (Option.some.inj hc).symm
    decide
  | cons t ts =>
    obtain rfl : c = .scalar ',' := (Option.some.inj hc).symm
    decide

theorem write_tuple_append (components : List TypeTree) (suffix rest : Text) (h : Unmarked suffix) :
    (tuple components suffix h).write ++ rest =
      .scalar '(' :: (closed components ++ (suffix ++ rest)) := by
  rw [write, closed]
  simp only [List.append_assoc]
  rfl

/-- A type of its own name starts with no mark. -/
theorem plain_append_ne {type rest rest' : Text} {c : CodePoint} (h : IsPlainType type)
    (hc : c ∈ marks) : type ++ rest ≠ c :: rest' := by
  obtain ⟨first, more, rfl⟩ := List.exists_cons_of_ne_nil h.nonempty
  intro heq
  obtain ⟨rfl, -⟩ := List.cons.inj heq
  exact h.unmarked first (by simp) hc

/-- A list is closed at once only if it is empty. -/
theorem closed_cons_ne (t : TypeTree) (ts : List TypeTree) (rest rest' : Text) :
    closed (t :: ts) ++ rest ≠ closed [] ++ rest' := by
  rw [closed_cons, List.append_assoc]
  cases t with
  | plain type h => exact plain_append_ne h (by decide)
  | tuple components suffix h =>
    rw [write_tuple_append]
    intro heq
    exact absurd (List.cons.inj heq).1 (by decide)

/-- A comma is no closing parenthesis, so what follows a type tells whether there are others. -/
theorem after_append_inj {ts ts' : List TypeTree}
    (hlist : ∀ {rest rest' : Text}, closed ts ++ rest = closed ts' ++ rest' →
      ts = ts' ∧ rest = rest') {rest rest' : Text} (h : after ts ++ rest = after ts' ++ rest') :
    ts = ts' ∧ rest = rest' := by
  cases ts with
  | nil =>
    cases ts' with
    | nil => exact ⟨rfl, List.append_cancel_left h⟩
    | cons t' ts' => exact absurd (List.cons.inj h).1 (by decide)
  | cons t ts =>
    cases ts' with
    | nil => exact absurd (List.cons.inj h).1 (by decide)
    | cons t' ts' => exact hlist (List.cons.inj h).2

-- By recursion over the first tree: a tuple asks for its components, a list for its first type and
-- for the others, which stand behind a comma.
mutual

theorem write_append_inj : ∀ (t t' : TypeTree) {rest rest' : Text}, Follows rest → Follows rest' →
    t.write ++ rest = t'.write ++ rest' → t = t' ∧ rest = rest'
  | .plain type h, .plain type' h', rest, rest', hrest, hrest', heq => by
    rw [write, write] at heq
    obtain ⟨rfl, hsame⟩ := append_inj_of_stop h.unmarked h'.unmarked hrest hrest' heq
    exact ⟨rfl, hsame⟩
  | .plain type h, .tuple components suffix h', rest, rest', _, _, heq => by
    rw [write_tuple_append] at heq
    exact absurd heq (plain_append_ne h (by decide))
  | .tuple components suffix h, .plain type h', rest, rest', _, _, heq => by
    rw [write_tuple_append] at heq
    exact absurd heq.symm (plain_append_ne h' (by decide))
  | .tuple components suffix h, .tuple components' suffix' h', rest, rest', hrest, hrest', heq => by
    rw [write_tuple_append, write_tuple_append] at heq
    obtain ⟨rfl, htail⟩ := closed_append_inj components components' (List.cons.inj heq).2
    obtain ⟨rfl, hsame⟩ := append_inj_of_stop h h' hrest hrest' htail
    exact ⟨rfl, hsame⟩

theorem closed_append_inj : ∀ (ts ts' : List TypeTree) {rest rest' : Text},
    closed ts ++ rest = closed ts' ++ rest' → ts = ts' ∧ rest = rest'
  | [], [], rest, rest', heq => ⟨rfl, List.append_cancel_left heq⟩
  | [], t' :: ts', rest, rest', heq => absurd heq.symm (closed_cons_ne t' ts' rest' rest)
  | t :: ts, [], rest, rest', heq => absurd heq (closed_cons_ne t ts rest rest')
  | t :: ts, t' :: ts', rest, rest', heq => by
    rw [closed_cons, closed_cons, List.append_assoc, List.append_assoc] at heq
    obtain ⟨rfl, htail⟩ :=
      write_append_inj t t' (follows_after ts rest) (follows_after ts' rest') heq
    obtain ⟨rfl, hsame⟩ := after_append_inj (closed_append_inj ts ts') htail
    exact ⟨rfl, hsame⟩

end

end TypeTree

-- ---------------------------------------------------------------------------
-- Parameters and entries
-- ---------------------------------------------------------------------------

/-- A well-formed parameter, and its type. -/
inductive HasType : Value → TypeTree → Prop
  | plain {members : Members} {type : Text} {h : IsPlainType type}
      (htype : members.get? "type" = some (.str type)) :
      HasType (.obj members) (.plain type h)
  | tuple {members : Members} {items : List Value} {components : List TypeTree} {suffix : Text}
      {h : Unmarked suffix} (htype : members.get? "type" = some (.str ("tuple" ++ suffix)))
      (hcomponents : members.get? "components" = some (.arr items))
      (hitems : List.Forall₂ HasType items components) :
      HasType (.obj members) (.tuple components suffix h)

/-- An entry with a name and a list of well-formed parameters of these types. -/
structure Declares (entry : Members) (name : Text) (types : List TypeTree) : Prop where
  name_eq : entry.get? "name" = some (.str name)
  open_not_mem : .scalar '(' ∉ name
  inputs : ∃ inputs, entry.get? "inputs" = some (.arr inputs) ∧ List.Forall₂ HasType inputs types

/-- This is the result, or there is a fault of some kind. -/
def OrFault {α ε : Type} (kind : ε → Prop) (a : α) (r : Except ε α) : Prop :=
  r = .ok a ∨ ∃ fault, kind fault ∧ r = .error fault

/-- A traversal ends with the results for its items, or with a fault of the kind of theirs. -/
theorem mapM_orFault {α β ε : Type} {kind : ε → Prop} {f : α → Except ε β} {xs : List α}
    {ys : List β} (h : List.Forall₂ (fun x y => OrFault kind y (f x)) xs ys) :
    OrFault kind ys (xs.mapM f) := by
  induction h with
  | nil => exact .inl rfl
  | cons hx _ ih =>
    rw [List.mapM_cons]
    rcases hx with hx | ⟨fault, hkind, hx⟩
    · rw [hx]
      rcases ih with hrest | ⟨fault, hkind, hrest⟩
      · rw [hrest]
        exact .inl rfl
      · rw [hrest]
        exact .inr ⟨fault, hkind, rfl⟩
    · rw [hx]
      exact .inr ⟨fault, hkind, rfl⟩

/-- The type could not be written because something in it is too deep. -/
def TypeFault.IsDeep (fault : TypeFault) : Prop := ∃ doing, fault = .tooDeep doing

/-- The work ended because something is too deep. -/
def IsDeep (fault : Fault) : Prop := ∃ doing, fault = .tooDeep doing

section Limited

variable {limit : DepthLimit}

mutual

/-- A well-formed parameter is written as its type is. -/
theorem writtenType_of_hasType : ∀ (t : TypeTree) {v : Value} (level : Nat), HasType v t →
    OrFault TypeFault.IsDeep t.write (writtenType limit level v)
  | .plain type h, _, level, @HasType.plain members _ _ htype => by
    cases hreached : limit level (.obj members) with
    | some doing => exact .inr ⟨_, ⟨doing, rfl⟩, writtenType_of_beyond hreached⟩
    | none =>
      rw [TypeTree.write]
      exact .inl (writtenType_of_plain hreached htype h.noTuple)
  | .tuple components suffix h, _, level, @HasType.tuple members items _ _ _ htype hcomponents
      hitems => by
    cases hreached : limit level (.obj members) with
    | some doing => exact .inr ⟨_, ⟨doing, rfl⟩, writtenType_of_beyond hreached⟩
    | none =>
      have htuple : IsTuple _ _ _ := ⟨htype, List.prefix_append _ _, hcomponents⟩
      rw [writtenType_of_isTuple hreached htuple, TypeTree.write]
      show OrFault _ _ (tupleType _ (some (items.mapM (writtenType limit (level + 1)))))
      rcases mapM_orFault (writtenTypes_of_hasType components (level + 1) hitems) with
        hall | ⟨fault, hdeep, hall⟩
      · rw [hall]
        exact .inl rfl
      · rw [hall]
        exact .inr ⟨fault, hdeep, rfl⟩

/-- The same for each of a list of parameters. -/
theorem writtenTypes_of_hasType : ∀ (ts : List TypeTree) {items : List Value} (level : Nat),
    List.Forall₂ HasType items ts →
      List.Forall₂ (fun v part => OrFault TypeFault.IsDeep part (writtenType limit level v)) items
        (TypeTree.writeAll ts)
  | [], _, _, .nil => .nil
  | t :: ts, _, level, .cons hv hrest =>
    .cons (writtenType_of_hasType t level hv) (writtenTypes_of_hasType ts level hrest)

end

/-- What is written, or too deep, is so as a part of a signature. -/
theorem signaturePart_of_writtenType {v : Value} {part : Text}
    (h : OrFault TypeFault.IsDeep part (writtenType limit 0 v)) :
    OrFault IsDeep part (signaturePart limit v) := by
  rcases h with h | ⟨fault, ⟨doing, rfl⟩, h⟩
  · rw [signaturePart, h]
    exact .inl rfl
  · rw [signaturePart, h]
    exact .inr ⟨_, ⟨doing, rfl⟩, rfl⟩

/-- The signature of a well-formed entry. -/
theorem signature_of_declares {entry : Members} {name : Text} {types : List TypeTree}
    (h : Declares entry name types) :
    OrFault IsDeep (name ++ .scalar '(' :: TypeTree.closed types) (signature limit entry) := by
  obtain ⟨inputs, hinputs, htypes⟩ := h.inputs
  have hparameters : parameters entry = inputs := by
    rw [parameters, hinputs]
  have hname : textOf entry "name" = name := by
    rw [textOf, h.name_eq]
    rfl
  have hparts : OrFault IsDeep (TypeTree.writeAll types) (inputs.mapM (signaturePart limit)) :=
    mapM_orFault ((writtenTypes_of_hasType types 0 htypes).imp
      fun _ _ => signaturePart_of_writtenType)
  rw [signature, hparameters, hname, TypeTree.closed]
  rcases hparts with hall | ⟨fault, hdeep, hall⟩
  · rw [hall]
    refine .inl (congrArg Except.ok ?_)
    simp only [List.append_assoc]
    rfl
  · rw [hall]
    exact .inr ⟨fault, hdeep, rfl⟩

/-- A signature that is written is the one that stands for name and types. -/
theorem eq_of_declares {entry : Members} {name : Text} {types : List TypeTree}
    (h : Declares entry name types) {t : Text} (ht : signature limit entry = .ok t) :
    t = name ++ .scalar '(' :: TypeTree.closed types := by
  rcases @signature_of_declares limit _ _ _ h with hwritten | ⟨fault, -, hfault⟩
  · exact Except.ok.inj (ht.symm.trans hwritten)
  · cases ht.symm.trans hfault

end Limited

/-- Without a limit nothing is too deep. -/
theorem not_stops_unlimited {level : Nat} {v : Value} {doing : Text} :
    ¬ Stops .unlimited level v (.tooDeep doing) := by
  intro h
  generalize hfault : Fault.tooDeep doing = fault at h
  induction h with
  | deep hbeyond => cases hbeyond
  | shapeless => cases hfault
  | inside _ _ _ _ _ ih => exact ih hfault

/-- Without a limit every well-formed entry has a signature. -/
theorem signature_unlimited {entry : Members} {name : Text} {types : List TypeTree}
    (h : Declares entry name types) :
    signature .unlimited entry = .ok (name ++ .scalar '(' :: TypeTree.closed types) := by
  rcases @signature_of_declares .unlimited _ _ _ h with hwritten | ⟨_, ⟨doing, rfl⟩, hdeep⟩
  · exact hwritten
  · obtain ⟨front, v, back, -, -, hv⟩ := signature_eq_error_iff.mp hdeep
    exact absurd hv not_stops_unlimited

/-- Name and types are known from the text of the signature. -/
theorem signatureText_inj {entry entry' : Members} {name name' : Text}
    {types types' : List TypeTree} (h : Declares entry name types)
    (h' : Declares entry' name' types') :
    name ++ .scalar '(' :: TypeTree.closed types = name' ++ .scalar '(' :: TypeTree.closed types' ↔
      name = name' ∧ types = types' := by
  constructor
  · intro heq
    -- the name ends at the first opening parenthesis, the types at the last closing one
    have hopens : ∀ (c : CodePoint) (rest : Text), c ∈ (CodePoint.scalar '(' :: rest).head? →
        c = .scalar '(' := by
      intro c rest hc
      exact (Option.some.inj hc).symm
    have hname : ∀ {t : Text}, .scalar '(' ∉ t → ∀ c ∈ t, ¬ c = .scalar '(' := by
      intro t hno c hc hopen
      exact hno (hopen ▸ hc)
    obtain ⟨hsame, htypes⟩ := TypeTree.append_inj_of_stop (hname h.open_not_mem)
      (hname h'.open_not_mem) (fun c => hopens c _) (fun c => hopens c _) heq
    have hclosed : TypeTree.closed types ++ [] = TypeTree.closed types' ++ [] := by
      rw [List.append_nil, List.append_nil]
      exact (List.cons.inj htypes).2
    exact ⟨hsame, (TypeTree.closed_append_inj types types' hclosed).1⟩
  · rintro ⟨rfl, rfl⟩
    rfl

/-- **A signature tells what it was made from.** Every entry with a name that has no opening
parenthesis, and with well-formed parameters, has a signature; and two such entries have the same
one exactly if their names are the same and their parameters have, one by one, the same types,
components and all. Where there are limits an entry may be too deep to have a signature, but those
that are written, be it under different limits, still tell names and types. -/
theorem signature_unambiguous (entry entry' : Members) (name name' : Text)
    (types types' : List TypeTree) (h : Declares entry name types)
    (h' : Declares entry' name' types') :
    ((∃ t, signature .unlimited entry = .ok t) ∧
      (signature .unlimited entry = signature .unlimited entry' ↔
        name = name' ∧ types = types')) ∧
    ∀ limit limit' : DepthLimit,
      ((∃ t, signature limit entry = .ok t) ∨
        ∃ doing, signature limit entry = .error (.tooDeep doing)) ∧
      ∀ t t', signature limit entry = .ok t → signature limit' entry' = .ok t' →
        (t = t' ↔ name = name' ∧ types = types') := by
  have hwritten := signature_unlimited h
  have hwritten' := signature_unlimited h'
  refine ⟨⟨⟨_, hwritten⟩, ?_⟩, ?_⟩
  · rw [hwritten, hwritten', Except.ok.injEq]
    exact signatureText_inj h h'
  · intro limit limit'
    constructor
    · rcases @signature_of_declares limit _ _ _ h with hlimited | ⟨_, ⟨doing, rfl⟩, hdeep⟩
      · exact .inl ⟨_, hlimited⟩
      · exact .inr ⟨doing, hdeep⟩
    · intro t t' ht ht'
      rw [eq_of_declares h ht, eq_of_declares h' ht']
      exact signatureText_inj h h'

def declared (type : Text) (components : List Value) : Value :=
  .obj [("name", .str "x"), ("type", .str type), ("components", .arr components)]

/-- A payment of an amount and a note, twice, and a list of empty tuples. -/
def nestedEntry : Members :=
  [("type", .str "function"), ("name", .str "pay"),
   ("inputs", .arr
    [declared "tuple[2]"
      [declared "address" [], declared "tuple" [declared "uint256" [], declared "bytes" []]],
     declared "tuple[]" []])]

/-- The same with the inner tuple taken apart. -/
def flatEntry : Members :=
  [("type", .str "function"), ("name", .str "pay"),
   ("inputs", .arr
    [declared "tuple[2]" [declared "address" [], declared "uint256" [], declared "bytes" []],
     declared "tuple[]" []])]

namespace TypeTree

def address : TypeTree := .plain "address" (by decide)

def uint256 : TypeTree := .plain "uint256" (by decide)

def bytes : TypeTree := .plain "bytes" (by decide)

def emptyTuples : TypeTree := .tuple [] "[]" (by decide)

end TypeTree

open TypeTree in
theorem declares_nestedEntry : Declares nestedEntry "pay"
    [.tuple [address, .tuple [uint256, bytes] "" (by decide)] "[2]" (by decide), emptyTuples] := by
  refine ⟨rfl, by decide, _, rfl, .cons (.tuple rfl rfl ?_) (.cons (.tuple rfl rfl .nil) .nil)⟩
  refine .cons (.plain rfl) (.cons (.tuple rfl rfl ?_) .nil)
  exact .cons (.plain rfl) (.cons (.plain rfl) .nil)

open TypeTree in
theorem declares_flatEntry : Declares flatEntry "pay"
    [.tuple [address, uint256, bytes] "[2]" (by decide), emptyTuples] := by
  refine ⟨rfl, by decide, _, rfl, .cons (.tuple rfl rfl ?_) (.cons (.tuple rfl rfl .nil) .nil)⟩
  exact .cons (.plain rfl) (.cons (.plain rfl) (.cons (.plain rfl) .nil))

/-- A tuple in a tuple shows. -/
theorem signature_unambiguous_nested :
    signature .unlimited nestedEntry = .ok "pay((address,(uint256,bytes))[2],()[])" ∧
      signature .unlimited nestedEntry ≠ signature .unlimited flatEntry := by
  refine ⟨by decide, ?_⟩
  intro hsame
  obtain ⟨⟨-, hsigned⟩, -⟩ := signature_unambiguous nestedEntry flatEntry "pay" "pay" _ _
    declares_nestedEntry declares_flatEntry
  obtain ⟨-, htypes⟩ := hsigned.mp hsame
  simp at htypes

end DelegateAudit.Abi
