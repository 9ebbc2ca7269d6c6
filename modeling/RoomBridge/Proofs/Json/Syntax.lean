import RoomBridge.Json.Tree
import RoomBridge.Proofs.Json.Lexeme

/-!
# The syntax of JSON

Which bytes write a tree, said without reading them, and that these are the bytes from which the
reader gets it. A tree writes its tokens in one way only, so what is left open is the blanks between
them.

* `Tree.Writes` : some bytes write a tree;
* `Tree.read?_eq_some_iff` : the tree that is read is the tree that is written.
-/

namespace RoomBridge.Json

namespace Tree

/-! ## Induction -/

mutual

/-- What holds of a tree as soon as it holds of its items or members holds of every tree. -/
@[induction_eliminator]
theorem byParts {motive : Tree → Prop} (scalar : ∀ s, motive (.scalar s))
    (array : ∀ items, (∀ t ∈ items, motive t) → motive (.array items))
    (object : ∀ members, (∀ m ∈ members, motive m.2) → motive (.object members)) :
    ∀ t : Tree, motive t
  | .scalar s => scalar s
  | .array items => array items (items_byParts scalar array object items)
  | .object members => object members (members_byParts scalar array object members)

theorem items_byParts {motive : Tree → Prop} (scalar : ∀ s, motive (.scalar s))
    (array : ∀ items, (∀ t ∈ items, motive t) → motive (.array items))
    (object : ∀ members, (∀ m ∈ members, motive m.2) → motive (.object members)) :
    ∀ items : List Tree, ∀ t ∈ items, motive t
  | [] => nofun
  | t :: ts =>
    List.forall_mem_cons.mpr
      ⟨byParts scalar array object t, items_byParts scalar array object ts⟩

theorem members_byParts {motive : Tree → Prop} (scalar : ∀ s, motive (.scalar s))
    (array : ∀ items, (∀ t ∈ items, motive t) → motive (.array items))
    (object : ∀ members, (∀ m ∈ members, motive m.2) → motive (.object members)) :
    ∀ members : List (Bytes × Tree), ∀ m ∈ members, motive m.2
  | [] => nofun
  | (_, t) :: ms =>
    List.forall_mem_cons.mpr
      ⟨byParts scalar array object t, members_byParts scalar array object ms⟩

end

/-! ## The tokens of a tree -/

/-- The strings and numbers of a tree, its names among them, are written as such. -/
def WellWritten (t : Tree) : Prop := ∀ token ∈ t.tokens, token.WellWritten

theorem itemTokens_wellWritten {items : List Tree} :
    (∀ token ∈ itemTokens items, token.WellWritten) ↔ ∀ t ∈ items, t.WellWritten := by
  induction items with
  | nil => simp [itemTokens]
  | cons t ts ih =>
    cases ts with
    | nil => simp [itemTokens, WellWritten]
    | cons u us =>
      simp only [itemTokens, List.forall_mem_append, List.forall_mem_cons, ih]
      simp [Token.WellWritten, WellWritten]

theorem memberTokens_wellWritten {members : List (Bytes × Tree)} :
    (∀ token ∈ memberTokens members, token.WellWritten) ↔
      ∀ m ∈ members, StringText m.1 ∧ m.2.WellWritten := by
  induction members with
  | nil => simp [memberTokens]
  | cons m ms ih =>
    obtain ⟨k, t⟩ := m
    cases ms with
    | nil => simp [memberTokens, WellWritten, Token.WellWritten, Scalar.WellWritten]
    | cons n ns =>
      simp only [memberTokens, List.forall_mem_append, List.forall_mem_cons, ih]
      simp [Token.WellWritten, Scalar.WellWritten, WellWritten, and_assoc]

@[simp] theorem wellWritten_array {items : List Tree} :
    (array items).WellWritten ↔ ∀ t ∈ items, t.WellWritten := by
  rw [← itemTokens_wellWritten]
  simp [WellWritten, tokens, or_imp, forall_and, Token.WellWritten]

@[simp] theorem wellWritten_object {members : List (Bytes × Tree)} :
    (object members).WellWritten ↔ ∀ m ∈ members, StringText m.1 ∧ m.2.WellWritten := by
  rw [← memberTokens_wellWritten]
  simp [WellWritten, tokens, or_imp, forall_and, Token.WellWritten]

/-- Tokens that may follow any value: they do not begin with a value without parts, and no two of
these stand side by side in them. -/
def Loose (rest : List Token) : Prop :=
  rest.IsChain Token.Apart ∧ ∀ token ∈ rest.head?, token.isScalar = false

variable {rest : List Token} {fuel : Nat}

theorem Loose.cons {token : Token} (h : rest.IsChain Token.Apart)
    (htoken : token.isScalar = false) : Loose (token :: rest) := by
  refine ⟨List.isChain_cons.mpr ⟨fun _ _ hscalar => ?_, h⟩, ?_⟩
  · rw [htoken] at hscalar
    cases hscalar
  · rintro _ ⟨⟩
    exact htoken

theorem Loose.scalar (h : Loose rest) (s : Scalar) :
    (Token.scalar s :: rest).IsChain Token.Apart :=
  List.isChain_cons.mpr ⟨fun token htoken _ => h.2 token htoken, h.1⟩

theorem itemTokens_chain {items : List Tree} (hrest : Loose rest)
    (h : ∀ t ∈ items, ∀ rest, Loose rest → (t.tokens ++ rest).IsChain Token.Apart) :
    (itemTokens items ++ rest).IsChain Token.Apart := by
  induction items with
  | nil => exact hrest.1
  | cons t ts ih =>
    obtain ⟨ht, hts⟩ := List.forall_mem_cons.mp h
    cases ts with
    | nil => exact ht rest hrest
    | cons u us =>
      rw [itemTokens, List.append_assoc, List.cons_append]
      exact ht _ (.cons (ih hts) rfl)

theorem memberTokens_chain {members : List (Bytes × Tree)} (hrest : Loose rest)
    (h : ∀ m ∈ members, ∀ rest, Loose rest → (m.2.tokens ++ rest).IsChain Token.Apart) :
    (memberTokens members ++ rest).IsChain Token.Apart := by
  induction members with
  | nil => exact hrest.1
  | cons m ms ih =>
    obtain ⟨k, t⟩ := m
    obtain ⟨ht, hms⟩ := List.forall_mem_cons.mp h
    have hname : ∀ rest, (t.tokens ++ rest).IsChain Token.Apart →
        (Token.scalar (.string k) :: .colon :: t.tokens ++ rest).IsChain Token.Apart := by
      intro rest h
      have hcolon : Loose (.colon :: t.tokens ++ rest) := .cons h rfl
      exact hcolon.scalar _
    cases ms with
    | nil => exact hname rest (ht rest hrest)
    | cons n ns =>
      rw [memberTokens, List.append_assoc, List.cons_append]
      exact hname _ (ht _ (.cons (ih hms) rfl))

/-- No two values without parts stand side by side in what a tree writes. -/
theorem tokens_chain (t : Tree) : ∀ rest, Loose rest → (t.tokens ++ rest).IsChain Token.Apart := by
  induction t with
  | scalar s =>
    intro rest hrest
    exact hrest.scalar s
  | array items ih =>
    intro rest hrest
    rw [tokens, List.append_assoc]
    exact (Loose.cons (itemTokens_chain (.cons hrest.1 rfl) ih) rfl).1
  | object members ih =>
    intro rest hrest
    rw [tokens, List.append_assoc]
    exact (Loose.cons (memberTokens_chain (.cons hrest.1 rfl) ih) rfl).1

/-! ## Reading what is written -/

theorem tokens_front (t : Tree) :
    ∃ token rest, t.tokens = token :: rest ∧ token ≠ .closeArray := by
  cases t with
  | scalar s => exact ⟨_, _, rfl, nofun⟩
  | array items => exact ⟨_, _, rfl, nofun⟩
  | object members => exact ⟨_, _, rfl, nofun⟩

/-- A tree is read back from its tokens, whatever follows them. -/
def ReadBack (t : Tree) : Prop :=
  ∀ rest fuel, 2 * t.tokens.length ≤ fuel → valueIn fuel (t.tokens ++ rest) = some (t, rest)

theorem itemsIn_itemTokens {items : List Tree} (hne : items ≠ []) (h : ∀ t ∈ items, t.ReadBack)
    (hfuel : 2 * (itemTokens items).length < fuel) :
    itemsIn fuel (itemTokens items ++ .closeArray :: rest) = some (items, rest) := by
  induction items generalizing fuel with
  | nil => exact absurd rfl hne
  | cons t ts ih =>
    obtain ⟨ht, hts⟩ := List.forall_mem_cons.mp h
    obtain ⟨fuel, rfl⟩ := Nat.exists_eq_add_one_of_ne_zero (by omega : fuel ≠ 0)
    cases ts with
    | nil =>
      rw [itemTokens] at hfuel ⊢
      rw [itemsIn, ht _ fuel (by omega)]
    | cons u us =>
      rw [itemTokens] at hfuel ⊢
      rw [List.length_append, List.length_cons] at hfuel
      rw [List.append_assoc, List.cons_append, itemsIn, ht _ fuel (by omega)]
      dsimp only
      rw [ih (List.cons_ne_nil _ _) hts (by omega)]
      rfl

theorem membersIn_memberTokens {members : List (Bytes × Tree)} (hne : members ≠ [])
    (h : ∀ m ∈ members, m.2.ReadBack) (hfuel : 2 * (memberTokens members).length < fuel) :
    membersIn fuel (memberTokens members ++ .closeObject :: rest) = some (members, rest) := by
  induction members generalizing fuel with
  | nil => exact absurd rfl hne
  | cons m ms ih =>
    obtain ⟨k, t⟩ := m
    obtain ⟨ht : t.ReadBack, hms⟩ := List.forall_mem_cons.mp h
    obtain ⟨fuel, rfl⟩ := Nat.exists_eq_add_one_of_ne_zero (by omega : fuel ≠ 0)
    cases ms with
    | nil =>
      rw [memberTokens] at hfuel ⊢
      simp only [List.length_cons] at hfuel
      rw [List.cons_append, List.cons_append, membersIn, ht _ fuel (by omega)]
    | cons n ns =>
      rw [memberTokens] at hfuel ⊢
      simp only [List.cons_append, List.length_cons, List.length_append] at hfuel
      rw [List.append_assoc, List.cons_append, List.cons_append, List.cons_append, membersIn,
        ht _ fuel (by omega)]
      dsimp only
      rw [ih (List.cons_ne_nil _ _) hms (by omega)]
      rfl

theorem valueIn_array {token : Token} (h : token ≠ .closeArray) :
    valueIn (fuel + 1) (.openArray :: token :: rest) =
      (itemsIn fuel (token :: rest)).map fun (items, rest) => (array items, rest) := by
  cases token with
  | closeArray => exact absurd rfl h
  | _ => rfl

theorem valueIn_object {s : Scalar} :
    valueIn (fuel + 1) (.openObject :: .scalar s :: rest) =
      (membersIn fuel (.scalar s :: rest)).map fun (members, rest) => (object members, rest) :=
  rfl

theorem itemTokens_front {items : List Tree} (hne : items ≠ []) :
    ∃ token rest, itemTokens items = token :: rest ∧ token ≠ .closeArray := by
  obtain ⟨t, ts, rfl⟩ := List.exists_cons_of_ne_nil hne
  obtain ⟨token, rest, htokens, hclose⟩ := t.tokens_front
  cases ts with
  | nil => exact ⟨token, rest, htokens, hclose⟩
  | cons u us =>
    refine ⟨token, rest ++ .comma :: itemTokens (u :: us), ?_, hclose⟩
    rw [itemTokens, htokens, List.cons_append]

theorem memberTokens_front {members : List (Bytes × Tree)} (hne : members ≠ []) :
    ∃ s rest, memberTokens members = .scalar s :: rest := by
  obtain ⟨m, ms, rfl⟩ := List.exists_cons_of_ne_nil hne
  cases ms with
  | nil => exact ⟨_, _, rfl⟩
  | cons n ns => exact ⟨_, _, rfl⟩

theorem readBack (t : Tree) : t.ReadBack := by
  induction t with
  | scalar s =>
    intro rest fuel hfuel
    rw [tokens, List.length_singleton] at hfuel
    obtain ⟨fuel, rfl⟩ := Nat.exists_eq_add_one_of_ne_zero (by omega : fuel ≠ 0)
    rfl
  | array items ih =>
    intro rest fuel hfuel
    rw [tokens, List.length_append, List.length_cons] at hfuel
    obtain ⟨fuel, rfl⟩ := Nat.exists_eq_add_one_of_ne_zero (by omega : fuel ≠ 0)
    by_cases hne : items = []
    · subst hne
      rfl
    · have hitems : itemsIn fuel (itemTokens items ++ .closeArray :: rest) = some (items, rest) :=
        itemsIn_itemTokens hne ih (by omega)
      obtain ⟨token, more, hfront, hclose⟩ := itemTokens_front hne
      rw [hfront, List.cons_append] at hitems
      rw [tokens, hfront, List.append_assoc, List.cons_append, List.cons_append,
        valueIn_array hclose]
      exact (congrArg _ hitems).trans rfl
  | object members ih =>
    intro rest fuel hfuel
    rw [tokens, List.length_append, List.length_cons] at hfuel
    obtain ⟨fuel, rfl⟩ := Nat.exists_eq_add_one_of_ne_zero (by omega : fuel ≠ 0)
    by_cases hne : members = []
    · subst hne
      rfl
    · have hmembers : membersIn fuel (memberTokens members ++ .closeObject :: rest) =
          some (members, rest) := membersIn_memberTokens hne ih (by omega)
      obtain ⟨s, more, hfront⟩ := memberTokens_front hne
      rw [hfront, List.cons_append] at hmembers
      rw [tokens, hfront, List.append_assoc, List.cons_append, List.cons_append, valueIn_object]
      exact (congrArg _ hmembers).trans rfl

/-- What is read was written at the front of the tokens, be it a value, items or members. -/
structure Sound (fuel : Nat) : Prop where
  value : ∀ ts t rest, valueIn fuel ts = some (t, rest) → ts = t.tokens ++ rest
  items : ∀ ts items rest, itemsIn fuel ts = some (items, rest) →
    items ≠ [] ∧ ts = itemTokens items ++ .closeArray :: rest
  members : ∀ ts members rest, membersIn fuel ts = some (members, rest) →
    members ≠ [] ∧ ts = memberTokens members ++ .closeObject :: rest

theorem sound (fuel : Nat) : Sound fuel := by
  induction fuel with
  | zero => exact ⟨nofun, nofun, nofun⟩
  | succ fuel ih =>
    refine ⟨fun ts t rest h => ?value, fun ts items rest h => ?items,
      fun ts members rest h => ?members⟩
    case value =>
      unfold valueIn at h
      split at h
      · cases h
        rfl
      · cases h
        rfl
      · obtain ⟨items, hitems, rfl⟩ := (map_taken_eq_some_iff (f := array)).mp h
        rw [(ih.items _ _ _ hitems).2, tokens, List.append_assoc]
        rfl
      · cases h
        rfl
      · obtain ⟨members, hmembers, rfl⟩ := (map_taken_eq_some_iff (f := object)).mp h
        rw [(ih.members _ _ _ hmembers).2, tokens, List.append_assoc]
        rfl
      · cases h
    case items =>
      unfold itemsIn at h
      split at h
      · next t more hvalue =>
        obtain ⟨items, hitems, rfl⟩ := (map_taken_eq_some_iff (f := (t :: ·))).mp h
        obtain ⟨hne, rfl⟩ := ih.items _ _ _ hitems
        obtain ⟨u, us, rfl⟩ := List.exists_cons_of_ne_nil hne
        refine ⟨List.cons_ne_nil _ _, ?_⟩
        rw [ih.value _ _ _ hvalue, itemTokens, List.append_assoc]
        rfl
      · next t more hvalue =>
        cases h
        exact ⟨List.cons_ne_nil _ _, ih.value _ _ _ hvalue⟩
      · cases h
    case members =>
      unfold membersIn at h
      split at h
      · next k more =>
        split at h
        · next t more hvalue =>
          obtain ⟨members, hmembers, rfl⟩ := (map_taken_eq_some_iff (f := ((k, t) :: ·))).mp h
          obtain ⟨hne, rfl⟩ := ih.members _ _ _ hmembers
          obtain ⟨n, ns, rfl⟩ := List.exists_cons_of_ne_nil hne
          refine ⟨List.cons_ne_nil _ _, ?_⟩
          rw [ih.value _ _ _ hvalue, memberTokens, List.append_assoc]
          rfl
        · next t more hvalue =>
          cases h
          refine ⟨List.cons_ne_nil _ _, ?_⟩
          rw [ih.value _ _ _ hvalue]
          rfl
        · cases h
      · cases h

theorem ofTokens?_eq_some_iff {ts : List Token} {t : Tree} :
    ofTokens? ts = some t ↔ ts = t.tokens := by
  unfold ofTokens?
  constructor
  · intro h
    split at h
    · next u hvalue =>
      cases h
      rw [(sound _).value _ _ _ hvalue, List.append_nil]
    · cases h
  · rintro rfl
    have hread := t.readBack [] (2 * t.tokens.length + 1) (by omega)
    rw [List.append_nil] at hread
    rw [hread]

/-! ## Texts -/

/-- A text writes a tree: its tokens are those of the tree, with any blanks around them. -/
def Writes (t : Tree) (text : Bytes) : Prop := t.WellWritten ∧ Spaced t.tokens text

theorem writes_of_tokens? {text : Bytes} {t : Tree} (h : tokens? text = some t.tokens) :
    t.Writes text :=
  (tokens?_sound h).symm

/-- The tree that is read from a text is the one that the text writes. -/
theorem read?_eq_some_iff {text : Bytes} {t : Tree} : read? text = some t ↔ t.Writes text := by
  constructor
  · intro h
    obtain ⟨ts, htokens, h⟩ := Option.bind_eq_some_iff.mp h
    obtain rfl := ofTokens?_eq_some_iff.mp h
    exact writes_of_tokens? htokens
  · rintro ⟨hwell, hspaced⟩
    have hchain := t.tokens_chain [] ⟨.nil, nofun⟩
    rw [List.append_nil] at hchain
    rw [read?, tokens?_complete hspaced hwell hchain, Option.bind_some]
    exact ofTokens?_eq_some_iff.mpr rfl

end Tree

end RoomBridge.Json
