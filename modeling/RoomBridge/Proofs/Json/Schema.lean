import Mathlib.Logic.Relation
import RoomBridge.Proofs.Json.Record
import RoomBridge.Proofs.Json.Syntax

/-!
# Reading records by name

What the parts of a tree are for, and the edits of a tree that leave alone what is read from it: the
members of a record in another order, one more that is no field, one less that holds a default, and
the same inside of what a field holds. Which readers see no such edit is shown once for each way to
build a reader, so that it holds of the readers that are built.

* `Schema`, `Schema.Edit`, `Schema.Doubled` : what is read, one edit of it, a field given twice;
* `Schema.Follows` : a reader sees no edit, and reads nothing where a field is given twice;
* `Schema.Follows.list`, `Schema.Follows.optional`, `Schema.Follows.record` : the readers that are
  built from such readers.
-/

namespace RoomBridge.Json

/-- What a tree is read as. -/
inductive Schema
  /-- A value that is not edited. -/
  | plain
  | text
  | optional (inner : Schema)
  | list (inner : Schema)
  | record (fields : List (String × Schema))

namespace Schema

/-- A tree that is read as what a field holds when it is not given. -/
inductive IsDefault : Schema → Tree → Prop
  | text : IsDefault text (.scalar (.string []))
  | optional {inner : Schema} : IsDefault (optional inner) (.scalar .null)
  | list {inner : Schema} : IsDefault (list inner) (.array [])
  | record {fields : List (String × Schema)} : IsDefault (record fields) (.object [])

/-- One edit that nobody sees who reads by name. -/
inductive Edit : Schema → Tree → Tree → Prop
  /-- The members of a record in another order. -/
  | permute {fields : List (String × Schema)} {members members' : List (Bytes × Tree)} :
      members.Perm members' → Edit (record fields) (.object members) (.object members')
  /-- A member more, whose name is that of no field. -/
  | insert {fields : List (String × Schema)} (before : List (Bytes × Tree))
      {after : List (Bytes × Tree)} {written : Bytes} {name : String} {t : Tree} :
      StringText written → text? written = some name → name ∉ fields.map Prod.fst → t.WellWritten →
      Edit (record fields) (.object (before ++ after)) (.object (before ++ (written, t) :: after))
  /-- A member less, whose field holds its default. -/
  | drop {fields : List (String × Schema)} (before : List (Bytes × Tree))
      {after : List (Bytes × Tree)} {written : Bytes} {name : String} {field : Schema} {t : Tree} :
      text? written = some name → (name, field) ∈ fields → IsDefault field t →
      Edit (record fields) (.object (before ++ (written, t) :: after)) (.object (before ++ after))
  /-- An edit of what a field holds. -/
  | member {fields : List (String × Schema)} (before : List (Bytes × Tree))
      {after : List (Bytes × Tree)} {written : Bytes} {name : String} {field : Schema}
      {t t' : Tree} : text? written = some name → (name, field) ∈ fields → Edit field t t' →
      Edit (record fields) (.object (before ++ (written, t) :: after))
        (.object (before ++ (written, t') :: after))
  /-- An edit of one item. -/
  | item {inner : Schema} (before : List Tree) {after : List Tree} {t t' : Tree} : Edit inner t t' →
      Edit (list inner) (.array (before ++ t :: after)) (.array (before ++ t' :: after))
  /-- An edit of a value that may be missing. -/
  | given {inner : Schema} {t t' : Tree} : Edit inner t t' → Edit (optional inner) t t'

/-- A record somewhere in a tree has two members for one of its fields. -/
inductive Doubled : Schema → Tree → Prop
  | here {fields : List (String × Schema)} (before between : List (Bytes × Tree))
      {after : List (Bytes × Tree)} {written again : Bytes} {name : String} {t t' : Tree} :
      text? written = some name → text? again = some name → name ∈ fields.map Prod.fst →
      Doubled (record fields)
        (.object (before ++ (written, t) :: (between ++ (again, t') :: after)))
  | member {fields : List (String × Schema)} (before : List (Bytes × Tree))
      {after : List (Bytes × Tree)} {written : Bytes} {name : String} {field : Schema} {t : Tree} :
      text? written = some name → (name, field) ∈ fields → Doubled field t →
      Doubled (record fields) (.object (before ++ (written, t) :: after))
  | item {inner : Schema} (before : List Tree) {after : List Tree} {t : Tree} : Doubled inner t →
      Doubled (list inner) (.array (before ++ t :: after))
  | given {inner : Schema} {t : Tree} : Doubled inner t → Doubled (optional inner) t

variable {schema inner : Schema} {fields : List (String × Schema)} {t t' : Tree} {budget : Nat}

/-- What is edited is written as JSON if it was. -/
theorem Edit.wellWritten (h : Edit schema t t') (hwell : t.WellWritten) : t'.WellWritten := by
  induction h with
  | permute hperm =>
    rw [Tree.wellWritten_object] at hwell ⊢
    exact fun m hm => hwell m (hperm.mem_iff.mpr hm)
  | insert _ hwritten _ _ ht =>
    simp only [Tree.wellWritten_object, List.forall_mem_append, List.forall_mem_cons] at hwell ⊢
    exact ⟨hwell.1, ⟨hwritten, ht⟩, hwell.2⟩
  | drop =>
    simp only [Tree.wellWritten_object, List.forall_mem_append, List.forall_mem_cons] at hwell ⊢
    exact ⟨hwell.1, hwell.2.2⟩
  | member _ _ _ _ ih =>
    simp only [Tree.wellWritten_object, List.forall_mem_append, List.forall_mem_cons] at hwell ⊢
    exact ⟨hwell.1, ⟨hwell.2.1.1, ih hwell.2.1.2⟩, hwell.2.2⟩
  | item _ _ ih =>
    simp only [Tree.wellWritten_array, List.forall_mem_append, List.forall_mem_cons] at hwell ⊢
    exact ⟨hwell.1, ih hwell.2.1, hwell.2.2⟩
  | given _ ih => exact ih hwell

theorem wellWritten_of_edits (h : Relation.ReflTransGen (Edit schema) t t')
    (hwell : t.WellWritten) : t'.WellWritten := by
  induction h with
  | refl => exact hwell
  | tail _ hedit ih => exact hedit.wellWritten ih

/-- Only arrays and objects are edited, and they stay what they are. -/
theorem Edit.not_scalar (h : Edit schema t t') (s : Scalar) :
    t ≠ .scalar s ∧ t' ≠ .scalar s := by
  induction h with
  | given _ ih => exact ih
  | _ => exact ⟨nofun, nofun⟩

theorem Doubled.not_scalar (h : Doubled schema t) (s : Scalar) : t ≠ .scalar s := by
  induction h with
  | given _ ih => exact ih
  | _ => exact nofun

/-! ## Readers -/

/-- A reader sees no edit, and where a field is given twice it reads nothing. -/
structure Follows {α : Type} (schema : Schema) (read : Reader α) : Prop where
  edited : ∀ {t t' budget a}, Edit schema t t' → read budget t = some a → read budget t' = some a
  doubled : ∀ {t} budget, Doubled schema t → read budget t = none

/-- A run of edits. -/
theorem Follows.edits {α : Type} {read : Reader α} {a : α} (h : Follows schema read)
    (hedits : Relation.ReflTransGen (Edit schema) t t') (hread : read budget t = some a) :
    read budget t' = some a := by
  induction hedits with
  | refl => exact hread
  | tail _ hedit ih => exact h.edited hedit ih

/-- What a reader makes of what need not be given. -/
def HasDefault {α : Type} (schema : Schema) (read : Reader α) (default : α) : Prop :=
  ∀ t budget a, IsDefault schema t → read budget t = some a → a = default

section

variable {α : Type} {read : Reader α}

theorem Follows.plain : Follows plain read := ⟨nofun, nofun⟩

theorem Follows.text : Follows text read := ⟨nofun, nofun⟩

theorem hasDefault_text : HasDefault text Reader.string "" := by
  rintro _ budget a ⟨⟩ hread
  cases hread
  rfl

theorem optional_of_not_null (h : t ≠ .scalar .null) :
    Reader.optional read budget t = (read budget t).map some := by
  unfold Reader.optional
  split
  · exact absurd rfl h
  · rfl

theorem Follows.optional (h : Follows inner read) :
    Follows (optional inner) (Reader.optional read) where
  edited := by
    rintro t t' budget a ⟨⟩ hread
    next hedit =>
      rw [optional_of_not_null (hedit.not_scalar _).1, Option.map_eq_some_iff] at hread
      obtain ⟨b, hread, rfl⟩ := hread
      rw [optional_of_not_null (hedit.not_scalar _).2, h.edited hedit hread]
      rfl
  doubled := by
    rintro t budget ⟨⟩
    next hdoubled =>
      rw [optional_of_not_null (hdoubled.not_scalar _), h.doubled budget hdoubled]
      rfl

theorem hasDefault_optional : HasDefault (.optional inner) (Reader.optional read) none := by
  rintro _ budget a ⟨⟩ hread
  cases hread
  rfl

theorem Follows.list (h : Follows inner read) : Follows (list inner) (Reader.list read) where
  edited := by
    rintro t t' budget a ⟨⟩ hread
    next before after t t' hedit =>
      obtain ⟨budget, hbudget, hread⟩ := Option.bind_eq_some_iff.mp hread
      obtain ⟨hall, rfl⟩ := mapM_eq_some_iff.mp hread
      simp only [List.forall_mem_append, List.forall_mem_cons] at hall
      obtain ⟨b, ht⟩ := Option.isSome_iff_exists.mp hall.2.1
      have ht' := h.edited hedit ht
      refine Option.bind_eq_some_iff.mpr ⟨budget, hbudget, mapM_eq_some_iff.mpr ⟨?_, ?_⟩⟩
      · simp only [List.forall_mem_append, List.forall_mem_cons]
        exact ⟨hall.1, Option.isSome_of_mem ht', hall.2.2⟩
      · rw [List.filterMap_append, List.filterMap_append, List.filterMap_cons_some ht,
          List.filterMap_cons_some ht']
  doubled := by
    rintro t budget ⟨⟩
    next before after t hdoubled =>
      cases hread : Reader.list read budget (.array (before ++ t :: after)) with
      | none => rfl
      | some as =>
        obtain ⟨budget, -, hread⟩ := Option.bind_eq_some_iff.mp hread
        have hall := (mapM_eq_some_iff.mp hread).1 t (by simp)
        rw [h.doubled budget hdoubled] at hall
        cases hall

theorem hasDefault_list : HasDefault (.list inner) (Reader.list read) [] := by
  rintro _ budget a ⟨⟩ hread
  obtain ⟨budget, hbudget, hread⟩ := Option.bind_eq_some_iff.mp hread
  cases hread
  rfl

end

/-! ## Records -/

/-- What is given for a field before and after an edit of the record. -/
inductive FieldEdit (field : Schema) : Option Tree → Option Tree → Prop
  | same (o : Option Tree) : FieldEdit field o o
  | edited {t t' : Tree} : Edit field t t' → FieldEdit field (some t) (some t')
  | dropped {t : Tree} : IsDefault field t → FieldEdit field (some t) none

/-- The given fields before and after an edit of the record. -/
structure Alike (fields : List (String × Schema)) (r r' : Record) : Prop where
  budget : r'.budget = r.budget
  field : ∀ {name field}, (name, field) ∈ fields →
    FieldEdit field (r.given.lookup name) (r'.given.lookup name)

theorem eq_of_mem (hnodup : (fields.map Prod.fst).Nodup) {name : String} {f g : Schema}
    (hf : (name, f) ∈ fields) (hg : (name, g) ∈ fields) : f = g := by
  have hlookup := (lookup_eq_some_iff_mem hnodup).mpr hf
  rw [(lookup_eq_some_iff_mem hnodup).mpr hg] at hlookup
  exact (Option.some.inj hlookup).symm

/-- An edit changes what is given for one field at most. -/
theorem fieldEdit_update {look : String → Option Tree} {name : String} {field : Schema}
    {o : Option Tree} (hnodup : (fields.map Prod.fst).Nodup) (hmem : (name, field) ∈ fields)
    (hedit : FieldEdit field (look name) o) {key : String} {f : Schema} (hkey : (key, f) ∈ fields) :
    FieldEdit f (look key) (Function.update look name o key) := by
  by_cases heq : key = name
  · subst heq
    rw [Function.update_self, eq_of_mem hnodup hkey hmem]
    exact hedit
  · rw [Function.update_of_ne heq]
    exact .same _

theorem Edit.objects (h : Edit (record fields) t t') :
    ∃ members members', t = .object members ∧ t' = .object members' := by
  cases h <;> exact ⟨_, _, rfl, rfl⟩

open Record in
/-- After an edit an object gives for each field what it gave, or what the edit makes of it. -/
theorem Edit.gives {members members' : List (Bytes × Tree)} {look : String → Option Tree}
    (hnodup : (fields.map Prod.fst).Nodup)
    (h : Edit (record fields) (.object members) (.object members'))
    (hgives : Gives (fields.map Prod.fst) members look) :
    ∃ look', Gives (fields.map Prod.fst) members' look' ∧
      ∀ {name field}, (name, field) ∈ fields → FieldEdit field (look name) (look' name) := by
  -- The member that is added, left out or edited is brought to the front.
  cases h with
  | permute hperm =>
    exact ⟨look, hgives.perm hperm, fun _ => .same _⟩
  | @insert _ _ _ _ _ t _ hname hfresh =>
    have hmore := (gives_cons_other (t := t) hname hfresh).mpr hgives
    exact ⟨look, hmore.perm List.perm_middle.symm, fun _ => .same _⟩
  | @drop _ _ _ _ name field t hname hmem hdefault =>
    obtain ⟨rest, hrest, hnone, rfl⟩ :=
      (gives_cons hname (List.mem_map_of_mem hmem)).mp (hgives.perm List.perm_middle)
    refine ⟨rest, hrest, fun hkey => ?_⟩
    have hedit : FieldEdit field (Function.update rest name (some t) name) none := by
      rw [Function.update_self]
      exact .dropped hdefault
    have hlook := fieldEdit_update hnodup hmem hedit hkey
    rwa [Function.update_idem, ← hnone, Function.update_eq_self] at hlook
  | @member _ _ _ _ name field t t' hname hmem hinner =>
    have hname' : name ∈ fields.map Prod.fst := List.mem_map_of_mem hmem
    obtain ⟨rest, hrest, hnone, rfl⟩ :=
      (gives_cons hname hname').mp (hgives.perm List.perm_middle)
    have hmore := (gives_cons (t := t') hname hname').mpr ⟨rest, hrest, hnone, rfl⟩
    refine ⟨Function.update rest name (some t'), hmore.perm List.perm_middle.symm, fun hkey => ?_⟩
    have hedit : FieldEdit field (Function.update rest name (some t) name) (some t') := by
      rw [Function.update_self]
      exact .edited hinner
    have hlook := fieldEdit_update hnodup hmem hedit hkey
    rwa [Function.update_idem] at hlook

/-- What is built from the given fields sees no edit of the record, and cannot be built where what a
field holds has a field twice. -/
structure Builds {α : Type} (fields : List (String × Schema)) (build : Record → Option α) :
    Prop where
  edited : ∀ {r r' a}, Alike fields r r' → build r = some a → build r' = some a
  doubled : ∀ {r name field t}, (name, field) ∈ fields → r.given.lookup name = some t →
    Doubled field t → build r = none

section

variable {α β : Type} {read : Reader α} {build : Record → Option β}

theorem Builds.pure (b : β) : Builds [] fun _ => Pure.pure b := ⟨fun _ h => h, nofun⟩

/-- One field more. -/
theorem Builds.field {name : String} {field : Schema} {default : α} {build : α → Record → Option β}
    (hread : Follows field read) (hdefault : HasDefault field read default)
    (hbuild : ∀ a, Builds fields (build a)) :
    Builds ((name, field) :: fields) fun r => r.field name read default >>= fun a => build a r where
  edited := by
    intro r r' b halike h
    obtain ⟨a, hfield, h⟩ := Option.bind_eq_some_iff.mp h
    have hrest : Alike fields r r' := ⟨halike.budget, fun hmem => halike.field (.tail _ hmem)⟩
    have hfield' : r'.field name read default = some a := by
      have hedit := halike.field (.head _)
      unfold Record.field at hfield ⊢
      generalize r.given.lookup name = o, r'.given.lookup name = o' at hedit hfield
      rw [halike.budget]
      cases hedit with
      | same => exact hfield
      | edited hedit => exact hread.edited hedit hfield
      | dropped hdrop => rw [hdefault _ _ _ hdrop hfield]
    exact Option.bind_eq_some_iff.mpr ⟨a, hfield', (hbuild a).edited hrest h⟩
  doubled := by
    intro r key f t hmem hlookup hdoubled
    refine Option.bind_eq_none_iff.mpr fun a hfield => ?_
    obtain heq | hmem := List.mem_cons.mp hmem
    · cases heq
      rw [Record.field, hlookup] at hfield
      exact absurd (hread.doubled r.budget hdoubled) (by simp [hfield])
    · exact (hbuild a).doubled hmem hlookup hdoubled

/-- One field alone. -/
theorem Builds.only {name : String} {field : Schema} {default : α} (hread : Follows field read)
    (hdefault : HasDefault field read default) :
    Builds [(name, field)] fun r => r.field name read default := by
  simpa only [bind_pure] using Builds.field hread hdefault Builds.pure

/-- What an object gives is read from it, within the budget. -/
theorem read?_object {names : List String} {members : List (Bytes × Tree)} {r : Record} :
    Record.read? names budget (.object members) = some r ↔
      enter? budget = some r.budget ∧ Record.ofMembers? names members = some r.given := by
  obtain ⟨given, inside⟩ := r
  simp only [Record.read?, Option.bind_eq_some_iff, Option.map_eq_some_iff, Record.mk.injEq]
  constructor
  · rintro ⟨_, hbudget, _, hgiven, rfl, rfl⟩
    exact ⟨hbudget, hgiven⟩
  · rintro ⟨hbudget, hgiven⟩
    exact ⟨inside, hbudget, given, hgiven, rfl, rfl⟩

theorem Edit.alike {r : Record} (hnodup : (fields.map Prod.fst).Nodup)
    (h : Edit (record fields) t t')
    (hread : Record.read? (fields.map Prod.fst) budget t = some r) :
    ∃ r', Record.read? (fields.map Prod.fst) budget t' = some r' ∧ Alike fields r r' := by
  obtain ⟨members, members', rfl, rfl⟩ := h.objects
  obtain ⟨hbudget, hgiven⟩ := read?_object.mp hread
  obtain ⟨_, ⟨given', hgiven', rfl⟩, halike⟩ := h.gives hnodup ⟨_, hgiven, rfl⟩
  exact ⟨⟨given', r.budget⟩, read?_object.mpr ⟨hbudget, hgiven'⟩, ⟨rfl, halike⟩⟩

/-- In a record that is read, a field can be given twice only inside of what another holds. -/
theorem Doubled.record {r : Record} (h : Doubled (record fields) t)
    (hread : Record.read? (fields.map Prod.fst) budget t = some r) :
    ∃ name field t, (name, field) ∈ fields ∧ r.given.lookup name = some t ∧ Doubled field t := by
  cases h with
  | here _ _ hname hagain hmem =>
    obtain ⟨-, hgiven⟩ := read?_object.mp hread
    exact absurd ⟨_, hgiven, rfl⟩ (Record.not_gives_doubled hname hagain hmem)
  | @member _ _ _ _ name field t hname hmem hinner =>
    obtain ⟨-, hgiven⟩ := read?_object.mp hread
    have hgives := Record.Gives.perm ⟨_, hgiven, rfl⟩ List.perm_middle
    obtain ⟨rest, -, -, hlook⟩ := (Record.gives_cons hname (List.mem_map_of_mem hmem)).mp hgives
    have hgiven := congrFun hlook name
    rw [Function.update_self] at hgiven
    exact ⟨name, field, t, hmem, hgiven, hinner⟩

theorem Follows.record (hnodup : (fields.map Prod.fst).Nodup) (hbuild : Builds fields build) :
    Follows (record fields) fun budget t =>
      Record.read? (fields.map Prod.fst) budget t >>= build where
  edited := by
    intro t t' budget b hedit h
    obtain ⟨r, hread, h⟩ := Option.bind_eq_some_iff.mp h
    obtain ⟨r', hread', halike⟩ := hedit.alike hnodup hread
    exact Option.bind_eq_some_iff.mpr ⟨r', hread', hbuild.edited halike h⟩
  doubled := by
    intro t budget hdoubled
    refine Option.bind_eq_none_iff.mpr fun r hread => ?_
    obtain ⟨name, field, u, hmem, hlookup, hinner⟩ := hdoubled.record hread
    exact hbuild.doubled hmem hlookup hinner

end

end Schema

end RoomBridge.Json
