import Mathlib.Data.List.Nodup
import Mathlib.Data.List.Perm.Basic
import RoomBridge.Service.Store

/-!
# One table with three keys

The table is a plain list that is searched for one key at a time. It answers as a table with three
unique keys does because no two of its sessions share a key, of whatever kind: insertions see to
that, removals cannot spoil it.

* `Keyed` : no key is shared or blank;
* `Change.apply_keyed`, `applyAll_keyed` : one change, many changes;
* `OneTable` : what lookups, insertions and removals do;
* `oneTable_applyAll` : they do it after any changes of the empty table.
-/

namespace RoomBridge.SessionTable

variable {table : SessionTable} {session : Session}

/-! ## Changes -/

/-- A change that is asked of a table. -/
inductive Change
  | insert (session : Session)
  | remove (businessId : String)

namespace Change

/-- The table after a change. -/
def apply (change : Change) (table : SessionTable) : SessionTable :=
  match change with
  | insert session => (table.insertUnder .obey session).2
  | remove businessId => (table.removeUnder .obey businessId).2

/-- Only sessions without blank keys are inserted. -/
def Keyed : Change → Prop
  | insert session => ∀ key, Text.blank (session.key key) = false
  | remove _ => True

end Change

/-- The table after some changes, one by one. -/
def applyAll (changes : List Change) (table : SessionTable) : SessionTable :=
  changes.foldl (fun table change => change.apply table) table

/-! ## Keys that are shared by no two sessions -/

/-- No two sessions share a key, and none has a blank one. -/
structure Keyed (table : SessionTable) : Prop where
  apart : table.sessions.Pairwise fun s t => ∀ key, s.key key ≠ t.key key
  keys : ∀ s ∈ table.sessions, ∀ key, Text.blank (s.key key) = false

theorem empty_keyed : empty.Keyed := ⟨.nil, fun _ h => absurd h List.not_mem_nil⟩

/-- Any one key tells the sessions apart. -/
theorem Keyed.nodup_map_key (h : table.Keyed) (key : SessionKey) :
    (table.sessions.map (·.key key)).Nodup := by
  rw [List.Nodup, List.pairwise_map]
  exact h.apart.imp fun hkeys => hkeys key

theorem Keyed.eq_of_key_eq (h : table.Keyed) {s t : Session} (hs : s ∈ table.sessions)
    (ht : t ∈ table.sessions) {key : SessionKey} (hkey : s.key key = t.key key) : s = t :=
  List.inj_on_of_nodup_map (h.nodup_map_key key) hs ht hkey

/-! ## Lookups -/

theorem find?_of_not_blank {value : String} (hblank : Text.blank value = false) (key : SessionKey) :
    table.find? key value = .ok (table.sessions.find? fun s => s.key key = value) := by
  rw [find?, if_neg (Bool.eq_false_iff.mp hblank)]

/-- Nothing is found by a key that no session has. -/
theorem find?_eq_none {key : SessionKey} {value : String} (hblank : Text.blank value = false)
    (hnone : ∀ s ∈ table.sessions, s.key key ≠ value) : table.find? key value = .ok none := by
  have hsearch : table.sessions.find? (fun s => s.key key = value) = none := by
    rw [List.find?_eq_none]
    intro s hs
    simpa using hnone s hs
  rw [find?_of_not_blank hblank, hsearch]

/-- What is found is in the table and has the key that was asked for. -/
theorem mem_of_find? {key : SessionKey} {value : String}
    (h : table.find? key value = .ok (some session)) :
    session ∈ table.sessions ∧ session.key key = value := by
  unfold find? at h
  split at h
  · cases h
  · have hsearch := Except.ok.inj h
    exact ⟨List.mem_of_find?_eq_some hsearch, by simpa using List.find?_some hsearch⟩

/-- A session is found by each of its keys. -/
theorem Keyed.find?_key (h : table.Keyed) (hs : session ∈ table.sessions) (key : SessionKey) :
    table.find? key (session.key key) = .ok (some session) := by
  rw [find?_of_not_blank (h.keys session hs key)]
  cases hsearch : table.sessions.find? fun s => s.key key = session.key key with
  | none =>
    have hne := List.find?_eq_none.mp hsearch session hs
    simp at hne
  | some found =>
    have hkey : found.key key = session.key key := by simpa using List.find?_some hsearch
    rw [h.eq_of_key_eq (List.mem_of_find?_eq_some hsearch) hs hkey]

/-! ## Insertions -/

/-- A session none of whose keys is taken comes last; one that shares a key with a session of the
table is refused, and the table stays. -/
theorem insertUnder_free_or_taken (table : SessionTable) (session : Session) :
    (∀ s ∈ table.sessions, ∀ key, s.key key ≠ session.key key) ∧
        table.insertUnder .obey session = (.ok session, ⟨table.sessions ++ [session]⟩) ∨
      (∃ s ∈ table.sessions, ∃ key, s.key key = session.key key) ∧
        ∃ failure, table.insertUnder .obey session = (.error failure, table) := by
  have hfree := conflict?_eq_none_iff table session
  unfold insertUnder insert
  cases hconflict : table.conflict? session with
  | none => exact Or.inl ⟨hfree.mp hconflict, rfl⟩
  | some key =>
    rw [hconflict] at hfree
    simp only [reduceCtorEq, false_iff, not_forall, not_not, exists_prop] at hfree
    exact Or.inr ⟨hfree, _, rfl⟩

/-! ## Removals -/

theorem removeUnder_of_blank {businessId : String} (hblank : Text.blank businessId = true) :
    table.removeUnder .obey businessId =
      (.error (.missingField SessionKey.businessId.label), table) := by
  rw [removeUnder, remove, if_pos hblank]
  exact nofun

theorem removeUnder_of_not_blank {businessId : String} (hblank : Text.blank businessId = false) :
    table.removeUnder .obey businessId =
      (.ok (), ⟨table.sessions.filter fun s => s.businessId ≠ businessId⟩) := by
  rw [removeUnder, remove, if_neg (Bool.eq_false_iff.mp hblank)]
  exact nofun

/-- No session has a blank account, so whatever is removed the other sessions stay. -/
theorem Keyed.sessions_removeUnder (h : table.Keyed) (businessId : String) :
    (table.removeUnder .obey businessId).2.sessions =
      table.sessions.filter fun s => s.businessId ≠ businessId := by
  by_cases hblank : Text.blank businessId = true
  · rw [removeUnder_of_blank hblank, List.filter_eq_self.mpr]
    intro s hs
    have hkey : Text.blank s.businessId = false := h.keys s hs .businessId
    have hne : s.businessId ≠ businessId := fun heq => by simp [heq, hblank] at hkey
    simpa using hne
  · rw [removeUnder_of_not_blank (Bool.eq_false_iff.mpr hblank)]

/-! ## What changes keep -/

theorem Keyed.filter (h : table.Keyed) (p : Session → Bool) :
    Keyed ⟨table.sessions.filter p⟩ :=
  ⟨h.apart.filter p, fun s hs => h.keys s (List.mem_of_mem_filter hs)⟩

theorem Keyed.append (h : table.Keyed)
    (hfree : ∀ s ∈ table.sessions, ∀ key, s.key key ≠ session.key key)
    (hkeys : ∀ key, Text.blank (session.key key) = false) :
    Keyed ⟨table.sessions ++ [session]⟩ where
  apart := by
    rw [List.pairwise_append]
    refine ⟨h.apart, List.pairwise_singleton _ _, fun s hs t ht => ?_⟩
    rw [List.mem_singleton.mp ht]
    exact hfree s hs
  keys := List.forall_mem_append.mpr ⟨h.keys, List.forall_mem_singleton.mpr hkeys⟩

/-- A change leaves the keys of a table unshared. -/
theorem Change.apply_keyed {change : Change} (hchange : change.Keyed) (h : table.Keyed) :
    (change.apply table).Keyed := by
  cases change with
  | insert session =>
    rw [apply]
    rcases insertUnder_free_or_taken table session with ⟨hfree, hrun⟩ | ⟨-, failure, hrun⟩
    · rw [hrun]
      exact h.append hfree hchange
    · rw [hrun]
      exact h
  | remove businessId =>
    have hnext : (remove businessId).apply table =
        ⟨table.sessions.filter fun s => s.businessId ≠ businessId⟩ :=
      congrArg SessionTable.mk (h.sessions_removeUnder businessId)
    rw [hnext]
    exact h.filter _

/-- Many changes leave them so. -/
theorem applyAll_keyed {changes : List Change} (hchanges : ∀ change ∈ changes, change.Keyed)
    (h : table.Keyed) : (applyAll changes table).Keyed := by
  induction changes generalizing table with
  | nil => exact h
  | cons change changes ih =>
    rw [List.forall_mem_cons] at hchanges
    exact ih hchanges.2 (Change.apply_keyed hchanges.1 h)

/-! ## One table -/

/-- `next` is `table` without the session of an account. -/
structure Without (table next : SessionTable) (businessId : String) : Prop where
  /-- All other sessions stay, in their order. -/
  sessions_eq : next.sessions = table.sessions.filter fun s => s.businessId ≠ businessId
  /-- There was one session of the account, if any. -/
  one : ∀ s ∈ table.sessions, s.businessId = businessId → table.sessions.Perm (s :: next.sessions)
  /-- Its keys are free. -/
  frees : ∀ s ∈ table.sessions, s.businessId = businessId →
    ∀ key, next.find? key (s.key key) = .ok none
  /-- Whoever asked for another session still finds it. -/
  keeps : ∀ key value s, table.find? key value = .ok (some s) → s.businessId ≠ businessId →
    next.find? key value = .ok (some s)

/-- What a table with three unique keys does. -/
structure OneTable (table : SessionTable) : Prop where
  /-- A session is found by each of its keys. -/
  found : ∀ s ∈ table.sessions, ∀ key, table.find? key (s.key key) = .ok (some s)
  /-- Nothing is found by any other key. -/
  missing : ∀ key value, Text.blank value = false → (∀ s ∈ table.sessions, s.key key ≠ value) →
    table.find? key value = .ok none
  /-- A session is inserted, and added to the others, just if none of its keys is taken. -/
  inserted_iff : ∀ session,
    table.insertUnder .obey session = (.ok session, ⟨table.sessions ++ [session]⟩) ↔
      ∀ s ∈ table.sessions, ∀ key, s.key key ≠ session.key key
  /-- It is refused if one is, and that changes nothing. -/
  refused_iff : ∀ session,
    (∃ failure, table.insertUnder .obey session = (.error failure, table)) ↔
      ∃ s ∈ table.sessions, ∃ key, s.key key = session.key key
  /-- A removal takes out the session of the account. -/
  removed : ∀ businessId, table.Without (table.removeUnder .obey businessId).2 businessId
  /-- It is granted for every account that is not blank, with a session or without. -/
  granted_iff : ∀ businessId, (table.removeUnder .obey businessId).1 = .ok () ↔
    Text.blank businessId = false
  /-- Removing an account again does nothing more. -/
  again : ∀ businessId, (table.removeUnder .obey businessId).2.removeUnder .obey businessId =
    table.removeUnder .obey businessId

/-- A session that leaves a table is the one of its account. -/
theorem Keyed.perm_filter (h : table.Keyed) (hs : session ∈ table.sessions) :
    table.sessions.Perm
      (session :: table.sessions.filter fun s => s.businessId ≠ session.businessId) := by
  obtain ⟨before, after, hsplit⟩ := List.append_of_mem hs
  have hnodup : ((before ++ session :: after).map (·.key .businessId)).Nodup :=
    hsplit ▸ h.nodup_map_key .businessId
  rw [List.map_append, List.map_cons, List.nodup_middle, List.nodup_cons] at hnodup
  have hothers : ∀ s ∈ before ++ after, s.businessId ≠ session.businessId := fun s hs heq =>
    hnodup.1 (List.map_append ▸ List.mem_map.mpr ⟨s, hs, heq⟩)
  have hkept : table.sessions.filter (fun s => s.businessId ≠ session.businessId) =
      before ++ after := by
    rw [hsplit, List.filter_append, List.filter_cons_of_neg (by simp), ← List.filter_append,
      List.filter_eq_self]
    simpa using hothers
  rw [hkept, hsplit]
  exact List.perm_middle

theorem Keyed.without_removeUnder (h : table.Keyed) (businessId : String) :
    table.Without (table.removeUnder .obey businessId).2 businessId := by
  have hnext := h.sessions_removeUnder businessId
  have hkeyed : (table.removeUnder .obey businessId).2.Keyed :=
    @Change.apply_keyed table (.remove businessId) trivial h
  generalize (table.removeUnder .obey businessId).2 = next at hnext hkeyed
  refine ⟨hnext, ?_, ?_, ?_⟩
  · rintro s hs rfl
    rw [hnext]
    exact h.perm_filter hs
  · rintro s hs rfl key
    refine find?_eq_none (h.keys s hs key) fun t ht hkey => ?_
    rw [hnext, List.mem_filter] at ht
    obtain rfl := h.eq_of_key_eq ht.1 hs hkey
    simp at ht
  · intro key value s hfind hother
    obtain ⟨hs, rfl⟩ := mem_of_find? hfind
    refine hkeyed.find?_key ?_ key
    rw [hnext, List.mem_filter]
    exact ⟨hs, by simpa using hother⟩

/-- A removal from what a removal leaves finds nothing to do. -/
theorem removeUnder_removeUnder (table : SessionTable) (businessId : String) :
    (table.removeUnder .obey businessId).2.removeUnder .obey businessId =
      table.removeUnder .obey businessId := by
  by_cases hblank : Text.blank businessId = true
  · rw [removeUnder_of_blank hblank, removeUnder_of_blank hblank]
  · have hsome := Bool.eq_false_iff.mpr hblank
    rw [removeUnder_of_not_blank hsome, removeUnder_of_not_blank hsome, List.filter_filter]
    simp only [Bool.and_self]

/-- **One table with three keys.** After any insertions and removals, granted or refused, that begin
with the empty table, every session is found by each of its three keys, and nothing by any other; a
session is inserted just if none of its keys is taken by a session of the table, and refused without
a change otherwise; a removal takes out the session of its account alone, frees its keys, leaves
every other answer, and done twice is done once. -/
theorem oneTable_applyAll (changes : List Change) (h : ∀ change ∈ changes, change.Keyed) :
    OneTable (applyAll changes .empty) := by
  have hkeyed := applyAll_keyed h empty_keyed
  generalize applyAll changes .empty = table at hkeyed
  have hend := insertUnder_free_or_taken table
  exact {
    found := fun s hs => hkeyed.find?_key hs
    missing := fun key value => find?_eq_none
    inserted_iff := by
      intro session
      rcases hend session with ⟨hfree, hrun⟩ | ⟨⟨s, hs, key, htaken⟩, failure, hrun⟩
      · exact ⟨fun _ => hfree, fun _ => hrun⟩
      · rw [hrun]
        exact ⟨nofun, fun hfree => absurd htaken (hfree s hs key)⟩
    refused_iff := by
      intro session
      rcases hend session with ⟨hfree, hrun⟩ | ⟨htaken, hrun⟩
      · rw [hrun]
        exact ⟨nofun, fun ⟨s, hs, key, htaken⟩ => absurd htaken (hfree s hs key)⟩
      · exact ⟨fun _ => htaken, fun _ => hrun⟩
    removed := hkeyed.without_removeUnder
    granted_iff := by
      intro businessId
      cases hblank : Text.blank businessId with
      | true => simp [removeUnder_of_blank hblank]
      | false => simp [removeUnder_of_not_blank hblank]
    again := removeUnder_removeUnder table }

/-- A session that is refused for two others at once, and inserted when one of them has gone. -/
def trialChanges : List Change :=
  let session (businessId phoneId identity : String) : Session :=
    ⟨businessId, phoneId, "token", "App", identity, none⟩
  [.insert (session "W1" "P1" "@a"), .insert (session "W2" "P2" "@b"),
    .insert (session "W3" "P1" "@b"), .remove "W1", .insert (session "W1" "P3" "@b"),
    .insert (session "W3" "P1" "@a")]

theorem oneTable_applyAll_trial :
    (∀ change ∈ trialChanges, change.Keyed) ∧
      (applyAll trialChanges .empty).sessions.map (·.businessId) = ["W2", "W3"] ∧
      OneTable (applyAll trialChanges .empty) := by
  have hkeyed : ∀ change ∈ trialChanges, change.Keyed := by
    simp only [trialChanges, List.forall_mem_cons, Change.Keyed]
    refine ⟨?_, ?_, ?_, trivial, ?_, ?_, nofun⟩ <;> intro key <;> cases key <;> decide +kernel
  exact ⟨hkeyed, by decide +kernel, oneTable_applyAll trialChanges hkeyed⟩

end RoomBridge.SessionTable
