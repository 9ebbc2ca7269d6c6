import Mathlib.Data.List.Forall2
import RoomBridge.Proofs.Delivery.Admission
import RoomBridge.Proofs.Parallel

/-!
# Edited bodies

Two bodies of one shape: the same entries for the same accounts, with the same number of changes, of
which a relation holds one by one. Both are accepted or both are refused, for the same reason.

* `Edited` : the relation between bodies;
* `Edited.matched` : what is accepted of the two is related;
* `Edited.dispatch_eq` : an edit that changes nothing for any message changes nothing at all.
-/

namespace RoomBridge

/-- Two changes with the same contacts, and with messages that are the same once `erase` has been
applied to them. -/
def ChangeValue.SameUnder (erase : CloudMessage → CloudMessage) (value changed : ChangeValue) :
    Prop :=
  changed.contacts = value.contacts ∧ changed.messages.map erase = value.messages.map erase

theorem ChangeValue.SameUnder.messages {erase : CloudMessage → CloudMessage}
    {value changed : ChangeValue} (h : value.SameUnder erase changed) :
    List.Forall₂ (fun m n => erase n = erase m) value.messages changed.messages := by
  have hmap : List.Forall₂ (fun a b => b = a) (value.messages.map erase)
      (changed.messages.map erase) := by
    rw [h.2]
    exact List.forall₂_same.mpr fun _ _ => rfl
  simpa only [List.forall₂_map_left_iff, List.forall₂_map_right_iff] using hmap

namespace Delivery

/-- Two bodies that are read, of one shape, with changes of which `R` holds. -/
def Edited (R : ChangeValue → ChangeValue → Prop) (body edited : Bytes) : Prop :=
  ∃ before after, Envelope.ofJson? body = some before ∧ Envelope.ofJson? edited = some after ∧
    List.Forall₂ (fun entry changed => changed.id = entry.id ∧
      List.Forall₂ (fun c d : Change => R c.value d.value) entry.changes changed.changes)
      before.entries after.entries

variable {R : ChangeValue → ChangeValue → Prop} {body edited : Bytes}

/-- Two deliveries that are for the same account and related. -/
def Accepted.Edited (R : ChangeValue → ChangeValue → Prop) (accepted changed : Accepted) : Prop :=
  changed.businessId = accepted.businessId ∧ R accepted.value changed.value

theorem Edited.matched (h : Edited R body edited)
    (hlength : ∀ v w, R v w → w.messages.length = v.messages.length) :
    Matched (Accepted.Edited R) (accept body) (accept edited) := by
  obtain ⟨⟨object, entries⟩, ⟨object', entries'⟩, hbody, hedited, hentries⟩ := h
  unfold accept acceptEnvelope
  rw [hbody, hedited]
  dsimp only at hentries ⊢
  -- Both have no entry, one or several; and if one, then in this no change, one or several.
  cases hentries with
  | nil => exact .failed _
  | @cons entry changed _ _ hentry hrest =>
    cases hrest with
    | cons _ _ => exact .failed _
    | nil =>
      obtain ⟨id, changes⟩ := entry
      obtain ⟨id', changes'⟩ := changed
      obtain ⟨rfl, hchanges⟩ := hentry
      dsimp only at hchanges ⊢
      cases hchanges with
      | nil => exact .failed _
      | @cons c d _ _ hvalue hmore =>
        cases hmore with
        | cons _ _ => exact .failed _
        | nil =>
          have hempty : d.value.messages.isEmpty = c.value.messages.isEmpty := by
            rw [Bool.eq_iff_iff, List.isEmpty_iff_length_eq_zero, List.isEmpty_iff_length_eq_zero,
              hlength _ _ hvalue]
          dsimp only
          rw [hempty]
          split
          · exact .failed _
          · exact .passed ⟨rfl, hvalue⟩

/-- What two bodies bring to the same account makes an edit. -/
theorem edited_of_brings {businessId : String} {value changed : ChangeValue}
    (h : Brings body businessId value) (h' : Brings edited businessId changed)
    (hR : R value changed) : Edited R body edited := by
  obtain ⟨object, field, hbody, -⟩ := h
  obtain ⟨object', field', hedited, -⟩ := h'
  exact ⟨_, _, hbody, hedited, .cons ⟨rfl, .cons hR .nil⟩ .nil⟩

/-! ## Edits that change nothing -/

/-- Two messages, of two changes, that are delivered alike. -/
def DeliveredAlike (settings : Settings) (value changed : ChangeValue) (m n : CloudMessage) :
    Prop :=
  ∀ session portals, deliverMessage settings session changed portals n =
    deliverMessage settings session value portals m

variable {settings : Settings} {value changed : ChangeValue}

/-- A message is delivered by the contact of its sender. -/
theorem deliveredAlike_of_contact {m : CloudMessage}
    (h : changed.contactOf? m.sender = value.contactOf? m.sender) :
    DeliveredAlike settings value changed m m := by
  intro session portals
  have hname : profileName? changed m.sender = profileName? value m.sender := by
    rw [profileName?, h, profileName?]
  unfold deliverMessage
  rw [hname]

theorem deliverAll_eq {ms ns : List CloudMessage}
    (h : List.Forall₂ (DeliveredAlike settings value changed) ms ns) (session : Session)
    (businessId : String) (portals : Portals) :
    deliverAll settings session businessId changed portals ns =
      deliverAll settings session businessId value portals ms := by
  induction h generalizing portals with
  | nil => rfl
  | cons hm _ ih => simp only [deliverAll, hm session portals, ih]

theorem Edited.dispatch_eq (h : Edited R body edited)
    (halike : ∀ v w, R v w →
      List.Forall₂ (DeliveredAlike settings v w) v.messages w.messages) :
    dispatch settings edited = dispatch settings body := by
  have hlength : ∀ v w, R v w → w.messages.length = v.messages.length := fun v w hR =>
    (halike v w hR).length_eq.symm
  have haccept := h.matched hlength
  unfold dispatch
  generalize accept body = r, accept edited = q at haccept ⊢
  cases haccept with
  | failed failure => rfl
  | @passed accepted changed hR =>
    obtain ⟨hid, hR⟩ := hR
    simp only [dispatchAccepted, hid, deliverAll_eq (halike _ _ hR), hlength _ _ hR]

end Delivery

end RoomBridge
